import FixedWidth.Proofs.Command.Exit
import FixedWidth.Proofs.Record.Fault
import FixedWidth.Proofs.Record.Split

/-!
# Decoding the records of a dataset

The records of a dataset are decoded one after the other, and none of them is shown before all
that were asked for have been decoded. So the command is a list of steps followed by a single
answer, and comes to one of two things. If each record is decoded, the answer has them all, in
order. If one is not, then the first such record decides what the command comes to, and there is
no answer (`FixedWidth.Command.outcomeOf_recordDecode`).

Whether the fault of that record is reported depends on its family. A number that is none is a
field fault. Bytes for which the codec has no characters are not, and they end the command
before it comes to a later record that would have been reported.

An answer is given to a console, and what the console shows of it is the console's own affair:
`FixedWidth.Command.emitted` is what is handed over. A file gets the records as they are, and
gets them before the console is told so. Neither gets anything if a record has half of a
surrogate pair, which a codec can give and a JSON text cannot hold.
-/

namespace FixedWidth.Command

open Copybook (Field)
open Record (IsDecodeFault)

variable {α β : Type} {host : Host} {files files' : Files} {copybook data page : String}
  {fields : List Field} {length : Nat} {dataset dataset' : List UInt8} {maxRecords : Int}
  {target : Option String} {before after : List (List UInt8)} {body : List UInt8} {f : Fault}
  {words : List String} {i : Invocation}

/-! ### What is asked for -/

/-- **The files of a dataset**: a copybook whose records have the layout and some bytes, and the
bytes of the dataset. -/
structure Holds (files : Files) (copybook data : String) (fields : List Field) (length : Nat)
    (dataset : List UInt8) : Prop where
  copybook : ∃ bytes text, Entries.get? files (normalizePath copybook) = some bytes ∧
    textOfFile bytes = .ok text ∧ Copybook.read (String.ofList text) = fields
  length_eq : Record.length fields = .ok length
  pos : 0 < length
  data : Entries.get? files (normalizePath data) = some dataset

/-- How many records are decoded: as many as the dataset has whole ones, and at most the count
that was given, where a count below zero is none. -/
def asked (maxRecords : Int) (length size : Nat) : Nat :=
  min (max maxRecords 0).toNat (size / length)

end FixedWidth.Command
