import FixedWidth.Command.Host
import FixedWidth.Command.Line
import FixedWidth.Document.JsonText
import FixedWidth.Journal
import FixedWidth.Record.Codec
import FixedWidth.Screen.Document

/-!
# Carrying out command lines

What a command line comes to, given the files that are there and what it is
carried out with: an exit code, what is shown, what is written into files, and
what the journal reports. Nothing is read or written here.

A field fault ends a command with one line of error text and exit code 2, and
nothing is printed or written. Other faults are let through with exit code 1.
Exit code 1 is also what a text that fails a picture and values that fail a
screen come to, after their answer has been printed, and what a text comes to
that a console does not take.
-/

namespace FixedWidth.Command

open Journal (Event Notice)

/-- Why a command has no answer of its own. -/
inductive Problem where
  | usage
  /-- An argument is well formed and not acceptable. -/
  | badParameter (text : String)
  /-- A fault that the command lets through. -/
  | fault (f : Fault)
  /-- A console says something against the text that it is given. -/
  | unprinted (reason : String)

/-- What a command line comes to. -/
structure Outcome where
  exitCode : Nat := 0
  /-- What is shown as an answer. -/
  output : String := ""
  /-- What is shown as a fault. -/
  errors : String := ""
  /-- The files written, by path. -/
  written : List (String × String) := []
  problem : Option Problem := none
  events : List Event := []
  /-- Whether the events are to be written as JSON. -/
  eventsAsJson : Bool := false

/-- The wording of a problem. -/
def Problem.text : Problem → String
  | usage => "Usage: packed | zoned | format | picture | record | validate"
  | badParameter text => "Invalid value: " ++ text
  | fault f => f.message?.getD "The input is malformed"
  | unprinted reason => reason

/-- An event as a line for readers. -/
def plainLine (e : Event) : String :=
  String.intercalate " " ([e.level.name, e.name] ++
    e.details.map fun (name, v) => name ++ "=" ++ v.quoted)

/-- The lines that an outcome adds to the journal. -/
def Outcome.journalLines (o : Outcome) : List String :=
  o.events.map fun e =>
    if o.eventsAsJson then Json.write .lenient .compact e.toValue else plainLine e

/-- What a command is stopped by. -/
inductive Stop where
  | badParameter (text : String)
  /-- A field fault that the command reports. -/
  | reported (f : Fault)
  /-- A fault that the command lets through. -/
  | unhandled (f : Fault)

/-- A step of a command whose field faults the command reports. -/
def reporting {α : Type} : Except Fault α → Except Stop α
  | .ok a => .ok a
  | .error f => .error (if f.isFieldFault then .reported f else .unhandled f)

/-- A step of a command whose faults the command lets through. -/
def lettingThrough {α : Type} : Except Fault α → Except Stop α
  | .ok a => .ok a
  | .error f => .error (.unhandled f)

/-- The text that reports a field fault. -/
def reportText (f : Fault) : String :=
  styled .fault (f.reportName?.getD "") ++ ": " ++ f.message?.getD ""

/-- What a command comes to that is stopped. -/
def Stop.outcome (console : Console) : Stop → Outcome
  | badParameter text => { exitCode := 2, problem := some (.badParameter text) }
  | reported f =>
    match console (reportText f) with
    | .ok shown => { exitCode := 2, errors := shown }
    | .error reason => { exitCode := 1, problem := some (.unprinted reason) }
  | unhandled f => { exitCode := 1, problem := some (.fault f) }

/-- What a command has to say that is not stopped. -/
structure Reply where
  exitCode : Nat := 0
  /-- The text that is given to the console. -/
  printed : String
  /-- The files written before, by path. -/
  written : List (String × String) := []

/-- What a command comes to that is not stopped. -/
def Reply.outcome (console : Console) (r : Reply) : Outcome :=
  match console r.printed with
  | .ok shown => { exitCode := r.exitCode, output := shown, written := r.written }
  | .error reason =>
    { exitCode := 1, written := r.written, problem := some (.unprinted reason) }

/-- An answer as it is printed or written into a file. -/
def documentText (v : Value) : Except Stop String :=
  if Json.Dialect.strict.admits v then .ok (Json.write .strict (.indented 0) v)
  else .error (.unhandled .wrongKind)

/-- The reply that gives an answer. -/
def answered (v : Value) (exitCode : Nat := 0) : Except Stop Reply := do
  return { exitCode := exitCode, printed := ← documentText v }

/-! ### Files -/

/-- The files that are there, by path. -/
abbrev Files := List (String × List UInt8)

/-- A path without what does not count in it: repeated slashes, points that
stand for the same place, and a slash at the end. -/
def normalizePath (path : String) : String :=
  let cs := path.toList
  let parts := ((cs.splitOn '/').filter fun part => !part.isEmpty && part != ['.']).map
    String.ofList
  let body := String.intercalate "/" parts
  match cs with
  | '/' :: _ => "/" ++ body
  | _ => if body.isEmpty then "." else body

/-- The bytes of a file, or what the command says where it is not there. -/
def fileBytes (files : Files) (path what : String) : Except Stop (List UInt8) :=
  match Entries.get? files (normalizePath path) with
  | some bytes => .ok bytes
  | none => .error (.badParameter (what ++ " not found: " ++ normalizePath path))

/-! ### Tasks -/

/-- The rounding of a name. -/
def roundingNamed (name : String) : Except Stop Rounding :=
  match Rounding.ofName? name with
  | some mode => .ok mode
  | none => .error (.badParameter ((Fault.roundingName name).message?.getD ""))

/-- A number given as an argument, at a scale and with a rounding. -/
def numberArgument (value : String) (scale : Option Int) (mode : Rounding) :
    Except Stop Decimal :=
  reporting (Decimal.parse (.text value) scale { rounding := mode })

/-- A text as it is printed. -/
def ofChars (cs : List Char) : Value :=
  .text (String.ofList cs)

/-- Bytes as they are printed. -/
def ofBytes (bytes : List UInt8) : Value :=
  ofChars ((Text.hexOfBytes bytes).map Char.toUpper)

/-- Decoding a packed field. -/
def packedDecode (hex : String) (scale : Int) : Except Stop Reply := do
  match Text.readHex hex.toList with
  | .error _ => throw (.badParameter ("Not a hex string: " ++ hex))
  | .ok bytes =>
    let d ← reporting (Packed.decode bytes scale)
    answered (.record [("hex", ofBytes bytes), ("scale", .integer scale),
      ("value", .text d.toText)])

/-- Encoding a packed field. -/
def packedEncode (value : String) (digits : Int) (scale : Option Int) (rounding : String)
    (unsigned : Bool) : Except Stop Reply := do
  let d ← numberArgument value scale (← roundingNamed rounding)
  let bytes ← reporting (Packed.encode d digits unsigned)
  answered (.record [("value", .text d.toText), ("digits", .integer digits),
    ("hex", ofBytes bytes)])

/-- Decoding a zoned field. -/
def zonedDecode (text : String) (scale : Int) (unsigned : Bool) : Except Stop Reply := do
  let d ← reporting (Zoned.decode text.toList scale !unsigned)
  answered (.record [("text", .text text), ("scale", .integer scale),
    ("value", .text d.toText)])

/-- Encoding a zoned field. -/
def zonedEncode (value : String) (digits : Int) (scale : Option Int) (rounding : String)
    (unsigned : Bool) : Except Stop Reply := do
  let d ← numberArgument value scale (← roundingNamed rounding)
  let cs ← reporting (Zoned.encode d digits !unsigned)
  answered (.record [("value", .text d.toText), ("digits", .integer digits),
    ("text", ofChars cs)])

/-- The answer of a command that formats. -/
def formatted (cs : List Char) : Except Stop Reply :=
  answered (.record [("formatted", ofChars cs)])

/-- Formatting a text. -/
def formatText (value : String) (length : Int) (pad : String) : Except Stop Reply := do
  match Display.Pad.ofName? pad with
  | none => throw (.badParameter "pad must be 'right' or 'left'")
  | some pad =>
    formatted (← lettingThrough (Display.formatText (some value.toList) length pad))

/-- Formatting digits. -/
def formatDigits (value : String) (length : Int) (strict : Bool) : Except Stop Reply := do
  formatted (← reporting (Display.formatDigits (.text value) length strict))

/-- Formatting a number. -/
def formatSigned (value : String) (integerDigits fractionDigits : Int) (rounding : String) :
    Except Stop Reply := do
  let mode ← roundingNamed rounding
  let d ← reporting (Decimal.parse (.text value) none {})
  formatted
    (← reporting (Display.formatSigned (.decimal d) integerDigits fractionDigits mode))

/-- A place, or nothing. -/
def ofPlace : Option Nat → Value
  | none => .null
  | some n => .integer n

/-- Matching a text against a picture. -/
def pictureMatch (picture text : String) (expandCounts : Bool) : Except Stop Reply := do
  let clause ← reporting (Picture.compile picture expandCounts)
  let mismatch := clause.firstMismatch? text.toList
  answered (.record [("picture", .text picture), ("width", .integer clause.width),
    ("matches", .truth mismatch.isNone), ("at", ofPlace mismatch)])
    (if mismatch.isNone then 0 else 1)

/-! #### Screens -/

/-- A value of a document as the text that a screen's field has. -/
def asEntered : Value → Value
  | .null => .null
  | v => .text v.toText

/-- The entries of the file of values. -/
def readValues (bytes : List UInt8) : Except Stop (List (String × Value)) := do
  let cs ← lettingThrough ((CodePage.utf8.decode bytes).mapError fun _ => .malformedJson)
  match Json.read? .strict cs with
  | none => throw (.unhandled .malformedJson)
  | some (.record entries) => return entries.map fun (name, v) => (name, asEntered v)
  | some _ => throw (.badParameter "Values file must hold a JSON object")

/-- A failure as it is printed. -/
def ofFailure (f : Screen.Failure) : Value :=
  .record [("field", f.field), ("message", .text f.message),
    ("rule", (f.rule.map Value.text).getD .null)]

/-- Validating values on a screen. -/
def validate (files : Files) (screen values : String) : Except Stop Reply := do
  let document ← lettingThrough
    (Screen.readFile (normalizePath screen) (← fileBytes files screen "Screen config"))
  let config ← lettingThrough (Screen.Config.ofValue document)
  let entered ← readValues (← fileBytes files values "Input file")
  let failures ← lettingThrough (config.validate entered)
  answered (.record [("screen", .text config.name),
    ("failures", .list (failures.map ofFailure))]) (if failures.isEmpty then 0 else 1)

/-! #### Records -/

/-- A decoded record as it is printed. -/
def ofRecord (contents : List (String × Content)) : Value :=
  .record (contents.map fun (name, c) => (name, .text c.toValue.toText))

/-- Decoded records as they are printed or written into a file. -/
def ofRecords (records : List (List (String × Content))) : Value :=
  .list (records.map ofRecord)

/-- The reply after decoding so many records, whose text is printed or written into a
file. -/
def emitted (count : Nat) (text : String) : Option String → Reply
  | none => { printed := text }
  | some path =>
    let path := normalizePath path
    { printed := styled .done "Wrote" ++ s!" {count} records to {path}"
      written := [(path, text)] }

/-- Decoding the first records of a dataset. -/
def recordDecode (host : Host) (files : Files) (copybook data page : String) (maxRecords : Int)
    (output : Option String) : Except Stop Reply := do
  let text ← reporting (textOfFile (← fileBytes files copybook "Copybook"))
  let fields := Copybook.read (String.ofList text)
  let length ← reporting (Record.length fields)
  let bytes ← fileBytes files data "Input file"
  let bodies ← lettingThrough (Record.split bytes length)
  let records ← (bodies.take maxRecords.toNat).mapM fun body =>
    reporting (Record.decode fields body (host.codec page))
  return emitted records.length (← documentText (ofRecords records)) output

/-- **What a command has to say on its task**, the journal aside. -/
def perform (host : Host) (files : Files) : Task → Except Stop Reply
  | .packedDecode hex scale => packedDecode hex scale
  | .packedEncode value digits scale rounding unsigned =>
    packedEncode value digits scale rounding unsigned
  | .zonedDecode text scale unsigned => zonedDecode text scale unsigned
  | .zonedEncode value digits scale rounding unsigned =>
    zonedEncode value digits scale rounding unsigned
  | .formatText value length pad => formatText value length pad
  | .formatDigits value length strict => formatDigits value length strict
  | .formatSigned value integerDigits fractionDigits rounding =>
    formatSigned value integerDigits fractionDigits rounding
  | .pictureMatch picture text expandCounts => pictureMatch picture text expandCounts
  | .validate screen values => validate files screen values
  | .recordDecode copybook data page maxRecords output =>
    recordDecode host files copybook data page maxRecords output

/-! ### The journal -/

/-- What validating values on a screen reports. -/
def noticesOfValidate (files : Files) (screen values : String) : List Notice :=
  let document : Except Stop Value := do
    lettingThrough
      (Screen.readFile (normalizePath screen) (← fileBytes files screen "Screen config"))
  match document with
  | .error _ => []
  | .ok document =>
    Journal.ofConfigValue document ++
      let entered := (fileBytes files values "Input file").bind readValues
      match Screen.Config.ofValue document, entered with
      | .ok config, .ok entered => Journal.ofConfig config entered
      | _, _ => []

/-- What a task reports. -/
def notices (files : Files) : Task → List Notice
  | .formatDigits value length strict => Journal.ofDigits (.text value) length strict
  | .pictureMatch picture _ expandCounts => [.compile ⟨picture, some expandCounts⟩]
  | .validate screen values => noticesOfValidate files screen values
  | _ => []

/-- Which events an invocation reports. -/
def Invocation.threshold (i : Invocation) : Journal.Threshold :=
  if i.verbose then .everything else .warnings

/-- The events that an invocation reports. -/
def Invocation.events (files : Files) (i : Invocation) : List Event :=
  (Journal.replay [] (notices files i.task)).1.filter i.threshold.admits

/-- **What a task comes to**, the journal aside. -/
def outcomeOf (host : Host) (files : Files) (task : Task) : Outcome :=
  match perform host files task with
  | .ok reply => reply.outcome host.output
  | .error stop => stop.outcome host.errors

/-- **What the words of a command line come to.** -/
def run (host : Host) (files : Files) (words : List String) : Outcome :=
  match readInvocation words with
  | .error .help => {}
  | .error .usage => { exitCode := 2, problem := some .usage }
  | .ok i =>
    { outcomeOf host files i.task with events := i.events files, eventsAsJson := i.logJson }

end FixedWidth.Command
