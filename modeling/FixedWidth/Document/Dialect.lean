import FixedWidth.Value

/-!
# Dialects of JSON

Documents in JSON are read and written in two dialects. The *lenient* one has
integers of any size, infinities and non-numbers by name, halves of surrogate
pairs, and any depth. The *strict* one has integers of 64 bits, no name for what
is no finite number, whole characters only, and a greatest depth.

Reading and writing ask the same record, so that a dialect is described once.
`Dialect.admits` says which values a dialect has a text for.
-/

namespace FixedWidth.Json

/-- How deep lists and records may be nested; any depth where nothing is given. -/
structure DepthLimit where
  deepest : Option Nat

/-- Whether a depth is within the limit. -/
def DepthLimit.admits (limit : DepthLimit) (depth : Nat) : Bool :=
  match limit.deepest with
  | none => true
  | some deepest => depth ≤ deepest

/-- What documents may hold, and how doubles are written in them. -/
structure Dialect where
  /-- Whether infinities and non-numbers can be written by name. -/
  namedNumbers : Bool
  /-- Whether integers have any size. -/
  wideIntegers : Bool
  /-- Whether a half of a surrogate pair can stand alone. -/
  halves : Bool
  style : Binary64.Style
  /-- What stands between the day and the time of a moment. -/
  momentMark : String
  depthRead : DepthLimit
  depthWritten : DepthLimit

/-- Everything that has a name. -/
def Dialect.lenient : Dialect := ⟨true, true, true, .usual, " ", ⟨none⟩, ⟨none⟩⟩

/-- What other programs read without loss. Doubles are positional from one
hundred-thousandth up to sixteen digits before the point. -/
def Dialect.strict : Dialect :=
  ⟨false, false, false, ⟨-4, 16, 1⟩, "T", ⟨some 1024⟩, ⟨some 254⟩⟩

/-- Whether an integer is one of 64 bits, with a sign or without. -/
def isNarrow (z : Int) : Bool :=
  -(Nat.pow 2 63 : Int) ≤ z && z < (Nat.pow 2 64 : Int)

/-- Whether the dialect has a text's characters. -/
def Dialect.admitsText (dialect : Dialect) (s : String) : Bool :=
  dialect.halves || s.toList.all fun c => (Text.half? c).isNone

mutual
/-- Whether the dialect has what a value holds, its depth aside. -/
def Dialect.admitsContent (dialect : Dialect) : Value → Bool
  | .integer z => dialect.wideIntegers || isNarrow z
  | .text s => dialect.admitsText s
  | .list items => dialect.admitsItems items
  | .record entries => dialect.admitsEntries entries
  | .table _ => false
  | _ => true

/-- Whether the dialect has the items of a list. -/
def Dialect.admitsItems (dialect : Dialect) : List Value → Bool
  | [] => true
  | v :: vs => dialect.admitsContent v && dialect.admitsItems vs

/-- Whether the dialect has the entries of a record. -/
def Dialect.admitsEntries (dialect : Dialect) : List (String × Value) → Bool
  | [] => true
  | (name, v) :: rest =>
    dialect.admitsText name && dialect.admitsContent v && dialect.admitsEntries rest
end

end FixedWidth.Json

namespace FixedWidth.Value

mutual
/-- How deep lists and records are nested in a value, an empty list counting as
given. -/
def depth (emptyList : Nat) : Value → Nat
  | list [] => emptyList
  | list items => depthOfItems emptyList items + 1
  | record entries => depthOfEntries emptyList entries + 1
  | table entries => depthOfPairs emptyList entries + 1
  | _ => 0

/-- The greatest depth of items. -/
def depthOfItems (emptyList : Nat) : List Value → Nat
  | [] => 0
  | v :: vs => max (depth emptyList v) (depthOfItems emptyList vs)

/-- The greatest depth of entries. -/
def depthOfEntries (emptyList : Nat) : List (String × Value) → Nat
  | [] => 0
  | (_, v) :: rest => max (depth emptyList v) (depthOfEntries emptyList rest)

/-- The greatest depth of a table's entries. -/
def depthOfPairs (emptyList : Nat) : List (Value × Value) → Nat
  | [] => 0
  | (_, v) :: rest => max (depth emptyList v) (depthOfPairs emptyList rest)
end

end FixedWidth.Value

namespace FixedWidth.Json

/-- **Whether the dialect has a text for a value.** -/
def Dialect.admits (dialect : Dialect) (v : Value) : Bool :=
  dialect.admitsContent v && dialect.depthWritten.admits (v.depth 0)

end FixedWidth.Json
