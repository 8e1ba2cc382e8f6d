import FixedWidth.Entries
import FixedWidth.Moment
import FixedWidth.Number.Binary64
import FixedWidth.Text.Quoted

/-!
# Values

What a caller may hand over where a field's content is expected, and what a
screen definition may hold: nothing, a truth value, a number of one of four
kinds, a text, a day or time, or a list or record of such. Most operations take
only some of these and have a fault for the rest; that is why the kinds are kept
apart here and not converted on the way in.

In a record all names are texts. A table is what some documents can hold in its
place: there other values can stand as names, too.

A value has a plain text (`text`), which is what a field shows of it, and a
quoted one (`quoted`), which is what a message shows of it. They differ for
texts, for moments and for the two kinds of decimal only.
-/

namespace FixedWidth

/-- A value of one of the kinds that callers hand over. -/
inductive Value where
  | null
  | truth (b : Bool)
  | integer (z : Int)
  | double (x : Binary64)
  | scientific (x : Scientific)
  | decimal (d : Decimal)
  | text (s : String)
  | moment (m : Moment)
  | list (items : List Value)
  /-- Named values, in the order in which the names were first given. -/
  | record (entries : List (String × Value))
  /-- Values under values that are not all texts, in the same order. -/
  | table (entries : List (Value × Value))
deriving Inhabited

namespace Value

/-- The name of a value's kind, as messages give it. -/
def kindName : Value → String
  | null => "NoneType"
  | truth _ => "bool"
  | integer _ => "int"
  | double _ => "float"
  | scientific _ => "Decimal"
  | decimal _ => "DecimalValue"
  | text _ => "str"
  | moment m => if m.time.isSome then "datetime" else "date"
  | list _ => "list"
  | record _ => "dict"
  | table _ => "dict"

/-- The spelling of a truth value. -/
def truthName (b : Bool) : String :=
  if b then "True" else "False"

mutual
/-- A value as a message shows it. -/
def quoted : Value → String
  | null => "None"
  | truth b => truthName b
  | integer z => toString z
  | double x => String.ofList x.text
  | scientific x => "Decimal(" ++ Text.quotedString (String.ofList x.text) ++ ")"
  | decimal d => "DecimalValue(" ++ Text.quotedString d.toText ++ ")"
  | text s => Text.quotedString s
  | moment m => m.quoted
  | list items => "[" ++ String.intercalate ", " (quotedItems items) ++ "]"
  | record entries => "\x7b" ++ String.intercalate ", " (quotedEntries entries) ++ "\x7d"
  | table entries => "\x7b" ++ String.intercalate ", " (quotedPairs entries) ++ "\x7d"

/-- The items of a list as a message shows them. -/
def quotedItems : List Value → List String
  | [] => []
  | v :: vs => quoted v :: quotedItems vs

/-- The entries of a record as a message shows them. -/
def quotedEntries : List (String × Value) → List String
  | [] => []
  | (name, v) :: rest => (Text.quotedString name ++ ": " ++ quoted v) :: quotedEntries rest

/-- The entries of a table as a message shows them. -/
def quotedPairs : List (Value × Value) → List String
  | [] => []
  | (key, v) :: rest => (quoted key ++ ": " ++ quoted v) :: quotedPairs rest
end

/-- A value as a field shows it. -/
def toText : Value → String
  | text s => s
  | decimal d => d.toText
  | scientific x => String.ofList x.text
  | moment m => m.text
  | v => v.quoted

/-- Whether a value counts as true: nothing, zero and whatever is empty do not;
a decimal of fixed scale always does, and so does a moment. -/
def isTrue : Value → Bool
  | null => false
  | truth b => b
  | integer z => z != 0
  | double x => !x.isZero
  | scientific x => !x.isZero
  | decimal _ => true
  | text s => !s.isEmpty
  | moment _ => true
  | list items => !items.isEmpty
  | record entries => !entries.isEmpty
  | table entries => !entries.isEmpty

/-- The value, or another where it does not count as true. -/
def orElse (v other : Value) : Value :=
  if v.isTrue then v else other

/-- The values that a value consists of when it is gone through: the characters
of a text, the items of a list, the names of a record or table. -/
def items? : Value → Option (List Value)
  | text s => some (s.toList.map fun c => text (String.singleton c))
  | list items => some items
  | record entries => some (entries.map fun entry => text entry.1)
  | table entries => some (entries.map (·.1))
  | _ => none

/-! ### Tables -/

/-- Whether a value can stand as a name, which what has parts cannot. -/
def isKey : Value → Bool
  | list _ => false
  | record _ => false
  | table _ => false
  | _ => true

/-- The number that a value is compared as among names. -/
def keyNumber? : Value → Option Int
  | truth b => some (if b then 1 else 0)
  | integer z => some z
  | double x => x.toInt?
  | _ => none

/-- Whether two values are the same name: numbers of whatever kind by what they
are, other values by kind and content. -/
def sameKey (a b : Value) : Bool :=
  match a.keyNumber?, b.keyNumber? with
  | some m, some n => m == n
  | none, none =>
    match a, b with
    | null, null => true
    | text s, text t => s == t
    | moment m, moment n => m.same n
    | double x, double y => x == y && x != .notNumber
    | _, _ => false
  | _, _ => false

/-- Gives a name a value: in the place where the name stands, or at the end. -/
def insertKey (key v : Value) : List (Value × Value) → List (Value × Value)
  | [] => [(key, v)]
  | entry :: rest =>
    if entry.1.sameKey key then (entry.1, v) :: rest else entry :: insertKey key v rest

/-- The name of an entry whose name is a text. -/
def namedEntry? : Value × Value → Option (String × Value)
  | (text name, v) => some (name, v)
  | _ => none

/-- The value that entries make up, of which later ones take the place of
earlier ones of the same name: a record if all names are texts. -/
def ofPairs (pairs : List (Value × Value)) : Value :=
  let entries := pairs.foldl (fun entries pair => insertKey pair.1 pair.2 entries) []
  match entries.mapM namedEntry? with
  | some entries => record entries
  | none => table entries

end Value

/-- The value of a name in a record, nothing where the name is missing. -/
def Value.entry (entries : List (String × Value)) (name : String) : Value :=
  (Entries.get? entries name).getD .null

end FixedWidth
