import FixedWidth.Screen.Check
import FixedWidth.Screen.Predicate

/-!
# Screen configurations

A screen: its name, its fields and its rules, as a configuration describes them.
Validating values gives the failures of the fields, in their order, and then
those of the rules; none of them keeps another from being found.
-/

namespace FixedWidth.Screen

/-- The items of a value that has to consist of items, none where it is empty. -/
def itemsOrNone (v : Value) : Except Fault (List Value) :=
  if !v.isTrue then .ok []
  else
    match v.items? with
    | some items => .ok items
    | none => .error .wrongKind

/-- A pair of a name and a value, given as a thing of two parts. -/
def pairOf (index : Nat) (v : Value) : Except Fault (Value × Value) :=
  match v.items? with
  | none => .error .wrongKind
  | some [a, b] => if a.isKey then .ok (a, b) else .error .wrongKind
  | some parts => .error (.pairLength index parts.length)

/-- The pairs of a list, numbered from the given index. -/
def pairsFrom (index : Nat) : List Value → Except Fault (List (Value × Value))
  | [] => .ok []
  | v :: vs => do
    let pair ← pairOf index v
    return pair :: (← pairsFrom (index + 1) vs)

/-- The options of a rule's test: a record or table, or a list of pairs. -/
def readOptions (v : Value) : Except Fault (List (Value × Value)) :=
  if !v.isTrue then .ok []
  else
    match v with
    | .record entries => .ok (entries.map fun (name, v) => (.text name, v))
    | .table entries => .ok entries
    | v =>
      match v.items? with
      | none => .error .wrongKind
      | some items => pairsFrom 0 items

/-- Options by name, which all of them have to have. -/
def namedOptions (pairs : List (Value × Value)) : Except Fault (List (String × Value)) :=
  match pairs.mapM Value.namedEntry? with
  | some entries => .ok (Entries.ofList entries)
  | none => .error .wrongKind

namespace Rule

/-- What a rule's entries say about its name, its fields and its test. -/
structure Draft where
  kind : String
  fields : List String
  predicate : Predicate
  entries : List (String × Value)

/-- The parts of a rule that a configuration describes. -/
def draft (v : Value) : Except Fault Draft := do
  let entries ← v.toRecord
  let kind := (← Value.require entries "predicate").toText
  if !Predicate.names.contains kind then throw (.predicateName kind Predicate.names)
  let pairs ← readOptions (Value.entry entries "options")
  let some names := (← Value.require entries "fields").items? | throw .wrongKind
  let some predicate := Predicate.ofName? kind (← namedOptions pairs)
    | throw (.predicateName kind Predicate.names)
  return ⟨kind, names.map Value.toText, ← predicate, entries⟩

/-- The rule of its parts. -/
def ofDraft (d : Draft) : Except Fault Rule :=
  let entry := Value.entry d.entries
  make ((entry "name").orElse (.text d.kind)).toText d.fields d.predicate
    ((entry "message").orElse (.text defaultMessage)).toText (entry "primary_field")

/-- **The rule that a configuration describes.** -/
def ofValue (v : Value) : Except Fault Rule := do
  ofDraft (← draft v)

end Rule

/-- A screen. -/
structure Config where
  name : String
  fields : List Definition
  rules : List Rule

namespace Config

/-- **The screen that a configuration describes.** -/
def ofValue (v : Value) : Except Fault Config := do
  let entries ← v.toRecord
  let name := (← Value.require entries "name").toText
  let fields ← (← itemsOrNone (Value.entry entries "fields")).mapM Definition.ofValue
  let rules ← (← itemsOrNone (Value.entry entries "rules")).mapM Rule.ofValue
  return ⟨name, fields, rules⟩

/-- **The failures of values on a screen.** -/
def validate (config : Config) (values : List (String × Value)) : Except Fault (List Failure) := do
  return (← Definition.validateAll values config.fields) ++ Rule.evaluateAll config.rules values

/-- A configuration to begin from. -/
def sample : Value :=
  let field (entries : List (String × Value)) : Value := .record entries
  let names (xs : List String) : Value := .list (xs.map .text)
  .record [
    ("name", .text "COACTUP"),
    ("fields", .list [
      field [("name", .text "acct_id"), ("length", .integer 11), ("picture", .text "99999999999"),
        ("mustfill", .truth true)],
      field [("name", .text "ssn"), ("picture", .text "999-99-9999")],
      field [("name", .text "state"), ("length", .integer 2), ("picture", .text "AA")],
      field [("name", .text "zip"), ("length", .integer 5), ("attributes", .text "NUM,UNPROT")],
      field [("name", .text "status"), ("length", .integer 1),
        ("attributes", .text "ASKIP,BRT")]]),
    ("rules", .list [
      field [("name", .text "state_zip_pair"), ("fields", names ["state", "zip"]),
        ("predicate", .text "all_or_none"), ("primary_field", .text "zip"),
        ("message", .text "State and ZIP code must be provided together")],
      field [("name", .text "credit_limit_order"),
        ("fields", names ["cash_limit", "credit_limit"]),
        ("predicate", .text "decimal_order"),
        ("message", .text "Cash limit cannot exceed credit limit")]])]

end Config

end FixedWidth.Screen
