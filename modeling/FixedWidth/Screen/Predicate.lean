import FixedWidth.Number.Literal
import FixedWidth.Picture.Clause
import FixedWidth.Screen.Check

/-!
# Ready-made tests for rules

The four tests that a configuration can name, with their options. They are
written for texts and for nothing; other values are no fault of the
configuration, and a test that meets one may have no answer.
-/

namespace FixedWidth.Screen.Predicate

/-! ### All or none -/

/-- What an incomplete group says. -/
def incompleteMessage : String := "All fields in this group are required when any is provided"

/-- Whether all fields are filled in. -/
def allOrNone : Predicate where
  test values := .ok (if values.any isBlank then .text incompleteMessage else .truth true)

/-! ### Same value -/

/-- A value as it is compared: without white space at its ends, and in upper
case where case does not count. -/
def comparable (ignoreCase : Bool) (v : Value) : Except Fault (List Char) :=
  match filled v with
  | .text s =>
    let cs := Text.trim s.toList
    .ok (if ignoreCase then Text.upper cs else cs)
  | _ => .error .notText

/-- Whether there are texts and all of them are the same. -/
def allSame : List (List Char) → Bool
  | [] => false
  | cs :: rest => rest.all (· = cs)

/-- Whether all fields have the same value. -/
def sameValue (ignoreCase : Bool) : Predicate where
  test values := do
    return .truth (allSame (← values.mapM (comparable ignoreCase)))

/-! ### Order of two numbers -/

/-- Whether the first of two literals is at most the second, or below it where
the order is strict. A fault of a literal is the answer. -/
def inOrder (strict : Bool) (low high : Value) : Value :=
  match Decimal.ofTextValue (filled low) with
  | .error fault => .text (fault.message?.getD "")
  | .ok a =>
    match Decimal.ofTextValue (filled high) with
    | .error fault => .text (fault.message?.getD "")
    | .ok b => .truth (if strict then a.less b else a.atMost b)

/-- Whether two fields are in order; a blank one is in order with any. -/
def decimalOrder (strict : Bool) : Predicate where
  test
    | [low, high] =>
      .ok (if isBlank low || isBlank high then .truth true else inOrder strict low high)
    | _ => .error .wrongKind

/-! ### Matching a picture -/

/-- Whether a value matches a clause, which is asked of texts. -/
def matchesClause (clause : Picture.Clause) (v : Value) : Except Fault Bool :=
  if isBlank v then .ok true
  else
    match filled v with
    | .text s => .ok (clause.accepts s.toList)
    | _ => .error .wrongKind

/-- Whether all values match a clause, as far as they are filled in. -/
def allMatch (clause : Picture.Clause) : List Value → Except Fault Value
  | [] => .ok (.truth true)
  | v :: vs => do
    if ← matchesClause clause v then allMatch clause vs
    else return .text (pictureMessage clause.picture)

/-- Whether all fields that are filled in match a picture. -/
def matchesPicture (picture : String) : Except Fault Predicate := do
  let clause ← Picture.compile picture false
  return { test := allMatch clause, picture := some picture }

/-! ### By name -/

/-- The names of the tests, in order. -/
def names : List String := ["all_or_none", "decimal_order", "matches_picture", "same_value"]

/-- The value of the one option that a test has, `fallback` where it is not
given. -/
def soleOption (name : String) (fallback : Value) (options : List (String × Value)) :
    Except Fault Value :=
  if options.all fun option => option.1 = name then
    .ok ((Entries.get? options name).getD fallback)
  else .error .wrongKind

/-- The test of a name with its options; `none` where the name is no test's. -/
def ofName? (name : String) (options : List (String × Value)) : Option (Except Fault Predicate) :=
  if name = "all_or_none" then
    some (if options.isEmpty then .ok allOrNone else .error .wrongKind)
  else if name = "decimal_order" then
    some ((soleOption "strict" (.truth false) options).map fun v => decimalOrder v.isTrue)
  else if name = "matches_picture" then
    some (do
      match ← soleOption "picture" .null options with
      | .text picture => matchesPicture picture
      | _ => throw .wrongKind)
  else if name = "same_value" then
    some ((soleOption "ignore_case" (.truth false) options).map fun v => sameValue v.isTrue)
  else none

end FixedWidth.Screen.Predicate
