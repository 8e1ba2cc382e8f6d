import FixedWidth.Fault
import FixedWidth.Text.Blank

/-!
# Rules over several fields

A rule names fields and tests their values together. It is only asked where at
least one of its fields is filled. What the test answers decides: true or
nothing passes, a text fails with that text, and what counts as false fails with
the rule's own message. A test that cannot be carried out fails with a general
message and never stops the others.
-/

namespace FixedWidth.Screen

/-- A check that failed. -/
structure Failure where
  /-- The field it is shown at. -/
  field : Value
  message : String
  /-- The rule that failed, where it is not a check of one field. -/
  rule : Option String

/-- Whether a value counts as not filled in. -/
def isBlank : Value → Bool
  | .null => true
  | .text s => (Text.trim s.toList).isEmpty
  | _ => false

/-- A test on the values of a rule's fields. -/
structure Predicate where
  test : List Value → Except Fault Value
  /-- The picture that was compiled for the test, if there was one. -/
  picture : Option String := none

/-- A rule over several fields. -/
structure Rule where
  name : String
  fields : List String
  predicate : Predicate
  message : String
  /-- The field at which a failure is shown; the first one where nothing is
  given. -/
  primaryField : Value
  fields_ne_nil : fields ≠ []

namespace Rule

/-- What a failure says where a rule gives no message. -/
def defaultMessage : String := "Invalid field combination"

/-- What a failure says where a test cannot be carried out. -/
def generalMessage : String := "Validation error occurred"

/-- A rule, which has to name a field. -/
def make (name : String) (fields : List String) (predicate : Predicate) (message : String)
    (primaryField : Value) : Except Fault Rule :=
  if h : fields ≠ [] then .ok ⟨name, fields, predicate, message, primaryField, h⟩
  else .error (.ruleWithoutFields name)

/-- The field at which a failure is shown. -/
def target (rule : Rule) : Value :=
  rule.primaryField.orElse (.text (rule.fields.head rule.fields_ne_nil))

/-- The values of the rule's fields. -/
def gather (rule : Rule) (values : List (String × Value)) : List Value :=
  rule.fields.map (Value.entry values)

/-- Whether there is nothing to test. -/
def isSkipped (rule : Rule) (values : List (String × Value)) : Bool :=
  (rule.gather values).all isBlank

/-- The failure with a message. -/
def failure (rule : Rule) (message : String) : Failure :=
  ⟨rule.target, message, some rule.name⟩

/-- What an answer of the test means. -/
def judge (rule : Rule) : Value → Option Failure
  | .null => none
  | .text s => some (rule.failure (if s.isEmpty then rule.message else s))
  | v => if v.isTrue then none else some (rule.failure rule.message)

/-- **The failure of a rule on values**, if it fails. -/
def evaluate (rule : Rule) (values : List (String × Value)) : Option Failure :=
  if rule.isSkipped values then none
  else
    match rule.predicate.test (rule.gather values) with
    | .ok answer => rule.judge answer
    | .error _ => some (rule.failure generalMessage)

/-- The failures of rules, in their order. -/
def evaluateAll (rules : List Rule) (values : List (String × Value)) : List Failure :=
  rules.filterMap fun rule => rule.evaluate values

end Rule

end FixedWidth.Screen
