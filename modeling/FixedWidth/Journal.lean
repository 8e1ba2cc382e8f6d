import FixedWidth.Display.Digits
import FixedWidth.Screen.Config

/-!
# The journal

Besides its answer, an operation can have something to report: that digits were
let go, that a picture matches nothing but the empty text, that a rule was not
asked, or that its test could not be carried out. The answers are computed
without any of this; here it is said, for each operation, what a run of it
reports.

A picture is only compiled, and reported, where no equal request is remembered.
The memory holds a fixed number of requests and forgets the one that was used
longest ago; a compilation that fails is not remembered.
-/

namespace FixedWidth.Journal

/-- How much an event matters. -/
inductive Level where
  | debug
  | warning
deriving DecidableEq, Repr

/-- The written name of a level. -/
def Level.name : Level → String
  | debug => "debug"
  | warning => "warning"

/-- Something worth reporting. -/
inductive Event where
  /-- Leading digits did not fit into a field and were let go. -/
  | digitsDropped (length : Nat) (dropped : String)
  /-- A picture has symbols, and none that stands for a character. -/
  | zeroWidthOnly (picture : String)
  /-- A rule was not asked, since none of its fields is filled in. -/
  | ruleSkipped (rule : String)
  /-- The test of a rule could not be carried out. -/
  | testFailed (rule : String)
deriving DecidableEq, Repr

namespace Event

/-- The name of an event. -/
def name : Event → String
  | digitsDropped _ _ => "pic9_truncated"
  | zeroWidthOnly _ => "picture_zero_width_only"
  | ruleSkipped _ => "rule_skipped"
  | testFailed _ => "rule_predicate_failed"

/-- How much an event matters. -/
def level : Event → Level
  | digitsDropped _ _ => .debug
  | zeroWidthOnly _ => .warning
  | ruleSkipped _ => .debug
  | testFailed _ => .warning

/-- The part of the program that reports an event, by the name it has in
journals. -/
def logger : Event → String
  | digitsDropped _ _ => "cobolfield.display"
  | zeroWidthOnly _ => "cobolfield.picture.matcher"
  | ruleSkipped _ => "cobolfield.validation.engine"
  | testFailed _ => "cobolfield.validation.engine"

/-- What an event says besides its name. -/
def details : Event → List (String × Value)
  | digitsDropped length dropped => [("length", .integer length), ("dropped", .text dropped)]
  | zeroWidthOnly picture => [("picture", .text picture)]
  | ruleSkipped rule => [("rule", .text rule)]
  | testFailed rule => [("rule", .text rule)]

/-- An event as a record. -/
def toValue (e : Event) : Value :=
  .record ([("event", .text e.name), ("level", .text e.level.name), ("logger", .text e.logger)] ++
    e.details)

end Event

/-- Which events are reported: those from a level on, or none. -/
inductive Threshold where
  | silent
  | warnings
  | everything
deriving DecidableEq, Repr

/-- Whether an event is reported. -/
def Threshold.admits : Threshold → Event → Bool
  | silent, _ => false
  | warnings, e => e.level == .warning
  | everything, _ => true

/-! ### Remembered pictures -/

/-- A picture to be compiled. Whether its repeat counts are carried out can be
left open, which then means that they are not; a request that leaves it open is
another request than one that says so. -/
structure Request where
  picture : String
  expandCounts : Option Bool
deriving DecidableEq, Repr

/-- The requests that are remembered, the last used first. -/
abbrev Memory := List Request

/-- How many requests are remembered. -/
def Memory.capacity : Nat := 512

/-- What happens at a point of a run. -/
inductive Notice where
  | event (e : Event)
  | compile (request : Request)
deriving DecidableEq, Repr

/-- The events of one notice, and what is remembered after it. -/
def note (memory : Memory) : Notice → List Event × Memory
  | .event e => ([e], memory)
  | .compile request =>
    if memory.contains request then ([], request :: memory.erase request)
    else
      match Picture.compile request.picture (request.expandCounts.getD false) with
      | .error _ => ([], memory)
      | .ok clause =>
        (if clause.isZeroWidthOnly then [.zeroWidthOnly clause.picture] else [],
          (request :: memory).take Memory.capacity)

/-- **The events of a run**, and what is remembered after it. -/
def replay (memory : Memory) : List Notice → List Event × Memory
  | [] => ([], memory)
  | notice :: rest =>
    let first := note memory notice
    let others := replay first.2 rest
    (first.1 ++ others.1, others.2)

/-! ### What operations report -/

/-- What writing a value's digits into a field reports. -/
def ofDigits (v : Value) (length : Int) (strict : Bool) : List Notice :=
  let ds := Display.digitsOf v
  if 0 ≤ length && length < ds.length && !strict then
    [.event (.digitsDropped length.toNat
      (String.ofList (Display.droppedDigits ds length.toNat)))]
  else []

open Screen

/-- What building a rule's test reports. -/
def ofPredicate (p : Predicate) : List Notice :=
  (p.picture.map fun picture => .compile ⟨picture, none⟩).toList

/-- What asking a rule reports. -/
def ofRule (rule : Rule) (values : List (String × Value)) : List Notice :=
  if rule.isSkipped values then [.event (.ruleSkipped rule.name)]
  else
    match rule.predicate.test (rule.gather values) with
    | .ok _ => []
    | .error _ => [.event (.testFailed rule.name)]

/-- What checking a field reports. -/
def ofDefinition (d : Definition) (v : Value) : List Notice :=
  match d.checkBefore v, d.picture with
  | .ok (.atPicture _), .text picture => [.compile ⟨picture, none⟩]
  | _, _ => []

/-- What checking fields reports, up to the first that cannot be checked. -/
def ofDefinitions (values : List (String × Value)) : List Definition → List Notice
  | [] => []
  | d :: ds =>
    let v := Value.entry values d.name
    ofDefinition d v ++
      match d.validate v with
      | .ok _ => ofDefinitions values ds
      | .error _ => []

/-- What reading rules reports, up to the first that cannot be read. -/
def ofRuleValues : List Value → List Notice
  | [] => []
  | v :: vs =>
    match Rule.draft v with
    | .error _ => []
    | .ok draft =>
      ofPredicate draft.predicate ++
        match Rule.ofDraft draft with
        | .ok _ => ofRuleValues vs
        | .error _ => []

/-- What reading a configuration reports. -/
def ofConfigValue (v : Value) : List Notice :=
  let rules : Except Fault (List Value) := do
    let entries ← v.toRecord
    let _ ← Value.require entries "name"
    let _ ← (← itemsOrNone (Value.entry entries "fields")).mapM Definition.ofValue
    itemsOrNone (Value.entry entries "rules")
  match rules with
  | .ok vs => ofRuleValues vs
  | .error _ => []

/-- What validating values on a screen reports. -/
def ofConfig (config : Config) (values : List (String × Value)) : List Notice :=
  ofDefinitions values config.fields ++
    match Definition.validateAll values config.fields with
    | .ok _ => config.rules.flatMap fun rule => ofRule rule values
    | .error _ => []

end FixedWidth.Journal
