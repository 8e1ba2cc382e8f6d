import FixedWidth.Proofs.Fault
import FixedWidth.Screen.Config
import Mathlib.Data.List.Basic

/-!
# How a blank is written

A field that is not filled in can be missing, hold nothing, or hold white space. None of
the checks of a screen tells these apart. Each is shown to give one answer for a value
and for the value with nothing in the place of a blank (`FixedWidth.Screen.cleared`): the
check of a field, and each of the four tests that a configuration can name
(`FixedWidth.Screen.Predicate.IgnoresBlanks`). Two contents of a screen that are the same
once cleared then go through all checks alike.

`FixedWidth.Screen.Config.validate_eq_of_alike` says so of the screens that are built
from a configuration, and of the names that their fields and rules look up, so that
whatever else a content holds has no effect.
-/

namespace FixedWidth.Screen

variable {v w : Value} {values values' : List (String × Value)}

/-! ### Values without blanks -/

/-- **Whether two values count as one content**: they are the same, or both are blank. -/
def Alike (v w : Value) : Prop :=
  v = w ∨ isBlank v = true ∧ isBlank w = true

/-- A value with nothing in the place of a blank. -/
def cleared (v : Value) : Value :=
  if isBlank v then .null else v

theorem cleared_of_isBlank (h : isBlank v = true) : cleared v = .null :=
  if_pos h

theorem cleared_of_not_isBlank (h : ¬isBlank v = true) : cleared v = v :=
  if_neg h

@[simp] theorem isBlank_cleared (v : Value) : isBlank (cleared v) = isBlank v := by
  by_cases h : isBlank v = true
  · rw [cleared_of_isBlank h, h]
    rfl
  · rw [cleared_of_not_isBlank h]

/-- **What is left of two values that count as one is the same.** -/
theorem Alike.cleared_eq (h : Alike v w) : cleared v = cleared w := by
  obtain rfl | ⟨hv, hw⟩ := h
  · rfl
  · rw [cleared_of_isBlank hv, cleared_of_isBlank hw]

/-! ### Tests -/

namespace Predicate

/-- **Whether a test looks only at what is filled in.** -/
def IgnoresBlanks (p : Predicate) : Prop :=
  ∀ vs, p.test (vs.map cleared) = p.test vs

theorem any_isBlank_map_cleared (vs : List Value) :
    (vs.map cleared).any isBlank = vs.any isBlank := by
  simp [List.any_map, Function.comp_def]

theorem all_isBlank_map_cleared (vs : List Value) :
    (vs.map cleared).all isBlank = vs.all isBlank := by
  simp [List.all_map, Function.comp_def]

theorem ignoresBlanks_allOrNone : allOrNone.IgnoresBlanks := by
  intro vs
  simp only [allOrNone, any_isBlank_map_cleared]

/-- What is compared of a blank is no text at all, however it is written. -/
theorem comparable_cleared (ignoreCase : Bool) (v : Value) :
    comparable ignoreCase (cleared v) = comparable ignoreCase v := by
  by_cases h : isBlank v = true
  · rw [cleared_of_isBlank h]
    cases v with
    | null => rfl
    | text s =>
      have hs : Text.trim s.toList = [] := List.isEmpty_iff.mp h
      simp only [comparable, filled_text, hs]
      cases ignoreCase <;> rfl
    | _ => cases h
  · rw [cleared_of_not_isBlank h]

theorem ignoresBlanks_sameValue (ignoreCase : Bool) : (sameValue ignoreCase).IgnoresBlanks := by
  intro vs
  have hmap : (vs.map cleared).mapM (comparable ignoreCase) = vs.mapM (comparable ignoreCase) := by
    rw [List.mapM_map]
    exact congrArg (vs.mapM ·) (funext (comparable_cleared ignoreCase))
  simp only [sameValue, hmap]

theorem ignoresBlanks_decimalOrder (strict : Bool) : (decimalOrder strict).IgnoresBlanks := by
  intro vs
  match vs with
  | [] => rfl
  | [_] => rfl
  | _ :: _ :: _ :: _ => rfl
  | [low, high] =>
    simp only [decimalOrder, List.map_cons, List.map_nil, isBlank_cleared]
    by_cases h : (isBlank low || isBlank high) = true
    · rw [if_pos h, if_pos h]
    · obtain ⟨hlow, hhigh⟩ := not_or.mp fun hor => h (Bool.or_eq_true_iff.mpr hor)
      rw [cleared_of_not_isBlank hlow, cleared_of_not_isBlank hhigh]

theorem matchesClause_cleared (clause : Picture.Clause) (v : Value) :
    matchesClause clause (cleared v) = matchesClause clause v := by
  by_cases h : isBlank v = true
  · rw [matchesClause, matchesClause, isBlank_cleared, if_pos h, if_pos h]
  · rw [cleared_of_not_isBlank h]

theorem allMatch_map_cleared (clause : Picture.Clause) (vs : List Value) :
    allMatch clause (vs.map cleared) = allMatch clause vs := by
  induction vs with
  | nil => rfl
  | cons v vs ih => rw [List.map_cons, allMatch, allMatch, matchesClause_cleared, ih]

theorem ignoresBlanks_matchesPicture {picture : String} {p : Predicate}
    (h : matchesPicture picture = .ok p) : p.IgnoresBlanks := by
  obtain ⟨clause, -, hp⟩ := bind_eq_ok_iff.mp h
  obtain rfl := Except.ok.inj hp
  exact allMatch_map_cleared clause

/-- **Each test that has a name looks only at what is filled in.** -/
theorem ignoresBlanks_of_ofName? {name : String} {options : List (String × Value)} {p : Predicate}
    (h : ofName? name options = some (.ok p)) : p.IgnoresBlanks := by
  unfold ofName? at h
  split at h
  next =>
    split at h
    · obtain rfl := Except.ok.inj (Option.some.inj h)
      exact ignoresBlanks_allOrNone
    · cases Option.some.inj h
  split at h
  next =>
    obtain ⟨strict, -, rfl⟩ := map_eq_ok_iff.mp (Option.some.inj h)
    exact ignoresBlanks_decimalOrder _
  split at h
  next =>
    obtain ⟨picture, -, hp⟩ := bind_eq_ok_iff.mp (Option.some.inj h)
    cases picture with
    | text picture => exact ignoresBlanks_matchesPicture hp
    | _ => cases hp
  split at h
  next =>
    obtain ⟨ignoreCase, -, rfl⟩ := map_eq_ok_iff.mp (Option.some.inj h)
    exact ignoresBlanks_sameValue _
  next => cases h

end Predicate

/-! ### Rules -/

namespace Rule

variable {rule : Rule}

/-- The test of a rule that a configuration describes is one of those with a name. -/
theorem exists_ofName?_of_draft {d : Draft} (h : draft v = .ok d) :
    ∃ name options, Predicate.ofName? name options = some (.ok d.predicate) := by
  unfold draft at h
  -- the test is looked up last, when all other parts have been read
  obtain ⟨entries, -, h⟩ := bind_eq_ok_iff.mp h
  obtain ⟨kind, -, h⟩ := bind_eq_ok_iff.mp h
  dsimp only at h
  split at h
  · cases h
  obtain ⟨pairs, -, h⟩ := bind_eq_ok_iff.mp h
  obtain ⟨fields, -, h⟩ := bind_eq_ok_iff.mp h
  split at h
  next =>
    obtain ⟨options, -, h⟩ := bind_eq_ok_iff.mp h
    split at h
    next hname =>
      obtain ⟨p, rfl, h⟩ := bind_eq_ok_iff.mp h
      obtain rfl := Except.ok.inj h
      exact ⟨_, _, hname⟩
    next => cases h
  next => cases h

theorem ignoresBlanks_of_ofValue (h : ofValue v = .ok rule) : rule.predicate.IgnoresBlanks := by
  obtain ⟨d, hd, h⟩ := bind_eq_ok_iff.mp h
  obtain ⟨name, options, hname⟩ := exists_ofName?_of_draft hd
  unfold ofDraft make at h
  dsimp only at h
  split at h
  · obtain rfl := Except.ok.inj h
    exact Predicate.ignoresBlanks_of_ofName? hname
  · cases h

/-- **A rule whose test looks only at what is filled in looks only at that, too.** -/
theorem evaluate_congr (hrule : rule.predicate.IgnoresBlanks)
    (h : ∀ name ∈ rule.fields, Alike (Value.entry values name) (Value.entry values' name)) :
    rule.evaluate values = rule.evaluate values' := by
  have hgather : (rule.gather values).map cleared = (rule.gather values').map cleared := by
    rw [gather, gather, List.map_map, List.map_map]
    exact List.map_congr_left fun name hname => (h name hname).cleared_eq
  have hskipped : rule.isSkipped values = rule.isSkipped values' := by
    rw [isSkipped, isSkipped, ← Predicate.all_isBlank_map_cleared, hgather,
      Predicate.all_isBlank_map_cleared]
  rw [evaluate, evaluate, hskipped, ← hrule (rule.gather values), hgather, hrule]

end Rule

/-! ### Fields -/

namespace Definition

theorem checkBefore_cleared (d : Definition) (v : Value) :
    d.checkBefore (cleared v) = d.checkBefore v := by
  by_cases h : isBlank v = true
  · rw [checkBefore, checkBefore, isBlank_cleared, if_pos h, if_pos h]
  · rw [cleared_of_not_isBlank h]

/-- **The check of a field looks only at what is filled in.** -/
theorem validate_cleared (d : Definition) (v : Value) : d.validate (cleared v) = d.validate v := by
  rw [validate, validate, checkBefore_cleared]

theorem validateAll_congr {ds : List Definition}
    (h : ∀ d ∈ ds, Alike (Value.entry values d.name) (Value.entry values' d.name)) :
    validateAll values ds = validateAll values' ds := by
  induction ds with
  | nil => rfl
  | cons d ds ih =>
    obtain ⟨hd, hds⟩ := List.forall_mem_cons.mp h
    rw [validateAll, validateAll, ← d.validate_cleared, hd.cleared_eq, d.validate_cleared, ih hds]

end Definition

/-! ### Screens -/

namespace Config

variable {config : Config}

/-- The names under which a screen looks for contents. -/
def usedNames (config : Config) : List String :=
  config.fields.map Definition.name ++ config.rules.flatMap Rule.fields

theorem ignoresBlanks_of_ofValue (h : ofValue v = .ok config) {rule : Rule}
    (hrule : rule ∈ config.rules) : rule.predicate.IgnoresBlanks := by
  obtain ⟨entries, -, h⟩ := bind_eq_ok_iff.mp h
  obtain ⟨name, -, h⟩ := bind_eq_ok_iff.mp h
  obtain ⟨fieldItems, -, h⟩ := bind_eq_ok_iff.mp h
  obtain ⟨fields, -, h⟩ := bind_eq_ok_iff.mp h
  obtain ⟨ruleItems, -, h⟩ := bind_eq_ok_iff.mp h
  obtain ⟨rules, hrules, h⟩ := bind_eq_ok_iff.mp h
  obtain rfl := Except.ok.inj h
  obtain ⟨item, -, hitem⟩ := exists_mem_of_mapM hrules hrule
  exact Rule.ignoresBlanks_of_ofValue hitem

/-- **How a blank is written never matters.** Where two contents of a screen have the same
value, or a blank each, under every name that a field or a rule of the screen looks for,
the screen finds the same failures in both, in the same order, or has the same fault. -/
theorem validate_eq_of_alike (hconfig : ofValue v = .ok config)
    (halike : ∀ name ∈ config.usedNames,
      Alike (Value.entry values name) (Value.entry values' name)) :
    config.validate values = config.validate values' := by
  obtain ⟨hfields, hrules⟩ := List.forall_mem_append.mp halike
  have hchecks : Definition.validateAll values config.fields =
      Definition.validateAll values' config.fields :=
    Definition.validateAll_congr (List.forall_mem_map.mp hfields)
  have hevaluated : Rule.evaluateAll config.rules values =
      Rule.evaluateAll config.rules values' := by
    refine List.filterMap_congr fun rule hrule => ?_
    exact Rule.evaluate_congr (ignoresBlanks_of_ofValue hconfig hrule) fun name hname =>
      hrules name (List.mem_flatMap.mpr ⟨rule, hrule, hname⟩)
  rw [validate, validate, hchecks, hevaluated]

/-- A part of a screen for an address, of which the state is asked for together with the
ZIP code. -/
def addressScreen : Value :=
  .record [("name", .text "ADDRESS"),
    ("fields", .list [.record [("name", .text "zip"), ("mustfill", .truth true)]]),
    ("rules", .list [.record [("predicate", .text "all_or_none"),
      ("fields", .list [.text "state", .text "zip"])]])]

/-- With the state filled in and a ZIP code of white space, or none at all, both the field
and the rule fail. -/
theorem address_validate_eq : ∃ config, ofValue addressScreen = .ok config ∧
    config.usedNames = ["zip", "state", "zip"] ∧
    config.validate [("state", .text "NY"), ("zip", .text " \t")] =
      config.validate [("note", .text "none"), ("state", .text "NY")] ∧
    (config.validate [("state", .text "NY")]).toOption.map (·.map Failure.message) =
      some [requiredMessage, Predicate.incompleteMessage] := by
  refine ⟨⟨"ADDRESS", [⟨"zip", none, .null, [], true, .null, .null⟩], [⟨"all_or_none",
    ["state", "zip"], Predicate.allOrNone, Rule.defaultMessage, .null, by decide⟩]⟩, rfl, rfl,
    validate_eq_of_alike (v := addressScreen) rfl ?_, rfl⟩
  intro name hname
  rcases List.mem_cons.mp hname with rfl | hname
  · exact .inr ⟨rfl, rfl⟩
  rcases List.mem_cons.mp hname with rfl | hname
  · exact .inl rfl
  · rcases List.mem_singleton.mp hname with rfl
    exact .inr ⟨rfl, rfl⟩

end Config

end FixedWidth.Screen
