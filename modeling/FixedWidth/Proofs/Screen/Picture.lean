import FixedWidth.Proofs.Screen.Completion
import FixedWidth.Screen.Predicate

/-!
# A picture for a field and for a rule

A content can be held against a picture in two ways: the definition of a field can have
the picture, or a rule can have it as its test. Both pass over what is not filled in, but
not in the same way. A field is done with a blank before it comes to the picture; a rule is
not asked where all its fields are blank, and else its test meets the blank ones among the
others and has to let them through. Both end in one question about a single content
(`FixedWidth.Screen.rejects`), which a field asks once
(`FixedWidth.Screen.Definition.validate_pictureField`) and a rule of its fields one after
the other, up to the first that fails (`FixedWidth.Screen.Rule.evaluate_allMatch`).

So a rule fails exactly where one of its fields would, had it the picture, and says the
same (`FixedWidth.Screen.Rule.pictureRule_agrees`).
-/

namespace FixedWidth.Screen

variable {clause : Picture.Clause} {picture : String} {v : Value} {values : List (String × Value)}

/-- **Whether a value is filled in with what a clause does not accept.** -/
def rejects (clause : Picture.Clause) : Value → Bool
  | .text s => !isBlank (.text s) && !clause.accepts s.toList
  | _ => false

/-- A blank is never rejected. -/
theorem rejects_of_isBlank (h : isBlank v = true) : rejects clause v = false := by
  cases v with
  | text s => rw [rejects, h, Bool.not_true, Bool.false_and]
  | _ => rfl

/-! ### The field -/

/-- A field that has a picture and nothing else to be checked. -/
def pictureField (name picture : String) : Definition where
  name := name
  length := none
  picture := .text picture
  attributes := []
  mustFill := false
  storagePicture := .null
  usage := .null

/-- **A field with a picture fails for what the picture rejects.** -/
theorem Definition.validate_pictureField (hclause : Picture.compile picture false = .ok clause)
    (hv : IsContent v) (name : String) :
    (pictureField name picture).validate v =
      .ok (if rejects clause v then some ⟨.text name, pictureMessage picture, none⟩ else none) := by
  by_cases hblank : isBlank v = true
  · have hsettled : (pictureField name picture).checkBefore v = .ok (.settled none) :=
      if_pos hblank
    rw [validate, hsettled, rejects_of_isBlank hblank]
    rfl
  cases hv with
  | null => exact absurd rfl hblank
  | text s =>
    have hreached : (pictureField name picture).checkBefore (.text s) =
        .ok (.atPicture (.text s)) := by
      have hchecks : (pictureField name picture).checkBefore (.text s) =
          (pictureField name picture).checkFilled (filled (.text s)) := if_neg hblank
      rw [hchecks, filled_text]
      rfl
    have hpicture : (pictureField name picture).picture = .text picture := rfl
    rw [validate, hreached, ok_bind]
    simp only [hpicture, checkPicture, hclause, ok_bind, rejects,
      Bool.eq_false_iff.mpr hblank, Bool.not_false, Bool.true_and]
    cases clause.accepts s.toList <;> rfl

theorem Definition.eq_of_validate_pictureField {name : String} {failure : Failure}
    (hclause : Picture.compile picture false = .ok clause) (hv : IsContent v)
    (h : (pictureField name picture).validate v = .ok (some failure)) :
    failure = ⟨.text name, pictureMessage picture, none⟩ := by
  rw [validate_pictureField hclause hv] at h
  exact (Option.some.inj (Option.ite_none_right_eq_some.mp (Except.ok.inj h)).2).symm

/-! ### The rule -/

/-- A picture's failure has something to say, so that it is not taken for the rule's own. -/
theorem pictureMessage_ne_empty (picture : String) : pictureMessage picture ≠ "" := fun h =>
  absurd (String.append_eq_empty_iff.mp h).1 (by decide)

namespace Predicate

theorem matchesClause_eq (hv : IsContent v) : matchesClause clause v = .ok (!rejects clause v) := by
  rw [matchesClause]
  split
  next hblank => rw [rejects_of_isBlank hblank, Bool.not_false]
  next hblank =>
    cases hv with
    | null => exact absurd rfl hblank
    | text s =>
      rw [filled_text, rejects, Bool.eq_false_iff.mpr hblank]
      simp

/-- **The test fails when one of the values is rejected**, wherever it stands. -/
theorem allMatch_eq {vs : List Value} (hvs : ∀ v ∈ vs, IsContent v) :
    allMatch clause vs = .ok (
      if vs.any (rejects clause) then .text (pictureMessage clause.picture) else .truth true) := by
  induction vs with
  | nil => rfl
  | cons v vs ih =>
    obtain ⟨hv, hvs⟩ := List.forall_mem_cons.mp hvs
    rw [allMatch, matchesClause_eq hv, ok_bind, List.any_cons, ih hvs]
    cases rejects clause v <;> rfl

end Predicate

namespace Rule

variable {rule : Rule}

/-- **A rule with a picture fails when the picture rejects one of its fields.** A rule that
is not asked has nothing to reject. -/
theorem evaluate_allMatch (htest : rule.predicate.test = Predicate.allMatch clause)
    (hvalues : ∀ entry ∈ values, IsContent entry.2) :
    rule.evaluate values =
      if (rule.gather values).any (rejects clause) then
        some (rule.failure (pictureMessage clause.picture))
      else none := by
  have hcontents : ∀ v ∈ rule.gather values, IsContent v := by
    rw [gather]
    exact List.forall_mem_map.mpr fun name _ => isContent_entry hvalues name
  rw [evaluate]
  split
  next hskipped =>
    have hblank : ∀ v ∈ rule.gather values, isBlank v = true := List.all_eq_true.mp hskipped
    have hnone : (rule.gather values).any (rejects clause) = false :=
      List.any_eq_false.mpr fun v hv => by
        rw [rejects_of_isBlank (hblank v hv)]
        exact Bool.false_ne_true
    rw [hnone]
    rfl
  next =>
    rw [htest, Predicate.allMatch_eq hcontents]
    cases (rule.gather values).any (rejects clause) with
    | false => rfl
    | true =>
      have hmessage := String.isEmpty_eq_false_iff.mpr (pictureMessage_ne_empty clause.picture)
      rw [if_pos rfl, if_pos rfl]
      simp only [judge, hmessage, Bool.false_eq_true, if_false]

theorem eq_of_evaluate_allMatch {failure : Failure}
    (htest : rule.predicate.test = Predicate.allMatch clause)
    (hvalues : ∀ entry ∈ values, IsContent entry.2) (h : rule.evaluate values = some failure) :
    failure = rule.failure (pictureMessage clause.picture) := by
  rw [evaluate_allMatch htest hvalues] at h
  exact (Option.some.inj (Option.ite_none_right_eq_some.mp h).2).symm

/-- **A rule finds in its fields what a picture finds in each of them.** -/
structure AgreesWithFields (rule : Rule) (picture : String) (values : List (String × Value)) :
    Prop where
  /-- With the picture, each field comes to a result. -/
  settled : ∀ name ∈ rule.fields,
    ∃ failed, (pictureField name picture).validate (Value.entry values name) = .ok failed
  /-- The rule fails when one of the fields does. -/
  fails_iff : (∃ failure, rule.evaluate values = some failure) ↔ ∃ name ∈ rule.fields,
    ∃ failure, (pictureField name picture).validate (Value.entry values name) = .ok (some failure)
  /-- All failures say the same. -/
  rule_message {failure : Failure} : rule.evaluate values = some failure →
    failure.message = pictureMessage picture
  field_message {name : String} {failure : Failure} :
    (pictureField name picture).validate (Value.entry values name) = .ok (some failure) →
      failure.message = pictureMessage picture
  /-- The failures of a rule for one field and of that field are shown at one place, unless
  the rule names another. -/
  same_place {name : String} {failure failure' : Failure} : rule.fields = [name] →
    rule.primaryField.isTrue = false → rule.evaluate values = some failure →
      (pictureField name picture).validate (Value.entry values name) = .ok (some failure') →
        failure.field = failure'.field

theorem agreesWithFields (hclause : Picture.compile picture false = .ok clause)
    (htest : rule.predicate.test = Predicate.allMatch clause)
    (hvalues : ∀ entry ∈ values, IsContent entry.2) : rule.AgreesWithFields picture values where
  settled name _ :=
    ⟨_, Definition.validate_pictureField hclause (isContent_entry hvalues name) name⟩
  fails_iff := by
    have hfield := fun name => Definition.validate_pictureField hclause
      (isContent_entry hvalues name) name
    -- each side comes down to what the clause rejects
    rw [evaluate_allMatch htest hvalues]
    simp [hfield, gather]
  rule_message h := by
    have hpicture : clause.picture = picture := (Picture.compile_eq_ok_iff.mp hclause).1
    rw [eq_of_evaluate_allMatch htest hvalues h, hpicture]
    rfl
  field_message {name _} h := by
    rw [Definition.eq_of_validate_pictureField hclause (isContent_entry hvalues name) h]
  same_place {name _ _} hone hown h h' := by
    rw [eq_of_evaluate_allMatch htest hvalues h,
      Definition.eq_of_validate_pictureField hclause (isContent_entry hvalues name) h']
    change rule.primaryField.orElse _ = _
    simp only [Value.orElse, hown, hone, List.head_cons]
    rfl

/-- **Where a picture is a clause, it makes no difference whether a rule or the fields have
it**: the rule can be built for any fields, and finds in every content what they find. -/
theorem pictureRule_agrees (hclause : Picture.compile picture false = .ok clause)
    {fields : List String} (hfields : fields ≠ [])
    (hvalues : ∀ entry ∈ values, IsContent entry.2) (name message : String)
    (primaryField : Value) :
    ∃ predicate rule, Predicate.matchesPicture picture = .ok predicate ∧
      make name fields predicate message primaryField = .ok rule ∧
      rule.fields = fields ∧ rule.primaryField = primaryField ∧
      rule.AgreesWithFields picture values := by
  have hpredicate : Predicate.matchesPicture picture =
      .ok { test := Predicate.allMatch clause, picture := some picture } := by
    rw [Predicate.matchesPicture, hclause]
    rfl
  exact ⟨_, ⟨name, fields, _, message, primaryField, hfields⟩, hpredicate, dif_pos hfields, rfl,
    rfl, agreesWithFields hclause rfl hvalues⟩

/-- Of two parts of a code, the one that is filled in does not match, and a rule for both
fails. -/
theorem code_agrees :
    Picture.compile "A9" false = .ok ⟨"A9", [.alphabetic, .digit]⟩ ∧ ["code", "part"] ≠ [] ∧
      (∀ entry ∈ [("code", Value.text " "), ("part", .text "7A")], IsContent entry.2) ∧
      ∃ predicate rule, Predicate.matchesPicture "A9" = .ok predicate ∧
        make "codes" ["code", "part"] predicate defaultMessage .null = .ok rule ∧
        rule.fields = ["code", "part"] ∧ rule.primaryField = .null ∧
        rule.AgreesWithFields "A9" [("code", .text " "), ("part", .text "7A")] ∧
        ∃ failure, rule.evaluate [("code", .text " "), ("part", .text "7A")] = some failure := by
  have hclause : Picture.compile "A9" false = .ok ⟨"A9", [.alphabetic, .digit]⟩ := rfl
  have hfields : ["code", "part"] ≠ [] := List.cons_ne_nil _ _
  have hvalues : ∀ entry ∈ [("code", Value.text " "), ("part", .text "7A")],
      IsContent entry.2 := by simp [IsContent.text]
  obtain ⟨predicate, rule, hpredicate, hrule, hnames, hplace, hagrees⟩ :=
    pictureRule_agrees hclause hfields hvalues "codes" defaultMessage .null
  have hpart : "part" ∈ rule.fields := by
    rw [hnames]
    exact List.mem_cons_of_mem _ List.mem_cons_self
  exact ⟨hclause, hfields, hvalues, predicate, rule, hpredicate, hrule, hnames, hplace, hagrees,
    hagrees.fails_iff.mpr ⟨"part", hpart, _, rfl⟩⟩

end Rule

end FixedWidth.Screen
