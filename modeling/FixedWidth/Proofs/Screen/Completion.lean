import FixedWidth.Proofs.Fault
import FixedWidth.Proofs.Picture.Clause
import FixedWidth.Screen.Config
import Mathlib.Data.List.ReduceOption
import Mathlib.Data.Set.List

/-!
# Checks that come to an end

A screen finds all failures of a content at once: those of the fields one by one, and
those of the rules one by one, whatever else fails
(`FixedWidth.Screen.Config.validate_eq_ok_iff`). A rule always comes to a result, since a
test that cannot be carried out is a failure of the rule.

A field does not always. Its picture is looked at for the first time when a content is
held against it, and if it is none that contents can be held against, there is a fault
and no failure of any other field is found. So a screen answers for a content exactly
where no field of it meets such a picture, and for every content exactly where each of
its fields is protected, has room for nothing or has a picture to hold contents against
(`FixedWidth.Screen.Config.validate_complete`).
-/

namespace FixedWidth.Screen

/-- **What a field can be given**: nothing or a text. -/
inductive IsContent : Value → Prop where
  | null : IsContent .null
  | text (s : String) : IsContent (.text s)

theorem isContent_entry {values : List (String × Value)}
    (h : ∀ entry ∈ values, IsContent entry.2) (name : String) :
    IsContent (Value.entry values name) := by
  rw [Value.entry, Entries.get?]
  cases hfind : values.find? fun entry => entry.1 = name with
  | none => exact .null
  | some entry => exact h entry (List.mem_of_find?_eq_some hfind)

/-! ### One field -/

theorem isTooLong_text (length : Option Int) (s : String) :
    isTooLong length (.text s) =
      .ok (length.any fun n => decide (n < (s.toList.length : Int))) := by
  cases length <;> rfl

/-- What is not blank is not empty. -/
theorem isEmpty_eq_false {s : String} (h : isBlank (.text s) = false) : s.isEmpty = false := by
  rw [← Bool.not_eq_true]
  intro hempty
  rw [String.isEmpty_iff.mp hempty] at h
  cases h

namespace Definition

variable {d : Definition} {s : String} {v : Value}

/-- **Whether there is something to hold contents against**: no picture at all, or one
without control characters. -/
def HasClause (d : Definition) : Prop :=
  d.picture = .null ∨
    ∃ p, d.picture = .text p ∧ ∀ c ∈ p.toList, Picture.isControl c = false

/-- **Whether a text passes all checks before the picture.** -/
structure GetsToPicture (d : Definition) (s : String) : Prop where
  unprotected : d.behaviour.isProtected = false
  filled : isBlank (.text s) = false
  digits : d.behaviour.numeric = true → s.toList.all Char.isDigit = true
  length_le : ∀ n, d.length = some n → s.toList.length ≤ n

theorem checkFilled_text (d : Definition) {s : String} (h : s.isEmpty = false) :
    d.checkFilled (.text s) = .ok (
      if d.behaviour.numeric && !s.toList.all Char.isDigit then .settled (some numericMessage)
      else if d.length.any fun n => n < (s.toList.length : Int) then
        .settled (some (lengthMessage (d.length.getD 0)))
      else
        match d.picture with
        | .null => .settled none
        | _ => .atPicture (.text s)) := by
  unfold checkFilled
  simp only [isTooLong_text, isNumericText, ok_bind, pure_eq_ok, h]
  cases d.behaviour.numeric <;> cases s.toList.all Char.isDigit <;>
    cases d.length.any _ <;> cases d.picture <;> rfl

/-- **A text is held against the picture when it passes the checks before it**, and
otherwise the first one that it fails settles the matter. -/
theorem checkBefore_text (d : Definition) (s : String) :
    d.GetsToPicture s ∧ d.picture ≠ .null ∧
        d.checkBefore (.text s) = .ok (.atPicture (.text s)) ∨
      ¬(d.GetsToPicture s ∧ d.picture ≠ .null) ∧
        ∃ failed, d.checkBefore (.text s) = .ok (.settled failed) := by
  rw [checkBefore]
  by_cases hprotected : d.behaviour.isProtected = true
  · exact .inr ⟨fun h => by simp [h.1.unprotected] at hprotected, none, if_pos hprotected⟩
  by_cases hblank : isBlank (.text s) = true
  · exact .inr ⟨fun h => by simp [h.1.filled] at hblank, _,
      (if_neg hprotected).trans (if_pos hblank)⟩
  rw [if_neg hprotected, if_neg hblank, filled_text,
    checkFilled_text d (isEmpty_eq_false (Bool.eq_false_iff.mpr hblank))]
  split
  next hdigits =>
    obtain ⟨hnumeric, hall⟩ := Bool.and_eq_true_iff.mp hdigits
    exact .inr ⟨fun h => by simp [h.1.digits hnumeric] at hall, _, rfl⟩
  next hdigits =>
  split
  next hlong =>
    refine .inr ⟨fun h => ?_, _, rfl⟩
    cases hn : d.length with
    | none => simp [hn] at hlong
    | some n =>
      have hle := h.1.length_le n hn
      rw [hn, Option.any_some, decide_eq_true_eq] at hlong
      omega
  next hlong =>
  have hgets : d.GetsToPicture s := by
    refine ⟨by simpa using hprotected, by simpa using hblank, fun hnumeric => ?_, fun n hn => ?_⟩
    · simpa [hnumeric] using hdigits
    · simpa [hn] using hlong
  cases hpicture : d.picture with
  | null => exact .inr ⟨fun h => h.2 rfl, _, rfl⟩
  | _ => exact .inl ⟨hgets, by simp, rfl⟩

/-- A text can be held against a picture that is a clause. -/
theorem exists_checkPicture_iff {picture : Value} :
    (∃ failed, checkPicture picture (.text s) = .ok failed) ↔
      ∃ p, picture = .text p ∧ ∀ c ∈ p.toList, Picture.isControl c = false := by
  cases picture with
  | text p =>
    constructor
    · rintro ⟨failed, h⟩
      obtain ⟨clause, hclause, -⟩ := bind_eq_ok_iff.mp h
      exact ⟨p, rfl, Picture.exists_compile_iff.mp ⟨clause, hclause⟩⟩
    · rintro ⟨p', hp', h⟩
      obtain rfl := Value.text.inj hp'
      obtain ⟨clause, hclause⟩ := Picture.exists_compile_iff.mpr h
      exact ⟨_, bind_eq_ok_iff.mpr ⟨clause, hclause, rfl⟩⟩
  | _ => exact iff_of_false (fun ⟨_, h⟩ => nomatch h) fun ⟨_, h, _⟩ => nomatch h

/-- **A field comes to a result for a text** unless the text gets to a picture that it
cannot be held against. -/
theorem exists_validate_text_iff :
    (∃ failed, d.validate (.text s) = .ok failed) ↔ (d.GetsToPicture s → d.HasClause) := by
  rcases d.checkBefore_text s with ⟨hgets, hpicture, hcheck⟩ | ⟨hgets, failed, hcheck⟩
  · have hvalidate : d.validate (.text s) = (checkPicture d.picture (.text s)).map
        (·.map fun message => ⟨.text d.name, message, none⟩) := by
      rw [validate, hcheck]
      cases h : checkPicture d.picture (.text s) <;> simp [h] <;> rfl
    rw [hvalidate, HasClause, or_iff_right hpicture, forall_prop_of_true hgets,
      ← exists_checkPicture_iff]
    constructor
    · rintro ⟨failed, h⟩
      obtain ⟨failed, hfailed, -⟩ := map_eq_ok_iff.mp h
      exact ⟨failed, hfailed⟩
    · rintro ⟨failed, h⟩
      exact ⟨_, map_eq_ok_iff.mpr ⟨failed, h, rfl⟩⟩
  · refine iff_of_true ⟨failed.map fun message => ⟨.text d.name, message, none⟩, ?_⟩
      fun h => .inl (by_contra fun hne => hgets ⟨h, hne⟩)
    rw [validate, hcheck]
    rfl

/-- **For nothing a field always comes to a result.** -/
theorem exists_validate_null (d : Definition) : ∃ failed, d.validate .null = .ok failed := by
  rw [validate, checkBefore]
  cases d.behaviour.isProtected <;> exact ⟨_, rfl⟩

/-- **What the fields of a screen find** is what each of them finds. -/
theorem validateAll_eq_ok_iff {values : List (String × Value)} {ds : List Definition}
    {failures : List Failure} :
    validateAll values ds = .ok failures ↔ ∃ own : List (Option Failure),
      ds.map (fun d => d.validate (Value.entry values d.name)) = own.map .ok ∧
        failures = own.reduceOption := by
  induction ds generalizing failures with
  | nil =>
    constructor
    · exact fun h => ⟨[], rfl, (Except.ok.inj h).symm⟩
    · rintro ⟨own, hown, rfl⟩
      rw [List.map_eq_nil_iff.mp hown.symm]
      rfl
  | cons d ds ih =>
    rw [validateAll, bind_eq_ok_iff]
    constructor
    · rintro ⟨failed, hd, h⟩
      obtain ⟨rest, hrest, h⟩ := bind_eq_ok_iff.mp h
      obtain ⟨own, hown, rfl⟩ := ih.mp hrest
      refine ⟨failed :: own, by rw [List.map_cons, List.map_cons, hd, hown], ?_⟩
      rw [← Except.ok.inj h]
      cases failed <;> rfl
    · rintro ⟨own, hown, rfl⟩
      obtain ⟨failed, own, rfl, hd, hds⟩ := List.map_eq_cons_iff.mp hown.symm
      refine ⟨failed, hd.symm, bind_eq_ok_iff.mpr ⟨_, ih.mpr ⟨own, hds.symm, rfl⟩, ?_⟩⟩
      cases failed <;> rfl

/-- The fields of a screen come to an end when each of them comes to a result. -/
theorem exists_validateAll_iff {values : List (String × Value)} {ds : List Definition} :
    (∃ failures, validateAll values ds = .ok failures) ↔
      ∀ d ∈ ds, ∃ failed, d.validate (Value.entry values d.name) = .ok failed := by
  have hresults : (∃ failures, validateAll values ds = .ok failures) ↔
      ds.map (fun d => d.validate (Value.entry values d.name)) ∈
        Set.range (List.map Except.ok) := by
    constructor
    · rintro ⟨failures, h⟩
      obtain ⟨own, hown, -⟩ := validateAll_eq_ok_iff.mp h
      exact ⟨own, hown.symm⟩
    · rintro ⟨own, hown⟩
      exact ⟨_, validateAll_eq_ok_iff.mpr ⟨own, hown.symm, rfl⟩⟩
  rw [hresults, Set.range_list_map, Set.mem_ofPred_eq, List.forall_mem_map]
  exact forall₂_congr fun d _ => exists_congr fun failed => eq_comm

/-- **Some text gets to the picture** of every field that is not protected and has room
for a character. -/
theorem exists_getsToPicture_iff :
    (∃ s, d.GetsToPicture s) ↔
      d.behaviour.isProtected = false ∧ ∀ n, d.length = some n → 1 ≤ n := by
  constructor
  · rintro ⟨s, h⟩
    refine ⟨h.unprotected, fun n hn => ?_⟩
    have hle := h.length_le n hn
    have hpos : 0 < s.toList.length := by
      refine List.length_pos_iff.mpr fun hnil => ?_
      have hfilled := h.filled
      rw [isBlank, hnil] at hfilled
      cases hfilled
    omega
  · rintro ⟨hunprotected, hlength⟩
    exact ⟨"0", hunprotected, by decide, fun _ => by decide, hlength⟩

end Definition

/-! ### A screen -/

namespace Config

variable {config : Config} {values : List (String × Value)} {failures : List Failure}

/-- **What a screen finds** is what each of its fields finds, and then what each of its
rules finds. -/
theorem validate_eq_ok_iff :
    config.validate values = .ok failures ↔ ∃ own : List (Option Failure),
      config.fields.map (fun d => d.validate (Value.entry values d.name)) = own.map .ok ∧
        failures = own.reduceOption ++ config.rules.filterMap fun rule => rule.evaluate values := by
  rw [validate, bind_eq_ok_iff]
  constructor
  · rintro ⟨checked, hchecked, h⟩
    obtain ⟨own, hown, rfl⟩ := Definition.validateAll_eq_ok_iff.mp hchecked
    exact ⟨own, hown, (Except.ok.inj h).symm⟩
  · rintro ⟨own, hown, rfl⟩
    exact ⟨_, Definition.validateAll_eq_ok_iff.mpr ⟨own, hown, rfl⟩, rfl⟩

/-- **A screen answers for a content** when no field meets a picture that the content
cannot be held against. -/
theorem exists_validate_iff (hvalues : ∀ entry ∈ values, IsContent entry.2) :
    (∃ failures, config.validate values = .ok failures) ↔ ∀ d ∈ config.fields,
      ∀ s, Value.entry values d.name = .text s → d.GetsToPicture s → d.HasClause := by
  have hchecks : (∃ failures, config.validate values = .ok failures) ↔
      ∃ checked, Definition.validateAll values config.fields = .ok checked := by
    constructor
    · rintro ⟨failures, h⟩
      obtain ⟨checked, hchecked, -⟩ := bind_eq_ok_iff.mp h
      exact ⟨checked, hchecked⟩
    · rintro ⟨checked, hchecked⟩
      exact ⟨_, bind_eq_ok_iff.mpr ⟨checked, hchecked, rfl⟩⟩
  rw [hchecks, Definition.exists_validateAll_iff]
  refine forall₂_congr fun d _ => ?_
  have hcontent := isContent_entry hvalues d.name
  generalize Value.entry values d.name = v at hcontent
  cases hcontent with
  | null => exact iff_of_true d.exists_validate_null fun s h => nomatch h
  | text s =>
    rw [Definition.exists_validate_text_iff]
    exact ⟨fun h s' hs' => Value.text.inj hs' ▸ h, fun h => h s rfl⟩

/-- **When a screen answers.** For a content, where no field meets a picture that the
content cannot be held against; for every content, where each field is protected, has room
for nothing, or has a picture to hold contents against. The answer is then made up of what
each field and each rule finds, so that none hides the failures of another. -/
theorem validate_complete (config : Config) :
    (∀ values, (∀ entry ∈ values, IsContent entry.2) →
      ((∃ failures, config.validate values = .ok failures) ↔ ∀ d ∈ config.fields,
        ∀ s, Value.entry values d.name = .text s → d.GetsToPicture s → d.HasClause)) ∧
    ((∀ values, (∀ entry ∈ values, IsContent entry.2) →
        ∃ failures, config.validate values = .ok failures) ↔
      ∀ d ∈ config.fields, d.behaviour.isProtected = true ∨ (∃ n, d.length = some n ∧ n < 1) ∨
        d.HasClause) ∧
    ∀ values failures, config.validate values = .ok failures ↔ ∃ own : List (Option Failure),
      config.fields.map (fun d => d.validate (Value.entry values d.name)) = own.map .ok ∧
        failures = own.reduceOption ++ config.rules.filterMap fun rule => rule.evaluate values := by
  refine ⟨fun values => exists_validate_iff, ⟨fun h d hd => ?_, fun h values hvalues => ?_⟩,
    fun values failures => validate_eq_ok_iff⟩
  · -- a text that gets to the picture is a content by itself
    by_cases hgets : ∃ s, d.GetsToPicture s
    · obtain ⟨s, hs⟩ := hgets
      have hcontent : ∀ entry ∈ [(d.name, Value.text s)], IsContent entry.2 := fun entry hentry =>
        List.mem_singleton.mp hentry ▸ .text s
      have hentry : Value.entry [(d.name, .text s)] d.name = .text s := by
        simp [Value.entry, Entries.get?]
      exact .inr (.inr ((exists_validate_iff hcontent).mp (h _ hcontent) d hd s hentry hs))
    · rw [Definition.exists_getsToPicture_iff, not_and_or, Bool.not_eq_false] at hgets
      rcases hgets with hprotected | hlength
      · exact .inl hprotected
      · obtain ⟨n, hlength⟩ := not_forall.mp hlength
        obtain ⟨hn, hlt⟩ := Classical.not_imp.mp hlength
        exact .inr (.inl ⟨n, hn, by omega⟩)
  · refine (exists_validate_iff hvalues).mpr fun d hd s _ hgets => ?_
    obtain ⟨hunprotected, hlength⟩ := Definition.exists_getsToPicture_iff.mp ⟨s, hgets⟩
    rcases h d hd with hprotected | ⟨n, hn, hlt⟩ | hclause
    · rw [hunprotected] at hprotected
      cases hprotected
    · exact absurd (hlength n hn) (by omega)
    · exact hclause

/-- A screen with a number, and a note that takes no input and whose picture no input could
be held against. -/
def numberScreen : Value :=
  .record [("name", .text "NUMBER"), ("fields", .list [
    .record [("name", .text "number"), ("picture", .text "999-99")],
    .record [("name", .text "note"), ("picture", .text "X\n"), ("attrb", .text "PROT")]])]

theorem number_validate_complete : ∃ config, ofValue numberScreen = .ok config ∧
    (∀ entry ∈ [("number", Value.text "123-4"), ("note", .text "new")], IsContent entry.2) ∧
    ∃ failures,
      config.validate [("number", .text "123-4"), ("note", .text "new")] = .ok failures := by
  refine ⟨⟨"NUMBER", [⟨"number", none, .text "999-99", [], false, .null, .null⟩,
    ⟨"note", none, .text "X\n", [.prot], false, .null, .null⟩], []⟩, rfl, ?_, ?_⟩
  · simp [IsContent.text]
  · have hplain : "999-99".toList.all (fun c => !Picture.isControl c) = true := by decide
    have hclause : ∀ c ∈ "999-99".toList, Picture.isControl c = false := fun c hc => by
      simpa using List.all_eq_true.mp hplain c hc
    refine (validate_complete _).2.1.mpr ?_ _ (by simp [IsContent.text])
    refine List.forall_mem_cons.mpr ⟨.inr (.inr (.inr ⟨_, rfl, hclause⟩)), ?_⟩
    exact List.forall_mem_singleton.mpr (.inl rfl)

/-- A screen with a picture in two lines, and a field that has to be filled. -/
def brokenScreen : Value :=
  .record [("name", .text "S"), ("fields", .list [
    .record [("name", .text "a"), ("picture", .text "9\n")],
    .record [("name", .text "b"), ("mustfill", .truth true)]])]

/-- **Not every screen answers for every content**: the fault of a picture hides that
another field is missing. -/
theorem not_always_complete : ¬∀ v config values, ofValue v = .ok config →
    (∀ entry ∈ values, IsContent entry.2) → ∃ failures, config.validate values = .ok failures := by
  intro h
  obtain ⟨failures, hfailures⟩ := h brokenScreen ⟨"S", [⟨"a", none, .text "9\n", [], false, .null,
    .null⟩, ⟨"b", none, .null, [], true, .null, .null⟩], []⟩ [("a", .text "5")] rfl
    (by simp [IsContent.text])
  cases hfailures

end Config

end FixedWidth.Screen
