import FixedWidth.Proofs.Screen.Attribute
import FixedWidth.Proofs.Screen.Completion

/-!
# Definitions that ask for more

A field can ask four things of its content, one after the other, and reports the first that it
does not find. Whether a content fails one of these checks says nothing about the other three
(`FixedWidth.Screen.Definition.Fails`); that only one of them is reported, and only of a field
that takes input, is said once, in `FixedWidth.Screen.Definition.validate_cases`.

A definition that asks for more has every check of the other, and each of them at least as
strict (`FixedWidth.Screen.Definition.Tightens`). So it fails whatever the other fails, check by
check. Which check is reported can change, as one that was not there before may stand in front,
but never to a later one (`FixedWidth.Screen.Definition.validate_of_tightens`).
-/

namespace FixedWidth.Screen

/-- What a field can ask of its content. -/
inductive Check where
  /-- That there is some. -/
  | filled
  /-- That it has digits only. -/
  | digits
  /-- That it is not too long. -/
  | length
  /-- That it matches the picture. -/
  | picture
deriving DecidableEq, Repr

namespace Check

/-- The place of a check among the others. -/
def rank : Check → Nat
  | filled => 0
  | digits => 1
  | length => 2
  | picture => 3

instance : LE Check := ⟨fun a b => a.rank ≤ b.rank⟩

instance : LT Check := ⟨fun a b => a.rank < b.rank⟩

theorem not_lt {a b : Check} : ¬a < b ↔ b ≤ a := Nat.not_lt

/-- No two checks have one place. -/
theorem rank_injective : Function.Injective rank := by
  intro a b
  cases a <;> cases b <;> decide

theorem le_antisymm {a b : Check} (hab : a ≤ b) (hba : b ≤ a) : a = b :=
  rank_injective (Nat.le_antisymm hab hba)

end Check

namespace Definition

variable {d d' : Definition} {v : Value} {s : String} {check check' : Check} {failure : Failure}

/-! ### One check at a time -/

/-- **A content fails a check of a field**, whatever the other checks find. Only the first of
them looks at what is blank. -/
inductive Fails (d : Definition) : Value → Check → Prop where
  | filled {v : Value} (blank : isBlank v = true) (asked : d.mustFill = true) : Fails d v .filled
  | digits {s : String} (content : isBlank (.text s) = false) (asked : .num ∈ d.attributes)
      (other : s.toList.all Char.isDigit = false) : Fails d (.text s) .digits
  | length {s : String} {longest : Int} (content : isBlank (.text s) = false)
      (asked : d.length = some longest) (longer : longest < s.toList.length) :
      Fails d (.text s) .length
  | picture {s p : String} {clause : Picture.Clause} (content : isBlank (.text s) = false)
      (asked : d.picture = .text p) (compiled : Picture.compile p false = .ok clause)
      (refused : clause.accepts s.toList = false) : Fails d (.text s) .picture

/-- **The first check of a field that a content fails.** -/
structure FailsFirst (d : Definition) (v : Value) (check : Check) : Prop where
  fails : d.Fails v check
  none_before : ∀ earlier, earlier < check → ¬d.Fails v earlier

/-- What a field reports of a content that fails a check. -/
def failureOf (d : Definition) (check : Check) : Failure :=
  ⟨.text d.name,
    match check with
    | .filled => requiredMessage
    | .digits => numericMessage
    | .length => lengthMessage (d.length.getD 0)
    | .picture => pictureMessage d.picture.toText, none⟩

theorem FailsFirst.le (h : d.FailsFirst v check) (hfails : d.Fails v check') : check ≤ check' :=
  Check.not_lt.mp fun hlt => h.none_before check' hlt hfails

theorem FailsFirst.unique (h : d.FailsFirst v check) (h' : d.FailsFirst v check') :
    check = check' :=
  Check.le_antisymm (h.le h'.fails) (h'.le h.fails)

theorem not_fails_filled (h : isBlank v = false) : ¬d.Fails v .filled := by
  rintro ⟨hblank, -⟩
  rw [h] at hblank
  cases hblank

/-- Of what is blank, no check but the first finds anything wrong. -/
theorem Fails.eq_filled (h : d.Fails v check) (hblank : isBlank v = true) : check = .filled := by
  cases h with
  | filled => rfl
  | digits hcontent => exact absurd hblank (Bool.eq_false_iff.mp hcontent)
  | length hcontent => exact absurd hblank (Bool.eq_false_iff.mp hcontent)
  | picture hcontent => exact absurd hblank (Bool.eq_false_iff.mp hcontent)

/-! ### The check that is reported -/

theorem validate_of_isBlank (hinput : d.behaviour.isProtected = false) (hblank : isBlank v = true) :
    d.validate v = .ok (if d.mustFill then some (d.failureOf .filled) else none) := by
  rw [validate, checkBefore, if_neg (by simp [hinput]), if_pos hblank]
  cases d.mustFill <;> rfl

/-- What the last check says of a text that passes the others. -/
def pictureStage (d : Definition) (s : String) : Except Fault (Option Failure) :=
  match d.picture with
  | .null => .ok none
  | _ => (checkPicture d.picture (.text s)).map (·.map fun message => ⟨.text d.name, message, none⟩)

theorem validate_text (hinput : d.behaviour.isProtected = false)
    (hcontent : isBlank (.text s) = false) :
    d.validate (.text s) =
      if d.behaviour.numeric && !s.toList.all Char.isDigit then .ok (some (d.failureOf .digits))
      else if d.length.any fun n => n < (s.toList.length : Int) then
        .ok (some (d.failureOf .length))
      else d.pictureStage s := by
  rw [validate, checkBefore, if_neg (by simp [hinput]), if_neg (by simp [hcontent]), filled_text,
    checkFilled_text d (isEmpty_eq_false hcontent)]
  split
  · rfl
  split
  · rfl
  rw [pictureStage]
  cases d.picture with
  | null => rfl
  | text p =>
    cases h : checkPicture (.text p) (.text s) <;> simp only [ok_bind, h] <;> rfl
  | _ => rfl

theorem numeric_iff : d.behaviour.numeric = true ↔ .num ∈ d.attributes := by
  rw [behaviour, Behaviour.numeric_ofAttributes, List.any_eq_true]
  simp

theorem fails_digits_iff (hcontent : isBlank (.text s) = false) : d.Fails (.text s) .digits ↔
    (d.behaviour.numeric && !s.toList.all Char.isDigit) = true := by
  rw [Bool.and_eq_true, Bool.not_eq_true', numeric_iff]
  constructor
  · intro h
    cases h with
    | digits _ hasked hother => exact ⟨hasked, hother⟩
  · exact fun h => .digits hcontent h.1 h.2

theorem fails_length_iff (hcontent : isBlank (.text s) = false) : d.Fails (.text s) .length ↔
    (d.length.any fun n => n < (s.toList.length : Int)) = true := by
  rw [Option.any_eq_true]
  constructor
  · intro h
    cases h with
    | length _ hasked hlonger => exact ⟨_, hasked, decide_eq_true hlonger⟩
  · rintro ⟨n, hn, hlong⟩
    exact .length hcontent hn (of_decide_eq_true hlong)

theorem checkPicture_eq_some_iff {picture : Value} {message : String} :
    checkPicture picture (.text s) = .ok (some message) ↔ ∃ p clause, picture = .text p ∧
      Picture.compile p false = .ok clause ∧ clause.accepts s.toList = false ∧
      message = pictureMessage p := by
  cases picture with
  | text p =>
    rw [checkPicture, bind_eq_ok_iff]
    constructor
    · rintro ⟨clause, hclause, h⟩
      have h := Except.ok.inj h
      split at h
      · cases h
      · next haccepts =>
        exact ⟨p, clause, rfl, hclause, by simpa using haccepts, (Option.some.inj h).symm⟩
    · rintro ⟨_, clause, hp, hclause, haccepts, rfl⟩
      cases hp
      refine ⟨clause, hclause, congrArg Except.ok (if_neg ?_)⟩
      simp [haccepts]
  | _ => exact iff_of_false (fun h => nomatch h) fun ⟨_, _, h, _⟩ => nomatch h

/-- A text that gets to the picture is refused where it fails this check, and there is a fault
and no failure where the picture is none that contents can be held against. -/
theorem pictureStage_eq_some_iff (hcontent : isBlank (.text s) = false) :
    d.pictureStage s = .ok (some failure) ↔
      d.Fails (.text s) .picture ∧ failure = d.failureOf .picture := by
  rw [pictureStage]
  constructor
  · intro h
    have hrefused : ∃ message, checkPicture d.picture (.text s) = .ok (some message) ∧
        failure = ⟨.text d.name, message, none⟩ := by
      cases hpicture : d.picture <;> rw [hpicture] at h
      case null => cases h
      all_goals
        obtain ⟨failed, hfailed, hmap⟩ := map_eq_ok_iff.mp h
        obtain ⟨message, rfl, rfl⟩ := Option.map_eq_some_iff.mp hmap
        exact ⟨message, hfailed, rfl⟩
    obtain ⟨message, hmessage, rfl⟩ := hrefused
    obtain ⟨p, clause, hp, hclause, haccepts, rfl⟩ := checkPicture_eq_some_iff.mp hmessage
    refine ⟨.picture hcontent hp hclause haccepts, ?_⟩
    rw [failureOf, hp]
    rfl
  · rintro ⟨hfails, rfl⟩
    cases hfails with
    | picture _ hp hclause haccepts =>
      rw [failureOf, hp, checkPicture_eq_some_iff.mpr ⟨_, _, rfl, hclause, haccepts, rfl⟩]
      rfl

/-- A check is the first that fails when those before it do not. -/
theorem FailsFirst.of_text (hcontent : isBlank (.text s) = false) (hfails : d.Fails (.text s) check)
    (hdigits : .digits < check → ¬d.Fails (.text s) .digits)
    (hlength : .length < check → ¬d.Fails (.text s) .length) : d.FailsFirst (.text s) check := by
  refine ⟨hfails, fun earlier hlt => ?_⟩
  cases earlier with
  | filled => exact not_fails_filled hcontent
  | digits => exact hdigits hlt
  | length => exact hlength hlt
  | picture =>
    have hrank : check.rank ≤ 3 := by cases check <;> decide
    exact absurd hlt (Nat.not_lt.mpr hrank)

/-- **A field that takes input reports the first check that its content fails**, and reports
nothing where it fails none. -/
theorem validate_cases (hinput : d.behaviour.isProtected = false) (hv : IsContent v) :
    (∃ check, d.FailsFirst v check ∧ d.validate v = .ok (some (d.failureOf check))) ∨
      (∀ check, ¬d.Fails v check) ∧ ∀ failure, d.validate v ≠ .ok (some failure) := by
  by_cases hblank : isBlank v = true
  · cases hfilled : d.mustFill with
    | true =>
      have hfirst : d.FailsFirst v .filled :=
        ⟨.filled hblank hfilled, fun earlier hlt => absurd hlt (Nat.not_lt_zero _)⟩
      refine .inl ⟨.filled, hfirst, ?_⟩
      rw [validate_of_isBlank hinput hblank, hfilled]
      rfl
    | false =>
      refine .inr ⟨fun check h => ?_, fun failure h => ?_⟩
      · obtain rfl := h.eq_filled hblank
        obtain ⟨-, hasked⟩ := h
        cases hfilled.symm.trans hasked
      · rw [validate_of_isBlank hinput hblank, hfilled] at h
        cases h
  obtain ⟨s, rfl⟩ : ∃ s, v = .text s := by
    cases hv with
    | null => exact absurd rfl hblank
    | text s => exact ⟨s, rfl⟩
  have hcontent : isBlank (.text s) = false := Bool.eq_false_iff.mpr hblank
  rw [validate_text hinput hcontent]
  split
  next hdigits =>
    have hdigits := (fails_digits_iff hcontent).mpr hdigits
    exact .inl ⟨.digits, .of_text hcontent hdigits (fun hlt => absurd hlt (lt_irrefl 1))
      (fun hlt => absurd hlt (by decide)), rfl⟩
  next hdigits =>
  have hdigits := mt (fails_digits_iff hcontent).mp hdigits
  split
  next hlength =>
    have hlength := (fails_length_iff hcontent).mpr hlength
    exact .inl ⟨.length, .of_text hcontent hlength (fun _ => hdigits)
      (fun hlt => absurd hlt (lt_irrefl 2)), rfl⟩
  next hlength =>
  have hlength := mt (fails_length_iff hcontent).mp hlength
  by_cases hpicture : d.Fails (.text s) .picture
  · refine .inl ⟨.picture, .of_text hcontent hpicture (fun _ => hdigits) fun _ => hlength, ?_⟩
    exact (pictureStage_eq_some_iff hcontent).mpr ⟨hpicture, rfl⟩
  · refine .inr ⟨fun check h => ?_, fun failure h => ?_⟩
    · cases check with
      | filled => exact not_fails_filled hcontent h
      | digits => exact hdigits h
      | length => exact hlength h
      | picture => exact hpicture h
    · exact hpicture ((pictureStage_eq_some_iff hcontent).mp h).1

/-- **What a field reports of a content**: the first check that it fails, and only where the
field takes input. -/
theorem validate_eq_some_iff (hv : IsContent v) : d.validate v = .ok (some failure) ↔
    d.behaviour.isProtected = false ∧ ∃ check, d.FailsFirst v check ∧
      failure = d.failureOf check := by
  cases hinput : d.behaviour.isProtected with
  | true =>
    refine iff_of_false (fun h => ?_) fun h => nomatch h.1
    rw [validate, checkBefore, if_pos hinput] at h
    cases h
  | false =>
    rw [and_iff_right rfl]
    rcases validate_cases hinput hv with ⟨check, hfirst, hreported⟩ | ⟨hnone, hsilent⟩
    · rw [hreported, Except.ok.injEq, Option.some.injEq]
      constructor
      · rintro rfl
        exact ⟨check, hfirst, rfl⟩
      · rintro ⟨check', hfirst', rfl⟩
        rw [hfirst.unique hfirst']
    · refine iff_of_false (hsilent failure) ?_
      rintro ⟨check, hfirst, -⟩
      exact hnone check hfirst.fails

/-! ### Asking for more -/

/-- **A definition asks for at least what another does**, for a field of the same name that takes
input: it has all attributes of the other, has to be filled if the other has, is at most as long
as the other may be, and has the picture of the other if there is one. -/
structure Tightens (d' d : Definition) : Prop where
  name_eq : d'.name = d.name
  attributes_subset : ∀ a ∈ d.attributes, a ∈ d'.attributes
  takes_input : d'.behaviour.isProtected = false
  mustFill : d.mustFill = true → d'.mustFill = true
  length_le : ∀ longest, d.length = some longest →
    ∃ longest', d'.length = some longest' ∧ longest' ≤ longest
  picture_eq : d.picture ≠ .null → d'.picture = d.picture

/-- **A tighter definition fails each check that the other fails.** -/
theorem Tightens.fails (h : d'.Tightens d) (hfails : d.Fails v check) : d'.Fails v check := by
  cases hfails with
  | filled hblank hasked => exact .filled hblank (h.mustFill hasked)
  | digits hcontent hasked hother =>
    exact .digits hcontent (h.attributes_subset .num hasked) hother
  | length hcontent hasked hlonger =>
    obtain ⟨longest', hasked', hle⟩ := h.length_le _ hasked
    exact .length hcontent hasked' (lt_of_le_of_lt hle hlonger)
  | picture hcontent hasked hcompiled hrefused =>
    have hasked' : d'.picture = .text _ := (h.picture_eq (by simp [hasked])).trans hasked
    exact .picture hcontent hasked' hcompiled hrefused

/-- **Tightening a definition never admits a value that was rejected.** What a field reports, a
tighter one reports, too, or it reports an earlier check that the value fails as well. -/
theorem validate_of_tightens (h : d'.Tightens d) (hv : IsContent v)
    (hfailed : d.validate v = .ok (some failure)) : ∃ check check',
      d.FailsFirst v check ∧ failure = d.failureOf check ∧
      d'.FailsFirst v check' ∧ d'.validate v = .ok (some (d'.failureOf check')) ∧
      check' ≤ check ∧ (d'.failureOf check').field = failure.field := by
  obtain ⟨-, check, hfirst, rfl⟩ := (validate_eq_some_iff hv).mp hfailed
  have hfails' : d'.Fails v check := h.fails hfirst.fails
  rcases validate_cases h.takes_input hv with ⟨check', hfirst', hreported'⟩ | ⟨hnone, -⟩
  · refine ⟨check, check', hfirst, rfl, hfirst', hreported', hfirst'.le hfails', ?_⟩
    exact congrArg Value.text h.name_eq
  · exact absurd hfails' (hnone check)

/-- A code of two digits and a letter, at which the cursor begins. -/
def looseCode : Definition := ⟨"code", none, .text "99A", [.ic], false, .null, .null⟩

/-- The same code, which has to be given, is bright and has three characters at most. -/
def tightCode : Definition := ⟨"code", some 3, .text "99A", [.brt, .ic], true, .null, .null⟩

theorem tightens_looseCode : tightCode.Tightens looseCode where
  name_eq := rfl
  attributes_subset := by decide
  takes_input := by decide
  mustFill := fun h => nomatch h
  length_le := fun _ h => nomatch h
  picture_eq := fun _ => rfl

/-- A value that does not match the picture is too long for the tighter definition, which is
looked at before the picture. -/
theorem code_validate_of_tightens : tightCode.Tightens looseCode ∧ IsContent (.text "12345") ∧
    looseCode.validate (.text "12345") = .ok (some (looseCode.failureOf .picture)) ∧
    tightCode.validate (.text "12345") = .ok (some (tightCode.failureOf .length)) ∧
    ∃ check check', looseCode.FailsFirst (.text "12345") check ∧
      looseCode.failureOf .picture = looseCode.failureOf check ∧
      tightCode.FailsFirst (.text "12345") check' ∧
      tightCode.validate (.text "12345") = .ok (some (tightCode.failureOf check')) ∧
      check' ≤ check ∧ (tightCode.failureOf check').field = (looseCode.failureOf .picture).field :=
  have hfailed : looseCode.validate (.text "12345") =
    .ok (some (looseCode.failureOf .picture)) := by rfl
  ⟨tightens_looseCode, .text _, hfailed, rfl,
    validate_of_tightens tightens_looseCode (.text _) hfailed⟩

end Definition

end FixedWidth.Screen
