import FixedWidth.Copybook.Line

/-!
# Which lines say something

A line is an entry of the layout when it is neither blank nor a comment, begins
with a level number and a name, and its level is not one of the two that take no
storage (`FixedWidth.Copybook.readLine?_eq_some_iff`). A line with a level number
and a name is never blank or a comment, so for such a line only the level counts
(`FixedWidth.Copybook.readLine?_of_levelAndName?`).
-/

namespace FixedWidth.Copybook

variable {line name : List Char} {level : Nat}

/-- **A remark is a blank line or one that begins with an asterisk.** -/
theorem isRemark_eq_true_iff : isRemark line = true ↔
    (∀ c ∈ line, Text.isBlank c = true) ∨ (line.dropWhile Text.isBlank).head? = some '*' := by
  rw [← List.all_eq_true, ← Text.trim_eq_nil_iff, ← Text.head?_trim, isRemark]
  split
  next h => simp [h]
  next c cs h => simp [h]

theorem isSkippedLevel_eq_true_iff : isSkippedLevel level = true ↔ level = 66 ∨ level = 88 := by
  simp [isSkippedLevel]

theorem isSkippedLevel_of_ne (h66 : level ≠ 66) (h88 : level ≠ 88) :
    isSkippedLevel level = false := by
  simp [isSkippedLevel, h66, h88]

/-- A line with a level number begins with a digit, so that it is no remark. -/
theorem isRemark_of_levelAndName? (h : levelAndName? line = some (level, name)) :
    isRemark line = false := by
  rw [Bool.eq_false_iff, Ne, isRemark_eq_true_iff, ← List.all_eq_true,
    ← Text.dropWhile_eq_nil_iff_all]
  intro hremark
  have hdigits : (line.dropWhile Text.isBlank).takeWhile Text.isAnyDigit = [] := by
    rcases hremark with hblank | hstar
    · rw [hblank]
      rfl
    · obtain ⟨cs, hcs⟩ := List.head?_eq_some_iff.mp hstar
      rw [hcs]
      rfl
  simp [levelAndName?, hdigits] at h

/-- **Of a line with a level number and a name only the level decides** whether it
says something. -/
theorem readLine?_of_levelAndName? (h : levelAndName? line = some (level, name)) :
    readLine? line =
      if isSkippedLevel level then none
      else some ⟨normalizeLevel level, String.ofList (Text.upper name), occursIn line,
        redefinesIn line, clauseIn line⟩ := by
  rw [readLine?, isRemark_of_levelAndName? h, if_neg Bool.false_ne_true, h]

/-- **What a line says**: that there is an entry with its level number and its name,
and what the clauses of the line say of it. A line says it that is neither blank nor
a comment, and whose level is not one of those that take no storage. -/
structure Says (line : List Char) (e : Entry) : Prop where
  not_blank : ∃ c ∈ line, Text.isBlank c = false
  not_comment : (line.dropWhile Text.isBlank).head? ≠ some '*'
  level_name : ∃ level name, levelAndName? line = some (level, name) ∧ level ≠ 66 ∧ level ≠ 88 ∧
    e.level = (if level = 77 then 1 else level) ∧ e.name = String.ofList (Text.upper name)
  occurs_eq : e.occurs = occursIn line
  redefines_eq : e.redefines = redefinesIn line
  clause_eq : e.clause = clauseIn line

/-- **An entry is read from a line exactly when the line says it.** -/
theorem readLine?_eq_some_iff {e : Entry} : readLine? line = some e ↔ Says line e := by
  constructor
  · intro h
    cases hname : levelAndName? line with
    | none => simp [readLine?, hname] at h
    | some found =>
      obtain ⟨level, name⟩ := found
      have hremark := isRemark_of_levelAndName? hname
      rw [Bool.eq_false_iff, Ne, isRemark_eq_true_iff, not_or] at hremark
      rw [readLine?_of_levelAndName? hname] at h
      split at h
      · cases h
      next hlevel =>
        rw [isSkippedLevel_eq_true_iff, not_or] at hlevel
        obtain rfl := Option.some.inj h
        exact ⟨by simpa using hremark.1, hremark.2,
          ⟨level, name, hname, hlevel.1, hlevel.2, rfl, rfl⟩, rfl, rfl, rfl⟩
  · rintro ⟨-, -, ⟨level, name, hname, h66, h88, hlevel, hupper⟩, hoccurs, hredefines, hclause⟩
    rw [readLine?_of_levelAndName? hname, isSkippedLevel_of_ne h66 h88,
      if_neg Bool.false_ne_true, ← hupper, ← hoccurs, ← hredefines, ← hclause, normalizeLevel,
      ← hlevel]

end FixedWidth.Copybook
