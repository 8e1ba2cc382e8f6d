import FixedWidth.Display.Field
import FixedWidth.Journal
import FixedWidth.Proofs.Number.Digits
import FixedWidth.Proofs.Storage.Zoned

/-!
# Fields of digits, modulo a power of ten

A field of digits takes any value at all: whatever is no digit is passed over, and what
does not fit is let go from the front. On the number that the digits spell this is
arithmetic. With zeros put in front, the digits fall into those let go and those kept,
wherever the boundary is (`FixedWidth.Display.exists_append_lastDigits`), and a digit in
front of `n` others counts a multiple of `10 ^ n`
(`FixedWidth.Text.ofDigitChars_append_mod`). So the field shows the number modulo the
power of ten of its width (`FixedWidth.Display.spells_lastDigits`).

`FixedWidth.Display.keepsLastDigits` puts this beside what is reported of the digits that
are let go, and beside the strict writer, which would rather have a fault. A field
without any width is no exception: it shows the number modulo one.
-/

namespace FixedWidth

/-- **What stands in front of digits does not count modulo their power of ten.** -/
theorem Text.ofDigitChars_append_mod (front : List Char) {back : List Char}
    (h : back.all Char.isDigit = true) :
    Nat.ofDigitChars 10 (front ++ back) 0 % Nat.pow 10 back.length =
      Nat.ofDigitChars 10 back 0 := by
  rw [Nat.ofDigitChars_append, Nat.ofDigitChars_eq_ofDigitChars_zero]
  change (Nat.pow 10 back.length * _ + _) % Nat.pow 10 back.length = _
  rw [Nat.mul_add_mod, Nat.mod_eq_of_lt (Text.ofDigitChars_lt h)]

namespace Display

variable {ds cs : List Char} {v : Value} {n : Nat}

/-! ### The last digits -/

/-- **A number written with so many digits**, zeros in front where it has fewer. -/
structure Spells (cs : List Char) (width number : Nat) : Prop where
  length_eq : cs.length = width
  isDigit : cs.all Char.isDigit = true
  value_eq : Nat.ofDigitChars 10 cs 0 = number

/-- There is one way to write a number with so many digits. -/
theorem Spells.unique {width number : Nat} (h : Spells cs width number)
    (h' : Spells ds width number) : cs = ds :=
  Text.eq_of_ofDigitChars_eq h.isDigit h'.isDigit (h.length_eq.trans h'.length_eq.symm)
    (h.value_eq.trans h'.value_eq.symm)

/-- Behind zeros enough for the whole width, the last digits are an end of all digits. -/
theorem exists_append_lastDigits (ds : List Char) (n : Nat) :
    ∃ front, List.replicate n '0' ++ ds = front ++ lastDigits ds n := by
  refine ⟨(List.replicate n '0' ++ ds).take ds.length, ?_⟩
  have hcount : n - (ds.drop (ds.length - n)).length = n - ds.length := by
    rw [List.length_drop]
    omega
  have hlast : lastDigits ds n = (List.replicate n '0' ++ ds).drop ds.length := by
    rw [lastDigits, List.leftpad, hcount, List.drop_append, List.drop_replicate,
      List.length_replicate]
  rw [hlast, List.take_append_drop]

theorem all_isDigit_lastDigits (h : ds.all Char.isDigit = true) :
    (lastDigits ds n).all Char.isDigit = true := by
  obtain ⟨front, hfront⟩ := exists_append_lastDigits ds n
  have hall : (List.replicate n '0' ++ ds).all Char.isDigit = true := by
    rw [List.all_append, h, Bool.and_true, List.all_replicate]
    exact ite_eq_left_iff.mpr fun _ => rfl
  rw [hfront, List.all_append, Bool.and_eq_true] at hall
  exact hall.2

/-- **The last digits spell the number modulo the power of ten of their count.** -/
theorem spells_lastDigits (h : ds.all Char.isDigit = true) (n : Nat) :
    Spells (lastDigits ds n) n (Nat.ofDigitChars 10 ds 0 % Nat.pow 10 n) := by
  refine ⟨length_lastDigits ds n, all_isDigit_lastDigits h, ?_⟩
  obtain ⟨front, hfront⟩ := exists_append_lastDigits ds n
  -- the zeros in front change nothing of the number
  have hnumber : Nat.ofDigitChars 10 ds 0 = Nat.ofDigitChars 10 (front ++ lastDigits ds n) 0 := by
    rw [← hfront, Nat.ofDigitChars_append, Nat.ofDigitChars_replicate_zero, Nat.mul_zero]
  have hmod := Text.ofDigitChars_append_mod front (all_isDigit_lastDigits (n := n) h)
  rw [hnumber, ← hmod, length_lastDigits]

/-- Digits that are cut or filled to a width are left as they are by a second time: a
number that is below the power of ten already is written in one way only. -/
theorem lastDigits_lastDigits (h : ds.all Char.isDigit = true) :
    lastDigits (lastDigits ds n) n = lastDigits ds n := by
  have hspells := spells_lastDigits h n
  refine (spells_lastDigits hspells.isDigit n).unique ?_
  rwa [hspells.value_eq, Nat.mod_mod]

/-! ### The digits that a value shows -/

/-- The ASCII digits in the text that a field shows of a value, in order. -/
def shownDigits (v : Value) : List Char :=
  ((shownText v).getD []).filter Char.isDigit

theorem digitsOf_eq_shownDigits (v : Value) : digitsOf v = shownDigits v := by
  cases v <;> rfl

theorem all_isDigit_shownDigits (v : Value) : (shownDigits v).all Char.isDigit = true :=
  List.all_eq_true.mpr fun _ hc => (List.mem_filter.mp hc).2

/-- A text of digits shows itself. -/
theorem shownDigits_text (h : cs.all Char.isDigit = true) :
    shownDigits (.text (String.ofList cs)) = cs := by
  have hshown : shownText (.text (String.ofList cs)) = some cs :=
    congrArg some String.toList_ofList
  rw [shownDigits, hshown, Option.getD_some, List.filter_eq_self]
  exact List.all_eq_true.mp h

/-- **What is written of the digits that a value shows.** -/
theorem formatDigits_eq (v : Value) (n : Nat) (strict : Bool) :
    formatDigits v n strict =
      if strict = true ∧ n < (shownDigits v).length then
        .error (.digitOverflow (shownDigits v).length n)
      else .ok (lastDigits (shownDigits v) n) := by
  have hlength : ¬(n : Int) < 0 := by omega
  simp only [formatDigits, digitsOf_eq_shownDigits, if_neg hlength, Int.toNat_natCast,
    Bool.and_eq_true, decide_eq_true_eq, Int.ofNat_lt]

/-- **What is reported of the digits that a value shows**: those that are let go. -/
theorem ofDigits_eq (v : Value) (n : Nat) (strict : Bool) :
    Journal.ofDigits v n strict =
      if strict = false ∧ n < (shownDigits v).length then
        [.event (.digitsDropped n (String.ofList (droppedDigits (shownDigits v) n)))]
      else [] := by
  have hlength : (0 : Int) ≤ n := by omega
  simp only [Journal.ofDigits, digitsOf_eq_shownDigits, hlength, decide_true, Bool.true_and,
    Bool.and_eq_true, decide_eq_true_eq, Int.ofNat_lt, Int.toNat_natCast, Bool.not_eq_true',
    and_comm]

/-! ### The field -/

/-- **A field of `n` digits shows a value as `cs`**, `number` being what the value's
digits spell. -/
structure KeepsLastDigits (v : Value) (n : Nat) (cs : List Char) (number : Nat) : Prop where
  /-- The field shows the number modulo the power of ten of its width. -/
  written : formatDigits v n false = .ok cs
  spells : Spells cs n (number % Nat.pow 10 n)
  /-- Digits that do not fit are reported; they and those that are kept are all. -/
  reported (memory : Journal.Memory) : n < (shownDigits v).length →
    ∃ dropped, dropped ++ cs = shownDigits v ∧
      Journal.replay memory (Journal.ofDigits v n false) =
        ([.digitsDropped n (String.ofList dropped)], memory)
  /-- Where all fit, there is nothing to report. -/
  unreported (memory : Journal.Memory) : (shownDigits v).length ≤ n →
    Journal.replay memory (Journal.ofDigits v n false) = ([], memory)
  /-- The strict writer refuses digits that do not fit. -/
  strict_refused : n < (shownDigits v).length →
    formatDigits v n true = .error (.digitOverflow (shownDigits v).length n)
  /-- Where all fit, it writes what the other one does. -/
  strict_written : (shownDigits v).length ≤ n → formatDigits v n true = .ok cs
  /-- It never lets digits go, so that it has nothing to report. -/
  strict_unreported (memory : Journal.Memory) :
    Journal.replay memory (Journal.ofDigits v n true) = ([], memory)
  /-- What is shown is left as it is when it is written again. -/
  rewritten (strict : Bool) : formatDigits (.text (String.ofList cs)) n strict = .ok cs
  /-- What is shown is read as the number that it spells, if there is anything. -/
  read : 1 ≤ n → parseDigits cs n 0 = .ok (.make (number % Nat.pow 10 n) false 0)

/-- **A field of digits keeps a number modulo the power of ten of its width**, whatever
the value and the width. -/
theorem keepsLastDigits (v : Value) (n : Nat) :
    ∃ cs, KeepsLastDigits v n cs (Nat.ofDigitChars 10 (shownDigits v) 0) := by
  have hspells := spells_lastDigits (all_isDigit_shownDigits v) n
  have hwidth := hspells.length_eq
  refine ⟨lastDigits (shownDigits v) n, ⟨?written, hspells, fun memory hlong => ?reported,
    fun memory hshort => ?unreported, fun hlong => ?strict_refused, fun hshort => ?strict_written,
    fun memory => ?strict_unreported, fun strict => ?rewritten, fun hpos => ?read⟩⟩
  case written => rw [formatDigits_eq, if_neg (fun h => nomatch h.1)]
  case reported =>
    refine ⟨_, droppedDigits_append_lastDigits (Nat.le_of_lt hlong), ?_⟩
    rw [ofDigits_eq, if_pos ⟨rfl, hlong⟩]
    rfl
  case unreported =>
    rw [ofDigits_eq, if_neg (by omega)]
    rfl
  case strict_refused => rw [formatDigits_eq, if_pos ⟨rfl, hlong⟩]
  case strict_written => rw [formatDigits_eq, if_neg (by omega)]
  case strict_unreported =>
    rw [ofDigits_eq, if_neg (fun h => nomatch h.1)]
    rfl
  case rewritten =>
    rw [formatDigits_eq, shownDigits_text hspells.isDigit, if_neg (by omega),
      lastDigits_lastDigits (all_isDigit_shownDigits v)]
  case read =>
    rw [parseDigits, if_neg (by omega), Zoned.decode_unsigned_eq_ok_iff]
    refine ⟨Int.le_refl 0, List.length_pos_iff.mp (by omega), hspells.isDigit, ?_⟩
    rw [hspells.value_eq]
    rfl

end Display

end FixedWidth
