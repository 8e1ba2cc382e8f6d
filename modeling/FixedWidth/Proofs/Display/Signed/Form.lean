import FixedWidth.Proofs.Display.Signed.Literal

/-!
# The form of a signed number on display

A field without its sign has a form: every place of it takes a digit, except the one
behind the digits before the point, which takes the point where there are places. Which
characters may stand where is said here place by place
(`FixedWidth.Display.InForm`), and not by the digits that the field was put together
from, so that it can be said of a text that is not in form what is wrong with it.

Reading looks at the length first and then at three pieces one after the other: the
digits before the point, the point, and the digits behind it. What it finds is the first
character of the whole text that does not belong where it stands
(`FixedWidth.Display.readDigits_cases`), because each piece is looked at only where there
was nothing to find in those before it. `FixedWidth.Display.readsForm` sums this up, with
what becomes of a text that was taken: written again it is the same text, but for the
sign of a zero, and as a literal it is the same number.
-/

namespace FixedWidth.Display

variable {cs before after front piece rest : List Char} {c : Char} {d : Decimal}
  {i f k position : Nat} {start : Int}

/-! ### Places -/

/-- **Whether a character belongs at a place** of a field without its sign: a point at the
place behind the first digits, where digits come behind it, and a digit at any other. -/
def Belongs (i f k : Nat) (c : Char) : Prop :=
  if f ≠ 0 ∧ k = i then c = '.' else c.isDigit = true

/-- All characters of a row belong where they stand. -/
def InPlace (i f : Nat) (cs : List Char) : Prop :=
  ∀ k c, cs[k]? = some c → Belongs i f k c

/-- **The form of a field** without its sign. -/
structure InForm (i f : Nat) (cs : List Char) : Prop where
  length_eq : cs.length = formLength i f
  inPlace : InPlace i f cs

/-- **The first character that does not belong** where it stands. -/
structure FirstStray (i f : Nat) (cs : List Char) (k : Nat) (c : Char) : Prop where
  at_place : cs[k]? = some c
  not_belongs : ¬Belongs i f k c
  belongs_before : ∀ j < k, ∀ b, cs[j]? = some b → Belongs i f j b

theorem belongs_iff (h : ¬(f ≠ 0 ∧ k = i)) : Belongs i f k c ↔ c.isDigit = true := by
  rw [Belongs, if_neg h]

theorem inPlace_nil (i f : Nat) : InPlace i f [] :=
  fun _ _ hc => nomatch List.getElem?_nil.symm.trans hc

/-- What stands behind a row in place is looked at from where it stands. -/
theorem InPlace.append (hfront : InPlace i f front)
    (hpiece : ∀ j c, piece[j]? = some c → Belongs i f (front.length + j) c) :
    InPlace i f (front ++ piece) := by
  intro k c hc
  rcases Nat.lt_or_ge k front.length with hk | hk
  · rw [List.getElem?_append_left hk] at hc
    exact hfront k c hc
  · rw [List.getElem?_append_right hk] at hc
    have hbelongs := hpiece _ c hc
    rwa [Nat.add_sub_cancel' hk] at hbelongs

/-- Digits belong on either side of the point. -/
theorem InPlace.append_digits (hfront : InPlace i f front) (hdigits : piece.all Char.isDigit = true)
    (hside : f ≠ 0 → front.length + piece.length ≤ i ∨ i < front.length) :
    InPlace i f (front ++ piece) := by
  refine hfront.append fun j c hc => ?_
  obtain ⟨hj, -⟩ := List.getElem?_eq_some_iff.mp hc
  have hplace : ¬(f ≠ 0 ∧ front.length + j = i) := by
    rintro ⟨hf, hi⟩
    have := hside hf
    omega
  rw [belongs_iff hplace]
  exact List.all_eq_true.mp hdigits c (List.mem_of_getElem? hc)

theorem InPlace.append_point (hfront : InPlace i f front) (hf : f ≠ 0) (hi : front.length = i) :
    InPlace i f (front ++ ['.']) := by
  refine hfront.append fun j c hc => ?_
  obtain ⟨hj, rfl⟩ := List.getElem?_eq_some_iff.mp hc
  obtain rfl : j = 0 := Nat.lt_one_iff.mp hj
  rw [Belongs, if_pos ⟨hf, hi⟩]
  rfl

/-- A character that does not belong is the first one, where what stands before it is in
place. -/
theorem InPlace.firstStray (hbefore : InPlace i f before) (hc : ¬Belongs i f before.length c) :
    FirstStray i f (before ++ c :: after) before.length c where
  at_place := by rw [List.getElem?_append_right (Nat.le_refl _), Nat.sub_self]; rfl
  not_belongs := hc
  belongs_before j hj b hb := by
    rw [List.getElem?_append_left hj] at hb
    exact hbefore j b hb

theorem FirstStray.not_inPlace (h : FirstStray i f cs k c) : ¬InPlace i f cs :=
  fun hcs => h.not_belongs (hcs k c h.at_place)

/-! ### Reading -/

/-- **What is found in a piece of a row**, where there was nothing to find before it: it has
only digits, or it is refused for its first character that is none, which is then the first
of the row that does not belong. -/
theorem digitsOnly_cases (piece rest : List Char) (hfront : InPlace i f front)
    (hside : f ≠ 0 → front.length + piece.length ≤ i ∨ i < front.length)
    (hcs : cs = front ++ (piece ++ rest)) (hstart : start = position + front.length) :
    (InPlace i f (front ++ piece) ∧ digitsOnly start piece = .ok piece) ∨
      ∃ k c, FirstStray i f cs k c ∧
        digitsOnly start piece = .error (.digit c (position + k)) := by
  cases hfirst : Text.firstNonDigit? 0 piece with
  | none =>
    have hdigits := Text.firstNonDigit?_eq_none_iff.mp hfirst
    exact .inl ⟨hfront.append_digits hdigits hside, digitsOnly_eq_ok_iff.mpr ⟨hdigits, rfl⟩⟩
  | some bad =>
    obtain ⟨before, after, rfl, hbefore, hc, hk⟩ := Text.exists_append_of_firstNonDigit? hfirst
    rw [List.length_append, List.length_cons] at hside
    have hinPlace : InPlace i f (front ++ before) :=
      hfront.append_digits hbefore fun hf => (hside hf).imp_left (by omega)
    have hplace : ¬(f ≠ 0 ∧ (front ++ before).length = i) := by
      rw [List.length_append]
      rintro ⟨hf, hi⟩
      have := hside hf
      omega
    have hstray : ¬Belongs i f (front ++ before).length bad.1 := by rwa [belongs_iff hplace]
    have hcut : cs = front ++ before ++ bad.1 :: (after ++ rest) := by simp [hcs]
    have hread : digitsOnly start (before ++ bad.1 :: after) =
        .error (.digit bad.1 (position + (front ++ before).length)) := by
      have hposition : start + bad.2 = position + (front ++ before).length := by
        rw [List.length_append]
        omega
      rw [digitsOnly, hfirst, ← hposition]
    refine .inr ⟨(front ++ before).length, bad.1, ?_, hread⟩
    rw [hcut]
    exact hinPlace.firstStray hstray

/-- **What is found in a row of the right length**: all characters belong where they stand,
and the row is read, or it is refused for the first one that does not. -/
theorem readDigits_cases (hlength : cs.length = formLength i f) (position : Nat) :
    (InPlace i f cs ∧ ∃ ds, readDigits position cs i f = .ok ds) ∨
      ∃ k c, FirstStray i f cs k c ∧
        readDigits position cs i f = .error (.digit c (position + k)) := by
  by_cases hf : f = 0
  · subst hf
    have hall : cs.length = i := by
      rw [formLength, if_pos rfl] at hlength
      omega
    rw [readDigits_zero hall]
    exact (digitsOnly_cases cs [] (inPlace_nil i 0) (absurd rfl) (List.append_nil cs).symm
      rfl).imp_left fun h => ⟨h.1, cs, h.2⟩
  obtain ⟨whole, point, fraction, rfl, rfl, rfl⟩ := exists_split hf hlength
  rw [readDigits_append hf]
  -- the first piece
  have hbegin : (position : Int) = position + ([] : List Char).length := rfl
  obtain ⟨hwhole, hread⟩ | ⟨k, c, hstray, hread⟩ :=
    digitsOnly_cases whole (point :: fraction) (inPlace_nil whole.length fraction.length)
      (fun _ => .inl (Nat.le_of_eq (Nat.zero_add _))) rfl hbegin
  case inr => exact .inr ⟨k, c, hstray, by rw [hread]; rfl⟩
  rw [hread, ok_bind]
  -- the point
  by_cases hpoint : point = '.'
  case neg =>
    refine .inr ⟨whole.length, point, hwhole.firstStray ?_, if_pos hpoint⟩
    rwa [Belongs, if_pos ⟨hf, rfl⟩]
  rw [hpoint, if_neg (not_not_intro rfl)]
  -- the piece behind it
  have hbehind : (position + whole.length + 1 : Int) = position + (whole ++ ['.']).length := by
    rw [List.length_append]
    exact Int.add_assoc ..
  have hpieces : whole ++ '.' :: fraction = whole ++ ['.'] ++ (fraction ++ []) := by simp
  obtain ⟨hall, hread⟩ | ⟨k, c, hstray, hread⟩ :=
    digitsOnly_cases fraction [] (hwhole.append_point hf rfl) (fun _ => .inr (by simp)) hpieces
      hbehind
  · refine .inl ⟨by simpa using hall, whole ++ fraction, ?_⟩
    rw [hread]
    rfl
  · exact .inr ⟨k, c, hstray, by rw [hread]; rfl⟩

/-- **A row in form is a row of digits with its point.** -/
theorem inForm_iff : InForm i f cs ↔
    ∃ ds, cs = pointed i f ds ∧ ds.all Char.isDigit = true ∧ ds.length = i + f := by
  constructor
  · intro h
    obtain ⟨-, ds, hread⟩ | ⟨k, c, hstray, -⟩ := readDigits_cases h.length_eq 0
    · exact ⟨ds, (readDigits_eq_ok_iff h.length_eq).mp hread⟩
    · exact absurd h.inPlace hstray.not_inPlace
  · rintro ⟨ds, rfl, hdigits, hcount⟩
    have hlength := length_pointed hcount
    have hread : readDigits 0 (pointed i f ds) i f = .ok ds :=
      (readDigits_eq_ok_iff hlength).mpr ⟨rfl, hdigits, hcount⟩
    obtain ⟨hplace, -⟩ | ⟨k, c, -, hrefused⟩ := readDigits_cases hlength 0
    · exact ⟨hlength, hplace⟩
    · rw [hread] at hrefused
      cases hrefused

/-- The digits of a row are found in it again. -/
theorem filter_pointed {ds : List Char} (hdigits : ds.all Char.isDigit = true)
    (hlength : ds.length = i + f) : (pointed i f ds).filter Char.isDigit = ds := by
  have hself : ds.filter Char.isDigit = ds :=
    List.filter_eq_self.mpr (List.all_eq_true.mp hdigits)
  by_cases hf : f = 0
  · subst hf
    rw [Nat.add_zero] at hlength
    rw [pointed_zero hlength, hself]
  · rw [pointed, if_neg hf, List.filter_append, List.filter_cons_of_neg (by decide),
      ← List.filter_append, List.take_append_drop, hself]

/-! ### The texts of a field -/

/-- **How a field is read.** -/
structure ReadsForm (i f : Nat) (cs : List Char) : Prop where
  /-- A text of another length is refused for its length. -/
  length_refused : (unsigned cs).length ≠ formLength i f →
    parseSigned cs i f = .error (.width (formLength i f + signLength cs) cs.length)
  /-- A text of the right length that is not in form is refused for the first character
  that does not belong, and where it stands, the sign counted. -/
  stray_refused : (unsigned cs).length = formLength i f → ¬InForm i f (unsigned cs) →
    ∃ k c, FirstStray i f (unsigned cs) k c ∧
      parseSigned cs i f = .error (.digit c (signLength cs + k))
  /-- A text in form is read as the number of its digits, with its sign. -/
  accepted : InForm i f (unsigned cs) →
    parseSigned cs i f =
      .ok (.make (Nat.ofDigitChars 10 ((unsigned cs).filter Char.isDigit) 0) (hasSign cs) f)
  /-- What was read is written as it stood, but for the sign of a zero. -/
  written_back {d : Decimal} (mode : Rounding) : parseSigned cs i f = .ok d →
    formatSigned (.decimal d) i f mode = .ok (withoutZeroSign cs)
  /-- What was read is what the text means as a literal, where there is a digit in it. -/
  literal {d : Decimal} (context : Context) : 0 < i + f → parseSigned cs i f = .ok d →
    Decimal.parse (.text (String.ofList cs)) none context = .ok d

/-- **A field takes the texts of its form and no others**, and of any other it says what is
wrong with it. -/
theorem readsForm (i f : Nat) (cs : List Char) : ReadsForm i f cs where
  length_refused h := by rw [parseSigned_eq, if_pos h]
  stray_refused hlength h := by
    obtain ⟨hplace, -⟩ | ⟨k, c, hstray, hrefused⟩ := readDigits_cases hlength (signLength cs)
    · exact absurd ⟨hlength, hplace⟩ h
    · refine ⟨k, c, hstray, ?_⟩
      rw [parseSigned_eq, if_neg (not_not_intro hlength), hrefused]
      rfl
  accepted h := by
    obtain ⟨ds, hbody, hdigits, hlength⟩ := inForm_iff.mp h
    refine parseSigned_eq_ok_iff.mpr ⟨hasSign cs, ds, ?_, hdigits, hlength, ?_⟩
    · rw [← hbody, withSign_unsigned]
    · rw [hbody, filter_pointed hdigits hlength]
  written_back {d} mode h := by
    obtain ⟨hscale, hfits⟩ := wholePart_lt_of_parseSigned h
    rw [formatSigned_decimal, formatNumber_self hscale hfits, signedText_of_parseSigned h]
  literal {d} context hpos h := by
    obtain ⟨negative, ds, rfl, hdigits, hlength, rfl⟩ := parseSigned_eq_ok_iff.mp h
    rw [Decimal.parse, Decimal.ofTextValue, ofText_withSign_pointed hpos hdigits hlength]
    rfl

/-- A point that comes too early stands where a digit should, and the sign before it counts. -/
example : parseSigned ['-', '1', '.', '5', '0'] (2 : Nat) (1 : Nat) = .error (.digit '.' 2) := rfl

end FixedWidth.Display
