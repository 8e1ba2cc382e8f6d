import FixedWidth.Display.Text

/-!
# Text fields, written and read back

The spaces that fill a field cannot be told from those at the end of a text that
fills it. So reading gives back the text that was written, cut to the field's
width, without the spaces at that end (`FixedWidth.Display.unfit_fit`); and a
field that is read and written again comes back as it was, since whatever its
reading dropped is spaces (`FixedWidth.Display.fit_unfit`).

The two sides on which a field can be filled are not symmetric: a text that is too
long loses its end on either of them. `FixedWidth.Display.textField_invertible` says
for both what is shown and what is read, and that nothing of another width is.
-/

namespace FixedWidth

namespace Text

/-- Spaces are dropped from the beginning however many there are. -/
theorem dropWhile_replicate_append (n : Nat) (cs : List Char) :
    (List.replicate n ' ' ++ cs).dropWhile (· == ' ') = cs.dropWhile (· == ' ') := by
  induction n with
  | zero => rfl
  | succ n ih => rw [List.replicate_succ, List.cons_append, List.dropWhile_cons_of_pos rfl, ih]

theorem dropWhileEnd_append_replicate (n : Nat) (cs : List Char) :
    dropWhileEnd (· == ' ') (cs ++ List.replicate n ' ') = dropWhileEnd (· == ' ') cs := by
  rw [dropWhileEnd, List.reverse_append, List.reverse_replicate, dropWhile_replicate_append]
  rfl

/-- What is dropped from the beginning is spaces. -/
theorem exists_replicate_append_dropWhile (cs : List Char) :
    ∃ n, cs = List.replicate n ' ' ++ cs.dropWhile (· == ' ') := by
  refine ⟨(cs.takeWhile (· == ' ')).length, ?_⟩
  have hspaces : ∀ c ∈ cs.takeWhile (· == ' '), c = ' ' := fun c hc => by
    simpa using List.all_eq_true.mp List.all_takeWhile c hc
  rw [← List.eq_replicate_iff.mpr ⟨rfl, hspaces⟩]
  exact List.takeWhile_append_dropWhile.symm

theorem exists_dropWhileEnd_append_replicate (cs : List Char) :
    ∃ n, cs = dropWhileEnd (· == ' ') cs ++ List.replicate n ' ' := by
  obtain ⟨n, hn⟩ := exists_replicate_append_dropWhile cs.reverse
  refine ⟨n, ?_⟩
  rw [dropWhileEnd, ← List.reverse_replicate, ← List.reverse_append, ← hn, List.reverse_reverse]

end Text

namespace Display

/-- **Reading gives back what was written**, cut to the width and without the
spaces on the side that is filled. -/
theorem unfit_fit (pad : Pad) (width : Nat) (cs : List Char) :
    unfit pad (fit pad width cs) = unfit pad (cs.take width) := by
  cases pad with
  | left => exact Text.dropWhile_replicate_append _ _
  | right => exact Text.dropWhileEnd_append_replicate _ _

/-- **A field that is read and written again comes back as it was.** -/
theorem fit_unfit (pad : Pad) (cs : List Char) : fit pad cs.length (unfit pad cs) = cs := by
  cases pad with
  | left =>
    obtain ⟨n, hn⟩ := Text.exists_replicate_append_dropWhile cs
    have hlen := congrArg List.length hn
    rw [List.length_append, List.length_replicate] at hlen
    have htake : (cs.dropWhile (· == ' ')).take cs.length = cs.dropWhile (· == ' ') :=
      List.take_of_length_le (by omega)
    -- as many spaces are filled in as were dropped
    have hcount : cs.length - (cs.dropWhile (· == ' ')).length = n := by omega
    rw [fit, unfit, htake, List.leftpad, hcount, ← hn]
  | right =>
    obtain ⟨n, hn⟩ := Text.exists_dropWhileEnd_append_replicate cs
    have hlen := congrArg List.length hn
    rw [List.length_append, List.length_replicate] at hlen
    have htake : (Text.dropWhileEnd (· == ' ') cs).take cs.length =
        Text.dropWhileEnd (· == ' ') cs := List.take_of_length_le (by omega)
    have hcount : cs.length - (Text.dropWhileEnd (· == ' ') cs).length = n := by omega
    rw [fit, unfit, htake, List.rightpad, hcount, ← hn]

/-- A text of the field's width has nothing cut off and nothing filled in. -/
theorem fit_self {width : Nat} {cs : List Char} (pad : Pad) (h : cs.length = width) :
    fit pad width cs = cs := by
  have htake : cs.take width = cs := List.take_of_length_le (by omega)
  cases pad <;> simp [fit, htake, List.leftpad, List.rightpad, h]

/-! ### Text with spaces on one side -/

/-- **A text with spaces on a side**, as many as may be. -/
def Filled (pad : Pad) (text cs : List Char) : Prop :=
  match pad with
  | .left => ∃ k, cs = List.replicate k ' ' ++ text
  | .right => ∃ k, cs = text ++ List.replicate k ' '

/-- The character that a text has on a side. -/
def outermost? (pad : Pad) (cs : List Char) : Option Char :=
  match pad with
  | .left => cs.head?
  | .right => cs.getLast?

/-- **What is left of a text without the spaces on a side.** White space of other kinds
is left, and so are spaces anywhere else. -/
structure Bared (pad : Pad) (cs bare : List Char) : Prop where
  filled : Filled pad bare cs
  outermost_ne : outermost? pad bare ≠ some ' '

theorem filled_fit (pad : Pad) (width : Nat) (cs : List Char) :
    Filled pad (cs.take width) (fit pad width cs) := by
  cases pad <;> exact ⟨_, rfl⟩

/-- **Reading drops the spaces on the side that is filled**, and nothing else. -/
theorem bared_unfit (pad : Pad) (cs : List Char) : Bared pad cs (unfit pad cs) := by
  -- what is dropped comes to an end at the first character that is no space
  have hkept : ∀ cs : List Char, (cs.dropWhile (· == ' ')).head? ≠ some ' ' := fun cs hspace => by
    have hnot := List.head?_dropWhile_not (· == ' ') cs
    rw [hspace] at hnot
    cases hnot
  cases pad with
  | left => exact ⟨Text.exists_replicate_append_dropWhile cs, hkept cs⟩
  | right =>
    refine ⟨Text.exists_dropWhileEnd_append_replicate cs, ?_⟩
    rw [outermost?, unfit, Text.dropWhileEnd, List.getLast?_reverse]
    exact hkept cs.reverse

/-! ### The field -/

theorem formatText_natCast (text : Option (List Char)) (width : Nat) (pad : Pad) :
    formatText text width pad = .ok (fit pad width (text.getD [])) := by
  rw [formatText, if_neg (by omega), Int.toNat_natCast]

theorem parseText_natCast (cs : List Char) (width : Nat) (pad : Pad) :
    parseText cs width pad =
      if cs.length = width then .ok (unfit pad cs) else .error (.width width cs.length) := by
  simp only [parseText, ne_eq, Int.ofNat_inj, ite_not]

/-- **How a field of so many characters shows text**, spaces filling it on a side. -/
structure ShowsFilled (pad : Pad) (width : Nat) : Prop where
  /-- What is shown has the field's width and is left as it is when it is written again.
  It is the text, cut at its end to the width, with spaces on the side; and what is read
  from it is that text without the spaces that it has on that side itself. -/
  read_shown (text : Option (List Char)) : ∃ cs bare,
    formatText text width pad = .ok cs ∧ cs.length = width ∧
      Filled pad ((text.getD []).take width) cs ∧ formatText (some cs) width pad = .ok cs ∧
      parseText cs width pad = .ok bare ∧ Bared pad ((text.getD []).take width) bare
  /-- What is read from a text of the field's width is shown as that text. -/
  shown_read {cs : List Char} : cs.length = width →
    ∃ bare, parseText cs width pad = .ok bare ∧ formatText (some bare) width pad = .ok cs
  /-- Nothing is read from a text of another width. -/
  width_refused {cs : List Char} : cs.length ≠ width →
    parseText cs width pad = .error (.width width cs.length)

/-- **Writing and reading text undo each other up to the spaces that fill the field**, on
either side and for every width. -/
theorem textField_invertible (pad : Pad) (width : Nat) : ShowsFilled pad width where
  read_shown text := by
    have hlength := length_fit pad width (text.getD [])
    refine ⟨fit pad width (text.getD []), _, formatText_natCast .., hlength, filled_fit .., ?_, ?_,
      bared_unfit pad _⟩
    · rw [formatText_natCast, Option.getD_some, fit_self pad hlength]
    · rw [parseText_natCast, if_pos hlength, unfit_fit]
  shown_read {cs} h := by
    refine ⟨unfit pad cs, ?_, ?_⟩
    · rw [parseText_natCast, if_pos h]
    · rw [formatText_natCast, Option.getD_some, ← h, fit_unfit]
  width_refused {cs} h := by rw [parseText_natCast, if_neg h]

end Display

end FixedWidth
