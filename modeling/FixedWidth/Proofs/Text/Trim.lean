import FixedWidth.Text.Blank
import Mathlib.Data.List.Basic

/-!
# What trimming leaves

A text is trimmed from its front and then from its end. Said of the whole: it is cut into
three pieces, of which the outer two hold nothing but what is trimmed off, and the middle one
neither begins nor ends with such a character (`FixedWidth.Text.Stripped`). The middle piece
is the only one of this kind, also where it is empty and the outer two can be chosen in many
ways; it is what trimming leaves (`FixedWidth.Text.stripped_iff`).

A text that is cut at marks is trimmed piece by piece. It makes no difference then whether the
whole has been trimmed before (`FixedWidth.Text.map_trimWhile_splitOn_trimWhile`), as no mark
is trimmed off.
-/

namespace FixedWidth.Text

variable {p : Char → Bool} {cs core before after : List Char}

/-- **What is left of a text** without the characters at its ends that satisfy `p`. -/
structure Stripped (p : Char → Bool) (cs core : List Char) : Prop where
  exists_ends : ∃ before after, cs = before ++ core ++ after ∧ before.all p = true ∧
    after.all p = true
  head_kept : ∀ c, core.head? = some c → p c = false
  last_kept : ∀ c, core.getLast? = some c → p c = false

/-! ### One end -/

theorem dropWhile_append_of_all (hbefore : before.all p = true)
    (hhead : ∀ c, core.head? = some c → p c = false) : (before ++ core).dropWhile p = core := by
  rw [List.dropWhile_append_of_pos (List.all_eq_true.mp hbefore)]
  cases core with
  | nil => rfl
  | cons c core => exact List.dropWhile_cons_of_neg (Bool.eq_false_iff.mp (hhead c rfl))

theorem dropWhileEnd_append_of_all (hafter : after.all p = true)
    (hlast : ∀ c, core.getLast? = some c → p c = false) : dropWhileEnd p (core ++ after) = core := by
  rw [dropWhileEnd, List.reverse_append, dropWhile_append_of_all, List.reverse_reverse]
  · rwa [List.all_reverse]
  · rwa [List.head?_reverse]

/-- Behind the front that is cut off stands a character that is kept. -/
theorem eq_false_of_head?_dropWhile {c : Char} (h : (cs.dropWhile p).head? = some c) :
    p c = false := by
  have hkept := List.head?_dropWhile_not p cs
  rwa [h] at hkept

/-! ### Both ends -/

theorem trimWhile_append (hbefore : before.all p = true) (hafter : after.all p = true)
    (hhead : ∀ c, core.head? = some c → p c = false)
    (hlast : ∀ c, core.getLast? = some c → p c = false) :
    trimWhile p (before ++ core ++ after) = core := by
  cases core with
  | nil =>
    have hall : (before ++ [] ++ after).all p = true := by
      rw [List.append_nil, List.all_append, hbefore, hafter]
      rfl
    rw [trimWhile, dropWhile_eq_nil_iff_all.mpr hall]
    rfl
  | cons c core =>
    rw [trimWhile, List.append_assoc, dropWhile_append_of_all hbefore,
      dropWhileEnd_append_of_all hafter hlast]
    exact hhead

theorem stripped_trimWhile (p : Char → Bool) (cs : List Char) :
    Stripped p cs (trimWhile p cs) := by
  obtain ⟨rest, hrest⟩ : ∃ rest, cs.dropWhile p = rest := ⟨_, rfl⟩
  have hend : rest = dropWhileEnd p rest ++ (rest.reverse.takeWhile p).reverse := by
    rw [dropWhileEnd, ← List.reverse_append, List.takeWhile_append_dropWhile, List.reverse_reverse]
  have htrim : trimWhile p cs = dropWhileEnd p rest := by rw [trimWhile, hrest]
  rw [htrim]
  refine ⟨⟨cs.takeWhile p, (rest.reverse.takeWhile p).reverse, ?_, List.all_takeWhile, ?_⟩, ?_, ?_⟩
  · rw [List.append_assoc, ← hend, ← hrest, List.takeWhile_append_dropWhile]
  · rw [List.all_reverse]
    exact List.all_takeWhile
  · -- cutting the end does not change what the text begins with
    intro c hc
    have hfront : (cs.dropWhile p).head? = some c := by
      rw [hrest, hend, List.head?_append, hc, Option.some_or]
    exact eq_false_of_head?_dropWhile hfront
  · intro c hc
    rw [dropWhileEnd, List.getLast?_reverse] at hc
    exact eq_false_of_head?_dropWhile hc

theorem mem_of_mem_trimWhile {c : Char} (h : c ∈ trimWhile p cs) : c ∈ cs := by
  obtain ⟨⟨before, after, hcs, -, -⟩, -, -⟩ := stripped_trimWhile p cs
  rw [hcs]
  exact List.mem_append_left after (List.mem_append_right before h)

/-- **Trimming leaves the piece in the middle.** -/
theorem stripped_iff : Stripped p cs core ↔ core = trimWhile p cs := by
  constructor
  · rintro ⟨⟨before, after, rfl, hbefore, hafter⟩, hhead, hlast⟩
    exact (trimWhile_append hbefore hafter hhead hlast).symm
  · rintro rfl
    exact stripped_trimWhile p cs

/-- A text that neither begins nor ends with what is trimmed off is its own trimming. -/
theorem trimWhile_eq_self (hhead : ∀ c, core.head? = some c → p c = false)
    (hlast : ∀ c, core.getLast? = some c → p c = false) : trimWhile p core = core :=
  (stripped_iff.mp ⟨⟨[], [], (List.append_nil core).symm, rfl, rfl⟩, hhead, hlast⟩).symm

/-- **What is trimmed off can be put around a text** without a change to what is left. -/
theorem trimWhile_around (hbefore : before.all p = true) (hafter : after.all p = true)
    (cs : List Char) : trimWhile p (before ++ cs ++ after) = trimWhile p cs := by
  obtain ⟨⟨front, back, hcs, hfront, hback⟩, hhead, hlast⟩ := stripped_trimWhile p cs
  have hends : before ++ cs ++ after =
      (before ++ front) ++ trimWhile p cs ++ (back ++ after) := by
    conv_lhs => rw [hcs]
    simp only [List.append_assoc]
  refine (stripped_iff.mp ⟨⟨before ++ front, back ++ after, hends, ?_, ?_⟩, hhead, hlast⟩).symm
  · rw [List.all_append, hbefore, hfront, Bool.and_self]
  · rw [List.all_append, hback, hafter, Bool.and_self]

/-! ### Pieces between marks -/

section Marks

variable {mark : Char} (hmark : p mark = false)

include hmark

theorem notMem_of_all (h : cs.all p = true) : mark ∉ cs := fun hmem => by
  rw [List.all_eq_true.mp h mark hmem] at hmark
  cases hmark

theorem map_trimWhile_splitOn_append_left (hbefore : before.all p = true) (cs : List Char) :
    ((before ++ cs).splitOn mark).map (trimWhile p) = (cs.splitOn mark).map (trimWhile p) := by
  have hnone : mark ∉ before := notMem_of_all hmark hbefore
  -- only the first piece is longer than before
  have hfirst : ∀ front, mark ∉ front →
      ((before ++ front).splitOn mark).map (trimWhile p) = (front.splitOn mark).map (trimWhile p) := by
    intro front hfront
    have htrim := trimWhile_around hbefore (show ([] : List Char).all p = true from rfl) front
    rw [List.append_nil] at htrim
    rw [List.splitOn_eq_singleton hfront,
      List.splitOn_eq_singleton (List.not_mem_append hnone hfront), List.map_singleton,
      List.map_singleton, htrim]
  by_cases hmem : mark ∈ cs
  · obtain ⟨front, back, rfl, hfront⟩ := List.eq_append_cons_of_mem hmem
    rw [← List.append_assoc, List.splitOn_append_cons_self, List.splitOn_append_cons_self,
      List.map_append, List.map_append, hfirst front hfront]
  · exact hfirst cs hmem

theorem map_trimWhile_splitOn_append_right (hafter : after.all p = true) (cs : List Char) :
    ((cs ++ after).splitOn mark).map (trimWhile p) = (cs.splitOn mark).map (trimWhile p) := by
  have hnone : mark ∉ after := notMem_of_all hmark hafter
  -- only the last piece is longer than before
  have hlast : ∀ back, mark ∉ back →
      ((back ++ after).splitOn mark).map (trimWhile p) = (back.splitOn mark).map (trimWhile p) := by
    intro back hback
    rw [List.splitOn_eq_singleton hback,
      List.splitOn_eq_singleton (List.not_mem_append hback hnone), List.map_singleton,
      List.map_singleton]
    exact congrArg ([·]) (trimWhile_around (show ([] : List Char).all p = true from rfl) hafter back)
  by_cases hmem : mark ∈ cs
  · obtain ⟨back, front, hcs, hback⟩ := List.eq_append_cons_of_mem (List.mem_reverse.mpr hmem)
    obtain rfl : cs = front.reverse ++ mark :: back.reverse := by
      rw [← List.reverse_reverse cs, hcs]
      simp
    rw [List.append_assoc, List.cons_append, List.splitOn_append_cons_self,
      List.splitOn_append_cons_self, List.map_append, List.map_append,
      hlast back.reverse (fun h => hback (List.mem_reverse.mp h))]
  · exact hlast cs hmem

/-- **The trimmed pieces of a text are those of the trimmed text.** -/
theorem map_trimWhile_splitOn_trimWhile (cs : List Char) :
    ((trimWhile p cs).splitOn mark).map (trimWhile p) = (cs.splitOn mark).map (trimWhile p) := by
  obtain ⟨⟨before, after, hcs, hbefore, hafter⟩, -, -⟩ := stripped_trimWhile p cs
  conv_rhs => rw [hcs]
  rw [map_trimWhile_splitOn_append_right hmark hafter,
    map_trimWhile_splitOn_append_left hmark hbefore]

end Marks

end FixedWidth.Text
