import FixedWidth.Proofs.Fault
import FixedWidth.Proofs.Text.Folded
import FixedWidth.Proofs.Text.Trim
import FixedWidth.Screen.Attribute
import Mathlib.Data.List.ReduceOption
import Mathlib.Logic.Relation

/-!
# How attributes are written

Attributes are a set, and what a screen map gives is a row of codes: as a list, or as one text
with commas between the codes, in parentheses or not. Each code is looked at by itself, without
the white space around it and in capitals; so the three notations come down to the same pieces
(`FixedWidth.Screen.Attribute.parse_of_writes`), and the first code that is none is the same one,
too.

Order, repetition and spelling are gone once the set is there
(`FixedWidth.Screen.Attribute.written_alike`). The flags of a set are the last thing in which an
order could show. Each of them is set by certain attributes and stays set, whatever comes after
(`FixedWidth.Screen.Behaviour.flag_foldl_apply`). Bright is the exception, since the attribute of
normal brightness takes it back; there the order counts if both are given, and only then.
-/

namespace FixedWidth.Screen

/-! ### Flags -/

namespace Behaviour

variable {attributes attributes' : List Attribute}

/-- **A flag that is never taken back** is set by the attributes that set it, wherever they
stand. -/
theorem flag_foldl_apply {flag : Behaviour → Bool} {sets : Attribute → Bool} {b : Behaviour}
    (h : ∀ b, ∀ a ∈ attributes, flag (b.apply a) = (flag b || sets a)) :
    flag (attributes.foldl apply b) = (flag b || attributes.any sets) := by
  induction attributes generalizing b with
  | nil => rw [List.foldl_nil, List.any_nil, Bool.or_false]
  | cons a attributes ih =>
    rw [List.foldl_cons, ih fun b a' ha' => h b a' (List.mem_cons_of_mem a ha'),
      h b a List.mem_cons_self, List.any_cons, Bool.or_assoc]

theorem isProtected_ofAttributes :
    (ofAttributes attributes).isProtected = attributes.any fun a => a = .askip || a = .prot :=
  flag_foldl_apply (b := {}) fun b a _ => by cases a <;> simp [apply]

theorem numeric_ofAttributes :
    (ofAttributes attributes).numeric = attributes.any fun a => a = .num :=
  flag_foldl_apply (b := {}) fun b a _ => by cases a <;> simp [apply]

theorem hidden_ofAttributes :
    (ofAttributes attributes).hidden = attributes.any fun a => a = .drk :=
  flag_foldl_apply (b := {}) fun b a _ => by cases a <;> simp [apply]

theorem initialCursor_ofAttributes :
    (ofAttributes attributes).initialCursor = attributes.any fun a => a = .ic :=
  flag_foldl_apply (b := {}) fun b a _ => by cases a <;> simp [apply]

theorem modified_ofAttributes :
    (ofAttributes attributes).modified = attributes.any fun a => a = .fset :=
  flag_foldl_apply (b := {}) fun b a _ => by cases a <;> simp [apply]

/-- The one flag that can be taken back is set like the others if nothing takes it back, and
is not set at all if nothing sets it. -/
theorem bright_ofAttributes (h : ¬(.brt ∈ attributes ∧ .norm ∈ attributes)) :
    (ofAttributes attributes).bright = attributes.any fun a => a = .brt := by
  by_cases hnorm : .norm ∈ attributes
  · have hbrt : attributes.any (fun a => a = .brt) = false := by
      refine List.any_eq_false.mpr fun a ha => ?_
      rw [decide_eq_true_eq]
      rintro rfl
      exact h ⟨ha, hnorm⟩
    rw [hbrt, ofAttributes]
    refine List.foldlRecOn (motive := fun b => b.bright = false) (b := {}) attributes apply rfl
      fun b hb a ha => ?_
    cases a with
    | brt => exact absurd ⟨ha, hnorm⟩ h
    | norm => rfl
    | _ => exact hb
  · refine flag_foldl_apply (b := {}) fun b a ha => ?_
    cases a with
    | norm => exact absurd ha hnorm
    | _ => simp [apply]

/-- **Attributes of one set have the same flags**, in whatever order and how often they are
given, unless they are bright and normal at once. -/
theorem ofAttributes_congr (h : ¬(.brt ∈ attributes ∧ .norm ∈ attributes))
    (hset : ∀ a, a ∈ attributes' ↔ a ∈ attributes) :
    ofAttributes attributes' = ofAttributes attributes := by
  have hany : ∀ sets : Attribute → Bool, attributes'.any sets = attributes.any sets := fun sets =>
    Bool.eq_iff_iff.mpr (by simp only [List.any_eq_true, hset])
  have h' : ¬(.brt ∈ attributes' ∧ .norm ∈ attributes') := by rwa [hset, hset]
  rw [Behaviour.mk.injEq, isProtected_ofAttributes, isProtected_ofAttributes, numeric_ofAttributes,
    numeric_ofAttributes, hidden_ofAttributes, hidden_ofAttributes, bright_ofAttributes h,
    bright_ofAttributes h', initialCursor_ofAttributes, initialCursor_ofAttributes,
    modified_ofAttributes, modified_ofAttributes]
  exact ⟨hany _, hany _, hany _, hany _, hany _, hany _⟩

end Behaviour

namespace Attribute

variable {codes codes' : List String} {code code' : String} {a : Attribute} {v : Value}

/-! ### Codes -/

/-- **Whether a code names an attribute**: without the white space around it and in capitals it
is the attribute's own code. -/
def IsNamedBy (a : Attribute) (code : String) : Prop :=
  Text.upper (Text.trim code.toList) = a.name.toList

instance (a : Attribute) (code : String) : Decidable (a.IsNamedBy code) :=
  inferInstanceAs (Decidable (_ = _))

/-- Whether a code is white space only, which names nothing. -/
def IsBlankCode (code : String) : Prop :=
  code.toList.all Text.isBlank = true

/-- Whether a code is known, or blank. -/
def IsReadable (code : String) : Prop :=
  IsBlankCode code ∨ ∃ a, IsNamedBy a code

/-- What a code says, of which the spelling has been taken away. -/
def readKey (key : List Char) : Except Fault (Option Attribute) :=
  if key.isEmpty then .ok none
  else
    match ofName? key with
    | some a => .ok (some a)
    | none => .error (.attributeCode (String.ofList key))

theorem ofName?_eq_some_iff {key : List Char} : ofName? key = some a ↔ key = a.name.toList := by
  constructor
  · intro h
    have hname := List.find?_some h
    exact (of_decide_eq_true hname).symm
  · rintro rfl
    exact ofName?_name a

theorem upperChar_ne_nil (c : Char) : Text.upperChar c ≠ [] := by
  have hexpansions : ∀ entry ∈ Text.upperExpansions, entry.2 ≠ [] := by decide
  rw [Text.upperChar]
  split
  · exact List.cons_ne_nil _ _
  · dsimp only
    split
    next entry hentry =>
      exact fun h => hexpansions entry (List.mem_of_find?_eq_some hentry) (List.map_eq_nil_iff.mp h)
    next => split <;> exact List.cons_ne_nil _ _

theorem normalizeCode_eq_nil_iff : normalizeCode code = [] ↔ IsBlankCode code := by
  rw [normalizeCode, IsBlankCode, ← Text.trim_eq_nil_iff, Text.upper, List.flatMap_eq_nil_iff]
  constructor
  · intro h
    exact List.eq_nil_iff_forall_not_mem.mpr fun c hc => upperChar_ne_nil c (h c hc)
  · intro h c hc
    rw [h] at hc
    cases hc

theorem name_ne_nil (a : Attribute) : a.name.toList ≠ [] := by
  cases a <;> decide

theorem readKey_eq_ok_some_iff :
    readKey (normalizeCode code) = .ok (some a) ↔ a.IsNamedBy code := by
  rw [IsNamedBy, ← normalizeCode, readKey]
  split
  next hempty =>
    rw [List.isEmpty_iff.mp hempty]
    exact iff_of_false (fun h => nomatch h) fun h => name_ne_nil a h.symm
  next =>
    rw [← ofName?_eq_some_iff]
    cases ofName? (normalizeCode code) <;> simp

/-- **A code is refused exactly when it is neither known nor blank.** -/
theorem readKey_eq_error_iff {f : Fault} : readKey (normalizeCode code) = .error f ↔
    ¬IsReadable code ∧ f = .attributeCode (String.ofList (normalizeCode code)) := by
  have hnamed : ∀ a, IsNamedBy a code ↔ ofName? (normalizeCode code) = some a := fun a => by
    rw [IsNamedBy, ← normalizeCode, ofName?_eq_some_iff]
  rw [IsReadable, not_or, not_exists, ← normalizeCode_eq_nil_iff, readKey]
  simp only [hnamed]
  split
  next hempty => exact iff_of_false (fun h => nomatch h) fun h => h.1.1 (List.isEmpty_iff.mp hempty)
  next hempty =>
    have hne : normalizeCode code ≠ [] := fun h => hempty (List.isEmpty_iff.mpr h)
    cases ofName? (normalizeCode code) with
    | some a => exact iff_of_false (fun h => nomatch h) fun h => h.1.2 a rfl
    | none => simp [hne, eq_comm]

/-! ### Rows of codes -/

/-- What the pieces of a row say, each without white space around it and in capitals. -/
def ofPieces (pieces : List (List Char)) : Except Fault (List Attribute) :=
  ((pieces.map fun piece => Text.upper (Text.trim piece)).mapM readKey).map List.reduceOption

theorem ofCodes_text (codes : List String) :
    ofCodes (codes.map .text) = ofPieces (codes.map String.toList) := by
  induction codes with
  | nil => rfl
  | cons code codes ih =>
    simp only [List.map_cons, ofCodes, ih, ofPieces, List.mapM_cons]
    rw [← normalizeCode, readKey]
    generalize ((codes.map String.toList).map fun piece => Text.upper (Text.trim piece)).mapM
      readKey = rest
    split
    · cases rest <;> rfl
    · cases ofName? (normalizeCode code) <;> cases rest <;> rfl

theorem ofPieces_congr {pieces pieces' : List (List Char)}
    (h : pieces.map Text.trim = pieces'.map Text.trim) : ofPieces pieces = ofPieces pieces' := by
  have hkeys : ∀ pieces : List (List Char), (pieces.map fun piece => Text.upper (Text.trim piece)) =
      (pieces.map Text.trim).map Text.upper := fun pieces => by
    rw [List.map_map]
    rfl
  rw [ofPieces, ofPieces, hkeys, hkeys, h]

/-- **What a row of codes comes to**: the attributes that they name, or the fault of the first
one that cannot be read. -/
theorem ofCodes_cases (codes : List String) :
    (∃ attributes, ofCodes (codes.map .text) = .ok attributes ∧
      (∀ code ∈ codes, IsReadable code) ∧
      ∀ a, a ∈ attributes ↔ ∃ code ∈ codes, a.IsNamedBy code) ∨
    ∃ before code after, codes = before ++ code :: after ∧ (∀ c ∈ before, IsReadable c) ∧
      ¬IsReadable code ∧ ofCodes (codes.map .text) =
        .error (.attributeCode (String.ofList (normalizeCode code))) := by
  have hcodes : ofCodes (codes.map .text) =
      (codes.mapM fun code => readKey (normalizeCode code)).map List.reduceOption := by
    rw [ofCodes_text, ofPieces, List.map_map, List.mapM_map]
    rfl
  have hreadable : ∀ code, (∃ said, readKey (normalizeCode code) = .ok said) → IsReadable code := by
    rintro code ⟨said, hsaid⟩
    by_contra hcode
    cases hsaid.symm.trans (readKey_eq_error_iff.mpr ⟨hcode, rfl⟩)
  rw [hcodes]
  cases hread : codes.mapM fun code => readKey (normalizeCode code) with
  | ok said =>
    have hall := mapM_eq_ok_iff.mp hread
    refine .inl ⟨_, rfl, fun code hcode => hreadable code ?_, fun a => ?_⟩
    · have hmem := List.mem_map_of_mem (f := fun code => readKey (normalizeCode code)) hcode
      rw [hall] at hmem
      obtain ⟨said, -, hsaid⟩ := List.mem_map.mp hmem
      exact ⟨said, hsaid.symm⟩
    · have hsaid : some a ∈ said ↔ Except.ok (some a) ∈ said.map (Except.ok (ε := Fault)) := by
        simp
      rw [List.reduceOption_mem_iff, hsaid, ← hall, List.mem_map]
      simp only [readKey_eq_ok_some_iff]
  | error f =>
    obtain ⟨before, code, after, rfl, hbefore, hcode⟩ := mapM_eq_error_iff.mp hread
    obtain ⟨hunreadable, rfl⟩ := readKey_eq_error_iff.mp hcode
    exact .inr ⟨before, code, after, rfl, fun c hc => hreadable c (hbefore c hc), hunreadable, rfl⟩

/-! ### Notations -/

/-- **The ways to write codes**: as a list, or as a text with commas between them, which can
stand in parentheses. -/
inductive Writes (codes : List String) : Value → Prop where
  | list : Writes codes (.list (codes.map .text))
  | text : Writes codes (.text (String.intercalate "," codes))
  | parenthesized : Writes codes (.text ("(" ++ String.intercalate "," codes ++ ")"))

/-- Whether a character has a meaning between codes. -/
def isMark (c : Char) : Bool :=
  c == ',' || c == '(' || c == ')'

/-- Whether a code can be told from the marks around it. -/
def IsPlain (code : String) : Prop :=
  ∀ c ∈ code.toList, isMark c = false

instance (code : String) : Decidable (IsPlain code) :=
  decidable_of_iff (code.toList.all fun c => !isMark c) (by simp [IsPlain])

theorem ofCodes_codesOfText {text : String} {inner : List Char}
    (hinner : Text.trimWhile (fun c => c == '(' || c == ')') (Text.trim text.toList) = inner) :
    ofCodes ((codesOfText text).map .text) = ofPieces (inner.splitOn ',') := by
  rw [ofCodes_text, codesOfText, hinner, List.map_map]
  refine congrArg ofPieces ?_
  simp [Function.comp_def]

theorem ofPieces_splitOn_intercalate (hplain : ∀ code ∈ codes, IsPlain code) :
    ofPieces ((String.intercalate "," codes).toList.splitOn ',') =
      ofPieces (codes.map String.toList) := by
  rw [String.toList_intercalate]
  cases codes with
  | nil => rfl
  | cons code codes =>
    refine congrArg ofPieces (List.splitOn_intercalate ',' ?_ (List.cons_ne_nil _ _))
    exact List.forall_mem_map.mpr fun code hcode hcomma => by
      cases hplain code hcode ',' hcomma

/-- Between plain codes stand commas and no parentheses. -/
theorem not_parenthesis_of_mem_intercalate (hplain : ∀ code ∈ codes, IsPlain code) {c : Char}
    (hc : c ∈ (String.intercalate "," codes).toList) : (c == '(' || c == ')') = false := by
  have hmark : ∀ c : Char, isMark c = false → (c == '(' || c == ')') = false := by
    intro c hc
    rw [isMark, Bool.or_assoc] at hc
    exact (Bool.or_eq_false_iff.mp hc).2
  rw [String.toList_intercalate] at hc
  induction codes with
  | nil => cases hc
  | cons code codes ih =>
    obtain ⟨hcode, hcodes⟩ := List.forall_mem_cons.mp hplain
    cases codes with
    | nil => exact hmark c (hcode c (by simpa using hc))
    | cons code' codes =>
      rw [List.map_cons, List.map_cons, List.intercalate_cons_cons, List.mem_append,
        List.mem_append] at hc
      rcases hc with (hc | hc) | hc
      · exact hmark c (hcode c hc)
      · obtain rfl := List.mem_singleton.mp hc
        rfl
      · exact ih hcodes hc

/-- **All notations of a row of codes say the same.** -/
theorem parse_of_writes (hplain : ∀ code ∈ codes, IsPlain code) (h : Writes codes v) :
    parse v = (ofCodes (codes.map .text)).map toSet := by
  have htext : ∀ {text : String} {inner : List Char},
      Text.trimWhile (fun c => c == '(' || c == ')') (Text.trim text.toList) = inner →
      (inner.splitOn ',').map Text.trim =
        ((String.intercalate "," codes).toList.splitOn ',').map Text.trim →
      parse (.text text) = (ofCodes (codes.map .text)).map toSet := by
    intro text inner hinner hpieces
    rw [parse, ofCodes_codesOfText hinner, ofPieces_congr hpieces,
      ofPieces_splitOn_intercalate hplain, ofCodes_text]
  have hnone := fun c => not_parenthesis_of_mem_intercalate hplain (c := c)
  cases h with
  | list => rfl
  | text =>
    refine htext (Text.trimWhile_eq_self ?_ ?_)
      (Text.map_trimWhile_splitOn_trimWhile (by decide) _)
    · exact fun c hc => hnone c (Text.mem_of_mem_trimWhile (List.mem_of_head? hc))
    · exact fun c hc => hnone c (Text.mem_of_mem_trimWhile (List.mem_of_getLast? hc))
  | parenthesized =>
    have htrim : Text.trim ("(" ++ String.intercalate "," codes ++ ")").toList =
        ['('] ++ (String.intercalate "," codes).toList ++ [')'] := by
      rw [String.toList_append, String.toList_append]
      change Text.trim (['('] ++ _ ++ [')']) = _
      refine Text.trimWhile_eq_self (fun c hc => ?_) fun c hc => ?_
      · obtain rfl := Option.some.inj hc
        decide
      · rw [List.getLast?_append, List.getLast?_singleton, Option.some_or] at hc
        obtain rfl := Option.some.inj hc
        decide
    refine htext ?_ rfl
    rw [htrim]
    exact Text.trimWhile_append (by decide) (by decide)
      (fun c hc => hnone c (List.mem_of_head? hc)) fun c hc => hnone c (List.mem_of_getLast? hc)

/-! ### Rows that say the same -/

/-- **Two spellings of one code**: they differ in the white space around and in the case of
ASCII letters. -/
def SameCode (code code' : String) : Prop :=
  (Text.trim code.toList).map Char.toLower = (Text.trim code'.toList).map Char.toLower

instance (code code' : String) : Decidable (SameCode code code') :=
  inferInstanceAs (Decidable (_ = _))

/-- **A row of codes written in another way**: in another order, with a code given once more,
or with one in another spelling. -/
inductive Rewriting : List String → List String → Prop where
  | order {codes codes' : List String} (h : codes.Perm codes') : Rewriting codes codes'
  | again {codes : List String} {code : String} (h : code ∈ codes) :
      Rewriting codes (code :: codes)
  | spelling {before after : List String} {code code' : String} (h : SameCode code code') :
      Rewriting (before ++ code :: after) (before ++ code' :: after)

/-- **Whether a row has a code of some kind** does not depend on how it is written, if the kind
does not depend on the spelling. -/
theorem exists_iff_of_rewriting {p : String → Prop}
    (hp : ∀ code code', SameCode code code' → (p code ↔ p code'))
    (h : Relation.EqvGen Rewriting codes codes') :
    (∃ code ∈ codes, p code) ↔ ∃ code ∈ codes', p code := by
  induction h with
  | rel codes codes' h =>
    cases h with
    | order h => exact exists_congr fun code => and_congr_left' h.mem_iff
    | again h =>
      rw [List.exists_mem_cons_iff]
      exact ⟨.inr, fun hor => hor.elim (fun hcode => ⟨_, h, hcode⟩) id⟩
    | spelling h => simp only [List.mem_append, List.mem_cons, or_and_right, exists_or,
        exists_eq_left, hp _ _ h]
  | refl => rfl
  | symm _ _ _ ih => exact ih.symm
  | trans _ _ _ _ _ ih ih' => exact ih.trans ih'

theorem forall_iff_of_rewriting {p : String → Prop}
    (hp : ∀ code code', SameCode code code' → (p code ↔ p code'))
    (h : Relation.EqvGen Rewriting codes codes') :
    (∀ code ∈ codes, p code) ↔ ∀ code ∈ codes', p code := by
  have hnot := exists_iff_of_rewriting (p := fun code => ¬p code)
    (fun code code' h => not_congr (hp code code' h)) h
  simpa only [exists_prop, not_exists, not_and, not_not] using not_congr hnot

theorem isNamedBy_congr (h : SameCode code code') : a.IsNamedBy code ↔ a.IsNamedBy code' := by
  rw [IsNamedBy, IsNamedBy, ← Text.upper_map_toLower, h, Text.upper_map_toLower]

theorem isReadable_congr (h : SameCode code code') : IsReadable code ↔ IsReadable code' := by
  have hblank : ∀ code : String,
      IsBlankCode code ↔ (Text.trim code.toList).map Char.toLower = [] := fun code => by
    rw [IsBlankCode, ← Text.trim_eq_nil_iff, List.map_eq_nil_iff]
  rw [IsReadable, IsReadable, hblank, hblank, h]
  exact or_congr_right (exists_congr fun a => isNamedBy_congr h)

theorem isMark_toLower : ∀ c : Char, isMark c.toLower = isMark c :=
  Text.congr_toLower isMark (by decide)

theorem isPlain_iff :
    IsPlain code ↔ ∀ c ∈ (Text.trim code.toList).map Char.toLower, isMark c = false := by
  obtain ⟨⟨before, after, hcs, hbefore, hafter⟩, -, -⟩ :=
    Text.stripped_trimWhile Text.isBlank code.toList
  -- what is trimmed off is no mark
  have hblank : ∀ cs : List Char, cs.all Text.isBlank = true → ∀ c ∈ cs, isMark c = false := by
    intro cs hcs c hc
    have hc := List.all_eq_true.mp hcs c hc
    rw [isMark, Bool.or_assoc, Bool.or_eq_false_iff, Bool.or_eq_false_iff]
    refine ⟨?_, ?_, ?_⟩ <;>
    · rw [beq_eq_false_iff_ne]
      rintro rfl
      exact absurd hc (by decide)
  rw [List.forall_mem_map, IsPlain]
  simp only [isMark_toLower]
  conv_lhs => rw [hcs]
  rw [List.forall_mem_append, List.forall_mem_append]
  exact ⟨fun h => h.1.2, fun h => ⟨⟨hblank before hbefore, h⟩, hblank after hafter⟩⟩

theorem isPlain_congr (h : SameCode code code') : IsPlain code ↔ IsPlain code' := by
  rw [isPlain_iff, isPlain_iff, h]

/-- Attributes are one set when they are the same. -/
theorem toSet_congr {attributes attributes' : List Attribute}
    (h : ∀ a, a ∈ attributes' ↔ a ∈ attributes) : toSet attributes' = toSet attributes :=
  List.filter_congr fun a _ => by
    rw [Bool.eq_iff_iff, List.contains_iff_mem, List.contains_iff_mem, h]

/-- **A row of codes means the same however it is written.** In all notations it gives the set of
the attributes that its codes name, or has the fault of the first code that is neither known nor
blank. Where there is no such code, order, repetitions and spelling do not show in the set, and
the flags do not depend on the order in which its attributes are taken, unless they are bright
and normal at once. -/
theorem written_alike (hplain : ∀ code ∈ codes, IsPlain code) :
    (∃ outcome, (∀ v, Writes codes v → parse v = outcome) ∧
      ((∃ set, outcome = .ok set ∧ (∀ code ∈ codes, IsReadable code) ∧
          ∀ a, a ∈ set ↔ ∃ code ∈ codes, a.IsNamedBy code) ∨
        ∃ before code after, codes = before ++ code :: after ∧ (∀ c ∈ before, IsReadable c) ∧
          ¬IsReadable code ∧ outcome =
            .error (.attributeCode (String.ofList (Text.upper (Text.trim code.toList)))))) ∧
    ((∀ code ∈ codes, IsReadable code) →
      ¬((∃ code ∈ codes, brt.IsNamedBy code) ∧ ∃ code ∈ codes, norm.IsNamedBy code) →
      ∃ set, (∀ codes' v, Relation.EqvGen Rewriting codes codes' → Writes codes' v →
          parse v = .ok set) ∧
        ∀ order : List Attribute, (∀ a, a ∈ order ↔ a ∈ set) →
          Behaviour.ofAttributes order = Behaviour.ofAttributes set) := by
  refine ⟨⟨_, fun v => parse_of_writes hplain, ?_⟩, fun hreadable hbright => ?_⟩
  · rcases ofCodes_cases codes with ⟨attributes, hread, hreadable, hmem⟩ |
      ⟨before, code, after, hcodes, hbefore, hcode, hread⟩
    · rw [hread]
      exact .inl ⟨toSet attributes, rfl, hreadable, fun a => mem_toSet.trans (hmem a)⟩
    · rw [hread]
      exact .inr ⟨before, code, after, hcodes, hbefore, hcode, rfl⟩
  · have hanswer : ∀ codes : List String, (∀ code ∈ codes, IsReadable code) →
        ∃ attributes, ofCodes (codes.map .text) = .ok attributes ∧
          ∀ a, a ∈ attributes ↔ ∃ code ∈ codes, a.IsNamedBy code := by
      intro codes hreadable
      rcases ofCodes_cases codes with ⟨attributes, hread, -, hmem⟩ |
        ⟨before, code, after, rfl, -, hcode, -⟩
      · exact ⟨attributes, hread, hmem⟩
      · exact absurd (hreadable code (by simp)) hcode
    obtain ⟨attributes, hread, hmem⟩ := hanswer codes hreadable
    refine ⟨toSet attributes, fun codes' v hcodes' hv => ?_, fun order horder => ?_⟩
    · obtain ⟨attributes', hread', hmem'⟩ := hanswer codes'
        ((forall_iff_of_rewriting (fun _ _ => isReadable_congr) hcodes').mp hreadable)
      have hsame : ∀ a, a ∈ attributes' ↔ a ∈ attributes := fun a => by
        rw [hmem, hmem', exists_iff_of_rewriting (fun _ _ => isNamedBy_congr) hcodes']
      have hplain' := (forall_iff_of_rewriting (fun _ _ => isPlain_congr) hcodes').mp hplain
      rw [parse_of_writes hplain' hv, hread', ← toSet_congr hsame]
      rfl
    · refine Behaviour.ofAttributes_congr ?_ horder
      rwa [mem_toSet, mem_toSet, hmem, hmem]

/-- Two codes in a list, and the same in parentheses in another order, spelled otherwise and one
of them twice. -/
theorem cursor_written_alike : (∀ code ∈ [" fset", "Ic"], IsPlain code) ∧
    (∀ code ∈ [" fset", "Ic"], IsReadable code) ∧
    Relation.EqvGen Rewriting [" fset", "Ic"] ["IC", "IC", "fset"] ∧
    parse (.list [.text " fset", .text "Ic"]) = .ok [fset, ic] ∧
    parse (.text "(IC,IC,fset)") = .ok [fset, ic] ∧
    Behaviour.ofAttributes [ic, fset] = Behaviour.ofAttributes [fset, ic] := by
  have hplain : ∀ code ∈ [" fset", "Ic"], IsPlain code := by decide
  have hreadable : ∀ code ∈ [" fset", "Ic"], IsReadable code :=
    List.forall_mem_cons.mpr ⟨.inr ⟨fset, by decide⟩,
      List.forall_mem_cons.mpr ⟨.inr ⟨ic, by decide⟩, List.forall_mem_nil _⟩⟩
  have hbright : ¬((∃ code ∈ [" fset", "Ic"], brt.IsNamedBy code) ∧
      ∃ code ∈ [" fset", "Ic"], norm.IsNamedBy code) := by decide
  have hfirst : Rewriting ([] ++ " fset" :: ["Ic"]) ([] ++ "fset" :: ["Ic"]) :=
    .spelling (by decide)
  have hsecond : Rewriting (["fset"] ++ "Ic" :: []) (["fset"] ++ "IC" :: []) :=
    .spelling (by decide)
  have hrewriting : Relation.EqvGen Rewriting [" fset", "Ic"] ["IC", "IC", "fset"] :=
    .trans _ _ _ (.rel _ _ hfirst) (.trans _ _ _ (.rel _ _ hsecond)
      (.trans _ _ _ (.rel _ _ (.order (.swap "IC" "fset" [])))
        (.rel _ _ (.again List.mem_cons_self))))
  obtain ⟨set, hset, hflags⟩ := (written_alike hplain).2 hreadable hbright
  obtain rfl : [fset, ic] = set := Except.ok.inj (hset _ _ (.refl _) .list)
  exact ⟨hplain, hreadable, hrewriting, hset _ _ (.refl _) .list, hset _ _ hrewriting .parenthesized,
    hflags [ic, fset] fun a => by simp [or_comm]⟩

end Attribute

end FixedWidth.Screen
