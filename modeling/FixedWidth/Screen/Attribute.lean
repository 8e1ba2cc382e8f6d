import FixedWidth.Fault
import FixedWidth.Text.Case

/-!
# Attributes of screen fields

The attributes that a screen map gives a field: nine codes, written as a list or
as one text with commas, in parentheses or not, in any case and with white space
around. What is written more than once counts once, and the order does not
count: a set of attributes is kept as the codes it has, in the order of their
names.

`Behaviour.ofAttributes` folds attributes into the flags that checks look at.
Only bright and normal contradict each other, and there the later one counts.
-/

namespace FixedWidth.Screen

/-- An attribute of a screen field. -/
inductive Attribute where
  | askip
  | brt
  | drk
  | fset
  | ic
  | norm
  | num
  | prot
  | unprot
deriving DecidableEq, Repr

namespace Attribute

/-- The code of an attribute. -/
def name : Attribute → String
  | askip => "ASKIP"
  | brt => "BRT"
  | drk => "DRK"
  | fset => "FSET"
  | ic => "IC"
  | norm => "NORM"
  | num => "NUM"
  | prot => "PROT"
  | unprot => "UNPROT"

/-- All attributes, in the order of their codes. -/
def all : List Attribute := [askip, brt, drk, fset, ic, norm, num, prot, unprot]

/-- The attribute of a code in capitals. -/
def ofName? (code : List Char) : Option Attribute :=
  all.find? fun a => a.name.toList = code

theorem mem_all (a : Attribute) : a ∈ all := by
  cases a <;> decide

theorem ofName?_name (a : Attribute) : ofName? a.name.toList = some a := by
  cases a <;> decide

/-- A code without the difference between spellings. -/
def normalizeCode (code : String) : List Char :=
  Text.upper (Text.trim code.toList)

/-- The attributes that codes stand for, in the order given. An empty code
stands for none. -/
def ofCodes : List Value → Except Fault (List Attribute)
  | [] => .ok []
  | .text code :: rest =>
    let key := normalizeCode code
    if key.isEmpty then ofCodes rest
    else
      match ofName? key with
      | some a => (ofCodes rest).map (a :: ·)
      | none => .error (.attributeCode (String.ofList key))
  | _ :: _ => .error .notText

/-- Attributes as a set: each once, in the order of the codes. -/
def toSet (attributes : List Attribute) : List Attribute :=
  all.filter fun a => attributes.contains a

theorem mem_toSet {a : Attribute} {attributes : List Attribute} :
    a ∈ toSet attributes ↔ a ∈ attributes := by
  simp [toSet, mem_all]

/-- The codes in a text: without white space around it and then without
parentheses, cut at the commas. -/
def codesOfText (text : String) : List String :=
  let inner := Text.trimWhile (fun c => c == '(' || c == ')') (Text.trim text.toList)
  (inner.splitOn ',').map String.ofList

/-- **The attributes that a value gives**, as a set. Nothing gives none. -/
def parse (codes : Value) : Except Fault (List Attribute) :=
  match codes with
  | .null => .ok []
  | .text s => (ofCodes ((codesOfText s).map .text)).map toSet
  | v =>
    match v.items? with
    | some items => (ofCodes items).map toSet
    | none => .error .wrongKind

end Attribute

/-- What attributes mean for a field. -/
structure Behaviour where
  /-- The field takes no input. -/
  isProtected : Bool := false
  numeric : Bool := false
  hidden : Bool := false
  bright : Bool := false
  initialCursor : Bool := false
  modified : Bool := false
deriving DecidableEq, Repr

namespace Behaviour

/-- The flags with one attribute more. -/
def apply (b : Behaviour) : Attribute → Behaviour
  | .askip => { b with isProtected := true }
  | .prot => { b with isProtected := true }
  | .unprot => b
  | .num => { b with numeric := true }
  | .brt => { b with bright := true }
  | .norm => { b with bright := false }
  | .drk => { b with hidden := true }
  | .ic => { b with initialCursor := true }
  | .fset => { b with modified := true }

/-- **The flags of attributes** taken in order. -/
def ofAttributes (attributes : List Attribute) : Behaviour :=
  attributes.foldl apply {}

end Behaviour

end FixedWidth.Screen
