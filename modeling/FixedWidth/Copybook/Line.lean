import FixedWidth.Picture.Geometry
import FixedWidth.Text.Digit
import FixedWidth.Text.Lines
import FixedWidth.Text.Word

/-!
# Lines of a copybook

One line of a copybook as an entry of a record layout: a level number, a name,
and the clauses that matter to the layout, which are looked for anywhere in the
line. Blank lines, comments and lines without a level number and a name say
nothing, and neither do the levels of conditions and of renamings.

Keywords are recognised without regard to case. The clause of a picture is the
first place at which the word and at least one symbol stand, and a usage is
looked for only behind it.
-/

namespace FixedWidth.Copybook

/-- The picture of an elementary item, and the name of its usage. -/
structure Clause where
  picture : String
  usage : Option String
deriving DecidableEq, Repr

/-- What a line says about the layout. -/
structure Entry where
  level : Nat
  name : String
  /-- How often the item stands in a row. -/
  occurs : Nat
  /-- Whether the item lies over another one. -/
  redefines : Bool
  /-- The picture and usage; a group has none. -/
  clause : Option Clause
deriving DecidableEq, Repr

/-! ### Level and name -/

/-- Whether a data name can hold the character. -/
def isNameChar (c : Char) : Bool :=
  let folded := Text.foldLetter c
  folded.isUpper || c.isDigit || c == '_' || c == '-'

/-- The level number and the data name at the beginning of a line. -/
def levelAndName? (line : List Char) : Option (Nat × List Char) :=
  let cs := line.dropWhile Text.isBlank
  let ds := cs.takeWhile Text.isAnyDigit
  if ds.length = 1 ∨ ds.length = 2 then
    match Text.dropBlanks? (cs.drop ds.length) with
    | none => none
    | some rest =>
      let name := rest.takeWhile isNameChar
      if name.isEmpty then none else some (Text.digitsValue ds, name)
  else none

/-- Levels whose entries take no storage. -/
def isSkippedLevel (level : Nat) : Bool :=
  level == 66 || level == 88

/-- An independent item stands on the first level. -/
def normalizeLevel (level : Nat) : Nat :=
  if level = 77 then 1 else level

/-! ### Clauses -/

/-- Whether a picture in a clause can hold the character. -/
def isPictureChar (c : Char) : Bool :=
  let folded := Text.foldLetter c
  folded == 'X' || folded == 'A' || folded == 'S' || folded == 'V' || folded == 'P' ||
    folded == 'Z' || c == '(' || c == ')' || c.isDigit

/-- The picture that a clause at the beginning of a text gives, and what
follows. -/
def pictureAt? (cs : List Char) : Option (List Char × List Char) :=
  match Geometry.afterIntroduction? cs with
  | none => none
  | some rest =>
    let symbols := rest.takeWhile isPictureChar
    if symbols.isEmpty then none else some (symbols, rest.drop symbols.length)

/-- The words for a usage; of two that begin alike the longer comes first. -/
def usageWords : List String :=
  ["COMPUTATIONAL-3", "COMPUTATIONAL-4", "COMPUTATIONAL-5", "COMPUTATIONAL", "COMP-3", "COMP-4",
    "COMP-5", "COMP", "BINARY", "PACKED-DECIMAL", "DISPLAY"]

/-- The word for a usage at the beginning of a text, as it is written there. -/
def usageAt? (cs : List Char) : Option (List Char) :=
  usageWords.findSome? fun word =>
    match Text.dropKeyword? word.toList cs with
    | some rest => if Text.wordEnds rest then some (cs.take word.length) else none
    | none => none

/-- The one name for a usage that has several. -/
def canonicalUsage (usage : String) : String :=
  if usage = "COMPUTATIONAL" then "COMP"
  else if usage = "COMPUTATIONAL-3" then "COMP-3"
  else if usage = "COMPUTATIONAL-4" then "COMP-4"
  else if usage = "COMPUTATIONAL-5" then "COMP-5"
  else if usage = "PACKED-DECIMAL" then "COMP-3"
  else usage

/-- The usage that the rest of a line names first. -/
def usageIn (rest : List Char) : Option String :=
  let found := Text.firstPlace? (fun before cs =>
    if Text.wordCanBegin before then usageAt? cs else none) none rest
  found.map fun word => canonicalUsage (String.ofList (Text.upper word))

/-- The picture and usage of a line, if it has a picture. -/
def clauseIn (line : List Char) : Option Clause :=
  match Text.firstPlace? (fun _ cs => pictureAt? cs) none line with
  | none => none
  | some (symbols, rest) => some ⟨String.ofList (Text.upper symbols), usageIn rest⟩

/-- The count that a clause at the beginning of a text gives. -/
def occursAt? (cs : List Char) : Option Nat :=
  match (Text.dropKeyword? "OCCURS".toList cs).bind Text.dropBlanks? with
  | none => none
  | some rest =>
    let ds := rest.takeWhile Text.isAnyDigit
    if ds.isEmpty then none else some (Text.digitsValue ds)

/-- How often the item of a line stands in a row. -/
def occursIn (line : List Char) : Nat :=
  (Text.firstPlace? (fun _ cs => occursAt? cs) none line).getD 1

/-- Whether a line has the word for lying over another item. -/
def redefinesIn (line : List Char) : Bool :=
  let found := Text.firstPlace? (fun before cs =>
    match Text.dropKeyword? "REDEFINES".toList cs with
    | some rest => if Text.wordCanBegin before && Text.wordEnds rest then some () else none
    | none => none) none line
  found.isSome

/-! ### Entries -/

/-- Whether a line is blank or a comment. -/
def isRemark (line : List Char) : Bool :=
  match Text.trim line with
  | [] => true
  | c :: _ => c == '*'

/-- **What a line says about the layout**, if it says anything. -/
def readLine? (line : List Char) : Option Entry :=
  if isRemark line then none
  else
    match levelAndName? line with
    | none => none
    | some (level, name) =>
      if isSkippedLevel level then none
      else
        some {
          level := normalizeLevel level
          name := String.ofList (Text.upper name)
          occurs := occursIn line
          redefines := redefinesIn line
          clause := clauseIn line }

/-- The entries without those that lie over others, and without what stands
below them. `overlay` is the level of an entry left out just before. -/
def dropOverlays : (overlay : Option Nat) → List Entry → List Entry
  | _, [] => []
  | overlay, e :: es =>
    if overlay.any (· < e.level) then dropOverlays overlay es
    else if e.redefines then dropOverlays (some e.level) es
    else e :: dropOverlays none es

/-- The entries of a copybook that take storage of their own. -/
def entries (text : List Char) : List Entry :=
  dropOverlays none ((Text.lines text).filterMap readLine?)

end FixedWidth.Copybook
