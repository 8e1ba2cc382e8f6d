import FixedWidth.Picture.Geometry
import FixedWidth.Screen.Attribute
import FixedWidth.Text.Integer

/-!
# Definitions of screen fields

A field of a screen as a configuration describes it. A configuration is a value
from a document, so its entries can be of any kind; what is needed to be a name,
a length or attributes is converted here, while the picture, the clause and the
usage are kept as they were given and only looked at where they are used.
-/

namespace FixedWidth

/-- The integer that a value stands for: fractions are cut off, truth values
count as one and zero, and a text is read. -/
def Value.toInteger : Value → Except Fault Int
  | .truth b => .ok (if b then 1 else 0)
  | .integer z => .ok z
  | .double x =>
    match x with
    | .notNumber => .error .integerOfNotNumber
    | .infinite _ => .error .integerOfInfinity
    | .finite _ _ _ => .ok (x.truncate?.getD 0)
  | .scientific x =>
    match x.toDecimal? with
    | some d => .ok (if d.negative then -(d.wholePart : Int) else d.wholePart)
    | none => .error .wrongKind
  | .text s =>
    match Text.readInteger? s.toList with
    | some z => .ok z
    | none => .error (.notInteger 10 s)
  | _ => .error .wrongKind

/-- The value of a name that a record has to have. -/
def Value.require (entries : List (String × Value)) (name : String) : Except Fault Value :=
  match Entries.get? entries name with
  | some v => .ok v
  | none => .error (.missingName name)

/-- The entries of a value that has to be a record; of a table, those whose names
are texts. -/
def Value.toRecord : Value → Except Fault (List (String × Value))
  | .record entries => .ok entries
  | .table entries => .ok (entries.filterMap Value.namedEntry?)
  | _ => .error .wrongKind

namespace Screen

/-- A field of a screen. -/
structure Definition where
  name : String
  /-- The most characters the field takes. -/
  length : Option Int
  /-- The picture its content has to match; nothing where there is none. -/
  picture : Value
  attributes : List Attribute
  /-- Whether the field has to be filled. -/
  mustFill : Bool
  /-- The picture clause of the field's storage. -/
  storagePicture : Value
  usage : Value

namespace Definition

/-- What the field's attributes mean. -/
def behaviour (d : Definition) : Behaviour :=
  .ofAttributes d.attributes

/-- The geometry of the field's storage, if a clause is given. -/
def geometry (d : Definition) : Except Fault (Option Geometry) :=
  if !d.storagePicture.isTrue then .ok none
  else
    match d.storagePicture with
    | .text picture => (Geometry.ofPicture picture).map some
    | _ => .error .notText

/-- A length, where one is given. -/
def readLength (v : Value) : Except Fault (Option Int) :=
  match v with
  | .null => .ok none
  | v => v.toInteger.map some

/-- **The field that a configuration describes.** Two entries have two names. -/
def ofValue (v : Value) : Except Fault Definition := do
  let entries ← v.toRecord
  let entry := Value.entry entries
  let name ← Value.require entries "name"
  let length ← readLength (entry "length")
  let attributes ← Attribute.parse ((entry "attributes").orElse (entry "attrb"))
  return {
    name := name.toText
    length := length
    picture := (entry "picture").orElse (entry "picin")
    attributes := attributes
    mustFill := (entry "mustfill").isTrue
    storagePicture := entry "pic"
    usage := entry "usage" }

end Definition

end Screen

end FixedWidth
