import FixedWidth.Document.Yaml.Cursor
import FixedWidth.Document.Yaml.Token
import FixedWidth.Text.Hex
import FixedWidth.Text.Utf8

/-!
# Names, tags and directives

What is written around the content of a document: names of parts and references
to them, tags, which say what a part is, and the instructions before a document.
A tag is a handle, which stands for the beginning of a longer name, and the rest
of that name, in which bytes can be written by two hexadecimal digits each.
-/

namespace FixedWidth.Yaml

/-- Whether a character can stand in the name of a part. -/
def isNameChar (c : Char) : Bool :=
  c.isAlphanum || c == '-' || c == '_'

/-- Whether a character can stand in the longer name of a tag. -/
def isTagChar (c : Char) : Bool :=
  c.isAlphanum || isOneOf "-;/?:@&=+$,_.!~*'()[]%" (some c)

/-- The name after the mark of an anchor or alias, which stands here, and the
place after it. -/
def readName (c : Cursor) : Except Fault (List Char × Cursor) := do
  let c := c.next
  let name := c.rest.takeWhile isNameChar
  let c := c.skip name.length
  if name.isEmpty || !(endsWord c.peek || isOneOf "?:,]\x7d%@\x60" c.peek) then throw badToken
  return (name, c)

/-! ### Tags -/

/-- The handle of a tag that begins here, and the place after it. -/
def readHandle (c : Cursor) : Except Fault (List Char × Cursor) := do
  if c.peek != some '!' then throw badToken
  if c.peekAt 1 == some ' ' then return (['!'], c.next)
  let name := (c.rest.drop 1).takeWhile isNameChar
  if c.peekAt (name.length + 1) != some '!' then throw badToken
  return ('!' :: name ++ ['!'], c.skip (name.length + 2))

/-- The bytes written by a percent sign and two digits each, from here on, and
the place after them. -/
def readTagBytes : (bound : Nat) → Cursor → Except Fault (List UInt8 × Cursor)
  | 0, _ => .error badToken
  | bound + 1, c => do
    if c.peek != some '%' then return ([], c)
    match (c.peekAt 1).bind Text.hexValue?, (c.peekAt 2).bind Text.hexValue? with
    | some high, some low =>
      let (others, c) ← readTagBytes bound (c.skip 3)
      return (UInt8.ofNat (16 * high + low) :: others, c)
    | _, _ => throw badToken

/-- The characters of the longer name of a tag, from here on, and the place after
them. -/
def readTagChars : (bound : Nat) → Cursor → Except Fault (List Char × Cursor)
  | 0, _ => .error badToken
  | bound + 1, c => do
    let some first := c.peek | return ([], c)
    if !isTagChar first then return ([], c)
    if first != '%' then
      let (others, c) ← readTagChars bound c.next
      return (first :: others, c)
    let (bytes, c) ← readTagBytes (c.rest.length + 1) c
    match Text.utf8Decode 0 bytes with
    | .error _ => throw badToken
    | .ok part =>
      let (others, c) ← readTagChars bound c
      return (part ++ others, c)

/-- The longer name of a tag, or its rest, which is not empty. -/
def readTagName (c : Cursor) : Except Fault (List Char × Cursor) := do
  let first := c
  let (name, c) ← readTagChars (c.rest.length + 1) c
  if c.index == first.index then throw badToken
  return (name, c)

/-- The tag that begins here, and the place after it. -/
def readTag (c : Cursor) : Except Fault (Token × Cursor) := do
  let (token, c) ←
    if c.peekAt 1 == some '<' then do
      let (name, c) ← readTagName (c.skip 2)
      if c.peek != some '>' then throw badToken
      pure (.tag none name, c.next)
    else if endsWord (c.peekAt 1) then pure (.tag none ['!'], c.next)
    else do
      let (handle, c) ←
        if ((c.rest.drop 1).takeWhile fun c => !endsPart (some c)).contains '!' then readHandle c
        else pure (['!'], c.next)
      let (name, c) ← readTagName c
      pure (.tag (some handle) name, c)
  if !endsPart c.peek then throw badToken
  return (token, c)

/-! ### Directives -/

/-- A number in a directive, and the place after it. -/
def readVersionNumber (c : Cursor) : Except Fault (Nat × Cursor) :=
  let digits := c.rest.takeWhile Char.isDigit
  if digits.isEmpty then .error badToken
  else .ok (Nat.ofDigitChars 10 digits 0, c.skip digits.length)

/-- The version that a directive gives. -/
def readVersion (c : Cursor) : Except Fault (Directive × Cursor) := do
  let (major, c) ← readVersionNumber (c.skipWhile (· == ' '))
  if c.peek != some '.' then throw badToken
  let (minor, c) ← readVersionNumber c.next
  if !endsPart c.peek then throw badToken
  return (.version major minor, c)

/-- What a directive says of a handle. -/
def readHandleDirective (c : Cursor) : Except Fault (Directive × Cursor) := do
  let (handle, c) ← readHandle (c.skipWhile (· == ' '))
  if c.peek != some ' ' then throw badToken
  let (start, c) ← readTagName (c.skipWhile (· == ' '))
  if !endsPart c.peek then throw badToken
  return (.handle handle start, c)

/-- The directive that begins here, and the place in the line after it. -/
def readDirective (c : Cursor) : Except Fault (Directive × Cursor) := do
  let name := (c.rest.drop 1).takeWhile isNameChar
  let c := c.skip (name.length + 1)
  if name.isEmpty || !endsPart c.peek then throw badToken
  let (directive, c) ←
    if name = "YAML".toList then readVersion c
    else if name = "TAG".toList then readHandleDirective c
    else pure (.other, c.skipWhile (!isBreak ·))
  return (directive, ← c.skipLine)

end FixedWidth.Yaml
