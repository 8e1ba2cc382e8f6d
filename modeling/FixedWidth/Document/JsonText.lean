import FixedWidth.Document.Dialect

/-!
# Writing JSON

A `Value` as a JSON text in a dialect, either on one line or over lines with an
indent of two spaces. Only the quote, the backslash, the control characters below
the space and, in a dialect that has them, halves of surrogate pairs are escaped;
every other character is written as it is. Decimals and moments, which JSON does
not have, are written as strings.

Every value is written, also one that the dialect does not admit; a writer that
has to be read elsewhere asks `Dialect.admits` first.
-/

namespace FixedWidth.Json

/-- One character of a string. Where no halves are admitted, none stands for one. -/
def escapeChar (dialect : Dialect) (c : Char) : List Char :=
  if c == '"' then ['\\', '"']
  else if c == '\\' then ['\\', '\\']
  else if c == '\x08' then ['\\', 'b']
  else if c == '\t' then ['\\', 't']
  else if c == '\n' then ['\\', 'n']
  else if c == '\x0c' then ['\\', 'f']
  else if c == '\r' then ['\\', 'r']
  else if c.toNat < 0x20 then '\\' :: 'u' :: Text.hexDigits 4 c.toNat
  else
    match if dialect.halves then Text.half? c else none with
    | some n => '\\' :: 'u' :: Text.hexDigits 4 n
    | none => [c]

/-- A string between quotes. -/
def stringText (dialect : Dialect) (s : String) : String :=
  "\"" ++ String.ofList (s.toList.flatMap (escapeChar dialect)) ++ "\""

/-- A double in a dialect. -/
def doubleText (dialect : Dialect) : Binary64 → String
  | .finite negative m e => String.ofList (Binary64.finiteText dialect.style negative m e)
  | .infinite negative =>
    if dialect.namedNumbers then (if negative then "-Infinity" else "Infinity") else "null"
  | .notNumber => if dialect.namedNumbers then "NaN" else "null"

/-- A value that is neither a list nor a record. -/
def plainText (dialect : Dialect) : Value → String
  | .null => "null"
  | .truth b => if b then "true" else "false"
  | .integer z => toString z
  | .double x => doubleText dialect x
  | .moment m => stringText dialect (m.textWith dialect.momentMark)
  | v => stringText dialect v.toText

/-- How the parts of a list or record are set apart. -/
inductive Layout where
  /-- On one line. -/
  | compact
  /-- Over lines, the outermost at the given count of steps of two spaces. -/
  | indented (steps : Nat)

/-- The layout of what stands inside. -/
def Layout.inner : Layout → Layout
  | compact => compact
  | indented steps => indented (steps + 1)

/-- What stands before a part. -/
def Layout.lineStart : Layout → String
  | compact => ""
  | indented steps => "\n" ++ String.ofList (List.replicate (2 * steps) ' ')

/-- What stands between a name and its value. -/
def Layout.colon : Layout → String
  | compact => ":"
  | indented _ => ": "

/-- The parts of a list or record between its brackets. -/
def bracketed (layout : Layout) (left right : String) (parts : List String) : String :=
  if parts.isEmpty then left ++ right
  else
    left ++ layout.inner.lineStart ++
      String.intercalate ("," ++ layout.inner.lineStart) parts ++ layout.lineStart ++ right

mutual
/-- A value in a dialect and a layout. -/
def write (dialect : Dialect) (layout : Layout) : Value → String
  | .list items => bracketed layout "[" "]" (writeItems dialect layout.inner items)
  | .record entries => bracketed layout "\x7b" "\x7d" (writeEntries dialect layout.inner entries)
  | .table entries => bracketed layout "\x7b" "\x7d" (writePairs dialect layout.inner entries)
  | v => plainText dialect v

/-- The items of a list. -/
def writeItems (dialect : Dialect) (layout : Layout) : List Value → List String
  | [] => []
  | v :: vs => write dialect layout v :: writeItems dialect layout vs

/-- The entries of a record. -/
def writeEntries (dialect : Dialect) (layout : Layout) : List (String × Value) → List String
  | [] => []
  | (name, v) :: rest =>
    (stringText dialect name ++ layout.colon ++ write dialect layout v) ::
      writeEntries dialect layout rest

/-- The entries of a table, whose names are written as texts. -/
def writePairs (dialect : Dialect) (layout : Layout) : List (Value × Value) → List String
  | [] => []
  | (key, v) :: rest =>
    (stringText dialect key.toText ++ layout.colon ++ write dialect layout v) ::
      writePairs dialect layout rest
end

end FixedWidth.Json
