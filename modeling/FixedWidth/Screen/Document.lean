import FixedWidth.Document.Json
import FixedWidth.Document.Yaml
import FixedWidth.Screen.Config
import FixedWidth.Storage.CodePage
import FixedWidth.Text.Lines

/-!
# Screen configurations in files

A configuration in a file is a text in UTF-8, in YAML where the file's name says
so and in JSON otherwise.
-/

namespace FixedWidth

/-- A file's name from its last point on; nothing where the point is missing,
first or last. -/
def extensionOf (path : String) : List Char :=
  let name := (path.toList.reverse.takeWhile (· != '/')).reverse
  let tail := (name.reverse.takeWhile (· != '.')).reverse
  if tail.isEmpty || name.length ≤ tail.length + 1 then [] else '.' :: tail

/-- The text of a file, with every line end as a line feed. -/
def textOfFile (bytes : List UInt8) : Except Fault (List Char) :=
  (CodePage.utf8.decode bytes).map Text.unifyLineFeeds

namespace Screen

/-- Whether a file is written in YAML, by its name. -/
def isYamlPath (path : String) : Bool :=
  let lower := (extensionOf path).map Char.toLower
  lower = ".yml".toList || lower = ".yaml".toList

/-- The value that a file's text is. -/
def readDocument (path : String) (text : List Char) : Except Fault Value :=
  if isYamlPath path then Yaml.read text
  else
    match Json.read? .lenient text with
    | some v => .ok v
    | none => .error .malformedJson

/-- The value that a file is. -/
def readFile (path : String) (bytes : List UInt8) : Except Fault Value := do
  readDocument path (← textOfFile bytes)

end Screen

end FixedWidth
