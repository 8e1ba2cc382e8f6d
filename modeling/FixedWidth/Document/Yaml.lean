import FixedWidth.Document.Yaml.Content
import FixedWidth.Document.Yaml.Layout
import FixedWidth.Text.Lines

/-!
# Reading YAML

A text becomes a value in three steps: it is cut into parts (`Yaml.tokens`), the
parts are put together to a tree (`Yaml.Node.ofTokens`), and the tree is read
(`Yaml.Node.value`). Before that, all of its characters have to be such as a
document can hold; an empty text is nothing.

Left out are the kinds of the language that no configuration has a use for: bytes,
sets, and ordered records.
-/

namespace FixedWidth.Yaml

/-- **The value that a document is.** -/
def read (cs : List Char) : Except Fault Value := do
  if !cs.all isPermitted then throw (.malformedYaml .character)
  match ← Node.ofTokens (tokens (Text.unifyLineFeeds cs)) with
  | none => return .null
  | some node => node.value

end FixedWidth.Yaml
