import FixedWidth.Storage.CodePage

/-!
# What commands are carried out with

Besides the files that are there, a command line is carried out with what the
program runs on: codecs by their names, a console for answers and one for faults.

A console is given text with markup, in which a word in brackets sets the style
of what follows and a slash in brackets ends it, and is asked what it shows. That
is not settled here: a console can break lines, and text that comes from outside
can hold brackets of its own, which it may take for markup and leave out, or may
refuse. The program marks up the first word of some lines and nothing else
(`styled`), and the plain console knows only that much.
-/

namespace FixedWidth.Command

/-- **What is shown of a text**, or what a console says against it. -/
abbrev Console := String → Except String String

/-- What a command line is carried out with. -/
structure Host where
  /-- The codec of a name. -/
  codec : String → Codec
  /-- Where answers are shown. -/
  output : Console
  /-- Where faults are reported. -/
  errors : Console

/-! ### Markup -/

/-- The styles that the program uses. -/
inductive Style where
  /-- For a fault's name. -/
  | fault
  /-- For what was done. -/
  | done
deriving DecidableEq, Repr

/-- What begins a style. -/
def Style.mark : Style → String
  | fault => "[bold red]"
  | done => "[bold green]"

/-- A text in a style. -/
def styled (style : Style) (text : String) : String :=
  style.mark ++ text ++ "[/]"

/-! ### A plain console -/

/-- A text without the first mark that ends a style. -/
def withoutEnd : List Char → List Char
  | '[' :: '/' :: ']' :: cs => cs
  | c :: cs => c :: withoutEnd cs
  | [] => []

/-- A text without the marks of the style that it begins with, if it begins with
one. -/
def withoutStyle (cs : List Char) : List Char :=
  match [Style.fault, Style.done].find? fun style => style.mark.toList.isPrefixOf cs with
  | some style => withoutEnd (cs.drop style.mark.length)
  | none => cs

/-- The console that shows every text as it is, in a line of its own. -/
def plainConsole : Console := fun text =>
  .ok (String.ofList (withoutStyle text.toList) ++ "\n")

/-- The codecs that come with the program, and plain consoles. -/
def Host.plain : Host := ⟨CodePage.codecOfName, plainConsole, plainConsole⟩

end FixedWidth.Command
