import FixedWidth.Command.Arguments
import FixedWidth.Storage.CodePage
import FixedWidth.Text.Integer

/-!
# Command lines

The commands of the program and how each is written. Two options stand before
the command; the codecs, the formats, pictures and records are groups with
commands of their own. A command line that leaves out what a command needs, or
gives it more, is refused as a whole.
-/

namespace FixedWidth.Command

/-- What the program is asked to do. -/
inductive Task where
  | packedDecode (hex : String) (scale : Int)
  | packedEncode (value : String) (digits : Int) (scale : Option Int) (rounding : String)
      (unsigned : Bool)
  | zonedDecode (text : String) (scale : Int) (unsigned : Bool)
  | zonedEncode (value : String) (digits : Int) (scale : Option Int) (rounding : String)
      (unsigned : Bool)
  | formatText (value : String) (length : Int) (pad : String)
  | formatDigits (value : String) (length : Int) (strict : Bool)
  | formatSigned (value : String) (integerDigits fractionDigits : Int) (rounding : String)
  | pictureMatch (picture text : String) (expandCounts : Bool)
  | validate (screen values : String)
  | recordDecode (copybook data : String) (page : String) (maxRecords : Int)
      (output : Option String)
deriving DecidableEq, Repr

/-- The files that a task reads, by path. -/
def Task.inputs : Task → List String
  | validate screen values => [screen, values]
  | recordDecode copybook data _ _ _ => [copybook, data]
  | _ => []

/-- A command line. -/
structure Invocation where
  /-- Whether events that matter little are reported too. -/
  verbose : Bool
  /-- Whether events are reported as JSON. -/
  logJson : Bool
  task : Task
deriving DecidableEq, Repr

/-! ### Options of a command -/

/-- The value of an option that takes an integer. -/
def integerOption (a : Arguments) (name : String) : Except Refusal (Option Int) :=
  match a.value? name with
  | none => .ok none
  | some text =>
    match Text.readInteger? text.toList with
    | some z => .ok (some z)
    | none => .error .usage

/-- The value of an option that has to be given and takes an integer. -/
def requiredInteger (a : Arguments) (name : String) : Except Refusal Int := do
  match ← integerOption a name with
  | some z => return z
  | none => throw .usage

/-- The options and operands of a command, of which there have to be so many. -/
def readCommand (known : List CommandOption) (operands : Nat) (words : List String) :
    Except Refusal Arguments := do
  let a ← readArguments (switch "help" none :: known) true words
  if a.has "help" then throw .help
  if a.operands.length ≠ operands then throw .usage
  return a

/-- An operand, by its place. -/
def operand (a : Arguments) (i : Nat) : String :=
  a.operands.getD i ""

/-- How digits are lost unless it is said. -/
def defaultRounding : String := "half-up"

/-- The options of the commands that encode a number. -/
def encodeOptions : List CommandOption :=
  [setting "digits" (some 'd'), setting "scale" (some 's'), setting "rounding" none,
    switch "unsigned" none]

/-- What a command that encodes a number is asked to do. -/
def readEncode (words : List String)
    (task : String → Int → Option Int → String → Bool → Task) : Except Refusal Task := do
  let a ← readCommand encodeOptions 1 words
  let digits ← requiredInteger a "digits"
  let scale ← integerOption a "scale"
  return task (operand a 0) digits scale ((a.value? "rounding").getD defaultRounding)
    (a.has "unsigned")

/-! ### Commands -/

/-- A command of the packed codec. -/
def readPacked : List String → Except Refusal Task
  | "decode" :: words => do
    let a ← readCommand [setting "scale" (some 's')] 1 words
    return .packedDecode (operand a 0) ((← integerOption a "scale").getD 0)
  | "encode" :: words => readEncode words .packedEncode
  | _ => .error .usage

/-- A command of the zoned codec. -/
def readZoned : List String → Except Refusal Task
  | "decode" :: words => do
    let a ← readCommand [setting "scale" (some 's'), switch "unsigned" none] 1 words
    return .zonedDecode (operand a 0) ((← integerOption a "scale").getD 0) (a.has "unsigned")
  | "encode" :: words => readEncode words .zonedEncode
  | _ => .error .usage

/-- A command that formats a field. -/
def readFormat : List String → Except Refusal Task
  | "pic-x" :: words => do
    let a ← readCommand [setting "length" (some 'l'), setting "pad" none] 1 words
    return .formatText (operand a 0) (← requiredInteger a "length")
      ((a.value? "pad").getD "right")
  | "pic-9" :: words => do
    let a ← readCommand [setting "length" (some 'l'), switch "strict" none] 1 words
    return .formatDigits (operand a 0) (← requiredInteger a "length") (a.has "strict")
  | "pic-s9v9" :: words => do
    let a ← readCommand [setting "integer-digits" (some 'i'), setting "fraction-digits" (some 'f'),
      setting "rounding" none] 1 words
    return .formatSigned (operand a 0) (← requiredInteger a "integer-digits")
      ((← integerOption a "fraction-digits").getD 0)
      ((a.value? "rounding").getD defaultRounding)
  | _ => .error .usage

/-- A command on pictures. -/
def readPicture : List String → Except Refusal Task
  | "match" :: words => do
    let a ← readCommand [switch "expand" none] 2 words
    return .pictureMatch (operand a 0) (operand a 1) (a.has "expand")
  | _ => .error .usage

/-- The command that validates values. -/
def readValidate (words : List String) : Except Refusal Task := do
  let a ← readCommand [] 2 words
  return .validate (operand a 0) (operand a 1)

/-- A command on records. -/
def readRecord : List String → Except Refusal Task
  | "decode" :: words => do
    let a ← readCommand [setting "codepage" (some 'p'), setting "max-records" none,
      setting "output" (some 'o')] 2 words
    return .recordDecode (operand a 0) (operand a 1) ((a.value? "codepage").getD CodePage.defaultName)
      ((← integerOption a "max-records").getD 10) (a.value? "output")
  | _ => .error .usage

/-- The words of a group after its own options. -/
def readGroup (read : List String → Except Refusal Task) (words : List String) :
    Except Refusal Task := do
  let a ← readArguments [switch "help" none] false words
  if a.has "help" then throw .help
  read a.operands

/-- What the words of a command line ask for. -/
def readTask : List String → Except Refusal Task
  | "packed" :: words => readGroup readPacked words
  | "zoned" :: words => readGroup readZoned words
  | "format" :: words => readGroup readFormat words
  | "picture" :: words => readGroup readPicture words
  | "record" :: words => readGroup readRecord words
  | "validate" :: words => readValidate words
  | _ => .error .usage

/-- **The command line that words are.** -/
def readInvocation (words : List String) : Except Refusal Invocation := do
  let a ← readArguments [switch "help" none, switch "verbose" (some 'v'), switch "log-json" none]
    false words
  if a.has "help" then throw .help
  return ⟨a.has "verbose", a.has "log-json", ← readTask a.operands⟩

/-- The files that the words of a command line name for reading. -/
def inputs (words : List String) : List String :=
  match readInvocation words with
  | .ok i => i.task.inputs
  | .error _ => []

end FixedWidth.Command
