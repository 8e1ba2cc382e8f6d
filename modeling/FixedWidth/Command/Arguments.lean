/-!
# Arguments of a command line

Reading the words of a command line as options and operands. An option has a
long name after two hyphens and may have a letter after one; it either takes a
value or is a switch. Values stand behind an equals sign, in the next word, or
behind the letter; letters of switches can be written in one word. Two hyphens
alone end the options.

Where operands may not stand between options, the first operand ends the options
too; what follows is then left for a command of its own.
-/

namespace FixedWidth.Command

/-- Why a command line is not carried out. -/
inductive Refusal where
  /-- It is no command line of the program. -/
  | usage
  /-- It asks for help. -/
  | help
deriving DecidableEq, Repr

/-- An option that a command knows. -/
structure CommandOption where
  name : String
  letter : Option Char
  takesValue : Bool
deriving DecidableEq, Repr

/-- An option without a value. -/
def switch (name : String) (letter : Option Char) : CommandOption := ⟨name, letter, false⟩

/-- An option with a value. -/
def setting (name : String) (letter : Option Char) : CommandOption := ⟨name, letter, true⟩

/-- The words of a command line, sorted out. -/
structure Arguments where
  /-- The options in their order, with their values. -/
  given : List (String × String)
  operands : List String
deriving DecidableEq, Repr

/-- What a word that begins with a hyphen gives. -/
inductive Word where
  /-- Options, complete. -/
  | complete (given : List (String × String))
  /-- Options, of which the last one has its value in the next word. -/
  | pending (given : List (String × String)) (name : String)

/-- The options of a word of letters. -/
def readLetters (known : List CommandOption) : List Char → Except Refusal Word
  | [] => .ok (.complete [])
  | c :: cs =>
    match known.find? fun o => o.letter = some c with
    | none => .error .usage
    | some o =>
      if o.takesValue then
        .ok (if cs.isEmpty then .pending [] o.name else .complete [(o.name, String.ofList cs)])
      else
        (readLetters known cs).map fun word =>
          match word with
          | .complete given => .complete ((o.name, "") :: given)
          | .pending given name => .pending ((o.name, "") :: given) name

/-- The option of a word that begins with two hyphens, which are left out. -/
def readLong (known : List CommandOption) (cs : List Char) : Except Refusal Word :=
  let name := cs.takeWhile (· != '=')
  let rest := cs.drop name.length
  match known.find? fun o => o.name.toList = name with
  | none => .error .usage
  | some o =>
    match rest with
    | [] => .ok (if o.takesValue then .pending [] o.name else .complete [(o.name, "")])
    | _ :: value =>
      if o.takesValue then .ok (.complete [(o.name, String.ofList value)]) else .error .usage

/-- **The options and operands of words.** -/
def readArguments (known : List CommandOption) (mixed : Bool) :
    List String → Except Refusal Arguments
  | [] => .ok ⟨[], []⟩
  | word :: words =>
    match word.toList with
    | ['-', '-'] => .ok ⟨[], words⟩
    | '-' :: c :: cs =>
      match if c = '-' then readLong known cs else readLetters known (c :: cs) with
      | .error refusal => .error refusal
      | .ok (.complete given) =>
        (readArguments known mixed words).map fun r => ⟨given ++ r.given, r.operands⟩
      | .ok (.pending given name) =>
        match words with
        | [] => .error .usage
        | value :: words =>
          (readArguments known mixed words).map fun r =>
            ⟨given ++ (name, value) :: r.given, r.operands⟩
    | _ =>
      if mixed then
        (readArguments known mixed words).map fun r => ⟨r.given, word :: r.operands⟩
      else .ok ⟨[], word :: words⟩

namespace Arguments

/-- The value of an option, of several the last. -/
def value? (a : Arguments) (name : String) : Option String :=
  (a.given.reverse.find? fun option => option.1 = name).map (·.2)

/-- Whether an option is given. -/
def has (a : Arguments) (name : String) : Bool :=
  (a.value? name).isSome

end Arguments

end FixedWidth.Command
