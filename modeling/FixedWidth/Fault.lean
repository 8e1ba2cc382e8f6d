import FixedWidth.Text.Hex
import FixedWidth.Text.Utf8
import FixedWidth.Value

/-!
# Faults

Everything that can go wrong, by cause, and the wording of each in one place.

The causes fall into two families. A *field fault* says that a text, some bytes
or a value do not fit a field, or that a picture describes none; these have a
name under which a tool reports them (`reportName?`). All others say that an
operation was called with an argument it does not take: a negative length, an
unknown code page, a value of the wrong kind. A failed check of a screen's
content is neither, it is an answer and not a fault.

Some faults have no wording (`message?` is `none`): nothing beyond their kind is
promised of them.
-/

namespace FixedWidth

/-- Why a value is no number. -/
inductive LiteralFlaw where
  /-- A text was asked for and the value is none. -/
  | notText
  /-- The text is no decimal literal. -/
  | malformed
  /-- The text has a sign or a point and no digit. -/
  | noDigits
  /-- The value is a truth value. -/
  | truthValue
  /-- The value is a number and not a finite one. -/
  | notFinite
  /-- The value is of a kind that holds no number. -/
  | unsupportedKind (kind : String)
deriving DecidableEq, Repr

/-- Why a document in YAML cannot be read. -/
inductive YamlFlaw where
  /-- A character that no document can hold. -/
  | character
  /-- The text at some place is no part of a document. -/
  | token
  /-- The parts do not fit together. -/
  | arrangement
  /-- A name for a part is missing or given twice, or there is a second document. -/
  | reference
  /-- A part has no value. -/
  | content
deriving DecidableEq, Repr

/-- Why an operation gave no answer. -/
inductive Fault where
  /-- A value is no number. -/
  | literal (value : Value) (flaw : LiteralFlaw)
  /-- The last half-byte of a packed field is no sign. -/
  | signNibble (nibble : Nat)
  /-- A half-byte of a packed field is no digit. -/
  | digitNibble (nibble offset : Nat)
  /-- The last character of a signed zoned field carries no digit and sign. -/
  | overpunch (c : Char)
  /-- A character of a numeric field is no digit. -/
  | digit (c : Char) (position : Int)
  /-- A field's text has not the field's width. -/
  | width (expected : Int) (actual : Nat)
  | emptyPacked
  | emptyZoned
  /-- A record's bytes do not cover its layout. -/
  | shortRecord (actual expected : Nat)
  /-- An unsigned field's text has a minus sign. -/
  | negativeInUnsigned
  /-- A number has more digits than its field. -/
  | overflow (digits : Nat) (capacity : Int)
  | negativeForPacked
  | negativeForZoned
  | negativeForBinary (field : String)
  /-- A numeric field of a record was given nothing. -/
  | missingNumber (field : String)
  /-- A number's part before the point has more digits than its field. -/
  | digitOverflow (digits : Nat) (capacity : Int)
  /-- A numeric field was given nothing to show. -/
  | nothingToShow
  /-- An unsigned field was given a negative number to show. -/
  | negativeToShow
  /-- A picture holds a control character. -/
  | pictureToken (c : Char) (position : Nat)
  /-- A picture has a parenthesis that belongs to no repeat count. -/
  | unbalancedRepeat (picture : String)
  | emptyPicture
  | unsupportedSymbols (symbols : List Char) (picture : String)
  | secondPoint (picture : String)
  | innerSign (picture : String)
  | unsupportedUsage (usage : String)
  /-- A binary field of more digits than the longest one holds. -/
  | binaryTooLong (digits : Nat)
  | negativeMagnitude
  | negativeScale
  | precisionRange
  /-- A number has more digits than the decimal arithmetic takes. -/
  | operandDigits
  /-- A number or a place lies outside the exponents of the decimal arithmetic. -/
  | exponentRange
  /-- An integer is not one of 64 bits. -/
  | nativeInteger
  | totalDigits
  | negativeLength
  | negativeDigitCount
  | recordLength
  | padSide (name : String)
  | roundingName (name : String)
  | notInteger (base : Nat) (text : String)
  | notDouble (text : String)
  /-- A day or time that is not in the calendar. -/
  | moment (flaw : MomentFlaw)
  /-- A code point beyond the last one; or so far beyond that it is no number of
  32 bits. -/
  | codePoint (wide : Bool)
  | notHex (position : Nat)
  | attributeCode (code : String)
  | predicateName (name : String) (choices : List String)
  | ruleWithoutFields (rule : String)
  /-- A list that should hold pairs holds something of another length. -/
  | pairLength (index length : Nat)
  /-- A double that is no number was to become an integer. -/
  | integerOfNotNumber
  /-- An infinite double was to become an integer. -/
  | integerOfInfinity
  /-- An integer below zero was to be put into bytes that hold no sign. -/
  | negativeForBytes
  /-- An integer was to be put into fewer bytes than it takes. -/
  | tooWideForBytes
  /-- A place beyond the ends of a text. -/
  | outsideText
  | missingName (name : String)
  | codePageName (name : String)
  /-- A name holds a null character. -/
  | nullInName
  /-- Bytes from `first` up to `stop` are no text of a code page. -/
  | undecodable (codec : String) (firstByte : UInt8) (first stop : Nat) (reason : String)
  /-- Characters from `first` up to `stop` are not in a code page. -/
  | unencodable (codec : String) (firstChar : Char) (first stop : Nat) (reason : String)
  /-- A value is of a kind that the operation does not take. -/
  | wrongKind
  /-- A text operation was asked of a value that is no text. -/
  | notText
  /-- A document is not well formed. -/
  | malformedJson
  | malformedYaml (flaw : YamlFlaw)
deriving Inhabited

namespace Fault

/-- The name under which a field fault is reported; other faults have none. -/
def reportName? : Fault → Option String
  | literal _ _ => some "InvalidNumericLiteral"
  | signNibble _ => some "InvalidSignNibble"
  | digitNibble _ _ => some "InvalidDigitNibble"
  | overpunch _ => some "InvalidOverpunchCharacter"
  | digit _ _ => some "InvalidDigitCharacter"
  | width _ _ => some "InvalidFieldWidth"
  | emptyPacked => some "DecodeError"
  | emptyZoned => some "DecodeError"
  | shortRecord _ _ => some "DecodeError"
  | negativeInUnsigned => some "DecodeError"
  | overflow _ _ => some "NumericOverflow"
  | negativeForPacked => some "EncodeError"
  | negativeForZoned => some "EncodeError"
  | negativeForBinary _ => some "EncodeError"
  | missingNumber _ => some "EncodeError"
  | digitOverflow _ _ => some "DigitOverflow"
  | nothingToShow => some "FormatError"
  | negativeToShow => some "FormatError"
  | pictureToken _ _ => some "UnrecognizedToken"
  | unbalancedRepeat _ => some "PictureError"
  | emptyPicture => some "PictureError"
  | unsupportedSymbols _ _ => some "PictureError"
  | secondPoint _ => some "PictureError"
  | innerSign _ => some "PictureError"
  | unsupportedUsage _ => some "PictureError"
  | binaryTooLong _ => some "PictureError"
  | _ => none

/-- Whether the fault is that the decimal arithmetic has no such operation. -/
def isInvalidOperation : Fault → Bool
  | operandDigits => true
  | exponentRange => true
  | _ => false

/-- Whether the fault is that a text, bytes, a value or a picture do not fit. -/
def isFieldFault (fault : Fault) : Bool :=
  fault.reportName?.isSome

/-- The wording of a literal's flaw. -/
def flawText : LiteralFlaw → String
  | .notText => "expected a string"
  | .malformed => "not a decimal literal"
  | .noDigits => "no digits"
  | .truthValue => "booleans are not numbers here"
  | .notFinite => "not finite"
  | .unsupportedKind kind => "unsupported type " ++ kind

/-- A half-byte as a message shows it. -/
def nibbleText (nibble : Nat) : String :=
  "0x" ++ String.ofList ((Text.hexDigits 1 nibble).map Char.toUpper)

/-- The bytes or characters a code page fault is about. -/
def placeText (single plural : String) (first stop : Nat) : String :=
  if stop = first + 1 then s!"{single} in position {first}"
  else s!"{plural} in position {first}-{stop - 1}"

/-- How much of a text that is no integer is shown, quotes included. -/
def shownOfInteger : Nat := 200

/-- The wording of a fault. -/
def message? : Fault → Option String
  | literal value flaw => some s!"Invalid numeric literal {value.quoted}: {flawText flaw}"
  | signNibble nibble => some s!"Invalid packed sign nibble {nibbleText nibble}"
  | digitNibble nibble offset =>
    some s!"Invalid packed digit nibble {nibbleText nibble} in byte {offset}"
  | overpunch c => some ("Invalid overpunch character " ++ String.ofList (Text.quoted [c]))
  | digit c position =>
    let shown := String.ofList (Text.quoted [c])
    some s!"Invalid digit character {shown} at position {position}"
  | width expected actual => some s!"Expected a {expected}-character field, got {actual}"
  | emptyPacked => some "Packed field is empty"
  | emptyZoned => some "Zoned field is empty"
  | shortRecord actual expected => some s!"Record has {actual} bytes, layout needs {expected}"
  | negativeInUnsigned => some "Negative value in an unsigned field"
  | overflow digits capacity =>
    some s!"Value needs {digits} digits but the field holds {capacity}"
  | negativeForPacked => some "Cannot encode a negative value into an unsigned packed field"
  | negativeForZoned => some "Cannot encode a negative value into an unsigned zoned field"
  | negativeForBinary field => some s!"Negative value for unsigned binary field {field}"
  | missingNumber field => some s!"Numeric field {field} has no value"
  | digitOverflow digits capacity =>
    some s!"Integer part has {digits} digits, field allows {capacity}"
  | nothingToShow => some "A numeric field needs a value"
  | negativeToShow => some "Negative value for an unsigned field"
  | pictureToken c position =>
    let shown := String.ofList (Text.quoted [c])
    some s!"Unrecognized picture token {shown} at position {position}"
  | unbalancedRepeat picture =>
    some ("Unbalanced repeat count in picture " ++ Text.quotedString picture)
  | emptyPicture => some "Empty PIC clause"
  | unsupportedSymbols symbols picture =>
    some ("Unsupported symbols " ++ Text.quotedList (symbols.map String.singleton) ++
      " in numeric picture " ++ Text.quotedString picture)
  | secondPoint picture => some ("More than one implied point in " ++ Text.quotedString picture)
  | innerSign picture => some ("Sign must lead the picture " ++ Text.quotedString picture)
  | unsupportedUsage usage => some ("Unsupported USAGE " ++ Text.quotedString usage)
  | binaryTooLong digits => some s!"Binary fields hold at most 18 digits, got {digits}"
  | negativeMagnitude => some "unscaled magnitude must be non-negative"
  | negativeScale => some "scale must be non-negative"
  | precisionRange => some "valid range for prec is [1, MAX_PREC]"
  | operandDigits => some "[<class 'decimal.ConversionSyntax'>]"
  | exponentRange => some "[<class 'decimal.InvalidOperation'>]"
  | nativeInteger => some "Python int too large to convert to C ssize_t"
  | totalDigits => some "total_digits must be at least 1"
  | negativeLength => some "length must be non-negative"
  | negativeDigitCount => some "digit counts must be non-negative"
  | recordLength => some "record length must be positive"
  | padSide name => some ("pad must be 'right' or 'left', got " ++ Text.quotedString name)
  | roundingName name => some ("Unknown rounding mode " ++ Text.quotedString name)
  | notInteger base text =>
    let shown := String.ofList ((Text.quoted text.toList).take shownOfInteger)
    some (s!"invalid literal for int() with base {base}: " ++ shown)
  | notDouble text => some ("could not convert string to float: " ++ Text.quotedString text)
  | moment flaw => some flaw.text
  | codePoint wide =>
    some (if wide then "Python int too large to convert to C int"
      else "chr() arg not in range(0x110000)")
  | notHex position =>
    some s!"non-hexadecimal number found in fromhex() arg at position {position}"
  | attributeCode code => some ("Unrecognized BMS attribute " ++ Text.quotedString code)
  | predicateName name choices =>
    some ("Unknown predicate " ++ Text.quotedString name ++ "; choose from " ++
      Text.quotedList choices)
  | ruleWithoutFields rule =>
    some ("Rule " ++ Text.quotedString rule ++ " must name at least one field")
  | pairLength index length =>
    some s!"dictionary update sequence element #{index} has length {length}; 2 is required"
  | integerOfNotNumber => some "cannot convert float NaN to integer"
  | integerOfInfinity => some "cannot convert float infinity to integer"
  | negativeForBytes => some "can't convert negative int to unsigned"
  | tooWideForBytes => some "int too big to convert"
  | outsideText => some "string index out of range"
  | missingName name => some (Text.quotedString name)
  | codePageName name => some ("unknown encoding: " ++ name)
  | nullInName => some "embedded null character"
  | undecodable codec firstByte first stop reason =>
    let byte := "byte 0x" ++ String.ofList (Text.hexOfByte firstByte)
    let place := placeText byte "bytes" first stop
    some ("'" ++ codec ++ "' codec can't decode " ++ place ++ ": " ++ reason)
  | unencodable codec firstChar first stop reason =>
    let char := "character '" ++ String.ofList (Text.escapeCodePoint firstChar) ++ "'"
    let place := placeText char "characters" first stop
    some ("'" ++ codec ++ "' codec can't encode " ++ place ++ ": " ++ reason)
  | wrongKind => none
  | notText => none
  | malformedJson => none
  | malformedYaml _ => none

end Fault

end FixedWidth
