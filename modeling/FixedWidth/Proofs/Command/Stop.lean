import FixedWidth.Command.Run
import FixedWidth.Proofs.Fault

/-!
# Where a command is stopped

A command asks something of the library, and then of what it was given something else, and
each time there may be a fault instead of an answer (`FixedWidth.Command.Raises`). A command
is a row of steps for its part, of which each does something with the fault that it meets
(`FixedWidth.Command.StoppedBy`). The two are held against each other command by command, as
no result shows whether a step was forgotten: a command is stopped by a field fault exactly
when the library has it (`FixedWidth.Command.stoppedBy_perform_iff`).
-/

namespace FixedWidth.Command

variable {α β : Type} {host : Host} {files : Files} {f : Fault}

/-! ### Faults of the library -/

/-- **The library has a fault for a task.** Each step is asked what the steps before it have
answered, and all of these have an answer. -/
inductive Raises (host : Host) (files : Files) (f : Fault) : Task → Prop where
  | packedDecode {hex scale bytes} (given : Text.readHex hex.toList = .ok bytes)
      (fault : Packed.decode bytes scale = .error f) : Raises host files f (.packedDecode hex scale)
  | packedLiteral {value digits scale rounding unsigned mode}
      (given : Rounding.ofName? rounding = some mode)
      (fault : Decimal.parse (.text value) scale { rounding := mode } = .error f) :
      Raises host files f (.packedEncode value digits scale rounding unsigned)
  | packedEncode {value digits scale rounding unsigned mode d}
      (given : Rounding.ofName? rounding = some mode)
      (number : Decimal.parse (.text value) scale { rounding := mode } = .ok d)
      (fault : Packed.encode d digits unsigned = .error f) :
      Raises host files f (.packedEncode value digits scale rounding unsigned)
  | zonedDecode {text scale unsigned}
      (fault : Zoned.decode text.toList scale (!unsigned) = .error f) :
      Raises host files f (.zonedDecode text scale unsigned)
  | zonedLiteral {value digits scale rounding unsigned mode}
      (given : Rounding.ofName? rounding = some mode)
      (fault : Decimal.parse (.text value) scale { rounding := mode } = .error f) :
      Raises host files f (.zonedEncode value digits scale rounding unsigned)
  | zonedEncode {value digits scale rounding unsigned mode d}
      (given : Rounding.ofName? rounding = some mode)
      (number : Decimal.parse (.text value) scale { rounding := mode } = .ok d)
      (fault : Zoned.encode d digits (!unsigned) = .error f) :
      Raises host files f (.zonedEncode value digits scale rounding unsigned)
  | formatText {value length pad side} (given : Display.Pad.ofName? pad = some side)
      (fault : Display.formatText (some value.toList) length side = .error f) :
      Raises host files f (.formatText value length pad)
  | formatDigits {value length strict}
      (fault : Display.formatDigits (.text value) length strict = .error f) :
      Raises host files f (.formatDigits value length strict)
  | signedLiteral {value integerDigits fractionDigits rounding mode}
      (given : Rounding.ofName? rounding = some mode)
      (fault : Decimal.parse (.text value) none {} = .error f) :
      Raises host files f (.formatSigned value integerDigits fractionDigits rounding)
  | formatSigned {value integerDigits fractionDigits rounding mode d}
      (given : Rounding.ofName? rounding = some mode)
      (number : Decimal.parse (.text value) none {} = .ok d)
      (fault : Display.formatSigned (.decimal d) integerDigits fractionDigits mode = .error f) :
      Raises host files f (.formatSigned value integerDigits fractionDigits rounding)
  | compile {picture text expandCounts}
      (fault : Picture.compile picture expandCounts = .error f) :
      Raises host files f (.pictureMatch picture text expandCounts)
  | screenFile {screen values bytes}
      (there : Entries.get? files (normalizePath screen) = some bytes)
      (fault : Screen.readFile (normalizePath screen) bytes = .error f) :
      Raises host files f (.validate screen values)
  | screenConfig {screen values bytes document}
      (there : Entries.get? files (normalizePath screen) = some bytes)
      (read : Screen.readFile (normalizePath screen) bytes = .ok document)
      (fault : Screen.Config.ofValue document = .error f) :
      Raises host files f (.validate screen values)
  | screenCheck {screen values bytes document config valueBytes entered}
      (there : Entries.get? files (normalizePath screen) = some bytes)
      (read : Screen.readFile (normalizePath screen) bytes = .ok document)
      (configured : Screen.Config.ofValue document = .ok config)
      (given : Entries.get? files (normalizePath values) = some valueBytes)
      (readable : readValues valueBytes = .ok entered)
      (fault : config.validate entered = .error f) : Raises host files f (.validate screen values)
  | copybookText {copybook data page maxRecords output bytes}
      (there : Entries.get? files (normalizePath copybook) = some bytes)
      (fault : textOfFile bytes = .error f) :
      Raises host files f (.recordDecode copybook data page maxRecords output)
  | recordLength {copybook data page maxRecords output bytes text}
      (there : Entries.get? files (normalizePath copybook) = some bytes)
      (read : textOfFile bytes = .ok text)
      (fault : Record.length (Copybook.read (String.ofList text)) = .error f) :
      Raises host files f (.recordDecode copybook data page maxRecords output)
  | split {copybook data page maxRecords output bytes text length dataset}
      (there : Entries.get? files (normalizePath copybook) = some bytes)
      (read : textOfFile bytes = .ok text)
      (laidOut : Record.length (Copybook.read (String.ofList text)) = .ok length)
      (given : Entries.get? files (normalizePath data) = some dataset)
      (fault : Record.split dataset length = .error f) :
      Raises host files f (.recordDecode copybook data page maxRecords output)
  | record {copybook data page maxRecords output bytes text length dataset bodies before body after}
      (there : Entries.get? files (normalizePath copybook) = some bytes)
      (read : textOfFile bytes = .ok text)
      (laidOut : Record.length (Copybook.read (String.ofList text)) = .ok length)
      (given : Entries.get? files (normalizePath data) = some dataset)
      (cut : Record.split dataset length = .ok bodies)
      (asked : bodies.take maxRecords.toNat = before ++ body :: after)
      (decoded : ∀ b ∈ before, ∃ contents,
        Record.decode (Copybook.read (String.ofList text)) b (host.codec page) = .ok contents)
      (fault : Record.decode (Copybook.read (String.ofList text)) body (host.codec page) =
        .error f) :
      Raises host files f (.recordDecode copybook data page maxRecords output)

/-! ### Steps of a command -/

/-- **A step of a command is stopped by a fault**, whether it is reported or not. -/
def StoppedBy (x : Except Stop α) (f : Fault) : Prop :=
  x = .error (.reported f) ∨ x = .error (.unhandled f)

variable {x : Except Stop α} {g : α → Except Stop β} {y : Except Fault α} {a : α} {v : Value}
  {path what name : String} {bytes : List UInt8}

theorem reporting_eq_ok_iff : reporting y = .ok a ↔ y = .ok a := by
  cases y <;> simp [reporting]

theorem lettingThrough_eq_ok_iff : lettingThrough y = .ok a ↔ y = .ok a := by
  cases y <;> simp [lettingThrough]

theorem roundingNamed_eq_ok_iff {mode : Rounding} :
    roundingNamed name = .ok mode ↔ Rounding.ofName? name = some mode := by
  rw [roundingNamed]
  cases Rounding.ofName? name <;> simp

theorem fileBytes_eq_ok_iff :
    fileBytes files path what = .ok bytes ↔
      Entries.get? files (normalizePath path) = some bytes := by
  rw [fileBytes]
  cases Entries.get? files (normalizePath path) <;> simp

/-- A row of steps is stopped where one of them is. -/
theorem stoppedBy_bind_iff :
    StoppedBy (x >>= g) f ↔ StoppedBy x f ∨ ∃ a, x = .ok a ∧ StoppedBy (g a) f := by
  simp only [StoppedBy, bind_eq_error_iff, and_or_left, exists_or]
  exact or_or_or_comm

theorem stoppedBy_reporting_iff : StoppedBy (reporting y) f ↔ y = .error f := by
  cases y with
  | ok a => simp [StoppedBy, reporting]
  | error f' =>
    by_cases hf' : f'.isFieldFault = true <;> simp [StoppedBy, reporting, hf']

theorem stoppedBy_lettingThrough_iff : StoppedBy (lettingThrough y) f ↔ y = .error f := by
  cases y <;> simp [StoppedBy, lettingThrough]

/-- A list is stopped where one of its items is, and those before it are not. -/
theorem stoppedBy_mapM_iff {step : α → Except Stop β} {as : List α} :
    StoppedBy (as.mapM step) f ↔ ∃ before a after, as = before ++ a :: after ∧
      (∀ b ∈ before, ∃ c, step b = .ok c) ∧ StoppedBy (step a) f := by
  simp only [StoppedBy, mapM_eq_error_iff, and_or_left, exists_or]

theorem not_stoppedBy_ok : ¬StoppedBy (.ok a) f := by
  simp [StoppedBy]

theorem not_stoppedBy_badParameter {text : String} :
    ¬StoppedBy (.error (.badParameter text) : Except Stop α) f := by
  simp [StoppedBy]

theorem not_stoppedBy_roundingNamed : ¬StoppedBy (roundingNamed name) f := by
  rw [roundingNamed]
  cases Rounding.ofName? name with
  | none => exact not_stoppedBy_badParameter
  | some mode => exact not_stoppedBy_ok

theorem not_stoppedBy_fileBytes : ¬StoppedBy (fileBytes files path what) f := by
  rw [fileBytes]
  cases Entries.get? files (normalizePath path) with
  | none => exact not_stoppedBy_badParameter
  | some bytes => exact not_stoppedBy_ok

section FieldFault

variable (hf : f.isFieldFault = true)

include hf

/-- A fault of another family is not the field fault. -/
theorem not_stoppedBy_unhandled {f' : Fault} (hf' : f'.isFieldFault = false) :
    ¬StoppedBy (.error (.unhandled f') : Except Stop α) f := by
  rintro (h | h)
  · cases h
  · cases h
    rw [hf] at hf'
    cases hf'

theorem not_stoppedBy_documentText : ¬StoppedBy (documentText v) f := by
  rw [documentText]
  split
  · exact not_stoppedBy_ok
  · exact not_stoppedBy_unhandled hf rfl

theorem not_stoppedBy_answered {exitCode : Nat} : ¬StoppedBy (answered v exitCode) f := by
  rw [answered, stoppedBy_bind_iff, not_or]
  refine ⟨not_stoppedBy_documentText hf, ?_⟩
  rintro ⟨text, -, h⟩
  exact not_stoppedBy_ok h

theorem not_stoppedBy_readValues : ¬StoppedBy (readValues bytes) f := by
  rw [readValues, stoppedBy_bind_iff, stoppedBy_lettingThrough_iff]
  rintro (h | ⟨cs, -, h⟩)
  · -- bytes that are no text are a malformed document, whatever is wrong with them
    cases hread : CodePage.utf8.decode bytes with
    | ok cs => rw [hread] at h; cases h
    | error f' =>
      rw [hread] at h
      cases h
      cases hf
  · split at h
    · exact not_stoppedBy_unhandled hf rfl h
    · exact not_stoppedBy_ok h
    · exact not_stoppedBy_badParameter h

/-! ### The commands, one by one -/

omit hf in
/-- A number is read with a rounding, then something is done with it, and the answer to that
is printed. -/
theorem stoppedBy_number_iff {γ : Type} {number : Rounding → Except Fault α}
    {write : Rounding → α → Except Fault β} {answer : α → β → Except Stop γ}
    (hanswer : ∀ a b, ¬StoppedBy (answer a b) f) :
    StoppedBy (do
      let mode ← roundingNamed name
      let a ← reporting (number mode)
      let b ← reporting (write mode a)
      answer a b) f ↔ ∃ mode, Rounding.ofName? name = some mode ∧
        (number mode = .error f ∨ ∃ a, number mode = .ok a ∧ write mode a = .error f) := by
  simp only [stoppedBy_bind_iff, not_stoppedBy_roundingNamed, false_or, roundingNamed_eq_ok_iff,
    stoppedBy_reporting_iff, reporting_eq_ok_iff, hanswer, and_false, exists_false, or_false]

theorem stoppedBy_packedDecode_iff {hex : String} {scale : Int} :
    StoppedBy (packedDecode hex scale) f ↔ Raises host files f (.packedDecode hex scale) := by
  rw [packedDecode]
  constructor
  · intro h
    split at h
    · exact absurd h not_stoppedBy_badParameter
    next bytes hbytes =>
    simp only [stoppedBy_bind_iff, stoppedBy_reporting_iff, not_stoppedBy_answered hf, and_false,
      exists_false, or_false] at h
    exact .packedDecode hbytes h
  · intro h
    cases h with
    | packedDecode hbytes h =>
      simp only [hbytes, stoppedBy_bind_iff, stoppedBy_reporting_iff]
      exact .inl h

theorem stoppedBy_packedEncode_iff {value rounding : String} {digits : Int} {scale : Option Int}
    {unsigned : Bool} : StoppedBy (packedEncode value digits scale rounding unsigned) f ↔
      Raises host files f (.packedEncode value digits scale rounding unsigned) := by
  refine (stoppedBy_number_iff fun _ _ => not_stoppedBy_answered hf).trans ?_
  constructor
  · rintro ⟨mode, hmode, h | ⟨d, hd, h⟩⟩
    · exact .packedLiteral hmode h
    · exact .packedEncode hmode hd h
  · intro h
    cases h with
    | packedLiteral hmode h => exact ⟨_, hmode, .inl h⟩
    | packedEncode hmode hd h => exact ⟨_, hmode, .inr ⟨_, hd, h⟩⟩

theorem stoppedBy_zonedDecode_iff {text : String} {scale : Int} {unsigned : Bool} :
    StoppedBy (zonedDecode text scale unsigned) f ↔
      Raises host files f (.zonedDecode text scale unsigned) := by
  simp only [zonedDecode, stoppedBy_bind_iff, stoppedBy_reporting_iff, not_stoppedBy_answered hf,
    and_false, exists_false, or_false]
  refine ⟨.zonedDecode, fun h => ?_⟩
  cases h with
  | zonedDecode h => exact h

theorem stoppedBy_zonedEncode_iff {value rounding : String} {digits : Int} {scale : Option Int}
    {unsigned : Bool} : StoppedBy (zonedEncode value digits scale rounding unsigned) f ↔
      Raises host files f (.zonedEncode value digits scale rounding unsigned) := by
  refine (stoppedBy_number_iff fun _ _ => not_stoppedBy_answered hf).trans ?_
  constructor
  · rintro ⟨mode, hmode, h | ⟨d, hd, h⟩⟩
    · exact .zonedLiteral hmode h
    · exact .zonedEncode hmode hd h
  · intro h
    cases h with
    | zonedLiteral hmode h => exact ⟨_, hmode, .inl h⟩
    | zonedEncode hmode hd h => exact ⟨_, hmode, .inr ⟨_, hd, h⟩⟩

theorem stoppedBy_formatText_iff {value pad : String} {length : Int} :
    StoppedBy (formatText value length pad) f ↔
      Raises host files f (.formatText value length pad) := by
  rw [formatText]
  constructor
  · intro h
    split at h
    · exact absurd h not_stoppedBy_badParameter
    next side hside =>
    simp only [formatted, stoppedBy_bind_iff, stoppedBy_lettingThrough_iff,
      not_stoppedBy_answered hf, and_false, exists_false, or_false] at h
    exact .formatText hside h
  · intro h
    cases h with
    | formatText hside h =>
      simp only [hside, stoppedBy_bind_iff, stoppedBy_lettingThrough_iff]
      exact .inl h

theorem stoppedBy_formatDigits_iff {value : String} {length : Int} {strict : Bool} :
    StoppedBy (formatDigits value length strict) f ↔
      Raises host files f (.formatDigits value length strict) := by
  simp only [formatDigits, formatted, stoppedBy_bind_iff, stoppedBy_reporting_iff,
    not_stoppedBy_answered hf, and_false, exists_false, or_false]
  refine ⟨.formatDigits, fun h => ?_⟩
  cases h with
  | formatDigits h => exact h

theorem stoppedBy_formatSigned_iff {value rounding : String} {integerDigits fractionDigits : Int} :
    StoppedBy (formatSigned value integerDigits fractionDigits rounding) f ↔
      Raises host files f (.formatSigned value integerDigits fractionDigits rounding) := by
  refine (stoppedBy_number_iff fun _ _ => not_stoppedBy_answered hf).trans ?_
  constructor
  · rintro ⟨mode, hmode, h | ⟨d, hd, h⟩⟩
    · exact .signedLiteral hmode h
    · exact .formatSigned hmode hd h
  · intro h
    cases h with
    | signedLiteral hmode h => exact ⟨_, hmode, .inl h⟩
    | formatSigned hmode hd h => exact ⟨_, hmode, .inr ⟨_, hd, h⟩⟩

theorem stoppedBy_pictureMatch_iff {picture text : String} {expandCounts : Bool} :
    StoppedBy (pictureMatch picture text expandCounts) f ↔
      Raises host files f (.pictureMatch picture text expandCounts) := by
  simp only [pictureMatch, stoppedBy_bind_iff, stoppedBy_reporting_iff,
    not_stoppedBy_answered hf, and_false, exists_false, or_false]
  refine ⟨.compile, fun h => ?_⟩
  cases h with
  | compile h => exact h

theorem stoppedBy_validate_iff {screen values : String} :
    StoppedBy (validate files screen values) f ↔ Raises host files f (.validate screen values) := by
  simp only [validate, stoppedBy_bind_iff, not_stoppedBy_fileBytes, false_or, fileBytes_eq_ok_iff,
    stoppedBy_lettingThrough_iff, lettingThrough_eq_ok_iff, not_stoppedBy_readValues hf,
    not_stoppedBy_answered hf, and_false, exists_false, or_false]
  constructor
  · rintro ⟨bytes, hbytes, h | ⟨document, hdocument, h | ⟨config, hconfig, valueBytes, hvalues,
      entered, hentered, h⟩⟩⟩
    · exact .screenFile hbytes h
    · exact .screenConfig hbytes hdocument h
    · exact .screenCheck hbytes hdocument hconfig hvalues hentered h
  · intro h
    cases h with
    | screenFile hbytes h => exact ⟨_, hbytes, .inl h⟩
    | screenConfig hbytes hdocument h => exact ⟨_, hbytes, .inr ⟨_, hdocument, .inl h⟩⟩
    | screenCheck hbytes hdocument hconfig hvalues hentered h =>
      exact ⟨_, hbytes, .inr ⟨_, hdocument, .inr ⟨_, hconfig, _, hvalues, _, hentered, h⟩⟩⟩

theorem stoppedBy_recordDecode_iff {copybook data page : String} {maxRecords : Int}
    {output : Option String} :
    StoppedBy (recordDecode host files copybook data page maxRecords output) f ↔
      Raises host files f (.recordDecode copybook data page maxRecords output) := by
  simp only [recordDecode, stoppedBy_bind_iff, not_stoppedBy_fileBytes, false_or,
    fileBytes_eq_ok_iff, stoppedBy_reporting_iff, reporting_eq_ok_iff,
    stoppedBy_lettingThrough_iff, lettingThrough_eq_ok_iff, stoppedBy_mapM_iff]
  constructor
  · rintro ⟨bytes, hbytes, h | ⟨text, htext, h | ⟨length, hlength, dataset, hdataset, h |
      ⟨bodies, hbodies, ⟨before, body, after, hasked, hbefore, h⟩ | ⟨records, -, h |
      ⟨text, -, h⟩⟩⟩⟩⟩⟩
    · exact .copybookText hbytes h
    · exact .recordLength hbytes htext h
    · exact .split hbytes htext hlength hdataset h
    · exact .record hbytes htext hlength hdataset hbodies hasked hbefore h
    · -- all records are decoded, and what is left is to print them or to write them
      exact absurd h (not_stoppedBy_documentText hf)
    · exact absurd h not_stoppedBy_ok
  · intro h
    cases h with
    | copybookText hbytes h => exact ⟨_, hbytes, .inl h⟩
    | recordLength hbytes htext h => exact ⟨_, hbytes, .inr ⟨_, htext, .inl h⟩⟩
    | split hbytes htext hlength hdataset h =>
      exact ⟨_, hbytes, .inr ⟨_, htext, .inr ⟨_, hlength, _, hdataset, .inl h⟩⟩⟩
    | record hbytes htext hlength hdataset hbodies hasked hbefore h =>
      exact ⟨_, hbytes, .inr ⟨_, htext, .inr ⟨_, hlength, _, hdataset, .inr ⟨_, hbodies,
        .inl ⟨_, _, _, hasked, hbefore, h⟩⟩⟩⟩⟩

/-- **A command is stopped by a field fault exactly when the library has it**, whichever
command it is. -/
theorem stoppedBy_perform_iff {task : Task} :
    StoppedBy (perform host files task) f ↔ Raises host files f task := by
  cases task with
  | packedDecode => exact stoppedBy_packedDecode_iff hf
  | packedEncode => exact stoppedBy_packedEncode_iff hf
  | zonedDecode => exact stoppedBy_zonedDecode_iff hf
  | zonedEncode => exact stoppedBy_zonedEncode_iff hf
  | formatText => exact stoppedBy_formatText_iff hf
  | formatDigits => exact stoppedBy_formatDigits_iff hf
  | formatSigned => exact stoppedBy_formatSigned_iff hf
  | pictureMatch => exact stoppedBy_pictureMatch_iff hf
  | validate => exact stoppedBy_validate_iff hf
  | recordDecode => exact stoppedBy_recordDecode_iff hf

end FieldFault

end FixedWidth.Command
