import FixedWidth.Proofs.Command.Stop

/-!
# What faults make of a command

A field fault is to be reported, with exit code 2 and without an answer. Whether that
happens is settled step by step: a row of steps that all report their faults reports its own
(`FixedWidth.Command.Reports.bind`), and so do all commands but one
(`FixedWidth.Command.reports_perform`). Validating a screen is made of steps that let faults
through (`FixedWidth.Command.letsThrough_validate`), and so ends on a broken configuration as
if a check had failed.

A fault is reported by a line that has to be shown. The console may not take it, as the line
repeats what the fault is about, and brackets in that are not meant as markup and can be taken
for it. Then the command ends with exit code 1, and nothing is reported.

So exit code 1 says one of three things: a check was made and has failed
(`FixedWidth.Command.Refused`), a fault was let through, or a console did not take its text
(`FixedWidth.Command.exitCode_outcomeOf_eq_one_iff`).
-/

namespace FixedWidth.Command

variable {α β : Type} {host : Host} {files : Files} {f : Fault} {x : Except Stop α}
  {g : α → Except Stop β} {y : Except Fault α} {a : α} {v : Value} {path what name : String}
  {bytes : List UInt8}

/-! ### Reporting and letting through -/

/-- **A step reports field faults**: none of them is let through. -/
def Reports (x : Except Stop α) : Prop :=
  ∀ f, x = .error (.unhandled f) → f.isFieldFault = false

/-- **A step lets faults through**: none of them is reported. -/
def LetsThrough (x : Except Stop α) : Prop :=
  ∀ f, x ≠ .error (.reported f)

theorem Reports.bind (hx : Reports x) (hg : ∀ a, Reports (g a)) : Reports (x >>= g) := by
  intro f h
  rcases bind_eq_error_iff.mp h with h | ⟨a, -, h⟩
  · exact hx f h
  · exact hg a f h

theorem LetsThrough.bind (hx : LetsThrough x) (hg : ∀ a, LetsThrough (g a)) :
    LetsThrough (x >>= g) := by
  intro f h
  rcases bind_eq_error_iff.mp h with h | ⟨a, -, h⟩
  · exact hx f h
  · exact hg a f h

theorem reports_ok : Reports (.ok a : Except Stop α) := fun _ h => nomatch h

theorem letsThrough_ok : LetsThrough (.ok a : Except Stop α) := fun _ h => nomatch h

theorem reports_reporting : Reports (reporting y) := by
  intro f h
  cases y with
  | ok a => cases h
  | error f' =>
    rw [reporting] at h
    split at h
    · cases h
    next hf' =>
    cases h
    exact Bool.eq_false_iff.mpr hf'

theorem reports_lettingThrough (hy : ∀ f, y = .error f → f.isFieldFault = false) :
    Reports (lettingThrough y) := by
  intro f h
  cases y with
  | ok a => cases h
  | error f' =>
    cases h
    exact hy f rfl

theorem letsThrough_lettingThrough : LetsThrough (lettingThrough y) := by
  intro f h
  cases y <;> cases h

theorem reports_mapM {step : α → Except Stop β} (h : ∀ a, Reports (step a)) (as : List α) :
    Reports (as.mapM step) := by
  intro f hf
  obtain ⟨-, a, -, -, -, ha⟩ := mapM_eq_error_iff.mp hf
  exact h a f ha

theorem reports_roundingNamed : Reports (roundingNamed name) := by
  intro f h
  rw [roundingNamed] at h
  split at h <;> cases h

theorem reports_fileBytes : Reports (fileBytes files path what) := by
  intro f h
  rw [fileBytes] at h
  split at h <;> cases h

theorem letsThrough_fileBytes : LetsThrough (fileBytes files path what) := by
  intro f h
  rw [fileBytes] at h
  split at h <;> cases h

theorem reports_documentText : Reports (documentText v) := by
  intro f h
  rw [documentText] at h
  split at h <;> cases h
  rfl

theorem letsThrough_documentText : LetsThrough (documentText v) := by
  intro f h
  rw [documentText] at h
  split at h <;> cases h

theorem reports_answered {exitCode : Nat} : Reports (answered v exitCode) :=
  reports_documentText.bind fun _ => reports_ok

theorem letsThrough_answered {exitCode : Nat} : LetsThrough (answered v exitCode) :=
  letsThrough_documentText.bind fun _ => letsThrough_ok

theorem letsThrough_readValues : LetsThrough (readValues bytes) := by
  refine letsThrough_lettingThrough.bind fun cs f h => ?_
  split at h <;> cases h

/-- Whether a task is to validate values on a screen. -/
def Task.validates : Task → Bool
  | validate _ _ => true
  | _ => false

/-- **Every command but one reports its field faults.** -/
theorem reports_perform {task : Task} (h : task.validates = false) :
    Reports (perform host files task) := by
  cases task with
  | packedDecode hex scale =>
    intro f hf
    rw [perform, packedDecode] at hf
    split at hf
    · cases hf
    · exact (reports_reporting.bind fun _ => reports_answered) f hf
  | packedEncode value digits scale rounding unsigned =>
    exact reports_roundingNamed.bind fun _ => reports_reporting.bind fun _ =>
      reports_reporting.bind fun _ => reports_answered
  | zonedDecode text scale unsigned => exact reports_reporting.bind fun _ => reports_answered
  | zonedEncode value digits scale rounding unsigned =>
    exact reports_roundingNamed.bind fun _ => reports_reporting.bind fun _ =>
      reports_reporting.bind fun _ => reports_answered
  | formatText value length pad =>
    intro f hf
    rw [perform, formatText] at hf
    split at hf
    · cases hf
    · -- a text fits every field, so that there is no field fault to be reported
      refine (Reports.bind (reports_lettingThrough fun f' hf' => ?_) fun _ => reports_answered) f hf
      rw [Display.formatText] at hf'
      split at hf' <;> cases hf'
      rfl
  | formatDigits value length strict => exact reports_reporting.bind fun _ => reports_answered
  | formatSigned value integerDigits fractionDigits rounding =>
    exact reports_roundingNamed.bind fun _ => reports_reporting.bind fun _ =>
      reports_reporting.bind fun _ => reports_answered
  | pictureMatch picture text expandCounts =>
    exact reports_reporting.bind fun _ => reports_answered
  | validate screen values => cases h
  | recordDecode copybook data page maxRecords output =>
    refine reports_fileBytes.bind fun _ => reports_reporting.bind fun _ =>
      reports_reporting.bind fun _ => reports_fileBytes.bind fun _ =>
        Reports.bind (reports_lettingThrough fun f' hf' => ?_) fun _ =>
          Reports.bind (reports_mapM (fun _ => reports_reporting) _) fun _ =>
            reports_documentText.bind fun _ => reports_ok
    rw [Record.split] at hf'
    split at hf' <;> cases hf'
    rfl

/-- **Validating values on a screen reports no fault.** -/
theorem letsThrough_validate {screen values : String} :
    LetsThrough (validate files screen values) :=
  letsThrough_fileBytes.bind fun _ => letsThrough_lettingThrough.bind fun _ =>
    letsThrough_lettingThrough.bind fun _ => letsThrough_fileBytes.bind fun _ =>
      letsThrough_readValues.bind fun _ => letsThrough_lettingThrough.bind fun _ =>
        letsThrough_answered

/-! ### Checks that fail -/

/-- **The check of a task has been made and has failed**: the text does not match the picture,
or the values have failures on the screen. -/
inductive Refused (files : Files) : Task → Prop where
  | picture {picture text expandCounts clause}
      (compiled : Picture.compile picture expandCounts = .ok clause)
      (refused : clause.accepts text.toList = false) :
      Refused files (.pictureMatch picture text expandCounts)
  | values {screen values bytes document config valueBytes entered failures}
      (there : Entries.get? files (normalizePath screen) = some bytes)
      (read : Screen.readFile (normalizePath screen) bytes = .ok document)
      (configured : Screen.Config.ofValue document = .ok config)
      (given : Entries.get? files (normalizePath values) = some valueBytes)
      (readable : readValues valueBytes = .ok entered)
      (checked : config.validate entered = .ok failures) (refused : failures ≠ []) :
      Refused files (.validate screen values)

variable {task : Task} {reply : Reply} {words : List String} {i : Invocation}

/-- An answer has the exit code that it is given. -/
theorem exitCode_of_answered {exitCode : Nat} (h : answered v exitCode = .ok reply) :
    reply.exitCode = exitCode := by
  obtain ⟨text, -, h⟩ := bind_eq_ok_iff.mp h
  cases h
  rfl

/-- What keeps a command from giving its answer is the answer. -/
theorem answered_eq_error {exitCode : Nat} {stop : Stop} (h : answered v exitCode = .error stop) :
    stop = .unhandled .wrongKind := by
  rcases bind_eq_error_iff.mp h with h | ⟨text, -, h⟩
  · rw [documentText] at h
    split at h <;> cases h
    rfl
  · cases h

/-- A check that has failed is answered with exit code 1. -/
theorem perform_of_refused (host : Host) (h : Refused files task) :
    ∃ v, perform host files task = answered v 1 := by
  cases h with
  | @picture picture text expandCounts clause hclause hno =>
    rw [Picture.Clause.accepts] at hno
    rw [perform, pictureMatch, reporting_eq_ok_iff.mpr hclause, ok_bind]
    simp only [hno, Bool.false_eq_true, if_false]
    exact ⟨_, rfl⟩
  | @values screen values bytes document config valueBytes entered failures hbytes hdocument
      hconfig hvalues hentered hchecked hne =>
    rw [perform, validate, fileBytes_eq_ok_iff.mpr hbytes, ok_bind,
      lettingThrough_eq_ok_iff.mpr hdocument, ok_bind, lettingThrough_eq_ok_iff.mpr hconfig,
      ok_bind, fileBytes_eq_ok_iff.mpr hvalues, ok_bind, hentered, ok_bind,
      lettingThrough_eq_ok_iff.mpr hchecked, ok_bind, List.isEmpty_eq_false_iff.mpr hne]
    exact ⟨_, rfl⟩

/-- **A command that checks nothing**: what it has to say has exit code 0. -/
def Succeeds (x : Except Stop Reply) : Prop :=
  ∀ reply, x = .ok reply → reply.exitCode = 0

theorem Succeeds.bind {g : α → Except Stop Reply} (hg : ∀ a, Succeeds (g a)) :
    Succeeds (x >>= g) := by
  intro reply h
  obtain ⟨a, -, h⟩ := bind_eq_ok_iff.mp h
  exact hg a reply h

theorem succeeds_answered : Succeeds (answered v) := fun _ => exitCode_of_answered

/-- A command has exit code 1 of its own only where a check has failed. -/
theorem refused_of_perform (h : perform host files task = .ok reply) (hone : reply.exitCode = 1) :
    Refused files task := by
  have hsucceeds : ¬Succeeds (perform host files task) := fun hall => by
    rw [hall reply h] at hone
    cases hone
  cases task with
  | packedDecode hex scale =>
    refine absurd (fun reply hreply => ?_) hsucceeds
    rw [perform, packedDecode] at hreply
    split at hreply
    · cases hreply
    · exact Succeeds.bind (fun _ => succeeds_answered) reply hreply
  | packedEncode value digits scale rounding unsigned =>
    exact absurd (.bind fun _ => .bind fun _ => .bind fun _ => succeeds_answered) hsucceeds
  | zonedDecode text scale unsigned =>
    exact absurd (.bind fun _ => succeeds_answered) hsucceeds
  | zonedEncode value digits scale rounding unsigned =>
    exact absurd (.bind fun _ => .bind fun _ => .bind fun _ => succeeds_answered) hsucceeds
  | formatText value length pad =>
    refine absurd (fun reply hreply => ?_) hsucceeds
    rw [perform, formatText] at hreply
    split at hreply
    · cases hreply
    · exact Succeeds.bind (fun _ => succeeds_answered) reply hreply
  | formatDigits value length strict =>
    exact absurd (.bind fun _ => succeeds_answered) hsucceeds
  | formatSigned value integerDigits fractionDigits rounding =>
    exact absurd (.bind fun _ => .bind fun _ => .bind fun _ => succeeds_answered) hsucceeds
  | pictureMatch picture text expandCounts =>
    obtain ⟨clause, hclause, h⟩ := bind_eq_ok_iff.mp h
    refine .picture (reporting_eq_ok_iff.mp hclause) ?_
    rw [exitCode_of_answered h] at hone
    rw [Picture.Clause.accepts]
    split at hone
    · cases hone
    next hmismatch => exact Bool.eq_false_iff.mpr hmismatch
  | validate screen values =>
    obtain ⟨bytes, hbytes, h⟩ := bind_eq_ok_iff.mp h
    obtain ⟨document, hdocument, h⟩ := bind_eq_ok_iff.mp h
    obtain ⟨config, hconfig, h⟩ := bind_eq_ok_iff.mp h
    obtain ⟨valueBytes, hvalues, h⟩ := bind_eq_ok_iff.mp h
    obtain ⟨entered, hentered, h⟩ := bind_eq_ok_iff.mp h
    obtain ⟨failures, hchecked, h⟩ := bind_eq_ok_iff.mp h
    refine .values (fileBytes_eq_ok_iff.mp hbytes) (lettingThrough_eq_ok_iff.mp hdocument)
      (lettingThrough_eq_ok_iff.mp hconfig) (fileBytes_eq_ok_iff.mp hvalues) hentered
      (lettingThrough_eq_ok_iff.mp hchecked) ?_
    rintro rfl
    rw [exitCode_of_answered h] at hone
    cases hone
  | recordDecode copybook data page maxRecords output =>
    refine absurd (.bind fun _ => .bind fun _ => .bind fun _ => .bind fun _ => .bind fun _ =>
      .bind fun _ => .bind fun _ reply hreply => ?_) hsucceeds
    cases hreply
    cases output <;> rfl

/-! ### What a command line comes to -/

/-- A command line comes to what its task comes to, and to what the journal reports. -/
theorem run_of_readInvocation (h : readInvocation words = .ok i) :
    run host files words =
      { outcomeOf host files i.task with
        events := i.events files, eventsAsJson := i.logJson } := by
  rw [run, h]

/-- **A field fault is reported by every command but one**, which lets it through. -/
theorem outcomeOf_of_raises (hf : f.isFieldFault = true) (h : Raises host files f task) :
    outcomeOf host files task =
      (if task.validates then Stop.unhandled f else .reported f).outcome host.errors := by
  have hstop := (stoppedBy_perform_iff hf).mpr h
  rw [outcomeOf]
  cases hvalidates : task.validates with
  | true =>
    cases task with
    | validate screen values =>
      have hunhandled := hstop.resolve_left (letsThrough_validate f)
      rw [hunhandled]
      rfl
    | _ => cases hvalidates
  | false =>
    have hreported := hstop.resolve_right fun hunhandled => by
      rw [reports_perform hvalidates f hunhandled] at hf
      cases hf
    rw [hreported]
    rfl

/-- **A console has not taken its text.** -/
def Unprinted (o : Outcome) : Prop :=
  ∃ reason, o.problem = some (.unprinted reason)

/-- A reply ends with its own exit code, or with 1 where it is not shown. -/
theorem Reply.exitCode_outcome_eq_one_iff {console : Console} :
    (reply.outcome console).exitCode = 1 ↔
      reply.exitCode = 1 ∨ Unprinted (reply.outcome console) := by
  rw [Reply.outcome, Unprinted]
  cases console reply.printed with
  | ok shown => simp
  | error reason => simp

/-- A stop that is not reported is one with exit code 1. -/
theorem Stop.exitCode_outcome_eq_one_iff {console : Console} {stop : Stop} :
    (stop.outcome console).exitCode = 1 ↔
      (∃ f, stop = .unhandled f) ∨ Unprinted (stop.outcome console) := by
  rw [Unprinted]
  cases stop with
  | badParameter text => simp [Stop.outcome]
  | unhandled f => simp [Stop.outcome]
  | reported f =>
    simp only [Stop.outcome]
    cases console (reportText f) with
    | ok shown => simp
    | error reason => simp

/-- Whether a fault was let through can be seen from what is left. -/
theorem Stop.problem_outcome_eq_fault_iff {console : Console} {stop : Stop} :
    (stop.outcome console).problem = some (.fault f) ↔ stop = .unhandled f := by
  cases stop with
  | badParameter text => simp [Stop.outcome]
  | unhandled f' => simp [Stop.outcome]
  | reported f' =>
    simp only [Stop.outcome]
    cases console (reportText f') with
    | ok shown => simp
    | error reason => simp

theorem Reply.problem_outcome_ne_fault {console : Console} :
    (reply.outcome console).problem ≠ some (.fault f) := by
  rw [Reply.outcome]
  cases console reply.printed with
  | ok shown => simp
  | error reason => simp

/-- **Exit code 1 says that a check has failed**, that a fault was let through, or that a
console has not taken its text. -/
theorem exitCode_outcomeOf_eq_one_iff : (outcomeOf host files task).exitCode = 1 ↔
    Refused files task ∨ (∃ f, (outcomeOf host files task).problem = some (.fault f)) ∨
      Unprinted (outcomeOf host files task) := by
  rw [outcomeOf]
  cases hperform : perform host files task with
  | ok reply =>
    simp only [Reply.exitCode_outcome_eq_one_iff, Reply.problem_outcome_ne_fault, exists_false,
      false_or]
    refine or_congr_left ⟨refused_of_perform hperform, fun h => ?_⟩
    obtain ⟨v, hv⟩ := perform_of_refused host h
    exact exitCode_of_answered (hv.symm.trans hperform)
  | error stop =>
    simp only [Stop.exitCode_outcome_eq_one_iff, Stop.problem_outcome_eq_fault_iff]
    constructor
    · exact .inr
    · rintro (h | h)
      · obtain ⟨v, hv⟩ := perform_of_refused host h
        exact .inl ⟨_, answered_eq_error (hv.symm.trans hperform)⟩
      · exact h

/-- A fault that was let through is one of the library, if it is a field fault, and only
validating a screen lets it through. -/
theorem raises_of_problem (hf : f.isFieldFault = true)
    (h : (outcomeOf host files task).problem = some (.fault f)) :
    task.validates = true ∧ Raises host files f task := by
  have hunhandled : perform host files task = .error (.unhandled f) := by
    rw [outcomeOf] at h
    cases hperform : perform host files task with
    | ok reply =>
      rw [hperform] at h
      exact absurd h Reply.problem_outcome_ne_fault
    | error stop =>
      rw [hperform] at h
      exact congrArg Except.error (Stop.problem_outcome_eq_fault_iff.mp h)
  refine ⟨?_, (stoppedBy_perform_iff hf).mp (.inr hunhandled)⟩
  cases hvalidates : task.validates with
  | true => rfl
  | false =>
    rw [reports_perform hvalidates f hunhandled] at hf
    cases hf

/-- **What is left of a command that has met the field fault `f`.** There is no answer, and
nothing is written. -/
structure EndsOn (host : Host) (task : Task) (f : Fault) (o : Outcome) : Prop where
  output : o.output = ""
  written : o.written = []
  /-- It is reported by every command but validating a screen, in a line that is shown. -/
  exitCode_eq_two_iff : o.exitCode = 2 ↔
    task.validates = false ∧ ∃ shown, host.errors (reportText f) = .ok shown
  shown : task.validates = false → ∀ shown, host.errors (reportText f) = .ok shown →
    o.errors = shown
  /-- A line that is not shown ends the command as anything does that is let through. -/
  unprinted : task.validates = false → ∀ reason, host.errors (reportText f) = .error reason →
    o.exitCode = 1 ∧ o.problem = some (.unprinted reason)
  /-- Validating a screen lets the fault through. -/
  letThrough : task.validates = true → o.exitCode = 1 ∧ o.problem = some (.fault f)

theorem endsOn_of_raises (hf : f.isFieldFault = true) (h : Raises host files f task) :
    EndsOn host task f (outcomeOf host files task) := by
  rw [outcomeOf_of_raises hf h]
  cases hvalidates : task.validates with
  | true =>
    have hcode : (1 : Nat) ≠ 2 := by decide
    refine ⟨rfl, rfl, iff_of_false hcode fun h => ?_, fun h => ?_, fun h => ?_, fun _ => ⟨rfl, rfl⟩⟩
    · cases hvalidates.symm.trans h.1
    · cases hvalidates.symm.trans h
    · cases hvalidates.symm.trans h
  | false =>
    have hnever : task.validates ≠ true := by simp [hvalidates]
    simp only [Bool.false_eq_true, if_false, Stop.outcome]
    cases hconsole : host.errors (reportText f) with
    | ok line =>
      refine ⟨rfl, rfl, iff_of_true rfl ⟨hvalidates, line, hconsole⟩, fun _ shown h => ?_,
        fun _ reason h => ?_, fun h => absurd h hnever⟩
      · exact Except.ok.inj (hconsole.symm.trans h)
      · cases hconsole.symm.trans h
    | error reason =>
      have hcode : (1 : Nat) ≠ 2 := by decide
      refine ⟨rfl, rfl, iff_of_false hcode fun ⟨_, shown, h⟩ => ?_, fun _ shown h => ?_,
        fun _ reason' h => ?_, fun h => absurd h hnever⟩
      · cases hconsole.symm.trans h
      · cases hconsole.symm.trans h
      · rw [Except.error.inj (hconsole.symm.trans h)]
        exact ⟨rfl, rfl⟩

/-- **What faults make of a command line.** A field fault of the library leaves no answer and
nothing written. It is reported with exit code 2 by every command but validating a screen, as
long as the console shows the line; validating a screen lets it through with exit code 1. For
the rest, exit code 1 says that a check has failed, that a fault was let through that is no field
fault, or that a console has not taken its text. -/
theorem run_of_raises (h : readInvocation words = .ok i) :
    (∀ f, f.isFieldFault = true → Raises host files f i.task →
      EndsOn host i.task f (run host files words)) ∧
    ((run host files words).exitCode = 1 ↔ Refused files i.task ∨
      (∃ f, (run host files words).problem = some (.fault f)) ∨
      Unprinted (run host files words)) ∧
    ∀ f, (run host files words).problem = some (.fault f) → f.isFieldFault = true →
      i.task.validates = true ∧ Raises host files f i.task := by
  rw [run_of_readInvocation h]
  refine ⟨fun f hf hraises => ?_, exitCode_outcomeOf_eq_one_iff,
    fun f hproblem hf => raises_of_problem hf hproblem⟩
  have hends := endsOn_of_raises hf hraises
  exact ⟨hends.output, hends.written, hends.exitCode_eq_two_iff, hends.shown, hends.unprinted,
    hends.letThrough⟩

/-- A command line that asks for four digits in a field of three. -/
def overflowWords : List String := ["packed", "encode", "1234", "--digits", "3"]

theorem overflow_reported : ∃ i,
    readInvocation overflowWords = .ok i ∧ Raises .plain [] (.overflow 4 3) i.task ∧
      (run .plain [] overflowWords).exitCode = 2 ∧ (run .plain [] overflowWords).output = "" ∧
      (run .plain [] overflowWords).errors =
        "NumericOverflow: Value needs 4 digits but the field holds 3\n" := by
  have hread : readInvocation overflowWords =
      .ok ⟨false, false, .packedEncode "1234" 3 none "half-up" false⟩ := by decide +kernel
  have hnumber : Decimal.parse (.text "1234") none { rounding := .halfUp } =
      .ok (.make 1234 false 0) := by decide +kernel
  have hraises : Raises .plain [] (.overflow 4 3) (.packedEncode "1234" 3 none "half-up" false) :=
    .packedEncode rfl hnumber rfl
  have hshown : plainConsole (reportText (.overflow 4 3)) =
      .ok "NumericOverflow: Value needs 4 digits but the field holds 3\n" := by decide +kernel
  have hends := (run_of_raises hread).1 _ rfl hraises
  exact ⟨_, hread, hraises, hends.exitCode_eq_two_iff.mpr ⟨rfl, _, hshown⟩, hends.output,
    hends.shown rfl _ hshown⟩

/-- The files of a screen whose rule has a picture in two lines, and of values without any. -/
def brokenFiles : Files :=
  [("s.json", ("\x7b\"name\":\"S\",\"rules\":[\x7b\"predicate\":\"matches_picture\"," ++
      "\"fields\":[\"a\"],\"options\":\x7b\"picture\":\"9\\n\"\x7d\x7d]\x7d").toList.map
        fun c => c.toNat.toUInt8),
    ("v.json", "\x7b\x7d".toList.map fun c => c.toNat.toUInt8)]

/-- Faults are not compared, since values are not; the parts of this one are. -/
theorem eq_pictureToken_of_check {c : Char} {n : Nat}
    (h : (match x with
      | .error (.unhandled (.pictureToken c' n')) => c' == c && n' == n
      | _ => false) = true) : x = .error (.unhandled (.pictureToken c n)) := by
  split at h
  · obtain ⟨hc, hn⟩ := Bool.and_eq_true_iff.mp h
    rw [eq_of_beq hc, eq_of_beq hn]
  · cases h

/-- The picture's second character is no symbol, which the command lets through. -/
theorem perform_brokenFiles : perform .plain brokenFiles (.validate "s.json" "v.json") =
    .error (.unhandled (.pictureToken '\n' 1)) :=
  eq_pictureToken_of_check (by decide +kernel)

/-- **Not every field fault is reported**: that of a picture in a rule ends the command as if a
check had failed. -/
theorem not_always_reported : ¬∀ files words i f, readInvocation words = .ok i →
    f.isFieldFault = true → Raises .plain files f i.task →
    (run .plain files words).exitCode = 2 ∧ (run .plain files words).output = "" ∧
      (run .plain files words).written = [] := by
  intro h
  have hread : readInvocation ["validate", "s.json", "v.json"] =
      .ok ⟨false, false, .validate "s.json" "v.json"⟩ := by decide +kernel
  have hraises : Raises .plain brokenFiles (.pictureToken '\n' 1) (.validate "s.json" "v.json") :=
    (stoppedBy_perform_iff rfl).mp (.inr perform_brokenFiles)
  obtain ⟨hcode, -, -⟩ := h _ _ _ _ hread rfl hraises
  have hone : (run .plain brokenFiles ["validate", "s.json", "v.json"]).exitCode = 1 := by
    decide +kernel
  exact absurd (hone.symm.trans hcode) (by decide)

end FixedWidth.Command
