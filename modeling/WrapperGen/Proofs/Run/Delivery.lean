import WrapperGen.Proofs.Outcome
import WrapperGen.Proofs.Run.Records

/-!
# All or nothing

A run goes through scanning, rendering, formatting and delivering its text. `Generated` says what
comes of the stages before the last one, by the result of the scan alone; `RunState.Delivered` and
`RunState.Refuses` say what comes of the last one. A run that fails at any stage leaves the files
and the output as they were, and a run that succeeds changes its destination and nothing else, also
if the destination is one of the sources (`RunState.run_all_or_nothing`).
-/

namespace WrapperGen

/-! ## Stages before the text is delivered -/

/-- What comes of sources that have been scanned: a text, or the failure of the first stage. -/
inductive Generated (formatter : Formatter) (settings : Settings) (scanned : ScanResult) :
    Except Failure Text → Prop
  | unscanned {failure : Failure} (hscan : scanned.failure = some failure) :
      Generated formatter settings scanned (.error failure)
  | unrendered {failure : Failure} (hscan : scanned.failure = none)
      (hrender : scanned.context.render = .error failure) :
      Generated formatter settings scanned (.error failure)
  /-- Without a formatter the rendered text is the text. -/
  | raw {source : Text} (hscan : scanned.failure = none)
      (hrender : scanned.context.render = .ok source) (hformat : settings.formatEnabled = false) :
      Generated formatter settings scanned (.ok source)
  /-- The command has a part that is no string. -/
  | wordless {source : Text} (hscan : scanned.failure = none)
      (hrender : scanned.context.render = .ok source) (hformat : settings.formatEnabled = true)
      (hwords : Json.strings? settings.command = none) :
      Generated formatter settings scanned (.error (.broken .wrongType))
  | missing {source : Text} {words : List CommandWord} (hscan : scanned.failure = none)
      (hrender : scanned.context.render = .ok source) (hformat : settings.formatEnabled = true)
      (hwords : Json.strings? settings.command = some words)
      (hresponse : formatter (formatCommand words) source = .missing) :
      Generated formatter settings scanned
        (.error (.formatting
          ⟨.programNotFound (Json.shownUnits ((formatCommand words).headD [])), source, []⟩))
  /-- The system does not start the formatter. -/
  | unstarted {source reason : Text} {words : List CommandWord} (hscan : scanned.failure = none)
      (hrender : scanned.context.render = .ok source) (hformat : settings.formatEnabled = true)
      (hwords : Json.strings? settings.command = some words)
      (hresponse : formatter (formatCommand words) source = .unstarted reason) :
      Generated formatter settings scanned (.error (.unstarted reason))
  /-- The command, the text or what the formatter wrote cannot be handed over. -/
  | handover {source : Text} {words : List CommandWord} {fault : HandoverFault}
      (hscan : scanned.failure = none) (hrender : scanned.context.render = .ok source)
      (hformat : settings.formatEnabled = true)
      (hwords : Json.strings? settings.command = some words)
      (hresponse : formatter (formatCommand words) source = .handover fault) :
      Generated formatter settings scanned (.error (.handover fault))
  | refused {source output diagnostics : Text} {words : List CommandWord} {status : Int}
      (hscan : scanned.failure = none) (hrender : scanned.context.render = .ok source)
      (hformat : settings.formatEnabled = true)
      (hwords : Json.strings? settings.command = some words)
      (hresponse : formatter (formatCommand words) source = .exited status output diagnostics)
      (hstatus : status ≠ 0) :
      Generated formatter settings scanned
        (.error (.formatting ⟨.failed status, source, diagnostics⟩))
  /-- The text is what the formatter makes of the rendered text. -/
  | formatted {source text diagnostics : Text} {words : List CommandWord}
      (hscan : scanned.failure = none) (hrender : scanned.context.render = .ok source)
      (hformat : settings.formatEnabled = true)
      (hwords : Json.strings? settings.command = some words)
      (hresponse : formatter (formatCommand words) source = .exited 0 text diagnostics) :
      Generated formatter settings scanned (.ok text)

namespace RunState

section Stages

variable (formatter : Formatter) (settings : Settings)

theorem generated_format (state : RunState) {scanned : ScanResult} {source : Text}
    (hscan : scanned.failure = none) (hrender : scanned.context.render = .ok source)
    (hformat : settings.formatEnabled = true) :
    Generated formatter settings scanned (state.format formatter settings.command source).2 := by
  unfold format
  split
  · next hwords => exact .wordless hscan hrender hformat hwords
  · next words hwords =>
    simp only [Formatter.run]
    cases hresponse : formatter (formatCommand words) source with
    | missing => exact .missing hscan hrender hformat hwords hresponse
    | unstarted reason => exact .unstarted hscan hrender hformat hwords hresponse
    | handover fault => exact .handover hscan hrender hformat hwords hresponse
    | exited status output diagnostics =>
      by_cases hstatus : status = 0
      · subst hstatus
        exact .formatted hscan hrender hformat hwords hresponse
      · simp only [if_neg hstatus]
        exact .refused hscan hrender hformat hwords hresponse hstatus

/-- How the run of a state scans the sources. -/
def scanned (state : RunState) (paths : List Text) : RunState × ScanResult :=
  (state.logAll Context.initialRecords).scanFiles (.ofSettings settings) paths

theorem generate_eq (state : RunState) (paths : List Text) :
    state.generate formatter settings paths =
      match (state.scanned settings paths).2.failure with
      | some failure => ((state.scanned settings paths).1, .error failure)
      | none =>
        let logged := (state.scanned settings paths).1.log
          (scannedRecord paths (state.scanned settings paths).2.context)
        match (state.scanned settings paths).2.context.render with
        | .error failure => (logged, .error failure)
        | .ok text =>
          let rendered := logged.log ((state.scanned settings paths).2.context.renderRecord text)
          if settings.formatEnabled then rendered.format formatter settings.command text
          else (rendered, .ok text) := rfl

/-- A run makes records until its text is there or a stage fails. -/
theorem generate_outcome (state : RunState) (paths : List Text) :
    Generated formatter settings (state.scanned settings paths).2
        (state.generate formatter settings paths).2 ∧
      state.Recorded (state.generate formatter settings paths).1 := by
  have hscanned : state.Recorded (state.scanned settings paths).1 :=
    (recorded_logAll state _).trans (recorded_scanFiles _ _ _)
  rw [generate_eq]
  generalize state.scanned settings paths = scanned at hscanned
  obtain ⟨after, result⟩ := scanned
  simp only at hscanned ⊢
  cases hscan : result.failure with
  | some failure => exact ⟨.unscanned hscan, hscanned⟩
  | none =>
    have hlogged := hscanned.trans (recorded_log after (scannedRecord paths result.context))
    cases hrender : result.context.render with
    | error failure => exact ⟨.unrendered hscan hrender, hlogged⟩
    | ok source =>
      have hrendered := hlogged.trans (recorded_log _ (result.context.renderRecord source))
      cases hformat : settings.formatEnabled with
      | false => exact ⟨.raw hscan hrender hformat, hrendered⟩
      | true =>
        exact ⟨generated_format formatter settings _ hscan hrender hformat,
          hrendered.trans (recorded_format formatter settings.command source _)⟩

end Stages

/-- Without a log file the records of a scan do not touch what is scanned. -/
theorem scanFiles_snd_eq {state : RunState} (hlog : state.logging.file = none) (context : Context)
    (paths : List Text) :
    (state.scanFiles context paths).2 = context.scanFiles state.files paths := by
  induction paths generalizing state context with
  | nil => rfl
  | cons path paths ih =>
    have hlogged := recorded_logAll state (context.fileRecords state.files path)
    rw [scanFiles, Context.scanFiles]
    cases (context.scanFile state.files path).failure with
    | some failure => rfl
    | none =>
      simp only
      rw [ih (by rw [hlogged.logging, hlog]), hlogged.files hlog]

end RunState

/-! ## Delivering the text -/

/-- No file is written at the root. -/
theorem FileSystem.target_ne_nil {files : FileSystem} {path : Text} {location : Location}
    (h : files.target path = .ok location) : location ≠ [] := by
  unfold target at h
  split at h
  · exact absurd h (by simp)
  · simp only [bind_eq_ok_iff] at h
    obtain ⟨parent, -, h⟩ := h
    split at h
    · exact absurd h (by simp)
    · obtain ⟨found, -, h⟩ := bind_eq_ok_iff.1 h
      split at h
      · exact absurd h (by simp)
      · next hfree =>
        obtain rfl := Except.ok.inj h
        rintro rfl
        exact hfree rfl

namespace RunState

/-- The destination does not take the text. -/
inductive Refuses (state : RunState) (text : Text) : Destination → Failure → Prop
  /-- The stream of output has no code for a character of the text. -/
  | stream (htakes : state.charset.takes text = false) :
      Refuses state text .stream (.broken .unencodable)
  | path {path written : Text} {cause : FileCause}
      (htarget : state.files.target path = .error cause) :
      Refuses state text (.path path written) (.file ⟨cause, written⟩)
  /-- No number but 1 and 2 is that of an open file to write to. -/
  | closed {number : Int} {shown : Text} (hsized : isHandleSized number = true)
      (hnatural : 0 ≤ number) (houtput : number ≠ 1) (herrors : number ≠ 2) :
      Refuses state text (.handle number shown) .badHandle
  | negative {number : Int} {shown : Text} (hsized : isHandleSized number = true)
      (hnegative : number < 0) :
      Refuses state text (.handle number shown) (.broken .negativeHandle)
  | oversized {number : Int} {shown : Text} (hsized : isHandleSized number = false) :
      Refuses state text (.handle number shown) (.broken .wrongType)
  | unusable {breakdown : Breakdown} : Refuses state text (.unusable breakdown) (.broken breakdown)

/-- All files but the log file are as before. -/
structure SameFiles (before after : RunState) : Prop where
  current : after.files.current = before.files.current
  node : ∀ location, before.logging.file ≠ some location →
    after.files.node? location = before.files.node? location

/-- The text is at its destination, and but for records all else is as before. -/
inductive Delivered (before : RunState) (text : Text) (after : RunState) : Destination → Prop
  | stream (hfiles : before.SameFiles after) (houtput : after.output = before.output ++ text) :
      Delivered before text after .stream
  | path {path written : Text} {location : Location}
      (htarget : before.files.target path = .ok location)
      (hfile : before.logging.file ≠ some location →
        after.files.node? location = some (.file text.encode))
      (hothers : ∀ other, other ≠ location → before.logging.file ≠ some other →
        after.files.node? other = before.files.node? other)
      (hcurrent : after.files.current = before.files.current)
      (houtput : after.output = before.output) :
      Delivered before text after (.path path written)
  | output {shown : Text} (hfiles : before.SameFiles after)
      (houtput : after.output = before.output ++ text) :
      Delivered before text after (.handle 1 shown)
  | errors {shown : Text} (hfiles : before.SameFiles after)
      (houtput : after.output = before.output) (herrors : text <:+: after.errors) :
      Delivered before text after (.handle 2 shown)

theorem delivered_path {state after : RunState} {path written text : Text} {location : Location}
    (htarget : state.files.target path = .ok location)
    (h : (state.write location text).Recorded after) :
    state.Delivered text after (.path path written) := by
  refine .path htarget (fun hlog => ?_) (fun other hother hlog => ?_) h.current h.output
  · rw [h.node location hlog]
    exact FileSystem.node?_setNode_self (FileSystem.target_ne_nil htarget) _ _
  · rw [h.node other hlog]
    exact FileSystem.node?_setNode_of_ne hother _ _

/-- Of all numbers, 1 and 2 take a text. -/
theorem deliverToHandle_outcome (state : RunState) (text : Text) (number : Int) (shown : Text) :
    (∃ failure, state.deliverToHandle text number shown = (state, .error failure) ∧
        state.Refuses text (.handle number shown) failure) ∨
      (state.deliverToHandle text number shown).2 = .ok () ∧
        state.Delivered text (state.deliverToHandle text number shown).1
          (.handle number shown) := by
  cases hsized : isHandleSized number with
  | false => exact .inl ⟨_, by rw [deliverToHandle, hsized]; rfl, .oversized hsized⟩
  | true =>
    by_cases hnegative : number < 0
    · refine .inl ⟨_, ?_, .negative hsized hnegative⟩
      simp only [deliverToHandle, hsized, if_pos hnegative, Bool.not_true, Bool.false_eq_true,
        if_false]
    · by_cases houtput : number = 1
      · subst houtput
        have hrecorded := recorded_log (state.print text) (writtenRecord text shown)
        exact .inr ⟨rfl, .output ⟨hrecorded.current, hrecorded.node⟩ hrecorded.output⟩
      · by_cases herrors : number = 2
        · subst herrors
          have hrecorded := recorded_log (state.printError text) (writtenRecord text shown)
          have htext : text <:+: (state.printError text).errors :=
            (List.suffix_append _ _).isInfix
          exact .inr ⟨rfl, .errors ⟨hrecorded.current, hrecorded.node⟩ hrecorded.output
            (htext.trans hrecorded.errors.isInfix)⟩
        · refine .inl ⟨_, ?_, .closed hsized (Int.not_lt.1 hnegative) houtput herrors⟩
          simp only [deliverToHandle, hsized, if_neg hnegative, if_neg houtput, if_neg herrors,
            Bool.not_true, Bool.false_eq_true, if_false]

/-- A destination takes all of a text, or it refuses it and nothing happens. -/
theorem deliver_outcome (state : RunState) (text : Text) (destination : Destination) :
    (∃ failure, state.deliver text destination = (state, .error failure) ∧
        state.Refuses text destination failure) ∨
      (state.deliver text destination).2 = .ok () ∧
        state.Delivered text (state.deliver text destination).1 destination := by
  cases destination with
  | stream =>
    rw [deliver]
    cases htakes : state.charset.takes text with
    | false => exact .inl ⟨_, rfl, .stream htakes⟩
    | true => exact .inr ⟨rfl, .stream ⟨rfl, fun _ _ => rfl⟩ rfl⟩
  | path path written =>
    rw [deliver]
    cases htarget : state.files.target path with
    | error cause => exact .inl ⟨_, rfl, .path htarget⟩
    | ok location => exact .inr ⟨rfl, delivered_path htarget (recorded_log _ _)⟩
  | handle number shown => exact deliverToHandle_outcome state text number shown
  | unusable breakdown => exact .inl ⟨_, rfl, .unusable⟩

/-- Without a log file, records made before a text is refused are no reason for it. -/
theorem Recorded.refuses {state middle : RunState} {text : Text} {destination : Destination}
    {failure : Failure} (h : state.Recorded middle) (hlog : state.logging.file = none)
    (hrefuses : middle.Refuses text destination failure) :
    state.Refuses text destination failure := by
  cases hrefuses with
  | stream htakes => exact .stream (h.charset ▸ htakes)
  | path htarget => exact .path (h.files hlog ▸ htarget)
  | closed hsized hnatural houtput herrors => exact .closed hsized hnatural houtput herrors
  | negative hsized hnegative => exact .negative hsized hnegative
  | oversized hsized => exact .oversized hsized
  | unusable => exact .unusable

/-- Without a log file, records made before a text is delivered change nothing about it. -/
theorem Recorded.delivered {state middle after : RunState} {text : Text}
    {destination : Destination} (h : state.Recorded middle) (hlog : state.logging.file = none)
    (hdelivered : middle.Delivered text after destination) :
    state.Delivered text after destination := by
  have hfiles := h.files hlog
  have hsame : middle.SameFiles after → state.SameFiles after := by
    rintro ⟨hcurrent, hnode⟩
    rw [hfiles, h.logging] at *
    exact ⟨hcurrent, hnode⟩
  cases hdelivered with
  | stream hkept houtput => exact .stream (hsame hkept) (by rw [houtput, h.output])
  | path htarget hfile hothers hcurrent houtput =>
    rw [h.logging] at hfile hothers
    rw [hfiles] at htarget hothers hcurrent
    exact .path htarget hfile hothers hcurrent (houtput.trans h.output)
  | output hkept houtput => exact .output (hsame hkept) (by rw [houtput, h.output])
  | errors hkept houtput herrors =>
    exact .errors (hsame hkept) (houtput.trans h.output) herrors

theorem run_eq (formatter : Formatter) (settings : Settings) (paths : List Text)
    (state : RunState) :
    state.run formatter settings paths =
      match (state.generate formatter settings paths).2 with
      | .error failure => ((state.generate formatter settings paths).1, .error failure)
      | .ok text =>
        (state.generate formatter settings paths).1.deliver text (.ofJson settings.output) := rfl

/--
A run is all or nothing. It fails at the first stage that fails, be it at reading, scanning,
rendering, formatting or opening the destination, or because the stream of output has no code for
what is to be written, and then the files and the output are as they were. Or it succeeds, and then
its destination receives the text that the formatter makes of what is rendered from the files in
order, or the rendered text itself, and nothing else changes. The destination may be one of the
files that were scanned. Records go to the stream of errors, unless a log file is set up.
-/
theorem run_all_or_nothing (formatter : Formatter) (settings : Settings) (paths : List Text)
    {state : RunState} (hlog : state.logging.file = none) :
    let scanned := (Context.ofSettings settings).scanFiles state.files paths
    let destination := Destination.ofJson settings.output
    let ended := state.run formatter settings paths
    (∃ failure, ended.2 = .error failure ∧ ended.1.files = state.files ∧
        ended.1.output = state.output ∧
        (Generated formatter settings scanned (.error failure) ∨
          ∃ text, Generated formatter settings scanned (.ok text) ∧
            state.Refuses text destination failure)) ∨
      ∃ text, ended.2 = .ok () ∧ Generated formatter settings scanned (.ok text) ∧
        state.Delivered text ended.1 destination := by
  intro scanned destination ended
  obtain ⟨hgenerated, hrecorded⟩ := generate_outcome formatter settings state paths
  have hscanned : (state.scanned settings paths).2 = scanned := by
    have hlogged := recorded_logAll state Context.initialRecords
    rw [RunState.scanned, scanFiles_snd_eq (by rw [hlogged.logging, hlog]), hlogged.files hlog]
  have hended : ended = _ := run_eq formatter settings paths state
  rw [hscanned] at hgenerated
  generalize state.generate formatter settings paths = generated at hgenerated hrecorded hended
  obtain ⟨middle, outcome⟩ := generated
  simp only at hgenerated hrecorded hended
  have hfiles := hrecorded.files hlog
  cases outcome with
  | error failure =>
    rw [hended]
    exact .inl ⟨failure, rfl, hfiles, hrecorded.output, .inl hgenerated⟩
  | ok text =>
    simp only at hended
    obtain ⟨failure, hdeliver, hrefuses⟩ | ⟨hdone, hdelivered⟩ :=
      deliver_outcome middle text destination
    · rw [hended, hdeliver]
      exact .inl ⟨failure, rfl, hfiles, hrecorded.output,
        .inr ⟨text, hgenerated, hrecorded.refuses hlog hrefuses⟩⟩
    · rw [hended]
      exact .inr ⟨text, hdone, hgenerated, hrecorded.delivered hlog hdelivered⟩

/-- The text of a source may take the place of the source. -/
theorem run_all_or_nothing_overwriting :
    let settings : Settings := ⟨false, true, .string "f.go", true, [.string "fmt"], .null, .null⟩
    let source : Text := "package p\n//ugo:callable f()"
    let files : FileSystem := ⟨[], [(["f.go"], .file source.encode)]⟩
    let formatter : Formatter := fun _ text => .exited 0 (text.take 50) []
    let state := RunState.start files 0 "<time>"
    let ended := state.run formatter settings ["f.go"]
    state.logging.file = none ∧
      ∃ text, ended.2 = .ok () ∧
        Generated formatter settings ((Context.ofSettings settings).scanFiles files ["f.go"])
          (.ok text) ∧
        state.Delivered text ended.1 (.path "f.go" "'f.go'") := by
  intro settings source files formatter state ended
  have hdone : ended.2.isOk = true := by decide +kernel
  refine ⟨rfl, ?_⟩
  obtain ⟨failure, hfailed, -⟩ | hsucceeds :=
    run_all_or_nothing formatter settings ["f.go"] (show state.logging.file = none from rfl)
  · rw [hfailed] at hdone
    exact absurd hdone (by simp [Except.isOk, Except.toBool])
  · exact hsucceeds

end RunState

end WrapperGen
