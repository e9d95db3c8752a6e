import WrapperGen.Proofs.Render.Validation
import WrapperGen.Proofs.Run.Delivery
import WrapperGen.Proofs.Scan.Stopping
import WrapperGen.Proofs.Signature.Acceptance

/-!
# Failures of a run that are reported

What stands in the sources leads to failures of its own (`Failure.OfSources`), which are reported.
So are failures of the file system, unless a path holds the null character, and those of starting
the formatter and of its work. What is left is what cannot be used: a command with parts that are no
strings or that cannot be handed to the system, a formatter whose words cannot be read, a
destination that names no place, and a stream that has no code for a character.
-/

namespace WrapperGen

/-! ## Paths without the null character -/

namespace FileSystem

variable {files : FileSystem} {path : Text} {cause : FileCause}

theorem refusal?_ne_nullCharacter (hpath : '\x00' ∉ path) :
    refusal? path ≠ some .nullCharacter := by
  have hfree : path.contains '\x00' = false := by simpa using hpath
  rw [refusal?, hfree]
  simp only [Bool.false_eq_true, if_false]
  split_ifs <;> simp

theorem step_ne_nullCharacter (location : Location) (component : Text) :
    files.step location component ≠ .error .nullCharacter := by
  unfold step
  split
  · simp
  · simp
  · split_ifs <;> simp

theorem walk_ne_nullCharacter (start : Location) (components : List Text) :
    files.walk start components ≠ .error .nullCharacter := by
  rw [walk]
  induction components generalizing start with
  | nil => exact nofun
  | cons component components ih =>
    rw [List.foldlM_cons]
    intro h
    rcases bind_eq_error_iff.1 h with h | ⟨next, -, h⟩
    · exact step_ne_nullCharacter _ _ h
    · exact ih next h

theorem locate_ne_nullCharacter (hpath : '\x00' ∉ path) :
    files.locate path ≠ .error .nullCharacter := by
  have hrefusal := refusal?_ne_nullCharacter hpath
  unfold locate
  split
  · next cause hcause =>
    intro h
    obtain rfl := Except.error.inj h
    exact hrefusal hcause
  · exact walk_ne_nullCharacter _ _

theorem read_ne_nullCharacter (hpath : '\x00' ∉ path) {fault : FileFault}
    (h : files.read path = .error fault) : fault.cause ≠ .nullCharacter := by
  have hlocate : files.locate path ≠ .error .nullCharacter := locate_ne_nullCharacter hpath
  unfold read at h
  split at h
  · next cause hcause =>
    obtain rfl := Except.error.inj h
    rintro rfl
    exact hlocate hcause
  · split at h
    · exact absurd h (by simp)
    · obtain rfl := Except.error.inj h
      simp [FileFault.onPath]
    · obtain rfl := Except.error.inj h
      simp [FileFault.onPath]

theorem target_ne_nullCharacter (hpath : '\x00' ∉ path) :
    files.target path ≠ .error .nullCharacter := by
  have hrefusal := refusal?_ne_nullCharacter hpath
  unfold target
  split
  · next cause hcause =>
    intro h
    obtain rfl := Except.error.inj h
    exact hrefusal hcause
  · intro h
    rcases bind_eq_error_iff.1 h with h | ⟨parent, -, h⟩
    · exact walk_ne_nullCharacter _ _ h
    · split at h
      · exact absurd h (by simp)
      · rcases bind_eq_error_iff.1 h with h | ⟨location, -, h⟩
        · exact step_ne_nullCharacter _ _ h
        · split at h <;> exact absurd h (by simp)

end FileSystem

/-! ## Failures of the sources -/

namespace Failure

variable {failure : Failure}

/-- What can be wrong with the text of sources. -/
inductive OfSources : Failure → Prop
  | directive {fault : DirectiveFault} : OfSources (.directive fault)
  | signature {fault : SignatureFault} (hfault : fault ≠ .list .emptyDelimiter) :
      OfSources (.signature fault)
  | importConflict {conflict : ImportConflict} : OfSources (.importConflict conflict)
  | missingConverter {type : Text} {function : Option Text} :
      OfSources (.missingConverter type function)
  | noPackage : OfSources .noPackage
  | packageClause {fault : PackageClause.Fault} {origin : Text} :
      OfSources (.packageClause fault origin)
  | packageMismatch {first second origin : Text} : OfSources (.packageMismatch first second origin)

theorem OfSources.isReported (h : failure.OfSources) : failure.isReported = true := by
  cases h with
  | @signature fault hfault =>
    show (Failure.signature fault).kind?.isSome = true
    rw [kind?_signature hfault]
    rfl
  | _ => rfl

theorem isReported_file {fault : FileFault} (h : fault.cause ≠ .nullCharacter) :
    (Failure.file fault).isReported = true := by
  simpa [isReported] using h

end Failure

namespace Context

variable {context : Context} {origin : Text} {failure : Failure}

theorem apply_error {directive : Directive}
    (h : context.apply origin directive = .error failure) : failure.OfSources := by
  cases directive with
  | importing payload =>
    rw [apply, applyImport] at h
    split at h
    · obtain rfl := Except.error.inj h
      exact .directive
    · exact absurd h (by simp)
    · rw [addImport] at h
      split at h
      · exact absurd h (by simp)
      · obtain rfl := Except.error.inj h
        exact .importConflict
  | converting payload =>
    rw [apply, applyConversion] at h
    split at h
    · obtain rfl := Except.error.inj h
      exact .directive
    · exact absurd h (by simp)
    · exact absurd h (by simp)
  | declaring payload =>
    rw [apply, applyDeclaration, declaredFunction] at h
    split at h
    · next fault hfault =>
      obtain rfl := Except.error.inj h
      exact .signature (Signature.ofText_error (map_eq_error_iff.1 hfault))
    · exact absurd h (by simp)

theorem applyLine_error {numbered : NumberedLine}
    (h : context.applyLine origin numbered = .error failure) : failure.OfSources := by
  rw [applyLine] at h
  split at h
  · obtain rfl := Except.error.inj h
    exact .directive
  · exact apply_error h

theorem failure_scan {source : Source}
    (h : (context.scan origin source).failure = some failure) : failure.OfSources := by
  have hscans := scans_scan context origin source
  generalize context.scan origin source = result at h hscans
  cases hscans with
  | refused _ _ hline =>
    obtain rfl := Option.some.inj h
    exact applyLine_error hline
  | unreadable _ _ =>
    obtain rfl := Option.some.inj h
    exact .packageClause
  | mismatched _ _ _ _ =>
    obtain rfl := Option.some.inj h
    exact .packageMismatch
  | recorded _ _ _ => exact absurd h (by simp)

theorem render_error (h : context.render = .error failure) : failure.OfSources := by
  cases hpackage : context.package with
  | none =>
    rw [render_of_package_eq_none hpackage] at h
    obtain rfl := Except.error.inj h
    exact .noPackage
  | some package =>
    by_cases hresolved : context.Resolved
    · obtain ⟨wrappers, -, hrender⟩ := hresolved.exists_render hpackage
      exact absurd (hrender.symm.trans h) (by simp)
    · obtain ⟨function, param, -, hrefused⟩ := render_of_not_resolved hresolved hpackage
      obtain rfl := Except.error.inj (hrefused.symm.trans h)
      exact .missingConverter

end Context

/-! ## Failures of a run -/

/-- A scan fails for what stands in a source, or because a source cannot be read. -/
theorem RunState.failure_scanFiles {state : RunState} {context : Context} {paths : List Text}
    {failure : Failure} (h : (state.scanFiles context paths).2.failure = some failure) :
    failure.OfSources ∨
      ∃ path ∈ paths, ∃ (files : FileSystem) (fault : FileFault),
        files.read path = .error fault ∧ failure = .file fault := by
  induction paths generalizing state context with
  | nil => exact absurd h (by simp [scanFiles])
  | cons path paths ih =>
    rw [scanFiles] at h
    split at h
    · rcases ih h with hsources | ⟨other, hother, hfault⟩
      · exact .inl hsources
      · exact .inr ⟨other, List.mem_cons_of_mem _ hother, hfault⟩
    · cases hread : state.files.read path with
      | error fault =>
        rw [Context.scanFile_of_unreadable hread] at h
        obtain rfl := Option.some.inj h
        exact .inr ⟨path, List.mem_cons_self, _, fault, hread, rfl⟩
      | ok bytes =>
        rw [Context.scanFile_of_read hread] at h
        exact .inl (Context.failure_scan h)

/-- A part of a command that the system takes: it has bytes, and none of them is null. -/
def CommandWord.Sendable (word : CommandWord) : Prop :=
  ∀ unit ∈ word, unit ≠ .char '\x00' ∧ unit.isNameable = true

/-- Any text can be handed over, and what is written can be read: only a command is ever unfit. -/
def Formatter.Exchanges (formatter : Formatter) (command : List CommandWord) : Prop :=
  ∀ source fault, formatter command source = .handover fault → ¬ ∀ word ∈ command, word.Sendable

/-- The command consists of strings that the system takes, and texts pass in both directions. -/
structure Formatter.Runs (formatter : Formatter) (command : List Json) (words : List CommandWord) :
    Prop where
  strings : Json.strings? command = some words
  sendable : ∀ word ∈ formatCommand words, word.Sendable
  exchanges : formatter.Exchanges (formatCommand words)

namespace Generated

variable {formatter : Formatter} {settings : Settings} {state : RunState} {paths : List Text}

/-- With paths and a command that can be used, every failure up to the text is reported. -/
theorem isReported {failure : Failure}
    (h : Generated formatter settings (state.scanned settings paths).2 (.error failure))
    (hpaths : ∀ path ∈ paths, '\x00' ∉ path)
    (hcommand : settings.formatEnabled = true → ∃ words, formatter.Runs settings.command words) :
    failure.isReported = true := by
  cases h with
  | unscanned hscan =>
    rcases RunState.failure_scanFiles hscan with hsources | ⟨path, hpath, files, fault, hread, rfl⟩
    · exact hsources.isReported
    · exact Failure.isReported_file
        (FileSystem.read_ne_nullCharacter (hpaths path hpath) hread)
  | unrendered _ hrender => exact (Context.render_error hrender).isReported
  | wordless _ _ hformat hnone =>
    obtain ⟨words, hruns⟩ := hcommand hformat
    exact absurd (hruns.strings.symm.trans hnone) (by simp)
  | handover _ _ hformat hwords hresponse =>
    obtain ⟨others, hruns⟩ := hcommand hformat
    obtain rfl := Option.some.inj (hruns.strings.symm.trans hwords)
    exact absurd hruns.sendable (hruns.exchanges _ _ hresponse)
  | missing _ _ _ _ _ | unstarted _ _ _ _ _ => rfl
  | refused _ _ _ _ _ _ => rfl

end Generated

namespace Destination

/--
A destination that could take any text: it stands for a path, for the number of a file, or for a
stream with codes for all characters.
-/
def Usable (charset : Charset) : Destination → Prop
  | .stream => ∀ text, charset.takes text = true
  | .path text _ => '\x00' ∉ text
  | .handle number _ => 0 ≤ number ∧ RunState.isHandleSized number = true
  | .unusable _ => False

end Destination

theorem RunState.Refuses.isReported {state : RunState} {text : Text} {destination : Destination}
    {failure : Failure} (h : state.Refuses text destination failure)
    (husable : destination.Usable state.charset) : failure.isReported = true := by
  cases h with
  | stream htakes => exact absurd ((husable text).symm.trans htakes) (by simp)
  | path htarget =>
    refine Failure.isReported_file ?_
    rintro rfl
    exact FileSystem.target_ne_nullCharacter husable htarget
  | closed _ _ _ _ => rfl
  | negative _ hnegative => exact absurd hnegative (Int.not_lt.2 husable.1)
  | oversized hsized => exact absurd (husable.2.symm.trans hsized) (by simp)
  | unusable => exact husable.elim

end WrapperGen
