import WrapperGen.Proofs.Outcome
import WrapperGen.Proofs.Session

/-!
# Where a scan stops

`Context.acceptAll` applies directive lines one after the other and has no context unless all of
them are accepted. A scan always leaves a context behind: up to the first line that is refused it
is that of `acceptAll`, and what the package clause is like only matters after the last line
(`Context.scan_eq_iff`).
-/

namespace WrapperGen

/-- A directive line of one of several sources, with the label of the source. -/
structure PlacedLine where
  origin : Text
  numbered : NumberedLine
  deriving DecidableEq, Repr

/-- Lines of the source with a label. -/
def PlacedLine.all (origin : Text) (lines : List NumberedLine) : List PlacedLine :=
  lines.map (PlacedLine.mk origin)

namespace Context

/-- The context after lines in order, if all of them are accepted. -/
def acceptAll (context : Context) (lines : List PlacedLine) : Except Failure Context :=
  lines.foldlM (fun current placed => current.applyLine placed.origin placed.numbered) context

/-- What comes of scanning a source. -/
inductive Scans (context : Context) (origin : Text) (source : Source) : ScanResult → Prop
  /-- The lines before the first one that is refused count, and nothing else does. -/
  | refused {before after : List NumberedLine} {numbered : NumberedLine} {current : Context}
      {failure : Failure} (hlines : source.directiveLines = before ++ numbered :: after)
      (hbefore : context.acceptAll (PlacedLine.all origin before) = .ok current)
      (hline : current.applyLine origin numbered = .error failure) :
      Scans context origin source ⟨current, some failure⟩
  /-- All lines count, although no package name can be read. -/
  | unreadable {current : Context} {fault : PackageClause.Fault}
      (hlines : context.acceptAll (PlacedLine.all origin source.directiveLines) = .ok current)
      (hread : PackageClause.read source.shown = .error fault) :
      Scans context origin source ⟨current, some (.packageClause fault origin)⟩
  /-- All lines count, although the package is another one than that of earlier sources. -/
  | mismatched {current : Context} {first name : Text}
      (hlines : context.acceptAll (PlacedLine.all origin source.directiveLines) = .ok current)
      (hread : PackageClause.read source.shown = .ok name)
      (hpackage : context.package = some first) (hne : first ≠ name) :
      Scans context origin source ⟨current, some (.packageMismatch first name origin)⟩
  /-- All lines count, and so does the package. -/
  | recorded {current : Context} {name : Text}
      (hlines : context.acceptAll (PlacedLine.all origin source.directiveLines) = .ok current)
      (hread : PackageClause.read source.shown = .ok name)
      (hpackage : ∀ first ∈ context.package, first = name) :
      Scans context origin source ⟨{ current with package := some name }, none⟩

/-! ## Single directives -/

/-- The next context differs at most in the component that the directive is about. -/
def Updates (context : Context) : Directive → Context → Prop
  | .importing _, next => ∃ imports, next = { context with imports }
  | .converting _, next => ∃ registry, next = { context with registry }
  | .declaring _, next => ∃ function, next = context.addFunction function

theorem updates_of_apply {context next : Context} {origin : Text} {directive : Directive}
    (h : context.apply origin directive = .ok next) : context.Updates directive next := by
  cases directive with
  | importing payload =>
    obtain ⟨-, -, imports, -, hnext⟩ := apply_importing_eq_ok_iff.1 h
    exact ⟨imports, hnext⟩
  | converting payload =>
    obtain ⟨conversion?, -, hnext⟩ := apply_converting_eq_ok_iff.1 h
    exact ⟨_, hnext⟩
  | declaring payload =>
    obtain ⟨signature, -, hnext⟩ := apply_declaring_eq_ok_iff.1 h
    exact ⟨_, hnext⟩

/-- A directive is refused without a trace, or it updates its own component. -/
theorem apply_atomic (context : Context) (origin : Text) (directive : Directive) :
    (∃ failure, context.apply origin directive = .error failure ∧
      context.perform (.direct origin directive) = context) ∨
    ∃ next, context.apply origin directive = .ok next ∧
      context.perform (.direct origin directive) = next ∧ context.Updates directive next := by
  rw [perform]
  cases happly : context.apply origin directive with
  | error failure => exact .inl ⟨failure, rfl, rfl⟩
  | ok next => exact .inr ⟨next, rfl, rfl, updates_of_apply happly⟩

/-! ## Lines that are accepted -/

section Lines

variable {context current : Context} {origin : Text}

theorem acceptAll_nil (context : Context) : context.acceptAll [] = .ok context := rfl

theorem acceptAll_cons (context : Context) (placed : PlacedLine) (lines : List PlacedLine) :
    context.acceptAll (placed :: lines) =
      context.applyLine placed.origin placed.numbered >>= (·.acceptAll lines) :=
  List.foldlM_cons

theorem acceptAll_append (context : Context) (first second : List PlacedLine) :
    context.acceptAll (first ++ second) = context.acceptAll first >>= (·.acceptAll second) :=
  List.foldlM_append

/-- A scan comes to the end of lines exactly if all of them are accepted. -/
theorem applyLines_eq_none_iff {lines : List NumberedLine} :
    context.applyLines origin lines = ⟨current, none⟩ ↔
      context.acceptAll (PlacedLine.all origin lines) = .ok current := by
  induction lines generalizing context with
  | nil => simp [applyLines, PlacedLine.all, acceptAll_nil]
  | cons numbered lines ih =>
    rw [applyLines, PlacedLine.all, List.map_cons, ← PlacedLine.all, acceptAll_cons]
    cases context.applyLine origin numbered with
    | error failure => simp [bind, Except.bind]
    | ok next => exact ih

/-- Behind lines that are accepted a scan goes on with what is left. -/
theorem applyLines_append {before : List NumberedLine}
    (h : context.acceptAll (PlacedLine.all origin before) = .ok current)
    (after : List NumberedLine) :
    context.applyLines origin (before ++ after) = current.applyLines origin after := by
  induction before generalizing context with
  | nil =>
    obtain rfl := Except.ok.inj h
    rfl
  | cons numbered before ih =>
    rw [PlacedLine.all, List.map_cons, ← PlacedLine.all, acceptAll_cons, bind_eq_ok_iff] at h
    obtain ⟨next, hline, hrest⟩ := h
    rw [List.cons_append, applyLines, hline]
    exact ih hrest

/-- A scan that does not come to the end of lines stops at one that is refused. -/
theorem exists_of_applyLines_eq_some {lines : List NumberedLine} {failure : Failure}
    (h : context.applyLines origin lines = ⟨current, some failure⟩) :
    ∃ before numbered after, lines = before ++ numbered :: after ∧
      context.acceptAll (PlacedLine.all origin before) = .ok current ∧
      current.applyLine origin numbered = .error failure := by
  induction lines generalizing context with
  | nil => exact absurd h (by simp [applyLines])
  | cons first lines ih =>
    rw [applyLines] at h
    split at h
    · next next hfirst =>
      obtain ⟨before, numbered, after, rfl, hbefore, hline⟩ := ih h
      refine ⟨first :: before, numbered, after, rfl, ?_, hline⟩
      rw [PlacedLine.all, List.map_cons, ← PlacedLine.all, acceptAll_cons, hfirst]
      exact hbefore
    · next refusal hfirst =>
      obtain ⟨rfl, heq⟩ := ScanResult.mk.inj h
      obtain rfl := Option.some.inj heq
      exact ⟨[], first, lines, rfl, rfl, hfirst⟩

end Lines

/-! ## The package -/

section Package

variable {context next : Context}

/-- No directive touches the package. -/
theorem package_apply {origin : Text} {directive : Directive}
    (h : context.apply origin directive = .ok next) : next.package = context.package := by
  have hupdates := updates_of_apply h
  cases directive <;> obtain ⟨_, rfl⟩ := hupdates <;> rfl

theorem package_acceptAll {lines : List PlacedLine} (h : context.acceptAll lines = .ok next) :
    next.package = context.package := by
  induction lines generalizing context with
  | nil =>
    obtain rfl := Except.ok.inj h
    rfl
  | cons placed lines ih =>
    rw [acceptAll_cons, bind_eq_ok_iff] at h
    obtain ⟨middle, hline, hrest⟩ := h
    obtain ⟨directive, -, happly⟩ := applyLine_eq_ok_iff.1 hline
    rw [ih hrest, package_apply happly]

/-- A package is recorded where none is known, or where it is the known one. -/
theorem recordPackage_eq_ok_iff {origin : Text} {source : Source} :
    context.recordPackage origin source = .ok next ↔
      ∃ name, PackageClause.read source.shown = .ok name ∧
        (∀ first ∈ context.package, first = name) ∧
        next = { context with package := some name } := by
  rw [recordPackage]
  cases PackageClause.read source.shown with
  | error fault => simp
  | ok name =>
    simp only [Except.ok.injEq, exists_eq_left']
    cases hpackage : context.package with
    | none => simp [eq_comm]
    | some first =>
      by_cases hname : first = name
      · -- the context already is the one with the package recorded in it
        have hsame : { context with package := some name } = context := by
          rw [← hname, ← hpackage]
        simp [hname, hsame, eq_comm]
      · simp [hname]

/-- A package is refused if it cannot be read, or if another one is known. -/
theorem recordPackage_eq_error_iff {origin : Text} {source : Source} {failure : Failure} :
    context.recordPackage origin source = .error failure ↔
      (∃ fault, PackageClause.read source.shown = .error fault ∧
        failure = .packageClause fault origin) ∨
      ∃ first name, PackageClause.read source.shown = .ok name ∧ context.package = some first ∧
        first ≠ name ∧ failure = .packageMismatch first name origin := by
  rw [recordPackage]
  cases PackageClause.read source.shown with
  | error fault => simp [eq_comm]
  | ok name =>
    cases hpackage : context.package with
    | none => simp
    | some first =>
      by_cases hname : first = name
      · simp [hname]
      · simp [hname, @eq_comm Failure failure]

end Package

/-! ## Scans -/

section Scan

variable {context current : Context} {origin : Text} {source : Source}

/-- A scan stops at the first line that is refused. -/
theorem scan_eq_of_applyLines_eq_some {failure : Failure}
    (h : context.applyLines origin source.directiveLines = ⟨current, some failure⟩) :
    context.scan origin source = ⟨current, some failure⟩ := by
  simp only [scan, h]

/-- A scan whose lines are all accepted ends with the package. -/
theorem scan_eq_of_recordPackage_eq_ok {recorded : Context}
    (hlines : context.acceptAll (PlacedLine.all origin source.directiveLines) = .ok current)
    (hrecord : current.recordPackage origin source = .ok recorded) :
    context.scan origin source = ⟨recorded, none⟩ := by
  simp only [scan, applyLines_eq_none_iff.2 hlines, hrecord]

theorem scan_eq_of_recordPackage_eq_error {failure : Failure}
    (hlines : context.acceptAll (PlacedLine.all origin source.directiveLines) = .ok current)
    (hrecord : current.recordPackage origin source = .error failure) :
    context.scan origin source = ⟨current, some failure⟩ := by
  simp only [scan, applyLines_eq_none_iff.2 hlines, hrecord]

theorem scans_scan (context : Context) (origin : Text) (source : Source) :
    context.Scans origin source (context.scan origin source) := by
  rcases happlied : context.applyLines origin source.directiveLines with ⟨current, _ | failure⟩
  · have hlines := applyLines_eq_none_iff.1 happlied
    cases hrecord : current.recordPackage origin source with
    | ok recorded =>
      rw [scan_eq_of_recordPackage_eq_ok hlines hrecord]
      obtain ⟨name, hread, hpackage, rfl⟩ := recordPackage_eq_ok_iff.1 hrecord
      exact .recorded hlines hread (package_acceptAll hlines ▸ hpackage)
    | error failure =>
      rw [scan_eq_of_recordPackage_eq_error hlines hrecord]
      rcases recordPackage_eq_error_iff.1 hrecord with
        ⟨fault, hread, rfl⟩ | ⟨first, name, hread, hpackage, hne, rfl⟩
      · exact .unreadable hlines hread
      · exact .mismatched hlines hread (package_acceptAll hlines ▸ hpackage) hne
  · obtain ⟨before, numbered, after, hlines, hbefore, hline⟩ :=
      exists_of_applyLines_eq_some happlied
    rw [scan_eq_of_applyLines_eq_some happlied]
    exact .refused hlines hbefore hline

/-- What comes of a scan is determined by the first refused line, or else by the package. -/
theorem Scans.eq_scan {result : ScanResult} (h : context.Scans origin source result) :
    context.scan origin source = result := by
  cases h with
  | @refused before after numbered current failure hlines hbefore hline =>
    refine scan_eq_of_applyLines_eq_some ?_
    rw [hlines, applyLines_append hbefore, applyLines, hline]
  | @unreadable current fault hlines hread =>
    exact scan_eq_of_recordPackage_eq_error hlines
      (recordPackage_eq_error_iff.2 (.inl ⟨fault, hread, rfl⟩))
  | @mismatched current first name hlines hread hpackage hne =>
    have hknown := (package_acceptAll hlines).trans hpackage
    exact scan_eq_of_recordPackage_eq_error hlines
      (recordPackage_eq_error_iff.2 (.inr ⟨first, name, hread, hknown, hne, rfl⟩))
  | @recorded current name hlines hread hpackage =>
    have hknown := (package_acceptAll hlines).symm ▸ hpackage
    exact scan_eq_of_recordPackage_eq_ok hlines
      (recordPackage_eq_ok_iff.2 ⟨name, hread, hknown, rfl⟩)

/-- What comes of a scan is what comes of its lines, and of the package behind them. -/
theorem scan_eq_iff {result : ScanResult} :
    context.scan origin source = result ↔ context.Scans origin source result :=
  ⟨fun h => h ▸ scans_scan context origin source, Scans.eq_scan⟩

theorem scanFile_of_read {files : FileSystem} {path : Text} {bytes : List UInt8}
    (h : files.read path = .ok bytes) :
    context.scanFile files path = context.scan path (.decode bytes) := by
  rw [scanFile, h]

theorem scanFile_of_unreadable {files : FileSystem} {path : Text} {fault : FileFault}
    (h : files.read path = .error fault) :
    context.scanFile files path = ⟨context, some (.file fault)⟩ := by
  rw [scanFile, h]

end Scan

end Context

end WrapperGen
