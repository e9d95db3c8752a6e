import WrapperGen.Proofs.DirectiveOrder
import WrapperGen.Proofs.Scan.Files

/-!
# Directives that a scan has applied

`Context.fulfilAll` is what comes of requests up to the first one that fails; scanning files is a
case of it (`Context.scanFiles_eq_fulfilAll`). The directives that have been accepted until then,
applied one after the other without any source, lead to the same context but for the package
(`Context.applyAll_appliedAll`). So what a run has made of its sources can be read off the list of
these directives.
-/

namespace WrapperGen.Context

/-! ## Requests up to the first one that fails -/

/-- What comes of a request. -/
def fulfil (context : Context) : Request → ScanResult
  | .scan origin source => context.scan origin source
  | .file files path => context.scanFile files path
  | .direct origin directive =>
    match context.apply origin directive with
    | .ok next => ⟨next, none⟩
    | .error failure => ⟨context, some failure⟩

/-- What comes of requests in order, up to the first one that fails. -/
def fulfilAll : Context → List Request → ScanResult
  | context, [] => ⟨context, none⟩
  | context, request :: requests =>
    let fulfilled := context.fulfil request
    match fulfilled.failure with
    | none => fulfilled.context.fulfilAll requests
    | some _ => fulfilled

theorem scanFiles_eq_fulfilAll (files : FileSystem) (context : Context) (paths : List Text) :
    context.scanFiles files paths = context.fulfilAll (paths.map (.file files)) := by
  induction paths generalizing context with
  | nil => rfl
  | cons path paths ih =>
    rw [scanFiles, List.map_cons, fulfilAll, fulfil]
    cases (context.scanFile files path).failure with
    | none => exact ih _
    | some failure => rfl

section Unscanned

variable {change : Context → Context} (h : Unscanned change) (context : Context)

include h

theorem Unscanned.fulfil (request : Request) :
    (change context).fulfil request = (context.fulfil request).mapContext change := by
  cases request with
  | scan origin source => exact h.scan context origin source
  | file files path => exact h.scanFile context files path
  | direct origin directive =>
    rw [Context.fulfil, Context.fulfil, h.apply]
    cases context.apply origin directive <;> rfl

/-- What no scan sees can be changed before any requests or after them. -/
theorem Unscanned.fulfilAll (requests : List Request) :
    (change context).fulfilAll requests = (context.fulfilAll requests).mapContext change := by
  induction requests generalizing context with
  | nil => rfl
  | cons request requests ih =>
    rw [Context.fulfilAll, Context.fulfilAll, h.fulfil]
    rcases context.fulfil request with ⟨next, _ | failure⟩
    · exact ih next
    · rfl

end Unscanned

/-! ## The directives that are accepted -/

/-- The directives on lines up to the first one that is refused. -/
def appliedLines (origin : Text) : Context → List NumberedLine → List Occurrence
  | _, [] => []
  | context, numbered :: rest =>
    match numbered.directive origin with
    | .error _ => []
    | .ok directive =>
      match context.apply origin directive with
      | .error _ => []
      | .ok next => ⟨origin, directive⟩ :: next.appliedLines origin rest

/-- The directives that a request has been accepted with. -/
def applied (context : Context) : Request → List Occurrence
  | .scan origin source => context.appliedLines origin source.directiveLines
  | .file files path =>
    match files.read path with
    | .error _ => []
    | .ok bytes => context.appliedLines path (Source.decode bytes).directiveLines
  | .direct origin directive =>
    match context.apply origin directive with
    | .ok _ => [⟨origin, directive⟩]
    | .error _ => []

/-- The directives that requests have been accepted with, up to the first request that fails. -/
def appliedAll : Context → List Request → List Occurrence
  | _, [] => []
  | context, request :: requests =>
    let fulfilled := context.fulfil request
    context.applied request ++
      if fulfilled.failure.isNone then fulfilled.context.appliedAll requests else []

/-! ## What they lead to -/

theorem Unseen.applyAll {change : Context → Context} (h : Unseen change) (context : Context)
    (occurrences : List Occurrence) :
    (change context).applyAll occurrences = (context.applyAll occurrences).map change := by
  induction occurrences generalizing context with
  | nil => rfl
  | cons occurrence rest ih =>
    rw [applyAll_cons, applyAll_cons, h.apply]
    cases context.apply occurrence.origin occurrence.directive with
    | error failure => rfl
    | ok next => exact ih next

theorem applyAll_appliedLines (context : Context) (origin : Text) (lines : List NumberedLine) :
    context.applyAll (context.appliedLines origin lines) =
      .ok (context.applyLines origin lines).context := by
  induction lines generalizing context with
  | nil => rfl
  | cons numbered rest ih =>
    rw [appliedLines, applyLines, applyLine]
    cases numbered.directive origin with
    | error fault => rfl
    | ok directive =>
      dsimp only
      cases happly : context.apply origin directive with
      | error failure => rfl
      | ok next =>
        rw [applyAll_cons, happly]
        exact ih next

/-- A scan leaves behind what its lines do, beside the package. -/
theorem withPackage_scan (context : Context) (origin : Text) (source : Source) :
    (context.scan origin source).context.withPackage context.package =
      (context.applyLines origin source.directiveLines).context := by
  have hlines : (context.applyLines origin source.directiveLines).context.package =
      context.package := by
    refine applyLines_preserves (fun current => current.package = context.package)
      (fun numbered _ current next happly hcurrent => ?_) rfl
    obtain ⟨directive, -, happly⟩ := applyLine_eq_ok_iff.1 happly
    exact (package_apply happly).trans hcurrent
  have hsame : (context.applyLines origin source.directiveLines).context.withPackage
      context.package = (context.applyLines origin source.directiveLines).context := by
    rw [← hlines]
    rfl
  unfold scan
  dsimp only
  split
  · exact hsame
  · split
    · next recorded hrecord =>
      obtain ⟨name, -, -, rfl⟩ := recordPackage_eq_ok_iff.1 hrecord
      exact hsame
    · exact hsame

/-- Applying what a request has been accepted with does all that the request has done. -/
theorem applyAll_applied (context : Context) (request : Request) :
    context.applyAll (context.applied request) =
      .ok ((context.fulfil request).context.withPackage context.package) := by
  cases request with
  | scan origin source =>
    rw [applied, fulfil, withPackage_scan, applyAll_appliedLines]
  | file files path =>
    rw [applied, fulfil]
    cases hread : files.read path with
    | error fault =>
      rw [scanFile_of_unreadable hread]
      rfl
    | ok bytes =>
      rw [scanFile_of_read hread, withPackage_scan]
      exact applyAll_appliedLines context path _
  | direct origin directive =>
    rw [applied, fulfil]
    cases happly : context.apply origin directive with
    | error failure => rfl
    | ok next =>
      rw [applyAll_cons, happly, ← package_apply happly]
      rfl

/--
The directives that a run of requests has accepted lead to the context of the run, but for the
package: whether they stand in one source or in several, and what stands between them, is all one.
-/
theorem applyAll_appliedAll (context : Context) (requests : List Request) :
    context.applyAll (context.appliedAll requests) =
      .ok ((context.fulfilAll requests).context.withPackage context.package) := by
  induction requests generalizing context with
  | nil => rfl
  | cons request requests ih =>
    rw [appliedAll, fulfilAll, applyAll_append, applyAll_applied]
    cases (context.fulfil request).failure with
    | some failure => rfl
    | none =>
      -- the next requests are applied before the package is set back, and not after it
      have hrest := (unseen_withPackage context.package).applyAll (context.fulfil request).context
        ((context.fulfil request).context.appliedAll requests)
      rw [ih] at hrest
      exact hrest

end WrapperGen.Context
