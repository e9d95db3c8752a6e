import Mathlib.Logic.Relation
import WrapperGen.Proofs.Directive
import WrapperGen.Scan

/-!
# Sessions with a scanner

A session sends requests to a scanner; each may be refused, and the next one then finds whatever
context the refused one has left behind. `Context.Change` lists everything that a single step of a
request can do to a context, and every request only makes such changes (`reaches_perform`). So what
every change preserves holds after every session (`Reaches.preserves`). What depends on the source
that is scanned is shown line by line (`scan_preserves`).
-/

namespace WrapperGen

/-- One request to a scanner. -/
inductive Request where
  /-- To scan a source that has been loaded. -/
  | scan (origin : Text) (source : Source)
  /-- To scan a file. -/
  | file (files : FileSystem) (path : Text)
  /-- To apply one directive. -/
  | direct (origin : Text) (directive : Directive)

namespace Context

/-- The context that a session begins with. -/
def fresh (exported extendedOnly : Bool) (package : Option Text) : Context :=
  { exported, extendedOnly, package }

/-- The context that a request leaves behind, whether or not it is refused. -/
def perform (context : Context) : Request → Context
  | .scan origin source => (context.scan origin source).context
  | .file files path => (context.scanFile files path).context
  | .direct origin directive =>
    match context.apply origin directive with
    | .ok next => next
    | .error _ => context

/-- The context that a session leaves behind. -/
def performAll (context : Context) (requests : List Request) : Context :=
  requests.foldl perform context

/-! ## Changes -/

/-- What one step of a request can do to a context. -/
inductive Change (context : Context) : Context → Prop
  | imported {payload : Text} {entry : Import} {imports : ImportSet}
      (hread : Import.ofPayload payload = .ok (some entry))
      (hadd : context.imports.Adds entry imports) :
      Change context { context with imports }
  | converted {payload : Text} {conversion : Conversion}
      (hread : Conversion.ofPayload payload = .ok (some conversion)) :
      Change context (context.addConversion conversion)
  | declared {payload origin : Text} {signature : Signature}
      (hread : Signature.ofText payload = .ok signature) :
      Change context
        (context.addFunction (Function.ofSignature context.nameScheme origin signature))
  | packaged {name : Text} (hunknown : context.package = none) :
      Change context { context with package := some name }

/-- A context is reached from another one by any number of changes. -/
abbrev Reaches : Context → Context → Prop := Relation.ReflTransGen Change

/-- What every change preserves holds of everything that is reached. -/
theorem Reaches.preserves {invariant : Context → Prop}
    (hchange : ∀ {context next : Context}, Change context next → invariant context →
      invariant next)
    {context final : Context} (h : Reaches context final) (hinit : invariant context) :
    invariant final := by
  induction h with
  | refl => exact hinit
  | tail _ hlast ih => exact hchange hlast ih

/-! ## Scans, line by line -/

theorem applyLine_eq_ok_iff {context next : Context} {origin : Text} {numbered : NumberedLine} :
    context.applyLine origin numbered = .ok next ↔
      ∃ directive, numbered.directive origin = .ok directive ∧
        context.apply origin directive = .ok next := by
  rw [applyLine]
  cases numbered.directive origin <;> simp

section Preservation

variable (invariant : Context → Prop) {context : Context} {origin : Text}

/-- What the lines of a source preserve is preserved up to the first one that is refused. -/
theorem applyLines_preserves {lines : List NumberedLine}
    (hline : ∀ numbered ∈ lines, ∀ current next,
      current.applyLine origin numbered = .ok next → invariant current → invariant next)
    (hinit : invariant context) : invariant (context.applyLines origin lines).context := by
  induction lines generalizing context with
  | nil => exact hinit
  | cons numbered rest ih =>
    obtain ⟨hfirst, hrest⟩ := List.forall_mem_cons.1 hline
    rw [applyLines]
    split
    · next next happly => exact ih hrest (hfirst _ _ happly hinit)
    · exact hinit

/-- What the lines of a source and its package clause preserve, a scan of it preserves. -/
theorem scan_preserves {source : Source}
    (hline : ∀ numbered ∈ source.directiveLines, ∀ current next,
      current.applyLine origin numbered = .ok next → invariant current → invariant next)
    (hpackage : ∀ current next,
      current.recordPackage origin source = .ok next → invariant current → invariant next)
    (hinit : invariant context) : invariant (context.scan origin source).context := by
  have happlied := applyLines_preserves invariant hline hinit
  unfold scan
  simp only
  split
  · exact happlied
  · split
    · next recorded hrecorded => exact hpackage _ _ hrecorded happlied
    · exact happlied

end Preservation

/-! ## Requests make changes only -/

/-- A directive that is not refused leaves the context as it is or makes one change. -/
theorem apply_cases {context next : Context} {origin : Text} {directive : Directive}
    (h : context.apply origin directive = .ok next) : next = context ∨ Change context next := by
  cases directive with
  | importing payload =>
    obtain ⟨requested?, hread, imports, hadd, rfl⟩ := apply_importing_eq_ok_iff.1 h
    cases requested? with
    | none =>
      obtain rfl := ImportSet.addAll_nil_eq_ok_iff.1 hadd
      exact .inl rfl
    | some entry => exact .inr (.imported hread (ImportSet.addAll_singleton_eq_ok_iff.1 hadd))
  | converting payload =>
    obtain ⟨conversion?, hread, rfl⟩ := apply_converting_eq_ok_iff.1 h
    cases conversion? with
    | none => exact .inl rfl
    | some conversion => exact .inr (.converted hread)
  | declaring payload =>
    obtain ⟨signature, hread, rfl⟩ := apply_declaring_eq_ok_iff.1 h
    exact .inr (.declared hread)

theorem reaches_apply {context next : Context} {origin : Text} {directive : Directive}
    (h : context.apply origin directive = .ok next) : Reaches context next := by
  rcases apply_cases h with rfl | hchange
  · exact .refl
  · exact .single hchange

theorem reaches_applyLine {context next : Context} {origin : Text} {numbered : NumberedLine}
    (h : context.applyLine origin numbered = .ok next) : Reaches context next := by
  obtain ⟨directive, -, happly⟩ := applyLine_eq_ok_iff.1 h
  exact reaches_apply happly

theorem reaches_recordPackage {context next : Context} {origin : Text} {source : Source}
    (h : context.recordPackage origin source = .ok next) : Reaches context next := by
  rw [recordPackage] at h
  split at h
  · exact absurd h (by simp)
  · split at h
    · next hunknown =>
      obtain rfl := Except.ok.inj h
      exact .single (.packaged hunknown)
    · split at h
      · obtain rfl := Except.ok.inj h
        exact .refl
      · exact absurd h (by simp)

theorem reaches_scan (context : Context) (origin : Text) (source : Source) :
    Reaches context (context.scan origin source).context :=
  scan_preserves (Reaches context)
    (fun _ _ _ _ happly hreached => hreached.trans (reaches_applyLine happly))
    (fun _ _ hrecord hreached => hreached.trans (reaches_recordPackage hrecord)) .refl

/-- Every request makes changes only, even one that is refused. -/
theorem reaches_perform (context : Context) (request : Request) :
    Reaches context (context.perform request) := by
  cases request with
  | scan origin source => exact reaches_scan context origin source
  | file files path =>
    rw [perform, scanFile]
    split
    · exact .refl
    · exact reaches_scan context path _
  | direct origin directive =>
    rw [perform]
    split
    · next happly => exact reaches_apply happly
    · exact .refl

theorem reaches_performAll (context : Context) (requests : List Request) :
    Reaches context (context.performAll requests) := by
  induction requests generalizing context with
  | nil => exact .refl
  | cons request requests ih => exact (reaches_perform context request).trans (ih _)

/-! ## What changes leave alone -/

/-- Functions are only added, and only at the end. -/
theorem Change.functions_grow {context next : Context} (h : Change context next) :
    context.functions <+: next.functions := by
  cases h with
  | imported => exact List.prefix_refl _
  | converted => exact List.prefix_refl _
  | declared => exact List.prefix_append _ _
  | packaged => exact List.prefix_refl _

theorem Reaches.functions_grow {context final : Context} (h : Reaches context final) :
    context.functions <+: final.functions := by
  induction h with
  | refl => exact List.prefix_refl _
  | tail _ hlast ih => exact ih.trans hlast.functions_grow

end Context

end WrapperGen
