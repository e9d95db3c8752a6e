import WrapperGen.Proofs.Render.Lines
import WrapperGen.Proofs.Scan.Files
import WrapperGen.Proofs.Wrapper.Qualification

/-!
# Files of the runtime's package

A session that chooses no converters keeps those that every run begins with
(`Context.registry_performAll`). If its sources belong to the runtime's package, then the wrappers
of the file are qualified with that package only where the declarations of their functions are
(`Context.qualified_iff_spelled`).
-/

namespace WrapperGen

/-- The directives among the lines of the source. -/
def Source.directives (source : Source) (origin : Text) : List Directive :=
  source.directiveLines.filterMap fun numbered => (numbered.directive origin).toOption

/-- The directives that the request hands over, whether or not they come to be applied. -/
def Request.directives : Request → List Directive
  | scan origin source => source.directives origin
  | file files path =>
    match files.read path with
    | .error _ => []
    | .ok bytes => (Source.decode bytes).directives path
  | direct _ directive => [directive]

namespace Context

variable {context next : Context}

/-! ## Sessions without conversions -/

theorem registry_apply {origin : Text} {directive : Directive}
    (hnone : directive.conversion? = none) (h : context.apply origin directive = .ok next) :
    next.registry = context.registry := by
  cases directive with
  | importing payload =>
    obtain ⟨-, -, imports, -, rfl⟩ := apply_importing_eq_ok_iff.1 h
    rfl
  | converting payload =>
    obtain ⟨conversion?, hread, rfl⟩ := apply_converting_eq_ok_iff.1 h
    rw [Directive.conversion?, hread] at hnone
    obtain rfl : conversion? = none := hnone
    rfl
  | declaring payload =>
    obtain ⟨-, -, rfl⟩ := apply_declaring_eq_ok_iff.1 h
    rfl

theorem registry_scan {origin : Text} {source : Source}
    (hnone : ∀ directive ∈ source.directives origin, directive.conversion? = none) :
    (context.scan origin source).context.registry = context.registry := by
  refine scan_preserves (fun current => current.registry = context.registry)
    (fun numbered hnumbered current next happly hcurrent => ?_)
    (fun current next hrecord hcurrent => ?_) rfl
  · obtain ⟨directive, hdirective, happly⟩ := applyLine_eq_ok_iff.1 happly
    have hmem : directive ∈ source.directives origin :=
      List.mem_filterMap.2 ⟨numbered, hnumbered, by rw [hdirective]; rfl⟩
    exact (registry_apply (hnone directive hmem) happly).trans hcurrent
  · obtain ⟨name, -, -, rfl⟩ := recordPackage_eq_ok_iff.1 hrecord
    exact hcurrent

theorem registry_perform {request : Request}
    (hnone : ∀ directive ∈ request.directives, directive.conversion? = none) :
    (context.perform request).registry = context.registry := by
  cases request with
  | scan origin source => exact registry_scan hnone
  | file files path =>
    rw [Request.directives] at hnone
    rw [perform]
    cases hread : files.read path with
    | error fault => rw [scanFile_of_unreadable hread]
    | ok bytes =>
      rw [hread] at hnone
      rw [scanFile_of_read hread]
      exact registry_scan hnone
  | direct origin directive =>
    rw [perform]
    split
    · next next happly => exact registry_apply (hnone directive List.mem_cons_self) happly
    · rfl

/-- A session that chooses no converter leaves the registry as it is. -/
theorem registry_performAll {requests : List Request}
    (hnone : ∀ request ∈ requests, ∀ directive ∈ request.directives,
      directive.conversion? = none) :
    (context.performAll requests).registry = context.registry := by
  induction requests generalizing context with
  | nil => rfl
  | cons request requests ih =>
    obtain ⟨hrequest, hrequests⟩ := List.forall_mem_cons.1 hnone
    exact (ih hrequests).trans (registry_perform hrequest)

/-! ## The wrappers of the file -/

/-- Inside the runtime's package the wrappers of a session are local to it. -/
theorem local_of_ofFunction {exported extendedOnly : Bool} {given : Option Text}
    {requests : List Request} {convention : Convention} {function : Function} {wrapper : Wrapper}
    (hfunction : function ∈ ((fresh exported extendedOnly given).performAll requests).functions)
    (hwrapper : Wrapper.ofFunction .builtin [] convention function = .ok wrapper) :
    wrapper.Local := by
  obtain ⟨extractions, -, rfl⟩ := Wrapper.ofFunction_eq_ok_iff.1 hwrapper
  obtain ⟨payload, origin, signature, -, rfl⟩ := declaredBy_of_mem_functions hfunction
  exact ⟨rfl, fun _ hname => InternalNames.not_mem_avoiding (by decide) (by decide) hname⟩

/--
In a file of the runtime's package that is rendered without chosen converters, a wrapper qualifies
neither what it takes and returns, nor what it checks, nor the routines that it calls. Apart from
the line that quotes the declaration, it holds the qualifier exactly if a name or a type of the
declaration does, which is written as it is.
-/
theorem qualified_iff_spelled {exported extendedOnly : Bool} {given : Option Text}
    {requests : List Request} {text : Text}
    (hscans : ∀ request ∈ requests, request.isScan = true)
    (hnone : ∀ request ∈ requests, ∀ directive ∈ request.directives, directive.conversion? = none)
    (hcontext : context = (fresh exported extendedOnly given).performAll requests)
    (hpackage : context.package = some Runtime.package) (hrender : context.render = .ok text) :
    ∃ wrappers, context.wrappers = .ok wrappers ∧
      text = fileText Runtime.package context.runtimeImports context.externalImports wrappers ∧
      ∀ wrapper ∈ wrappers,
        ¬ Text.Qualified wrapper.innerLine ∧ ¬ Text.Qualified wrapper.callableType ∧
        ¬ Text.Qualified wrapper.guard ∧
        (∀ target access routine expected,
          .checked target access routine expected ∈ wrapper.extractions →
            ¬ Text.Qualified (routineName wrapper.qualifier routine)) ∧
        ((∃ line ∈ wrapper.lines.eraseIdx 2, Text.Qualified line) ↔
          ∃ spelled ∈ wrapper.function.spelled, Text.Qualified spelled) := by
  have hgiven : ∀ name ∈ given, '\n' ∉ name := by
    rintro name rfl
    have hkept := package_performAll (rfl : (fresh exported extendedOnly (some name)).package = _)
      requests
    rw [← hcontext, hpackage] at hkept
    obtain rfl := Option.some.inj hkept
    decide
  have hone : context.OneLine := hcontext ▸ oneLine_performAll hgiven hscans
  have hregistry : context.registry = .builtin := hcontext ▸ registry_performAll hnone
  have hqualifier : context.qualifier = [] := by simp [qualifier, isRuntime, hpackage]
  obtain ⟨-, package, wrappers, hknown, hwrappers, rfl⟩ := render_eq_ok_iff.1 hrender
  obtain rfl := Option.some.inj (hpackage.symm.trans hknown)
  refine ⟨wrappers, hwrappers, rfl, fun wrapper hwrapper => ?_⟩
  obtain ⟨convention, function, hfunction, hwrapper⟩ := exists_of_mem_wrappers hwrappers hwrapper
  have hlines := hone.wrapper hfunction hwrapper
  rw [hregistry, hqualifier] at hwrapper
  have hlocal : wrapper.Local := local_of_ofFunction (hcontext ▸ hfunction) hwrapper
  have htype : ¬ Text.Qualified wrapper.callableType := by
    rcases hlocal.callableType_cases with heq | heq <;> rw [heq] <;> decide
  exact ⟨hlocal.not_qualified_innerLine, htype, hlocal.not_qualified_guard,
    fun _ _ _ _ => hlocal.not_qualified_routine hwrapper,
    hlocal.qualified_lines_iff hlines hwrapper⟩

/-- Types without the qualifier, a parameter named like the package, and a synthesized name. -/
theorem qualified_iff_spelled_elided :
    let requests : List Request := [.scan "map.go" (.ofText
      "package ugo\n//ugo:callable Set(m Map, ugo Object)\n//ugo:callable func(b []byte) (error)")]
    let context := (fresh false false none).performAll requests
    ∃ text wrappers, context.render = .ok text ∧ context.wrappers = .ok wrappers ∧
      ∀ wrapper ∈ wrappers, ∀ line ∈ wrapper.lines.eraseIdx 2, ¬ Text.Qualified line := by
  intro requests context
  have hscans : ∀ request ∈ requests, request.isScan = true := by decide
  have hnone : ∀ request ∈ requests, ∀ directive ∈ request.directives,
      directive.conversion? = none := by decide +kernel
  obtain ⟨hpackage, hrendered, hspelled⟩ : context.package = some Runtime.package ∧
      context.render.isOk = true ∧ ∀ function ∈ context.functions,
        ∀ spelled ∈ function.spelled, ¬ Text.Qualified spelled := by decide +kernel
  obtain ⟨text, hrender⟩ := exists_ok_of_isOk hrendered
  obtain ⟨wrappers, hwrappers, -, hqualified⟩ :=
    qualified_iff_spelled hscans hnone rfl hpackage hrender
  refine ⟨text, wrappers, hrender, hwrappers, fun wrapper hwrapper line hline hline' => ?_⟩
  obtain ⟨convention, function, hfunction, hof⟩ := exists_of_mem_wrappers hwrappers hwrapper
  obtain ⟨extractions, -, rfl⟩ := Wrapper.ofFunction_eq_ok_iff.1 hof
  obtain ⟨spelled, hmem, hoccurs⟩ := (hqualified _ hwrapper).2.2.2.2.1 ⟨line, hline, hline'⟩
  exact hspelled function hfunction spelled hmem hoccurs

/-- A type that is written with the qualifier is found, and the qualifier stays. -/
theorem qualified_type_stays :
    let source : Source := .ofText "package ugo\n//ugo:callable Len(m ugo.Map) (int)\n"
    let context := ((fresh false false none).scan "len.go" source).context
    context.package = some Runtime.package ∧
      (∀ directive ∈ source.directives "len.go", directive.conversion? = none) ∧
      context.render.isOk = true ∧
      ∃ wrappers, context.wrappers = .ok wrappers ∧
        ∃ wrapper ∈ wrappers, ∃ line ∈ wrapper.lines.eraseIdx 2, Text.Qualified line := by
  intro source context
  obtain ⟨hpackage, hnone, hrendered, hqualified⟩ : context.package = some Runtime.package ∧
      (∀ directive ∈ source.directives "len.go", directive.conversion? = none) ∧
      context.render.isOk = true ∧
      (context.wrappers.toOption.any fun wrappers => wrappers.any fun wrapper =>
        (wrapper.lines.eraseIdx 2).any fun line => decide (Text.Qualified line)) = true := by
    decide +kernel
  refine ⟨hpackage, hnone, hrendered, ?_⟩
  cases hwrappers : context.wrappers with
  | error missing => simp [hwrappers, Except.toOption] at hqualified
  | ok wrappers => exact ⟨wrappers, rfl, by simpa [hwrappers, Except.toOption] using hqualified⟩

end Context

end WrapperGen
