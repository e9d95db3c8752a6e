import WrapperGen.Proofs.Wrapper.Marshalling
import WrapperGen.Render

/-!
# Validation before rendering

Whether every parameter type has a converter is checked before any wrapper is built, and each
wrapper then looks its converters up again. Both go by the same look-up, so that a context which
passes the check has all its wrappers (`Context.Resolved.exists_wrappers`), and one which does not
is refused for its first type without a converter (`Context.firstMissing?_eq_some_iff`). Hence
rendering has three outcomes and no others (`Context.render_outcome`).
-/

namespace WrapperGen.Context

/-- Every parameter type of every function has a converter. -/
def Resolved (context : Context) : Prop :=
  ∀ function ∈ context.functions, ∀ param ∈ function.params,
    (context.registry.lookup param.type).isSome = true

/-- The parameter is the first one without a converter, function by function. -/
structure FirstUnresolved (context : Context) (function : Function) (param : Param) : Prop where
  unresolved : context.registry.lookup param.type = none
  params_before : ∃ before after, function.params = before ++ param :: after ∧
    ∀ other ∈ before, (context.registry.lookup other.type).isSome = true
  functions_before : ∃ before after, context.functions = before ++ function :: after ∧
    ∀ earlier ∈ before, ∀ other ∈ earlier.params,
      (context.registry.lookup other.type).isSome = true

theorem not_resolved_iff {context : Context} :
    ¬ context.Resolved ↔ ∃ function ∈ context.functions, ∃ param ∈ function.params,
      context.registry.lookup param.type = none := by
  simp [Resolved]

/-! ## The check -/

theorem missingType?_eq_none_iff {registry : Registry} {function : Function} :
    missingType? registry function = none ↔
      ∀ param ∈ function.params, (registry.lookup param.type).isSome = true := by
  simp [missingType?, List.find?_eq_none, Option.isSome_iff_ne_none]

theorem missingType?_eq_some_iff {registry : Registry} {function : Function} {type : Text} :
    missingType? registry function = some type ↔
      ∃ param, param.type = type ∧ registry.lookup param.type = none ∧
        ∃ before after, function.params = before ++ param :: after ∧
          ∀ other ∈ before, (registry.lookup other.type).isSome = true := by
  rw [missingType?, Option.map_eq_some_iff]
  simp only [List.find?_eq_some_iff_append, Option.isNone_iff_eq_none, Bool.not_eq_true',
    Option.isNone_eq_false_iff]
  constructor
  · rintro ⟨param, ⟨hnone, hsplit⟩, htype⟩
    exact ⟨param, htype, hnone, hsplit⟩
  · rintro ⟨param, htype, hnone, hsplit⟩
    exact ⟨param, ⟨hnone, hsplit⟩, htype⟩

theorem firstMissing?_eq_none_iff {context : Context} :
    context.firstMissing? = none ↔ context.Resolved := by
  rw [firstMissing?, List.findSome?_eq_none_iff]
  simp only [Option.map_eq_none_iff, missingType?_eq_none_iff]
  rfl

/-- The check stops at the first parameter without a converter, and says where it stopped. -/
theorem firstMissing?_eq_some_iff {context : Context} {type name : Text} :
    context.firstMissing? = some (type, name) ↔
      ∃ function param, context.FirstUnresolved function param ∧ param.type = type ∧
        function.name = name := by
  rw [firstMissing?, List.findSome?_eq_some_iff]
  simp only [Option.map_eq_some_iff, Option.map_eq_none_iff, Prod.mk.injEq,
    missingType?_eq_none_iff]
  constructor
  · rintro ⟨before, function, after, hsplit, ⟨found, hfound, rfl, hname⟩, hbefore⟩
    obtain ⟨param, htype, hnone, hparams⟩ := missingType?_eq_some_iff.1 hfound
    exact ⟨function, param, ⟨hnone, hparams, before, after, hsplit, hbefore⟩, htype, hname⟩
  · rintro ⟨function, param, ⟨hnone, hparams, before, after, hsplit, hbefore⟩, htype, hname⟩
    exact ⟨before, function, after, hsplit,
      ⟨type, missingType?_eq_some_iff.2 ⟨param, htype, hnone, hparams⟩, rfl, hname⟩, hbefore⟩

theorem validate_eq_ok_iff {context : Context} :
    context.validate = .ok () ↔ context.Resolved := by
  rw [← firstMissing?_eq_none_iff, validate]
  cases context.firstMissing? with
  | none => simp
  | some missing => simp

theorem validate_eq_error_iff {context : Context} {failure : Failure} :
    context.validate = .error failure ↔
      ∃ function param, context.FirstUnresolved function param ∧
        failure = .missingConverter param.type (some function.name) := by
  rw [validate]
  cases hmissing : context.firstMissing? with
  | none =>
    -- what is first unresolved is unresolved
    have hnone : ∀ function param, ¬ context.FirstUnresolved function param := by
      intro function param hfirst
      have hsome := firstMissing?_eq_some_iff.2 ⟨function, param, hfirst, rfl, rfl⟩
      rw [hmissing] at hsome
      exact absurd hsome (by simp)
    simp [hnone]
  | some missing =>
    obtain ⟨type, name⟩ := missing
    constructor
    · intro h
      obtain rfl := Except.error.inj h
      obtain ⟨function, param, hfirst, rfl, rfl⟩ := firstMissing?_eq_some_iff.1 hmissing
      exact ⟨function, param, hfirst, rfl⟩
    · rintro ⟨function, param, hfirst, rfl⟩
      have hsome := firstMissing?_eq_some_iff.2 ⟨function, param, hfirst, rfl, rfl⟩
      rw [hmissing] at hsome
      obtain ⟨rfl, rfl⟩ : type = param.type ∧ name = function.name := by simpa using hsome
      rfl

/-! ## What the check is good for -/

section Resolved

variable {context : Context} (h : context.Resolved)

include h

theorem Resolved.exists_resolve {function : Function} (hfunction : function ∈ context.functions)
    {param : Param} (hparam : param ∈ function.params) :
    ∃ converter, context.registry.resolve param.type = .ok converter := by
  obtain ⟨converter, hlookup⟩ := Option.isSome_iff_exists.1 (h function hfunction param hparam)
  exact ⟨converter, Registry.resolve_eq_ok_iff.2 hlookup⟩

/-- After the check no function fails to be wrapped, in either convention. -/
theorem Resolved.exists_wrapper (convention : Convention) {function : Function}
    (hfunction : function ∈ context.functions) :
    ∃ wrapper, context.wrapper convention function = .ok wrapper := by
  obtain ⟨extractions, hextractions⟩ :=
    Extraction.exists_ofParams convention function.internal.args (h function hfunction)
  exact ⟨_, Wrapper.ofFunction_eq_ok_iff.2 ⟨extractions, hextractions, rfl⟩⟩

theorem Resolved.exists_wrappers : ∃ wrappers, context.wrappers = .ok wrappers := by
  obtain ⟨groups, hgroups⟩ : ∃ groups, (context.conventions.mapM fun convention =>
      context.functions.mapM (context.wrapper convention)) = .ok groups :=
    exists_mapM_eq_ok fun convention _ =>
      exists_mapM_eq_ok fun function hfunction => h.exists_wrapper convention hfunction
  rw [wrappers, hgroups]
  exact ⟨groups.flatten, rfl⟩

end Resolved

/-! ## Rendering -/

theorem render_of_package_eq_none {context : Context} (h : context.package = none) :
    context.render = .error .noPackage := by
  rw [render, h]

/-- A context that passes the check is rendered from all its wrappers. -/
theorem Resolved.exists_render {context : Context} (h : context.Resolved) {package : Text}
    (hpackage : context.package = some package) :
    ∃ wrappers, context.wrappers = .ok wrappers ∧ context.render =
      .ok (fileText package context.runtimeImports context.externalImports wrappers) := by
  obtain ⟨wrappers, hwrappers⟩ := h.exists_wrappers
  refine ⟨wrappers, hwrappers, ?_⟩
  rw [render, hpackage]
  simp only [validate_eq_ok_iff.2 h, hwrappers]
  rfl

/-- A context that does not pass the check is refused for its first unresolved parameter. -/
theorem render_of_not_resolved {context : Context} (h : ¬ context.Resolved) {package : Text}
    (hpackage : context.package = some package) :
    ∃ function param, context.FirstUnresolved function param ∧
      context.render = .error (.missingConverter param.type (some function.name)) := by
  cases hvalidate : context.validate with
  | ok value => exact absurd (validate_eq_ok_iff.1 hvalidate) h
  | error failure =>
    obtain ⟨function, param, hfirst, rfl⟩ := validate_eq_error_iff.1 hvalidate
    refine ⟨function, param, hfirst, ?_⟩
    simp only [render, hpackage, hvalidate, bind, Except.bind]

/-- Rendering has a text only where the package is known and the check is passed. -/
theorem render_eq_ok_iff {context : Context} {text : Text} :
    context.render = .ok text ↔
      context.Resolved ∧ ∃ package wrappers, context.package = some package ∧
        context.wrappers = .ok wrappers ∧
        text = fileText package context.runtimeImports context.externalImports wrappers := by
  constructor
  · intro h
    cases hpackage : context.package with
    | none =>
      rw [render_of_package_eq_none hpackage] at h
      exact absurd h (by simp)
    | some package =>
      by_cases hresolved : context.Resolved
      · obtain ⟨wrappers, hwrappers, hrender⟩ := hresolved.exists_render hpackage
        rw [hrender] at h
        exact ⟨hresolved, package, wrappers, rfl, hwrappers, (Except.ok.inj h).symm⟩
      · obtain ⟨function, param, -, hrefused⟩ := render_of_not_resolved hresolved hpackage
        exact absurd (h.symm.trans hrefused) (by simp)
  · rintro ⟨hresolved, package, wrappers, hpackage, hwrappers, rfl⟩
    obtain ⟨others, hothers, hrender⟩ := hresolved.exists_render hpackage
    obtain rfl := Except.ok.inj (hwrappers.symm.trans hothers)
    exact hrender

/--
A context without a package is refused for that. Otherwise it is refused for its first parameter
without a converter, or, if every parameter has one, it is rendered; and then no look-up fails
while the wrappers are built.
-/
theorem render_outcome (context : Context) :
    ((∃ failure, context.render = .error failure ∧ failure.kind? = some .packageClause) ↔
        context.package = none) ∧
      (context.package ≠ none →
        ((∃ failure, context.render = .error failure ∧
              failure.kind? = some .missingConverter) ↔
            ∃ function ∈ context.functions, ∃ param ∈ function.params,
              context.registry.lookup param.type = none) ∧
          (∀ failure, context.render = .error failure →
            ∃ function param, context.FirstUnresolved function param ∧
              failure = .missingConverter param.type (some function.name)) ∧
          ((∀ function ∈ context.functions, ∀ param ∈ function.params,
              context.registry.lookup param.type ≠ none) →
            (∃ text, context.render = .ok text) ∧
              ∀ function ∈ context.functions,
                (∀ param ∈ function.params,
                  ∃ converter, context.registry.resolve param.type = .ok converter) ∧
                ∀ convention, ∃ wrapper,
                  context.wrapper convention function = .ok wrapper)) := by
  cases hpackage : context.package with
  | none =>
    have hrender := render_of_package_eq_none hpackage
    exact ⟨⟨fun _ => rfl, fun _ => ⟨_, hrender, rfl⟩⟩, fun hne => absurd rfl hne⟩
  | some package =>
    rw [← not_resolved_iff]
    by_cases hresolved : context.Resolved
    · obtain ⟨wrappers, -, hrender⟩ := hresolved.exists_render hpackage
      refine ⟨by simp [hrender], fun _ => ⟨by simp [hrender, hresolved], by simp [hrender],
        fun _ => ⟨⟨_, hrender⟩, fun function hfunction => ⟨fun param hparam => ?_,
          fun convention => ?_⟩⟩⟩⟩
      · exact hresolved.exists_resolve hfunction hparam
      · exact hresolved.exists_wrapper convention hfunction
    · obtain ⟨function, param, hfirst, hrefused⟩ := render_of_not_resolved hresolved hpackage
      refine ⟨?_, fun _ => ⟨⟨fun _ => hresolved, fun _ => ⟨_, hrefused, rfl⟩⟩,
        fun failure h => ⟨function, param, hfirst, ?_⟩, fun hall => ?_⟩⟩
      · simp [hrefused, Failure.kind?]
      · exact Except.error.inj (h.symm.trans hrefused)
      · obtain ⟨other, hother, unresolved, hparam, hnone⟩ := not_resolved_iff.1 hresolved
        exact absurd hnone (hall other hother unresolved hparam)

end WrapperGen.Context
