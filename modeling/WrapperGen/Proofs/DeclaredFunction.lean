import WrapperGen.Proofs.InternalNames
import WrapperGen.Proofs.Session
import WrapperGen.Proofs.Signature.Shape

/-!
# Functions that a scanner has declared

Every function in a context that a session reaches was declared by a signature directive under the
naming scheme of the session (`Function.DeclaredBy`). Whatever the generator relies on without
checking it follows from that alone: `Function.WellFormed`.
-/

namespace WrapperGen

namespace Function

/-- A signature directive of a session declares the function. -/
def DeclaredBy (exported : Bool) (function : Function) : Prop :=
  ∃ payload origin signature, Signature.ofText payload = .ok signature ∧
    function = ofSignature (.builtin exported) origin signature

/-- What the generator relies on in a function. -/
structure WellFormed (function : Function) : Prop where
  position : ∀ (i : Nat) (hi : i < function.params.length), function.params[i].position = i
  isToken_name : ∀ param ∈ function.params, IsToken param.name
  isType : ∀ param ∈ function.params, IsType param.type
  name_ne_nil : function.name ≠ []
  name_unpadded : Text.Unpadded function.name
  name_ne_placeholder : function.name ≠ placeholder
  internal_nodup : function.internal.toList.Nodup
  internal_fresh : ∀ name ∈ function.internal.toList, name ∉ function.signature.paramNames
  result_position : ∀ (i : Nat) (hi : i < function.signature.returns.entries.length),
    function.signature.returns.entries[i].position = i

theorem DeclaredBy.wellFormed {exported : Bool} {function : Function}
    (h : function.DeclaredBy exported) : function.WellFormed := by
  obtain ⟨payload, origin, signature, hread, rfl⟩ := h
  have hwf := (Signature.ofText_eq_ok_iff.1 hread).wellFormed
  -- a synthesized name is made of the types, so what they are free of it is free of
  have htypes : ∀ param ∈ signature.params ++ signature.returns.entries, ∀ c ∈ param.type,
      Text.isPadding c = false := by
    intro param hparam
    rcases List.mem_append.1 hparam with hparam | hparam
    · exact (hwf.isType param hparam).isPadding_eq_false
    · exact (hwf.result_isType param hparam).isPadding_eq_false
  exact
    { position := hwf.position
      isToken_name := hwf.isToken_name
      isType := hwf.isType
      name_ne_nil := NameScheme.wrappedName_ne_nil _ hwf.name_ne_nil
      name_unpadded := NameScheme.unpadded_wrappedName hwf.name_unpadded htypes
      name_ne_placeholder := NameScheme.wrappedName_ne_placeholder _ signature
      internal_nodup := InternalNames.avoiding_nodup _
      internal_fresh := fun _ hname => InternalNames.avoiding_not_mem hname
      result_position := hwf.result_position }

end Function

namespace Context

/-- A context whose functions were all declared by directives of its session. -/
def FunctionsDeclared (exported : Bool) (context : Context) : Prop :=
  context.exported = exported ∧ ∀ function ∈ context.functions, function.DeclaredBy exported

theorem Change.functionsDeclared {exported : Bool} {context next : Context}
    (h : Change context next) (hdeclared : context.FunctionsDeclared exported) :
    next.FunctionsDeclared exported := by
  obtain ⟨hexported, hfunctions⟩ := hdeclared
  cases h with
  | imported => exact ⟨hexported, hfunctions⟩
  | converted => exact ⟨hexported, hfunctions⟩
  | packaged => exact ⟨hexported, hfunctions⟩
  | @declared payload origin signature hread =>
    refine ⟨hexported, fun function hfunction => ?_⟩
    rcases List.mem_append.1 hfunction with hold | hnew
    · exact hfunctions function hold
    · obtain rfl := List.mem_singleton.1 hnew
      rw [nameScheme, hexported]
      exact ⟨payload, origin, signature, hread, rfl⟩

/-- Every function that a session has declared comes from one of its signature directives. -/
theorem declaredBy_of_mem_functions {exported extendedOnly : Bool} {package : Option Text}
    {requests : List Request} {function : Function}
    (h : function ∈ ((fresh exported extendedOnly package).performAll requests).functions) :
    function.DeclaredBy exported := by
  have hinit : (fresh exported extendedOnly package).FunctionsDeclared exported :=
    ⟨rfl, by simp [fresh]⟩
  exact ((reaches_performAll _ requests).preserves Change.functionsDeclared hinit).2 function h

/--
After every session the functions of the context are well formed, and no further request takes one
of them away, changes one, or puts one in front of them.
-/
theorem functions_performAll (exported extendedOnly : Bool) (package : Option Text)
    (requests : List Request) :
    let context := (fresh exported extendedOnly package).performAll requests
    (∀ function ∈ context.functions, function.WellFormed) ∧
      ∀ request, context.functions <+: (context.perform request).functions := by
  intro context
  refine ⟨fun function hfunction => ?_, fun request => ?_⟩
  · exact (declaredBy_of_mem_functions hfunction).wellFormed
  · exact (reaches_perform context request).functions_grow

end Context

end WrapperGen
