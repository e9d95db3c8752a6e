import WrapperGen.Proofs.Converter
import WrapperGen.Proofs.Imports

/-!
# Directives

What a directive says depends on its payload alone: it asks for an import, chooses a conversion, or
declares a signature, and it may do nothing. One lemma for each kind says when a context accepts it
and what the context is afterwards.
-/

namespace WrapperGen

/-! ## What directives say -/

namespace Directive

/-- The payload of the directive can be read. -/
def Readable : Directive → Prop
  | importing payload => ∃ requested?, Import.ofPayload payload = .ok requested?
  | converting payload => ∃ conversion?, Conversion.ofPayload payload = .ok conversion?
  | declaring payload => ∃ signature, Signature.ofText payload = .ok signature

/-- The import that the directive asks for. -/
def requested? : Directive → Option Import
  | importing payload => (Import.ofPayload payload).toOption.join
  | _ => none

/-- The conversion that the directive chooses. -/
def conversion? : Directive → Option Conversion
  | converting payload => (Conversion.ofPayload payload).toOption.join
  | _ => none

/-- The signature that the directive declares a function by. -/
def signature? : Directive → Option Signature
  | declaring payload => (Signature.ofText payload).toOption
  | _ => none

/-- Whether the directive chooses a converter for a type. -/
def converts (type : Text) (directive : Directive) : Bool :=
  directive.conversion?.any (·.type == type)

end Directive

/-- An import is written as a literal, alone or as the second of two fields. -/
theorem Import.exists_literal {payload : Text} {entry : Import}
    (h : Import.ofPayload payload = .ok (some entry)) :
    ∃ literal, Literal.unquote literal = .ok entry.path ∧
      (entry.localName = [] ∧ literal = Text.trim payload ∨
        Text.fields (Text.trim payload) = [entry.localName, literal]) := by
  unfold Import.ofPayload at h
  simp only at h
  split at h
  · exact absurd (pure_eq_ok_iff.1 h) (by simp)
  · split at h
    · rw [pure_bind] at h
      split at h
      · next path hpath =>
        obtain rfl := Option.some.inj (pure_eq_ok_iff.1 h)
        exact ⟨_, hpath, .inl ⟨rfl, rfl⟩⟩
      · exact absurd h throw_ne_ok
    · split at h
      · next localName literal hfields =>
        rw [pure_bind] at h
        split at h
        · next path hpath =>
          obtain rfl := Option.some.inj (pure_eq_ok_iff.1 h)
          exact ⟨literal, hpath, .inr hfields⟩
        · exact absurd h throw_ne_ok
      · obtain ⟨found, hparts, -⟩ := bind_eq_ok_iff.1 h
        exact absurd hparts throw_ne_ok

/-- A conversion is written as two fields. -/
theorem Conversion.fields_eq {payload : Text} {conversion : Conversion}
    (h : Conversion.ofPayload payload = .ok (some conversion)) :
    Text.fields (Text.trim payload) = [conversion.type, conversion.routine] := by
  unfold ofPayload at h
  split at h
  · exact absurd h (by simp)
  · next type routine hfields =>
    obtain rfl := Option.some.inj (Except.ok.inj h)
    exact hfields
  · exact absurd h (by simp)

/-! ## What directives do -/

namespace Context

theorem apply_importing_eq_ok_iff {context next : Context} {origin payload : Text} :
    context.apply origin (.importing payload) = .ok next ↔
      ∃ requested?, Import.ofPayload payload = .ok requested? ∧
        ∃ imports, context.imports.addAll requested?.toList = .ok imports ∧
          next = { context with imports } := by
  rw [apply, applyImport]
  cases hread : Import.ofPayload payload with
  | error fault => simp
  | ok requested? =>
    simp only [Except.ok.injEq, exists_eq_left']
    cases requested? with
    | none =>
      simp only [Option.toList_none, ImportSet.addAll_nil_eq_ok_iff, exists_eq_left',
        Except.ok.injEq]
      exact eq_comm
    | some entry =>
      simp only [Option.toList_some, ImportSet.addAll_singleton_eq_ok_iff, addImport,
        ← ImportSet.add_eq_ok_iff]
      cases hadd : context.imports.add entry.path entry.localName with
      | error conflict => simp
      | ok imports =>
        simp only [Except.ok.injEq, exists_eq_left']
        exact eq_comm

theorem apply_converting_eq_ok_iff {context next : Context} {origin payload : Text} :
    context.apply origin (.converting payload) = .ok next ↔
      ∃ conversion?, Conversion.ofPayload payload = .ok conversion? ∧
        next = { context with registry := context.registry.registerAll conversion?.toList } := by
  rw [apply, applyConversion]
  cases hread : Conversion.ofPayload payload with
  | error fault => simp
  | ok conversion? =>
    simp only [Except.ok.injEq, exists_eq_left']
    cases conversion? with
    | none =>
      rw [Except.ok.injEq]
      exact eq_comm
    | some conversion =>
      rw [Except.ok.injEq]
      exact eq_comm

theorem apply_declaring_eq_ok_iff {context next : Context} {origin payload : Text} :
    context.apply origin (.declaring payload) = .ok next ↔
      ∃ signature, Signature.ofText payload = .ok signature ∧
        next = context.addFunction (Function.ofSignature context.nameScheme origin signature) := by
  rw [apply, applyDeclaration, declaredFunction]
  cases hread : Signature.ofText payload with
  | error fault => simp [Except.map]
  | ok signature => simp [Except.map, eq_comm]

end Context

end WrapperGen
