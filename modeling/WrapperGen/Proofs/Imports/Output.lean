import WrapperGen.Proofs.Imports.Grouped
import WrapperGen.Proofs.Session

/-!
# Imports of the generated file

The imports of a context that a session reaches are what requests make of the defaults
(`Context.exists_requestAll`). The generated file leaves some of them out and adds the runtime, and
its import block is grouped nevertheless (`Context.grouped_imports`).
-/

namespace WrapperGen.Context

/-! ## Imports of a session -/

/-- A context whose imports have come from requests to the set that every run begins with. -/
def ImportsRequested (context : Context) : Prop :=
  ∃ entries, context.imports = ImportSet.initial.requestAll entries

theorem Change.importsRequested {context next : Context} (h : Change context next)
    (hrequested : context.ImportsRequested) : next.ImportsRequested := by
  cases h with
  | converted => exact hrequested
  | declared => exact hrequested
  | packaged => exact hrequested
  | @imported payload entry imports hread hadd =>
    obtain ⟨entries, hentries⟩ := hrequested
    refine ⟨entries ++ [entry], ?_⟩
    rw [ImportSet.requestAll_append, ← hentries]
    exact (ImportSet.request_eq_of_adds hadd).symm

/-- Every session only makes requests of its imports. -/
theorem exists_requestAll (exported extendedOnly : Bool) (package : Option Text)
    (session : List Request) :
    ((fresh exported extendedOnly package).performAll session).ImportsRequested :=
  (reaches_performAll _ session).preserves Change.importsRequested ⟨[], rfl⟩

theorem ImportsRequested.grouped {context : Context} (h : context.ImportsRequested) :
    context.imports.Grouped := by
  obtain ⟨entries, heq⟩ := h
  rw [heq]
  exact ImportSet.grouped_requestAll ImportSet.defaultPaths entries

/-- No request takes the default away or gives it a local name. -/
theorem ImportsRequested.find?_default {context : Context} (h : context.ImportsRequested) :
    context.imports.find? "strconv" = some ⟨"strconv", []⟩ := by
  obtain ⟨entries, heq⟩ := h
  rw [heq]
  exact ImportSet.find?_requestAll (by decide) entries

/-! ## The import block -/

theorem runtimeImports_sublist (context : Context) :
    context.runtimeImports.Sublist context.imports.runtime := by
  unfold runtimeImports
  split
  · exact List.filter_sublist
  · exact List.Sublist.refl _

/-- The import block is grouped as soon as the set of imports is. -/
theorem grouped_of_imports {context : Context} (h : context.imports.Grouped) :
    Import.Grouped context.runtimeImports context.externalImports := by
  unfold externalImports
  split
  · exact h.sublist context.runtimeImports_sublist (List.Sublist.refl _)
  · next hadded =>
    -- the runtime is added outside of the set, but only where the set does not have it
    have hunknown : context.imports.find? Runtime.importPath = none := by
      simp only [ImportSet.contains, Bool.or_eq_true, not_or, Option.not_isSome_iff_eq_none]
        at hadded
      exact hadded.2
    have hinserted : Import.Grouped context.imports.runtime
        (Import.insertSorted ⟨Runtime.importPath, []⟩ context.imports.external) :=
      h.insert_external (by decide) (ImportSet.find?_eq_none_iff.1 hunknown)
    exact hinserted.sublist context.runtimeImports_sublist (List.Sublist.refl _)

/-- A positional guard finds what it uses among the imports. -/
theorem ImportsRequested.default_mem_runtimeImports {context : Context}
    (h : context.ImportsRequested) (hpositional : context.extendedOnly = false) :
    ⟨"strconv", []⟩ ∈ context.runtimeImports := by
  have hmem : (⟨"strconv", []⟩ : Import) ∈ context.imports.entries :=
    List.mem_of_find?_eq_some h.find?_default
  have hgroup : (⟨"strconv", []⟩ : Import) ∉ context.imports.external := by
    rw [h.grouped.mem_external_iff _ hmem]
    decide
  rw [runtimeImports, hpositional]
  exact (List.mem_append.1 hmem).resolve_right hgroup

/--
Any defaults are accepted, and the set is grouped after any requests, each of which changes it as it
is answered. The import block of every context that a session reaches is grouped, and if there are
positional wrappers it has what their guards use.
-/
theorem grouped_imports (defaults : List Text) (requested : List Import)
    (exported extendedOnly : Bool) (package : Option Text) (session : List Request) :
    let imports := (ImportSet.ofDefaults defaults).requestAll requested
    let context := (fresh exported extendedOnly package).performAll session
    (ImportSet.marked defaults).addAll (defaults.map (⟨·, []⟩)) = .ok (.ofDefaults defaults) ∧
      imports.Grouped ∧ (∀ entry, imports.Answers entry) ∧
      Import.Grouped context.runtimeImports context.externalImports ∧
      (context.extendedOnly = false → ⟨"strconv", []⟩ ∈ context.runtimeImports) := by
  intro imports context
  have hcontext : context.ImportsRequested :=
    exists_requestAll exported extendedOnly package session
  exact ⟨ImportSet.addAll_defaults defaults, ImportSet.grouped_requestAll defaults requested,
    imports.request_answers, grouped_of_imports hcontext.grouped,
    hcontext.default_mem_runtimeImports⟩

end WrapperGen.Context
