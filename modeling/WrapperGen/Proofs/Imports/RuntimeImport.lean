import WrapperGen.Proofs.Imports.Output

/-!
# The runtime among the imports

The generated file qualifies what it uses of the runtime by the name of the runtime's package, so
it has to import the runtime under that name, and must not import it inside of that package
(`Context.ImportsRuntime`). A directive may ask for the runtime as well, and its import is kept as
it was asked for (`Context.runtimeEntries_eq`). Hence the generated file goes wrong exactly where a
directive asks for the runtime under another name or inside of its package
(`Context.importsRuntime_iff`).
-/

namespace WrapperGen

/-- The package that the entry imports is referred to by the name of the runtime's package. -/
def Import.BindsRuntime (entry : Import) : Prop :=
  entry.localName = [] ∨ entry.localName = Runtime.package

instance (entry : Import) : Decidable entry.BindsRuntime :=
  inferInstanceAs (Decidable (_ ∨ _))

namespace Context

/-- The imports of the runtime in the generated file. -/
def runtimeEntries (context : Context) : List Import :=
  (context.runtimeImports ++ context.externalImports).filter (·.path == Runtime.importPath)

/-- The generated file imports the runtime if it needs to, once, and under the name that it uses. -/
def ImportsRuntime (context : Context) : Prop :=
  if context.isRuntime then context.runtimeEntries = []
  else ∃ entry, context.runtimeEntries = [entry] ∧ entry.BindsRuntime

end Context

/-! ## What is imported -/

/-- At most one of the imports with different paths has a given path. -/
theorem Import.filter_path_eq {entries : List Import} (h : (entries.map Import.path).Nodup)
    (path : Text) :
    entries.filter (·.path == path) = (entries.find? (·.path == path)).toList := by
  induction entries with
  | nil => rfl
  | cons head rest ih =>
    rw [List.map_cons, List.nodup_cons] at h
    obtain ⟨hhead, hrest⟩ := h
    by_cases hpath : head.path = path
    · have hnone : rest.filter (·.path == path) = [] := by
        rw [List.filter_eq_nil_iff]
        intro entry hentry heq
        rw [hpath] at hhead
        exact hhead ((beq_iff_eq.1 heq) ▸ List.mem_map_of_mem hentry)
      rw [List.filter_cons_of_pos (by simpa using hpath),
        List.find?_cons_of_pos (by simpa using hpath), hnone]
      rfl
    · rw [List.filter_cons_of_neg (by simpa using hpath),
        List.find?_cons_of_neg (by simpa using hpath), ih hrest]

/-- An external package is looked for in the second group only. -/
theorem Import.Grouped.find?_eq {runtime external : List Import}
    (h : Import.Grouped runtime external) {path : Text} (hdot : '.' ∈ path) :
    (runtime ++ external).find? (·.path == path) = external.find? (·.path == path) := by
  have hnone : runtime.find? (·.path == path) = none := by
    rw [List.find?_eq_none]
    intro entry hentry heq
    have hclear := ((Import.grouped_iff.1 h).1 entry hentry).2
    rw [beq_iff_eq.1 heq] at hclear
    exact hclear hdot
  rw [List.find?_append, hnone, Option.none_or]

namespace Context

/--
The runtime is imported as a directive has asked for it. Otherwise it is imported without a local
name outside of its package, and not at all inside.
-/
theorem runtimeEntries_eq {context : Context} (h : context.imports.Grouped) :
    context.runtimeEntries =
      match context.imports.find? Runtime.importPath with
      | some entry => [entry]
      | none => if context.isRuntime then [] else [⟨Runtime.importPath, []⟩] := by
  have hgrouped := grouped_of_imports h
  have hdot : '.' ∈ Runtime.importPath := by decide
  have hset : context.imports.find? Runtime.importPath =
      context.imports.external.find? (·.path == Runtime.importPath) := h.find?_eq hdot
  rw [runtimeEntries, Import.filter_path_eq hgrouped.paths_nodup, hgrouped.find?_eq hdot,
    externalImports, ImportSet.contains]
  cases hfind : context.imports.find? Runtime.importPath with
  | some entry =>
    rw [Option.isSome_some, Bool.or_true, if_pos rfl, ← hset, hfind]
    rfl
  | none =>
    rw [Option.isSome_none, Bool.or_false]
    cases context.isRuntime with
    | true =>
      rw [if_pos rfl, ← hset, hfind]
      rfl
    | false =>
      rw [if_neg (by simp), Import.find?_insertSorted_of_pos (by simp) (hset ▸ hfind)]
      rfl

/--
What a session makes of the import of the runtime: the generated file imports it as a directive has
asked for it, or else as the file needs it. So the import is the one that the file needs unless a
directive has asked for the runtime under another name, or inside of its package.
-/
theorem importsRuntime_iff (exported extendedOnly : Bool) (package : Option Text)
    (session : List Request) :
    let context := (fresh exported extendedOnly package).performAll session
    (context.runtimeEntries =
      match context.imports.find? Runtime.importPath with
      | some entry => [entry]
      | none => if context.isRuntime then [] else [⟨Runtime.importPath, []⟩]) ∧
    (context.ImportsRuntime ↔ ∀ entry, context.imports.find? Runtime.importPath = some entry →
      context.isRuntime = false ∧ entry.BindsRuntime) := by
  intro context
  have hgrouped : context.imports.Grouped :=
    (exists_requestAll exported extendedOnly package session).grouped
  have hentries := runtimeEntries_eq hgrouped
  refine ⟨hentries, ?_⟩
  rw [ImportsRuntime, hentries]
  cases context.imports.find? Runtime.importPath with
  | some entry => cases hruntime : context.isRuntime <;> simp
  | none => cases hruntime : context.isRuntime <;> simp [Import.BindsRuntime]

/-- A directive can rename the runtime, and it can import the runtime into itself. -/
theorem importsRuntime_broken :
    let renamed := (fresh false false none).perform (.scan "main.go" (.ofText
    "package main\n//ugo:callable:import u \"github.com/ozanh/ugo\"\n//ugo:callable Add(a int)\n"))
    let itself := (fresh false false none).perform (.scan "add.go" (.ofText
      "package ugo\n//ugo:callable:import \"github.com/ozanh/ugo\"\n//ugo:callable Add(a int)\n"))
    ¬ renamed.ImportsRuntime ∧ ¬ itself.ImportsRuntime := by
  intro renamed itself
  have hrenamed : renamed.isRuntime = false ∧
      renamed.runtimeEntries = [⟨Runtime.importPath, "u"⟩] := by
    decide +kernel
  have hitself : itself.isRuntime = true ∧
      itself.runtimeEntries = [⟨Runtime.importPath, []⟩] := by
    decide +kernel
  constructor
  · rw [ImportsRuntime, hrenamed.1, hrenamed.2]
    rintro ⟨entry, heq, hbinds⟩
    obtain rfl := (List.cons.inj heq).1
    exact absurd hbinds (by decide)
  · rw [ImportsRuntime, hitself.1, hitself.2]
    simp

end Context

end WrapperGen
