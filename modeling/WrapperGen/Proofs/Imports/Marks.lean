import Mathlib.Data.List.Nodup
import WrapperGen.Proofs.Imports.Grouped

/-!
# Marks of defaults

A request takes away the mark of the path that it finds under its own name, and no other mark
(`ImportSet.implicit_request`). The defaults are marked before they are asked for themselves, so
asking for a default a second time counts as if somebody else had asked for it, and an empty
default, which no request looks at, keeps its mark. In all other cases the marks tell which defaults
nobody has asked for (`ImportSet.isImplicit_requestAll_iff`).
-/

namespace WrapperGen.ImportSet

variable {imports : ImportSet} {entries : List Import} {path : Text}

/-! ## Marks and requests -/

theorem isImplicit_iff : imports.isImplicit path = true ↔ path ∈ imports.implicit :=
  List.contains_iff_mem

/-- The path keeps its mark when the entry is asked for: the entry is not there for it already. -/
def keepsMark (imports : ImportSet) (entry : Import) (path : Text) : Bool :=
  path.isEmpty || imports.find? path != some entry

theorem keepsMark_iff {entry : Import} :
    imports.keepsMark entry path = true ↔ path = [] ∨ imports.find? path ≠ some entry := by
  simp [keepsMark]

/-- An entry that is not there takes away no mark. -/
theorem filter_keepsMark_of_forall {entry : Import}
    (h : ∀ path, path ≠ [] → imports.find? path ≠ some entry) :
    imports.implicit.filter (imports.keepsMark entry) = imports.implicit := by
  rw [List.filter_eq_self]
  intro path _
  exact keepsMark_iff.2 (or_iff_not_imp_left.2 (h path))

/-- Adding takes away the mark of the path that the entry is there for already. -/
theorem Adds.implicit_eq {next : ImportSet} {entry : Import} (h : imports.Adds entry next) :
    next.implicit = imports.implicit.filter (imports.keepsMark entry) := by
  cases h with
  | skipped hempty =>
    symm
    exact filter_keepsMark_of_forall fun path hpath hfound =>
      hpath ((path_of_find? hfound).symm.trans hempty)
  | inserted hpath hnew =>
    rw [implicit_insert]
    symm
    refine filter_keepsMark_of_forall fun path _ hfound => ?_
    rw [← path_of_find? hfound, hnew] at hfound
    exact absurd hfound (by simp)
  | asked hpath hknown =>
    refine List.filter_congr fun path _ => Bool.eq_iff_iff.2 ?_
    rw [bne_iff_ne, keepsMark_iff]
    constructor
    · exact fun hne => .inr fun hfound => hne (path_of_find? hfound).symm
    · rintro (hempty | hother) heq
      · exact hpath (heq.symm.trans hempty)
      · exact hother (heq ▸ hknown)

/-- A request takes away the mark of the path that the entry is there for already. -/
theorem implicit_request (imports : ImportSet) (entry : Import) :
    (imports.request entry).implicit = imports.implicit.filter (imports.keepsMark entry) := by
  rcases imports.request_cases entry with hadds | ⟨⟨conflict, hrefused⟩, heq⟩
  · exact hadds.implicit_eq
  · -- an entry that is there already is not refused
    rw [heq]
    symm
    refine filter_keepsMark_of_forall fun path hpath hfound => ?_
    obtain rfl := path_of_find? hfound
    rw [answer_eq_ok_of_adds (.asked hpath hfound)] at hrefused
    exact absurd hrefused (by simp)

theorem mem_implicit_request {entry : Import} :
    path ∈ (imports.request entry).implicit ↔
      path ∈ imports.implicit ∧ (path = [] ∨ imports.find? path ≠ some entry) := by
  rw [implicit_request, List.mem_filter, keepsMark_iff]

/-- The marks that are left are some of the marks there were, in their order. -/
theorem exists_implicit_eq_filter (imports : ImportSet) (entries : List Import) :
    ∃ keep, (imports.requestAll entries).implicit = imports.implicit.filter keep := by
  have hrequest : ∀ (reached : ImportSet) (entry : Import),
      (∃ keep, reached.implicit = imports.implicit.filter keep) →
        ∃ keep, (reached.request entry).implicit = imports.implicit.filter keep := by
    rintro reached entry ⟨keep, hkeep⟩
    exact ⟨_, by rw [implicit_request, hkeep, List.filter_filter]⟩
  have hinit : ∃ keep, imports.implicit = imports.implicit.filter keep :=
    ⟨fun _ => true, by simp⟩
  exact requestAll_preserves hrequest hinit entries

/-- No request looks at the empty path. -/
theorem nil_mem_implicit_requestAll :
    [] ∈ (imports.requestAll entries).implicit ↔ [] ∈ imports.implicit := by
  induction entries generalizing imports with
  | nil => rfl
  | cons entry entries ih =>
    have hrest : [] ∈ (imports.requestAll (entry :: entries)).implicit ↔
        [] ∈ (imports.request entry).implicit := ih
    rw [hrest, mem_implicit_request]
    simp

/-- The mark of an import stays until the import is asked for as it is. -/
theorem mem_implicit_requestAll_of_find? {known : Import} (hpath : path ≠ [])
    (hfound : imports.find? path = some known) :
    path ∈ (imports.requestAll entries).implicit ↔
      path ∈ imports.implicit ∧ known ∉ entries := by
  induction entries generalizing imports with
  | nil => simp [requestAll]
  | cons entry entries ih =>
    have hrest : path ∈ (imports.requestAll (entry :: entries)).implicit ↔
        path ∈ (imports.request entry).implicit ∧ known ∉ entries :=
      ih (find?_request hfound entry)
    rw [hrest, mem_implicit_request, hfound, List.mem_cons, not_or, and_assoc]
    simp [hpath]

/-- A path that nothing is asked about stays out of the set, and stays marked as it is. -/
theorem requestAll_of_forall_ne (hnew : imports.find? path = none)
    (hother : ∀ entry ∈ entries, entry.path ≠ path) :
    (imports.requestAll entries).find? path = none ∧
      (path ∈ (imports.requestAll entries).implicit ↔ path ∈ imports.implicit) := by
  induction entries generalizing imports with
  | nil => exact ⟨hnew, Iff.rfl⟩
  | cons entry entries ih =>
    obtain ⟨hentry, hentries⟩ := List.forall_mem_cons.1 hother
    have hstep : (imports.request entry).find? path = none := by
      rcases imports.request_cases entry with hadds | ⟨-, heq⟩
      · rw [hadds.find?_of_ne hentry, hnew]
      · rw [heq, hnew]
    obtain ⟨hfind, hmark⟩ := ih hstep hentries
    refine ⟨hfind, hmark.trans ?_⟩
    rw [mem_implicit_request, hnew]
    simp

/-! ## Histories from the defaults on -/

/--
The first request for a default imports it and leaves its mark. What comes after it, the later
defaults included, is a history of requests like any other.
-/
theorem exists_requestAll_defaults {defaults : List Text} (hpath : path ≠ [])
    (hdefault : path ∈ defaults) :
    ∃ (later : List Text) (imports : ImportSet), defaults.count path = later.count path + 1 ∧
      imports.find? path = some ⟨path, []⟩ ∧ path ∈ imports.implicit ∧
      ∀ entries, (ofDefaults defaults).requestAll entries =
        imports.requestAll (later.map (⟨·, []⟩) ++ entries) := by
  obtain ⟨earlier, later, rfl, hfirst⟩ := List.eq_append_cons_of_mem hdefault
  have hother : ∀ entry ∈ earlier.map (fun path => (⟨path, []⟩ : Import)), entry.path ≠ path := by
    intro entry hentry heq
    obtain ⟨other, hmem, rfl⟩ := List.mem_map.1 hentry
    exact hfirst (heq ▸ hmem)
  have hnew : (marked (earlier ++ path :: later)).find? path = none := rfl
  obtain ⟨hfind, hmark⟩ := requestAll_of_forall_ne hnew hother
  have hadds : Adds _ ⟨path, []⟩ _ := .inserted hpath hfind
  refine ⟨later, _, ?_, hadds.find?_self hpath, ?_, fun entries => ?_⟩
  · rw [List.count_append, List.count_cons_self, List.count_eq_zero.2 hfirst, Nat.zero_add]
  · rw [implicit_insert, hmark]
    exact hdefault
  · rw [ofDefaults_eq_requestAll, ← requestAll_append, List.map_append, List.append_assoc,
      requestAll_append, ← request_eq_of_adds hadds]
    rfl

/-- Nothing but a default is ever marked. -/
theorem implicit_requestAll_ofDefaults_subset (defaults : List Text) (entries : List Import) :
    ((ofDefaults defaults).requestAll entries).implicit ⊆ defaults := by
  rw [ofDefaults_eq_requestAll, ← requestAll_append]
  obtain ⟨keep, hkeep⟩ := exists_implicit_eq_filter (marked defaults) _
  rw [hkeep]
  exact List.filter_subset_self defaults

/-- An empty default is marked for good. -/
theorem nil_mem_implicit_ofDefaults {defaults : List Text} :
    [] ∈ ((ofDefaults defaults).requestAll entries).implicit ↔ [] ∈ defaults := by
  rw [ofDefaults_eq_requestAll, ← requestAll_append]
  have hmarked : [] ∈ (marked defaults).implicit ↔ [] ∈ defaults := Iff.rfl
  rw [nil_mem_implicit_requestAll, hmarked]

/-- Any other default is marked as long as it is given once and nobody asks for it. -/
theorem mem_implicit_ofDefaults {defaults : List Text} (hpath : path ≠ [])
    (hdefault : path ∈ defaults) :
    path ∈ ((ofDefaults defaults).requestAll entries).implicit ↔
      defaults.count path = 1 ∧ ⟨path, []⟩ ∉ entries := by
  obtain ⟨later, imports, hcount, hfound, hmark, hrun⟩ :=
    exists_requestAll_defaults hpath hdefault
  have honce : defaults.count path = 1 ↔ path ∉ later := by
    rw [hcount, ← List.count_eq_zero]
    omega
  have hlater : (⟨path, []⟩ : Import) ∈ later.map (⟨·, []⟩) ↔ path ∈ later := by simp
  rw [hrun, mem_implicit_requestAll_of_find? hpath hfound, List.mem_append, hlater, not_or, honce]
  exact and_iff_right hmark

/--
Where each default is given once and requests are all accepted, the marked paths are the defaults
that nobody has asked for under any name.
-/
theorem isImplicit_iff_of_addAll {defaults : List Text} (hnodup : defaults.Nodup)
    (hempty : [] ∉ defaults) (h : (ofDefaults defaults).addAll entries = .ok imports) :
    imports.isImplicit path = true ↔
      path ∈ defaults ∧ ∀ entry ∈ entries, entry.path ≠ path := by
  rw [isImplicit_iff, ← requestAll_eq_of_addAll h]
  by_cases hdefault : path ∈ defaults
  · have hpath : path ≠ [] := fun heq => hempty (heq ▸ hdefault)
    have honce : defaults.count path = 1 := List.count_eq_one_of_mem hnodup hdefault
    rw [mem_implicit_ofDefaults hpath hdefault, and_iff_right honce, and_iff_right hdefault]
    constructor
    · rintro hasked entry hentry rfl
      -- the default is there without a local name, so it has been asked for without one
      obtain ⟨later, reached, -, hfound, -, hrun⟩ := exists_requestAll_defaults hpath hdefault
      have hknown : (ofDefaults defaults).find? entry.path = some ⟨entry.path, []⟩ := by
        have hrequested := hrun []
        rw [show (ofDefaults defaults).requestAll [] = ofDefaults defaults from rfl] at hrequested
        rw [hrequested, find?_requestAll hfound]
      rw [eq_of_mem_of_addAll h hentry hpath hknown] at hasked
      exact hasked hentry
    · exact fun hother hasked => hother _ hasked rfl
  · have hunmarked : path ∉ ((ofDefaults defaults).requestAll entries).implicit := fun hmem =>
      hdefault (implicit_requestAll_ofDefaults_subset defaults entries hmem)
    simp [hunmarked, hdefault]

/-- A default that is not empty is imported after any requests. -/
theorem contains_of_mem_defaults {defaults : List Text} (hpath : path ≠ [])
    (hdefault : path ∈ defaults) (entries : List Import) :
    ((ofDefaults defaults).requestAll entries).contains path = true := by
  obtain ⟨later, imports, -, hfound, -, hrun⟩ := exists_requestAll_defaults hpath hdefault
  rw [hrun, contains, find?_requestAll hfound, Option.isSome_some]

/-- The empty path is never imported. -/
theorem Grouped.contains_nil (h : imports.Grouped) : imports.contains [] = false := by
  rw [contains, find?_eq_none_iff.2 h.path_ne_nil, Option.isSome_none]

/-- The mark of a path tells that it is imported, as a default that nobody has asked for. -/
def MarkTells (defaults : List Text) (entries : List Import) (path : Text) : Prop :=
  let imports := (ofDefaults defaults).requestAll entries
  imports.isImplicit path = true ↔
    imports.contains path = true ∧ path ∈ defaults ∧ ⟨path, []⟩ ∉ entries

instance (defaults : List Text) (entries : List Import) (path : Text) :
    Decidable (MarkTells defaults entries path) :=
  inferInstanceAs (Decidable (_ ↔ _))

/--
After any requests a path is marked if it is a default that is empty, or that stands once among the
defaults and has not been asked for. So the mark tells what it should unless the path is an empty
default, or a repeated one that nobody has asked for.
-/
theorem isImplicit_requestAll_iff (defaults : List Text) (entries : List Import) (path : Text) :
    (((ofDefaults defaults).requestAll entries).isImplicit path = true ↔
      path ∈ defaults ∧ (path = [] ∨ defaults.count path = 1 ∧ ⟨path, []⟩ ∉ entries)) ∧
    (MarkTells defaults entries path ↔
      if path = [] then path ∉ defaults
      else defaults.count path ≤ 1 ∨ ⟨path, []⟩ ∈ entries) := by
  rw [MarkTells, isImplicit_iff]
  by_cases hdefault : path ∈ defaults
  · by_cases hpath : path = []
    · subst hpath
      have hnever := (grouped_requestAll defaults entries).contains_nil
      simp [nil_mem_implicit_ofDefaults, hdefault, hnever]
    · have honce : 1 ≤ defaults.count path := List.one_le_count_iff.2 hdefault
      rw [mem_implicit_ofDefaults hpath hdefault, if_neg hpath]
      refine ⟨by simp [hdefault, hpath], ?_⟩
      simp only [contains_of_mem_defaults hpath hdefault entries, hdefault, true_and]
      by_cases hasked : (⟨path, []⟩ : Import) ∈ entries
      · simp [hasked]
      · simp only [hasked, not_false_eq_true, and_true, iff_true, or_false]
        omega
  · have hunmarked : path ∉ ((ofDefaults defaults).requestAll entries).implicit := fun hmem =>
      hdefault (implicit_requestAll_ofDefaults_subset defaults entries hmem)
    have hcount : defaults.count path = 0 := List.count_eq_zero.2 hdefault
    simp [hunmarked, hdefault, hcount]

/-- The mark of an empty default, and that of a default that is given twice. -/
theorem markTells_mistaken : ¬ MarkTells [""] [] "" ∧ ¬ MarkTells ["time", "time"] [] "time" := by
  decide

end WrapperGen.ImportSet
