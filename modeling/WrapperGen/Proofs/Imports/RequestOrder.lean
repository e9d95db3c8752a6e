import Mathlib.Data.List.Nodup
import Mathlib.Data.List.Sort
import WrapperGen.Proofs.Imports.Marks

/-!
# Requests in any order

Requests that are all accepted leave behind the entries they ask for beside those that were there
(`ImportSet.Accepts.mem_entries_iff`), and without the marks of the paths they ask for. Groups are
told by their members (`Import.Grouped.eq_of_mem_iff`), so the order of the requests and how often
each is made do not matter. Whether all are accepted is told by the requests alone: no path may be
asked for under two names (`ImportSet.accepts_iff_consistent`).
-/

namespace WrapperGen

/-! ## Groups and their members -/

namespace Import

theorem Ascending.eq_of_mem_iff {entries others : List Import} (h : Ascending entries)
    (hothers : Ascending others) (hmem : ∀ entry, entry ∈ entries ↔ entry ∈ others) :
    entries = others := by
  have hirrefl : Std.Irrefl fun a b : Import => a.path < b.path := ⟨fun a => lt_irrefl a.path⟩
  have hantisymm : Std.Antisymm fun a b : Import => a.path < b.path :=
    ⟨fun a b hlt hgt => absurd hgt (lt_asymm hlt)⟩
  exact List.Pairwise.eq_of_mem_iff h hothers hmem

theorem Grouped.mem_runtime_group_iff {runtime external : List Import}
    (h : Grouped runtime external) {entry : Import} :
    entry ∈ runtime ↔ entry ∈ runtime ++ external ∧ '.' ∉ entry.path := by
  obtain ⟨hruntime, hexternal, -, -⟩ := grouped_iff.1 h
  rw [List.mem_append]
  constructor
  · intro hmem
    exact ⟨.inl hmem, (hruntime entry hmem).2⟩
  · rintro ⟨hmem | hmem, hdot⟩
    · exact hmem
    · exact absurd (hexternal entry hmem) hdot

theorem Grouped.mem_external_group_iff {runtime external : List Import}
    (h : Grouped runtime external) {entry : Import} :
    entry ∈ external ↔ entry ∈ runtime ++ external ∧ '.' ∈ entry.path := by
  rw [List.mem_append]
  constructor
  · intro hmem
    exact ⟨.inr hmem, (h.mem_external_iff entry (List.mem_append_right _ hmem)).1 hmem⟩
  · rintro ⟨hmem, hdot⟩
    exact (h.mem_external_iff entry (List.mem_append.2 hmem)).2 hdot

/-- There is one way to group imports. -/
theorem Grouped.eq_of_mem_iff {runtime external runtime' external' : List Import}
    (h : Grouped runtime external) (h' : Grouped runtime' external')
    (hmem : ∀ entry, entry ∈ runtime ++ external ↔ entry ∈ runtime' ++ external') :
    runtime = runtime' ∧ external = external' := by
  constructor
  · refine h.runtime_ascending.eq_of_mem_iff h'.runtime_ascending fun entry => ?_
    rw [h.mem_runtime_group_iff, h'.mem_runtime_group_iff, hmem]
  · refine h.external_ascending.eq_of_mem_iff h'.external_ascending fun entry => ?_
    rw [h.mem_external_group_iff, h'.mem_external_group_iff, hmem]

/-- Imports of one path are the same import. -/
theorem Grouped.eq_of_path_eq {runtime external : List Import} (h : Grouped runtime external)
    {entry other : Import} (hentry : entry ∈ runtime ++ external)
    (hother : other ∈ runtime ++ external) (hpath : entry.path = other.path) : entry = other :=
  List.inj_on_of_nodup_map h.paths_nodup hentry hother hpath

/-- No path stands among the imports under two names. Empty paths do not count. -/
def Consistent (entries : List Import) : Prop :=
  ∀ entry ∈ entries, ∀ other ∈ entries, entry.path ≠ [] → entry.path = other.path →
    entry.localName = other.localName

instance (entries : List Import) : Decidable (Consistent entries) :=
  inferInstanceAs (Decidable (∀ entry ∈ entries, ∀ other ∈ entries, _ → _ → _))

theorem Consistent.subset {entries others : List Import} (h : Consistent entries)
    (hsub : others ⊆ entries) : Consistent others := fun entry hentry other hother =>
  h entry (hsub hentry) other (hsub hother)

theorem Consistent.eq_of_path_eq {entries : List Import} (h : Consistent entries)
    {entry other : Import} (hentry : entry ∈ entries) (hother : other ∈ entries)
    (hne : entry.path ≠ []) (hpath : entry.path = other.path) : entry = other := by
  obtain ⟨path, localName⟩ := entry
  obtain ⟨path', localName'⟩ := other
  obtain rfl : path = path' := hpath
  obtain rfl : localName = localName' := h _ hentry _ hother hne rfl
  rfl

end Import

attribute [ext] ImportSet

namespace ImportSet

variable {imports : ImportSet} {entries others : List Import} {entry : Import}

/-! ## Requests that are accepted -/

/-- Each of the requests is accepted in its turn. One that is refused would be passed over. -/
def Accepts (imports : ImportSet) (entries : List Import) : Prop :=
  ∀ before entry after, entries = before ++ entry :: after →
    ∃ added, (imports.requestAll before).answer entry = .ok added

theorem exists_answer_iff :
    (∃ added, imports.answer entry = .ok added) ↔ imports.Adds entry (imports.request entry) := by
  constructor
  · rintro ⟨added, hanswer⟩
    rcases imports.request_cases entry with hadds | ⟨⟨conflict, hrefused⟩, -⟩
    · exact hadds
    · rw [hrefused] at hanswer
      exact absurd hanswer (by simp)
  · intro h
    exact ⟨_, answer_eq_ok_of_adds h⟩

theorem accepts_nil (imports : ImportSet) : imports.Accepts [] := by
  intro before entry after h
  exact absurd h.symm (by simp)

theorem accepts_cons_iff :
    imports.Accepts (entry :: entries) ↔
      imports.Adds entry (imports.request entry) ∧ (imports.request entry).Accepts entries := by
  rw [← exists_answer_iff]
  constructor
  · intro h
    refine ⟨h [] entry entries rfl, fun before other after heq => ?_⟩
    exact h (entry :: before) other after (congrArg _ heq)
  · rintro ⟨hfirst, hrest⟩ before other after heq
    cases before with
    | nil =>
      obtain ⟨rfl, -⟩ := List.cons.inj heq
      exact hfirst
    | cons head before =>
      obtain ⟨rfl, htail⟩ := List.cons.inj heq
      exact hrest before other after htail

/-- Accepted requests leave behind what was there and what they ask for. -/
theorem Accepts.mem_entries_iff (h : imports.Accepts entries) {other : Import} :
    other ∈ (imports.requestAll entries).entries ↔
      other ∈ imports.entries ∨ other ∈ entries ∧ other.path ≠ [] := by
  induction entries generalizing imports with
  | nil => simp [requestAll]
  | cons entry entries ih =>
    obtain ⟨hadds, hrest⟩ := accepts_cons_iff.1 h
    have hlater : other ∈ (imports.requestAll (entry :: entries)).entries ↔
        other ∈ (imports.request entry).entries ∨ other ∈ entries ∧ other.path ≠ [] := ih hrest
    rw [hlater, hadds.mem_entries_iff, List.mem_cons, or_and_right, or_assoc]

/-! ## Which requests are accepted -/

/-- A request is accepted where it does not rename an import. -/
theorem exists_adds (h : Import.Consistent (entry :: imports.entries)) :
    imports.Adds entry (imports.request entry) := by
  refine adds_of_find? fun hpath known hfound => ?_
  have hmem : known ∈ entry :: imports.entries :=
    List.mem_cons_of_mem _ (List.mem_of_find?_eq_some hfound)
  exact (h.eq_of_path_eq List.mem_cons_self hmem hpath (path_of_find? hfound).symm).symm

/-- Requests are all accepted where no path goes by two names, there and in the requests. -/
theorem accepts_iff_consistent (hgrouped : imports.Grouped) :
    imports.Accepts entries ↔ Import.Consistent (imports.entries ++ entries) := by
  constructor
  · intro h entry hentry other hother hne hpath
    have hfinal : ∀ request ∈ imports.entries ++ entries, request.path ≠ [] →
        request ∈ (imports.requestAll entries).entries := by
      intro request hmem hne
      rw [h.mem_entries_iff]
      exact (List.mem_append.1 hmem).imp_right fun hmem => ⟨hmem, hne⟩
    rw [(hgrouped.requestAll entries).eq_of_path_eq (hfinal entry hentry hne)
      (hfinal other hother (hpath ▸ hne)) hpath]
  · intro h
    induction entries generalizing imports with
    | nil => exact accepts_nil imports
    | cons entry entries ih =>
      have hadds : imports.Adds entry (imports.request entry) := by
        refine exists_adds (h.subset ?_)
        grind
      have hsub : (imports.request entry).entries ++ entries ⊆
          imports.entries ++ entry :: entries := by
        intro other hother
        rw [List.mem_append, hadds.mem_entries_iff] at hother
        grind
      exact accepts_cons_iff.2 ⟨hadds, ih (hgrouped.request entry) (h.subset hsub)⟩

/-! ## The order of requests and how often they are made -/

/-- The marks that are left are the same list where they are the same set. -/
theorem implicit_requestAll_eq (h : ∀ path ∈ imports.implicit,
    (path ∈ (imports.requestAll entries).implicit ↔
      path ∈ (imports.requestAll others).implicit)) :
    (imports.requestAll entries).implicit = (imports.requestAll others).implicit := by
  obtain ⟨keep, hkeep⟩ := exists_implicit_eq_filter imports entries
  obtain ⟨keep', hkeep'⟩ := exists_implicit_eq_filter imports others
  rw [hkeep, hkeep'] at h ⊢
  refine List.filter_congr fun path hmem => Bool.eq_iff_iff.2 ?_
  simpa [hmem] using h path hmem

/-- Every path that is marked is imported, but for the empty one. -/
def MarksImported (imports : ImportSet) : Prop :=
  ∀ path ∈ imports.implicit, path ≠ [] → imports.contains path = true

theorem marksImported_ofDefaults (defaults : List Text) : (ofDefaults defaults).MarksImported := by
  intro path hmark hpath
  have hdefault := implicit_requestAll_ofDefaults_subset defaults [] hmark
  exact contains_of_mem_defaults hpath hdefault []

/-- The same requests in any order and any number of times leave the same marks. -/
theorem MarksImported.implicit_requestAll_eq (h : imports.MarksImported)
    (hmem : ∀ entry, entry ∈ others ↔ entry ∈ entries) :
    (imports.requestAll others).implicit = (imports.requestAll entries).implicit := by
  refine ImportSet.implicit_requestAll_eq fun path hmark => ?_
  by_cases hpath : path = []
  · rw [hpath, nil_mem_implicit_requestAll, nil_mem_implicit_requestAll]
  · obtain ⟨known, hfound⟩ := Option.isSome_iff_exists.1 (h path hmark hpath)
    rw [mem_implicit_requestAll_of_find? hpath hfound,
      mem_implicit_requestAll_of_find? hpath hfound, hmem]

/-- The same requests in any order and any number of times are accepted, with one outcome. -/
theorem Accepts.requestAll_eq (h : imports.Accepts entries) (hgrouped : imports.Grouped)
    (hmarks : imports.MarksImported) (hmem : ∀ entry, entry ∈ others ↔ entry ∈ entries) :
    imports.Accepts others ∧ imports.requestAll others = imports.requestAll entries := by
  have hothers : imports.Accepts others := by
    rw [accepts_iff_consistent hgrouped] at h ⊢
    refine h.subset (List.append_subset.2 ⟨List.subset_append_left _ _, ?_⟩)
    exact fun entry hentry => List.mem_append_right _ ((hmem entry).1 hentry)
  obtain ⟨hruntime, hexternal⟩ := (hgrouped.requestAll others).eq_of_mem_iff
    (hgrouped.requestAll entries) fun entry => by
      change entry ∈ (imports.requestAll others).entries ↔
        entry ∈ (imports.requestAll entries).entries
      rw [hothers.mem_entries_iff, h.mem_entries_iff, hmem]
  exact ⟨hothers, ImportSet.ext hruntime hexternal (hmarks.implicit_requestAll_eq hmem)⟩

/--
Requests to the imports that a run begins with are all accepted exactly if no path goes by two names
in them, `strconv` going by none already. In that case the same requests in any order, each made any
number of times, are accepted as well and lead to the same set, marks included. Its entries are the
default and what the requests with a path ask for, each once.
-/
theorem requestAll_order_irrelevant (entries : List Import) :
    (initial.Accepts entries ↔ Import.Consistent (⟨"strconv", []⟩ :: entries)) ∧
    (initial.Accepts entries →
      (∀ others : List Import, (∀ entry, entry ∈ others ↔ entry ∈ entries) →
        initial.Accepts others ∧ initial.requestAll others = initial.requestAll entries) ∧
      (initial.requestAll entries).entries.Nodup ∧
      ∀ entry, entry ∈ (initial.requestAll entries).entries ↔
        entry = ⟨"strconv", []⟩ ∨ entry ∈ entries ∧ entry.path ≠ []) := by
  have hgrouped : initial.Grouped := grouped_requestAll defaultPaths []
  have hmarks : initial.MarksImported := marksImported_ofDefaults defaultPaths
  have hentries : initial.entries = [⟨"strconv", []⟩] := by decide
  refine ⟨?_, fun h => ⟨fun others hmem => h.requestAll_eq hgrouped hmarks hmem, ?_, ?_⟩⟩
  · rw [accepts_iff_consistent hgrouped, hentries]
    rfl
  · exact (hgrouped.requestAll entries).paths_nodup.of_map
  · intro entry
    rw [h.mem_entries_iff, hentries, List.mem_singleton]

/-- Requests with a repetition, one for the default and one without a path, in two orders. -/
theorem requestAll_order_irrelevant_mixed :
    let entries : List Import := [⟨"time", "t"⟩, ⟨"golang.org/x/text", []⟩, ⟨"strconv", []⟩,
      ⟨"time", "t"⟩, ⟨"", "x"⟩]
    let others : List Import := [⟨"", "x"⟩, ⟨"strconv", []⟩, ⟨"strconv", []⟩, ⟨"time", "t"⟩,
      ⟨"golang.org/x/text", []⟩]
    initial.Accepts entries ∧ (∀ entry, entry ∈ others ↔ entry ∈ entries) ∧
      initial.Accepts others ∧ initial.requestAll others = initial.requestAll entries ∧
      initial.requestAll entries =
        ⟨[⟨"strconv", []⟩, ⟨"time", "t"⟩], [⟨"golang.org/x/text", []⟩], []⟩ := by
  intro entries others
  have haccepts : initial.Accepts entries :=
    (requestAll_order_irrelevant entries).1.2 (by decide)
  have hmem : ∀ entry, entry ∈ others ↔ entry ∈ entries := by
    intro entry
    simp only [entries, others, List.mem_cons, List.not_mem_nil, or_false]
    tauto
  obtain ⟨hothers, heq⟩ := ((requestAll_order_irrelevant entries).2 haccepts).1 others hmem
  exact ⟨haccepts, hmem, hothers, heq, by decide⟩

end ImportSet

end WrapperGen
