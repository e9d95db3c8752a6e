import WrapperGen.Proofs.Imports

/-!
# Grouped imports

`Import.Grouped` says what an import block relies on: no path stands in it twice, every import is
in the group of its path, and both groups ascend. A set of imports is grouped whatever it begins
with and whatever it is asked for (`ImportSet.grouped_requestAll`). What a request does to the set
is told by its answer (`ImportSet.request_answers`).
-/

namespace WrapperGen

namespace Import

/-! ## Groups -/

/-- The paths are in strictly ascending order. -/
def Ascending (entries : List Import) : Prop := entries.Pairwise fun a b => a.path < b.path

/-- Two groups of imports as they stand in an import block. -/
structure Grouped (runtime external : List Import) : Prop where
  paths_nodup : ((runtime ++ external).map path).Nodup
  path_ne_nil : ∀ entry ∈ runtime ++ external, entry.path ≠ []
  mem_external_iff : ∀ entry ∈ runtime ++ external, entry ∈ external ↔ '.' ∈ entry.path
  runtime_ascending : Ascending runtime
  external_ascending : Ascending external

theorem isExternal_iff {entry : Import} : entry.isExternal = true ↔ '.' ∈ entry.path :=
  List.contains_iff_mem

theorem Ascending.sublist {entries others : List Import} (h : Ascending entries)
    (hsub : others.Sublist entries) : Ascending others :=
  List.Pairwise.sublist hsub h

theorem Ascending.paths_nodup {entries : List Import} (h : Ascending entries) :
    (entries.map path).Nodup :=
  List.pairwise_map.2 (h.imp fun hlt => ne_of_lt hlt)

/-- Groups are told apart by their paths, so only the order within each of them is left to say. -/
theorem grouped_iff {runtime external : List Import} :
    Grouped runtime external ↔
      (∀ entry ∈ runtime, entry.path ≠ [] ∧ '.' ∉ entry.path) ∧
        (∀ entry ∈ external, '.' ∈ entry.path) ∧ Ascending runtime ∧ Ascending external := by
  constructor
  · intro h
    refine ⟨fun entry hentry => ⟨?_, fun hdot => ?_⟩, fun entry hentry => ?_,
      h.runtime_ascending, h.external_ascending⟩
    · exact h.path_ne_nil entry (List.mem_append_left _ hentry)
    · have hexternal := (h.mem_external_iff entry (List.mem_append_left _ hentry)).2 hdot
      have hnodup := h.paths_nodup
      rw [List.map_append, List.nodup_append] at hnodup
      exact hnodup.2.2 _ (List.mem_map_of_mem hentry) _ (List.mem_map_of_mem hexternal) rfl
    · exact (h.mem_external_iff entry (List.mem_append_right _ hentry)).1 hentry
  · rintro ⟨hruntime, hexternal, hrasc, heasc⟩
    refine ⟨?_, fun entry hentry => ?_, fun entry hentry => ⟨hexternal entry, fun hdot => ?_⟩,
      hrasc, heasc⟩
    · rw [List.map_append, List.nodup_append]
      refine ⟨hrasc.paths_nodup, heasc.paths_nodup, ?_⟩
      rintro _ hr _ he rfl
      obtain ⟨entry, hentry, hpath⟩ := List.mem_map.1 hr
      obtain ⟨other, hother, hpath'⟩ := List.mem_map.1 he
      have hdot := hexternal other hother
      rw [hpath', ← hpath] at hdot
      exact (hruntime entry hentry).2 hdot
    · rcases List.mem_append.1 hentry with hentry | hentry
      · exact (hruntime entry hentry).1
      · exact List.ne_nil_of_mem (hexternal entry hentry)
    · rcases List.mem_append.1 hentry with hentry | hentry
      · exact absurd hdot (hruntime entry hentry).2
      · exact hentry

/-- Leaving imports out of the groups leaves them grouped. -/
theorem Grouped.sublist {runtime external runtime' external' : List Import}
    (h : Grouped runtime external) (hruntime : runtime'.Sublist runtime)
    (hexternal : external'.Sublist external) : Grouped runtime' external' := by
  obtain ⟨hr, he, hrasc, heasc⟩ := grouped_iff.1 h
  exact grouped_iff.2 ⟨fun entry hentry => hr entry (hruntime.subset hentry),
    fun entry hentry => he entry (hexternal.subset hentry), hrasc.sublist hruntime,
    heasc.sublist hexternal⟩

/-! ## Insertion into a group -/

/-- An insertion puts the entry in one place and leaves the others in order. -/
theorem exists_insertSorted (entry : Import) (entries : List Import) :
    ∃ before after, entries = before ++ after ∧
      entry.insertSorted entries = before ++ entry :: after := by
  induction entries with
  | nil => exact ⟨[], [], rfl, rfl⟩
  | cons head rest ih =>
    rw [insertSorted]
    by_cases hlt : entry.path < head.path
    · rw [if_pos hlt]
      exact ⟨[], head :: rest, rfl, rfl⟩
    · obtain ⟨before, after, hold, hnew⟩ := ih
      rw [if_neg hlt, hnew]
      exact ⟨head :: before, after, congrArg _ hold, rfl⟩

theorem mem_insertSorted {entry other : Import} {entries : List Import} :
    other ∈ entry.insertSorted entries ↔ other = entry ∨ other ∈ entries := by
  obtain ⟨before, after, hold, hnew⟩ := exists_insertSorted entry entries
  rw [hnew, hold, List.mem_append, List.mem_append, List.mem_cons]
  exact or_left_comm

/-- A path that is not there yet is inserted in its place. -/
theorem Ascending.insertSorted {entry : Import} {entries : List Import} (h : Ascending entries)
    (hnew : ∀ other ∈ entries, other.path ≠ entry.path) :
    Ascending (entry.insertSorted entries) := by
  induction entries with
  | nil => exact List.pairwise_singleton _ entry
  | cons head rest ih =>
    obtain ⟨hhead, hrest⟩ := List.pairwise_cons.1 h
    rw [Import.insertSorted]
    by_cases hlt : entry.path < head.path
    · rw [if_pos hlt]
      refine List.pairwise_cons.2 ⟨fun other hother => ?_, h⟩
      rcases List.mem_cons.1 hother with rfl | hother
      · exact hlt
      · exact lt_trans hlt (hhead other hother)
    · -- the comparison alone leaves `head.path = entry.path` open, which `hnew` excludes
      have hgt : head.path < entry.path :=
        lt_of_le_of_ne (not_lt.1 hlt) (hnew head List.mem_cons_self)
      rw [if_neg hlt]
      refine List.pairwise_cons.2 ⟨fun other hother => ?_,
        ih hrest fun other hother => hnew other (List.mem_cons_of_mem _ hother)⟩
      rcases mem_insertSorted.1 hother with rfl | hother
      · exact hgt
      · exact hhead other hother

/-- A new external import goes into the second group. -/
theorem Grouped.insert_external {runtime external : List Import} {entry : Import}
    (h : Grouped runtime external) (hdot : '.' ∈ entry.path)
    (hnew : ∀ other ∈ runtime ++ external, other.path ≠ entry.path) :
    Grouped runtime (entry.insertSorted external) := by
  obtain ⟨hr, he, hrasc, heasc⟩ := grouped_iff.1 h
  refine grouped_iff.2 ⟨hr, fun other hother => ?_, hrasc,
    heasc.insertSorted fun other hother => hnew other (List.mem_append_right _ hother)⟩
  rcases mem_insertSorted.1 hother with rfl | hother
  · exact hdot
  · exact he other hother

/-- A new import of the language's own library goes into the first group. -/
theorem Grouped.insert_runtime {runtime external : List Import} {entry : Import}
    (h : Grouped runtime external) (hpath : entry.path ≠ []) (hdot : '.' ∉ entry.path)
    (hnew : ∀ other ∈ runtime ++ external, other.path ≠ entry.path) :
    Grouped (entry.insertSorted runtime) external := by
  obtain ⟨hr, he, hrasc, heasc⟩ := grouped_iff.1 h
  refine grouped_iff.2 ⟨fun other hother => ?_, he,
    hrasc.insertSorted fun other hother => hnew other (List.mem_append_left _ hother), heasc⟩
  rcases mem_insertSorted.1 hother with rfl | hother
  · exact ⟨hpath, hdot⟩
  · exact hr other hother

end Import

namespace ImportSet

/-- The groups of the set stand as in an import block. -/
def Grouped (imports : ImportSet) : Prop := Import.Grouped imports.runtime imports.external

theorem find?_eq_none_iff {imports : ImportSet} {path : Text} :
    imports.find? path = none ↔ ∀ entry ∈ imports.entries, entry.path ≠ path := by
  simp [find?, List.find?_eq_none]

/-- A new entry stands in one place among the entries, which keep their order. -/
theorem exists_entries_insert (entry : Import) (imports : ImportSet) :
    ∃ before after, imports.entries = before ++ after ∧
      (imports.insert entry).entries = before ++ entry :: after := by
  unfold insert entries
  by_cases hexternal : entry.isExternal = true
  · obtain ⟨before, after, hold, hnew⟩ := entry.exists_insertSorted imports.external
    rw [if_pos hexternal]
    exact ⟨imports.runtime ++ before, after, by rw [hold, List.append_assoc],
      by rw [hnew, List.append_assoc]⟩
  · obtain ⟨before, after, hold, hnew⟩ := entry.exists_insertSorted imports.runtime
    rw [if_neg hexternal]
    exact ⟨before, after ++ imports.external, by rw [hold, List.append_assoc],
      by rw [hnew, List.append_assoc, List.cons_append]⟩

theorem implicit_insert (entry : Import) (imports : ImportSet) :
    (imports.insert entry).implicit = imports.implicit := by
  unfold insert
  split <;> rfl

/-- What is added stands among the entries afterwards, and nothing else is new. -/
theorem Adds.mem_entries_iff {imports next : ImportSet} {entry other : Import}
    (h : imports.Adds entry next) :
    other ∈ next.entries ↔ other ∈ imports.entries ∨ other = entry ∧ other.path ≠ [] := by
  cases h with
  | skipped hempty =>
    constructor
    · exact .inl
    · rintro (hmem | ⟨rfl, hpath⟩)
      · exact hmem
      · exact absurd hempty hpath
  | inserted hpath hnew =>
    obtain ⟨before, after, hold, hnew⟩ := exists_entries_insert entry imports
    rw [hold, hnew, List.mem_append, List.mem_append, List.mem_cons]
    constructor
    · rintro (hmem | rfl | hmem)
      · exact .inl (.inl hmem)
      · exact .inr ⟨rfl, hpath⟩
      · exact .inl (.inr hmem)
    · rintro ((hmem | hmem) | ⟨rfl, -⟩)
      · exact .inl hmem
      · exact .inr (.inr hmem)
      · exact .inr (.inl rfl)
  | asked hpath hknown =>
    have hmem : entry ∈ imports.entries := List.mem_of_find?_eq_some hknown
    constructor
    · exact .inl
    · rintro (hother | ⟨rfl, -⟩)
      · exact hother
      · exact hmem

/-- What is asked for with success leaves the set grouped. -/
theorem Adds.grouped {imports next : ImportSet} {entry : Import} (h : imports.Adds entry next)
    (hgrouped : imports.Grouped) : next.Grouped := by
  cases h with
  | skipped => exact hgrouped
  | asked => exact hgrouped
  | inserted hpath hnew =>
    have hfresh := find?_eq_none_iff.1 hnew
    unfold insert
    by_cases hexternal : entry.isExternal = true
    · rw [if_pos hexternal]
      exact hgrouped.insert_external (Import.isExternal_iff.1 hexternal) hfresh
    · rw [if_neg hexternal]
      exact hgrouped.insert_runtime hpath (fun hdot => hexternal (Import.isExternal_iff.2 hdot))
        hfresh

/-! ## Requests one after the other -/

/-- The set that a request leaves behind, whether or not it is refused. -/
def request (imports : ImportSet) (entry : Import) : ImportSet :=
  match imports.add entry.path entry.localName with
  | .ok next => next
  | .error _ => imports

/-- The set that requests leave behind. -/
def requestAll (imports : ImportSet) (entries : List Import) : ImportSet :=
  entries.foldl request imports

/-- What a request is answered: whether it has added an entry, or why it is refused. -/
def answer (imports : ImportSet) (entry : Import) : Except ImportConflict Bool :=
  (imports.add entry.path entry.localName).map fun _ =>
    (imports.newEntry? entry.path entry.localName).isSome

theorem requestAll_append (imports : ImportSet) (first second : List Import) :
    imports.requestAll (first ++ second) = (imports.requestAll first).requestAll second :=
  List.foldl_append

theorem request_eq_of_adds {imports next : ImportSet} {entry : Import}
    (h : imports.Adds entry next) : imports.request entry = next := by
  rw [request, add_eq_ok_iff.2 h]

/-- A request is accepted where the path is not there under another name. -/
theorem adds_of_find? {imports : ImportSet} {entry : Import}
    (h : entry.path ≠ [] → ∀ known, imports.find? entry.path = some known → known = entry) :
    imports.Adds entry (imports.request entry) := by
  by_cases hpath : entry.path = []
  · rw [request_eq_of_adds (.skipped hpath)]
    exact .skipped hpath
  · cases hfind : imports.find? entry.path with
    | none =>
      rw [request_eq_of_adds (.inserted hpath hfind)]
      exact .inserted hpath hfind
    | some known =>
      obtain rfl := h hpath known hfind
      rw [request_eq_of_adds (.asked hpath hfind)]
      exact .asked hpath hfind

/-- A request is accepted, or it leaves the set alone. -/
theorem request_cases (imports : ImportSet) (entry : Import) :
    imports.Adds entry (imports.request entry) ∨
      (∃ conflict, imports.answer entry = .error conflict) ∧ imports.request entry = imports := by
  cases hadd : imports.add entry.path entry.localName with
  | ok next =>
    left
    rw [request, hadd]
    exact add_eq_ok_iff.1 hadd
  | error conflict =>
    right
    rw [request, answer, hadd]
    exact ⟨⟨conflict, rfl⟩, rfl⟩

theorem answer_eq_ok_of_adds {imports next : ImportSet} {entry : Import}
    (h : imports.Adds entry next) :
    imports.answer entry = .ok (imports.newEntry? entry.path entry.localName).isSome := by
  rw [answer, add_eq_ok_iff.2 h]
  rfl

/-- What every request preserves holds of every set that requests lead to. -/
theorem requestAll_preserves {invariant : ImportSet → Prop}
    (hrequest : ∀ imports entry, invariant imports → invariant (request imports entry))
    {imports : ImportSet} (hinit : invariant imports) (entries : List Import) :
    invariant (imports.requestAll entries) := by
  induction entries generalizing imports with
  | nil => exact hinit
  | cons entry entries ih => exact ih (hrequest imports entry hinit)

theorem Grouped.request {imports : ImportSet} (h : imports.Grouped) (entry : Import) :
    (imports.request entry).Grouped := by
  rcases imports.request_cases entry with hadds | ⟨-, heq⟩
  · exact hadds.grouped h
  · rwa [heq]

theorem Grouped.requestAll {imports : ImportSet} (h : imports.Grouped) (entries : List Import) :
    (imports.requestAll entries).Grouped :=
  requestAll_preserves (fun _ entry hgrouped => hgrouped.request entry) h entries

/-- What is found under a path stays as it is. -/
theorem find?_request {imports : ImportSet} {path : Text} {known : Import}
    (h : imports.find? path = some known) (entry : Import) :
    (imports.request entry).find? path = some known := by
  rcases imports.request_cases entry with hadds | ⟨-, heq⟩
  · by_cases hpath : entry.path = path
    · subst hpath
      generalize imports.request entry = next at hadds ⊢
      cases hadds with
      | skipped => exact h
      | inserted _ hnew => exact absurd (hnew.symm.trans h) (by simp)
      | asked => rw [find?_ask, h]
    · rw [hadds.find?_of_ne hpath, h]
  · rw [heq, h]

theorem find?_requestAll {imports : ImportSet} {path : Text} {known : Import}
    (h : imports.find? path = some known) (entries : List Import) :
    (imports.requestAll entries).find? path = some known := by
  have hrequest : ∀ (reached : ImportSet) (entry : Import), reached.find? path = some known →
      (reached.request entry).find? path = some known := fun _ entry h => find?_request h entry
  exact requestAll_preserves hrequest h entries

/-- Requests that are all accepted are made one after the other. -/
theorem requestAll_eq_of_addAll {imports final : ImportSet} {entries : List Import}
    (h : imports.addAll entries = .ok final) : imports.requestAll entries = final := by
  induction entries generalizing imports with
  | nil => exact addAll_nil_eq_ok_iff.1 h
  | cons entry entries ih =>
    obtain ⟨next, hadds, hrest⟩ := addAll_cons_eq_ok_iff.1 h
    obtain rfl := request_eq_of_adds hadds
    exact ih hrest

/-- Where requests are all accepted, none gives an import another local name. -/
theorem eq_of_mem_of_addAll {imports final : ImportSet} {entries : List Import}
    {entry known : Import} (h : imports.addAll entries = .ok final) (hentry : entry ∈ entries)
    (hpath : entry.path ≠ []) (hfound : imports.find? entry.path = some known) :
    known = entry := by
  induction entries generalizing imports with
  | nil => exact absurd hentry List.not_mem_nil
  | cons first entries ih =>
    obtain ⟨next, hadds, hrest⟩ := addAll_cons_eq_ok_iff.1 h
    rcases List.mem_cons.1 hentry with rfl | hentry
    · exact hadds.eq_of_find? hpath hfound
    · obtain rfl := request_eq_of_adds hadds
      exact ih hrest hentry (find?_request hfound first)

/-! ## Defaults -/

/-- The set before its defaults are asked for. -/
def marked (defaults : List Text) : ImportSet := ⟨[], [], defaults⟩

theorem ofDefaults_eq_requestAll (defaults : List Text) :
    ofDefaults defaults = (marked defaults).requestAll (defaults.map (⟨·, []⟩)) := by
  rw [ofDefaults, requestAll, List.foldl_map]
  rfl

/-- No import of the set has a local name. -/
def Plain (imports : ImportSet) : Prop := ∀ entry ∈ imports.entries, entry.localName = []

/-- Asking without a local name is not refused where nothing has one. -/
theorem Plain.adds {imports : ImportSet} (h : imports.Plain) (path : Text) :
    imports.Adds ⟨path, []⟩ (imports.request ⟨path, []⟩) := by
  refine adds_of_find? fun _ known hfound => ?_
  have hname := h known (List.mem_of_find?_eq_some hfound)
  have hpath := path_of_find? hfound
  cases known
  simp_all

theorem Plain.request {imports : ImportSet} (h : imports.Plain) (path : Text) :
    (imports.request ⟨path, []⟩).Plain := by
  intro other hother
  rcases (h.adds path).mem_entries_iff.1 hother with hother | ⟨rfl, -⟩
  · exact h other hother
  · rfl

/-- Where nothing has a local name, any number of requests without one is accepted. -/
theorem Plain.addAll {imports : ImportSet} (h : imports.Plain) (paths : List Text) :
    imports.addAll (paths.map (⟨·, []⟩)) = .ok (imports.requestAll (paths.map (⟨·, []⟩))) := by
  induction paths generalizing imports with
  | nil => rfl
  | cons path paths ih =>
    rw [List.map_cons, addAll_cons_eq_ok_iff]
    exact ⟨_, h.adds path, ih (h.request path)⟩

/-- No default is refused. -/
theorem addAll_defaults (defaults : List Text) :
    (marked defaults).addAll (defaults.map (⟨·, []⟩)) = .ok (ofDefaults defaults) := by
  have hplain : (marked defaults).Plain := by simp [Plain, marked, entries]
  rw [hplain.addAll, ofDefaults_eq_requestAll]

/-! ## Whole runs -/

/-- A set is grouped whatever its defaults are and whatever it is asked for. -/
theorem grouped_requestAll (defaults : List Text) (entries : List Import) :
    ((ofDefaults defaults).requestAll entries).Grouped := by
  have hmarked : (marked defaults).Grouped :=
    Import.grouped_iff.2 ⟨by simp [marked], by simp [marked], .nil, .nil⟩
  -- the defaults are requests as well, made of a set without entries
  rw [ofDefaults_eq_requestAll, ← requestAll_append]
  exact hmarked.requestAll _

/-- What a request does to the set, by what it is answered. -/
structure Answers (imports : ImportSet) (entry : Import) : Prop where
  /-- A request that is refused changes nothing. -/
  refused : ∀ conflict, imports.answer entry = .error conflict → imports.request entry = imports
  /-- A request that adds no entry changes no entry. -/
  known : imports.answer entry = .ok false →
    (imports.request entry).runtime = imports.runtime ∧
      (imports.request entry).external = imports.external
  /-- A request that adds an entry keeps the other entries, their order, and all marks. -/
  inserted : imports.answer entry = .ok true →
    imports.find? entry.path = none ∧
      (∃ before after, imports.entries = before ++ after ∧
        (imports.request entry).entries = before ++ entry :: after) ∧
      (imports.request entry).implicit = imports.implicit

theorem request_answers (imports : ImportSet) (entry : Import) : imports.Answers entry := by
  rcases imports.request_cases entry with hadds | ⟨⟨conflict, hrefused⟩, heq⟩
  · have hanswer := answer_eq_ok_of_adds hadds
    unfold newEntry? at hanswer
    refine ⟨fun conflict hrefused => ?_, fun hfalse => ?_, fun htrue => ?_⟩
    · exact absurd (hanswer.symm.trans hrefused) (by simp)
    · rw [hanswer] at hfalse
      generalize imports.request entry = next at hadds ⊢
      cases hadds with
      | skipped => exact ⟨rfl, rfl⟩
      | asked => exact ⟨rfl, rfl⟩
      | inserted hpath hnew => simp [hpath, contains, hnew] at hfalse
    · rw [hanswer] at htrue
      generalize imports.request entry = next at hadds ⊢
      cases hadds with
      | skipped hpath => simp [hpath] at htrue
      | asked hpath hknown => simp [contains, hknown] at htrue
      | inserted hpath hnew =>
        exact ⟨hnew, exists_entries_insert entry imports, implicit_insert entry imports⟩
  · refine ⟨fun _ _ => heq, fun hfalse => ?_, fun htrue => ?_⟩
    · exact absurd (hrefused.symm.trans hfalse) (by simp)
    · exact absurd (hrefused.symm.trans htrue) (by simp)

-- the second request is refused, and the third asks for a default
example :
    let imports := initial.requestAll [⟨"fmt", []⟩, ⟨"fmt", "f"⟩, ⟨"strconv", []⟩]
    imports.entries = [⟨"fmt", []⟩, ⟨"strconv", []⟩] ∧ imports.answer ⟨"fmt", []⟩ = .ok false ∧
      imports.answer ⟨"os", []⟩ = .ok true ∧ ¬ (imports.answer ⟨"fmt", "f"⟩).isOk := by
  decide

end ImportSet

end WrapperGen
