import Mathlib.Data.Char
import Mathlib.Data.List.Lex
import WrapperGen.Imports
import WrapperGen.Proofs.Outcome

/-!
# Imports

`ImportSet.Adds` lists everything that asking for a package can do to a set of imports. Two requests
that succeed one after the other succeed in the opposite order as well, with the same outcome
(`Adds.swap`), so the order of requests does not matter at all (`addAll_perm`).
-/

namespace WrapperGen

/-! ## Sorted insertion -/

namespace Import

/-- Insertions at different paths commute, whether or not the list is sorted. -/
theorem insertSorted_comm_of_lt {a b : Import} (h : a.path < b.path) (entries : List Import) :
    a.insertSorted (b.insertSorted entries) = b.insertSorted (a.insertSorted entries) := by
  have hba : ¬ b.path < a.path := List.lt_asymm h
  induction entries with
  | nil => simp only [insertSorted, h, hba, if_true, if_false]
  | cons head rest ih =>
    by_cases hb : b.path < head.path
    · -- both go in front of `head`, the lesser one first
      have ha : a.path < head.path := List.lt_trans h hb
      simp only [insertSorted, h, hba, ha, hb, if_true, if_false]
    · by_cases ha : a.path < head.path
      · simp only [insertSorted, hba, ha, hb, if_true, if_false]
      · simp only [insertSorted, ha, hb, if_false, ih]

theorem insertSorted_comm {a b : Import} (h : a.path ≠ b.path) (entries : List Import) :
    a.insertSorted (b.insertSorted entries) = b.insertSorted (a.insertSorted entries) := by
  rcases lt_or_gt_of_ne h with hlt | hgt
  · exact insertSorted_comm_of_lt hlt entries
  · exact (insertSorted_comm_of_lt hgt entries).symm

/-- An insertion is not seen by a search that the inserted entry does not answer. -/
theorem find?_insertSorted_of_neg {answers : Import → Bool} {entry : Import}
    (h : answers entry = false) (entries : List Import) :
    (entry.insertSorted entries).find? answers = entries.find? answers := by
  induction entries with
  | nil => simp [insertSorted, h]
  | cons head rest ih =>
    rw [insertSorted]
    by_cases hlt : entry.path < head.path
    · rw [if_pos hlt, List.find?_cons_of_neg (by simp [h])]
    · rw [if_neg hlt, List.find?_cons, List.find?_cons, ih]

/-- An insertion is found by a search that nothing else answers. -/
theorem find?_insertSorted_of_pos {answers : Import → Bool} {entry : Import}
    (h : answers entry = true) {entries : List Import} (hnone : entries.find? answers = none) :
    (entry.insertSorted entries).find? answers = some entry := by
  induction entries with
  | nil => simp [insertSorted, h]
  | cons head rest ih =>
    have hhead : answers head = false := by simpa using List.find?_eq_none.1 hnone head (by simp)
    rw [List.find?_cons_of_neg (by simp [hhead])] at hnone
    rw [insertSorted]
    by_cases hlt : entry.path < head.path
    · rw [if_pos hlt, List.find?_cons_of_pos h]
    · rw [if_neg hlt, List.find?_cons_of_neg (by simp [hhead]), ih hnone]

end Import

/-! ## Asking for one package -/

namespace ImportSet

/-- The entry of a path has that path. -/
theorem path_of_find? {imports : ImportSet} {path : Text} {entry : Import}
    (h : imports.find? path = some entry) : entry.path = path := by
  simpa using List.find?_some h

theorem find?_ask (imports : ImportSet) (path other : Text) :
    (imports.ask path).find? other = imports.find? other := rfl

theorem find?_insert_of_ne {entry : Import} {path : Text} (h : entry.path ≠ path)
    (imports : ImportSet) : (imports.insert entry).find? path = imports.find? path := by
  have hanswer : (entry.path == path) = false := by simpa using h
  unfold insert find? entries
  by_cases hexternal : entry.isExternal = true
  · rw [if_pos hexternal, List.find?_append, List.find?_append,
      Import.find?_insertSorted_of_neg hanswer]
  · rw [if_neg hexternal, List.find?_append, List.find?_append,
      Import.find?_insertSorted_of_neg hanswer]

theorem find?_insert_self {imports : ImportSet} {entry : Import}
    (h : imports.find? entry.path = none) :
    (imports.insert entry).find? entry.path = some entry := by
  have hanswer : (entry.path == entry.path) = true := beq_self_eq_true _
  rw [find?, entries, List.find?_append, Option.or_eq_none_iff] at h
  obtain ⟨hruntime, hexternal⟩ := h
  unfold insert find? entries
  by_cases hgroup : entry.isExternal = true
  · rw [if_pos hgroup, List.find?_append, hruntime,
      Import.find?_insertSorted_of_pos hanswer hexternal, Option.none_or]
  · rw [if_neg hgroup, List.find?_append, Import.find?_insertSorted_of_pos hanswer hruntime,
      Option.some_or]

theorem insert_comm {a b : Import} (h : a.path ≠ b.path) (imports : ImportSet) :
    (imports.insert b).insert a = (imports.insert a).insert b := by
  unfold insert
  by_cases ha : a.isExternal = true <;> by_cases hb : b.isExternal = true
  · simp only [ha, hb, if_true, Import.insertSorted_comm h]
  · simp only [ha, hb, if_true, if_false, Bool.false_eq_true]
  · simp only [ha, hb, if_true, if_false, Bool.false_eq_true]
  · simp only [ha, hb, if_false, Bool.false_eq_true, Import.insertSorted_comm h]

theorem insert_ask (entry : Import) (path : Text) (imports : ImportSet) :
    (imports.ask path).insert entry = (imports.insert entry).ask path := by
  unfold insert
  by_cases hexternal : entry.isExternal = true
  · rw [if_pos hexternal, if_pos hexternal]
    rfl
  · rw [if_neg hexternal, if_neg hexternal]
    rfl

theorem ask_comm (path other : Text) (imports : ImportSet) :
    (imports.ask path).ask other = (imports.ask other).ask path := by
  simp only [ask, List.filter_filter, Bool.and_comm]

/-- What asking for an import does to a set, unless it is refused. -/
inductive Adds (imports : ImportSet) (entry : Import) : ImportSet → Prop
  /-- An empty path asks for nothing. -/
  | skipped (hpath : entry.path = []) : Adds imports entry imports
  | inserted (hpath : entry.path ≠ []) (hnew : imports.find? entry.path = none) :
      Adds imports entry (imports.insert entry)
  | asked (hpath : entry.path ≠ []) (hknown : imports.find? entry.path = some entry) :
      Adds imports entry (imports.ask entry.path)

theorem add_eq_ok_iff {imports next : ImportSet} {entry : Import} :
    imports.add entry.path entry.localName = .ok next ↔ imports.Adds entry next := by
  unfold add
  constructor
  · intro h
    by_cases hpath : entry.path = []
    · simp only [hpath, List.isEmpty_nil, if_true] at h
      obtain rfl := Except.ok.inj h
      exact .skipped hpath
    · rw [if_neg (by simpa using hpath)] at h
      cases hfind : imports.find? entry.path with
      | none =>
        rw [hfind] at h
        obtain rfl := Except.ok.inj h
        exact .inserted hpath hfind
      | some known =>
        rw [hfind] at h
        by_cases hname : known.localName = entry.localName
        · simp only [hname, if_true] at h
          obtain rfl := Except.ok.inj h
          have hknown : known.path = entry.path := path_of_find? hfind
          have heq : known = entry := by
            cases known
            cases entry
            simp_all
          exact .asked hpath (heq ▸ hfind)
        · simp [hname] at h
  · intro h
    cases h with
    | skipped hpath => simp [hpath]
    | inserted hpath hnew => simp [hpath, hnew]
    | asked hpath hknown => simp [hpath, hknown]

/-! ## The order of requests -/

namespace Adds

variable {imports middle final : ImportSet} {a b : Import}

/-- What has been asked for is found afterwards. -/
theorem find?_self (h : imports.Adds a middle) (hpath : a.path ≠ []) :
    middle.find? a.path = some a := by
  cases h with
  | skipped hempty => exact absurd hempty hpath
  | inserted _ hnew => exact find?_insert_self hnew
  | asked _ hknown => rw [find?_ask, hknown]

/-- Other packages are found as before. -/
theorem find?_of_ne (h : imports.Adds a middle) {path : Text} (hne : a.path ≠ path) :
    middle.find? path = imports.find? path := by
  cases h with
  | skipped => rfl
  | inserted => exact find?_insert_of_ne hne imports
  | asked => exact find?_ask imports a.path path

theorem eq_of_path_eq_nil (h : imports.Adds a middle) (hpath : a.path = []) : middle = imports := by
  cases h with
  | skipped => rfl
  | inserted hne => exact absurd hpath hne
  | asked hne => exact absurd hpath hne

/-- A path that is there already is only asked for under the name that it has. -/
theorem eq_of_find? (h : imports.Adds a middle) (hpath : a.path ≠ []) {known : Import}
    (hfound : imports.find? a.path = some known) : known = a := by
  cases h with
  | skipped hempty => exact absurd hempty hpath
  | inserted _ hnew =>
    rw [hnew] at hfound
    exact absurd hfound (by simp)
  | asked _ hknown =>
    rw [hknown] at hfound
    exact (Option.some.inj hfound).symm

/-- Requests for different packages do not see each other. -/
theorem swap_of_ne (hpath : a.path ≠ b.path) (ha : imports.Adds a middle)
    (hb : middle.Adds b final) : ∃ other, imports.Adds b other ∧ other.Adds a final := by
  have hfind : middle.find? b.path = imports.find? b.path := ha.find?_of_ne hpath
  cases ha with
  | skipped hpa => exact ⟨final, hb, .skipped hpa⟩
  | inserted hpa hnewa =>
    have hinsert : (imports.insert b).find? a.path = none := by
      rw [find?_insert_of_ne (Ne.symm hpath), hnewa]
    have hask : (imports.ask b.path).find? a.path = none := by rw [find?_ask, hnewa]
    cases hb with
    | skipped hpb => exact ⟨imports, .skipped hpb, .inserted hpa hnewa⟩
    | inserted hpb hnewb =>
      refine ⟨imports.insert b, .inserted hpb (hfind ▸ hnewb), ?_⟩
      rw [← insert_comm hpath]
      exact .inserted hpa hinsert
    | asked hpb hknownb =>
      refine ⟨imports.ask b.path, .asked hpb (hfind ▸ hknownb), ?_⟩
      rw [← insert_ask]
      exact .inserted hpa hask
  | asked hpa hknowna =>
    have hinsert : (imports.insert b).find? a.path = some a := by
      rw [find?_insert_of_ne (Ne.symm hpath), hknowna]
    have hask : (imports.ask b.path).find? a.path = some a := by rw [find?_ask, hknowna]
    cases hb with
    | skipped hpb => exact ⟨imports, .skipped hpb, .asked hpa hknowna⟩
    | inserted hpb hnewb =>
      refine ⟨imports.insert b, .inserted hpb hnewb, ?_⟩
      rw [insert_ask]
      exact .asked hpa hinsert
    | asked hpb hknownb =>
      refine ⟨imports.ask b.path, .asked hpb hknownb, ?_⟩
      rw [ask_comm]
      exact .asked hpa hask

/-- Two requests that succeed one after the other succeed in the opposite order as well. -/
theorem swap (ha : imports.Adds a middle) (hb : middle.Adds b final) :
    ∃ other, imports.Adds b other ∧ other.Adds a final := by
  by_cases hpath : a.path = b.path
  · by_cases hempty : a.path = []
    · obtain rfl := ha.eq_of_path_eq_nil hempty
      obtain rfl := hb.eq_of_path_eq_nil (hpath ▸ hempty)
      exact ⟨final, .skipped (hpath ▸ hempty), .skipped hempty⟩
    · -- a path has one name only, so both requests are the same
      have hfound : middle.find? b.path = some a := hpath ▸ ha.find?_self hempty
      obtain rfl := hb.eq_of_find? (hpath ▸ hempty) hfound
      exact ⟨middle, ha, hb⟩
  · exact ha.swap_of_ne hpath hb

end Adds

/-- The set after packages are asked for one after the other. -/
def addAll (imports : ImportSet) (entries : List Import) : Except ImportConflict ImportSet :=
  entries.foldlM (fun current entry => current.add entry.path entry.localName) imports

theorem addAll_nil_eq_ok_iff {imports final : ImportSet} :
    imports.addAll [] = .ok final ↔ imports = final :=
  pure_eq_ok_iff

theorem addAll_cons_eq_ok_iff {imports final : ImportSet} {entry : Import}
    {entries : List Import} :
    imports.addAll (entry :: entries) = .ok final ↔
      ∃ next, imports.Adds entry next ∧ next.addAll entries = .ok final := by
  rw [addAll, List.foldlM_cons, bind_eq_ok_iff]
  simp only [add_eq_ok_iff]
  rfl

theorem addAll_singleton_eq_ok_iff {imports final : ImportSet} {entry : Import} :
    imports.addAll [entry] = .ok final ↔ imports.Adds entry final := by
  rw [addAll_cons_eq_ok_iff]
  simp only [addAll_nil_eq_ok_iff, exists_eq_right]

theorem addAll_append_eq_ok_iff {imports final : ImportSet} {first second : List Import} :
    imports.addAll (first ++ second) = .ok final ↔
      ∃ middle, imports.addAll first = .ok middle ∧ middle.addAll second = .ok final := by
  rw [addAll, List.foldlM_append, bind_eq_ok_iff]
  rfl

/-- Requests in any order have the same outcome. -/
theorem addAll_perm {imports final : ImportSet} {first second : List Import}
    (hperm : first.Perm second) (h : imports.addAll first = .ok final) :
    imports.addAll second = .ok final := by
  -- a permutation is made of swaps of neighbours, and only those need an argument
  induction hperm generalizing imports final with
  | nil => exact h
  | cons entry _ ih =>
    obtain ⟨next, hadd, hrest⟩ := addAll_cons_eq_ok_iff.1 h
    exact addAll_cons_eq_ok_iff.2 ⟨next, hadd, ih hrest⟩
  | swap a b rest =>
    obtain ⟨middle, hb, h⟩ := addAll_cons_eq_ok_iff.1 h
    obtain ⟨next, ha, hrest⟩ := addAll_cons_eq_ok_iff.1 h
    obtain ⟨other, ha, hb⟩ := hb.swap ha
    exact addAll_cons_eq_ok_iff.2 ⟨other, ha, addAll_cons_eq_ok_iff.2 ⟨next, hb, hrest⟩⟩
  | trans _ _ ihfirst ihsecond => exact ihsecond (ihfirst h)

end ImportSet

end WrapperGen
