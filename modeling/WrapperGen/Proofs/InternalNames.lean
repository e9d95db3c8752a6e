import Mathlib.Data.List.Dedup
import Mathlib.Data.List.Nodup
import Mathlib.Data.List.Perm.Subperm
import WrapperGen.InternalNames
import WrapperGen.Signature

/-!
# Fresh internal names

`freshName` probes `base`, `base0`, `base1`, … and stops at the first name that is not in use
(`freshName_cases`). A base name and the numbered names that are taken are different names in use
(`lt_length_dedup_of_numbered_mem`), so the search ends by itself, without any bound on it
(`allocates_iff`). The four internal names of a wrapper avoid the names in use, and each other by
their first letters (`InternalNames.avoiding_allocates`).
-/

namespace WrapperGen

theorem Text.decimal_injective {m n : Nat} (h : Text.decimal m = Text.decimal n) : m = n := by
  rw [Text.decimal, Text.decimal] at h
  rw [← Nat.ofDigitChars_ten_toDigits (n := m), h, Nat.ofDigitChars_ten_toDigits]

theorem Text.isDigit_of_mem_decimal {n : Nat} {c : Char} (h : c ∈ Text.decimal n) :
    c.isDigit = true :=
  Nat.isDigit_of_mem_toDigits (by decide) (by decide) h

theorem Text.not_mem_decimal {c : Char} (h : c.isDigit = false) (n : Nat) : c ∉ decimal n :=
  fun hmem => absurd (isDigit_of_mem_decimal hmem) (by simp [h])

/-- A base name and its numbered names are different names. -/
theorem nodup_cons_numbered (base : Text) (k : Nat) :
    (base :: (List.range k).map fun j => base ++ Text.decimal j).Nodup := by
  have hinj : Function.Injective fun j => base ++ Text.decimal j := by
    intro m n h
    exact Text.decimal_injective (List.append_cancel_left h)
  refine List.nodup_cons.2 ⟨fun hmem => ?_, List.nodup_range.map hinj⟩
  obtain ⟨j, -, heq⟩ := List.mem_map.1 hmem
  exact Nat.toDigits_ne_nil (List.append_right_eq_self.1 heq)

/-- Fewer numbered names are taken beside the base name than there are different names in use. -/
theorem lt_length_dedup_of_numbered_mem {base : Text} {used : List Text} {k : Nat}
    (hbase : base ∈ used) (htaken : ∀ j, j < k → base ++ Text.decimal j ∈ used) :
    k < used.dedup.length := by
  have hsub : (base :: (List.range k).map fun j => base ++ Text.decimal j) ⊆ used.dedup := by
    refine List.cons_subset.2 ⟨List.mem_dedup.2 hbase, fun name hname => ?_⟩
    obtain ⟨j, hj, rfl⟩ := List.mem_map.1 hname
    exact List.mem_dedup.2 (htaken j (List.mem_range.1 hj))
  have hlength := (List.subperm_of_subset (nodup_cons_numbered base k) hsub).length_le
  rw [List.length_cons, List.length_map, List.length_range] at hlength
  omega

/-- Of one more numbered names than there are names in use, one is not in use. -/
theorem exists_numbered_not_mem {base : Text} {used : List Text} (hbase : base ∈ used) :
    ∃ k, k < used.length + 1 ∧ base ++ Text.decimal k ∉ used := by
  by_contra hall
  have htaken : ∀ k, k < used.length + 1 → base ++ Text.decimal k ∈ used := by
    intro k hk
    by_contra hfree
    exact hall ⟨k, hk, hfree⟩
  have hlength := lt_length_dedup_of_numbered_mem hbase htaken
  have hdedup := (List.dedup_sublist used).length_le
  omega

/-- A fresh name is the base name, or the base name with the least number that makes it free. -/
theorem freshName_cases (base : Text) (used : List Text) :
    (base ∉ used ∧ freshName base used = base) ∨
      base ∈ used ∧ ∃ k, freshName base used = base ++ Text.decimal k ∧
        base ++ Text.decimal k ∉ used ∧ ∀ j, j < k → base ++ Text.decimal j ∈ used := by
  unfold freshName
  by_cases hbase : base ∈ used
  · right
    refine ⟨hbase, ?_⟩
    rw [if_pos (List.contains_iff_mem.2 hbase)]
    cases hfind : (List.range (used.length + 1)).find?
        fun k => !used.contains (base ++ Text.decimal k) with
    | none =>
      obtain ⟨k, hk, hfree⟩ := exists_numbered_not_mem hbase
      have htaken := List.find?_eq_none.1 hfind k (List.mem_range.2 hk)
      simp [hfree] at htaken
    | some k =>
      obtain ⟨hfree, -, hbefore⟩ := List.find?_range_eq_some.1 hfind
      refine ⟨k, rfl, by simpa using hfree, fun j hj => ?_⟩
      simpa using hbefore j hj
  · left
    refine ⟨hbase, ?_⟩
    rw [if_neg (by simpa using hbase)]

theorem freshName_not_mem (base : Text) (used : List Text) : freshName base used ∉ used := by
  rcases freshName_cases base used with ⟨hfree, heq⟩ | ⟨-, k, heq, hfree, -⟩
  · rwa [heq]
  · rwa [heq]

theorem prefix_freshName (base : Text) (used : List Text) : base <+: freshName base used := by
  rcases freshName_cases base used with ⟨-, heq⟩ | ⟨-, k, heq, -, -⟩
  · exact heq.symm ▸ List.prefix_rfl
  · exact heq.symm ▸ List.prefix_append base _

theorem head?_freshName {base : Text} (h : base ≠ []) (used : List Text) :
    (freshName base used).head? = base.head? := by
  obtain ⟨rest, hrest⟩ := prefix_freshName base used
  rw [← hrest, List.head?_append_of_ne_nil _ h]

/-- A fresh name is made of the characters of its base name and of digits. -/
theorem mem_freshName {base : Text} {used : List Text} {c : Char} (h : c ∈ freshName base used) :
    c ∈ base ∨ c.isDigit = true := by
  rcases freshName_cases base used with ⟨-, heq⟩ | ⟨-, k, heq, -, -⟩
  · rw [heq] at h
    exact .inl h
  · rw [heq, List.mem_append] at h
    exact h.imp_right Text.isDigit_of_mem_decimal

/-! ## The search -/

section Search

variable {base : Text} {used : List Text} {name : Text}

/--
Probing the numbered names from a number on, with no bound on how long: it ends at a name that is
free, and goes on to the next number at a name that is taken.
-/
inductive Probes (base : Text) (used : List Text) : Nat → Text → Prop
  | free {k : Nat} (hfree : base ++ Text.decimal k ∉ used) :
      Probes base used k (base ++ Text.decimal k)
  | taken {k : Nat} {name : Text} (htaken : base ++ Text.decimal k ∈ used)
      (hnext : Probes base used (k + 1) name) : Probes base used k name

/-- The search for a name: the base name if it is free, else what probing from 0 on ends at. -/
inductive Allocates (base : Text) (used : List Text) : Text → Prop
  | own (hfree : base ∉ used) : Allocates base used base
  | probed {name : Text} (htaken : base ∈ used) (hprobes : Probes base used 0 name) :
      Allocates base used name

/-- Probing ends at one name at most. -/
theorem Probes.unique {k : Nat} {other : Text} (h : Probes base used k name)
    (hother : Probes base used k other) : name = other := by
  induction h with
  | free hfree =>
    cases hother with
    | free => rfl
    | taken htaken => exact absurd htaken hfree
  | taken htaken _ ih =>
    cases hother with
    | free hfree => exact absurd htaken hfree
    | taken _ hnext => exact ih hnext

/-- Probing passes over names that are taken. -/
theorem Probes.of_taken {start count : Nat} (h : Probes base used (start + count) name)
    (htaken : ∀ j, start ≤ j → j < start + count → base ++ Text.decimal j ∈ used) :
    Probes base used start name := by
  induction count generalizing start with
  | zero => exact h
  | succ count ih =>
    refine .taken (htaken start (Nat.le_refl _) (by omega)) (ih ?_ fun j hj hlt => ?_)
    · rwa [Nat.add_assoc, Nat.add_comm 1 count]
    · exact htaken j (by omega) (by omega)

/-- The search ends, and it ends at the fresh name. -/
theorem allocates_iff : Allocates base used name ↔ name = freshName base used := by
  rcases freshName_cases base used with ⟨hfree, heq⟩ | ⟨htaken, k, heq, hfree, hbefore⟩
  · rw [heq]
    constructor
    · intro h
      cases h with
      | own => rfl
      | probed htaken => exact absurd htaken hfree
    · rintro rfl
      exact .own hfree
  · have hlast : Probes base used (0 + k) (base ++ Text.decimal k) := by
      rw [Nat.zero_add]
      exact .free hfree
    have hprobes : Probes base used 0 (base ++ Text.decimal k) :=
      hlast.of_taken fun j _ hj => hbefore j (by omega)
    rw [heq]
    constructor
    · intro h
      cases h with
      | own hbase => exact absurd htaken hbase
      | probed _ h => exact h.unique hprobes
    · rintro rfl
      exact .probed htaken hprobes

end Search

/--
The name that a base name gets beside the names in use: itself, or itself with the least number that
makes it free. That number is less than the number of different names in use.
-/
inductive LeastFree (base : Text) (used : List Text) : Text → Prop
  | own (hfree : base ∉ used) : LeastFree base used base
  | numbered {k : Nat} (htaken : base ∈ used) (hfree : base ++ Text.decimal k ∉ used)
      (hleast : ∀ j, base ++ Text.decimal j ∉ used → k ≤ j) (hbound : k < used.dedup.length) :
      LeastFree base used (base ++ Text.decimal k)

theorem leastFree_freshName (base : Text) (used : List Text) :
    LeastFree base used (freshName base used) := by
  rcases freshName_cases base used with ⟨hfree, heq⟩ | ⟨htaken, k, heq, hfree, hbefore⟩
  · rw [heq]
    exact .own hfree
  · rw [heq]
    refine .numbered htaken hfree (fun j hj => ?_) (lt_length_dedup_of_numbered_mem htaken hbefore)
    by_contra hlt
    exact hj (hbefore j (by omega))

namespace InternalNames

/-- What the four names are made from. -/
def bases : List Text := ["fn", "args", "ret", "err"]

/-- The four names. -/
def toList (names : InternalNames) : List Text :=
  [names.callee, names.args, names.result, names.error]

/-- The internal names are made of the characters of their base names and of digits. -/
theorem mem_of_mem_avoiding {used : List Text} {name : Text} {c : Char}
    (h : name ∈ (avoiding used).toList) (hc : c ∈ name) :
    c ∈ (["fn", "args", "ret", "err"] : List Text).flatten ∨ c.isDigit = true := by
  simp only [toList, avoiding, List.mem_cons, List.not_mem_nil, or_false] at h
  rcases h with rfl | rfl | rfl | rfl
  all_goals
    exact (mem_freshName hc).imp_left fun hbase => List.mem_flatten.2 ⟨_, by simp, hbase⟩

theorem not_mem_avoiding {used : List Text} {name : Text} {c : Char} (hdigit : c.isDigit = false)
    (hbase : c ∉ (["fn", "args", "ret", "err"] : List Text).flatten)
    (h : name ∈ (avoiding used).toList) : c ∉ name := by
  intro hmem
  rcases mem_of_mem_avoiding h hmem with hmade | hmade
  · exact hbase hmade
  · exact absurd hmade (by simp [hdigit])

/-- No internal name is in use. -/
theorem avoiding_not_mem {used : List Text} {name : Text} (h : name ∈ (avoiding used).toList) :
    name ∉ used := by
  simp only [toList, avoiding, List.mem_cons, List.not_mem_nil, or_false] at h
  rcases h with rfl | rfl | rfl | rfl
  all_goals exact freshName_not_mem _ used

/-- The internal names begin as their base names do. -/
theorem map_head?_avoiding (used : List Text) :
    (avoiding used).toList.map List.head? = [some 'f', some 'a', some 'r', some 'e'] := by
  simp only [toList, avoiding, List.map_cons, List.map_nil]
  rw [head?_freshName (by decide), head?_freshName (by decide), head?_freshName (by decide),
    head?_freshName (by decide)]
  rfl

/-- The internal names differ: they begin with the letters `f`, `a`, `r` and `e`. -/
theorem avoiding_nodup (used : List Text) : (avoiding used).toList.Nodup := by
  refine List.Nodup.of_map List.head? ?_
  rw [map_head?_avoiding]
  decide

theorem forall₂_bases_avoiding {relation : Text → Text → Prop} {used : List Text}
    (h : ∀ base, relation base (freshName base used)) :
    List.Forall₂ relation bases (avoiding used).toList :=
  .cons (h _) (.cons (h _) (.cons (h _) (.cons (h _) .nil)))

/--
The four searches for internal names beside the parameters of any function end. Each ends at the
least free name of its base, and the four names differ from each other and from every parameter.
-/
theorem avoiding_allocates (signature : Signature) :
    let used := signature.paramNames
    let names := (avoiding used).toList
    List.Forall₂ (fun base name => ∀ found, Allocates base used found ↔ found = name)
        bases names ∧
      List.Forall₂ (fun base name => LeastFree base used name) bases names ∧
      names.Nodup ∧ ∀ name ∈ names, name ∉ used := by
  intro used names
  exact ⟨forall₂_bases_avoiding fun _ _ => allocates_iff,
    forall₂_bases_avoiding fun base => leastFree_freshName base used,
    avoiding_nodup used, fun _ => avoiding_not_mem⟩

-- the same name twice counts once, and a gap in the numbers is used
example :
    avoiding ["err", "fn", "err0", "fn0", "err", "fn2"] = ⟨"fn1", "args", "ret", "err1"⟩ := by
  decide

end InternalNames

end WrapperGen
