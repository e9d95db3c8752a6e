import Mathlib.Data.List.Basic
import WrapperGen.Text

/-!
# Cutting at a separator

`Text.cut?` splits a text around the first occurrence of a separator. For a separator of one
character the two parts are determined by the text alone: the separator does not occur in the
first of them (`cut?_singleton_eq_some_iff`). For any separator a cut exists exactly if the
separator stands somewhere in the text (`occurs_eq_true_iff`).
-/

namespace WrapperGen.Text

/-- The parts of a cut stand around the separator. -/
theorem eq_append_of_cut? {sep text before after : Text}
    (h : cut? sep text = some (before, after)) : text = before ++ sep ++ after := by
  induction text generalizing before with
  | nil =>
    rw [cut?] at h
    split at h
    · next hsep =>
      obtain ⟨rfl, rfl⟩ : [] = before ∧ [] = after := by simpa using h
      simp [List.isEmpty_iff.1 hsep]
    · simp at h
  | cons c rest ih =>
    rw [cut?] at h
    split at h
    · next front hfront =>
      obtain ⟨rfl, rfl⟩ : [] = before ∧ front = after := by simpa using h
      simpa using (List.isPrefixOf?_eq_some_iff_append_eq.1 hfront).symm
    · obtain ⟨⟨inner, tail⟩, hrest, heq⟩ := Option.map_eq_some_iff.1 h
      obtain ⟨rfl, rfl⟩ : c :: inner = before ∧ tail = after := by simpa using heq
      simp [ih hrest]

/-- Wherever the separator stands, there is a cut. -/
theorem isSome_cut?_append (sep before after : Text) :
    (cut? sep (before ++ sep ++ after)).isSome = true := by
  induction before with
  | nil =>
    rw [List.nil_append]
    cases htext : sep ++ after with
    | nil => simp [cut?, (List.append_eq_nil_iff.1 htext).1]
    | cons c rest =>
      have hfront : sep.isPrefixOf? (c :: rest) = some after :=
        List.isPrefixOf?_eq_some_iff_append_eq.2 htext
      rw [cut?, hfront]
      rfl
  | cons c before ih =>
    rw [List.cons_append, List.cons_append, cut?]
    split
    · rfl
    · simpa using ih

/-- A part occurs in a text if it stands there in one piece. -/
theorem occurs_eq_true_iff {part text : Text} : occurs part text = true ↔ part <:+: text := by
  rw [occurs, Option.isSome_iff_exists]
  constructor
  · rintro ⟨⟨before, after⟩, h⟩
    exact ⟨before, after, (eq_append_of_cut? h).symm⟩
  · rintro ⟨before, after, rfl⟩
    exact Option.isSome_iff_exists.1 (isSome_cut?_append part before after)

theorem occurs_eq_false_iff {part text : Text} : occurs part text = false ↔ ¬ part <:+: text := by
  rw [← occurs_eq_true_iff, Bool.not_eq_true]

/-! ## Separators of one character -/

theorem cut?_singleton_cons_self (sep : Char) (rest : Text) :
    cut? [sep] (sep :: rest) = some ([], rest) := by
  simp [cut?, List.isPrefixOf?]

theorem cut?_singleton_cons_of_ne {sep c : Char} (h : sep ≠ c) (rest : Text) :
    cut? [sep] (c :: rest) =
      (cut? [sep] rest).map fun (before, after) => (c :: before, after) := by
  simp [cut?, List.isPrefixOf?, h]

/-- A cut at a character is the one place where the character stands for the first time. -/
theorem cut?_singleton_eq_some_iff {sep : Char} {text before after : Text} :
    cut? [sep] text = some (before, after) ↔ text = before ++ sep :: after ∧ sep ∉ before := by
  constructor
  · intro h
    refine ⟨by simpa using eq_append_of_cut? h, ?_⟩
    induction text generalizing before with
    | nil => simp [cut?] at h
    | cons c rest ih =>
      by_cases hc : sep = c
      · subst hc
        rw [cut?_singleton_cons_self] at h
        obtain ⟨rfl, -⟩ : [] = before ∧ rest = after := by simpa using h
        simp
      · rw [cut?_singleton_cons_of_ne hc] at h
        obtain ⟨⟨inner, tail⟩, hrest, heq⟩ := Option.map_eq_some_iff.1 h
        obtain ⟨rfl, rfl⟩ : c :: inner = before ∧ tail = after := by simpa using heq
        simp [hc, ih hrest]
  · rintro ⟨rfl, hmem⟩
    induction before with
    | nil => exact cut?_singleton_cons_self sep after
    | cons c before ih =>
      rw [List.mem_cons, not_or] at hmem
      rw [List.cons_append, cut?_singleton_cons_of_ne hmem.1, ih hmem.2]
      rfl

/-- There is no cut at a character that the text does not hold. -/
theorem cut?_singleton_eq_none_iff {sep : Char} {text : Text} :
    cut? [sep] text = none ↔ sep ∉ text := by
  rw [← Option.not_isSome_iff_eq_none]
  refine not_congr ?_
  rw [← occurs, occurs_eq_true_iff]
  constructor
  · rintro ⟨before, after, rfl⟩
    simp
  · intro h
    obtain ⟨before, after, rfl⟩ := List.append_of_mem h
    exact ⟨before, after, by simp⟩

end WrapperGen.Text
