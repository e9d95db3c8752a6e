import Mathlib.Data.List.Infix
import WrapperGen.Proofs.Text.Cut

/-!
# Where a part of a text occurs

A part that lacks a character does not occur across it (`infix_append_cons_iff`), so it occurs in
pieces around a separator exactly if it occurs in one of them (`infix_append_separator_iff`), as
long as the separator keeps the part out (`separates`).
-/

namespace WrapperGen.Text

variable {part text before after sep : Text} {c : Char}

/-! ## Characters that a part lacks -/

theorem prefix_append_cons_iff (hc : c ∉ part) :
    part <+: before ++ c :: after ↔ part <+: before := by
  refine ⟨fun h => ?_, fun h => h.trans (List.prefix_append _ _)⟩
  rcases List.prefix_or_prefix_of_prefix h (List.prefix_append before (c :: after)) with
    hpart | ⟨rest, rfl⟩
  · exact hpart
  · cases rest with
    | nil => rw [List.append_nil]
    | cons d rest =>
      obtain ⟨rfl, -⟩ := List.cons_prefix_cons.1 ((List.prefix_append_right_inj before).1 h)
      exact absurd (List.mem_append_right before List.mem_cons_self) hc

/-- A part without a character occurs on one side of the character, or it does not occur. -/
theorem infix_append_cons_iff (hc : c ∉ part) :
    part <:+: before ++ c :: after ↔ part <:+: before ∨ part <:+: after := by
  induction before with
  | nil =>
    have hfront : part <+: [] ++ c :: after ↔ part <+: [] := prefix_append_cons_iff hc
    rw [List.nil_append, List.infix_cons_iff, List.infix_nil, ← List.prefix_nil]
    exact or_congr_left hfront
  | cons d before ih =>
    rw [List.cons_append, List.infix_cons_iff, List.infix_cons_iff, ih, or_assoc,
      ← List.cons_append, prefix_append_cons_iff hc]

/-- A part does not begin in a text without its first character. -/
theorem infix_append_iff_of_not_mem (hc : c ∉ before) :
    c :: part <:+: before ++ after ↔ c :: part <:+: after := by
  induction before with
  | nil => rfl
  | cons d before ih =>
    rw [List.mem_cons, not_or] at hc
    rw [List.cons_append, List.infix_cons_iff, ih hc.2, List.cons_prefix_cons]
    simp [hc.1]

/-- A part does not end in a text without its last character. -/
theorem infix_append_iff_of_last_not_mem (hc : c ∉ after) :
    part ++ [c] <:+: before ++ after ↔ part ++ [c] <:+: before := by
  have hreverse : ∀ text : Text, part ++ [c] <:+: text ↔ c :: part.reverse <:+: text.reverse := by
    intro text
    rw [← List.reverse_infix, List.reverse_append]
    rfl
  rw [hreverse, hreverse, List.reverse_append]
  exact infix_append_iff_of_not_mem (by simpa using hc)

/-! ## Separators -/

/-- Whether no occurrence of the part reaches into the separator. -/
def separates (part sep : Text) : Bool :=
  sep.head?.any (!part.contains ·) && sep.getLast?.any (!part.contains ·) && !occurs part sep

/-- What occurs around a separator occurs on one side of it. -/
theorem infix_append_separator_iff (hsep : separates part sep = true) :
    part <:+: before ++ (sep ++ after) ↔ part <:+: before ∨ part <:+: after := by
  simp only [separates, Bool.and_eq_true, Bool.not_eq_true', occurs_eq_false_iff] at hsep
  obtain ⟨⟨hfirst, hlast⟩, hinner⟩ := hsep
  cases sep with
  | nil => exact absurd hfirst (by simp)
  | cons first rest =>
    have hopens : first ∉ part := by simpa using hfirst
    rcases List.eq_nil_or_concat rest with rfl | ⟨middle, last, rfl⟩
    · exact infix_append_cons_iff hopens
    · rw [List.concat_eq_append, ← List.cons_append, List.getLast?_concat] at hlast
      have hcloses : last ∉ part := by simpa using hlast
      have hmiddle : ¬ part <:+: middle := fun h =>
        hinner (h.trans ⟨[first], [last], by simp⟩)
      rw [List.cons_append, infix_append_cons_iff hopens, List.concat_eq_append, List.append_assoc,
        List.singleton_append, infix_append_cons_iff hcloses, or_iff_right hmiddle]

theorem infix_separator_append_iff (hsep : separates part sep = true) (hpart : part ≠ []) :
    part <:+: sep ++ after ↔ part <:+: after := by
  rw [← List.nil_append (sep ++ after), infix_append_separator_iff hsep, List.infix_nil,
    or_iff_right hpart]

theorem infix_append_separator_end_iff (hsep : separates part sep = true) (hpart : part ≠ []) :
    part <:+: before ++ sep ↔ part <:+: before := by
  rw [← List.append_nil sep, infix_append_separator_iff hsep, List.infix_nil, or_iff_left hpart]

/-- Whether no occurrence of the part goes on behind the separator. -/
def closes (part sep : Text) : Bool := sep.getLast?.any (!part.contains ·)

/-- What occurs around the end of a separator occurs on one side of it. -/
theorem infix_append_closing_iff (hsep : closes part sep = true) :
    part <:+: before ++ sep ++ after ↔ part <:+: before ++ sep ∨ part <:+: after := by
  rcases List.eq_nil_or_concat sep with rfl | ⟨middle, last, rfl⟩
  · exact absurd hsep (by simp [closes])
  · have hlast : last ∉ part := by simpa [closes] using hsep
    have hfront : part <:+: before ++ middle ++ [last] ↔ part <:+: before ++ middle := by
      rw [infix_append_cons_iff hlast, List.infix_nil, or_iff_left_of_imp]
      rintro rfl
      exact List.nil_infix
    rw [List.concat_eq_append, ← List.append_assoc, hfront, List.append_assoc,
      List.singleton_append, infix_append_cons_iff hlast]

theorem infix_closing_append_iff (hsep : closes part sep = true) :
    part <:+: sep ++ after ↔ part <:+: sep ∨ part <:+: after := by
  rw [← List.nil_append sep, infix_append_closing_iff hsep]

/-- What occurs in joined texts occurs in one of them. -/
theorem infix_join_iff (hsep : separates part sep = true) (hpart : part ≠ []) {texts : List Text} :
    part <:+: join sep texts ↔ ∃ text ∈ texts, part <:+: text := by
  induction texts with
  | nil => simp [join, hpart]
  | cons first others ih =>
    cases others with
    | nil => simp [join]
    | cons second others =>
      rw [join, List.intercalate_cons_cons, List.append_assoc, infix_append_separator_iff hsep,
        ← join, ih]
      simp

/-- What occurs in a text without a character occurs in one piece of the text around it. -/
theorem infix_iff_exists_splitOn (hc : c ∉ part) (hpart : part ≠ []) :
    part <:+: text ↔ ∃ piece ∈ text.splitOn c, part <:+: piece := by
  have hsep : separates part [c] = true := by
    simp only [separates, Bool.and_eq_true, Bool.not_eq_true', occurs_eq_false_iff]
    refine ⟨by simp [hc], fun h => ?_⟩
    obtain ⟨d, hd⟩ := List.exists_mem_of_ne_nil part hpart
    obtain rfl := List.mem_singleton.1 (h.subset hd)
    exact hc hd
  rw [← infix_join_iff hsep hpart, join, List.intercalate_splitOn]

end WrapperGen.Text
