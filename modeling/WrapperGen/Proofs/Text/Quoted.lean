import Mathlib.Data.List.Infix
import WrapperGen.Proofs.Text.Occurrence
import WrapperGen.Text.Quoted

/-!
# Quoted forms

A quoted form begins with its delimiter, and every character between the delimiters is written with
at least one. The delimiter is the other quote where that saves escapes, so a part of a text never
takes more characters than it takes within the quoted form of the whole, and the quoted form of the
whole does not occur in what is said about the part (`not_quoted_infix_append_quoted`).
-/

namespace WrapperGen.Text

variable {part text : Text} {c : Char}

theorem delimiterFor_cases (text : Text) :
    delimiterFor text = '"' ∧ apostrophe ∈ text ∧ '"' ∉ text ∨
      delimiterFor text = apostrophe ∧ (apostrophe ∈ text → '"' ∈ text) := by
  unfold delimiterFor
  split
  · next h => exact .inl ⟨rfl, by simpa using h⟩
  · next h => exact .inr ⟨rfl, by simpa using h⟩

theorem delimiterFor_mem_quoted (text : Text) : delimiterFor text ∈ quoted text := by
  simp [quoted]

/-- Where a part and the whole take different delimiters, that of the part is not in the part. -/
theorem delimiterFor_not_mem_of_ne (hsub : part ⊆ text)
    (hne : delimiterFor part ≠ delimiterFor text) : delimiterFor part ∉ part := by
  rcases delimiterFor_cases part with ⟨hpart, -, hfree⟩ | ⟨hpart, hboth⟩
  · rwa [hpart]
  · rcases delimiterFor_cases text with ⟨htext, -, hfree⟩ | ⟨htext, -⟩
    · rw [hpart]
      exact fun hmem => hfree (hsub (hboth hmem))
    · exact absurd (hpart.trans htext.symm) hne

theorem quotedChar_ne_nil (delimiter c : Char) : quotedChar delimiter c ≠ [] := by
  unfold quotedChar
  split_ifs <;> simp

/-- Only a delimiter is written differently under different delimiters. -/
theorem quotedChar_congr {delimiter other : Char} (h : c ≠ delimiter) (h' : c ≠ other) :
    quotedChar delimiter c = quotedChar other c := by
  unfold quotedChar
  simp only [h, h', false_or]

/-- A character of a part is written at least as shortly in the part as in the whole. -/
theorem length_quotedChar_le (hsub : part ⊆ text) (hc : c ∈ part) :
    (quotedChar (delimiterFor part) c).length ≤ (quotedChar (delimiterFor text) c).length := by
  by_cases hsame : delimiterFor part = delimiterFor text
  · rw [hsame]
  · have hpart : c ≠ delimiterFor part := by
      rintro rfl
      exact delimiterFor_not_mem_of_ne hsub hsame hc
    by_cases htext : c = delimiterFor text
    · -- the whole escapes its delimiter, which the part shows as it is
      subst htext
      rcases delimiterFor_cases part with ⟨hp, -⟩ | ⟨hp, -⟩ <;>
        rcases delimiterFor_cases text with ⟨ht, -⟩ | ⟨ht, -⟩ <;>
        rw [hp, ht] <;> decide
    · rw [quotedChar_congr hpart htext]

theorem length_flatMap_le {f g : Char → Text} (h : ∀ c ∈ text, (f c).length ≤ (g c).length) :
    (text.flatMap f).length ≤ (text.flatMap g).length := by
  induction text with
  | nil => rfl
  | cons c text ih =>
    obtain ⟨hc, htext⟩ := List.forall_mem_cons.1 h
    simp only [List.flatMap_cons, List.length_append]
    exact Nat.add_le_add hc (ih htext)

theorem length_le_length_flatMap_quotedChar (delimiter : Char) (text : Text) :
    text.length ≤ (text.flatMap (quotedChar delimiter)).length := by
  have hone : ∀ c ∈ text, [c].length ≤ (quotedChar delimiter c).length :=
    fun c _ => List.length_pos_iff.2 (quotedChar_ne_nil delimiter c)
  simpa using length_flatMap_le hone

theorem length_quoted (text : Text) :
    (quoted text).length = (text.flatMap (quotedChar (delimiterFor text))).length + 2 := by
  simp [quoted]

/-- The quoted form of a part is shorter than that of the whole. -/
theorem length_quoted_lt_of_within (h : part <:+: text) (hne : part ≠ text) :
    (quoted part).length < (quoted text).length := by
  have hinner : (part.flatMap (quotedChar (delimiterFor part))).length ≤
      (part.flatMap (quotedChar (delimiterFor text))).length :=
    length_flatMap_le fun c hc => length_quotedChar_le h.subset hc
  obtain ⟨before, after, rfl⟩ := h
  -- what stands around the part takes up at least one more character
  have hlonger : 0 < before.length + after.length := by
    rw [Nat.pos_iff_ne_zero, ← List.length_append]
    intro hnone
    obtain ⟨rfl, rfl⟩ := List.append_eq_nil_iff.1 (List.length_eq_zero_iff.1 hnone)
    exact hne (by simp)
  have hbefore := length_le_length_flatMap_quotedChar
    (delimiterFor (before ++ part ++ after)) before
  have hafter := length_le_length_flatMap_quotedChar
    (delimiterFor (before ++ part ++ after)) after
  simp only [length_quoted, List.flatMap_append, List.length_append]
  omega

/-- The quoted form of a whole does not occur in that of a part, whatever is said in front of it. -/
theorem not_quoted_infix_append_quoted (h : part <:+: text) (hne : part ≠ text) {front : Text}
    (hapostrophe : apostrophe ∉ front) (hquote : '"' ∉ front) :
    ¬ quoted text <:+: front ++ quoted part := by
  have hopens : delimiterFor text ∉ front := by
    rcases delimiterFor_cases text with ⟨hdelimiter, -⟩ | ⟨hdelimiter, -⟩ <;> rwa [hdelimiter]
  intro hoccurs
  have hinner : quoted text <:+: quoted part :=
    (infix_append_iff_of_not_mem hopens).1 hoccurs
  exact absurd hinner.length_le (Nat.not_le.2 (length_quoted_lt_of_within h hne))

end WrapperGen.Text
