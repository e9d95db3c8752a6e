import WrapperGen.Proofs.Literal.Value

/-!
# Texts between double quotes

A text that is put between double quotes as it is becomes a literal of itself exactly if each of its
characters stands for itself (`unquote_verbatim_iff`). An escape is no way to it: it takes more
bytes in the text than it denotes, so a literal with an escape is longer than its value
(`UnitsText.plain_or_length_lt`).
-/

namespace WrapperGen

theorem Text.length_le_length_encode (text : Text) : text.length ≤ text.encode.length := by
  induction text with
  | nil => rfl
  | cons c text ih =>
    have hpos := List.length_pos_iff.2 (String.utf8EncodeChar_ne_nil (c := c))
    rw [encode, List.flatMap_cons, List.length_append, ← encode, List.length_cons]
    omega

namespace Literal

theorem forall_plain_iff {text : Text} :
    (∀ c ∈ text, Plain c) ↔ '"' ∉ text ∧ '\\' ∉ text ∧ '\n' ∉ text := by
  constructor
  · intro hall
    exact ⟨fun hmem => (hall _ hmem).1 rfl, fun hmem => (hall _ hmem).2.1 rfl,
      fun hmem => (hall _ hmem).2.2 rfl⟩
  · rintro ⟨hquote, hbackslash, hfeed⟩ c hc
    exact ⟨ne_of_mem_of_not_mem hc hquote, ne_of_mem_of_not_mem hc hbackslash,
      ne_of_mem_of_not_mem hc hfeed⟩

/-- An escape denotes fewer bytes than it has characters, the backslash included. -/
theorem EscapeText.length_lt {text : Text} {bytes : List UInt8} (h : EscapeText text bytes) :
    bytes.length < text.length + 1 := by
  cases h with
  | simple hletter =>
    have hall : ∀ entry ∈ simpleEscapes, (String.utf8EncodeChar entry.2).length = 1 := by decide
    rw [hall _ (mem_of_lookup_eq_some hletter), List.length_singleton]
    decide
  | hexadecimal hlength =>
    rw [List.length_singleton, List.length_cons, hlength]
    decide
  | octal hlength =>
    rw [hlength, List.length_singleton]
    decide
  | @codePoint letter digits c hlength =>
    have hall : ∀ entry ∈ codePointEscapes, 4 ≤ entry.2 := by decide
    have hdigits := hall _ (mem_of_lookup_eq_some hlength)
    have hsize := Char.utf8Size_le_four c
    rw [String.length_utf8EncodeChar, List.length_cons]
    omega

/-- Where not every character stands for itself, the units denote fewer bytes than they take. -/
theorem UnitsText.plain_or_length_lt {text : Text} {bytes : List UInt8} (h : UnitsText text bytes) :
    (∀ c ∈ text, Plain c) ∧ bytes = text.encode ∨ bytes.length < text.encode.length := by
  induction h with
  | nil => exact .inl ⟨by simp, rfl⟩
  | @cons text rest bytes others hunit _ ih =>
    have hencode : (text ++ rest).encode = text.encode ++ rest.encode := List.flatMap_append
    rw [hencode, List.length_append, List.length_append]
    cases hunit with
    | @char c hplain =>
      have hone : Text.encode [c] = String.utf8EncodeChar c := List.flatMap_singleton _ _
      rw [hone]
      rcases ih with ⟨hrest, rfl⟩ | hshort
      · exact .inl ⟨List.forall_mem_cons.2 ⟨hplain, hrest⟩, rfl⟩
      · right
        omega
    | @escape digits _ hescape =>
      right
      have hfirst := hescape.length_lt
      have htaken := Text.length_le_length_encode ('\\' :: digits)
      rw [List.length_cons] at htaken
      have hothers : others.length ≤ rest.encode.length := by
        rcases ih with ⟨-, rfl⟩ | hshort
        · exact le_rfl
        · exact hshort.le
      omega

theorem unitsText_of_plain {text : Text} (h : ∀ c ∈ text, Plain c) :
    UnitsText text text.encode := by
  induction text with
  | nil => exact .nil
  | cons c text ih =>
    obtain ⟨hc, htext⟩ := List.forall_mem_cons.1 h
    exact .cons (.char hc) (ih htext)

/-- Between double quotes a text denotes itself if none of its characters needs an escape. -/
theorem unquote_verbatim_iff {text : Text} :
    unquote ('"' :: (text ++ ['"'])) = .ok text ↔ ∀ c ∈ text, Plain c := by
  have hlast : ('"' :: (text ++ ['"'])).getLast? ≠ some '\n' := by
    rw [← List.cons_append, List.getLast?_concat]
    decide
  rw [unquote_eq_ok_iff hlast]
  constructor
  · intro h
    generalize hliteral : '"' :: (text ++ ['"']) = literal at h
    cases h with
    | raw => exact absurd (List.cons.inj hliteral).1 (by decide)
    | @interpreted body _ bytes hunits hvalue =>
      obtain ⟨rfl, -⟩ := List.append_inj' (List.cons.inj hliteral).2 rfl
      rcases hunits.plain_or_length_lt with ⟨hplain, -⟩ | hshort
      · exact hplain
      · exact absurd (congrArg List.length hvalue) hshort.ne'
  · intro h
    exact .interpreted (unitsText_of_plain h) rfl

end Literal

end WrapperGen
