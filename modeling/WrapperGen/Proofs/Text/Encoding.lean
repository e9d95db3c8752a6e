import WrapperGen.Proofs.Outcome
import WrapperGen.Source

/-!
# Encoding and decoding

A source is decoded character by character, each from the bytes that encode it
(`firstChar?_eq_some_iff`), and what no character accounts for is kept apart. So the bytes that
decode to a text are those that encode it, and no others (`Text.decode?_eq_some_iff`).
-/

namespace WrapperGen

/-- The bytes begin with a character if they begin with its encoding. -/
theorem firstChar?_eq_some_iff {bytes : List UInt8} {c : Char} :
    firstChar? bytes = some c ↔ ∃ rest, bytes = String.utf8EncodeChar c ++ rest := by
  unfold firstChar?
  constructor
  · intro h
    obtain ⟨rest, hrest⟩ := ByteArray.exists_of_utf8DecodeChar?_eq_some h
    have hfront : bytes.take 4 = String.utf8EncodeChar c ++ rest.data.toList := by
      have hlists := congrArg (fun array : ByteArray => array.data.toList) hrest
      simpa using hlists
    refine ⟨rest.data.toList ++ bytes.drop 4, ?_⟩
    rw [← List.append_assoc, ← hfront, List.take_append_drop]
  · rintro ⟨rest, rfl⟩
    have hsize : (String.utf8EncodeChar c).length ≤ 4 := by
      rw [String.length_utf8EncodeChar]
      exact Char.utf8Size_le_four c
    rw [List.take_append, List.take_of_length_le hsize, List.toByteArray_append]
    exact ByteArray.utf8DecodeChar?_utf8EncodeChar_append

namespace Symbol

theorem char?_eq_some_iff {symbol : Symbol} {c : Char} :
    symbol.char? = some c ↔ symbol = .char c := by
  cases symbol <;> simp [char?]

end Symbol

namespace Source

/-- A source without undecodable bytes is made of the characters of its text. -/
theorem text?_eq_some_iff {source : Source} {text : Text} :
    source.text? = some text ↔ source = ofText text := by
  rw [text?, mapM_eq_some_iff, ofText]
  simp only [Symbol.char?_eq_some_iff]
  constructor
  · intro h
    induction h with
    | nil => rfl
    | cons hhead _ ih => rw [List.map_cons, hhead, ih]
  · rintro rfl
    induction text with
    | nil => exact .nil
    | cons c text ih => exact .cons rfl ih

theorem decode_nil : decode [] = [] := by
  rw [decode]

/-- The encoding of a character is read off the front. -/
theorem decode_utf8EncodeChar_append (c : Char) (rest : List UInt8) :
    decode (String.utf8EncodeChar c ++ rest) = .char c :: decode rest := by
  have hfirst : firstChar? (String.utf8EncodeChar c ++ rest) = some c :=
    firstChar?_eq_some_iff.2 ⟨rest, rfl⟩
  have hsize := String.length_utf8EncodeChar c
  obtain ⟨b, others, hbytes⟩ := List.exists_cons_of_ne_nil (String.utf8EncodeChar_ne_nil (c := c))
  rw [hbytes, List.cons_append] at hfirst ⊢
  rw [hbytes, List.length_cons] at hsize
  rw [decode, hfirst]
  simp only
  rw [show c.utf8Size - 1 = others.length by omega, List.drop_left]

/-- What encodes a text decodes to it. -/
theorem decode_encode (text : Text) : decode text.encode = ofText text := by
  induction text with
  | nil => exact decode_nil
  | cons c text ih =>
    rw [Text.encode, List.flatMap_cons, decode_utf8EncodeChar_append, ← Text.encode, ih]
    rfl

/-- What decodes to a text encodes it. -/
theorem encode_eq_of_decode {bytes : List UInt8} {text : Text} (h : decode bytes = ofText text) :
    text.encode = bytes := by
  induction hn : bytes.length using Nat.strongRecOn generalizing bytes text with
  | ind n ih =>
    cases bytes with
    | nil =>
      rw [decode_nil, ofText] at h
      rw [List.map_eq_nil_iff.1 h.symm]
      rfl
    | cons b bytes =>
      cases hfirst : firstChar? (b :: bytes) with
      | none =>
        -- an undecodable byte is not the character of any text
        rw [decode, hfirst] at h
        cases text <;> simp [ofText] at h
      | some c =>
        obtain ⟨rest, hrest⟩ := firstChar?_eq_some_iff.1 hfirst
        rw [hrest, decode_utf8EncodeChar_append] at h
        cases text with
        | nil => simp [ofText] at h
        | cons d text =>
          obtain ⟨rfl, hdecode⟩ : c = d ∧ decode rest = ofText text := by simpa [ofText] using h
          have hshort : rest.length < n := by
            have hpos := List.length_pos_iff.2 (String.utf8EncodeChar_ne_nil (c := c))
            rw [← hn, hrest, List.length_append]
            omega
          rw [Text.encode, List.flatMap_cons, ← Text.encode, ih rest.length hshort hdecode rfl,
            ← hrest]

end Source

/-- The bytes that decode to a text are those that encode it. -/
theorem Text.decode?_eq_some_iff {bytes : List UInt8} {text : Text} :
    Text.decode? bytes = some text ↔ text.encode = bytes := by
  rw [Text.decode?, Source.text?_eq_some_iff]
  constructor
  · exact Source.encode_eq_of_decode
  · rintro rfl
    exact Source.decode_encode text

end WrapperGen
