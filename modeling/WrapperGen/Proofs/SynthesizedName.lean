import WrapperGen.Proofs.Outcome
import WrapperGen.Proofs.Text.Cut
import WrapperGen.Proofs.Text.Trim
import WrapperGen.SynthesizedName

/-!
# Synthesized names

A synthesized name is put together from short codes and from what the types themselves hold
(`mem_synthesize`), so it takes over no padding; and it is longer than the placeholder. Hence the
name a function is wrapped under is never the placeholder (`wrappedName_ne_placeholder`), and it
is as free of padding at its ends as the name that was declared (`unpadded_wrappedName`).
-/

namespace WrapperGen.NameScheme

/-- A character that codes are made of: a letter, a digit or an underscore. -/
def isCodeChar (c : Char) : Bool := c.isAlphanum || c == '_'

theorem isPadding_eq_false {c : Char} (h : isCodeChar c = true) : Text.isPadding c = false := by
  rw [← Bool.not_eq_true]
  intro hpad
  simp only [Text.isPadding, Bool.or_eq_true, beq_iff_eq] at hpad
  rcases hpad with rfl | rfl <;> exact absurd h (by decide)

/-- Every built-in code is made of code characters. -/
theorem isCodeChar_of_code? {exported : Bool} {type code : Text}
    (h : (builtin exported).code? type = some code) : ∀ c ∈ code, isCodeChar c = true := by
  have hall : (builtinTypeCodes.all fun entry => entry.2.all isCodeChar) = true := by decide
  obtain ⟨hlookup, -⟩ := Option.filter_eq_some_iff.1 h
  have hmem : (type, code) ∈ builtinTypeCodes := mem_of_lookup_eq_some hlookup
  exact List.all_eq_true.1 (List.all_eq_true.1 hall (type, code) hmem)

theorem mem_of_mem_dropPointer {text : Text} {c : Char} (h : c ∈ dropPointer text) : c ∈ text := by
  unfold dropPointer at h
  split at h
  · exact List.mem_cons_of_mem _ h
  · exact h

/-- What stands in for a missing code is a text without its pointer mark, before an underscore. -/
theorem mem_dropPointer_append {text : Text} {c : Char} (h : c ∈ dropPointer text ++ ("_" : Text)) :
    c ∈ text ∨ isCodeChar c = true := by
  rcases List.mem_append.1 h with hc | hc
  · exact .inl (mem_of_mem_dropPointer hc)
  · right
    obtain rfl : c = '_' := by simpa using hc
    decide

theorem mem_baseCode {exported : Bool} {type : Text} {c : Char}
    (h : c ∈ (builtin exported).baseCode type) : c ∈ type ∨ isCodeChar c = true := by
  unfold baseCode at h
  split at h
  · exact mem_dropPointer_append h
  · next before name hcut =>
    cases hbase : (builtin exported).code? (dropPointer name) with
    | some code =>
      rw [hbase, Option.getD_some] at h
      exact .inr (isCodeChar_of_code? hbase c h)
    | none =>
      rw [hbase, Option.getD_none] at h
      rcases mem_dropPointer_append h with hc | hc
      · left
        rw [Text.eq_append_of_cut? hcut]
        simp [hc]
      · exact .inr hc

/-- A code holds characters of the type and code characters only. -/
theorem mem_typeCode {exported : Bool} {type : Text} {c : Char}
    (h : c ∈ (builtin exported).typeCode type) : c ∈ type ∨ isCodeChar c = true := by
  unfold typeCode at h
  rcases List.mem_append.1 h with hmark | hcode
  · right
    split at hmark
    · obtain rfl : c = 'p' := by simpa using hmark
      decide
    · simp at hmark
  · cases hshort : (builtin exported).code? type <|>
        (builtin exported).code? (Runtime.qualifier ++ type) with
    | some code =>
      rw [hshort, Option.getD_some] at hcode
      rw [Option.orElse_eq_orElse, Option.orElse_eq_or] at hshort
      rcases Option.or_eq_some_iff.1 hshort with hcode' | ⟨-, hcode'⟩
      · exact .inr (isCodeChar_of_code? hcode' c hcode)
      · exact .inr (isCodeChar_of_code? hcode' c hcode)
    | none =>
      rw [hshort, Option.getD_none] at hcode
      exact mem_baseCode hcode

/-- A synthesized name holds characters of the types and code characters only. -/
theorem mem_synthesize {exported : Bool} {signature : Signature} {c : Char}
    (h : c ∈ (builtin exported).synthesize signature) :
    isCodeChar c = true ∨
      ∃ param ∈ signature.params ++ signature.returns.entries, c ∈ param.type := by
  have hcodes : ∀ params : List Param, c ∈ (builtin exported).typeCodes params →
      isCodeChar c = true ∨ ∃ param ∈ params, c ∈ param.type := by
    intro params hc
    obtain ⟨param, hparam, hc⟩ := List.mem_flatMap.1 hc
    rcases mem_typeCode hc with hc | hc
    · exact .inr ⟨param, hparam, hc⟩
    · exact .inl hc
  unfold synthesize at h
  simp only [List.mem_append] at h
  have hstart : (builtin exported).namePrefix.all isCodeChar = true := by
    cases exported <;> decide
  rcases h with ((h | h) | h) | h
  · left
    exact List.all_eq_true.1 hstart c h
  · rcases hcodes _ h with h | ⟨param, hparam, h⟩
    · exact .inl h
    · exact .inr ⟨param, List.mem_append_left _ hparam, h⟩
  · left
    obtain rfl : c = 'R' := by simpa using h
    decide
  · rcases hcodes _ h with h | ⟨param, hparam, h⟩
    · exact .inl h
    · exact .inr ⟨param, List.mem_append_right _ hparam, h⟩

theorem length_synthesize (scheme : NameScheme) (signature : Signature) :
    placeholder.length < (scheme.synthesize signature).length := by
  have hprefix : scheme.namePrefix.length = 5 := by
    unfold namePrefix
    split <;> rfl
  simp only [synthesize, List.length_append, hprefix]
  have hplaceholder : placeholder.length = 4 := rfl
  omega

/-! ## The name of a wrapped function -/

/-- No function is wrapped under the placeholder. -/
theorem wrappedName_ne_placeholder (scheme : NameScheme) (signature : Signature) :
    scheme.wrappedName signature ≠ placeholder := by
  unfold wrappedName
  split
  · intro heq
    have hlength := length_synthesize scheme signature
    rw [heq] at hlength
    exact absurd hlength (Nat.lt_irrefl _)
  · assumption

theorem wrappedName_ne_nil (scheme : NameScheme) {signature : Signature}
    (h : signature.name ≠ []) : scheme.wrappedName signature ≠ [] := by
  unfold wrappedName
  split
  · have hlength := length_synthesize scheme signature
    exact List.ne_nil_of_length_pos (by omega)
  · exact h

/-- Types without padding give a name without padding. -/
theorem unpadded_wrappedName {exported : Bool} {signature : Signature}
    (hname : Text.Unpadded signature.name)
    (htypes : ∀ param ∈ signature.params ++ signature.returns.entries, ∀ c ∈ param.type,
      Text.isPadding c = false) :
    Text.Unpadded ((builtin exported).wrappedName signature) := by
  unfold wrappedName
  split
  · refine Text.Unpadded.of_clear fun c hc => ?_
    rcases mem_synthesize hc with hc | ⟨param, hparam, hc⟩
    · exact isPadding_eq_false hc
    · exact htypes param hparam c hc
  · exact hname

end WrapperGen.NameScheme
