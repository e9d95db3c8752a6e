import Mathlib.Data.List.Basic
import WrapperGen.Text

/-!
# The characters of a text

A text is over a kind of characters if all of its characters are of that kind (`Text.Over`). Texts
that are put together from texts over a kind are over that kind; numerals, and whatever else is made
of plain characters, are over every kind to which the plain characters belong.
-/

namespace WrapperGen.Text

/-- The characters that the layout of a line is made of: tabs and printable ASCII. -/
def isPlain (c : Char) : Bool := c == '\t' || (0x20 ≤ c.toNat && c.toNat < 0x7F)

theorem isPlain_of_le {c : Char} (hlow : 0x20 ≤ c.toNat) (hhigh : c.toNat < 0x7F) :
    isPlain c = true := by
  simp [isPlain, hlow, hhigh]

theorem isPlain_of_isDigit {c : Char} (h : c.isDigit = true) : isPlain c = true := by
  obtain ⟨hlow, hhigh⟩ : 48 ≤ c.toNat ∧ c.toNat ≤ 57 := Char.isDigit_iff_toNat.1 h
  exact isPlain_of_le (by omega) (by omega)

/-- Every character of the text is of a kind. -/
def Over (p : Char → Prop) (text : Text) : Prop := ∀ c ∈ text, p c

theorem mem_join {sep : Text} {parts : List Text} {c : Char} (h : c ∈ join sep parts) :
    c ∈ sep ∨ ∃ part ∈ parts, c ∈ part := by
  induction parts with
  | nil => simp [join] at h
  | cons first others ih =>
    cases others with
    | nil => exact .inr ⟨first, List.mem_cons_self, by simpa [join] using h⟩
    | cons second others =>
      rw [join, List.intercalate_cons_cons, List.mem_append, List.mem_append] at h
      rcases h with (h | h) | h
      · exact .inr ⟨first, List.mem_cons_self, h⟩
      · exact .inl h
      · obtain hsep | ⟨part, hpart, hc⟩ := ih h
        · exact .inl hsep
        · exact .inr ⟨part, List.mem_cons_of_mem _ hpart, hc⟩

section Over

variable {p : Char → Prop} {text other : Text}

@[simp] theorem over_nil : Over p [] := by simp [Over]

@[simp] theorem over_cons {c : Char} : Over p (c :: text) ↔ p c ∧ Over p text := by simp [Over]

@[simp] theorem over_append : Over p (text ++ other) ↔ Over p text ∧ Over p other := by
  simp only [Over, List.mem_append, or_imp, forall_and]

theorem Over.mono (h : Over p text) (hsub : other ⊆ text) : Over p other :=
  fun c hc => h c (hsub hc)

theorem over_flatMap {α : Type} {items : List α} {f : α → Text} (h : ∀ a ∈ items, Over p (f a)) :
    Over p (items.flatMap f) := by
  intro c hc
  obtain ⟨a, ha, hc⟩ := List.mem_flatMap.1 hc
  exact h a ha c hc

theorem over_join {sep : Text} {parts : List Text} (hsep : Over p sep)
    (hparts : ∀ part ∈ parts, Over p part) : Over p (join sep parts) := by
  intro c hc
  obtain hc | ⟨part, hpart, hc⟩ := mem_join hc
  · exact hsep c hc
  · exact hparts part hpart c hc

variable (hp : ∀ c, isPlain c = true → p c)

include hp

theorem over_of_plain (h : text.all isPlain = true) : Over p text :=
  fun c hc => hp c (List.all_eq_true.1 h c hc)

theorem over_decimal (n : Nat) : Over p (decimal n) := fun c hc =>
  hp c (isPlain_of_isDigit (Nat.isDigit_of_mem_toDigits (by decide) (by decide) hc))

theorem over_ordinal (n : Nat) : Over p (ordinal n) := by
  have hsuffix : (ordinalSuffix n).all isPlain = true := by
    unfold ordinalSuffix
    split_ifs <;> decide
  exact over_append.2 ⟨over_decimal hp n, over_of_plain hp hsuffix⟩

end Over

end WrapperGen.Text
