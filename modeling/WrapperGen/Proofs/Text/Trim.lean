import WrapperGen.Text

/-!
# Trimming

`Text.trim` drops the spaces and tabs at both ends of a text and nothing else. `trim_eq_iff` says
so without the reader: the result is the part of the text that begins and ends with something
else, between two stretches of padding.
-/

namespace WrapperGen.Text

/-- The text holds nothing but padding. -/
def Padding (text : Text) : Prop := ∀ c ∈ text, isPadding c = true

/-- The text has no padding at either end. -/
def Unpadded (text : Text) : Prop :=
  (∀ c ∈ text.head?, isPadding c = false) ∧ ∀ c ∈ text.getLast?, isPadding c = false

theorem Padding.nil : Padding [] := by simp [Padding]

theorem Unpadded.nil : Unpadded [] := by simp [Unpadded]

theorem Unpadded.of_clear {text : Text} (h : ∀ c ∈ text, isPadding c = false) : Unpadded text :=
  ⟨fun c hc => h c (List.mem_of_head? hc), fun c hc => h c (List.mem_of_getLast? hc)⟩

theorem Padding.append {first second : Text} (h₁ : Padding first) (h₂ : Padding second) :
    Padding (first ++ second) := by
  intro c hc
  rcases List.mem_append.1 hc with hc | hc
  · exact h₁ c hc
  · exact h₂ c hc

/-! ## Dropping at one end -/

theorem dropEndWhile_append_of_pos {α : Type} {p : α → Bool} (front : List α) {back : List α}
    (h : ∀ a ∈ back, p a = true) : dropEndWhile p (front ++ back) = dropEndWhile p front := by
  rw [dropEndWhile, List.reverse_append, List.dropWhile_append_of_pos (by simpa using h),
    dropEndWhile]

theorem dropEndWhile_eq_self {α : Type} {p : α → Bool} {items : List α}
    (h : ∀ a ∈ items.getLast?, p a = false) : dropEndWhile p items = items := by
  rw [dropEndWhile]
  cases hr : items.reverse with
  | nil => simpa using hr.symm
  | cons a rest =>
    obtain rfl : items = rest.reverse ++ [a] := by
      rw [← List.reverse_cons, ← hr, List.reverse_reverse]
    have ha : p a = false := h a (by simp)
    rw [List.dropWhile_cons_of_neg (by simp [ha])]
    simp

/-- What is dropped from the end satisfies the predicate, and the end of the rest does not. -/
theorem exists_dropEndWhile {α : Type} (p : α → Bool) (items : List α) :
    ∃ back, items = dropEndWhile p items ++ back ∧ (∀ a ∈ back, p a = true) ∧
      ∀ a ∈ (dropEndWhile p items).getLast?, p a = false := by
  refine ⟨(items.reverse.takeWhile p).reverse, ?_, ?_, ?_⟩
  · rw [dropEndWhile, ← List.reverse_append, List.takeWhile_append_dropWhile,
      List.reverse_reverse]
  · intro a ha
    have hall := List.all_takeWhile (p := p) (l := items.reverse)
    exact List.all_eq_true.1 hall a (List.mem_reverse.1 ha)
  · intro a ha
    rw [dropEndWhile, List.getLast?_reverse] at ha
    have hnot := List.head?_dropWhile_not p items.reverse
    rw [Option.mem_def.1 ha] at hnot
    simpa using hnot

/-- What dropping at both ends leaves stands in the list. -/
theorem stripBy_isInfix {α : Type} (p : α → Bool) (items : List α) :
    stripBy p items <:+: items := by
  obtain ⟨back, hsplit, -, -⟩ := exists_dropEndWhile p (items.dropWhile p)
  have hprefix : stripBy p items <+: items.dropWhile p := ⟨back, hsplit.symm⟩
  exact hprefix.isInfix.trans (List.dropWhile_suffix p).isInfix

theorem mem_of_mem_stripBy {α : Type} {p : α → Bool} {items : List α} {a : α}
    (h : a ∈ stripBy p items) : a ∈ items :=
  (stripBy_isInfix p items).subset h

theorem trim_isInfix (text : Text) : trim text <:+: text := stripBy_isInfix isPadding text

/-- What is dropped from both ends only depends on what the predicate sees of the elements. -/
theorem stripBy_map {α β : Type} (f : β → α) (p : α → Bool) (items : List β) :
    stripBy p (items.map f) = (stripBy (p ∘ f) items).map f := by
  simp only [stripBy, dropEndWhile, List.dropWhile_map, ← List.map_reverse]

/-! ## Trimming at both ends -/

/-- A text without padding at its ends is what trimming leaves of it between two paddings. -/
theorem trim_append_append {left core right : Text} (hl : Padding left) (hc : Unpadded core)
    (hr : Padding right) : trim (left ++ core ++ right) = core := by
  rw [trim, stripBy, List.append_assoc, List.dropWhile_append_of_pos hl]
  cases core with
  | nil =>
    have hdrop : (right ++ []).dropWhile isPadding = [] := List.dropWhile_append_of_pos hr
    rw [List.append_nil] at hdrop
    rw [List.nil_append, hdrop]
    rfl
  | cons c rest =>
    rw [List.cons_append, List.dropWhile_cons_of_neg (by simp [hc.1 c (by simp)]),
      ← List.cons_append, dropEndWhile_append_of_pos _ hr, dropEndWhile_eq_self hc.2]

/-- Every text is what trimming leaves of it between two paddings. -/
theorem exists_trim (text : Text) :
    ∃ left right, Padding left ∧ Padding right ∧ text = left ++ trim text ++ right ∧
      Unpadded (trim text) := by
  obtain ⟨right, hsplit, hright, hlast⟩ :=
    exists_dropEndWhile isPadding (text.dropWhile isPadding)
  refine ⟨text.takeWhile isPadding, right, ?_, hright, ?_, ?_, hlast⟩
  · intro c hc
    exact List.all_eq_true.1 List.all_takeWhile c hc
  · rw [List.append_assoc, trim, stripBy, ← hsplit, List.takeWhile_append_dropWhile]
  · intro c hc
    -- the first character left was also the first one after the leading padding
    have hnot := List.head?_dropWhile_not isPadding text
    have hhead : (text.dropWhile isPadding).head? = some c := by
      rw [hsplit, List.head?_append, show (dropEndWhile isPadding (text.dropWhile isPadding)).head?
        = some c from hc, Option.some_or]
    rw [hhead] at hnot
    simpa using hnot

/-- Trimming leaves the one part of a text that is unpadded and stands between paddings. -/
theorem trim_eq_iff {text core : Text} :
    trim text = core ↔
      Unpadded core ∧
        ∃ left right, Padding left ∧ Padding right ∧ text = left ++ core ++ right := by
  constructor
  · rintro rfl
    obtain ⟨left, right, hl, hr, htext, hu⟩ := exists_trim text
    exact ⟨hu, left, right, hl, hr, htext⟩
  · rintro ⟨hu, left, right, hl, hr, rfl⟩
    exact trim_append_append hl hu hr

theorem unpadded_trim (text : Text) : Unpadded (trim text) := (trim_eq_iff.1 rfl).1

theorem trim_eq_self {text : Text} (h : Unpadded text) : trim text = text :=
  trim_eq_iff.2 ⟨h, [], [], Padding.nil, Padding.nil, by simp⟩

@[simp] theorem trim_trim (text : Text) : trim (trim text) = trim text :=
  trim_eq_self (unpadded_trim text)

/-- Only padding is trimmed to nothing. -/
@[simp] theorem trim_eq_nil_iff {text : Text} : trim text = [] ↔ Padding text := by
  constructor
  · intro h
    obtain ⟨-, left, right, hl, hr, rfl⟩ := trim_eq_iff.1 h
    rw [List.append_nil]
    exact hl.append hr
  · intro h
    exact trim_eq_iff.2 ⟨Unpadded.nil, text, [], h, Padding.nil, by simp⟩

/-- A trimmed text that begins with other text and padding alone begins with that other text. -/
theorem Unpadded.eq_nil_of_append {front back : Text} (h : Unpadded (front ++ back))
    (hp : Padding front) : front = [] := by
  cases front with
  | nil => rfl
  | cons c rest =>
    have hc : isPadding c = true := hp c (by simp)
    rw [h.1 c (by simp)] at hc
    exact absurd hc (by simp)

end WrapperGen.Text
