import Mathlib.Data.List.Basic
import WrapperGen.Proofs.Text.Trim
import WrapperGen.Text.Blank

/-!
# Tokens and lists

Two ways of taking a text apart, each given as a relation between the text and its parts and
proved to be what the reader computes: the tokens between blanks (`fields_eq_iff`) and the pieces
between separators (`splitOn_eq_iff`). Padding at the ends of a list changes the pieces but not
their tokens (`map_fields_splitOn_trim`).
-/

namespace WrapperGen.Text

/-- The tokens of a text: its longest stretches without blanks, in order. -/
inductive Tokens : Text → List Text → Prop
  /-- Nothing is left. -/
  | done : Tokens [] []
  /-- A blank belongs to no token. -/
  | blank {c : Char} {rest : Text} {tokens : List Text} (hc : isBlank c = true)
      (h : Tokens rest tokens) : Tokens (c :: rest) tokens
  /-- A token ends where the text ends or a blank follows. -/
  | token {word rest : Text} {tokens : List Text} (hne : word ≠ [])
      (hword : ∀ c ∈ word, isBlank c = false) (hrest : ∀ c ∈ rest.head?, isBlank c = true)
      (h : Tokens rest tokens) : Tokens (word ++ rest) (word :: tokens)

/-- No token is empty or holds a blank. -/
theorem Tokens.of_mem {text : Text} {tokens : List Text} (h : Tokens text tokens) :
    ∀ word ∈ tokens, word ≠ [] ∧ ∀ c ∈ word, isBlank c = false := by
  induction h with
  | done => simp
  | blank _ _ ih => exact ih
  | token hne hword _ _ ih =>
    intro word hmem
    rcases List.mem_cons.1 hmem with rfl | hmem
    · exact ⟨hne, hword⟩
    · exact ih word hmem

/-- A token stands in the text in one piece. -/
theorem Tokens.infix_of_mem {text : Text} {tokens : List Text} (h : Tokens text tokens)
    {word : Text} (hword : word ∈ tokens) : word <:+: text := by
  induction h with
  | done => exact absurd hword List.not_mem_nil
  | blank _ _ ih => exact (ih hword).trans (List.suffix_cons _ _).isInfix
  | token _ _ _ _ ih =>
    rcases List.mem_cons.1 hword with rfl | hword
    · exact (List.prefix_append _ _).isInfix
    · exact (ih hword).trans (List.suffix_append _ _).isInfix

/-- Every character of a token is one of the text. -/
theorem Tokens.mem_text {text : Text} {tokens : List Text} (h : Tokens text tokens) {word : Text}
    (hword : word ∈ tokens) {c : Char} (hc : c ∈ word) : c ∈ text :=
  (h.infix_of_mem hword).subset hc

/-! ## The equations of `fields` -/

@[simp] theorem fields_nil : fields [] = [] := by simp [fields]

theorem fields_cons_of_blank {c : Char} (hc : isBlank c = true) (rest : Text) :
    fields (c :: rest) = fields rest := by
  simp [fields, List.splitOnP_cons_eq_if_modifyHead, hc]

theorem fields_append_of_word {word rest : Text} (hne : word ≠ [])
    (hword : ∀ c ∈ word, isBlank c = false) (hrest : ∀ c ∈ rest.head?, isBlank c = true) :
    fields (word ++ rest) = word :: fields rest := by
  cases rest with
  | nil => simp [fields, List.splitOnP_eq_singleton hword, hne]
  | cons c rest =>
    have hc : isBlank c = true := hrest c (by simp)
    rw [fields_cons_of_blank hc, fields, List.splitOnP_append_cons_of_forall_mem hword c hc]
    simp [fields, hne]

theorem fields_append_cons_of_blank {c : Char} (hc : isBlank c = true) (front back : Text) :
    fields (front ++ c :: back) = fields front ++ fields back := by
  rw [fields, List.splitOnP_append_cons front back hc, List.filter_append, ← fields, ← fields]

/-- Blanks in front of a text change none of its tokens. -/
theorem fields_blanks_append {front : Text} (h : ∀ c ∈ front, isBlank c = true) (back : Text) :
    fields (front ++ back) = fields back := by
  induction front with
  | nil => rfl
  | cons c front ih =>
    have hfront : ∀ d ∈ front, isBlank d = true := fun d hd => h d (List.mem_cons_of_mem _ hd)
    rw [List.cons_append, fields_cons_of_blank (h c List.mem_cons_self), ih hfront]

/-- Blanks after a text change none of its tokens. -/
theorem fields_append_blanks (front : Text) {back : Text} (h : ∀ c ∈ back, isBlank c = true) :
    fields (front ++ back) = fields front := by
  cases back with
  | nil => rw [List.append_nil]
  | cons c back =>
    have hback : fields back = [] := by
      have hall : ∀ d ∈ back, isBlank d = true := fun d hd => h d (List.mem_cons_of_mem _ hd)
      rw [← List.append_nil back, fields_blanks_append hall, fields_nil]
    rw [fields_append_cons_of_blank (h c List.mem_cons_self), hback, List.append_nil]

/-! ## The tokens are the fields -/

/-- Splitting at blanks yields the tokens. -/
theorem tokens_fields (text : Text) : Tokens text (fields text) := by
  induction hn : text.length using Nat.strongRecOn generalizing text with
  | ind n ih =>
    cases text with
    | nil =>
      rw [fields_nil]
      exact .done
    | cons c rest =>
      cases hc : isBlank c with
      | true =>
        rw [fields_cons_of_blank hc]
        exact .blank hc (ih rest.length (by simp [← hn]) rest rfl)
      | false =>
        -- the text begins with a token, which ends before the first blank
        have hsplit : (c :: rest).takeWhile (fun d => !isBlank d) ++
            (c :: rest).dropWhile (fun d => !isBlank d) = c :: rest :=
          List.takeWhile_append_dropWhile
        generalize hword : (c :: rest).takeWhile (fun d => !isBlank d) = word at hsplit
        generalize hback : (c :: rest).dropWhile (fun d => !isBlank d) = back at hsplit
        have hne : word ≠ [] := by simp [← hword, hc]
        have hclear : ∀ d ∈ word, isBlank d = false := by
          intro d hd
          have hall := List.all_takeWhile (p := fun d => !isBlank d) (l := c :: rest)
          rw [hword] at hall
          simpa using List.all_eq_true.1 hall d hd
        have hhead : ∀ d ∈ back.head?, isBlank d = true := by
          intro d hd
          have hnot := List.head?_dropWhile_not (fun d => !isBlank d) (c :: rest)
          rw [hback, Option.mem_def.1 hd] at hnot
          simpa using hnot
        have hshort : back.length < n := by
          have hpos := List.length_pos_iff.2 hne
          have hlen := congrArg List.length hsplit
          rw [List.length_append] at hlen
          omega
        rw [← hsplit, fields_append_of_word hne hclear hhead]
        exact .token hne hclear hhead (ih back.length hshort back rfl)

/-- A text has one list of tokens, and that is what `fields` reads. -/
theorem fields_eq_iff {text : Text} {tokens : List Text} :
    fields text = tokens ↔ Tokens text tokens := by
  constructor
  · rintro rfl
    exact tokens_fields text
  · intro h
    induction h with
    | done => exact fields_nil
    | blank hc _ ih => rw [fields_cons_of_blank hc, ih]
    | token hne hword hrest _ ih => rw [fields_append_of_word hne hword hrest, ih]

/-! ## Pieces between separators -/

/-- The text is the pieces with a separator between neighbours, and no piece holds one. -/
structure Separated (sep : Char) (text : Text) (pieces : List Text) : Prop where
  nonempty : pieces ≠ []
  clear : ∀ piece ∈ pieces, sep ∉ piece
  text_eq : text = join [sep] pieces

/-- No part of a list that is split at breaks holds one. -/
theorem of_mem_splitOnP {α : Type} {isBreak : α → Bool} {items part : List α}
    (h : part ∈ items.splitOnP isBreak) : ∀ a ∈ part, isBreak a = false := by
  induction items generalizing part with
  | nil => simp_all
  | cons a items ih =>
    rw [List.splitOnP_cons_eq_if_modifyHead] at h
    split at h
    · rcases List.mem_cons.1 h with rfl | h
      · simp
      · exact ih h
    · next ha =>
      obtain ⟨first, others, hparts⟩ :=
        List.exists_cons_of_ne_nil (List.splitOnP_ne_nil isBreak items)
      rw [hparts, List.modifyHead_cons] at h
      rcases List.mem_cons.1 h with rfl | h
      · have hfirst := ih (hparts ▸ List.mem_cons_self)
        exact List.forall_mem_cons.2 ⟨by simpa using ha, hfirst⟩
      · exact ih (hparts ▸ List.mem_cons_of_mem _ h)

theorem not_mem_of_mem_splitOn {sep : Char} {text piece : Text} (h : piece ∈ text.splitOn sep) :
    sep ∉ piece := by
  intro hsep
  exact absurd (of_mem_splitOnP h sep hsep) (by simp)

/-- Splitting at a character yields the pieces between its occurrences. -/
theorem splitOn_eq_iff {sep : Char} {text : Text} {pieces : List Text} :
    text.splitOn sep = pieces ↔ Separated sep text pieces := by
  constructor
  · rintro rfl
    exact ⟨List.splitOn_ne_nil sep text, fun piece h => not_mem_of_mem_splitOn h,
      (List.intercalate_splitOn sep).symm⟩
  · rintro ⟨hne, hclear, rfl⟩
    exact List.splitOn_intercalate sep hclear hne

/-- Every piece stands in what is joined from the pieces. -/
theorem infix_join_of_mem {sep : Text} {pieces : List Text} {piece : Text} (hp : piece ∈ pieces) :
    piece <:+: join sep pieces := by
  induction pieces with
  | nil => exact absurd hp List.not_mem_nil
  | cons first others ih =>
    cases others with
    | nil =>
      obtain rfl := List.mem_singleton.1 hp
      exact ⟨[], [], by simp [join]⟩
    | cons second others =>
      rw [join, List.intercalate_cons_cons]
      rcases List.mem_cons.1 hp with rfl | hp
      · rw [List.append_assoc]
        exact (List.prefix_append _ _).isInfix
      · exact (ih hp).trans (List.suffix_append _ _).isInfix

theorem Separated.infix_of_mem {sep : Char} {text : Text} {pieces : List Text}
    (h : Separated sep text pieces) {piece : Text} (hp : piece ∈ pieces) : piece <:+: text := by
  rw [h.text_eq]
  exact infix_join_of_mem hp

theorem Separated.mem_text {sep : Char} {text : Text} {pieces : List Text}
    (h : Separated sep text pieces) {piece : Text} (hp : piece ∈ pieces) {c : Char}
    (hc : c ∈ piece) : c ∈ text :=
  (h.infix_of_mem hp).subset hc

/-! ## Padding around a list -/

theorem isBlank_of_isPadding {c : Char} (h : isPadding c = true) : isBlank c = true := by
  simp only [isPadding, Bool.or_eq_true, beq_iff_eq] at h
  rcases h with rfl | rfl <;> decide

theorem isPadding_eq_false_of_isBlank {c : Char} (h : isBlank c = false) : isPadding c = false := by
  rw [← Bool.not_eq_true]
  intro hpadding
  rw [isBlank_of_isPadding hpadding] at h
  exact absurd h (by simp)

theorem Padding.blanks {text : Text} (h : Padding text) : ∀ c ∈ text, isBlank c = true :=
  fun c hc => isBlank_of_isPadding (h c hc)

theorem Padding.comma_not_mem {text : Text} (h : Padding text) : ',' ∉ text := by
  intro hc
  exact absurd (h ',' hc) (by decide)

/-- What stands in front of joined texts is in front of the first one. -/
theorem append_join_cons (sep front first : Text) (others : List Text) :
    front ++ join sep (first :: others) = join sep ((front ++ first) :: others) := by
  cases others with
  | nil => rw [join, join, List.intercalate_singleton, List.intercalate_singleton]
  | cons second others => simp [join, List.intercalate_cons_cons]

/-- Padding in front of a list belongs to its first piece. -/
theorem Separated.padding_append {front text first : Text} {others : List Text}
    (h : Separated ',' text (first :: others)) (hp : Padding front) :
    Separated ',' (front ++ text) ((front ++ first) :: others) := by
  refine ⟨by simp, ?_, ?_⟩
  · intro piece hpiece
    rcases List.mem_cons.1 hpiece with rfl | hpiece
    · rw [List.mem_append, not_or]
      exact ⟨hp.comma_not_mem, h.clear first List.mem_cons_self⟩
    · exact h.clear piece (List.mem_cons_of_mem _ hpiece)
  · rw [h.text_eq, append_join_cons]

theorem join_concat_append (sep : Text) (pieces : List Text) (last back : Text) :
    join sep (pieces ++ [last]) ++ back = join sep (pieces ++ [last ++ back]) := by
  induction pieces with
  | nil => simp [join]
  | cons first pieces ih =>
    rw [join] at ih ⊢
    rw [List.cons_append, List.cons_append, join, List.intercalate_cons_of_ne_nil (by simp),
      List.intercalate_cons_of_ne_nil (by simp), List.append_assoc, ih, join]

/-- Padding after a list belongs to its last piece. -/
theorem Separated.append_padding {text back last : Text} {pieces : List Text}
    (h : Separated ',' text (pieces ++ [last])) (hp : Padding back) :
    Separated ',' (text ++ back) (pieces ++ [last ++ back]) := by
  refine ⟨by simp, ?_, ?_⟩
  · intro piece hpiece
    rcases List.mem_append.1 hpiece with hpiece | hpiece
    · exact h.clear piece (List.mem_append_left _ hpiece)
    · obtain rfl := List.mem_singleton.1 hpiece
      rw [List.mem_append, not_or]
      exact ⟨h.clear last (by simp), hp.comma_not_mem⟩
  · rw [h.text_eq, join_concat_append]

theorem map_fields_splitOn_padding_append {front : Text} (hp : Padding front) (text : Text) :
    ((front ++ text).splitOn ',').map fields = (text.splitOn ',').map fields := by
  obtain ⟨first, others, hsplit⟩ := List.exists_cons_of_ne_nil (List.splitOn_ne_nil ',' text)
  have hsep := (splitOn_eq_iff.1 hsplit).padding_append hp
  rw [splitOn_eq_iff.2 hsep, hsplit, List.map_cons, List.map_cons,
    fields_blanks_append hp.blanks]

theorem map_fields_splitOn_append_padding (text : Text) {back : Text} (hp : Padding back) :
    ((text ++ back).splitOn ',').map fields = (text.splitOn ',').map fields := by
  obtain ⟨pieces, last, hsplit⟩ : ∃ pieces last, text.splitOn ',' = pieces ++ [last] :=
    ⟨_, _, (List.dropLast_concat_getLast (List.splitOn_ne_nil ',' text)).symm⟩
  have hsep := (splitOn_eq_iff.1 hsplit).append_padding hp
  rw [splitOn_eq_iff.2 hsep, hsplit, List.map_append, List.map_append, List.map_singleton,
    List.map_singleton, fields_append_blanks last hp.blanks]

/-- Trimming a list leaves the tokens of every piece. -/
theorem map_fields_splitOn_trim (text : Text) :
    ((trim text).splitOn ',').map fields = (text.splitOn ',').map fields := by
  obtain ⟨left, right, hl, hr, htext, -⟩ := exists_trim text
  conv_rhs => rw [htext]
  rw [map_fields_splitOn_append_padding _ hr, map_fields_splitOn_padding_append hl]

end WrapperGen.Text
