import WrapperGen.Proofs.Scan.Forms
import WrapperGen.Proofs.Text.LineStarts

/-!
# Texts without directive lines

A text holds a directive if what directive lines begin with stands where a line begins, with
nothing but padding in front of it (`Text.HoldsDirective`). It has directive lines exactly if it
holds one (`Source.directiveLines_ofText_eq_nil_iff`). Whether it does is found part by part, and a
line that begins with a word of its own holds none (`Text.OneLine.not_holdsDirective`).
-/

namespace WrapperGen

namespace Text

/-- What directive lines begin with stands at the beginning of a line of the text. -/
def HoldsDirective (text : Text) : Prop :=
  ∃ padding, Padding padding ∧ StartsLine (padding ++ directivePrefix) text

theorem isPadding_eq_false_of_mem_directivePrefix :
    ∀ c ∈ directivePrefix, isPadding c = false := by
  have hall : (directivePrefix.all fun c => !isPadding c) = true := by decide
  simpa using hall

theorem append_directivePrefix_ne_nil (padding : Text) : padding ++ directivePrefix ≠ [] :=
  List.append_ne_nil_of_right_ne_nil padding (by decide)

theorem Padding.oneLine {padding : Text} (h : Padding padding) : OneLine padding :=
  fun c hc => isLineBreak_eq_false (by decide) (h c hc)

theorem Padding.oneLine_directive {padding : Text} (h : Padding padding) :
    OneLine (padding ++ directivePrefix) :=
  oneLine_append.2 ⟨h.oneLine, by decide⟩

/-! ## Lines behind padding -/

section Lines

variable {text front back name : Text} {c : Char}

theorem exists_padding_prefix_iff :
    (∃ padding, Padding padding ∧ padding ++ directivePrefix <+: text) ↔
      directivePrefix <+: text.dropWhile isPadding := by
  constructor
  · rintro ⟨padding, hpadding, rest, rfl⟩
    rw [List.append_assoc, List.dropWhile_append_of_pos hpadding]
    exact List.prefix_append directivePrefix rest
  · rintro ⟨rest, hrest⟩
    refine ⟨text.takeWhile isPadding, fun c hc => List.all_eq_true.1 List.all_takeWhile c hc, rest,
      ?_⟩
    rw [List.append_assoc, hrest, List.takeWhile_append_dropWhile]

/-- Padding behind a line does not matter, since a directive does not end in padding. -/
theorem prefix_trim_iff :
    directivePrefix <+: trim text ↔ directivePrefix <+: text.dropWhile isPadding := by
  obtain ⟨back, hsplit, hback, -⟩ := exists_dropEndWhile isPadding (text.dropWhile isPadding)
  have htrim : trim text <+: text.dropWhile isPadding := ⟨back, hsplit.symm⟩
  refine ⟨fun h => h.trans htrim, fun h => ?_⟩
  rcases List.prefix_or_prefix_of_prefix h htrim with hprefix | ⟨middle, hmiddle⟩
  · exact hprefix
  · -- what is left of the directive would be padding
    obtain ⟨rest, hrest⟩ := h
    have hpadding : middle ++ rest = back := by
      rw [hsplit, ← hmiddle, List.append_assoc] at hrest
      exact List.append_cancel_left hrest
    cases middle with
    | nil =>
      rw [List.append_nil] at hmiddle
      exact hmiddle ▸ List.prefix_rfl
    | cons c middle =>
      have hc := hback c (hpadding ▸ List.mem_cons_self)
      have hmem : c ∈ directivePrefix := hmiddle ▸ List.mem_append_right _ List.mem_cons_self
      rw [isPadding_eq_false_of_mem_directivePrefix c hmem] at hc
      exact absurd hc (by simp)

/-- The first line of a text is meant, or one behind a break. -/
theorem holdsDirective_iff :
    text.HoldsDirective ↔ directivePrefix <+: text.dropWhile isPadding ∨
      ∃ padding, Padding padding ∧ FollowsBreak (padding ++ directivePrefix) text := by
  rw [← exists_padding_prefix_iff, ← exists_or]
  simp only [← and_or_left]
  rfl

theorem OneLine.holdsDirective_iff (h : text.OneLine) :
    text.HoldsDirective ↔ directivePrefix <+: text.dropWhile isPadding := by
  rw [Text.holdsDirective_iff, or_iff_left]
  rintro ⟨padding, -, hbreak⟩
  exact h.not_followsBreak hbreak

/-! ## Words at the beginning of a line -/

/-- Whether no directive line begins like the text, whatever comes next. -/
def opensOtherwise (text : Text) : Bool :=
  !directivePrefix.isPrefixOf (text.dropWhile isPadding) &&
    !(text.dropWhile isPadding).isPrefixOf directivePrefix

theorem not_prefix_of_opensOtherwise (hfront : front <+: text)
    (hopens : opensOtherwise front = true) : ¬ directivePrefix <+: text.dropWhile isPadding := by
  obtain ⟨rest, rfl⟩ := hfront
  simp only [opensOtherwise, Bool.and_eq_true, Bool.not_eq_true', ← Bool.not_eq_true,
    List.isPrefixOf_iff_prefix] at hopens
  have hword : front.dropWhile isPadding ≠ [] := fun hnil => hopens.2 (by simp [hnil])
  rw [List.dropWhile_append, if_neg (by simpa using hword)]
  intro hprefix
  exact (List.prefix_or_prefix_of_prefix hprefix (List.prefix_append _ rest)).elim hopens.1 hopens.2

/-- A line that begins otherwise holds no directive. -/
theorem OneLine.not_holdsDirective (h : text.OneLine) (hfront : front <+: text)
    (hopens : opensOtherwise front = true) : ¬ text.HoldsDirective := by
  rw [h.holdsDirective_iff]
  exact not_prefix_of_opensOtherwise hfront hopens

theorem not_holdsDirective_nil : ¬ HoldsDirective [] := by
  rw [oneLine_nil.holdsDirective_iff]
  decide

/-- A line begins like a directive if the word does that the line begins with. -/
theorem prefix_dropWhile_word_iff {padding : Text} (hpadding : Padding padding)
    (hname : ∀ c ∈ name, isBlank c = false) (hne : name ≠ []) (hc : c ∉ directivePrefix) :
    directivePrefix <+: (padding ++ (name ++ c :: back)).dropWhile isPadding ↔
      directivePrefix <+: name := by
  obtain ⟨d, others, rfl⟩ := List.exists_cons_of_ne_nil hne
  have hd : isPadding d = false := isPadding_eq_false_of_isBlank (hname d List.mem_cons_self)
  rw [List.dropWhile_append_of_pos hpadding, List.cons_append,
    List.dropWhile_cons_of_neg (by simp [hd]), ← List.cons_append, prefix_append_cons_iff hc]

/-! ## Texts that are put together -/

theorem holdsDirective_padding_append_iff {padding : Text} (h : Padding padding) :
    HoldsDirective (padding ++ text) ↔ HoldsDirective text := by
  simp only [holdsDirective_iff, List.dropWhile_append_of_pos h, h.oneLine.followsBreak_append_iff]

theorem holdsDirective_append_cons_iff (hc : isLineBreak c = true) :
    HoldsDirective (front ++ c :: back) ↔ HoldsDirective front ∨ HoldsDirective back := by
  unfold HoldsDirective
  rw [← exists_or]
  refine exists_congr fun padding => ?_
  rw [← and_or_left]
  exact and_congr_right fun hpadding => startsLine_append_cons_iff hpadding.oneLine_directive hc

/-- A text holds a directive in one of the lines in which the lines of the text begin. -/
theorem holdsDirective_iff_exists {lines : List Text}
    (h : ∀ part, OneLine part → part ≠ [] →
      (StartsLine part text ↔ ∃ line ∈ lines, StartsLine part line)) :
    HoldsDirective text ↔ ∃ line ∈ lines, HoldsDirective line := by
  have hlines : ∀ padding, Padding padding →
      (StartsLine (padding ++ directivePrefix) text ↔
        ∃ line ∈ lines, StartsLine (padding ++ directivePrefix) line) := fun padding hpadding =>
    h _ hpadding.oneLine_directive (append_directivePrefix_ne_nil padding)
  constructor
  · rintro ⟨padding, hpadding, hstarts⟩
    obtain ⟨line, hline, hstarts⟩ := (hlines padding hpadding).1 hstarts
    exact ⟨line, hline, padding, hpadding, hstarts⟩
  · rintro ⟨line, hline, padding, hpadding, hstarts⟩
    exact ⟨padding, hpadding, (hlines padding hpadding).2 ⟨line, hline, hstarts⟩⟩

theorem holdsDirective_ofLines_iff {lines : List Text} :
    HoldsDirective (ofLines lines) ↔ ∃ line ∈ lines, HoldsDirective line :=
  holdsDirective_iff_exists fun _ hpart hne => startsLine_ofLines_iff hpart hne

theorem holdsDirective_splitOn_iff :
    HoldsDirective text ↔ ∃ piece ∈ text.splitOn '\n', HoldsDirective piece := by
  refine holdsDirective_iff_exists fun part hpart hne => ?_
  rw [← startsLine_join_iff hpart hne, join, List.intercalate_splitOn]

end Lines

end Text

namespace Source

variable {text : Text}

theorem exists_directiveLine_iff :
    (∃ numbered, numbered ∈ (ofText text).directiveLines) ↔
      ∃ line ∈ Text.lines text, directivePrefix <+: Text.trim line := by
  have hshown : ∀ line, (ofText line).trim.shown = Text.trim line := by
    intro line
    rw [trim_ofText, shown_ofText]
  constructor
  · rintro ⟨numbered, hmem⟩
    obtain ⟨index, line, hindex, rfl, hprefix⟩ := mem_directiveLines_iff.1 hmem
    have hline := List.mem_of_getElem? hindex
    rw [lines_ofText] at hline
    obtain ⟨part, hpart, rfl⟩ := List.mem_map.1 hline
    exact ⟨part, hpart, hshown part ▸ hprefix⟩
  · rintro ⟨line, hline, hprefix⟩
    have hmem : ofText line ∈ (ofText text).lines := by
      rw [lines_ofText]
      exact List.mem_map_of_mem hline
    obtain ⟨index, hindex⟩ := List.mem_iff_getElem?.1 hmem
    exact ⟨⟨index + 1, (ofText line).trim⟩,
      mem_directiveLines_iff.2 ⟨index, ofText line, hindex, rfl, (hshown line).symm ▸ hprefix⟩⟩

/-- A text has no directive lines exactly if it holds no directive. -/
theorem directiveLines_ofText_eq_nil_iff :
    (ofText text).directiveLines = [] ↔ ¬ text.HoldsDirective := by
  have hlines : (∃ line ∈ Text.lines text, directivePrefix <+: Text.trim line) ↔
      text.HoldsDirective := by
    simp only [Text.prefix_trim_iff, ← Text.exists_padding_prefix_iff]
    constructor
    · rintro ⟨line, hline, padding, hpadding, hprefix⟩
      exact ⟨padding, hpadding, (Text.exists_line_iff hpadding.oneLine_directive
        (Text.append_directivePrefix_ne_nil padding)).1 ⟨line, hline, hprefix⟩⟩
    · rintro ⟨padding, hpadding, hstarts⟩
      obtain ⟨line, hline, hprefix⟩ := (Text.exists_line_iff hpadding.oneLine_directive
        (Text.append_directivePrefix_ne_nil padding)).2 hstarts
      exact ⟨line, hline, padding, hpadding, hprefix⟩
  rw [← hlines, ← exists_directiveLine_iff, List.eq_nil_iff_forall_not_mem, not_exists]

end Source

end WrapperGen
