import WrapperGen.Proofs.Text.Lines

/-!
# Lines and line feeds

A line ends at ten characters, and the line feed is one of them. So the lines of a list are found
piece by piece between its line feeds: a piece without the carriage return that may end it is cut at
its own breaks (`Text.breakParts`), and what all pieces are cut into are the lines
(`Text.exists_flatMap_breakParts`).
-/

namespace WrapperGen.Text

variable {α : Type}

section Pieces

variable (shown : α → Char)

/-- The pieces of a list between its line feeds. -/
def feedPieces (items : List α) : List (List α) := items.splitOnP fun a => shown a == '\n'

/-- The piece without the carriage return that may end it. -/
def dropReturn (piece : List α) : List α :=
  if piece.getLast?.any (shown · == '\r') then piece.dropLast else piece

/-- The parts of a piece between all of its line breaks. -/
def breakParts (piece : List α) : List (List α) :=
  (dropReturn shown piece).splitOnP fun a => isLineBreak (shown a)

/-- How many line breaks a piece has besides the one that ends it. -/
def strayBreaks (piece : List α) : Nat :=
  (dropReturn shown piece).countP fun a => isLineBreak (shown a)

end Pieces

/-! ## Cutting at all breaks -/

section Breaks

variable {isBreak : α → Bool}

theorem length_splitOnP (items : List α) :
    (items.splitOnP isBreak).length = items.countP isBreak + 1 := by
  induction items with
  | nil => simp
  | cons a items ih =>
    rw [List.splitOnP_cons_eq_if_modifyHead]
    cases ha : isBreak a with
    | true => simp [ha, ih]
    | false => simp [ha, ih]

/-- The first part is the whole list, or a break ends it. -/
theorem exists_splitOnP_cons (isBreak : α → Bool) (items : List α) :
    ∃ first others, items.splitOnP isBreak = first :: others ∧
      (items = first ∨ ∃ b rest, isBreak b = true ∧ items = first ++ b :: rest) := by
  induction items with
  | nil => exact ⟨[], [], by simp, .inl rfl⟩
  | cons a items ih =>
    obtain ⟨first, others, hparts, hitems⟩ := ih
    rw [List.splitOnP_cons_eq_if_modifyHead]
    cases ha : isBreak a with
    | true => exact ⟨[], _, if_pos rfl, .inr ⟨a, items, ha, rfl⟩⟩
    | false =>
      refine ⟨a :: first, others, by rw [hparts]; rfl, ?_⟩
      rcases hitems with rfl | ⟨b, rest, hb, rfl⟩
      · exact .inl rfl
      · exact .inr ⟨b, rest, hb, rfl⟩

/-- At the end an empty part is no piece. -/
theorem exists_splitOnP_eq_piecesBy (items : List α) :
    ∃ last : List (List α), (last = [] ∨ last = [[]]) ∧
      items.splitOnP isBreak = piecesBy isBreak items ++ last := by
  induction items with
  | nil => exact ⟨[[]], .inr rfl, by simp [piecesBy]⟩
  | cons a items ih =>
    obtain ⟨last, hlast, hparts⟩ := ih
    rw [List.splitOnP_cons_eq_if_modifyHead, piecesBy, hparts]
    split
    · exact ⟨last, hlast, rfl⟩
    · split
      · next hnone =>
        have hempty : last = [[]] := by
          refine hlast.resolve_left fun hnil => List.splitOnP_ne_nil isBreak items ?_
          rw [hparts, hnone, hnil]
          rfl
        exact ⟨[], .inl rfl, by rw [hnone, hempty]; rfl⟩
      · next first others hpieces => exact ⟨last, hlast, by rw [hpieces]; rfl⟩

end Breaks

/-! ## The lines of pieces -/

section Lines

variable {shown : α → Char} {piece : List α}

theorem length_breakParts (piece : List α) :
    (breakParts shown piece).length = strayBreaks shown piece + 1 :=
  length_splitOnP _

/-- A piece without stray breaks is a line, except for the carriage return that may end it. -/
theorem breakParts_of_strayBreaks_eq_zero (h : strayBreaks shown piece = 0) :
    breakParts shown piece = [dropReturn shown piece] :=
  List.splitOnP_eq_singleton fun a ha => by simpa using List.countP_eq_zero.1 h a ha

theorem dropReturn_cons_cons (a b : α) (rest : List α) :
    dropReturn shown (a :: b :: rest) = a :: dropReturn shown (b :: rest) := by
  unfold dropReturn
  rw [List.getLast?_cons_cons, List.dropLast_cons_cons]
  split <;> rfl

/-- The carriage return in front of a line feed belongs to it. -/
theorem dropPairedReturns_append_feed (hpiece : ∀ a ∈ piece, shown a ≠ '\n') {b : α}
    (hb : shown b = '\n') (rest : List α) :
    dropPairedReturns shown (piece ++ b :: rest) =
      dropReturn shown piece ++ b :: dropPairedReturns shown rest := by
  have hfeed : shown b ≠ '\r' := by
    rw [hb]
    decide
  induction piece with
  | nil =>
    rw [List.nil_append, dropPairedReturns_cons_of_ne hfeed]
    rfl
  | cons a piece ih =>
    obtain ⟨ha, hpiece⟩ := List.forall_mem_cons.1 hpiece
    cases piece with
    | nil =>
      rw [List.singleton_append, dropPairedReturns, dropReturn, dropPairedReturns_cons_of_ne hfeed]
      by_cases hreturn : shown a = '\r'
      · simp [hreturn, hb]
      · simp [hreturn]
    | cons c piece =>
      have hc : shown c ≠ '\n' := hpiece c List.mem_cons_self
      rw [List.cons_append, List.cons_append, dropPairedReturns, if_neg fun hpair => hc hpair.2,
        dropReturn_cons_cons, List.cons_append, ← ih hpiece, List.cons_append]

theorem dropPairedReturns_of_feed_free (hpiece : ∀ a ∈ piece, shown a ≠ '\n') :
    dropPairedReturns shown piece = piece := by
  fun_induction dropPairedReturns shown piece with
  | case1 => rfl
  | case2 => rfl
  | case3 a b rest hpair => exact absurd hpair.2 (hpiece b (by simp))
  | case4 a b rest hpair ih => rw [ih (List.forall_mem_cons.1 hpiece).2]

theorem linesBy_append_feed (hpiece : ∀ a ∈ piece, shown a ≠ '\n') {b : α} (hb : shown b = '\n')
    (rest : List α) :
    linesBy shown (piece ++ b :: rest) = breakParts shown piece ++ linesBy shown rest := by
  have hbreak : isLineBreak (shown b) = true := by
    rw [hb]
    decide
  rw [linesBy, dropPairedReturns_append_feed hpiece hb]
  exact piecesBy_append_break (fun a => isLineBreak (shown a)) _ hbreak _

/-- Behind the last line feed there is no line if nothing stands there. -/
theorem exists_breakParts_eq_linesBy (hpiece : ∀ a ∈ piece, shown a ≠ '\n') :
    ∃ last : List (List α), (last = [] ∨ last = [[]]) ∧
      breakParts shown piece = linesBy shown piece ++ last := by
  rw [linesBy, dropPairedReturns_of_feed_free hpiece, breakParts, dropReturn]
  split
  · next hreturn =>
    obtain rfl | ⟨front, c, rfl⟩ := piece.eq_nil_or_concat
    · exact absurd hreturn (by simp)
    · rw [List.concat_eq_append] at hreturn ⊢
      rw [List.getLast?_concat, Option.any_some, beq_iff_eq] at hreturn
      have hbreak : isLineBreak (shown c) = true := by
        rw [hreturn]
        decide
      refine ⟨[], .inl rfl, ?_⟩
      rw [List.dropLast_concat, List.append_nil,
        piecesBy_append_break (fun a => isLineBreak (shown a)) front hbreak, piecesBy,
        List.append_nil]
  · exact exists_splitOnP_eq_piecesBy piece

/-- A list has a first line feed or none. -/
theorem feed_free_or_exists_feed (shown : α → Char) (items : List α) :
    (∀ a ∈ items, shown a ≠ '\n') ∨
      ∃ piece b rest, (∀ a ∈ piece, shown a ≠ '\n') ∧ shown b = '\n' ∧
        items = piece ++ b :: rest := by
  induction items with
  | nil => exact .inl (by simp)
  | cons a items ih =>
    by_cases ha : shown a = '\n'
    · exact .inr ⟨[], a, items, by simp, ha, rfl⟩
    · obtain hfree | ⟨piece, b, rest, hpiece, hb, rfl⟩ := ih
      · exact .inl (List.forall_mem_cons.2 ⟨ha, hfree⟩)
      · exact .inr ⟨a :: piece, b, rest, List.forall_mem_cons.2 ⟨ha, hpiece⟩, hb, rfl⟩

theorem feedPieces_of_feed_free (hpiece : ∀ a ∈ piece, shown a ≠ '\n') :
    feedPieces shown piece = [piece] :=
  List.splitOnP_eq_singleton fun a ha => by simpa using hpiece a ha

theorem feedPieces_append_feed (hpiece : ∀ a ∈ piece, shown a ≠ '\n') {b : α}
    (hb : shown b = '\n') (rest : List α) :
    feedPieces shown (piece ++ b :: rest) = piece :: feedPieces shown rest :=
  List.splitOnP_append_cons_of_forall_mem (fun a ha => by simpa using hpiece a ha) b
    (by simpa using hb) rest

theorem feed_free_of_mem_feedPieces {items : List α} (h : piece ∈ feedPieces shown items) :
    ∀ a ∈ piece, shown a ≠ '\n' := by
  intro a ha
  simpa using of_mem_splitOnP h a ha

/-- The lines of a list are the parts of its pieces, except for an empty one at the end. -/
theorem exists_flatMap_breakParts (shown : α → Char) (items : List α) :
    ∃ last : List (List α), (last = [] ∨ last = [[]]) ∧
      (feedPieces shown items).flatMap (breakParts shown) = linesBy shown items ++ last := by
  induction hn : items.length using Nat.strongRecOn generalizing items with
  | ind n ih =>
    obtain hfree | ⟨piece, b, rest, hpiece, hb, rfl⟩ := feed_free_or_exists_feed shown items
    · rw [feedPieces_of_feed_free hfree, List.flatMap_singleton]
      exact exists_breakParts_eq_linesBy hfree
    · have hshort : rest.length < n := by
        rw [← hn, List.length_append, List.length_cons]
        omega
      obtain ⟨last, hlast, hrest⟩ := ih _ hshort rest rfl
      refine ⟨last, hlast, ?_⟩
      rw [feedPieces_append_feed hpiece hb, List.flatMap_cons, hrest,
        linesBy_append_feed hpiece hb, List.append_assoc]

end Lines

end WrapperGen.Text
