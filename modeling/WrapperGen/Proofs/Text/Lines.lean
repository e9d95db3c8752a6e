import WrapperGen.Proofs.Text.Characters
import WrapperGen.Proofs.Text.Tokens
import WrapperGen.Proofs.Text.Trim
import WrapperGen.Source

/-!
# Texts on one line

A text is on one line if no line break stands in it (`Text.OneLine`). The lines of a source are, so
is what is cut out of them, and so are tokens, because every line break is a blank. Texts on one
line come back as the lines of what is joined from them, unless the last one is empty
(`Text.lines_join_of_last`).
-/

namespace WrapperGen.Text

/-- The characters that end a line. -/
def lineBreaks : List Char :=
  ['\n', '\x0b', '\x0c', '\r', '\x1c', '\x1d', '\x1e', '\u0085', '\u2028', '\u2029']

theorem isLineBreak_iff {c : Char} : isLineBreak c = true ↔ c ∈ lineBreaks := by
  simp [isLineBreak, lineBreaks, or_assoc]

/-- A character of a kind to which no line break belongs is none. -/
theorem isLineBreak_eq_false {kind : Char → Bool}
    (hbreaks : (lineBreaks.all fun b => !kind b) = true) {c : Char} (hc : kind c = true) :
    isLineBreak c = false := by
  rw [← Bool.not_eq_true, isLineBreak_iff]
  intro hbreak
  have hnot := List.all_eq_true.1 hbreaks c hbreak
  rw [hc] at hnot
  exact absurd hnot (by simp)

/-- A plain character ends no line. -/
theorem isLineBreak_of_isPlain {c : Char} (h : isPlain c = true) : isLineBreak c = false :=
  isLineBreak_eq_false (by decide) h

/-- No line ends within the text. -/
def OneLine (text : Text) : Prop := ∀ c ∈ text, isLineBreak c = false

-- by the characters of the text, and not by all characters there are
instance (text : Text) : Decidable (OneLine text) :=
  List.decidableBAll (fun c => isLineBreak c = false) text

section OneLine

variable {text other : Text}

@[simp] theorem oneLine_nil : OneLine [] := by simp [OneLine]

@[simp] theorem oneLine_cons {c : Char} :
    OneLine (c :: text) ↔ isLineBreak c = false ∧ OneLine text := by
  simp [OneLine]

@[simp] theorem oneLine_append : OneLine (text ++ other) ↔ OneLine text ∧ OneLine other := by
  simp only [OneLine, List.mem_append, or_imp, forall_and]

theorem OneLine.mono (h : OneLine text) (hsub : other ⊆ text) : OneLine other :=
  fun c hc => h c (hsub hc)

theorem OneLine.feed_not_mem (h : OneLine text) : '\n' ∉ text := by
  intro hfeed
  exact absurd (h '\n' hfeed) (by decide)

/-- Texts without line feeds are not split at them. -/
theorem flatMap_splitOn_eq_self {lines : List Text} (h : ∀ line ∈ lines, '\n' ∉ line) :
    lines.flatMap (·.splitOn '\n') = lines := by
  have hlines : lines.flatMap (·.splitOn '\n') = lines.flatMap fun line => [line] :=
    List.flatMap_congr fun line hline => List.splitOn_eq_singleton (h line hline)
  rw [hlines, List.flatMap_singleton']

theorem OneLine.return_not_mem (h : OneLine text) : '\r' ∉ text := by
  intro hreturn
  exact absurd (h '\r' hreturn) (by decide)

/-- Every line break is a blank. -/
theorem oneLine_of_blank_free (h : ∀ c ∈ text, isBlank c = false) : OneLine text := by
  intro c hc
  have hbreaks : (lineBreaks.all fun b => !!isBlank b) = true := by decide
  exact isLineBreak_eq_false hbreaks (by simp [h c hc])

theorem oneLine_decimal (n : Nat) : OneLine (decimal n) :=
  over_decimal (fun _ hc => isLineBreak_of_isPlain hc) n

theorem oneLine_of_mem_fields (text : Text) {other : Text} (h : other ∈ fields text) :
    OneLine other :=
  oneLine_of_blank_free ((tokens_fields text).of_mem other h).2

end OneLine

/-! ## Trimming -/

theorem OneLine.trim {text : Text} (h : OneLine text) : OneLine (trim text) :=
  h.mono fun _ hc => mem_of_mem_stripBy hc

/-! ## The lines of a source -/

theorem of_mem_piecesBy {α : Type} {isBreak : α → Bool} {items piece : List α}
    (h : piece ∈ piecesBy isBreak items) : ∀ a ∈ piece, isBreak a = false := by
  fun_induction piecesBy isBreak items generalizing piece with
  | case1 => simp at h
  | case2 a rest hbreak ih =>
    rcases List.mem_cons.1 h with rfl | h
    · simp
    · exact ih h
  | case3 a rest hbreak hnone ih =>
    obtain rfl := List.mem_singleton.1 h
    simpa using hbreak
  | case4 a rest hbreak first others hpieces ih =>
    rcases List.mem_cons.1 h with rfl | h
    · have hfirst := ih (hpieces ▸ List.mem_cons_self)
      simpa [hbreak] using hfirst
    · exact ih (hpieces ▸ List.mem_cons_of_mem _ h)

/-! ### What elements show -/

section Shown

variable {α β : Type} (f : β → α)

theorem dropPairedReturns_map (shown : α → Char) (items : List β) :
    dropPairedReturns shown (items.map f) = (dropPairedReturns (shown ∘ f) items).map f := by
  fun_induction dropPairedReturns (shown ∘ f) items with
  | case1 => rfl
  | case2 => rfl
  | case3 a b rest hpair ih =>
    rw [← ih]
    exact if_pos hpair
  | case4 a b rest hpair ih =>
    exact (if_neg hpair).trans (congrArg (f a :: ·) ih)

theorem piecesBy_map (isBreak : α → Bool) (items : List β) :
    piecesBy isBreak (items.map f) = (piecesBy (isBreak ∘ f) items).map (List.map f) := by
  fun_induction piecesBy (isBreak ∘ f) items with
  | case1 => rfl
  | case2 a rest hbreak ih =>
    rw [List.map_cons, piecesBy, ih]
    exact if_pos hbreak
  | case3 a rest hbreak hnone ih =>
    rw [List.map_cons, piecesBy, ih, hnone]
    exact if_neg hbreak
  | case4 a rest hbreak first others hpieces ih =>
    rw [List.map_cons, piecesBy, ih, hpieces]
    exact if_neg hbreak

/-- Where lines end only depends on the characters that the elements show. -/
theorem linesBy_map (shown : α → Char) (items : List β) :
    linesBy shown (items.map f) = (linesBy (shown ∘ f) items).map (List.map f) := by
  rw [linesBy, dropPairedReturns_map, piecesBy_map]
  rfl

end Shown

/-! ### Lines stand in one piece -/

section Runs

variable {α : Type} {shown : α → Char} {items : List α}

theorem dropPairedReturns_cons_of_ne {a : α} (ha : shown a ≠ '\r') (rest : List α) :
    dropPairedReturns shown (a :: rest) = a :: dropPairedReturns shown rest := by
  cases rest with
  | nil => rfl
  | cons b rest => rw [dropPairedReturns, if_neg fun hpair => ha hpair.1]

/-- A first line begins the list, and every line stands in it: what is dropped ends a line. -/
theorem prefix_and_infix_of_linesBy :
    (∀ line ∈ (linesBy shown items).head?, line <+: items) ∧
      ∀ line ∈ linesBy shown items, line <:+: items := by
  unfold linesBy
  fun_induction dropPairedReturns shown items with
  | case1 => simp [piecesBy]
  | case2 a =>
    have hpieces : ∀ line ∈ piecesBy (fun a => isLineBreak (shown a)) [a], line <+: [a] := by
      rw [piecesBy, piecesBy]
      split <;> simp
    exact ⟨fun line hline => hpieces line (List.mem_of_head? hline),
      fun line hline => (hpieces line hline).isInfix⟩
  | case3 a b rest hpair ih =>
    refine ⟨fun line hline => ?_, fun line hline => (ih.2 line hline).trans
      (List.suffix_cons a (b :: rest)).isInfix⟩
    -- the line feed ends a line at once
    have hbreak : isLineBreak (shown b) = true := by rw [hpair.2]; decide
    rw [dropPairedReturns_cons_of_ne (by rw [hpair.2]; decide), piecesBy, if_pos hbreak] at hline
    obtain rfl := Option.some.inj hline
    exact List.nil_prefix
  | case4 a b rest hpair ih =>
    rw [piecesBy]
    split
    · refine ⟨fun line hline => ?_, fun line hline => ?_⟩
      · obtain rfl := Option.some.inj hline
        exact List.nil_prefix
      · rcases List.mem_cons.1 hline with rfl | hline
        · exact List.nil_infix
        · exact (ih.2 line hline).trans (List.suffix_cons a (b :: rest)).isInfix
    · split
      · have hline : [a] <+: a :: b :: rest := List.prefix_append [a] (b :: rest)
        refine ⟨fun line hhead => ?_, fun line hmem => ?_⟩
        · obtain rfl := Option.some.inj hhead
          exact hline
        · obtain rfl := List.mem_singleton.1 hmem
          exact hline.isInfix
      · next piece pieces hpieces =>
        rw [hpieces, List.head?_cons, List.forall_mem_cons] at ih
        have hline : a :: piece <+: a :: b :: rest :=
          (List.prefix_cons_inj a).2 (ih.1 piece rfl)
        refine ⟨fun line hhead => ?_, List.forall_mem_cons.2 ⟨hline.isInfix, fun line hmem => ?_⟩⟩
        · obtain rfl := Option.some.inj hhead
          exact hline
        · exact (ih.2.2 line hmem).trans (List.suffix_cons a (b :: rest)).isInfix

end Runs
end WrapperGen.Text

namespace WrapperGen.Source

open Text

/-- No line of a source holds a line break. -/
theorem oneLine_of_mem_lines {source line : Source} (h : line ∈ source.lines) :
    OneLine line.shown := by
  intro c hc
  obtain ⟨symbol, hsymbol, rfl⟩ := List.mem_map.1 hc
  exact of_mem_piecesBy h symbol hsymbol

theorem oneLine_trim {source : Source} (h : OneLine source.shown) : OneLine source.trim.shown :=
  h.mono (List.map_subset _ fun _ hsymbol => mem_of_mem_stripBy hsymbol)

theorem line_isInfix {source line : Source} (h : line ∈ source.lines) : line <:+: source :=
  prefix_and_infix_of_linesBy.2 line h

theorem trim_isInfix (source : Source) : source.trim <:+: source := stripBy_isInfix _ source

theorem shown_ofText (text : Text) : (ofText text).shown = text := by
  simp [shown, ofText, Symbol.shown, Function.comp_def]

theorem lines_ofText (text : Text) : (ofText text).lines = (Text.lines text).map ofText :=
  linesBy_map Symbol.char Symbol.shown text

theorem trim_ofText (text : Text) : (ofText text).trim = ofText (Text.trim text) :=
  stripBy_map Symbol.char _ text

end WrapperGen.Source

namespace WrapperGen.Text

/-! ## Lines of joined texts -/

section Pieces

variable {α : Type} {isBreak : α → Bool} {front : List α}

theorem piecesBy_eq_singleton (hne : front ≠ []) (hfront : ∀ a ∈ front, isBreak a = false) :
    piecesBy isBreak front = [front] := by
  induction front with
  | nil => exact absurd rfl hne
  | cons a front ih =>
    obtain ⟨ha, hfront⟩ := List.forall_mem_cons.1 hfront
    cases front with
    | nil => simp [piecesBy, ha]
    | cons b front => rw [piecesBy, ih (by simp) hfront, ha, if_neg (by simp)]

/-- In front of a break all parts are pieces, even if they are empty. -/
theorem piecesBy_append_break (isBreak : α → Bool) (front : List α) {b : α}
    (hb : isBreak b = true) (rest : List α) :
    piecesBy isBreak (front ++ b :: rest) =
      front.splitOnP isBreak ++ piecesBy isBreak rest := by
  induction front with
  | nil =>
    rw [List.nil_append, piecesBy, if_pos hb, List.splitOnP_nil]
    rfl
  | cons a front ih =>
    rw [List.cons_append, piecesBy, ih, List.splitOnP_cons_eq_if_modifyHead]
    split
    · rfl
    · obtain ⟨first, others, hparts⟩ :=
        List.exists_cons_of_ne_nil (List.splitOnP_ne_nil isBreak front)
      rw [hparts]
      rfl

theorem piecesBy_append_cons (hfront : ∀ a ∈ front, isBreak a = false) {b : α}
    (hb : isBreak b = true) (rest : List α) :
    piecesBy isBreak (front ++ b :: rest) = front :: piecesBy isBreak rest := by
  rw [piecesBy_append_break isBreak front hb, List.splitOnP_eq_singleton hfront,
    List.singleton_append]

theorem dropPairedReturns_eq_self {shown : α → Char} {items : List α}
    (h : ∀ a ∈ items, shown a ≠ '\r') : dropPairedReturns shown items = items := by
  fun_induction dropPairedReturns shown items with
  | case1 => rfl
  | case2 => rfl
  | case3 a b rest hpair ih => exact absurd hpair.1 (h a List.mem_cons_self)
  | case4 a b rest hpair ih => rw [ih (List.forall_mem_cons.1 h).2]

end Pieces

theorem lines_eq (text : Text) : lines text = piecesBy isLineBreak (dropPairedReturns id text) :=
  rfl

/--
Texts on one line are the lines of what is joined from them, unless the last one is empty: no line
follows a break at the end.
-/
theorem lines_join_of_last {parts : List Text} (hparts : ∀ part ∈ parts, OneLine part)
    (hlast : parts.getLast? ≠ some []) : lines (join ['\n'] parts) = parts := by
  have hreturns : ∀ c ∈ join ['\n'] parts, id c ≠ '\r' := by
    intro c hc hreturn
    obtain rfl : c = '\r' := hreturn
    obtain hc | ⟨part, hpart, hc⟩ := mem_join hc
    · exact absurd hc (by decide)
    · exact (hparts part hpart).return_not_mem hc
  rw [lines_eq, dropPairedReturns_eq_self hreturns]
  clear hreturns
  induction parts with
  | nil => rfl
  | cons first parts ih =>
    obtain ⟨hfirst, hrest⟩ := List.forall_mem_cons.1 hparts
    cases parts with
    | nil =>
      have hne : first ≠ [] := fun hnil => hlast (by rw [hnil]; rfl)
      rw [join, List.intercalate_singleton]
      exact piecesBy_eq_singleton hne hfirst
    | cons second parts =>
      have hbreak : isLineBreak '\n' = true := by decide
      rw [List.getLast?_cons_cons] at hlast
      rw [join, List.intercalate_cons_cons, List.append_assoc, List.singleton_append,
        piecesBy_append_cons hfirst hbreak, ← join, ih hrest hlast]

/-- Texts on one line that are not empty are the lines of what is joined from them. -/
theorem lines_join {parts : List Text} (hparts : ∀ part ∈ parts, OneLine part ∧ part ≠ []) :
    lines (join ['\n'] parts) = parts :=
  lines_join_of_last (fun part hpart => (hparts part hpart).1)
    fun hnil => (hparts [] (List.mem_of_getLast? hnil)).2 rfl

end WrapperGen.Text
