import Mathlib.Data.List.MinMax
import WrapperGen.Proofs.PackageClause
import WrapperGen.Proofs.Scan.DirectiveLines
import WrapperGen.Proofs.Text.FeedPieces

/-!
# Directive lines and line feeds

The reader of package clauses ends a comment at a line feed, as the language does; the scanner ends
a line at every line break. Both read the same source. A break that is not at the end of a piece
between line feeds is stray: the scanner takes what follows it for a line of its own, so that a
comment may hold directives, and counts the lines behind it differently
(`Source.mem_directiveLines_iff_parts`). The directive lines are those that end at line feeds
exactly if no piece has a directive once there has been a stray break
(`Source.directiveLines_eq_feed_iff`).
-/

namespace WrapperGen

namespace Source

variable {source piece : Source}

/-- The pieces of a source between its line feeds. -/
def pieces (source : Source) : List Source := Text.feedPieces Symbol.shown source

/-- The piece without the carriage return that may end it. -/
def withoutReturn (piece : Source) : Source := Text.dropReturn Symbol.shown piece

/-- The parts of a piece between all of its line breaks. -/
def parts (piece : Source) : List Source := Text.breakParts Symbol.shown piece

/-- How many line breaks a piece has besides the one that ends it. -/
def strayBreaks (piece : Source) : Nat := Text.strayBreaks Symbol.shown piece

/-- The stray breaks of all pieces. -/
def strayBreaksOfAll : List Source → Nat
  | [] => 0
  | piece :: pieces => piece.strayBreaks + strayBreaksOfAll pieces

/-- The directive lines of a source whose lines end at line feeds alone. -/
def feedDirectiveLines (source : Source) : List NumberedLine :=
  directivesFrom 1 (source.pieces.map withoutReturn)

/-! ## Numbered lines -/

theorem directivesFrom_cons (first : Nat) (line : Source) (lines : List Source) :
    directivesFrom first (line :: lines) =
      directivesFrom first [line] ++ directivesFrom (first + 1) lines := by
  rw [directivesFrom, numberedFrom_cons, List.filter_cons]
  cases h : NumberedLine.isDirective ⟨first, line.trim⟩ <;>
    simp [directivesFrom, numberedFrom, h]

theorem directivesFrom_append (first : Nat) (front back : List Source) :
    directivesFrom first (front ++ back) =
      directivesFrom first front ++ directivesFrom (first + front.length) back := by
  induction front generalizing first with
  | nil => rfl
  | cons line front ih =>
    rw [List.cons_append, directivesFrom_cons, ih, directivesFrom_cons first line front,
      List.append_assoc, List.length_cons, Nat.add_right_comm first, Nat.add_assoc]

theorem directivesFrom_eq_nil_iff {first : Nat} {lines : List Source} :
    directivesFrom first lines = [] ↔ ∀ line ∈ lines, ¬ directivePrefix <+: line.trim.shown := by
  rw [List.eq_nil_iff_forall_not_mem]
  simp only [mem_directivesFrom_iff]
  constructor
  · intro h line hline hshared
    obtain ⟨index, hindex⟩ := List.mem_iff_getElem?.1 hline
    exact h _ ⟨index, line, hindex, rfl, hshared⟩
  · rintro h numbered ⟨index, line, hindex, rfl, hshared⟩
    exact h line (List.mem_of_getElem? hindex) hshared

theorem oneLine_of_mem_parts {part : Source} (h : part ∈ piece.parts) : part.shown.OneLine := by
  intro c hc
  obtain ⟨symbol, hsymbol, rfl⟩ := List.mem_map.1 hc
  exact Text.of_mem_splitOnP h symbol hsymbol

theorem strayBreaks_eq_zero_iff : piece.strayBreaks = 0 ↔ piece.withoutReturn.shown.OneLine := by
  rw [strayBreaks, Text.strayBreaks, List.countP_eq_zero]
  simp [Text.OneLine, shown, withoutReturn]

theorem parts_of_strayBreaks_eq_zero (h : piece.strayBreaks = 0) :
    piece.parts = [piece.withoutReturn] :=
  Text.breakParts_of_strayBreaks_eq_zero h

theorem length_parts (piece : Source) : piece.parts.length = piece.strayBreaks + 1 :=
  Text.length_breakParts piece

/-! ## Lines of pieces -/

theorem shown_trim (source : Source) : source.trim.shown = Text.trim source.shown :=
  (Text.stripBy_map Symbol.shown Text.isPadding source).symm

/-- A piece begins like a directive if its first part does. -/
theorem exists_parts_cons (piece : Source) :
    ∃ (first : Source) (others : List Source), piece.parts = first :: others ∧
      (directivePrefix <+: piece.withoutReturn.trim.shown ↔
        directivePrefix <+: first.trim.shown) := by
  obtain ⟨first, others, hparts, hpiece⟩ :=
    Text.exists_splitOnP_cons (fun a => Text.isLineBreak a.shown) piece.withoutReturn
  refine ⟨first, others, hparts, ?_⟩
  rcases hpiece with hpiece | ⟨b, rest, hb, hpiece⟩
  · rw [hpiece]
  · have hshown : piece.withoutReturn.shown = shown first ++ b.shown :: shown rest := by
      rw [hpiece, shown, List.map_append, List.map_cons]
      rfl
    simp only [shown_trim, hshown, Text.prefix_trim_iff, ← Text.exists_padding_prefix_iff]
    refine exists_congr fun padding => and_congr_right fun hpadding => ?_
    exact Text.prefix_append_cons_iff (Text.break_not_mem hpadding.oneLine_directive hb)

theorem directivesFrom_empty_line (first : Nat) : directivesFrom first [[]] = [] := rfl

/-- The directive lines are found in the parts of the pieces. -/
theorem directiveLines_eq_parts (source : Source) :
    source.directiveLines = directivesFrom 1 (source.pieces.flatMap parts) := by
  obtain ⟨last, hlast, hparts⟩ := Text.exists_flatMap_breakParts Symbol.shown source
  have hnone : directivesFrom (1 + source.lines.length) last = [] := by
    rcases hlast with rfl | rfl
    · rfl
    · exact directivesFrom_empty_line _
  calc source.directiveLines
      = directivesFrom 1 source.lines := directiveLines_eq source
    _ = directivesFrom 1 (source.lines ++ last) := by
        rw [directivesFrom_append, hnone, List.append_nil]
    _ = directivesFrom 1 (source.pieces.flatMap parts) := congrArg _ hparts.symm

theorem directiveLines_of_mem_pieces (h : piece ∈ source.pieces) :
    piece.directiveLines = directivesFrom 1 piece.parts := by
  have hfree := Text.feed_free_of_mem_feedPieces h
  rw [directiveLines_eq_parts, pieces, Text.feedPieces_of_feed_free hfree, List.flatMap_singleton]

theorem directiveLines_eq_nil_iff_of_mem_pieces (h : piece ∈ source.pieces) :
    piece.directiveLines = [] ↔ ∀ part ∈ piece.parts, ¬ directivePrefix <+: part.trim.shown := by
  rw [directiveLines_of_mem_pieces h, directivesFrom_eq_nil_iff]

/-! ## Where the readings part -/

/-- Once the parts are counted ahead, every directive among the pieces is found behind itself. -/
theorem exists_greater_of_mem_feed {pieces : List Source} {first ahead : Nat} (h : first < ahead)
    {numbered : NumberedLine} (hmem : numbered ∈ directivesFrom first (pieces.map withoutReturn)) :
    ∃ other ∈ directivesFrom ahead (pieces.flatMap parts), numbered.number < other.number := by
  induction pieces generalizing first ahead with
  | nil => exact absurd hmem List.not_mem_nil
  | cons piece pieces ih =>
    obtain ⟨part, others, hparts, hshared⟩ := exists_parts_cons piece
    rw [List.map_cons, directivesFrom_cons, List.mem_append] at hmem
    rw [List.flatMap_cons, directivesFrom_append]
    rcases hmem with hmem | hmem
    · obtain ⟨index, line, hindex, rfl, hdirective⟩ := mem_directivesFrom_iff.1 hmem
      obtain ⟨rfl, rfl⟩ : index = 0 ∧ piece.withoutReturn = line := by
        cases index with
        | zero => simpa using hindex
        | succ index => simp at hindex
      have hfirst : ⟨ahead, part.trim⟩ ∈ directivesFrom ahead piece.parts :=
        mem_directivesFrom_iff.2 ⟨0, part, by rw [hparts]; rfl, rfl, hshared.1 hdirective⟩
      exact ⟨_, List.mem_append_left _ hfirst, h⟩
    · have hahead : first + 1 < ahead + piece.parts.length := by
        rw [length_parts]
        omega
      obtain ⟨other, hother, hlt⟩ := ih hahead hmem
      exact ⟨other, List.mem_append_right _ hother, hlt⟩

/-- No finite list has a greater element for each of its elements. -/
theorem eq_nil_of_forall_exists_greater {items : List NumberedLine}
    (h : ∀ numbered ∈ items, ∃ other ∈ items, numbered.number < other.number) : items = [] := by
  by_contra hne
  obtain ⟨greatest, hgreatest⟩ :=
    Option.ne_none_iff_exists'.1 (mt List.argmax_eq_none.1 hne : items.argmax (·.number) ≠ none)
  obtain ⟨other, hother, hlt⟩ := h greatest (List.argmax_mem hgreatest)
  exact absurd (List.le_of_mem_argmax hother hgreatest) (not_le.2 hlt)

theorem oneLine_of_mem_directivesFrom_parts {pieces : List Source} {first : Nat}
    {numbered : NumberedLine} (h : numbered ∈ directivesFrom first (pieces.flatMap parts)) :
    numbered.line.shown.OneLine := by
  obtain ⟨index, part, hindex, rfl, -⟩ := mem_directivesFrom_iff.1 h
  obtain ⟨piece, -, hpart⟩ := List.mem_flatMap.1 (List.mem_of_getElem? hindex)
  exact oneLine_trim (oneLine_of_mem_parts hpart)

/-- A stray break is not trimmed. -/
theorem not_oneLine_trim (h : piece.strayBreaks ≠ 0) :
    ¬ piece.withoutReturn.trim.shown.OneLine := by
  rw [shown_trim]
  intro hone
  obtain ⟨left, right, hleft, hright, htext, -⟩ := Text.exists_trim piece.withoutReturn.shown
  refine h (strayBreaks_eq_zero_iff.2 ?_)
  rw [htext]
  simp [hleft.oneLine, hright.oneLine, hone]

/-- From a stray break on, the readings agree only if neither finds a directive. -/
theorem directivesFrom_eq_iff_of_stray {pieces : List Source} (hstray : piece.strayBreaks ≠ 0)
    (first : Nat) :
    directivesFrom first ((piece :: pieces).flatMap parts) =
        directivesFrom first ((piece :: pieces).map withoutReturn) ↔
      ∀ other ∈ piece :: pieces, ∀ part ∈ other.parts, ¬ directivePrefix <+: part.trim.shown := by
  have hnil : directivesFrom first ((piece :: pieces).flatMap parts) = [] ↔
      ∀ other ∈ piece :: pieces, ∀ part ∈ other.parts, ¬ directivePrefix <+: part.trim.shown := by
    rw [directivesFrom_eq_nil_iff, List.forall_mem_flatMap]
  rw [← hnil]
  constructor
  · intro heq
    refine eq_nil_of_forall_exists_greater fun numbered hmem => ?_
    have hone := oneLine_of_mem_directivesFrom_parts hmem
    rw [heq, List.map_cons, directivesFrom_cons, List.mem_append] at hmem
    rcases hmem with hmem | hmem
    · -- the piece with the stray break is no line of the scanner
      obtain ⟨index, line, hindex, rfl, -⟩ := mem_directivesFrom_iff.1 hmem
      obtain rfl : line = piece.withoutReturn := by
        simpa using List.mem_of_getElem? hindex
      exact absurd hone (not_oneLine_trim hstray)
    · have hahead : first + 1 < first + piece.parts.length := by
        rw [length_parts]
        omega
      obtain ⟨other, hother, hlt⟩ := exists_greater_of_mem_feed hahead hmem
      rw [List.flatMap_cons, directivesFrom_append]
      exact ⟨other, List.mem_append_right _ hother, hlt⟩
  · intro hnone
    rw [hnone, eq_comm, directivesFrom_eq_nil_iff, List.forall_mem_map]
    intro other hother hdirective
    obtain ⟨part, others, hparts, hshared⟩ := exists_parts_cons other
    exact hnil.1 hnone other hother part (hparts ▸ List.mem_cons_self) (hshared.1 hdirective)

theorem directivesFrom_parts_eq_iff (pieces : List Source) (first : Nat) :
    directivesFrom first (pieces.flatMap parts) =
        directivesFrom first (pieces.map withoutReturn) ↔
      ∀ before piece after, pieces = before ++ piece :: after → piece.strayBreaks ≠ 0 →
        ∀ other ∈ piece :: after, ∀ part ∈ other.parts, ¬ directivePrefix <+: part.trim.shown := by
  induction pieces generalizing first with
  | nil => simp
  | cons head pieces ih =>
    by_cases hhead : head.strayBreaks = 0
    · rw [List.flatMap_cons, List.map_cons, parts_of_strayBreaks_eq_zero hhead,
        directivesFrom_append, directivesFrom_cons first _ (pieces.map withoutReturn),
        List.append_right_inj, List.length_singleton, ih]
      constructor
      · rintro h (_ | ⟨_, before⟩) piece after hpieces hstray
        · obtain ⟨rfl, rfl⟩ := List.cons.inj hpieces
          exact absurd hhead hstray
        · exact h before piece after (List.cons.inj hpieces).2 hstray
      · intro h before piece after hpieces
        exact h (head :: before) piece after (congrArg _ hpieces)
    · rw [directivesFrom_eq_iff_of_stray hhead]
      constructor
      · intro h before piece after hpieces _ other hother
        exact h other (hpieces ▸ List.mem_append_right before hother)
      · intro h
        exact h [] head pieces rfl hhead

/-- A part of a piece is numbered by the line feeds and the stray breaks in front of it. -/
theorem mem_directivesFrom_parts_iff {pieces : List Source} {first : Nat}
    {numbered : NumberedLine} :
    numbered ∈ directivesFrom first (pieces.flatMap parts) ↔
      ∃ before piece after, pieces = before ++ piece :: after ∧
        numbered ∈ directivesFrom (first + before.length + strayBreaksOfAll before)
          piece.parts := by
  induction pieces generalizing first with
  | nil => simp [directivesFrom, numberedFrom]
  | cons head pieces ih =>
    have hskip : ∀ before : List Source,
        first + head.parts.length + before.length + strayBreaksOfAll before =
          first + (head :: before).length + strayBreaksOfAll (head :: before) := by
      intro before
      rw [length_parts, List.length_cons, strayBreaksOfAll]
      omega
    rw [List.flatMap_cons, directivesFrom_append, List.mem_append, ih]
    constructor
    · rintro (hmem | ⟨before, piece, after, rfl, hmem⟩)
      · exact ⟨[], head, pieces, rfl, hmem⟩
      · exact ⟨head :: before, piece, after, rfl, hskip before ▸ hmem⟩
    · rintro ⟨_ | ⟨_, before⟩, piece, after, hpieces, hmem⟩
      · obtain ⟨rfl, rfl⟩ := List.cons.inj hpieces
        exact .inl hmem
      · obtain ⟨rfl, rfl⟩ := List.cons.inj hpieces
        exact .inr ⟨before, piece, after, rfl, (hskip before).symm ▸ hmem⟩

theorem mem_directiveLines_iff_parts {numbered : NumberedLine} :
    numbered ∈ source.directiveLines ↔
      ∃ before piece after, source.pieces = before ++ piece :: after ∧
        ∃ index part, piece.parts[index]? = some part ∧
          numbered = ⟨1 + before.length + strayBreaksOfAll before + index, part.trim⟩ ∧
          directivePrefix <+: numbered.line.shown := by
  rw [directiveLines_eq_parts, mem_directivesFrom_parts_iff]
  simp only [mem_directivesFrom_iff]

/-- The lines are the pieces between line feeds if no break is stray. -/
theorem lines_eq_pieces_iff :
    (source.pieces.map withoutReturn = source.lines ∨
        source.pieces.map withoutReturn = source.lines ++ [[]]) ↔
      ∀ piece ∈ source.pieces, piece.strayBreaks = 0 := by
  constructor
  · intro h piece hpiece
    have hlines : ∀ line ∈ source.lines ++ [[]], (shown line).OneLine := by
      rw [List.forall_mem_append]
      exact ⟨fun line hline => oneLine_of_mem_lines hline, by simp [shown]⟩
    have hmem : piece.withoutReturn ∈ source.lines ++ [[]] := by
      have hmap := List.mem_map_of_mem (f := withoutReturn) hpiece
      rcases h with h | h
      · exact List.mem_append_left _ (h ▸ hmap)
      · exact h ▸ hmap
    exact strayBreaks_eq_zero_iff.2 (hlines _ hmem)
  · intro h
    have hparts : source.pieces.flatMap parts = source.pieces.map withoutReturn := by
      rw [List.flatMap_congr fun piece hpiece => parts_of_strayBreaks_eq_zero (h piece hpiece),
        List.map_eq_flatMap]
    obtain ⟨last, hlast, hlines⟩ := Text.exists_flatMap_breakParts Symbol.shown source
    rw [← hparts]
    rcases hlast with rfl | rfl
    · exact .inl (hlines.trans (List.append_nil _))
    · exact .inr hlines

end Source

/-! ## Comments and messages -/

/-- A line comment ends at the first line feed behind it and at no other line break. -/
theorem PackageClause.dropLine_eq (comment : Text) :
    dropLine comment = Text.join ['\n'] (comment.splitOn '\n').tail := by
  obtain hfree | ⟨line, feed, rest, hline, hfeed, rfl⟩ := Text.feed_free_or_exists_feed id comment
  · have hall : ∀ c ∈ comment, (c != '\n') = true := fun c hc => bne_iff_ne.2 (hfree c hc)
    have hnone : '\n' ∉ comment := fun hfeed => hfree _ hfeed rfl
    have hdrop : (comment ++ []).dropWhile (· != '\n') = [] := List.dropWhile_append_of_pos hall
    rw [List.append_nil] at hdrop
    rw [dropLine, hdrop, List.splitOn_eq_singleton hnone]
    rfl
  · obtain rfl : feed = '\n' := hfeed
    have hnone : '\n' ∉ line := fun hfeed => hline _ hfeed rfl
    rw [dropLine_append hnone, List.splitOn_append_cons_self_of_not_mem hnone]
    exact (List.intercalate_splitOn '\n').symm

/-- The number of a line is what a complaint about it ends with. -/
theorem NumberedLine.place_suffix_message {numbered : NumberedLine} {origin : Text}
    {fault : DirectiveFault} (h : numbered.directive origin = .error fault) :
    DirectiveFault.place origin numbered.number <:+ fault.message := by
  unfold directive at h
  split at h
  · obtain rfl := Except.error.inj h
    exact List.suffix_append _ _
  · split at h
    · exact absurd h (by simp)
    · obtain rfl := Except.error.inj h
      exact List.suffix_append _ _

namespace Source

/--
The lines of a source are its pieces between line feeds exactly if no break is stray. A directive
line is a part of a piece between the breaks in it, and its number, which complaints about it end
with, is one more than the line feeds and the stray breaks in front of it. So the directive lines
are the ones that line feeds alone make exactly if no directive stands in the first piece with a
stray break or behind that piece. The reader of package clauses goes by line feeds alone: behind a
line comment it goes on with the pieces after the first one.
-/
theorem directiveLines_eq_feed_iff (source : Source) :
    ((source.pieces.map withoutReturn = source.lines ∨
        source.pieces.map withoutReturn = source.lines ++ [[]]) ↔
      ∀ piece ∈ source.pieces, piece.strayBreaks = 0) ∧
    (∀ numbered, numbered ∈ source.directiveLines ↔
      ∃ before piece after, source.pieces = before ++ piece :: after ∧
        ∃ index part, piece.parts[index]? = some part ∧
          numbered = ⟨1 + before.length + strayBreaksOfAll before + index, part.trim⟩ ∧
          directivePrefix <+: numbered.line.shown) ∧
    (∀ (numbered : NumberedLine) origin fault, numbered.directive origin = .error fault →
      DirectiveFault.place origin numbered.number <:+ fault.message) ∧
    (source.directiveLines = source.feedDirectiveLines ↔
      ∀ before piece after, source.pieces = before ++ piece :: after → piece.strayBreaks ≠ 0 →
        ∀ other ∈ piece :: after, other.directiveLines = []) ∧
    ∀ comment, PackageClause.skipTrivia ('/' :: '/' :: comment) =
      PackageClause.skipTrivia (Text.join ['\n'] (comment.splitOn '\n').tail) := by
  refine ⟨lines_eq_pieces_iff, fun numbered => mem_directiveLines_iff_parts,
    fun numbered origin fault => NumberedLine.place_suffix_message, ?_, fun comment => ?_⟩
  · rw [directiveLines_eq_parts, feedDirectiveLines, directivesFrom_parts_eq_iff]
    refine forall₃_congr fun before piece after => forall₂_congr fun hpieces _ =>
      forall₂_congr fun other hother => ?_
    have hmem : other ∈ source.pieces := hpieces ▸ List.mem_append_right before hother
    exact (directiveLines_eq_nil_iff_of_mem_pieces hmem).symm
  · rw [PackageClause.skipTrivia_lineComment, PackageClause.dropLine_eq]

/--
A form feed in a comment begins a line, so that a directive is found in what the reader of package
clauses takes for a comment; a line separator shifts the numbers of the lines behind it.
-/
theorem directiveLines_ne_feed :
    let commented : Text := "// a\x0c//ugo:callable Add(a int)\npackage p\n"
    let separated : Text := "package p // \u2028\n//ugo:callable:x\n"
    let context := Context.fresh false false none
    ((ofText commented).feedDirectiveLines = [] ∧ PackageClause.read commented = .ok "p" ∧
      (context.scan "a.go" (.ofText commented)).failure = none ∧
      (context.scan "a.go" (.ofText commented)).context.functions.map (·.name) = ["Add"]) ∧
    (ofText separated).feedDirectiveLines.map (·.number) = [2] ∧
      (context.scan "a.go" (.ofText separated)).failure =
        some (.directive (.unrecognized "//ugo:callable:x" "a.go" 3)) := by
  decide +kernel

end Source

end WrapperGen
