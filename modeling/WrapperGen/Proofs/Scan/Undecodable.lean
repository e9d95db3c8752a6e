import WrapperGen.Proofs.ScannedTexts

/-!
# Undecodable bytes do not interfere

Which bytes of a source are the undecodable ones is seen in no context. Two sources with the same
characters at the same places (`Source.characters`) have the same lines and the same package
clause. A directive line that is accepted holds no undecodable byte at all, so the directive lines
of a source that is scanned without a failure are even the same (`Context.eq_of_applyLines_done`),
and files that differ in undecodable bytes alone lead to the same context
(`Context.scanFiles_congr`).
-/

namespace WrapperGen

namespace Source

/-- The characters of the source in their places; a byte that belongs to none leaves a gap. -/
def characters (source : Source) : List (Option Char) := source.map Symbol.char?

/-- What is shown in the place of a character, or of a gap. -/
def shownOf (char? : Option Char) : Char := char?.getD '\uFFFD'

theorem shownOf_char? (symbol : Symbol) : shownOf symbol.char? = symbol.shown := by
  cases symbol <;> rfl

theorem shown_eq_map (source : Source) : source.shown = source.characters.map shownOf := by
  rw [characters, List.map_map]
  exact (List.map_congr_left fun symbol _ => shownOf_char? symbol).symm

/-- A source with the characters of a text and no gap consists of that text. -/
theorem eq_ofText_of_characters {source : Source} {text : Text}
    (h : source.characters = (ofText text).characters) : source = ofText text := by
  have hread : source.text? = (ofText text).text? := by
    have hmapM : ∀ other : Source, other.text? = other.characters.mapM id := by
      intro other
      rw [characters, List.mapM_map]
      rfl
    rw [hmapM, hmapM, h]
  exact text?_eq_some_iff.1 (hread.trans (text?_eq_some_iff.2 rfl))

theorem map_characters_lines (source : Source) :
    source.lines.map characters = Text.linesBy shownOf source.characters := by
  have hshown : shownOf ∘ Symbol.char? = Symbol.shown := funext shownOf_char?
  rw [characters, Text.linesBy_map, hshown]
  rfl

theorem characters_trim (source : Source) :
    source.trim.characters =
      Text.stripBy (fun char? => Text.isPadding (shownOf char?)) source.characters := by
  have hshown : (fun char? => Text.isPadding (shownOf char?)) ∘ Symbol.char? =
      fun symbol => Text.isPadding symbol.shown :=
    funext fun symbol => congrArg Text.isPadding (shownOf_char? symbol)
  rw [characters, characters, Text.stripBy_map, hshown]
  rfl

end Source

/-! ## Directive lines -/

/-- The number of the line and its characters. -/
def NumberedLine.numberedCharacters (numbered : NumberedLine) : Nat × List (Option Char) :=
  (numbered.number, numbered.line.characters)

/-- The directive lines of a source with given characters, by their numbers and characters. -/
def directiveCharacters (characters : List (Option Char)) : List (Nat × List (Option Char)) :=
  ((Text.linesBy Source.shownOf characters).zipIdx 1).map (fun (line, number) =>
      (number, Text.stripBy (fun char? => Text.isPadding (Source.shownOf char?)) line))
    |>.filter fun (_, line) => directivePrefix.isPrefixOf (line.map Source.shownOf)

/-- Which lines are meant as directives only depends on the characters of a source. -/
theorem Source.map_numberedCharacters_directiveLines (source : Source) :
    source.directiveLines.map NumberedLine.numberedCharacters =
      directiveCharacters source.characters := by
  have hmeant : NumberedLine.isDirective =
      (fun entry : Nat × List (Option Char) =>
        directivePrefix.isPrefixOf (entry.2.map shownOf)) ∘ NumberedLine.numberedCharacters := by
    funext numbered
    rw [NumberedLine.isDirective, shown_eq_map]
    rfl
  rw [directiveLines, hmeant, ← List.filter_map, directiveCharacters, ← map_characters_lines,
    List.zipIdx_map, List.map_map, List.map_map]
  congr 1
  refine List.map_congr_left fun entry _ => ?_
  exact Prod.ext rfl (characters_trim entry.1)

namespace NumberedLine

/-- A line that is a directive is determined by its characters: it leaves no gap. -/
theorem eq_of_directive {numbered other : NumberedLine} {origin : Text} {directive : Directive}
    (h : numbered.directive origin = .ok directive)
    (hsame : numbered.numberedCharacters = other.numberedCharacters) : numbered = other := by
  obtain ⟨text, htext, -⟩ := exists_text h
  obtain ⟨hnumber, hcharacters⟩ := Prod.mk.inj hsame
  have hother : other.line = .ofText text := by
    rw [htext] at hcharacters
    exact Source.eq_ofText_of_characters hcharacters.symm
  cases numbered
  cases other
  simp only at hnumber htext hother
  rw [hnumber, htext, hother]

end NumberedLine

namespace Context

variable {context : Context} {origin : Text}

/-- Lines that are all accepted are determined by their numbers and characters. -/
theorem eq_of_applyLines_done {lines others : List NumberedLine}
    (hdone : (context.applyLines origin lines).failure = none)
    (hsame : lines.map NumberedLine.numberedCharacters =
      others.map NumberedLine.numberedCharacters) : lines = others := by
  induction lines generalizing context others with
  | nil => exact (List.map_eq_nil_iff.1 hsame.symm).symm
  | cons numbered lines ih =>
    obtain ⟨other, others, rfl, hother, hothers⟩ := List.map_eq_cons_iff.1 hsame.symm
    rw [applyLines] at hdone
    split at hdone
    · next next happly =>
      obtain ⟨directive, hdirective, -⟩ := applyLine_eq_ok_iff.1 happly
      rw [NumberedLine.eq_of_directive hdirective hother.symm, ih hdone hothers.symm]
    · exact absurd hdone (by simp)

/-! ## Scans -/

/-- The lines of a scan without a failure have all been accepted. -/
theorem applyLines_done_of_scan {source : Source}
    (hdone : (context.scan origin source).failure = none) :
    (context.applyLines origin source.directiveLines).failure = none := by
  unfold scan at hdone
  simp only at hdone
  split at hdone
  · next failure hfailure => exact absurd (hfailure.symm.trans hdone) (by simp)
  · assumption

/-- A source that is scanned without a failure is scanned like any with the same characters. -/
theorem scan_congr {source other : Source} (hsame : source.characters = other.characters)
    (hdone : (context.scan origin source).failure = none) :
    context.scan origin other = context.scan origin source := by
  have hlines : source.directiveLines = other.directiveLines := by
    refine eq_of_applyLines_done (applyLines_done_of_scan hdone) ?_
    rw [Source.map_numberedCharacters_directiveLines, hsame,
      Source.map_numberedCharacters_directiveLines]
  have hshown : source.shown = other.shown := by
    rw [Source.shown_eq_map, hsame, Source.shown_eq_map]
  unfold scan recordPackage
  rw [hlines, hshown]

end Context

/-- The characters of the file that a path leads to, if it leads to one. -/
def FileSystem.characters? (files : FileSystem) (path : Text) : Option (List (Option Char)) :=
  (files.read path).toOption.map fun bytes => (Source.decode bytes).characters

namespace Context

variable {context : Context} {files other : FileSystem}

theorem scanFile_congr {path : Text} (hsame : files.characters? path = other.characters? path)
    (hdone : (context.scanFile files path).failure = none) :
    context.scanFile other path = context.scanFile files path := by
  unfold FileSystem.characters? at hsame
  unfold scanFile at hdone ⊢
  split at hdone
  · exact absurd hdone (by simp)
  · next bytes hread =>
    rw [hread] at hsame
    obtain ⟨otherBytes, hother, hcharacters⟩ := Option.map_eq_some_iff.1 hsame.symm
    cases hreadOther : other.read path with
    | error fault => exact absurd hother (by simp [hreadOther, Except.toOption])
    | ok found =>
      obtain rfl : found = otherBytes := by simpa [hreadOther, Except.toOption] using hother
      exact scan_congr hcharacters.symm hdone

/-- Files that are scanned without a failure are scanned like any with the same characters. -/
theorem scanFiles_congr {paths : List Text}
    (hsame : ∀ path ∈ paths, files.characters? path = other.characters? path)
    (hdone : (context.scanFiles files paths).failure = none) :
    context.scanFiles other paths = context.scanFiles files paths := by
  induction paths generalizing context with
  | nil => rfl
  | cons path paths ih =>
    obtain ⟨hpath, hpaths⟩ := List.forall_mem_cons.1 hsame
    rw [scanFiles] at hdone ⊢
    cases hfailure : (context.scanFile files path).failure with
    | some failure => exact absurd hdone (by simp [hfailure])
    | none =>
      simp only [hfailure] at hdone
      rw [scanFile_congr hpath hfailure, hfailure, scanFiles, hfailure]
      exact ih hpaths hdone

end Context

end WrapperGen
