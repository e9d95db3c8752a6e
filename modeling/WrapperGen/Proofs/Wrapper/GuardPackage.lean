import WrapperGen.Proofs.Wrapper.Qualification

/-!
# The package that positional guards use

What a wrapper writes by itself lacks the last letter of `strconv`, with one exception: the guard of
a positional wrapper, which writes the number of arguments. So another line of a wrapper mentions
the package only if a text mentions it that the wrapper adopts from directives
(`Wrapper.GuardsAlone`).
-/

namespace WrapperGen

/-- The text mentions the package that positional guards use. -/
abbrev Text.MentionsStrconv (text : Text) : Prop := ("strconv" : Text) <:+: text

/-- The routine that converts the argument. -/
def Extraction.routine? : Extraction → Option Text
  | direct _ _ => none
  | checked _ _ routine _ => some routine

/-- The texts of directives that the wrapper writes as they are, or nearly so. -/
def Wrapper.adopted (wrapper : Wrapper) : List Text :=
  wrapper.source :: wrapper.function.spelled ++ wrapper.extractions.filterMap Extraction.routine?

/-! ## Texts without the last letter

The texts of a wrapper are taken apart from their ends: what lacks the letter goes, and what stands
before an adopted text ends in a character that the package lacks.
-/

section LastLetter

variable {text before after sep : Text}

theorem Text.not_mentionsStrconv_of_not_mem (h : 'v' ∉ text) : ¬ text.MentionsStrconv :=
  fun hmentions => h (hmentions.subset (by decide))

theorem Text.mentionsStrconv_append_iff_of_not_mem (h : 'v' ∉ after) :
    (before ++ after).MentionsStrconv ↔ before.MentionsStrconv := by
  have hsplit : ("strconv" : Text) = ("strcon" : Text) ++ ['v'] := rfl
  rw [MentionsStrconv, MentionsStrconv, hsplit]
  exact infix_append_iff_of_last_not_mem h

theorem Text.mentionsStrconv_append_closing_iff (h : closes "strconv" sep = true) :
    (before ++ sep ++ after).MentionsStrconv ↔
      (before ++ sep).MentionsStrconv ∨ after.MentionsStrconv :=
  infix_append_closing_iff h

theorem Text.mentionsStrconv_closing_append_iff (h : closes "strconv" sep = true) :
    (sep ++ after).MentionsStrconv ↔ sep.MentionsStrconv ∨ after.MentionsStrconv :=
  infix_closing_append_iff h

theorem Text.mentionsStrconv_join_iff {texts : List Text} :
    (join ", " texts).MentionsStrconv ↔ ∃ text ∈ texts, text.MentionsStrconv :=
  infix_join_iff (by decide) (by decide)

end LastLetter

/-! ## Parts of a wrapper -/

/-- A routine is called as it is written, except that a qualifier may be left out. -/
theorem mentionsStrconv_of_routineName {qualifier routine : Text}
    (h : (routineName qualifier routine).MentionsStrconv) : routine.MentionsStrconv := by
  unfold routineName at h
  split at h
  · cases hfront : Runtime.qualifier.isPrefixOf? routine with
    | none => simpa [hfront] using h
    | some rest =>
      rw [hfront] at h
      rw [← List.isPrefixOf?_eq_some_iff_append_eq.1 hfront]
      exact h.trans (List.suffix_append _ _).isInfix
  · exact h

theorem mentionsStrconv_of_scriptTypeName {type : Text}
    (h : (scriptTypeName type).MentionsStrconv) : type.MentionsStrconv := by
  have hall : ∀ entry ∈ scriptTypeNames, 'v' ∉ entry.2 := by decide
  rcases scriptTypeName_cases type with heq | ⟨entry, hentry, -, heq⟩
  · rwa [heq] at h
  · rw [heq] at h
    exact absurd h (Text.not_mentionsStrconv_of_not_mem (hall entry hentry))

namespace Wrapper

/-- The names that the wrapper does not adopt lack the last letter of the package. -/
structure OwnNames (wrapper : Wrapper) : Prop where
  qualifier : 'v' ∉ wrapper.qualifier
  internal : wrapper.InternalLack 'v'

namespace OwnNames

variable {wrapper : Wrapper} (h : wrapper.OwnNames)

include h

theorem callableType : 'v' ∉ wrapper.callableType := by
  unfold Wrapper.callableType
  cases wrapper.convention <;> simp +decide [h.qualifier]

/-- The line that takes the arguments adopts nothing. -/
theorem innerLine : ¬ wrapper.innerLine.MentionsStrconv := by
  refine Text.not_mentionsStrconv_of_not_mem ?_
  unfold Wrapper.innerLine argsDeclaration objectType
  cases wrapper.convention <;>
    simp +decide [h.qualifier, h.internal.args, h.internal.result, h.internal.error]

/-- A positional guard writes the number of arguments; a cursor guard leaves that to the call. -/
theorem guard_iff : wrapper.guard.MentionsStrconv ↔ wrapper.convention = .positional := by
  have hcount : 'v' ∉ Text.decimal wrapper.function.params.length :=
    Text.not_mem_decimal (by decide) _
  unfold Wrapper.guard
  cases wrapper.convention with
  | positional =>
    refine iff_of_true ?_ rfl
    have hwritten : Text.MentionsStrconv " got=\" + strconv.Itoa(len(" := by decide
    refine hwritten.trans ⟨"if len(" ++ wrapper.args ++ ") != " ++
      Text.decimal wrapper.function.params.length ++ " \x7b\n\treturn " ++ wrapper.undefined ++
      ", " ++ wrapper.qualifier ++ "ErrWrongNumArguments.NewError(\"want=" ++
      Text.decimal wrapper.function.params.length, wrapper.args ++ ")))\n\x7d", ?_⟩
    simp [block]
  | cursor =>
    refine iff_of_false (Text.not_mentionsStrconv_of_not_mem ?_) (by decide)
    simp +decide [block, undefined, h.qualifier, h.internal.args, h.internal.error, hcount]

end OwnNames

/-- Nothing that the wrapper is made of mentions the package. -/
structure Silent (wrapper : Wrapper) : Prop extends wrapper.OwnNames where
  adopted : ∀ text ∈ wrapper.adopted, ¬ text.MentionsStrconv

namespace Silent

variable {wrapper : Wrapper} (h : wrapper.Silent)

include h

theorem spelled : ¬ ∃ text ∈ wrapper.function.spelled, text.MentionsStrconv := by
  rintro ⟨text, htext, hmentions⟩
  exact h.adopted text (List.mem_cons_of_mem _ (List.mem_append_left _ htext)) hmentions

theorem name : ¬ wrapper.name.MentionsStrconv := by
  have hname : ¬ wrapper.function.name.MentionsStrconv := fun hname =>
    h.spelled (Function.exists_spelled_iff.2 (.inl hname))
  unfold Wrapper.name
  cases wrapper.convention with
  | positional => exact hname
  | cursor => rwa [cursorName, Text.mentionsStrconv_append_iff_of_not_mem (by decide)]

theorem paramNames :
    ¬ ∃ name ∈ wrapper.function.signature.paramNames, name.MentionsStrconv := fun hnames =>
  h.spelled (Function.exists_spelled_iff.2 (.inr (.inl hnames)))

theorem types : ¬ ∃ type ∈ wrapper.function.params.map Param.type, type.MentionsStrconv :=
  fun htypes => h.spelled (Function.exists_spelled_iff.2 (.inr (.inr (.inl htypes))))

theorem returnTypes :
    ¬ ∃ type ∈ wrapper.function.signature.returns.entries.map Param.type,
      type.MentionsStrconv := fun htypes =>
  h.spelled (Function.exists_spelled_iff.2 (.inr (.inr (.inr htypes))))

theorem paramTypes : ¬ wrapper.paramTypes.MentionsStrconv :=
  mt Text.mentionsStrconv_join_iff.1 h.types

theorem resultTypes : ¬ wrapper.resultTypes.MentionsStrconv := by
  have hjoin := mt Text.mentionsStrconv_join_iff.1 h.returnTypes
  unfold Wrapper.resultTypes Returns.typeList
  generalize Text.join ", " (wrapper.function.signature.returns.entries.map Param.type) = types
    at hjoin
  cases types with
  | nil => decide
  | cons c types =>
    simp only [List.isEmpty_cons, Bool.false_eq_true, if_false]
    rw [if_neg (by simp)]
    simp (disch := decide) only [Text.mentionsStrconv_closing_append_iff,
      Text.mentionsStrconv_append_iff_of_not_mem, Text.not_mentionsStrconv_of_not_mem, hjoin,
      or_self, not_false_eq_true]

theorem docLine : ¬ wrapper.docLine.MentionsStrconv := by
  unfold Wrapper.docLine
  simp (disch := decide) only [Text.mentionsStrconv_append_iff_of_not_mem,
    Text.mentionsStrconv_append_iff_of_not_mem h.toOwnNames.callableType,
    Text.mentionsStrconv_closing_append_iff, Text.not_mentionsStrconv_of_not_mem, h.name,
    or_self, not_false_eq_true]

theorem sourceLine : ¬ wrapper.sourceLine.MentionsStrconv := by
  have hsource : ¬ wrapper.source.MentionsStrconv := h.adopted _ List.mem_cons_self
  unfold Wrapper.sourceLine
  simp (disch := decide) only [Text.mentionsStrconv_closing_append_iff,
    Text.not_mentionsStrconv_of_not_mem, hsource, or_self, not_false_eq_true]

theorem outerLine : ¬ wrapper.outerLine.MentionsStrconv := by
  unfold Wrapper.outerLine
  simp (disch := decide) only [Text.mentionsStrconv_append_iff_of_not_mem,
    Text.mentionsStrconv_append_iff_of_not_mem h.toOwnNames.callableType,
    Text.mentionsStrconv_append_iff_of_not_mem h.internal.callee,
    Text.mentionsStrconv_append_closing_iff, Text.mentionsStrconv_closing_append_iff,
    Text.not_mentionsStrconv_of_not_mem, h.name, h.paramTypes, h.resultTypes, or_self,
    not_false_eq_true]

theorem invocation : ¬ wrapper.invocation.MentionsStrconv := by
  have hnames := mt Text.mentionsStrconv_join_iff.1 h.paramNames
  have hopening : 'v' ∉ wrapper.callee ++ "(" := by simp +decide [h.internal.callee]
  unfold Wrapper.invocation
  simp (disch := decide) only [Text.mentionsStrconv_append_iff_of_not_mem,
    Text.mentionsStrconv_append_closing_iff, Text.not_mentionsStrconv_of_not_mem hopening, hnames,
    or_self, not_false_eq_true]

theorem call : ¬ wrapper.call.MentionsStrconv := by
  have hassigned : ∀ target : Text, 'v' ∉ target →
      ¬ (target ++ " = " ++ wrapper.invocation).MentionsStrconv := by
    intro target htarget
    simp (disch := decide) only [Text.mentionsStrconv_append_closing_iff,
      Text.mentionsStrconv_append_iff_of_not_mem, Text.not_mentionsStrconv_of_not_mem htarget,
      h.invocation, or_self, not_false_eq_true]
  have hresult : 'v' ∉ wrapper.result ++ ", " ++ wrapper.error := by
    simp +decide [h.internal.result, h.internal.error]
  have hundefined : 'v' ∉ "\n" ++ wrapper.result ++ " = " ++ wrapper.undefined := by
    simp +decide [undefined, h.qualifier, h.internal.result]
  unfold Wrapper.call
  simp only
  cases wrapper.function.signature.returns.value.isSome with
  | true =>
    cases wrapper.function.signature.returns.hasError with
    | true => exact hassigned _ hresult
    | false => exact hassigned _ h.internal.result
  | false =>
    cases wrapper.function.signature.returns.hasError with
    | true =>
      rw [Text.mentionsStrconv_append_iff_of_not_mem hundefined]
      exact hassigned _ h.internal.error
    | false =>
      rw [Text.mentionsStrconv_append_iff_of_not_mem hundefined]
      exact h.invocation

/-- A statement that binds a parameter adopts the parameter and the routine for its type. -/
theorem extractionText {registry : Registry} {qualifier : Text} {convention : Convention}
    {function : Function}
    (hwrapper : ofFunction registry qualifier convention function = .ok wrapper) {text : Text}
    (htext : text ∈ wrapper.extractionTexts) : ¬ text.MentionsStrconv := by
  obtain ⟨extractions, hextractions, rfl⟩ := ofFunction_eq_ok_iff.1 hwrapper
  obtain ⟨extraction, hmem, rfl⟩ := List.mem_map.1 htext
  obtain ⟨param, hparam, converter, hlookup, rfl⟩ :=
    exists_of_mem_right (Extraction.ofParams_eq_ok_iff.1 hextractions) hmem
  have hname : ¬ param.name.MentionsStrconv := fun hname =>
    h.paramNames ⟨param.name, List.mem_map_of_mem hparam, hname⟩
  have haccess : 'v' ∉ (Access.mk convention function.internal.args param.position).text :=
    Access.not_mem_text (by decide) (by decide) h.internal.args
  cases converter with
  | direct description =>
    unfold Extraction.ofParam Extraction.text
    simp (disch := decide) only [Text.mentionsStrconv_append_iff_of_not_mem,
      Text.mentionsStrconv_append_iff_of_not_mem haccess, hname, not_false_eq_true]
  | routine routine =>
    have hqualifier : 'v' ∉ qualifier := h.qualifier
    have hordinal : 'v' ∉ Text.ordinal ((param.position : Int) + 1) :=
      Text.not_mem_ordinal (by decide) (by decide) (param.position + 1)
    have htype : ¬ param.type.MentionsStrconv := fun htype =>
      h.types ⟨param.type, List.mem_map_of_mem hparam, htype⟩
    have hroutine : ¬ routine.MentionsStrconv :=
      h.adopted _ (List.mem_append_right _ (List.mem_filterMap.2 ⟨_, hmem, rfl⟩))
    have hcalled : ¬ (routineName qualifier routine).MentionsStrconv :=
      mt mentionsStrconv_of_routineName hroutine
    have hexpected := mt mentionsStrconv_of_scriptTypeName htype
    unfold Extraction.ofParam Extraction.text block
    simp (disch := decide) only [Text.mentionsStrconv_append_iff_of_not_mem,
      Text.mentionsStrconv_append_iff_of_not_mem haccess,
      Text.mentionsStrconv_append_iff_of_not_mem hqualifier,
      Text.mentionsStrconv_append_iff_of_not_mem hordinal,
      Text.mentionsStrconv_append_closing_iff, Text.not_mentionsStrconv_of_not_mem,
      hname, hcalled, hexpected, or_self, not_false_eq_true]

end Silent

/-! ## The lines of a wrapper -/

/-- Indentation adds nothing to what a statement mentions. -/
theorem mentionsStrconv_of_statement {text : Text} (h : (statement text).MentionsStrconv) :
    text.MentionsStrconv := by
  have hwithin : ∀ line ∈ Text.lines text, line <:+: text := Text.prefix_and_infix_of_linesBy.2
  have htabs : Text.separates "strconv" (Text.tabs 2) = true := by decide
  by_cases hne : Text.lines text = []
  · rw [statement, Text.indent_of_lines_eq_nil hne] at h
    exact (Text.infix_separator_append_iff htabs (by decide)).1 h
  · rw [statement_eq_indent hne, Text.indent_eq_join hne, Text.MentionsStrconv,
      Text.infix_join_iff (by decide) (by decide)] at h
    obtain ⟨indented, hindented, hmentions⟩ := h
    obtain ⟨line, hline, rfl | rfl⟩ := Text.exists_of_mem_indented 2 true hindented
    · exact hmentions.trans (hwithin _ hline)
    · have hrest := (Text.infix_separator_append_iff htabs (by decide)).1 hmentions
      exact hrest.trans (hwithin _ hline)

section Lines

variable {registry : Registry} {qualifier : Text} {convention : Convention} {function : Function}
  {wrapper : Wrapper}

/-- Where nothing that is adopted mentions the package, only a positional guard does. -/
theorem Silent.line (h : wrapper.Silent)
    (hwrapper : ofFunction registry qualifier convention function = .ok wrapper) {line : Text}
    (hline : line ∈ wrapper.lines) (hmentions : line.MentionsStrconv) :
    wrapper.convention = .positional ∧ line = statement wrapper.guard := by
  have hclosing : ∀ line ∈ closingLines, ¬ line.MentionsStrconv := by decide
  simp only [lines, statements, List.mem_append, List.mem_map, List.mem_cons, List.not_mem_nil,
    or_false] at hline
  rcases hline with
    ((rfl | rfl | rfl | rfl | rfl) | ⟨text, (rfl | htext) | rfl, rfl⟩) | hline
  · exact absurd hmentions (by decide)
  · exact absurd hmentions h.docLine
  · exact absurd hmentions h.sourceLine
  · exact absurd hmentions h.outerLine
  · exact absurd hmentions h.toOwnNames.innerLine
  · exact ⟨h.toOwnNames.guard_iff.1 (mentionsStrconv_of_statement hmentions), rfl⟩
  · exact absurd (mentionsStrconv_of_statement hmentions) (h.extractionText hwrapper htext)
  · exact absurd (mentionsStrconv_of_statement hmentions) h.call
  · exact absurd hmentions (hclosing line hline)

/-- All that the wrapper writes about the package, unless it adopts it, is a positional guard. -/
structure GuardsAlone (wrapper : Wrapper) : Prop where
  guard_iff : wrapper.guard.MentionsStrconv ↔ wrapper.convention = .positional
  line : ∀ line ∈ wrapper.lines, line.MentionsStrconv →
    (wrapper.convention = .positional ∧ line = statement wrapper.guard) ∨
      ∃ text ∈ wrapper.adopted, text.MentionsStrconv

theorem OwnNames.guardsAlone (h : wrapper.OwnNames)
    (hwrapper : ofFunction registry qualifier convention function = .ok wrapper) :
    wrapper.GuardsAlone where
  guard_iff := h.guard_iff
  line line hline hmentions := by
    by_cases hadopted : ∃ text ∈ wrapper.adopted, text.MentionsStrconv
    · exact .inr hadopted
    · have hsilent : wrapper.Silent :=
        ⟨h, fun text htext hmentioned => hadopted ⟨text, htext, hmentioned⟩⟩
      exact .inl (hsilent.line hwrapper hline hmentions)

end Lines

end Wrapper

end WrapperGen
