import WrapperGen.Proofs.Text.Occurrence
import WrapperGen.Proofs.Wrapper.Lines

/-!
# Names inside the runtime's package

Inside the runtime's own package a wrapper qualifies nothing that it adds by itself. What a function
is declared by, its names and its types, is written as it is: a wrapper is free of the qualifier
exactly if its function's declaration is (`Wrapper.Local.qualified_lines_iff`).
-/

namespace WrapperGen

/-- Something in the text is qualified with the package of the runtime. -/
abbrev Text.Qualified (text : Text) : Prop := Runtime.qualifier <:+: text

instance (text : Text) : Decidable text.Qualified :=
  decidable_of_iff _ Text.occurs_eq_true_iff

/-- The names and the types of a declaration, which its wrappers write as they are. -/
def Function.spelled (function : Function) : List Text :=
  function.name :: function.signature.paramNames ++ function.params.map Param.type ++
    function.signature.returns.entries.map Param.type

theorem Function.exists_spelled_iff {function : Function} {p : Text → Prop} :
    (∃ text ∈ function.spelled, p text) ↔
      p function.name ∨ (∃ name ∈ function.signature.paramNames, p name) ∨
        (∃ type ∈ function.params.map Param.type, p type) ∨
        ∃ type ∈ function.signature.returns.entries.map Param.type, p type := by
  simp only [spelled, List.cons_append, List.mem_cons, List.mem_append, or_and_right, exists_or,
    exists_eq_left, or_assoc]

/-! ## Texts without the first letter of the qualifier

No occurrence of the qualifier begins in such a text, whatever stands behind it. Numerals and the
names that a wrapper declares for itself are of this kind.
-/

section FirstLetter

variable {text before after : Text}

theorem Text.not_qualified_of_not_mem (h : 'u' ∉ text) : ¬ text.Qualified :=
  fun hqualified => h (hqualified.subset (by decide))

theorem Text.qualified_append_iff_of_not_mem (h : 'u' ∉ before) :
    (before ++ after).Qualified ↔ after.Qualified :=
  infix_append_iff_of_not_mem h

end FirstLetter

/-! ## Converters -/

/-- A routine of the runtime is called without the qualifier. -/
theorem Registry.not_qualified_of_lookup {type routine : Text}
    (h : builtin.lookup type = some (.routine routine)) :
    ¬ Text.Qualified (routineName [] routine) := by
  have hall : ∀ entry ∈ builtinRoutines, ¬ Text.Qualified (routineName [] entry.2) := by decide
  obtain ⟨key, hkey⟩ := exists_find?_of_lookup h
  exact hall _ (mem_builtinRoutines_of_find? hkey)

/-- A name for scripts is only qualified if it is the type itself. -/
theorem qualified_of_scriptTypeName {type : Text} (h : Text.Qualified (scriptTypeName type)) :
    Text.Qualified type := by
  have hall : ∀ entry ∈ scriptTypeNames, ¬ Text.Qualified entry.2 := by decide
  rcases scriptTypeName_cases type with heq | ⟨entry, hentry, -, heq⟩
  · rwa [heq] at h
  · rw [heq] at h
    exact absurd h (hall entry hentry)

/-- A parameter is taken without the qualifier, unless its name or its type holds it. -/
theorem Extraction.qualified_of_text {convention : Convention} {container : Text} {param : Param}
    {converter : Converter} (hcontainer : 'u' ∉ container)
    (hconverter : Registry.builtin.lookup param.type = some converter)
    (h : Text.Qualified ((ofParam convention container converter param).text [])) :
    Text.Qualified param.name ∨ Text.Qualified param.type := by
  have haccess : 'u' ∉ (Access.mk convention container param.position).text :=
    Access.not_mem_text (by decide) (by decide) hcontainer
  cases converter with
  | direct description =>
    have hargument := Text.not_qualified_of_not_mem haccess
    simp (disch := decide) only [ofParam, text, List.append_assoc,
      Text.infix_append_separator_iff, or_iff_left hargument] at h
    exact .inl h
  | routine routine =>
    have hroutine := Registry.not_qualified_of_lookup hconverter
    have hordinal : 'u' ∉ Text.ordinal ((param.position : Int) + 1) :=
      Text.not_mem_ordinal (by decide) (by decide) (param.position + 1)
    simp (disch := decide) only [ofParam, text, block, List.append_assoc, List.nil_append,
      Text.infix_separator_append_iff, Text.infix_append_separator_iff,
      Text.qualified_append_iff_of_not_mem, Text.qualified_append_iff_of_not_mem haccess] at h
    rcases h with hname | hcalled | hplace | hexpected | hclosing
    · exact .inl hname
    · exact absurd hcalled hroutine
    · exact absurd hplace (Text.not_qualified_of_not_mem hordinal)
    · exact .inr (qualified_of_scriptTypeName hexpected)
    · exact absurd hclosing (by decide)

namespace Wrapper

variable {wrapper : Wrapper}

/-! ## Parts of a wrapper -/

/--
The wrapper belongs to the runtime's own package. The names that it declares for itself lack the
first letter of the qualifier.
-/
structure Local (wrapper : Wrapper) : Prop where
  qualifier : wrapper.qualifier = []
  internal : ∀ name ∈ wrapper.function.internal.toList, 'u' ∉ name

namespace Local

theorem args (h : wrapper.Local) : 'u' ∉ wrapper.args := InternalLack.args h.internal

theorem callee (h : wrapper.Local) : 'u' ∉ wrapper.callee := InternalLack.callee h.internal

theorem result (h : wrapper.Local) : 'u' ∉ wrapper.result := InternalLack.result h.internal

theorem error (h : wrapper.Local) : 'u' ∉ wrapper.error := InternalLack.error h.internal

theorem callableType_cases (h : wrapper.Local) :
    wrapper.callableType = "CallableFunc" ∨ wrapper.callableType = "CallableExFunc" := by
  unfold callableType
  rw [h.qualifier]
  cases wrapper.convention with
  | positional => exact .inl rfl
  | cursor => exact .inr rfl

theorem qualified_name_iff :
    Text.Qualified wrapper.name ↔ Text.Qualified wrapper.function.name := by
  unfold name
  cases wrapper.convention with
  | positional => rfl
  | cursor => exact Text.infix_append_separator_end_iff (by decide) (by decide)

theorem qualified_docLine_iff (h : wrapper.Local) :
    Text.Qualified wrapper.docLine ↔ Text.Qualified wrapper.function.name := by
  have hend : ¬ Text.Qualified (wrapper.callableType ++ ".") := by
    rcases h.callableType_cases with heq | heq <;> rw [heq] <;> decide
  unfold docLine
  simp (disch := decide) only [List.append_assoc, Text.infix_separator_append_iff,
    Text.infix_append_separator_iff, qualified_name_iff, or_iff_left hend]

theorem qualified_resultTypes_iff :
    Text.Qualified wrapper.resultTypes ↔
      ∃ type ∈ wrapper.function.signature.returns.entries.map Param.type, Text.Qualified type := by
  have htypes : Text.Qualified
      (Text.join ", " (wrapper.function.signature.returns.entries.map Param.type)) ↔
      ∃ type ∈ wrapper.function.signature.returns.entries.map Param.type, Text.Qualified type :=
    Text.infix_join_iff (by decide) (by decide)
  rw [← htypes]
  unfold resultTypes Returns.typeList
  generalize Text.join ", " (wrapper.function.signature.returns.entries.map Param.type) = types
  cases types with
  | nil => rfl
  | cons c types =>
    simp only [List.isEmpty_cons, Bool.false_eq_true, if_false]
    rw [if_neg (by simp)]
    simp (disch := decide) only [List.append_assoc, Text.infix_separator_append_iff,
      Text.infix_append_separator_end_iff]

/-- The type of the wrapped function is written with the types of the declaration. -/
theorem qualified_outerLine_iff (h : wrapper.Local) :
    Text.Qualified wrapper.outerLine ↔
      Text.Qualified wrapper.function.name ∨
        (∃ type ∈ wrapper.function.params.map Param.type, Text.Qualified type) ∨
        ∃ type ∈ wrapper.function.signature.returns.entries.map Param.type,
          Text.Qualified type := by
  have hcallee := Text.not_qualified_of_not_mem h.callee
  have hend : ¬ Text.Qualified (wrapper.callableType ++ " \x7b") := by
    rcases h.callableType_cases with heq | heq <;> rw [heq] <;> decide
  have htypes : Text.Qualified wrapper.paramTypes ↔
      ∃ type ∈ wrapper.function.params.map Param.type, Text.Qualified type :=
    Text.infix_join_iff (by decide) (by decide)
  unfold outerLine
  simp (disch := decide) only [List.append_assoc, Text.infix_separator_append_iff,
    Text.infix_append_separator_iff, qualified_name_iff, or_iff_right hcallee, htypes,
    or_iff_left hend, qualified_resultTypes_iff]

theorem not_qualified_innerLine (h : wrapper.Local) : ¬ Text.Qualified wrapper.innerLine := by
  unfold innerLine argsDeclaration objectType
  rw [h.qualifier]
  cases wrapper.convention
  all_goals
    simp (disch := decide) only [List.append_assoc, List.nil_append,
      Text.infix_separator_append_iff, Text.qualified_append_iff_of_not_mem,
      Text.qualified_append_iff_of_not_mem h.args, Text.qualified_append_iff_of_not_mem h.result,
      Text.qualified_append_iff_of_not_mem h.error]
    decide

theorem not_qualified_guard (h : wrapper.Local) : ¬ Text.Qualified wrapper.guard := by
  have hcount : 'u' ∉ Text.decimal wrapper.function.params.length :=
    Text.not_mem_decimal (by decide) _
  unfold guard block undefined
  rw [h.qualifier]
  cases wrapper.convention
  all_goals
    simp (disch := decide) only [List.append_assoc, List.nil_append,
      Text.infix_separator_append_iff, Text.qualified_append_iff_of_not_mem,
      Text.qualified_append_iff_of_not_mem h.args, Text.qualified_append_iff_of_not_mem h.error,
      Text.qualified_append_iff_of_not_mem hcount]
    decide

theorem qualified_invocation_iff (h : wrapper.Local) :
    Text.Qualified wrapper.invocation ↔
      ∃ name ∈ wrapper.function.signature.paramNames, Text.Qualified name := by
  unfold invocation
  simp (disch := decide) only [List.append_assoc, Text.infix_separator_append_iff,
    Text.infix_append_separator_end_iff, Text.qualified_append_iff_of_not_mem h.callee,
    Text.infix_join_iff]

/-- Of what the call is made of, only the parameter names come from the declaration. -/
theorem qualified_call_iff (h : wrapper.Local) :
    Text.Qualified wrapper.call ↔
      ∃ name ∈ wrapper.function.signature.paramNames, Text.Qualified name := by
  have hundefined : ¬ Text.Qualified "Undefined" := by decide
  rw [← h.qualified_invocation_iff]
  unfold call undefined
  rw [h.qualifier]
  simp only
  cases wrapper.function.signature.returns.value.isSome <;>
    cases wrapper.function.signature.returns.hasError
  all_goals
    simp (disch := decide) only [List.append_assoc, List.nil_append,
      Text.infix_separator_append_iff, Text.infix_append_separator_iff,
      Text.qualified_append_iff_of_not_mem h.result, Text.qualified_append_iff_of_not_mem h.error,
      or_iff_left hundefined]

end Local

/-! ## The lines of a wrapper -/

/-- Indentation adds nothing to what occurs in a statement. -/
theorem qualified_statement_iff {text : Text} {count : Nat} (h : text.Spans count)
    (hcount : 0 < count) : Text.Qualified (statement text) ↔ Text.Qualified text := by
  have hfeed : '\n' ∉ Runtime.qualifier := by decide
  have hne : Runtime.qualifier ≠ [] := by decide
  have htabs : 'u' ∉ Text.tabs 2 := by decide
  rw [Text.Qualified, Text.Qualified, Text.infix_iff_exists_splitOn hfeed hne,
    splitOn_statement h hcount, statementLines, Text.infix_iff_exists_splitOn hfeed hne]
  constructor
  · rintro ⟨line, hline, hqualified⟩
    obtain ⟨piece, hpiece, rfl⟩ := List.mem_map.1 hline
    exact ⟨piece, hpiece, (Text.qualified_append_iff_of_not_mem htabs).1 hqualified⟩
  · rintro ⟨piece, hpiece, hqualified⟩
    exact ⟨_, List.mem_map_of_mem hpiece,
      (Text.qualified_append_iff_of_not_mem htabs).2 hqualified⟩

/-- A statement that binds a parameter is qualified only by the parameter's name or type. -/
theorem Local.qualified_of_extractionText {convention : Convention} {function : Function}
    (h : wrapper.Local) (hwrapper : ofFunction .builtin [] convention function = .ok wrapper)
    {text : Text} (htext : text ∈ wrapper.extractionTexts) (hqualified : Text.Qualified text) :
    ∃ param ∈ wrapper.function.params, Text.Qualified param.name ∨ Text.Qualified param.type := by
  have hargs := h.args
  obtain ⟨extractions, hextractions, rfl⟩ := ofFunction_eq_ok_iff.1 hwrapper
  obtain ⟨extraction, hmem, rfl⟩ := List.mem_map.1 htext
  obtain ⟨param, hparam, converter, hlookup, rfl⟩ :=
    exists_of_mem_right (Extraction.ofParams_eq_ok_iff.1 hextractions) hmem
  exact ⟨param, hparam, Extraction.qualified_of_text hargs hlookup hqualified⟩

/-- The routines that a wrapper calls are those of its parameters' types. -/
theorem Local.not_qualified_routine {convention : Convention} {function : Function}
    (h : wrapper.Local) (hwrapper : ofFunction .builtin [] convention function = .ok wrapper)
    {target routine expected : Text} {access : Access}
    (hmem : .checked target access routine expected ∈ wrapper.extractions) :
    ¬ Text.Qualified (routineName wrapper.qualifier routine) := by
  rw [h.qualifier]
  obtain ⟨extractions, hextractions, rfl⟩ := ofFunction_eq_ok_iff.1 hwrapper
  obtain ⟨param, -, converter, hlookup, heq⟩ :=
    exists_of_mem_right (Extraction.ofParams_eq_ok_iff.1 hextractions) hmem
  cases converter with
  | direct => exact absurd heq (by simp [Extraction.ofParam])
  | routine name =>
    obtain ⟨-, -, rfl, -⟩ := Extraction.checked.inj heq
    exact Registry.not_qualified_of_lookup hlookup

/-- All lines but the one that quotes the declaration are as unqualified as the declaration is. -/
theorem Local.qualified_lines_iff {convention : Convention} {function : Function}
    (h : wrapper.Local) (hone : wrapper.OneLine)
    (hwrapper : ofFunction .builtin [] convention function = .ok wrapper) :
    (∃ line ∈ wrapper.lines.eraseIdx 2, Text.Qualified line) ↔
      ∃ text ∈ wrapper.function.spelled, Text.Qualified text := by
  have hlines : wrapper.lines.eraseIdx 2 =
      [[], wrapper.docLine, wrapper.outerLine, wrapper.innerLine] ++
        (wrapper.guard :: wrapper.extractionTexts ++ [wrapper.call]).map statement ++
        closingLines := rfl
  have hguard : ¬ Text.Qualified (statement wrapper.guard) := by
    rw [qualified_statement_iff hone.spans_guard (by decide)]
    exact h.not_qualified_guard
  have hcall : Text.Qualified (statement wrapper.call) ↔
      ∃ name ∈ wrapper.function.signature.paramNames, Text.Qualified name := by
    rw [qualified_statement_iff hone.spans_call (by split <;> decide)]
    exact h.qualified_call_iff
  have hextraction : ∀ text ∈ wrapper.extractionTexts, Text.Qualified (statement text) →
      ∃ param ∈ wrapper.function.params,
        Text.Qualified param.name ∨ Text.Qualified param.type := by
    intro text htext hqualified
    obtain ⟨-, -, converter, -, hspans⟩ :=
      exists_of_mem_right (spans_extractionTexts hwrapper Registry.oneLine_builtin hone) htext
    rw [qualified_statement_iff hspans converter.lineCount_pos] at hqualified
    exact h.qualified_of_extractionText hwrapper htext hqualified
  have hclosing : ∀ line ∈ closingLines, ¬ Text.Qualified line := by decide
  rw [hlines, Function.exists_spelled_iff]
  constructor
  · rintro ⟨line, hline, hqualified⟩
    simp only [List.mem_append, List.mem_map, List.mem_cons, List.not_mem_nil, or_false] at hline
    rcases hline with
      ((rfl | rfl | rfl | rfl) | ⟨text, (rfl | htext) | rfl, rfl⟩) | hline
    · exact absurd hqualified (by decide)
    · exact .inl (h.qualified_docLine_iff.1 hqualified)
    · rcases h.qualified_outerLine_iff.1 hqualified with hname | htypes
      · exact .inl hname
      · exact .inr (.inr htypes)
    · exact absurd hqualified h.not_qualified_innerLine
    · exact absurd hqualified hguard
    · obtain ⟨param, hparam, hname | htype⟩ := hextraction text htext hqualified
      · exact .inr (.inl ⟨_, List.mem_map_of_mem hparam, hname⟩)
      · exact .inr (.inr (.inl ⟨_, List.mem_map_of_mem hparam, htype⟩))
    · exact .inr (.inl (hcall.1 hqualified))
    · exact absurd hqualified (hclosing line hline)
  · rintro (hname | hnames | htypes)
    · exact ⟨wrapper.docLine, by simp, h.qualified_docLine_iff.2 hname⟩
    · exact ⟨statement wrapper.call, by simp, hcall.2 hnames⟩
    · exact ⟨wrapper.outerLine, by simp, h.qualified_outerLine_iff.2 (.inr htypes)⟩

end Wrapper

end WrapperGen
