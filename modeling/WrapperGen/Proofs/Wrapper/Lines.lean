import WrapperGen.Layout
import WrapperGen.Proofs.ScannedTexts
import WrapperGen.Proofs.Wrapper.Characters

/-!
# The lines of a wrapper

A wrapper is put together from lines, except that a statement may span several of them and is
indented line by line. A statement made of texts on one line spans as many lines as its form has
(`Text.Spans`). So the lines of a wrapper whose texts are on one line are those of its layout
(`Wrapper.OneLine.flatMap_splitOn_lines`), and how many they are depends on nothing but the
converters and the results (`Wrapper.LineCounts`).
-/

namespace WrapperGen

/-! ## Statements -/

/-- The text consists of a number of lines, none of them empty. -/
def Text.Spans (count : Nat) (text : Text) : Prop :=
  ∃ parts : List Text, parts.length = count ∧ (∀ part ∈ parts, part.OneLine ∧ part ≠ []) ∧
    text = Text.join ['\n'] parts

/-- The lines of a statement in the file. -/
def Wrapper.statementLines (text : Text) : List Text :=
  (text.splitOn '\n').map (Text.tabs 2 ++ ·)

section Spans

variable {text rest : Text} {count : Nat}

theorem Text.OneLine.spans (h : text.OneLine) (hne : text ≠ []) : text.Spans 1 := by
  refine ⟨[text], rfl, ?_, ?_⟩
  · intro part hpart
    obtain rfl := List.mem_singleton.1 hpart
    exact ⟨h, hne⟩
  · rw [Text.join, List.intercalate_singleton]

/-- A line in front of a text is one more line. -/
theorem Text.Spans.cons (h : text.OneLine) (hne : text ≠ []) (hrest : rest.Spans (count + 1)) :
    Text.Spans (count + 2) (text ++ '\n' :: rest) := by
  obtain ⟨parts, hlength, hparts, rfl⟩ := hrest
  refine ⟨text :: parts, by simp [hlength], List.forall_mem_cons.2 ⟨⟨h, hne⟩, hparts⟩, ?_⟩
  have hpos : parts ≠ [] := List.ne_nil_of_length_pos (by omega)
  rw [Text.join, Text.join, List.intercalate_cons_of_ne_nil hpos, List.append_assoc,
    List.singleton_append]

/-- A block consists of its head, its statement, and the closing brace. -/
theorem spans_block {head statement : Text} (hhead : head.OneLine)
    (hstatement : statement.OneLine) : (block head statement).Spans 3 := by
  refine ⟨[head ++ " \x7b", '\t' :: statement, ['\x7d']], rfl, ?_, ?_⟩
  · simp +decide [hhead, hstatement]
  · simp [block, Text.join, List.intercalate_cons_cons]

theorem splitOn_of_parts {parts : List Text} (hparts : ∀ part ∈ parts, part.OneLine ∧ part ≠ [])
    (hne : parts ≠ []) : (Text.join ['\n'] parts).splitOn '\n' = parts :=
  List.splitOn_intercalate '\n' (fun part hpart => (hparts part hpart).1.feed_not_mem) hne

theorem Wrapper.length_statementLines (h : text.Spans count) (hcount : 0 < count) :
    (statementLines text).length = count := by
  obtain ⟨parts, hlength, hparts, rfl⟩ := h
  have hpos : parts ≠ [] := List.ne_nil_of_length_pos (by omega)
  rw [statementLines, List.length_map, splitOn_of_parts hparts hpos, hlength]

/-- Every line of a statement is indented, and no line is added. -/
theorem Wrapper.splitOn_statement (h : text.Spans count) (hcount : 0 < count) :
    (statement text).splitOn '\n' = statementLines text := by
  obtain ⟨parts, hlength, hparts, rfl⟩ := h
  have hpos : parts ≠ [] := List.ne_nil_of_length_pos (by omega)
  have hlines := Text.lines_join hparts
  have hne : Text.lines (Text.join ['\n'] parts) ≠ [] := by rwa [hlines]
  have hindent : parts.mapIdx (Text.indentAt 2 true) = parts.map (Text.tabs 2 ++ ·) :=
    Text.mapIdx_indentAt fun part hpart => (hparts part hpart).2
  rw [statement_eq_indent hne, Text.splitOn_indent 2 true hne, hlines, hindent, statementLines,
    splitOn_of_parts hparts hpos]

end Spans

/-! ## Parts of a wrapper -/

/-- How many lines a parameter takes, by its converter. -/
def Converter.lineCount : Converter → Nat
  | routine _ => 4
  | direct _ => 1

theorem Converter.lineCount_pos (converter : Converter) : 0 < converter.lineCount := by
  cases converter <;> simp [lineCount]

/-- A parameter takes as many lines as its converter says. -/
theorem Extraction.spans_text {qualifier container : Text} {param : Param} {converter : Converter}
    (hqualifier : qualifier.OneLine) (hcontainer : container.OneLine) (hname : param.name.OneLine)
    (htype : param.type.OneLine)
    (hroutine : ∀ routine, converter = .routine routine → routine.OneLine)
    (convention : Convention) :
    ((ofParam convention container converter param).text qualifier).Spans converter.lineCount := by
  have hplain : ∀ c, Text.isPlain c = true → Text.isLineBreak c = false :=
    fun _ hc => Text.isLineBreak_of_isPlain hc
  have haccess : (Access.mk convention container param.position).text.OneLine :=
    Access.over_text hplain hcontainer
  cases converter with
  | direct description =>
    have htext : (ofParam convention container (.direct description) param).text qualifier =
        param.name ++ " := " ++ (Access.mk convention container param.position).text := rfl
    rw [htext]
    refine Text.OneLine.spans ?_ (by simp)
    simp +decide [hname, haccess]
  | routine routine =>
    have hexpected : (scriptTypeName param.type).OneLine := over_scriptTypeName hplain htype
    have hordinal : (Text.ordinal ((param.position : Int) + 1)).OneLine :=
      Text.over_ordinal hplain (param.position + 1)
    have hcalled : (routineName qualifier routine).OneLine :=
      over_routineName (hroutine routine rfl) qualifier
    have htext : (ofParam convention container (.routine routine) param).text qualifier =
        (param.name ++ ", ok := " ++ routineName qualifier routine ++ "(" ++
          (Access.mk convention container param.position).text ++ ")") ++ '\n' ::
        block "if !ok" ("return " ++ qualifier ++ "Undefined, " ++ qualifier ++
          "NewArgumentTypeError(\"" ++ Text.ordinal (param.position + 1) ++ "\", \"" ++
          scriptTypeName param.type ++ "\", " ++
          (Access.mk convention container param.position).text ++ ".TypeName())") := by
      simp [ofParam, text]
    rw [htext]
    refine Text.Spans.cons ?_ (by simp) (spans_block (by decide) ?_)
    · simp +decide [hname, hcalled, haccess]
    · simp +decide [hqualifier, hordinal, hexpected, haccess]

namespace Wrapper

/-- Every text that the wrapper itself is made of is on one line. -/
structure OneLine (wrapper : Wrapper) : Prop where
  qualifier : wrapper.qualifier.OneLine
  function : wrapper.function.OneLine

variable {wrapper : Wrapper}

/-- Being on one line is a matter of single characters. -/
theorem OneLine.over (h : wrapper.OneLine) : wrapper.Over fun c => Text.isLineBreak c = false where
  qualifier := h.qualifier
  function := ⟨h.function.name, h.function.source, h.function.param_name, h.function.param_type,
    h.function.result_type, h.function.internal⟩

theorem OneLine.args (h : wrapper.OneLine) : wrapper.args.OneLine := h.over.args

theorem OneLine.result (h : wrapper.OneLine) : wrapper.result.OneLine := h.over.result

theorem OneLine.error (h : wrapper.OneLine) : wrapper.error.OneLine := h.over.error

theorem OneLine.spans_guard (h : wrapper.OneLine) : wrapper.guard.Spans 3 := by
  unfold guard
  cases wrapper.convention with
  | positional =>
    refine spans_block ?_ ?_
    · simp +decide [h.args, Text.oneLine_decimal]
    · simp +decide [undefined, h.qualifier, h.args, Text.oneLine_decimal]
  | cursor =>
    refine spans_block ?_ ?_
    · simp +decide [h.args, h.error, Text.oneLine_decimal]
    · simp +decide [undefined, h.qualifier, h.error]

theorem OneLine.invocation (h : wrapper.OneLine) : wrapper.invocation.OneLine :=
  h.over.invocation fun _ hc => Text.isLineBreak_of_isPlain hc

theorem OneLine.spans_call (h : wrapper.OneLine) :
    wrapper.call.Spans (if wrapper.function.signature.returns.value.isSome then 1 else 2) := by
  have hundefined : (wrapper.result ++ " = " ++ wrapper.undefined).Spans 1 := by
    refine Text.OneLine.spans ?_ (by simp)
    simp +decide [undefined, h.result, h.qualifier]
  unfold call
  simp only
  cases wrapper.function.signature.returns.value.isSome with
  | true =>
    cases wrapper.function.signature.returns.hasError with
    | true =>
      refine Text.OneLine.spans ?_ (by simp)
      simp +decide [h.result, h.error, h.invocation]
    | false =>
      refine Text.OneLine.spans ?_ (by simp)
      simp +decide [h.result, h.invocation]
  | false =>
    cases wrapper.function.signature.returns.hasError with
    | true =>
      refine Text.Spans.cons ?_ (by simp) hundefined
      simp +decide [h.error, h.invocation]
    | false => exact Text.Spans.cons h.invocation (by simp [Wrapper.invocation]) hundefined

/-! ### Lines that are not statements -/

theorem OneLine.docLine (h : wrapper.OneLine) : wrapper.docLine.OneLine :=
  h.over.docLine fun _ hc => Text.isLineBreak_of_isPlain hc

theorem OneLine.sourceLine (h : wrapper.OneLine) : wrapper.sourceLine.OneLine :=
  h.over.sourceLine fun _ hc => Text.isLineBreak_of_isPlain hc

theorem OneLine.outerLine (h : wrapper.OneLine) : wrapper.outerLine.OneLine :=
  h.over.outerLine fun _ hc => Text.isLineBreak_of_isPlain hc

theorem OneLine.innerLine (h : wrapper.OneLine) : wrapper.innerLine.OneLine :=
  h.over.innerLine fun _ hc => Text.isLineBreak_of_isPlain hc

/-! ### The whole wrapper -/

/-- The lines of the wrapper in the file. -/
def writtenLines (wrapper : Wrapper) : List Text :=
  [[], wrapper.docLine, wrapper.sourceLine, wrapper.outerLine, wrapper.innerLine] ++
    statementLines wrapper.guard ++ wrapper.extractionTexts.flatMap statementLines ++
    statementLines wrapper.call ++ closingLines

/-- How many lines each statement of the wrapper takes. -/
structure LineCounts (registry : Registry) (wrapper : Wrapper) : Prop where
  guard : (statementLines wrapper.guard).length = 3
  extraction : List.Forall₂ (fun param text => ∃ converter,
    registry.lookup param.type = some converter ∧
      (statementLines text).length = converter.lineCount)
    wrapper.function.params wrapper.extractionTexts
  call : (statementLines wrapper.call).length =
    if wrapper.function.signature.returns.value.isSome then 1 else 2

section Whole

variable {registry : Registry} {qualifier : Text} {convention : Convention} {function : Function}

/-- Every extraction spans the lines of its parameter's converter. -/
theorem spans_extractionTexts
    (hwrapper : ofFunction registry qualifier convention function = .ok wrapper)
    (hregistry : registry.OneLine) (h : wrapper.OneLine) :
    List.Forall₂ (fun param text => ∃ converter, registry.lookup param.type = some converter ∧
      text.Spans converter.lineCount) wrapper.function.params wrapper.extractionTexts := by
  obtain ⟨extractions, hextractions, rfl⟩ := ofFunction_eq_ok_iff.1 hwrapper
  have hparams : ∀ param ∈ function.params, param ∈ function.params := fun _ hparam => hparam
  have hforms := (List.forall₂_and_left _ _).2
    ⟨hparams, Extraction.ofParams_eq_ok_iff.1 hextractions⟩
  rw [extractionTexts, List.forall₂_map_right_iff]
  refine hforms.imp ?_
  rintro param extraction ⟨hparam, converter, hlookup, rfl⟩
  refine ⟨converter, hlookup, Extraction.spans_text h.qualifier h.args
    (h.function.param_name param hparam) (h.function.param_type param hparam) ?_ convention⟩
  rintro routine rfl
  exact hregistry.lookup hlookup

theorem OneLine.lineCounts
    (hwrapper : ofFunction registry qualifier convention function = .ok wrapper)
    (hregistry : registry.OneLine) (h : wrapper.OneLine) : wrapper.LineCounts registry where
  guard := length_statementLines h.spans_guard (by decide)
  extraction := by
    refine (spans_extractionTexts hwrapper hregistry h).imp ?_
    rintro param text ⟨converter, hlookup, hspans⟩
    exact ⟨converter, hlookup, length_statementLines hspans converter.lineCount_pos⟩
  call := length_statementLines h.spans_call (by split <;> decide)

/-- Splitting the wrapper at line feeds yields its lines. -/
theorem OneLine.flatMap_splitOn_lines
    (hwrapper : ofFunction registry qualifier convention function = .ok wrapper)
    (hregistry : registry.OneLine) (h : wrapper.OneLine) :
    wrapper.lines.flatMap (·.splitOn '\n') = wrapper.writtenLines := by
  have hopening : ∀ line ∈ [[], wrapper.docLine, wrapper.sourceLine, wrapper.outerLine,
      wrapper.innerLine], '\n' ∉ line := by
    simp [h.docLine.feed_not_mem, h.sourceLine.feed_not_mem, h.outerLine.feed_not_mem,
      h.innerLine.feed_not_mem]
  have hclosing : ∀ line ∈ closingLines, '\n' ∉ line := by decide
  have hspans : ∀ text ∈ wrapper.statements, ∃ count, 0 < count ∧ text.Spans count := by
    refine List.forall_mem_append.2 ⟨List.forall_mem_cons.2 ⟨?_, fun text htext => ?_⟩, ?_⟩
    · exact ⟨3, by decide, h.spans_guard⟩
    · obtain ⟨param, -, converter, -, hspans⟩ :=
        exists_of_mem_right (spans_extractionTexts hwrapper hregistry h) htext
      exact ⟨_, converter.lineCount_pos, hspans⟩
    · intro text htext
      obtain rfl := List.mem_singleton.1 htext
      exact ⟨_, by split <;> decide, h.spans_call⟩
  have hstatements : (wrapper.statements.map statement).flatMap (·.splitOn '\n') =
      wrapper.statements.flatMap statementLines := by
    rw [List.flatMap_map]
    refine List.flatMap_congr fun text htext => ?_
    obtain ⟨count, hcount, hspans⟩ := hspans text htext
    exact splitOn_statement hspans hcount
  rw [lines, List.flatMap_append, List.flatMap_append, Text.flatMap_splitOn_eq_self hopening,
    Text.flatMap_splitOn_eq_self hclosing, hstatements, statements, writtenLines]
  simp only [List.flatMap_append, List.flatMap_cons, List.flatMap_nil, List.append_assoc,
    List.append_nil]

end Whole

end Wrapper

end WrapperGen
