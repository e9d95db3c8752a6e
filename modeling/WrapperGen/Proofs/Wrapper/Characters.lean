import WrapperGen.Layout
import WrapperGen.Proofs.Converter
import WrapperGen.Proofs.Text.Indent
import WrapperGen.Proofs.Wrapper.Marshalling

/-!
# The characters of a wrapper

A wrapper is written with characters of its function and of the converters, and with plain ones:
tabs and printable ASCII. So whatever holds of plain characters and of those of the function holds
of every character on the lines of the wrapper (`Text.Over`); between the lines of a statement
stands a line feed (`Wrapper.Over.lines`).
-/

namespace WrapperGen

/-! ## Characters that a part lacks -/

section Lacking

variable {c : Char}

theorem Text.not_mem_ordinal (hdigit : c.isDigit = false)
    (hsuffix : ∀ suffix ∈ (["th", "st", "nd", "rd"] : List Text), c ∉ suffix) (n : Nat) :
    c ∉ ordinal n := by
  have hends : c ∉ ordinalSuffix n := by
    unfold ordinalSuffix
    split_ifs
    all_goals exact hsuffix _ (by decide)
  rw [ordinal, List.mem_append, not_or]
  exact ⟨not_mem_decimal hdigit n, hends⟩

theorem Access.not_mem_text {access : Access} (hdigit : c.isDigit = false)
    (hplain : ∀ own ∈ (["[", "]", ".Get(", ")"] : List Text), c ∉ own)
    (h : c ∉ access.container) : c ∉ access.text := by
  have hindex := Text.not_mem_decimal hdigit access.index
  unfold text
  cases access.convention <;> simp only [List.mem_append, not_or]
  · exact ⟨⟨⟨h, hplain _ (by decide)⟩, hindex⟩, hplain _ (by decide)⟩
  · exact ⟨⟨⟨h, hplain _ (by decide)⟩, hindex⟩, hplain _ (by decide)⟩

/-- The names that the wrapper declares for itself lack the character. -/
def Wrapper.InternalLack (c : Char) (wrapper : Wrapper) : Prop :=
  ∀ name ∈ wrapper.function.internal.toList, c ∉ name

namespace Wrapper.InternalLack

variable {wrapper : Wrapper} (h : wrapper.InternalLack c)

include h

theorem args : c ∉ wrapper.args := h _ (by simp [InternalNames.toList, Wrapper.args])

theorem callee : c ∉ wrapper.callee := h _ (by simp [InternalNames.toList, Wrapper.callee])

theorem result : c ∉ wrapper.result := h _ (by simp [InternalNames.toList, Wrapper.result])

theorem error : c ∉ wrapper.error := h _ (by simp [InternalNames.toList, Wrapper.error])

end Wrapper.InternalLack

end Lacking

/-! ## Parts of a wrapper -/

section Parts

variable {p : Char → Prop} (hp : ∀ c, Text.isPlain c = true → p c)

include hp

theorem Access.over_text {access : Access} (h : access.container.Over p) : access.text.Over p := by
  have hindex := Text.over_decimal hp access.index
  unfold text
  cases access.convention <;> simp (disch := decide) [h, hindex, hp]

theorem over_scriptTypeName {type : Text} (h : type.Over p) : (scriptTypeName type).Over p := by
  have hall : ∀ entry ∈ scriptTypeNames, entry.2.all Text.isPlain = true := by decide
  rcases scriptTypeName_cases type with heq | ⟨entry, hentry, -, heq⟩
  · rwa [heq]
  · rw [heq]
    exact Text.over_of_plain hp (hall entry hentry)

omit hp in
theorem over_routineName {routine : Text} (h : routine.Over p) (qualifier : Text) :
    (routineName qualifier routine).Over p := by
  unfold routineName
  split
  · cases hprefix : Runtime.qualifier.isPrefixOf? routine with
    | none => exact h
    | some rest =>
      rw [← List.isPrefixOf?_eq_some_iff_append_eq.1 hprefix, Text.over_append] at h
      exact h.2
  · exact h

end Parts

/-- Every text that the wrappers of the function are made of is of a kind. -/
structure Function.Over (p : Char → Prop) (function : Function) : Prop where
  name : function.name.Over p
  source : function.signature.source.Over p
  param_name : ∀ param ∈ function.params, param.name.Over p
  param_type : ∀ param ∈ function.params, param.type.Over p
  result_type : ∀ param ∈ function.signature.returns.entries, param.type.Over p
  internal : ∀ name ∈ function.internal.toList, name.Over p

namespace Wrapper

/-- Every text that the wrapper itself is made of is of a kind. -/
structure Over (p : Char → Prop) (wrapper : Wrapper) : Prop where
  qualifier : wrapper.qualifier.Over p
  function : wrapper.function.Over p

namespace Over

variable {p : Char → Prop} {wrapper : Wrapper} (h : wrapper.Over p)

include h

theorem args : wrapper.args.Over p :=
  h.function.internal _ (by simp [InternalNames.toList, Wrapper.args])

theorem callee : wrapper.callee.Over p :=
  h.function.internal _ (by simp [InternalNames.toList, Wrapper.callee])

theorem result : wrapper.result.Over p :=
  h.function.internal _ (by simp [InternalNames.toList, Wrapper.result])

theorem error : wrapper.error.Over p :=
  h.function.internal _ (by simp [InternalNames.toList, Wrapper.error])

variable (hp : ∀ c, Text.isPlain c = true → p c)

include hp

theorem invocation : wrapper.invocation.Over p := by
  have hnames : (Text.join ", " wrapper.function.signature.paramNames).Over p := by
    refine Text.over_join (Text.over_of_plain hp (by decide)) fun name hname => ?_
    obtain ⟨param, hparam, rfl⟩ := List.mem_map.1 hname
    exact h.function.param_name param hparam
  simpa (disch := decide) [Wrapper.invocation, h.callee, hp] using hnames

/-! ### Lines that are not statements -/

theorem name : wrapper.name.Over p := by
  unfold Wrapper.name
  cases wrapper.convention with
  | positional => exact h.function.name
  | cursor => exact Text.over_append.2 ⟨h.function.name, Text.over_of_plain hp (by decide)⟩

theorem callableType : wrapper.callableType.Over p := by
  unfold Wrapper.callableType
  cases wrapper.convention <;>
    exact Text.over_append.2 ⟨h.qualifier, Text.over_of_plain hp (by decide)⟩

theorem argsDeclaration : wrapper.argsDeclaration.Over p := by
  unfold Wrapper.argsDeclaration objectType
  cases wrapper.convention <;> simp (disch := decide) [h.args, h.qualifier, hp]

theorem paramTypes : wrapper.paramTypes.Over p := by
  refine Text.over_join (Text.over_of_plain hp (by decide)) fun type htype => ?_
  obtain ⟨param, hparam, rfl⟩ := List.mem_map.1 htype
  exact h.function.param_type param hparam

theorem resultTypes : wrapper.resultTypes.Over p := by
  have htypes : (Text.join ", "
      (wrapper.function.signature.returns.entries.map Param.type)).Over p := by
    refine Text.over_join (Text.over_of_plain hp (by decide)) fun type htype => ?_
    obtain ⟨param, hparam, rfl⟩ := List.mem_map.1 htype
    exact h.function.result_type param hparam
  have hlist : wrapper.function.signature.returns.typeList.Over p := by
    unfold Returns.typeList
    simp only
    split
    · exact Text.over_nil
    · simpa (disch := decide) [hp] using htypes
  unfold Wrapper.resultTypes
  simp only
  split
  · exact Text.over_nil
  · simp (disch := decide) [hlist, hp]

theorem docLine : wrapper.docLine.Over p := by
  unfold Wrapper.docLine
  simp (disch := decide) [h.name hp, h.callableType hp, hp]

theorem sourceLine : wrapper.sourceLine.Over p :=
  Text.over_append.2 ⟨Text.over_of_plain hp (by decide), h.function.source⟩

theorem outerLine : wrapper.outerLine.Over p := by
  unfold Wrapper.outerLine
  simp (disch := decide) [h.name hp, h.callee, h.paramTypes hp, h.resultTypes hp,
    h.callableType hp, hp]

theorem innerLine : wrapper.innerLine.Over p := by
  unfold Wrapper.innerLine objectType
  simp (disch := decide) [h.argsDeclaration hp, h.result, h.error, h.qualifier, hp]

end Over

end Wrapper

/-! ## Statements -/

/-- The tabs in front of a statement are those of its first line. -/
theorem Wrapper.statement_eq_indent {text : Text} (h : Text.lines text ≠ []) :
    statement text = Text.indent text (2 : Nat) true := by
  obtain ⟨first, others, hlines⟩ := List.exists_cons_of_ne_nil h
  rw [statement, Text.indent, Text.indent, hlines]
  exact Text.append_join_cons _ _ first _

section Statements

variable {p : Char → Prop} (hp : ∀ c, Text.isPlain c = true → p c) (hfeed : p '\n')

include hp hfeed

theorem over_block {head statement : Text} (hhead : head.Over p) (hstatement : statement.Over p) :
    (block head statement).Over p := by
  unfold block
  simp (disch := decide) [hhead, hstatement, hp, hfeed]

/-- Indenting a text adds tabs and line feeds to its lines. -/
theorem over_statement {text : Text} (h : text.Over p) : (Wrapper.statement text).Over p := by
  have htabs : (Text.tabs 2).Over p := Text.over_of_plain hp (by decide)
  have hlines : ∀ line ∈ Text.lines text, line.Over p :=
    fun line hline => h.mono (Text.prefix_and_infix_of_linesBy.2 line hline).subset
  by_cases hne : Text.lines text = []
  · rw [Wrapper.statement, Text.indent_of_lines_eq_nil hne]
    exact Text.over_append.2 ⟨htabs, h⟩
  · rw [Wrapper.statement_eq_indent hne, Text.indent_eq_join hne]
    refine Text.over_join (by simpa using hfeed) fun indented hindented => ?_
    obtain ⟨line, hline, rfl | rfl⟩ := Text.exists_of_mem_indented 2 true hindented
    · exact hlines _ hline
    · exact Text.over_append.2 ⟨htabs, hlines _ hline⟩

theorem Extraction.over_text {qualifier container : Text} {param : Param} {converter : Converter}
    (hqualifier : qualifier.Over p) (hcontainer : container.Over p) (hname : param.name.Over p)
    (htype : param.type.Over p)
    (hroutine : ∀ routine, converter = .routine routine → routine.Over p)
    (convention : Convention) :
    ((ofParam convention container converter param).text qualifier).Over p := by
  have haccess : (Access.mk convention container param.position).text.Over p :=
    Access.over_text hp hcontainer
  cases converter with
  | direct description =>
    unfold ofParam text
    simp (disch := decide) [hname, haccess, hp]
  | routine routine =>
    have hexpected := over_scriptTypeName hp htype
    have hordinal : (Text.ordinal ((param.position : Int) + 1)).Over p :=
      Text.over_ordinal hp (param.position + 1)
    have hcalled := over_routineName (hroutine routine rfl) qualifier
    unfold ofParam text
    simp only [Text.over_append]
    refine ⟨⟨⟨⟨⟨⟨hname, ?_⟩, hcalled⟩, ?_⟩, haccess⟩, ?_⟩, over_block hp hfeed ?_ ?_⟩
    · exact Text.over_of_plain hp (by decide)
    · exact Text.over_of_plain hp (by decide)
    · simp (disch := decide) [hp, hfeed]
    · exact Text.over_of_plain hp (by decide)
    · simp (disch := decide) [hqualifier, hordinal, hexpected, haccess, hp]

namespace Wrapper

variable {wrapper : Wrapper}

theorem Over.guard (h : wrapper.Over p) : wrapper.guard.Over p := by
  have hcount := Text.over_decimal hp wrapper.function.params.length
  unfold Wrapper.guard
  cases wrapper.convention with
  | positional =>
    refine over_block hp hfeed ?_ ?_
    · simp (disch := decide) [h.args, hcount, hp]
    · simp (disch := decide) [undefined, h.qualifier, h.args, hcount, hp]
  | cursor =>
    refine over_block hp hfeed ?_ ?_
    · simp (disch := decide) [h.args, h.error, hcount, hp]
    · simp (disch := decide) [undefined, h.qualifier, h.error, hp]

theorem Over.call (h : wrapper.Over p) : wrapper.call.Over p := by
  have hinvocation := h.invocation hp
  unfold Wrapper.call undefined
  simp only
  cases wrapper.function.signature.returns.value.isSome <;>
    cases wrapper.function.signature.returns.hasError <;>
    simp (disch := decide) [h.result, h.error, h.qualifier, hinvocation, hp, hfeed]

/-- Every line of a wrapper is made of characters of its function and its converters. -/
theorem Over.lines {registry : Registry} {qualifier : Text} {convention : Convention}
    {function : Function} (h : wrapper.Over p)
    (hwrapper : ofFunction registry qualifier convention function = .ok wrapper)
    (hroutine : ∀ type routine, registry.lookup type = some (.routine routine) → routine.Over p) :
    ∀ line ∈ wrapper.lines, line.Over p := by
  have hstatements : ∀ text ∈ wrapper.statements, text.Over p := by
    refine List.forall_mem_append.2 ⟨List.forall_mem_cons.2 ⟨h.guard hp hfeed, ?_⟩, ?_⟩
    · obtain ⟨extractions, hextractions, rfl⟩ := ofFunction_eq_ok_iff.1 hwrapper
      intro text htext
      obtain ⟨extraction, hmem, rfl⟩ := List.mem_map.1 htext
      obtain ⟨param, hparam, converter, hlookup, rfl⟩ :=
        exists_of_mem_right (Extraction.ofParams_eq_ok_iff.1 hextractions) hmem
      refine Extraction.over_text hp hfeed h.qualifier h.args (h.function.param_name param hparam)
        (h.function.param_type param hparam) ?_ convention
      rintro routine rfl
      exact hroutine param.type routine hlookup
    · intro text htext
      obtain rfl := List.mem_singleton.1 htext
      exact h.call hp hfeed
  refine List.forall_mem_append.2 ⟨List.forall_mem_append.2 ⟨?_, fun line hline => ?_⟩, ?_⟩
  · simp only [List.forall_mem_cons]
    exact ⟨Text.over_nil, h.docLine hp, h.sourceLine hp, h.outerLine hp, h.innerLine hp, by simp⟩
  · obtain ⟨text, htext, rfl⟩ := List.mem_map.1 hline
    exact over_statement hp hfeed (hstatements text htext)
  · have hclosing : ∀ line ∈ closingLines, line.all Text.isPlain = true := by decide
    exact fun line hline => Text.over_of_plain hp (hclosing line hline)

end Wrapper

end Statements

end WrapperGen
