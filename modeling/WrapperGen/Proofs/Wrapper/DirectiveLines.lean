import WrapperGen.Proofs.Scan.DirectiveLines
import WrapperGen.Proofs.Wrapper.Lines

/-!
# Wrappers and directive lines

Every line of a wrapper begins with a word of the layout or with an internal name, except for the
lines that bind a parameter: those begin with its name. So a wrapper holds a directive exactly if
the name of a parameter begins like one (`Wrapper.OneLine.forall_not_holdsDirective_iff`).
-/

namespace WrapperGen

/-! ## Statements -/

theorem Wrapper.holdsDirective_statement_iff {text : Text} {count : Nat} (h : text.Spans count)
    (hcount : 0 < count) : (statement text).HoldsDirective ↔ text.HoldsDirective := by
  have htabs : Text.Padding (Text.tabs 2) := by
    intro c hc
    rw [List.eq_of_mem_replicate hc]
    decide
  rw [Text.holdsDirective_splitOn_iff, splitOn_statement h hcount, statementLines,
    Text.holdsDirective_splitOn_iff]
  simp only [List.mem_map, exists_exists_and_eq_and, Text.holdsDirective_padding_append_iff htabs]

/-- The lines of a block begin with words of their own. -/
theorem not_holdsDirective_block {head statement : Text} (hhead : head.OneLine)
    (hif : ("if " : Text) <+: head) (hstatement : statement.OneLine)
    (hreturn : ("return " : Text) <+: statement) : ¬ (block head statement).HoldsDirective := by
  have hblock : block head statement =
      (head ++ " \x7b") ++ '\n' :: (('\t' :: statement) ++ '\n' :: ['\x7d']) := by
    simp [block]
  have hopening : (head ++ " \x7b").OneLine := Text.oneLine_append.2 ⟨hhead, by decide⟩
  have htab : Text.OneLine ('\t' :: statement) := Text.oneLine_cons.2 ⟨by decide, hstatement⟩
  have hindented : ("\treturn " : Text) <+: '\t' :: statement := by
    simpa using (List.prefix_cons_inj '\t').2 hreturn
  have hclosing : Text.OneLine ['\x7d'] := by decide
  rw [hblock, Text.holdsDirective_append_cons_iff (by decide),
    Text.holdsDirective_append_cons_iff (by decide), not_or, not_or]
  exact ⟨hopening.not_holdsDirective (hif.trans (List.prefix_append _ _)) (by decide),
    htab.not_holdsDirective hindented (by decide),
    hclosing.not_holdsDirective List.prefix_rfl (by decide)⟩

/-- A parameter's name begins the line that binds it, and nothing else begins like a directive. -/
theorem Extraction.holdsDirective_text_iff {qualifier container : Text} {param : Param}
    {converter : Converter} (hqualifier : qualifier.OneLine) (hcontainer : container.OneLine)
    (hname : IsToken param.name) (htype : param.type.OneLine)
    (hroutine : ∀ routine, converter = .routine routine → routine.OneLine)
    (convention : Convention) :
    ((ofParam convention container converter param).text qualifier).HoldsDirective ↔
      directivePrefix <+: param.name := by
  have hplain : ∀ c, Text.isPlain c = true → Text.isLineBreak c = false :=
    fun _ hc => Text.isLineBreak_of_isPlain hc
  have haccess : (Access.mk convention container param.position).text.OneLine :=
    Access.over_text hplain hcontainer
  have hword : ∀ (c : Char) (back : Text), c ∉ directivePrefix → Text.OneLine (c :: back) →
      ((param.name ++ c :: back).HoldsDirective ↔ directivePrefix <+: param.name) := by
    intro c back hc hback
    rw [(Text.oneLine_append.2 ⟨hname.oneLine, hback⟩).holdsDirective_iff]
    exact Text.prefix_dropWhile_word_iff Text.Padding.nil hname.blank_free hname.ne_nil hc
  cases converter with
  | direct description =>
    have htext : (ofParam convention container (.direct description) param).text qualifier =
        param.name ++ ' ' :: (":= " ++ (Access.mk convention container param.position).text) := by
      simp [ofParam, text]
    rw [htext]
    exact hword ' ' _ (by decide) (by simp +decide [haccess])
  | routine routine =>
    have hexpected : (scriptTypeName param.type).OneLine := over_scriptTypeName hplain htype
    have hordinal : (Text.ordinal ((param.position : Int) + 1)).OneLine :=
      Text.over_ordinal hplain (param.position + 1)
    have hcalled : (routineName qualifier routine).OneLine :=
      over_routineName (hroutine routine rfl) qualifier
    have htext : (ofParam convention container (.routine routine) param).text qualifier =
        (param.name ++ ',' :: (" ok := " ++ routineName qualifier routine ++ "(" ++
          (Access.mk convention container param.position).text ++ ")")) ++ '\n' ::
        block "if !ok" ("return " ++ qualifier ++ "Undefined, " ++ qualifier ++
          "NewArgumentTypeError(\"" ++ Text.ordinal (param.position + 1) ++ "\", \"" ++
          scriptTypeName param.type ++ "\", " ++
          (Access.mk convention container param.position).text ++ ".TypeName())") := by
      simp [ofParam, text]
    rw [htext, Text.holdsDirective_append_cons_iff (by decide), or_iff_left]
    · exact hword ',' _ (by decide) (by simp +decide [hcalled, haccess])
    · refine not_holdsDirective_block (by decide) (by decide) ?_ ⟨_, rfl⟩
      simp +decide [hqualifier, hordinal, hexpected, haccess]

namespace Wrapper

variable {wrapper : Wrapper}

theorem OneLine.not_holdsDirective_guard (h : wrapper.OneLine) :
    ¬ wrapper.guard.HoldsDirective := by
  unfold guard
  cases wrapper.convention with
  | positional =>
    refine not_holdsDirective_block ?_ ⟨_, rfl⟩ ?_ ⟨_, rfl⟩
    · simp +decide [h.args, Text.oneLine_decimal]
    · simp +decide [undefined, h.qualifier, h.args, Text.oneLine_decimal]
  | cursor =>
    refine not_holdsDirective_block ?_ ⟨_, rfl⟩ ?_ ⟨_, rfl⟩
    · simp +decide [h.args, h.error, Text.oneLine_decimal]
    · simp +decide [undefined, h.qualifier, h.error]

theorem OneLine.not_holdsDirective_opening (h : wrapper.OneLine) :
    ∀ line ∈ [[], wrapper.docLine, wrapper.sourceLine, wrapper.outerLine, wrapper.innerLine],
      ¬ Text.HoldsDirective line := by
  have hdoc : ("// " : Text) <+: wrapper.docLine := ⟨_, rfl⟩
  have hsource : ("// " : Text) <+: wrapper.sourceLine := ⟨_, rfl⟩
  have houter : ("func " : Text) <+: wrapper.outerLine := ⟨_, rfl⟩
  have hinner : ("\treturn " : Text) <+: wrapper.innerLine := ⟨_, rfl⟩
  simp only [List.forall_mem_cons]
  exact ⟨Text.not_holdsDirective_nil, h.docLine.not_holdsDirective hdoc (by decide),
    h.sourceLine.not_holdsDirective hsource (by decide),
    h.outerLine.not_holdsDirective houter (by decide),
    h.innerLine.not_holdsDirective hinner (by decide), by simp⟩

theorem not_holdsDirective_closing : ∀ line ∈ closingLines, ¬ Text.HoldsDirective line := by
  have hclosing : ∀ line ∈ closingLines, line.OneLine ∧ Text.opensOtherwise line = true := by decide
  exact fun line hline =>
    (hclosing line hline).1.not_holdsDirective List.prefix_rfl (hclosing line hline).2

section Call

variable {used : List Text} (hinternal : wrapper.function.internal = .avoiding used)

include hinternal

theorem prefix_invocation : ("fn" : Text) <+: wrapper.invocation := by
  have hcallee : ("fn" : Text) <+: wrapper.callee := by
    rw [callee, hinternal]
    exact prefix_freshName "fn" used
  simpa [invocation] using hcallee.trans (List.prefix_append _ _)

theorem prefix_result (rest : Text) : ("ret" : Text) <+: wrapper.result ++ rest := by
  rw [result, hinternal]
  exact (prefix_freshName "ret" used).trans (List.prefix_append _ _)

theorem prefix_error (rest : Text) : ("err" : Text) <+: wrapper.error ++ rest := by
  rw [error, hinternal]
  exact (prefix_freshName "err" used).trans (List.prefix_append _ _)

/-- What sets the result of a function without one begins with the internal name. -/
theorem OneLine.not_holdsDirective_undefined (h : wrapper.OneLine) :
    ¬ Text.HoldsDirective (wrapper.result ++ (" = " ++ wrapper.undefined)) := by
  have hone : Text.OneLine (wrapper.result ++ (" = " ++ wrapper.undefined)) := by
    simp +decide [undefined, h.result, h.qualifier]
  exact hone.not_holdsDirective (prefix_result hinternal _) (by decide)

/-- The call begins with an internal name, and so does what sets the result. -/
theorem OneLine.not_holdsDirective_call (h : wrapper.OneLine) : ¬ wrapper.call.HoldsDirective := by
  have hbreak : Text.isLineBreak '\n' = true := by decide
  have hset := h.not_holdsDirective_undefined hinternal
  unfold call
  simp only
  cases wrapper.function.signature.returns.value.isSome with
  | true =>
    cases wrapper.function.signature.returns.hasError with
    | true =>
      simp only [List.append_assoc]
      refine Text.OneLine.not_holdsDirective ?_ (prefix_result hinternal _) (by decide)
      simp +decide [h.result, h.error, h.invocation]
    | false =>
      simp only [List.append_assoc]
      refine Text.OneLine.not_holdsDirective ?_ (prefix_result hinternal _) (by decide)
      simp +decide [h.result, h.invocation]
  | false =>
    cases wrapper.function.signature.returns.hasError with
    | true =>
      have hcall : wrapper.error ++ " = " ++ wrapper.invocation ++
          ("\n" ++ wrapper.result ++ " = " ++ wrapper.undefined) =
          (wrapper.error ++ (" = " ++ wrapper.invocation)) ++ '\n' ::
            (wrapper.result ++ (" = " ++ wrapper.undefined)) := by simp
      refine hcall ▸ (Text.holdsDirective_append_cons_iff hbreak).not.2 (not_or.2 ⟨?_, hset⟩)
      refine Text.OneLine.not_holdsDirective ?_ (prefix_error hinternal _) (by decide)
      simp +decide [h.error, h.invocation]
    | false =>
      have hcall : wrapper.invocation ++ ("\n" ++ wrapper.result ++ " = " ++ wrapper.undefined) =
          wrapper.invocation ++ '\n' :: (wrapper.result ++ (" = " ++ wrapper.undefined)) := by simp
      refine hcall ▸ (Text.holdsDirective_append_cons_iff hbreak).not.2 (not_or.2 ⟨?_, hset⟩)
      exact h.invocation.not_holdsDirective (prefix_invocation hinternal) (by decide)

end Call

section Whole

variable {registry : Registry} {qualifier : Text} {convention : Convention} {function : Function}
  (h : wrapper.OneLine)
  (hwrapper : ofFunction registry qualifier convention function = .ok wrapper)
  (hregistry : registry.OneLine)

include h hwrapper hregistry

theorem OneLine.holdsDirective_extractions
    (hnames : ∀ param ∈ wrapper.function.params, IsToken param.name) :
    List.Forall₂ (fun param text => Text.HoldsDirective (statement text) ↔
      directivePrefix <+: param.name) wrapper.function.params wrapper.extractionTexts := by
  obtain ⟨extractions, hextractions, rfl⟩ := ofFunction_eq_ok_iff.1 hwrapper
  have hparams : ∀ param ∈ function.params, param ∈ function.params := fun _ hparam => hparam
  have hforms := (List.forall₂_and_left _ _).2
    ⟨hparams, Extraction.ofParams_eq_ok_iff.1 hextractions⟩
  rw [extractionTexts, List.forall₂_map_right_iff]
  refine hforms.imp ?_
  rintro param extraction ⟨hparam, converter, hlookup, rfl⟩
  have hname := hnames param hparam
  have htype := h.function.param_type param hparam
  have hroutine : ∀ routine, converter = .routine routine → routine.OneLine := by
    rintro routine rfl
    exact hregistry.lookup hlookup
  have hspans := Extraction.spans_text h.qualifier h.args hname.oneLine htype hroutine convention
  exact (holdsDirective_statement_iff hspans converter.lineCount_pos).trans
    (Extraction.holdsDirective_text_iff h.qualifier h.args hname htype hroutine convention)

/-- Of the lines of a wrapper only those that bind parameters may begin like a directive. -/
theorem OneLine.forall_not_holdsDirective_iff {used : List Text}
    (hinternal : wrapper.function.internal = .avoiding used)
    (hnames : ∀ param ∈ wrapper.function.params, IsToken param.name) :
    (∀ line ∈ wrapper.lines, ¬ Text.HoldsDirective line) ↔
      ∀ param ∈ wrapper.function.params, ¬ directivePrefix <+: param.name := by
  have hextractions := h.holdsDirective_extractions hwrapper hregistry hnames
  have hguard : ¬ (statement wrapper.guard).HoldsDirective := by
    rw [holdsDirective_statement_iff h.spans_guard (by decide)]
    exact h.not_holdsDirective_guard
  have hcall : ¬ (statement wrapper.call).HoldsDirective := by
    rw [holdsDirective_statement_iff h.spans_call (by split <;> decide)]
    exact h.not_holdsDirective_call hinternal
  rw [lines, statements, List.forall_mem_append, List.forall_mem_append,
    and_iff_right h.not_holdsDirective_opening, and_iff_left not_holdsDirective_closing,
    List.forall_mem_map, List.forall_mem_append, List.forall_mem_singleton, and_iff_left hcall,
    List.forall_mem_cons, and_iff_right hguard]
  constructor
  · intro hall param hparam hprefix
    obtain ⟨text, htext, hiff⟩ := exists_of_mem_right hextractions.flip hparam
    exact hall text htext (hiff.2 hprefix)
  · intro hall text htext hholds
    obtain ⟨param, hparam, hiff⟩ := exists_of_mem_right hextractions htext
    exact hall param hparam (hiff.1 hholds)

end Whole

end Wrapper

end WrapperGen
