import WrapperGen.Proofs.DeclaredFunction
import WrapperGen.Proofs.Imports.Grouped
import WrapperGen.Proofs.PackageClause
import WrapperGen.Proofs.Text.Encoding
import WrapperGen.Proofs.Text.Lines

/-!
# Texts that scanning lets in

A source reaches a context only through its directive lines and its package clause. What a line
yields stays on one line, and a package name is a word. So every text of a context that a session
of scans leaves behind is on one line (`Context.oneLine_performAll`), except for import paths,
whose literals may denote line breaks.
-/

namespace WrapperGen

/-! ## Directive lines -/

/-- What follows the word of a directive. -/
def Directive.payload : Directive → Text
  | importing payload => payload
  | converting payload => payload
  | declaring payload => payload

theorem Directive.payload_suffix {rest : Text} {directive : Directive}
    (h : Directive.ofRest? rest = some directive) : directive.payload <:+ rest := by
  unfold ofRest? at h
  split at h
  · next payload hword =>
    obtain rfl := Option.some.inj h
    exact ⟨importWord, List.isPrefixOf?_eq_some_iff_append_eq.1 hword⟩
  · split at h
    · next payload hword =>
      obtain rfl := Option.some.inj h
      exact ⟨convertWord, List.isPrefixOf?_eq_some_iff_append_eq.1 hword⟩
    · split at h
      · split at h
        · obtain rfl := Option.some.inj h
          exact List.suffix_cons _ _
        · exact absurd h (by simp)
      · exact absurd h (by simp)

/-- A line that is a directive consists of characters, and its payload ends it. -/
theorem NumberedLine.exists_text {numbered : NumberedLine} {origin : Text}
    {directive : Directive} (h : numbered.directive origin = .ok directive) :
    ∃ text, numbered.line = .ofText text ∧ directive.payload <:+ text := by
  unfold NumberedLine.directive at h
  split at h
  · exact absurd h (by simp)
  · next text htext =>
    split at h
    · next read hread =>
      obtain rfl := Except.ok.inj h
      exact ⟨text, Source.text?_eq_some_iff.1 htext,
        (Directive.payload_suffix hread).trans (List.drop_suffix _ _)⟩
    · exact absurd h (by simp)

/-- The payload of a directive is a part of its line. -/
theorem NumberedLine.oneLine_payload {numbered : NumberedLine} {origin : Text}
    {directive : Directive} (h : numbered.directive origin = .ok directive)
    (hline : numbered.line.shown.OneLine) : directive.payload.OneLine := by
  obtain ⟨text, htext, hpayload⟩ := exists_text h
  rw [htext, Source.shown_ofText] at hline
  exact hline.mono hpayload.subset

theorem Source.exists_line_of_mem {source : Source} {numbered : NumberedLine}
    (h : numbered ∈ source.directiveLines) :
    ∃ line ∈ source.lines, numbered.line = line.trim := by
  obtain ⟨hmem, -⟩ := List.mem_filter.1 h
  obtain ⟨⟨line, number⟩, hline, rfl⟩ := List.mem_map.1 hmem
  exact ⟨line, List.fst_mem_of_mem_zipIdx hline, rfl⟩

theorem Source.oneLine_of_mem_directiveLines {source : Source} {numbered : NumberedLine}
    (h : numbered ∈ source.directiveLines) : numbered.line.shown.OneLine := by
  obtain ⟨line, hline, heq⟩ := exists_line_of_mem h
  rw [heq]
  exact oneLine_trim (oneLine_of_mem_lines hline)

/-! ## Payloads -/

/-- A local name is a field of the payload, or there is none. -/
theorem Import.blank_free_localName {payload : Text} {entry : Import}
    (h : Import.ofPayload payload = .ok (some entry)) :
    ∀ c ∈ entry.localName, Text.isBlank c = false := by
  obtain ⟨literal, -, ⟨hnone, -⟩ | hfields⟩ := exists_literal h
  · simp [hnone]
  · have hmem : entry.localName ∈ Text.fields (Text.trim payload) := by
      rw [hfields]
      exact List.mem_cons_self
    exact ((Text.tokens_fields _).of_mem _ hmem).2

theorem Import.oneLine_localName {payload : Text} {entry : Import}
    (h : Import.ofPayload payload = .ok (some entry)) : entry.localName.OneLine :=
  Text.oneLine_of_blank_free (blank_free_localName h)

/-- A routine is a field of the payload. -/
theorem Conversion.oneLine_routine {payload : Text} {conversion : Conversion}
    (h : Conversion.ofPayload payload = .ok (some conversion)) : conversion.routine.OneLine := by
  refine Text.oneLine_of_mem_fields (Text.trim payload) ?_
  rw [fields_eq h]
  exact List.mem_cons_of_mem _ List.mem_cons_self

theorem IsToken.oneLine {text : Text} (h : IsToken text) : text.OneLine :=
  Text.oneLine_of_blank_free h.blank_free

/-! ## Functions -/

/-- Every text that the wrappers of the function are made of is on one line. -/
structure Function.OneLine (function : Function) : Prop where
  name : function.name.OneLine
  source : function.signature.source.OneLine
  param_name : ∀ param ∈ function.params, param.name.OneLine
  param_type : ∀ param ∈ function.params, param.type.OneLine
  result_type : ∀ param ∈ function.signature.returns.entries, param.type.OneLine
  internal : ∀ name ∈ function.internal.toList, name.OneLine

theorem InternalNames.oneLine_avoiding {used : List Text} {name : Text}
    (h : name ∈ (avoiding used).toList) : name.OneLine := by
  have hbases : Text.OneLine (["fn", "args", "ret", "err"] : List Text).flatten := by decide
  exact fun c hc => (mem_of_mem_avoiding h hc).elim (hbases c)
    (Text.isLineBreak_eq_false (by decide))

theorem NameScheme.oneLine_wrappedName {exported : Bool} {signature : Signature}
    (hname : signature.name.OneLine)
    (htypes : ∀ param ∈ signature.params ++ signature.returns.entries, param.type.OneLine) :
    ((builtin exported).wrappedName signature).OneLine := by
  unfold wrappedName
  split
  · intro c hc
    rcases mem_synthesize hc with hc | ⟨param, hparam, hc⟩
    · exact Text.isLineBreak_eq_false (by decide) hc
    · exact htypes param hparam c hc
  · exact hname

/-- A signature on one line declares a function whose texts are on one line. -/
theorem Function.oneLine_ofSignature {exported : Bool} {origin payload : Text}
    {signature : Signature} (h : Signature.ofText payload = .ok signature)
    (hpayload : payload.OneLine) : (ofSignature (.builtin exported) origin signature).OneLine := by
  have hdeclared := Signature.ofText_eq_ok_iff.1 h
  have hwf := hdeclared.wellFormed
  have hparams : ∀ param ∈ signature.params, param.type.OneLine :=
    fun param hparam => (hwf.isType param hparam).oneLine
  have hresults : ∀ param ∈ signature.returns.entries, param.type.OneLine :=
    fun param hparam => (hwf.result_isType param hparam).oneLine
  exact
    { name := NameScheme.oneLine_wrappedName (hpayload.mono hdeclared.name_isInfix.subset)
        (List.forall_mem_append.2 ⟨hparams, hresults⟩)
      source := by
        change signature.source.OneLine
        rw [hdeclared.source_eq]
        exact hpayload.trim
      param_name := fun param hparam => (hwf.isToken_name param hparam).oneLine
      param_type := hparams
      result_type := hresults
      internal := fun _ hname => InternalNames.oneLine_avoiding hname }

/-! ## Contexts -/

/-- Whether the request hands over sources, and not directives of its own. -/
def Request.isScan : Request → Bool
  | scan _ _ => true
  | file _ _ => true
  | direct _ _ => false

/-- What every scan preserves, a session of scans preserves. -/
theorem Context.performAll_preserves (invariant : Context → Prop) {context : Context}
    {requests : List Request} (hscans : ∀ request ∈ requests, request.isScan = true)
    (hscan : ∀ current origin source, invariant current →
      invariant (Context.scan origin source current).context)
    (hinit : invariant context) : invariant (context.performAll requests) := by
  induction requests generalizing context with
  | nil => exact hinit
  | cons request requests ih =>
    obtain ⟨hrequest, hscans⟩ := List.forall_mem_cons.1 hscans
    refine ih hscans ?_
    cases request with
    | scan origin source => exact hscan context origin source hinit
    | file files path =>
      rw [perform, scanFile]
      split
      · exact hinit
      · exact hscan context path _ hinit
    | direct => exact absurd hrequest (by simp [Request.isScan])

/-- The converter named by a text is a routine on one line. -/
def Registry.OneLine (registry : Registry) : Prop :=
  ∀ type routine, Table.find? registry type = some (.routine routine) → routine.OneLine

/-- Every text that the generated file takes from the context fits on a line of it. -/
structure Context.OneLine (context : Context) : Prop where
  package : ∀ name ∈ context.package, '\n' ∉ name
  functions : ∀ function ∈ context.functions, function.OneLine
  imports : ∀ entry ∈ context.imports.entries, entry.localName.OneLine
  registry : context.registry.OneLine

theorem Registry.oneLine_builtin : Registry.builtin.OneLine := by
  have hall : ∀ entry ∈ builtinRoutines, entry.2.OneLine := by decide
  exact fun _ _ h => hall _ (mem_builtinRoutines_of_find? h)

theorem Registry.OneLine.register {registry : Registry} (h : registry.OneLine) (type : Text)
    {routine : Text} (hroutine : routine.OneLine) :
    (registry.register type (.routine routine)).OneLine := by
  intro other name hname
  rw [Registry.register, Table.find?_insert] at hname
  split at hname
  · obtain rfl := Converter.routine.inj (Option.some.inj hname)
    exact hroutine
  · exact h other name hname

/-- The converter of a type is a routine on one line, whether it is its own or not. -/
theorem Registry.OneLine.lookup {registry : Registry} (h : registry.OneLine) {type routine : Text}
    (hroutine : registry.lookup type = some (.routine routine)) : routine.OneLine := by
  obtain ⟨key, hkey⟩ := exists_find?_of_lookup hroutine
  exact h key routine hkey

namespace Context

theorem oneLine_fresh (exported extendedOnly : Bool) {package : Option Text}
    (hpackage : ∀ name ∈ package, '\n' ∉ name) :
    (fresh exported extendedOnly package).OneLine where
  package := hpackage
  functions := by simp [fresh]
  imports := by
    change ∀ entry ∈ ImportSet.initial.entries, entry.localName.OneLine
    decide
  registry := Registry.oneLine_builtin

/-- A directive whose payload is on one line keeps the context on lines. -/
theorem OneLine.apply {context next : Context} {origin : Text} {directive : Directive}
    (h : context.OneLine) (hpayload : directive.payload.OneLine)
    (happly : context.apply origin directive = .ok next) : next.OneLine := by
  cases directive with
  | importing payload =>
    obtain ⟨requested?, hread, imports, hadd, rfl⟩ := apply_importing_eq_ok_iff.1 happly
    cases requested? with
    | none =>
      obtain rfl := ImportSet.addAll_nil_eq_ok_iff.1 hadd
      exact h
    | some entry =>
      refine { h with imports := fun other hother => ?_ }
      have hadds := ImportSet.addAll_singleton_eq_ok_iff.1 hadd
      rcases hadds.mem_entries_iff.1 hother with hother | ⟨rfl, -⟩
      · exact h.imports other hother
      · exact Import.oneLine_localName hread
  | converting payload =>
    obtain ⟨conversion?, hread, rfl⟩ := apply_converting_eq_ok_iff.1 happly
    cases conversion? with
    | none => exact h
    | some conversion =>
      exact { h with registry := h.registry.register _ (Conversion.oneLine_routine hread) }
  | declaring payload =>
    obtain ⟨signature, hread, rfl⟩ := apply_declaring_eq_ok_iff.1 happly
    refine { h with functions := fun function hfunction => ?_ }
    rcases List.mem_append.1 hfunction with hold | hnew
    · exact h.functions function hold
    · obtain rfl := List.mem_singleton.1 hnew
      exact Function.oneLine_ofSignature hread hpayload

theorem OneLine.applyLine {context next : Context} {origin : Text} {numbered : NumberedLine}
    (h : context.OneLine) (hline : numbered.line.shown.OneLine)
    (happly : context.applyLine origin numbered = .ok next) : next.OneLine := by
  obtain ⟨directive, hdirective, happly⟩ := applyLine_eq_ok_iff.1 happly
  exact h.apply (NumberedLine.oneLine_payload hdirective hline) happly

theorem OneLine.recordPackage {context next : Context} {origin : Text} {source : Source}
    (h : context.OneLine) (hrecord : context.recordPackage origin source = .ok next) :
    next.OneLine := by
  rw [Context.recordPackage] at hrecord
  split at hrecord
  · exact absurd hrecord (by simp)
  · next name hread =>
    split at hrecord
    · obtain rfl := Except.ok.inj hrecord
      refine { h with package := fun known hknown => ?_ }
      obtain rfl := Option.some.inj hknown
      intro hfeed
      exact absurd (PackageClause.isWord_of_read hread _ hfeed) (by decide)
    · split at hrecord
      · obtain rfl := Except.ok.inj hrecord
        exact h
      · exact absurd hrecord (by simp)

/-- Whatever a source is made of, scanning it keeps the context on lines. -/
theorem OneLine.scan {context : Context} (h : context.OneLine) (origin : Text) (source : Source) :
    (context.scan origin source).context.OneLine := by
  refine scan_preserves Context.OneLine (fun numbered hnumbered _ _ happly hcurrent => ?_)
    (fun _ _ hrecord hcurrent => hcurrent.recordPackage hrecord) h
  exact hcurrent.applyLine (Source.oneLine_of_mem_directiveLines hnumbered) happly

/-- After every session of scans the texts of the context fit on the lines of the file. -/
theorem oneLine_performAll {exported extendedOnly : Bool} {package : Option Text}
    {requests : List Request} (hpackage : ∀ name ∈ package, '\n' ∉ name)
    (hscans : ∀ request ∈ requests, request.isScan = true) :
    ((fresh exported extendedOnly package).performAll requests).OneLine :=
  performAll_preserves Context.OneLine hscans (fun _ origin source h => h.scan origin source)
    (oneLine_fresh exported extendedOnly hpackage)

end Context

end WrapperGen
