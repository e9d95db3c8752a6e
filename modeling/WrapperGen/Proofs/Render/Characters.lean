import WrapperGen.Proofs.Render.Lines
import WrapperGen.Proofs.Scan.Provenance
import WrapperGen.Proofs.Scan.Undecodable

/-!
# The characters of the generated file

The file is written with the characters of its context and with plain ones (`Context.Over.render`).
So a character of it is an ASCII one, a decoded character of a source, or one of an import path; no
undecodable byte gets into it, and it does not depend on what the undecodable bytes are
(`Context.undecodable_stopped`).
-/

namespace WrapperGen

/-! ## The file -/

section File

variable {p : Char → Prop} (hp : ∀ c, Text.isPlain c = true → p c)

include hp

theorem Literal.over_quote {text : Text} (h : text.Over p) : (quote text).Over p := by
  have hchar : ∀ c ∈ text, (quoteChar c).Over p := by
    intro c hc
    unfold quoteChar
    split_ifs
    all_goals simp (disch := decide) [hp, h c hc]
  have hbody := Text.over_flatMap hchar
  unfold quote
  simp (disch := decide) [hbody, hp]

theorem Import.over_line {entry : Import} (hpath : entry.path.Over p)
    (hname : entry.localName.Over p) : entry.line.Over p := by
  have hliteral := Literal.over_quote hp hpath
  unfold line render
  split <;> simp (disch := decide) [hliteral, hname, hp]

end File

namespace Context

/-- Every text that the generated file takes from the context is of a kind. -/
structure Over (p : Char → Prop) (context : Context) : Prop where
  package : ∀ name ∈ context.package, name.Over p
  functions : ∀ function ∈ context.functions, function.Over p
  imports : ∀ entry ∈ context.imports.entries, entry.path.Over p ∧ entry.localName.Over p
  registry : ∀ type routine,
    context.registry.lookup type = some (.routine routine) → routine.Over p

section Render

variable {p : Char → Prop} {context : Context} {text : Text}

theorem Over.preamble (h : context.Over p) (hp : ∀ c, Text.isPlain c = true → p c)
    {package : Text} (hpackage : context.package = some package) :
    ∀ line ∈ preambleLines package context.runtimeImports context.externalImports,
      line.Over p := by
  have hopening : ∀ line ∈ [generatedHeader, [], packageLine package, [], importOpening],
      line.Over p := by
    have hname : (packageLine package).Over p :=
      Text.over_append.2 ⟨Text.over_of_plain hp (by decide), h.package package hpackage⟩
    simp only [List.forall_mem_cons]
    exact ⟨Text.over_of_plain hp (by decide), Text.over_nil, hname, Text.over_nil,
      Text.over_of_plain hp (by decide), by simp⟩
  have hentry : ∀ entry : Import,
      entry = ⟨Runtime.importPath, []⟩ ∨ entry ∈ context.imports.entries →
        entry.line.Over p := by
    rintro entry (rfl | hmem)
    · exact Import.over_line hp (Text.over_of_plain hp (by decide)) Text.over_nil
    · exact Import.over_line hp (h.imports entry hmem).1 (h.imports entry hmem).2
  have hruntime : ∀ line ∈ context.runtimeImports.map Import.line, line.Over p := by
    intro line hline
    obtain ⟨entry, hmem, rfl⟩ := List.mem_map.1 hline
    exact hentry entry (.inr (mem_entries_of_runtimeImports hmem))
  have hexternal : ∀ line ∈ context.externalImports.map Import.line, line.Over p := by
    intro line hline
    obtain ⟨entry, hmem, rfl⟩ := List.mem_map.1 hline
    exact hentry entry (mem_entries_of_externalImports hmem)
  have hseparator : ∀ line ∈ (if context.runtimeImports ≠ [] ∧ context.externalImports ≠ []
      then [[]] else [] : List Text), line.Over p := by
    split <;> simp
  have hclosing : ∀ line ∈ [importClosing], line.Over p :=
    List.forall_mem_singleton.2 (Text.over_of_plain hp (by decide))
  simp only [preambleLines_eq, List.forall_mem_append]
  exact ⟨⟨⟨⟨hopening, hruntime⟩, hseparator⟩, hexternal⟩, hclosing⟩

/-- The file is written with characters of its context, plain ones and line feeds. -/
theorem Over.render (h : context.Over p) (hp : ∀ c, Text.isPlain c = true → p c) (hfeed : p '\n')
    (hrender : context.render = .ok text) : text.Over p := by
  obtain ⟨-, package, wrappers, hpackage, hwrappers, rfl⟩ := render_eq_ok_iff.1 hrender
  have hqualifier : context.qualifier.Over p := by
    unfold qualifier
    split
    · exact Text.over_nil
    · exact Text.over_of_plain hp (by decide)
  have hwrapper : ∀ wrapper ∈ wrappers, ∀ line ∈ wrapper.lines, line.Over p := by
    intro wrapper hmem
    obtain ⟨convention, function, hfunction, hmade⟩ := exists_of_mem_wrappers hwrappers hmem
    have hover : wrapper.Over p := by
      obtain ⟨extractions, -, rfl⟩ := Wrapper.ofFunction_eq_ok_iff.1 hmade
      exact ⟨hqualifier, h.functions function hfunction⟩
    exact hover.lines hp hfeed hmade h.registry
  refine Text.over_flatMap fun line hline => Text.over_append.2 ⟨?_, by simpa using hfeed⟩
  rcases List.mem_append.1 hline with hline | hline
  · exact h.preamble hp hpackage line hline
  · obtain ⟨wrapper, hmem, hline⟩ := List.mem_flatMap.1 hline
    exact hwrapper wrapper hmem line hline

end Render

end Context

/-! ## Where the characters come from -/

/-- The character is an ASCII one, stands in a source, or in the path of an import. -/
def Context.Supplies (context : Context) (sources : List Source) (c : Char) : Prop :=
  c.toNat < 0x80 ∨ (∃ source ∈ sources, Symbol.char c ∈ source) ∨
    ∃ entry ∈ context.imports.entries, c ∈ entry.path

theorem NameScheme.isPlain_of_isCodeChar {c : Char} (h : isCodeChar c = true) :
    Text.isPlain c = true := by
  have h : (((c.isUpper || c.isLower) || c.isDigit) || c == '_') = true := h
  simp only [Bool.or_eq_true, beq_iff_eq] at h
  rcases h with ((hupper | hlower) | hdigit) | rfl
  · obtain ⟨hlow, hhigh⟩ : 'A'.val ≤ c.val ∧ c.val ≤ 'Z'.val := of_decide_eq_true hupper
    have hlow : 65 ≤ c.toNat := UInt32.le_iff_toNat_le.1 hlow
    have hhigh : c.toNat ≤ 90 := UInt32.le_iff_toNat_le.1 hhigh
    exact Text.isPlain_of_le (by omega) (by omega)
  · obtain ⟨hlow, hhigh⟩ := Bool.and_eq_true_iff.1 hlower
    have hlow : 97 ≤ c.toNat := UInt32.le_iff_toNat_le.1 (of_decide_eq_true hlow)
    have hhigh : c.toNat ≤ 122 := UInt32.le_iff_toNat_le.1 (of_decide_eq_true hhigh)
    exact Text.isPlain_of_le (by omega) (by omega)
  · exact Text.isPlain_of_isDigit hdigit
  · decide

/-- A result is the value, or it has the type of errors. -/
theorem Returns.mem_entries {returns : Returns} {param : Param} (h : param ∈ returns.entries) :
    param ∈ returns.value ∨ param.type = errorType := by
  unfold entries at h
  simp only at h
  split at h
  · rcases List.mem_append.1 h with hvalue | herror
    · exact .inl (Option.mem_toList.1 hvalue)
    · obtain rfl := List.mem_singleton.1 herror
      exact .inr rfl
  · exact .inl (Option.mem_toList.1 h)

namespace Context

variable {context : Context} {sources : List Source}

theorem supplies_of_isPlain {c : Char} (h : Text.isPlain c = true) :
    context.Supplies sources c := by
  left
  simp only [Text.isPlain, Bool.or_eq_true, Bool.and_eq_true, decide_eq_true_eq, beq_iff_eq] at h
  rcases h with rfl | ⟨-, h⟩
  · decide
  · omega

theorem over_supplies {text : Text} (h : text.DrawnFrom sources) :
    text.Over (context.Supplies sources) :=
  fun _ hc => .inr (.inl (h.exists_mem hc))

theorem DrawnFrom.function (h : context.DrawnFrom sources) {function : Function}
    (hfunction : function ∈ context.functions) : function.Over (context.Supplies sources) := by
  have hdrawn := h.functions function hfunction
  have hparam : ∀ param ∈ function.params, param.type.Over (context.Supplies sources) :=
    fun param hparam => over_supplies (hdrawn.params param hparam).type
  have hresult : ∀ param ∈ function.signature.returns.entries,
      param.type.Over (context.Supplies sources) := by
    intro param hparam
    rcases Returns.mem_entries hparam with hvalue | herror
    · exact over_supplies (hdrawn.value param hvalue).type
    · rw [herror]
      exact Text.over_of_plain (fun _ => supplies_of_isPlain) (by decide)
  refine
    { name := ?_
      source := over_supplies hdrawn.source
      param_name := fun param hparam => over_supplies (hdrawn.params param hparam).name
      param_type := hparam
      result_type := hresult
      internal := fun name hname c hc => ?_ }
  · rcases hdrawn.name with hname | hname
    · exact over_supplies hname
    · intro c hc
      rw [hname] at hc
      rcases NameScheme.mem_synthesize hc with hcode | ⟨param, hmem, hc⟩
      · exact supplies_of_isPlain (NameScheme.isPlain_of_isCodeChar hcode)
      · rcases List.mem_append.1 hmem with hmem | hmem
        · exact hparam param hmem c hc
        · exact hresult param hmem c hc
  · rw [hdrawn.internal] at hname
    have hbases : (["fn", "args", "ret", "err"] : List Text).flatten.all Text.isPlain = true := by
      decide
    rcases InternalNames.mem_of_mem_avoiding hname hc with hbase | hdigit
    · exact supplies_of_isPlain (List.all_eq_true.1 hbases c hbase)
    · exact supplies_of_isPlain (Text.isPlain_of_isDigit hdigit)

theorem DrawnFrom.over (h : context.DrawnFrom sources) :
    context.Over (context.Supplies sources) where
  package := fun name hname => over_supplies (h.package name hname)
  functions := fun _ hfunction => h.function hfunction
  imports := by
    intro entry hentry
    refine ⟨fun c hc => .inr (.inr ⟨entry, hentry, hc⟩), ?_⟩
    rcases h.imports entry hentry with hinitial | hdrawn
    · have hnone : ∀ entry ∈ ImportSet.initial.entries, entry.localName = [] := by decide
      rw [hnone entry hinitial]
      exact Text.over_nil
    · rcases hdrawn.localName with hnone | hname
      · rw [hnone]
        exact Text.over_nil
      · exact over_supplies hname
  registry := by
    intro type routine hlookup
    obtain ⟨key, hkey⟩ := Registry.exists_find?_of_lookup hlookup
    rcases h.registry _ (mem_of_lookup_eq_some hkey) with hbuiltin | ⟨conversion, hentry, hdrawn⟩
    · have hall : ∀ entry ∈ builtinRoutines, entry.2.all Text.isPlain = true := by decide
      exact Text.over_of_plain (fun _ => supplies_of_isPlain)
        (hall _ (Registry.mem_builtinRoutines_of_mem hbuiltin))
    · obtain ⟨-, hroutine⟩ := Prod.mk.inj hentry
      obtain rfl := Converter.routine.inj hroutine
      exact over_supplies hdrawn.routine

/--
Undecodable bytes never reach the output. If files are scanned and rendered without a failure, every
text of the context is drawn from the characters of their sources, and so is the text of the file,
but for ASCII characters and for the values of import literals; it can be encoded, for its encoding
decodes to it. Files with the same characters lead to the same context, and hence to the same text,
whatever bytes stand in the gaps between the characters.
-/
theorem undecodable_stopped {exported extendedOnly : Bool} {files : FileSystem}
    {paths : List Text} {context : Context} {text : Text}
    (hscan : (fresh exported extendedOnly none).scanFiles files paths = ⟨context, none⟩)
    (hrender : context.render = .ok text) :
    context.DrawnFrom (files.sources paths) ∧
      (∀ c ∈ text, context.Supplies (files.sources paths) c) ∧
      Text.decode? text.encode = some text ∧
      ∀ other : FileSystem, (∀ path ∈ paths, files.characters? path = other.characters? path) →
        (fresh exported extendedOnly none).scanFiles other paths = ⟨context, none⟩ := by
  have hdrawn : context.DrawnFrom (files.sources paths) := by
    have hscanned := drawnFrom_scanFiles exported extendedOnly files paths
    rwa [hscan] at hscanned
  have htext := hdrawn.over.render (fun _ => supplies_of_isPlain) (.inl (by decide)) hrender
  refine ⟨hdrawn, htext, Text.decode?_eq_some_iff.2 rfl, fun other hsame => ?_⟩
  rw [scanFiles_congr hsame (by rw [hscan]), hscan]

/-- A comment in another encoding is passed over, and an escape may make up a character. -/
theorem undecodable_stopped_comment :
    let tree (byte : UInt8) : FileSystem :=
      ⟨[], [(["a.go"], .file (Text.encode "/* caf" ++ [byte] ++ Text.encode " */package p // " ++
        [byte] ++ Text.encode "\n//ugo:callable:import \"\\xc3\\xa9\"\n" ++
        Text.encode "//ugo:callable é(a int)"))]⟩
    ∃ context text,
      (fresh false false none).scanFiles (tree 0xE9) ["a.go"] = ⟨context, none⟩ ∧
        context.render = .ok text ∧ context.DrawnFrom ((tree 0xE9).sources ["a.go"]) ∧
        (∀ c ∈ text, context.Supplies ((tree 0xE9).sources ["a.go"]) c) ∧
        Text.decode? text.encode = some text ∧
        (fresh false false none).scanFiles (tree 0xFF) ["a.go"] = ⟨context, none⟩ := by
  intro tree
  let result := (fresh false false none).scanFiles (tree 0xE9) ["a.go"]
  have hdone : result.failure = none := by decide +kernel
  have hscan : result = ⟨result.context, none⟩ := by rw [← hdone]
  have hrendered : result.context.render.isOk = true := by decide +kernel
  have hsame : ∀ path ∈ (["a.go"] : List Text),
      (tree 0xE9).characters? path = (tree 0xFF).characters? path := by decide +kernel
  obtain ⟨text, hrender⟩ := exists_ok_of_isOk hrendered
  obtain ⟨hdrawn, hsupplies, hdecode, hother⟩ := undecodable_stopped hscan hrender
  exact ⟨result.context, text, hscan, hrender, hdrawn, hsupplies, hdecode, hother _ hsame⟩

end Context

end WrapperGen
