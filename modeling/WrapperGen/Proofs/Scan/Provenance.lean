import WrapperGen.Proofs.Literal.Value
import WrapperGen.Proofs.ScannedTexts

/-!
# Where the texts of a context come from

What scanning files puts into a context stands in one of their sources, in one piece and without an
undecodable byte (`Text.DrawnFrom`). This is so for every text but four kinds, which are made from
such texts or from none: the values of literals, synthesized names, internal names, and what every
run begins with. `Context.DrawnFrom` says so, and every scan of a source keeps it up
(`Context.drawnFrom_scanFiles`).
-/

namespace WrapperGen

/-- The characters of the text stand in one of the sources, one directly after the other. -/
def Text.DrawnFrom (text : Text) (sources : List Source) : Prop :=
  ∃ source ∈ sources, Source.ofText text <:+: source

theorem Source.ofText_isInfix {text other : Text} (h : other <:+: text) :
    ofText other <:+: ofText text :=
  h.map Symbol.char

theorem Text.DrawnFrom.isInfix {text other : Text} {sources : List Source}
    (h : text.DrawnFrom sources) (hother : other <:+: text) : other.DrawnFrom sources := by
  obtain ⟨source, hsource, htext⟩ := h
  exact ⟨source, hsource, (Source.ofText_isInfix hother).trans htext⟩

/-- Every character of a text that is drawn from sources is decoded in one of them. -/
theorem Text.DrawnFrom.exists_mem {text : Text} {sources : List Source}
    (h : text.DrawnFrom sources) {c : Char} (hc : c ∈ text) :
    ∃ source ∈ sources, Symbol.char c ∈ source := by
  obtain ⟨source, hsource, htext⟩ := h
  exact ⟨source, hsource, htext.subset (List.mem_map_of_mem hc)⟩

/-! ## Entries of a context -/

/-- Name and type are drawn from the sources. -/
structure Param.DrawnFrom (param : Param) (sources : List Source) : Prop where
  name : param.name.DrawnFrom sources
  type : param.type.DrawnFrom sources

/-- What the function is declared by is drawn from the sources. -/
structure Function.DrawnFrom (function : Function) (exported : Bool) (sources : List Source) :
    Prop where
  /-- A synthesized name is made from the types. -/
  name : function.name.DrawnFrom sources ∨
    function.name = (NameScheme.builtin exported).synthesize function.signature
  source : function.signature.source.DrawnFrom sources
  params : ∀ param ∈ function.params, param.DrawnFrom sources
  value : ∀ value ∈ function.signature.returns.value, value.DrawnFrom sources
  internal : function.internal = .avoiding function.signature.paramNames

/-- The path is the value of a literal that is drawn from the sources. -/
structure Import.DrawnFrom (entry : Import) (sources : List Source) : Prop where
  localName : entry.localName = [] ∨ entry.localName.DrawnFrom sources
  path : ∃ literal : Text, literal.DrawnFrom sources ∧ Literal.Denotes literal entry.path

/-- The type and its routine are drawn from the sources. -/
structure Conversion.DrawnFrom (conversion : Conversion) (sources : List Source) : Prop where
  type : conversion.type.DrawnFrom sources
  routine : conversion.routine.DrawnFrom sources

/-- The registry entry that a conversion makes. -/
def Conversion.entry (conversion : Conversion) : Text × Converter :=
  (conversion.type, .routine conversion.routine)

/-- What the context did not begin with is drawn from the sources. -/
structure Context.DrawnFrom (context : Context) (sources : List Source) : Prop where
  package : ∀ name ∈ context.package, name.DrawnFrom sources
  functions : ∀ function ∈ context.functions, function.DrawnFrom context.exported sources
  imports : ∀ entry ∈ context.imports.entries,
    entry ∈ ImportSet.initial.entries ∨ entry.DrawnFrom sources
  registry : ∀ entry ∈ context.registry, entry ∈ Registry.builtin ∨
    ∃ conversion : Conversion, entry = conversion.entry ∧ conversion.DrawnFrom sources

/-! ## Payloads -/

section Payloads

variable {payload : Text} {sources : List Source}

theorem Import.drawnFrom_of_ofPayload {entry : Import}
    (h : Import.ofPayload payload = .ok (some entry)) (hline : payload.OneLine)
    (hpayload : payload.DrawnFrom sources) : entry.DrawnFrom sources := by
  obtain ⟨literal, hvalue, hwritten⟩ := exists_literal h
  have hfield : ∀ field ∈ Text.fields (Text.trim payload), field <:+: payload :=
    fun field hmem => ((Text.tokens_fields _).infix_of_mem hmem).trans (Text.trim_isInfix payload)
  have hliteral : literal <:+: payload := by
    rcases hwritten with ⟨-, rfl⟩ | hfields
    · exact Text.trim_isInfix payload
    · exact hfield literal (by rw [hfields]; simp)
  -- a literal on one line is read as what it denotes
  have hlast : literal.getLast? ≠ some '\n' := fun hfeed =>
    (hline.mono hliteral.subset).feed_not_mem (List.mem_of_getLast? hfeed)
  refine ⟨?_, literal, hpayload.isInfix hliteral, (Literal.unquote_eq_ok_iff hlast).1 hvalue⟩
  rcases hwritten with ⟨hnone, -⟩ | hfields
  · exact .inl hnone
  · exact .inr (hpayload.isInfix (hfield _ (by rw [hfields]; simp)))

theorem Conversion.drawnFrom_of_ofPayload {conversion : Conversion}
    (h : Conversion.ofPayload payload = .ok (some conversion))
    (hpayload : payload.DrawnFrom sources) : conversion.DrawnFrom sources := by
  have hfield : ∀ field ∈ [conversion.type, conversion.routine], field.DrawnFrom sources := by
    rw [← fields_eq h]
    exact fun field hmem => hpayload.isInfix
      (((Text.tokens_fields _).infix_of_mem hmem).trans (Text.trim_isInfix payload))
  exact ⟨hfield _ (by simp), hfield _ (by simp)⟩

/-- A function has the parameters and the value of its signature, and its name or one made up. -/
theorem Function.drawnFrom_ofSignature {exported : Bool} {origin : Text} {signature : Signature}
    (h : Signature.ofText payload = .ok signature) (hpayload : payload.DrawnFrom sources) :
    (ofSignature (.builtin exported) origin signature).DrawnFrom exported sources := by
  have hdeclared := Signature.ofText_eq_ok_iff.1 h
  refine
    { name := ?_
      source := hpayload.isInfix hdeclared.source_isInfix
      params := fun param hparam => ?_
      value := fun value hvalue => ?_
      internal := rfl }
  · change ((NameScheme.builtin exported).wrappedName signature).DrawnFrom sources ∨
      (NameScheme.builtin exported).wrappedName signature =
        (NameScheme.builtin exported).synthesize signature
    unfold NameScheme.wrappedName
    split
    · exact .inr rfl
    · exact .inl (hpayload.isInfix hdeclared.name_isInfix)
  · obtain ⟨hname, htype⟩ := hdeclared.param_isInfix param hparam
    exact ⟨hpayload.isInfix hname, hpayload.isInfix htype⟩
  · obtain ⟨hname, htype⟩ := hdeclared.value_isInfix value hvalue
    exact ⟨hpayload.isInfix hname, hpayload.isInfix htype⟩

end Payloads

/-! ## Sources -/

/-- What a source shows in the place of an undecodable byte is not drawn from it. -/
theorem Source.ofText_infix_of_shown {source : Source} {text : Text} (h : text <:+: source.shown)
    (hclear : '\uFFFD' ∉ text) : ofText text <:+: source := by
  obtain ⟨before, after, hsplit⟩ := h
  obtain ⟨front, back, rfl, hfront, -⟩ := List.map_eq_append_iff.1 hsplit.symm
  obtain ⟨first, middle, rfl, -, hmiddle⟩ := List.map_eq_append_iff.1 hfront
  refine ⟨first, back, ?_⟩
  have hmade : middle = ofText text := by
    rw [← hmiddle, ofText, List.map_map]
    conv_lhs => rw [← List.map_id middle]
    refine List.map_congr_left fun symbol hsymbol => ?_
    cases symbol with
    | char c => rfl
    | undecodable byte =>
      refine absurd ?_ hclear
      rw [← hmiddle]
      exact List.mem_map_of_mem hsymbol
  rw [hmade]

/-- A package name is drawn from its source: it holds word characters only. -/
theorem Source.infix_of_read {source : Source} {name : Text}
    (h : PackageClause.read source.shown = .ok name) : ofText name <:+: source := by
  refine ofText_infix_of_shown (PackageClause.infix_of_read h) fun hgap => ?_
  exact absurd (PackageClause.isWord_of_read h _ hgap) (by decide +kernel)

/-- The payload of a directive is drawn from the source of its line. -/
theorem NumberedLine.drawnFrom_payload {source : Source} {numbered : NumberedLine} {origin : Text}
    {directive : Directive} {sources : List Source} (hsource : source ∈ sources)
    (hnumbered : numbered ∈ source.directiveLines)
    (h : numbered.directive origin = .ok directive) : directive.payload.DrawnFrom sources := by
  obtain ⟨text, htext, hpayload⟩ := exists_text h
  obtain ⟨line, hline, htrim⟩ := Source.exists_line_of_mem hnumbered
  refine ⟨source, hsource, (Source.ofText_isInfix hpayload.isInfix).trans ?_⟩
  rw [← htext, htrim]
  exact (Source.trim_isInfix line).trans (Source.line_isInfix hline)

/-! ## Scans -/

theorem Table.mem_insert {α : Type} {key : Text} {value : α} {table : Table α} {entry : Text × α}
    (h : entry ∈ insert key value table) : entry = (key, value) ∨ entry ∈ table := by
  fun_induction insert key value table with
  | case1 => exact .inl (List.mem_singleton.1 h)
  | case2 => exact (List.mem_cons.1 h).imp_right (List.mem_cons_of_mem _)
  | case3 k v rest hk ih =>
    rcases List.mem_cons.1 h with rfl | h
    · exact .inr List.mem_cons_self
    · exact (ih h).imp_right (List.mem_cons_of_mem _)

namespace Context

variable {context next : Context} {sources : List Source}

theorem drawnFrom_fresh (exported extendedOnly : Bool) (sources : List Source) :
    (fresh exported extendedOnly none).DrawnFrom sources where
  package := by simp [fresh]
  functions := by simp [fresh]
  imports := fun _ hentry => .inl hentry
  registry := fun _ hentry => .inl hentry

theorem DrawnFrom.apply (h : context.DrawnFrom sources) {origin : Text} {directive : Directive}
    (hline : directive.payload.OneLine) (hpayload : directive.payload.DrawnFrom sources)
    (happly : context.apply origin directive = .ok next) : next.DrawnFrom sources := by
  cases directive with
  | importing payload =>
    obtain ⟨requested?, hread, imports, hadd, rfl⟩ := apply_importing_eq_ok_iff.1 happly
    cases requested? with
    | none =>
      obtain rfl := ImportSet.addAll_nil_eq_ok_iff.1 hadd
      exact h
    | some entry =>
      refine { h with imports := fun other hother => ?_ }
      have hadds := ImportSet.addAll_singleton_eq_ok_iff.1 hadd
      rcases hadds.mem_entries_iff.1 hother with hother | ⟨rfl, -⟩
      · exact h.imports other hother
      · exact .inr (Import.drawnFrom_of_ofPayload hread hline hpayload)
  | converting payload =>
    obtain ⟨conversion?, hread, rfl⟩ := apply_converting_eq_ok_iff.1 happly
    cases conversion? with
    | none => exact h
    | some conversion =>
      refine { h with registry := fun entry hentry => ?_ }
      rcases Table.mem_insert hentry with rfl | hentry
      · exact .inr ⟨conversion, rfl, Conversion.drawnFrom_of_ofPayload hread hpayload⟩
      · exact h.registry entry hentry
  | declaring payload =>
    obtain ⟨signature, hread, rfl⟩ := apply_declaring_eq_ok_iff.1 happly
    refine { h with functions := fun function hfunction => ?_ }
    rcases List.mem_append.1 hfunction with hold | hnew
    · exact h.functions function hold
    · obtain rfl := List.mem_singleton.1 hnew
      exact Function.drawnFrom_ofSignature hread hpayload

theorem DrawnFrom.recordPackage (h : context.DrawnFrom sources) {origin : Text} {source : Source}
    (hsource : source ∈ sources) (hrecord : context.recordPackage origin source = .ok next) :
    next.DrawnFrom sources := by
  rw [Context.recordPackage] at hrecord
  split at hrecord
  · exact absurd hrecord (by simp)
  · next name hread =>
    split at hrecord
    · obtain rfl := Except.ok.inj hrecord
      refine { h with package := fun known hknown => ?_ }
      obtain rfl := Option.some.inj hknown
      exact ⟨source, hsource, Source.infix_of_read hread⟩
    · split at hrecord
      · obtain rfl := Except.ok.inj hrecord
        exact h
      · exact absurd hrecord (by simp)

/-- A scan adds nothing that is not drawn from its source. -/
theorem DrawnFrom.scan (h : context.DrawnFrom sources) (origin : Text) {source : Source}
    (hsource : source ∈ sources) : (context.scan origin source).context.DrawnFrom sources := by
  refine scan_preserves (DrawnFrom · sources) (fun numbered hnumbered _ _ happly hcurrent => ?_)
    (fun _ _ hrecord hcurrent => hcurrent.recordPackage hsource hrecord) h
  obtain ⟨directive, hdirective, happly⟩ := applyLine_eq_ok_iff.1 happly
  exact hcurrent.apply
    (NumberedLine.oneLine_payload hdirective (Source.oneLine_of_mem_directiveLines hnumbered))
    (NumberedLine.drawnFrom_payload hsource hnumbered hdirective) happly

/-- What the scan of every file preserves, the scan of all of them preserves. -/
theorem scanFiles_preserves (invariant : Context → Prop) {files : FileSystem} {paths : List Text}
    (hscan : ∀ path ∈ paths, ∀ bytes, files.read path = .ok bytes → ∀ current,
      invariant current → invariant (Context.scan path (.decode bytes) current).context)
    (hinit : invariant context) : invariant (context.scanFiles files paths).context := by
  induction paths generalizing context with
  | nil => exact hinit
  | cons path paths ih =>
    obtain ⟨hpath, hpaths⟩ := List.forall_mem_cons.1 hscan
    have hscanned : invariant (context.scanFile files path).context := by
      unfold scanFile
      split
      · exact hinit
      · next bytes hread => exact hpath bytes hread context hinit
    rw [scanFiles]
    split
    · exact ih hpaths hscanned
    · exact hscanned

end Context

/-- The sources that the paths lead to, in order. -/
def FileSystem.sources (files : FileSystem) (paths : List Text) : List Source :=
  paths.filterMap fun path => (files.read path).toOption.map Source.decode

/-- The context that files lead to is drawn from what is in them. -/
theorem Context.drawnFrom_scanFiles (exported extendedOnly : Bool) (files : FileSystem)
    (paths : List Text) :
    ((fresh exported extendedOnly none).scanFiles files paths).context.DrawnFrom
      (files.sources paths) := by
  refine scanFiles_preserves (DrawnFrom · (files.sources paths))
    (fun path hpath bytes hread current hcurrent => hcurrent.scan path ?_)
    (drawnFrom_fresh exported extendedOnly _)
  exact List.mem_filterMap.2 ⟨path, hpath, by rw [hread]; rfl⟩

end WrapperGen
