import WrapperGen.Proofs.Render.PackageClause
import WrapperGen.Proofs.Wrapper.DirectiveLines

/-!
# Generated files among the sources

A generated file may itself be scanned, for instance if it is written next to the sources. Three
kinds of texts from the sources can make a line of it look like a directive: the name of a
parameter and the local name of an import, since each begins a line, and an import path, since the
quoted path still holds every line break but the line feed. Where none of them does
(`Context.Inert`), and only there, the file has no directive lines, and scanning it declares nothing
(`Context.render_inert_iff`).
-/

namespace WrapperGen

/-! ## Import paths -/

/-- The path has a line that begins like a directive, behind a break that a literal may hold. -/
def HidesDirective (path : Text) : Prop :=
  ∃ spaces, (∀ c ∈ spaces, c = ' ') ∧
    Text.Follows (fun c => Text.isLineBreak c = true ∧ c ≠ '\n') (spaces ++ directivePrefix) path

/-- Line feeds hide nothing, since they are escaped. -/
theorem not_hidesDirective {path : Text}
    (h : ∀ c ∈ path, Text.isLineBreak c = true → c = '\n') : ¬ HidesDirective path := by
  rintro ⟨spaces, -, before, c, after, ⟨hbreak, hfeed⟩, rfl⟩
  exact hfeed (h c (by simp) hbreak)

namespace Literal

/-- A character is quoted as it is, or as an escape; of the breaks only line feeds are escaped. -/
theorem quoteChar_cases (c : Char) :
    quoteChar c = [c] ∧ c ≠ '\n' ∨
      (∃ d, quoteChar c = ['\\', d] ∧ Text.isLineBreak d = false) ∧
        ¬ (Text.isLineBreak c = true ∧ c ≠ '\n') := by
  unfold quoteChar
  split_ifs with hbackslash hquote hfeed htab
  · subst hbackslash
    exact .inr ⟨⟨'\\', rfl, by decide⟩, by decide⟩
  · subst hquote
    exact .inr ⟨⟨'"', rfl, by decide⟩, by decide⟩
  · exact .inr ⟨⟨'n', rfl, by decide⟩, fun h => h.2 hfeed⟩
  · subst htab
    exact .inr ⟨⟨'t', rfl, by decide⟩, by decide⟩
  · exact .inl ⟨rfl, hfeed⟩

theorem quoteChar_of_mem_directivePrefix : ∀ c ∈ directivePrefix, quoteChar c = [c] := by
  have hall : (directivePrefix.all fun c => quoteChar c == [c]) = true := by decide
  simpa using hall

/-- Neither padding nor the word of directives holds what quoting puts in. -/
theorem unquoted_of_padding {padding : Text} (h : Text.Padding padding) :
    ∀ c ∈ padding ++ directivePrefix, c ≠ '\\' ∧ c ≠ '"' := by
  refine List.forall_mem_append.2 ⟨fun c hc => ?_, fun c hc => ?_⟩
  · have hpad := h c hc
    constructor <;> (rintro rfl; exact absurd hpad (by decide))
  · exact ⟨ne_of_mem_of_not_mem hc (by decide), ne_of_mem_of_not_mem hc (by decide)⟩

section Quoting

variable {part text : Text} (hpart : ∀ c ∈ part, c ≠ '\\' ∧ c ≠ '"')

include hpart

/-- What a quoted text begins with, and is none of what quoting puts in, is quoted. -/
theorem prefix_quoted_iff :
    part <+: text.flatMap quoteChar ++ ['"'] ↔ part <+: text ∧ ∀ c ∈ part, quoteChar c = [c] := by
  induction part generalizing text with
  | nil => simp
  | cons c part ih =>
    obtain ⟨⟨hbackslash, hquote⟩, hpart⟩ := List.forall_mem_cons.1 hpart
    cases text with
    | nil => simp [hquote]
    | cons d text =>
      rw [List.flatMap_cons, List.append_assoc, List.cons_prefix_cons, List.forall_mem_cons]
      obtain ⟨hplain, -⟩ | ⟨⟨e, hescaped, -⟩, -⟩ := quoteChar_cases d
      · rw [hplain, List.singleton_append, List.cons_prefix_cons, ih hpart]
        constructor
        · rintro ⟨rfl, hprefix, hall⟩
          exact ⟨⟨rfl, hprefix⟩, hplain, hall⟩
        · rintro ⟨⟨rfl, hprefix⟩, -, hall⟩
          exact ⟨rfl, hprefix, hall⟩
      · rw [hescaped, List.cons_append, List.cons_prefix_cons]
        refine iff_of_false (fun h => hbackslash h.1) ?_
        rintro ⟨⟨rfl, -⟩, hplain, -⟩
        exact absurd (hescaped.symm.trans hplain) (by simp)

theorem followsBreak_quoted_iff :
    Text.FollowsBreak part (text.flatMap quoteChar ++ ['"']) ↔
      Text.Follows (fun c => Text.isLineBreak c = true ∧ c ≠ '\n') part text ∧
        ∀ c ∈ part, quoteChar c = [c] := by
  induction text with
  | nil =>
    have hquote : Text.OneLine ['"'] := by decide
    exact iff_of_false hquote.not_followsBreak fun h => Text.not_follows_nil h.1
  | cons d text ih =>
    rw [List.flatMap_cons, List.append_assoc, Text.follows_cons_iff]
    obtain ⟨hplain, hfeed⟩ | ⟨⟨e, hescaped, he⟩, hbreak⟩ := quoteChar_cases d
    · rw [hplain, List.singleton_append, Text.followsBreak_cons_iff, prefix_quoted_iff hpart, ih,
        ← and_assoc, ← or_and_right, and_iff_left hfeed]
    · have hone : Text.OneLine ['\\', e] := Text.oneLine_cons.2 ⟨by decide, by simp [he]⟩
      rw [hescaped, hone.followsBreak_append_iff, ih, or_iff_right fun h => hbreak h.1]

end Quoting

end Literal

namespace Import

variable {entry : Import}

/-- What stands on the line of an import in front of its quoted path. -/
def lineFront (entry : Import) : Text :=
  if entry.localName.isEmpty then "\t\"" else '\t' :: (entry.localName ++ " \"")

theorem line_eq (entry : Import) :
    entry.line = entry.lineFront ++ (entry.path.flatMap Literal.quoteChar ++ ['"']) := by
  unfold line render lineFront Literal.quote
  split <;> simp

theorem oneLine_lineFront (hname : entry.localName.OneLine) : entry.lineFront.OneLine := by
  unfold lineFront
  split
  · decide
  · simp +decide [hname]

theorem followsBreak_line_iff (hname : entry.localName.OneLine) :
    (∃ padding, Text.Padding padding ∧
      Text.FollowsBreak (padding ++ directivePrefix) entry.line) ↔ HidesDirective entry.path := by
  simp only [line_eq, (oneLine_lineFront hname).followsBreak_append_iff]
  constructor
  · rintro ⟨padding, hpadding, hbreak⟩
    obtain ⟨hfollows, hquoted⟩ :=
      (Literal.followsBreak_quoted_iff (Literal.unquoted_of_padding hpadding)).1 hbreak
    refine ⟨padding, fun c hc => ?_, hfollows⟩
    -- a tab would have been escaped
    have hpad := hpadding c hc
    rw [Text.isPadding, Bool.or_eq_true, beq_iff_eq, beq_iff_eq] at hpad
    rcases hpad with rfl | rfl
    · rfl
    · exact absurd (hquoted '\t' (List.mem_append_left _ hc)) (by decide)
  · rintro ⟨spaces, hspaces, hfollows⟩
    have hpadding : Text.Padding spaces := by
      intro c hc
      obtain rfl := hspaces c hc
      decide
    refine ⟨spaces, hpadding,
      (Literal.followsBreak_quoted_iff (Literal.unquoted_of_padding hpadding)).2
        ⟨hfollows, List.forall_mem_append.2
          ⟨fun c hc => ?_, Literal.quoteChar_of_mem_directivePrefix⟩⟩⟩
    obtain rfl := hspaces c hc
    decide

/-- The local name begins a line, and so does what follows a break in the path. -/
theorem holdsDirective_line_iff (hname : ∀ c ∈ entry.localName, Text.isBlank c = false) :
    entry.line.HoldsDirective ↔
      directivePrefix <+: entry.localName ∨ HidesDirective entry.path := by
  rw [Text.holdsDirective_iff, followsBreak_line_iff (Text.oneLine_of_blank_free hname)]
  refine or_congr_left ?_
  unfold line render
  by_cases hnone : entry.localName = []
  · rw [if_pos (by simp [hnone]), hnone]
    have hfront : ['\t', '"'] <+: '\t' :: Literal.quote entry.path := ⟨_, rfl⟩
    exact iff_of_false (Text.not_prefix_of_opensOtherwise hfront (by decide)) (by decide)
  · have hpadding : Text.Padding ['\t'] := by
      intro c hc
      obtain rfl := List.mem_singleton.1 hc
      decide
    rw [if_neg (by simp [hnone]), List.append_assoc]
    exact Text.prefix_dropWhile_word_iff hpadding hname hnone (by decide)

end Import

/-! ## The lines in front of the wrappers -/

/-- Of these lines only those that import a package may begin like a directive. -/
theorem forall_not_holdsDirective_preamble_iff {package : Text} {runtime external : List Import}
    (hpackage : (packageLine package).OneLine)
    (hnames : ∀ entry ∈ runtime ++ external, ∀ c ∈ entry.localName, Text.isBlank c = false) :
    (∀ line ∈ preambleLines package runtime external, ¬ Text.HoldsDirective line) ↔
      ∀ entry ∈ runtime ++ external,
        ¬ directivePrefix <+: entry.localName ∧ ¬ HidesDirective entry.path := by
  have hclause : ("package " : Text) <+: packageLine package := ⟨_, rfl⟩
  have hfixed : ∀ line ∈ [generatedHeader, importOpening, importClosing],
      ¬ Text.HoldsDirective line := by
    have hplain : ∀ line ∈ [generatedHeader, importOpening, importClosing],
        line.OneLine ∧ Text.opensOtherwise line = true := by decide
    exact fun line hline =>
      (hplain line hline).1.not_holdsDirective List.prefix_rfl (hplain line hline).2
  simp only [List.forall_mem_cons] at hfixed
  have hopening : ∀ line ∈ [generatedHeader, [], packageLine package, [], importOpening],
      ¬ Text.HoldsDirective line := by
    simp only [List.forall_mem_cons]
    exact ⟨hfixed.1, Text.not_holdsDirective_nil, hpackage.not_holdsDirective hclause (by decide),
      Text.not_holdsDirective_nil, hfixed.2.1, by simp⟩
  have hclosing : ∀ line ∈ [importClosing], ¬ Text.HoldsDirective line :=
    List.forall_mem_singleton.2 hfixed.2.2.1
  have hseparator : ∀ line ∈ (if runtime ≠ [] ∧ external ≠ [] then [[]] else [] : List Text),
      ¬ Text.HoldsDirective line := by
    split <;> simp [Text.not_holdsDirective_nil]
  rw [Context.preambleLines_eq, List.forall_mem_append, and_iff_left hclosing,
    List.forall_mem_append, List.forall_mem_append, and_iff_left hseparator,
    List.forall_mem_append, and_iff_right hopening, List.forall_mem_map, List.forall_mem_map,
    ← List.forall_mem_append]
  refine forall₂_congr fun entry hentry => ?_
  rw [Import.holdsDirective_line_iff (hnames entry hentry), not_or]

namespace Context

variable {context : Context} {text package : Text}

/-- No text that begins a line of the file, or follows a break on one, begins like a directive. -/
structure Inert (context : Context) : Prop where
  param_name : ∀ function ∈ context.functions, ∀ param ∈ function.params,
    ¬ directivePrefix <+: param.name
  imports : ∀ entry ∈ context.runtimeImports ++ context.externalImports,
    ¬ directivePrefix <+: entry.localName ∧ ¬ HidesDirective entry.path

/-! ## Sessions -/

theorem Change.blank_free_localName {context next : Context} (h : Change context next)
    (hnames : ∀ entry ∈ context.imports.entries, ∀ c ∈ entry.localName, Text.isBlank c = false) :
    ∀ entry ∈ next.imports.entries, ∀ c ∈ entry.localName, Text.isBlank c = false := by
  cases h with
  | imported hread hadd =>
    intro other hother
    rcases hadd.mem_entries_iff.1 hother with hother | ⟨rfl, -⟩
    · exact hnames other hother
    · exact Import.blank_free_localName hread
  | converted => exact hnames
  | declared => exact hnames
  | packaged => exact hnames

theorem blank_free_localName_performAll {exported extendedOnly : Bool} {given : Option Text}
    {requests : List Request}
    (hcontext : context = (fresh exported extendedOnly given).performAll requests) :
    ∀ entry ∈ context.runtimeImports ++ context.externalImports,
      ∀ c ∈ entry.localName, Text.isBlank c = false := by
  have hinit : ∀ entry ∈ ImportSet.initial.entries,
      ∀ c ∈ entry.localName, Text.isBlank c = false := by
    have hall : (ImportSet.initial.entries.all fun entry =>
        entry.localName.all fun c => !Text.isBlank c) = true := by decide
    simpa using hall
  have hentries := hcontext ▸
    (reaches_performAll _ requests).preserves Change.blank_free_localName hinit
  intro entry hentry
  rcases List.mem_append.1 hentry with hentry | hentry
  · exact hentries entry (mem_entries_of_runtimeImports hentry)
  · rcases mem_entries_of_externalImports hentry with rfl | hentry
    · simp
    · exact hentries entry hentry

/-- After every session of scans the file holds no directive exactly if the context is inert. -/
theorem not_holdsDirective_render_iff {exported extendedOnly : Bool} {requests : List Request}
    (hscans : ∀ request ∈ requests, request.isScan = true)
    (hcontext : context = (fresh exported extendedOnly none).performAll requests)
    (hrender : context.render = .ok text) : ¬ text.HoldsDirective ↔ context.Inert := by
  have hone : context.OneLine := hcontext ▸ oneLine_performAll (by simp) hscans
  have hdeclared : ∀ function ∈ context.functions, function.DeclaredBy exported :=
    fun function hfunction => declaredBy_of_mem_functions (hcontext ▸ hfunction)
  obtain ⟨-, package, wrappers, hpackage, hwrappers, rfl⟩ := render_eq_ok_iff.1 hrender
  obtain ⟨source, hread⟩ := exists_read_of_package hscans (hcontext ▸ hpackage)
  have hpreamble := forall_not_holdsDirective_preamble_iff
    (PackageClause.oneLine_packageLine hread) (blank_free_localName_performAll hcontext)
  have hwrapper : ∀ wrapper ∈ wrappers, ((∀ line ∈ wrapper.lines, ¬ Text.HoldsDirective line) ↔
      ∀ param ∈ wrapper.function.params, ¬ directivePrefix <+: param.name) := by
    intro wrapper hmem
    obtain ⟨convention, function, hfunction, hmade⟩ := exists_of_mem_wrappers hwrappers hmem
    have hwritten := hone.wrapper hfunction hmade
    obtain ⟨extractions, -, rfl⟩ := Wrapper.ofFunction_eq_ok_iff.1 hmade
    have hnames := (hdeclared function hfunction).wellFormed.isToken_name
    obtain ⟨payload, origin, signature, -, rfl⟩ := hdeclared function hfunction
    exact hwritten.forall_not_holdsDirective_iff hmade hone.registry rfl hnames
  have hwrappers : (∀ line ∈ wrappers.flatMap Wrapper.lines, ¬ Text.HoldsDirective line) ↔
      ∀ function ∈ context.functions, ∀ param ∈ function.params,
        ¬ directivePrefix <+: param.name := by
    rw [List.forall_mem_flatMap, forall₂_congr hwrapper]
    constructor
    · intro hall function hfunction
      obtain ⟨wrapper, hmem, rfl⟩ := exists_wrapper_of_mem_functions hwrappers hfunction
      exact hall wrapper hmem
    · intro hall wrapper hmem
      obtain ⟨convention, function, hfunction, hmade⟩ := exists_of_mem_wrappers hwrappers hmem
      obtain ⟨extractions, -, rfl⟩ := Wrapper.ofFunction_eq_ok_iff.1 hmade
      exact hall function hfunction
  rw [fileText, Text.holdsDirective_ofLines_iff]
  simp only [not_exists, not_and]
  rw [fileLines, List.forall_mem_append, hpreamble, hwrappers, and_comm]
  constructor
  · rintro ⟨hnames, himports⟩
    exact ⟨hnames, himports⟩
  · exact fun h => ⟨h.param_name, h.imports⟩

/--
After every session of scans the file that is rendered has no directive lines exactly if the context
is inert. Then the file declares nothing if it is scanned itself: every scanner whose package is
unknown or the same accepts it, and afterwards knows the package and nothing else that is new.
-/
theorem render_inert_iff {exported extendedOnly : Bool} {requests : List Request}
    (hscans : ∀ request ∈ requests, request.isScan = true)
    (hcontext : context = (fresh exported extendedOnly none).performAll requests)
    (hrender : context.render = .ok text) :
    ((Source.ofText text).directiveLines = [] ↔ context.Inert) ∧
      ∃ package, context.package = some package ∧
        (context.Inert → ∀ other : Context, (∀ name ∈ other.package, name = package) →
          ∀ origin, other.scan origin (.ofText text) =
            ⟨{ other with package := some package }, none⟩) := by
  have hlines : (Source.ofText text).directiveLines = [] ↔ context.Inert := by
    rw [Source.directiveLines_ofText_eq_nil_iff]
    exact not_holdsDirective_render_iff hscans hcontext hrender
  obtain ⟨-, package, wrappers, hpackage, -, htext⟩ := render_eq_ok_iff.1 hrender
  obtain ⟨source, hread⟩ := exists_read_of_package hscans (hcontext ▸ hpackage)
  have hname : PackageClause.read (Source.ofText text).shown = .ok package := by
    rw [Source.shown_ofText, htext]
    exact PackageClause.read_fileText hread _ _ wrappers
  refine ⟨hlines, package, hpackage, fun hinert other hother origin => ?_⟩
  have happlied : other.acceptAll (PlacedLine.all origin (Source.ofText text).directiveLines) =
      .ok other := by
    rw [hlines.2 hinert]
    rfl
  exact scan_eq_of_recordPackage_eq_ok happlied
    (recordPackage_eq_ok_iff.2 ⟨package, hname, hother, rfl⟩)

/-- The word of directives may stand anywhere but at the beginning of a name, or behind a break. -/
theorem render_inert_iff_quoted :
    let requests : List Request := [
      .scan "a.go" (.ofText ("package p\n//ugo:callable:convert //ugo:callable f\n" ++
        "//ugo:callable:import x//ugo:callable \"log\\n//ugo:callable\"\n" ++
        "//ugo:callable //ugo:callable(a//ugo:callable //ugo:callable) (b Object)"))]
    let context := (fresh false false none).performAll requests
    ∃ text, context.render = .ok text ∧ context.Inert ∧
      (fresh true true none).scan "p.go" (.ofText text) =
        ⟨{ fresh true true none with package := some "p" }, none⟩ := by
  intro requests context
  have hrendered : context.render.isOk = true := by decide +kernel
  obtain ⟨text, hrender⟩ := exists_ok_of_isOk hrendered
  obtain ⟨hlines, package, hpackage, hscan⟩ := render_inert_iff (by decide) rfl hrender
  have hnames : ∀ function ∈ context.functions, ∀ param ∈ function.params,
      ¬ directivePrefix <+: param.name := by decide +kernel
  have himports : ∀ entry ∈ context.runtimeImports ++ context.externalImports,
      ¬ directivePrefix <+: entry.localName ∧
        (entry.path.all fun c => !Text.isLineBreak c || c == '\n') = true := by decide +kernel
  have hinert : context.Inert := ⟨hnames, fun entry hentry =>
    ⟨(himports entry hentry).1, not_hidesDirective fun c hc hbreak => by
      simpa [hbreak] using List.all_eq_true.1 (himports entry hentry).2 c hc⟩⟩
  obtain rfl : package = "p" := Option.some.inj (hpackage.symm.trans (by decide +kernel))
  exact ⟨text, hrender, hinert, hscan hinert _ (by simp [fresh]) "p.go"⟩

/--
The name of a parameter, the local name of an import, and what follows a carriage return in a path
can each stand where a line of the file begins: then the file declares something, or is refused.
-/
theorem render_not_inert :
    let again (source : Text) : Except Failure ScanResult :=
      ((fresh false false none).scan "a.go" (.ofText source)).context.render.map fun text =>
        (fresh false false none).scan "gen.go" (.ofText text)
    ∀ source ∈ ([
        "package p\n//ugo:callable F(//ugo:callable:convert Object)\n",
        "package p\n//ugo:callable:import //ugo:callable:import \"fmt\"\n",
        "package p\n//ugo:callable:import \"fmt\\r//ugo:callable:convert a b\"\n"] : List String),
      (again source).isOk = true ∧
        again source ≠ .ok ⟨{ fresh false false none with package := some "p" }, none⟩ := by
  decide +kernel

end Context

end WrapperGen
