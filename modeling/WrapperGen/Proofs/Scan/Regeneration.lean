import WrapperGen.Layout
import WrapperGen.Proofs.Scan.Files
import WrapperGen.Proofs.Scan.Forms
import WrapperGen.Proofs.ScannedTexts

/-!
# Sources that declare a context again

A function keeps the text that it was declared by. So a source can be written that declares the
package and the functions of a context once more (`Regenerates`), and nothing else of what a session
of scans was given is needed: scanning that source declares the same functions under the same names
(`Context.scan_regenerated`). It works because the text of a function is trimmed and on one line,
and because everything in a function but its label depends on that text and on the naming scheme
alone.
-/

namespace WrapperGen

/-! ## The source -/

/-- The function as a source with another label declares it. -/
def Function.relabel (origin : Text) (function : Function) : Function := { function with origin }

/-- The line that declares the function once more. -/
def Function.declarationLine (function : Function) : Text :=
  directivePrefix ++ ' ' :: function.signature.source

/-- The lines that declare a package and functions. -/
def declarationLines (package : Text) (functions : List Function) : List Text :=
  packageLine package :: functions.map Function.declarationLine

/-- The text consists of the lines that declare a package and functions. -/
def Regenerates (package : Text) (functions : List Function) (text : Text) : Prop :=
  text = Text.ofLines (declarationLines package functions) ∨
    text = Text.join ['\n'] (declarationLines package functions)

/-! ## Functions -/

theorem Signature.ofText_trim (payload : Text) :
    Signature.ofText (Text.trim payload) = Signature.ofText payload := by
  rw [Signature.ofText_eq, Signature.ofText_eq, Text.trim_trim]

theorem Signature.Declared.source_ne_nil {payload : Text} {signature : Signature}
    (h : signature.Declared payload) : signature.source ≠ [] := by
  obtain ⟨hsource, results, hgrammar, -⟩ := h
  obtain ⟨name, params, returns, source⟩ := signature
  simp only at hsource hgrammar ⊢
  rw [hsource]
  cases hgrammar with
  | intro htext => simp [htext]

namespace Function

variable {exported : Bool} {function : Function}

/-- Its own text declares the function again, whatever the label is. -/
theorem DeclaredBy.declared_again (h : function.DeclaredBy exported) (origin : Text) :
    ∃ signature, Signature.ofText function.signature.source = .ok signature ∧
      ofSignature (.builtin exported) origin signature = function.relabel origin := by
  obtain ⟨payload, label, signature, hread, rfl⟩ := h
  refine ⟨signature, ?_, rfl⟩
  have hsource : signature.source = Text.trim payload :=
    (Signature.ofText_eq_ok_iff.1 hread).source_eq
  show Signature.ofText signature.source = .ok signature
  rw [hsource, Signature.ofText_trim, hread]

theorem DeclaredBy.unpadded_declarationLine (h : function.DeclaredBy exported) :
    Text.Unpadded function.declarationLine := by
  obtain ⟨payload, label, signature, hread, rfl⟩ := h
  have hdeclared := Signature.ofText_eq_ok_iff.1 hread
  have hsource : Text.Unpadded signature.source := by
    rw [hdeclared.source_eq]
    exact Text.unpadded_trim payload
  have hline : (ofSignature (.builtin exported) label signature).declarationLine =
      (directivePrefix ++ [' ']) ++ signature.source := by
    simp [declarationLine, ofSignature, NameScheme.apply]
  rw [hline]
  refine ⟨fun c hc => ?_, fun c hc => hsource.2 c ?_⟩
  · obtain rfl : '/' = c := Option.some.inj hc
    decide
  · rwa [List.getLast?_append_of_ne_nil _ hdeclared.source_ne_nil] at hc

end Function

theorem Function.OneLine.declarationLine {function : Function} (h : function.OneLine) :
    function.declarationLine.OneLine := by
  refine Text.oneLine_append.2 ⟨by decide, Text.oneLine_cons.2 ⟨by decide, h.source⟩⟩

/-! ## Lines -/

/-- Texts on one line are the lines of the text in which a line feed ends each of them. -/
theorem Text.lines_ofLines {parts : List Text} (hparts : ∀ part ∈ parts, part.OneLine) :
    Text.lines (Text.ofLines parts) = parts := by
  have hreturns : ∀ c ∈ Text.ofLines parts, id c ≠ '\r' := by
    intro c hc hreturn
    obtain rfl : c = '\r' := hreturn
    obtain ⟨part, hpart, hc⟩ := List.mem_flatMap.1 hc
    rcases List.mem_append.1 hc with hc | hc
    · exact (hparts part hpart).return_not_mem hc
    · exact absurd hc (by decide)
  rw [Text.lines_eq, Text.dropPairedReturns_eq_self hreturns]
  clear hreturns
  induction parts with
  | nil => rfl
  | cons first parts ih =>
    obtain ⟨hfirst, hrest⟩ := List.forall_mem_cons.1 hparts
    rw [Text.ofLines, List.flatMap_cons, List.append_assoc, List.singleton_append,
      Text.piecesBy_append_cons hfirst (by decide), ← Text.ofLines, ih hrest]

namespace PackageClause

theorem head?_packageLine (name : Text) : (packageLine name).head? = some 'p' := by
  have hfirst : ("package " : Text).head? = some 'p' := by decide
  unfold packageLine
  rw [List.head?_append, hfirst, Option.some_or]

/-- A package name that was read begins and ends a line as it is. -/
theorem unpadded_packageLine {text name : Text} (h : read text = .ok name) :
    Text.Unpadded (packageLine name) := by
  obtain ⟨-, next, hname⟩ := (read_eq_ok_iff.1 h).isName
  refine ⟨fun c hc => ?_, fun c hc => ?_⟩
  · obtain rfl := Option.some.inj ((head?_packageLine name).symm.trans hc)
    decide
  · unfold packageLine at hc
    rw [List.getLast?_append_of_ne_nil _ hname.ne_nil] at hc
    have hword := isWord_of_read h c (List.mem_of_getLast? hc)
    exact Text.isPadding_eq_false_of_isBlank (Text.isBlank_eq_false_of_isWord hword)

theorem oneLine_packageLine {text name : Text} (h : read text = .ok name) :
    (packageLine name).OneLine := by
  have hname : name.OneLine := Text.oneLine_of_blank_free fun c hc =>
    Text.isBlank_eq_false_of_isWord (isWord_of_read h c hc)
  exact Text.oneLine_append.2 ⟨by decide, hname⟩

/-- The line of a package is no directive. -/
theorem not_isDirective_packageLine {number : Nat} {name : Text} :
    ¬ NumberedLine.isDirective ⟨number, .ofText (packageLine name)⟩ = true := by
  have hslash : directivePrefix.head? = some '/' := by decide
  rw [NumberedLine.isDirective, Source.shown_ofText, List.isPrefixOf_iff_prefix]
  rintro ⟨rest, hrest⟩
  have hhead := congrArg List.head? hrest
  rw [List.head?_append, hslash, Option.some_or, head?_packageLine] at hhead
  exact absurd hhead (by decide)

/-- A name that was read is read again from a line of its own, behind any trivia. -/
theorem read_flatten_packageLine {text name rest : Text} {before : List Text}
    (h : read text = .ok name) (hbefore : ∀ item ∈ before, Trivium item)
    (hmark : before.flatten.head? ≠ some byteOrderMark) (hrest : ∀ c ∈ rest.head?, c = '\n') :
    read (before.flatten ++ (packageLine name ++ rest)) = .ok name := by
  obtain ⟨hblank, next, hname⟩ := (read_eq_ok_iff.1 h).isName
  have hnext : IsName name rest := by
    refine ⟨hname.first, hname.word, fun c hc => ?_⟩
    obtain rfl := hrest c hc
    decide
  have hbetween : ∀ item ∈ [[' ']], Trivium item := List.forall_mem_singleton.2 (.blank (by decide))
  have hline : packageLine name ++ rest = keyword ++ ([[' ']].flatten ++ (name ++ rest)) := rfl
  have hhead : (before.flatten ++ (packageLine name ++ rest)).head? ≠ some byteOrderMark := by
    rw [List.head?_append]
    cases hfirst : before.flatten.head? with
    | none =>
      rw [Option.none_or, List.head?_append, head?_packageLine, Option.some_or]
      decide
    | some c => rwa [Option.some_or, ← hfirst]
  have htext : withoutMark (before.flatten ++ (packageLine name ++ rest)) =
      before.flatten ++ keyword ++ [[' ']].flatten ++ name ++ rest := by
    rw [withoutMark, if_neg hhead, hline]
    simp only [List.append_assoc]
  rw [read_append hbefore hbetween (by simp) hnext htext, if_neg hblank]

theorem read_packageLine {text name : Text} (h : read text = .ok name) {rest : Text}
    (hrest : ∀ c ∈ rest.head?, c = '\n') : read (packageLine name ++ rest) = .ok name :=
  @read_flatten_packageLine _ _ _ [] h (by simp) (by simp) hrest

end PackageClause

namespace Regenerates

variable {package text : Text} {functions : List Function}

theorem lines_eq (h : Regenerates package functions text)
    (hlines : ∀ line ∈ declarationLines package functions, line.OneLine) :
    Text.lines text = declarationLines package functions := by
  rcases h with rfl | rfl
  · exact Text.lines_ofLines hlines
  · refine Text.lines_join fun line hline => ⟨hlines line hline, ?_⟩
    rcases List.mem_cons.1 hline with rfl | hline
    · rintro hnil
      exact absurd (PackageClause.head?_packageLine package) (by simp [hnil])
    · obtain ⟨function, -, rfl⟩ := List.mem_map.1 hline
      simp [Function.declarationLine]

/-- Behind the package clause there is a line feed, or nothing. -/
theorem exists_rest (h : Regenerates package functions text) :
    ∃ rest, text = packageLine package ++ rest ∧ ∀ c ∈ rest.head?, c = '\n' := by
  rcases h with rfl | rfl
  · refine ⟨'\n' :: Text.ofLines (functions.map Function.declarationLine), ?_, by simp [eq_comm]⟩
    rw [declarationLines, Text.ofLines, List.flatMap_cons, List.append_assoc, List.singleton_append,
      ← Text.ofLines]
  · cases functions with
    | nil => exact ⟨[], by simp [declarationLines, Text.join], by simp⟩
    | cons function functions =>
      refine ⟨'\n' :: Text.join ['\n'] ((function :: functions).map Function.declarationLine), ?_,
        by simp [eq_comm]⟩
      rw [declarationLines, List.map_cons, Text.join, List.intercalate_cons_cons, List.append_assoc,
        List.singleton_append, Text.join]

end Regenerates

namespace Context

/-! ## Scanning the source -/

section Scan

variable {context : Context} {origin : Text}

/-- The package of a context was read from one of the sources. -/
theorem exists_read_of_package {exported extendedOnly : Bool} {requests : List Request}
    (hscans : ∀ request ∈ requests, request.isScan = true) {name : Text}
    (h : ((fresh exported extendedOnly none).performAll requests).package = some name) :
    ∃ text, PackageClause.read text = .ok name := by
  refine performAll_preserves
    (fun context => ∀ name ∈ context.package, ∃ text, PackageClause.read text = .ok name)
    hscans (fun current label source hcurrent => ?_) (by simp [fresh]) name h
  by_cases hdone : (current.scan label source).failure = none
  · obtain ⟨declared, hread, hpackage⟩ := package_scan_of_done hdone
    rw [hpackage]
    intro name hname
    obtain rfl := Option.some.inj hname
    exact ⟨_, hread⟩
  · rwa [package_scan_of_failed hdone]

/-- The line of a function declares it, whatever the number of the line is. -/
theorem applyLine_declarationLine {function : Function}
    (h : function.DeclaredBy context.exported) (number : Nat) :
    context.applyLine origin ⟨number, .ofText function.declarationLine⟩ =
      .ok (context.addFunction (function.relabel origin)) := by
  obtain ⟨signature, hread, hfunction⟩ := h.declared_again origin
  have htext : (Source.ofText function.declarationLine).text? =
      some (directivePrefix ++ ' ' :: function.signature.source) :=
    Source.text?_eq_some_iff.2 rfl
  refine applyLine_eq_ok_iff.2 ⟨.declaring function.signature.source, ?_, ?_⟩
  · rw [NumberedLine.directive_eq_ok_iff htext]
    exact Directive.ofRest?_padding (by decide) _
  · rw [← hfunction]
    exact apply_declaring_eq_ok_iff.2 ⟨signature, hread, rfl⟩

/-- The lines of functions are directive lines, and each declares its function. -/
theorem applyLines_declarationLines (context : Context) (origin : Text)
    {functions : List Function}
    (h : ∀ function ∈ functions, function.DeclaredBy context.exported) (first : Nat) :
    context.applyLines origin
        ((Source.numberedFrom first (functions.map (.ofText ·.declarationLine))).filter
          NumberedLine.isDirective) =
      ⟨{ context with
          functions := context.functions ++ functions.map (Function.relabel origin) }, none⟩ := by
  induction functions generalizing context first with
  | nil => simp [Source.numberedFrom, applyLines]
  | cons function functions ih =>
    obtain ⟨hfunction, hfunctions⟩ := List.forall_mem_cons.1 h
    have hdirective :
        NumberedLine.isDirective ⟨first, .ofText function.declarationLine⟩ = true := by
      rw [NumberedLine.isDirective, Source.shown_ofText, List.isPrefixOf_iff_prefix]
      exact List.prefix_append _ _
    rw [List.map_cons, Source.numberedFrom_cons, Source.trim_ofText,
      Text.trim_eq_self hfunction.unpadded_declarationLine, List.filter_cons_of_pos hdirective,
      applyLines, applyLine_declarationLine hfunction]
    -- the other functions are declared in the context that has the first one already
    refine (@ih (context.addFunction (function.relabel origin)) hfunctions (first + 1)).trans ?_
    simp [addFunction]

end Scan

/--
After every session of scans that leaves a package behind, a source that consists of the lines which
declare the package and the functions is scanned without a failure by any fresh scanner that names
functions alike. It leaves that package and those functions behind, each with its names, parameters,
results, text and internal names, and nothing else.
-/
theorem scan_regenerated {exported extendedOnly again : Bool} {requests : List Request}
    {context : Context} {package text : Text}
    (hscans : ∀ request ∈ requests, request.isScan = true)
    (hcontext : context = (fresh exported extendedOnly none).performAll requests)
    (hpackage : context.package = some package)
    (htext : Regenerates package context.functions text) (origin : Text) :
    (fresh exported again none).scan origin (.ofText text) =
      ⟨{ fresh exported again none with
          package := some package
          functions := context.functions.map (Function.relabel origin) }, none⟩ := by
  obtain ⟨source, hread⟩ := exists_read_of_package hscans (hcontext ▸ hpackage)
  have hdeclared : ∀ function ∈ context.functions, function.DeclaredBy exported :=
    fun function hfunction => declaredBy_of_mem_functions (hcontext ▸ hfunction)
  have hone : context.OneLine := hcontext ▸ oneLine_performAll (by simp) hscans
  have hlines : ∀ line ∈ declarationLines package context.functions, line.OneLine := by
    refine List.forall_mem_cons.2 ⟨PackageClause.oneLine_packageLine hread, fun line hline => ?_⟩
    obtain ⟨function, hfunction, rfl⟩ := List.mem_map.1 hline
    exact (hone.functions function hfunction).declarationLine
  -- the first line declares the package, and all others are directive lines
  have hdirectives : (Source.ofText text).directiveLines =
      (Source.numberedFrom 2 (context.functions.map (.ofText ·.declarationLine))).filter
        NumberedLine.isDirective := by
    rw [Source.directiveLines_eq, Source.lines_ofText, htext.lines_eq hlines, declarationLines,
      List.map_cons, List.map_map, Source.numberedFrom_cons, Source.trim_ofText,
      Text.trim_eq_self (PackageClause.unpadded_packageLine hread), List.filter_cons_of_neg]
    · rfl
    · exact PackageClause.not_isDirective_packageLine
  have happlied := applyLines_declarationLines (fresh exported again none) origin hdeclared 2
  rw [← hdirectives] at happlied
  have hname : PackageClause.read (Source.ofText text).shown = .ok package := by
    obtain ⟨rest, rfl, hrest⟩ := htext.exists_rest
    rw [Source.shown_ofText]
    exact PackageClause.read_packageLine hread hrest
  exact scan_eq_of_recordPackage_eq_ok (applyLines_eq_none_iff.1 happlied)
    (recordPackage_eq_ok_iff.2 ⟨package, hname, by simp [fresh], by simp [fresh]⟩)

/-- A scan that fails for its package has declared its functions, and they are declared again. -/
theorem scan_regenerated_mismatched :
    let requests : List Request := [
      .scan "a.go" (.ofText "package p\n//ugo:callable:convert T f\n\t//ugo:callable\tfunc(a  T)"),
      .scan "b.go" (.ofText "/**/package q\u000c//ugo:callable Get( b []byte ) ( error )\u2028//")]
    let context := (fresh true false none).performAll requests
    let text : Text :=
      "package p\n//ugo:callable func(a  T)\n//ugo:callable Get( b []byte ) ( error )"
    (context.functions.map Function.name = ["FuncPT_R", "Get"]) ∧
      (fresh true true none).scan "c.go" (.ofText text) =
        ⟨{ fresh true true none with
            package := some "p"
            functions := context.functions.map (Function.relabel "c.go") }, none⟩ := by
  intro requests context text
  have htext : Regenerates "p" context.functions text := .inr (by decide +kernel)
  exact ⟨by decide +kernel,
    scan_regenerated (by decide) rfl (by decide +kernel) htext "c.go"⟩

end Context

end WrapperGen
