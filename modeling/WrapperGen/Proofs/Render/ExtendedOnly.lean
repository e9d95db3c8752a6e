import WrapperGen.Proofs.Imports.Marks
import WrapperGen.Proofs.Render.Lines
import WrapperGen.Proofs.Scan.Applied
import WrapperGen.Proofs.Wrapper.Conventions
import WrapperGen.Proofs.Wrapper.GuardPackage

/-!
# Files with cursor wrappers only

The switch for cursor wrappers is seen by no scan (`Context.unscanned_cursorOnly`). When a context
is rendered it takes the positional wrappers away, which come last, and with them the imports that
only their guards use. So a file with the switch set is the one without it, less its positional half
(`Context.CursorHalf`), and this holds for whatever has been scanned before
(`Context.cursorHalf_fulfilAll`).
-/

namespace WrapperGen

/-- The lines of a file up to the end of the import block. -/
def Context.preambleText (context : Context) (package : Text) : Text :=
  Text.ofLines (preambleLines package context.runtimeImports context.externalImports)

/-- The lines of a file behind the import block. -/
def wrappersText (wrappers : List Wrapper) : Text :=
  Text.ofLines (wrappers.flatMap Wrapper.lines)

/-- The import is a default that no directive has asked for. -/
def Import.Unrequested (applied : List Occurrence) (entry : Import) : Prop :=
  entry.path ∈ ImportSet.defaultPaths ∧
    ∀ requested ∈ Occurrence.entries applied, requested.path ≠ entry.path

instance (applied : List Occurrence) (entry : Import) : Decidable (entry.Unrequested applied) :=
  inferInstanceAs (Decidable (_ ∧ _))

theorem wrappersText_append (first second : List Wrapper) :
    wrappersText (first ++ second) = wrappersText first ++ wrappersText second := by
  rw [wrappersText, List.flatMap_append, Text.ofLines, List.flatMap_append]
  rfl

/-- What lacks a line feed occurs in a text exactly if it occurs in one of its lines. -/
theorem Text.infix_ofLines_iff {part : Text} (hfeed : '\n' ∉ part) (hpart : part ≠ [])
    {lines : List Text} : part <:+: ofLines lines ↔ ∃ line ∈ lines, part <:+: line := by
  induction lines with
  | nil => simp [ofLines, hpart]
  | cons line lines ih =>
    rw [ofLines, List.flatMap_cons, List.append_assoc, List.singleton_append,
      infix_append_cons_iff hfeed, ← ofLines, ih]
    simp

namespace Context

/-! ## The switch -/

/-- The context with the switch for cursor wrappers set. -/
def cursorOnly (context : Context) : Context := { context with extendedOnly := true }

theorem unscanned_cursorOnly : Unscanned cursorOnly where
  nameScheme _ := rfl
  imports _ := rfl
  with_imports _ _ := rfl
  addConversion _ _ := rfl
  addFunction _ _ := rfl
  package _ := rfl
  with_package _ _ := rfl

/-- The wrappers of all functions in one convention, in the order of declaration. -/
def Wraps (context : Context) (convention : Convention) (wrappers : List Wrapper) : Prop :=
  List.Forall₂ (fun function wrapper => context.wrapper convention function = .ok wrapper)
    context.functions wrappers

section Switch

variable {context : Context}

/-- If functions can be wrapped in one convention, they can be in the other one. -/
theorem Wraps.exists_other {convention : Convention} {wrappers : List Wrapper}
    (h : context.Wraps convention wrappers) (other : Convention) :
    ∃ others, context.Wraps other others := by
  simp only [Wraps, ← mapM_eq_ok_iff]
  refine exists_mapM_eq_ok fun function hfunction => ?_
  obtain ⟨made, -, hmade⟩ := exists_of_mem_right h.flip hfunction
  simp only [wrapper, Wrapper.ofFunction_eq, map_eq_ok_iff] at hmade ⊢
  obtain ⟨converters, hconverters, -⟩ := hmade
  exact ⟨_, converters, hconverters, rfl⟩

theorem Wraps.convention_eq {convention : Convention} {wrappers : List Wrapper}
    (h : context.Wraps convention wrappers) {wrapper : Wrapper} (hmem : wrapper ∈ wrappers) :
    wrapper.convention = convention := by
  obtain ⟨function, -, hmade⟩ := exists_of_mem_right h hmem
  obtain ⟨extractions, -, rfl⟩ := Wrapper.ofFunction_eq_ok_iff.1 hmade
  rfl

theorem wrappers_cursorOnly :
    context.cursorOnly.wrappers = context.functions.mapM (context.wrapper .cursor) := by
  have hconventions : context.cursorOnly.conventions = [.cursor] := rfl
  have hwrapper : context.cursorOnly.wrapper = context.wrapper := rfl
  have hfunctions : context.cursorOnly.functions = context.functions := rfl
  rw [wrappers, hconventions, hwrapper, hfunctions, List.mapM_cons, List.mapM_nil]
  cases context.functions.mapM (context.wrapper .cursor) with
  | error missing => rfl
  | ok cursors =>
    simp [bind, Except.bind, pure, Except.pure]

theorem wrappers_of_positional (h : context.extendedOnly = false) :
    context.wrappers = do
      let cursors ← context.functions.mapM (context.wrapper .cursor)
      let positional ← context.functions.mapM (context.wrapper .positional)
      return cursors ++ positional := by
  have hconventions : context.conventions = [.cursor, .positional] := by simp [conventions, h]
  rw [wrappers, hconventions, List.mapM_cons, List.mapM_cons, List.mapM_nil]
  cases context.functions.mapM (context.wrapper .cursor) with
  | error missing => rfl
  | ok cursors =>
    cases context.functions.mapM (context.wrapper .positional) with
    | error missing => rfl
    | ok positional => simp [bind, Except.bind, pure, Except.pure]

/-- All cursor wrappers come first, and then all positional ones. -/
theorem wrappers_eq_ok_iff (h : context.extendedOnly = false) {all : List Wrapper} :
    context.wrappers = .ok all ↔ ∃ cursors positional, context.Wraps .cursor cursors ∧
      context.Wraps .positional positional ∧ cursors ++ positional = all := by
  simp only [wrappers_of_positional h, bind_eq_ok_iff, pure_eq_ok_iff, mapM_eq_ok_iff, Wraps,
    exists_and_left]

theorem wrappers_cursorOnly_eq_error_iff (h : context.extendedOnly = false)
    {missing : MissingConverter} :
    context.cursorOnly.wrappers = .error missing ↔ context.wrappers = .error missing := by
  rw [wrappers_cursorOnly, wrappers_of_positional h]
  cases hcursors : context.functions.mapM (context.wrapper .cursor) with
  | error first => rfl
  | ok cursors =>
    obtain ⟨positional, hpositional⟩ :=
      Wraps.exists_other (mapM_eq_ok_iff.1 hcursors) .positional
    rw [mapM_eq_ok_iff.2 hpositional]
    exact iff_of_false (by simp) (by simp [bind, Except.bind, pure, Except.pure])

/-- What a context is checked for does not depend on the switch. -/
theorem render_cursorOnly_eq_error_iff {failure : Failure} :
    context.cursorOnly.render = .error failure ↔ context.render = .error failure := by
  cases hpackage : context.package with
  | none =>
    have hpackage' : context.cursorOnly.package = none := hpackage
    rw [render_of_package_eq_none hpackage, render_of_package_eq_none hpackage']
  | some package =>
    have hpackage' : context.cursorOnly.package = some package := hpackage
    cases hvalidate : context.validate with
    | error missing =>
      have hvalidate' : context.cursorOnly.validate = .error missing := hvalidate
      rw [render, render, hpackage, hpackage', hvalidate, hvalidate']
      exact Iff.rfl
    | ok checked =>
      have hresolved : context.Resolved := validate_eq_ok_iff.1 hvalidate
      have hresolved' : context.cursorOnly.Resolved := hresolved
      obtain ⟨all, -, hrender⟩ := hresolved.exists_render hpackage
      obtain ⟨cursors, -, hrender'⟩ := hresolved'.exists_render hpackage'
      rw [hrender, hrender']
      simp

/-- The file has the preamble of its own imports, and the wrappers behind it. -/
theorem exists_preamble_of_render {text : Text} (h : context.render = .ok text) :
    ∃ package wrappers, context.package = some package ∧ context.wrappers = .ok wrappers ∧
      text = context.preambleText package ++ wrappersText wrappers := by
  obtain ⟨-, package, wrappers, hpackage, hwrappers, rfl⟩ := render_eq_ok_iff.1 h
  refine ⟨package, wrappers, hpackage, hwrappers, ?_⟩
  rw [fileText, fileLines, Text.ofLines, List.flatMap_append]
  rfl

end Switch

/-! ## Halves of a file -/

/--
The one context is the other one with the switch set, and its file is the cursor half of the other
one's. The directives that have been applied tell the functions, and the imports that are left out.
-/
structure CursorHalf (applied : List Occurrence) (cursor full : Context) : Prop where
  cursor_eq : cursor = { full with extendedOnly := true }
  full_switch : full.extendedOnly = false
  functions : full.functions = Occurrence.functions full.nameScheme applied
  /-- The one is refused exactly if the other one is, and for the same reason. -/
  failure : ∀ failure, cursor.render = .error failure ↔ full.render = .error failure
  missing : ∀ missing, cursor.wrappers = .error missing ↔ full.wrappers = .error missing
  externalImports : cursor.externalImports = full.externalImports
  runtimeImports : cursor.runtimeImports =
    full.runtimeImports.filter fun entry => !decide (entry.Unrequested applied)
  /-- The positional wrappers stand behind the cursor wrappers, one of every function. -/
  wrappers : ∀ all, full.wrappers = .ok all → ∃ cursors positional,
    cursor.wrappers = .ok cursors ∧ all = cursors ++ positional ∧
    full.Wraps .cursor cursors ∧ full.Wraps .positional positional
  /-- Behind the import blocks, the one text begins the other. -/
  text : ∀ text, full.render = .ok text → ∃ package cursors all,
    full.package = some package ∧ cursor.wrappers = .ok cursors ∧ full.wrappers = .ok all ∧
    cursor.render = .ok (cursor.preambleText package ++ wrappersText cursors) ∧
    text = full.preambleText package ++ wrappersText all ∧
    wrappersText cursors <+: wrappersText all
  guards : ∀ all, full.wrappers = .ok all → ∀ wrapper ∈ all, wrapper.GuardsAlone
  /-- No guard that is left uses `strconv`, and no other text does unless it is adopted. -/
  guardless : ∀ cursors, cursor.wrappers = .ok cursors →
    (∀ wrapper ∈ cursors, wrapper.convention = .cursor ∧ ¬ wrapper.guard.MentionsStrconv) ∧
    ((wrappersText cursors).MentionsStrconv →
      ∃ wrapper ∈ cursors, ∃ text ∈ wrapper.adopted, text.MentionsStrconv)

section Halves

variable {full : Context} (hswitch : full.extendedOnly = false)

include hswitch

theorem exists_halves {all : List Wrapper} (hall : full.wrappers = .ok all) :
    ∃ cursors positional, full.cursorOnly.wrappers = .ok cursors ∧ all = cursors ++ positional ∧
      full.Wraps .cursor cursors ∧ full.Wraps .positional positional := by
  obtain ⟨cursors, positional, hcursors, hpositional, rfl⟩ := (wrappers_eq_ok_iff hswitch).1 hall
  refine ⟨cursors, positional, ?_, rfl, hcursors, hpositional⟩
  rw [wrappers_cursorOnly]
  exact mapM_eq_ok_iff.2 hcursors

theorem exists_all {cursors : List Wrapper} (hcursors : full.cursorOnly.wrappers = .ok cursors) :
    full.Wraps .cursor cursors ∧ ∃ positional, full.wrappers = .ok (cursors ++ positional) := by
  have hwraps : full.Wraps .cursor cursors :=
    mapM_eq_ok_iff.1 (wrappers_cursorOnly.symm.trans hcursors)
  obtain ⟨positional, hpositional⟩ := hwraps.exists_other .positional
  exact ⟨hwraps, positional,
    (wrappers_eq_ok_iff hswitch).2 ⟨cursors, positional, hwraps, hpositional, rfl⟩⟩

theorem exists_texts {text : Text} (hrender : full.render = .ok text) :
    ∃ package cursors all, full.package = some package ∧
      full.cursorOnly.wrappers = .ok cursors ∧ full.wrappers = .ok all ∧
      full.cursorOnly.render =
        .ok (full.cursorOnly.preambleText package ++ wrappersText cursors) ∧
      text = full.preambleText package ++ wrappersText all ∧
      wrappersText cursors <+: wrappersText all := by
  obtain ⟨package, all, hpackage, hall, rfl⟩ := exists_preamble_of_render hrender
  obtain ⟨cursors, positional, hcursors, rfl, -, -⟩ := exists_halves hswitch hall
  refine ⟨package, cursors, _, hpackage, hcursors, hall, ?_, rfl, ?_⟩
  · -- the context is not refused with the switch either, so it is rendered
    cases hrender' : full.cursorOnly.render with
    | error failure =>
      rw [render_cursorOnly_eq_error_iff.1 hrender'] at hrender
      exact absurd hrender (by simp)
    | ok text =>
      obtain ⟨other, others, hother, hothers, rfl⟩ := exists_preamble_of_render hrender'
      obtain rfl := Option.some.inj (hpackage.symm.trans hother)
      obtain rfl := Except.ok.inj (hcursors.symm.trans hothers)
      rfl
  · rw [wrappersText_append]
    exact List.prefix_append _ _

theorem guardless_cursorOnly
    (hguards : ∀ all, full.wrappers = .ok all → ∀ wrapper ∈ all, wrapper.GuardsAlone)
    {cursors : List Wrapper} (hcursors : full.cursorOnly.wrappers = .ok cursors) :
    (∀ wrapper ∈ cursors, wrapper.convention = .cursor ∧ ¬ wrapper.guard.MentionsStrconv) ∧
      ((wrappersText cursors).MentionsStrconv →
        ∃ wrapper ∈ cursors, ∃ text ∈ wrapper.adopted, text.MentionsStrconv) := by
  obtain ⟨hwraps, positional, hall⟩ := exists_all hswitch hcursors
  have halone : ∀ wrapper ∈ cursors, wrapper.GuardsAlone := fun wrapper hmem =>
    hguards _ hall wrapper (List.mem_append_left _ hmem)
  have hcursor : ∀ wrapper ∈ cursors, wrapper.convention ≠ .positional := fun wrapper hmem => by
    rw [hwraps.convention_eq hmem]
    decide
  refine ⟨fun wrapper hmem => ⟨hwraps.convention_eq hmem,
    mt (halone wrapper hmem).guard_iff.1 (hcursor wrapper hmem)⟩, fun hmentions => ?_⟩
  obtain ⟨line, hline, hmentions⟩ := (Text.infix_ofLines_iff (by decide) (by decide)).1 hmentions
  obtain ⟨wrapper, hmem, hline⟩ := List.mem_flatMap.1 hline
  exact ⟨wrapper, hmem, ((halone wrapper hmem).line line hline hmentions).resolve_left
    fun hguard => hcursor wrapper hmem hguard.1⟩

end Halves

/-! ## Halves of what has been scanned -/

section Applied

variable {exported : Bool} {package : Option Text} {applied : List Occurrence} {full : Context}

/-- The imports, the functions and the switch of a context are told by what has been applied. -/
theorem told_of_applyAll
    (h : (fresh exported false package).applyAll applied = .ok (full.withPackage package)) :
    ImportSet.initial.addAll (Occurrence.entries applied) = .ok full.imports ∧
      full.functions = Occurrence.functions full.nameScheme applied ∧
      full.extendedOnly = false := by
  obtain ⟨-, imports, hadd, hextended⟩ := applyAll_eq_ok_iff.1 h
  have himports : full.imports = imports := congrArg Context.imports hextended
  have hexported : full.exported = exported := congrArg Context.exported hextended
  have hfunctions : full.functions =
      Occurrence.functions (fresh exported false package).nameScheme applied :=
    congrArg Context.functions hextended
  refine ⟨himports ▸ hadd, ?_, congrArg Context.extendedOnly hextended⟩
  rw [hfunctions, nameScheme, nameScheme, hexported]
  rfl

/-- The switch leaves out the defaults that no directive has asked for. -/
theorem runtimeImports_cursorOnly (hswitch : full.extendedOnly = false)
    (hadd : ImportSet.initial.addAll (Occurrence.entries applied) = .ok full.imports) :
    full.cursorOnly.runtimeImports =
      full.runtimeImports.filter fun entry => !decide (entry.Unrequested applied) := by
  have hmarked : ∀ entry : Import,
      full.imports.isImplicit entry.path = decide (entry.Unrequested applied) := fun entry =>
    Bool.eq_iff_iff.2 ((ImportSet.isImplicit_iff_of_addAll (by decide) (by decide) hadd).trans
      decide_eq_true_iff.symm)
  have hcursor : full.cursorOnly.runtimeImports =
      full.imports.runtime.filter fun entry => !full.imports.isImplicit entry.path := rfl
  have hfull : full.runtimeImports = full.imports.runtime := by simp [runtimeImports, hswitch]
  simp only [hcursor, hfull, hmarked]

/-- What a function is declared by leaves no other line of its wrappers to use `strconv`. -/
theorem guardsAlone_of_mem_wrappers
    (hfunctions : full.functions = Occurrence.functions full.nameScheme applied)
    {wrappers : List Wrapper} (hwrappers : full.wrappers = .ok wrappers) {wrapper : Wrapper}
    (hmem : wrapper ∈ wrappers) : wrapper.GuardsAlone := by
  obtain ⟨convention, function, hfunction, hmade⟩ := exists_of_mem_wrappers hwrappers hmem
  rw [hfunctions] at hfunction
  obtain ⟨occurrence, -, hdeclared⟩ := List.mem_filterMap.1 hfunction
  obtain ⟨signature, -, rfl⟩ := Option.map_eq_some_iff.1 hdeclared
  have hqualifier : 'v' ∉ full.qualifier := by
    unfold qualifier
    split <;> decide
  have hown : wrapper.OwnNames := by
    obtain ⟨extractions, -, rfl⟩ := Wrapper.ofFunction_eq_ok_iff.1 hmade
    exact ⟨hqualifier, fun _ => InternalNames.not_mem_avoiding (by decide) (by decide)⟩
  exact hown.guardsAlone hmade

/-- Whatever directives have led to a context, the switch leaves the cursor half of its file. -/
theorem cursorHalf_cursorOnly
    (h : (fresh exported false package).applyAll applied = .ok (full.withPackage package)) :
    CursorHalf applied full.cursorOnly full := by
  obtain ⟨hadd, hfunctions, hswitch⟩ := told_of_applyAll h
  have hguards : ∀ all, full.wrappers = .ok all → ∀ wrapper ∈ all, wrapper.GuardsAlone :=
    fun _ hall _ => guardsAlone_of_mem_wrappers hfunctions hall
  exact
    { cursor_eq := rfl
      full_switch := hswitch
      functions := hfunctions
      failure := fun _ => render_cursorOnly_eq_error_iff
      missing := fun _ => wrappers_cursorOnly_eq_error_iff hswitch
      externalImports := rfl
      runtimeImports := runtimeImports_cursorOnly hswitch hadd
      wrappers := fun _ => exists_halves hswitch
      text := fun _ => exists_texts hswitch
      guards := hguards
      guardless := fun _ => guardless_cursorOnly hswitch hguards }

end Applied

/--
Scanning files is fulfilling requests in order, and so is scanning any other sources. For all
requests and with either switch for exported names: the switch for cursor wrappers changes nothing
that is scanned, and the file that is then rendered is the cursor half of the one without it.
-/
theorem cursorHalf_fulfilAll :
    (∀ (files : FileSystem) (context : Context) (paths : List Text),
      context.scanFiles files paths = context.fulfilAll (paths.map (.file files))) ∧
    ∀ (exported : Bool) (package : Option Text) (requests : List Request),
      let cursor := (fresh exported true package).fulfilAll requests
      let full := (fresh exported false package).fulfilAll requests
      cursor.failure = full.failure ∧
        CursorHalf ((fresh exported false package).appliedAll requests) cursor.context
          full.context := by
  refine ⟨scanFiles_eq_fulfilAll, fun exported package requests => ?_⟩
  have hscanned : (fresh exported true package).fulfilAll requests =
      ((fresh exported false package).fulfilAll requests).mapContext cursorOnly :=
    unscanned_cursorOnly.fulfilAll (fresh exported false package) requests
  intro cursor full
  rw [show cursor = full.mapContext cursorOnly from hscanned]
  exact ⟨rfl, cursorHalf_cursorOnly
    (applyAll_appliedAll (fresh exported false package) requests)⟩

/-- A default stays in the cursor half as soon as a directive asks for it. -/
example :
    let plain : List Request := [.scan "a.go" (.ofText "package p\n")]
    let asking : List Request :=
      [.scan "a.go" (.ofText "package p\n//ugo:callable:import \"strconv\"\n")]
    ((fresh false true none).fulfilAll plain).context.runtimeImports = [] ∧
      ((fresh false true none).fulfilAll asking).context.runtimeImports = [⟨"strconv", []⟩] := by
  decide +kernel

end Context

end WrapperGen
