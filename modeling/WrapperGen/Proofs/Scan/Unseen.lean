import WrapperGen.Proofs.Scan.Stopping

/-!
# What scans do not see

A directive reads and writes the imports, the registry and the functions of a context, and looks up
whether synthesized names are exported. A change to anything else can be made before a directive is
applied or after it (`Unseen.apply`), and likewise for lines of any number (`Unseen.acceptAll`).
If the change leaves the package alone too, it can be made before a scan or after it
(`Unscanned.scan`).
-/

namespace WrapperGen

/-- The same end of a scan, with a change made to the context. -/
def ScanResult.mapContext (change : Context → Context) (result : ScanResult) : ScanResult :=
  ⟨change result.context, result.failure⟩

namespace Context

/-- The change leaves alone what directives read, and is not undone by what they write. -/
structure Unseen (change : Context → Context) : Prop where
  nameScheme : ∀ context, (change context).nameScheme = context.nameScheme
  imports : ∀ context, (change context).imports = context.imports
  with_imports : ∀ (context : Context) (imports : ImportSet),
    change { context with imports } = { change context with imports }
  addConversion : ∀ context conversion,
    change (context.addConversion conversion) = (change context).addConversion conversion
  addFunction : ∀ context function,
    change (context.addFunction function) = (change context).addFunction function

namespace Unseen

variable {change : Context → Context} (h : Unseen change) (context : Context)

include h

theorem apply (origin : Text) (directive : Directive) :
    (change context).apply origin directive = (context.apply origin directive).map change := by
  cases directive with
  | importing payload =>
    simp only [Context.apply, applyImport, addImport, h.imports]
    cases Import.ofPayload payload with
    | error fault => rfl
    | ok requested? =>
      cases requested? with
      | none => rfl
      | some entry =>
        dsimp only
        cases context.imports.add entry.path entry.localName with
        | error conflict => rfl
        | ok imports => exact congrArg Except.ok (h.with_imports context imports).symm
  | converting payload =>
    simp only [Context.apply, applyConversion]
    cases Conversion.ofPayload payload with
    | error fault => rfl
    | ok conversion? =>
      cases conversion? with
      | none => rfl
      | some conversion => exact congrArg Except.ok (h.addConversion context conversion).symm
  | declaring payload =>
    simp only [Context.apply, applyDeclaration, declaredFunction, h.nameScheme]
    cases Signature.ofText payload with
    | error fault => rfl
    | ok signature => exact congrArg Except.ok (h.addFunction context _).symm

theorem applyLine (origin : Text) (numbered : NumberedLine) :
    (change context).applyLine origin numbered =
      (context.applyLine origin numbered).map change := by
  rw [Context.applyLine, Context.applyLine]
  cases numbered.directive origin with
  | error fault => rfl
  | ok directive => exact h.apply context origin directive

/-- Which lines are accepted, and what they do, is the same with the change and without it. -/
theorem acceptAll (lines : List PlacedLine) :
    (change context).acceptAll lines = (context.acceptAll lines).map change := by
  induction lines generalizing context with
  | nil => rfl
  | cons placed lines ih =>
    rw [acceptAll_cons, acceptAll_cons, h.applyLine]
    cases context.applyLine placed.origin placed.numbered with
    | error failure => rfl
    | ok next => exact ih next

/-- So is the line that stops a scan, and what stands before it. -/
theorem applyLines (origin : Text) (lines : List NumberedLine) :
    (change context).applyLines origin lines =
      (context.applyLines origin lines).mapContext change := by
  induction lines generalizing context with
  | nil => rfl
  | cons numbered lines ih =>
    rw [Context.applyLines, Context.applyLines, h.applyLine]
    cases context.applyLine origin numbered with
    | error failure => rfl
    | ok next => exact ih next

end Unseen

/-- The change leaves alone what scans read, and is not undone by what they write. -/
structure Unscanned (change : Context → Context) : Prop extends Unseen change where
  package : ∀ context, (change context).package = context.package
  with_package : ∀ (context : Context) (package : Option Text),
    change { context with package } = { change context with package }

namespace Unscanned

variable {change : Context → Context} (h : Unscanned change) (context : Context)

include h

theorem recordPackage (origin : Text) (source : Source) :
    (change context).recordPackage origin source =
      (context.recordPackage origin source).map change := by
  rw [Context.recordPackage, Context.recordPackage, h.package]
  cases PackageClause.read source.shown with
  | error fault => rfl
  | ok name =>
    cases context.package with
    | none => exact congrArg Except.ok (h.with_package context (some name)).symm
    | some first =>
      dsimp only
      split <;> rfl

/-- What comes of a scan is the same with the change and without it. -/
theorem scan (origin : Text) (source : Source) :
    (change context).scan origin source = (context.scan origin source).mapContext change := by
  unfold Context.scan
  rw [h.applyLines]
  rcases context.applyLines origin source.directiveLines with ⟨current, _ | failure⟩
  · dsimp only [ScanResult.mapContext]
    rw [h.recordPackage]
    cases current.recordPackage origin source <;> rfl
  · rfl

theorem scanFile (files : FileSystem) (path : Text) :
    (change context).scanFile files path =
      (context.scanFile files path).mapContext change := by
  rw [Context.scanFile, Context.scanFile]
  cases files.read path with
  | error fault => rfl
  | ok bytes => exact h.scan context path (.decode bytes)

end Unscanned

end Context

end WrapperGen
