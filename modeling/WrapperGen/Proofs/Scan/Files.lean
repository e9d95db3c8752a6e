import WrapperGen.Proofs.Scan.Unseen
import WrapperGen.Proofs.Text.Encoding

/-!
# Scans of several sources

The first source that is scanned without a failure gives a session its package, and no later
request changes it (`package_eq_none_iff`, `package_performAll`). Files are accepted as if their
directive lines stood in one source, provided that they agree about the package
(`scanFiles_eq_done_iff`); `scans_stop_at_first_failure` puts this together with what single scans
and single directives do.
-/

namespace WrapperGen

/-- A file with the source that its bytes decode to. -/
structure SourceFile where
  path : Text
  source : Source
  deriving DecidableEq, Repr

/-- The directive lines of the file. -/
def SourceFile.lines (file : SourceFile) : List PlacedLine :=
  PlacedLine.all file.path file.source.directiveLines

/-- The sources can be read under their paths. -/
def FileSystem.Holds (files : FileSystem) (sources : List SourceFile) : Prop :=
  ∀ file ∈ sources, ∃ bytes, files.read file.path = .ok bytes ∧ file.source = .decode bytes

namespace Context

/-- The request scans a source, and without a failure. -/
def Completes (context : Context) : Request → Prop
  | .scan origin source => (context.scan origin source).failure = none
  | .file files path => (context.scanFile files path).failure = none
  | .direct _ _ => False

/-- All sources declare the package, and no other one is known before. -/
structure Agree (context : Context) (sources : List SourceFile) (name : Text) : Prop where
  declared : ∀ file ∈ sources, PackageClause.read file.source.shown = .ok name
  known : ∀ first ∈ context.package, first = name

/-! ## The package of a session -/

/-- A scan without a failure leaves the package of its source behind. -/
theorem package_scan_of_done {context : Context} {origin : Text} {source : Source}
    (h : (context.scan origin source).failure = none) :
    ∃ name, PackageClause.read source.shown = .ok name ∧
      (context.scan origin source).context.package = some name := by
  have hscans := scans_scan context origin source
  generalize context.scan origin source = result at h hscans
  cases hscans with
  | refused => exact absurd h (by simp)
  | unreadable => exact absurd h (by simp)
  | mismatched => exact absurd h (by simp)
  | @recorded current name _ hread _ => exact ⟨name, hread, rfl⟩

/-- A scan that fails leaves the package alone. -/
theorem package_scan_of_failed {context : Context} {origin : Text} {source : Source}
    (h : (context.scan origin source).failure ≠ none) :
    (context.scan origin source).context.package = context.package := by
  have hscans := scans_scan context origin source
  generalize context.scan origin source = result at h hscans
  cases hscans with
  | refused _ hbefore _ => exact package_acceptAll hbefore
  | unreadable hlines _ => exact package_acceptAll hlines
  | mismatched hlines _ _ _ => exact package_acceptAll hlines
  | recorded => exact absurd rfl h

theorem exists_package_perform {context : Context} {request : Request}
    (h : context.Completes request) : ∃ name, (context.perform request).package = some name := by
  cases request with
  | scan origin source =>
    obtain ⟨name, -, hpackage⟩ := package_scan_of_done h
    exact ⟨name, hpackage⟩
  | file files path =>
    rw [Completes] at h
    rw [perform]
    cases hread : files.read path with
    | error fault => exact absurd h (by simp [scanFile_of_unreadable hread])
    | ok bytes =>
      rw [scanFile_of_read hread] at h ⊢
      obtain ⟨name, -, hpackage⟩ := package_scan_of_done h
      exact ⟨name, hpackage⟩
  | direct => exact h.elim

/-- Only a scan without a failure touches the package. -/
theorem package_perform {context : Context} {request : Request}
    (h : ¬ context.Completes request) : (context.perform request).package = context.package := by
  cases request with
  | scan origin source => exact package_scan_of_failed h
  | file files path =>
    rw [Completes] at h
    rw [perform]
    cases hread : files.read path with
    | error fault => rw [scanFile_of_unreadable hread]
    | ok bytes =>
      rw [scanFile_of_read hread] at h ⊢
      exact package_scan_of_failed h
  | direct origin directive =>
    rcases context.apply_atomic origin directive with
      ⟨-, -, hperform⟩ | ⟨next, happly, hperform, -⟩
    · rw [hperform]
    · rw [hperform, package_apply happly]

/-- A package that is known stays. -/
theorem Change.package_eq {context next : Context} (h : Change context next) {name : Text}
    (hknown : context.package = some name) : next.package = some name := by
  cases h with
  | imported => exact hknown
  | converted => exact hknown
  | declared => exact hknown
  | packaged hunknown => exact absurd (hknown.symm.trans hunknown) (by simp)

theorem package_performAll {context : Context} {name : Text}
    (h : context.package = some name) (session : List Request) :
    (context.performAll session).package = some name :=
  (reaches_performAll context session).preserves
    (fun hchange hknown => hchange.package_eq hknown) h

/-- The package is unknown exactly as long as no source has been scanned without a failure. -/
theorem package_eq_none_iff {context : Context} (h : context.package = none)
    (session : List Request) :
    (context.performAll session).package = none ↔
      ∀ before request, before ++ [request] <+: session →
        ¬ (context.performAll before).Completes request := by
  induction session generalizing context with
  | nil => simp [performAll, h]
  | cons request session ih =>
    by_cases hcompletes : context.Completes request
    · -- the session begins with a request that completes, and its package stays
      obtain ⟨name, hname⟩ := exists_package_perform hcompletes
      have hpackage := package_performAll hname session
      refine iff_of_false (fun hnone => ?_) (fun hnever => ?_)
      · exact absurd (hpackage.symm.trans hnone) (by simp)
      · exact hnever [] request (by simp) hcompletes
    · refine (ih ((package_perform hcompletes).trans h)).trans ⟨?_, ?_⟩
      · rintro hrest (_ | ⟨first, before⟩) other hprefix
        · obtain rfl : other = request := by simpa using hprefix
          exact hcompletes
        · obtain ⟨rfl, hbefore⟩ := List.cons_prefix_cons.1 hprefix
          exact hrest before other hbefore
      · intro hall before other hprefix
        exact hall (request :: before) other (List.cons_prefix_cons.2 ⟨rfl, hprefix⟩)

/-! ## Lines and the package do not interfere -/

/-- The context with a package instead of its own. -/
def withPackage (package : Option Text) (context : Context) : Context := { context with package }

theorem unseen_withPackage (package : Option Text) : Unseen (withPackage package) where
  nameScheme _ := rfl
  imports _ := rfl
  with_imports _ _ := rfl
  addConversion _ _ := rfl
  addFunction _ _ := rfl

/-- Which lines are accepted, and what they do, is the same whatever the package is. -/
theorem acceptAll_withPackage (context : Context) (package : Option Text)
    (lines : List PlacedLine) :
    (context.withPackage package).acceptAll lines =
      (context.acceptAll lines).map (withPackage package) :=
  (unseen_withPackage package).acceptAll context lines

/-! ## Files -/

section Files

variable {files : FileSystem} {context next : Context}

theorem holds_cons_iff {file : SourceFile} {sources : List SourceFile} :
    files.Holds (file :: sources) ↔ files.Holds [file] ∧ files.Holds sources := by
  simp [FileSystem.Holds]

/-- The others are scanned in the context that the first file leaves behind. -/
theorem scanFiles_cons_of_done {file : SourceFile} {middle : Context} (hfile : files.Holds [file])
    (h : context.scan file.path file.source = ⟨middle, none⟩) (paths : List Text) :
    context.scanFiles files (file.path :: paths) = middle.scanFiles files paths := by
  obtain ⟨bytes, hread, hsource⟩ := hfile file List.mem_cons_self
  simp only [scanFiles, scanFile_of_read hread, ← hsource, h]

theorem scanFiles_cons_of_failed {file : SourceFile} {failure : Failure}
    (hfile : files.Holds [file])
    (h : context.scan file.path file.source = ⟨next, some failure⟩) (paths : List Text) :
    context.scanFiles files (file.path :: paths) = ⟨next, some failure⟩ := by
  obtain ⟨bytes, hread, hsource⟩ := hfile file List.mem_cons_self
  simp only [scanFiles, scanFile_of_read hread, ← hsource, h]

/-- Files are scanned without a failure if the first one and then the others are. -/
theorem scanFiles_cons_eq_done_iff {file : SourceFile} {paths : List Text}
    (hfile : files.Holds [file]) :
    context.scanFiles files (file.path :: paths) = ⟨next, none⟩ ↔
      ∃ middle, context.scan file.path file.source = ⟨middle, none⟩ ∧
        middle.scanFiles files paths = ⟨next, none⟩ := by
  rcases hscan : context.scan file.path file.source with ⟨middle, _ | failure⟩
  · simp [scanFiles_cons_of_done hfile hscan]
  · simp [scanFiles_cons_of_failed hfile hscan]

theorem agree_cons_iff (current : Context) {file : SourceFile} {sources : List SourceFile}
    {name : Text} :
    context.Agree (file :: sources) name ↔
      context.Agree [file] name ∧ (current.withPackage (some name)).Agree sources name := by
  constructor
  · rintro ⟨hdeclared, hknown⟩
    obtain ⟨hfile, hsources⟩ := List.forall_mem_cons.1 hdeclared
    exact ⟨⟨by simpa using hfile, hknown⟩, ⟨hsources, by simp [withPackage]⟩⟩
  · rintro ⟨hfile, hsources⟩
    exact ⟨List.forall_mem_cons.2 ⟨hfile.declared file List.mem_cons_self, hsources.declared⟩,
      hfile.known⟩

/-- A source is scanned without a failure if its lines are accepted and its package agrees. -/
theorem scan_eq_done_iff {file : SourceFile} :
    context.scan file.path file.source = ⟨next, none⟩ ↔
      ∃ current name, context.acceptAll file.lines = .ok current ∧ context.Agree [file] name ∧
        next = current.withPackage (some name) := by
  rw [scan_eq_iff]
  constructor
  · rintro (_ | _ | _ | @⟨current, name, hlines, hread, hknown⟩)
    exact ⟨current, name, hlines, ⟨by simpa using hread, hknown⟩, rfl⟩
  · rintro ⟨current, name, hlines, hagree, rfl⟩
    exact .recorded hlines (hagree.declared file List.mem_cons_self) hagree.known

/--
Files are scanned without a failure if all their lines are accepted in order and all their packages
agree; the context is that of the lines, with the package recorded in it.
-/
theorem scanFiles_eq_done_iff {sources : List SourceFile} (hfiles : files.Holds sources) :
    context.scanFiles files (sources.map SourceFile.path) = ⟨next, none⟩ ↔
      ∃ final name, context.acceptAll (sources.flatMap SourceFile.lines) = .ok final ∧
        context.Agree sources name ∧
        next = final.withPackage (if sources = [] then context.package else some name) := by
  induction sources generalizing context with
  | nil =>
    constructor
    · intro h
      obtain ⟨rfl, -⟩ := ScanResult.mk.inj h
      refine ⟨context, context.package.getD [], rfl, ⟨by simp, ?_⟩, rfl⟩
      intro first hfirst
      rw [Option.mem_def.1 hfirst, Option.getD_some]
    · rintro ⟨final, -, hlines, -, rfl⟩
      obtain rfl := Except.ok.inj hlines
      rfl
  | cons file sources ih =>
    obtain ⟨hfile, hsources⟩ := holds_cons_iff.1 hfiles
    rw [List.map_cons, scanFiles_cons_eq_done_iff hfile, List.flatMap_cons, acceptAll_append]
    simp only [scan_eq_done_iff, bind_eq_ok_iff, reduceCtorEq, if_false]
    constructor
    · rintro ⟨_, ⟨current, name, hlines, hagree, rfl⟩, hrest⟩
      obtain ⟨final, other, hothers, hothersAgree, rfl⟩ := (ih hsources).1 hrest
      -- the others are scanned with the package of the first file known
      obtain rfl : name = other := hothersAgree.known name rfl
      rw [acceptAll_withPackage, map_eq_ok_iff] at hothers
      obtain ⟨final, hothers, rfl⟩ := hothers
      refine ⟨final, name, ⟨current, hlines, hothers⟩,
        (agree_cons_iff current).2 ⟨hagree, hothersAgree⟩, ?_⟩
      split <;> rfl
    · rintro ⟨final, name, ⟨current, hlines, hothers⟩, hagree, rfl⟩
      obtain ⟨hfirst, hothersAgree⟩ := (agree_cons_iff current).1 hagree
      refine ⟨_, ⟨current, name, hlines, hfirst, rfl⟩, (ih hsources).2
        ⟨final.withPackage (some name), name, ?_, hothersAgree, ?_⟩⟩
      · rw [acceptAll_withPackage, hothers]
        rfl
      · split <;> rfl

/-- Files are scanned up to the first one that fails. -/
theorem scanFiles_eq_failed_iff {sources : List SourceFile} (hfiles : files.Holds sources)
    {failure : Failure} :
    context.scanFiles files (sources.map SourceFile.path) = ⟨next, some failure⟩ ↔
      ∃ before file after middle, sources = before ++ file :: after ∧
        context.scanFiles files (before.map SourceFile.path) = ⟨middle, none⟩ ∧
        middle.scan file.path file.source = ⟨next, some failure⟩ := by
  induction sources generalizing context with
  | nil => simp [scanFiles]
  | cons file sources ih =>
    obtain ⟨hfile, hsources⟩ := holds_cons_iff.1 hfiles
    constructor
    · intro h
      rw [List.map_cons] at h
      rcases hscan : context.scan file.path file.source with ⟨middle, _ | refusal⟩
      · rw [scanFiles_cons_of_done hfile hscan] at h
        obtain ⟨before, failing, after, last, rfl, hbefore, hfailing⟩ := (ih hsources).1 h
        exact ⟨file :: before, failing, after, last, rfl,
          (scanFiles_cons_eq_done_iff hfile).2 ⟨middle, hscan, hbefore⟩, hfailing⟩
      · rw [scanFiles_cons_of_failed hfile hscan] at h
        exact ⟨[], file, sources, context, rfl, rfl, hscan.trans h⟩
    · rintro ⟨_ | ⟨first, before⟩, failing, after, last, heq, hbefore, hfailing⟩
      · obtain ⟨rfl, rfl⟩ := List.cons.inj heq
        obtain ⟨rfl, -⟩ := ScanResult.mk.inj hbefore
        exact scanFiles_cons_of_failed hfile hfailing _
      · obtain ⟨rfl, rfl⟩ := List.cons.inj heq
        obtain ⟨middle, hscan, hrest⟩ := (scanFiles_cons_eq_done_iff hfile).1 hbefore
        rw [List.map_cons, scanFiles_cons_of_done hfile hscan]
        exact (ih hsources).2 ⟨before, failing, after, last, rfl, hrest, hfailing⟩

end Files

/-! ## Scans that fail -/

/--
A scan stops at the first line that is refused, and one that fails leaves the package alone. A
directive is refused without a trace, or it updates its own component. A session that begins without
a package has none until a source is scanned without a failure, and the same one from then on.
Files are scanned without a failure exactly if all their lines are accepted in order and all their
packages agree; otherwise the first one that fails is the last one that is scanned.
-/
theorem scans_stop_at_first_failure :
    (∀ (context : Context) (origin : Text) (source : Source),
      (∀ result, context.scan origin source = result ↔ context.Scans origin source result) ∧
      ((context.scan origin source).failure ≠ none →
        (context.scan origin source).context.package = context.package)) ∧
    (∀ (context : Context) (origin : Text) (directive : Directive),
      (∃ failure, context.apply origin directive = .error failure ∧
        context.perform (.direct origin directive) = context) ∨
      ∃ next, context.apply origin directive = .ok next ∧
        context.perform (.direct origin directive) = next ∧ context.Updates directive next) ∧
    (∀ (exported extendedOnly : Bool) (session : List Request),
      let initial := fresh exported extendedOnly none
      ((initial.performAll session).package = none ↔
        ∀ before request, before ++ [request] <+: session →
          ¬ (initial.performAll before).Completes request) ∧
      ∀ before, before <+: session → ∀ name ∈ (initial.performAll before).package,
        (initial.performAll session).package = some name) ∧
    ∀ (files : FileSystem) (sources : List SourceFile), files.Holds sources →
      ∀ context next : Context,
        (context.scanFiles files (sources.map SourceFile.path) = ⟨next, none⟩ ↔
          ∃ final name, context.acceptAll (sources.flatMap SourceFile.lines) = .ok final ∧
            context.Agree sources name ∧
            next = final.withPackage (if sources = [] then context.package else some name)) ∧
        ∀ failure,
          (context.scanFiles files (sources.map SourceFile.path) = ⟨next, some failure⟩ ↔
            ∃ before file after middle, sources = before ++ file :: after ∧
              context.scanFiles files (before.map SourceFile.path) = ⟨middle, none⟩ ∧
              middle.scan file.path file.source = ⟨next, some failure⟩) := by
  refine ⟨fun context origin source => ⟨fun result => scan_eq_iff, package_scan_of_failed⟩,
    apply_atomic, fun exported extendedOnly session => ⟨package_eq_none_iff rfl session, ?_⟩,
    fun files sources hfiles context next =>
      ⟨scanFiles_eq_done_iff hfiles, fun failure => scanFiles_eq_failed_iff hfiles⟩⟩
  rintro before ⟨after, rfl⟩ name hname
  rw [performAll, List.foldl_append]
  exact package_performAll hname after

/-- A local name that contradicts an earlier file ends the scan of the files. -/
theorem scans_stop_at_first_failure_conflict :
    let first : Text := "package p\n//ugo:callable:import \"fmt\"\n"
    let second : Text := "package p\n//ugo:callable f()\n//ugo:callable:import f \"fmt\"\n"
    let files : FileSystem :=
      ⟨[], [(["a.go"], .file first.encode), (["b.go"], .file second.encode)]⟩
    let sources : List SourceFile := [⟨"a.go", .ofText first⟩, ⟨"b.go", .ofText second⟩]
    files.Holds sources ∧
      ∀ next, (fresh false false none).scanFiles files ["a.go", "b.go"] ≠ ⟨next, none⟩ := by
  intro first second files sources
  have hfiles : files.Holds sources :=
    List.forall_mem_cons.2 ⟨⟨first.encode, rfl, (Source.decode_encode first).symm⟩,
      List.forall_mem_singleton.2 ⟨second.encode, rfl, (Source.decode_encode second).symm⟩⟩
  refine ⟨hfiles, fun next h => ?_⟩
  obtain ⟨final, -, haccepted, -⟩ :=
    ((scans_stop_at_first_failure.2.2.2 files sources hfiles (fresh false false none) next).1).1 h
  have hrefused :
      ((fresh false false none).acceptAll (sources.flatMap SourceFile.lines)).isOk = false := by
    decide +kernel
  rw [haccepted] at hrefused
  exact absurd hrefused (by simp [Except.isOk, Except.toBool])

end Context

end WrapperGen
