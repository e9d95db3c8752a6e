import WrapperGen.Importer
import WrapperGen.Proofs.Path

/-!
# Names of modules

Seen from an absolute directory every name is resolved to a path in normal form (`normal_resolve`),
which is then resolved to itself wherever it is imported. What a module imports by a relative name
is found from the directory of the module, and nothing else counts (`resolve_fork_of_relative`). So
where a chain of imports leads can be told from the path of the first module and the names along
the chain (`exists_importAlong`).
-/

namespace WrapperGen

open WrapperGen.Path

/--
Where a name leads that a module imports. A place is given by the slashes in front of its path and
the names after them; a relative name starts from the directory of the module.
-/
def Path.follow (place : Nat × List Text) (name : Text) : Nat × List Text :=
  if isAbsolute name then (leadingSlashes name, walk [] (parts name))
  else (place.1, walk place.2.dropLast (parts name))

namespace Importer

/--
The path at the end of a chain of imports, in which the module at each path imports the next one.
Every name comes with the current directory at the time of its import.
-/
def importAlong (importer : Importer) (path : Text) :
    List (Text × Text) → Except Failure Text
  | [] => .ok path
  | (current, name) :: imports => do
    let next ← (importer.fork path).resolve current name
    (importer.fork path).importAlong next imports

/-! ## One name -/

theorem resolve_of_ne_nil {name : Text} (hname : name ≠ []) (importer : Importer) (current : Text) :
    importer.resolve current name = .ok (Path.absolute current (under importer.workDir name)) :=
  if_neg fun hempty => hname (List.isEmpty_iff.1 hempty)

/-- Every name is resolved to a path in normal form. -/
theorem normal_resolve {current name : Text} (hcurrent : isAbsolute current = true)
    (hname : name ≠ []) (importer : Importer) :
    ∃ path, importer.resolve current name = .ok path ∧ Normal path :=
  ⟨_, resolve_of_ne_nil hname importer current, normal_normalize (isAbsolute_under hcurrent _)⟩

/-- An absolute name is resolved in the same way everywhere. -/
theorem resolve_of_isAbsolute {name : Text} (h : isAbsolute name = true) (importer : Importer)
    (current : Text) : importer.resolve current name = .ok (normalize name) := by
  have hname : name ≠ [] := fun hnil => by simp [hnil, isAbsolute] at h
  rw [resolve_of_ne_nil hname, Path.absolute, under_of_isAbsolute h, under_of_isAbsolute h]

theorem resolve_of_normal {path : Text} (h : Normal path) (importer : Importer) (current : Text) :
    importer.resolve current path = .ok path := by
  rw [resolve_of_isAbsolute h.absolute, h.normalize_eq]

/-- What a module imports by a relative name is found from the directory of the module. -/
theorem resolve_fork_of_relative {path name : Text} (h : Normal path) (hname : name ≠ [])
    (hrelative : isAbsolute name = false) (importer : Importer) (current : Text) :
    (importer.fork path).resolve current name =
      .ok (rooted (leadingSlashes path) (walk (parts path).dropLast (parts name))) := by
  have hslashes := leadingSlashes_eq_one_or_two h.absolute
  have hfront : ∀ part ∈ (parts path).dropLast, IsName part := fun part hpart =>
    h.isName part ((List.dropLast_prefix _).subset hpart)
  have hdirectory : (importer.fork path).workDir =
      rooted (leadingSlashes path) (parts path).dropLast := by
    rw [← directory_rooted hslashes h.isName, ← h.eq_rooted]
    rfl
  obtain ⟨habsolute, hnormalize⟩ := normalize_under_rooted hslashes hfront hrelative
  rw [resolve_of_ne_nil hname, hdirectory, Path.absolute, under_of_isAbsolute habsolute, hnormalize]

/-! ## Chains of imports -/

/-- One import from a module whose path is in normal form. -/
theorem exists_resolve_fork {path name : Text} (h : Normal path) (hname : name ≠ [])
    (importer : Importer) (current : Text) :
    ∃ next, (importer.fork path).resolve current name = .ok next ∧ Normal next ∧
      (leadingSlashes next, parts next) = follow (leadingSlashes path, parts path) name := by
  cases hrelative : isAbsolute name with
  | true =>
    have hslashes := leadingSlashes_eq_one_or_two hrelative
    have hnames : ∀ part ∈ walk [] (parts name), IsName part := isName_walk_parts (by simp) name
    refine ⟨_, resolve_of_isAbsolute hrelative _ _, normal_normalize hrelative, ?_⟩
    rw [normalize_eq_rooted hrelative, leadingSlashes_rooted hslashes hnames,
      parts_rooted hnames, follow, if_pos hrelative]
  | false =>
    have hslashes := leadingSlashes_eq_one_or_two h.absolute
    have hnames := isName_walk_parts
      (fun part hpart => h.isName part ((List.dropLast_prefix _).subset hpart)) name
    refine ⟨_, resolve_fork_of_relative h hname hrelative importer current,
      normal_rooted hslashes hnames, ?_⟩
    rw [leadingSlashes_rooted hslashes hnames, parts_rooted hnames, follow,
      if_neg (by simp [hrelative])]

/-- Every chain of imports leads to a path in normal form, which its names tell. -/
theorem exists_importAlong {path : Text} (h : Normal path) (importer : Importer)
    {imports : List (Text × Text)} (hnames : ∀ entry ∈ imports, entry.2 ≠ []) :
    ∃ last, importer.importAlong path imports = .ok last ∧ Normal last ∧
      (leadingSlashes last, parts last) =
        (imports.map (·.2)).foldl follow (leadingSlashes path, parts path) := by
  induction imports generalizing importer path with
  | nil => exact ⟨path, rfl, h, rfl⟩
  | cons entry imports ih =>
    obtain ⟨current, name⟩ := entry
    obtain ⟨hname, hrest⟩ := List.forall_mem_cons.1 hnames
    obtain ⟨next, hresolve, hnext, hplace⟩ := exists_resolve_fork h hname importer current
    obtain ⟨last, hlast, hnormal, hfollow⟩ := ih hnext (importer.fork path) hrest
    refine ⟨last, ?_, hnormal, ?_⟩
    · rw [importAlong, hresolve]
      exact hlast
    · rw [hfollow, hplace, List.map_cons, List.foldl_cons]

/--
**Resolved paths are in normal form, stable, and relative to the importing module.** Seen from an
absolute directory, every name that is not empty is resolved to a path in normal form, and every
importer resolves that path to itself, wherever it is. A relative name in the module at that path
is resolved to its components without the last one, extended by those of the name, whatever the
importer and the directory are; so is each next name along a chain of imports.
-/
theorem resolve_normal_stable_relative (importer : Importer) {current name : Text}
    (hcurrent : isAbsolute current = true) (hname : name ≠ []) :
    ∃ path, importer.resolve current name = .ok path ∧ Normal path ∧
      (∀ (other : Importer) (elsewhere : Text), other.resolve elsewhere path = .ok path) ∧
      (∀ (other : Importer) (elsewhere next : Text), next ≠ [] → isAbsolute next = false →
        (other.fork path).resolve elsewhere next =
          .ok (rooted (leadingSlashes path) (walk (parts path).dropLast (parts next)))) ∧
      ∀ (other : Importer) (imports : List (Text × Text)), (∀ entry ∈ imports, entry.2 ≠ []) →
        ∃ last, other.importAlong path imports = .ok last ∧ Normal last ∧
          (∀ (third : Importer) (elsewhere : Text), third.resolve elsewhere last = .ok last) ∧
          (leadingSlashes last, parts last) =
            (imports.map (·.2)).foldl follow (leadingSlashes path, parts path) := by
  obtain ⟨path, hresolve, hnormal⟩ := normal_resolve hcurrent hname importer
  refine ⟨path, hresolve, hnormal, resolve_of_normal hnormal,
    fun other elsewhere _ hnext hrelative =>
      resolve_fork_of_relative hnormal hnext hrelative other elsewhere,
    fun other imports hnames => ?_⟩
  obtain ⟨last, hlast, hnormal', hplace⟩ := exists_importAlong hnormal other hnames
  exact ⟨last, hlast, hnormal', resolve_of_normal hnormal', hplace⟩

/-- A module imports one that lies above its directory, which imports a third one below it. -/
theorem resolve_normal_stable_relative_nested :
    resolve "/home" ⟨"lib", .plain⟩ "./a//../m.ugo" = .ok "/home/lib/m.ugo" ∧
      importAlong ⟨"/tmp", .plain⟩ "/home/lib/m.ugo"
          [("/", "../../../x/./n.ugo"), ("/var", "sub//o.ugo")] = .ok "/x/sub/o.ugo" := by
  obtain ⟨path, hresolve, -, -, -, hchain⟩ :=
    @resolve_normal_stable_relative ⟨"lib", .plain⟩ "/home" "./a//../m.ugo" (by decide) (by decide)
  obtain rfl : path = "/home/lib/m.ugo".toList := Except.ok.inj (hresolve.symm.trans rfl)
  obtain ⟨last, hlast, hnormal, -, hplace⟩ := hchain ⟨"/tmp", .plain⟩
    [("/", "../../../x/./n.ugo"), ("/var", "sub//o.ugo")] (by decide)
  refine ⟨hresolve, hlast.trans (congrArg Except.ok ?_)⟩
  obtain ⟨hslashes, hparts⟩ := Prod.mk.inj hplace
  rw [hnormal.eq_rooted, hslashes, hparts]
  rfl

end Importer

end WrapperGen
