import Mathlib.Logic.Relation
import WrapperGen.Proofs.Importer

/-!
# Keys of modules

A module is known by the path that its name is resolved to. Two absolute paths lead to the same
place if the same names are left of their components once the empty ones and `.` are dropped and
every `..` is cancelled (`Path.SamePlace`). It does not matter in which order that is done: what is
left are the names on a walk from the root (`Path.leaves_iff`).

The slashes in front of a path are the one thing that its components do not tell: exactly two stay
two, and any other number becomes one. So two names have one key exactly if they lead to the same
place and both or neither of their paths begin with exactly two slashes (`Importer.resolve_eq_iff`).
-/

namespace WrapperGen

namespace Path

/-! ## What is left of components -/

/-- One step of dropping and cancelling among the components of an absolute path. -/
inductive Shortens : List Text → List Text → Prop
  /-- An empty component and `.` are dropped. -/
  | drop {component : Text} (h : component = [] ∨ component = here) (front back : List Text) :
    Shortens (front ++ component :: back) (front ++ back)
  /-- A `..` cancels the name in front of it. -/
  | cancel {name : Text} (h : IsName name) (front back : List Text) :
    Shortens (front ++ name :: parent :: back) (front ++ back)
  /-- At the root a `..` has nothing to cancel. -/
  | root (back : List Text) : Shortens (parent :: back) back

/-- What is left of the components of an absolute path when there is nothing but names. -/
def Leaves (path : Text) (names : List Text) : Prop :=
  Relation.ReflTransGen Shortens (path.splitOn '/') names ∧ ∀ name ∈ names, IsName name

/-- Two absolute paths lead to the same place if the same names are left of both. -/
def SamePlace (path other : Text) : Prop := ∃ names, Leaves path names ∧ Leaves other names

/-- No step changes where the components lead. -/
theorem Shortens.walk_eq {first second : List Text} (h : Shortens first second) :
    walk [] (first.filter (!·.isEmpty)) = walk [] (second.filter (!·.isEmpty)) := by
  cases h with
  | drop h front back =>
    rw [List.filter_append, List.filter_append, walk_append, walk_append]
    rcases h with rfl | rfl <;> rfl
  | @cancel name h front back =>
    have hback : (name :: parent :: back).filter (!·.isEmpty) =
        name :: parent :: back.filter (!·.isEmpty) := by
      rw [List.filter_cons_of_pos (by simp [h.ne_nil]), List.filter_cons_of_pos (by decide)]
    have hstep (place : List Text) : step (step place name) parent = place := by
      rw [step_of_isName h]
      exact List.dropLast_concat
    rw [List.filter_append, List.filter_append, walk_append, walk_append, hback, walk,
      List.foldl_cons, List.foldl_cons, hstep, ← walk]
  | root back => rfl

/-- Behind names, a component is dropped, cancels the last of them, or is a name itself. -/
theorem reflTransGen_step {place : List Text} (hplace : ∀ name ∈ place, IsName name)
    (component : Text) (components : List Text) :
    Relation.ReflTransGen Shortens (place ++ component :: components)
      (step place component ++ components) := by
  by_cases hhere : component = here
  · subst hhere
    exact .single (.drop (.inr rfl) place components)
  by_cases hparent : component = parent
  · subst hparent
    rcases List.eq_nil_or_concat' place with rfl | ⟨front, last, rfl⟩
    · exact .single (.root components)
    · have hlast : IsName last := hplace last (by simp)
      have hstep : step (front ++ [last]) parent = front := List.dropLast_concat
      rw [hstep, List.append_assoc]
      exact .single (.cancel hlast front components)
  · rw [step, if_neg hhere, if_neg hparent, List.append_assoc]
    exact .refl

/-- Behind names, dropping and cancelling can be done in the order of a walk. -/
theorem reflTransGen_walk {place : List Text} (hplace : ∀ name ∈ place, IsName name)
    {components : List Text} (hcomponents : ∀ component ∈ components, '/' ∉ component) :
    Relation.ReflTransGen Shortens (place ++ components)
      (walk place (components.filter (!·.isEmpty))) := by
  induction components generalizing place with
  | nil =>
    rw [List.append_nil]
    exact .refl
  | cons component components ih =>
    obtain ⟨hslash, hrest⟩ := List.forall_mem_cons.1 hcomponents
    by_cases hnil : component = []
    · subst hnil
      exact .head (.drop (.inl rfl) place components) (ih hplace hrest)
    · have hwalk : walk place ((component :: components).filter (!·.isEmpty)) =
          walk (step place component) (components.filter (!·.isEmpty)) := by
        rw [List.filter_cons_of_pos (by simp [hnil])]
        rfl
      rw [hwalk]
      exact (reflTransGen_step hplace component components).trans
        (ih (isName_step hplace ⟨hnil, hslash⟩) hrest)

/-- Dropping and cancelling, however far it goes, leaves the place of the components as it is. -/
theorem walk_eq_of_reflTransGen {first second : List Text}
    (h : Relation.ReflTransGen Shortens first second) :
    walk [] (first.filter (!·.isEmpty)) = walk [] (second.filter (!·.isEmpty)) := by
  induction h with
  | refl => rfl
  | tail _ hstep ih => rw [ih, hstep.walk_eq]

/-- Whatever is dropped and cancelled first, the names on a walk from the root are left. -/
theorem leaves_iff {path : Text} {names : List Text} :
    Leaves path names ↔ names = walk [] (parts path) := by
  constructor
  · rintro ⟨hsteps, hnames⟩
    have hkept : names.filter (!·.isEmpty) = names :=
      List.filter_eq_self.2 fun name hname => by simp [(hnames name hname).ne_nil]
    rw [parts, walk_eq_of_reflTransGen hsteps, hkept, walk_names hnames, List.nil_append]
  · rintro rfl
    refine ⟨?_, isName_walk_parts (by simp) path⟩
    exact @reflTransGen_walk [] (by simp) _ fun _ => Text.not_mem_of_mem_splitOn

theorem samePlace_iff {path other : Text} :
    SamePlace path other ↔ walk [] (parts path) = walk [] (parts other) := by
  simp only [SamePlace, leaves_iff, exists_eq_left]

instance (path other : Text) : Decidable (SamePlace path other) :=
  decidable_of_iff _ samePlace_iff.symm

/-! ## Slashes in front -/

/-- The path begins with two slashes, and with no third one. -/
def BeginsWithTwoSlashes (path : Text) : Prop :=
  ∃ rest, path = '/' :: '/' :: rest ∧ isAbsolute rest = false

theorem leadingSlashes_eq_two_iff {path : Text} :
    leadingSlashes path = 2 ↔ BeginsWithTwoSlashes path := by
  constructor
  · intro htwo
    have hlength : (path.takeWhile (· == '/')).length = 2 := by
      dsimp only [leadingSlashes] at htwo
      split at htwo <;> omega
    have hslash : ∀ c ∈ path.takeWhile (· == '/'), c = '/' := fun c hc =>
      eq_of_beq (List.all_eq_true.1 List.all_takeWhile c hc)
    have hslashes : path.takeWhile (· == '/') = ['/', '/'] :=
      List.eq_replicate_iff.2 ⟨hlength, hslash⟩
    refine ⟨path.dropWhile (· == '/'), ?_, ?_⟩
    · calc
        path = path.takeWhile (· == '/') ++ path.dropWhile (· == '/') :=
          List.takeWhile_append_dropWhile.symm
        _ = '/' :: '/' :: path.dropWhile (· == '/') := by rw [hslashes]; rfl
    · have hfirst := List.head?_dropWhile_not (· == '/') path
      rw [isAbsolute, decide_eq_false_iff_not]
      intro hslash
      rw [hslash] at hfirst
      exact absurd hfirst (by simp)
  · rintro ⟨rest, rfl, hrest⟩
    exact leadingSlashes_replicate_append (.inr rfl) hrest

instance (path : Text) : Decidable (BeginsWithTwoSlashes path) :=
  decidable_of_iff _ leadingSlashes_eq_two_iff

/-! ## Normal forms -/

theorem rooted_inj {slashes slashes' : Nat} (hslashes : slashes = 1 ∨ slashes = 2)
    (hslashes' : slashes' = 1 ∨ slashes' = 2) {names names' : List Text}
    (hnames : ∀ name ∈ names, IsName name) (hnames' : ∀ name ∈ names', IsName name) :
    rooted slashes names = rooted slashes' names' ↔ slashes = slashes' ∧ names = names' := by
  constructor
  · intro h
    constructor
    · rw [← leadingSlashes_rooted hslashes hnames, h, leadingSlashes_rooted hslashes' hnames']
    · rw [← parts_rooted hnames slashes, h, parts_rooted hnames']
  · rintro ⟨rfl, rfl⟩
    rfl

/-- Absolute paths have one normal form exactly if they lead to one place from one root. -/
theorem normalize_eq_iff {path other : Text} (hpath : isAbsolute path = true)
    (hother : isAbsolute other = true) :
    normalize path = normalize other ↔
      SamePlace path other ∧ (BeginsWithTwoSlashes path ↔ BeginsWithTwoSlashes other) := by
  have hslashes := leadingSlashes_eq_one_or_two hpath
  have hslashes' := leadingSlashes_eq_one_or_two hother
  have hroot : leadingSlashes path = leadingSlashes other ↔
      (BeginsWithTwoSlashes path ↔ BeginsWithTwoSlashes other) := by
    rw [← leadingSlashes_eq_two_iff, ← leadingSlashes_eq_two_iff]
    omega
  rw [normalize_eq_rooted hpath, normalize_eq_rooted hother,
    rooted_inj hslashes hslashes' (isName_walk_parts (by simp) path)
      (isName_walk_parts (by simp) other),
    hroot, samePlace_iff, and_comm]

end Path

/-! ## Keys -/

open WrapperGen.Path

namespace Importer

/--
**Resolved paths are canonical keys.** Every two names that are not empty have keys from importers
with absolute directories, wherever they are resolved. The keys are the same exactly if the paths
that the names stand for lead to the same place, and both or neither begin with exactly two slashes.
-/
theorem resolve_eq_iff {importer importer' : Importer}
    (hdirectory : isAbsolute importer.workDir = true)
    (hdirectory' : isAbsolute importer'.workDir = true) {name name' : Text} (hname : name ≠ [])
    (hname' : name' ≠ []) (current current' : Text) :
    ∃ key key', importer.resolve current name = .ok key ∧
      importer'.resolve current' name' = .ok key' ∧
      (key = key' ↔
        SamePlace (under importer.workDir name) (under importer'.workDir name') ∧
          (BeginsWithTwoSlashes (under importer.workDir name) ↔
            BeginsWithTwoSlashes (under importer'.workDir name'))) := by
  have hpath := isAbsolute_under hdirectory name
  have hpath' := isAbsolute_under hdirectory' name'
  refine ⟨_, _, resolve_of_ne_nil hname importer current,
    resolve_of_ne_nil hname' importer' current', ?_⟩
  rw [Path.absolute, Path.absolute, under_of_isAbsolute hpath, under_of_isAbsolute hpath',
    normalize_eq_iff hpath hpath']

/-- A relative name with dots and slashes, and an absolute one with three slashes in front. -/
theorem resolve_eq_iff_spellings :
    resolve "/" ⟨"/home/lib", .plain⟩ "./a//.././../x/m.ugo/" =
      resolve "/var" ⟨"/home/lib", .plain⟩ "///../home/x//y/../m.ugo" := by
  obtain ⟨key, key', hkey, hkey', hiff⟩ :=
    @resolve_eq_iff ⟨"/home/lib", .plain⟩ ⟨"/home/lib", .plain⟩ (by decide) (by decide)
      "./a//.././../x/m.ugo/" "///../home/x//y/../m.ugo" (by decide) (by decide) "/" "/var"
  rw [hkey, hkey', hiff.2 (by decide)]

/-- Two slashes in front are kept: one place has two keys. -/
theorem resolve_ne_of_two_slashes :
    isAbsolute "/w" = true ∧ SamePlace (under "/w" "/m.ugo") (under "/w" "//m.ugo") ∧
      resolve "/" ⟨"/w", .plain⟩ "/m.ugo" = .ok "/m.ugo" ∧
      resolve "/" ⟨"/w", .plain⟩ "//m.ugo" = .ok "//m.ugo" ∧
      resolve "/" ⟨"/w", .plain⟩ "/m.ugo" ≠ resolve "/" ⟨"/w", .plain⟩ "//m.ugo" := by
  refine ⟨by decide, by decide, rfl, rfl, fun hsame => ?_⟩
  exact absurd (Except.ok.inj hsame) (by decide)

end Importer

end WrapperGen
