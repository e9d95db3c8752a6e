import WrapperGen.Path
import WrapperGen.Proofs.Text.Tokens

/-!
# Paths in normal form

What a path says is how many slashes it begins with and which components follow (`parts`). An
absolute path is normalised by walking through its components from the root (`walk`,
`normalize_eq_rooted`). So the result is in normal form (`normal_normalize`), and what is in normal
form stays as it is (`Normal.normalize_eq`). The directory of a path in normal form lacks the last
component (`directory_rooted`), and a relative path is walked from the directory it is under
(`normalize_under_rooted`).
-/

namespace WrapperGen.Path

/-- A component that is the name of something below a directory. -/
structure IsName (component : Text) : Prop where
  ne_nil : component ≠ []
  ne_here : component ≠ here
  ne_parent : component ≠ parent
  slash_not_mem : '/' ∉ component

/-- The components of a path, without the empty ones that stand between neighbouring slashes. -/
def parts (path : Text) : List Text := (path.splitOn '/').filter (!·.isEmpty)

/-- The path with slashes in front of components. -/
def rooted (slashes : Nat) (components : List Text) : Text :=
  List.replicate slashes '/' ++ Text.join ['/'] components

/-- Where one component leads from a place, which is given by the names on the way from the root. -/
def step (place : List Text) (component : Text) : List Text :=
  if component = here then place
  else if component = parent then place.dropLast
  else place ++ [component]

/-- Where components lead from a place. At the root there is no parent to go to. -/
def walk (place components : List Text) : List Text := components.foldl step place

/-- An absolute path in normal form: after the slashes that are kept in front come names only. -/
structure Normal (path : Text) : Prop where
  absolute : isAbsolute path = true
  eq_rooted : path = rooted (leadingSlashes path) (parts path)
  isName : ∀ part ∈ parts path, IsName part

theorem IsName.isComponent {component : Text} (h : IsName component) :
    component ≠ [] ∧ '/' ∉ component :=
  ⟨h.ne_nil, h.slash_not_mem⟩

/-! ## Components -/

theorem parts_append_slash (front back : Text) :
    parts (front ++ '/' :: back) = parts front ++ parts back := by
  have hsplit : (front ++ '/' :: back).splitOn '/' = front.splitOn '/' ++ back.splitOn '/' :=
    List.splitOnP_append_cons front back (by simp)
  rw [parts, hsplit, List.filter_append, parts, parts]

theorem parts_replicate_append (slashes : Nat) (path : Text) :
    parts (List.replicate slashes '/' ++ path) = parts path := by
  induction slashes with
  | zero => rfl
  | succ slashes ih => exact (parts_append_slash [] _).trans ih

theorem of_mem_parts {path part : Text} (h : part ∈ parts path) : part ≠ [] ∧ '/' ∉ part := by
  obtain ⟨hmem, hne⟩ := List.mem_filter.1 h
  exact ⟨by simpa using hne, Text.not_mem_of_mem_splitOn hmem⟩

theorem parts_join {components : List Text}
    (h : ∀ component ∈ components, component ≠ [] ∧ '/' ∉ component) :
    parts (Text.join ['/'] components) = components := by
  by_cases hne : components = []
  · rw [hne]
    rfl
  · rw [parts, Text.join, List.splitOn_intercalate '/' (fun part hpart => (h part hpart).2) hne]
    exact List.filter_eq_self.2 fun part hpart => by simpa using (h part hpart).1

/-! ## Walking -/

theorem walk_append (place first second : List Text) :
    walk place (first ++ second) = walk (walk place first) second :=
  List.foldl_append

theorem step_of_isName {component : Text} (h : IsName component) (place : List Text) :
    step place component = place ++ [component] := by
  rw [step, if_neg h.ne_here, if_neg h.ne_parent]

/-- Names lead from a place to what is below it. -/
theorem walk_names {names : List Text} (h : ∀ name ∈ names, IsName name) (place : List Text) :
    walk place names = place ++ names := by
  induction names generalizing place with
  | nil => exact (List.append_nil place).symm
  | cons name names ih =>
    obtain ⟨hname, hnames⟩ := List.forall_mem_cons.1 h
    rw [walk, List.foldl_cons, step_of_isName hname, ← walk, ih hnames, List.append_assoc,
      List.singleton_append]

theorem isName_step {place : List Text} (hplace : ∀ name ∈ place, IsName name) {component : Text}
    (hcomponent : component ≠ [] ∧ '/' ∉ component) :
    ∀ name ∈ step place component, IsName name := by
  intro name hname
  rw [step] at hname
  split at hname
  · exact hplace name hname
  · split at hname
    · exact hplace name ((List.dropLast_prefix place).subset hname)
    · next hhere hparent =>
      rcases List.mem_append.1 hname with hname | hname
      · exact hplace name hname
      · obtain rfl := List.mem_singleton.1 hname
        exact ⟨hcomponent.1, hhere, hparent, hcomponent.2⟩

/-- Whatever the components are, only names stand on the way to where they lead. -/
theorem isName_walk {place components : List Text} (hplace : ∀ name ∈ place, IsName name)
    (hcomponents : ∀ component ∈ components, component ≠ [] ∧ '/' ∉ component) :
    ∀ name ∈ walk place components, IsName name := by
  induction components generalizing place with
  | nil => exact hplace
  | cons component components ih =>
    obtain ⟨hfirst, hrest⟩ := List.forall_mem_cons.1 hcomponents
    exact ih (isName_step hplace hfirst) hrest

theorem isName_walk_parts {place : List Text} (hplace : ∀ name ∈ place, IsName name)
    (path : Text) : ∀ name ∈ walk place (parts path), IsName name :=
  isName_walk hplace fun _ hmem => of_mem_parts hmem

/-! ## Taking components of an absolute path -/

/-- Below the root there is never a `..` to be kept, and taking a component is a step. -/
theorem push_eq_step {taken : List Text} (htaken : parent ∉ taken) {component : Text}
    (hne : component ≠ []) :
    (push true taken component).reverse = step taken.reverse component ∧
      parent ∉ push true taken component := by
  unfold push step
  by_cases hhere : component = here
  · simp [hhere, htaken]
  · by_cases hparent : component = parent
    · subst hparent
      cases taken with
      | nil => simp [hhere, hne]
      | cons last rest =>
        obtain ⟨hlast, hrest⟩ := not_or.1 (fun hmem => htaken (List.mem_cons.2 hmem))
        simp [hhere, hne, Ne.symm hlast, hrest]
    · simp [hhere, hne, hparent, htaken, Ne.symm hparent]

theorem foldl_push_eq_walk {taken : List Text} (htaken : parent ∉ taken)
    (components : List Text) :
    (components.foldl (push true) taken).reverse =
      walk taken.reverse (components.filter (!·.isEmpty)) := by
  induction components generalizing taken with
  | nil => rfl
  | cons component components ih =>
    by_cases hne : component = []
    · -- an empty component is not taken
      subst hne
      exact ih htaken
    · obtain ⟨hstep, hnext⟩ := push_eq_step htaken hne
      rw [List.foldl_cons, ih hnext, hstep, List.filter_cons_of_pos (by simpa using hne)]
      rfl

theorem components_eq_walk {path : Text} (h : isAbsolute path = true) :
    components path = walk [] (parts path) := by
  rw [components, h]
  exact foldl_push_eq_walk List.not_mem_nil _

/-! ## Slashes in front -/

theorem leadingSlashes_eq_one_or_two {path : Text} (h : isAbsolute path = true) :
    leadingSlashes path = 1 ∨ leadingSlashes path = 2 := by
  cases path with
  | nil => exact absurd h (by decide)
  | cons c rest =>
    obtain rfl : c = '/' := by simpa [isAbsolute] using h
    simp only [leadingSlashes, List.takeWhile_cons, beq_self_eq_true, if_true, List.length_cons]
    split <;> omega

theorem leadingSlashes_replicate_append {slashes : Nat} (hslashes : slashes = 1 ∨ slashes = 2)
    {rest : Text} (hrest : isAbsolute rest = false) :
    leadingSlashes (List.replicate slashes '/' ++ rest) = slashes := by
  have hnone : rest.takeWhile (· == '/') = [] := by
    cases rest with
    | nil => rfl
    | cons c rest =>
      have hc : c ≠ '/' := by simpa [isAbsolute] using hrest
      exact List.takeWhile_cons_of_neg (by simpa using hc)
  rw [leadingSlashes, List.takeWhile_append_of_pos (by simp), hnone, List.append_nil,
    List.length_replicate]
  rcases hslashes with rfl | rfl <;> rfl

theorem isAbsolute_replicate_append {slashes : Nat} (hslashes : slashes = 1 ∨ slashes = 2)
    (rest : Text) : isAbsolute (List.replicate slashes '/' ++ rest) = true := by
  rcases hslashes with rfl | rfl <;> simp [isAbsolute, List.replicate_succ]

theorem isAbsolute_append {front : Text} (hne : front ≠ []) (back : Text) :
    isAbsolute (front ++ back) = isAbsolute front := by
  rw [isAbsolute, isAbsolute, List.head?_append_of_ne_nil _ hne]

/-! ## Names after slashes -/

theorem rooted_ne_nil {slashes : Nat} (hslashes : slashes = 1 ∨ slashes = 2)
    (components : List Text) : rooted slashes components ≠ [] := by
  rcases hslashes with rfl | rfl <;> simp [rooted]

/-- Joined names begin with the first one, which does not begin with a slash. -/
theorem isAbsolute_join {names : List Text} (h : ∀ name ∈ names, IsName name) :
    isAbsolute (Text.join ['/'] names) = false := by
  cases names with
  | nil => rfl
  | cons name names =>
    have hname := h name List.mem_cons_self
    have hfront : Text.join ['/'] (name :: names) = name ++ Text.join ['/'] ([] :: names) := by
      rw [Text.append_join_cons, List.append_nil]
    obtain ⟨c, rest, rfl⟩ := List.exists_cons_of_ne_nil hname.ne_nil
    have hc : c ≠ '/' := fun heq => hname.slash_not_mem (heq ▸ List.mem_cons_self)
    rw [hfront]
    simpa [isAbsolute] using hc

theorem join_concat {components : List Text} (hne : components ≠ []) (last : Text) :
    Text.join ['/'] (components ++ [last]) = Text.join ['/'] components ++ '/' :: last := by
  induction components with
  | nil => exact absurd rfl hne
  | cons first components ih =>
    by_cases hcomponents : components = []
    · subst hcomponents
      simp [Text.join, List.intercalate_cons_cons]
    · rw [List.cons_append, Text.join, List.intercalate_cons_of_ne_nil (by simp), ← Text.join,
        ih hcomponents, Text.join, Text.join, List.intercalate_cons_of_ne_nil hcomponents]
      simp only [List.append_assoc]

/-- Names after slashes end with the last one, which does not end with a slash. -/
theorem getLast?_rooted {names : List Text} (hne : names ≠ []) (h : ∀ name ∈ names, IsName name)
    (slashes : Nat) : (rooted slashes names).getLast? ≠ some '/' := by
  obtain ⟨front, last, rfl⟩ := (List.eq_nil_or_concat' names).resolve_left hne
  have hlast := h last (by simp)
  obtain ⟨before, hbefore⟩ : ∃ before, rooted slashes (front ++ [last]) = before ++ last := by
    by_cases hfront : front = []
    · exact ⟨List.replicate slashes '/', by simp [hfront, rooted, Text.join]⟩
    · exact ⟨rooted slashes front ++ ['/'], by simp [rooted, join_concat hfront]⟩
  rw [hbefore, List.getLast?_append_of_ne_nil _ hlast.ne_nil]
  exact fun hslash => hlast.slash_not_mem (List.mem_of_getLast? hslash)

theorem parts_rooted {names : List Text} (h : ∀ name ∈ names, IsName name) (slashes : Nat) :
    parts (rooted slashes names) = names := by
  rw [rooted, parts_replicate_append, parts_join fun name hname => (h name hname).isComponent]

section Rooted

variable {slashes : Nat} (hslashes : slashes = 1 ∨ slashes = 2) {names : List Text}
  (hnames : ∀ name ∈ names, IsName name)
include hslashes hnames

theorem leadingSlashes_rooted : leadingSlashes (rooted slashes names) = slashes :=
  leadingSlashes_replicate_append hslashes (isAbsolute_join hnames)

theorem normal_rooted : Normal (rooted slashes names) := by
  refine ⟨isAbsolute_replicate_append hslashes _, ?_, ?_⟩
  · rw [leadingSlashes_rooted hslashes hnames, parts_rooted hnames]
  · rwa [parts_rooted hnames]

end Rooted

/-! ## Normal forms -/

/-- An absolute path is normalised by walking from the root. -/
theorem normalize_eq_rooted {path : Text} (h : isAbsolute path = true) :
    normalize path = rooted (leadingSlashes path) (walk [] (parts path)) := by
  have hne := rooted_ne_nil (leadingSlashes_eq_one_or_two h) (components path)
  rw [normalize, ← components_eq_walk h]
  exact if_neg fun hempty => hne (List.isEmpty_iff.1 hempty)

theorem normal_normalize {path : Text} (h : isAbsolute path = true) : Normal (normalize path) := by
  rw [normalize_eq_rooted h]
  exact normal_rooted (leadingSlashes_eq_one_or_two h) (isName_walk_parts (by simp) path)

/-- What is in normal form stays as it is. -/
theorem Normal.normalize_eq {path : Text} (h : Normal path) : normalize path = path := by
  rw [normalize_eq_rooted h.absolute, walk_names h.isName, List.nil_append, ← h.eq_rooted]

theorem isAbsolute_under {directory : Text} (h : isAbsolute directory = true) (path : Text) :
    isAbsolute (under directory path) = true := by
  have hne : directory ≠ [] := fun hnil => by simp [hnil, isAbsolute] at h
  unfold under
  split
  · assumption
  · split
    · rwa [isAbsolute_append hne]
    · rwa [List.append_assoc, isAbsolute_append hne]

theorem under_of_isAbsolute {path : Text} (h : isAbsolute path = true) (directory : Text) :
    under directory path = path :=
  if_pos h

/-! ## Directories and what is under them -/

theorem directory_append_slash (front : Text) {last : Text} (hlast : '/' ∉ last) :
    directory (front ++ '/' :: last) =
      if (Text.dropEndWhile (· == '/') front).isEmpty then front ++ ['/']
      else Text.dropEndWhile (· == '/') front := by
  have hclear : ∀ c ∈ last.reverse, (c != '/') = true := fun c hc => by
    have hne : c ≠ '/' := fun heq => hlast (heq ▸ List.mem_reverse.1 hc)
    simpa using hne
  have hhead : ((front ++ '/' :: last).reverse.dropWhile (· != '/')).reverse = front ++ ['/'] := by
    rw [List.reverse_append, List.reverse_cons, List.append_assoc,
      List.dropWhile_append_of_pos hclear]
    simp
  have hstrip : Text.dropEndWhile (· == '/') (front ++ ['/']) =
      Text.dropEndWhile (· == '/') front := Text.dropEndWhile_append_of_pos front (by simp)
  rw [directory, hhead, hstrip]

/-- The directory of a path in normal form is the path without its last component. -/
theorem directory_rooted {slashes : Nat} (hslashes : slashes = 1 ∨ slashes = 2)
    {names : List Text} (hnames : ∀ name ∈ names, IsName name) :
    directory (rooted slashes names) = rooted slashes names.dropLast := by
  -- right below the root the directory is the slashes themselves
  have hroot : ∀ last : Text, '/' ∉ last →
      directory (List.replicate slashes '/' ++ last) = List.replicate slashes '/' := by
    intro last h
    obtain ⟨count, rfl⟩ : ∃ count, slashes = count + 1 := ⟨slashes - 1, by omega⟩
    have hnothing : Text.dropEndWhile (· == '/') (List.replicate count '/') = [] :=
      Text.dropEndWhile_append_of_pos [] (by simp)
    rw [List.replicate_succ', List.append_assoc, List.singleton_append,
      directory_append_slash _ h, hnothing]
    rfl
  rcases List.eq_nil_or_concat' names with rfl | ⟨front, last, rfl⟩
  · simpa [rooted, Text.join] using hroot [] List.not_mem_nil
  · have hlast : '/' ∉ last := (hnames last (by simp)).slash_not_mem
    rw [List.dropLast_concat]
    by_cases hfront : front = []
    · simpa [hfront, rooted, Text.join] using hroot last hlast
    · have hnames' : ∀ name ∈ front, IsName name := fun name hname =>
        hnames name (List.mem_append_left _ hname)
      have hsplit : rooted slashes (front ++ [last]) = rooted slashes front ++ '/' :: last := by
        rw [rooted, join_concat hfront, ← List.append_assoc, ← rooted]
      have hkept : Text.dropEndWhile (· == '/') (rooted slashes front) = rooted slashes front :=
        Text.dropEndWhile_eq_self fun c hc => by
          have hne : c ≠ '/' := fun heq => getLast?_rooted hfront hnames' slashes (heq ▸ hc)
          simpa using hne
      rw [hsplit, directory_append_slash _ hlast, hkept]
      exact if_neg fun hempty => rooted_ne_nil hslashes front (List.isEmpty_iff.1 hempty)

/-- Under names after slashes, the components of a relative path follow those names. -/
theorem exists_under_rooted {slashes : Nat} (hslashes : slashes = 1 ∨ slashes = 2)
    {names : List Text} (hnames : ∀ name ∈ names, IsName name) {path : Text}
    (hrelative : isAbsolute path = false) :
    ∃ rest, under (rooted slashes names) path = List.replicate slashes '/' ++ rest ∧
      isAbsolute rest = false ∧ parts rest = names ++ parts path := by
  rw [under, if_neg (by simp [hrelative])]
  by_cases hne : names = []
  · subst hne
    have hlast : (rooted slashes []).getLast? = some '/' := by
      rcases hslashes with rfl | rfl <;> rfl
    refine ⟨path, ?_, hrelative, rfl⟩
    rw [if_pos (by simp [hlast])]
    simp [rooted, Text.join]
  · have hparts : parts (Text.join ['/'] names) = names :=
      parts_join fun name hname => (hnames name hname).isComponent
    have hjoin : Text.join ['/'] names ≠ [] := fun hnil => by
      rw [hnil] at hparts
      exact hne hparts.symm
    refine ⟨Text.join ['/'] names ++ '/' :: path, ?_, ?_, ?_⟩
    · rw [if_neg (by simp [rooted_ne_nil hslashes names, getLast?_rooted hne hnames slashes])]
      simp [rooted]
    · rw [isAbsolute_append hjoin, isAbsolute_join hnames]
    · rw [parts_append_slash, hparts]

/-- A relative path is walked from the directory that it is under. -/
theorem normalize_under_rooted {slashes : Nat} (hslashes : slashes = 1 ∨ slashes = 2)
    {names : List Text} (hnames : ∀ name ∈ names, IsName name) {path : Text}
    (hrelative : isAbsolute path = false) :
    isAbsolute (under (rooted slashes names) path) = true ∧
      normalize (under (rooted slashes names) path) = rooted slashes (walk names (parts path)) := by
  obtain ⟨rest, hunder, hrest, hparts⟩ := exists_under_rooted hslashes hnames hrelative
  have habsolute := isAbsolute_replicate_append hslashes rest
  rw [hunder]
  refine ⟨habsolute, ?_⟩
  rw [normalize_eq_rooted habsolute, leadingSlashes_replicate_append hslashes hrest,
    parts_replicate_append, hparts, walk_append, walk_names hnames, List.nil_append]

end WrapperGen.Path
