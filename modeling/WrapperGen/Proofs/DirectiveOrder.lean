import WrapperGen.Proofs.Session
import WrapperGen.Render

/-!
# The order of directives

What a sequence of directives leads to is told by three lists: the imports it asks for, the
conversions it chooses, and the functions it declares (`Context.applyAll_eq_ok_iff`). The first may
come in any order, the second in any order that keeps the conversions of each type in order, and
only the third counts as it is. So a reordering within these bounds changes neither whether the
directives are accepted nor what is rendered (`Context.render_applyAll_reordered`).
-/

namespace WrapperGen

/-! ## Sequences of directives -/

/-- A directive with the label of the source in which it occurs. -/
structure Occurrence where
  origin : Text
  directive : Directive
  deriving DecidableEq, Repr

namespace Occurrence

/-- The imports that directives ask for. -/
def entries (occurrences : List Occurrence) : List Import :=
  occurrences.filterMap (·.directive.requested?)

/-- The conversions that directives choose. -/
def conversions (occurrences : List Occurrence) : List Conversion :=
  occurrences.filterMap (·.directive.conversion?)

/-- The functions that directives declare. -/
def functions (scheme : NameScheme) (occurrences : List Occurrence) : List Function :=
  occurrences.filterMap fun occurrence =>
    occurrence.directive.signature?.map (Function.ofSignature scheme occurrence.origin)

theorem entries_append (first second : List Occurrence) :
    entries (first ++ second) = entries first ++ entries second :=
  List.filterMap_append

theorem conversions_append (first second : List Occurrence) :
    conversions (first ++ second) = conversions first ++ conversions second :=
  List.filterMap_append

theorem functions_append (scheme : NameScheme) (first second : List Occurrence) :
    functions scheme (first ++ second) = functions scheme first ++ functions scheme second :=
  List.filterMap_append

end Occurrence

namespace Context

/-- The context after directives in order, up to the first one that is refused. -/
def applyAll (context : Context) (occurrences : List Occurrence) : Except Failure Context :=
  occurrences.foldlM (fun current occurrence =>
    current.apply occurrence.origin occurrence.directive) context

theorem applyAll_cons (context : Context) (occurrence : Occurrence) (rest : List Occurrence) :
    context.applyAll (occurrence :: rest) =
      context.apply occurrence.origin occurrence.directive >>= (·.applyAll rest) :=
  List.foldlM_cons

theorem applyAll_append (context : Context) (first second : List Occurrence) :
    context.applyAll (first ++ second) = context.applyAll first >>= (·.applyAll second) :=
  List.foldlM_append

/-- The context with other imports, and with all that directives choose and declare. -/
def extended (context : Context) (imports : ImportSet) (occurrences : List Occurrence) : Context :=
  { context with
    imports
    registry := context.registry.registerAll (Occurrence.conversions occurrences)
    functions := context.functions ++ Occurrence.functions context.nameScheme occurrences }

theorem extended_extended (context : Context) (middle final : ImportSet)
    (first second : List Occurrence) :
    (context.extended middle first).extended final second =
      context.extended final (first ++ second) := by
  unfold extended
  rw [Occurrence.conversions_append, Occurrence.functions_append, Registry.registerAll_append,
    ← List.append_assoc]
  rfl

/-- A directive is accepted if it can be read and its import does not conflict. -/
theorem apply_eq_ok_iff {context next : Context} {occurrence : Occurrence} :
    context.apply occurrence.origin occurrence.directive = .ok next ↔
      occurrence.directive.Readable ∧
        ∃ imports, context.imports.addAll (Occurrence.entries [occurrence]) = .ok imports ∧
          next = context.extended imports [occurrence] := by
  obtain ⟨origin, directive⟩ := occurrence
  -- each kind of directive adds to one of the three lists and leaves the other two empty
  cases directive with
  | importing payload =>
    rw [apply_importing_eq_ok_iff, Directive.Readable, ← exists_and_right]
    refine exists_congr fun requested? => and_congr_right fun hread => ?_
    have hentries : Occurrence.entries [⟨origin, .importing payload⟩] = requested?.toList := by
      cases requested? <;> simp [Occurrence.entries, Directive.requested?, hread, Except.toOption]
    have hfunctions :
        Occurrence.functions context.nameScheme [⟨origin, .importing payload⟩] = [] := rfl
    have hextended : ∀ imports : ImportSet,
        context.extended imports [⟨origin, .importing payload⟩] = { context with imports } := by
      intro imports
      rw [extended, hfunctions, List.append_nil]
      rfl
    simp only [hentries, hextended]
  | converting payload =>
    rw [apply_converting_eq_ok_iff, Directive.Readable, ← exists_and_right]
    refine exists_congr fun conversion? => and_congr_right fun hread => ?_
    have hconversions :
        Occurrence.conversions [⟨origin, .converting payload⟩] = conversion?.toList := by
      cases conversion? <;>
        simp [Occurrence.conversions, Directive.conversion?, hread, Except.toOption]
    have hfunctions :
        Occurrence.functions context.nameScheme [⟨origin, .converting payload⟩] = [] := rfl
    have hentries : Occurrence.entries [⟨origin, .converting payload⟩] = [] := rfl
    simp only [hentries, ImportSet.addAll_nil_eq_ok_iff, extended, hconversions, hfunctions,
      List.append_nil, exists_eq_left']
  | declaring payload =>
    rw [apply_declaring_eq_ok_iff, Directive.Readable, ← exists_and_right]
    refine exists_congr fun signature => and_congr_right fun hread => ?_
    have hfunctions : Occurrence.functions context.nameScheme [⟨origin, .declaring payload⟩] =
        [Function.ofSignature context.nameScheme origin signature] := by
      simp [Occurrence.functions, Directive.signature?, hread, Except.toOption]
    have hentries : Occurrence.entries [⟨origin, .declaring payload⟩] = [] := rfl
    simp only [hentries, ImportSet.addAll_nil_eq_ok_iff, extended, hfunctions, exists_eq_left']
    rfl

/-- Directives are accepted in order if all can be read and no two imports conflict. -/
theorem applyAll_eq_ok_iff {context final : Context} {occurrences : List Occurrence} :
    context.applyAll occurrences = .ok final ↔
      (∀ occurrence ∈ occurrences, occurrence.directive.Readable) ∧
        ∃ imports, context.imports.addAll (Occurrence.entries occurrences) = .ok imports ∧
          final = context.extended imports occurrences := by
  induction occurrences generalizing context with
  | nil =>
    have hextended : context.extended context.imports [] = context := by
      rw [extended, show Occurrence.functions context.nameScheme [] = [] from rfl,
        List.append_nil]
      rfl
    have hentries : Occurrence.entries [] = [] := rfl
    simp only [hentries, ImportSet.addAll_nil_eq_ok_iff, exists_eq_left', hextended]
    rw [applyAll, List.foldlM_nil, pure_eq_ok_iff]
    simp [eq_comm]
  | cons occurrence rest ih =>
    have hentries : Occurrence.entries (occurrence :: rest) =
        Occurrence.entries [occurrence] ++ Occurrence.entries rest :=
      Occurrence.entries_append [occurrence] rest
    have hextended : ∀ middle imports,
        (context.extended middle [occurrence]).extended imports rest =
          context.extended imports (occurrence :: rest) := fun middle imports =>
      extended_extended context middle imports [occurrence] rest
    rw [applyAll_cons, hentries, bind_eq_ok_iff, List.forall_mem_cons]
    simp only [apply_eq_ok_iff, ih, ImportSet.addAll_append_eq_ok_iff]
    constructor
    · rintro ⟨next, ⟨hread, middle, hadd, rfl⟩, hrest, imports, haddrest, rfl⟩
      exact ⟨⟨hread, hrest⟩, imports, ⟨middle, hadd, haddrest⟩, hextended middle imports⟩
    · rintro ⟨⟨hread, hrest⟩, imports, ⟨middle, hadd, haddrest⟩, rfl⟩
      exact ⟨_, ⟨hread, middle, hadd, rfl⟩, hrest, imports, haddrest,
        (hextended middle imports).symm⟩

/-! ## Rendering -/

/-- Only which converters types have matters to what is rendered, not how they came about. -/
theorem render_congr_lookup {context : Context} {registry : Registry}
    (h : registry.lookup = context.registry.lookup) :
    ({ context with registry } : Context).render = context.render := by
  have hresolve : registry.resolve = context.registry.resolve := by
    funext type
    rw [Registry.resolve, Registry.resolve, h]
  have hmissing : missingType? registry = missingType? context.registry := by
    funext function
    rw [missingType?, missingType?, h]
  have hvalidate : ({ context with registry } : Context).validate = context.validate := by
    rw [validate, validate, firstMissing?, firstMissing?, hmissing]
  have hwrapper : ({ context with registry } : Context).wrapper = context.wrapper := by
    funext convention function
    rw [wrapper, wrapper, Wrapper.ofFunction, Wrapper.ofFunction, Extraction.ofParams,
      Extraction.ofParams, hresolve]
    rfl
  have hwrappers : ({ context with registry } : Context).wrappers = context.wrappers := by
    rw [wrappers, wrappers, hwrapper]
    rfl
  rw [render, render, hvalidate, hwrappers]
  rfl

end Context

/-! ## Reordering -/

/--
Two sequences of the same directives, in which declarations and conversions of any one type stand
in the same order.
-/
structure Reordered (first second : List Occurrence) : Prop where
  perm : first.Perm second
  declarations : first.filter (·.directive.isDeclaring) = second.filter (·.directive.isDeclaring)
  conversions : ∀ type,
    first.filter (·.directive.converts type) = second.filter (·.directive.converts type)

namespace Reordered

variable {first second : List Occurrence}

theorem symm (h : Reordered first second) : Reordered second first :=
  ⟨h.perm.symm, h.declarations.symm, fun type => (h.conversions type).symm⟩

theorem entries_perm (h : Reordered first second) :
    (Occurrence.entries first).Perm (Occurrence.entries second) :=
  h.perm.filterMap _

theorem functions_eq (h : Reordered first second) (scheme : NameScheme) :
    Occurrence.functions scheme first = Occurrence.functions scheme second := by
  -- what is filtered out declares nothing
  have hfilter : ∀ occurrences : List Occurrence, Occurrence.functions scheme occurrences =
      Occurrence.functions scheme (occurrences.filter (·.directive.isDeclaring)) := by
    intro occurrences
    rw [Occurrence.functions, Occurrence.functions, List.filterMap_filter]
    congr 1
    funext ⟨origin, directive⟩
    cases directive <;> rfl
  rw [hfilter first, hfilter second, h.declarations]

theorem lookup_eq (h : Reordered first second) (registry : Registry) :
    (registry.registerAll (Occurrence.conversions first)).lookup =
      (registry.registerAll (Occurrence.conversions second)).lookup := by
  refine Registry.lookup_registerAll_congr registry fun type => ?_
  -- filtering by type commutes with reading the conversions
  have hfilter : ∀ occurrences : List Occurrence,
      (Occurrence.conversions occurrences).filter (·.type == type) =
        Occurrence.conversions (occurrences.filter (·.directive.converts type)) := by
    intro occurrences
    rw [Occurrence.conversions, Occurrence.conversions, List.filterMap_filter,
      List.filter_filterMap]
    congr 1
    funext occurrence
    rw [Directive.converts]
    cases occurrence.directive.conversion? with
    | none => rfl
    | some conversion => by_cases htype : conversion.type = type <;> simp [htype]
  rw [hfilter first, hfilter second, h.conversions type]

/-- What accepts a sequence accepts its reordering, and renders the same afterwards. -/
theorem exists_applyAll (h : Reordered first second) {context left : Context}
    (hleft : context.applyAll first = .ok left) :
    ∃ right, context.applyAll second = .ok right ∧ right.render = left.render := by
  obtain ⟨hread, imports, hadd, rfl⟩ := Context.applyAll_eq_ok_iff.1 hleft
  have hadd' : context.imports.addAll (Occurrence.entries second) = .ok imports :=
    ImportSet.addAll_perm h.entries_perm hadd
  have hread' : ∀ occurrence ∈ second, occurrence.directive.Readable :=
    fun occurrence hmem => hread occurrence (h.perm.mem_iff.2 hmem)
  refine ⟨context.extended imports second,
    Context.applyAll_eq_ok_iff.2 ⟨hread', imports, hadd', rfl⟩, ?_⟩
  have hright : context.extended imports second =
      { context.extended imports first with
        registry := context.registry.registerAll (Occurrence.conversions second) } := by
    rw [Context.extended, Context.extended, h.functions_eq]
  rw [hright]
  exact Context.render_congr_lookup (h.lookup_eq context.registry).symm

end Reordered

/--
Two sequences of directives that are reorderings of each other are both accepted or both refused by
a scanner. If they are accepted, the outcome of rendering is the same: the same text, or the same
failure.
-/
theorem Context.render_applyAll_reordered {first second : List Occurrence}
    (h : Reordered first second) (context : Context) :
    ((∃ left, context.applyAll first = .ok left) ↔
        ∃ right, context.applyAll second = .ok right) ∧
      ∀ left right, context.applyAll first = .ok left → context.applyAll second = .ok right →
        left.render = right.render := by
  refine ⟨⟨?_, ?_⟩, ?_⟩
  · rintro ⟨left, hleft⟩
    obtain ⟨right, hright, -⟩ := h.exists_applyAll hleft
    exact ⟨right, hright⟩
  · rintro ⟨right, hright⟩
    obtain ⟨left, hleft, -⟩ := h.symm.exists_applyAll hright
    exact ⟨left, hleft⟩
  · intro left right hleft hright
    obtain ⟨other, hother, hrender⟩ := h.exists_applyAll hleft
    rw [hright] at hother
    obtain rfl := Except.ok.inj hother
    exact hrender.symm

/-- A conversion may follow the signature that needs it, and an import may stand anywhere. -/
theorem Context.render_applyAll_moved :
    let find : Occurrence := ⟨"find.go", .declaring "Find(key Key, at Time) (int, error)"⟩
    let drop : Occurrence := ⟨"drop.go", .declaring "func(key Key)"⟩
    let first : Occurrence := ⟨"find.go", .converting " Key ugo.ToKey"⟩
    let last : Occurrence := ⟨"drop.go", .converting " Key db.ToKey"⟩
    let time : Occurrence := ⟨"find.go", .converting " Time ugo.ToTime"⟩
    let db : Occurrence := ⟨"drop.go", .importing " db \"example.com/db\""⟩
    let context := Context.fresh false true (some "main")
    Reordered [find, first, time, drop, last, db] [db, first, last, find, drop, time] ∧
      ∃ left right, context.applyAll [find, first, time, drop, last, db] = .ok left ∧
        context.applyAll [db, first, last, find, drop, time] = .ok right ∧
        left.render = right.render := by
  intro find drop first last time db context
  have hkeys : ∀ type, first.directive.converts type = (("Key" : Text) == type) ∧
      last.directive.converts type = (("Key" : Text) == type) := fun _ => ⟨rfl, rfl⟩
  have htimes : ∀ type, time.directive.converts type = (("Time" : Text) == type) := fun _ => rfl
  have hothers : ∀ type, find.directive.converts type = false ∧
      drop.directive.converts type = false ∧ db.directive.converts type = false :=
    fun _ => ⟨rfl, rfl, rfl⟩
  have h : Reordered [find, first, time, drop, last, db] [db, first, last, find, drop, time] := by
    refine ⟨by decide, by decide, fun type => ?_⟩
    by_cases hkey : ("Key" : Text) = type
    · subst hkey
      decide
    · have hkey' : (("Key" : Text) == type) = false := beq_eq_false_iff_ne.2 hkey
      simp only [List.filter_cons, List.filter_nil, hkeys, htimes, hothers, hkey',
        Bool.false_eq_true, if_false]
  have hmain := render_applyAll_reordered h context
  have haccepts : (context.applyAll [find, first, time, drop, last, db]).isOk = true := by
    decide +kernel
  cases hleft : context.applyAll [find, first, time, drop, last, db] with
  | error failure => simp [hleft, Except.isOk, Except.toBool] at haccepts
  | ok left =>
    obtain ⟨right, hright⟩ := hmain.1.1 ⟨left, hleft⟩
    exact ⟨h, left, right, rfl, hright, hmain.2 left right hleft hright⟩

end WrapperGen
