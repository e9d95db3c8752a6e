import Mathlib.Data.List.Nodup
import WrapperGen.Proofs.Converter

/-!
# Registries side by side

A table in which entries are registered one after the other keeps the last one under each key
(`Table.find?_insertAll`), and a registry answers from such a table, with one more try for the
qualified type. From that follows how far a single registration reaches
(`Registry.lookup_register`).

Several registries can live next to each other. What they could share is made explicit: tables are
kept in numbered cells, a caller has cells of its own, and a registry knows the cell that it writes
to. What a step can do (`Registries.Step`) keeps the registries apart (`Registries.Apart`), so after
any history a registry has in its cell what it began with and the registrations that were its own
(`Registries.Apart.table?_performAll`).
-/

namespace WrapperGen

namespace Table

variable {α : Type}

/-- The table with entries inserted in order. -/
def insertAll (table : Table α) (entries : List (Text × α)) : Table α :=
  entries.foldl (fun current (key, value) => insert key value current) table

theorem insertAll_nil (table : Table α) : table.insertAll [] = table := rfl

theorem insertAll_append (table : Table α) (first second : List (Text × α)) :
    table.insertAll (first ++ second) = (table.insertAll first).insertAll second :=
  List.foldl_append

/-- The entry last inserted under a key counts, and before the first one what was there. -/
theorem find?_insertAll (table : Table α) (entries : List (Text × α)) (key : Text) :
    find? (table.insertAll entries) key = (entries.reverse.lookup key).or (find? table key) := by
  -- from the end, where the entry that counts stands
  induction entries using List.reverseRecOn with
  | nil => rfl
  | append_singleton earlier last ih =>
    obtain ⟨other, value⟩ := last
    have hlast : table.insertAll (earlier ++ [(other, value)]) =
        insert other value (table.insertAll earlier) :=
      insertAll_append table earlier [(other, value)]
    rw [hlast, find?_insert, List.reverse_append, List.reverse_singleton, List.singleton_append,
      List.lookup_cons]
    by_cases h : other = key
    · simp [h]
    · have hbeq : (key == other) = false := beq_eq_false_iff_ne.2 (Ne.symm h)
      simp [h, hbeq, ih]

end Table

namespace Registry

/-- The own entry of a type comes first, and for both keys the one that was registered last. -/
theorem lookup_insertAll (registry : Registry) (entries : List (Text × Converter)) (type : Text) :
    Registry.lookup (Table.insertAll registry entries) type =
      (entries.reverse.lookup type).or ((Table.find? registry type).or
        ((entries.reverse.lookup (Runtime.qualifier ++ type)).or
          (Table.find? registry (Runtime.qualifier ++ type)))) := by
  rw [lookup_eq_or, Table.find?_insertAll, Table.find?_insertAll, Option.or_assoc]

/-- A registration reaches its type, and the type it qualifies as long as that has no own entry. -/
theorem lookup_register (registry : Registry) (key : Text) (converter : Converter) (type : Text) :
    (registry.register key converter).lookup type =
      if key = type ∨ (key = Runtime.qualifier ++ type ∧ Table.find? registry type = none)
      then some converter else registry.lookup type := by
  rw [lookup_eq_or, lookup_eq_or, register, Table.find?_insert, Table.find?_insert]
  by_cases hown : key = type
  · rw [if_pos hown, if_pos (Or.inl hown), Option.some_or]
  · rw [if_neg hown]
    cases Table.find? registry type with
    | some entry => simp [hown]
    | none => by_cases hqualified : key = Runtime.qualifier ++ type <;> simp [hown, hqualified]

end Registry

/-- The name of a type among names for scripts. -/
def typeNameIn (names : Table Text) (type : Text) : Text :=
  ((Table.find? names type) <|> Table.find? names (Runtime.qualifier ++ type)).getD type

theorem scriptTypeName_eq (type : Text) : scriptTypeName type = typeNameIn scriptTypeNames type :=
  rfl

/-! ## Registries that could share tables -/

/-- What a registry has of its own: the cell of its table, and the names of types for scripts. -/
structure RegistryCell where
  cell : Nat
  typeNames : Table Text
  deriving DecidableEq

/-- The tables that there are, cell by cell, and the registries in the order of their creation. -/
structure Registries where
  tables : List Registry
  owners : List RegistryCell
  deriving DecidableEq

/-- One step in the life of registries. -/
inductive RegistryRequest where
  /-- A caller makes a table. -/
  | provide (table : Registry)
  /-- A registry is created from the table in a cell, or as every run begins with it. -/
  | create (source : Option Nat)
  /-- A converter is registered in a registry. -/
  | register (number : Nat) (type : Text) (converter : Converter)

/-- What a step registers in a registry. -/
def RegistryRequest.registrations (number : Nat) : RegistryRequest → List (Text × Converter)
  | .register other type converter => if other = number then [(type, converter)] else []
  | _ => []

namespace Registries

/-- No tables and no registries. -/
def empty : Registries := ⟨[], []⟩

/-- The table that a registry is created from. -/
def source? (state : Registries) : Option Nat → Option Registry
  | none => some .builtin
  | some cell => state.tables[cell]?

/-- The registries after a step, which does nothing if it names what is not there. -/
def perform (state : Registries) : RegistryRequest → Registries
  | .provide table => { state with tables := state.tables ++ [table] }
  | .create source =>
    match state.source? source with
    | some table =>
      { tables := state.tables ++ [table]
        owners := state.owners ++ [⟨state.tables.length, scriptTypeNames⟩] }
    | none => state
  | .register number type converter =>
    match state.owners[number]? with
    | some owner =>
      { state with tables := state.tables.modify owner.cell (Registry.register type converter) }
    | none => state

/-- The registries after steps in order. -/
def performAll (state : Registries) (requests : List RegistryRequest) : Registries :=
  requests.foldl perform state

/-- The table that a registry answers from. -/
def table? (state : Registries) (number : Nat) : Option Registry :=
  state.owners[number]?.bind fun owner => state.tables[owner.cell]?

/-- What a registry says a type is called by scripts. -/
def typeName? (state : Registries) (number : Nat) (type : Text) : Option Text :=
  state.owners[number]?.map fun owner => typeNameIn owner.typeNames type

theorem performAll_append (state : Registries) (first second : List RegistryRequest) :
    state.performAll (first ++ second) = (state.performAll first).performAll second :=
  List.foldl_append

theorem table?_eq_some_iff {state : Registries} {number : Nat} {registry : Registry} :
    state.table? number = some registry ↔
      ∃ owner, state.owners[number]? = some owner ∧ state.tables[owner.cell]? = some registry :=
  Option.bind_eq_some_iff

/-! ## One step -/

/-- What a step can do: add a cell and at most one registry for it, write to a cell, or nothing. -/
inductive Step (state : Registries) : RegistryRequest → Registries → Prop
  | added {request : RegistryRequest} (table : Registry) (owner? : Option RegistryCell)
      (hcell : ∀ owner ∈ owner?, owner.cell = state.tables.length)
      (hnone : ∀ number, request.registrations number = []) :
      Step state request ⟨state.tables ++ [table], state.owners ++ owner?.toList⟩
  | written {number : Nat} {type : Text} {converter : Converter} {owner : RegistryCell}
      (howner : state.owners[number]? = some owner) :
      Step state (.register number type converter)
        { state with tables := state.tables.modify owner.cell (Registry.register type converter) }
  | ignored {request : RegistryRequest}
      (hnone : ∀ number < state.owners.length, request.registrations number = []) :
      Step state request state

theorem step_perform (state : Registries) (request : RegistryRequest) :
    Step state request (state.perform request) := by
  cases request with
  | provide table =>
    simpa only [perform, Option.toList_none, List.append_nil] using
      Step.added table none (by simp) fun _ => rfl
  | create source =>
    cases hsource : state.source? source with
    | none =>
      simp only [perform, hsource]
      exact .ignored fun _ _ => rfl
    | some table =>
      simp only [perform, hsource]
      exact .added table (some ⟨state.tables.length, scriptTypeNames⟩) (by simp) fun _ => rfl
  | register number type converter =>
    cases howner : state.owners[number]? with
    | none =>
      simp only [perform, howner]
      refine .ignored fun other hlt => if_neg fun heq => ?_
      exact absurd hlt (Nat.not_lt.2 (heq ▸ List.getElem?_eq_none_iff.1 howner))
    | some owner =>
      simp only [perform, howner]
      exact .written howner

/-- Every registry writes to a cell of its own. -/
structure Apart (state : Registries) : Prop where
  cell_lt : ∀ owner ∈ state.owners, owner.cell < state.tables.length
  distinct : (state.owners.map (·.cell)).Nodup

theorem apart_empty : empty.Apart where
  cell_lt := by simp [empty]
  distinct := by simp [empty]

/-- Registries that are apart and number differently write to different cells. -/
theorem Apart.eq_of_cell_eq {state : Registries} (h : state.Apart) {i j : Nat}
    {first second : RegistryCell} (hfirst : state.owners[i]? = some first)
    (hsecond : state.owners[j]? = some second) (hcell : first.cell = second.cell) : i = j := by
  obtain ⟨hlt, -⟩ := List.getElem?_eq_some_iff.1 hfirst
  refine (List.getElem?_inj (by simpa using hlt) h.distinct).1 ?_
  rw [List.getElem?_map, List.getElem?_map, hfirst, hsecond, Option.map_some, Option.map_some,
    hcell]

section Step

variable {state next : Registries} {request : RegistryRequest}

theorem Step.apart (hstep : Step state request next) (h : state.Apart) : next.Apart := by
  cases hstep with
  | added table owner? hcell _ =>
    refine ⟨fun owner hmem => ?_, ?_⟩
    · rw [List.length_append, List.length_singleton]
      rcases List.mem_append.1 hmem with hmem | hmem
      · exact Nat.lt_succ_of_lt (h.cell_lt owner hmem)
      · rw [hcell owner (Option.mem_toList.1 hmem)]
        exact Nat.lt_succ_self _
    · cases owner? with
      | none => simpa using h.distinct
      | some new =>
        -- the new cell lies behind all the others
        have hfresh : new.cell ∉ state.owners.map (·.cell) := fun hmem => by
          obtain ⟨owner, howner, heq⟩ := List.mem_map.1 hmem
          have hlt := h.cell_lt owner howner
          rw [heq, hcell new rfl] at hlt
          exact absurd hlt (Nat.lt_irrefl _)
        rw [List.map_append]
        exact List.nodup_append_comm.1 (List.nodup_cons.2 ⟨hfresh, h.distinct⟩)
  | written howner =>
    refine ⟨fun other hmem => ?_, h.distinct⟩
    rw [List.length_modify]
    exact h.cell_lt other hmem
  | ignored _ => exact h

/-- A registry that is there stays where it is. -/
theorem Step.owners (hstep : Step state request next) {number : Nat} {owner : RegistryCell}
    (howner : state.owners[number]? = some owner) : next.owners[number]? = some owner := by
  cases hstep with
  | added table owner? _ _ =>
    obtain ⟨hlt, -⟩ := List.getElem?_eq_some_iff.1 howner
    rwa [List.getElem?_append_left hlt]
  | written _ => exact howner
  | ignored _ => exact howner

/-- A step changes the table of a registry by its own registration, if it is one. -/
theorem Step.table? (hstep : Step state request next) (h : state.Apart) {number : Nat}
    {registry : Registry} (htable : state.table? number = some registry) :
    next.table? number = some (Table.insertAll registry (request.registrations number)) := by
  obtain ⟨owner, howner, hcell⟩ := table?_eq_some_iff.1 htable
  refine table?_eq_some_iff.2 ⟨owner, hstep.owners howner, ?_⟩
  cases hstep with
  | added table owner? _ hnone =>
    obtain ⟨hlt, -⟩ := List.getElem?_eq_some_iff.1 hcell
    rw [hnone, Table.insertAll_nil, List.getElem?_append_left hlt, hcell]
  | @written other type converter writer hwriter =>
    rw [RegistryRequest.registrations]
    by_cases heq : other = number
    · obtain rfl : writer = owner := Option.some.inj (hwriter.symm.trans (heq ▸ howner))
      rw [if_pos heq, List.getElem?_modify_eq, hcell]
      rfl
    · have hcells : writer.cell ≠ owner.cell := fun hcells =>
        heq (h.eq_of_cell_eq hwriter howner hcells)
      rw [if_neg heq, Table.insertAll_nil, List.getElem?_modify_ne _ _ hcells, hcell]
  | ignored hnone =>
    obtain ⟨hlt, -⟩ := List.getElem?_eq_some_iff.1 howner
    rw [hnone number hlt, Table.insertAll_nil, hcell]

end Step

/-! ## Histories -/

theorem Apart.performAll {state : Registries} (h : state.Apart) (requests : List RegistryRequest) :
    (state.performAll requests).Apart := by
  induction requests generalizing state with
  | nil => exact h
  | cons request requests ih => exact ih ((step_perform state request).apart h)

theorem typeName?_performAll {state : Registries} {number : Nat} {owner : RegistryCell}
    (h : state.owners[number]? = some owner) (requests : List RegistryRequest) :
    (state.performAll requests).typeName? number = state.typeName? number := by
  induction requests generalizing state with
  | nil => rfl
  | cons request requests ih =>
    have hnext := (step_perform state request).owners h
    refine (ih hnext).trans ?_
    funext type
    rw [typeName?, typeName?, hnext, h]

/-- A history leaves a registry with what it had and its own registrations. -/
theorem Apart.table?_performAll {state : Registries} (h : state.Apart) {number : Nat}
    {registry : Registry} (htable : state.table? number = some registry)
    (requests : List RegistryRequest) :
    (state.performAll requests).table? number =
      some (Table.insertAll registry (requests.flatMap (·.registrations number))) := by
  induction requests generalizing state registry with
  | nil => exact htable
  | cons request requests ih =>
    rw [List.flatMap_cons, Table.insertAll_append]
    have hstep := step_perform state request
    exact ih (hstep.apart h) (hstep.table? h htable)

/-- A registry comes last, with the table that it is created from. -/
theorem table?_create {state : Registries} {source : Option Nat} {initial : Registry}
    (hsource : state.source? source = some initial) :
    (state.perform (.create source)).owners[state.owners.length]? =
        some ⟨state.tables.length, scriptTypeNames⟩ ∧
      (state.perform (.create source)).table? state.owners.length = some initial := by
  have howner : (state.perform (.create source)).owners[state.owners.length]? =
      some ⟨state.tables.length, scriptTypeNames⟩ := by
    simp only [perform, hsource, List.getElem?_concat_length]
  refine ⟨howner, table?_eq_some_iff.2 ⟨_, howner, ?_⟩⟩
  simp only [perform, hsource, List.getElem?_concat_length]

section Created

variable (before after : List RegistryRequest) (source : Option Nat) {initial : Registry}
  {number : Nat} {state : Registries} {entries : List (Text × Converter)}

/--
**The last registration counts, and only in the registry it was made in.** Whatever has happened to
registries before one of them is created, and whatever happens to all of them afterwards: it finds
for a type the last of its own registrations of the type, else what it began with for the type, else
the same for the qualified type. One more registration changes what it finds for that type, and for
the type that is qualified by it if that has no entry of its own; in another registry it changes
nothing. The names of types for scripts are those of every run.
-/
theorem created_finds_last_registration
    (hsource : (empty.performAll before).source? source = some initial)
    (hnumber : (empty.performAll before).owners.length = number)
    (hstate : empty.performAll (before ++ .create source :: after) = state)
    (hentries : after.flatMap (·.registrations number) = entries) :
    ∃ registry, state.table? number = some registry ∧
      (∀ type, registry.lookup type =
        (entries.reverse.lookup type).or ((Table.find? initial type).or
          ((entries.reverse.lookup (Runtime.qualifier ++ type)).or
            (Table.find? initial (Runtime.qualifier ++ type))))) ∧
      (∀ type, state.typeName? number type = some (scriptTypeName type)) ∧
      ∀ other key converter,
        (state.perform (.register other key converter)).table? number =
            some (if other = number then registry.register key converter else registry) ∧
          ∀ type, (registry.register key converter).lookup type =
            if key = type ∨ (key = Runtime.qualifier ++ type ∧ Table.find? registry type = none)
            then some converter else registry.lookup type := by
  subst hnumber hentries
  have hapart : (empty.performAll before).Apart := apart_empty.performAll before
  obtain ⟨howner, htable⟩ := table?_create hsource
  have hafter : ((empty.performAll before).perform (.create source)).performAll after = state := by
    rw [← hstate, performAll_append]
    rfl
  have hfinal := ((step_perform _ _).apart hapart).table?_performAll htable after
  rw [hafter] at hfinal
  refine ⟨_, hfinal, Registry.lookup_insertAll initial _, fun type => ?_,
    fun other key converter => ⟨?_, Registry.lookup_register _ key converter⟩⟩
  · rw [← hafter, typeName?_performAll howner after, typeName?, howner, Option.map_some,
      scriptTypeName_eq]
  · have hapart' : state.Apart := hstate ▸ apart_empty.performAll _
    rw [(step_perform _ _).table? hapart' hfinal, RegistryRequest.registrations]
    split <;> rfl

end Created

/-- Two registries from one table of a caller, and a third one as every run begins. -/
theorem created_finds_last_registration_shared :
    ∃ registry,
      (empty.performAll [.provide [("T", .routine "a"), ("ugo.U", .routine "b")], .create (some 0),
          .create (some 0), .register 0 "T" (.routine "x"), .register 1 "ugo.U" (.routine "c"),
          .create none, .register 2 "U" (.routine "y")]).table? 1 = some registry ∧
      registry.lookup "T" = some (.routine "a") ∧ registry.lookup "U" = some (.routine "c") ∧
      (registry.register "ugo.T" (.routine "z")).lookup "T" = registry.lookup "T" := by
  obtain ⟨registry, htable, hlookup, -, hregister⟩ := created_finds_last_registration
    [.provide [("T", .routine "a"), ("ugo.U", .routine "b")], .create (some 0)]
    [.register 0 "T" (.routine "x"), .register 1 "ugo.U" (.routine "c"), .create none,
      .register 2 "U" (.routine "y")] (some 0) rfl rfl rfl rfl
  refine ⟨registry, htable, (hlookup "T").trans (by decide), (hlookup "U").trans (by decide),
    ((hregister 1 "ugo.T" (.routine "z")).2 "T").trans (if_neg ?_)⟩
  obtain rfl : registry = Registry.register "ugo.U" (.routine "c")
      [("T", .routine "a"), ("ugo.U", .routine "b")] :=
    Option.some.inj (htable.symm.trans (by decide))
  decide

end Registries

end WrapperGen
