import Mathlib.Data.List.Induction
import WrapperGen.Directive
import WrapperGen.Proofs.Outcome

/-!
# Converters

What a table holds after an insertion, and which converter a type has after any number of
conversions: the last one of the type counts (`Registry.find?_registerAll`). What is looked up in a
table that every run begins with stands in it.
-/

namespace WrapperGen

theorem Table.find?_insert {α : Type} (key other : Text) (value : α) (table : Table α) :
    find? (insert key value table) other =
      if key = other then some value else find? table other := by
  induction table with
  | nil =>
    by_cases h : key = other
    · simp [insert, find?, h]
    · have hbeq : (other == key) = false := beq_eq_false_iff_ne.2 (Ne.symm h)
      simp [insert, find?, List.lookup_cons, h, hbeq]
  | cons entry rest ih =>
    obtain ⟨k, v⟩ := entry
    unfold find? at ih ⊢
    rw [insert, List.lookup_cons]
    by_cases hk : k = key
    · subst hk
      rw [if_pos rfl, List.lookup_cons]
      by_cases h : k = other
      · simp [h]
      · have hbeq : (other == k) = false := beq_eq_false_iff_ne.2 (Ne.symm h)
        simp [h, hbeq]
    · rw [if_neg hk, List.lookup_cons]
      by_cases h : other = k
      · have hother : key ≠ other := fun heq => hk (h.symm.trans heq.symm)
        simp [h, h ▸ hother]
      · have hbeq : (other == k) = false := beq_eq_false_iff_ne.2 h
        simp [hbeq, ih]

namespace Registry

/-- The registry after conversions in order. -/
def registerAll (registry : Registry) (conversions : List Conversion) : Registry :=
  conversions.foldl (fun current conversion =>
    current.register conversion.type (.routine conversion.routine)) registry

theorem registerAll_append (registry : Registry) (first second : List Conversion) :
    registry.registerAll (first ++ second) = (registry.registerAll first).registerAll second :=
  List.foldl_append

/-- The last conversion of a type counts. -/
theorem find?_registerAll (registry : Registry) (conversions : List Conversion) (type : Text) :
    Table.find? (registry.registerAll conversions) type =
      match (conversions.filter (·.type == type)).getLast? with
      | some conversion => some (.routine conversion.routine)
      | none => Table.find? registry type := by
  -- from the end, where the conversion that counts stands
  induction conversions using List.reverseRecOn with
  | nil => rfl
  | append_singleton earlier last ih =>
    have hlast : (registry.registerAll (earlier ++ [last])) =
        (registry.registerAll earlier).register last.type (.routine last.routine) :=
      registerAll_append registry earlier [last]
    rw [hlast, register, Table.find?_insert, List.filter_append]
    by_cases h : last.type = type
    · simp [h]
    · simp [h, ih]

/-- Conversions that keep their order within each type lead to the same converters. -/
theorem lookup_registerAll_congr (registry : Registry) {first second : List Conversion}
    (h : ∀ type, first.filter (·.type == type) = second.filter (·.type == type)) :
    (registry.registerAll first).lookup = (registry.registerAll second).lookup := by
  funext type
  simp only [lookup, find?_registerAll, h]

theorem lookup_eq_or (registry : Registry) (type : Text) :
    registry.lookup type =
      (Table.find? registry type).or (Table.find? registry (Runtime.qualifier ++ type)) := by
  rw [lookup, Option.orElse_eq_orElse, Option.orElse_eq_or]

/-- A type has the converter of a type in the registry, its own or another one. -/
theorem exists_find?_of_lookup {registry : Registry} {type : Text} {converter : Converter}
    (h : registry.lookup type = some converter) :
    ∃ key, Table.find? registry key = some converter := by
  rw [lookup_eq_or] at h
  rcases Option.or_eq_some_iff.1 h with h | ⟨-, h⟩
  · exact ⟨_, h⟩
  · exact ⟨_, h⟩

theorem mem_builtinRoutines_of_mem {key routine : Text}
    (h : (key, .routine routine) ∈ builtin) : (key, routine) ∈ builtinRoutines := by
  rcases List.mem_append.1 h with hmem | hmem
  · obtain ⟨⟨type, name⟩, hentry, heq⟩ := List.mem_map.1 hmem
    obtain ⟨rfl, hroutine⟩ := Prod.mk.inj heq
    obtain rfl := Converter.routine.inj hroutine
    exact hentry
  · exact absurd hmem (by simp)

theorem mem_builtinRoutines_of_find? {key routine : Text}
    (h : Table.find? builtin key = some (.routine routine)) : (key, routine) ∈ builtinRoutines :=
  mem_builtinRoutines_of_mem (mem_of_lookup_eq_some h)

end Registry

/-- A type is known to scripts as itself, or under a name that the table has for it. -/
theorem scriptTypeName_cases (type : Text) :
    scriptTypeName type = type ∨
      ∃ entry ∈ scriptTypeNames, (entry.1 = type ∨ entry.1 = Runtime.qualifier ++ type) ∧
        scriptTypeName type = entry.2 := by
  rw [scriptTypeName, Option.orElse_eq_orElse, Option.orElse_eq_or]
  cases hfound : (scriptTypeNames.lookup type).or
      (scriptTypeNames.lookup (Runtime.qualifier ++ type)) with
  | none => exact .inl rfl
  | some name =>
    rcases Option.or_eq_some_iff.1 hfound with hlookup | ⟨-, hlookup⟩
    · exact .inr ⟨_, mem_of_lookup_eq_some hlookup, .inl rfl, rfl⟩
    · exact .inr ⟨_, mem_of_lookup_eq_some hlookup, .inr rfl, rfl⟩

end WrapperGen
