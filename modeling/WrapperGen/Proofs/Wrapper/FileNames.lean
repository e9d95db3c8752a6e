import WrapperGen.Proofs.Wrapper.Marshalling
import WrapperGen.Render

/-!
# Names of the wrappers of a file

A file declares cursor wrappers under the names of the functions with a suffix, and positional ones
under the names themselves (`Context.map_name_wrappers`). Functions with different names have
different wrappers within each convention; across the conventions two of them clash where one
function is called like the cursor wrapper of another (`Context.wrapperNames_nodup_iff`).
-/

namespace WrapperGen

theorem cursorName_injective : Function.Injective cursorName :=
  fun _ _ h => List.append_cancel_right h

/-- The name that a convention gives the wrapper of the function with a name. -/
def Convention.wrapperName : Convention → Text → Text
  | .positional, name => name
  | .cursor, name => cursorName name

namespace Wrapper

theorem name_eq (wrapper : Wrapper) :
    wrapper.name = wrapper.convention.wrapperName wrapper.function.name := by
  rw [name, Convention.wrapperName.eq_def]
  cases wrapper.convention <;> rfl

theorem name_of_ofFunction {registry : Registry} {qualifier : Text} {convention : Convention}
    {function : Function} {wrapper : Wrapper}
    (h : ofFunction registry qualifier convention function = .ok wrapper) :
    wrapper.name = convention.wrapperName function.name := by
  obtain ⟨extractions, -, rfl⟩ := ofFunction_eq_ok_iff.1 h
  exact name_eq _

end Wrapper

namespace Context

variable {context : Context} {wrappers : List Wrapper}

/-- The wrappers of a file have the names of the functions, once for each convention. -/
theorem map_name_wrappers (h : context.wrappers = .ok wrappers) :
    wrappers.map Wrapper.name =
      context.conventions.flatMap fun convention =>
        context.functions.map fun function => convention.wrapperName function.name := by
  obtain ⟨groups, hgroups, hpure⟩ := bind_eq_ok_iff.1 h
  obtain rfl := pure_eq_ok_iff.1 hpure
  have hnames : groups.map (List.map Wrapper.name) =
      context.conventions.map fun convention =>
        context.functions.map fun function => convention.wrapperName function.name :=
    map_eq_of_mapM_eq_ok hgroups fun _ _ hgroup =>
      map_eq_of_mapM_eq_ok hgroup fun _ _ hwrapper => Wrapper.name_of_ofFunction hwrapper
  rw [List.map_flatten, hnames, List.flatMap_def]

/-- Within one convention different functions have different wrappers. -/
theorem wrapperNames_nodup (convention : Convention)
    (hnames : (context.functions.map Function.name).Nodup) :
    (context.functions.map fun function => convention.wrapperName function.name).Nodup := by
  have hmap : (context.functions.map fun function => convention.wrapperName function.name) =
      (context.functions.map Function.name).map convention.wrapperName := by
    rw [List.map_map]
    rfl
  rw [hmap]
  cases convention with
  | positional =>
    have hid : Convention.positional.wrapperName = id := rfl
    rwa [hid, List.map_id]
  | cursor => exact hnames.map cursorName_injective

/--
The wrappers of functions with different names have different names, unless the file has positional
wrappers and one function is called like the cursor wrapper of another.
-/
theorem wrapperNames_nodup_iff (hwrappers : context.wrappers = .ok wrappers)
    (hnames : (context.functions.map Function.name).Nodup) :
    (wrappers.map Wrapper.name).Nodup ↔
      (context.extendedOnly = false → ∀ wrapped ∈ context.functions, ∀ other ∈ context.functions,
        other.name ≠ cursorName wrapped.name) := by
  have hcursor := wrapperNames_nodup .cursor hnames
  have hpositional := wrapperNames_nodup .positional hnames
  rw [map_name_wrappers hwrappers, conventions]
  cases context.extendedOnly with
  | true =>
    rw [if_pos rfl, List.flatMap_singleton]
    simp [hcursor]
  | false =>
    -- each of the two families has no repetition, so only a name in both of them is left
    rw [if_neg (by simp), List.flatMap_cons, List.flatMap_singleton, List.nodup_append]
    constructor
    · rintro ⟨-, -, hdisjoint⟩ - wrapped hwrapped other hother heq
      exact hdisjoint _ (List.mem_map_of_mem hwrapped) _ (List.mem_map_of_mem hother) heq.symm
    · intro hclash
      refine ⟨hcursor, hpositional, ?_⟩
      rintro _ hname _ hname' rfl
      obtain ⟨wrapped, hwrapped, hwrap⟩ := List.mem_map.1 hname
      obtain ⟨other, hother, heq⟩ := List.mem_map.1 hname'
      exact hclash rfl wrapped hwrapped other hother (heq.trans hwrap.symm)

/-- Names that only look alike do not clash: declared ones, and one that is synthesized. -/
theorem wrapperNames_nodup_lookalikes :
    let session : List Request := [.direct "db.go" (.declaring "Open(name string)"),
      .direct "db.go" (.declaring "ExOpen()"), .direct "db.go" (.declaring "func()")]
    let context := (fresh false false none).performAll session
    (context.functions.map Function.name).Nodup ∧
      ∃ wrappers, context.wrappers = .ok wrappers ∧ (wrappers.map Wrapper.name).Nodup := by
  intro session context
  have hfacts : (context.functions.map Function.name).Nodup ∧ context.wrappers.isOk = true ∧
      ∀ wrapped ∈ context.functions, ∀ other ∈ context.functions,
        other.name ≠ cursorName wrapped.name := by
    decide +kernel
  obtain ⟨hnames, haccepted, hclash⟩ := hfacts
  obtain ⟨wrappers, hwrappers⟩ := exists_ok_of_isOk haccepted
  exact ⟨hnames, wrappers, hwrappers, (wrapperNames_nodup_iff hwrappers hnames).2 fun _ => hclash⟩

/-- The cursor wrapper of one function has the name of the positional wrapper of another. -/
theorem wrapperNames_clash :
    let session : List Request := [.scan "db.go" (.ofText
    "package db\n//ugo:callable Open(name string)\n//ugo:callable OpenEx(name string, mode int)\n")]
    let context := (fresh false false none).performAll session
    (context.functions.map Function.name).Nodup ∧
      ∃ wrappers, context.wrappers = .ok wrappers ∧ ¬ (wrappers.map Wrapper.name).Nodup := by
  intro session context
  have hfacts : (context.functions.map Function.name).Nodup ∧ context.wrappers.isOk = true ∧
      ¬ (context.conventions.flatMap fun convention =>
        context.functions.map fun function => convention.wrapperName function.name).Nodup := by
    decide +kernel
  obtain ⟨hnames, haccepted, hclash⟩ := hfacts
  obtain ⟨wrappers, hwrappers⟩ := exists_ok_of_isOk haccepted
  exact ⟨hnames, wrappers, hwrappers, by rwa [map_name_wrappers hwrappers]⟩

end Context

end WrapperGen
