import WrapperGen.Proofs.Wrapper.Marshalling

/-!
# The two conventions

Both wrappers of a function are made of the same converters, found once for both
(`Extraction.ofParams_eq`). So either both can be built or neither can, and what they are made of
differs in nothing but the expressions for the arguments: every statement that binds a parameter is
the same text around them (`Wrapper.ofFunction_counterparts`).
-/

namespace WrapperGen

/-! ## Statements around an argument -/

/--
The statements that bind a parameter through a converter, in pieces: the expression for the argument
goes between neighbours.
-/
def Converter.bindingPieces (converter : Converter) (qualifier : Text) (param : Param)
    (index : Nat) : List Text :=
  match converter with
  | .direct _ => [param.name ++ " := ", []]
  | .routine name =>
    [param.name ++ ", ok := " ++ routineName qualifier name ++ "(",
      ")\nif !ok \x7b\n\treturn " ++ qualifier ++ "Undefined, " ++ qualifier ++
        "NewArgumentTypeError(\"" ++ Text.ordinal (index + 1) ++ "\", \"" ++
        scriptTypeName param.type ++ "\", ",
      ".TypeName())\n\x7d"]

theorem Converter.bindingText_eq_join (converter : Converter) (qualifier : Text) (param : Param)
    (argument : Text) (index : Nat) :
    converter.bindingText qualifier param argument index =
      Text.join argument (converter.bindingPieces qualifier param index) := by
  cases converter with
  | direct description => simp [bindingText, bindingPieces, Text.join, List.intercalate_cons_cons]
  | routine name =>
    simp only [bindingText, bindingPieces, Text.join, List.intercalate_cons_cons,
      List.intercalate_singleton, List.append_assoc]

/-! ## Extractions in both conventions -/

namespace Extraction

/-- Converters are found without regard to how arguments are reached. -/
theorem ofParams_eq (registry : Registry) (convention : Convention) (container : Text)
    (params : List Param) :
    ofParams registry convention container params =
      (params.mapM fun param => registry.resolve param.type).map fun converters =>
        List.zipWith (ofParam convention container) converters params := by
  rw [ofParams]
  induction params with
  | nil => rfl
  | cons param params ih =>
    rw [List.mapM_cons, List.mapM_cons, ih]
    cases registry.resolve param.type with
    | error missing => rfl
    | ok converter =>
      cases params.mapM fun param => registry.resolve param.type with
      | error missing => rfl
      | ok converters => rfl

/-- The statements for a list of parameters, each numbered by its place. -/
theorem getElem?_texts {qualifier container : Text} {convention : Convention}
    {converters : List Converter} {params : List Param} {i : Nat}
    (hconverter : i < converters.length) (hparam : i < params.length)
    (hposition : params[i].position = i) :
    ((List.zipWith (ofParam convention container) converters params).map (text qualifier))[i]? =
      some (Text.join (convention.argumentText container i)
        (converters[i].bindingPieces qualifier params[i] i)) := by
  have hzip : i < (List.zipWith (ofParam convention container) converters params).length := by
    rw [List.length_zipWith]
    omega
  rw [List.getElem?_map, List.getElem?_eq_getElem hzip, List.getElem_zipWith, Option.map_some,
    text_ofParam, hposition, Converter.bindingText_eq_join]

end Extraction

/-! ## Wrappers in both conventions -/

namespace Wrapper

/-- The wrappers wrap the same function in the same way, each for its convention. -/
structure Counterparts (positional cursor : Wrapper) : Prop where
  name : cursor.name = positional.name ++ "Ex"
  source : cursor.source = positional.source
  callee : cursor.callee = positional.callee
  objectType : cursor.objectType = positional.objectType
  paramTypes : cursor.paramTypes = positional.paramTypes
  resultTypes : cursor.resultTypes = positional.resultTypes
  result : cursor.result = positional.result
  error : cursor.error = positional.error
  call : cursor.call = positional.call
  extraction_count : cursor.extractionTexts.length = positional.extractionTexts.length

/-- How a function is wrapped in a convention, as soon as its converters are found. -/
theorem ofFunction_eq (registry : Registry) (qualifier : Text) (convention : Convention)
    (function : Function) :
    ofFunction registry qualifier convention function =
      (function.params.mapM fun param => registry.resolve param.type).map fun converters =>
        ⟨convention, qualifier, function, List.zipWith
          (Extraction.ofParam convention function.internal.args) converters function.params⟩ := by
  rw [ofFunction, Extraction.ofParams_eq]
  cases function.params.mapM fun param => registry.resolve param.type with
  | error missing => rfl
  | ok converters => rfl

/-- Wrappers of one function that take their arguments through the same converters. -/
theorem counterparts_zipWith (qualifier : Text) (function : Function)
    (converters : List Converter) :
    Counterparts
      ⟨.positional, qualifier, function, List.zipWith
        (Extraction.ofParam .positional function.internal.args) converters function.params⟩
      ⟨.cursor, qualifier, function, List.zipWith
        (Extraction.ofParam .cursor function.internal.args) converters function.params⟩ where
  name := rfl
  source := rfl
  callee := rfl
  objectType := rfl
  paramTypes := rfl
  resultTypes := rfl
  result := rfl
  error := rfl
  call := rfl
  extraction_count := by simp [extractionTexts]

/--
For every function that a scanner has declared, either both of its wrappers are refused for the same
type, or both are built. They then are the same but for the name, the type and the guard, and each
parameter is bound by the same text around the expression for its argument.
-/
theorem ofFunction_counterparts (exported extendedOnly : Bool) (package : Option Text)
    (requests : List Request) (function : Function)
    (hfunction :
      function ∈ ((Context.fresh exported extendedOnly package).performAll requests).functions)
    (registry : Registry) (qualifier : Text) :
    (∃ missing, ofFunction registry qualifier .positional function = .error missing ∧
      ofFunction registry qualifier .cursor function = .error missing) ∨
    ∃ positional cursor, ofFunction registry qualifier .positional function = .ok positional ∧
      ofFunction registry qualifier .cursor function = .ok cursor ∧
      positional.Counterparts cursor ∧
      ∀ (i : Nat) (hi : i < function.params.length),
        ∃ converter, registry.lookup function.params[i].type = some converter ∧
          positional.extractionTexts[i]? =
            some (Text.join (function.internal.args ++ "[" ++ Text.decimal i ++ "]")
              (converter.bindingPieces qualifier function.params[i] i)) ∧
          cursor.extractionTexts[i]? =
            some (Text.join (function.internal.args ++ ".Get(" ++ Text.decimal i ++ ")")
              (converter.bindingPieces qualifier function.params[i] i)) := by
  have hwf := (Context.declaredBy_of_mem_functions hfunction).wellFormed
  rw [ofFunction_eq, ofFunction_eq]
  cases hconverters : function.params.mapM fun param => registry.resolve param.type with
  | error missing => exact .inl ⟨missing, rfl, rfl⟩
  | ok converters =>
    have hall := mapM_eq_ok_iff.1 hconverters
    refine .inr ⟨_, _, rfl, rfl, counterparts_zipWith qualifier function converters,
      fun i hi => ?_⟩
    have hi' : i < converters.length := hall.length_eq ▸ hi
    have hlookup : registry.lookup function.params[i].type = some converters[i] :=
      Registry.resolve_eq_ok_iff.1 ((List.forall₂_iff_get.1 hall).2 i hi hi')
    -- both statements are told by the position of the parameter, which is its place
    exact ⟨converters[i], hlookup, Extraction.getElem?_texts hi' hi (hwf.position i hi),
      Extraction.getElem?_texts hi' hi (hwf.position i hi)⟩

/-- A parameter may have the name of the container, need no conversion, or a later one. -/
theorem ofFunction_counterparts_shadowing :
    let requests : List Request :=
      [.direct "db.go" (.declaring "Put(args Object, at Time) error"),
        .direct "db.go" (.declaring "Put(args Object, at Time) (error)"),
        .direct "db.go" (.converting "Time ugo.ToTime")]
    let context := (Context.fresh false false none).performAll requests
    ∃ function ∈ context.functions, ∃ positional cursor,
      ofFunction context.registry [] .positional function = .ok positional ∧
      ofFunction context.registry [] .cursor function = .ok cursor ∧
      positional.Counterparts cursor ∧
      positional.extractionTexts[0]? = some "args := args0[0]".toList ∧
      cursor.extractionTexts[0]? = some "args := args0.Get(0)".toList := by
  intro requests context
  let function : Function := .ofSignature (.builtin false) "db.go"
    ⟨"Put", [⟨"args", "Object", 0⟩, ⟨"at", "Time", 1⟩], ⟨none, true⟩,
      "Put(args Object, at Time) (error)"⟩
  have hfunction : function ∈ context.functions := by decide
  have haccepted : (ofFunction context.registry [] .positional function).isOk = true := by
    decide +kernel
  refine ⟨function, hfunction, ?_⟩
  rcases ofFunction_counterparts false false none requests function hfunction context.registry []
    with ⟨missing, hrefused, -⟩ | ⟨positional, cursor, hpositional, hcursor, hcounterparts, hbind⟩
  · rw [hrefused] at haccepted
    exact absurd haccepted (by simp [Except.isOk, Except.toBool])
  · obtain ⟨converter, hlookup, hfirst, hfirst'⟩ := hbind 0 (by decide)
    have hdirect : context.registry.lookup function.params[0].type =
        some (.direct "positional extraction") := by decide
    obtain rfl := Option.some.inj (hlookup.symm.trans hdirect)
    refine ⟨positional, cursor, hpositional, hcursor, hcounterparts, ?_, ?_⟩
    · rw [hfirst]
      decide
    · rw [hfirst']
      decide

end Wrapper

end WrapperGen
