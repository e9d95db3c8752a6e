import WrapperGen.Proofs.DeclaredFunction
import WrapperGen.Wrapper

/-!
# Marshalling

A wrapper checks the number of arguments, binds every parameter to the argument at its place, and
passes the parameters on in order. The statements that do this are written out here as Go source
in terms of places in the parameter list (`Wrapper.Marshals`); the wrapper itself is built from
positions that the signature reader assigned. `Wrapper.ofFunction_marshals` shows that the two
agree for every function that a scanner has declared.
-/

namespace WrapperGen

/-! ## The statements of a wrapper -/

/-- The expression for the argument at an index. -/
def Convention.argumentText (convention : Convention) (container : Text) (index : Nat) : Text :=
  match convention with
  | .positional => container ++ "[" ++ Text.decimal index ++ "]"
  | .cursor => container ++ ".Get(" ++ Text.decimal index ++ ")"

/-- The statement that returns unless there are `count` arguments. -/
def Convention.guardText (convention : Convention) (qualifier : Text) (names : InternalNames)
    (count : Nat) : Text :=
  match convention with
  | .positional =>
    "if len(" ++ names.args ++ ") != " ++ Text.decimal count ++ " \x7b\n\treturn " ++ qualifier ++
      "Undefined, " ++ qualifier ++ "ErrWrongNumArguments.NewError(\"want=" ++
      Text.decimal count ++ " got=\" + strconv.Itoa(len(" ++ names.args ++ ")))\n\x7d"
  | .cursor =>
    "if " ++ names.error ++ " := " ++ names.args ++ ".CheckLen(" ++ Text.decimal count ++ "); " ++
      names.error ++ " != nil \x7b\n\treturn " ++ qualifier ++ "Undefined, " ++ names.error ++
      "\n\x7d"

/-- The statements that bind a parameter to the argument at an index through a converter. -/
def Converter.bindingText (converter : Converter) (qualifier : Text) (param : Param)
    (argument : Text) (index : Nat) : Text :=
  match converter with
  | .direct _ => param.name ++ " := " ++ argument
  | .routine name =>
    param.name ++ ", ok := " ++ routineName qualifier name ++ "(" ++ argument ++
      ")\nif !ok \x7b\n\treturn " ++ qualifier ++ "Undefined, " ++ qualifier ++
      "NewArgumentTypeError(\"" ++ Text.ordinal (index + 1) ++ "\", \"" ++
      scriptTypeName param.type ++ "\", " ++ argument ++ ".TypeName())\n\x7d"

/-- The variables that a call assigns: the result if there is a value, the error if there is one. -/
def Returns.assigned (returns : Returns) (names : InternalNames) : List Text :=
  (if returns.value.isSome then [names.result] else []) ++
    if returns.hasError then [names.error] else []

/-- The statements that pass arguments on and assign what comes back. -/
def Returns.callText (returns : Returns) (qualifier : Text) (names : InternalNames)
    (arguments : List Text) : Text :=
  let invocation : Text := names.callee ++ "(" ++ Text.join ", " arguments ++ ")"
  let assignment : Text :=
    match returns.assigned names with
    | [] => invocation
    | targets => Text.join ", " targets ++ " = " ++ invocation
  if returns.value.isSome then assignment
  else assignment ++ "\n" ++ names.result ++ " = " ++ qualifier ++ "Undefined"

/-- The result types, after a space and in parentheses; nothing if there is none. -/
def resultTypesText (types : List Text) : Text :=
  match types with
  | [] => []
  | types => " (" ++ Text.join ", " types ++ ")"

/--
The wrapper marshals its arguments: every part of it is in terms of the places of the parameters,
of the declared types, and of the declared results.
-/
structure Wrapper.Marshals (wrapper : Wrapper) (registry : Registry) (results : List Param) :
    Prop where
  guard : wrapper.guard = wrapper.convention.guardText wrapper.qualifier wrapper.function.internal
    wrapper.function.params.length
  extraction_count : wrapper.extractionTexts.length = wrapper.function.params.length
  extraction : ∀ (i : Nat) (hi : i < wrapper.function.params.length),
    ∃ converter, registry.lookup wrapper.function.params[i].type = some converter ∧
      wrapper.extractionTexts[i]? =
        some (converter.bindingText wrapper.qualifier wrapper.function.params[i]
          (wrapper.convention.argumentText wrapper.function.internal.args i) i)
  call : wrapper.call =
    wrapper.function.signature.returns.callText wrapper.qualifier wrapper.function.internal
      (wrapper.function.params.map Param.name)
  paramTypes : wrapper.paramTypes = Text.join ", " (wrapper.function.params.map Param.type)
  resultTypes : wrapper.resultTypes = resultTypesText (results.map Param.type)

/-! ## Extractions -/

theorem Registry.resolve_eq_ok_iff {registry : Registry} {type : Text} {converter : Converter} :
    registry.resolve type = .ok converter ↔ registry.lookup type = some converter := by
  unfold Registry.resolve
  split
  · next found hfound => simp [hfound]
  · next hnone => simp [hnone]

theorem Extraction.ofParams_eq_ok_iff {registry : Registry} {convention : Convention}
    {container : Text} {params : List Param} {extractions : List Extraction} :
    Extraction.ofParams registry convention container params = .ok extractions ↔
      List.Forall₂ (fun param extraction => ∃ converter,
        registry.lookup param.type = some converter ∧
          ofParam convention container converter param = extraction) params extractions := by
  rw [Extraction.ofParams, mapM_eq_ok_iff]
  simp only [bind_eq_ok_iff, pure_eq_ok_iff, Registry.resolve_eq_ok_iff]

/-- If every type has a converter, every parameter has an extraction. -/
theorem Extraction.exists_ofParams {registry : Registry} (convention : Convention)
    (container : Text) {params : List Param}
    (h : ∀ param ∈ params, (registry.lookup param.type).isSome = true) :
    ∃ extractions, Extraction.ofParams registry convention container params = .ok extractions := by
  refine exists_mapM_eq_ok fun param hparam => ?_
  obtain ⟨converter, hconverter⟩ := Option.isSome_iff_exists.1 (h param hparam)
  rw [Registry.resolve_eq_ok_iff.2 hconverter]
  exact ⟨_, rfl⟩

/-- An extraction is the binding of its parameter to the argument at the parameter's position. -/
theorem Extraction.text_ofParam (qualifier : Text) (convention : Convention) (container : Text)
    (converter : Converter) (param : Param) :
    (ofParam convention container converter param).text qualifier =
      converter.bindingText qualifier param (convention.argumentText container param.position)
        param.position := by
  have haccess : (Access.mk convention container param.position).text =
      convention.argumentText container param.position := by
    cases convention <;> rfl
  cases converter with
  | direct description =>
    simp only [ofParam, Extraction.text, Converter.bindingText, haccess]
  | routine name =>
    simp only [ofParam, Extraction.text, Converter.bindingText, haccess, block, List.append_assoc]
    rfl

/-! ## The other parts -/

namespace Wrapper

/-- A function is wrapped as soon as its parameters can be extracted. -/
theorem ofFunction_eq_ok_iff {registry : Registry} {qualifier : Text} {convention : Convention}
    {function : Function} {wrapper : Wrapper} :
    ofFunction registry qualifier convention function = .ok wrapper ↔
      ∃ extractions, Extraction.ofParams registry convention function.internal.args
        function.params = .ok extractions ∧
          wrapper = ⟨convention, qualifier, function, extractions⟩ := by
  rw [ofFunction, bind_eq_ok_iff]
  simp only [pure_eq_ok_iff]
  exact exists_congr fun _ => and_congr_right fun _ => eq_comm

theorem guard_eq (wrapper : Wrapper) :
    wrapper.guard = wrapper.convention.guardText wrapper.qualifier wrapper.function.internal
      wrapper.function.params.length := by
  unfold guard Convention.guardText
  cases wrapper.convention with
  | positional =>
    simp only [block, undefined, args, List.append_assoc]
    rfl
  | cursor =>
    simp only [block, undefined, args, error, List.append_assoc]
    rfl

theorem call_eq (wrapper : Wrapper) :
    wrapper.call =
      wrapper.function.signature.returns.callText wrapper.qualifier wrapper.function.internal
        (wrapper.function.params.map Param.name) := by
  have hinvocation : wrapper.invocation = wrapper.function.internal.callee ++ "(" ++
      Text.join ", " (wrapper.function.params.map Param.name) ++ ")" := rfl
  rw [call, hinvocation]
  cases hreturns : wrapper.function.signature.returns with
  | mk value hasError =>
    cases value <;> cases hasError <;>
      simp [Returns.callText, Returns.assigned, result, error, undefined, Text.join,
        List.intercalate_cons_cons]

theorem resultTypes_eq {wrapper : Wrapper} {results : List Param}
    (h : Results results wrapper.function.signature.returns)
    (htypes : ∀ param ∈ results, IsType param.type) :
    wrapper.resultTypes = resultTypesText (results.map Param.type) := by
  unfold resultTypes Returns.typeList resultTypesText
  rw [h.types]
  cases results with
  | nil => rfl
  | cons first others =>
    -- the first type is not empty, so neither is the joined text that decides the parentheses
    have hfirst : first.type ≠ [] := (htypes first List.mem_cons_self).ne_nil
    have hjoin : Text.join ", " ((first :: others).map Param.type) ≠ [] := by
      cases others with
      | nil => simpa [Text.join] using hfirst
      | cons second others => simp [Text.join, List.intercalate_cons_cons, hfirst]
    have htexts : (Text.join ", " ((first :: others).map Param.type)).isEmpty = false := by
      rwa [List.isEmpty_eq_false_iff]
    simp only [htexts]
    rfl

end Wrapper

/-! ## Wrappers -/

/-- What was declared for a function of a session. -/
theorem Function.DeclaredBy.signatureText {exported : Bool} {function : Function}
    (h : function.DeclaredBy exported) :
    ∃ name results, SignatureText function.signature.source name function.params results ∧
      Results results function.signature.returns := by
  obtain ⟨payload, origin, signature, hread, rfl⟩ := h
  obtain ⟨hsource, results, hgrammar, hreturns⟩ := Signature.ofText_eq_ok_iff.1 hread
  refine ⟨signature.name, results, ?_, hreturns⟩
  rw [← hsource] at hgrammar
  exact hgrammar

theorem SignatureText.isType_result {text name : Text} {params results : List Param}
    (h : SignatureText text name params results) : ∀ param ∈ results, IsType param.type := by
  cases h with
  | intro _ _ _ _ _ hresults => exact hresults.listed.2

/--
Every function that a scanner has declared, in any session, is wrapped in either convention as
soon as all its parameter types have converters; and the wrapper marshals its arguments by the
parameters and the results that the source of the function declares.
-/
theorem Wrapper.ofFunction_marshals (exported extendedOnly : Bool) (package : Option Text)
    (requests : List Request) (function : Function)
    (hfunction : function ∈
      ((Context.fresh exported extendedOnly package).performAll requests).functions)
    (registry : Registry)
    (hresolves : ∀ param ∈ function.params, (registry.lookup param.type).isSome = true)
    (qualifier : Text) (convention : Convention) :
    ∃ wrapper name results,
      Wrapper.ofFunction registry qualifier convention function = .ok wrapper ∧
      wrapper.function = function ∧ wrapper.qualifier = qualifier ∧
      wrapper.convention = convention ∧
      SignatureText function.signature.source name function.params results ∧
      Results results function.signature.returns ∧ wrapper.Marshals registry results := by
  have hdeclared := Context.declaredBy_of_mem_functions hfunction
  obtain ⟨name, results, hgrammar, hreturns⟩ := hdeclared.signatureText
  obtain ⟨extractions, hextractions⟩ :=
    Extraction.exists_ofParams convention function.internal.args hresolves
  refine ⟨⟨convention, qualifier, function, extractions⟩, name, results, ?_, rfl, rfl, rfl,
    hgrammar, hreturns, ?_⟩
  · rw [Wrapper.ofFunction, hextractions]
    rfl
  · have hall := Extraction.ofParams_eq_ok_iff.1 hextractions
    refine ⟨Wrapper.guard_eq _, ?_, ?_, Wrapper.call_eq _, rfl,
      Wrapper.resultTypes_eq hreturns hgrammar.isType_result⟩
    · rw [Wrapper.extractionTexts, List.length_map]
      exact hall.length_eq.symm
    · intro i hi
      have hi' : i < extractions.length := hall.length_eq ▸ hi
      obtain ⟨converter, hlookup, hextraction⟩ := (List.forall₂_iff_get.1 hall).2 i hi hi'
      refine ⟨converter, hlookup, ?_⟩
      -- the reader numbers parameters by their places, so the extraction takes argument `i`
      have hposition : function.params[i].position = i := hdeclared.wellFormed.position i hi
      rw [Wrapper.extractionTexts, List.getElem?_map, List.getElem?_eq_getElem hi',
        Option.map_some]
      rw [List.get_eq_getElem, List.get_eq_getElem] at hextraction
      rw [← hextraction, Extraction.text_ofParam, hposition]

/-- A parameter may have the name of the container, and a type that is converted later on. -/
theorem Wrapper.ofFunction_marshals_shadowing :
    let requests : List Request :=
      [.direct "db.go" (.declaring "Find(args string, at Time) (int, error)"),
        .direct "db.go" (.converting "Time ugo.ToTime")]
    let context := (Context.fresh false false none).performAll requests
    ∃ function ∈ context.functions,
      (∀ param ∈ function.params, (context.registry.lookup param.type).isSome = true) ∧
      ∃ wrapper name results,
        Wrapper.ofFunction context.registry "ugo." .cursor function = .ok wrapper ∧
        wrapper.function = function ∧ wrapper.qualifier = "ugo.".toList ∧
        wrapper.convention = .cursor ∧
        SignatureText function.signature.source name function.params results ∧
        Results results function.signature.returns ∧
        wrapper.Marshals context.registry results := by
  intro requests context
  let function : Function := .ofSignature (.builtin false) "db.go"
    ⟨"Find", [⟨"args", "string", 0⟩, ⟨"at", "Time", 1⟩], ⟨some ⟨[], "int", 0⟩, true⟩,
      "Find(args string, at Time) (int, error)"⟩
  have hfunction : function ∈ context.functions := by decide
  have hresolves : ∀ param ∈ function.params,
      (context.registry.lookup param.type).isSome = true := by decide
  exact ⟨function, hfunction, hresolves,
    Wrapper.ofFunction_marshals false false none requests function hfunction context.registry
      hresolves "ugo." .cursor⟩

end WrapperGen
