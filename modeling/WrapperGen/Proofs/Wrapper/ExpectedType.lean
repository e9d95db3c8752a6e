import WrapperGen.Proofs.Literal.Verbatim
import WrapperGen.Proofs.Wrapper.Marshalling

/-!
# The type that a wrapper expects

Where a routine fails to convert an argument, the wrapper reports the type that it expected: the
name of the parameter's type for scripts, put between double quotes as it is. That makes a literal
of the name only if no character of it needs an escape. The names of the table are such names, and a
type that is known to scripts as itself is one unless it holds a double quote or a backslash
(`Wrapper.expected_type_read_iff`).
-/

namespace WrapperGen

/-! ## Names of types -/

/-- A token for a type is known to scripts under a name without specials if it holds none itself. -/
theorem IsToken.plain_scriptTypeName_iff {type : Text} (h : IsToken type) :
    (∀ c ∈ scriptTypeName type, Literal.Plain c) ↔ '"' ∉ type ∧ '\\' ∉ type := by
  have hfeed : '\n' ∉ type := fun hmem => absurd (h.blank_free '\n' hmem) (by decide)
  have hkeys : ∀ entry ∈ scriptTypeNames, '"' ∉ entry.1 ∧ '\\' ∉ entry.1 := by decide
  have hnames : ∀ entry ∈ scriptTypeNames,
      '"' ∉ entry.2 ∧ '\\' ∉ entry.2 ∧ '\n' ∉ entry.2 := by decide
  rw [Literal.forall_plain_iff]
  rcases scriptTypeName_cases type with heq | ⟨entry, hentry, hkey, heq⟩
  · simp only [heq, hfeed, not_false_eq_true, and_true]
  · -- a type of the table is written without quotes and backslashes, as is its name for scripts
    rw [heq]
    refine iff_of_true (hnames entry hentry) ?_
    obtain ⟨hquote, hbackslash⟩ := hkeys entry hentry
    rcases hkey with hkey | hkey <;> rw [hkey] at hquote hbackslash
    · exact ⟨hquote, hbackslash⟩
    · exact ⟨fun hmem => hquote (List.mem_append_right _ hmem),
        fun hmem => hbackslash (List.mem_append_right _ hmem)⟩

/-! ## Reports -/

/-- What stands for the expected type in the report of a failed conversion. -/
def Param.expectedLiteral (param : Param) : Text := '"' :: (scriptTypeName param.type ++ ['"'])

/--
The call that makes the report of a failed conversion. It tells which argument could not be
converted, and the types that were expected and found.
-/
def Param.reportText (param : Param) (qualifier argument : Text) (index : Nat) : Text :=
  qualifier ++ "NewArgumentTypeError(" ++
    Text.join ", " ["\"" ++ Text.ordinal (index + 1) ++ "\"", param.expectedLiteral,
      argument ++ ".TypeName()"] ++ ")"

/-- The statements that bind a parameter through a routine, or report that the routine failed. -/
def Param.checkedText (param : Param) (qualifier routine argument : Text) (index : Nat) : Text :=
  param.name ++ ", ok := " ++ routineName qualifier routine ++ "(" ++ argument ++
    ")\nif !ok \x7b\n\treturn " ++ qualifier ++ "Undefined, " ++
    param.reportText qualifier argument index ++ "\n\x7d"

theorem Converter.bindingText_routine (qualifier routine argument : Text) (param : Param)
    (index : Nat) :
    (Converter.routine routine).bindingText qualifier param argument index =
      param.checkedText qualifier routine argument index := by
  simp only [bindingText, Param.checkedText, Param.reportText, Param.expectedLiteral, Text.join,
    List.intercalate_cons_cons, List.intercalate_singleton, List.append_assoc, List.cons_append]
  rfl

namespace Wrapper

/--
A parameter of a function that a scanner has declared, whose converter is a routine, is bound by
statements that report the expected type if the routine fails. The type is reported as a literal of
its name for scripts exactly if the type is written without double quotes and backslashes.
-/
theorem expected_type_read_iff (exported extendedOnly : Bool) (package : Option Text)
    (requests : List Request) (function : Function)
    (hfunction : function ∈
      ((Context.fresh exported extendedOnly package).performAll requests).functions)
    (registry : Registry) (qualifier : Text) (convention : Convention) {i : Nat} {param : Param}
    (hparam : function.params[i]? = some param) {routine : Text}
    (hroutine : registry.lookup param.type = some (.routine routine)) :
    let extraction :=
      Extraction.ofParam convention function.internal.args (.routine routine) param
    let argument := convention.argumentText function.internal.args i
    Extraction.ofParams registry convention function.internal.args [param] = .ok [extraction] ∧
    extraction.text qualifier = param.checkedText qualifier routine argument i ∧
    (∀ wrapper, ofFunction registry qualifier convention function = .ok wrapper →
      wrapper.extractionTexts[i]? = some (extraction.text qualifier)) ∧
    (Literal.unquote param.expectedLiteral = .ok (scriptTypeName param.type) ↔
      '"' ∉ param.type ∧ '\\' ∉ param.type) := by
  intro extraction argument
  have hwf := (Context.declaredBy_of_mem_functions hfunction).wellFormed
  obtain ⟨hi, rfl⟩ := List.getElem?_eq_some_iff.1 hparam
  refine ⟨?_, ?_, fun wrapper hwrapper => ?_, ?_⟩
  · exact Extraction.ofParams_eq_ok_iff.2 (.cons ⟨_, hroutine, rfl⟩ .nil)
  · rw [Extraction.text_ofParam, hwf.position i hi, Converter.bindingText_routine]
  · obtain ⟨extractions, hextractions, rfl⟩ := ofFunction_eq_ok_iff.1 hwrapper
    have hall := Extraction.ofParams_eq_ok_iff.1 hextractions
    have hi' : i < extractions.length := hall.length_eq ▸ hi
    obtain ⟨converter, hlookup, hextraction⟩ := (List.forall₂_iff_get.1 hall).2 i hi hi'
    obtain rfl := Option.some.inj (hlookup.symm.trans hroutine)
    rw [extractionTexts, List.getElem?_map, List.getElem?_eq_getElem hi', Option.map_some]
    exact congrArg (fun found => some (found.text qualifier)) hextraction.symm
  · rw [Param.expectedLiteral, Literal.unquote_verbatim_iff]
    exact (hwf.isType _ (List.getElem_mem hi)).toIsToken.plain_scriptTypeName_iff

/-- A type of the table is reported under its name, also if a source converts it by a routine. -/
theorem expected_type_read_iff_time :
    let requests : List Request := [.scan "t.go" (.ofText
      "package p\n//ugo:callable Wait(n int, at *Time)\n//ugo:callable:convert *Time ToTime\n")]
    let context := (Context.fresh false false none).performAll requests
    let param : Param := ⟨"at", "*Time", 1⟩
    ∃ function ∈ context.functions, function.params[1]? = some param ∧
      context.registry.lookup param.type = some (.routine "ToTime") ∧
      param.expectedLiteral = "\"time\"".toList ∧
      Literal.unquote param.expectedLiteral = .ok "time" := by
  intro requests context param
  let function : Function := .ofSignature (.builtin false) "t.go"
    ⟨"Wait", [⟨"n", "int", 0⟩, param], .none, "Wait(n int, at *Time)"⟩
  obtain ⟨hfunction, hroutine⟩ : function ∈ context.functions ∧
      context.registry.lookup param.type = some (.routine "ToTime") := by decide +kernel
  have hread := (expected_type_read_iff false false none requests function hfunction
    context.registry "ugo." .positional (rfl : function.params[1]? = some param) hroutine).2.2.2
  exact ⟨function, hfunction, rfl, hroutine, by decide, hread.2 (by decide)⟩

/--
Types that a source can name and that are not reported as literals of their names: a field with a
tag ends the literal, and an escape of a character in the length of an array is one of the literal.
-/
theorem expected_type_misread :
    let requests : List Request := [.scan "a.go" (.ofText (
      "package p\n//ugo:callable:convert struct\x7bA\"x\"\x7d ToA\n" ++
      "//ugo:callable:convert ['\\\\']int ToB\n" ++
      "//ugo:callable F(a struct\x7bA\"x\"\x7d, b ['\\\\']int)\n"))]
    let context := (Context.fresh false false none).performAll requests
    ∃ function ∈ context.functions, ∃ a b, function.params = [a, b] ∧
      context.registry.lookup a.type = some (.routine "ToA") ∧
      context.registry.lookup b.type = some (.routine "ToB") ∧
      Literal.unquote a.expectedLiteral = .error .malformed ∧
      scriptTypeName b.type = "['\\\\']int".toList ∧
      Literal.unquote b.expectedLiteral = .ok "['\\']int" := by
  intro requests context
  let a : Param := ⟨"a", "struct\x7bA\"x\"\x7d", 0⟩
  let b : Param := ⟨"b", "['\\\\']int", 1⟩
  let function : Function := .ofSignature (.builtin false) "a.go"
    ⟨"F", [a, b], .none, "F(a struct\x7bA\"x\"\x7d, b ['\\\\']int)"⟩
  obtain ⟨hfunction, hregistered⟩ : function ∈ context.functions ∧
      context.registry.lookup a.type = some (.routine "ToA") ∧
      context.registry.lookup b.type = some (.routine "ToB") := by decide +kernel
  exact ⟨function, hfunction, a, b, rfl, hregistered.1, hregistered.2, by decide +kernel⟩

end Wrapper

end WrapperGen
