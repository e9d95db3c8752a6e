import WrapperGen.Proofs.Wrapper.Marshalling

/-!
# Names inside a wrapper

A wrapper declares its four internal names, a variable for every parameter, and `ok` if an argument
is converted. Its own names always differ from each other, and the internal ones from every
parameter. So nothing clashes as long as the parameters differ from each other and from `ok`
(`Wrapper.declaredNames_distinct`); a parameter is declared as often as a signature lists it.
-/

namespace WrapperGen

/-! ## Declared names -/

namespace Extraction

/-- The variable that says whether a conversion has succeeded. -/
def okName : Text := "ok"

/-- Whether the argument is converted. -/
def isChecked : Extraction → Bool
  | direct _ _ => false
  | checked _ _ _ _ => true

/-- The variables that the statement of an extraction declares. -/
def declared : Extraction → List Text
  | direct target _ => [target]
  | checked target _ _ _ => [target, okName]

/-- The declared variables are what stands on the left side of the statement. -/
theorem text_eq_declared (qualifier : Text) (extraction : Extraction) :
    ∃ value, extraction.text qualifier =
      Text.join ", " extraction.declared ++ " := " ++ value := by
  cases extraction with
  | direct target access => exact ⟨access.text, by simp [text, declared, Text.join]⟩
  | checked target access routine expected =>
    have hjoin : Text.join ", " (declared (checked target access routine expected)) =
        target ++ ", ok" := by
      simp [declared, okName, Text.join, List.intercalate_cons_cons]
    refine ⟨routineName qualifier routine ++ "(" ++ access.text ++ ")\n" ++
      block "if !ok" ("return " ++ qualifier ++ "Undefined, " ++ qualifier ++
        "NewArgumentTypeError(\"" ++ Text.ordinal (access.index + 1) ++ "\", \"" ++ expected ++
        "\", " ++ access.text ++ ".TypeName())"), ?_⟩
    rw [hjoin, text]
    simp only [List.append_assoc]
    rfl

theorem target_ofParam (convention : Convention) (container : Text) (converter : Converter)
    (param : Param) : (ofParam convention container converter param).target = param.name := by
  cases converter <;> rfl

/-- Every parameter is bound once, under its own name. -/
theorem map_target_ofParams {registry : Registry} {convention : Convention} {container : Text}
    {params : List Param} {extractions : List Extraction}
    (h : ofParams registry convention container params = .ok extractions) :
    extractions.map target = params.map Param.name := by
  refine map_eq_of_mapM_eq_ok h fun param extraction hextraction => ?_
  obtain ⟨converter, -, hpure⟩ := bind_eq_ok_iff.1 hextraction
  obtain rfl := pure_eq_ok_iff.1 hpure
  exact target_ofParam convention container converter param

end Extraction

namespace Wrapper

/-- The variable that all converted arguments share, if there are any. -/
def sharedNames (wrapper : Wrapper) : List Text :=
  if wrapper.extractions.any Extraction.isChecked then [Extraction.okName] else []

/-- The identifiers that the wrapper declares; a parameter counts as often as it is listed. -/
def declaredNames (wrapper : Wrapper) : List Text :=
  wrapper.function.internal.toList ++ wrapper.sharedNames ++
    wrapper.extractions.map Extraction.target

theorem okName_mem_sharedNames {wrapper : Wrapper} {extraction : Extraction}
    (hextraction : extraction ∈ wrapper.extractions) (hchecked : extraction.isChecked = true) :
    Extraction.okName ∈ wrapper.sharedNames := by
  rw [sharedNames, if_pos (List.any_eq_true.2 ⟨extraction, hextraction, hchecked⟩)]
  exact List.mem_singleton_self _

end Wrapper

/-! ## Clashes -/

/-- No internal name is `ok`, for none begins with an `o`. -/
theorem InternalNames.okName_not_mem_avoiding (used : List Text) :
    Extraction.okName ∉ (avoiding used).toList := by
  -- the suffix that tells an internal name from the parameters leaves its first letter alone
  intro hmem
  have hhead := List.mem_map_of_mem (f := List.head?) hmem
  rw [map_head?_avoiding] at hhead
  exact absurd hhead (by decide)

namespace Wrapper

variable {wrapper : Wrapper}

/-- The names that a wrapper declares for itself differ from each other. -/
theorem ownNames_nodup {used : List Text}
    (hinternal : wrapper.function.internal = .avoiding used) :
    (wrapper.function.internal.toList ++ wrapper.sharedNames).Nodup := by
  rw [hinternal, sharedNames]
  split
  · refine List.nodup_append.2 ⟨InternalNames.avoiding_nodup used, List.nodup_singleton _, ?_⟩
    rintro name hname _ hok rfl
    obtain rfl := List.mem_singleton.1 hok
    exact InternalNames.okName_not_mem_avoiding used hname
  · rw [List.append_nil]
    exact InternalNames.avoiding_nodup used

/-- Unless a parameter is called like a shared variable, only parameters can clash. -/
theorem declaredNames_nodup_iff {names : List Text}
    (hinternal : wrapper.function.internal = .avoiding names)
    (htargets : wrapper.extractions.map Extraction.target = names)
    (hshared : ∀ name ∈ wrapper.sharedNames, name ∉ names) :
    wrapper.declaredNames.Nodup ↔ names.Nodup := by
  rw [declaredNames, List.nodup_append, htargets]
  refine ⟨fun h => h.2.1, fun h => ⟨ownNames_nodup hinternal, h, ?_⟩⟩
  rintro name hown _ hparam rfl
  rcases List.mem_append.1 hown with hown | hown
  · rw [hinternal] at hown
    exact InternalNames.avoiding_not_mem hown hparam
  · exact hshared name hown hparam

/-- No statement declares a name twice unless a parameter is called like a shared variable. -/
theorem declared_nodup {names : List Text}
    (htargets : wrapper.extractions.map Extraction.target = names)
    (hshared : ∀ name ∈ wrapper.sharedNames, name ∉ names)
    {extraction : Extraction} (hextraction : extraction ∈ wrapper.extractions) :
    extraction.declared.Nodup := by
  cases extraction with
  | direct target access => exact List.nodup_singleton target
  | checked target access routine expected =>
    have htarget : target ∈ names := htargets ▸ List.mem_map_of_mem hextraction
    have hok := hshared _ (okName_mem_sharedNames hextraction rfl)
    rw [Extraction.declared, List.nodup_cons]
    refine ⟨fun hmem => ?_, List.nodup_singleton _⟩
    rw [List.mem_singleton.1 hmem] at htarget
    exact hok htarget

/--
A wrapper binds the parameters under their own names, its own names differ from each other, and the
internal ones differ from every parameter. Unless a parameter is called like the variable that
converted arguments share, all declared names differ if and only if the parameters do, and no
statement declares a name twice.
-/
theorem declaredNames_distinct {registry : Registry} {qualifier : Text} {convention : Convention}
    {signature : Signature} {origin : Text}
    (h : ofFunction registry qualifier convention
      ⟨signature, .avoiding signature.paramNames, origin⟩ = .ok wrapper) :
    wrapper.extractions.map Extraction.target = signature.paramNames ∧
      (wrapper.function.internal.toList ++ wrapper.sharedNames).Nodup ∧
      (∀ name ∈ wrapper.function.internal.toList, name ∉ signature.paramNames) ∧
      ((∀ name ∈ wrapper.sharedNames, name ∉ signature.paramNames) →
        (wrapper.declaredNames.Nodup ↔ signature.paramNames.Nodup) ∧
          ∀ extraction ∈ wrapper.extractions, extraction.declared.Nodup ∧
            ∃ value, extraction.text qualifier =
              Text.join ", " extraction.declared ++ " := " ++ value) := by
  obtain ⟨extractions, hextractions, rfl⟩ := ofFunction_eq_ok_iff.1 h
  have htargets : extractions.map Extraction.target = signature.paramNames :=
    Extraction.map_target_ofParams hextractions
  refine ⟨htargets, ownNames_nodup rfl, fun name hname => InternalNames.avoiding_not_mem hname,
    fun hshared => ⟨declaredNames_nodup_iff rfl htargets hshared, fun extraction hmem => ?_⟩⟩
  exact ⟨declared_nodup htargets hshared hmem, extraction.text_eq_declared qualifier⟩

/-- Parameters may be called like the internal names, which then give way. -/
theorem declaredNames_distinct_shadowing :
    let signature : Signature :=
      ⟨"Sum", [⟨"args", "int", 0⟩, ⟨"err0", "Object", 1⟩, ⟨"err", "int", 2⟩],
        ⟨some ⟨[], "int", 0⟩, true⟩, "Sum(args int, err0 Object, err int) (int, error)"⟩
    Signature.ofText "Sum(args int, err0 Object, err int) (int, error)" = .ok signature ∧
      ∃ wrapper, ofFunction .builtin "ugo." .cursor
          ⟨signature, .avoiding signature.paramNames, "sum.go"⟩ = .ok wrapper ∧
        (∀ name ∈ wrapper.sharedNames, name ∉ signature.paramNames) ∧
        wrapper.declaredNames.Nodup := by
  intro signature
  let wrapper : Wrapper :=
    ⟨.cursor, "ugo.", ⟨signature, .avoiding signature.paramNames, "sum.go"⟩,
      [.checked "args" ⟨.cursor, "args0", 0⟩ "ugo.ToGoInt" "int",
        .direct "err0" ⟨.cursor, "args0", 1⟩,
        .checked "err" ⟨.cursor, "args0", 2⟩ "ugo.ToGoInt" "int"]⟩
  have hwrapper : ofFunction .builtin "ugo." .cursor
      ⟨signature, .avoiding signature.paramNames, "sum.go"⟩ = .ok wrapper := by rfl
  have hshared : ∀ name ∈ wrapper.sharedNames, name ∉ signature.paramNames := by decide
  have hparams : signature.paramNames.Nodup := by decide
  obtain ⟨-, -, -, hdistinct⟩ := declaredNames_distinct hwrapper
  exact ⟨by rfl, wrapper, hwrapper, hshared, (hdistinct hshared).1.2 hparams⟩

/-- A parameter that is listed twice is declared twice. -/
theorem declaredNames_repeated :
    let signature : Signature :=
      ⟨"Sum", [⟨"a", "int", 0⟩, ⟨"a", "int", 1⟩], .none, "Sum(a int, a int)"⟩
    Signature.ofText "Sum(a int, a int)" = .ok signature ∧
      ∃ wrapper, ofFunction .builtin "ugo." .positional
          ⟨signature, .avoiding signature.paramNames, "sum.go"⟩ = .ok wrapper ∧
        ¬ wrapper.declaredNames.Nodup := by
  intro signature
  let wrapper : Wrapper :=
    ⟨.positional, "ugo.", ⟨signature, .avoiding signature.paramNames, "sum.go"⟩,
      [.checked "a" ⟨.positional, "args", 0⟩ "ugo.ToGoInt" "int",
        .checked "a" ⟨.positional, "args", 1⟩ "ugo.ToGoInt" "int"]⟩
  exact ⟨by rfl, wrapper, by rfl, by decide⟩

end Wrapper

end WrapperGen
