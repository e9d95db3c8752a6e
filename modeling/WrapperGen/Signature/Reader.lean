import WrapperGen.Signature
import WrapperGen.Signature.Section
import WrapperGen.Text.Blank
import WrapperGen.Text.Quoted

/-!
# Reading signatures

A signature is written `Name(a int, b string) (ret int, err error)`: a name, a parameter list in
parentheses, and possibly a result list in parentheses. Nothing else may stand between or after
the lists. Every fault quotes the text it was found in.
-/

namespace WrapperGen

/-- Why a text is not the signature of any function. -/
inductive SignatureFault where
  /-- There is no name followed by a parameter list. -/
  | noParameterList (source : Text)
  /-- A list cannot be delimited. -/
  | list (fault : SectionFault)
  /-- An entry does not have the parts that an entry has. -/
  | badEntry (entry source : Text)
  /-- An entry stands for any number of arguments. -/
  | variadicEntry (entry source : Text)
  /-- The second of two results is no error. -/
  | secondResultNotError (source : Text)
  /-- There are three or more results. -/
  | tooManyResults (source : Text)
  /-- Something stands between the lists or after them. -/
  | extraText (source : Text)
  deriving DecidableEq, Repr

namespace SignatureFault

/-- What is said about a text with the fault. -/
def message : SignatureFault → Text
  | noParameterList source =>
    "could not extract function name and parameters from " ++ Text.quoted source
  | list .emptyDelimiter => "empty separator"
  | list (.unbalanced text) => "unbalanced parenthesis in " ++ Text.quoted text
  | badEntry entry source =>
    "could not extract function parameter from " ++ Text.quoted entry ++ " in " ++
      Text.quoted source
  | variadicEntry entry source =>
    "variadic parameter is not supported from " ++ Text.quoted entry ++ " in " ++
      Text.quoted source
  | secondResultNotError source =>
    "only last error is allowed as second return value in " ++ Text.quoted source
  | tooManyResults source => "too many return values in " ++ Text.quoted source
  | extraText source => "extra arguments in " ++ Text.quoted source

/-- The text that the fault was found in. -/
def line : SignatureFault → Text
  | noParameterList source => source
  | list .emptyDelimiter => []
  | list (.unbalanced text) => text
  | badEntry _ source => source
  | variadicEntry _ source => source
  | secondResultNotError source => source
  | tooManyResults source => source
  | extraText source => source

end SignatureFault

/-- What marks a type that stands for any number of arguments. -/
def variadicMark : Text := "..."

/-- The name and the type that an entry is made of. A lone type has no name. -/
def entryParts? (allowUnnamed : Bool) : List Text → Option (Text × Text)
  | [type] => if allowUnnamed then some ([], type) else none
  | [name, type] => some (name, type)
  | _ => none

/-- The entry of a list that the text describes, at its place in the list. -/
def Param.ofText (source : Text) (allowUnnamed : Bool) (position : Nat) (text : Text) :
    Except SignatureFault Param :=
  match entryParts? allowUnnamed (Text.fields text) with
  | none => .error (.badEntry (Text.trim text) source)
  | some (name, type) =>
    if Text.occurs variadicMark type then .error (.variadicEntry (Text.trim text) source)
    else .ok ⟨name, type, position⟩

/-- The entries that the texts describe, from a first position on; the first fault ends it. -/
def Param.ofTexts (source : Text) (allowUnnamed : Bool) :
    Nat → List Text → Except SignatureFault (List Param)
  | _, [] => .ok []
  | position, text :: texts => do
    let param ← Param.ofText source allowUnnamed position text
    let params ← Param.ofTexts source allowUnnamed (position + 1) texts
    return param :: params

/-- The entries of a comma separated list; a list of padding alone is empty. -/
def Param.listOfText (source : Text) (allowUnnamed : Bool) (text : Text) :
    Except SignatureFault (List Param) :=
  let text := Text.trim text
  if text.isEmpty then .ok [] else Param.ofTexts source allowUnnamed 0 (text.splitOn ',')

/-- The results that a list of entries declares. -/
def Returns.ofParams (source : Text) : List Param → Except SignatureFault Returns
  | [] => .ok .none
  | [param] => .ok (if param.isError then ⟨.none, true⟩ else ⟨some param, false⟩)
  | [value, last] =>
    if last.isError then .ok ⟨some value, true⟩ else .error (.secondResultNotError source)
  | _ => .error (.tooManyResults source)

/-- The text cut at its first pair of parentheses. -/
def parenthesised (text : Text) : Except SignatureFault Sectioned :=
  (Sectioned.ofText "(" ")" text).mapError .list

/-- The results declared by what follows the parameter list. -/
def Returns.ofText (source rest : Text) : Except SignatureFault Returns := do
  match ← parenthesised rest with
  | .without rest => if rest.isEmpty then return .none else throw (.extraText source)
  | .around before body after =>
    if !before.isEmpty then throw (.extraText source)
    let returns ← Returns.ofParams source (← Param.listOfText source true body)
    if !(Text.trim after).isEmpty then throw (.extraText source)
    return returns

/-- The signature that a text declares. -/
def Signature.ofText (payload : Text) : Except SignatureFault Signature := do
  let source := Text.trim payload
  match ← parenthesised source with
  | .without _ => throw (.noParameterList source)
  | .around name body rest =>
    if name.isEmpty then throw (.noParameterList source)
    let params ← Param.listOfText source false body
    let returns ← Returns.ofText source rest
    return ⟨name, params, returns, source⟩

end WrapperGen
