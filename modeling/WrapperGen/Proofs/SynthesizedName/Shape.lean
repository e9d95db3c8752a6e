import WrapperGen.Proofs.SynthesizedName

/-!
# Shapes of types in synthesized names

Of a type a synthesized name only tells the shape (`TypeShape`): whether it is a pointer, and the
entry of the table that it is found under or, if there is none, its own name written out before an
underscore. So a name is made of the shapes of the types alone (`NameScheme.synthesize_builtin`).
-/

namespace WrapperGen

/-! ## Shapes of types -/

/-- What a type goes by in a synthesized name: an entry of the table of codes, or its own name. -/
inductive TypeBase where
  | known (key : Text)
  | named (name : Text)
  deriving DecidableEq, Repr

/-- All that a synthesized name tells about a type. -/
structure TypeShape where
  pointer : Bool
  base : TypeBase
  deriving DecidableEq, Repr

namespace TypeShape

open NameScheme (dropPointer)

/-- Whether the table of codes has an entry for the type. -/
def isKnown (type : Text) : Bool := (builtinTypeCodes.lookup type).isSome

/-- What is left of a type that has no entry, with or without the runtime's qualifier. -/
def lastBase (type : Text) : TypeBase :=
  match Text.cut? "." type with
  | none => .named (dropPointer type)
  | some (_, last) =>
    if isKnown (dropPointer last) then .known (dropPointer last) else .named (dropPointer last)

/-- The shape of a type. -/
def ofType (type : Text) : TypeShape where
  pointer := type.head? = some '*'
  base :=
    if isKnown type then .known type
    else if isKnown (Runtime.qualifier ++ type) then .known (Runtime.qualifier ++ type)
    else lastBase type

/-- The own name of a type that the table has no entry for. -/
def name? (shape : TypeShape) : Option Text :=
  match shape.base with
  | .known _ => none
  | .named name => some name

end TypeShape

/-- The shape of an entry's type. -/
def Param.shape (param : Param) : TypeShape := .ofType param.type

namespace Signature

/-- The shapes of the parameter types. -/
def paramShapes (signature : Signature) : List TypeShape := signature.params.map Param.shape

/-- The shapes of the result types. -/
def resultShapes (signature : Signature) : List TypeShape :=
  signature.returns.entries.map Param.shape

/-- The shapes of all types of a signature. -/
def shapes (signature : Signature) : List TypeShape :=
  signature.paramShapes ++ signature.resultShapes

variable {signature : Signature}

/-- Every shape of a signature is that of a type. -/
theorem exists_of_mem_shapes {shape : TypeShape} (h : shape ∈ signature.shapes) :
    ∃ type, shape = .ofType type := by
  rcases List.mem_append.1 h with h | h <;>
    obtain ⟨param, -, rfl⟩ := List.mem_map.1 h <;> exact ⟨param.type, rfl⟩

/-- The results are at most one value and then at most one error. -/
theorem resultShapes_eq (signature : Signature) :
    signature.resultShapes = signature.returns.value.toList.map Param.shape ++
      if signature.returns.hasError then [.ofType errorType] else [] := by
  obtain ⟨name, params, ⟨value, hasError⟩, source⟩ := signature
  cases hasError <;> simp [resultShapes, Returns.entries, Param.shape]

end Signature

/-! ## Pieces of a name -/

/-- A piece that names are made of: a short code, or a name that an underscore ends. -/
inductive CodePiece where
  | short (code : Text)
  | long (name : Text)
  deriving DecidableEq

namespace CodePiece

/-- The piece as it is written. -/
def text : CodePiece → Text
  | short code => code
  | long name => name ++ ['_']

@[simp] theorem text_short (code : Text) : (short code).text = code := rfl

@[simp] theorem text_long (name : Text) : (long name).text = name ++ ['_'] := rfl

theorem flatMap_text_short (codes : List Text) :
    (codes.map short).flatMap text = codes.flatten := by
  rw [List.flatMap_map]
  exact List.flatMap_id

end CodePiece

/-- The piece that a base is written as. -/
def TypeBase.piece : TypeBase → CodePiece
  | known key => .short ((builtinTypeCodes.lookup key).getD [])
  | named name => .long name

namespace TypeShape

/-- The mark of a pointer, if there is one. -/
def marks (shape : TypeShape) : List Text := if shape.pointer then ["p"] else []

/-- The pieces that a type is written as. -/
def pieces (shape : TypeShape) : List CodePiece :=
  shape.marks.map CodePiece.short ++ [shape.base.piece]

theorem flatMap_text_pieces (shape : TypeShape) :
    shape.pieces.flatMap CodePiece.text = shape.marks.flatten ++ shape.base.piece.text := by
  rw [pieces, List.flatMap_append, CodePiece.flatMap_text_short, List.flatMap_singleton]

/-- Types of these shapes as they are written one after the other. -/
def write (shapes : List TypeShape) : Text := (shapes.flatMap pieces).flatMap CodePiece.text

theorem write_append (shapes others : List TypeShape) :
    write (shapes ++ others) = write shapes ++ write others := by
  rw [write, List.flatMap_append, List.flatMap_append, write, write]

theorem write_singleton (shape : TypeShape) :
    write [shape] = shape.pieces.flatMap CodePiece.text := by
  rw [write, List.flatMap_singleton]

end TypeShape

namespace NameScheme

variable {exported : Bool} {type code : Text}

/-- No code is empty, so that every entry of the table is found. -/
theorem code?_builtin (type : Text) :
    (builtin exported).code? type = builtinTypeCodes.lookup type := by
  have hall : ∀ entry ∈ builtinTypeCodes, entry.2 ≠ [] := by decide
  change (builtinTypeCodes.lookup type).filter (!·.isEmpty) = _
  cases hlookup : builtinTypeCodes.lookup type with
  | none => rfl
  | some code => simp [Option.filter, hall _ (mem_of_lookup_eq_some hlookup)]

theorem piece_known_of_lookup (h : builtinTypeCodes.lookup type = some code) :
    (TypeBase.known type).piece.text = code := by
  rw [TypeBase.piece, h]
  rfl

theorem baseCode_builtin (type : Text) :
    (builtin exported).baseCode type = (TypeShape.lastBase type).piece.text := by
  unfold baseCode TypeShape.lastBase TypeShape.isKnown
  cases hcut : Text.cut? "." type with
  | none => rfl
  | some parts =>
    simp only [code?_builtin]
    cases hlookup : builtinTypeCodes.lookup (dropPointer parts.2) with
    | none => rfl
    | some code => exact (piece_known_of_lookup hlookup).symm

/-- The code of a type is what the pieces of its shape are written as. -/
theorem typeCode_builtin (type : Text) :
    (builtin exported).typeCode type =
      (TypeShape.ofType type).pieces.flatMap CodePiece.text := by
  have hbase : ((builtin exported).code? type <|>
      (builtin exported).code? (Runtime.qualifier ++ type)).getD
        ((builtin exported).baseCode type) = (TypeShape.ofType type).base.piece.text := by
    rw [code?_builtin, code?_builtin, baseCode_builtin]
    unfold TypeShape.ofType TypeShape.isKnown
    cases hown : builtinTypeCodes.lookup type with
    | some code => exact (piece_known_of_lookup hown).symm
    | none =>
      cases hqualified : builtinTypeCodes.lookup (Runtime.qualifier ++ type) with
      | some code => exact (piece_known_of_lookup hqualified).symm
      | none => rfl
  have hmark : (if type.head? = some '*' then "p" else [] : Text) =
      (TypeShape.ofType type).marks.flatten := by
    simp only [TypeShape.marks, TypeShape.ofType, decide_eq_true_eq]
    split <;> rfl
  rw [typeCode, hbase, hmark, TypeShape.flatMap_text_pieces]

theorem typeCodes_builtin (params : List Param) :
    (builtin exported).typeCodes params = TypeShape.write (params.map Param.shape) := by
  rw [typeCodes, TypeShape.write, List.flatMap_map, List.flatMap_assoc]
  simp only [typeCode_builtin, Param.shape]

/-- A synthesized name holds nothing of the types but their shapes. -/
theorem synthesize_builtin (signature : Signature) :
    (builtin exported).synthesize signature = (builtin exported).namePrefix ++
      (TypeShape.write signature.paramShapes ++ 'R' :: TypeShape.write signature.resultShapes) := by
  rw [synthesize, typeCodes_builtin, typeCodes_builtin]
  simp [Signature.paramShapes, Signature.resultShapes]

end NameScheme

end WrapperGen
