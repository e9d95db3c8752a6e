import WrapperGen.Directive
import WrapperGen.Proofs.SynthesizedName.Shape
import WrapperGen.Proofs.Text.Cut
import WrapperGen.Signature.Reader
import WrapperGen.Text.Word

/-!
# Word characters in synthesized names

Marks and short codes are made of word characters, and own names of types are written out as they
are (`TypeShape.wordOnly_write_iff`). So a synthesized name is made of word characters exactly if
the own names in it are (`NameScheme.wordOnly_apply_iff`). That is so for types that are a name,
with or without a qualifier and a pointer mark, but not for every type that can be converted
(`NameScheme.apply_not_wordOnly`).
-/

namespace WrapperGen

/-! ## Word characters -/

/-- The text is made of word characters. -/
def Text.WordOnly (text : Text) : Prop := ∀ c ∈ text, Text.isWord c = true

instance (text : Text) : Decidable (Text.WordOnly text) :=
  decidable_of_iff (text.all Text.isWord = true) List.all_eq_true

theorem Text.wordOnly_append {first second : Text} :
    Text.WordOnly (first ++ second) ↔ Text.WordOnly first ∧ Text.WordOnly second :=
  List.forall_mem_append

theorem wordOnly_of_lookup {type code : Text} (h : builtinTypeCodes.lookup type = some code) :
    Text.WordOnly code := by
  have hall : ∀ entry ∈ builtinTypeCodes, Text.WordOnly entry.2 := by decide
  exact hall _ (mem_of_lookup_eq_some h)

namespace TypeShape

variable {type own : Text}

/-- A type is written in word characters if its own name, if it has one, is made of them. -/
theorem wordOnly_pieces_iff (shape : TypeShape) :
    Text.WordOnly (shape.pieces.flatMap CodePiece.text) ↔
      ∀ own ∈ shape.name?, Text.WordOnly own := by
  have hmarks : Text.WordOnly shape.marks.flatten := by
    unfold marks
    split <;> decide
  rw [flatMap_text_pieces, Text.wordOnly_append, and_iff_right hmarks, name?]
  cases shape.base with
  | known key =>
    refine iff_of_true ?_ (by simp)
    cases hcode : builtinTypeCodes.lookup key with
    | none =>
      rw [TypeBase.piece, hcode]
      decide
    | some code =>
      rw [NameScheme.piece_known_of_lookup hcode]
      exact wordOnly_of_lookup hcode
  | named own =>
    have hend : Text.WordOnly ['_'] := by decide
    rw [TypeBase.piece, CodePiece.text_long, Text.wordOnly_append, and_iff_left hend]
    simp

/-- Types are written in word characters if all their own names are made of them. -/
theorem wordOnly_write_iff (shapes : List TypeShape) :
    Text.WordOnly (write shapes) ↔
      ∀ shape ∈ shapes, ∀ own ∈ shape.name?, Text.WordOnly own := by
  induction shapes with
  | nil => simp [write, Text.WordOnly]
  | cons shape shapes ih =>
    rw [← List.singleton_append, write_append, Text.wordOnly_append, write_singleton,
      wordOnly_pieces_iff, ih, List.singleton_append, List.forall_mem_cons]

/-- The own name of a type is what is left of it. -/
theorem lastBase_of_mem_name? (h : own ∈ (ofType type).name?) : lastBase type = .named own := by
  unfold name? ofType at h
  grind

end TypeShape

/-! ## Types that are names -/

/-- A type that is a name of word characters, maybe qualified, and maybe behind a pointer mark. -/
inductive NamedType : Text → Prop
  | intro {mark qualifier name : Text} (hmark : mark = [] ∨ mark = ['*'])
      (hqualifier : qualifier = [] ∨ ∃ package, qualifier = package ++ ['.'] ∧ '.' ∉ package)
      (hname : Text.WordOnly name) : NamedType (mark ++ qualifier ++ name)

/-- A name of word characters begins with no pointer mark. -/
theorem dropPointer_of_wordOnly {name : Text} (h : Text.WordOnly name) :
    NameScheme.dropPointer name = name := by
  unfold NameScheme.dropPointer
  split
  · exact absurd (h '*' List.mem_cons_self) (by decide)
  · rfl

/-- The own name of a type that is a name is made of word characters. -/
theorem NamedType.wordOnly {type own : Text} (h : NamedType type)
    (hown : own ∈ (TypeShape.ofType type).name?) : Text.WordOnly own := by
  have hbase := TypeShape.lastBase_of_mem_name? hown
  cases h with
  | @intro mark qualifier name hmark hqualifier hname =>
    have hdot : '.' ∉ mark := by rcases hmark with rfl | rfl <;> decide
    suffices hleft : own = name by rwa [hleft]
    unfold TypeShape.lastBase at hbase
    rcases hqualifier with rfl | ⟨package, rfl, hpackage⟩
    · -- nothing is cut off, and the mark is dropped
      have hname' : '.' ∉ name := fun hmem => absurd (hname '.' hmem) (by decide)
      have hcut : Text.cut? ['.'] (mark ++ [] ++ name) = none :=
        Text.cut?_singleton_eq_none_iff.2 (by simp [hdot, hname'])
      have hdrop : NameScheme.dropPointer (mark ++ [] ++ name) = name := by
        rcases hmark with rfl | rfl
        · exact dropPointer_of_wordOnly hname
        · rfl
      rw [show (".".toList : Text) = ['.'] from rfl, hcut, hdrop] at hbase
      exact (TypeBase.named.inj hbase).symm
    · -- the mark is cut off with the qualifier
      have hcut : Text.cut? ['.'] (mark ++ (package ++ ['.']) ++ name) =
          some (mark ++ package, name) :=
        Text.cut?_singleton_eq_some_iff.2 ⟨by simp, by simp [hdot, hpackage]⟩
      rw [show (".".toList : Text) = ['.'] from rfl, hcut] at hbase
      simp only [dropPointer_of_wordOnly hname] at hbase
      split at hbase
      · exact TypeBase.noConfusion hbase
      · exact (TypeBase.named.inj hbase).symm

/-! ## Synthesized names -/

namespace Signature

/-- The types of the parameters, then those of the results. -/
def types (signature : Signature) : List Text :=
  (signature.params ++ signature.returns.entries).map Param.type

theorem shapes_eq_map_types (signature : Signature) :
    signature.shapes = signature.types.map TypeShape.ofType := by
  rw [shapes, types, paramShapes, resultShapes, ← List.map_append, List.map_map]
  rfl

end Signature

namespace NameScheme

theorem wordOnly_synthesize_iff (exported : Bool) (signature : Signature) :
    Text.WordOnly ((builtin exported).synthesize signature) ↔
      ∀ type ∈ signature.types, ∀ own ∈ (TypeShape.ofType type).name?, Text.WordOnly own := by
  have hstart : Text.WordOnly (builtin exported).namePrefix := by cases exported <;> decide
  have hseparator : Text.WordOnly ['R'] := by decide
  rw [synthesize_builtin, ← List.singleton_append, Text.wordOnly_append, Text.wordOnly_append,
    Text.wordOnly_append, and_iff_right hstart, and_iff_right hseparator,
    TypeShape.wordOnly_write_iff, TypeShape.wordOnly_write_iff, ← List.forall_mem_append]
  change (∀ shape ∈ signature.shapes, _) ↔ _
  rw [signature.shapes_eq_map_types, List.forall_mem_map]

/--
A function without a name is wrapped under a name with the prefix of synthesized names. It is made
of word characters if the own names of the types are, and only then. So it is made of word
characters if all the types are names.
-/
theorem wordOnly_apply_iff (exported : Bool) {signature : Signature}
    (h : signature.name = placeholder) :
    let name := ((builtin exported).apply signature).name
    (if exported then "FuncP" else "funcP" : Text) <+: name ∧
      (Text.WordOnly name ↔
        ∀ type ∈ signature.types, ∀ own ∈ (TypeShape.ofType type).name?, Text.WordOnly own) ∧
      ((∀ type ∈ signature.types, NamedType type) → Text.WordOnly name) := by
  intro name
  have hname : name = (builtin exported).synthesize signature := if_pos h
  rw [hname, wordOnly_synthesize_iff]
  refine ⟨?_, Iff.rfl, fun hnamed type htype own hown => (hnamed type htype).wordOnly hown⟩
  rw [synthesize_builtin]
  exact List.prefix_append _ _

/-- A declaration with a type that is no name but whose own name is made of word characters. -/
theorem wordOnly_apply_iff_qualified :
    ∃ signature, Signature.ofText "func(t *time.Time, m map[string]x.Kind) ([]byte, error)" =
        .ok signature ∧
      signature.name = placeholder ∧
      ((builtin true).apply signature).name = "FuncPpTime_Kind_Rb2e" ∧
      Text.WordOnly ((builtin true).apply signature).name := by
  refine ⟨_, rfl, by decide, by decide +kernel, ?_⟩
  exact (wordOnly_apply_iff true (by decide)).2.1.2 (by decide +kernel)

/-- A convert directive and a function without a name whose parameters it lets be converted, and
which is wrapped under a name with other characters than word characters. -/
def LeavesWords (conversion payload : Text) : Prop :=
  ∃ context signature, Context.applyConversion conversion {} = .ok context ∧
    Signature.ofText payload = .ok signature ∧ signature.name = placeholder ∧
    (∀ param ∈ signature.params, (context.registry.lookup param.type).isSome = true) ∧
    ∀ exported, ¬ Text.WordOnly ((builtin exported).apply signature).name

/-- Brackets, a second pointer mark and what stands behind a dot inside of a type are written out,
and so are the types of results, which nothing has to convert. -/
theorem apply_not_wordOnly :
    LeavesWords "[]string ToStrings" "func(a []string)" ∧
    LeavesWords "**T ToT" "func(a **T)" ∧
    LeavesWords "map[a.B]c ToMap" "func(a map[a.B]c)" ∧
    LeavesWords "" "func() (chan<-int)" := by
  refine ⟨⟨_, _, rfl, rfl, ?_⟩, ⟨_, _, rfl, rfl, ?_⟩, ⟨_, _, rfl, rfl, ?_⟩,
    ⟨_, _, rfl, rfl, ?_⟩⟩ <;> decide +kernel

end NameScheme

end WrapperGen
