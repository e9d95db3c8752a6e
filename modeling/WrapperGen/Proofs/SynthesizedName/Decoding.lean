import WrapperGen.Proofs.SynthesizedName.CodePieces
import WrapperGen.Signature.Reader

/-!
# What a synthesized name tells

Two signatures take one name if the types in them have the same shapes, and only then as long as
the own names of their types are apart and do not hide the mark between the lists
(`NameScheme.synthesize_eq_iff_shapes`). Where they do, types of other shapes collide
(`NameScheme.synthesize_collides`).
-/

namespace WrapperGen

/-! ## Shapes are read back -/

/-- A base that its piece tells: a name, or an entry of the table whose code marks no pointer. -/
def TypeBase.Told : TypeBase → Prop
  | known key => (builtinTypeCodes.lookup key).isSome ∧ key ≠ "_"
  | named _ => True

namespace TypeBase

variable {base other : TypeBase} {key : Text}

/-- The table gives no code to two types. -/
theorem key_inj {key other code : Text} (h : builtinTypeCodes.lookup key = some code)
    (hother : builtinTypeCodes.lookup other = some code) : key = other := by
  have hall : ∀ entry ∈ builtinTypeCodes, ∀ entry' ∈ builtinTypeCodes,
      entry.2 = entry'.2 → entry.1 = entry'.1 := by decide
  exact hall _ (mem_of_lookup_eq_some h) _ (mem_of_lookup_eq_some hother) rfl

/-- The piece of an entry is its code. -/
theorem exists_piece_known (h : (known key).Told) :
    ∃ code, builtinTypeCodes.lookup key = some code ∧ (known key).piece = .short code := by
  obtain ⟨code, hcode⟩ := Option.isSome_iff_exists.1 h.1
  exact ⟨code, hcode, by rw [piece, hcode]; rfl⟩

theorem piece_inj (hbase : base.Told) (hother : other.Told) (h : base.piece = other.piece) :
    base = other := by
  cases base with
  | named name =>
    cases other with
    | named name' => rw [CodePiece.long.inj h]
    | known key => exact CodePiece.noConfusion h
  | known key =>
    cases other with
    | named name => exact CodePiece.noConfusion h
    | known key' =>
      obtain ⟨code, hcode, hpiece⟩ := exists_piece_known hbase
      obtain ⟨code', hcode', hpiece'⟩ := exists_piece_known hother
      rw [hpiece, hpiece'] at h
      rw [key_inj hcode (CodePiece.short.inj h ▸ hcode')]

/-- No base is taken for the mark of a pointer. -/
theorem piece_ne_mark (h : base.Told) : base.piece ≠ .short "p" := by
  cases base with
  | named name => exact CodePiece.noConfusion
  | known key =>
    obtain ⟨code, hcode, hpiece⟩ := exists_piece_known h
    rw [hpiece]
    rintro ⟨rfl⟩
    exact h.2 (key_inj hcode rfl)

end TypeBase

namespace TypeShape

/-- The entry that a type goes by is one of the table. -/
theorem isSome_lookup_ofType {type key : Text} (h : (ofType type).base = .known key) :
    (builtinTypeCodes.lookup key).isSome = true := by
  unfold ofType lastBase at h
  grind [isKnown]

theorem told_ofType {type : Text} (h : (ofType type).base ≠ .known "_") :
    (ofType type).base.Told := by
  cases hbase : (ofType type).base with
  | named name => trivial
  | known key => exact ⟨isSome_lookup_ofType hbase, fun hkey => h (hkey ▸ hbase)⟩

/-- The first pieces are those of one shape: the mark of a pointer is no base. -/
theorem pieces_append_inj {shape other : TypeShape} {rest rest' : List CodePiece}
    (hshape : shape.base.Told) (hother : other.base.Told)
    (h : shape.pieces ++ rest = other.pieces ++ rest') : shape = other ∧ rest = rest' := by
  obtain ⟨pointer, base⟩ := shape
  obtain ⟨pointer', base'⟩ := other
  cases pointer <;> cases pointer' <;>
    simp only [pieces, marks, Bool.false_eq_true, if_true, if_false, List.map_nil, List.map_cons,
      List.nil_append, List.cons_append, List.cons.injEq] at h
  · obtain rfl := TypeBase.piece_inj hshape hother h.1
    exact ⟨rfl, h.2⟩
  · exact absurd h.1 (TypeBase.piece_ne_mark hshape)
  · exact absurd h.1.symm (TypeBase.piece_ne_mark hother)
  · obtain rfl := TypeBase.piece_inj hshape hother h.2.1
    exact ⟨rfl, h.2.2⟩

/-- Pieces are those of one list of shapes. -/
theorem flatMap_pieces_inj {shapes others : List TypeShape}
    (hshapes : ∀ shape ∈ shapes, shape.base.Told) (hothers : ∀ shape ∈ others, shape.base.Told)
    (h : shapes.flatMap pieces = others.flatMap pieces) : shapes = others := by
  have hne : ∀ shape : TypeShape, shape.pieces ≠ [] := by simp [pieces]
  induction shapes generalizing others with
  | nil =>
    cases others with
    | nil => rfl
    | cons other others => exact absurd (List.append_eq_nil_iff.1 h.symm).1 (hne other)
  | cons shape shapes ih =>
    cases others with
    | nil => exact absurd (List.append_eq_nil_iff.1 h).1 (hne shape)
    | cons other others =>
      obtain ⟨hshape, htold⟩ := List.forall_mem_cons.1 hshapes
      obtain ⟨hother, htold'⟩ := List.forall_mem_cons.1 hothers
      rw [List.flatMap_cons, List.flatMap_cons] at h
      obtain ⟨rfl, hrest⟩ := pieces_append_inj hshape hother h
      rw [ih htold htold' hrest]

theorem isCodeRun_marks (shape : TypeShape) : IsCodeRun shape.marks := by
  unfold marks
  split
  · exact isCodeRun_cons.2 ⟨by decide, isCodeRun_nil⟩
  · exact isCodeRun_nil

/-- A shape that is read back where the own names of types are among these. -/
def Among (names : List Text) (shape : TypeShape) : Prop :=
  shape.base.Told ∧ ∀ name ∈ shape.name?, name ∈ names

theorem Among.base_piece {shape : TypeShape} {names : List Text} (h : shape.Among names) :
    shape.base.piece.Of names := by
  obtain ⟨htold, hname⟩ := h
  unfold name? at hname
  cases hcase : shape.base with
  | named name => exact hname name (by simp [hcase])
  | known key =>
    rw [hcase] at htold
    obtain ⟨code, hcode, hpiece⟩ := TypeBase.exists_piece_known htold
    rw [hpiece]
    exact mem_shortCodes_of_lookup hcode

/-- The pieces of a type are short codes and its own name. -/
theorem Among.of_mem_pieces {shape : TypeShape} {names : List Text} (h : shape.Among names) :
    ∀ piece ∈ shape.pieces, piece.Of names := by
  intro piece hmem
  rcases List.mem_append.1 hmem with hmark | hbase
  · obtain ⟨code, hcode, rfl⟩ := List.mem_map.1 hmark
    exact isCodeRun_marks shape code hcode
  · exact List.mem_singleton.1 hbase ▸ h.base_piece

/-- The pieces of types are short codes and their own names. -/
theorem of_mem_flatMap_pieces {names : List Text} {shapes : List TypeShape}
    (h : ∀ shape ∈ shapes, shape.Among names) :
    ∀ piece ∈ shapes.flatMap pieces, piece.Of names := by
  intro piece hmem
  obtain ⟨shape, hshape, hpiece⟩ := List.mem_flatMap.1 hmem
  exact (h shape hshape).of_mem_pieces piece hpiece

/-- Text is written by one list of shapes where the names in them are apart. -/
theorem write_inj {names : List Text} {shapes others : List TypeShape} (happart : NamesApart names)
    (hshapes : ∀ shape ∈ shapes, shape.Among names) (hothers : ∀ shape ∈ others, shape.Among names)
    (h : write shapes = write others) : shapes = others :=
  flatMap_pieces_inj (fun shape hmem => (hshapes shape hmem).1)
    (fun shape hmem => (hothers shape hmem).1)
    (CodePiece.flatMap_text_inj happart (of_mem_flatMap_pieces hshapes)
      (of_mem_flatMap_pieces hothers) h)

/-- A type keeps the mark between the lists where its own name does. -/
theorem keepsSeparator_write {shape : TypeShape} (h : shape.base.Told)
    (hname : ∀ name ∈ shape.name?, KeepsSeparator name) : KeepsSeparator (write [shape]) := by
  have hamong : shape.Among shape.name?.toList := ⟨h, by simp⟩
  rw [write_singleton, flatMap_text_pieces]
  exact (hamong.base_piece.keepsSeparator (by simpa using hname)).run_append (isCodeRun_marks shape)

end TypeShape

/-! ## What a name tells of two signatures -/

namespace Signature

/-- A signature that is read back where the own names of types are among these: no type goes by the
entry that marks pointers, and no own name of a result holds the mark between the lists behind an
underscore. -/
structure Among (names : List Text) (signature : Signature) : Prop where
  base_ne : ∀ shape ∈ signature.shapes, shape.base ≠ .known "_"
  name_mem : ∀ shape ∈ signature.shapes, ∀ name ∈ shape.name?, name ∈ names
  keepsSeparator : ∀ shape ∈ signature.resultShapes, ∀ name ∈ shape.name?, KeepsSeparator name

variable {names : List Text} {signature : Signature}

/-- Every shape in the signature is one that is read back. -/
theorem Among.shape (h : signature.Among names) {shape : TypeShape}
    (hmem : shape ∈ signature.shapes) : shape.Among names := by
  obtain ⟨type, rfl⟩ := exists_of_mem_shapes hmem
  exact ⟨TypeShape.told_ofType (h.base_ne _ hmem), h.name_mem _ hmem⟩

theorem Among.paramShape (h : signature.Among names) :
    ∀ shape ∈ signature.paramShapes, shape.Among names := fun _ hmem =>
  h.shape (List.mem_append_left _ hmem)

theorem Among.resultShape (h : signature.Among names) :
    ∀ shape ∈ signature.resultShapes, shape.Among names := fun _ hmem =>
  h.shape (List.mem_append_right _ hmem)

/-- The results keep the mark between the lists: of an error, only the code is written. -/
theorem Among.keepsSeparator_write (h : signature.Among names) :
    KeepsSeparator (TypeShape.write signature.resultShapes) := by
  have herror : 'R' ∉ TypeShape.write
      (if signature.returns.hasError then [.ofType errorType] else []) := by
    split <;> decide
  rw [resultShapes_eq, TypeShape.write_append]
  refine .append_of_not_mem ?_ herror
  cases hvalue : signature.returns.value with
  | none => exact .of_not_mem List.not_mem_nil
  | some param =>
    have hmem : param.shape ∈ signature.resultShapes := by simp [resultShapes_eq, hvalue]
    exact TypeShape.keepsSeparator_write (h.resultShape _ hmem).1 (h.keepsSeparator _ hmem)

end Signature

namespace NameScheme

/-- Signatures whose types have the same shapes take one name; and only those do, as long as the own
names of their types do not hide where a code ends. -/
theorem synthesize_eq_iff_shapes (exported : Bool) (first second : Signature) :
    (first.paramShapes = second.paramShapes ∧ first.resultShapes = second.resultShapes →
      (builtin exported).synthesize first = (builtin exported).synthesize second) ∧
    (∀ names, NamesApart names → first.Among names → second.Among names →
      (builtin exported).synthesize first = (builtin exported).synthesize second →
        first.paramShapes = second.paramShapes ∧ first.resultShapes = second.resultShapes) := by
  refine ⟨fun ⟨hparams, hresults⟩ => ?_, fun names happart hfirst hsecond heq => ?_⟩
  · rw [synthesize_builtin, synthesize_builtin, hparams, hresults]
  · rw [synthesize_builtin, synthesize_builtin] at heq
    -- the two lists are separated first, then each is read back
    have hmark : ∀ {signature : Signature}, signature.Among names → ∀ front rest,
        TypeShape.write signature.paramShapes = front ++ 'R' :: rest → '_' ∈ rest :=
      fun h _ _ hsplit =>
        CodePiece.mem_of_flatMap_text (TypeShape.of_mem_flatMap_pieces h.paramShape) hsplit
    obtain ⟨hparams, hresults⟩ := append_separator_inj (hmark hfirst) (hmark hsecond)
      hfirst.keepsSeparator_write hsecond.keepsSeparator_write (List.append_cancel_left heq)
    exact ⟨TypeShape.write_inj happart hfirst.paramShape hsecond.paramShape hparams,
      TypeShape.write_inj happart hfirst.resultShape hsecond.resultShape hresults⟩

/-- Two declarations that differ in qualifiers and in the names of their entries. -/
theorem synthesize_eq_iff_shapes_unqualified :
    ∃ first second : Signature,
      Signature.ofText "func(t time.Time, n *q.int) (k x.Kind, err error)" = .ok first ∧
      Signature.ofText "func(at Time, by *r.int) (Kind, error)" = .ok second ∧
      NamesApart ["Time", "Kind"] ∧ first.Among ["Time", "Kind"] ∧ second.Among ["Time", "Kind"] ∧
      (builtin true).synthesize first = "FuncPTime_piRKind_e" ∧
      (builtin true).synthesize second = "FuncPTime_piRKind_e" ∧
      first.paramShapes = second.paramShapes ∧ first.resultShapes = second.resultShapes := by
  have happart : NamesApart ["Time", "Kind"] := by
    refine namesApart_of_head (by decide) fun name hname c hc => ?_
    rcases List.mem_pair.1 hname with rfl | rfl <;> (cases hc; decide)
  refine ⟨_, _, rfl, rfl, happart, ?first, ?second, by decide +kernel, by decide +kernel,
    (synthesize_eq_iff_shapes true _ _).2 ["Time", "Kind"] happart ?first ?second
      (by decide +kernel)⟩
  case first => exact ⟨by decide +kernel, by decide +kernel, by decide +kernel⟩
  case second => exact ⟨by decide +kernel, by decide +kernel, by decide +kernel⟩

/-- Two declarations of functions without a name that take one name for types that differ. -/
def Collide (payload other : Text) : Prop :=
  ∃ first second, Signature.ofText payload = .ok first ∧ Signature.ofText other = .ok second ∧
    first.name = placeholder ∧ second.name = placeholder ∧
    (∀ exported, (builtin exported).synthesize first = (builtin exported).synthesize second) ∧
    ¬(first.params.map Param.type = second.params.map Param.type ∧
      first.returns.entries.map Param.type = second.returns.entries.map Param.type)

/-- Types that differ collide: under a qualifier that is dropped, with a name behind a code or
beside an underscore, with the entry that marks pointers, and across the mark between the lists. -/
theorem synthesize_collides :
    Collide "func(a Object)" "func(a ugo.Object)" ∧
    Collide "func(a int, b x)" "func(a ix)" ∧
    Collide "func(a x_y)" "func(a x, b y)" ∧
    Collide "func(a _, b int)" "func(a *q.int)" ∧
    Collide "func(a Rx) (y)" "func() (x_Ry)" := by
  refine ⟨⟨_, _, rfl, rfl, ?_⟩, ⟨_, _, rfl, rfl, ?_⟩, ⟨_, _, rfl, rfl, ?_⟩, ⟨_, _, rfl, rfl, ?_⟩,
    ⟨_, _, rfl, rfl, ?_⟩⟩ <;> decide +kernel

end NameScheme

end WrapperGen
