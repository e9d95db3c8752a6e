import Mathlib.Data.List.Basic
import WrapperGen.Proofs.SynthesizedName.Shape

/-!
# Codes without separators

The pieces of a synthesized name are read back from it. A run of short codes is made of one list of
them, because digits stand only at the end of a code (`IsCodeRun.flatten_inj`). Written-out names
end at an underscore, but one of them behind a run can read as another one, so that pieces are only
told where the names are apart (`CodePiece.flatMap_text_inj`). And the mark between the two lists
of a name is found by the underscores around it (`append_separator_inj`).
-/

namespace WrapperGen

/-! ## Runs of short codes -/

/-- The short codes. -/
def shortCodes : List Text := builtinTypeCodes.map Prod.snd

/-- A run of short codes. -/
def IsCodeRun (codes : List Text) : Prop := ∀ code ∈ codes, code ∈ shortCodes

theorem isCodeRun_nil : IsCodeRun [] := fun _ hmem => absurd hmem List.not_mem_nil

theorem isCodeRun_cons {code : Text} {codes : List Text} :
    IsCodeRun (code :: codes) ↔ code ∈ shortCodes ∧ IsCodeRun codes := List.forall_mem_cons

theorem mem_shortCodes_of_lookup {type code : Text}
    (h : builtinTypeCodes.lookup type = some code) : code ∈ shortCodes :=
  List.mem_map_of_mem (mem_of_lookup_eq_some h)

/-- Every short code is a letter and then digits. -/
theorem exists_of_mem_shortCodes {code : Text} (h : code ∈ shortCodes) :
    ∃ letter digits, code = letter :: digits ∧ letter.isDigit = false ∧
      ∀ c ∈ digits, c.isDigit = true := by
  have hall : ∀ code ∈ shortCodes, code.head?.any (!·.isDigit) = true ∧
      code.tail.all Char.isDigit = true := by decide
  obtain ⟨hfirst, hdigits⟩ := hall code h
  cases code with
  | nil => exact absurd hfirst (by simp)
  | cons letter digits =>
    exact ⟨letter, digits, rfl, by simpa using hfirst, List.all_eq_true.1 hdigits⟩

/-- No short code holds the underscore that ends a name, or the mark between the lists. -/
theorem not_mem_of_mem_shortCodes {code : Text} (h : code ∈ shortCodes) :
    '_' ∉ code ∧ 'R' ∉ code := by
  have hall : ∀ code ∈ shortCodes, '_' ∉ code ∧ 'R' ∉ code := by decide
  exact hall code h

theorem IsCodeRun.not_mem_flatten {codes : List Text} (h : IsCodeRun codes) :
    '_' ∉ codes.flatten ∧ 'R' ∉ codes.flatten := by
  simp only [List.mem_flatten, not_exists, not_and]
  exact ⟨fun code hmem => (not_mem_of_mem_shortCodes (h code hmem)).1,
    fun code hmem => (not_mem_of_mem_shortCodes (h code hmem)).2⟩

/-- A run begins with a letter. -/
theorem IsCodeRun.isDigit_head {codes : List Text} (h : IsCodeRun codes) :
    ∀ c ∈ codes.flatten.head?, c.isDigit = false := by
  cases codes with
  | nil => simp
  | cons code codes =>
    obtain ⟨letter, digits, rfl, hletter, -⟩ := exists_of_mem_shortCodes (isCodeRun_cons.1 h).1
    simp [hletter]

/-- Characters of one kind in front of what begins otherwise are all there are in front. -/
theorem takeWhile_append_of_head {p : Char → Bool} {front rest : Text}
    (hfront : ∀ c ∈ front, p c = true) (hrest : ∀ c ∈ rest.head?, p c = false) :
    (front ++ rest).takeWhile p = front := by
  rw [List.takeWhile_append_of_pos hfront]
  cases rest with
  | nil => simp
  | cons c rest => rw [List.takeWhile_cons_of_neg (by simp [hrest c rfl]), List.append_nil]

/-- A run is made of one list of short codes. -/
theorem IsCodeRun.flatten_inj {codes others : List Text} (hcodes : IsCodeRun codes)
    (hothers : IsCodeRun others) (h : codes.flatten = others.flatten) : codes = others := by
  have hne : ∀ code ∈ shortCodes, code ≠ [] := by decide
  induction codes generalizing others with
  | nil =>
    cases others with
    | nil => rfl
    | cons other others =>
      exact absurd (List.append_eq_nil_iff.1 h.symm).1 (hne other (isCodeRun_cons.1 hothers).1)
  | cons code codes ih =>
    cases others with
    | nil => exact absurd (List.append_eq_nil_iff.1 h).1 (hne code (isCodeRun_cons.1 hcodes).1)
    | cons other others =>
      obtain ⟨hcode, hrun⟩ := isCodeRun_cons.1 hcodes
      obtain ⟨hother, hotherRun⟩ := isCodeRun_cons.1 hothers
      obtain ⟨letter, digits, rfl, -, hdigits⟩ := exists_of_mem_shortCodes hcode
      obtain ⟨letter', digits', rfl, -, hdigits'⟩ := exists_of_mem_shortCodes hother
      rw [List.flatten_cons, List.flatten_cons, List.cons_append, List.cons_append] at h
      obtain ⟨rfl, hrest⟩ := List.cons.inj h
      -- both codes end where the digits end
      obtain rfl : digits = digits' := by
        rw [← takeWhile_append_of_head hdigits hrun.isDigit_head, hrest,
          takeWhile_append_of_head hdigits' hotherRun.isDigit_head]
      rw [ih hrun hotherRun (List.append_cancel_left hrest)]

/-! ## Names behind runs -/

/-- No run followed by one of the names and its underscore is the beginning of another one. -/
def NamesApart (names : List Text) : Prop :=
  ∀ name ∈ names, ∀ other ∈ names, ∀ codes others, IsCodeRun codes → IsCodeRun others →
    codes.flatten ++ (name ++ ['_']) <+: others.flatten ++ (other ++ ['_']) →
    codes = others ∧ name = other

/-- A run is all that there is of its characters in front of a name that begins otherwise. -/
theorem IsCodeRun.takeWhile_append {codes : List Text} {name rest : Text} (h : IsCodeRun codes)
    (hname : ∀ c ∈ name.head?, c ∉ shortCodes.flatten) :
    (codes.flatten ++ (name ++ '_' :: rest)).takeWhile (· ∈ shortCodes.flatten) =
      codes.flatten := by
  refine takeWhile_append_of_head (fun c hc => ?_) (fun c hc => ?_)
  · obtain ⟨code, hcode, hmem⟩ := List.mem_flatten.1 hc
    exact decide_eq_true (List.mem_flatten.2 ⟨code, h code hcode, hmem⟩)
  · cases name with
    | nil =>
      obtain rfl : '_' = c := by simpa using hc
      decide
    | cons d name => exact decide_eq_false (hname c hc)

/-- Names without underscores are apart where none begins with a character of a short code. -/
theorem namesApart_of_head {names : List Text} (hclear : ∀ name ∈ names, '_' ∉ name)
    (hhead : ∀ name ∈ names, ∀ c ∈ name.head?, c ∉ shortCodes.flatten) : NamesApart names := by
  intro name hname other hother codes others hcodes hothers ⟨rest, heq⟩
  rw [List.append_assoc, List.append_assoc, List.singleton_append] at heq
  have hrun : codes.flatten = others.flatten := by
    rw [← hcodes.takeWhile_append (hhead name hname), heq,
      hothers.takeWhile_append (hhead other hother)]
  obtain rfl := hcodes.flatten_inj hothers hrun
  have hends := (List.append_cancel_left heq).symm
  exact ⟨rfl,
    ((List.append_cons_inj_of_notMem (hclear other hother) List.not_mem_nil).1 hends).1.symm⟩

/-! ## Names are read back -/

namespace CodePiece

/-- A piece that types with these written-out names are written as. -/
def Of (names : List Text) : CodePiece → Prop
  | short code => code ∈ shortCodes
  | long name => name ∈ names

variable {names : List Text} {pieces others : List CodePiece}

/-- Pieces are a run, or a run up to their first name. -/
theorem exists_run (h : ∀ piece ∈ pieces, piece.Of names) :
    ∃ codes, IsCodeRun codes ∧ (pieces = codes.map short ∨
      ∃ name ∈ names, ∃ rest, pieces = codes.map short ++ long name :: rest) := by
  induction pieces with
  | nil => exact ⟨[], isCodeRun_nil, .inl rfl⟩
  | cons piece pieces ih =>
    obtain ⟨hpiece, hpieces⟩ := List.forall_mem_cons.1 h
    cases piece with
    | long name => exact ⟨[], isCodeRun_nil, .inr ⟨name, hpiece, pieces, rfl⟩⟩
    | short code =>
      obtain ⟨codes, hcodes, rfl | ⟨name, hname, rest, rfl⟩⟩ := ih hpieces
      · exact ⟨code :: codes, isCodeRun_cons.2 ⟨hpiece, hcodes⟩, .inl rfl⟩
      · exact ⟨code :: codes, isCodeRun_cons.2 ⟨hpiece, hcodes⟩, .inr ⟨name, hname, rest, rfl⟩⟩

/-- What a run and then a name is written as. -/
theorem flatMap_text_long (codes : List Text) (name : Text) (rest : List CodePiece) :
    (codes.map short ++ long name :: rest).flatMap text =
      codes.flatten ++ (name ++ ['_']) ++ rest.flatMap text := by
  rw [List.flatMap_append, flatMap_text_short, List.flatMap_cons, List.append_assoc]
  rfl

/-- Text is written by one list of pieces where the names are apart. -/
theorem flatMap_text_inj (happart : NamesApart names) (hpieces : ∀ piece ∈ pieces, piece.Of names)
    (hothers : ∀ piece ∈ others, piece.Of names) (h : pieces.flatMap text = others.flatMap text) :
    pieces = others := by
  induction hlength : pieces.length using Nat.strongRecOn generalizing pieces others with
  | _ n ih =>
    obtain ⟨codes, hcodes, rfl | ⟨name, hname, rest, rfl⟩⟩ := exists_run hpieces <;>
      obtain ⟨codes', hcodes', rfl | ⟨name', hname', rest', rfl⟩⟩ := exists_run hothers
    · rw [flatMap_text_short, flatMap_text_short] at h
      rw [hcodes.flatten_inj hcodes' h]
    · rw [flatMap_text_short, flatMap_text_long] at h
      exact absurd (by simp [h]) hcodes.not_mem_flatten.1
    · rw [flatMap_text_short, flatMap_text_long] at h
      exact absurd (by simp [← h]) hcodes'.not_mem_flatten.1
    · rw [flatMap_text_long, flatMap_text_long] at h
      -- of two beginnings of one text, one begins the other
      obtain ⟨rfl, rfl⟩ : codes = codes' ∧ name = name' := by
        rcases List.prefix_or_prefix_of_prefix (List.prefix_append _ (rest.flatMap text))
          (h ▸ List.prefix_append _ (rest'.flatMap text)) with hstart | hstart
        · exact happart name hname name' hname' codes codes' hcodes hcodes' hstart
        · obtain ⟨rfl, rfl⟩ := happart name' hname' name hname codes' codes hcodes' hcodes hstart
          exact ⟨rfl, rfl⟩
      have hrest : rest = rest' := by
        refine ih rest.length ?_ (fun piece hmem => hpieces piece ?_)
          (fun piece hmem => hothers piece ?_) (List.append_cancel_left h) rfl
        · simp only [← hlength, List.length_append, List.length_cons]
          omega
        · simp [hmem]
        · simp [hmem]
      rw [hrest]

end CodePiece

/-! ## The mark between the lists -/

/-- Behind the mark between the lists, the name that holds it goes on to its underscore. -/
theorem CodePiece.mem_of_flatMap_text {names : List Text} {pieces : List CodePiece}
    (h : ∀ piece ∈ pieces, piece.Of names) {front rest : Text}
    (heq : pieces.flatMap text = front ++ 'R' :: rest) : '_' ∈ rest := by
  induction pieces generalizing front with
  | nil => exact absurd heq (by simp)
  | cons piece pieces ih =>
    obtain ⟨hpiece, hpieces⟩ := List.forall_mem_cons.1 h
    rw [List.flatMap_cons] at heq
    rcases List.append_eq_append_iff.1 heq with
      ⟨front', rfl, htail⟩ | ⟨_ | ⟨c, inner⟩, hsplit, htail⟩
    · exact ih hpieces htail
    · exact @ih hpieces [] htail.symm
    · obtain ⟨rfl, rfl⟩ := List.cons.inj htail
      refine List.mem_append_left _ ?_
      cases piece with
      | short code =>
        rw [text_short] at hsplit
        exact absurd (by simp [hsplit]) (not_mem_of_mem_shortCodes hpiece).2
      | long name =>
        rw [text_long] at hsplit
        rcases List.eq_nil_or_concat inner with rfl | ⟨init, last, rfl⟩
        · exact absurd (List.append_inj_right' hsplit rfl) (by decide)
        · rw [List.concat_eq_append, ← List.cons_append, ← List.append_assoc] at hsplit
          obtain rfl : '_' = last := List.singleton_inj.1 (List.append_inj_right' hsplit rfl)
          simp

/-- No mark between the lists stands behind an underscore of the text. -/
def KeepsSeparator (text : Text) : Prop := text.Pairwise fun c d => ¬(c = '_' ∧ d = 'R')

instance : DecidablePred KeepsSeparator := fun text =>
  inferInstanceAs (Decidable (text.Pairwise fun c d => ¬(c = '_' ∧ d = 'R')))

namespace KeepsSeparator

variable {text : Text} {codes : List Text}

/-- A text that holds no mark between the lists keeps it. -/
theorem of_not_mem (h : 'R' ∉ text) : KeepsSeparator text :=
  List.pairwise_of_forall_mem_list fun _ _ _ hd hcd => h (hcd.2 ▸ hd)

theorem append_of_not_mem {other : Text} (h : KeepsSeparator text) (hother : 'R' ∉ other) :
    KeepsSeparator (text ++ other) :=
  List.pairwise_append.2 ⟨h, of_not_mem hother, fun _ _ _ hd hcd => hother (hcd.2 ▸ hd)⟩

theorem run_append (h : KeepsSeparator text) (hcodes : IsCodeRun codes) :
    KeepsSeparator (codes.flatten ++ text) :=
  List.pairwise_append.2 ⟨of_not_mem hcodes.not_mem_flatten.2, h,
    fun _ hc _ _ hcd => hcodes.not_mem_flatten.1 (hcd.1 ▸ hc)⟩

/-- What is in front of a mark between the lists holds no underscore. -/
theorem not_mem_of_eq {front rest : Text} (h : KeepsSeparator (front ++ 'R' :: rest)) :
    '_' ∉ front := fun hmem =>
  (List.pairwise_append.1 h).2.2 '_' hmem 'R' List.mem_cons_self ⟨rfl, rfl⟩

end KeepsSeparator

theorem CodePiece.Of.keepsSeparator {names : List Text} {piece : CodePiece} (h : piece.Of names)
    (hnames : ∀ name ∈ names, KeepsSeparator name) : KeepsSeparator piece.text := by
  cases piece with
  | short code => exact .of_not_mem (not_mem_of_mem_shortCodes h).2
  | long name => exact (hnames name h).append_of_not_mem (show 'R' ∉ ['_'] by decide)

/-- The first text ends at the mark between the lists, where the second keeps it. -/
theorem append_separator_inj {first second first' second' : Text}
    (hfirst : ∀ front rest, first = front ++ 'R' :: rest → '_' ∈ rest)
    (hfirst' : ∀ front rest, first' = front ++ 'R' :: rest → '_' ∈ rest)
    (hsecond : KeepsSeparator second) (hsecond' : KeepsSeparator second')
    (h : first ++ 'R' :: second = first' ++ 'R' :: second') :
    first = first' ∧ second = second' := by
  -- a first text that is longer by `extra` takes the mark and `extra` from the second text
  have hlonger : ∀ first first' second second' extra : Text,
      (∀ front rest, first' = front ++ 'R' :: rest → '_' ∈ rest) → KeepsSeparator second →
      first' = first ++ extra → 'R' :: second = extra ++ 'R' :: second' →
      first = first' ∧ second = second' := by
    rintro first first' second second' (_ | ⟨c, extra⟩) hfirst' hsecond rfl htail
    · exact ⟨(List.append_nil first).symm, (List.cons.inj htail).2⟩
    · obtain ⟨rfl, rfl⟩ := List.cons.inj htail
      exact absurd (hfirst' first extra rfl) hsecond.not_mem_of_eq
  rcases List.append_eq_append_iff.1 h with ⟨extra, hlong, htail⟩ | ⟨extra, hlong, htail⟩
  · exact hlonger first first' second second' extra hfirst' hsecond hlong htail
  · obtain ⟨rfl, rfl⟩ := hlonger first' first second' second extra hfirst hsecond' hlong htail
    exact ⟨rfl, rfl⟩

end WrapperGen
