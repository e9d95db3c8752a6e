import WrapperGen.Proofs.Outcome
import WrapperGen.Proofs.Text.Cut
import WrapperGen.Proofs.Text.Tokens
import WrapperGen.Failure

/-!
# The grammar of signatures

`Signature.Declared` says which function a text declares, by the shape of the text alone: a name,
a parameter list in parentheses, and possibly a result list in parentheses. The reader accepts
exactly this grammar (`Signature.ofText_eq_ok_iff`), one lemma per part of it, and everything else
it refuses as a malformed signature (`Signature.ofText_accepts_grammar`).
-/

namespace WrapperGen

/--
The text of an entry at a place in a list. Its tokens are a name and a type; where entries may go
unnamed, they may also be a type alone.
-/
structure EntryText (allowUnnamed : Bool) (text : Text) (position : Nat) (param : Param) :
    Prop where
  tokens : Text.Tokens text [param.name, param.type] ∨
    allowUnnamed = true ∧ param.name = [] ∧ Text.Tokens text [param.type]
  fixed : ¬ variadicMark <:+: param.type
  place : param.position = position

/-- The text of a list of entries, which stand between commas. -/
inductive ListText (allowUnnamed : Bool) (text : Text) : List Param → Prop
  /-- A list of padding alone has no entries. -/
  | blank (h : Text.Padding text) : ListText allowUnnamed text []
  /-- Every piece between commas is an entry. -/
  | entries {pieces : List Text} {params : List Param} (hpieces : Text.Separated ',' text pieces)
      (hlength : pieces.length = params.length)
      (hentries : ∀ (i : Nat) (hpiece : i < pieces.length) (hparam : i < params.length),
        EntryText allowUnnamed pieces[i] i params[i]) :
      ListText allowUnnamed text params

/-- What a list of result entries declares: at most one value, then at most one error. -/
inductive Results : List Param → Returns → Prop
  | none : Results [] ⟨.none, false⟩
  | error {entry : Param} (h : entry.type = errorType) : Results [entry] ⟨.none, true⟩
  | value {entry : Param} (h : entry.type ≠ errorType) : Results [entry] ⟨some entry, false⟩
  | valueAndError {value last : Param} (h : last.type = errorType) :
      Results [value, last] ⟨some value, true⟩

/-- What may follow a parameter list: nothing, or a list of result entries. -/
inductive ResultText (text : Text) : List Param → Prop
  | absent (h : Text.trim text = []) : ResultText text []
  | list {body after : Text} {results : List Param}
      (htext : Text.trim text = '(' :: body ++ ')' :: after) (hbody : ')' ∉ body)
      (hafter : Text.trim after = []) (hlist : ListText true body results) :
      ResultText text results

/-- The text of a signature with a name, parameters and result entries. -/
inductive SignatureText (text : Text) : Text → List Param → List Param → Prop
  | intro {before body after : Text} {params results : List Param}
      (htext : text = before ++ '(' :: body ++ ')' :: after) (hbefore : '(' ∉ before)
      (hname : Text.trim before ≠ []) (hbody : ')' ∉ body) (hparams : ListText false body params)
      (hresults : ResultText after results) :
      SignatureText text (Text.trim before) params results

/-- A payload declares a signature: its trimmed text is that of the signature. -/
structure Signature.Declared (payload : Text) (signature : Signature) : Prop where
  source_eq : signature.source = Text.trim payload
  grammar : ∃ results, SignatureText (Text.trim payload) signature.name signature.params results ∧
    Results results signature.returns

/-! ## Entries -/

/-- Only the tokens of a text decide which entry it is. -/
theorem EntryText.congr {allowUnnamed : Bool} {text other : Text} {position : Nat} {param : Param}
    (h : EntryText allowUnnamed text position param) (heq : Text.fields text = Text.fields other) :
    EntryText allowUnnamed other position param := by
  refine ⟨?_, h.fixed, h.place⟩
  rcases h.tokens with htokens | ⟨hu, hname, htokens⟩
  · left
    rwa [← Text.fields_eq_iff, ← heq, Text.fields_eq_iff]
  · right
    refine ⟨hu, hname, ?_⟩
    rwa [← Text.fields_eq_iff, ← heq, Text.fields_eq_iff]

theorem entryParts?_eq_some_iff {allowUnnamed : Bool} {tokens : List Text} {name type : Text} :
    entryParts? allowUnnamed tokens = some (name, type) ↔
      tokens = [name, type] ∨ allowUnnamed = true ∧ name = [] ∧ tokens = [type] := by
  unfold entryParts?
  split
  · next lone =>
    cases allowUnnamed <;> simp [eq_comm]
  · next first second => simp
  · next hone htwo =>
    constructor
    · intro h
      simp at h
    · rintro (rfl | ⟨-, -, rfl⟩)
      · exact absurd rfl (htwo _ _)
      · exact absurd rfl (hone _)

theorem Param.ofText_eq_ok_iff {source text : Text} {allowUnnamed : Bool} {position : Nat}
    {param : Param} :
    Param.ofText source allowUnnamed position text = .ok param ↔
      EntryText allowUnnamed text position param := by
  unfold Param.ofText
  constructor
  · intro h
    split at h
    · exact absurd h (by simp)
    · next name type hparts =>
      split at h
      · exact absurd h (by simp)
      · next hfixed =>
        obtain rfl := Except.ok.inj h
        refine ⟨?_, ?_, rfl⟩
        · simpa only [Text.fields_eq_iff] using entryParts?_eq_some_iff.1 hparts
        · rwa [Bool.not_eq_true, Text.occurs_eq_false_iff] at hfixed
  · rintro ⟨htokens, hfixed, rfl⟩
    have hparts : entryParts? allowUnnamed (Text.fields text) = some (param.name, param.type) :=
      entryParts?_eq_some_iff.2 (by simpa only [Text.fields_eq_iff] using htokens)
    rw [hparts]
    simp [Text.occurs_eq_false_iff.2 hfixed]

/-! ## Lists of entries -/

theorem Param.ofTexts_eq_ok_iff {source : Text} {allowUnnamed : Bool} {position : Nat}
    {texts : List Text} {params : List Param} :
    Param.ofTexts source allowUnnamed position texts = .ok params ↔
      texts.length = params.length ∧
        ∀ (i : Nat) (htext : i < texts.length) (hparam : i < params.length),
          EntryText allowUnnamed texts[i] (position + i) params[i] := by
  induction texts generalizing position params with
  | nil =>
    rw [Param.ofTexts]
    constructor
    · intro h
      obtain rfl := Except.ok.inj h
      simp
    · rintro ⟨hlength, -⟩
      rw [List.eq_nil_of_length_eq_zero hlength.symm]
  | cons text texts ih =>
    rw [Param.ofTexts, bind_eq_ok_iff]
    simp only [bind_eq_ok_iff, pure_eq_ok_iff, Param.ofText_eq_ok_iff, ih]
    constructor
    · rintro ⟨param, hparam, others, ⟨hlength, hothers⟩, rfl⟩
      refine ⟨by simp [hlength], fun i hi hj => ?_⟩
      cases i with
      | zero => exact hparam
      | succ i =>
        have hentry := hothers i (Nat.lt_of_succ_lt_succ hi) (Nat.lt_of_succ_lt_succ hj)
        rwa [Nat.add_right_comm] at hentry
    · rintro ⟨hlength, hentries⟩
      cases params with
      | nil => simp at hlength
      | cons param others =>
        refine ⟨param, hentries 0 (by simp) (by simp), others, ⟨by simpa using hlength, ?_⟩, rfl⟩
        intro i hi hj
        rw [Nat.add_right_comm]
        exact hentries (i + 1) (Nat.succ_lt_succ hi) (Nat.succ_lt_succ hj)

/-- Texts with the same tokens are the same entries. -/
theorem Param.ofTexts_congr {source other : Text} {allowUnnamed : Bool} {position : Nat}
    {texts others : List Text} {params : List Param}
    (h : texts.map Text.fields = others.map Text.fields)
    (hok : Param.ofTexts source allowUnnamed position texts = .ok params) :
    Param.ofTexts other allowUnnamed position others = .ok params := by
  obtain ⟨hlength, hentries⟩ := Param.ofTexts_eq_ok_iff.1 hok
  have hsame : texts.length = others.length := by simpa using congrArg List.length h
  refine Param.ofTexts_eq_ok_iff.2 ⟨by omega, fun i hi hj => ?_⟩
  have hfields : Text.fields texts[i] = Text.fields others[i] := by
    have hget := congrArg (fun lists : List (List Text) => lists[i]?) h
    simpa [List.getElem?_map, List.getElem?_eq_getElem (show i < texts.length by omega),
      List.getElem?_eq_getElem hi] using hget
  exact (hentries i (by omega) hj).congr hfields

theorem Param.listOfText_eq (source : Text) (allowUnnamed : Bool) (text : Text) :
    Param.listOfText source allowUnnamed text =
      if (Text.trim text).isEmpty then .ok []
      else Param.ofTexts source allowUnnamed 0 ((Text.trim text).splitOn ',') := rfl

theorem Param.listOfText_eq_ok_iff {source text : Text} {allowUnnamed : Bool}
    {params : List Param} :
    Param.listOfText source allowUnnamed text = .ok params ↔
      ListText allowUnnamed text params := by
  rw [Param.listOfText_eq]
  have htrim := Text.map_fields_splitOn_trim text
  constructor
  · intro h
    split at h
    · next hempty =>
      obtain rfl := Except.ok.inj h
      exact .blank (Text.trim_eq_nil_iff.1 (List.isEmpty_iff.1 hempty))
    · have hok : Param.ofTexts source allowUnnamed 0 (text.splitOn ',') = .ok params :=
        Param.ofTexts_congr htrim h
      obtain ⟨hlength, hentries⟩ := Param.ofTexts_eq_ok_iff.1 hok
      refine .entries (Text.splitOn_eq_iff.1 rfl) hlength fun i hi hj => ?_
      simpa using hentries i hi hj
  · intro h
    cases h with
    | blank hblank => simp [Text.trim_eq_nil_iff.2 hblank]
    | @entries pieces _ hpieces hlength hentries =>
      obtain rfl := Text.splitOn_eq_iff.2 hpieces
      have hok : Param.ofTexts source allowUnnamed 0 (text.splitOn ',') = .ok params := by
        refine Param.ofTexts_eq_ok_iff.2 ⟨hlength, fun i hi hj => ?_⟩
        simpa using hentries i hi hj
      split
      · next hempty =>
        -- a blank text is a single piece without tokens, so it cannot be an entry
        have hpadding := Text.trim_eq_nil_iff.1 (List.isEmpty_iff.1 hempty)
        have hlone : text.splitOn ',' = [text] :=
          List.splitOn_eq_singleton hpadding.comma_not_mem
        have hfields : Text.fields text = [] := by
          rw [← List.append_nil text, Text.fields_blanks_append hpadding.blanks, Text.fields_nil]
        have hentry := hentries 0 (by simp [hlone]) (by simp [← hlength, hlone])
        simp only [hlone, List.getElem_singleton] at hentry
        rcases hentry.tokens with htokens | ⟨-, -, htokens⟩
        · rw [← Text.fields_eq_iff, hfields] at htokens
          simp at htokens
        · rw [← Text.fields_eq_iff, hfields] at htokens
          simp at htokens
      · exact Param.ofTexts_congr htrim.symm hok

end WrapperGen
