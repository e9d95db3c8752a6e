import WrapperGen.Proofs.Signature.Acceptance
import WrapperGen.Proofs.SynthesizedName

/-!
# The shape of declared signatures

What every declared signature has in common, whatever its text: entries are numbered by their
places, names and types are tokens, and the results keep the declared types in order. Names and
types stand in the payload, each of them in one piece.
-/

namespace WrapperGen

/-- A token of a list: not empty, without blanks, commas and closing parentheses. -/
structure IsToken (text : Text) : Prop where
  ne_nil : text ≠ []
  blank_free : ∀ c ∈ text, Text.isBlank c = false
  comma_free : ',' ∉ text
  close_free : ')' ∉ text

/-- A token that can be the type of an entry. -/
structure IsType (type : Text) : Prop extends IsToken type where
  fixed : ¬ variadicMark <:+: type

theorem IsToken.isPadding_eq_false {text : Text} (h : IsToken text) :
    ∀ c ∈ text, Text.isPadding c = false :=
  fun c hc => Text.isPadding_eq_false_of_isBlank (h.blank_free c hc)

/-! ## Lists of entries -/

section Lists

variable {allowUnnamed : Bool} {text : Text} {params : List Param}

/-- A token of a piece of a list is a token of the list. -/
theorem isToken_of_mem_tokens {piece : Text} {pieces tokens : List Text}
    (hpieces : Text.Separated ',' text pieces) (hpiece : piece ∈ pieces) (hclose : ')' ∉ text)
    (htokens : Text.Tokens piece tokens) {word : Text} (hword : word ∈ tokens) : IsToken word := by
  obtain ⟨hne, hblank⟩ := htokens.of_mem word hword
  refine ⟨hne, hblank, fun hcomma => ?_, fun hparen => ?_⟩
  · exact hpieces.clear piece hpiece (htokens.mem_text hword hcomma)
  · exact hclose (hpieces.mem_text hpiece (htokens.mem_text hword hparen))

/-- Every entry of a list is written in one of its pieces. -/
theorem ListText.exists_piece (h : ListText allowUnnamed text params) {param : Param}
    (hparam : param ∈ params) :
    ∃ pieces, Text.Separated ',' text pieces ∧ ∃ piece ∈ pieces, ∃ position,
      EntryText allowUnnamed piece position param := by
  cases h with
  | blank => simp at hparam
  | @entries pieces _ hpieces hlength hentries =>
    obtain ⟨i, hi, rfl⟩ := List.mem_iff_getElem.1 hparam
    have hi' : i < pieces.length := by omega
    exact ⟨pieces, hpieces, pieces[i], List.getElem_mem hi', i, hentries i hi' hi⟩

theorem ListText.position (h : ListText allowUnnamed text params) :
    ∀ (i : Nat) (hi : i < params.length), params[i].position = i := by
  intro i hi
  cases h with
  | blank => simp at hi
  | entries _ hlength hentries => exact (hentries i (by omega) hi).place

theorem ListText.isType (h : ListText allowUnnamed text params) (hclose : ')' ∉ text) :
    ∀ param ∈ params, IsType param.type := by
  intro param hparam
  obtain ⟨pieces, hpieces, piece, hpiece, position, hentry⟩ := h.exists_piece hparam
  refine ⟨?_, hentry.fixed⟩
  rcases hentry.tokens with htokens | ⟨-, -, htokens⟩
  · exact isToken_of_mem_tokens hpieces hpiece hclose htokens (by simp)
  · exact isToken_of_mem_tokens hpieces hpiece hclose htokens (by simp)

theorem ListText.isToken_name (h : ListText false text params) (hclose : ')' ∉ text) :
    ∀ param ∈ params, IsToken param.name := by
  intro param hparam
  obtain ⟨pieces, hpieces, piece, hpiece, position, hentry⟩ := h.exists_piece hparam
  rcases hentry.tokens with htokens | ⟨hfalse, -, -⟩
  · exact isToken_of_mem_tokens hpieces hpiece hclose htokens (by simp)
  · exact absurd hfalse (by simp)

theorem ListText.infix_of_mem (h : ListText allowUnnamed text params) {param : Param}
    (hparam : param ∈ params) : param.name <:+: text ∧ param.type <:+: text := by
  obtain ⟨pieces, hpieces, piece, hpiece, position, hentry⟩ := h.exists_piece hparam
  have hin : piece <:+: text := hpieces.infix_of_mem hpiece
  rcases hentry.tokens with htokens | ⟨-, hname, htokens⟩
  · exact ⟨(htokens.infix_of_mem (by simp)).trans hin, (htokens.infix_of_mem (by simp)).trans hin⟩
  · rw [hname]
    exact ⟨List.nil_suffix.isInfix, (htokens.infix_of_mem (by simp)).trans hin⟩

end Lists

/-! ## Results -/

/-- The value that is returned is one of the declared results. -/
theorem Results.mem_of_value {results : List Param} {returns : Returns}
    (h : Results results returns) {value : Param} (hvalue : returns.value = some value) :
    value ∈ results := by
  cases h with
  | none => exact absurd hvalue (by simp)
  | error => exact absurd hvalue (by simp)
  | value =>
    obtain rfl := Option.some.inj hvalue
    exact List.mem_cons_self
  | valueAndError =>
    obtain rfl := Option.some.inj hvalue
    exact List.mem_cons_self

/-- The results have the declared types, in order. -/
theorem Results.types {results : List Param} {returns : Returns} (h : Results results returns) :
    returns.entries.map Param.type = results.map Param.type := by
  cases h with
  | none => rfl
  | error htype => simp [Returns.entries, htype]
  | value => rfl
  | valueAndError htype => simp [Returns.entries, htype]

/-- The result entries are numbered by their places, as the declared ones are. -/
theorem Results.position {results : List Param} {returns : Returns} (h : Results results returns)
    (hposition : ∀ (i : Nat) (hi : i < results.length), results[i].position = i) :
    ∀ (i : Nat) (hi : i < returns.entries.length), returns.entries[i].position = i := by
  intro i hi
  cases h with
  | none => simp [Returns.entries] at hi
  | error htype =>
    obtain rfl : i = 0 := by simpa [Returns.entries] using hi
    rfl
  | value htype =>
    obtain rfl : i = 0 := by simpa [Returns.entries] using hi
    exact hposition 0 (by simp)
  | valueAndError htype =>
    have hi' : i < 2 := by simpa [Returns.entries] using hi
    obtain rfl | rfl : i = 0 ∨ i = 1 := by omega
    · exact hposition 0 (by simp)
    · rfl

/-- Result types are tokens as soon as the declared ones are. -/
theorem Results.isType {results : List Param} {returns : Returns} (h : Results results returns)
    (htypes : ∀ param ∈ results, IsType param.type) :
    ∀ param ∈ returns.entries, IsType param.type := by
  intro param hparam
  have hmem : param.type ∈ results.map Param.type := by
    rw [← h.types]
    exact List.mem_map_of_mem hparam
  obtain ⟨result, hresult, heq⟩ := List.mem_map.1 hmem
  rw [← heq]
  exact htypes result hresult

/-! ## Signatures -/

theorem ResultText.listed {text : Text} {results : List Param} (h : ResultText text results) :
    (∀ (i : Nat) (hi : i < results.length), results[i].position = i) ∧
      ∀ param ∈ results, IsType param.type := by
  cases h with
  | absent => simp
  | list htext hbody hafter hlist => exact ⟨hlist.position, hlist.isType hbody⟩

theorem ResultText.infix_of_mem {text : Text} {results : List Param} (h : ResultText text results)
    {param : Param} (hparam : param ∈ results) :
    param.name <:+: text ∧ param.type <:+: text := by
  cases h with
  | absent => exact absurd hparam List.not_mem_nil
  | @list body after _ htext _ _ hlist =>
    have hbody : body <:+: text := by
      refine List.IsInfix.trans ⟨['('], ')' :: after, ?_⟩ (Text.trim_isInfix text)
      rw [htext, List.singleton_append]
    obtain ⟨hname, htype⟩ := hlist.infix_of_mem hparam
    exact ⟨hname.trans hbody, htype.trans hbody⟩

/-- What every declared signature has in common. -/
structure Signature.WellFormed (signature : Signature) : Prop where
  name_ne_nil : signature.name ≠ []
  name_unpadded : Text.Unpadded signature.name
  position : ∀ (i : Nat) (hi : i < signature.params.length), signature.params[i].position = i
  isToken_name : ∀ param ∈ signature.params, IsToken param.name
  isType : ∀ param ∈ signature.params, IsType param.type
  result_position : ∀ (i : Nat) (hi : i < signature.returns.entries.length),
    signature.returns.entries[i].position = i
  result_isType : ∀ param ∈ signature.returns.entries, IsType param.type

theorem Signature.Declared.wellFormed {payload : Text} {signature : Signature}
    (h : signature.Declared payload) : signature.WellFormed := by
  obtain ⟨-, results, hgrammar, hreturns⟩ := h
  obtain ⟨name, params, returns, source⟩ := signature
  simp only at hgrammar hreturns
  cases hgrammar with
  | @intro before body after _ _ htext hbefore hname hbody hparams hresults =>
    exact
      { name_ne_nil := hname
        name_unpadded := Text.unpadded_trim before
        position := hparams.position
        isToken_name := hparams.isToken_name hbody
        isType := hparams.isType hbody
        result_position := hreturns.position hresults.listed.1
        result_isType := hreturns.isType hresults.listed.2 }

namespace Signature.Declared

variable {payload : Text} {signature : Signature}

/-- The name, the parameter list and the result list stand in the payload. -/
theorem exists_parts (h : signature.Declared payload) :
    ∃ before body after results, signature.name = Text.trim before ∧ before <:+: payload ∧
      body <:+: payload ∧ after <:+: payload ∧ ListText false body signature.params ∧
      ResultText after results ∧ Results results signature.returns := by
  obtain ⟨-, results, hgrammar, hreturns⟩ := h
  obtain ⟨name, params, returns, source⟩ := signature
  simp only at hgrammar hreturns ⊢
  cases hgrammar with
  | @intro before body after _ _ htext _ _ _ hparams hresults =>
    have hpayload : before ++ '(' :: body ++ ')' :: after <:+: payload :=
      htext ▸ Text.trim_isInfix payload
    refine ⟨before, body, after, results, rfl, ?_, ?_, ?_, hparams, hresults, hreturns⟩
    · exact List.IsInfix.trans ⟨[], '(' :: body ++ ')' :: after, by simp⟩ hpayload
    · exact List.IsInfix.trans ⟨before ++ ['('], ')' :: after, by simp⟩ hpayload
    · exact List.IsInfix.trans ⟨before ++ '(' :: body ++ [')'], [], by simp⟩ hpayload

theorem name_isInfix (h : signature.Declared payload) : signature.name <:+: payload := by
  obtain ⟨before, _, _, _, hname, hbefore, -⟩ := h.exists_parts
  rw [hname]
  exact (Text.trim_isInfix before).trans hbefore

theorem param_isInfix (h : signature.Declared payload) :
    ∀ param ∈ signature.params, param.name <:+: payload ∧ param.type <:+: payload := by
  intro param hparam
  obtain ⟨_, body, _, _, -, -, hbody, -, hparams, -⟩ := h.exists_parts
  obtain ⟨hname, htype⟩ := hparams.infix_of_mem hparam
  exact ⟨hname.trans hbody, htype.trans hbody⟩

theorem value_isInfix (h : signature.Declared payload) :
    ∀ value ∈ signature.returns.value, value.name <:+: payload ∧ value.type <:+: payload := by
  intro value hvalue
  obtain ⟨_, _, after, results, -, -, -, hafter, -, hresults, hreturns⟩ := h.exists_parts
  obtain ⟨hname, htype⟩ := hresults.infix_of_mem (hreturns.mem_of_value hvalue)
  exact ⟨hname.trans hafter, htype.trans hafter⟩

theorem source_isInfix (h : signature.Declared payload) : signature.source <:+: payload := by
  rw [h.source_eq]
  exact Text.trim_isInfix payload

end Signature.Declared

end WrapperGen
