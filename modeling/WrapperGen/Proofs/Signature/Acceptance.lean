import WrapperGen.Proofs.Signature.Grammar
import WrapperGen.Proofs.Text.Quoted

/-!
# What the signature reader accepts

The reader takes a text apart at its first pair of parentheses, twice. Each step is shown to accept
exactly its part of the grammar, and no step ends in anything but a malformed signature:

* `parenthesised_eq_around_iff`, `parenthesised_eq_without_iff` and `parenthesised_eq_error_iff` for
  one pair of parentheses,
* `Returns.ofText_eq_ok_iff` and `Returns.ofText_error_cases` for what follows the parameter list,
* `Signature.ofText_eq_ok_iff` and `Signature.ofText_error_cases` for the whole text.
-/

namespace WrapperGen

/-! ## One pair of parentheses -/

theorem parenthesised_eq (text : Text) :
    parenthesised text =
      match Text.cut? ['('] (Text.trim text) with
      | none => .ok (.without (Text.trim text))
      | some (before, rest) =>
        match Text.cut? [')'] rest with
        | none => .error (.list (.unbalanced (Text.trim text)))
        | some (body, after) => .ok (.around (Text.trim before) body after) := by
  unfold parenthesised Sectioned.ofText
  rw [show (("(" : String).toList) = ['('] from rfl, show ((")" : String).toList) = [')'] from rfl]
  simp only [List.isEmpty_cons, Bool.false_eq_true, if_false]
  cases Text.cut? ['('] (Text.trim text) with
  | none => rfl
  | some parts =>
    obtain ⟨before, rest⟩ := parts
    simp only
    cases Text.cut? [')'] rest with
    | none => rfl
    | some parts => rfl

theorem parenthesised_eq_without_iff {text rest : Text} :
    parenthesised text = .ok (.without rest) ↔ rest = Text.trim text ∧ '(' ∉ Text.trim text := by
  rw [parenthesised_eq, ← Text.cut?_singleton_eq_none_iff]
  split
  · next hcut => simp [hcut, eq_comm]
  · next before after hcut =>
    rw [hcut]
    split <;> simp

/-- A section is found where the first parentheses stand. -/
theorem parenthesised_eq_around_iff {text name body after : Text} :
    parenthesised text = .ok (.around name body after) ↔
      ∃ before, Text.trim text = before ++ '(' :: body ++ ')' :: after ∧ '(' ∉ before ∧
        ')' ∉ body ∧ name = Text.trim before := by
  rw [parenthesised_eq]
  constructor
  · intro h
    split at h
    · exact absurd h (by simp)
    · next before rest hopen =>
      split at h
      · exact absurd h (by simp)
      · next inner tail hclose =>
        obtain ⟨rfl, rfl, rfl⟩ : Text.trim before = name ∧ inner = body ∧ tail = after := by
          simpa using h
        obtain ⟨htext, hbefore⟩ := Text.cut?_singleton_eq_some_iff.1 hopen
        obtain ⟨hrest, hbody⟩ := Text.cut?_singleton_eq_some_iff.1 hclose
        exact ⟨before, by simp [htext, hrest], hbefore, hbody, rfl⟩
  · rintro ⟨before, htext, hbefore, hbody, rfl⟩
    have hopen : Text.cut? ['('] (Text.trim text) = some (before, body ++ ')' :: after) :=
      Text.cut?_singleton_eq_some_iff.2 ⟨by simp [htext], hbefore⟩
    have hclose : Text.cut? [')'] (body ++ ')' :: after) = some (body, after) :=
      Text.cut?_singleton_eq_some_iff.2 ⟨rfl, hbody⟩
    simp only [hopen, hclose]

/-- Of a trimmed text that a section begins, nothing but padding can stand before the section. -/
theorem eq_nil_of_trim_eq {text before rest : Text} (h : Text.trim text = before ++ '(' :: rest)
    (hbefore : Text.trim before = []) : before = [] := by
  have hu := Text.unpadded_trim text
  rw [h] at hu
  exact hu.eq_nil_of_append (Text.trim_eq_nil_iff.1 hbefore)

/-! ## Results -/

theorem Returns.ofParams_eq_ok_iff {source : Text} {params : List Param} {returns : Returns} :
    Returns.ofParams source params = .ok returns ↔ Results params returns := by
  constructor
  · intro h
    unfold Returns.ofParams at h
    split at h
    · obtain rfl := Except.ok.inj h
      exact .none
    · next entry =>
      obtain rfl := Except.ok.inj h
      by_cases herror : entry.isError = true
      · rw [if_pos herror]
        exact .error (beq_iff_eq.1 herror)
      · rw [if_neg herror]
        exact .value fun htype => herror (beq_iff_eq.2 htype)
    · next value last =>
      split at h
      · next herror =>
        obtain rfl := Except.ok.inj h
        exact .valueAndError (beq_iff_eq.1 herror)
      · exact absurd h (by simp)
    · exact absurd h (by simp)
  · intro h
    cases h with
    | none => rfl
    | error htype => simp [Returns.ofParams, Param.isError, htype]
    | value htype => simp [Returns.ofParams, Param.isError, htype]
    | valueAndError htype => simp [Returns.ofParams, Param.isError, htype]

/-- What may follow a parameter list, read step by step. -/
theorem Returns.ofText_eq (source rest : Text) :
    Returns.ofText source rest =
      parenthesised rest >>= fun
        | .without text => if text = [] then .ok .none else .error (.extraText source)
        | .around before body after =>
          if before = [] then
            Param.listOfText source true body >>= fun results =>
              Returns.ofParams source results >>= fun returns =>
                if Text.trim after = [] then .ok returns else .error (.extraText source)
          else .error (.extraText source) := by
  unfold Returns.ofText
  cases parenthesised rest with
  | error fault => rfl
  | ok found =>
    cases found with
    | without text => cases text <;> rfl
    | around before body after =>
      cases before with
      | cons c before => rfl
      | nil =>
        cases hlist : Param.listOfText source true body with
        | error fault => simp [hlist, Except.bind, bind]
        | ok results =>
          cases hresults : Returns.ofParams source results with
          | error fault => simp [hlist, hresults, Except.bind, bind]
          | ok returns =>
            cases hafter : Text.trim after <;>
              simp [hlist, hresults, hafter, Except.bind, bind, pure, Except.pure, throw,
                throwThe, MonadExceptOf.throw]

theorem Returns.ofText_eq_ok_iff {source rest : Text} {returns : Returns} :
    Returns.ofText source rest = .ok returns ↔
      ∃ results, ResultText rest results ∧ Results results returns := by
  rw [Returns.ofText_eq, bind_eq_ok_iff]
  constructor
  · rintro ⟨found, hfound, h⟩
    cases found with
    | without text =>
      obtain ⟨rfl, -⟩ := parenthesised_eq_without_iff.1 hfound
      simp only at h
      split at h
      · next hempty =>
        obtain rfl := Except.ok.inj h
        exact ⟨[], .absent hempty, .none⟩
      · exact absurd h (by simp)
    | around name body after =>
      obtain ⟨before, htext, -, hbody, rfl⟩ := parenthesised_eq_around_iff.1 hfound
      simp only at h
      split at h
      · next hbefore =>
        obtain ⟨results, hlist, h⟩ := bind_eq_ok_iff.1 h
        obtain ⟨returns', hreturns, h⟩ := bind_eq_ok_iff.1 h
        split at h
        · next hafter =>
          obtain rfl := Except.ok.inj h
          obtain rfl := eq_nil_of_trim_eq (by simpa using htext) hbefore
          exact ⟨results, .list htext hbody hafter (Param.listOfText_eq_ok_iff.1 hlist),
            Returns.ofParams_eq_ok_iff.1 hreturns⟩
        · exact absurd h (by simp)
      · exact absurd h (by simp)
  · rintro ⟨results, hresults, hreturns⟩
    cases hresults with
    | absent htrim =>
      -- without result entries there is only one way to return
      obtain rfl : returns = .none := by cases hreturns; rfl
      exact ⟨.without [], parenthesised_eq_without_iff.2 ⟨htrim.symm, by simp [htrim]⟩, rfl⟩
    | @list body after _ htext hbody hafter hlist =>
      have htrim : Text.trim [] = [] := by simp [Text.Padding.nil]
      refine ⟨.around [] body after, parenthesised_eq_around_iff.2
        ⟨[], by simpa using htext, by simp, hbody, htrim.symm⟩, ?_⟩
      simp only [hafter, if_true]
      exact bind_eq_ok_iff.2 ⟨results, Param.listOfText_eq_ok_iff.2 hlist,
        bind_eq_ok_iff.2 ⟨returns, Returns.ofParams_eq_ok_iff.2 hreturns, rfl⟩⟩

/-! ## Signatures -/

/-- A signature, read step by step. -/
theorem Signature.ofText_eq (payload : Text) :
    Signature.ofText payload =
      parenthesised (Text.trim payload) >>= fun
        | .without _ => .error (.noParameterList (Text.trim payload))
        | .around name body rest =>
          if name = [] then .error (.noParameterList (Text.trim payload))
          else
            Param.listOfText (Text.trim payload) false body >>= fun params =>
              Returns.ofText (Text.trim payload) rest >>= fun returns =>
                .ok ⟨name, params, returns, Text.trim payload⟩ := by
  unfold Signature.ofText
  cases hfound : parenthesised (Text.trim payload) with
  | error fault => simp [hfound, Except.bind, bind]
  | ok found =>
    cases found with
    | without text => simp [hfound, Except.bind, bind, throw, throwThe, MonadExceptOf.throw]
    | around name body rest =>
      cases name with
      | nil => simp [hfound, Except.bind, bind, throw, throwThe, MonadExceptOf.throw]
      | cons c name => simp [hfound, Except.bind, bind, pure, Except.pure]

/-- The reader accepts exactly the grammar, and returns the signature that the grammar gives. -/
theorem Signature.ofText_eq_ok_iff {payload : Text} {signature : Signature} :
    Signature.ofText payload = .ok signature ↔ signature.Declared payload := by
  rw [Signature.ofText_eq, bind_eq_ok_iff]
  constructor
  · rintro ⟨found, hfound, h⟩
    cases found with
    | without text => exact absurd h (by simp)
    | around name body rest =>
      -- the text is trimmed already, so trimming it once more finds the same parentheses
      obtain ⟨before, htext, hbefore, hbody, rfl⟩ := parenthesised_eq_around_iff.1 hfound
      rw [Text.trim_trim] at htext
      simp only at h
      split at h
      · exact absurd h (by simp)
      · next hname =>
        obtain ⟨params, hparams, h⟩ := bind_eq_ok_iff.1 h
        obtain ⟨returns, hreturns, h⟩ := bind_eq_ok_iff.1 h
        obtain rfl := Except.ok.inj h
        obtain ⟨results, hresults, hreturns⟩ := Returns.ofText_eq_ok_iff.1 hreturns
        exact ⟨rfl, results, .intro htext hbefore hname hbody
          (Param.listOfText_eq_ok_iff.1 hparams) hresults, hreturns⟩
  · rintro ⟨hsource, results, hgrammar, hreturns⟩
    obtain ⟨name, params, returns, source⟩ := signature
    simp only at hsource hgrammar hreturns
    subst hsource
    cases hgrammar with
    | @intro before body after _ _ htext hbefore hname hbody hparams hresults =>
      refine ⟨.around (Text.trim before) body after, parenthesised_eq_around_iff.2
        ⟨before, by rw [Text.trim_trim, htext], hbefore, hbody, rfl⟩, ?_⟩
      simp only [hname, if_false]
      exact bind_eq_ok_iff.2 ⟨params, Param.listOfText_eq_ok_iff.2 hparams,
        bind_eq_ok_iff.2
          ⟨returns, Returns.ofText_eq_ok_iff.2 ⟨results, hresults, hreturns⟩, rfl⟩⟩

/-! ## Refusals -/

namespace SignatureFault

/-- The fault carries the text and quotes it. -/
structure Quotes (text : Text) (fault : SignatureFault) : Prop where
  line : fault.line = text
  quoted : Text.quoted text <:+: fault.message

/-- What is said about an empty delimiter quotes nothing. -/
theorem Quotes.ne_emptyDelimiter {text : Text} {fault : SignatureFault} (h : fault.Quotes text) :
    fault ≠ .list .emptyDelimiter := by
  rintro rfl
  have hmem := h.quoted.subset (Text.delimiterFor_mem_quoted text)
  rcases Text.delimiterFor_cases text with ⟨hdelimiter, -⟩ | ⟨hdelimiter, -⟩
  · rw [hdelimiter] at hmem
    exact absurd hmem (by decide)
  · rw [hdelimiter] at hmem
    exact absurd hmem (by decide)

theorem Quotes.of_message {text front : Text} {fault : SignatureFault} (hline : fault.line = text)
    (hmessage : fault.message = front ++ Text.quoted text) : fault.Quotes text :=
  ⟨hline, hmessage ▸ (List.suffix_append front _).isInfix⟩

end SignatureFault

/-- A fault is that of a malformed signature unless a delimiter was empty. -/
theorem kind?_signature {fault : SignatureFault} (h : fault ≠ .list .emptyDelimiter) :
    (Failure.signature fault).kind? = some .signature := by
  unfold Failure.kind?
  split <;> simp_all

/-- A parenthesis is opened in the text, and none is closed behind it. -/
def Unclosed (text : Text) : Prop :=
  ∃ before rest, text = before ++ '(' :: rest ∧ '(' ∉ before ∧ ')' ∉ rest

theorem parenthesised_eq_error_iff {text : Text} {fault : SignatureFault} :
    parenthesised text = .error fault ↔
      Unclosed (Text.trim text) ∧ fault = .list (.unbalanced (Text.trim text)) := by
  rw [parenthesised_eq]
  constructor
  · intro h
    split at h
    · exact absurd h (by simp)
    · next before rest hopen =>
      split at h
      · next hclose =>
        obtain ⟨htext, hbefore⟩ := Text.cut?_singleton_eq_some_iff.1 hopen
        exact ⟨⟨before, rest, htext, hbefore, Text.cut?_singleton_eq_none_iff.1 hclose⟩,
          (Except.error.inj h).symm⟩
      · exact absurd h (by simp)
  · rintro ⟨⟨before, rest, htext, hbefore, hrest⟩, rfl⟩
    have hopen : Text.cut? ['('] (Text.trim text) = some (before, rest) :=
      Text.cut?_singleton_eq_some_iff.2 ⟨htext, hbefore⟩
    have hclose : Text.cut? [')'] rest = none := Text.cut?_singleton_eq_none_iff.2 hrest
    simp only [hopen, hclose]

theorem Param.ofText_quotes {source text : Text} {allowUnnamed : Bool} {position : Nat}
    {fault : SignatureFault} (h : Param.ofText source allowUnnamed position text = .error fault) :
    fault.Quotes source := by
  unfold Param.ofText at h
  split at h
  · obtain rfl := Except.error.inj h
    exact .of_message rfl rfl
  · split at h
    · obtain rfl := Except.error.inj h
      exact .of_message rfl rfl
    · exact absurd h (by simp)

theorem Param.ofTexts_quotes {source : Text} {allowUnnamed : Bool} {position : Nat}
    {texts : List Text} {fault : SignatureFault}
    (h : Param.ofTexts source allowUnnamed position texts = .error fault) :
    fault.Quotes source := by
  induction texts generalizing position with
  | nil => exact absurd h (by simp [Param.ofTexts])
  | cons text texts ih =>
    rw [Param.ofTexts, bind_eq_error_iff] at h
    rcases h with h | ⟨param, -, h⟩
    · exact Param.ofText_quotes h
    · rcases bind_eq_error_iff.1 h with h | ⟨params, -, h⟩
      · exact ih h
      · exact absurd h (by simp [pure, Except.pure])

theorem Param.listOfText_quotes {source text : Text} {allowUnnamed : Bool}
    {fault : SignatureFault} (h : Param.listOfText source allowUnnamed text = .error fault) :
    fault.Quotes source := by
  rw [Param.listOfText_eq] at h
  split at h
  · exact absurd h (by simp)
  · exact Param.ofTexts_quotes h

theorem Returns.ofParams_quotes {source : Text} {params : List Param} {fault : SignatureFault}
    (h : Returns.ofParams source params = .error fault) : fault.Quotes source := by
  unfold Returns.ofParams at h
  split at h
  · exact absurd h (by simp)
  · exact absurd h (by simp)
  · split at h
    · exact absurd h (by simp)
    · obtain rfl := Except.error.inj h
      exact .of_message rfl rfl
  · obtain rfl := Except.error.inj h
    exact .of_message rfl rfl

/-- What follows the parameter list is refused with the whole signature, or it is not closed. -/
theorem Returns.ofText_error_cases {source rest : Text} {fault : SignatureFault}
    (h : Returns.ofText source rest = .error fault) :
    fault.Quotes source ∨
      Unclosed (Text.trim rest) ∧ fault = .list (.unbalanced (Text.trim rest)) := by
  rw [Returns.ofText_eq] at h
  rcases bind_eq_error_iff.1 h with h | ⟨found, -, h⟩
  · exact .inr (parenthesised_eq_error_iff.1 h)
  · left
    cases found with
    | without text =>
      simp only at h
      split at h
      · exact absurd h (by simp)
      · obtain rfl := Except.error.inj h
        exact .of_message rfl rfl
    | around before body after =>
      simp only at h
      split at h
      · rcases bind_eq_error_iff.1 h with h | ⟨results, -, h⟩
        · exact Param.listOfText_quotes h
        · rcases bind_eq_error_iff.1 h with h | ⟨returns, -, h⟩
          · exact Returns.ofParams_quotes h
          · split at h
            · exact absurd h (by simp)
            · obtain rfl := Except.error.inj h
              exact .of_message rfl rfl
      · obtain rfl := Except.error.inj h
        exact .of_message rfl rfl

/--
The text goes on behind its parameter list, which is well formed, with a list of results that is
opened and not closed.
-/
inductive UnclosedResults (text : Text) : Text → Prop
  | intro {before body after : Text} {params : List Param}
      (htext : text = before ++ '(' :: body ++ ')' :: after) (hbefore : '(' ∉ before)
      (hname : Text.trim before ≠ []) (hbody : ')' ∉ body) (hparams : ListText false body params)
      (hopen : Unclosed (Text.trim after)) : UnclosedResults text (Text.trim after)

/-- A payload is refused with all of it, or with a list of results that is not closed. -/
theorem Signature.ofText_error_cases {payload : Text} {fault : SignatureFault}
    (h : Signature.ofText payload = .error fault) :
    fault.Quotes (Text.trim payload) ∨
      ∃ rest, UnclosedResults (Text.trim payload) rest ∧ fault = .list (.unbalanced rest) := by
  rw [Signature.ofText_eq] at h
  rcases bind_eq_error_iff.1 h with h | ⟨found, hfound, h⟩
  · obtain ⟨-, rfl⟩ := parenthesised_eq_error_iff.1 h
    rw [Text.trim_trim]
    exact .inl (.of_message rfl rfl)
  · cases found with
    | without text =>
      obtain rfl := Except.error.inj h
      exact .inl (.of_message rfl rfl)
    | around name body rest =>
      obtain ⟨before, htext, hbefore, hbody, rfl⟩ := parenthesised_eq_around_iff.1 hfound
      rw [Text.trim_trim] at htext
      simp only at h
      split at h
      · obtain rfl := Except.error.inj h
        exact .inl (.of_message rfl rfl)
      · next hname =>
        rcases bind_eq_error_iff.1 h with h | ⟨params, hparams, h⟩
        · exact .inl (Param.listOfText_quotes h)
        · rcases bind_eq_error_iff.1 h with h | ⟨returns, -, h⟩
          · rcases Returns.ofText_error_cases h with hquotes | ⟨hopen, rfl⟩
            · exact .inl hquotes
            · exact .inr ⟨_, .intro htext hbefore hname hbody
                (Param.listOfText_eq_ok_iff.1 hparams) hopen, rfl⟩
          · exact absurd h (by simp)

/-- Whatever is refused is refused as a malformed signature. -/
theorem Signature.ofText_error {payload : Text} {fault : SignatureFault}
    (h : Signature.ofText payload = .error fault) : fault ≠ .list .emptyDelimiter := by
  rcases Signature.ofText_error_cases h with hquotes | ⟨rest, -, rfl⟩
  · exact hquotes.ne_emptyDelimiter
  · simp

/--
A payload is accepted with a signature exactly if it declares that signature, and a payload that
declares none is refused as a malformed signature.
-/
theorem Signature.ofText_accepts_grammar (payload : Text) :
    (∀ signature, Signature.ofText payload = .ok signature ↔ signature.Declared payload) ∧
      ((∀ signature : Signature, ¬ signature.Declared payload) →
        ∃ fault, Signature.ofText payload = .error fault ∧
          (Failure.signature fault).kind? = some .signature) := by
  refine ⟨fun signature => Signature.ofText_eq_ok_iff, fun hnone => ?_⟩
  cases h : Signature.ofText payload with
  | ok signature => exact absurd (Signature.ofText_eq_ok_iff.1 h) (hnone signature)
  | error fault => exact ⟨fault, rfl, kind?_signature (Signature.ofText_error h)⟩

end WrapperGen
