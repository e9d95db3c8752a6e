import WrapperGen.Proofs.Signature.Acceptance

/-!
# What a refused signature is told by

A malformed signature is reported with a text and a message that quotes it. Nearly every step of the
reader is handed the whole signature for this purpose. The step that looks for a pair of parentheses
only has the text it looks in, which for the list of results is what follows the parameter list. So
a list of results that is not closed is reported alone, and nothing else is
(`Signature.refusal_quotes_payload_iff`).
-/

namespace WrapperGen

/-! ## Lists of results that are not closed -/

namespace UnclosedResults

variable {text rest : Text}

theorem isInfix (h : UnclosedResults text rest) : rest <:+: text := by
  cases h with
  | intro htext =>
    rw [htext, List.append_cons]
    exact (Text.trim_isInfix _).trans (List.suffix_append _ _).isInfix

/-- What is not closed is not the whole text: a name and a parameter list stand in front of it. -/
theorem ne_text (h : UnclosedResults text rest) : rest ≠ text := by
  cases h with
  | @intro before body after _ htext =>
    intro heq
    have htrim := (Text.trim_isInfix after).length_le
    have hlength := congrArg List.length (heq.trans htext)
    simp only [List.length_append, List.length_cons] at hlength
    omega

end UnclosedResults

/-- What follows a well-formed parameter list is the first thing to be refused. -/
theorem Signature.ofText_of_unclosedResults {payload rest : Text}
    (h : UnclosedResults (Text.trim payload) rest) :
    Signature.ofText payload = .error (.list (.unbalanced rest)) := by
  cases h with
  | @intro before body after params htext hbefore hname hbody hparams hopen =>
    have hfound : parenthesised (Text.trim payload) =
        .ok (.around (Text.trim before) body after) :=
      parenthesised_eq_around_iff.2 ⟨before, by rw [Text.trim_trim, htext], hbefore, hbody, rfl⟩
    have hresults : Returns.ofText (Text.trim payload) after =
        .error (.list (.unbalanced (Text.trim after))) := by
      rw [Returns.ofText_eq, parenthesised_eq_error_iff.2 ⟨hopen, rfl⟩]
      rfl
    rw [Signature.ofText_eq, hfound]
    simp only [bind, Except.bind, if_neg hname, Param.listOfText_eq_ok_iff.2 hparams, hresults]

/-! ## Refusals -/

/--
A payload that is refused is refused as a malformed signature. The refusal carries the whole trimmed
payload, and quotes the whole in its message, unless the payload goes on with a list of results that
is not closed: then it carries and quotes that list and what follows it.
-/
theorem Signature.refusal_quotes_payload_iff {payload : Text} {fault : SignatureFault}
    (h : Signature.ofText payload = .error fault) :
    (Failure.signature fault).kind? = some .signature ∧
      (fault.line = Text.trim payload ↔ ¬ ∃ rest, UnclosedResults (Text.trim payload) rest) ∧
      (Text.quoted (Text.trim payload) <:+: (Failure.signature fault).text ↔
        ¬ ∃ rest, UnclosedResults (Text.trim payload) rest) ∧
      ∀ rest, UnclosedResults (Text.trim payload) rest → fault = .list (.unbalanced rest) := by
  have hunclosed : ∀ rest, UnclosedResults (Text.trim payload) rest →
      fault = .list (.unbalanced rest) :=
    fun rest hrest => Except.error.inj (h.symm.trans (Signature.ofText_of_unclosedResults hrest))
  have hquotes : (¬ ∃ rest, UnclosedResults (Text.trim payload) rest) →
      fault.Quotes (Text.trim payload) := by
    intro hnone
    rcases Signature.ofText_error_cases h with hquotes | ⟨rest, hrest, -⟩
    · exact hquotes
    · exact absurd ⟨rest, hrest⟩ hnone
  refine ⟨kind?_signature (Signature.ofText_error h), ⟨?_, fun hnone => (hquotes hnone).line⟩,
    ⟨?_, fun hnone => (hquotes hnone).quoted⟩, hunclosed⟩
  · rintro hline ⟨rest, hrest⟩
    rw [hunclosed rest hrest] at hline
    exact hrest.ne_text hline
  · rintro hoccurs ⟨rest, hrest⟩
    rw [hunclosed rest hrest] at hoccurs
    -- what is said in front of the quoted list holds no quote, so the whole would have to be in it
    exact Text.not_quoted_infix_append_quoted hrest.isInfix hrest.ne_text (by decide) (by decide)
      hoccurs

/-- A second list is closed here, and what is wrong with it is reported with the whole payload. -/
theorem Signature.refusal_quotes_payload_iff_variadic :
    Signature.ofText " Add(a int) (...int)\t" =
        .error (.variadicEntry "...int" "Add(a int) (...int)") ∧
      (Failure.signature (.variadicEntry "...int" "Add(a int) (...int)")).kind? =
        some .signature ∧
      ¬ ∃ rest, UnclosedResults (Text.trim " Add(a int) (...int)\t") rest := by
  have hrefused : Signature.ofText " Add(a int) (...int)\t" =
      .error (.variadicEntry "...int" "Add(a int) (...int)") := by decide
  obtain ⟨hkind, hline, -, -⟩ := Signature.refusal_quotes_payload_iff hrefused
  exact ⟨hrefused, hkind, hline.1 (by decide)⟩

/-- A signature whose list of results is not closed is not reported as a whole. -/
theorem Signature.refusal_misses_payload :
    ∃ fault, Signature.ofText "F(a int) (int" = .error fault ∧
      fault.line = "(int".toList ∧ fault.line ≠ Text.trim "F(a int) (int" ∧
      (Failure.signature fault).text = "unbalanced parenthesis in '(int'".toList ∧
      ¬ Text.quoted (Text.trim "F(a int) (int") <:+: (Failure.signature fault).text :=
  ⟨.list (.unbalanced "(int"), by decide⟩

end WrapperGen
