import WrapperGen.Proofs.Literal.Escape
import WrapperGen.Proofs.Text.Encoding

/-!
# Values of literals

`Denotes` says which texts are literals, and of which value: a body between back-quotes without its
carriage returns, or the units between double quotes, whose bytes encode the value together. A
literal is accepted by its delimiters and read by its units, which are two passes with rules of
their own. They agree (`units_iff`), so a literal is read as what it denotes (`unquote_outcome`).
-/

namespace WrapperGen.Literal

/-- The character stands for itself in an interpreted literal. -/
def Plain (c : Char) : Prop := c ≠ '"' ∧ c ≠ '\\' ∧ c ≠ '\n'

instance (c : Char) : Decidable (Plain c) := inferInstanceAs (Decidable (_ ∧ _))

/-- The text of a unit of an interpreted literal, and the bytes that it contributes. -/
inductive UnitText : Text → List UInt8 → Prop
  | char {c : Char} (h : Plain c) : UnitText [c] (String.utf8EncodeChar c)
  | escape {text : Text} {bytes : List UInt8} (h : EscapeText text bytes) :
      UnitText ('\\' :: text) bytes

/-- The text of a sequence of units, and the bytes of all of them in order. -/
inductive UnitsText : Text → List UInt8 → Prop
  | nil : UnitsText [] []
  | cons {text rest : Text} {bytes others : List UInt8} (hunit : UnitText text bytes)
      (hrest : UnitsText rest others) : UnitsText (text ++ rest) (bytes ++ others)

/-- The text is a literal of the value. -/
inductive Denotes : Text → Text → Prop
  | raw {body : Text} (h : '\x60' ∉ body) :
      Denotes ('\x60' :: (body ++ ['\x60'])) (body.filter (· != '\r'))
  | interpreted {body value : Text} {bytes : List UInt8} (hunits : UnitsText body bytes)
      (hvalue : value.encode = bytes) : Denotes ('"' :: (body ++ ['"'])) value

/-! ## Reading the units -/

theorem closesInterpreted_cons {c : Char} (hc : c ≠ '\\') {text : Text} (htext : text ≠ []) :
    closesInterpreted (c :: text) = true ↔ Plain c ∧ closesInterpreted text = true := by
  cases text with
  | nil => exact absurd rfl htext
  | cons d rest => simp [closesInterpreted, Plain, hc, and_assoc]

theorem closesInterpreted_backslash {d : Char} {rest : Text} :
    closesInterpreted ('\\' :: d :: rest) = true ↔ d ≠ '\n' ∧ closesInterpreted rest = true := by
  simp [closesInterpreted]

/-- Characters that stand for themselves do not decide where a literal ends. -/
theorem closesInterpreted_append {digits rest : Text} (hdigits : ∀ c ∈ digits, Plain c)
    (hrest : rest ≠ []) :
    closesInterpreted (digits ++ rest) = true ↔ closesInterpreted rest = true := by
  induction digits with
  | nil => rfl
  | cons c digits ih =>
    obtain ⟨hc, hdigits⟩ := List.forall_mem_cons.1 hdigits
    rw [List.cons_append, closesInterpreted_cons hc.2.1 (by simp [hrest]), ih hdigits]
    exact and_iff_right hc

theorem unitBytes_cons {c : Char} (hc : c ≠ '\\') (text : Text) :
    unitBytes (c :: text) = (unitBytes text).map (String.utf8EncodeChar c ++ ·) := by
  cases text with
  | nil => simp [unitBytes, Except.map]
  | cons d rest => rw [unitBytes, if_neg hc]

/-- After a backslash, the units go on where the escape ends. -/
theorem unitBytes_backslash_eq_ok_iff {d : Char} {rest : Text} {bytes : List UInt8} :
    unitBytes ('\\' :: d :: rest) = .ok bytes ↔
      ∃ digits after first others, rest = digits ++ after ∧ EscapeText (d :: digits) first ∧
        unitBytes after = .ok others ∧ first ++ others = bytes := by
  rw [unitBytes, if_pos rfl]
  constructor
  · intro h
    cases hfirst : (readEscape d rest).1 with
    | error fault =>
      rw [hfirst] at h
      exact absurd h (by simp)
    | ok first =>
      rw [hfirst] at h
      obtain ⟨others, hothers, hbytes⟩ := map_eq_ok_iff.1 h
      obtain ⟨digits, hrest, hescape⟩ := readEscape_eq_ok_iff.1 (Prod.ext hfirst rfl)
      exact ⟨digits, _, first, others, hrest, hescape, hothers, hbytes⟩
  · rintro ⟨digits, after, first, others, hrest, hescape, hothers, hbytes⟩
    rw [readEscape_eq_ok_iff.2 ⟨digits, hrest, hescape⟩]
    exact map_eq_ok_iff.2 ⟨others, hothers, hbytes⟩

theorem IsDigit.plain {base value : Nat} {c : Char} (h : IsDigit base c value)
    (hbase : base ≤ 16) : Plain c := by
  have hvalue : value < 16 := lt_of_lt_of_le h.1 hbase
  obtain ⟨-, rfl | rfl⟩ := h
  · interval_cases value <;> decide
  · interval_cases value <;> decide

theorem Numeral.plain {base n : Nat} {digits : Text} (h : Numeral base digits n)
    (hbase : base ≤ 16) : ∀ c ∈ digits, Plain c := by
  intro c hc
  obtain ⟨value, hdigit⟩ := h.exists_isDigit hc
  exact hdigit.plain hbase

/-- No character of an escape ends the literal or begins another escape. -/
theorem EscapeText.plain {c : Char} {digits : Text} {bytes : List UInt8}
    (h : EscapeText (c :: digits) bytes) : c ≠ '\n' ∧ ∀ d ∈ digits, Plain d := by
  cases h with
  | simple hletter =>
    refine ⟨?_, by simp⟩
    rintro rfl
    exact nomatch hletter
  | hexadecimal _ hnumeral => exact ⟨by decide, hnumeral.plain (by decide)⟩
  | octal _ hnumeral =>
    obtain ⟨hfirst, hdigits⟩ := List.forall_mem_cons.1 (hnumeral.plain (by decide))
    exact ⟨hfirst.2.2, hdigits⟩
  | codePoint hlength hnumeral =>
    refine ⟨?_, hnumeral.plain (by decide)⟩
    rintro rfl
    exact nomatch hlength

theorem EscapeText.ne_nil {text : Text} {bytes : List UInt8} (h : EscapeText text bytes) :
    text ≠ [] := by
  cases h with
  | octal hlength _ =>
    rintro rfl
    simp at hlength
  | _ => simp

/-- What is accepted as units consists of units. -/
theorem unitsText_of_unitBytes {body : Text} {bytes : List UInt8}
    (hcloses : closesInterpreted (body ++ ['"']) = true) (hbytes : unitBytes body = .ok bytes) :
    UnitsText body bytes := by
  -- an escape takes several characters, so the induction is on the length
  induction hn : body.length using Nat.strongRecOn generalizing body bytes with
  | ind n ih =>
    cases body with
    | nil =>
      obtain rfl : [] = bytes := by simpa [unitBytes] using hbytes
      exact .nil
    | cons c body =>
      by_cases hc : c = '\\'
      · subst hc
        cases body with
        | nil => exact absurd hcloses (by decide)
        | cons d rest =>
          obtain ⟨digits, after, first, others, rfl, hescape, hothers, rfl⟩ :=
            unitBytes_backslash_eq_ok_iff.1 hbytes
          have hafter : closesInterpreted (after ++ ['"']) = true := by
            rw [List.cons_append, List.cons_append, List.append_assoc,
              closesInterpreted_backslash] at hcloses
            exact (closesInterpreted_append hescape.plain.2 (by simp)).1 hcloses.2
          have hshort : after.length < n := by
            rw [← hn]
            simp only [List.length_cons, List.length_append]
            omega
          exact .cons (.escape hescape) (ih _ hshort hafter hothers rfl)
      · rw [List.cons_append, closesInterpreted_cons hc (by simp)] at hcloses
        rw [unitBytes_cons hc, map_eq_ok_iff] at hbytes
        obtain ⟨others, hothers, rfl⟩ := hbytes
        have hshort : body.length < n := by
          rw [← hn, List.length_cons]
          omega
        exact .cons (.char hcloses.1) (ih _ hshort hcloses.2 hothers rfl)

/-- The two passes over the characters between double quotes accept the units and nothing else. -/
theorem units_iff {body : Text} {bytes : List UInt8} :
    closesInterpreted (body ++ ['"']) = true ∧ unitBytes body = .ok bytes ↔
      UnitsText body bytes := by
  constructor
  · rintro ⟨hcloses, hbytes⟩
    exact unitsText_of_unitBytes hcloses hbytes
  · intro h
    induction h with
    | nil => exact ⟨rfl, by rw [unitBytes]⟩
    | cons hunit _ ih =>
      obtain ⟨hcloses, hbytes⟩ := ih
      cases hunit with
      | char hplain =>
        refine ⟨?_, ?_⟩
        · exact (closesInterpreted_cons hplain.2.1 (by simp)).2 ⟨hplain, hcloses⟩
        · rw [List.singleton_append, unitBytes_cons hplain.2.1, hbytes]
          rfl
      | escape hescape =>
        obtain ⟨d, digits, rfl⟩ := List.exists_cons_of_ne_nil hescape.ne_nil
        refine ⟨?_, ?_⟩
        · simp only [List.cons_append, List.append_assoc]
          refine closesInterpreted_backslash.2 ⟨hescape.plain.1, ?_⟩
          exact (closesInterpreted_append hescape.plain.2 (by simp)).2 hcloses
        · exact unitBytes_backslash_eq_ok_iff.2 ⟨digits, _, _, _, rfl, hescape, hbytes, rfl⟩

/-! ## Delimiters -/

/-- A literal that is closed by a double quote ends with it. -/
theorem exists_body_of_closesInterpreted {rest : Text} (h : closesInterpreted rest = true) :
    ∃ body, rest = body ++ ['"'] := by
  fun_induction closesInterpreted rest with
  | case1 => exact absurd h (by simp)
  | case2 c => exact ⟨[], by simpa using h⟩
  | case3 d rest ih =>
    obtain ⟨body, rfl⟩ := ih (by simpa using (Bool.and_eq_true_iff.1 h).2)
    exact ⟨'\\' :: d :: body, rfl⟩
  | case4 c d rest hc ih =>
    obtain ⟨body, hbody⟩ := ih (by simpa using (Bool.and_eq_true_iff.1 h).2)
    exact ⟨c :: body, by rw [hbody, List.cons_append]⟩

theorem closesRaw_iff {rest : Text} :
    closesRaw rest = true ↔ ∃ body, rest = body ++ ['\x60'] ∧ '\x60' ∉ body := by
  constructor
  · intro h
    fun_induction closesRaw rest with
    | case1 => exact absurd h (by simp)
    | case2 c => exact ⟨[], by simpa using h, List.not_mem_nil⟩
    | case3 c rest hrest ih =>
      obtain ⟨hc, htail⟩ := Bool.and_eq_true_iff.1 h
      obtain ⟨body, rfl, hbody⟩ := ih htail
      refine ⟨c :: body, rfl, ?_⟩
      rw [List.mem_cons, not_or]
      exact ⟨Ne.symm (bne_iff_ne.1 hc), hbody⟩
  · rintro ⟨body, rfl, hbody⟩
    induction body with
    | nil => rfl
    | cons c body ih =>
      rw [List.mem_cons, not_or] at hbody
      rw [List.cons_append, closesRaw, ih hbody.2, Bool.and_true, bne_iff_ne]
      · exact Ne.symm hbody.1
      · simp

/-- A literal stands between two delimiters of one kind. -/
theorem isDelimited_iff {literal : Text} :
    isDelimited literal = true ↔
      (∃ body, literal = '\x60' :: (body ++ ['\x60']) ∧ '\x60' ∉ body) ∨
        ∃ body, literal = '"' :: (body ++ ['"']) ∧ closesInterpreted (body ++ ['"']) = true := by
  constructor
  · intro h
    unfold isDelimited at h
    split at h
    · next rest =>
      obtain ⟨body, rfl⟩ := exists_body_of_closesInterpreted h
      exact .inr ⟨body, rfl, h⟩
    · next rest =>
      obtain ⟨body, rfl, hbody⟩ := closesRaw_iff.1 h
      exact .inl ⟨body, rfl, hbody⟩
    · exact absurd h (by simp)
  · rintro (⟨body, rfl, hbody⟩ | ⟨body, rfl, hcloses⟩)
    · exact closesRaw_iff.2 ⟨body, rfl, hbody⟩
    · exact hcloses

theorem interpretedValue_eq_ok_iff {body value : Text} :
    interpretedValue body = .ok value ↔
      ∃ bytes, unitBytes body = .ok bytes ∧ value.encode = bytes := by
  simp only [← Text.decode?_eq_some_iff]
  rw [interpretedValue]
  cases unitBytes body with
  | error fault => simp
  | ok bytes => cases hdecode : Text.decode? bytes <;> simp [hdecode]

/-! ## Literals -/

theorem dropFinalLineFeed_concat (text : Text) {c : Char} (hc : c ≠ '\n') :
    dropFinalLineFeed (text ++ [c]) = text ++ [c] := by
  rw [dropFinalLineFeed, List.getLast?_concat, if_neg (by simpa using hc)]

theorem unquote_raw {body : Text} (hbody : '\x60' ∉ body) :
    unquote ('\x60' :: (body ++ ['\x60'])) = .ok (body.filter (· != '\r')) := by
  rw [unquote, ← List.cons_append, dropFinalLineFeed_concat _ (by decide), List.cons_append,
    if_pos (isDelimited_iff.2 (.inl ⟨body, rfl, hbody⟩)), List.head?_cons, if_pos rfl,
    List.tail_cons, List.dropLast_concat]

theorem unquote_interpreted {body : Text} (hcloses : closesInterpreted (body ++ ['"']) = true) :
    unquote ('"' :: (body ++ ['"'])) = interpretedValue body := by
  rw [unquote, ← List.cons_append, dropFinalLineFeed_concat _ (by decide), List.cons_append,
    if_pos (isDelimited_iff.2 (.inr ⟨body, rfl, hcloses⟩)), List.head?_cons, if_neg (by decide),
    List.tail_cons, List.dropLast_concat]

theorem unquote_eq_ok_iff {literal value : Text} (h : literal.getLast? ≠ some '\n') :
    unquote literal = .ok value ↔ Denotes literal value := by
  constructor
  · intro hvalue
    by_cases hdelimited : isDelimited literal = true
    · obtain ⟨body, rfl, hbody⟩ | ⟨body, rfl, hcloses⟩ := isDelimited_iff.1 hdelimited
      · rw [unquote_raw hbody] at hvalue
        obtain rfl := Except.ok.inj hvalue
        exact .raw hbody
      · rw [unquote_interpreted hcloses] at hvalue
        obtain ⟨bytes, hbytes, hencode⟩ := interpretedValue_eq_ok_iff.1 hvalue
        exact .interpreted (units_iff.1 ⟨hcloses, hbytes⟩) hencode
    · rw [unquote, dropFinalLineFeed, if_neg h, if_neg hdelimited] at hvalue
      exact absurd hvalue (by simp)
  · intro hdenotes
    cases hdenotes with
    | raw hbody => exact unquote_raw hbody
    | interpreted hunits hencode =>
      obtain ⟨hcloses, hbytes⟩ := units_iff.2 hunits
      rw [unquote_interpreted hcloses]
      exact interpretedValue_eq_ok_iff.2 ⟨_, hbytes, hencode⟩

/--
A text that does not end in a line feed is read as the value that it denotes as a literal, and it is
rejected if it denotes none.
-/
theorem unquote_outcome {literal : Text} (h : literal.getLast? ≠ some '\n') :
    (∀ value, unquote literal = .ok value ↔ Denotes literal value) ∧
      ((∀ value, ¬ Denotes literal value) → ∃ fault, unquote literal = .error fault) := by
  refine ⟨fun value => unquote_eq_ok_iff h, fun hnone => ?_⟩
  cases hvalue : unquote literal with
  | error fault => exact ⟨fault, rfl⟩
  | ok value => exact absurd ((unquote_eq_ok_iff h).1 hvalue) (hnone value)

/-- Two bytes of one character may come from two escapes. -/
theorem unquote_outcome_split :
    ("\"\\xc3\\251\\n\"" : Text).getLast? ≠ some '\n' ∧
      Denotes "\"\\xc3\\251\\n\"" "é\n" :=
  ⟨by decide, ((unquote_outcome (by decide)).1 _).1 (by decide +kernel)⟩

end WrapperGen.Literal
