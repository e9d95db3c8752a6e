import Mathlib.Data.Nat.Digits.Lemmas
import Mathlib.Tactic.IntervalCases
import WrapperGen.Literal
import WrapperGen.Proofs.Outcome

/-!
# Escapes

`EscapeText` lists the escapes of an interpreted literal with the bytes that they denote: a letter,
or a number in digits, whose count and base depend on what begins the escape. The reader takes
exactly these off the front of a text (`readEscape_eq_ok_iff`).
-/

namespace WrapperGen.Literal

/-! ## Numbers -/

/-- The character is the digit with a value in a base; letters may be of either case. -/
def IsDigit (base : Nat) (c : Char) (value : Nat) : Prop :=
  value < base ∧ (c = Nat.digitChar value ∨ c = (Nat.digitChar value).toUpper)

/-- The digits are the numeral of a number in a base, the most significant digit first. -/
def Numeral (base : Nat) (digits : Text) (n : Nat) : Prop :=
  ∃ values, List.Forall₂ (IsDigit base) digits values ∧ Nat.ofDigits base values.reverse = n

theorem Numeral.lt {base n : Nat} {digits : Text} (h : Numeral base digits n) (hbase : 1 < base) :
    n < base ^ digits.length := by
  obtain ⟨values, hvalues, rfl⟩ := h
  rw [hvalues.length_eq, ← List.length_reverse]
  refine Nat.ofDigits_lt_base_pow_length hbase fun value hvalue => ?_
  obtain ⟨i, hi, rfl⟩ := List.mem_iff_getElem.1 (List.mem_reverse.1 hvalue)
  exact ((List.forall₂_iff_get.1 hvalues).2 i (hvalues.length_eq ▸ hi) hi).1

instance (base : Nat) (c : Char) (value : Nat) : Decidable (IsDigit base c value) :=
  inferInstanceAs (Decidable (_ ∧ _))

theorem toNat_lt_of_le {c high : Char} (h : c ≤ high) : c.toNat < high.toNat + 1 :=
  Nat.lt_succ_of_le (UInt32.le_iff_toNat_le.1 h)

theorem hexDigit?_eq_some_iff (c : Char) (value : Nat) :
    hexDigit? c = some value ↔ IsDigit 16 c value := by
  constructor
  · intro h
    have hascii : c.toNat < 103 := by
      unfold hexDigit? at h
      split at h
      · next hrange => exact lt_of_lt_of_le (toNat_lt_of_le hrange.2) (by decide)
      · split at h
        · next hrange => exact toNat_lt_of_le hrange.2
        · split at h
          · next hrange => exact lt_of_lt_of_le (toNat_lt_of_le hrange.2) (by decide)
          · exact absurd h (by simp)
    have hall : ∀ n, n < 103 → ∀ value ∈ hexDigit? (Char.ofNat n),
        IsDigit 16 (Char.ofNat n) value := by decide
    have hchar := hall c.toNat hascii
    rw [Char.ofNat_toNat] at hchar
    exact hchar value h
  · rintro ⟨hlt, rfl | rfl⟩
    · interval_cases value <;> decide
    · interval_cases value <;> decide

theorem octalDigit?_eq_some_iff (c : Char) (value : Nat) :
    octalDigit? c = some value ↔ IsDigit 8 c value := by
  constructor
  · intro h
    have hascii : c.toNat < 56 := by
      unfold octalDigit? at h
      split at h
      · next hrange => exact toNat_lt_of_le hrange.2
      · exact absurd h (by simp)
    have hall : ∀ n, n < 56 → ∀ value ∈ octalDigit? (Char.ofNat n),
        IsDigit 8 (Char.ofNat n) value := by decide
    have hchar := hall c.toNat hascii
    rw [Char.ofNat_toNat] at hchar
    exact hchar value h
  · rintro ⟨hlt, rfl | rfl⟩
    · interval_cases value <;> decide
    · interval_cases value <;> decide

theorem number?_eq_some_iff {digit? : Char → Option Nat} {base : Nat}
    (hdigit : ∀ c value, digit? c = some value ↔ IsDigit base c value) {digits : Text} {n : Nat} :
    number? digit? base digits = some n ↔ Numeral base digits n := by
  have hfold : ∀ values : List Nat,
      values.foldl (fun n d => n * base + d) 0 = Nat.ofDigits base values.reverse := by
    intro values
    rw [Nat.ofDigits_eq_foldr, List.foldr_reverse]
    congr 1
    funext n d
    rw [Nat.cast_id, Nat.mul_comm, Nat.add_comm]
  rw [number?, Option.map_eq_some_iff]
  simp only [mapM_eq_some_iff, hdigit, hfold]
  rfl

/-- A number is read off the front of a text. -/
theorem leadingNumber?_eq_some_iff {digit? : Char → Option Nat} {base count n : Nat}
    (hdigit : ∀ c value, digit? c = some value ↔ IsDigit base c value) {text after : Text} :
    leadingNumber? digit? base count text = some (n, after) ↔
      ∃ digits, text = digits ++ after ∧ digits.length = count ∧ Numeral base digits n := by
  rw [leadingNumber?]
  constructor
  · intro h
    split at h
    · next hlength =>
      obtain ⟨m, hnumber, heq⟩ := Option.map_eq_some_iff.1 h
      obtain ⟨rfl, rfl⟩ : m = n ∧ text.drop count = after := by simpa using heq
      exact ⟨text.take count, (List.take_append_drop count text).symm, hlength,
        (number?_eq_some_iff hdigit).1 hnumber⟩
    · exact absurd h (by simp)
  · rintro ⟨digits, rfl, rfl, hnumeral⟩
    rw [List.take_left, List.drop_left, if_pos rfl, (number?_eq_some_iff hdigit).2 hnumeral]
    rfl

/-! ## Escapes -/

/-- The letters that stand for a character after a backslash. -/
def simpleEscapes : List (Char × Char) := [
  ('a', '\x07'), ('b', '\x08'), ('f', '\x0c'), ('n', '\n'), ('r', '\r'), ('t', '\t'),
  ('v', '\x0b'), ('\\', '\\'), ('"', '"')]

/-- The letters that begin the escape of a code point, and how many digits follow them. -/
def codePointEscapes : List (Char × Nat) := [('u', 4), ('U', 8)]

/-- The text of an escape after its backslash, and the bytes that the escape denotes. -/
inductive EscapeText : Text → List UInt8 → Prop
  | simple {letter c : Char} (h : simpleEscapes.lookup letter = some c) :
      EscapeText [letter] (String.utf8EncodeChar c)
  /-- Two hexadecimal digits are the numeral of a byte. -/
  | hexadecimal {digits : Text} {byte : UInt8} (hlength : digits.length = 2)
      (h : Numeral 16 digits byte.toNat) : EscapeText ('x' :: digits) [byte]
  /-- Three octal digits are the numeral of a byte, unless they exceed 255. -/
  | octal {digits : Text} {byte : UInt8} (hlength : digits.length = 3)
      (h : Numeral 8 digits byte.toNat) : EscapeText digits [byte]
  /-- Four or eight hexadecimal digits are the numeral of a character, if there is one. -/
  | codePoint {letter : Char} {digits : Text} {c : Char}
      (hlength : codePointEscapes.lookup letter = some digits.length)
      (h : Numeral 16 digits c.toNat) : EscapeText (letter :: digits) (String.utf8EncodeChar c)

theorem simpleEscape?_eq_lookup (letter : Char) :
    simpleEscape? letter = simpleEscapes.lookup letter := by
  have hcons : ∀ (key value : Char) (rest : List (Char × Char)),
      ((key, value) :: rest).lookup letter =
        if letter = key then some value else rest.lookup letter := by
    intro key value rest
    rw [List.lookup_cons]
    by_cases h : letter = key
    · simp [h]
    · simp [h, beq_eq_false_iff_ne.2 h]
  simp only [simpleEscape?, simpleEscapes, hcons, List.lookup_nil]

theorem simpleBytes_eq_ok_iff {letter : Char} {bytes : List UInt8} :
    simpleBytes letter = .ok bytes ↔
      ∃ c, simpleEscapes.lookup letter = some c ∧ String.utf8EncodeChar c = bytes := by
  rw [simpleBytes, simpleEscape?_eq_lookup]
  cases simpleEscapes.lookup letter with
  | none => simp
  | some c => simp

theorem codePointBytes_eq_ok_iff {n : Nat} {bytes : List UInt8} :
    codePointBytes n = .ok bytes ↔ ∃ c : Char, c.toNat = n ∧ String.utf8EncodeChar c = bytes := by
  rw [codePointBytes]
  constructor
  · intro h
    split at h
    · next hvalid =>
      have hn : (Char.ofNat n).toNat = n := by
        rw [Char.ofNat, dif_pos hvalid]
        rfl
      exact ⟨Char.ofNat n, hn, Except.ok.inj h⟩
    · exact absurd h (by simp)
  · rintro ⟨c, rfl, rfl⟩
    have hvalid : c.toNat.isValidChar := c.valid
    rw [if_pos hvalid, Char.ofNat_toNat]

theorem toUInt8_eq_iff {n : Nat} (hn : n < 256) {bytes : List UInt8} :
    [n.toUInt8] = bytes ↔ ∃ byte : UInt8, byte.toNat = n ∧ [byte] = bytes := by
  constructor
  · rintro rfl
    exact ⟨n.toUInt8, UInt8.toNat_ofNat_of_lt' hn, rfl⟩
  · rintro ⟨byte, rfl, rfl⟩
    rw [Nat.toUInt8, UInt8.ofNat_toNat]

theorem octalByte_eq_ok_iff {n : Nat} {bytes : List UInt8} :
    octalByte n = .ok bytes ↔ ∃ byte : UInt8, byte.toNat = n ∧ [byte] = bytes := by
  rw [octalByte]
  split
  · next hle => rw [Except.ok.injEq, toUInt8_eq_iff (by omega)]
  · next hlarge =>
    have hnone : ∀ byte : UInt8, byte.toNat ≠ n := by
      intro byte hbyte
      have := byte.toNat_lt
      omega
    simp [hnone]

/-! ## Reading -/

/--
An escape with a number in digits is read if the digits are there; otherwise the reader goes on with
what is read instead.
-/
theorem getD_leadingNumber?_eq_ok_iff {digit? : Char → Option Nat} {base count : Nat}
    (hdigit : ∀ c value, digit? c = some value ↔ IsDigit base c value)
    (denoted : Nat → Except Fault (List UInt8)) {instead : Except Fault (List UInt8)}
    {text rest after : Text} {bytes : List UInt8} (hinstead : instead ≠ .ok bytes) :
    ((leadingNumber? digit? base count text).map fun found => (denoted found.1, found.2)).getD
        (instead, rest) = (.ok bytes, after) ↔
      ∃ digits n, text = digits ++ after ∧ digits.length = count ∧ Numeral base digits n ∧
        denoted n = .ok bytes := by
  constructor
  · intro h
    cases hlead : leadingNumber? digit? base count text with
    | none =>
      rw [hlead] at h
      exact absurd (congrArg Prod.fst h) hinstead
    | some found =>
      obtain ⟨n, rest'⟩ := found
      rw [hlead] at h
      obtain ⟨hdenoted, rfl⟩ : denoted n = .ok bytes ∧ rest' = after := by simpa using h
      obtain ⟨digits, htext, hlength, hnumeral⟩ := (leadingNumber?_eq_some_iff hdigit).1 hlead
      exact ⟨digits, n, htext, hlength, hnumeral, hdenoted⟩
  · rintro ⟨digits, n, htext, hlength, hnumeral, hdenoted⟩
    have hlead := (leadingNumber?_eq_some_iff hdigit).2 ⟨digits, htext, hlength, hnumeral⟩
    rw [hlead, Option.map_some, Option.getD_some, hdenoted]

theorem Numeral.exists_isDigit {base n : Nat} {c : Char} {digits : Text}
    (h : Numeral base digits n) (hc : c ∈ digits) : ∃ value, IsDigit base c value := by
  obtain ⟨values, hvalues, -⟩ := h
  induction hvalues with
  | nil => exact absurd hc (List.not_mem_nil)
  | cons hdigit _ ih =>
    rcases List.mem_cons.1 hc with rfl | hc
    · exact ⟨_, hdigit⟩
    · exact ih hc

/-- The first character of an octal numeral is an octal digit. -/
theorem Numeral.octalDigit?_ne_none {n : Nat} {c : Char} {digits : Text}
    (h : Numeral 8 (c :: digits) n) : octalDigit? c ≠ none := by
  obtain ⟨value, hdigit⟩ := h.exists_isDigit List.mem_cons_self
  rw [(octalDigit?_eq_some_iff c value).2 hdigit]
  exact Option.some_ne_none value

/-- No octal digit is a letter that stands for a character. -/
theorem octalDigit?_eq_none_of_lookup {letter c : Char}
    (h : simpleEscapes.lookup letter = some c) : octalDigit? letter = none := by
  have hall : ∀ entry ∈ simpleEscapes, octalDigit? entry.1 = none := by decide
  exact hall _ (mem_of_lookup_eq_some h)

theorem octalDigit?_eq_none_of_codePoint {letter : Char} {count : Nat}
    (h : codePointEscapes.lookup letter = some count) : octalDigit? letter = none := by
  have hall : ∀ entry ∈ codePointEscapes, octalDigit? entry.1 = none := by decide
  exact hall _ (mem_of_lookup_eq_some h)

theorem simpleBytes_ne_ok (letter : Char) (h : simpleEscapes.lookup letter = none)
    (bytes : List UInt8) : simpleBytes letter ≠ .ok bytes := by
  intro hbytes
  obtain ⟨c, hc, -⟩ := simpleBytes_eq_ok_iff.1 hbytes
  rw [h] at hc
  exact absurd hc (by simp)

/-- The escape that the letter 'x' begins. -/
theorem escapeText_hexadecimal_iff {digits : Text} {bytes : List UInt8} :
    EscapeText ('x' :: digits) bytes ↔
      ∃ n, digits.length = 2 ∧ Numeral 16 digits n ∧
        (.ok [n.toUInt8] : Except Fault (List UInt8)) = .ok bytes := by
  constructor
  · intro h
    cases h with
    | simple hletter => exact nomatch hletter
    | hexadecimal hlength hnumeral =>
      exact ⟨_, hlength, hnumeral, by rw [Nat.toUInt8, UInt8.ofNat_toNat]⟩
    | octal _ hnumeral => exact absurd (by decide) hnumeral.octalDigit?_ne_none
    | codePoint hlength => exact nomatch hlength
  · rintro ⟨n, hlength, hnumeral, hbytes⟩
    have hlt : n < 256 := by
      have := hnumeral.lt (by decide)
      rwa [hlength] at this
    obtain ⟨byte, rfl, rfl⟩ := (toUInt8_eq_iff hlt).1 (Except.ok.inj hbytes)
    exact .hexadecimal hlength hnumeral

/-- The escape that a letter for code points begins. -/
theorem escapeText_codePoint_iff {letter : Char} {count : Nat}
    (hletter : codePointEscapes.lookup letter = some count) {digits : Text}
    {bytes : List UInt8} :
    EscapeText (letter :: digits) bytes ↔
      ∃ n, digits.length = count ∧ Numeral 16 digits n ∧ codePointBytes n = .ok bytes := by
  have hletters : ∀ entry ∈ codePointEscapes,
      simpleEscapes.lookup entry.1 = none ∧ entry.1 ≠ 'x' := by decide
  obtain ⟨hsimple, hx⟩ := hletters _ (mem_of_lookup_eq_some hletter)
  have hoctal := octalDigit?_eq_none_of_codePoint hletter
  constructor
  · intro h
    cases h with
    | simple hlookup => exact absurd (hsimple.symm.trans hlookup) (by simp)
    | hexadecimal => exact absurd rfl hx
    | octal _ hnumeral => exact absurd hoctal hnumeral.octalDigit?_ne_none
    | codePoint hlength hnumeral =>
      obtain rfl := Option.some.inj (hletter.symm.trans hlength)
      exact ⟨_, rfl, hnumeral, codePointBytes_eq_ok_iff.2 ⟨_, rfl, rfl⟩⟩
  · rintro ⟨n, rfl, hnumeral, hbytes⟩
    obtain ⟨c, rfl, rfl⟩ := codePointBytes_eq_ok_iff.1 hbytes
    exact .codePoint hletter hnumeral

/-- The escape that an octal digit begins. -/
theorem escapeText_octal_iff {c : Char} (hc : octalDigit? c ≠ none) {digits : Text}
    {bytes : List UInt8} :
    EscapeText (c :: digits) bytes ↔
      ∃ n, (c :: digits).length = 3 ∧ Numeral 8 (c :: digits) n ∧ octalByte n = .ok bytes := by
  constructor
  · intro h
    cases h with
    | simple hletter => exact absurd (octalDigit?_eq_none_of_lookup hletter) hc
    | octal hlength hnumeral =>
      exact ⟨_, hlength, hnumeral, octalByte_eq_ok_iff.2 ⟨_, rfl, rfl⟩⟩
    | hexadecimal => exact absurd (by decide) hc
    | codePoint hlength => exact absurd (octalDigit?_eq_none_of_codePoint hlength) hc
  · rintro ⟨n, hlength, hnumeral, hbytes⟩
    obtain ⟨byte, rfl, rfl⟩ := octalByte_eq_ok_iff.1 hbytes
    exact .octal hlength hnumeral

/-- The escape that any other character begins. -/
theorem escapeText_simple_iff {c : Char} (hx : c ≠ 'x')
    (hcodePoint : codePointEscapes.lookup c = none) (hc : octalDigit? c = none) {digits : Text}
    {bytes : List UInt8} :
    EscapeText (c :: digits) bytes ↔ digits = [] ∧ simpleBytes c = .ok bytes := by
  constructor
  · intro h
    cases h with
    | simple hletter => exact ⟨rfl, simpleBytes_eq_ok_iff.2 ⟨_, hletter, rfl⟩⟩
    | octal _ hnumeral => exact absurd hc hnumeral.octalDigit?_ne_none
    | hexadecimal => exact absurd rfl hx
    | codePoint hlength => exact absurd (hcodePoint.symm.trans hlength) (by simp)
  · rintro ⟨rfl, hbytes⟩
    obtain ⟨d, hletter, rfl⟩ := simpleBytes_eq_ok_iff.1 hbytes
    exact .simple hletter

/-- A character that begins no other numeric escape is read with two more digits or on its own. -/
theorem getD_octal_eq_ok_iff {c : Char} (hx : c ≠ 'x')
    (hcodePoint : codePointEscapes.lookup c = none) {rest after : Text} {bytes : List UInt8} :
    ((leadingNumber? octalDigit? 8 3 (c :: rest)).map fun found =>
        (octalByte found.1, found.2)).getD (simpleBytes c, rest) = (.ok bytes, after) ↔
      ∃ digits, rest = digits ++ after ∧ EscapeText (c :: digits) bytes := by
  by_cases hc : octalDigit? c = none
  · have hnone : leadingNumber? octalDigit? 8 3 (c :: rest) = none := by
      rw [Option.eq_none_iff_forall_ne_some]
      rintro ⟨n, after'⟩ hfound
      obtain ⟨digits, htext, hlength, hnumeral⟩ :=
        (leadingNumber?_eq_some_iff octalDigit?_eq_some_iff).1 hfound
      cases digits with
      | nil => simp at hlength
      | cons d digits =>
        obtain ⟨rfl, -⟩ := List.cons.inj htext
        exact hnumeral.octalDigit?_ne_none hc
    simp only [hnone, escapeText_simple_iff hx hcodePoint hc]
    constructor
    · intro h
      obtain ⟨hbytes, rfl⟩ := Prod.mk.inj h
      exact ⟨[], rfl, rfl, hbytes⟩
    · rintro ⟨digits, rfl, rfl, hbytes⟩
      simp [hbytes]
  · have hletter : simpleEscapes.lookup c = none := by
      rw [Option.eq_none_iff_forall_ne_some]
      exact fun d hd => hc (octalDigit?_eq_none_of_lookup hd)
    rw [getD_leadingNumber?_eq_ok_iff octalDigit?_eq_some_iff octalByte
      (simpleBytes_ne_ok c hletter bytes)]
    simp only [escapeText_octal_iff hc]
    constructor
    · rintro ⟨digits, n, htext, hlength, hnumeral, hbytes⟩
      cases digits with
      | nil => simp at hlength
      | cons d digits =>
        obtain ⟨rfl, hrest⟩ := List.cons.inj htext
        exact ⟨digits, hrest, n, hlength, hnumeral, hbytes⟩
    · rintro ⟨digits, rfl, n, hlength, hnumeral, hbytes⟩
      exact ⟨c :: digits, n, rfl, hlength, hnumeral, hbytes⟩

/-- The reader takes an escape off the front of a text, and nothing else. -/
theorem readEscape_eq_ok_iff {c : Char} {rest after : Text} {bytes : List UInt8} :
    readEscape c rest = (.ok bytes, after) ↔
      ∃ digits, rest = digits ++ after ∧ EscapeText (c :: digits) bytes := by
  unfold readEscape
  simp only
  by_cases hx : c = 'x'
  · subst hx
    have hinstead := simpleBytes_ne_ok 'x' (by decide) bytes
    rw [if_pos rfl, getD_leadingNumber?_eq_ok_iff hexDigit?_eq_some_iff
      (fun n => .ok [n.toUInt8]) hinstead]
    simp only [escapeText_hexadecimal_iff, exists_and_left]
  rw [if_neg hx]
  by_cases hu : c = 'u'
  · subst hu
    have hinstead := simpleBytes_ne_ok 'u' (by decide) bytes
    have hletter : codePointEscapes.lookup 'u' = some 4 := by decide
    rw [if_pos rfl, getD_leadingNumber?_eq_ok_iff hexDigit?_eq_some_iff codePointBytes
      hinstead]
    simp only [escapeText_codePoint_iff hletter, exists_and_left]
  rw [if_neg hu]
  by_cases hU : c = 'U'
  · subst hU
    have hinstead := simpleBytes_ne_ok 'U' (by decide) bytes
    have hletter : codePointEscapes.lookup 'U' = some 8 := by decide
    rw [if_pos rfl, getD_leadingNumber?_eq_ok_iff hexDigit?_eq_some_iff codePointBytes
      hinstead]
    simp only [escapeText_codePoint_iff hletter, exists_and_left]
  rw [if_neg hU]
  have hcodePoint : codePointEscapes.lookup c = none := by
    simp [codePointEscapes, List.lookup_cons, beq_eq_false_iff_ne.2 hu, beq_eq_false_iff_ne.2 hU]
  exact getD_octal_eq_ok_iff hx hcodePoint

end WrapperGen.Literal
