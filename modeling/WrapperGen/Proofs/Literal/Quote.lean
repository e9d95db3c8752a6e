import WrapperGen.Proofs.Literal.Value

/-!
# Quoting

Every character is quoted as one unit of an interpreted literal, and the unit contributes the bytes
that encode the character (`unitText_quoteChar`). So the quoted form of a text denotes that text,
whatever escapes the text itself seems to hold. Where it ends is certain as well: no literal begins
with another one (`isDelimited_prefix_unique`).
-/

namespace WrapperGen

/-- The text with a replacement for every occurrence of a character. -/
def Text.replaceAll (text : Text) (c : Char) (replacement : Text) : Text :=
  text.flatMap fun d => if d = c then replacement else [d]

namespace Literal

/-! ## Replacements -/

/--
What replacing puts in is not replaced again, since backslashes go first and no escape holds a
character that is replaced later as it is.
-/
theorem flatMap_quoteChar_eq (text : Text) :
    text.flatMap quoteChar =
      (((text.replaceAll '\\' "\\\\").replaceAll '"' "\\\"").replaceAll
        '\n' "\\n").replaceAll '\t' "\\t" := by
  simp only [Text.replaceAll, List.flatMap_assoc]
  refine List.flatMap_congr fun c _ => ?_
  unfold quoteChar
  split_ifs with hbackslash hquote hfeed htab
  · decide
  · subst hquote
    decide
  · subst hfeed
    decide
  · subst htab
    decide
  · simp [hquote, hfeed, htab]

/-! ## Units -/

/-- A character is quoted as one unit, which stands for the character. -/
theorem unitText_quoteChar (c : Char) : UnitText (quoteChar c) (String.utf8EncodeChar c) := by
  unfold quoteChar
  split_ifs with hbackslash hquote hfeed htab
  · subst hbackslash
    exact .escape (.simple (by decide))
  · subst hquote
    exact .escape (.simple (by decide))
  · subst hfeed
    exact .escape (.simple (by decide))
  · subst htab
    exact .escape (.simple (by decide))
  · exact .char ⟨hquote, hbackslash, hfeed⟩

theorem unitsText_quoted (text : Text) : UnitsText (text.flatMap quoteChar) text.encode := by
  induction text with
  | nil => exact .nil
  | cons c text ih => exact .cons (unitText_quoteChar c) ih

theorem denotes_quote (text : Text) : Denotes (quote text) text :=
  .interpreted (unitsText_quoted text) rfl

/-! ## Line feeds -/

/-- A quoted literal holds no line feed, whatever its value holds. -/
theorem feed_not_mem_quote (text : Text) : '\n' ∉ quote text := by
  have hchar : ∀ c, '\n' ∉ quoteChar c := by
    intro c
    unfold quoteChar
    split_ifs with hbackslash hquote hfeed htab
    · decide
    · decide
    · decide
    · decide
    · rw [List.mem_singleton]
      exact Ne.symm hfeed
  simp [quote, hchar]

/-! ## Where a literal ends -/

/-- Nothing stands behind the double quote that ends a literal. -/
theorem eq_nil_of_closesInterpreted {front back : Text} (hfront : closesInterpreted front = true)
    (h : closesInterpreted (front ++ back) = true) : back = [] := by
  fun_induction closesInterpreted front with
  | case1 => exact absurd hfront (by simp)
  | case2 c =>
    obtain rfl : c = '"' := by simpa using hfront
    by_contra hback
    exact absurd rfl ((closesInterpreted_cons (by decide) hback).1 h).1.1
  | case3 d rest ih =>
    rw [List.cons_append, List.cons_append, closesInterpreted_backslash] at h
    exact ih (Bool.and_eq_true_iff.1 hfront).2 h.2
  | case4 c d rest hc ih =>
    rw [List.cons_append, closesInterpreted_cons hc (by simp)] at h
    exact ih (Bool.and_eq_true_iff.1 hfront).2 h.2

theorem eq_nil_of_closesRaw {front back : Text} (hfront : closesRaw front = true)
    (h : closesRaw (front ++ back) = true) : back = [] := by
  obtain ⟨body, rfl, -⟩ := closesRaw_iff.1 hfront
  obtain ⟨whole, hwhole, hclear⟩ := closesRaw_iff.1 h
  by_contra hback
  -- the back-quote behind the shorter body would stand inside of the longer one
  obtain ⟨rest, last, rfl⟩ := (List.eq_nil_or_concat back).resolve_left hback
  rw [List.concat_eq_append, ← List.append_assoc] at hwhole
  obtain ⟨hbody, -⟩ := List.append_inj' hwhole rfl
  exact hclear (hbody ▸ by simp)

/-- No literal begins with another one. -/
theorem isDelimited_prefix_unique {front literal : Text} (hfront : isDelimited front = true)
    (hliteral : isDelimited literal = true) (hbegins : front <+: literal) : front = literal := by
  obtain ⟨back, rfl⟩ := hbegins
  suffices back = [] by rw [this, List.append_nil]
  unfold isDelimited at hfront
  split at hfront
  · exact eq_nil_of_closesInterpreted hfront hliteral
  · exact eq_nil_of_closesRaw hfront hliteral
  · exact absurd hfront (by simp)

/-! ## Reading back -/

theorem isDelimited_quote (text : Text) : isDelimited (quote text) = true :=
  isDelimited_iff.2 (.inr ⟨_, rfl, (units_iff.2 (unitsText_quoted text)).1⟩)

/-- A quoted text is read as the text. -/
theorem unquote_quoted (text : Text) : unquote (quote text) = .ok text := by
  have hlast : (quote text).getLast? ≠ some '\n' := by
    rw [quote, List.getLast?_concat]
    decide
  exact (unquote_eq_ok_iff hlast).2 (denotes_quote text)

/--
A text is quoted by replacing backslashes, double quotes, line feeds and tabs, one kind after the
other. The quoted form is a literal of the text, holds no line feed, begins with no shorter literal,
and is read as the text again.
-/
theorem unquote_quote (text : Text) :
    quote text = '"' :: ((((text.replaceAll '\\' "\\\\").replaceAll '"' "\\\"").replaceAll
      '\n' "\\n").replaceAll '\t' "\\t") ++ ['"'] ∧
      Denotes (quote text) text ∧ '\n' ∉ quote text ∧
      (∀ front, front <+: quote text → isDelimited front = true → front = quote text) ∧
      unquote (quote text) = .ok text := by
  refine ⟨?_, denotes_quote text, feed_not_mem_quote text, fun front hprefix hfront => ?_,
    unquote_quoted text⟩
  · rw [quote, flatMap_quoteChar_eq]
  · exact isDelimited_prefix_unique hfront (isDelimited_quote text) hprefix

end Literal

end WrapperGen
