import WrapperGen.Layout
import WrapperGen.Proofs.Text.Lines
import WrapperGen.Proofs.Text.Occurrence

/-!
# What lines begin with

A part on one line begins a line of a text if the text begins with it, or if it stands directly
behind a line break (`Text.exists_line_iff`). Put like this it can be found without cutting the text
into lines: a break keeps what stands on its sides apart (`Text.startsLine_append_cons_iff`), and
in front of a text on one line no new line begins.
-/

namespace WrapperGen.Text

/-- The part stands directly behind a character of a kind. -/
def Follows (kind : Char → Prop) (part text : Text) : Prop :=
  ∃ before c after, kind c ∧ text = before ++ c :: (part ++ after)

/-- The part stands directly behind a line break of the text. -/
def FollowsBreak (part text : Text) : Prop := Follows (isLineBreak · = true) part text

/-- The part stands where a line of the text begins. -/
def StartsLine (part text : Text) : Prop := part <+: text ∨ FollowsBreak part text

section Breaks

variable {kind : Char → Prop} {part text before after : Text} {c : Char}

theorem not_follows_nil : ¬ Follows kind part [] := by
  rintro ⟨before, c, after, -, htext⟩
  exact absurd htext (by simp)

theorem follows_cons_iff :
    Follows kind part (c :: text) ↔ kind c ∧ part <+: text ∨ Follows kind part text := by
  constructor
  · rintro ⟨before, b, after, hkind, htext⟩
    cases before with
    | nil =>
      obtain ⟨rfl, rfl⟩ := List.cons.inj htext
      exact .inl ⟨hkind, List.prefix_append _ _⟩
    | cons d before =>
      obtain ⟨rfl, rfl⟩ := List.cons.inj htext
      exact .inr ⟨before, b, after, hkind, rfl⟩
  · rintro (⟨hkind, after, rfl⟩ | ⟨before, b, after, hkind, rfl⟩)
    · exact ⟨[], c, after, hkind, rfl⟩
    · exact ⟨c :: before, b, after, hkind, rfl⟩

theorem followsBreak_cons_iff :
    FollowsBreak part (c :: text) ↔
      isLineBreak c = true ∧ part <+: text ∨ FollowsBreak part text :=
  follows_cons_iff

theorem not_followsBreak_nil : ¬ FollowsBreak part [] := not_follows_nil

/-- A text on one line lets no line begin behind it. -/
theorem OneLine.followsBreak_append_iff (h : OneLine before) :
    FollowsBreak part (before ++ after) ↔ FollowsBreak part after := by
  induction before with
  | nil => rfl
  | cons c before ih =>
    obtain ⟨hc, hbefore⟩ := oneLine_cons.1 h
    rw [List.cons_append, followsBreak_cons_iff, hc, ih hbefore]
    simp

theorem OneLine.not_followsBreak (h : OneLine text) : ¬ FollowsBreak part text := by
  rw [← List.append_nil text, h.followsBreak_append_iff]
  exact not_followsBreak_nil

theorem OneLine.startsLine_iff (h : OneLine text) : StartsLine part text ↔ part <+: text :=
  or_iff_left h.not_followsBreak

/-- A text is on one line, or it has a first line break. -/
theorem oneLine_or_exists_break (text : Text) :
    OneLine text ∨ ∃ before c after, OneLine before ∧ isLineBreak c = true ∧
      text = before ++ c :: after := by
  induction text with
  | nil => exact .inl oneLine_nil
  | cons d text ih =>
    cases hd : isLineBreak d with
    | true => exact .inr ⟨[], d, text, oneLine_nil, hd, rfl⟩
    | false =>
      obtain htext | ⟨before, c, after, hbefore, hc, rfl⟩ := ih
      · exact .inl (oneLine_cons.2 ⟨hd, htext⟩)
      · exact .inr ⟨d :: before, c, after, oneLine_cons.2 ⟨hd, hbefore⟩, hc, rfl⟩

section Parts

variable (hpart : OneLine part)

include hpart

theorem break_not_mem (hc : isLineBreak c = true) : c ∉ part := by
  intro hmem
  rw [hpart c hmem] at hc
  exact absurd hc (by simp)

theorem followsBreak_append_cons_iff (hc : isLineBreak c = true) :
    FollowsBreak part (before ++ c :: after) ↔
      FollowsBreak part before ∨ StartsLine part after := by
  have hmem : c ∉ part := break_not_mem hpart hc
  induction before with
  | nil =>
    rw [List.nil_append, followsBreak_cons_iff, StartsLine, hc]
    simp [not_followsBreak_nil]
  | cons d before ih =>
    simp only [List.cons_append, followsBreak_cons_iff, prefix_append_cons_iff hmem, ih, or_assoc]

/-- A line begins on one side of a break. -/
theorem startsLine_append_cons_iff (hc : isLineBreak c = true) :
    StartsLine part (before ++ c :: after) ↔ StartsLine part before ∨ StartsLine part after := by
  rw [StartsLine, prefix_append_cons_iff (break_not_mem hpart hc),
    followsBreak_append_cons_iff hpart hc, ← or_assoc]
  rfl

variable (hne : part ≠ [])

include hne

theorem not_prefix_break_cons (hc : isLineBreak c = true) : ¬ part <+: c :: text := by
  obtain ⟨d, rest, rfl⟩ := List.exists_cons_of_ne_nil hne
  rw [List.cons_prefix_cons]
  rintro ⟨rfl, -⟩
  exact break_not_mem hpart hc List.mem_cons_self

omit hpart in
theorem not_startsLine_nil : ¬ StartsLine part [] := by
  rintro (hstart | hlater)
  · exact hne (List.prefix_nil.1 hstart)
  · exact not_followsBreak_nil hlater

/-- A line of a text begins in one of the lines that the text is made of. -/
theorem startsLine_ofLines_iff {lines : List Text} :
    StartsLine part (ofLines lines) ↔ ∃ line ∈ lines, StartsLine part line := by
  induction lines with
  | nil => exact iff_of_false (not_startsLine_nil hne) (by simp)
  | cons first lines ih =>
    rw [ofLines, List.flatMap_cons, List.append_assoc, List.singleton_append,
      startsLine_append_cons_iff hpart (by decide), ← ofLines, ih]
    simp

theorem startsLine_join_iff {lines : List Text} :
    StartsLine part (join ['\n'] lines) ↔ ∃ line ∈ lines, StartsLine part line := by
  induction lines with
  | nil => exact iff_of_false (not_startsLine_nil hne) (by simp)
  | cons first lines ih =>
    cases lines with
    | nil => simp [join]
    | cons second lines =>
      rw [join, List.intercalate_cons_cons, List.append_assoc, List.singleton_append,
        startsLine_append_cons_iff hpart (by decide), ← join, ih]
      simp

/-! ## Lines -/

omit hne in
theorem prefix_dropPairedReturns_iff : part <+: dropPairedReturns id text ↔ part <+: text := by
  fun_induction dropPairedReturns id text generalizing part with
  | case1 => rfl
  | case2 => rfl
  | case3 a b rest hpair ih =>
    obtain ⟨rfl, rfl⟩ : a = '\r' ∧ b = '\n' := hpair
    rw [ih hpart]
    by_cases hnil : part = []
    · simp [hnil]
    · exact iff_of_false (not_prefix_break_cons hpart hnil (by decide))
        (not_prefix_break_cons hpart hnil (by decide))
  | case4 a b rest hpair ih =>
    cases part with
    | nil => simp
    | cons d part => rw [List.cons_prefix_cons, List.cons_prefix_cons, ih (oneLine_cons.1 hpart).2]

/-- Between a carriage return and its line feed no line begins. -/
theorem startsLine_dropPairedReturns_iff :
    StartsLine part (dropPairedReturns id text) ↔ StartsLine part text := by
  rw [StartsLine, StartsLine, prefix_dropPairedReturns_iff hpart]
  refine or_congr_right ?_
  fun_induction dropPairedReturns id text with
  | case1 => rfl
  | case2 => rfl
  | case3 a b rest hpair ih =>
    obtain ⟨rfl, rfl⟩ : a = '\r' ∧ b = '\n' := hpair
    have hfeed : ¬ part <+: '\n' :: rest := not_prefix_break_cons hpart hne (by decide)
    rw [ih, followsBreak_cons_iff (c := '\r')]
    simp [hfeed]
  | case4 a b rest hpair ih =>
    rw [followsBreak_cons_iff, followsBreak_cons_iff, ih, prefix_dropPairedReturns_iff hpart]

theorem exists_piece_iff :
    (∃ piece ∈ piecesBy isLineBreak text, part <+: piece) ↔ StartsLine part text := by
  induction hn : text.length using Nat.strongRecOn generalizing text with
  | ind n ih =>
    obtain htext | ⟨before, c, after, hbefore, hc, rfl⟩ := oneLine_or_exists_break text
    · rw [htext.startsLine_iff]
      by_cases hnil : text = []
      · simp [hnil, piecesBy, hne]
      · simp [piecesBy_eq_singleton hnil htext]
    · have hshort : after.length < n := by
        rw [← hn, List.length_append, List.length_cons]
        omega
      rw [piecesBy_append_cons hbefore hc, startsLine_append_cons_iff hpart hc,
        hbefore.startsLine_iff, ← ih after.length hshort rfl]
      simp

/-- The part begins a line of the text exactly if it stands where a line begins. -/
theorem exists_line_iff : (∃ line ∈ lines text, part <+: line) ↔ StartsLine part text := by
  rw [lines_eq, exists_piece_iff hpart hne, startsLine_dropPairedReturns_iff hpart hne]

end Parts

end Breaks

end WrapperGen.Text
