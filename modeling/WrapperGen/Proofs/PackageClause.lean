import WrapperGen.Failure
import WrapperGen.Proofs.Outcome
import WrapperGen.Proofs.Text.Cut

/-!
# The grammar of package clauses

A package clause is the keyword, trivia, and a name; trivia may also stand in front of it, and
anything behind it. `PackageClause.Declares` says so as a relation between a text and a name,
without the reader. The reader skips trivia piece by piece (`skipTrivia_flatten`) and stops where
none can begin, because no word character is a blank. So it accepts exactly the texts of the
grammar, whatever the trivia and the rest of the text are (`read_accepts_grammar`).
-/

namespace WrapperGen

/-! ## Word characters -/

namespace Text

/-- A character in the ranges of one list is in none of another whose ranges keep apart. -/
theorem inRanges_eq_false_of_disjoint {first second : List (Nat × Nat)}
    (h : (first.all fun a => second.all fun b => a.2 < b.1 || b.2 < a.1) = true) {c : Char}
    (hc : inRanges first c = true) : inRanges second c = false := by
  rw [← Bool.not_eq_true]
  intro hsecond
  obtain ⟨a, ha, hina⟩ := List.any_eq_true.1 hc
  obtain ⟨b, hb, hinb⟩ := List.any_eq_true.1 hsecond
  have hapart := List.all_eq_true.1 (List.all_eq_true.1 h a ha) b hb
  simp only [Bool.and_eq_true, Bool.or_eq_true, decide_eq_true_eq] at hina hinb hapart
  omega

/-- No word character is a blank. -/
theorem isBlank_eq_false_of_isWord {c : Char} (h : isWord c = true) : isBlank c = false := by
  rw [← Bool.not_eq_true]
  intro hblank
  by_cases hascii : c.toNat < 0x80
  · have hall : ∀ n, n < 0x80 → isWord (Char.ofNat n) = true → isBlank (Char.ofNat n) = false := by
      decide
    have hchar := hall c.toNat hascii
    rw [Char.ofNat_toNat] at hchar
    rw [hchar h] at hblank
    exact absurd hblank (by simp)
  · rw [isWord, if_neg hascii] at h
    have hword : inRanges wordRanges c = false :=
      inRanges_eq_false_of_disjoint (by decide +kernel) hblank
    rw [h] at hword
    exact absurd hword (by simp)

end Text

namespace PackageClause

/-! ## The grammar -/

/-- A piece of trivia. -/
inductive Trivium : Text → Prop
  | blank {c : Char} (hc : Text.isBlank c = true) : Trivium [c]
  /-- A line comment takes the line feed that ends it along. -/
  | lineComment {comment : Text} (hcomment : '\n' ∉ comment) :
      Trivium ('/' :: '/' :: comment ++ ['\n'])
  /-- A block comment ends where it can end first. -/
  | blockComment {comment : Text} (hcomment : ¬ ['*', '/'] <:+: comment) :
      Trivium ('/' :: '*' :: comment ++ ['*', '/'])

/-- The text is an identifier, and what comes next does not lengthen it. -/
structure IsName (name next : Text) : Prop where
  first : ∃ c ∈ name.head?, Text.isDigit c = false
  word : ∀ c ∈ name, Text.isWord c = true
  last : ∀ c ∈ next.head?, Text.isWord c = false

/-- The text declares the package with a name. -/
inductive Declares : Text → Text → Prop
  | intro {before between : List Text} {name rest : Text}
      (hbefore : ∀ item ∈ before, Trivium item) (hbetween : ∀ item ∈ between, Trivium item)
      (hseparate : between ≠ []) (hname : IsName name rest) (hblank : name ≠ ['_']) :
      Declares (before.flatten ++ keyword ++ between.flatten ++ name ++ rest) name

/-- The text without one byte order mark in front. -/
def withoutMark (text : Text) : Text := if text.head? = some byteOrderMark then text.tail else text

theorem keyword_ne_nil : keyword ≠ [] := by decide

theorem Trivium.ne_nil {item : Text} (h : Trivium item) : item ≠ [] := by
  cases h <;> simp

theorem flatten_ne_nil_of_trivia {items : List Text} (h : ∀ item ∈ items, Trivium item)
    (hne : items ≠ []) : items.flatten ≠ [] := by
  obtain ⟨item, hitem⟩ := List.exists_mem_of_ne_nil items hne
  rw [List.flatten_ne_nil_iff]
  exact ⟨item, hitem, (h item hitem).ne_nil⟩

theorem Declares.isWord {text name : Text} (h : Declares text name) :
    ∀ c ∈ name, Text.isWord c = true := by
  cases h with
  | intro _ _ _ hname _ => exact hname.word

theorem Declares.isName {text name : Text} (h : Declares text name) :
    name ≠ ['_'] ∧ ∃ rest, IsName name rest := by
  cases h with
  | intro _ _ _ hname hblank => exact ⟨hblank, _, hname⟩

theorem Declares.isInfix {text name : Text} (h : Declares text name) : name <:+: text := by
  cases h with
  | intro _ _ _ _ _ => exact ⟨_, _, rfl⟩

theorem withoutMark_suffix (text : Text) : withoutMark text <:+ text := by
  unfold withoutMark
  split
  · exact List.tail_suffix text
  · exact List.suffix_rfl

/-! ## Comments -/

theorem dropLine_append {comment : Text} (h : '\n' ∉ comment) (rest : Text) :
    dropLine (comment ++ '\n' :: rest) = rest := by
  have hclear : ∀ c ∈ comment, (c != '\n') = true := by
    intro c hc
    simpa using fun heq : c = '\n' => h (heq ▸ hc)
  rw [dropLine, List.dropWhile_append_of_pos hclear, List.dropWhile_cons_of_neg (by simp)]
  rfl

/-- Nothing follows a line unless a line feed ends it. -/
theorem dropLine_cases (text : Text) :
    dropLine text = [] ∨ ∃ comment, '\n' ∉ comment ∧ text = comment ++ '\n' :: dropLine text := by
  cases hdrop : text.dropWhile (· != '\n') with
  | nil =>
    left
    rw [dropLine, hdrop]
    rfl
  | cons c rest =>
    right
    have hnot := List.head?_dropWhile_not (· != '\n') text
    rw [hdrop] at hnot
    obtain rfl : c = '\n' := by simpa using hnot
    refine ⟨text.takeWhile (· != '\n'), ?_, ?_⟩
    · intro hfeed
      simpa using List.all_eq_true.1 List.all_takeWhile _ hfeed
    · rw [dropLine, hdrop, List.drop_one, List.tail_cons, ← hdrop,
        List.takeWhile_append_dropWhile]

theorem dropBlockComment?_append {comment : Text} (h : ¬ ['*', '/'] <:+: comment) (rest : Text) :
    dropBlockComment? (comment ++ '*' :: '/' :: rest) = some rest := by
  induction comment with
  | nil => rfl
  | cons c comment ih =>
    rw [List.infix_cons_iff, not_or] at h
    cases comment with
    | nil =>
      rw [List.singleton_append, dropBlockComment?, if_neg (by simp)]
      exact ih (by simp)
    | cons d comment =>
      have hopen : ¬ (c = '*' ∧ d = '/') := by
        rintro ⟨rfl, rfl⟩
        exact h.1 ⟨comment, rfl⟩
      rw [List.cons_append, List.cons_append, dropBlockComment?, if_neg hopen]
      exact ih h.2

/-- What follows a block comment stands behind the first place where the comment can end. -/
theorem exists_of_dropBlockComment? {text rest : Text} (h : dropBlockComment? text = some rest) :
    ∃ comment, ¬ ['*', '/'] <:+: comment ∧ text = comment ++ '*' :: '/' :: rest := by
  fun_induction dropBlockComment? text with
  | case1 => exact absurd h (by simp)
  | case2 => exact absurd h (by simp)
  | case3 c d after hend =>
    obtain ⟨rfl, rfl⟩ := hend
    obtain rfl := Option.some.inj h
    exact ⟨[], by simp, rfl⟩
  | case4 c d after hopen ih =>
    obtain ⟨comment, hclear, htext⟩ := ih h
    refine ⟨c :: comment, ?_, by rw [htext, List.cons_append]⟩
    rw [List.infix_cons_iff, not_or]
    refine ⟨?_, hclear⟩
    rintro ⟨tail, htail⟩
    -- then the comment would already end at its first character
    obtain ⟨rfl, rfl⟩ : '*' = c ∧ '/' :: tail = comment := by simpa using htail
    obtain ⟨rfl, -⟩ := List.cons.inj (htext.trans (List.cons_append ..))
    exact hopen ⟨rfl, rfl⟩

/-! ## Skipping trivia -/

theorem skipTrivia_blank {c : Char} (hc : Text.isBlank c = true) (rest : Text) :
    skipTrivia (c :: rest) = skipTrivia rest := by
  rw [skipTrivia.eq_def]
  simp only [hc, if_true]

theorem skipTrivia_lineComment (comment : Text) :
    skipTrivia ('/' :: '/' :: comment) = skipTrivia (dropLine comment) := by
  rw [skipTrivia, if_neg (by decide)]

theorem skipTrivia_blockComment {comment rest : Text} (h : dropBlockComment? comment = some rest) :
    skipTrivia ('/' :: '*' :: comment) = skipTrivia rest := by
  rw [skipTrivia, if_neg (by decide)]
  split
  · next after hafter =>
    obtain rfl := Option.some.inj (h.symm.trans hafter)
    rfl
  · next hnone => exact absurd (h.symm.trans hnone) (by simp)

theorem skipTrivia_eq_self {c : Char} (hblank : Text.isBlank c = false) (hslash : c ≠ '/')
    (rest : Text) : skipTrivia (c :: rest) = .ok (c :: rest) := by
  rw [skipTrivia.eq_def]
  simp only [hblank, Bool.false_eq_true, if_false]
  split
  · exact absurd rfl hslash
  · exact absurd rfl hslash
  · rfl

theorem skipTrivia_trivium {item : Text} (h : Trivium item) (rest : Text) :
    skipTrivia (item ++ rest) = skipTrivia rest := by
  cases h with
  | blank hc => exact skipTrivia_blank hc rest
  | @lineComment comment hcomment =>
    rw [List.append_assoc, List.singleton_append, List.cons_append, List.cons_append,
      skipTrivia_lineComment, dropLine_append hcomment]
  | @blockComment comment hcomment =>
    rw [List.append_assoc, List.cons_append, List.cons_append]
    exact skipTrivia_blockComment (dropBlockComment?_append hcomment rest)

/-- Trivia in front of a text are skipped, however many they are. -/
theorem skipTrivia_flatten {items : List Text} (h : ∀ item ∈ items, Trivium item) (rest : Text) :
    skipTrivia (items.flatten ++ rest) = skipTrivia rest := by
  induction items with
  | nil => rfl
  | cons item items ih =>
    obtain ⟨hitem, hitems⟩ := List.forall_mem_cons.1 h
    rw [List.flatten_cons, List.append_assoc, skipTrivia_trivium hitem, ih hitems]

/-- What is left of a text stands behind trivia, unless nothing is left. -/
theorem exists_of_skipTrivia {text rest : Text} (h : skipTrivia text = .ok rest) (hne : rest ≠ []) :
    ∃ items : List Text, (∀ item ∈ items, Trivium item) ∧ text = items.flatten ++ rest := by
  fun_induction skipTrivia text with
  | case1 => exact absurd (Except.ok.inj h).symm hne
  | case2 c text hblank ih =>
    obtain ⟨items, hitems, rfl⟩ := ih h
    exact ⟨[c] :: items, List.forall_mem_cons.2 ⟨.blank hblank, hitems⟩, rfl⟩
  | case3 comment hblank ih =>
    obtain ⟨items, hitems, htext⟩ := ih h
    -- a comment on the last line leaves nothing
    rcases dropLine_cases comment with hnil | ⟨line, hline, hcomment⟩
    · rw [hnil, skipTrivia] at h
      exact absurd (Except.ok.inj h).symm hne
    · refine ⟨('/' :: '/' :: line ++ ['\n']) :: items,
        List.forall_mem_cons.2 ⟨.lineComment hline, hitems⟩, ?_⟩
      rw [hcomment, htext]
      simp
  | case4 comment after hcomment hblank ih =>
    obtain ⟨items, hitems, rfl⟩ := ih h
    obtain ⟨block, hblock, rfl⟩ := exists_of_dropBlockComment? hcomment
    refine ⟨('/' :: '*' :: block ++ ['*', '/']) :: items,
      List.forall_mem_cons.2 ⟨.blockComment hblock, hitems⟩, ?_⟩
    simp
  | case5 => exact absurd h (by simp)
  | case6 c text =>
    obtain rfl := Except.ok.inj h
    exact ⟨[], by simp, rfl⟩

/-! ## Names -/

section Names

variable {name next : Text}

theorem IsName.exists_cons (h : IsName name next) :
    ∃ c others, name = c :: others ∧ Text.isWord c = true ∧ Text.isDigit c = false := by
  obtain ⟨c, hc, hdigit⟩ := h.first
  obtain ⟨others, rfl⟩ := List.head?_eq_some_iff.1 hc
  exact ⟨c, others, rfl, h.word c List.mem_cons_self, hdigit⟩

theorem IsName.ne_nil (h : IsName name next) : name ≠ [] := by
  obtain ⟨c, others, rfl, -⟩ := h.exists_cons
  simp

/-- No trivia begin where a name begins. -/
theorem IsName.skipTrivia_append (h : IsName name next) :
    skipTrivia (name ++ next) = .ok (name ++ next) := by
  obtain ⟨c, others, rfl, hword, -⟩ := h.exists_cons
  have hslash : c ≠ '/' := by
    rintro rfl
    exact absurd hword (by decide)
  exact skipTrivia_eq_self (Text.isBlank_eq_false_of_isWord hword) hslash (others ++ next)

/-- The reader takes all of a name and nothing more. -/
theorem identifier?_eq_some_iff {text : Text} :
    identifier? text = some name ↔ ∃ next, text = name ++ next ∧ IsName name next := by
  constructor
  · intro h
    cases text with
    | nil => exact absurd h (by simp [identifier?])
    | cons c others =>
      rw [identifier?] at h
      split at h
      · next hfirst =>
        obtain rfl := Option.some.inj h
        rw [Bool.and_eq_true, Bool.not_eq_true'] at hfirst
        refine ⟨others.dropWhile Text.isWord, ?_, ⟨c, rfl, hfirst.2⟩, ?_, ?_⟩
        · rw [List.cons_append, List.takeWhile_append_dropWhile]
        · exact List.forall_mem_cons.2
            ⟨hfirst.1, fun d hd => List.all_eq_true.1 List.all_takeWhile d hd⟩
        · intro d hd
          have hnot := List.head?_dropWhile_not Text.isWord others
          rw [Option.mem_def.1 hd] at hnot
          simpa using hnot
      · exact absurd h (by simp)
  · rintro ⟨next, rfl, hname⟩
    obtain ⟨c, others, rfl, hword, hdigit⟩ := hname.exists_cons
    have hothers : ∀ d ∈ others, Text.isWord d = true := (List.forall_mem_cons.1 hname.word).2
    have hnext : next.takeWhile Text.isWord = [] := by
      cases next with
      | nil => rfl
      | cons d next => rw [List.takeWhile_cons_of_neg (by simp [hname.last d rfl])]
    rw [List.cons_append, identifier?, hword, hdigit, List.takeWhile_append_of_pos hothers, hnext,
      List.append_nil]
    rfl

end Names

/-! ## Clauses -/

theorem nameAfterKeyword_eq (afterKeyword : Text) :
    nameAfterKeyword afterKeyword =
      skipTrivia afterKeyword >>= fun rest =>
        if rest = afterKeyword ∧ rest ≠ [] then .error .missingKeyword
        else
          match identifier? rest with
          | none => .error .missingName
          | some name => if name = ['_'] then .error .blankName else .ok name := rfl

theorem read_eq (text : Text) :
    read text =
      skipTrivia (withoutMark text) >>= fun start =>
        match keyword.isPrefixOf? start with
        | none => .error .missingKeyword
        | some afterKeyword => nameAfterKeyword afterKeyword := rfl

/-- A name behind the keyword and some trivia is read, unless it is the blank identifier. -/
theorem nameAfterKeyword_append {between : List Text} {name rest : Text}
    (hbetween : ∀ item ∈ between, Trivium item) (hne : between ≠ []) (hname : IsName name rest) :
    nameAfterKeyword (between.flatten ++ (name ++ rest)) =
      if name = ['_'] then .error .blankName else .ok name := by
  have hmoved : ¬ (name ++ rest = between.flatten ++ (name ++ rest) ∧ name ++ rest ≠ []) := by
    rintro ⟨heq, -⟩
    exact flatten_ne_nil_of_trivia hbetween hne (List.append_left_eq_self.1 heq.symm)
  rw [nameAfterKeyword_eq, skipTrivia_flatten hbetween, hname.skipTrivia_append]
  simp only [bind, Except.bind]
  rw [if_neg hmoved, identifier?_eq_some_iff.2 ⟨rest, rfl, hname⟩]

theorem exists_of_nameAfterKeyword {text name : Text} (h : nameAfterKeyword text = .ok name) :
    ∃ between rest, (∀ item ∈ between, Trivium item) ∧ between ≠ [] ∧ IsName name rest ∧
      name ≠ ['_'] ∧ text = between.flatten ++ (name ++ rest) := by
  rw [nameAfterKeyword_eq] at h
  obtain ⟨left, hskip, h⟩ := bind_eq_ok_iff.1 h
  split at h
  · exact absurd h (by simp)
  · next hmoved =>
    split at h
    · exact absurd h (by simp)
    · next found hfound =>
      split at h
      · exact absurd h (by simp)
      · next hblank =>
        obtain rfl := Except.ok.inj h
        obtain ⟨rest, rfl, hname⟩ := identifier?_eq_some_iff.1 hfound
        have hleft : found ++ rest ≠ [] := List.append_ne_nil_of_left_ne_nil hname.ne_nil rest
        obtain ⟨between, hbetween, htext⟩ := exists_of_skipTrivia hskip hleft
        refine ⟨between, rest, hbetween, ?_, hname, hblank, htext⟩
        rintro rfl
        exact hmoved ⟨htext.symm, hleft⟩

/-- What is read depends on the name alone, and not on the trivia or on what follows. -/
theorem read_append {text name rest : Text} {before between : List Text}
    (hbefore : ∀ item ∈ before, Trivium item) (hbetween : ∀ item ∈ between, Trivium item)
    (hne : between ≠ []) (hname : IsName name rest)
    (htext : withoutMark text =
      before.flatten ++ keyword ++ between.flatten ++ name ++ rest) :
    read text = if name = ['_'] then .error .blankName else .ok name := by
  have hkeyword : skipTrivia (keyword ++ (between.flatten ++ (name ++ rest))) =
      .ok (keyword ++ (between.flatten ++ (name ++ rest))) :=
    skipTrivia_eq_self (by decide) (by decide) _
  simp only [List.append_assoc] at htext
  rw [read_eq, htext, skipTrivia_flatten hbefore, hkeyword]
  simp only [bind, Except.bind]
  rw [List.isPrefixOf?_eq_some_iff_append_eq.2 rfl]
  exact nameAfterKeyword_append hbetween hne hname

theorem read_eq_ok_iff {text name : Text} :
    read text = .ok name ↔ Declares (withoutMark text) name := by
  constructor
  · intro h
    rw [read_eq] at h
    obtain ⟨start, hskip, h⟩ := bind_eq_ok_iff.1 h
    split at h
    · exact absurd h (by simp)
    · next afterKeyword hkeyword =>
      obtain rfl := List.isPrefixOf?_eq_some_iff_append_eq.1 hkeyword
      have hstart : keyword ++ afterKeyword ≠ [] :=
        List.append_ne_nil_of_left_ne_nil keyword_ne_nil afterKeyword
      obtain ⟨before, hbefore, htext⟩ := exists_of_skipTrivia hskip hstart
      obtain ⟨between, rest, hbetween, hne, hname, hblank, rfl⟩ := exists_of_nameAfterKeyword h
      have hdeclares := Declares.intro hbefore hbetween hne hname hblank
      rw [htext]
      simpa only [List.append_assoc] using hdeclares
  · intro h
    generalize htext : withoutMark text = start at h
    obtain ⟨hbefore, hbetween, hne, hname, hblank⟩ := h
    rw [read_append hbefore hbetween hne hname htext, if_neg hblank]

/-- The name that a clause declares is a word. -/
theorem isWord_of_read {text name : Text} (h : read text = .ok name) :
    ∀ c ∈ name, Text.isWord c = true :=
  (read_eq_ok_iff.1 h).isWord

/-- The name that a clause declares stands in the text. -/
theorem infix_of_read {text name : Text} (h : read text = .ok name) : name <:+: text :=
  (read_eq_ok_iff.1 h).isInfix.trans (withoutMark_suffix text).isInfix

/--
The reader of package clauses accepts exactly the texts that declare a package, each with the name
that it declares, after one byte order mark. Every other text is refused for its package clause.
What comes of a clause depends on its name alone: the trivia in front of the keyword, those behind
it and the rest of the text may be any.
-/
theorem read_accepts_grammar (text origin : Text) :
    (∀ name, read text = .ok name ↔ Declares (withoutMark text) name) ∧
      ((¬ ∃ name, Declares (withoutMark text) name) →
        ∃ fault, read text = .error fault ∧
          (Failure.packageClause fault origin).kind? = some .packageClause) ∧
      ∀ (before between : List Text) (name rest : Text), (∀ item ∈ before, Trivium item) →
        (∀ item ∈ between, Trivium item) → between ≠ [] → IsName name rest →
        withoutMark text = before.flatten ++ keyword ++ between.flatten ++ name ++ rest →
        read text = if name = ['_'] then .error .blankName else .ok name := by
  refine ⟨fun name => read_eq_ok_iff, fun hnone => ?_, fun before between name rest hbefore
    hbetween hne hname htext => read_append hbefore hbetween hne hname htext⟩
  cases hread : read text with
  | ok name => exact absurd ⟨name, read_eq_ok_iff.1 hread⟩ hnone
  | error fault => exact ⟨fault, rfl, rfl⟩

/-- Comments may hold what looks like a clause, and one alone may follow the keyword. -/
theorem read_accepts_grammar_comments :
    let text : Text := "\uFEFF// package a\n/*/ package b */package/**/c_1;"
    Declares (withoutMark text) "c_1" ∧ read text = .ok "c_1" := by
  intro text
  let before : List Text :=
    ['/' :: '/' :: (" package a" : Text) ++ ['\n'],
      '/' :: '*' :: ("/ package b " : Text) ++ ['*', '/']]
  let between : List Text := ['/' :: '*' :: [] ++ ['*', '/']]
  have hbefore : ∀ item ∈ before, Trivium item :=
    List.forall_mem_cons.2 ⟨.lineComment (by decide),
      List.forall_mem_singleton.2 (.blockComment (Text.occurs_eq_false_iff.1 (by decide)))⟩
  have hbetween : ∀ item ∈ between, Trivium item :=
    List.forall_mem_singleton.2 (.blockComment (by simp))
  have hname : IsName "c_1" ";" := by
    refine ⟨⟨'c', rfl, by decide⟩, List.all_eq_true.1 (by decide), fun c hc => ?_⟩
    obtain rfl : ';' = c := Option.some.inj hc
    decide
  have hgrammar := read_accepts_grammar text "c.go"
  have hread : read text = .ok "c_1" :=
    hgrammar.2.2 before between "c_1" ";" hbefore hbetween (by simp [between]) hname
      (by decide +kernel)
  exact ⟨(hgrammar.1 "c_1").1 hread, hread⟩

end PackageClause

end WrapperGen
