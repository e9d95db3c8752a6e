import WrapperGen.Proofs.Imports.Output
import WrapperGen.Proofs.Render.Inert

/-!
# Imports read back

An import is written as a quoted path, behind its local name if it has one, and an import directive
takes the same two forms. A path without a local name is read back whatever it holds. Behind a local
name the directive is cut into fields first: a blank in the path separates two of them unless it was
escaped, and only line feeds and tabs are. A local name that begins with a quote makes the directive
take the whole for a literal. Where neither happens (`Import.Rereadable`), and only there, what is
written is read back (`Context.rendered_import_read_back`).
-/

namespace WrapperGen

/-! ## Texts of one field -/

namespace Text

theorem Tokens.blanks {text : Text} (h : Tokens text []) : ∀ c ∈ text, isBlank c = true := by
  generalize htokens : ([] : List Text) = tokens at h
  induction h with
  | done => simp
  | blank hc _ ih => exact List.forall_mem_cons.2 ⟨hc, ih htokens⟩
  | token => exact absurd htokens (by simp)

/-- Between characters that are no blanks, a text is one field if it holds no blank at all. -/
theorem fields_eq_singleton_iff {text field : Text} (hne : text ≠ [])
    (hfirst : ∀ c ∈ text.head?, isBlank c = false)
    (hlast : ∀ c ∈ text.getLast?, isBlank c = false) :
    fields text = [field] ↔ text = field ∧ ∀ c ∈ text, isBlank c = false := by
  constructor
  · intro h
    cases fields_eq_iff.1 h with
    | blank hc => exact absurd (hfirst _ rfl) (by simp [hc])
    | @token _ rest _ _ hword _ htokens =>
      -- what follows the field is blank, so it has no last character
      have hnone : rest.getLast? = none := by
        rw [Option.eq_none_iff_forall_ne_some]
        intro c hc
        have hblank := htokens.blanks c (List.mem_of_getLast? hc)
        rw [hlast c (by rw [List.getLast?_append, hc]; rfl)] at hblank
        exact absurd hblank (by simp)
      obtain rfl := List.getLast?_eq_none_iff.1 hnone
      rw [List.append_nil]
      exact ⟨rfl, hword⟩
  · rintro ⟨rfl, hclear⟩
    have hfields : fields (text ++ []) = text :: fields [] :=
      fields_append_of_word hne hclear (by simp)
    rwa [List.append_nil, fields_nil] at hfields

end Text

/-! ## Quoted paths -/

namespace Literal

/-- Of the blanks only line feeds and tabs are escaped. -/
theorem blank_free_quoteChar_iff (c : Char) :
    (∀ d ∈ quoteChar c, Text.isBlank d = false) ↔
      (Text.isBlank c = true → c = '\n' ∨ c = '\t') := by
  have hall : ∀ text : Text, (∀ d ∈ text, Text.isBlank d = false) ↔
      (text.all fun d => !Text.isBlank d) = true := by simp
  rw [hall]
  unfold quoteChar
  split_ifs with hbackslash hquote hfeed htab
  · subst hbackslash
    decide
  · subst hquote
    decide
  · subst hfeed
    decide
  · subst htab
    decide
  · simp [hfeed, htab]

theorem blank_free_quote_iff (text : Text) :
    (∀ c ∈ quote text, Text.isBlank c = false) ↔
      ∀ c ∈ text, Text.isBlank c = true → c = '\n' ∨ c = '\t' := by
  have hquote : Text.isBlank '"' = false := by decide
  simp only [quote, List.cons_append, List.forall_mem_cons, List.forall_mem_append,
    List.forall_mem_flatMap, hquote, true_and, blank_free_quoteChar_iff]
  exact and_iff_left (by simp)

theorem head?_quote (text : Text) : (quote text).head? = some '"' := rfl

theorem getLast?_quote (text : Text) : (quote text).getLast? = some '"' := by
  rw [quote, List.getLast?_concat]

theorem quote_ne_nil (text : Text) : quote text ≠ [] := List.cons_ne_nil _ _

/-- A quoted text is one field unless it holds a blank that is not escaped. -/
theorem fields_quote_eq_singleton_iff {text field : Text} :
    Text.fields (quote text) = [field] ↔
      quote text = field ∧ ∀ c ∈ text, Text.isBlank c = true → c = '\n' ∨ c = '\t' := by
  have hquote : ∀ c ∈ some '"', Text.isBlank c = false := by
    rintro c ⟨⟩
    decide
  rw [Text.fields_eq_singleton_iff (quote_ne_nil text) (head?_quote text ▸ hquote)
    (getLast?_quote text ▸ hquote), blank_free_quote_iff]

/-- No literal goes on behind a double quote that follows a space. -/
theorem closesInterpreted_space_quote (before : Text) {after : Text} (h : after ≠ []) :
    closesInterpreted (before ++ ' ' :: '"' :: after) = false := by
  obtain ⟨d, after, rfl⟩ := List.exists_cons_of_ne_nil h
  fun_induction closesInterpreted before with
  | case1 => simp [closesInterpreted]
  | case2 c => by_cases hc : c = '\\' <;> simp [closesInterpreted, hc]
  | case3 c rest ih => simp [closesInterpreted, ih]
  | case4 c e rest hc ih =>
    rw [List.cons_append] at ih
    simp [closesInterpreted, hc, ih]

end Literal

/-! ## Payloads -/

namespace Import

/-- The text begins with a character that a literal begins with. -/
def BeginsLiteral (text : Text) : Prop := ∃ c ∈ text.head?, c = '"' ∨ c = '\x60'

instance (text : Text) : Decidable (BeginsLiteral text) :=
  decidable_of_iff ((text.head?.any fun c => c == '"' || c == '\x60') = true)
    (by simp [BeginsLiteral, Option.any_eq_true])

/-- What is written for the import is read as the import. -/
def Rereadable (entry : Import) : Prop :=
  entry.localName = [] ∨
    ¬ BeginsLiteral entry.localName ∧
      ∀ c ∈ entry.path, Text.isBlank c = true → c = '\n' ∨ c = '\t'

instance (entry : Import) : Decidable entry.Rereadable :=
  have : Decidable (∀ c ∈ entry.path, Text.isBlank c = true → c = '\n' ∨ c = '\t') :=
    List.decidableBAll _ _
  inferInstanceAs (Decidable (_ ∨ _))

variable {text : Text}

theorem ofPayload_of_beginsLiteral (hunpadded : Text.Unpadded text) (h : BeginsLiteral text) :
    ofPayload text =
      match Literal.unquote text with
      | .ok path => .ok (some ⟨path, []⟩)
      | .error fault => .error (.badLiteral fault text text) := by
  obtain ⟨c, hhead, hc⟩ := h
  obtain ⟨rest, rfl⟩ := List.head?_eq_some_iff.1 hhead
  rw [ofPayload, Text.trim_eq_self hunpadded]
  simp only [if_pos hc, pure_bind]
  cases Literal.unquote (c :: rest) <;> rfl

theorem ofPayload_of_fields {localName literal : Text} (hunpadded : Text.Unpadded text)
    (h : ¬ BeginsLiteral text) (hfields : Text.fields text = [localName, literal]) :
    ofPayload text =
      match Literal.unquote literal with
      | .ok path => .ok (some ⟨path, localName⟩)
      | .error fault => .error (.badLiteral fault literal text) := by
  cases text with
  | nil => exact absurd hfields (by simp)
  | cons c rest =>
    have hc : ¬ (c = '"' ∨ c = '\x60') := fun hc => h ⟨c, rfl, hc⟩
    rw [ofPayload, Text.trim_eq_self hunpadded]
    simp only [if_neg hc, hfields, pure_bind]
    cases Literal.unquote literal <;> rfl

theorem ofPayload_of_fields_ne (hunpadded : Text.Unpadded text) (hne : text ≠ [])
    (h : ¬ BeginsLiteral text)
    (hfields : ∀ localName literal, Text.fields text ≠ [localName, literal]) :
    ofPayload text = .error (.badImport text) := by
  obtain ⟨c, rest, rfl⟩ := List.exists_cons_of_ne_nil hne
  have hc : ¬ (c = '"' ∨ c = '\x60') := fun hc => h ⟨c, rfl, hc⟩
  rw [ofPayload, Text.trim_eq_self hunpadded]
  simp only [if_neg hc]
  rfl

/-! ## What is written for an import -/

section Render

variable {entry : Import} (hname : ∀ c ∈ entry.localName, Text.isBlank c = false)

theorem render_of_localName_eq_nil (h : entry.localName = []) :
    entry.render = Literal.quote entry.path := by
  rw [render, h]
  rfl

theorem render_of_localName_ne_nil (h : entry.localName ≠ []) :
    entry.render = entry.localName ++ ' ' :: Literal.quote entry.path := by
  rw [render, if_neg (by simpa using h), List.append_assoc]
  rfl

/-- A local name behind which a path is quoted begins the payload. -/
theorem beginsLiteral_render_iff (h : entry.localName ≠ []) :
    BeginsLiteral entry.render ↔ BeginsLiteral entry.localName := by
  rw [render_of_localName_ne_nil h, BeginsLiteral, BeginsLiteral, List.head?_append_of_ne_nil _ h]

include hname

theorem unpadded_render : Text.Unpadded entry.render := by
  have hlast : ∀ front : Text, ∀ c ∈ (front ++ Literal.quote entry.path).getLast?,
      Text.isPadding c = false := by
    intro front c hc
    rw [List.getLast?_append, Literal.getLast?_quote, Option.some_or] at hc
    obtain rfl := Option.some.inj hc
    decide
  by_cases hnone : entry.localName = []
  · rw [render_of_localName_eq_nil hnone]
    refine ⟨fun c hc => ?_, hlast []⟩
    obtain rfl := Option.some.inj hc
    decide
  · rw [render_of_localName_ne_nil hnone]
    refine ⟨fun c hc => ?_, ?_⟩
    · rw [List.head?_append_of_ne_nil _ hnone] at hc
      exact Text.isPadding_eq_false_of_isBlank (hname c (List.mem_of_head? hc))
    · rw [List.append_cons]
      exact hlast _

theorem fields_render (h : entry.localName ≠ []) :
    Text.fields entry.render = entry.localName :: Text.fields (Literal.quote entry.path) := by
  have hspace : Text.isBlank ' ' = true := by decide
  rw [render_of_localName_ne_nil h, Text.fields_append_of_word h hname (by simp [hspace]),
    Text.fields_cons_of_blank hspace]

/-- An import is read back where it can be. -/
theorem ofPayload_render (h : entry.Rereadable) : ofPayload entry.render = .ok (some entry) := by
  have hunpadded := unpadded_render hname
  by_cases hnone : entry.localName = []
  · rw [render_of_localName_eq_nil hnone] at hunpadded ⊢
    rw [ofPayload_of_beginsLiteral hunpadded ⟨'"', rfl, .inl rfl⟩, Literal.unquote_quoted, ← hnone]
  · obtain ⟨hopens, hpath⟩ := h.resolve_left hnone
    have hfields : Text.fields entry.render = [entry.localName, Literal.quote entry.path] := by
      rw [fields_render hname hnone, Literal.fields_quote_eq_singleton_iff.2 ⟨rfl, hpath⟩]
    rw [ofPayload_of_fields hunpadded (mt (beginsLiteral_render_iff hnone).1 hopens) hfields,
      Literal.unquote_quoted]

/-- A local name that begins like a literal spoils the literal behind it. -/
theorem ofPayload_render_of_beginsLiteral (h : BeginsLiteral entry.localName) :
    ofPayload entry.render =
      .error (.badLiteral .malformed entry.render entry.render) := by
  have hnone : entry.localName ≠ [] := by
    rintro hnone
    rw [hnone] at h
    exact absurd h (by decide)
  have hlast : entry.render.getLast? = some '"' := by
    rw [render_of_localName_ne_nil hnone, List.append_cons, List.getLast?_append,
      Literal.getLast?_quote, Option.some_or]
  have hdelimited : ¬ Literal.isDelimited entry.render = true := by
    intro hdelimited
    obtain ⟨c, hhead, hc⟩ := h
    obtain ⟨before, hbefore⟩ := List.head?_eq_some_iff.1 hhead
    rw [render_of_localName_ne_nil hnone, hbefore] at hdelimited
    rcases hc with rfl | rfl
    · have hbehind : entry.path.flatMap Literal.quoteChar ++ ['"'] ≠ [] := by simp
      have hcloses := Literal.closesInterpreted_space_quote before hbehind
      exact absurd (hcloses.symm.trans hdelimited) (by simp)
    · obtain ⟨body, hbody, -⟩ := Literal.closesRaw_iff.1 hdelimited
      have hraw : entry.render = '\x60' :: body ++ ['\x60'] := by
        rw [render_of_localName_ne_nil hnone, hbefore]
        exact congrArg _ hbody
      rw [hraw, List.getLast?_concat] at hlast
      exact absurd hlast (by decide)
  have hunquote : Literal.unquote entry.render = .error .malformed := by
    have hfeed : entry.render.getLast? ≠ some '\n' := by
      rw [hlast]
      decide
    rw [Literal.unquote, Literal.dropFinalLineFeed, if_neg hfeed, if_neg hdelimited]
  rw [ofPayload_of_beginsLiteral (unpadded_render hname) ((beginsLiteral_render_iff hnone).2 h),
    hunquote]

/-- A blank in the path cuts the literal behind a local name. -/
theorem ofPayload_render_of_not_rereadable (h : ¬ entry.Rereadable)
    (hopens : ¬ BeginsLiteral entry.localName) :
    ofPayload entry.render = .error (.badImport entry.render) := by
  have hnone : entry.localName ≠ [] := fun hnone => h (.inl hnone)
  have hne : entry.render ≠ [] := by simp [render_of_localName_ne_nil hnone]
  refine ofPayload_of_fields_ne (unpadded_render hname) hne
    (mt (beginsLiteral_render_iff hnone).1 hopens) fun localName literal hfields => ?_
  rw [fields_render hname hnone] at hfields
  obtain ⟨-, hquote⟩ := List.cons.inj hfields
  exact h (.inr ⟨hopens, (Literal.fields_quote_eq_singleton_iff.1 hquote).2⟩)

end Render

end Import

/-! ## Scanners -/

namespace Context

variable {context other : Context} {entry : Import}

theorem apply_importing_of_ofPayload {payload : Text}
    (hread : Import.ofPayload payload = .ok (some entry)) (hpath : entry.path ≠ [])
    (hnew : other.imports.find? entry.path = none) (origin : Text) :
    other.apply origin (.importing payload) =
      .ok { other with imports := other.imports.insert entry } :=
  apply_importing_eq_ok_iff.2 ⟨some entry, hread, _,
    ImportSet.addAll_singleton_eq_ok_iff.2 (.inserted hpath hnew), rfl⟩

theorem apply_importing_of_ofPayload_eq_error {payload : Text} {fault : DirectiveFault}
    (hread : Import.ofPayload payload = .error fault) (origin : Text) :
    other.apply origin (.importing payload) = .error (.directive fault) := by
  rw [apply, applyImport, hread]

/--
What is written for an import of a generated file can be put to any scanner that does not know its
path as the payload of an import directive. If the import is rereadable, it is accepted and is the
one that is new. Otherwise it is refused: as an import if a blank in its path separates fields, as a
literal if its local name begins like one.
-/
theorem rendered_import_read_back {exported extendedOnly : Bool} {given : Option Text}
    {session : List Request}
    (hcontext : context = (fresh exported extendedOnly given).performAll session)
    (hentry : entry ∈ context.runtimeImports ++ context.externalImports)
    (hnew : other.imports.find? entry.path = none) (origin : Text) :
    (entry.Rereadable →
      other.apply origin (.importing entry.render) =
          .ok { other with imports := other.imports.insert entry } ∧
        ∀ known, known ∈ (other.imports.insert entry).entries ↔
          known = entry ∨ known ∈ other.imports.entries) ∧
    (¬ entry.Rereadable →
      other.apply origin (.importing entry.render) =
        .error (.directive
          (if Import.BeginsLiteral entry.localName then
            .badLiteral .malformed entry.render entry.render
          else .badImport entry.render))) := by
  have hname := blank_free_localName_performAll hcontext entry hentry
  have hgrouped := grouped_of_imports
    (hcontext ▸ (exists_requestAll exported extendedOnly given session).grouped)
  have hpath := hgrouped.path_ne_nil entry hentry
  refine ⟨fun hrereadable => ⟨?_, fun known => ?_⟩, fun hspoilt => ?_⟩
  · exact apply_importing_of_ofPayload (Import.ofPayload_render hname hrereadable) hpath hnew origin
  · rw [(ImportSet.Adds.inserted hpath hnew).mem_entries_iff, or_comm, and_iff_left_of_imp]
    rintro rfl
    exact hpath
  · split
    · next hopens =>
      exact apply_importing_of_ofPayload_eq_error
        (Import.ofPayload_render_of_beginsLiteral hname hopens) origin
    · next hopens =>
      exact apply_importing_of_ofPayload_eq_error
        (Import.ofPayload_render_of_not_rereadable hname hspoilt hopens) origin

/-- A tab in a path is written as an escape, so that it separates nothing. -/
theorem rendered_import_read_back_tab :
    let session : List Request := [
      .scan "a.go" (.ofText "package p\n//ugo:callable:import tab \"x.y/a\\tb\"\n")]
    let context := (fresh false false none).performAll session
    let entry : Import := ⟨"x.y/a\tb", "tab"⟩
    let other := fresh true true "q"
    entry ∈ context.runtimeImports ++ context.externalImports ∧
      other.imports.find? entry.path = none ∧ entry.Rereadable ∧
      entry.render = "tab \"x.y/a\\tb\"" ∧
      other.apply "b.go" (.importing entry.render) =
        .ok { other with imports := other.imports.insert entry } := by
  intro session context entry other
  have hentry : entry ∈ context.runtimeImports ++ context.externalImports := by decide +kernel
  have hnew : other.imports.find? entry.path = none := by decide +kernel
  have hrereadable : entry.Rereadable := by decide +kernel
  exact ⟨hentry, hnew, hrereadable, by decide +kernel,
    ((rendered_import_read_back rfl hentry hnew "b.go").1 hrereadable).1⟩

/-- Imports with a local name that a scanner has read itself and does not read back. -/
theorem rendered_import_refused :
    let session : List Request := [
      .scan "a.go" (.ofText ("package p\n//ugo:callable:import db \"my\\x20db\"\n" ++
        "//ugo:callable:import\u00a0\"x\" \"fmt\"\n"))]
    let context := (fresh false false none).performAll session
    let other := fresh false false none
    (⟨"my db", "db"⟩ ∈ context.runtimeImports ∧ other.imports.find? "my db" = none ∧
      other.apply "b.go" (.importing (Import.render ⟨"my db", "db"⟩)) =
        .error (.directive (.badImport "db \"my db\""))) ∧
    ⟨"fmt", "\"x\""⟩ ∈ context.runtimeImports ∧ other.imports.find? "fmt" = none ∧
      other.apply "b.go" (.importing (Import.render ⟨"fmt", "\"x\""⟩)) =
        .error (.directive (.badLiteral .malformed "\"x\" \"fmt\"" "\"x\" \"fmt\"")) := by
  decide +kernel

end Context

end WrapperGen
