import WrapperGen.Proofs.Scan.Stopping
import WrapperGen.Proofs.Text.Encoding
import WrapperGen.Proofs.Text.Lines

/-!
# The forms of directive lines

`Directive.Written` lists what may follow the beginning of a directive line. Of a keyword the reader
only sees that the rest begins with it, so that it also takes a rest whose keyword runs on
(`Directive.RunsOn`): what lengthens the keyword becomes part of the payload. All other rests are
refused and leave no trace (`Context.scan_reads_forms`).
-/

namespace WrapperGen

namespace Directive

/-- Whether the payload of an import may begin with the character. -/
def opensImport (c : Char) : Bool := Text.isPadding c || c == '"' || c == '\x60'

/-- The payload is empty or begins with a character that sets it off from a word before it. -/
def SetOff (separates : Char → Bool) (payload : Text) : Prop :=
  ∀ c ∈ payload.head?, separates c = true

/-- The rests of the directive language, each with the directive that it stands for. -/
inductive Written : Text → Directive → Prop
  | importing {payload : Text} (h : SetOff opensImport payload) :
      Written (importWord ++ payload) (importing payload)
  | converting {payload : Text} (h : SetOff Text.isPadding payload) :
      Written (convertWord ++ payload) (converting payload)
  | declaring {c : Char} {payload : Text} (h : Text.isPadding c = true) :
      Written (c :: payload) (declaring payload)

/-- The rests whose keyword is only the beginning of a word, with what they are taken for. -/
inductive RunsOn : Text → Directive → Prop
  | importing {payload : Text} (h : ¬ SetOff opensImport payload) :
      RunsOn (importWord ++ payload) (importing payload)
  | converting {payload : Text} (h : ¬ SetOff Text.isPadding payload) :
      RunsOn (convertWord ++ payload) (converting payload)

/-! ## Rests -/

theorem ofRest?_importWord (payload : Text) :
    ofRest? (importWord ++ payload) = some (importing payload) := rfl

theorem ofRest?_convertWord (payload : Text) :
    ofRest? (convertWord ++ payload) = some (converting payload) := rfl

theorem ofRest?_padding {c : Char} (h : Text.isPadding c = true) (payload : Text) :
    ofRest? (c :: payload) = some (declaring payload) := by
  rw [Text.isPadding, Bool.or_eq_true, beq_iff_eq, beq_iff_eq] at h
  rcases h with rfl | rfl <;> rfl

theorem Written.ofRest? {rest : Text} {directive : Directive} (h : Written rest directive) :
    ofRest? rest = some directive := by
  cases h with
  | importing => exact ofRest?_importWord _
  | converting => exact ofRest?_convertWord _
  | declaring hpadding => exact ofRest?_padding hpadding _

theorem RunsOn.ofRest? {rest : Text} {directive : Directive} (h : RunsOn rest directive) :
    ofRest? rest = some directive := by
  cases h with
  | importing => exact ofRest?_importWord _
  | converting => exact ofRest?_convertWord _

/-- A rest is taken for a directive if it is written as one, or if its keyword runs on. -/
theorem ofRest?_eq_some_iff {rest : Text} {directive : Directive} :
    ofRest? rest = some directive ↔ Written rest directive ∨ RunsOn rest directive := by
  refine ⟨fun h => ?_, fun h => h.elim Written.ofRest? RunsOn.ofRest?⟩
  rw [ofRest?.eq_def] at h
  split at h
  · next payload hword =>
    obtain rfl := List.isPrefixOf?_eq_some_iff_append_eq.1 hword
    obtain rfl := Option.some.inj h
    by_cases hset : SetOff opensImport payload
    · exact .inl (.importing hset)
    · exact .inr (.importing hset)
  · split at h
    · next payload hword =>
      obtain rfl := List.isPrefixOf?_eq_some_iff_append_eq.1 hword
      obtain rfl := Option.some.inj h
      by_cases hset : SetOff Text.isPadding payload
      · exact .inl (.converting hset)
      · exact .inr (.converting hset)
    · split at h
      · next c payload =>
        split at h
        · next hpadding =>
          obtain rfl := Option.some.inj h
          exact .inl (.declaring hpadding)
        · exact absurd h (by simp)
      · exact absurd h (by simp)

theorem ofRest?_eq_none_iff {rest : Text} :
    ofRest? rest = none ↔ ¬ ∃ directive, Written rest directive ∨ RunsOn rest directive := by
  simp only [← ofRest?_eq_some_iff, Option.eq_none_iff_forall_ne_some, not_exists, ne_eq]

/-- The directive language has no keyword that runs on. -/
theorem RunsOn.not_written {rest : Text} {directive : Directive} (h : RunsOn rest directive) :
    ¬ ∃ written, Written rest written := by
  rintro ⟨written, hwritten⟩
  obtain rfl : written = directive :=
    Option.some.inj (hwritten.ofRest?.symm.trans h.ofRest?)
  generalize hrest : rest = other at hwritten
  cases h with
  | importing hruns =>
    cases hwritten with
    | importing hset => exact hruns hset
  | converting hruns =>
    cases hwritten with
    | converting hset => exact hruns hset

end Directive

/-! ## Lines -/

namespace Source

/-- The trimmed lines of a source, numbered from a first number on. -/
def numberedFrom (first : Nat) (lines : List Source) : List NumberedLine :=
  (lines.zipIdx first).map fun (line, number) => ⟨number, line.trim⟩

theorem numberedFrom_cons (first : Nat) (line : Source) (lines : List Source) :
    numberedFrom first (line :: lines) = ⟨first, line.trim⟩ :: numberedFrom (first + 1) lines := by
  simp [numberedFrom, List.zipIdx_cons]

theorem directiveLines_eq (source : Source) :
    source.directiveLines = (numberedFrom 1 source.lines).filter NumberedLine.isDirective := rfl

/-- The lines that are meant as directives, numbered among all of them from a first number on. -/
def directivesFrom (first : Nat) (lines : List Source) : List NumberedLine :=
  (numberedFrom first lines).filter NumberedLine.isDirective

theorem mem_directivesFrom_iff {first : Nat} {lines : List Source} {numbered : NumberedLine} :
    numbered ∈ directivesFrom first lines ↔
      ∃ index line, lines[index]? = some line ∧ numbered = ⟨first + index, line.trim⟩ ∧
        directivePrefix <+: numbered.line.shown := by
  rw [directivesFrom, numberedFrom, List.mem_filter, List.mem_map, NumberedLine.isDirective,
    List.isPrefixOf_iff_prefix]
  constructor
  · rintro ⟨⟨⟨line, number⟩, hline, rfl⟩, hprefix⟩
    obtain ⟨hnumber, hindex⟩ := List.mk_mem_zipIdx_iff_le_and_getElem?_sub.1 hline
    exact ⟨number - first, line, hindex, by rw [Nat.add_sub_cancel' hnumber], hprefix⟩
  · rintro ⟨index, line, hindex, rfl, hprefix⟩
    refine ⟨⟨(line, first + index), ?_, rfl⟩, hprefix⟩
    exact List.mk_mem_zipIdx_iff_le_and_getElem?_sub.2 ⟨Nat.le_add_right first index, by simpa⟩

/-- The directive lines of a source are the trimmed lines that begin like one. -/
theorem mem_directiveLines_iff {source : Source} {numbered : NumberedLine} :
    numbered ∈ source.directiveLines ↔
      ∃ index line, source.lines[index]? = some line ∧ numbered = ⟨index + 1, line.trim⟩ ∧
        directivePrefix <+: numbered.line.shown := by
  simp only [Nat.add_comm _ 1]
  exact mem_directivesFrom_iff

end Source

namespace NumberedLine

variable {numbered : NumberedLine} {origin : Text}

theorem directive_of_undecodable (h : numbered.line.text? = none) :
    numbered.directive origin = .error (.undecodable numbered.line origin numbered.number) := by
  rw [directive, h]

/-- A line stands for the directive with its rest. -/
theorem directive_eq_ok_iff {rest : Text} {directive : Directive}
    (h : numbered.line.text? = some (directivePrefix ++ rest)) :
    numbered.directive origin = .ok directive ↔ Directive.ofRest? rest = some directive := by
  rw [NumberedLine.directive, h]
  simp only [NumberedLine.rest, List.drop_left]
  cases Directive.ofRest? rest <;> simp

theorem directive_of_unrecognized {rest : Text}
    (h : numbered.line.text? = some (directivePrefix ++ rest))
    (hrest : Directive.ofRest? rest = none) :
    numbered.directive origin =
      .error (.unrecognized (directivePrefix ++ rest) origin numbered.number) := by
  rw [directive, h]
  simp only [NumberedLine.rest, List.drop_left, hrest]

end NumberedLine

namespace Context

variable {context current : Context} {origin : Text} {source : Source}
  {before after : List NumberedLine} {numbered : NumberedLine}

/-- The first line that is no directive ends a scan without a trace of itself. -/
theorem scan_eq_of_directive_eq_error {fault : DirectiveFault}
    (hlines : source.directiveLines = before ++ numbered :: after)
    (hbefore : context.acceptAll (PlacedLine.all origin before) = .ok current)
    (hfault : numbered.directive origin = .error fault) :
    context.scan origin source = ⟨current, some (.directive fault)⟩ :=
  (Scans.refused hlines hbefore (by rw [applyLine, hfault])).eq_scan

/--
The lines that begin like a directive once they are trimmed are directive lines, and nothing else
is one. Behind lines that are accepted, a line stands for the directive that its rest writes; a rest
that writes none ends the scan as unrecognized, and nothing is registered by it. The exception is a
rest whose keyword runs on: it writes no directive, and yet it is taken for one.
-/
theorem scan_reads_forms (hlines : source.directiveLines = before ++ numbered :: after)
    (hbefore : context.acceptAll (PlacedLine.all origin before) = .ok current) :
    (∀ other, other ∈ source.directiveLines ↔
      ∃ index line, source.lines[index]? = some line ∧ other = ⟨index + 1, line.trim⟩ ∧
        directivePrefix <+: other.line.shown) ∧
    (numbered.line.text? = none →
      context.scan origin source =
        ⟨current, some (.directive (.undecodable numbered.line origin numbered.number))⟩) ∧
    ∀ text, numbered.line.text? = some text →
      ∃ rest, text = directivePrefix ++ rest ∧
        (∀ directive, numbered.directive origin = .ok directive ↔
          Directive.Written rest directive ∨ Directive.RunsOn rest directive) ∧
        (∀ directive, Directive.RunsOn rest directive → ¬ ∃ other, Directive.Written rest other) ∧
        ((¬ ∃ directive, Directive.Written rest directive ∨ Directive.RunsOn rest directive) →
          let failure := Failure.directive (.unrecognized text origin numbered.number)
          context.scan origin source = ⟨current, some failure⟩ ∧
            failure.kind? = some .directive ∧
            failure.text = "unrecognized directive " ++ Text.quoted text ++ " at " ++
              DirectiveFault.place origin numbered.number) := by
  refine ⟨fun other => Source.mem_directiveLines_iff, fun hnone => ?_, fun text htext => ?_⟩
  · exact scan_eq_of_directive_eq_error hlines hbefore
      (NumberedLine.directive_of_undecodable hnone)
  · have hmem : numbered ∈ source.directiveLines := by simp [hlines]
    obtain ⟨-, -, -, -, rest, hrest⟩ := Source.mem_directiveLines_iff.1 hmem
    have hshown : numbered.line.shown = text := by
      rw [Source.text?_eq_some_iff.1 htext, Source.shown_ofText]
    obtain rfl : directivePrefix ++ rest = text := hrest.trans hshown
    refine ⟨rest, rfl, fun directive => ?_, fun directive hruns => hruns.not_written,
      fun hnone => ⟨scan_eq_of_directive_eq_error hlines hbefore ?_, rfl, rfl⟩⟩
    · rw [NumberedLine.directive_eq_ok_iff htext, Directive.ofRest?_eq_some_iff]
    · exact NumberedLine.directive_of_unrecognized htext (Directive.ofRest?_eq_none_iff.2 hnone)

/-- A directive of another kind ends the scan behind a function that is declared. -/
theorem scan_reads_forms_export :
    let source : Source :=
      .ofText "package p\n//ugo:callable Add(a int)\n  //ugo:callable:export f()\n"
    let text : Text := "//ugo:callable:export f()"
    ∃ current, (fresh false false none).acceptAll
        (PlacedLine.all "p.go" (source.directiveLines.take 1)) = .ok current ∧
      (fresh false false none).scan "p.go" source =
        ⟨current, some (.directive (.unrecognized text "p.go" 3))⟩ := by
  intro source text
  have haccepted : ((fresh false false none).acceptAll
      (PlacedLine.all "p.go" (source.directiveLines.take 1))).isOk = true := by decide +kernel
  obtain ⟨current, hbefore⟩ := exists_ok_of_isOk haccepted
  refine ⟨current, hbefore, ?_⟩
  have hlines : source.directiveLines =
      source.directiveLines.take 1 ++ ⟨3, .ofText text⟩ :: [] := by decide +kernel
  obtain ⟨rest, hrest, -, -, hunrecognized⟩ :=
    (scan_reads_forms hlines hbefore).2.2 text (Source.text?_eq_some_iff.2 rfl)
  have htext : text = directivePrefix ++ (":export f()" : Text) := by decide +kernel
  obtain rfl : rest = ":export f()" := List.append_cancel_left (hrest.symm.trans htext)
  exact (hunrecognized (Directive.ofRest?_eq_none_iff.1 (by decide +kernel))).1

/-- A word that only begins with a keyword is no directive, and an import is registered. -/
theorem scan_takes_importx :
    let rest : Text := ":importx \"strings\""
    let source : Source := .ofText ("package main\n" ++ directivePrefix ++ rest ++ "\n")
    let result := (fresh false false none).scan "main.go" source
    source.directiveLines = [⟨2, .ofText (directivePrefix ++ rest)⟩] ∧
      (¬ ∃ directive, Directive.Written rest directive) ∧
      result.failure = none ∧ result.context.imports.find? "strings" = some ⟨"strings", "x"⟩ := by
  intro rest source result
  have hruns : Directive.RunsOn rest (.importing "x \"strings\"") :=
    .importing (by simp [Directive.SetOff]; decide)
  exact ⟨by decide +kernel, hruns.not_written, by decide +kernel, by decide +kernel⟩

end Context

end WrapperGen
