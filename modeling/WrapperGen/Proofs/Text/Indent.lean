import WrapperGen.Proofs.Text.Lines

/-!
# Indented texts

An indented text is joined from the lines of the text, each with its tabs (`indent_eq_join`). No
line break but the line feeds between them is in it, so split at line feeds it comes apart into the
same lines (`splitOn_indent`). Cut into lines it does so too, unless the last line is empty
(`lines_indent`). Then indentations add up (`indent_indent`).
-/

namespace WrapperGen.Text

/--
A line of a text that is indented, by its index: the first line gets tabs if that is asked for, and
any other line unless it is empty.
-/
def indentAt (level : Nat) (first : Bool) (index : Nat) (line : Text) : Text :=
  if index = 0 then
    if first then List.replicate level '\t' ++ line else line
  else
    if line = [] then [] else List.replicate level '\t' ++ line

section IndentAt

variable {level : Nat} {first : Bool} {index : Nat} {line : Text}

theorem indentAt_succ : indentAt level first (index + 1) = indentLine level := by
  funext line
  cases line <;> rfl

theorem oneLine_tabs (level : Int) : OneLine (tabs level) := fun c hc => by
  rw [List.eq_of_mem_replicate hc]
  decide

/-- At most tabs are put in front of a line. -/
theorem indentAt_cases : indentAt level first index line = line ∨
    indentAt level first index line = tabs level ++ line := by
  unfold indentAt
  split_ifs with _ _ hline
  · exact .inr rfl
  · exact .inl rfl
  · exact .inl hline.symm
  · exact .inr rfl

theorem indentAt_ne_nil (h : line ≠ []) : indentAt level first index line ≠ [] := by
  unfold indentAt
  split_ifs <;> simp [h]

/-- A line that is indented twice is indented by both levels at once. -/
theorem indentAt_indentAt (a b : Nat) :
    indentAt b first index (indentAt a first index line) = indentAt (a + b) first index line := by
  have htabs : List.replicate b '\t' ++ (List.replicate a '\t' ++ line) =
      List.replicate (a + b) '\t' ++ line := by
    rw [← List.append_assoc, List.replicate_append_replicate, Nat.add_comm]
  by_cases hindex : index = 0
  · cases first <;> simp [indentAt, hindex, htabs]
  · by_cases hline : line = []
    · simp [indentAt, hindex, hline]
    · simp [indentAt, hindex, hline, htabs]

/-- Where no line is empty, every line gets its tabs. -/
theorem mapIdx_indentAt {lines : List Text} (h : ∀ line ∈ lines, line ≠ []) :
    lines.mapIdx (indentAt level true) = lines.map (tabs level ++ ·) := by
  rw [List.mapIdx_eq_iff]
  intro index
  rw [List.getElem?_map]
  cases hline : lines[index]? with
  | none => rfl
  | some line =>
    have hne := h line (List.mem_of_getElem? hline)
    simp [indentAt, hne, tabs]

end IndentAt

/-! ## Lines of an indented text -/

section Indent

variable {text : Text}

theorem oneLine_of_mem_lines {line : Text} (h : line ∈ lines text) : OneLine line :=
  of_mem_piecesBy h

theorem indent_of_lines_eq_nil (h : lines text = []) (level : Int) (first : Bool) :
    indent text level first = text := by
  rw [indent, h]

theorem indent_eq_join (h : lines text ≠ []) (level : Nat) (first : Bool) :
    indent text level first = join ['\n'] ((lines text).mapIdx (indentAt level first)) := by
  obtain ⟨head, rest, hlines⟩ := List.exists_cons_of_ne_nil h
  have hrest : rest.mapIdx (fun index => indentAt level first (index + 1)) =
      rest.map (indentLine level) :=
    List.ext_getElem? fun index => by simp [indentAt_succ]
  rw [indent, hlines, List.mapIdx_cons, hrest]
  rfl

variable (level : Nat) (first : Bool)

theorem exists_of_mem_indented {indented : Text}
    (h : indented ∈ (lines text).mapIdx (indentAt level first)) :
    ∃ line ∈ lines text, indented = line ∨ indented = tabs level ++ line := by
  obtain ⟨index, hindex, rfl⟩ := List.mem_mapIdx.1 h
  exact ⟨_, List.getElem_mem hindex, indentAt_cases⟩

theorem oneLine_of_mem_indented {indented : Text}
    (h : indented ∈ (lines text).mapIdx (indentAt level first)) : OneLine indented := by
  obtain ⟨line, hline, rfl | rfl⟩ := exists_of_mem_indented level first h
  · exact oneLine_of_mem_lines hline
  · exact oneLine_append.2 ⟨oneLine_tabs level, oneLine_of_mem_lines hline⟩

/-- An indented text holds no line break but line feeds. -/
theorem eq_feed_of_mem_indent (h : lines text ≠ []) {c : Char} (hc : c ∈ indent text level first)
    (hbreak : isLineBreak c = true) : c = '\n' := by
  rw [indent_eq_join h] at hc
  obtain hc | ⟨line, hline, hc⟩ := mem_join hc
  · simpa using hc
  · exact absurd hbreak (by simp [oneLine_of_mem_indented level first hline c hc])

/-- Between line feeds stand the lines of the text, each with its tabs. -/
theorem splitOn_indent (h : lines text ≠ []) :
    (indent text level first).splitOn '\n' = (lines text).mapIdx (indentAt level first) := by
  rw [indent_eq_join h]
  refine List.splitOn_intercalate '\n' (fun line hline => ?_) (by simpa using h)
  exact (oneLine_of_mem_indented level first hline).feed_not_mem

/-- The lines of a text that is indented are its lines, each with its tabs. -/
theorem lines_indent (hlast : (lines text).getLast? ≠ some []) :
    lines (indent text level first) = (lines text).mapIdx (indentAt level first) := by
  by_cases h : lines text = []
  · rw [indent_of_lines_eq_nil h, h, List.mapIdx_nil]
  · rw [indent_eq_join h]
    refine lines_join_of_last (fun line hline => oneLine_of_mem_indented level first hline) ?_
    rw [List.getLast?_mapIdx]
    intro hnil
    obtain ⟨line, hline, hempty⟩ := Option.map_eq_some_iff.1 hnil
    exact indentAt_ne_nil (fun heq => hlast (by rw [hline, heq])) hempty

theorem indent_indent (hlast : (lines text).getLast? ≠ some []) (a b : Nat) :
    indent (indent text a first) b first = indent text (a + b) first := by
  by_cases h : lines text = []
  · rw [indent_of_lines_eq_nil h, indent_of_lines_eq_nil h, indent_of_lines_eq_nil h]
  · have hlines := lines_indent a first hlast
    have hne : lines (indent text a first) ≠ [] := by simpa [hlines] using h
    have hsum : indent text (a + b) first = indent text (a + b : Nat) first := rfl
    rw [indent_eq_join hne, hlines, List.mapIdx_mapIdx, hsum, indent_eq_join h]
    congr 2
    funext index line
    exact indentAt_indentAt a b

end Indent

/--
**Indentation neither loses nor merges lines.** Every text with a line is indented without a line
break but line feeds, and split at them it has as many pieces as the text has lines: the lines, each
with its tabs. Where the last line is not empty, indentations one after the other add up.
-/
theorem indent_keeps_lines {text : Text} (hlines : lines text ≠ []) :
    (∀ (level : Nat) (first : Bool),
      (∀ c ∈ indent text level first, isLineBreak c = true → c = '\n') ∧
      ((indent text level first).splitOn '\n').length = (lines text).length ∧
      (indent text level first).splitOn '\n' = (lines text).mapIdx (indentAt level first)) ∧
    ((lines text).getLast? ≠ some [] → ∀ (a b : Nat) (first : Bool),
      indent (indent text a first) b first = indent text (a + b) first) := by
  refine ⟨fun level first => ⟨?_, ?_, splitOn_indent level first hlines⟩, fun hlast a b first =>
    indent_indent first hlast a b⟩
  · exact fun c hc hbreak => eq_feed_of_mem_indent level first hlines hc hbreak
  · rw [splitOn_indent level first hlines, List.length_mapIdx]

/-- Four lines, two of them empty, that end in different ways. -/
theorem indent_keeps_lines_mixed :
    (indent "if x\x0b\r\n\u2028end" 2 true).splitOn '\n' = ["\t\tif x", "", "", "\t\tend"] ∧
      indent (indent "if x\x0b\r\n\u2028end" 1 false) 2 false =
        indent "if x\x0b\r\n\u2028end" 3 false := by
  obtain ⟨hpieces, hsum⟩ := @indent_keeps_lines "if x\x0b\r\n\u2028end" (by decide)
  refine ⟨?_, hsum (by decide) 1 2 false⟩
  exact (hpieces 2 true).2.2

end WrapperGen.Text
