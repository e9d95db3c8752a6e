import WrapperGen.Proofs.Literal.Quote
import WrapperGen.Proofs.Render.Validation
import WrapperGen.Proofs.Wrapper.Lines

/-!
# The lines of the generated file

No source can add a line to the generated file, or break one: after every session of scans the text
of the file, split at its line feeds, has one line for every line of its layout
(`Context.splitOn_render`). Import paths are the only texts in it that may hold a line feed, and
those are quoted.
-/

namespace WrapperGen

theorem Text.splitOn_ofLines (lines : List Text) :
    (Text.ofLines lines).splitOn '\n' = lines.flatMap (·.splitOn '\n') ++ [[]] := by
  induction lines with
  | nil => rfl
  | cons line lines ih =>
    rw [Text.ofLines, List.flatMap_cons, List.append_assoc, List.singleton_append,
      List.splitOn_append_cons_self, ← Text.ofLines, ih, List.flatMap_cons, List.append_assoc]

/-! ## Imports -/

theorem Import.feed_not_mem_line {entry : Import} (h : entry.localName.OneLine) :
    '\n' ∉ entry.line := by
  have hpath := Literal.feed_not_mem_quote entry.path
  unfold Import.line Import.render
  split
  · simp [hpath]
  · simp [hpath, h.feed_not_mem]

namespace Context

variable {context : Context}

theorem mem_entries_of_runtimeImports {entry : Import} (h : entry ∈ context.runtimeImports) :
    entry ∈ context.imports.entries := by
  refine List.mem_append_left _ ?_
  unfold runtimeImports at h
  split at h
  · exact (List.mem_filter.1 h).1
  · exact h

/-- An external import of the file was asked for, or it is the runtime. -/
theorem mem_entries_of_externalImports {entry : Import} (h : entry ∈ context.externalImports) :
    entry = ⟨Runtime.importPath, []⟩ ∨ entry ∈ context.imports.entries := by
  unfold externalImports at h
  split at h
  · exact .inr (List.mem_append_right _ h)
  · exact (Import.mem_insertSorted.1 h).imp_right (List.mem_append_right _)

theorem OneLine.runtimeImports (h : context.OneLine) :
    ∀ entry ∈ context.runtimeImports, entry.localName.OneLine :=
  fun entry hentry => h.imports entry (mem_entries_of_runtimeImports hentry)

theorem OneLine.externalImports (h : context.OneLine) :
    ∀ entry ∈ context.externalImports, entry.localName.OneLine := by
  intro entry hentry
  rcases mem_entries_of_externalImports hentry with rfl | hentry
  · exact Text.oneLine_nil
  · exact h.imports entry hentry

/-! ## Wrappers -/

theorem oneLine_qualifier (context : Context) : context.qualifier.OneLine := by
  unfold qualifier
  split <;> decide

/-- Every wrapper of the file is one of a function of the context. -/
theorem exists_of_mem_wrappers {wrappers : List Wrapper}
    (hwrappers : context.wrappers = .ok wrappers) {wrapper : Wrapper} (hmem : wrapper ∈ wrappers) :
    ∃ convention, ∃ function ∈ context.functions,
      Wrapper.ofFunction context.registry context.qualifier convention function = .ok wrapper := by
  obtain ⟨groups, hgroups, hpure⟩ := bind_eq_ok_iff.1 hwrappers
  obtain rfl := pure_eq_ok_iff.1 hpure
  obtain ⟨group, hgroup, hmem⟩ := List.mem_flatten.1 hmem
  obtain ⟨convention, -, hconvention⟩ := exists_of_mem_right (mapM_eq_ok_iff.1 hgroups) hgroup
  obtain ⟨function, hfunction, hwrapper⟩ :=
    exists_of_mem_right (mapM_eq_ok_iff.1 hconvention) hmem
  exact ⟨convention, function, hfunction, hwrapper⟩

/-- Every function of the context has a wrapper in the file. -/
theorem exists_wrapper_of_mem_functions {wrappers : List Wrapper}
    (hwrappers : context.wrappers = .ok wrappers) {function : Function}
    (hmem : function ∈ context.functions) : ∃ wrapper ∈ wrappers, wrapper.function = function := by
  obtain ⟨groups, hgroups, hpure⟩ := bind_eq_ok_iff.1 hwrappers
  obtain rfl := pure_eq_ok_iff.1 hpure
  have hcursor : .cursor ∈ context.conventions := by
    unfold conventions
    split <;> simp
  obtain ⟨group, hgroup, hconvention⟩ :=
    exists_of_mem_right (mapM_eq_ok_iff.1 hgroups).flip hcursor
  obtain ⟨wrapper, hwrapper, hmade⟩ :=
    exists_of_mem_right (mapM_eq_ok_iff.1 hconvention).flip hmem
  obtain ⟨extractions, -, rfl⟩ := Wrapper.ofFunction_eq_ok_iff.1 hmade
  exact ⟨_, List.mem_flatten_of_mem hgroup hwrapper, rfl⟩

theorem OneLine.wrapper (h : context.OneLine) {convention : Convention} {function : Function}
    (hfunction : function ∈ context.functions) {wrapper : Wrapper}
    (hwrapper : Wrapper.ofFunction context.registry context.qualifier convention function =
      .ok wrapper) : wrapper.OneLine := by
  obtain ⟨extractions, -, rfl⟩ := Wrapper.ofFunction_eq_ok_iff.1 hwrapper
  exact ⟨oneLine_qualifier context, h.functions function hfunction⟩

/-- The lines of every wrapper of the file are those of its layout. -/
theorem OneLine.lines_of_mem_wrappers (h : context.OneLine) {wrappers : List Wrapper}
    (hwrappers : context.wrappers = .ok wrappers) {wrapper : Wrapper} (hmem : wrapper ∈ wrappers) :
    wrapper.lines.flatMap (·.splitOn '\n') = wrapper.writtenLines ∧
      wrapper.LineCounts context.registry := by
  obtain ⟨convention, function, hfunction, hwrapper⟩ := exists_of_mem_wrappers hwrappers hmem
  have hone : wrapper.OneLine := h.wrapper hfunction hwrapper
  exact ⟨hone.flatMap_splitOn_lines hwrapper h.registry, hone.lineCounts hwrapper h.registry⟩

/-! ## The file -/

/-- The lines in front of the wrappers, with an empty line between two groups of imports. -/
theorem preambleLines_eq (package : Text) (runtime external : List Import) :
    preambleLines package runtime external =
      [generatedHeader, [], packageLine package, [], importOpening] ++ runtime.map Import.line ++
        (if runtime ≠ [] ∧ external ≠ [] then [[]] else []) ++ external.map Import.line ++
        [importClosing] := by
  have hseparator : (if runtime.isEmpty || external.isEmpty then [] else [[]] : List Text) =
      if runtime ≠ [] ∧ external ≠ [] then [[]] else [] := by
    cases runtime <;> cases external <;> rfl
  simp only [preambleLines, importLines, hseparator, List.append_assoc]

theorem OneLine.feed_not_mem_preamble (h : context.OneLine) {package : Text}
    (hpackage : context.package = some package) :
    ∀ line ∈ preambleLines package context.runtimeImports context.externalImports,
      '\n' ∉ line := by
  have hname : '\n' ∉ packageLine package := by
    unfold packageLine
    rw [List.mem_append, not_or]
    exact ⟨by decide, h.package package hpackage⟩
  have hopening : ∀ line ∈ [generatedHeader, [], packageLine package, [], importOpening],
      '\n' ∉ line := by
    simp only [List.forall_mem_cons]
    exact ⟨by decide, by decide, hname, by decide, by decide, by simp⟩
  have himports : ∀ entries : List Import, (∀ entry ∈ entries, entry.localName.OneLine) →
      ∀ line ∈ entries.map Import.line, '\n' ∉ line := by
    intro entries hentries line hline
    obtain ⟨entry, hentry, rfl⟩ := List.mem_map.1 hline
    exact Import.feed_not_mem_line (hentries entry hentry)
  have hseparator : ∀ line ∈ (if context.runtimeImports ≠ [] ∧ context.externalImports ≠ []
      then [[]] else [] : List Text), '\n' ∉ line := by
    split <;> simp
  have hclosing : ∀ line ∈ [importClosing], '\n' ∉ line := by decide
  simp only [preambleLines_eq, List.forall_mem_append]
  exact ⟨⟨⟨⟨hopening, himports _ h.runtimeImports⟩, hseparator⟩, himports _ h.externalImports⟩,
    hclosing⟩

/--
After every session of scans the file that is rendered has the lines of its layout and no others:
those in front of the wrappers, one for each import, with an empty line between two groups; then
the lines of every wrapper, in which a statement takes as many lines as its form has; and nothing
after the last line feed. Only a package that was given beforehand did not come from a source.
-/
theorem splitOn_render {exported extendedOnly : Bool} {given : Option Text}
    {requests : List Request} {text : Text} (hgiven : ∀ name ∈ given, '\n' ∉ name)
    (hscans : ∀ request ∈ requests, request.isScan = true)
    (hcontext : context = (fresh exported extendedOnly given).performAll requests)
    (hrender : context.render = .ok text) :
    ∃ package wrappers, context.package = some package ∧ context.wrappers = .ok wrappers ∧
      text.splitOn '\n' =
        [generatedHeader, [], packageLine package, [], importOpening] ++
          context.runtimeImports.map Import.line ++
          (if context.runtimeImports ≠ [] ∧ context.externalImports ≠ [] then [[]] else []) ++
          context.externalImports.map Import.line ++ [importClosing] ++
          wrappers.flatMap Wrapper.writtenLines ++ [[]] ∧
      ∀ wrapper ∈ wrappers, wrapper.LineCounts context.registry := by
  have h : context.OneLine := hcontext ▸ oneLine_performAll hgiven hscans
  obtain ⟨-, package, wrappers, hpackage, hwrappers, rfl⟩ := render_eq_ok_iff.1 hrender
  refine ⟨package, wrappers, hpackage, hwrappers, ?_, ?_⟩
  · have hlines : wrappers.flatMap (fun wrapper => wrapper.lines.flatMap (·.splitOn '\n')) =
        wrappers.flatMap Wrapper.writtenLines :=
      List.flatMap_congr fun wrapper hwrapper => (h.lines_of_mem_wrappers hwrappers hwrapper).1
    rw [fileText, Text.splitOn_ofLines, fileLines, List.flatMap_append, List.flatMap_assoc, hlines,
      Text.flatMap_splitOn_eq_self (h.feed_not_mem_preamble hpackage), preambleLines_eq]
  · exact fun wrapper hwrapper => (h.lines_of_mem_wrappers hwrappers hwrapper).2

/-- A path may hold a line feed, and a converter whatever is no blank. -/
theorem splitOn_render_pasted :
    let requests : List Request := [
      .scan "a.go" (.ofText "package db\n//ugo:callable:import \"log\\n//\"\n"),
      .scan "b.go" (.ofText "package db\n//ugo:callable:convert T f)//\n"),
      .scan "c.go" (.ofText "//ugo:callable Get(a T, b Object) (int, error)\npackage db")]
    let context := (fresh false false none).performAll requests
    ∃ text package wrappers, context.render = .ok text ∧ context.package = some package ∧
      context.wrappers = .ok wrappers ∧
      text.splitOn '\n' =
        [generatedHeader, [], packageLine package, [], importOpening] ++
          context.runtimeImports.map Import.line ++
          (if context.runtimeImports ≠ [] ∧ context.externalImports ≠ [] then [[]] else []) ++
          context.externalImports.map Import.line ++ [importClosing] ++
          wrappers.flatMap Wrapper.writtenLines ++ [[]] ∧
      ∀ wrapper ∈ wrappers, wrapper.LineCounts context.registry := by
  intro requests context
  have hgiven : ∀ name ∈ (none : Option Text), '\n' ∉ name := by simp
  have hscans : ∀ request ∈ requests, request.isScan = true := by decide
  have hrendered : context.render.isOk = true := by decide +kernel
  obtain ⟨text, hrender⟩ := exists_ok_of_isOk hrendered
  obtain ⟨package, wrappers, hpackage, hwrappers, hlines⟩ :=
    splitOn_render hgiven hscans rfl hrender
  exact ⟨text, package, wrappers, hrender, hpackage, hwrappers, hlines⟩

end Context

end WrapperGen
