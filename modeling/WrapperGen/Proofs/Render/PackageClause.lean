import WrapperGen.Proofs.Render.Lines
import WrapperGen.Proofs.Scan.Regeneration

/-!
# The package clause of the generated file

The header of the generated file is a comment, and the package clause is on a line of its own behind
it. So reading the package of a generated file gives the package that it was rendered for
(`Context.read_render`): the name was read from a source, and ends again where the line does.
-/

namespace WrapperGen

/-- What stands in front of the package clause: the comment of the header, and a blank line. -/
def headerTrivia : List Text := [generatedHeader ++ ['\n'], ['\n']]

theorem trivium_of_mem_headerTrivia : ∀ item ∈ headerTrivia, PackageClause.Trivium item := by
  refine List.forall_mem_cons.2 ⟨?_, List.forall_mem_singleton.2 (.blank (by decide))⟩
  exact @PackageClause.Trivium.lineComment
    " Code generated by 'go generate'; DO NOT EDIT." (by decide)

/-- A file begins with its header and its package clause, and then the line ends. -/
theorem fileText_eq (package : Text) (runtime external : List Import) (wrappers : List Wrapper) :
    ∃ rest, fileText package runtime external wrappers =
      headerTrivia.flatten ++ (packageLine package ++ '\n' :: rest) := by
  refine ⟨Text.ofLines ([[], importOpening] ++ importLines runtime external ++ [importClosing] ++
    wrappers.flatMap Wrapper.lines), ?_⟩
  simp [fileText, fileLines, preambleLines, Text.ofLines, headerTrivia]

/-- A name that was read is read again from every file for it. -/
theorem PackageClause.read_fileText {source name : Text} (h : read source = .ok name)
    (runtime external : List Import) (wrappers : List Wrapper) :
    read (fileText name runtime external wrappers) = .ok name := by
  obtain ⟨rest, hfile⟩ := fileText_eq name runtime external wrappers
  rw [hfile]
  exact read_flatten_packageLine h trivium_of_mem_headerTrivia (by decide) (by simp [eq_comm])

namespace Context

/--
After every session of scans the package clause of the file that is rendered is read, and the name
in it is the package of the context.
-/
theorem read_render {exported extendedOnly : Bool} {requests : List Request} {context : Context}
    {text : Text} (hscans : ∀ request ∈ requests, request.isScan = true)
    (hcontext : context = (fresh exported extendedOnly none).performAll requests)
    (hrender : context.render = .ok text) :
    ∃ package, context.package = some package ∧ PackageClause.read text = .ok package := by
  obtain ⟨-, package, wrappers, hpackage, -, rfl⟩ := render_eq_ok_iff.1 hrender
  obtain ⟨source, hread⟩ := exists_read_of_package hscans (hcontext ▸ hpackage)
  exact ⟨package, hpackage, PackageClause.read_fileText hread _ _ wrappers⟩

/-- The name may be of any script, and what is scanned may begin with a byte order mark. -/
theorem read_render_script :
    let requests : List Request := [
      .scan "a.go" (.ofText "\uFEFF/* package a */package\t日本語_²// package b\n"),
      .scan "b.go" (.ofText "package 日本語_²\n//ugo:callable Get(package int) (error)")]
    let context := (fresh false true none).performAll requests
    ∃ text, context.render = .ok text ∧ context.package = some "日本語_²" ∧
      PackageClause.read text = .ok "日本語_²" := by
  intro requests context
  have hscans : ∀ request ∈ requests, request.isScan = true := by decide
  have hrendered : context.render.isOk = true := by decide +kernel
  obtain ⟨text, hrender⟩ := exists_ok_of_isOk hrendered
  obtain ⟨package, hpackage, hread⟩ := read_render hscans rfl hrender
  obtain rfl : package = "日本語_²" :=
    Option.some.inj (hpackage.symm.trans (by decide +kernel))
  exact ⟨text, hrender, hpackage, hread⟩

end Context

end WrapperGen
