import WrapperGen.Imports
import WrapperGen.Text.Line
import WrapperGen.Wrapper

/-!
# Layout of the generated file

The file is a header, the package clause, one import block with a blank line between its groups,
and the wrappers, each after a blank line. Every line ends in a line feed.
-/

namespace WrapperGen

/-- The first line of every generated file. -/
def generatedHeader : Text := "// Code generated by 'go generate'; DO NOT EDIT."

/-- A statement inside a wrapper's function, two levels deep. -/
def Wrapper.statement (text : Text) : Text := Text.tabs 2 ++ Text.indent text 2 false

namespace Wrapper

/-- The line that documents the wrapper. -/
def docLine (wrapper : Wrapper) : Text :=
  "// " ++ wrapper.name ++ " is a generated function to make " ++ wrapper.callableType ++ "."

/-- The line that quotes what declared the function. -/
def sourceLine (wrapper : Wrapper) : Text := "// Source: " ++ wrapper.source

/-- The line that opens the wrapper: it takes the function to wrap. -/
def outerLine (wrapper : Wrapper) : Text :=
  "func " ++ wrapper.name ++ "(" ++ wrapper.callee ++ " func(" ++ wrapper.paramTypes ++ ")" ++
    wrapper.resultTypes ++ ") " ++ wrapper.callableType ++ " \x7b"

/-- The line that opens the function the wrapper returns: it takes the arguments. -/
def innerLine (wrapper : Wrapper) : Text :=
  "\treturn func(" ++ wrapper.argsDeclaration ++ ") (" ++ wrapper.result ++ " " ++
    wrapper.objectType ++ ", " ++ wrapper.error ++ " error) \x7b"

/-- The statements of the function the wrapper returns, but for the final return. -/
def statements (wrapper : Wrapper) : List Text :=
  wrapper.guard :: wrapper.extractionTexts ++ [wrapper.call]

/-- The lines that close the function the wrapper returns, and the wrapper. -/
def closingLines : List Text := ["\t\treturn", "\t\x7d", "\x7d"]

/-- The lines that declare the wrapper. A statement may span several lines. -/
def lines (wrapper : Wrapper) : List Text :=
  [[], wrapper.docLine, wrapper.sourceLine, wrapper.outerLine, wrapper.innerLine] ++
    wrapper.statements.map statement ++ closingLines

end Wrapper

/-- The line of an import block that imports a package. -/
def Import.line (entry : Import) : Text := '\t' :: entry.render

/-- The lines inside the import block. -/
def importLines (runtime external : List Import) : List Text :=
  let separator : List Text := if runtime.isEmpty || external.isEmpty then [] else [[]]
  runtime.map Import.line ++ separator ++ external.map Import.line

/-- The package clause. -/
def packageLine (package : Text) : Text := "package " ++ package

/-- The line that opens the import block. -/
def importOpening : Text := "import ("

/-- The line that closes the import block. -/
def importClosing : Text := ")"

/-- The lines in front of the wrappers. -/
def preambleLines (package : Text) (runtime external : List Import) : List Text :=
  [generatedHeader, [], packageLine package, [], importOpening] ++
    importLines runtime external ++ [importClosing]

/-- The lines of a file. -/
def fileLines (package : Text) (runtime external : List Import) (wrappers : List Wrapper) :
    List Text :=
  preambleLines package runtime external ++ wrappers.flatMap Wrapper.lines

/-- The text whose lines end in line feeds. -/
def Text.ofLines (lines : List Text) : Text := lines.flatMap (· ++ ['\n'])

/-- The text of a file. -/
def fileText (package : Text) (runtime external : List Import) (wrappers : List Wrapper) : Text :=
  Text.ofLines (fileLines package runtime external wrappers)

end WrapperGen
