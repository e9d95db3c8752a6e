import WrapperGen.Json
import WrapperGen.Text.Blank
import WrapperGen.Text.Word

/-!
# The external formatter

Generated text is handed to an external program that brings it into canonical form and refuses
text that does not parse. What the program does is not decided here, nor whether the system starts
it: a formatter is any function from a command and a text to a response.
-/

namespace WrapperGen

/-- A part of a command. The system is handed its bytes, so halves that stand for bytes count. -/
abbrev CommandWord := List StringUnit

/-- Why a program cannot be handed what it is to work on, or hand back what it has made. -/
inductive HandoverFault where
  /-- A part of the command holds the null character. -/
  | nullCharacter
  /-- A part of the command or the text holds what has no code. -/
  | unencodable
  /-- What the program wrote is no text. -/
  | undecodable
  deriving DecidableEq, Repr

/-- What is said about a failed handover, if anything is. -/
def HandoverFault.message : HandoverFault → Text
  | nullCharacter => "embedded null byte"
  | unencodable | undecodable => []

/-- What running the program comes to. -/
inductive FormatterResponse where
  /-- There is no such program. -/
  | missing
  /-- The system does not start the program, for a reason that it gives. -/
  | unstarted (reason : Text)
  /-- The command, the text or what the program wrote is not fit to be handed over. -/
  | handover (fault : HandoverFault)
  /-- The program ran to its end with a status and wrote two texts. -/
  | exited (status : Int) (output diagnostics : Text)
  deriving DecidableEq, Repr

/-- The response to a command and a text. -/
abbrev Formatter := List CommandWord → Text → FormatterResponse

/-- The command that is run unless another one is configured. -/
def defaultFormatCommand : List Text := ["gofmt"]

/-- The command that is run: the default one in place of an empty one. -/
def formatCommand (command : List CommandWord) : List CommandWord :=
  if command.isEmpty then defaultFormatCommand.map (·.map .char) else command

/-- Why a text could not be formatted. -/
inductive FormatCause where
  | programNotFound (program : Text)
  | failed (status : Int)
  deriving DecidableEq, Repr

/-- What is said about a cause. -/
def FormatCause.message : FormatCause → Text
  | programNotFound program => "formatter not found: " ++ program
  | failed status => "formatter exited with status " ++ Text.integer status

/-- A text that could not be formatted, and what the program wrote about it. -/
structure FormatFault where
  cause : FormatCause
  source : Text
  diagnostics : Text
  deriving DecidableEq, Repr

/-- What is left after a colon and at least one digit that the text begins with. -/
def afterNumberField? : Text → Option Text
  | ':' :: rest =>
    if (rest.takeWhile Text.isDigit).isEmpty then none else some (rest.dropWhile Text.isDigit)
  | _ => none

/-- Whether the text begins with `:line:column:`. -/
def beginsWithPosition (text : Text) : Bool :=
  ((afterNumberField? text).bind afterNumberField?).any (·.head? = some ':')

/-- Whether a `:line:column:` stands anywhere in the text. -/
def holdsPosition : Text → Bool
  | [] => false
  | c :: rest => beginsWithPosition (c :: rest) || holdsPosition rest

/-- Whether a `:line:column:` stands in the line with something in front of it. -/
def isLocated : Text → Bool
  | [] => false
  | _ :: rest => holdsPosition rest

/-- The lines of the diagnostics that name a position, stripped of blanks. -/
def locatedLines (diagnostics : Text) : List Text :=
  ((diagnostics.splitOn '\n').map Text.strip).filter isLocated

end WrapperGen
