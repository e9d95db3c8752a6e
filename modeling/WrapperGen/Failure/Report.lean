import WrapperGen.Json

/-!
# Reports of failures

A failure is reported as a message and, where more is known, named details in parentheses.
-/

namespace WrapperGen

/-- A message with details in order. -/
structure Report where
  message : Text
  details : Table Json
  deriving Repr

namespace Report

/-- The report as one text. -/
def text (report : Report) : Text :=
  if report.details.isEmpty then report.message
  else
    report.message ++ " (" ++
      Text.join ", " (report.details.map fun (key, value) => key ++ "=" ++ value.shown) ++ ")"

/-- A message without details. -/
def plain (message : Text) : Report := ⟨message, []⟩

/-- A message with one detail, which is left out if it is empty. -/
def withDetail (message key value : Text) : Report :=
  ⟨message, if value.isEmpty then [] else [(key, .string value)]⟩

/-- A message about a source. -/
def aboutSource (message origin : Text) : Report := withDetail message "source" origin

/-- A message about a configuration file. -/
def aboutSettings (message file : Text) : Report := withDetail message "config_file" file

/-- A message about a layout. -/
def aboutTemplate (message template : Text) : Report := withDetail message "template" template

/-- A type has no converter; the function that uses it is named if it is known. -/
def missingConverter (type : Text) (function : Option Text) : Report :=
  ⟨"converter is not found for type: " ++ type,
    match function with
    | none => []
    | some name => [("function", .string name)]⟩

/-- The local name of an import as it is written in a report. -/
def localNameWritten (localName : Text) : Text :=
  if localName.isEmpty then "<none>" else localName

/-- A path is asked for under two local names. -/
def importConflict (path localName existing : Text) : Report :=
  ⟨"double import with different alias, path: " ++ path,
    [("alias", .string (localNameWritten localName)),
      ("existing_alias", .string (localNameWritten existing))]⟩

/-- Two sources of one run declare different packages. -/
def packageMismatch (first second origin : Text) : Report :=
  aboutSource
    ("sources declare different packages: " ++ Text.quoted first ++ " and " ++ Text.quoted second)
    origin

/-- The detail that gives the length of a text, unless the text is empty. -/
def lengthDetail (key text : Text) : Table Json :=
  if text.isEmpty then [] else [(key, .int text.length)]

/-- A message about a text that could not be formatted and what was said about it. -/
def formatting (message source diagnostics : Text) : Report :=
  ⟨message,
    lengthDetail "source_length" source ++ lengthDetail "formatter_output_length" diagnostics⟩

end Report

end WrapperGen
