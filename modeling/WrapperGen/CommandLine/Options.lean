import WrapperGen.Json
import WrapperGen.Literal
import WrapperGen.Text.Quoted
import WrapperGen.Text.Word

/-!
# Reading the command line

An argument is an option, the separator `--`, or a plain argument, whatever it is next to. The
options are then taken from left to right, each with the plain argument it needs. The first run of
plain arguments that no option needs gives the files; plain arguments in any later run, and
options that are not known, are refused at the end.
-/

namespace WrapperGen.CommandLine

/-- The options. -/
inductive OptionKind where
  | help
  | output
  | exported
  | extended
  | config
  | level
  | noFormat
  | version
  deriving DecidableEq, Repr

/-- The spellings of options. -/
def spellings : List (Text × OptionKind) := [
  ("-h", .help), ("--help", .help), ("--output", .output), ("-o", .output), ("--export", .exported),
  ("--extended", .extended), ("--config", .config), ("--log-level", .level),
  ("--no-format", .noFormat), ("--version", .version)]

namespace OptionKind

/-- Whether the option needs a value. -/
def needsValue : OptionKind → Bool
  | output | config | level => true
  | help | exported | extended | noFormat | version => false

/-- The option as it is named in messages: by all of its spellings. -/
def shown (kind : OptionKind) : Text :=
  Text.join "/" ((spellings.filter (·.2 = kind)).map Prod.fst)

end OptionKind

/-- The levels that can be asked for. -/
def levelChoices : List Text := ["DEBUG", "INFO", "WARNING", "ERROR", "CRITICAL"]

/-- Why a command line cannot be followed. -/
inductive UsageFault where
  | ambiguous (argument : Text) (candidates : List Text)
  | missingValue (kind : OptionKind)
  | unexpectedValue (kind : OptionKind) (value : Text)
  | badLevel (value : Text)
  | unrecognized (arguments : List Text)
  deriving DecidableEq, Repr

/-- What is said about a command line with the fault. -/
def UsageFault.message : UsageFault → Text
  | ambiguous argument candidates =>
    "ambiguous option: " ++ argument ++ " could match " ++ Text.join ", " candidates
  | missingValue kind => "argument " ++ kind.shown ++ ": expected one argument"
  | unexpectedValue kind value =>
    "argument " ++ kind.shown ++ ": ignored explicit argument " ++ Text.quoted value
  | badLevel value =>
    "argument " ++ OptionKind.level.shown ++ ": invalid choice: " ++ Text.quoted value ++
      " (choose from " ++ Text.join ", " (levelChoices.map Text.quoted) ++ ")"
  | unrecognized arguments => "unrecognized arguments: " ++ Text.join " " arguments

/-- What an argument is. -/
inductive Argument where
  | plain (text : Text)
  | separator
  /-- An option under a spelling, with the value that is attached to it. -/
  | option (kind : OptionKind) (spelling : Text) (attached : Option Text)
  /-- What looks like an option but is none. -/
  | unknown (text : Text)
  deriving DecidableEq, Repr

/-- The text that separates options from plain arguments. -/
def separatorText : Text := "--"

/-- Whether the text is a negative number, perhaps with a line feed after it. -/
def isNegativeNumber (text : Text) : Bool :=
  match Literal.dropFinalLineFeed text with
  | '-' :: digits =>
    let whole := digits.takeWhile Text.isDigit
    match digits.dropWhile Text.isDigit with
    | [] => !whole.isEmpty
    | '.' :: places => !places.isEmpty && places.all Text.isDigit
    | _ => false
  | _ => false

/-- An option in one of the forms that its spelling and a value can take. -/
structure Match where
  spelling : Text
  kind : OptionKind
  attached : Option Text

/-- The options that the text may be short for, with attached values. -/
def matchesOf (text : Text) : List Match :=
  if separatorText.isPrefixOf text then
    let (name, attached) :=
      match Text.cut? "=" text with
      | some (name, value) => (name, some value)
      | none => (text, none)
    (spellings.filter fun (spelling, _) => name.isPrefixOf spelling).map
      fun (spelling, kind) => ⟨spelling, kind, attached⟩
  else
    spellings.filterMap fun (spelling, kind) =>
      if spelling = text.take 2 then some ⟨spelling, kind, some (text.drop 2)⟩
      else if text.isPrefixOf spelling then some ⟨spelling, kind, none⟩
      else none

/-- The option whose spelling stands in front of an equals sign. -/
def beforeEquals? (text : Text) : Option Argument :=
  (Text.cut? "=" text).bind fun (spelling, value) =>
    (spellings.lookup spelling).map fun kind => .option kind spelling (some value)

/-- What a text that begins with a dash and is no spelling of an option is. -/
def classifyDashed (text : Text) : Except UsageFault Argument :=
  match beforeEquals? text with
  | some argument => .ok argument
  | none =>
    match matchesOf text with
    | [found] => .ok (.option found.kind found.spelling found.attached)
    | [] => .ok (if isNegativeNumber text || text.contains ' ' then .plain text else .unknown text)
    | found => .error (.ambiguous text (found.map Match.spelling))

/-- What an argument in front of the separator is. -/
def classify (text : Text) : Except UsageFault Argument :=
  match text with
  | '-' :: _ :: _ =>
    match spellings.lookup text with
    | some kind => .ok (.option kind text none)
    | none => classifyDashed text
  | _ => .ok (.plain text)

/-- What the arguments are; after the separator all are plain. -/
def classifyAll : List Text → Except UsageFault (List Argument)
  | [] => .ok []
  | text :: rest =>
    if text = separatorText then .ok (.separator :: rest.map .plain)
    else do
      let argument ← classify text
      return argument :: (← classifyAll rest)

/-- What a command line sets. -/
structure Options where
  files : List Text := []
  output : Option Json := none
  exported : Bool := false
  extended : Bool := false
  config : Option Text := none
  level : Option Json := none
  noFormat : Bool := false

/-- What a command line asks for. -/
inductive Request where
  | help
  | version
  | run (options : Options)

/-- What is known of a command line after some of its arguments. -/
structure Reading where
  options : Options
  /-- Whether the files have been found. -/
  haveFiles : Bool
  /-- What is refused at the end. -/
  extras : List Text

/-- The text of an argument as it was given. -/
def Argument.text : Argument → Text
  | plain text => text
  | separator => separatorText
  | option _ spelling none => spelling
  | option _ spelling (some value) => spelling ++ "=" ++ value
  | unknown text => text

/-- The options after an option without a value; nothing if it ends the reading. -/
def Options.setFlag (options : Options) : OptionKind → Options
  | .exported => { options with exported := true }
  | .extended => { options with extended := true }
  | .noFormat => { options with noFormat := true }
  | _ => options

/-- The value of an option as a setting: an attached separator counts as no value at all. -/
def settingOf (attached : Bool) (value : Text) : Json :=
  if attached && value = separatorText then .array [] else .string value

/-- The options after an option with a value, which may be attached to it. -/
def Options.setValue (options : Options) (kind : OptionKind) (attached : Bool) (value : Text) :
    Except UsageFault Options :=
  let dropped := attached && value = separatorText
  match kind with
  | .output => .ok { options with output := some (settingOf attached value) }
  | .config => .ok { options with config := some (if dropped then [] else value) }
  | .level =>
    if dropped || levelChoices.contains value then
      .ok { options with level := some (settingOf attached value) }
    else .error (.badLevel value)
  | _ => .ok options

/--
What becomes of the letters attached to the short option `-h`: each must be a short option, the
last of which may need the next argument. `nextIsPlain` says whether there is one.
-/
def readLetters (nextIsPlain : Bool) : Text → Except UsageFault Unit
  | [] => .ok ()
  | 'h' :: rest => readLetters nextIsPlain rest
  | 'o' :: rest => if rest.isEmpty && !nextIsPlain then .error (.missingValue .output) else .ok ()
  | letters => .error (.unexpectedValue .help letters)

/-- Whether the first of the arguments is plain. -/
def startsPlain : List Argument → Bool
  | .plain _ :: _ => true
  | _ => false

/-- The plain arguments and separators that a list begins with. -/
def plainRun : List Argument → List Argument :=
  List.takeWhile fun
    | .plain _ | .separator => true
    | _ => false

/-- The texts of a run, without the first separator. -/
def filesOfRun (run : List Argument) : List Text := (run.map Argument.text).erase separatorText

namespace Reading

/-- The reading after a run of plain arguments: the first run gives the files. -/
def takeRun (reading : Reading) (run : List Argument) : Reading :=
  if reading.haveFiles then { reading with extras := reading.extras ++ run.map Argument.text }
  else
    let options := { reading.options with files := filesOfRun run }
    { reading with options, haveFiles := true }

/-- What the command line asks for once all of its arguments have been read. -/
def finish (reading : Reading) : Except UsageFault Request :=
  if reading.extras.isEmpty then .ok (.run reading.options)
  else .error (.unrecognized reading.extras)

end Reading

/-- Reads what is left of the arguments. Every step takes at least one of them. -/
def readArguments (reading : Reading) (arguments : List Argument) : Except UsageFault Request :=
  match arguments with
  | [] => reading.finish
  | .unknown text :: rest => readArguments { reading with extras := reading.extras ++ [text] } rest
  | .option kind spelling (some value) :: rest =>
    if kind.needsValue then
      match reading.options.setValue kind true value with
      | .error fault => .error fault
      | .ok options => readArguments { reading with options } rest
    else if kind = .help ∧ spelling = ['-', 'h'] ∧ value ≠ [] then
      (readLetters (startsPlain rest) value).map fun _ => .help
    else .error (.unexpectedValue kind value)
  | .option kind _ none :: rest =>
    if kind.needsValue then
      match rest with
      | .plain value :: after =>
        match reading.options.setValue kind false value with
        | .error fault => .error fault
        | .ok options => readArguments { reading with options } after
      | _ => .error (.missingValue kind)
    else if kind = .help then .ok .help
    else if kind = .version then .ok .version
    else readArguments { reading with options := reading.options.setFlag kind } rest
  | first :: rest =>
    readArguments (reading.takeRun (first :: plainRun rest)) (rest.drop (plainRun rest).length)
termination_by arguments.length
decreasing_by all_goals (simp only [List.length_cons, List.length_drop]; omega)

/-- What a command line asks for. -/
def readCommandLine (texts : List Text) : Except UsageFault Request := do
  readArguments ⟨{}, false, []⟩ (← classifyAll texts)

end WrapperGen.CommandLine
