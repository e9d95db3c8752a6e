import WrapperGen.Proofs.Settings.Loading

/-!
# The types of settings

A configuration file should either be refused for what it says, or yield settings each of which has
its type (`Settings.Answered`). Sections and switches are looked at when the file is read, and so is
whether the command is empty. A command of another form than the ones that have parts ends the run,
and whatever stands for the other settings is taken over as it is (`Settings.reads_ofDocument`).
So a file is answered exactly if it can be read and, where the checks let it through, its command
has parts and every value that is taken over is of its type (`Settings.load_answered_iff`).
-/

namespace WrapperGen

namespace Json

/-- Whether the value is a string, be it a text or not. -/
def IsString : Json → Prop
  | .string _ | .broken _ => True
  | .null | .bool _ | .int _ | .real _ | .array _ | .object _ => False

/-- Whether the value is a string, or is not given. -/
def IsStringOrNull : Json → Prop
  | .null => True
  | value => value.IsString

instance : DecidablePred IsString
  | .string _ | .broken _ => isTrue trivial
  | .null | .bool _ | .int _ | .real _ | .array _ | .object _ => isFalse not_false

instance : DecidablePred IsStringOrNull
  | .null | .string _ | .broken _ => isTrue trivial
  | .bool _ | .int _ | .real _ | .array _ | .object _ => isFalse not_false

/-- The parts that a command of each form has. -/
inductive Parts : Json → List Json → Prop
  | text {command : Text} : Parts (.string command) ((Text.fields command).map .string)
  | broken {units : List StringUnit} :
      Parts (.broken units) ((StringUnit.fields units).map .ofUnits)
  | items {items : List Json} : Parts (.array items) items
  | names {members : List (Text × Json)} :
      Parts (.object members) (members.map fun member => .string member.1)

theorem Parts.unique {value : Json} {parts others : List Json} (h : value.Parts parts)
    (hother : value.Parts others) : parts = others := by
  cases h <;> cases hother <;> rfl

end Json

namespace Settings

/-! ## What a document gives -/

/-- The value that a document gives to an option of a section, if it gives one. -/
def given? (document : Table Json) (sectionName option : Text) : Option Json :=
  match Table.find? document sectionName with
  | some (.object members) => Table.find? members option
  | _ => none

/-- The section is an object, or it is left out. -/
def HasSection (document : Table Json) (name : Text) : Prop :=
  ∀ value ∈ Table.find? document name, ∃ members, value = .object members

/-- The option is switched on or off, or it is left out. -/
def HasSwitch (document : Table Json) (sectionName option : Text) : Prop :=
  ∀ value ∈ given? document sectionName option, ∃ on, value = .bool on

/-- What is checked before the command is looked at. -/
structure Checked (document : Table Json) : Prop where
  generation : HasSection document "generation"
  exported : HasSwitch document "generation" "export"
  extendedOnly : HasSwitch document "generation" "extended_only"
  format : HasSection document "format"
  enabled : HasSwitch document "format" "enabled"

/-- The value that the command is taken from. -/
def commandOf (document : Table Json) : Json :=
  (given? document "format" "command").getD defaultCommand

/-- The value that the level is taken from: the environment overrides the document. -/
def levelOf (environment : Environment) (document : Table Json) : Json :=
  match environment.level with
  | some (c :: name) => .string (c :: name)
  | _ => (given? document "logging" "level").getD (.string LogLevel.defaultName)

section Sections

variable {document members : Table Json} {name : Text}

theorem sectionNamed_ok (h : sectionNamed document name = .ok members) :
    HasSection document name ∧
      ∀ option, given? document name option = Table.find? members option := by
  unfold sectionNamed at h
  unfold HasSection given?
  split at h
  · next hnone =>
    obtain rfl := Except.ok.inj h
    simp only [hnone]
    exact ⟨by simp, fun _ => rfl⟩
  · next found hfound =>
    obtain rfl := Except.ok.inj h
    simp [hfound]
  · exact absurd h (by simp)

theorem sectionNamed_error {cause : SettingsCause} (h : sectionNamed document name = .error cause) :
    ¬ HasSection document name := by
  unfold sectionNamed at h
  split at h
  · exact absurd h (by simp)
  · exact absurd h (by simp)
  · next value hobject hvalue =>
    intro hsection
    obtain ⟨members, rfl⟩ := hsection _ hvalue
    exact hobject members rfl

variable {option : Text} {fallback : Bool}

theorem switch_ok (hgiven : given? document name option = Table.find? members option) {on : Bool}
    (h : switch members name option fallback = .ok on) : HasSwitch document name option := by
  unfold switch at h
  unfold HasSwitch
  rw [hgiven]
  split at h
  · next hnone => simp [hnone]
  · next found hfound => simp [hfound]
  · exact absurd h (by simp)

theorem switch_error (hgiven : given? document name option = Table.find? members option)
    {cause : SettingsCause} (h : switch members name option fallback = .error cause) :
    ¬ HasSwitch document name option := by
  unfold switch at h
  split at h
  · exact absurd h (by simp)
  · exact absurd h (by simp)
  · next value hbool hvalue =>
    intro hswitch
    obtain ⟨on, rfl⟩ := hswitch _ (hgiven.trans hvalue)
    exact hbool on rfl

end Sections

/-! ## The command -/

theorem commandParts_of_parts {value : Json} {parts : List Json} (h : value.Parts parts) :
    commandParts value = if parts = [] then .error (.inl .emptyCommand) else .ok parts := by
  unfold commandParts
  cases h <;> simp [Json.isGiven, apply_ite]

/-- A value that is no scalar has its parts, and a scalar has none. -/
theorem commandParts_cases (value : Json) :
    (∃ parts, value.Parts parts ∧
      commandParts value = if parts = [] then .error (.inl .emptyCommand) else .ok parts) ∨
      (∀ parts, ¬ value.Parts parts) ∧
        commandParts value = .error
          (if value.isGiven then .inr .wrongType else .inl .emptyCommand) := by
  cases value with
  | string command => exact .inl ⟨_, .text, commandParts_of_parts .text⟩
  | broken units => exact .inl ⟨_, .broken, commandParts_of_parts .broken⟩
  | array items => exact .inl ⟨_, .items, commandParts_of_parts .items⟩
  | object members => exact .inl ⟨_, .names, commandParts_of_parts .names⟩
  | null | bool _ | int _ | real _ =>
    refine .inr ⟨fun parts h => (by cases h), ?_⟩
    unfold commandParts
    simp only
    split_ifs with hgiven
    all_goals simp_all

/-! ## Reading a document -/

/-- What comes of reading a document, by how far the reading gets. -/
inductive Reads (environment : Environment) (document : Table Json) :
    Except (SettingsCause ⊕ Breakdown) Settings → Prop
  | unchecked {cause : SettingsCause} (h : ¬ Checked document) :
      Reads environment document (.error (.inl cause))
  /-- The command is a scalar that counts as given. -/
  | partless (h : Checked document) (hgiven : (commandOf document).isGiven = true)
      (hparts : ∀ parts, ¬ (commandOf document).Parts parts) :
      Reads environment document (.error (.inr .wrongType))
  | empty (h : Checked document)
      (hgiven : (commandOf document).isGiven = true → ∃ parts, (commandOf document).Parts parts)
      (hparts : ∀ parts, (commandOf document).Parts parts → parts = []) :
      Reads environment document (.error (.inl .emptyCommand))
  | unlogged {parts : List Json} {cause : SettingsCause} (h : Checked document)
      (hparts : (commandOf document).Parts parts) (hlogging : ¬ HasSection document "logging") :
      Reads environment document (.error (.inl cause))
  /-- The values of the other options are taken over as they are. -/
  | taken {settings : Settings} (h : Checked document)
      (hparts : (commandOf document).Parts settings.command) (hcommand : settings.command ≠ [])
      (hlogging : HasSection document "logging")
      (hlevel : settings.level = levelOf environment document)
      (houtput : settings.output = (given? document "generation" "output").getD .null)
      (hlogFile : settings.logFile = (given? document "logging" "log_file").getD .null) :
      Reads environment document (.ok settings)

section Steps

variable {environment : Environment} {document : Table Json}

/-- A step that is checked goes on with what it yields, or the document does not pass the checks. -/
theorem reads_of_check {α : Type} {read : Except SettingsCause α}
    {next : α → Except (SettingsCause ⊕ Breakdown) Settings}
    (hrefused : ∀ cause, read = .error cause → ¬ Checked document)
    (hnext : ∀ a, read = .ok a → Reads environment document (next a)) :
    Reads environment document (read.mapError .inl >>= next) := by
  cases hread : read with
  | error cause => exact .unchecked (hrefused cause hread)
  | ok a => exact hnext a hread

theorem reads_ofDocument (environment : Environment) (document : Table Json) :
    Reads environment document (ofDocument environment document) := by
  unfold ofDocument
  refine reads_of_check (fun _ h hall => sectionNamed_error h hall.generation)
    fun generation hgeneration => ?_
  obtain ⟨hsection, hgiven⟩ := sectionNamed_ok hgeneration
  refine reads_of_check (fun _ h hall => switch_error (hgiven _) h hall.exported)
    fun exported hexported => ?_
  refine reads_of_check (fun _ h hall => switch_error (hgiven _) h hall.extendedOnly)
    fun extendedOnly hextendedOnly => ?_
  refine reads_of_check (fun _ h hall => sectionNamed_error h hall.format)
    fun format hformat => ?_
  obtain ⟨hformatted, hcommand⟩ := sectionNamed_ok hformat
  refine reads_of_check (fun _ h hall => switch_error (hcommand _) h hall.enabled)
    fun enabled henabled => ?_
  have hall : Checked document := ⟨hsection, switch_ok (hgiven _) hexported,
    switch_ok (hgiven _) hextendedOnly, hformatted, switch_ok (hcommand _) henabled⟩
  have hvalue : member format "command" defaultCommand = commandOf document := by
    rw [member, commandOf, hcommand]
  rw [hvalue]
  obtain ⟨parts, hparts, hread⟩ | ⟨hscalar, hread⟩ := commandParts_cases (commandOf document)
  · rw [hread]
    split_ifs with hempty
    · exact .empty hall (fun _ => ⟨parts, hparts⟩) fun other hother =>
        (hother.unique hparts).trans hempty
    · cases hlogging : sectionNamed document "logging" with
      | error cause => exact .unlogged hall hparts (sectionNamed_error hlogging)
      | ok logging =>
        obtain ⟨hlogged, hoption⟩ := sectionNamed_ok hlogging
        refine .taken hall hparts hempty hlogged ?_ ?_ ?_
        · rw [levelOf, hoption]
          rfl
        · simp only [member, hgiven]
        · simp only [member, hoption]
  · rw [hread]
    split_ifs with hcounts
    · exact .partless hall hcounts hscalar
    · exact .empty hall (fun hgiven => absurd hgiven hcounts) fun parts hparts =>
        absurd hparts (hscalar parts)

end Steps

/-! ## Answers -/

/-- Every value of the settings is of its type; that of a switch is by its own type. -/
structure WellTyped (settings : Settings) : Prop where
  command_ne_nil : settings.command ≠ []
  command : ∀ part ∈ settings.command, part.IsString
  level : settings.level.IsString
  output : settings.output.IsStringOrNull
  logFile : settings.logFile.IsStringOrNull

theorem wellTyped_iff {settings : Settings} :
    settings.WellTyped ↔ settings.command ≠ [] ∧ (∀ part ∈ settings.command, part.IsString) ∧
      settings.level.IsString ∧ settings.output.IsStringOrNull ∧ settings.logFile.IsStringOrNull :=
  ⟨fun ⟨hne, hcommand, hlevel, houtput, hlogFile⟩ => ⟨hne, hcommand, hlevel, houtput, hlogFile⟩,
    fun ⟨hne, hcommand, hlevel, houtput, hlogFile⟩ => ⟨hne, hcommand, hlevel, houtput, hlogFile⟩⟩

instance (settings : Settings) : Decidable settings.WellTyped :=
  decidable_of_iff _ wellTyped_iff.symm

/-- Loading yields settings of the right types, or says what is wrong with the configuration. -/
def Answered : Except Failure Settings → Prop
  | .ok settings => settings.WellTyped
  | .error failure => failure.kind? = some .settings

instance : DecidablePred Answered
  | .ok settings => inferInstanceAs (Decidable settings.WellTyped)
  | .error failure => inferInstanceAs (Decidable (failure.kind? = some .settings))

theorem answered_settings (fault : SettingsFault) : Answered (.error (.settings fault)) := rfl

theorem not_answered_broken (breakdown : Breakdown) : ¬ Answered (.error (.broken breakdown)) := by
  simp [Answered, Failure.kind?]

/-- What a document that passes the checks must hold for the settings to be of their types. -/
structure TypesKept (environment : Environment) (document : Table Json) : Prop where
  /-- A command that counts as given has parts. -/
  parts : (commandOf document).isGiven = true → ∃ parts, (commandOf document).Parts parts
  /-- Unless the command is empty or the logging section refused, what is given is of its type. -/
  types : ∀ parts, (commandOf document).Parts parts → parts ≠ [] → HasSection document "logging" →
    (∀ part ∈ parts, part.IsString) ∧ (levelOf environment document).IsString ∧
      ((given? document "generation" "output").getD .null).IsStringOrNull ∧
      ((given? document "logging" "log_file").getD .null).IsStringOrNull

theorem Reads.answered_iff {environment : Environment} {document : Table Json}
    {result : Except (SettingsCause ⊕ Breakdown) Settings} (h : Reads environment document result)
    (file : Option Text) :
    Answered (result.mapError (failureIn file)) ↔
      (Checked document → TypesKept environment document) := by
  cases h with
  | unchecked hnot => exact iff_of_true (answered_settings _) fun hall => absurd hall hnot
  | partless hall hgiven hparts =>
    refine iff_of_false (not_answered_broken _) fun hkept => ?_
    obtain ⟨parts, hhas⟩ := (hkept hall).parts hgiven
    exact hparts parts hhas
  | empty hall hgiven hparts =>
    exact iff_of_true (answered_settings _) fun _ =>
      ⟨hgiven, fun parts hhas hne => absurd (hparts parts hhas) hne⟩
  | unlogged hall hparts hlogging =>
    exact iff_of_true (answered_settings _) fun _ =>
      ⟨fun _ => ⟨_, hparts⟩, fun _ _ _ hsection => absurd hsection hlogging⟩
  | @taken settings hall hparts hcommand hlogging hlevel houtput hlogFile =>
    change settings.WellTyped ↔ _
    rw [wellTyped_iff, hlevel, houtput, hlogFile]
    constructor
    · rintro ⟨-, htypes⟩ -
      refine ⟨fun _ => ⟨_, hparts⟩, fun parts hother _ _ => ?_⟩
      rwa [hother.unique hparts]
    · exact fun hkept => ⟨hcommand, (hkept hall).types settings.command hparts hcommand hlogging⟩

section Documents

variable {limits : JsonLimits} {bytes : List UInt8} {text file : Text}

theorem readable_iff (htext : Text.decode? bytes = some text) :
    Readable limits bytes ↔
      ∀ reached, Json.read limits (unifyLineEnds text) ≠ .error (.inr reached) := by
  refine ⟨fun ⟨other, hother, hlimit⟩ => ?_, fun hlimit => ⟨text, htext, hlimit⟩⟩
  obtain rfl := Option.some.inj (htext.symm.trans hother)
  exact hlimit

/-- Bytes that hold no document are answered if they can be read. -/
theorem answered_iff_readable {failure : Failure}
    (h : documentOf limits file bytes = .error failure) :
    Answered (.error failure) ↔ Readable limits bytes := by
  unfold documentOf at h
  split at h
  · next hnone =>
    obtain rfl := Except.error.inj h
    refine iff_of_false (not_answered_broken _) fun ⟨other, hother, _⟩ => ?_
    exact absurd (hnone.symm.trans hother) (by simp)
  · next read htext =>
    rw [readable_iff htext]
    split at h
    · next hread =>
      obtain rfl := Except.error.inj h
      refine iff_of_true (answered_settings _) fun reached hreached => ?_
      exact absurd (hread.symm.trans hreached) (by simp)
    · next limit hread =>
      obtain rfl := Except.error.inj h
      exact iff_of_false (not_answered_broken _) fun hlimit => hlimit limit hread
    · exact absurd h (by simp)
    · next hread =>
      obtain rfl := Except.error.inj h
      refine iff_of_true (answered_settings _) fun reached hreached => ?_
      exact absurd (hread.symm.trans hreached) (by simp)

theorem documentOf_eq_ok_iff {members : Table Json} :
    documentOf limits file bytes = .ok members ↔ ∃ text, Text.decode? bytes = some text ∧
      Json.read limits (unifyLineEnds text) = .ok (.object members) := by
  unfold documentOf
  cases Text.decode? bytes with
  | none => simp
  | some text =>
    simp only [Option.some.injEq, exists_eq_left']
    split <;> simp_all

end Documents

/--
A configuration file is answered, be it with a fault or with settings of the right types, exactly if
it can be read to its end within the limits, whatever these are, and its values are of their types
wherever the checks let them through: the command is not a number or true and its items are strings,
the level is a string unless the environment sets one, and the places to write to are strings or
null.
-/
theorem load_answered_iff {files : FileSystem} {environment : Environment} {path : Option Text}
    {file : Text} {bytes : List UInt8} (hfile : filePath? path = some file)
    (hbytes : files.find file = .ok (some (.file bytes))) :
    Answered (load files environment path) ↔
      Readable environment.limits bytes ∧ ∀ text document, Text.decode? bytes = some text →
        Json.read environment.limits (unifyLineEnds text) = .ok (.object document) →
        Checked document → TypesKept environment document := by
  have hread : readDocument environment.limits files path =
      documentOf environment.limits file bytes := by
    rw [readDocument, hfile]
    simp only [hbytes]
  rw [load, hread]
  cases hdocument : documentOf environment.limits file bytes with
  | error failure =>
    have hnone : ∀ text document, Text.decode? bytes = some text →
        Json.read environment.limits (unifyLineEnds text) ≠ .ok (.object document) := by
      intro text document htext hobject
      rw [documentOf_eq_ok_iff.2 ⟨text, htext, hobject⟩] at hdocument
      exact absurd hdocument (by simp)
    refine (answered_iff_readable hdocument).trans ⟨fun hreadable => ⟨hreadable, ?_⟩, And.left⟩
    exact fun text document htext hobject => absurd hobject (hnone text document htext)
  | ok document =>
    obtain ⟨text, htext, hobject⟩ := documentOf_eq_ok_iff.1 hdocument
    have hreadable : Readable environment.limits bytes :=
      (readable_iff htext).2 fun reached hreached => absurd (hobject.symm.trans hreached) (by simp)
    refine ((reads_ofDocument environment document).answered_iff (filePath? path)).trans ?_
    refine ⟨fun hkept => ⟨hreadable, fun other members hother hmembers => ?_⟩,
      fun hkept => hkept.2 text document htext hobject⟩
    obtain rfl := Option.some.inj (htext.symm.trans hother)
    obtain rfl := Json.object.inj (Except.ok.inj (hobject.symm.trans hmembers))
    exact hkept

/-- The level of the environment hides the one of the file, and an object gives its names. -/
theorem load_answered_iff_hidden :
    let config : Text := "\x7b\"format\": \x7b\"command\": \x7b\"gofmt\": 1\x7d\x7d, " ++
      "\"logging\": \x7b\"level\": 7\x7d\x7d"
    let files : FileSystem := ⟨[], [(["c.json"], .file config.encode)]⟩
    let environment : Environment := { level := some "INFO" }
    filePath? (some "./c.json") = some "c.json" ∧
      files.find "c.json" = .ok (some (.file config.encode)) ∧
      (Answered (load files environment (some "./c.json")) ↔
        Readable environment.limits config.encode ∧
          ∀ text document, Text.decode? config.encode = some text →
            Json.read environment.limits (unifyLineEnds text) = .ok (.object document) →
            Checked document → TypesKept environment document) ∧
      Answered (load files environment (some "./c.json")) := by
  intro config files environment
  have hfile : filePath? (some "./c.json") = some "c.json" := by decide +kernel
  have hbytes : files.find "c.json" = .ok (some (.file config.encode)) := by decide +kernel
  exact ⟨hfile, hbytes, load_answered_iff hfile hbytes, by decide +kernel⟩

/-- A number is no command, and one is taken over as the place to write to. -/
theorem load_unanswered :
    let config (text : Text) : FileSystem := ⟨[], [(["c.json"], .file text.encode)]⟩
    let command :=
      load (config "\x7b\"format\": \x7b\"command\": 5\x7d\x7d") {} (some "c.json")
    let output :=
      load (config "\x7b\"generation\": \x7b\"output\": 5\x7d\x7d") {} (some "c.json")
    (command.isOk = false ∧ ¬ Answered command) ∧ output.isOk = true ∧ ¬ Answered output := by
  decide +kernel

end Settings

end WrapperGen
