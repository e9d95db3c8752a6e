import WrapperGen.Proofs.Outcome
import WrapperGen.Settings

/-!
# Loading settings

Loading fails for what is wrong with the configuration, and for a path that is too long or leads to
a directory, which is reported. It breaks off for a file that is no text or goes beyond the limits
of reading, and for a command that has no parts, and for nothing else (`Settings.load_error`).
-/

namespace WrapperGen

/--
Whether a value can be cut into parts that are known, or counts as not given. Names are kept as they
are shown, so of one with U+FFFD in it nobody knows whether it was a text.
-/
def Json.HasParts : Json → Prop
  | .bool value => value = false
  | .int value => value = 0
  | .real numeral => isZeroNumeral numeral = true
  | .object members => ∀ member ∈ members, '\uFFFD' ∉ member.1
  | .null | .string _ | .broken _ | .array _ => True

namespace Settings

variable {limits : JsonLimits} {files : FileSystem} {environment : Environment}
  {path : Option Text}

theorem commandParts_ne_breakdown {value : Json} (h : value.HasParts) (breakdown : Breakdown) :
    commandParts value ≠ .error (.inr breakdown) := by
  unfold commandParts
  cases value with
  | null => simp [Json.isGiven]
  | bool value => simp [Json.isGiven, show value = false from h]
  | int value => simp [Json.isGiven, show value = 0 from h]
  | real numeral => simp [Json.isGiven, show isZeroNumeral numeral = true from h]
  | string _ | broken _ | array _ | object _ =>
    simp only
    split_ifs <;> simp

/-- A breakdown does not come of a step that only fails for what is wrong. -/
theorem exists_of_checked_bind {α β : Type} {read : Except SettingsCause α}
    {next : α → Except (SettingsCause ⊕ Breakdown) β} {breakdown : Breakdown}
    (h : (read.mapError .inl >>= next) = .error (.inr breakdown)) :
    ∃ value, read = .ok value ∧ next value = .error (.inr breakdown) := by
  cases read with
  | error cause => exact absurd h (by simp [Except.mapError, bind, Except.bind])
  | ok value => exact ⟨value, rfl, h⟩

/-- A document on which reading the settings breaks off has a command without parts. -/
theorem exists_of_ofDocument_breakdown {document : Table Json} {breakdown : Breakdown}
    (h : ofDocument environment document = .error (.inr breakdown)) :
    ∃ format, sectionNamed document "format" = .ok format ∧
      ¬ (member format "command" defaultCommand).HasParts := by
  unfold ofDocument at h
  obtain ⟨generation, -, h⟩ := exists_of_checked_bind h
  obtain ⟨exported, -, h⟩ := exists_of_checked_bind h
  obtain ⟨extendedOnly, -, h⟩ := exists_of_checked_bind h
  obtain ⟨format, hformat, h⟩ := exists_of_checked_bind h
  obtain ⟨enabled, -, h⟩ := exists_of_checked_bind h
  rcases bind_eq_error_iff.1 h with h | ⟨command, -, h⟩
  · exact ⟨format, hformat, fun hparts => commandParts_ne_breakdown hparts breakdown h⟩
  · obtain ⟨logging, -, h⟩ := exists_of_checked_bind h
    exact absurd h (by simp [pure, Except.pure])

/-- A configuration file is looked for unless a name in its path is too long. -/
theorem find_error {path : Text} {cause : FileCause} (h : files.find path = .error cause) :
    cause = .nameTooLong := by
  unfold FileSystem.find at h
  split at h
  · exact absurd h (by simp)
  · exact (Except.error.inj h).symm
  · exact absurd h (by simp)

/-- The bytes are text that can be read to its end within limits, be it a document or not. -/
def Readable (limits : JsonLimits) (bytes : List UInt8) : Prop :=
  ∃ text, Text.decode? bytes = some text ∧
    ∀ reached, Json.read limits (unifyLineEnds text) ≠ .error (.inr reached)

/-- The configuration can be read within limits, and the parts of its command are known. -/
structure Loadable (limits : JsonLimits) (files : FileSystem) (path : Option Text) : Prop where
  document : ∀ file bytes, filePath? path = some file →
    files.find file = .ok (some (.file bytes)) → Readable limits bytes
  command : ∀ document format, readDocument limits files path = .ok document →
    sectionNamed document "format" = .ok format →
    (member format "command" defaultCommand).HasParts

/-- How loading fails: it breaks off only where something is not of use. -/
inductive Refused (usable : Prop) : Failure → Prop
  | wrong {fault : SettingsFault} : Refused usable (.settings fault)
  | unreadable {fault : FileFault} (hcause : fault.cause ≠ .nullCharacter) :
      Refused usable (.file fault)
  | broken {breakdown : Breakdown} (h : ¬ usable) : Refused usable (.broken breakdown)

section Refusals

variable {usable : Prop} {failure : Failure}

theorem Refused.isReported (h : Refused usable failure) (husable : usable) :
    failure.isReported = true := by
  cases h with
  | wrong => rfl
  | unreadable hcause => simpa [Failure.isReported] using hcause
  | broken h => exact absurd husable h

theorem Refused.mono {other : Prop} (h : Refused usable failure) (himp : other → usable) :
    Refused other failure := by
  cases h with
  | wrong => exact .wrong
  | unreadable hcause => exact .unreadable hcause
  | broken h => exact .broken (mt himp h)

theorem documentOf_error {file : Text} {bytes : List UInt8}
    (h : documentOf limits file bytes = .error failure) :
    Refused (Readable limits bytes) failure := by
  unfold documentOf at h
  split at h
  · next hdecode =>
    obtain rfl := Except.error.inj h
    refine .broken fun ⟨text, htext, _⟩ => ?_
    exact absurd (hdecode.symm.trans htext) (by simp)
  · next text hdecode =>
    split at h
    · obtain rfl := Except.error.inj h
      exact .wrong
    · next reached hreached =>
      obtain rfl := Except.error.inj h
      refine .broken fun ⟨other, hother, hlimit⟩ => ?_
      obtain rfl := Option.some.inj (hdecode.symm.trans hother)
      exact hlimit reached hreached
    · exact absurd h (by simp)
    · obtain rfl := Except.error.inj h
      exact .wrong

theorem readDocument_error (h : readDocument limits files path = .error failure) :
    Refused (Loadable limits files path) failure := by
  unfold readDocument at h
  split at h
  · exact absurd h (by simp)
  · next file hfile =>
    split at h
    · next cause hcause =>
      obtain rfl := Except.error.inj h
      obtain rfl := find_error hcause
      exact .unreadable (by simp [FileFault.onPath])
    · exact absurd h (by simp)
    · obtain rfl := Except.error.inj h
      exact .unreadable (by simp [FileFault.onPath])
    · next bytes hbytes =>
      exact (documentOf_error h).mono fun hloadable => hloadable.document file bytes hfile hbytes

theorem load_error (h : load files environment path = .error failure) :
    Refused (Loadable environment.limits files path) failure := by
  unfold load at h
  rcases bind_eq_error_iff.1 h with h | ⟨document, hread, h⟩
  · exact readDocument_error h
  · obtain ⟨fault, hfault, rfl⟩ := mapError_eq_error_iff.1 h
    cases fault with
    | inl cause => exact .wrong
    | inr breakdown =>
      obtain ⟨format, hformat, hparts⟩ := exists_of_ofDocument_breakdown hfault
      exact .broken fun hloadable => hparts (hloadable.command document format hread hformat)

end Refusals

end Settings

end WrapperGen
