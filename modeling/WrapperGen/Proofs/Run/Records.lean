import WrapperGen.Generation

/-!
# What records change

Making records touches the stream of errors and the log file, and nothing else. `RunState.Recorded`
says so of two states: records may have been made in between, and programs may have been run. Both
scanning and formatting are of that kind.
-/

namespace WrapperGen

/-! ## Nodes of a file system -/

namespace FileSystem

variable {files : FileSystem} {location other : Location} {node : Node}

theorem lookup_setNode_of_ne (h : other ≠ location) (files : FileSystem) (node : Node) :
    (files.setNode location node).nodes.lookup other = files.nodes.lookup other := by
  have hne : (other == location) = false := beq_eq_false_iff_ne.2 h
  unfold setNode
  simp only
  split
  · induction files.nodes with
    | nil => rfl
    | cons entry nodes ih =>
      rw [List.map_cons]
      by_cases hentry : entry.1 = location
      · rw [if_pos hentry, List.lookup_cons, hne, ih, List.lookup_cons, hentry, hne]
      · rw [if_neg hentry, List.lookup_cons, List.lookup_cons, ih]
  · rw [List.lookup_append, List.lookup_cons, hne, List.lookup_nil, Option.or_none]

theorem lookup_setNode_self (files : FileSystem) (location : Location) (node : Node) :
    (files.setNode location node).nodes.lookup location = some node := by
  unfold setNode
  simp only
  split
  · next hany =>
    generalize files.nodes = nodes at hany
    induction nodes with
    | nil => exact absurd hany (by simp)
    | cons entry nodes ih =>
      rw [List.map_cons]
      by_cases hentry : entry.1 = location
      · rw [if_pos hentry, List.lookup_cons_self]
      · have hne : (location == entry.1) = false := beq_eq_false_iff_ne.2 (Ne.symm hentry)
        rw [if_neg hentry, List.lookup_cons, hne]
        exact ih (by simpa [hentry] using hany)
  · next hany =>
    have hnone : files.nodes.lookup location = none := by
      rw [List.lookup_eq_none_iff]
      intro entry hentry
      have hne : entry.1 ≠ location := fun heq =>
        hany (List.any_eq_true.2 ⟨entry, hentry, beq_iff_eq.2 heq⟩)
      exact bne_iff_ne.2 (Ne.symm hne)
    rw [List.lookup_append, hnone, List.lookup_cons_self, Option.none_or]

/-- Whatever is put at a location, the other locations lead to what they led to before. -/
theorem node?_setNode_of_ne (h : other ≠ location) (files : FileSystem) (node : Node) :
    (files.setNode location node).node? other = files.node? other := by
  rw [node?, node?, lookup_setNode_of_ne h]

theorem node?_setNode_self (h : location ≠ []) (files : FileSystem) (node : Node) :
    (files.setNode location node).node? location = some node := by
  rw [node?, if_neg (by simpa using h), lookup_setNode_self]

end FileSystem

/-! ## Records -/

namespace RunState

/-- Nothing but records and commands lies between the two states. -/
structure Recorded (before after : RunState) : Prop where
  output : after.output = before.output
  errors : before.errors <+: after.errors
  logging : after.logging = before.logging
  stamp : after.stamp = before.stamp
  charset : after.charset = before.charset
  current : after.files.current = before.files.current
  /-- The log file is the only one that changes. -/
  node : ∀ location, before.logging.file ≠ some location →
    after.files.node? location = before.files.node? location
  files : before.logging.file = none → after.files = before.files

variable {state middle after : RunState}

theorem Recorded.refl (state : RunState) : state.Recorded state where
  output := rfl
  errors := List.prefix_rfl
  logging := rfl
  stamp := rfl
  charset := rfl
  current := rfl
  node := fun _ _ => rfl
  files := fun _ => rfl

theorem Recorded.trans (h₁ : state.Recorded middle) (h₂ : middle.Recorded after) :
    state.Recorded after where
  output := h₂.output.trans h₁.output
  errors := h₁.errors.trans h₂.errors
  logging := h₂.logging.trans h₁.logging
  stamp := h₂.stamp.trans h₁.stamp
  charset := h₂.charset.trans h₁.charset
  current := h₂.current.trans h₁.current
  node := fun location hlocation =>
    (h₂.node location (by rwa [h₁.logging])).trans (h₁.node location hlocation)
  files := fun hfile => (h₂.files (by rwa [h₁.logging])).trans (h₁.files hfile)

theorem recorded_printError (state : RunState) (text : Text) :
    state.Recorded (state.printError text) :=
  { Recorded.refl state with errors := List.prefix_append _ _ }

theorem recorded_printLog (state : RunState) (text : Text) :
    state.Recorded (state.printLog text) := by
  unfold printLog
  split
  · exact .refl state
  · next location hfile =>
    exact
      { Recorded.refl state with
        current := rfl
        node := fun _ hother =>
          FileSystem.node?_setNode_of_ne
            (fun heq => hother (hfile.trans (congrArg some heq.symm))) _ _
        files := fun hnone => absurd (hfile.symm.trans hnone) (by simp) }

theorem recorded_log (state : RunState) (record : LogRecord) :
    state.Recorded (state.log record) := by
  unfold log
  split
  · exact (recorded_printError state _).trans (recorded_printLog _ _)
  · exact .refl state

theorem recorded_logAll (state : RunState) (records : List LogRecord) :
    state.Recorded (state.logAll records) := by
  induction records generalizing state with
  | nil => exact .refl state
  | cons record records ih => exact (recorded_log state record).trans (ih _)

theorem recorded_scanFiles (state : RunState) (context : Context) (paths : List Text) :
    state.Recorded (state.scanFiles context paths).1 := by
  induction paths generalizing state context with
  | nil => exact .refl state
  | cons path paths ih =>
    have hlogged := recorded_logAll state (context.fileRecords state.files path)
    rw [scanFiles]
    split
    · exact hlogged.trans (ih _ _)
    · exact hlogged

theorem recorded_format (formatter : Formatter) (command : List Json) (text : Text)
    (state : RunState) : state.Recorded (state.format formatter command text).1 := by
  unfold format
  split
  · exact .refl state
  · exact (recorded_log state _).trans { Recorded.refl _ with output := rfl }

end RunState

end WrapperGen
