/-!
# Kinds of failures

Every reported failure has a kind. Kinds form a tree, so that a failure can be handled as any of
the kinds it descends from.
-/

namespace WrapperGen

/-- The kinds of reported failures. -/
inductive FailureKind where
  | any
  | directive
  | signature
  | resolution
  | missingConverter
  | importConflict
  | packageClause
  | packageMismatch
  | formatting
  | settings
  | loading
  | template
  deriving DecidableEq, Repr

namespace FailureKind

/-- The kind that a kind is a special case of. -/
def parent? : FailureKind → Option FailureKind
  | any => none
  | signature => some directive
  | missingConverter => some resolution
  | importConflict => some resolution
  | packageMismatch => some packageClause
  | directive | resolution | packageClause | formatting | settings | loading | template => some any

/-- The distance of a kind from the root of the tree. -/
def depth : FailureKind → Nat
  | any => 0
  | directive | resolution | packageClause | formatting | settings | loading | template => 1
  | signature | missingConverter | importConflict | packageMismatch => 2

/-- A kind is one step further from the root than the kind it is a special case of. -/
theorem depth_parent {kind parent : FailureKind} (h : kind.parent? = some parent) :
    parent.depth < kind.depth := by
  cases kind <;> cases h <;> decide

/-- A kind and all that it descends from, the root last. -/
def lineage (kind : FailureKind) : List FailureKind :=
  match h : kind.parent? with
  | none => [kind]
  | some parent =>
    have := depth_parent h
    kind :: parent.lineage
termination_by kind.depth

end FailureKind

end WrapperGen
