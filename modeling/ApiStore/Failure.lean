import ApiStore.CompileError
/-
`Failure.lean` -- the failures of a whole run.

A run reads, compiles, registers and checks. It fails with a compile error, with a fault
outside the compiler, or because a collection refuses: a name that is taken, a document
that is not valid. The report of a refused document is part of the failure.
-/
set_option autoImplicit false

namespace ApiStore

/-! ## 1. Reports on documents -/

/-- A place in a document that breaks a rule of its schema. -/
structure Issue where
  message : String
  /-- The keys and positions that lead to the place. -/
  place : List Scalar
  /-- The steps that lead to the rule. -/
  rule : List Scalar
  deriving DecidableEq, Repr

/-- The place of an issue as text. -/
def Issue.path (i : Issue) : String := ".".intercalate (i.place.map Scalar.display)

/-- What a collection has to say about a document. -/
structure Report where
  model : String
  issues : List Issue
  deriving DecidableEq, Repr

/-- Whether a document breaks no rule. -/
def Report.isValid (r : Report) : Bool := r.issues.isEmpty

/-! ## 2. Failures -/

/-- Why a run failed. -/
inductive Failure where
  | compile (e : CompileError)
  | fault (f : Fault)
  /-- A document that is not valid. -/
  | invalid (report : Report)
  /-- A collection of this name exists. -/
  | nameTaken (name : String)
  deriving DecidableEq, Repr

/-- The words for a failure. -/
def Failure.message : Failure → String
  | .compile e => e.message
  | .fault f => f.message
  | .invalid r => r.model ++ " validation failed: " ++ "; ".intercalate (r.issues.map (·.message))
  | .nameTaken name => "Cannot overwrite '" ++ name ++ "' model once registered"

end ApiStore
