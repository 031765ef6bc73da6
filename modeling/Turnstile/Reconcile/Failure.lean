/-
Module: Turnstile.Reconcile.Failure
Purpose: Why a reconciliation stops before its end, and how soon it is tried again.
Main exports: ReconcileFailure, ReconcileFailure.isConflict, ReconcileFailure.message
-/
import Turnstile.Cluster.ApiError

/-!
A reconciliation fails when a request fails, when the configuration of the controller is refused, or when
an object lacks the name or identity that its dependents have to refer to.
-/

namespace Turnstile

/-- The ways a reconciliation fails. -/
inductive ReconcileFailure where
  | api (error : ApiError)
  | configuration (problem : String)
  | missingObjectKey
deriving Repr, DecidableEq, Inhabited

namespace ReconcileFailure

/-- Another writer changed the object first. -/
def isConflict : ReconcileFailure → Bool
  | .api error => error.isConflict
  | _ => false

/-- The wording of a failure that is the program's own. -/
def message : ReconcileFailure → String
  | .api _ => "Kubernetes API error"
  | .configuration problem => "Configuration error: " ++ problem
  | .missingObjectKey => "Object is missing its name or namespace"

end ReconcileFailure

end Turnstile
