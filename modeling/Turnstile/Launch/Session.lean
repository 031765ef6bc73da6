/-
Module: Turnstile.Launch.Session
Purpose: How a client connects to the pod of its run.
Main exports: Session, Session.forPod
-/
import Turnstile.Pod

/-!
An interactive client attaches to a pod that has not finished yet; in every other case the output of the
pod is followed.
-/

namespace Turnstile

/-- A connection to a pod. -/
structure Session where
  pod : String
  run : String
  attach : Bool
deriving Repr, DecidableEq, Inhabited

/-- The connection that suits a pod. -/
def Session.forPod (pod : Pod) (run : String) (interactive : Bool) : Session where
  pod := pod.name
  run := run
  attach := interactive && !pod.isFinished

end Turnstile
