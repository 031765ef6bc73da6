/-
Module: Turnstile.Reconcile.Write
Purpose: The two ways in which a reconciliation writes: a guarded status, and an object unless it exists.
Main exports: Attempt.writeStatus, Attempt.ensure, Attempt.createOrGet
-/
import Turnstile.Cluster.Program

/-!
A status is written for the version that the reconciliation has seen, so that it never replaces what another
writer knew better.  An object that is wanted is created only if it does not exist, and a creation that
comes second is as good as one that comes first.
-/

namespace Turnstile.Attempt

/-- The version that a patch is made for; null stands for an object without version. -/
def versionGuard (metadata : Metadata) : Json :=
  (metadata.resourceVersion.map .string).getD .null

/-- The patch that writes a status. -/
def statusPatch (metadata : Metadata) (status : Json) : Json :=
  .object
    [("metadata", .object [("resourceVersion", versionGuard metadata)]),
     ("status", status)]

/-- Write the status of an object that was seen with this metadata. -/
def writeStatus (key : Key) (metadata : Metadata) (status : Json) : Attempt Unit :=
  require (Program.ofKind key.kind) (.patchStatus key (statusPatch metadata status))

/-- Create an object; that it exists already is no failure. -/
def createUnlessPresent (key : Key) (desired : Json) : Attempt Unit :=
  ofReply do
    match ← Program.read (Program.ofKind key.kind) (.create key.kind key.namespaceName desired) with
    | .ok _ => return .ok ()
    | .error error => return if error.isAlreadyExists then .ok () else .error error

/-- See to it that an object exists. -/
def ensure (key : Key) (desired : Json) : Attempt Unit := do
  let present ← ofReply do
    match ← Program.read (Program.ofKind key.kind) (.get key) with
    | .ok _ => return .ok true
    | .error error => return if error.isNotFound then .ok false else .error error
  if present then return () else createUnlessPresent key desired

/-- Create an object or take the one that exists under its name. -/
def createOrGet {α : Type} (decode : Json → Option α) (key : Key) (desired : Json) : Attempt α :=
  ofReply do
    match ← Program.read decode (.create key.kind key.namespaceName desired) with
    | .ok value => return .ok value
    | .error error => if error.isAlreadyExists then Program.read decode (.get key) else return .error error

end Turnstile.Attempt
