/-
Module: Turnstile.Run.Reconcile
Purpose: One reconciliation of a run: adoption of its payload, its pod, and the status it writes.
Main exports: Run.adoptPayload, Run.reconcile
-/
import Turnstile.Reconcile.Write
import Turnstile.Run.Manifest
import Turnstile.Run.Plan

/-!
A run that is over is left alone.  Otherwise the run first becomes an owner of its payload, so that the
payload goes when the run goes; the owners that are there stay.  Then its workspace and its pod are looked
up, and the plan is carried out: the pod before the status, so that a recorded pod has existed.
-/

namespace Turnstile.Run

/-- The metadata of an object of the kind. -/
def payloadMetadata? (json : Json) : Option Metadata :=
  (Kind.configMap.clusterShape.fit? json).map fun shaped =>
    Metadata.ofShaped ((shaped.get? "metadata").getD .null)

/-- Add an owner that is not the controller. -/
def withOwner (references : List OwnerReference) (owner : OwnerReference) : List OwnerReference :=
  references ++ [{ owner with controller := none }]

/-- The patch that sets the owners of a payload that was seen with this metadata. -/
def ownersPatch (metadata : Metadata) (references : List OwnerReference) : Json :=
  .object
    [("metadata", .object
      [("resourceVersion", Attempt.versionGuard metadata),
       ("ownerReferences", .array (references.map OwnerReference.toJson))])]

/-- Make the run an owner of a payload that was seen with this metadata. -/
def adopt (run : Run) (namespaceName : String) (payload : Metadata) : Attempt Unit := do
  match run.metadata.uid with
  | none => Attempt.fail .missingObjectKey
  | some uid =>
    let references := payload.ownerReferences.getD []
    if references.any fun reference => reference.uid == uid then return ()
    else
      match run.controllerReference? with
      | none => Attempt.fail .missingObjectKey
      | some owner =>
        Attempt.require (Program.ofKind .configMap)
          (.patch ⟨.configMap, namespaceName, payload.displayName⟩
            (ownersPatch payload (withOwner references owner)))

/-- Make the run an owner of its payload; a payload that does not exist is left out. -/
def adoptPayload (run : Run) (namespaceName : String) : Attempt Unit := do
  match ← Attempt.find? payloadMetadata? ⟨.configMap, namespaceName, run.spec.configMap⟩ with
  | none => return ()
  | some payload => run.adopt namespaceName payload

/-- Look up the workspace that the run is labelled for. -/
def lookup (run : Run) (namespaceName : String) : Attempt Lookup := do
  match run.workspaceName? with
  | none => return .unspecified
  | some name =>
    match ← Attempt.find? Workspace.ofJson? ⟨.workspace, namespaceName, name⟩ with
    | none => return .notFound name
    | some workspace => return .found workspace

/-- Create the pod of the run unless it exists. -/
def createPod (run : Run) (settings : Settings) (namespaceName : String) : Lookup → Attempt Unit
  | .found workspace => do
    match run.manifest workspace settings with
    | .error failure => Attempt.fail failure
    | .ok desired =>
      let _ ← Attempt.createOrGet Pod.ofJson? ⟨.pod, namespaceName, run.name⟩ desired
      return ()
  | _ => return ()

/-- Reconcile a run as it was seen, at time `now`. -/
def reconcile (now : String) (settings : Settings) (namespaceName : String) (run : Run) : Attempt Unit := do
  if run.isCompleted then return ()
  else
    run.adoptPayload namespaceName
    let lookup ← run.lookup namespaceName
    let pod ← Attempt.find? Pod.ofJson? ⟨.pod, namespaceName, run.name⟩
    let plan := run.plan now lookup pod
    if plan.createPod then run.createPod settings namespaceName lookup
    match plan.status with
    | none => return ()
    | some status => Attempt.writeStatus ⟨.run, namespaceName, run.name⟩ run.metadata status.toJson

end Turnstile.Run
