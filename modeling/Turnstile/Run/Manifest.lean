/-
Module: Turnstile.Run.Manifest
Purpose: The pod that executes a run.
Main exports: Run.manifest, dependentLabels
-/
import Turnstile.Reconcile.Failure
import Turnstile.Run.Entrypoint
import Turnstile.Settings

/-!
The pod goes by the name of its run and is controlled by it.  It mounts the cache volume of the workspace,
the payload of the run and an empty working volume, and executes the entrypoint script once.
-/

namespace Turnstile

/-- The labels of what belongs to a workspace. -/
def dependentLabels (workspace : String) : List (String × Json) :=
  [("app.kubernetes.io/managed-by", .string "runq"), (Run.workspaceLabel, .string workspace)]

namespace Run

/-- An object of one text. -/
def named (key value : String) : Json :=
  .object [(key, .string value)]

/-- A variable of the environment. -/
def environmentVariable (name value : String) : Json :=
  .object [("name", .string name), ("value", .string value)]

/-- The mounts of the runner. -/
def volumeMounts (cachePath : String) : Json :=
  .array
    [.object [("name", .string "cache"), ("mountPath", .string cachePath)],
     .object [("name", .string "payload"), ("mountPath", .string Entrypoint.payloadDirectory),
       ("readOnly", .bool true)],
     .object [("name", .string "workspace"), ("mountPath", .string Entrypoint.workspaceDirectory)]]

/-- The volumes of the pod; the payload volume holds the key of the run's payload under the same name. -/
def volumes (run : Run) (workspace : Workspace) : Json :=
  .array
    [.object [("name", .string "cache"),
       ("persistentVolumeClaim", named "claimName" workspace.claimName)],
     .object [("name", .string "payload"),
       ("configMap", .object
         [("name", .string run.spec.configMap),
          ("items", .array [.object
            [("key", .string run.spec.configMapKey), ("path", .string run.spec.configMapKey)]])])],
     .object [("name", .string "workspace"), ("emptyDir", .object [])]]

/-- The container that executes the run. -/
def container (run : Run) (workspace : Workspace) (settings : Settings) : Json :=
  let cachePath := settings.runner.cacheMountPath
  .compact
    [("name", some (.string containerName)),
     ("image", some (.string settings.runner.image.reference)),
     ("command", some (.texts ["/bin/sh", "-c", Entrypoint.text run workspace])),
     ("workingDir", some (.string Entrypoint.workspaceDirectory)),
     ("stdin", some (.bool run.spec.handshake)),
     ("stdinOnce", some (.bool run.spec.handshake)),
     ("tty", some (.bool run.spec.handshake)),
     ("env", some (.array
       [environmentVariable "RUNQ_RUN" run.name,
        environmentVariable "RUNQ_WORKSPACE" workspace.name,
        environmentVariable "TF_DATA_DIR" (cachePath ++ "/.terraform"),
        environmentVariable "TF_IN_AUTOMATION" "true"])),
     ("envFrom", workspace.spec.secretName.map fun secret =>
       .array [.object [("secretRef", named "name" secret)]]),
     ("volumeMounts", some (volumeMounts cachePath))]

/-- The pod that executes the run. -/
def manifest (run : Run) (workspace : Workspace) (settings : Settings) : Except ReconcileFailure Json :=
  match run.controllerReference? with
  | none => .error .missingObjectKey
  | some owner =>
    let secrets := settings.runner.imagePullSecrets
    .ok (.object
      [("apiVersion", .string "v1"),
       ("kind", .string "Pod"),
       ("metadata", .object
         [("name", .string run.name),
          ("labels", .object (dependentLabels workspace.name ++ [(runLabel, .string run.name)])),
          ("ownerReferences", .array [owner.toJson])]),
       ("spec", .compact
         [("restartPolicy", some (.string "Never")),
          ("containers", some (.array [container run workspace settings])),
          ("volumes", some (volumes run workspace)),
          ("serviceAccountName", workspace.spec.serviceAccountName.map .string),
          ("imagePullSecrets",
            if secrets.isEmpty then none else some (.array (secrets.map (named "name"))))])])

end Run

end Turnstile
