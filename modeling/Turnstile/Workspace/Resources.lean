/-
Module: Turnstile.Workspace.Resources
Purpose: What a workspace needs in its namespace: the claim of its cache volume, a role and its binding.
Main exports: Workspace.roleName, Workspace.claim, Workspace.role, Workspace.binding
-/
import Turnstile.Run.Manifest

/-!
All three are controlled by the workspace and carry its labels.  The claim asks for the size of the
workspace, or for the default size of the controller when that is blank.  The role reads the program's own
resources, and the binding gives it to the account that the pods of the workspace run as.
-/

namespace Turnstile.Workspace

/-- The name of role and binding. -/
def roleName (name : String) : String :=
  "runq-workspace-" ++ name

/-- The account that pods run as when none is named. -/
def defaultServiceAccount : String := "default"

/-- A reference to the workspace as controller of its dependents. -/
def controllerReference? (workspace : Workspace) : Option OwnerReference :=
  workspace.metadata.controllerReference? apiVersion kind

/-- The metadata of a dependent. -/
def dependentMetadata (workspace : Workspace) (name : String) (owner : OwnerReference) : Json :=
  .object
    [("name", .string name),
     ("labels", .object (dependentLabels workspace.name)),
     ("ownerReferences", .array [owner.toJson])]

/-- The size of the cache volume. -/
def cacheSize (workspace : Workspace) (settings : Settings) : String :=
  if Blank.isEmpty workspace.spec.cache.size then settings.cache.defaultSize else workspace.spec.cache.size

/-- The claim of the cache volume. -/
def claim (workspace : Workspace) (settings : Settings) (owner : OwnerReference) : Json :=
  .object
    [("apiVersion", .string "v1"),
     ("kind", .string "PersistentVolumeClaim"),
     ("metadata", workspace.dependentMetadata workspace.claimName owner),
     ("spec", .compact
       [("accessModes", some (.texts ["ReadWriteOnce"])),
        ("resources", some (.object
          [("requests", .object [("storage", .string (workspace.cacheSize settings))])])),
        ("storageClassName", workspace.spec.cache.storageClass.map .string)])]

/-- The group of roles and bindings. -/
def rbacGroup : String := "rbac.authorization.k8s.io"

/-- The role that reads the program's own resources. -/
def role (workspace : Workspace) (owner : OwnerReference) : Json :=
  .object
    [("apiVersion", .string (rbacGroup ++ "/v1")),
     ("kind", .string "Role"),
     ("metadata", workspace.dependentMetadata (roleName workspace.name) owner),
     ("rules", .array [.object
       [("apiGroups", .texts ["runq.dev"]),
        ("resources", .texts ["workspaces", "runs"]),
        ("verbs", .texts ["get", "list", "watch"])]])]

/-- The binding of the role to the account of the workspace. -/
def binding (workspace : Workspace) (namespaceName : String) (owner : OwnerReference) : Json :=
  .object
    [("apiVersion", .string (rbacGroup ++ "/v1")),
     ("kind", .string "RoleBinding"),
     ("metadata", workspace.dependentMetadata (roleName workspace.name) owner),
     ("roleRef", .object
       [("apiGroup", .string rbacGroup),
        ("kind", .string "Role"),
        ("name", .string (roleName workspace.name))]),
     ("subjects", .array [.object
       [("kind", .string "ServiceAccount"),
        ("name", .string (workspace.spec.serviceAccountName.getD defaultServiceAccount)),
        ("namespace", .string namespaceName)]])]

end Turnstile.Workspace
