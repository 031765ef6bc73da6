/-
Module: Turnstile.Cluster.Shape
Purpose: The shapes of the objects around workspaces and runs.
Main exports: Kind.fits
-/
import Turnstile.Cluster.Kind

/-!
The program takes an answer of the API server for an object only if it has the shape of its kind.
-/

namespace Turnstile.Kind

/-- Members that may be missing and are texts. -/
def texts (keys : List String) : List (String × Presence × Shape) :=
  keys.map fun key => (key, .optional, .text)

/-- A reference to some object. -/
def objectReference : Shape :=
  .record (texts ["apiVersion", "fieldPath", "kind", "name", "namespace", "resourceVersion", "uid"])

/-- A selector of objects by their labels. -/
def labelSelector : Shape :=
  .record
    [("matchExpressions", .optional, .list (.record
      [("key", .required, .text), ("operator", .required, .text), ("values", .optional, .list .text)])),
     ("matchLabels", .optional, .table .text)]

/-- What a claim of a volume asks for. -/
def claimSpec : Shape :=
  .record
    ([("accessModes", .optional, .list .text),
      ("dataSource", .optional, .record
        [("apiGroup", .optional, .text), ("kind", .required, .text), ("name", .required, .text)]),
      ("dataSourceRef", .optional, .record
        [("apiGroup", .optional, .text), ("kind", .required, .text), ("name", .required, .text),
         ("namespace", .optional, .text)]),
      ("resources", .optional, .record
        [("limits", .optional, .table .text), ("requests", .optional, .table .text)]),
      ("selector", .optional, labelSelector)] ++
      texts ["storageClassName", "volumeAttributesClassName", "volumeMode", "volumeName"])

/-- What is known of a claim of a volume. -/
def claimStatus : Shape :=
  .record
    [("accessModes", .optional, .list .text),
     ("allocatedResourceStatuses", .optional, .table .text),
     ("allocatedResources", .optional, .table .text),
     ("capacity", .optional, .table .text),
     ("conditions", .optional, .list (.record
       ([("lastProbeTime", .optional, .instant), ("lastTransitionTime", .optional, .instant),
         ("status", .required, .text), ("type", .required, .text)] ++ texts ["message", "reason"]))),
     ("currentVolumeAttributesClassName", .optional, .text),
     ("modifyVolumeStatus", .optional, .record
       [("status", .required, .text), ("targetVolumeAttributesClassName", .optional, .text)]),
     ("phase", .optional, .text)]

/-- A rule of a role. -/
def policyRule : Shape :=
  .record
    [("apiGroups", .optional, .list .text),
     ("nonResourceURLs", .optional, .list .text),
     ("resourceNames", .optional, .list .text),
     ("resources", .optional, .list .text),
     ("verbs", .required, .list .text)]

/-- The members that objects of a kind of the cluster have beside version, kind and metadata. -/
def ownFields : Kind → List (String × Presence × Shape)
  | .configMap =>
    [("binaryData", .optional, .table .octets), ("data", .optional, .table .text),
     ("immutable", .optional, .flag)]
  | .serviceAccount =>
    [("automountServiceAccountToken", .optional, .flag),
     ("imagePullSecrets", .optional, .list (.record (texts ["name"]))),
     ("secrets", .optional, .list objectReference)]
  | .secret =>
    [("data", .optional, .table .octets), ("immutable", .optional, .flag),
     ("stringData", .optional, .table .text), ("type", .optional, .text)]
  | .persistentVolumeClaim =>
    [("spec", .optional, claimSpec), ("status", .optional, claimStatus)]
  | .role => [("rules", .optional, .list policyRule)]
  | .roleBinding =>
    [("roleRef", .required, .record
       [("apiGroup", .required, .text), ("kind", .required, .text), ("name", .required, .text)]),
     ("subjects", .optional, .list (.record
       [("apiGroup", .optional, .text), ("kind", .required, .text), ("name", .required, .text),
        ("namespace", .optional, .text)]))]
  | _ => []

/-- The shape of objects of a kind of the cluster. -/
def clusterShape (kind : Kind) : Shape :=
  .record
    ([("apiVersion", .fixed kind.apiVersion, .text),
      ("kind", .fixed kind.word, .text),
      ("metadata", .required, Metadata.shape)] ++ kind.ownFields)

/-- An answer can be read as an object of the kind. -/
def fits (kind : Kind) (json : Json) : Bool :=
  match kind with
  | .workspace => (Workspace.ofJson? json).isSome
  | .run => (Run.ofJson? json).isSome
  | .pod => (Pod.normalize? json).isSome
  | other => (other.clusterShape.fit? json).isSome

end Turnstile.Kind
