/-
Module: Turnstile.Metadata
Purpose: The metadata that every stored object carries, and references from a dependent to its owner.
Main exports: Metadata, OwnerReference, Metadata.displayName, Metadata.ofJson?, Metadata.controllerReference?
-/
import Turnstile.Json.Shape

/-!
An object goes by its name; one that only has a name stem goes by that, and one with neither by the empty
text.  Whether a label or an annotation is set is asked of the two tables.  What the program does not
look at is kept as it came, so that it can be written back.
-/

namespace Turnstile

/-- The group and version of the program's own resources. -/
def apiVersion : String := "runq.dev/v1alpha1"

/-- A reference from a dependent object to its owner. -/
structure OwnerReference where
  apiVersion : String
  kind : String
  name : String
  uid : String
  controller : Option Bool
  blockOwnerDeletion : Option Bool
deriving Repr, DecidableEq, Inhabited

namespace OwnerReference

/-- The shape of a reference on the wire. -/
def shape : Shape :=
  .record
    [("apiVersion", .required, .text),
     ("blockOwnerDeletion", .optional, .flag),
     ("controller", .optional, .flag),
     ("kind", .required, .text),
     ("name", .required, .text),
     ("uid", .required, .text)]

/-- The wire form of a reference. -/
def toJson (reference : OwnerReference) : Json :=
  .compact
    [("apiVersion", some (.string reference.apiVersion)),
     ("blockOwnerDeletion", reference.blockOwnerDeletion.map .bool),
     ("controller", reference.controller.map .bool),
     ("kind", some (.string reference.kind)),
     ("name", some (.string reference.name)),
     ("uid", some (.string reference.uid))]

/-- Read the text of a required member. -/
def member (json : Json) (key : String) : String :=
  ((json.get? key).bind Json.text?).getD ""

/-- Read a reference that has its shape. -/
def ofShaped (json : Json) : OwnerReference where
  apiVersion := member json "apiVersion"
  kind := member json "kind"
  name := member json "name"
  uid := member json "uid"
  controller := (json.get? "controller").bind Json.bool?
  blockOwnerDeletion := (json.get? "blockOwnerDeletion").bind Json.bool?

end OwnerReference

/-- The metadata of an object. -/
structure Metadata where
  name : Option String := none
  generateName : Option String := none
  namespaceName : Option String := none
  uid : Option String := none
  resourceVersion : Option String := none
  labels : Option (List (String × String)) := none
  annotations : Option (List (String × String)) := none
  ownerReferences : Option (List OwnerReference) := none
  others : List (String × Json) := []
deriving Inhabited

namespace Metadata

/-- The members that the program does not look at. -/
def otherFields : List (String × Presence × Shape) :=
  [("creationTimestamp", .optional, .instant),
   ("deletionGracePeriodSeconds", .optional, Shape.int64),
   ("deletionTimestamp", .optional, .instant),
   ("finalizers", .optional, .list .text),
   ("generation", .optional, Shape.int64),
   ("managedFields", .optional, .list (.record
     [("apiVersion", .optional, .text),
      ("fieldsType", .optional, .text),
      ("fieldsV1", .optional, .anything),
      ("manager", .optional, .text),
      ("operation", .optional, .text),
      ("subresource", .optional, .text),
      ("time", .optional, .instant)])),
   ("selfLink", .optional, .text)]

/-- The shape of metadata on the wire. -/
def shape : Shape :=
  .record
    ([("annotations", .optional, .table .text),
      ("generateName", .optional, .text),
      ("labels", .optional, .table .text),
      ("name", .optional, .text),
      ("namespace", .optional, .text),
      ("ownerReferences", .optional, .list OwnerReference.shape),
      ("resourceVersion", .optional, .text),
      ("uid", .optional, .text)] ++ otherFields)

/-- The texts of a table that has its shape. -/
def tableOf (json : Json) : List (String × String) :=
  (json.members?.getD []).filterMap fun member => member.2.text?.map fun text => (member.1, text)

/-- Read metadata that has its shape. -/
def ofShaped (json : Json) : Metadata where
  name := (json.get? "name").bind Json.text?
  generateName := (json.get? "generateName").bind Json.text?
  namespaceName := (json.get? "namespace").bind Json.text?
  uid := (json.get? "uid").bind Json.text?
  resourceVersion := (json.get? "resourceVersion").bind Json.text?
  labels := (json.get? "labels").map tableOf
  annotations := (json.get? "annotations").map tableOf
  ownerReferences := (json.get? "ownerReferences").map fun references =>
    (references.items?.getD []).map OwnerReference.ofShaped
  others := (json.members?.getD []).filter fun member =>
    (otherFields.map Prod.fst).contains member.1

/-- Read metadata from the wire. -/
def ofJson? (json : Json) : Option Metadata :=
  (shape.fit? json).map ofShaped

/-- A table of texts on the wire. -/
def tableToJson (table : List (String × String)) : Json :=
  .object (table.map fun entry => (entry.1, .string entry.2))

/-- The wire form of metadata. -/
def toJson (metadata : Metadata) : Json :=
  match Json.compact
    [("annotations", metadata.annotations.map tableToJson),
     ("generateName", metadata.generateName.map .string),
     ("labels", metadata.labels.map tableToJson),
     ("name", metadata.name.map .string),
     ("namespace", metadata.namespaceName.map .string),
     ("ownerReferences", metadata.ownerReferences.map fun references =>
       .array (references.map OwnerReference.toJson)),
     ("resourceVersion", metadata.resourceVersion.map .string),
     ("uid", metadata.uid.map .string)] with
  | .object members => .object (members ++ metadata.others)
  | other => other

/-- The name an object goes by. -/
def displayName (metadata : Metadata) : String :=
  (metadata.name.orElse fun _ => metadata.generateName).getD ""

/-- The text of a label. -/
def label? (metadata : Metadata) (key : String) : Option String :=
  metadata.labels.bind fun labels => labels.lookup key

/-- The text of an annotation. -/
def annotation? (metadata : Metadata) (key : String) : Option String :=
  metadata.annotations.bind fun annotations => annotations.lookup key

/-- A reference to the object as the controller of its dependents; it takes a name and an identity. -/
def controllerReference? (metadata : Metadata) (apiVersion kind : String) : Option OwnerReference := do
  let name ← metadata.name
  let uid ← metadata.uid
  some { apiVersion, kind, name, uid, controller := some true, blockOwnerDeletion := none }

end Metadata

end Turnstile
