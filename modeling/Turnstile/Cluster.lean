/-
Module: Turnstile.Cluster
Purpose: The objects of a cluster and how its API server answers requests.
Main exports: Cluster, Cluster.find?, Cluster.put, Request, Cluster.answer
-/
import Turnstile.Cluster.ApiError
import Turnstile.Cluster.Kind
import Turnstile.Json.MergePatch

/-!
The server keeps objects under their keys and counts its writes; the count at its last write is the version
of an object.  A patch that names a version is only accepted for an object of that version, so a writer
that has not seen the present object cannot overwrite it.  The status of an object is patched on its own:
other patches leave it alone.  Names of listed objects come in order.
-/

namespace Turnstile

/-- The objects of a cluster, and how many writes there have been. -/
structure Cluster where
  objects : List (Key × Json) := []
  version : Nat := 0
deriving Inhabited

namespace Cluster

/-- The object under a key. -/
def find? (cluster : Cluster) (key : Key) : Option Json :=
  cluster.objects.lookup key

/-- The metadata of an object. -/
def metadataOf (object : Json) : Json :=
  (object.get? "metadata").getD (.object [])

/-- A text in the metadata of an object. -/
def metadataText? (object : Json) (member : String) : Option String :=
  (object.at? ["metadata", member]).bind Json.text?

/-- The object as it is kept at its `version`. -/
def kept (key : Key) (version : Nat) (object : Json) : Json :=
  let metadata := metadataOf object
  ((object.set "apiVersion" (.string key.kind.apiVersion)).set "kind" (.string key.kind.word)).set "metadata"
    ((metadata.set "namespace" (.string key.namespaceName)).set "resourceVersion" (.string (toString version)))

/-- Replace or add an entry. -/
def replaced (key : Key) (object : Json) : List (Key × Json) → List (Key × Json)
  | [] => [(key, object)]
  | entry :: rest => if entry.1 = key then (key, object) :: rest else entry :: replaced key object rest

/-- Write an object. -/
def write (cluster : Cluster) (key : Key) (object : Json) : Cluster where
  version := cluster.version + 1
  objects := replaced key (kept key (cluster.version + 1) object) cluster.objects

/-- The identity that an object of this name is given. -/
def identity (name : String) : Json :=
  .string ("uid-" ++ name)

/-- Give the object the identity of its name. -/
def identified (key : Key) (object : Json) : Json :=
  object.set "metadata" ((metadataOf object).set "uid" (identity key.name))

/-- Settle the identity of an object that is put in place: a given one is kept, and null means none. -/
def settledIdentity (key : Key) (object : Json) : Json :=
  match (metadataOf object).get? "uid" with
  | none => identified key object
  | some .null => object.set "metadata" ((metadataOf object).without "uid")
  | some _ => object

/-- Put an object in place, whatever was there. -/
def put (cluster : Cluster) (key : Key) (object : Json) : Cluster :=
  cluster.write key (settledIdentity key object)

/-- Remove an object; a removal counts as a write. -/
def remove (cluster : Cluster) (key : Key) : Cluster where
  version := cluster.version + 1
  objects := cluster.objects.filter fun entry => entry.1 != key

/-- The refusal of a request for an object that does not exist. -/
def notFound (key : Key) : ApiError :=
  .refused 404 "NotFound" (key.kind.word ++ " \"" ++ key.name ++ "\" not found")

/-- The refusal to create an object that exists. -/
def alreadyExists (key : Key) : ApiError :=
  .refused 409 "AlreadyExists" (key.kind.word ++ " \"" ++ key.name ++ "\" already exists")

/-- The refusal of a patch for another version. -/
def modified : ApiError :=
  .refused 409 "Conflict" "the object has been modified"

/-- The patch names a version other than that of the object. -/
def isStale (object patch : Json) : Bool :=
  match metadataText? patch "resourceVersion" with
  | none => false
  | some version => metadataText? object "resourceVersion" != some version

end Cluster

/-- Which objects of a kind are listed. -/
inductive Selection where
  | all
  | labelled (key value : String)
  | named (name : String)
deriving Repr, DecidableEq, Inhabited

/-- A request to the API server. -/
inductive Request where
  | get (key : Key)
  | list (kind : Kind) (namespaceName : String) (selection : Selection)
  | watch (kind : Kind) (namespaceName : String) (selection : Selection)
  | create (kind : Kind) (namespaceName : String) (object : Json)
  | patch (key : Key) (change : Json)
  | patchStatus (key : Key) (change : Json)
  | delete (key : Key)
  | log (key : Key) (container : String)
  | attach (key : Key) (container : String)

namespace Request

/-- What a request does. -/
inductive Verb where
  | get
  | list
  | watch
  | create
  | patch
  | patchStatus
  | delete
  | log
  | attach
deriving Repr, DecidableEq, Inhabited

/-- What the request does. -/
def verb : Request → Verb
  | .get .. => .get
  | .list .. => .list
  | .watch .. => .watch
  | .create .. => .create
  | .patch .. => .patch
  | .patchStatus .. => .patchStatus
  | .delete .. => .delete
  | .log .. => .log
  | .attach .. => .attach

/-- The key of an object that is to be created. -/
def createdKey (kind : Kind) (namespaceName : String) (object : Json) : Key :=
  ⟨kind, namespaceName, (Cluster.metadataText? object "name").getD ""⟩

/-- The object that the request is about, unless it is about several. -/
def key? : Request → Option Key
  | .get key => some key
  | .list .. => none
  | .watch .. => none
  | .create kind namespaceName object => some (createdKey kind namespaceName object)
  | .patch key _ => some key
  | .patchStatus key _ => some key
  | .delete key => some key
  | .log key _ => some key
  | .attach key _ => some key

/-- The kind that the request is about. -/
def kind : Request → Kind
  | .get key => key.kind
  | .list kind _ _ => kind
  | .watch kind _ _ => kind
  | .create kind _ _ => kind
  | .patch key _ => key.kind
  | .patchStatus key _ => key.kind
  | .delete key => key.kind
  | .log key _ => key.kind
  | .attach key _ => key.kind

/-- The request asks for a change. -/
def isWrite (request : Request) : Bool :=
  match request.verb with
  | .create => true
  | .patch => true
  | .patchStatus => true
  | .delete => true
  | _ => false

/-- The code of a good answer. -/
def goodCode (request : Request) : Nat :=
  match request.verb with
  | .create => 201
  | _ => 200

end Request

namespace Cluster

/-- The object belongs to the selection. -/
def selects : Selection → Key × Json → Bool
  | .all, _ => true
  | .labelled key value, entry => (entry.2.at? ["metadata", "labels", key]).bind Json.text? == some value
  | .named name, entry => entry.1.name == name

/-- The selected objects of a kind in a namespace, in the order of their names. -/
def listed (cluster : Cluster) (kind : Kind) (namespaceName : String) (selection : Selection) :
    List (Key × Json) :=
  (cluster.objects.filter fun entry =>
    entry.1.kind == kind && entry.1.namespaceName == namespaceName && selects selection entry).mergeSort
      fun first second => first.1.name ≤ second.1.name

/-- The list of objects as an answer. -/
def listAnswer (cluster : Cluster) (kind : Kind) (items : List (Key × Json)) : Json :=
  .object
    [("apiVersion", .string kind.apiVersion),
     ("kind", .string (kind.word ++ "List")),
     ("metadata", .object [("resourceVersion", .string (toString cluster.version))]),
     ("items", .array (items.map Prod.snd))]

/-- Write an object and answer with it as it is kept. -/
def written (cluster : Cluster) (key : Key) (object : Json) : Cluster × Except ApiError Json :=
  (cluster.write key object, .ok (kept key (cluster.version + 1) object))

/-- Patch an object with the part of the patch that counts. -/
def patched (cluster : Cluster) (key : Key) (change counted : Json) : Cluster × Except ApiError Json :=
  match cluster.find? key with
  | none => (cluster, .error (notFound key))
  | some object =>
    if isStale object change then (cluster, .error modified)
    else cluster.written key (object.mergePatch counted)

/-- The part of a patch that counts for the status. -/
def statusPart (change : Json) : Json :=
  .compact [("status", change.get? "status")]

/-- The output that is kept for a pod. -/
def outputOf (object : Json) : Json :=
  .string (((object.at? ["metadata", "annotations", "logs"]).bind Json.text?).getD "")

/-- What the server makes of a request. -/
def answer (cluster : Cluster) : Request → Cluster × Except ApiError Json
  | .get key => (cluster, (cluster.find? key).elim (.error (notFound key)) .ok)
  | .list kind namespaceName selection =>
    (cluster, .ok (cluster.listAnswer kind (cluster.listed kind namespaceName selection)))
  | .watch _ _ _ => (cluster, .ok .null)
  | .create kind namespaceName object =>
    let key := Request.createdKey kind namespaceName object
    match cluster.find? key with
    | some _ => (cluster, .error (alreadyExists key))
    | none => cluster.written key (identified key object)
  | .patch key change => cluster.patched key change (change.without "status")
  | .patchStatus key change => cluster.patched key change (statusPart change)
  | .delete key =>
    match cluster.find? key with
    | none => (cluster, .error (notFound key))
    | some object => (cluster.remove key, .ok object)
  | .log key _ => (cluster, (cluster.find? key).elim (.error (notFound key)) fun object => .ok (outputOf object))
  | .attach _ _ => (cluster, .error (.refused 400 "BadRequest" "connections are not upgraded"))

end Cluster

end Turnstile
