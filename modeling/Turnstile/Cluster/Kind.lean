/-
Module: Turnstile.Cluster.Kind
Purpose: The kinds of objects that the program deals with, and the keys that objects are stored under.
Main exports: Kind, Kind.word, Kind.apiVersion, Kind.ofWord?, Key
-/
import Turnstile.Pod
import Turnstile.Workspace

namespace Turnstile

/-- A kind of object. -/
inductive Kind where
  | workspace
  | run
  | pod
  | configMap
  | serviceAccount
  | secret
  | persistentVolumeClaim
  | role
  | roleBinding
deriving Repr, DecidableEq, Inhabited

namespace Kind

/-- The word for a kind. -/
def word : Kind → String
  | .workspace => Workspace.kind
  | .run => Run.kind
  | .pod => Pod.kind
  | .configMap => "ConfigMap"
  | .serviceAccount => "ServiceAccount"
  | .secret => "Secret"
  | .persistentVolumeClaim => "PersistentVolumeClaim"
  | .role => "Role"
  | .roleBinding => "RoleBinding"

/-- The group and version of a kind. -/
def apiVersion : Kind → String
  | .workspace => Turnstile.apiVersion
  | .run => Turnstile.apiVersion
  | .role => "rbac.authorization.k8s.io/v1"
  | .roleBinding => "rbac.authorization.k8s.io/v1"
  | _ => "v1"

/-- Every kind. -/
def all : List Kind :=
  [.workspace, .run, .pod, .configMap, .serviceAccount, .secret, .persistentVolumeClaim, .role, .roleBinding]

/-- The kind that a word names. -/
def ofWord? (given : String) : Option Kind :=
  all.find? fun kind => kind.word == given

end Kind

/-- What an object is stored under. -/
structure Key where
  kind : Kind
  namespaceName : String
  name : String
deriving Repr, DecidableEq, Inhabited

/-- The key as text. -/
def Key.text (key : Key) : String :=
  key.kind.word ++ "/" ++ key.namespaceName ++ "/" ++ key.name

end Turnstile
