/-
Module: Turnstile.Settings
Purpose: The settings of the controller, their defaults, and the checks that make them usable.
Main exports: Settings, Settings.ofJson?, Settings.fault?, ImageSettings.reference
-/
import Turnstile.Json.Record
import Turnstile.Run
import Turnstile.Text.Blank

/-!
Every section has defaults, so that a part of the settings, or none at all, is enough.  Only an image is
all or nothing: one that is given names both its repository and its tag.  Settings are usable when the
image is named, the cache is mounted at an absolute path, and the default size of a cache is not blank.
-/

namespace Turnstile

/-- An image by repository and tag. -/
structure ImageSettings where
  repository : String := "ghcr.io/runq-dev/runner"
  tag : String := "latest"
deriving Repr, DecidableEq, Inhabited

/-- How runs are executed. -/
structure RunnerSettings where
  image : ImageSettings := {}
  imagePullSecrets : List String := []
  cacheMountPath : String := "/cache"
deriving Repr, DecidableEq, Inhabited

/-- What a workspace gets that does not ask for a size. -/
structure CacheSettings where
  defaultSize : String := "1Gi"
deriving Repr, DecidableEq, Inhabited

/-- How long a failed reconciliation waits. -/
structure RequeueSettings where
  errorSeconds : UInt64 := 15
  conflictSeconds : UInt64 := 1
deriving DecidableEq, Inhabited

/-- The settings of the controller. -/
structure Settings where
  runner : RunnerSettings := {}
  cache : CacheSettings := {}
  requeue : RequeueSettings := {}
deriving DecidableEq, Inhabited

namespace ImageSettings

/-- Repository and tag are both named. -/
def isConfigured (image : ImageSettings) : Bool :=
  !Blank.isEmpty image.repository && !Blank.isEmpty image.tag

/-- The reference by which the image is pulled. -/
def reference (image : ImageSettings) : String :=
  image.repository ++ ":" ++ image.tag

/-- The wire form. -/
def toJson (image : ImageSettings) : Json :=
  .object [("repository", .string image.repository), ("tag", .string image.tag)]

/-- Read an image; both parts have to be there. -/
def ofJson? (json : Json) : Option ImageSettings := do
  let record ← json.record? 2 2
  let repository ← record.required? 0 "repository" Json.text?
  let tag ← record.required? 1 "tag" Json.text?
  some { repository, tag }

end ImageSettings

namespace RunnerSettings

/-- The wire form. -/
def toJson (runner : RunnerSettings) : Json :=
  .object
    [("image", runner.image.toJson),
     ("imagePullSecrets", .texts runner.imagePullSecrets),
     ("cacheMountPath", .string runner.cacheMountPath)]

/-- Read the settings of the runner. -/
def ofJson? (json : Json) : Option RunnerSettings := do
  let record ← json.record? 0 3
  let image ← record.withDefault? 0 "image" {} ImageSettings.ofJson?
  let imagePullSecrets ← record.withDefault? 1 "imagePullSecrets" [] Json.texts?
  let cacheMountPath ← record.withDefault? 2 "cacheMountPath" "/cache" Json.text?
  some { image, imagePullSecrets, cacheMountPath }

end RunnerSettings

namespace CacheSettings

/-- The wire form. -/
def toJson (cache : CacheSettings) : Json :=
  .object [("defaultSize", .string cache.defaultSize)]

/-- Read the settings of caches. -/
def ofJson? (json : Json) : Option CacheSettings := do
  let record ← json.record? 0 1
  let defaultSize ← record.withDefault? 0 "defaultSize" "1Gi" Json.text?
  some { defaultSize }

end CacheSettings

namespace RequeueSettings

/-- The wire form. -/
def toJson (requeue : RequeueSettings) : Json :=
  .object
    [("errorSeconds", .integer requeue.errorSeconds.toNat),
     ("conflictSeconds", .integer requeue.conflictSeconds.toNat)]

/-- Read the delays. -/
def ofJson? (json : Json) : Option RequeueSettings := do
  let record ← json.record? 0 2
  let errorSeconds ← record.withDefault? 0 "errorSeconds" 15 RunSpec.word64?
  let conflictSeconds ← record.withDefault? 1 "conflictSeconds" 1 RunSpec.word64?
  some { errorSeconds, conflictSeconds }

end RequeueSettings

namespace Settings

/-- The wire form; every setting is written. -/
def toJson (settings : Settings) : Json :=
  .object
    [("runner", settings.runner.toJson),
     ("cache", settings.cache.toJson),
     ("requeue", settings.requeue.toJson)]

/-- Read settings. -/
def ofJson? (json : Json) : Option Settings := do
  let record ← json.record? 0 3
  let runner ← record.withDefault? 0 "runner" {} RunnerSettings.ofJson?
  let cache ← record.withDefault? 1 "cache" {} CacheSettings.ofJson?
  let requeue ← record.withDefault? 2 "requeue" {} RequeueSettings.ofJson?
  some { runner, cache, requeue }

/-- What makes settings unusable. -/
inductive Fault where
  | imageNotConfigured
  | cacheMountNotAbsolute (path : String)
  | defaultSizeEmpty
deriving Repr, DecidableEq

/-- The wording of a fault. -/
def Fault.message : Fault → String
  | .imageNotConfigured =>
    "Runner image is not configured. Provide runner.image.repository and runner.image.tag."
  | .cacheMountNotAbsolute path => "runner.cacheMountPath must be absolute, got '" ++ path ++ "'"
  | .defaultSizeEmpty => "cache.defaultSize must not be empty"

/-- A path from the root. -/
def isAbsolute (path : String) : Bool :=
  path.toList.head? == some '/'

/-- The first fault of the settings, if there is one. -/
def fault? (settings : Settings) : Option Fault :=
  if !settings.runner.image.isConfigured then some .imageNotConfigured
  else if !isAbsolute settings.runner.cacheMountPath then
    some (.cacheMountNotAbsolute settings.runner.cacheMountPath)
  else if Blank.isEmpty settings.cache.defaultSize then some .defaultSizeEmpty
  else none

end Settings

end Turnstile
