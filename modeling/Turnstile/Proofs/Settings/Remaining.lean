/-
Module: Turnstile.Proofs.Settings.Remaining
Purpose: The settings that are left when keys are removed from the document of the controller.
Main exports: Settings.Key, Settings.value, Settings.HalvesImage, Settings.ofYaml?_of_pruned,
  Settings.value_of_pruned, Settings.Lessened, Settings.lessened_of_pruned
-/
import Turnstile.Proofs.Settings.Pruned

/-!
Every key of the document may be removed but for the two parts of an image.  A setting whose key is gone takes its
default, which passes the checks as the setting did, and all others stay.  An image that is left with one part, or
with none, spoils the whole document, and then the controller works with the defaults alone.
-/

namespace Turnstile.Settings

open Yaml (Pruned kept)

/-! ### Settings one by one -/

/-- A single setting. -/
inductive Key where
  | repository
  | tag
  | imagePullSecrets
  | cacheMountPath
  | defaultSize
  | errorSeconds
  | conflictSeconds
deriving Repr, DecidableEq

/-- The keys under which a document has the setting. -/
def Key.path : Key → List String
  | .repository => ["runner", "image", "repository"]
  | .tag => ["runner", "image", "tag"]
  | .imagePullSecrets => ["runner", "imagePullSecrets"]
  | .cacheMountPath => ["runner", "cacheMountPath"]
  | .defaultSize => ["cache", "defaultSize"]
  | .errorSeconds => ["requeue", "errorSeconds"]
  | .conflictSeconds => ["requeue", "conflictSeconds"]

/-- What a single setting is set to. -/
inductive Value where
  | text (text : String)
  | texts (texts : List String)
  | seconds (seconds : UInt64)
deriving DecidableEq

/-- What the settings set a single one to. -/
def value (settings : Settings) : Key → Value
  | .repository => .text settings.runner.image.repository
  | .tag => .text settings.runner.image.tag
  | .imagePullSecrets => .texts settings.runner.imagePullSecrets
  | .cacheMountPath => .text settings.runner.cacheMountPath
  | .defaultSize => .text settings.cache.defaultSize
  | .errorSeconds => .seconds settings.requeue.errorSeconds
  | .conflictSeconds => .seconds settings.requeue.conflictSeconds

/-- These are all the settings there are. -/
theorem eq_of_value_eq {settings others : Settings} (same : ∀ key, settings.value key = others.value key) :
    settings = others := by
  obtain ⟨⟨⟨repository, tag⟩, secrets, mount⟩, ⟨size⟩, ⟨error, conflict⟩⟩ := settings
  obtain ⟨⟨⟨otherRepository, otherTag⟩, otherSecrets, otherMount⟩, ⟨otherSize⟩, ⟨otherError, otherConflict⟩⟩ := others
  cases same .repository
  cases same .tag
  cases same .imagePullSecrets
  cases same .cacheMountPath
  cases same .defaultSize
  cases same .errorSeconds
  cases same .conflictSeconds
  rfl

/-! ### Sections from which keys were removed -/

section Sections

variable {node less : Yaml}

/-- What is left of the settings of caches. -/
def cacheLeft (cache : CacheSettings) (node : Yaml) : CacheSettings where
  defaultSize := kept (node.field? "defaultSize") cache.defaultSize ({} : CacheSettings).defaultSize

theorem cacheOfYaml?_of_pruned {cache : CacheSettings} (pruned : Pruned node less)
    (read : cacheOfYaml? node = some cache) : cacheOfYaml? less = some (cacheLeft cache less) := by
  simp only [cacheOfYaml?, Option.bind_eq_bind, Option.bind_eq_some_iff, Option.some.injEq] at read
  obtain ⟨pairs, readPairs, size, readSize, rfl⟩ := read
  obtain ⟨rest, readRest, entries⟩ := Yaml.section?_of_pruned pruned readPairs
  have sizeLeft := Yaml.entryOr_of_steadfast Yaml.steadfast_text? (entries _ (by simp)) readSize
  simp [cacheOfYaml?, readRest, sizeLeft, Yaml.lookup_of_section? readRest, cacheLeft]

/-- What is left of the delays. -/
def requeueLeft (requeue : RequeueSettings) (node : Yaml) : RequeueSettings where
  errorSeconds := kept (node.field? "errorSeconds") requeue.errorSeconds ({} : RequeueSettings).errorSeconds
  conflictSeconds :=
    kept (node.field? "conflictSeconds") requeue.conflictSeconds ({} : RequeueSettings).conflictSeconds

theorem requeueOfYaml?_of_pruned {requeue : RequeueSettings} (pruned : Pruned node less)
    (read : requeueOfYaml? node = some requeue) : requeueOfYaml? less = some (requeueLeft requeue less) := by
  simp only [requeueOfYaml?, Option.bind_eq_bind, Option.bind_eq_some_iff, Option.some.injEq] at read
  obtain ⟨pairs, readPairs, error, readError, conflict, readConflict, rfl⟩ := read
  obtain ⟨rest, readRest, entries⟩ := Yaml.section?_of_pruned pruned readPairs
  have errorLeft := Yaml.entryOr_of_steadfast Yaml.steadfast_word64? (entries _ (by simp)) readError
  have conflictLeft := Yaml.entryOr_of_steadfast Yaml.steadfast_word64? (entries _ (by simp)) readConflict
  simp [requeueOfYaml?, readRest, errorLeft, conflictLeft, Yaml.lookup_of_section? readRest, requeueLeft]

/-- What is left of an image: it stays as long as both parts of it are there. -/
def imageLeft? (image : ImageSettings) (node : Yaml) : Option ImageSettings :=
  if (node.field? "repository").isSome ∧ (node.field? "tag").isSome then some image else none

theorem imageOfYaml?_of_pruned {image : ImageSettings} (pruned : Pruned node less)
    (read : imageOfYaml? node = some image) : imageOfYaml? less = imageLeft? image less := by
  simp only [imageOfYaml?, Option.bind_eq_bind, Option.bind_eq_some_iff, Option.some.injEq] at read
  obtain ⟨pairs, readPairs, repository, ⟨_, there, readRepository⟩, tag, ⟨_, thereTag, readTag⟩, rfl⟩ := read
  obtain ⟨rest, readRest, entries⟩ := Yaml.section?_of_pruned pruned readPairs
  have partLeft : ∀ {key : String} {part : Yaml} {text : String}, key ∈ ["repository", "tag"] →
      pairs.lookup key = some part → part.text? = some text →
      (rest.lookup key).bind Yaml.text? = if (less.field? key).isSome then some text else none := by
    intro key part text isKnown there readPart
    rw [← Yaml.lookup_of_section? readRest]
    rcases entries key isKnown with gone | ⟨_, lessPart, same, left, prunedPart⟩
    · simp [gone]
    · cases there.symm.trans same
      simp [left, Yaml.steadfast_text? _ _ _ prunedPart readPart]
  simp only [imageOfYaml?, Option.bind_eq_bind, readRest, Option.bind_some,
    partLeft (by simp) there readRepository, partLeft (by simp) thereTag readTag, imageLeft?]
  cases (less.field? "repository").isSome <;> cases (less.field? "tag").isSome <;> rfl

/-- What is left of the settings of the runner. -/
def runnerLeft? (runner : RunnerSettings) (node : Yaml) : Option RunnerSettings :=
  ((node.field? "image").elim (some {}) (imageLeft? runner.image)).map fun image =>
    { image
      imagePullSecrets :=
        kept (node.field? "imagePullSecrets") runner.imagePullSecrets ({} : RunnerSettings).imagePullSecrets
      cacheMountPath :=
        kept (node.field? "cacheMountPath") runner.cacheMountPath ({} : RunnerSettings).cacheMountPath }

theorem runnerOfYaml?_of_pruned {runner : RunnerSettings} (pruned : Pruned node less)
    (read : runnerOfYaml? node = some runner) : runnerOfYaml? less = runnerLeft? runner less := by
  simp only [runnerOfYaml?, Option.bind_eq_bind, Option.bind_eq_some_iff, Option.some.injEq] at read
  obtain ⟨pairs, readPairs, image, readImage, secrets, readSecrets, mount, readMount, rfl⟩ := read
  obtain ⟨rest, readRest, entries⟩ := Yaml.section?_of_pruned pruned readPairs
  have imageLeft := Yaml.entryOr_of_pruned imageOfYaml?_of_pruned (entries _ (by simp)) readImage
  have secretsLeft := Yaml.entryOr_of_steadfast Yaml.steadfast_texts? (entries _ (by simp)) readSecrets
  have mountLeft := Yaml.entryOr_of_steadfast Yaml.steadfast_text? (entries _ (by simp)) readMount
  simp only [runnerOfYaml?, Option.bind_eq_bind, readRest, Option.bind_some, imageLeft, secretsLeft, mountLeft,
    Yaml.lookup_of_section? readRest, runnerLeft?]
  exact (Option.map_eq_bind ..).symm

end Sections

/-! ### Documents from which keys were removed -/

/-- The document has an image, but not both parts of it. -/
def HalvesImage (document : Yaml) : Prop :=
  (document.at? ["runner", "image"]).isSome ∧
    ¬((document.at? ["runner", "image", "repository"]).isSome ∧ (document.at? ["runner", "image", "tag"]).isSome)

section Documents

variable {whole smaller : Yaml} {settings fewer : Settings}

theorem ofYaml?_of_pruned (pruned : Pruned whole smaller) (read : ofYaml? whole = some settings) :
    ofYaml? smaller = ((smaller.field? "runner").elim (some {}) (runnerLeft? settings.runner)).map fun runner =>
      { runner
        cache := (smaller.field? "cache").elim {} (cacheLeft settings.cache)
        requeue := (smaller.field? "requeue").elim {} (requeueLeft settings.requeue) } := by
  simp only [ofYaml?, Option.bind_eq_bind, Option.bind_eq_some_iff, Option.some.injEq] at read
  obtain ⟨pairs, readPairs, runner, readRunner, cache, readCache, requeue, readRequeue, rfl⟩ := read
  obtain ⟨rest, readRest, entries⟩ := Yaml.section?_of_pruned pruned readPairs
  have runnerRemains := Yaml.entryOr_of_pruned runnerOfYaml?_of_pruned (entries _ (by simp)) readRunner
  have cacheRemains := Yaml.entryOr_of_pruned cacheOfYaml?_of_pruned (entries _ (by simp)) readCache
  have requeueRemains := Yaml.entryOr_of_pruned requeueOfYaml?_of_pruned (entries _ (by simp)) readRequeue
  simp only [ofYaml?, Option.bind_eq_bind, readRest, Option.bind_some, runnerRemains, cacheRemains, requeueRemains,
    Yaml.lookup_of_section? readRest]
  cases smaller.field? "cache" <;> cases smaller.field? "requeue" <;> exact (Option.map_eq_bind ..).symm

/-- What is left of a document is refused if there is half an image in it, and only then. -/
theorem ofYaml?_eq_none_iff_of_pruned (pruned : Pruned whole smaller) (read : ofYaml? whole = some settings) :
    ofYaml? smaller = none ↔ HalvesImage smaller := by
  rw [ofYaml?_of_pruned pruned read, Option.map_eq_none_iff]
  cases runner : smaller.field? "runner" with
  | none => simp [HalvesImage, Yaml.at?, runner]
  | some node =>
      cases image : node.field? "image" with
      | none => simp [HalvesImage, Yaml.at?, runner, image, runnerLeft?]
      | some parts =>
          simp only [HalvesImage, Yaml.at?, runner, image, runnerLeft?, imageLeft?, Option.elim_some,
            Option.map_eq_none_iff, Option.bind_some, Option.isSome_some, Option.bind_fun_some, true_and]
          exact ite_eq_right_iff.trans (imp_congr_right fun _ => by simp)

/-- A part of an image that is left is there with the other one, or gone with it. -/
theorem part_of_imageLeft {runner : Yaml} {image left : ImageSettings} {key : String}
    (isPart : key ∈ ["repository", "tag"])
    (isLeft : (runner.field? "image").elim (some {}) (imageLeft? image) = some left) (part : ImageSettings → String) :
    .text (part left) = kept (runner.at? ["image", key]) (Value.text (part image)) (.text (part {})) := by
  rw [Yaml.kept_at?_cons]
  cases found : runner.field? "image" with
  | none =>
      rw [found] at isLeft
      cases isLeft
      rfl
  | some node =>
      rw [found, Option.elim_some, imageLeft?, Option.ite_none_right_eq_some] at isLeft
      obtain ⟨⟨repositoryThere, tagThere⟩, same⟩ := isLeft
      cases same
      rw [Option.elim_some, Yaml.at?_singleton, kept]
      rcases List.mem_pair.mp isPart with rfl | rfl
      · rw [if_pos repositoryThere]
      · rw [if_pos tagThere]

/-- The settings of the runner are gone with their section, and with their keys in it. -/
theorem values_of_runnerLeft {runner left : RunnerSettings}
    (isLeft : (smaller.field? "runner").elim (some {}) (runnerLeft? runner) = some left) :
    .text left.image.repository =
        kept (smaller.at? Key.repository.path) (Value.text runner.image.repository) (value {} .repository) ∧
      .text left.image.tag = kept (smaller.at? Key.tag.path) (Value.text runner.image.tag) (value {} .tag) ∧
      .texts left.imagePullSecrets =
        kept (smaller.at? Key.imagePullSecrets.path) (Value.texts runner.imagePullSecrets)
          (value {} .imagePullSecrets) ∧
      .text left.cacheMountPath =
        kept (smaller.at? Key.cacheMountPath.path) (Value.text runner.cacheMountPath) (value {} .cacheMountPath) := by
  simp only [Key.path, Yaml.kept_at?_cons smaller]
  cases found : smaller.field? "runner" with
  | none =>
      rw [found] at isLeft
      cases isLeft
      exact ⟨rfl, rfl, rfl, rfl⟩
  | some node =>
      rw [found] at isLeft
      obtain ⟨image, imageIs, rfl⟩ := Option.map_eq_some_iff.mp isLeft
      simp only [Option.elim_some, Yaml.at?_singleton]
      refine ⟨part_of_imageLeft (by simp) imageIs ImageSettings.repository,
        part_of_imageLeft (by simp) imageIs ImageSettings.tag, ?_, ?_⟩
      · exact Yaml.apply_kept _ Value.texts _ _
      · exact Yaml.apply_kept _ Value.text _ _

/-- In what is left of a document every setting whose key is there is as it was, and every other one has its default. -/
theorem value_of_pruned (pruned : Pruned whole smaller) (read : ofYaml? whole = some settings)
    (readLess : ofYaml? smaller = some fewer) (key : Key) :
    fewer.value key = kept (smaller.at? key.path) (settings.value key) (({} : Settings).value key) := by
  rw [ofYaml?_of_pruned pruned read, Option.map_eq_some_iff] at readLess
  obtain ⟨runner, runnerIs, rfl⟩ := readLess
  obtain ⟨repository, tag, secrets, mount⟩ := values_of_runnerLeft runnerIs
  cases key with
  | repository => exact repository
  | tag => exact tag
  | imagePullSecrets => exact secrets
  | cacheMountPath => exact mount
  | defaultSize =>
      rw [Key.path, Yaml.kept_at?_cons]
      cases smaller.field? "cache" with
      | none => rfl
      | some node =>
          simp only [Option.elim_some, Yaml.at?_singleton]
          exact Yaml.apply_kept _ Value.text _ _
  | errorSeconds =>
      rw [Key.path, Yaml.kept_at?_cons]
      cases smaller.field? "requeue" with
      | none => rfl
      | some node =>
          simp only [Option.elim_some, Yaml.at?_singleton]
          exact Yaml.apply_kept _ Value.seconds _ _
  | conflictSeconds =>
      rw [Key.path, Yaml.kept_at?_cons]
      cases smaller.field? "requeue" with
      | none => rfl
      | some node =>
          simp only [Option.elim_some, Yaml.at?_singleton]
          exact Yaml.apply_kept _ Value.seconds _ _

/-! ### Usable settings -/

theorem fault?_eq_none_iff : settings.fault? = none ↔
    Blank.isEmpty settings.runner.image.repository = false ∧ Blank.isEmpty settings.runner.image.tag = false ∧
      isAbsolute settings.runner.cacheMountPath = true ∧ Blank.isEmpty settings.cache.defaultSize = false := by
  unfold fault? ImageSettings.isConfigured
  cases Blank.isEmpty settings.runner.image.repository <;> cases Blank.isEmpty settings.runner.image.tag <;>
    cases isAbsolute settings.runner.cacheMountPath <;> cases Blank.isEmpty settings.cache.defaultSize <;> simp

/-- Settings each of which is one of usable settings, or a default, are usable. -/
theorem fault?_eq_none_of_value {others : Settings} (usable : others.fault? = none)
    (values : ∀ key, settings.value key = others.value key ∨ settings.value key = ({} : Settings).value key) :
    settings.fault? = none := by
  have usableDefault : ({} : Settings).fault? = none := by decide
  rw [fault?_eq_none_iff] at usable usableDefault ⊢
  have fromEither : ∀ {text other default : String} {check : String → Bool} {passes : Bool},
      Value.text text = .text other ∨ Value.text text = .text default → check other = passes →
        check default = passes → check text = passes := by
    rintro text other default check passes (⟨⟨⟩⟩ | ⟨⟨⟩⟩) passed passedDefault
    · exact passed
    · exact passedDefault
  exact ⟨fromEither (values .repository) usable.1 usableDefault.1,
    fromEither (values .tag) usable.2.1 usableDefault.2.1,
    fromEither (values .cacheMountPath) usable.2.2.1 usableDefault.2.2.1,
    fromEither (values .defaultSize) usable.2.2.2 usableDefault.2.2.2⟩

/-- What becomes of a document that is left when keys were removed from one that gives these settings. -/
structure Lessened (settings : Settings) (smaller : Yaml) : Prop where
  /-- Without half an image it is accepted: a setting whose key is there is as it was, and every other one has its
  default; and a file with this document is not discarded. -/
  usable : ¬HalvesImage smaller → ∃ fewer, ofDocument smaller = .ok fewer ∧
    (∀ key, fewer.value key = if (smaller.at? key.path).isSome then settings.value key else ({} : Settings).value key) ∧
    ∀ text, Yaml.ofText? text = some smaller → ofText text = .ok fewer ∧
      ∀ files path, Files.readText files path = .ok text → load files path = fewer
  /-- With half an image it is refused, and a file with this document is discarded with all its settings. -/
  discarded : HalvesImage smaller → ofDocument smaller = .error .malformed ∧
    ∀ text, Yaml.ofText? text = some smaller → ofText text = .error .malformed ∧
      ∀ files path, Files.readText files path = .ok text → load files path = {}

theorem ofText_of_ofText? {text : String} {document : Yaml} (read : Yaml.ofText? text = some document) :
    ofText text = ofDocument document := by
  rw [ofText, read]

theorem ofFile_of_readText {files : FileTree} {path text : String} (read : Files.readText files path = .ok text) :
    ofFile files path = ofText text := by
  rw [ofFile, read]

theorem ofDocument_eq_ok_iff {document : Yaml} :
    ofDocument document = .ok settings ↔ ofYaml? document = some settings ∧ settings.fault? = none := by
  unfold ofDocument
  cases ofYaml? document with
  | none => simp
  | some read =>
      simp only [Option.some.injEq]
      constructor
      · intro accepted
        split at accepted
        · cases accepted
        · rename_i usable
          cases accepted
          exact ⟨rfl, usable⟩
      · rintro ⟨rfl, usable⟩
        rw [usable]

/-- Whatever keys are removed from a document that gives settings, the others keep their settings, unless half an
image is left. -/
theorem lessened_of_pruned (accepted : ofDocument whole = .ok settings) (pruned : Pruned whole smaller) :
    Lessened settings smaller := by
  obtain ⟨read, usable⟩ := ofDocument_eq_ok_iff.mp accepted
  have refused := ofYaml?_eq_none_iff_of_pruned pruned read
  constructor
  case usable =>
    intro noHalf
    obtain ⟨fewer, readLess⟩ := Option.ne_none_iff_exists'.mp (mt refused.mp noHalf)
    have values := value_of_pruned pruned read readLess
    have usableLess : fewer.fault? = none := by
      refine fault?_eq_none_of_value usable fun key => ?_
      rw [values key, kept]
      exact ite_eq_or_eq _ _ _
    have acceptedLess := ofDocument_eq_ok_iff.mpr ⟨readLess, usableLess⟩
    refine ⟨fewer, acceptedLess, values, fun text readText => ?_⟩
    have given : ofText text = .ok fewer := (ofText_of_ofText? readText).trans acceptedLess
    refine ⟨given, fun files path readFile => ?_⟩
    rw [load, ofFile_of_readText readFile, given]
  case discarded =>
    intro half
    have refusedLess : ofDocument smaller = .error .malformed := by
      rw [ofDocument, refused.mpr half]
    refine ⟨refusedLess, fun text readText => ?_⟩
    have given : ofText text = .error .malformed := (ofText_of_ofText? readText).trans refusedLess
    refine ⟨given, fun files path readFile => ?_⟩
    rw [load, ofFile_of_readText readFile, given]

end Documents

/-! ### Examples of documents -/

/-- A section with these keys. -/
def sectionOf (entries : List (String × Yaml)) : Yaml :=
  .mapping (entries.map fun entry => (.scalar entry.1 .plain none, entry.2))

/-- A section with the size of caches. -/
def cacheSection : String × Yaml :=
  ("cache", sectionOf [("defaultSize", .scalar "2Gi" .plain none)])

/-- A document with an image of these parts, and with a size of caches. -/
def imageAndSize (parts : List (String × Yaml)) : Yaml :=
  sectionOf [("runner", sectionOf [("image", sectionOf parts)]), cacheSection]

/-- The repository of an image. -/
def registryRunner : String × Yaml :=
  ("repository", .scalar "registry.local/runner" .plain none)

/-- A document with a whole image. -/
def wholeImage : Yaml :=
  imageAndSize [registryRunner, ("tag", .scalar "1.9.5" .plain none)]

/-- The same document without the tag of the image. -/
def untagged : Yaml :=
  imageAndSize [registryRunner]

/-- The settings of the document with a whole image. -/
def wholeImageSettings : Settings where
  runner := { image := { repository := "registry.local/runner", tag := "1.9.5" } }
  cache := { defaultSize := "2Gi" }

theorem ofDocument_wholeImage : ofDocument wholeImage = .ok wholeImageSettings := by decide

/-- The document without its runner keeps the size of caches. -/
theorem lessened_runnerless :
    ofDocument wholeImage = .ok wholeImageSettings ∧ Pruned wholeImage (sectionOf [cacheSection]) ∧
      Lessened wholeImageSettings (sectionOf [cacheSection]) :=
  have pruned : Pruned wholeImage (sectionOf [cacheSection]) := .mapping (.removed (.kept .same .nil))
  ⟨ofDocument_wholeImage, pruned, lessened_of_pruned ofDocument_wholeImage pruned⟩

/-- Without the tag alone the same document is refused, and a file with it gives the default size of caches in place of
the size that is there. -/
theorem discarded_untagged :
    ofDocument wholeImage = .ok wholeImageSettings ∧ Pruned wholeImage untagged ∧
      (untagged.at? Key.defaultSize.path).isSome ∧
      ofDocument untagged = .error .malformed ∧
      ∀ files path text, Files.readText files path = .ok text → Yaml.ofText? text = some untagged →
        (load files path).value .defaultSize ≠ wholeImageSettings.value .defaultSize := by
  have pruned : Pruned wholeImage untagged :=
    .mapping (.kept (.mapping (.kept (.mapping (.kept .same (.removed .nil))) .nil)) (.kept .same .nil))
  have refused : ofDocument untagged = .error .malformed := by decide
  refine ⟨ofDocument_wholeImage, pruned, by decide, refused, fun files path text readFile readText => ?_⟩
  rw [load, ofFile_of_readText readFile, ofText_of_ofText? readText, refused]
  decide

end Turnstile.Settings
