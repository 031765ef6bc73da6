/-
Module: Turnstile.Proofs.RoundTrip
Purpose: The resources keep what they say on the way to the wire and back.
Main exports: Fields.Alike, RoundTrips, resources_roundTrip
-/
import Turnstile.Proofs.Status

/-!
A record knows the keys of its members and what a missing one stands for: some have to be there, some stand for
a value, and some may be missing or null.  Two objects that give the same for every known key are alike, whatever
the order of their members and whatever else they hold.  Writing followed by reading is the identity on values,
alike objects are read alike, and what was read and written again stays as it is.
-/

namespace Turnstile

/-- What a record makes of a member that is missing. -/
inductive Absence where
  /-- The member has to be there. -/
  | rejected
  /-- A missing member stands for this value. -/
  | standsFor (json : Json)
  /-- The member may be missing, and null says the same. -/
  | unset

/-- The keys of a record on the wire. -/
abbrev Fields : Type :=
  List (String × Absence)

namespace Fields

/-- What an object gives for a key: a missing member gives what it stands for, and null gives nothing for a member
that may be unset. -/
def given? (fields : Fields) (members : List (String × Json)) (key : String) : Option Json :=
  match fields.lookup key, members.lookup key with
  | some (.standsFor json), none => some json
  | some .unset, some .null => none
  | _, found => found

/-- Two objects give the same for every key of the record. -/
def Alike (fields : Fields) (members others : List (String × Json)) : Prop :=
  ∀ key ∈ fields.map Prod.fst, fields.given? members key = fields.given? others key

variable {α : Type} {fields : Fields} {members others : List (String × Json)}

theorem given?_of_alike (alike : fields.Alike members others) {key : String} {absence : Absence}
    (field : fields.lookup key = some absence) : fields.given? members key = fields.given? others key := by
  refine alike key ?_
  by_contra unknown
  rw [List.lookup_eq_none_iff.mpr] at field
  · cases field
  · intro member found
    have other : key ≠ member.1 := by
      rintro rfl
      exact unknown (List.mem_map_of_mem found)
    simp [other]

theorem required?_of_alike (alike : fields.Alike members others) (place : Nat) (key : String)
    (decode : Json → Option α) (field : fields.lookup key = some .rejected) :
    (Record.named members).required? place key decode = (Record.named others).required? place key decode := by
  have viaGiven (document : List (String × Json)) :
      (Record.named document).required? place key decode = (fields.given? document key).bind decode := by
    simp only [Record.required?, Record.value?, given?, field]
  rw [viaGiven, viaGiven, given?_of_alike alike field]

theorem withDefault?_of_alike (alike : fields.Alike members others) (place : Nat) (key : String) (default : α)
    (decode : Json → Option α) {json : Json} (field : fields.lookup key = some (.standsFor json))
    (read : decode json = some default) :
    (Record.named members).withDefault? place key default decode =
      (Record.named others).withDefault? place key default decode := by
  have viaGiven (document : List (String × Json)) :
      (Record.named document).withDefault? place key default decode =
        (fields.given? document key).bind decode := by
    simp only [Record.withDefault?, Record.value?, given?, field]
    cases document.lookup key with
    | none => exact read.symm
    | some value => rfl
  rw [viaGiven, viaGiven, given?_of_alike alike field]

theorem optional?_of_alike (alike : fields.Alike members others) (place : Nat) (key : String)
    (decode : Json → Option α) (field : fields.lookup key = some .unset) :
    (Record.named members).optional? place key decode = (Record.named others).optional? place key decode := by
  have viaGiven (document : List (String × Json)) :
      (Record.named document).optional? place key decode =
        (fields.given? document key).elim (some none) fun json => (decode json).map some := by
    simp only [Record.optional?, Record.withDefault?, Record.value?, given?, field]
    cases document.lookup key with
    | none => rfl
    | some value => cases value <;> rfl
  rw [viaGiven, viaGiven, given?_of_alike alike field]

end Fields

/-- An optional text is read as it was written. -/
theorem Json.optional?_string (text : String) : Json.optional? Json.text? (.string text) = some (some text) :=
  rfl

/-- Writing and reading fit together: a value is read as it was written, objects that are alike are read alike,
and a document that was read and written again says the same as before and stays as it is from then on. -/
structure RoundTrips {α : Type} (fields : Fields) (encode : α → Json) (decode : Json → Option α) : Prop where
  read : ∀ value, decode (encode value) = some value
  alike : ∀ members others, fields.Alike members others → decode (.object members) = decode (.object others)
  settled : ∀ json written, (decode json).map encode = some written →
    decode written = decode json ∧ (decode written).map encode = some written

/-- What is read as it was written is settled once it was written. -/
theorem RoundTrips.of_read {α : Type} {fields : Fields} {encode : α → Json} {decode : Json → Option α}
    (read : ∀ value, decode (encode value) = some value)
    (alike : ∀ members others, fields.Alike members others → decode (.object members) = decode (.object others)) :
    RoundTrips fields encode decode := by
  refine ⟨read, alike, ?_⟩
  intro json written rewritten
  obtain ⟨value, decoded, rfl⟩ := Option.map_eq_some_iff.mp rewritten
  rw [read value, decoded]
  exact ⟨rfl, rfl⟩

namespace Condition

/-- The members of a condition. -/
def fields : Fields :=
  [("type", .rejected), ("status", .rejected), ("lastTransitionTime", .unset), ("reason", .unset),
   ("message", .unset)]

theorem roundTrips : RoundTrips fields toJson ofJson? := by
  refine RoundTrips.of_read ofJson?_toJson ?_
  intro members others alike
  have type := Fields.required?_of_alike alike 0 "type" Json.text? rfl
  have status := Fields.required?_of_alike alike 1 "status" Json.text? rfl
  have time := Fields.optional?_of_alike alike 2 "lastTransitionTime" Json.text? rfl
  have reason := Fields.optional?_of_alike alike 3 "reason" Json.text? rfl
  have message := Fields.optional?_of_alike alike 4 "message" Json.text? rfl
  simp only [ofJson?, Json.record?, Option.bind_eq_bind, Option.bind_some, type, status, time, reason, message]

end Condition

namespace Command

/-- A command is found by its name. -/
theorem parse?_name (command : Command) : parse? command.name = some command := by
  cases command <;> decide

theorem ofJson?_toJson (command : Command) : ofJson? command.toJson = some command :=
  parse?_name command

end Command

namespace RunSpec

/-- The members of what a run asks for. -/
def fields : Fields :=
  [("command", .rejected), ("args", .standsFor (.texts [])), ("configMap", .rejected),
   ("configMapKey", .standsFor (.string Run.defaultConfigMapKey)), ("handshake", .standsFor (.bool false)),
   ("handshakeTimeoutSeconds", .standsFor (.integer 10))]

/-- A word is read as it was written. -/
theorem word64?_integer (word : UInt64) : word64? (.integer word.toNat) = some word := by
  have low : (0 : Int) ≤ word.toNat := Int.natCast_nonneg _
  have high : (word.toNat : Int) ≤ 18446744073709551615 := by
    have small := word.toNat_lt
    omega
  simp [word64?, Json.intBetween?, Json.integer, Json.int?, low, high]

theorem ofJson?_toJson (spec : RunSpec) : ofJson? spec.toJson = some spec := by
  simp [toJson, ofJson?, Json.record?, Record.required?, Record.withDefault?, Record.value?, List.lookup_cons,
    Command.ofJson?_toJson, Json.texts?_texts, Json.text?, Json.bool?, word64?_integer]

theorem roundTrips : RoundTrips fields toJson ofJson? := by
  refine RoundTrips.of_read ofJson?_toJson ?_
  intro members others alike
  have command := Fields.required?_of_alike alike 0 "command" Command.ofJson? rfl
  have args := Fields.withDefault?_of_alike alike 1 "args" [] Json.texts? rfl rfl
  have configMap := Fields.required?_of_alike alike 2 "configMap" Json.text? rfl
  have configMapKey :=
    Fields.withDefault?_of_alike alike 3 "configMapKey" Run.defaultConfigMapKey Json.text? rfl rfl
  have handshake := Fields.withDefault?_of_alike alike 4 "handshake" false Json.bool? rfl rfl
  have timeout := Fields.withDefault?_of_alike alike 5 "handshakeTimeoutSeconds" 10 word64? rfl rfl
  simp only [ofJson?, Json.record?, Option.bind_eq_bind, Option.bind_some, command, args, configMap, configMapKey,
    handshake, timeout]

-- Three members are missing and two are unknown.
example :
    ofJson? (.object [("priority", .integer 3), ("configMap", .string "run-a"), ("command", .string "plan"),
      ("args", .texts ["-lock"]), ("owner", .null)]) =
      some ⟨.plan, ["-lock"], "run-a", Run.defaultConfigMapKey, false, 10⟩ := by
  rfl

end RunSpec

namespace RunStatus

/-- The members of what is known of a run. -/
def fields : Fields :=
  [("conditions", .standsFor (.array [])), ("exitCode", .unset), ("podName", .unset)]

theorem optional?_integer (code : Int32) :
    Json.optional? exitCodeOfJson? (.integer code.toInt) = some (some code) := by
  simp only [Json.integer, Json.optional?]
  rw [← Json.integer, exitCodeOfJson?_integer, Option.map_some]

theorem ofJson?_toJson (status : RunStatus) : ofJson? status.toJson = some status := by
  rcases status with ⟨conditions, exitCode, podName⟩
  cases exitCode <;> cases podName <;>
    simp [toJson, Json.compact, ofJson?, Json.record?, Record.withDefault?, Record.optional?, Record.value?,
      List.lookup_cons, Condition.list?_listToJson, optional?_integer, Json.optional?_string]

theorem roundTrips : RoundTrips fields toJson ofJson? := by
  refine RoundTrips.of_read ofJson?_toJson ?_
  intro members others alike
  have conditions := Fields.withDefault?_of_alike alike 0 "conditions" [] (Json.list? Condition.ofJson?) rfl rfl
  have exitCode := Fields.optional?_of_alike alike 1 "exitCode" exitCodeOfJson? rfl
  have podName := Fields.optional?_of_alike alike 2 "podName" Json.text? rfl
  simp only [ofJson?, Json.record?, Option.bind_eq_bind, Option.bind_some, conditions, exitCode, podName]

end RunStatus

namespace CacheSpec

/-- The members of the settings of a cache volume. -/
def fields : Fields :=
  [("size", .standsFor (.string "1Gi")), ("storageClass", .unset)]

theorem ofJson?_toJson (cache : CacheSpec) : ofJson? cache.toJson = some cache := by
  rcases cache with ⟨size, storageClass⟩
  cases storageClass <;> rfl

theorem roundTrips : RoundTrips fields toJson ofJson? := by
  refine RoundTrips.of_read ofJson?_toJson ?_
  intro members others alike
  have size := Fields.withDefault?_of_alike alike 0 "size" "1Gi" Json.text? rfl rfl
  have storageClass := Fields.optional?_of_alike alike 1 "storageClass" Json.text? rfl
  simp only [ofJson?, Json.record?, Option.bind_eq_bind, Option.bind_some, size, storageClass]

end CacheSpec

namespace VcsSpec

/-- The members of the version control settings. -/
def fields : Fields :=
  [("repository", .unset), ("branch", .unset), ("workingDir", .unset)]

theorem ofJson?_toJson (vcs : VcsSpec) : ofJson? vcs.toJson = some vcs := by
  rcases vcs with ⟨repository, branch, workingDir⟩
  cases repository <;> cases branch <;> cases workingDir <;> rfl

theorem roundTrips : RoundTrips fields toJson ofJson? := by
  refine RoundTrips.of_read ofJson?_toJson ?_
  intro members others alike
  have repository := Fields.optional?_of_alike alike 0 "repository" Json.text? rfl
  have branch := Fields.optional?_of_alike alike 1 "branch" Json.text? rfl
  have workingDir := Fields.optional?_of_alike alike 2 "workingDir" Json.text? rfl
  simp only [ofJson?, Json.record?, Option.bind_eq_bind, Option.bind_some, repository, branch, workingDir]

end VcsSpec

namespace WorkspaceSpec

/-- The members of what a workspace asks for. -/
def fields : Fields :=
  [("cache", .standsFor (.object [])), ("serviceAccountName", .unset), ("secretName", .unset),
   ("privilegedCommands", .standsFor (.texts [])), ("vcs", .standsFor (.object []))]

theorem ofJson?_toJson (spec : WorkspaceSpec) : ofJson? spec.toJson = some spec := by
  rcases spec with ⟨cache, serviceAccountName, secretName, privilegedCommands, vcs⟩
  cases serviceAccountName <;> cases secretName <;>
    simp [toJson, Json.compact, ofJson?, Json.record?, Record.withDefault?, Record.optional?, Record.value?,
      List.lookup_cons, CacheSpec.ofJson?_toJson, VcsSpec.ofJson?_toJson, Json.texts?_texts, Json.optional?_string]

theorem roundTrips : RoundTrips fields toJson ofJson? := by
  refine RoundTrips.of_read ofJson?_toJson ?_
  intro members others alike
  have cache := Fields.withDefault?_of_alike alike 0 "cache" {} CacheSpec.ofJson? rfl rfl
  have serviceAccountName := Fields.optional?_of_alike alike 1 "serviceAccountName" Json.text? rfl
  have secretName := Fields.optional?_of_alike alike 2 "secretName" Json.text? rfl
  have privilegedCommands := Fields.withDefault?_of_alike alike 3 "privilegedCommands" [] Json.texts? rfl rfl
  have vcs := Fields.withDefault?_of_alike alike 4 "vcs" {} VcsSpec.ofJson? rfl rfl
  simp only [ofJson?, Json.record?, Option.bind_eq_bind, Option.bind_some, cache, serviceAccountName, secretName,
    privilegedCommands, vcs]

end WorkspaceSpec

namespace WorkspaceStatus

/-- The members of what is known of a workspace. -/
def fields : Fields :=
  [("queue", .standsFor (.texts [])), ("conditions", .standsFor (.array []))]

theorem ofJson?_toJson (status : WorkspaceStatus) : ofJson? status.toJson = some status := by
  simp [toJson, ofJson?, Json.record?, Record.withDefault?, Record.value?, List.lookup_cons, Json.texts?_texts,
    Condition.list?_listToJson]

theorem roundTrips : RoundTrips fields toJson ofJson? := by
  refine RoundTrips.of_read ofJson?_toJson ?_
  intro members others alike
  have queue := Fields.withDefault?_of_alike alike 0 "queue" [] Json.texts? rfl rfl
  have conditions := Fields.withDefault?_of_alike alike 1 "conditions" [] (Json.list? Condition.ofJson?) rfl rfl
  simp only [ofJson?, Json.record?, Option.bind_eq_bind, Option.bind_some, queue, conditions]

end WorkspaceStatus

/-- The resources and what they are made of are read as they were written, whatever a document leaves out, adds or
sets to null. -/
theorem resources_roundTrip :
    RoundTrips RunSpec.fields RunSpec.toJson RunSpec.ofJson? ∧
      RoundTrips RunStatus.fields RunStatus.toJson RunStatus.ofJson? ∧
      RoundTrips WorkspaceSpec.fields WorkspaceSpec.toJson WorkspaceSpec.ofJson? ∧
      RoundTrips WorkspaceStatus.fields WorkspaceStatus.toJson WorkspaceStatus.ofJson? ∧
      RoundTrips Condition.fields Condition.toJson Condition.ofJson? ∧
      RoundTrips CacheSpec.fields CacheSpec.toJson CacheSpec.ofJson? ∧
      RoundTrips VcsSpec.fields VcsSpec.toJson VcsSpec.ofJson? :=
  ⟨RunSpec.roundTrips, RunStatus.roundTrips, WorkspaceSpec.roundTrips, WorkspaceStatus.roundTrips,
    Condition.roundTrips, CacheSpec.roundTrips, VcsSpec.roundTrips⟩

end Turnstile
