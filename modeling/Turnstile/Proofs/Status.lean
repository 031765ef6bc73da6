/-
Module: Turnstile.Proofs.Status
Purpose: A status that is written by a merge patch is read as it was written.
Main exports: Json.list?_array_map, Condition.ofJson?_toJson, RunStatus.ofJson?_mergePatch,
  WorkspaceStatus.ofJson?_mergePatch
-/
import Turnstile.Proofs.Json.Members
import Turnstile.Run
import Turnstile.Workspace

/-!
A status is written by merging its wire form into the status that is there.  What the new status leaves unset
is not removed by such a patch, so the patch says what it means only where the old status had left it unset as
well.
-/

namespace Turnstile

namespace Json

/-- The member is missing or null. -/
def Lacks (json : Json) (key : String) : Prop :=
  json.get? key = none ∨ json.get? key = some .null

/-- A list whose items are read as they were written is read as it was written. -/
theorem list?_array_map {α : Type} {encode : α → Json} {decode : Json → Option α}
    (roundTrip : ∀ value, decode (encode value) = some value) (values : List α) :
    list? decode (.array (values.map encode)) = some values := by
  simp only [list?, items?, Option.bind_some]
  induction values with
  | nil => rfl
  | cons value rest inductionHypothesis =>
      simp [List.mapM_cons, roundTrip, inductionHypothesis]

/-- The values of a list are what its items are read as. -/
theorem mem_of_list? {α : Type} {decode : Json → Option α} {items : List Json} {values : List α}
    (read : list? decode (.array items) = some values) (value : α) :
    value ∈ values ↔ ∃ item ∈ items, decode item = some value := by
  simp only [list?, items?, Option.bind_some] at read
  induction items generalizing values with
  | nil =>
      cases read
      simp
  | cons item rest inductionHypothesis =>
      rw [List.mapM_cons] at read
      obtain ⟨first, firstRead, read⟩ := Option.bind_eq_some_iff.mp read
      obtain ⟨others, othersRead, same⟩ := Option.bind_eq_some_iff.mp read
      cases same
      simp [inductionHypothesis othersRead, firstRead, eq_comm]

theorem texts?_texts (values : List String) : (texts values).texts? = some values := by
  have roundTrip : ∀ text, text? (.string text) = some text := fun _ => rfl
  exact list?_array_map roundTrip values

/-- An optional member of a named record is read as none if the record lacks it. -/
theorem optional?_of_lacks {α : Type} {members : List (String × Json)} {key : String}
    (lacks : (Json.object members).Lacks key) (place : Nat) (decode : Json → Option α) :
    (Record.named members).optional? place key decode = some none := by
  unfold Record.optional? Record.withDefault? Record.value?
  rcases lacks with missing | null
  · rw [get?_object] at missing
    simp only [missing]
  · rw [get?_object] at null
    simp only [null]
    rfl

/-- An optional member of a named record is read if it is there. -/
theorem optional?_of_some {α : Type} {members : List (String × Json)} {key : String} {json : Json}
    {decode : Json → Option α} {value : α} (found : (Json.object members).get? key = some json)
    (present : json ≠ .null) (read : decode json = some value) (place : Nat) :
    (Record.named members).optional? place key decode = some (some value) := by
  rw [get?_object] at found
  simp only [Record.optional?, Record.withDefault?, Record.value?, found]
  cases json with
  | null => exact absurd rfl present
  | _ => simp only [optional?, read, Option.map_some]

/-- What is read as none from an optional member of a named record is lacking, unless null means something. -/
theorem lacks_of_optional? {α : Type} {members : List (String × Json)} {key : String} {place : Nat}
    {decode : Json → Option α} (read : (Record.named members).optional? place key decode = some none) :
    (Json.object members).Lacks key := by
  unfold Record.optional? Record.withDefault? Record.value? at read
  simp only at read
  split at read
  · rename_i missing
    exact Or.inl missing
  · rename_i json found
    cases json with
    | null => exact Or.inr found
    | _ =>
        obtain ⟨value, _, impossible⟩ := Option.map_eq_some_iff.mp read
        cases impossible

/-- What is read from an optional member of a named record is read from the member. -/
theorem some_of_optional? {α : Type} {members : List (String × Json)} {key : String} {place : Nat}
    {decode : Json → Option α} {value : α}
    (read : (Record.named members).optional? place key decode = some (some value)) :
    ∃ json, (Json.object members).get? key = some json ∧ decode json = some value := by
  unfold Record.optional? Record.withDefault? Record.value? at read
  simp only at read
  split at read
  · cases read
  · rename_i json found
    refine ⟨json, found, ?_⟩
    cases json with
    | null => cases read
    | _ =>
        obtain ⟨given, decoded, equal⟩ := Option.map_eq_some_iff.mp read
        rw [decoded, ← Option.some.inj equal]

end Json

namespace Condition

/-- A condition is read as it was written. -/
theorem ofJson?_toJson (condition : Condition) : ofJson? condition.toJson = some condition := by
  rcases condition with ⟨type, status, time, reason, message⟩
  cases time <;> cases reason <;> cases message <;> rfl

theorem list?_listToJson (conditions : List Condition) :
    (listToJson conditions).list? ofJson? = some conditions :=
  Json.list?_array_map ofJson?_toJson conditions

end Condition

/-- An exit code is read as it was written. -/
theorem exitCodeOfJson?_integer (code : Int32) : exitCodeOfJson? (.integer code.toInt) = some code := by
  have low : -2147483648 ≤ code.toInt := Int32.le_toInt code
  have high : code.toInt ≤ 2147483647 := Int.le_of_lt_add_one (Int32.toInt_lt code)
  simp [exitCodeOfJson?, Json.intBetween?, Json.integer, Json.int?, low, high]

namespace RunStatus

/-- The members that a status is written with. -/
def written (status : RunStatus) : List (String × Option Json) :=
  [("conditions", some (Condition.listToJson status.conditions)),
   ("exitCode", status.exitCode.map fun code => .integer code.toInt),
   ("podName", status.podName.map .string)]

theorem nodup_written (status : RunStatus) : (status.written.map Prod.fst).Nodup := by
  simp [written]

theorem toJson_ne_null (status : RunStatus) : status.toJson ≠ .null := by
  rw [toJson, Json.compact]
  exact Json.object_ne_null _

/-- A patch by the wire form of a status gives an object. -/
theorem mergePatch_toJson (json : Json) (status : RunStatus) :
    ∃ members, json.mergePatch status.toJson = .object members := by
  rw [toJson, Json.compact, Json.mergePatch]
  exact ⟨_, rfl⟩

/-- A status that is merged into one which lacks what the new status leaves unset is read as written. -/
theorem ofJson?_mergePatch {json : Json} {status : RunStatus}
    (coded : status.exitCode = none → json.Lacks "exitCode")
    (housed : status.podName = none → json.Lacks "podName") :
    ofJson? (json.mergePatch status.toJson) = some status := by
  have distinct := status.nodup_written
  obtain ⟨members, object⟩ := mergePatch_toJson json status
  have merged : json.mergePatch (.compact status.written) = .object members := object
  have conditions : (Json.object members).get? "conditions" = some (Condition.listToJson status.conditions) := by
    rw [← merged]
    exact Json.get?_mergePatch_compact_whole json distinct (by simp [written]) (Json.isWhole_array _)
  have exitCode : (Record.named members).optional? 1 "exitCode" exitCodeOfJson? = some status.exitCode := by
    cases code : status.exitCode with
    | none =>
        refine Json.optional?_of_lacks ?_ 1 _
        rw [← merged, Json.Lacks, Json.get?_mergePatch_compact_none json distinct (by simp [written, code])]
        exact coded code
    | some value =>
        refine Json.optional?_of_some ?_ (Json.isWhole_integer _).1 (exitCodeOfJson?_integer value) 1
        rw [← merged]
        exact Json.get?_mergePatch_compact_whole json distinct (by simp [written, code])
          (Json.isWhole_integer _)
  have podName : (Record.named members).optional? 2 "podName" Json.text? = some status.podName := by
    cases pod : status.podName with
    | none =>
        refine Json.optional?_of_lacks ?_ 2 _
        rw [← merged, Json.Lacks, Json.get?_mergePatch_compact_none json distinct (by simp [written, pod])]
        exact housed pod
    | some name =>
        have readable : Json.text? (.string name) = some name := rfl
        refine Json.optional?_of_some ?_ (Json.isWhole_string name).1 readable 2
        rw [← merged]
        exact Json.get?_mergePatch_compact_whole json distinct (by simp [written, pod])
          (Json.isWhole_string _)
  rw [Json.get?_object] at conditions
  simp [object, ofJson?, Json.record?, Record.withDefault?, Record.value?, conditions, exitCode, podName,
    Condition.list?_listToJson]

/-- A status that is read without exit code or pod name lacks them on the wire. -/
theorem lacks_of_ofJson? {json : Json} {status : RunStatus} (read : ofJson? json = some status) :
    (status.exitCode = none → json.Lacks "exitCode") ∧ (status.podName = none → json.Lacks "podName") := by
  cases json with
  | object members =>
      simp only [ofJson?, Json.record?, Option.bind_eq_bind, Option.bind_some, Option.bind_eq_some_iff,
        Option.some.injEq] at read
      obtain ⟨conditions, _, exitCode, code, podName, pod, rfl⟩ := read
      exact ⟨fun unset => Json.lacks_of_optional? (code.trans (congrArg some unset)),
        fun unset => Json.lacks_of_optional? (pod.trans (congrArg some unset))⟩
  | _ => exact ⟨fun _ => Or.inl rfl, fun _ => Or.inl rfl⟩

end RunStatus

namespace WorkspaceStatus

/-- The status of a workspace is read as it was written, whatever it is merged into. -/
theorem ofJson?_mergePatch (json : Json) (status : WorkspaceStatus) :
    ofJson? (json.mergePatch status.toJson) = some status := by
  rw [toJson]
  generalize written : [("queue", Json.texts status.queue),
    ("conditions", Condition.listToJson status.conditions)] = changes
  have distinct : (changes.map Prod.fst).Nodup := by rw [← written]; simp
  have queue : (json.mergePatch (.object changes)).get? "queue" = some (.texts status.queue) :=
    Json.get?_mergePatch_whole json distinct (by simp [← written]) (Json.isWhole_array _)
  have conditions : (json.mergePatch (.object changes)).get? "conditions" =
      some (Condition.listToJson status.conditions) :=
    Json.get?_mergePatch_whole json distinct (by simp [← written]) (Json.isWhole_array _)
  rw [Json.mergePatch] at queue conditions ⊢
  rw [Json.get?_object] at queue conditions
  simp [ofJson?, Json.record?, Record.withDefault?, Record.value?, queue, conditions, Json.texts?_texts,
    Condition.list?_listToJson]

end WorkspaceStatus

end Turnstile
