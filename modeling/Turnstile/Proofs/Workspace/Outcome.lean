/-
Module: Turnstile.Proofs.Workspace.Outcome
Purpose: What the parts of a reconciliation of a workspace make of a cluster if nothing fails and nobody comes between.
Main exports: Workspace.surveys, Workspace.lists, Attempt.answered_ensure, Workspace.fits_dependents,
  Workspace.answer_statusRequest
-/
import Turnstile.Proofs.Cluster.Answered
import Turnstile.Proofs.Cluster.Report
import Turnstile.Proofs.Workspace.Requests

/-!
The lookup of the prerequisites and the list of the runs make nothing of a cluster.  An object that is ensured is left
as it is if there is one, and created otherwise.  A status that is written for the stored version is stored.
-/

namespace Turnstile

open Attempt Cluster

variable {α β : Type}

/-! ### Attempts that succeed -/

namespace Attempt

/-- An attempt that succeeds has succeeded in its first part. -/
theorem of_answered_bind {attempt : Attempt α} {next : α → Attempt β} {cluster final : Cluster} {value : β}
    (succeeds : answered (attempt >>= next) cluster = (final, .ok value)) :
    ∃ middle given, answered attempt cluster = (middle, .ok given) ∧
      answered (next given) middle = (final, .ok value) := by
  rw [answered_bind] at succeeds
  rcases first : answered attempt cluster with ⟨middle, failure | given⟩
  · rw [first] at succeeds
    cases succeeds
  · rw [first] at succeeds
    exact ⟨middle, given, rfl, succeeds⟩

/-- An attempt goes on from where its first part succeeds. -/
theorem answered_bind_of_ok {attempt : Attempt α} {next : α → Attempt β} {cluster middle : Cluster} (given : α)
    (first : answered attempt cluster = (middle, .ok given)) :
    answered (attempt >>= next) cluster = answered (next given) middle := by
  rw [answered_bind, first]

variable {key : Key} {desired object : Json} {cluster next : Cluster}

/-- A request that was answered well was sent. -/
theorem isAddressed_of_answered {decode : Json → Option α} {request : Request} {value : α}
    (succeeds : answered (require decode request) cluster = (next, .ok value)) :
    Program.isAddressed request = true := by
  cases addressed : Program.isAddressed request with
  | true => rfl
  | false =>
      have unsent : Program.ask request = .done (.error .unanswered) := by
        rw [Program.ask, addressed]
        rfl
      have fails : answered (require decode request) cluster = (cluster, .error (.api .unanswered)) := by
        unfold require Program.read
        rw [unsent]
        rfl
      rw [fails] at succeeds
      cases succeeds

/-- Ensuring an object replaces nothing. -/
theorem find?_of_answered_ensure {other : Key} (ensured : answered (ensure key desired) cluster = (next, .ok ()))
    (stored : cluster.find? other = some object) : next.find? other = some object := by
  have uses : Uses (fun request => request = .get key ∨
      request = .create key.kind key.namespaceName desired) (ensure key desired) :=
    uses_ensure (Or.inl rfl) (Or.inr rfl)
  have kept := Program.Uses.answered uses (fun cluster => cluster.find? other = some object) ?_ stored
  · rw [show Program.answered (ensure key desired) cluster = (next, .ok ()) from ensured] at kept
    exact kept
  · rintro cluster request stored (rfl | rfl)
    · exact stored
    · exact (effect_answer cluster _).find?_of_create stored

/-- An object that cannot be addressed or read is not ensured. -/
theorem of_answered_ensure (succeeds : answered (ensure key desired) cluster = (next, .ok ())) :
    key.name.isEmpty = false ∧ ∀ object, cluster.find? key = some object → key.kind.fits object = true := by
  cases unnamed : key.name.isEmpty with
  | true =>
      have unsent : Program.ask (.get key) = .done (.error .unanswered) := by
        simp [Program.ask, Program.isAddressed, Request.verb, Request.key?, unnamed]
      have fails : answered (ensure key desired) cluster = (cluster, .error (.api .unanswered)) := by
        unfold ensure Program.read
        rw [unsent]
        rfl
      rw [fails] at succeeds
      cases succeeds
  | false =>
      refine ⟨rfl, fun object stored => ?_⟩
      have addressed : Program.isAddressed (.get key) = true := Program.isAddressed_of_key? rfl unnamed
      obtain ⟨middle, present, looked, _⟩ := of_answered_bind succeeds
      rw [answered_ofReply, Program.answered_bind, Program.answered_read _ cluster addressed] at looked
      cases fits : key.kind.fits object with
      | true => rfl
      | false =>
          simp only [Cluster.answer, stored, Option.elim, Program.readable, Program.ofKind, fits] at looked
          cases looked

/-- An object that can be read is left as it is. -/
theorem answered_ensure_of_some (named : key.name.isEmpty = false) (stored : cluster.find? key = some object)
    (fits : key.kind.fits object = true) : answered (ensure key desired) cluster = (cluster, .ok ()) := by
  have addressed : Program.isAddressed (.get key) = true := Program.isAddressed_of_key? rfl named
  refine answered_bind_of_ok true ?_
  rw [answered_ofReply, Program.answered_bind, Program.answered_read _ cluster addressed]
  simp only [Cluster.answer, stored, Option.elim, Program.readable, Program.ofKind, fits]
  rfl

/-- An object that is absent is created. -/
theorem answered_ensure_of_none (named : key.name.isEmpty = false)
    (creates : Request.createdKey key.kind key.namespaceName desired = key) (absent : cluster.find? key = none)
    (fits : key.kind.fits (kept key (cluster.version + 1) (identified key desired)) = true) :
    answered (ensure key desired) cluster = (cluster.write key (identified key desired), .ok ()) := by
  have addressed : Program.isAddressed (.get key) = true := Program.isAddressed_of_key? rfl named
  have looked : answered (ensure key desired) cluster = answered (createUnlessPresent key desired) cluster := by
    refine answered_bind_of_ok false ?_
    rw [answered_ofReply, Program.answered_bind, Program.answered_read _ cluster addressed]
    simp only [Cluster.answer, absent, Option.elim, Program.readable]
    rfl
  have sent : Program.isAddressed (.create key.kind key.namespaceName desired) = true := rfl
  rw [looked, createUnlessPresent, answered_ofReply, Program.answered_bind, Program.answered_read _ cluster sent,
    Cluster.answer_create creates absent]
  simp only [Cluster.written, Program.readable, Program.ofKind, fits, if_true, Option.elim]
  rfl

end Attempt

namespace Workspace

variable {workspace : Workspace} {settings : Settings} {space now : String} {owner : OwnerReference}
  {cluster next : Cluster}

/-! ### What is looked up -/

/-- The prerequisite of this name if the cluster lacks it. -/
def misses? (kind : Kind) (space : String) (name : Option String) (cluster : Cluster) :
    Except ReconcileFailure (Option String) :=
  match name with
  | none => .ok none
  | some name =>
    (cluster.look (Program.ofKind kind) ⟨kind, space, name⟩).map fun found =>
      if found.isSome then none else some (kind.word ++ "/" ++ name)

/-- The prerequisites that the cluster lacks. -/
def surveys (workspace : Workspace) (space : String) (cluster : Cluster) : Except ReconcileFailure (List String) := do
  let account ← misses? .serviceAccount space workspace.spec.serviceAccountName cluster
  let secret ← misses? .secret space workspace.spec.secretName cluster
  return account.toList ++ secret.toList

theorem answered_missing? (kind : Kind) (space : String) (name : Option String) (cluster : Cluster) :
    answered (missing? kind space name) cluster = (cluster, misses? kind space name cluster) := by
  cases name with
  | none => rfl
  | some name =>
      simp only [missing?, misses?]
      rw [answered_bind, answered_find?]
      rcases cluster.look (Program.ofKind kind) ⟨kind, space, name⟩ with failure | found <;> rfl

/-- Looking for the prerequisites makes nothing of a cluster. -/
theorem answered_missingPrerequisites (workspace : Workspace) (space : String) (cluster : Cluster) :
    answered (workspace.missingPrerequisites space) cluster = (cluster, workspace.surveys space cluster) := by
  unfold missingPrerequisites surveys
  rw [answered_bind, answered_missing?]
  rcases misses? .serviceAccount space workspace.spec.serviceAccountName cluster with failure | account
  · rfl
  · simp only
    rw [answered_bind, answered_missing?]
    rcases misses? .secret space workspace.spec.secretName cluster with failure | secret <;> rfl

/-- What is missing depends on the prerequisites alone. -/
theorem surveys_congr (same : ∀ key ∈ workspace.prerequisites space, next.find? key = cluster.find? key) :
    workspace.surveys space next = workspace.surveys space cluster := by
  have misses {kind : Kind} {name : Option String}
      (wanted : ∀ given, name = some given → ⟨kind, space, given⟩ ∈ workspace.prerequisites space) :
      misses? kind space name next = misses? kind space name cluster := by
    cases name with
    | none => rfl
    | some given => simp only [misses?, look_congr (same _ (wanted given rfl))]
  unfold surveys
  rw [misses (fun given isName => by simp [prerequisites, isName]),
    misses (fun given isName => by simp [prerequisites, isName])]

/-- The names of the labelled runs of a cluster that are not over. -/
def lists (workspace : Workspace) (space : String) (cluster : Cluster) : Except ReconcileFailure (List String) :=
  (Json.list? Run.ofJson? (.array
    ((cluster.listed .run space (.labelled Run.workspaceLabel workspace.name)).map Prod.snd))).elim
      (.error (.api .unanswered)) fun runs => .ok (pendingNames runs)

theorem lists_congr
    (same : next.listed .run space (.labelled Run.workspaceLabel workspace.name) =
      cluster.listed .run space (.labelled Run.workspaceLabel workspace.name)) :
    workspace.lists space next = workspace.lists space cluster := by
  rw [lists, lists, same]

/-- Listing the runs makes nothing of a cluster. -/
theorem answered_pendingRuns (workspace : Workspace) (space : String) (cluster : Cluster) :
    answered (workspace.pendingRuns space) cluster = (cluster, workspace.lists space cluster) := by
  have addressed : Program.isAddressed (.list .run space (.labelled Run.workspaceLabel workspace.name)) = true := rfl
  have items : Program.itemsOf Run.ofJson? (cluster.listAnswer .run
      (cluster.listed .run space (.labelled Run.workspaceLabel workspace.name))) =
        Json.list? Run.ofJson? (.array
          ((cluster.listed .run space (.labelled Run.workspaceLabel workspace.name)).map Prod.snd)) := rfl
  unfold pendingRuns lists
  rw [answered_bind, answered_require _ cluster addressed]
  simp only [Cluster.answer, Program.readable, items]
  cases Json.list? Run.ofJson? (.array
    ((cluster.listed .run space (.labelled Run.workspaceLabel workspace.name)).map Prod.snd)) <;> rfl

/-! ### What is created -/

/-- The objects that a workspace needs can be read once they are created. -/
theorem fits_dependents (known : workspace.controllerReference? = some owner) {resource : Key × Json}
    (needed : resource ∈ workspace.dependents settings space owner) (version : Nat) :
    resource.1.kind.fits (kept resource.1 version (identified resource.1 resource.2)) = true := by
  obtain ⟨name, _, uid, _, rfl⟩ : ∃ name, workspace.metadata.name = some name ∧ ∃ uid,
      workspace.metadata.uid = some uid ∧
        owner = { apiVersion, kind, name, uid, controller := some true, blockOwnerDeletion := none } := by
    simp only [controllerReference?, Metadata.controllerReference?, Option.bind_eq_bind,
      Option.bind_eq_some_iff] at known
    obtain ⟨name, named, uid, identified, same⟩ := known
    exact ⟨name, named, uid, identified, (Option.some.inj same).symm⟩
  simp only [dependents, List.mem_cons, List.not_mem_nil, or_false] at needed
  rcases needed with rfl | rfl | rfl
  · simp only [claim]
    cases workspace.spec.cache.storageClass with
    | none => rfl
    | some storageClass => rfl
  · rfl
  · rfl

/-! ### What is written -/

/-- A status is written for the workspace that is stored, and nothing else is changed. -/
theorem answer_statusRequest (dated : cluster.Dated) (stored : cluster.workspace? space workspace.name = some workspace)
    (status : WorkspaceStatus) :
    ∃ object, cluster.answer (workspace.statusRequest space status) =
        cluster.written ⟨.workspace, space, workspace.name⟩ object ∧
      ofJson? (kept ⟨.workspace, space, workspace.name⟩ (cluster.version + 1) object) =
        some (workspace.reported space (toString (cluster.version + 1)) status) := by
  obtain ⟨object, found, read⟩ := find?_of_workspace? stored
  obtain ⟨version, given, _, isKept⟩ := dated.dated _ object found
  obtain ⟨members, isObject⟩ := kept_eq_object ⟨.workspace, space, workspace.name⟩ version given
  have fresh : isStale object (statusPatch workspace.metadata status.toJson) = false := by
    have reached : metadataText? object "resourceVersion" = some (toString version) := by
      rw [isKept, version_kept]
    rw [isStale_statusPatch ((dated.version_of_workspace found read).trans reached) reached]
    exact bne_self_eq_false _
  refine ⟨object.mergePatch (statusPart (statusPatch workspace.metadata status.toJson)), ?_, ?_⟩
  · simp only [statusRequest, Cluster.answer, Cluster.patched, found, fresh]
    rfl
  · rw [isKept, isObject] at read ⊢
    exact ofJson?_kept_report read status ⟨.workspace, space, workspace.name⟩ (cluster.version + 1) workspace.metadata

/-- Once a status is written the workspace is stored with it. -/
theorem workspace?_statusRequest (dated : cluster.Dated)
    (stored : cluster.workspace? space workspace.name = some workspace) (status : WorkspaceStatus) :
    (cluster.answer (workspace.statusRequest space status)).1.workspace? space workspace.name =
      some (workspace.reported space (toString (cluster.version + 1)) status) := by
  obtain ⟨object, written, read⟩ := answer_statusRequest dated stored status
  rw [written]
  exact (congrArg (Option.bind · ofJson?) (find?_write_self cluster _ object)).trans read

end Workspace

end Turnstile
