/-
Module: Turnstile.Proofs.Workspace.Convergence
Purpose: A workspace has nothing to write once it has written, and what it has written tells its health.
Main exports: Workspace.findings, Workspace.advanced_again, Workspace.infix_missingMessage, Workspace.Converging,
  Workspace.converging
-/
import Turnstile.Proofs.Condition.Retention
import Turnstile.Proofs.Workspace.Life

/-!
The next status of a workspace records the same two findings and derives the queue from the same runs whenever the
same is observed again, so it is the status that is there.  It does not matter in which order the runs are listed,
nor how often.  Nothing is assumed of the stored status: its queue may repeat names, and its conditions types.
-/

namespace Turnstile

/-- The observations show the same: the same is missing, and the same runs are pending. -/
def Observation.Matches (first second : Observation) : Prop :=
  first.missing = second.missing ∧ ∀ run, run ∈ first.pending ↔ run ∈ second.pending

namespace Workspace

open Condition

/-! ### What is found -/

/-- What is recorded of the health of a workspace. -/
def findings (missing : List String) : List Condition :=
  if missing.isEmpty then
    [.observed healthy true "AllResourcesFound" "All referenced resources found",
     .observed ready true "ResourcesEnsured" "Cache volume and RBAC resources ensured"]
  else
    [.observed healthy false "MissingResource" (missingMessage missing),
     .observed ready false "MissingResource" (missingMessage missing)]

/-- With something missing, what is found of either type is that it does not hold. -/
theorem mem_findings_of_ne_nil {missing : List String} (lacks : missing ≠ []) {type : String}
    (reported : type ∈ [healthy, ready]) :
    .observed type false "MissingResource" (missingMessage missing) ∈ findings missing := by
  rw [findings, if_neg fun empty => lacks (List.isEmpty_iff.mp empty)]
  rcases List.mem_cons.mp reported with rfl | second
  · exact List.mem_cons_self
  · cases List.mem_singleton.mp second
    exact List.mem_cons_of_mem _ List.mem_cons_self

/-- Health and readiness are what is found, whatever is missing. -/
theorem map_type_findings (missing : List String) : (findings missing).map Condition.type = [healthy, ready] := by
  unfold findings
  split <;> rfl

theorem nodup_findings (missing : List String) : ((findings missing).map Condition.type).Nodup := by
  rw [map_type_findings]
  decide

/-- The conditions of the next status are the present ones with the findings recorded. -/
theorem conditions_advanced (now : String) (current : WorkspaceStatus) (observation : Observation) :
    (advanced now current observation).conditions = record now (findings observation.missing) current.conditions := by
  unfold advanced findings
  split <;> rfl

/-- The next queue of the next status, if the same is observed, is its queue. -/
theorem queue_advanced_again {observation again : Observation} (same : again.Matches observation)
    (now later : String) (current : WorkspaceStatus) :
    (advanced later (advanced now current observation) again).queue = (advanced now current observation).queue := by
  unfold advanced
  rw [same.1]
  split
  · refine Queue.recompute_of_exact (Queue.nodup_recompute _ _) fun run => ?_
    rw [Queue.mem_recompute_iff, same.2 run]
  · rfl

/-- The next status of the next status, if the same is observed, is that status. -/
theorem advanced_again {observation again : Observation} (same : again.Matches observation) (now later : String)
    (current : WorkspaceStatus) :
    advanced later (advanced now current observation) again = advanced now current observation := by
  rw [WorkspaceStatus.mk.injEq]
  refine ⟨queue_advanced_again same now later current, ?_⟩
  rw [conditions_advanced, conditions_advanced, same.1]
  exact record_record (nodup_findings observation.missing) now later current.conditions

/-! ### What is said of it -/

/-- A text occurs in the texts that are joined from it and others. -/
theorem infix_intercalate {texts : List String} {text : String} (member : text ∈ texts) (separator : String) :
    text.toList <:+: (separator.intercalate texts).toList := by
  induction texts with
  | nil => cases member
  | cons first rest inductionHypothesis =>
      cases rest with
      | nil =>
          cases List.mem_singleton.mp member
          simpa only [String.intercalate_singleton] using List.infix_rfl
      | cons second others =>
          rw [String.intercalate_cons_cons, String.toList_append, String.toList_append]
          rcases List.mem_cons.mp member with rfl | later
          · exact ⟨[], _, by rw [List.nil_append, List.append_assoc]⟩
          · exact (inductionHypothesis later).trans (List.suffix_append _ _).isInfix

/-- What is said of missing prerequisites names each of them. -/
theorem infix_missingMessage {missing : List String} {resource : String} (member : resource ∈ missing) :
    resource.toList <:+: (missingMessage missing).toList := by
  rw [missingMessage, String.toList_append]
  exact (infix_intercalate member ", ").trans (List.suffix_append _ _).isInfix

/-- The conditions of a workspace are those of the status it stands at. -/
theorem conditions_eq_standing (workspace : Workspace) :
    workspace.conditions = (workspace.status.getD {}).conditions := by
  unfold conditions
  cases workspace.status <;> rfl

/-- After a sight the conditions are the present ones with the findings recorded. -/
theorem conditions_after (workspace : Workspace) (sight : Sight) :
    (workspace.after sight).conditions =
      record sight.now (findings sight.observation.missing) workspace.conditions := by
  rw [conditions_eq_standing, standing_after, conditions_advanced, ← conditions_eq_standing]

/-- After a sight the workspace says of each finding what was found. -/
theorem exists_find?_after (workspace : Workspace) (sight : Sight) {finding : Condition}
    (found : finding ∈ findings sight.observation.missing) :
    ∃ kept, find? (workspace.after sight).conditions finding.type = some kept ∧ kept.saysSame finding = true := by
  have said := changes_record sight.now (nodup_findings sight.observation.missing) workspace.conditions finding found
  rw [← conditions_after, changes, Bool.not_eq_false'] at said
  exact (Option.any_eq_true _ _).mp said

/-! ### One sight is enough -/

/-- What one sight makes of a workspace, whatever its status was. -/
structure Converging (workspace : Workspace) (sight : Sight) : Prop where
  /-- Once the status is stored there is nothing to write at any time, as long as the same is missing and the same
  runs are pending, in whatever order they are listed. -/
  settled : ∀ later (again : Observation), again.Matches sight.observation →
    (workspace.after sight).nextStatus? later again = none
  /-- With nothing missing the workspace is healthy and ready. -/
  found : sight.Healthy →
    isTrueFor (workspace.after sight).conditions healthy = true ∧
      isTrueFor (workspace.after sight).conditions ready = true
  /-- Otherwise it is neither, and both conditions name every resource that is missing. -/
  lacking : ¬ sight.Healthy → ∀ type ∈ [healthy, ready], ∃ condition message,
    find? (workspace.after sight).conditions type = some condition ∧ condition.isFalse = true ∧
      condition.message = some message ∧
        ∀ resource ∈ sight.observation.missing, resource.toList <:+: message.toList
  /-- All other conditions are untouched. -/
  others : besides [healthy, ready] (workspace.after sight).conditions = besides [healthy, ready] workspace.conditions
  /-- A time that differs is that of a status that differs. -/
  times : ∀ type ∈ [healthy, ready], ∀ before after,
    find? workspace.conditions type = some before → find? (workspace.after sight).conditions type = some after →
      after.lastTransitionTime ≠ before.lastTransitionTime → after.status ≠ before.status

/-- A workspace converges at once, whatever it is and whatever is observed. -/
theorem converging (workspace : Workspace) (sight : Sight) : Converging workspace sight where
  settled := by
    intro later again same
    rw [nextStatus?, standing_after, advanced_again same]
    exact if_pos rfl
  found := by
    intro nothing
    have holds : ∀ finding ∈ findings [],
        isTrueFor (workspace.after sight).conditions finding.type = finding.isTrue := by
      intro finding member
      rw [conditions_after, nothing]
      exact isTrueFor_record sight.now (nodup_findings []) _ member
    exact ⟨holds _ List.mem_cons_self, holds _ (List.mem_cons_of_mem _ List.mem_cons_self)⟩
  lacking := by
    intro lacks type reported
    obtain ⟨kept, found, same⟩ := exists_find?_after workspace sight (mem_findings_of_ne_nil lacks reported)
    obtain ⟨status, _, message⟩ := eq_of_saysSame same
    have fails : kept.isFalse = true := by
      rw [Condition.isFalse, status]
      rfl
    exact ⟨kept, _, found, fails, message, fun resource => infix_missingMessage⟩
  others := by
    rw [conditions_after, ← map_type_findings sight.observation.missing]
    exact besides_record sight.now (nodup_findings _) workspace.conditions
  times := by
    intro type member before after isBefore isAfter moved same
    rw [← map_type_findings sight.observation.missing, List.mem_map] at member
    obtain ⟨finding, recorded, rfl⟩ := member
    rw [conditions_after, find?_record_of_find? (nodup_findings _) recorded isBefore] at isAfter
    cases isAfter
    exact moved (time_updated same)

end Workspace

end Turnstile
