/-
Module: Turnstile.Proofs.Cluster.Scenario
Purpose: Which requests are served in a scenario: those of the programs that are run in it, and no others.
Main exports: Exchange.noted, Scenario.served_serve, Scenario.Reads, Scenario.reads_run, Scenario.reads_openWatch,
  Scenario.writes, Program.Heeds.run
-/
import Turnstile.Cluster.Script
import Turnstile.Proofs.Cluster.Heard

/-!
What others do in a scenario is no request, be it by a script or in reaction to a request.  So the requests that a
scenario has served are those of the programs that were run in it, and what holds of a program whatever it is replied
holds of it in every scenario.  A program that only looks leaves the requests for changes as they were.
-/

namespace Turnstile

/-- A request that has the name it needs is sent, and its answer is read. -/
theorem Program.run_read {α : Type} (decode : Json → Option α) {request : Request}
    (addressed : isAddressed request = true) (scenario : Scenario) : (read decode request).run scenario =
      ((scenario.serve request).1, readable decode (scenario.serve request).2) := by
  simp only [read, ask, addressed, if_true]
  rfl

/-- A request and its reply, as a scenario notes them. -/
def Exchange.noted (exchange : Exchange) : Served :=
  ⟨exchange.request, Scenario.codeOf exchange.request exchange.reply⟩

namespace Scenario

/-! ### What is noted -/

theorem served_act (scenario : Scenario) (action : Action) : (scenario.act action).1.served = scenario.served := by
  cases action with
  | put key object => rfl
  | fault fault => rfl
  | merge key change | delete key =>
      simp only [act]
      split <;> rfl

theorem served_actAll (scenario : Scenario) (actions : List Action) :
    (scenario.actAll actions).served = scenario.served := by
  induction actions generalizing scenario with
  | nil => rfl
  | cons action rest inductionHypothesis =>
      rw [actAll, List.foldl_cons, ← actAll, inductionHypothesis, served_act]

theorem served_react (scenario : Scenario) (request : Request) :
    (scenario.react request).served = scenario.served := by
  unfold react
  induction scenario.reactions generalizing scenario with
  | nil => rfl
  | cons reaction rest inductionHypothesis =>
      rw [List.foldl_cons, inductionHypothesis]
      split
      · exact served_actAll scenario reaction.actions
      · rfl

theorem served_handle (scenario : Scenario) (request : Request) :
    (scenario.handle request).1.served = scenario.served := by
  unfold handle
  rcases scenario.cluster.answer request with ⟨next, error | json⟩
  · rfl
  · cases request.key? with
    | none => rfl
    | some key =>
        simp only
        split <;> rfl

/-- A request is served once, whether it is granted or not. -/
theorem served_serve (scenario : Scenario) (request : Request) :
    (scenario.serve request).1.served = Exchange.noted ⟨request, (scenario.serve request).2⟩ :: scenario.served := by
  unfold serve
  split
  · rfl
  · rcases handled : scenario.handle request with ⟨later, reply⟩
    have same := served_handle scenario request
    rw [handled] at same
    cases reply with
    | error error => exact congrArg (_ :: ·) same
    | ok json =>
        simp only
        rw [served_react]
        exact congrArg (_ :: ·) same

theorem served_perform (scenario : Scenario) (cue : Cue) : (scenario.perform cue).served = scenario.served :=
  served_act (scenario.waited cue.time) cue.action

theorem served_playAll (script : List Cue) (scenario : Scenario) :
    (scenario.playAll script).served = scenario.served := by
  induction script generalizing scenario with
  | nil => rfl
  | cons cue rest inductionHypothesis =>
      rw [playAll, List.foldl_cons, ← playAll, inductionHypothesis, served_perform]

/-- A script asks for nothing, as far as it is played. -/
theorem served_playUntil (limit : Nat) (script : List Cue) (scenario : Scenario) :
    (playUntil limit script scenario).1.served = scenario.served := by
  induction script generalizing scenario with
  | nil => rfl
  | cons cue rest inductionHypothesis =>
      unfold playUntil
      split
      · rw [inductionHypothesis, served_perform]
      · rfl

/-! ### What only looks -/

/-- From one scenario to the other only requests that ask for no change were served. -/
def Reads (earlier later : Scenario) : Prop :=
  ∃ more : List Served, later.served = more ++ earlier.served ∧ ∀ entry ∈ more, entry.request.isWrite = false

variable {first second third : Scenario}

theorem reads_of_served (same : second.served = first.served) : Reads first second :=
  ⟨[], same, List.forall_mem_nil _⟩

theorem Reads.trans (earlier : Reads first second) (later : Reads second third) : Reads first third := by
  obtain ⟨some', served, looks⟩ := earlier
  obtain ⟨more, servedLater, looksLater⟩ := later
  refine ⟨more ++ some', by rw [servedLater, served, List.append_assoc], ?_⟩
  exact List.forall_mem_append.mpr ⟨looksLater, looks⟩

/-- What was served is not forgotten. -/
theorem Reads.mem (reads : Reads first second) {entry : Served} (member : entry ∈ first.served) :
    entry ∈ second.served := by
  obtain ⟨more, served, _⟩ := reads
  rw [served]
  exact List.mem_append_right more member

theorem reads_serve {request : Request} (looks : request.isWrite = false) (scenario : Scenario) :
    Reads scenario (scenario.serve request).1 :=
  ⟨[_], served_serve scenario request, by simpa [Exchange.noted] using looks⟩

/-- A program that only looks changes nothing. -/
theorem reads_run {α : Type} {program : Program α} (uses : program.Uses fun request => request.isWrite = false)
    (scenario : Scenario) : Reads scenario (program.run scenario).1 := by
  induction program generalizing scenario with
  | done value => exact reads_of_served rfl
  | call request next inductionHypothesis =>
      exact (reads_serve uses.1 scenario).trans (inductionHypothesis _ (uses.2 _) _)

/-- To open a watch changes nothing. -/
theorem reads_openWatch {Object : Type} (decode : Json → Option Object) (key : Key) (scenario : Scenario) :
    Reads scenario (scenario.openWatch decode key).1 := by
  have listed : Reads scenario ((Program.read (Program.itemsOf decode)
      (.list key.kind key.namespaceName (.named key.name))).run scenario).1 :=
    reads_run (Program.uses_read rfl) scenario
  simp only [openWatch]
  split
  · exact listed
  · split
    · exact listed.trans (reads_serve rfl _)
    · exact listed.trans (reads_serve rfl _)

/-! ### What asks for a change -/

/-- The requests for a change that were served, the latest first. -/
def writes (scenario : Scenario) : List Request :=
  (scenario.served.map Served.request).filter Request.isWrite

theorem Reads.writes (reads : Reads first second) : second.writes = first.writes := by
  obtain ⟨more, served, looks⟩ := reads
  have none : (more.map Served.request).filter Request.isWrite = [] := by
    rw [List.filter_eq_nil_iff, List.forall_mem_map]
    exact fun entry member => Bool.eq_false_iff.mp (looks entry member)
  rw [Scenario.writes, served, List.map_append, List.filter_append, none, List.nil_append, Scenario.writes]

/-- A request for a change is served once. -/
theorem writes_serve {request : Request} (changes : request.isWrite = true) (scenario : Scenario) :
    (scenario.serve request).1.writes = request :: scenario.writes := by
  rw [writes, served_serve, List.map_cons]
  exact List.filter_cons_of_pos changes

end Scenario

/-- What holds of a program whatever it is replied holds of it in every scenario, with the requests that it is
served. -/
theorem Program.Heeds.run {α : Type} {permits : List Exchange → Request → Prop} {goal : α → List Exchange → Prop}
    {program : Program α} {heard : List Exchange} (heeds : program.Heeds permits goal heard) (scenario : Scenario) :
    ∃ more, goal (program.run scenario).2 (more ++ heard) ∧
      (program.run scenario).1.served = more.map Exchange.noted ++ scenario.served := by
  induction program generalizing heard scenario with
  | done value => exact ⟨[], heeds, rfl⟩
  | call request next inductionHypothesis =>
      obtain ⟨more, met, served⟩ :=
        inductionHypothesis (scenario.serve request).2 (heeds.2 _) (scenario.serve request).1
      refine ⟨more ++ [⟨request, (scenario.serve request).2⟩], ?_, ?_⟩
      · rw [List.append_assoc]
        exact met
      · refine served.trans ?_
        rw [Scenario.served_serve, List.map_append, List.append_assoc]
        rfl

end Turnstile
