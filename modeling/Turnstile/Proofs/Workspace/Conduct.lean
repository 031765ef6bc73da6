/-
Module: Turnstile.Proofs.Workspace.Conduct
Purpose: What one reconciliation of a workspace does to a cluster, whichever of its requests fail and whatever others
  do between them.
Main exports: Transaction.SparesWorkspaces, Transaction.Meets, Transaction.Misleads, Workspace.Conduct,
  Workspace.conduct
-/
import Turnstile.Proofs.Cluster.Answered
import Turnstile.Proofs.Status
import Turnstile.Proofs.Workspace.Convergence
import Turnstile.Proofs.Workspace.Requests

/-!
A reconciliation may be followed request by request, and each request meets whatever cluster there is by then.  It
adds what the workspace needs where there is nothing, and its last request may write the status; no other change is
its own.  A status that says that the workspace is ready is written only after each thing that the workspace needs was
heard of.  It is taken to be there also when its creation is refused with the code for what exists already, and a
server that refuses a creation with this code for another reason is believed.
-/

namespace Turnstile

open Attempt Condition

/-- A status patch that the server does not accept changes nothing. -/
theorem Reply.accepted_or_eq {cluster next : Cluster} {key : Key} {change : Json} {reply : Except ApiError Json}
    (served : Reply cluster (.patchStatus key change) next reply) :
    (∃ json, (cluster.answer (.patchStatus key change)).2 = .ok json) ∨ next = cluster := by
  rcases answered : cluster.answer (.patchStatus key change) with ⟨made, error | json⟩
  · have same := Cluster.patched_error answered
    refine Or.inr ?_
    cases served with
    | answered => rw [answered, same]
    | refused honest => rfl
    | lost honest => rw [answered, same]
  · exact Or.inl ⟨json, rfl⟩

namespace Transaction

/-- The request leaves every workspace as it is. -/
def SparesWorkspaces (transaction : Transaction) : Prop :=
  ∀ space name, transaction.after.find? ⟨.workspace, space, name⟩ = transaction.before.find? ⟨.workspace, space, name⟩

/-- Something is stored under the key when the request comes, or once it was dealt with. -/
def Meets (transaction : Transaction) (key : Key) : Prop :=
  transaction.before.find? key ≠ none ∨ transaction.after.find? key ≠ none

/-- A creation is refused with the code for objects that exist already, and nothing is stored under its key. -/
structure Misleads (transaction : Transaction) (key : Key) : Prop where
  creates : transaction.request.verb = .create
  about : transaction.request.key? = some key
  absent : transaction.before.find? key = none
  refused : ∃ error, transaction.reply = .error error ∧ error.isAlreadyExists = true

/-- The server itself takes the request well, whether or not its answer is heard. -/
def Accepted (transaction : Transaction) : Prop :=
  ∃ json, (transaction.before.answer transaction.request).2 = .ok json

variable {transaction : Transaction} {key : Key}

/-- A request that asks for no change makes none. -/
theorem eq_of_not_isWrite (reads : transaction.request.isWrite = false) : transaction.after = transaction.before :=
  transaction.served.effect.eq_of_not_isWrite reads

/-- A lookup that meets nothing has no good answer. -/
theorem ne_ok_of_absent (looks : transaction.request = .get key) (absent : transaction.before.find? key = none)
    (json : Json) : transaction.reply ≠ .ok json := by
  have served := transaction.served
  rw [looks] at served
  intro good
  rw [good] at served
  obtain ⟨_, ⟨object, there, _⟩ | ⟨_, denied⟩ | ⟨error, _, failed⟩⟩ := served.of_get
  · cases absent.symm.trans there
  · cases denied
  · cases failed

/-- Where an object was heard of, it is stored, or a refused creation misleads. -/
theorem meets_of_secures (secures : Secures key transaction.toExchange) :
    transaction.Meets key ∨ transaction.Misleads key := by
  rcases transaction with ⟨⟨request, reply⟩, before, after, served⟩
  cases secures with
  | there json =>
      obtain ⟨_, good⟩ := served.of_ok
      refine Or.inl (Or.inl ?_)
      intro absent
      simp [Cluster.answer, absent] at good
  | created about json =>
      refine Or.inl (Or.inr ?_)
      rw [← about, served.of_create_ok]
      exact Option.some_ne_none json
  | @taken kind space object about error exists' =>
      by_cases absent : before.find? key = none
      · exact Or.inr ⟨rfl, congrArg some about, absent, error, rfl, exists'⟩
      · exact Or.inl (Or.inl absent)

/-- A status that the server does not accept changes nothing. -/
theorem accepted_or_eq {change : Json} (writes : transaction.request = .patchStatus key change) :
    transaction.Accepted ∨ transaction.after = transaction.before := by
  have served := transaction.served
  rw [writes] at served
  rw [Accepted, writes]
  exact served.accepted_or_eq

end Transaction

namespace Workspace

variable {workspace : Workspace} {settings : Settings} {space now : String} {heard : List Exchange}
  {observation : Observation} {status : WorkspaceStatus} {transactions : List Transaction}
  {result : Except ReconcileFailure Unit}

/-! ### Statuses that are written -/

/-- The next status says that the workspace is ready exactly if nothing is missing. -/
theorem isTrueFor_ready_advanced (now : String) (current : WorkspaceStatus) (observation : Observation) :
    isTrueFor (advanced now current observation).conditions ready = observation.missing.isEmpty := by
  have recorded {new : Condition} (found : new ∈ findings observation.missing) :=
    isTrueFor_record now (nodup_findings observation.missing) current.conditions found
  rw [conditions_advanced]
  cases missing : observation.missing.isEmpty with
  | true =>
      have found : .observed ready true "ResourcesEnsured" "Cache volume and RBAC resources ensured" ∈
          findings observation.missing := by
        simp [findings, missing]
      exact (recorded found).trans (isTrue_observed _ _ _ _)
  | false =>
      have found : .observed ready false "MissingResource" (missingMessage observation.missing) ∈
          findings observation.missing := by
        simp [findings, missing]
      exact (recorded found).trans (isTrue_observed _ _ _ _)

/-- The request to write a status tells the status. -/
theorem statusRequest_injective {first second : WorkspaceStatus}
    (same : workspace.statusRequest space first = workspace.statusRequest space second) : first = second := by
  have written : first.toJson = second.toJson := by
    simpa [statusRequest, statusPatch] using same
  have read := WorkspaceStatus.ofJson?_mergePatch .null first
  rw [written, WorkspaceStatus.ofJson?_mergePatch] at read
  exact (Option.some.inj read).symm

/-- A status is written for what was observed. -/
theorem Sends.of_statusRequest
    (sends : workspace.Sends settings now space heard (workspace.statusRequest space status)) :
    ∃ observation, workspace.Observed space heard observation ∧
      status = advanced now (workspace.status.getD {}) observation := by
  generalize about : workspace.statusRequest space status = request at sends
  cases sends with
  | writes observed planned =>
      rw [statusRequest_injective about]
      exact ⟨_, observed, eq_advanced_of_nextStatus? planned⟩
  | _ => cases about

/-! ### The order of requests -/

/-- Once a status was written nothing is asked for. -/
theorem Sends.unwritten {request : Request} (sends : workspace.Sends settings now space heard request) :
    ∀ exchange ∈ heard, exchange.request.verb ≠ .patchStatus := by
  cases sends with
  | looks wanted looking => exact looking.unwritten
  | checks needed provided => exact provided.unwritten
  | creates needed provided => exact provided.unwritten
  | lists provided => exact provided.unwritten
  | writes observed planned =>
      cases observed with
      | lacking lacks looking => exact looking.unwritten
      | complete provided secured listed read => exact provided.unwritten

/-- A prerequisite is looked for before anything else. -/
theorem Sends.looking {key : Key} (sends : workspace.Sends settings now space heard (.get key))
    (wanted : key ∈ workspace.prerequisites space) : workspace.Looking space heard := by
  generalize about : Request.get key = request at sends
  cases sends with
  | looks wanted looking => exact looking
  | checks needed provided =>
      cases about
      exact absurd needed (not_mem_resources_of_mem_prerequisites wanted)
  | _ => cases about

/-- Something is created or listed only once each prerequisite was found. -/
theorem Sends.provided {request : Request} (sends : workspace.Sends settings now space heard request)
    (acts : request.verb = .create ∨ request.verb = .list) : workspace.Provided space heard := by
  cases sends with
  | creates needed provided => exact provided
  | lists provided => exact provided
  | _ => rcases acts with create | list <;> contradiction

/-- A request leaves what exists as it is, and every workspace, unless it writes the status of this one. -/
theorem Sends.keeps {transaction : Transaction} {key : Key}
    (sends : workspace.Sends settings now space heard transaction.request)
    (matters : transaction.before.find? key ≠ none ∨ key.kind = .workspace) :
    transaction.after.find? key = transaction.before.find? key ∨
      key = ⟨.workspace, space, workspace.name⟩ ∧ transaction.Accepted ∧
        ∃ status, transaction.request = workspace.statusRequest space status := by
  have still (reads : transaction.request.isWrite = false) :
      transaction.after.find? key = transaction.before.find? key := by
    rw [transaction.eq_of_not_isWrite reads]
  generalize about : transaction.request = request at sends
  cases sends with
  | looks wanted looking => exact Or.inl (still (by rw [about]; rfl))
  | checks needed provided => exact Or.inl (still (by rw [about]; rfl))
  | lists provided => exact Or.inl (still (by rw [about]; rfl))
  | @creates owner resource needed provided =>
      have effect := transaction.served.effect
      rw [about] at effect
      rcases matters with present | isWorkspace
      · obtain ⟨object, stored⟩ := Option.ne_none_iff_exists'.mp present
        exact Or.inl ((effect.find?_of_create stored).trans stored.symm)
      · refine Or.inl (effect.find?_of_ne ?_)
        rw [Request.key?, createdKey_dependents needed]
        intro same
        rw [← Option.some.inj same] at isWorkspace
        exact kind_ne_of_mem_resources (mem_resources_of_mem_dependents needed) (by decide) isWorkspace
  | @writes observation status observed planned =>
      by_cases own : key = ⟨.workspace, space, workspace.name⟩
      · rcases transaction.accepted_or_eq about with accepted | same
        · exact Or.inr ⟨own, accepted, status, rfl⟩
        · rw [same]
          exact Or.inl rfl
      · refine Or.inl (transaction.served.effect.find?_of_ne ?_)
        rw [about]
        exact fun same => own (Option.some.inj same).symm

/-- A status that says that the workspace is ready is written for a complete observation. -/
theorem Observed.of_ready (observed : workspace.Observed space heard observation) {current : WorkspaceStatus}
    (isReady : isTrueFor (advanced now current observation).conditions ready = true) :
    ∃ json runs, observation = { pending := pendingNames runs } ∧ workspace.Provided space heard ∧
      (∀ key ∈ workspace.resources space, ∃ exchange ∈ heard, Secures key exchange) ∧
      ⟨workspace.listing space, .ok json⟩ ∈ heard ∧ Program.itemsOf Run.ofJson? json = some runs := by
  rw [isTrueFor_ready_advanced] at isReady
  cases observed with
  | lacking lacks looking => exact absurd (List.isEmpty_iff.mp isReady) lacks
  | @complete json runs provided secured listed read => exact ⟨json, runs, rfl, provided, secured, listed, read⟩

/-! ### Transcripts of reconciliations -/

/-- Every request was sent with what was heard before it. -/
def Sent (workspace : Workspace) (settings : Settings) (now space : String) (transactions : List Transaction) : Prop :=
  ∀ earlier transaction later, transactions = earlier ++ transaction :: later →
    workspace.Sends settings now space (heardIn earlier) transaction.request

section Transcript

variable {transaction other : Transaction} {key : Key}

theorem Sent.of_mem (sent : workspace.Sent settings now space transactions) (member : transaction ∈ transactions) :
    ∃ earlier ⊆ transactions, workspace.Sends settings now space (heardIn earlier) transaction.request := by
  obtain ⟨earlier, later, split⟩ := List.append_of_mem member
  exact ⟨earlier, split ▸ List.subset_append_left _ _, sent earlier transaction later split⟩

/-- Of two requests one is sent with the reply to the other heard. -/
theorem Sent.order (sent : workspace.Sent settings now space transactions) (member : transaction ∈ transactions)
    (otherMember : other ∈ transactions) :
    transaction = other ∨
      (∃ earlier, transaction ∈ earlier ∧ workspace.Sends settings now space (heardIn earlier) other.request) ∨
        ∃ earlier, other ∈ earlier ∧ workspace.Sends settings now space (heardIn earlier) transaction.request := by
  obtain ⟨earlier, later, rfl⟩ := List.append_of_mem otherMember
  rcases List.mem_append.mp member with before | behind
  · exact Or.inr (Or.inl ⟨earlier, before, sent earlier other later rfl⟩)
  · rcases List.mem_cons.mp behind with same | after
    · exact Or.inl same
    · obtain ⟨between, rest, rfl⟩ := List.append_of_mem after
      exact Or.inr (Or.inr ⟨earlier ++ other :: between, by simp, sent _ transaction rest (by simp)⟩)

/-- What exists is left as it is, and so are all workspaces, but for the status of this one. -/
theorem Sent.keeps (sent : workspace.Sent settings now space transactions) (member : transaction ∈ transactions)
    (key : Key) (matters : transaction.before.find? key ≠ none ∨ key.kind = .workspace) :
    transaction.after.find? key = transaction.before.find? key ∨
      key = ⟨.workspace, space, workspace.name⟩ ∧ transaction.Accepted ∧
        ∃ status, transaction.request = workspace.statusRequest space status := by
  obtain ⟨earlier, _, sends⟩ := sent.of_mem member
  exact sends.keeps matters

/-- Before the last request no workspace changes, and the last one changes none unless it writes a status that the
server accepts. -/
theorem Sent.spares (sent : workspace.Sent settings now space transactions) {earlier later : List Transaction}
    (split : transactions = earlier ++ transaction :: later) :
    (∀ past ∈ earlier, past.SparesWorkspaces) ∧
      (transaction.SparesWorkspaces ∨ transaction.request.verb = .patchStatus ∧ transaction.Accepted) := by
  have unwritten := (sent earlier transaction later split).unwritten
  constructor
  · intro past member place name
    have inAll : past ∈ transactions := split ▸ List.mem_append_left _ member
    rcases sent.keeps inAll ⟨.workspace, place, name⟩ (Or.inr rfl) with same | ⟨_, _, status, writes⟩
    · exact same
    · exact absurd (by rw [writes]; rfl) (unwritten past.toExchange (mem_heardIn.mpr ⟨past, member, rfl⟩))
  · by_cases spared : transaction.SparesWorkspaces
    · exact Or.inl spared
    · simp only [Transaction.SparesWorkspaces, not_forall] at spared
      obtain ⟨place, name, changed⟩ := spared
      have inAll : transaction ∈ transactions := split ▸ by simp
      rcases sent.keeps inAll ⟨.workspace, place, name⟩ (Or.inr rfl) with same | ⟨_, accepted, status, writes⟩
      · exact absurd same changed
      · exact Or.inr ⟨by rw [writes]; rfl, accepted⟩

/-- Where a prerequisite is looked for in vain nothing is created and no run is listed. -/
theorem Sent.idle (sent : workspace.Sent settings now space transactions) (member : transaction ∈ transactions)
    (wanted : key ∈ workspace.prerequisites space) (looks : transaction.request = .get key)
    (absent : transaction.before.find? key = none) (otherMember : other ∈ transactions) :
    ¬ (other.request.verb = .create ∨ other.request.verb = .list) := by
  intro acts
  rcases sent.order member otherMember with rfl | ⟨earlier, before, sends⟩ | ⟨earlier, before, sends⟩
  · rw [looks] at acts
    rcases acts with create | list <;> contradiction
  · obtain ⟨json, good⟩ := (sends.provided acts).only transaction.toExchange (mem_heardIn.mpr ⟨_, before, rfl⟩) key
      wanted looks
    exact transaction.ne_ok_of_absent looks absent json good
  · rw [looks] at sends
    obtain ⟨_, _, gets⟩ := sends.looking wanted other.toExchange (mem_heardIn.mpr ⟨_, before, rfl⟩)
    rw [gets] at acts
    rcases acts with create | list <;> contradiction

/-- Where a prerequisite is looked for in vain the status that is written tells it and keeps the queue. -/
theorem Sent.holdsBack (sent : workspace.Sent settings now space transactions) (member : transaction ∈ transactions)
    (wanted : key ∈ workspace.prerequisites space) (looks : transaction.request = .get key)
    (absent : transaction.before.find? key = none) (otherMember : other ∈ transactions)
    (writes : other.request = workspace.statusRequest space status) :
    status.queue = workspace.queue ∧ isTrueFor status.conditions ready = false := by
  rcases sent.order member otherMember with rfl | ⟨earlier, before, sends⟩ | ⟨earlier, before, sends⟩
  · cases looks.symm.trans writes
  · rw [writes] at sends
    obtain ⟨observation, observed, rfl⟩ := sends.of_statusRequest
    cases observed with
    | lacking lacks looking =>
        have something : ∀ missing : List String, missing ≠ [] → missing.isEmpty = false := by
          intro missing lacks
          simpa using lacks
        refine ⟨?_, (isTrueFor_ready_advanced _ _ _).trans (something _ lacks)⟩
        rw [advanced, if_neg (by simpa using lacks), queue_eq_standing]
    | complete provided secured listed read =>
        obtain ⟨json, good⟩ := provided.only transaction.toExchange (mem_heardIn.mpr ⟨_, before, rfl⟩) key wanted looks
        exact absurd good (transaction.ne_ok_of_absent looks absent json)
  · exact absurd (by rw [writes]; rfl) (sends.unwritten other.toExchange (mem_heardIn.mpr ⟨_, before, rfl⟩))

/-- A status that says that the workspace is ready is written with a complete observation in mind. -/
theorem Sent.complete (sent : workspace.Sent settings now space transactions) (member : transaction ∈ transactions)
    (writes : transaction.request = workspace.statusRequest space status)
    (isReady : isTrueFor status.conditions ready = true) :
    ∃ earlier ⊆ transactions, ∃ json runs, workspace.Provided space (heardIn earlier) ∧
      (∀ key ∈ workspace.resources space, ∃ exchange ∈ heardIn earlier, Secures key exchange) ∧
      ⟨workspace.listing space, .ok json⟩ ∈ heardIn earlier ∧ Program.itemsOf Run.ofJson? json = some runs ∧
      status.queue = Queue.recompute workspace.queue (pendingNames runs) := by
  obtain ⟨earlier, within, sends⟩ := sent.of_mem member
  rw [writes] at sends
  obtain ⟨observation, observed, rfl⟩ := sends.of_statusRequest
  obtain ⟨json, runs, rfl, provided, secured, listed, read⟩ := observed.of_ready isReady
  exact ⟨earlier, within, json, runs, provided, secured, listed, read, by rw [queue_eq_standing]; rfl⟩

end Transcript

/-- Where each prerequisite was found, each was there when it was looked for. -/
theorem Provided.met {earlier : List Transaction} (provided : workspace.Provided space (heardIn earlier)) {key : Key}
    (wanted : key ∈ workspace.prerequisites space) :
    ∃ past ∈ earlier, past.request = .get key ∧ past.before.find? key ≠ none := by
  obtain ⟨exchange, told, looks⟩ := provided.found key wanted
  obtain ⟨reply, good⟩ := provided.only exchange told key wanted looks
  obtain ⟨past, before, rfl⟩ := mem_heardIn.mp told
  exact ⟨past, before, looks, fun absent => past.ne_ok_of_absent looks absent reply good⟩

/-- How a reconciliation of a workspace behaves, as its requests and what became of them show. -/
structure Conduct (workspace : Workspace) (space : String) (transactions : List Transaction)
    (result : Except ReconcileFailure Unit) : Prop where
  /-- A request that fails for good is the last one, and its error is returned.  No workspace has changed, unless that
  request is a status that the server accepted all the same. -/
  fails : ∀ earlier transaction later error, transactions = earlier ++ transaction :: later →
    transaction.fatal? = some error → (later = [] ∧ result = .error (.api error)) ∧
      (∀ past ∈ earlier, past.SparesWorkspaces) ∧
      (transaction.SparesWorkspaces ∨ transaction.request.verb = .patchStatus ∧ transaction.Accepted)
  /-- What exists is left as it is, and so are all workspaces, but for the status of this one. -/
  keeps : ∀ transaction ∈ transactions, ∀ key, transaction.before.find? key ≠ none ∨ key.kind = .workspace →
    transaction.after.find? key = transaction.before.find? key ∨
      key = ⟨.workspace, space, workspace.name⟩ ∧ transaction.Accepted ∧
        ∃ status, transaction.request = workspace.statusRequest space status
  /-- If a prerequisite is looked for where there is none, nothing is created, no run is listed, and a status that is
  written keeps the queue and does not say that the workspace is ready. -/
  lacks : ∀ transaction ∈ transactions, ∀ key ∈ workspace.prerequisites space, transaction.request = .get key →
    transaction.before.find? key = none → ∀ other ∈ transactions,
      ¬ (other.request.verb = .create ∨ other.request.verb = .list) ∧
        ∀ status, other.request = workspace.statusRequest space status →
          status.queue = workspace.queue ∧ isTrueFor status.conditions ready = false
  /-- Something is created or listed, or said to be ready, only if each prerequisite was looked for and was there. -/
  provides : ∀ transaction ∈ transactions,
    (transaction.request.verb = .create ∨ transaction.request.verb = .list ∨
      ∃ status, transaction.request = workspace.statusRequest space status ∧
        isTrueFor status.conditions ready = true) →
      ∀ key ∈ workspace.prerequisites space,
        ∃ past ∈ transactions, past.request = .get key ∧ past.before.find? key ≠ none
  /-- A status that says that the workspace is ready is written only if each thing that the workspace needs was there
  during the reconciliation, unless its creation was refused as if it were. -/
  readies : ∀ transaction ∈ transactions, ∀ status, transaction.request = workspace.statusRequest space status →
    isTrueFor status.conditions ready = true →
      ∀ key ∈ workspace.resources space, ∃ past ∈ transactions, past.Meets key ∨ past.Misleads key
  /-- The queue of such a status holds the listed runs that are not over, each once. -/
  queues : ∀ transaction ∈ transactions, ∀ status, transaction.request = workspace.statusRequest space status →
    isTrueFor status.conditions ready = true →
      ∃ past ∈ transactions, ∃ json runs, past.request = workspace.listing space ∧ past.reply = .ok json ∧
        Program.itemsOf Run.ofJson? json = some runs ∧ status.queue.Nodup ∧
          ∀ name, name ∈ status.queue ↔ ∃ run ∈ runs, run.isCompleted = false ∧ run.name = name

/-- A reconciliation behaves well, whatever its requests meet and whichever of them fail. -/
theorem conduct (transacts : (workspace.reconcile now settings space).Transacts transactions result) :
    workspace.Conduct space transactions result := by
  obtain ⟨prudent, ends⟩ := (workspace.prudent_reconcile settings now space).transacts transacts
  have sent : workspace.Sent settings now space transactions := by
    intro earlier transaction later split
    simpa using (prudent earlier transaction later split).2
  refine ⟨?_, fun _ member => sent.keeps member, ?_, ?_, ?_, ?_⟩
  · intro earlier transaction later error split fatal
    refine ⟨?_, sent.spares split⟩
    have heard : heardIn transactions ++ [] = heardIn later ++ transaction.toExchange :: heardIn earlier := by
      simp [split, heardIn]
    rw [heard] at ends
    obtain ⟨nothing, failed⟩ := ends.of_fatal fatal
    exact ⟨by simpa [heardIn] using nothing, failed⟩
  · intro transaction member key wanted looks absent other otherMember
    exact ⟨sent.idle member wanted looks absent otherMember,
      fun status => sent.holdsBack member wanted looks absent otherMember⟩
  · intro transaction member acts key wanted
    have provided : ∃ earlier ⊆ transactions, workspace.Provided space (heardIn earlier) := by
      obtain ⟨earlier, within, sends⟩ := sent.of_mem member
      rcases acts with create | list | ⟨status, writes, isReady⟩
      · exact ⟨earlier, within, sends.provided (Or.inl create)⟩
      · exact ⟨earlier, within, sends.provided (Or.inr list)⟩
      · obtain ⟨past, inAll, _, _, provided, _⟩ := sent.complete member writes isReady
        exact ⟨past, inAll, provided⟩
    obtain ⟨earlier, within, provided⟩ := provided
    obtain ⟨past, before, met⟩ := provided.met wanted
    exact ⟨past, within before, met⟩
  · intro transaction member status writes isReady key needed
    obtain ⟨earlier, within, json, runs, _, secured, _⟩ := sent.complete member writes isReady
    obtain ⟨exchange, told, secures⟩ := secured key needed
    obtain ⟨past, before, rfl⟩ := mem_heardIn.mp told
    exact ⟨past, within before, past.meets_of_secures secures⟩
  · intro transaction member status writes isReady
    obtain ⟨earlier, within, json, runs, _, _, listed, read, queue⟩ := sent.complete member writes isReady
    obtain ⟨past, before, same⟩ := mem_heardIn.mp listed
    refine ⟨past, within before, json, runs, by rw [same], by rw [same], read, ?_, ?_⟩
    · rw [queue]
      exact Queue.nodup_recompute _ _
    · intro name
      rw [queue, Queue.mem_recompute_iff]
      simp [pendingNames, and_assoc]

end Workspace

end Turnstile
