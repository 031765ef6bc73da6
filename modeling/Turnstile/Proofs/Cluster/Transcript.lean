/-
Module: Turnstile.Proofs.Cluster.Transcript
Purpose: The requests of one call and what became of each, whatever happens between them; and when a call breaks off.
Main exports: Transaction, Program.Transacts, Program.Heeds.transacts, Attempt.Prudent, Attempt.Prudent.bind,
  Attempt.prudent_read, Attempt.prudent_find?, Attempt.prudent_require, Attempt.ensureAll, Attempt.prudent_ensure
-/
import Turnstile.Proofs.Cluster.Heard

/-!
A call sends one request after the other.  Nothing is said of the clusters that its requests meet: between two of them
others may do what they like.  What a program heeds, its transcripts keep to.

A prudent attempt breaks off at the first reply from which it cannot go on, and fails with the error of that reply.
-/

namespace Turnstile

variable {α β : Type}

/-! ### Transcripts -/

/-- A request that was sent, the cluster that it met, what it left of it, and the reply. -/
structure Transaction extends Exchange where
  before : Cluster
  after : Cluster
  served : Reply before request after reply

/-- The program may send these requests one after the other, hear these replies, and end with the value. -/
inductive Program.Transacts : Program α → List Transaction → α → Prop where
  | done (value : α) : Transacts (.done value) [] value
  | call {next : Except ApiError Json → Program α} {transaction : Transaction} {rest : List Transaction} {value : α}
      (continues : Transacts (next transaction.reply) rest value) :
      Transacts (.call transaction.request next) (transaction :: rest) value

/-- What was heard in the transactions, the latest first. -/
def heardIn (transactions : List Transaction) : List Exchange :=
  (transactions.map Transaction.toExchange).reverse

@[simp] theorem heardIn_cons (transaction : Transaction) (rest : List Transaction) (heard : List Exchange) :
    heardIn (transaction :: rest) ++ heard = heardIn rest ++ transaction.toExchange :: heard := by
  simp [heardIn]

theorem mem_heardIn {exchange : Exchange} {transactions : List Transaction} :
    exchange ∈ heardIn transactions ↔ ∃ transaction ∈ transactions, transaction.toExchange = exchange := by
  simp [heardIn]

/-- Every request of a transcript was permitted by what was heard before it, and in the end the goal is met. -/
theorem Program.Heeds.transacts {permits : List Exchange → Request → Prop} {goal : α → List Exchange → Prop}
    {program : Program α} {heard : List Exchange} {transactions : List Transaction} {value : α}
    (heeds : program.Heeds permits goal heard) (transacts : program.Transacts transactions value) :
    (∀ earlier transaction later, transactions = earlier ++ transaction :: later →
      permits (heardIn earlier ++ heard) transaction.request) ∧ goal value (heardIn transactions ++ heard) := by
  induction transacts generalizing heard with
  | done value => exact ⟨fun earlier transaction later split => by simp at split, heeds⟩
  | @call next transaction rest value continues inductionHypothesis =>
      obtain ⟨permitted, met⟩ := inductionHypothesis (heeds.2 transaction.reply)
      refine ⟨?_, by rw [heardIn_cons]; exact met⟩
      intro earlier other later split
      cases earlier with
      | nil =>
          cases split
          exact heeds.1
      | cons first others =>
          cases split
          rw [heardIn_cons]
          exact permitted others other later rfl

/-! ### Going on from replies -/

/-- The error for which a reply ends a call, if it does: the reply cannot be read, or it is a failure that is not
tolerated. -/
def Exchange.judged (decode : Json → Option α) (tolerates : ApiError → Bool) (reply : Except ApiError Json) :
    Option ApiError :=
  match Program.readable decode reply with
  | .ok _ => none
  | .error error => if tolerates error then none else some error

namespace Attempt

variable {fatal? : Exchange → Option ApiError} {permits : List Exchange → Request → Prop}
  {goal : α → List Exchange → Prop} {heard : List Exchange}

/-- Nothing that was heard ends the call. -/
def Clean (fatal? : Exchange → Option ApiError) (heard : List Exchange) : Prop :=
  ∀ exchange ∈ heard, fatal? exchange = none

/-- How a prudent attempt ends: it meets its goal, or it fails although nothing that it heard was fatal, or the last
that it heard was, and it fails for that. -/
inductive Ends (fatal? : Exchange → Option ApiError) (goal : α → List Exchange → Prop) :
    Except ReconcileFailure α → List Exchange → Prop where
  | met {value : α} {heard : List Exchange} (clean : Clean fatal? heard) (met : goal value heard) :
      Ends fatal? goal (.ok value) heard
  | unsent {failure : ReconcileFailure} {heard : List Exchange} (clean : Clean fatal? heard) :
      Ends fatal? goal (.error failure) heard
  | failed {exchange : Exchange} {heard : List Exchange} {error : ApiError} (clean : Clean fatal? heard)
      (fatal : fatal? exchange = some error) : Ends fatal? goal (.error (.api error)) (exchange :: heard)

/-- What is fatal was heard last, and is what the attempt fails for. -/
theorem Ends.of_fatal {result : Except ReconcileFailure α} {newer older : List Exchange} {exchange : Exchange}
    {error : ApiError} (ends : Ends fatal? goal result (newer ++ exchange :: older))
    (fatal : fatal? exchange = some error) : newer = [] ∧ result = .error (.api error) := by
  generalize split : newer ++ exchange :: older = heard at ends
  have told : exchange ∈ heard := split ▸ List.mem_append_right newer List.mem_cons_self
  cases ends with
  | met clean =>
      rw [clean exchange told] at fatal
      cases fatal
  | unsent clean =>
      rw [clean exchange told] at fatal
      cases fatal
  | failed clean last =>
      cases newer with
      | nil =>
          cases split
          cases fatal.symm.trans last
          exact ⟨rfl, rfl⟩
      | cons latest others =>
          cases split
          rw [clean exchange (List.mem_append_right others List.mem_cons_self)] at fatal
          cases fatal

/-- Every request of the attempt is permitted by what was heard before, nothing of which was fatal; a fatal reply ends
the attempt. -/
def Prudent (fatal? : Exchange → Option ApiError) (permits : List Exchange → Request → Prop)
    (goal : α → List Exchange → Prop) (attempt : Attempt α) (heard : List Exchange) : Prop :=
  Program.Heeds (fun heard request => Clean fatal? heard ∧ permits heard request) (Ends fatal? goal) attempt heard

theorem prudent_pure {value : α} (clean : Clean fatal? heard) (met : goal value heard) :
    Prudent fatal? permits goal (pure value) heard :=
  Ends.met clean met

theorem prudent_fail (clean : Clean fatal? heard) (failure : ReconcileFailure) :
    Prudent fatal? permits goal (fail failure) heard :=
  Ends.unsent clean

/-- An attempt is prudent if its first part is and the rest is after the first part has succeeded. -/
theorem Prudent.bind (middle : α → List Exchange → Prop) {goal : β → List Exchange → Prop} {attempt : Attempt α}
    {next : α → Attempt β} (first : Prudent fatal? permits middle attempt heard)
    (rest : ∀ value later, Clean fatal? later → middle value later → Prudent fatal? permits goal (next value) later) :
    Prudent fatal? permits goal (attempt >>= next) heard := by
  apply Program.Heeds.bind _ first
  intro result later ends
  cases ends with
  | met clean met => exact rest _ later clean met
  | unsent clean => exact Ends.unsent clean
  | failed clean fatal => exact Ends.failed clean fatal

/-- A request is sent, and a reply is judged: the attempt goes on from one that can be read or is tolerated, and any
other ends it. -/
theorem prudent_read {decode : Json → Option α} {request : Request} {tolerates : ApiError → Bool}
    {next : Except ApiError α → Program (Except ApiError β)} {goal : β → List Exchange → Prop}
    (clean : Clean fatal? heard) (permitted : permits heard request)
    (judges : ∀ reply, fatal? ⟨request, reply⟩ = Exchange.judged decode tolerates reply)
    (strict : tolerates .unanswered = false)
    (reads : ∀ json value, decode json = some value →
      ∃ given, next (.ok value) = pure (.ok given) ∧ goal given (⟨request, .ok json⟩ :: heard))
    (tolerated : ∀ error, tolerates error = true →
      ∃ given, next (.error error) = pure (.ok given) ∧ goal given (⟨request, .error error⟩ :: heard))
    (fails : ∀ error, tolerates error = false → next (.error error) = pure (.error error)) :
    Prudent fatal? permits goal (ofReply (Program.read decode request >>= next)) heard := by
  have goesOn {reply : Except ApiError Json} (harmless : Exchange.judged decode tolerates reply = none) :
      Clean fatal? (⟨request, reply⟩ :: heard) :=
    List.forall_mem_cons.mpr ⟨(judges reply).trans harmless, clean⟩
  refine Program.Heeds.bind (fun result later => Ends fatal? goal (result.mapError .api) later) ?_ ?_
  · refine Program.Heeds.bind (fun (result : Except ApiError α) later =>
      (result = .error .unanswered ∧ later = heard) ∨
        ∃ reply, result = Program.readable decode reply ∧ later = ⟨request, reply⟩ :: heard)
      (Program.heeds_read ⟨clean, permitted⟩ (fun reply => Or.inr ⟨reply, rfl, rfl⟩) (Or.inl ⟨rfl, rfl⟩)) ?_
    rintro result later (⟨rfl, rfl⟩ | ⟨reply, rfl, rfl⟩)
    · rw [fails _ strict]
      exact Ends.unsent clean
    · cases readable : Program.readable decode reply with
      | ok value =>
          obtain ⟨json, rfl, read⟩ := ok_of_readable readable
          obtain ⟨given, goes, met⟩ := reads json value read
          rw [goes]
          exact Ends.met (goesOn (by rw [Exchange.judged, readable])) met
      | error error =>
          cases borne : tolerates error with
          | false =>
              rw [fails error borne]
              refine Ends.failed clean ?_
              rw [judges, Exchange.judged, readable]
              simp only [borne, Bool.false_eq_true, if_false]
          | true =>
              obtain ⟨given, goes, met⟩ := tolerated error borne
              rw [goes]
              cases reply with
              | error fault =>
                  cases readable
                  refine Ends.met (goesOn ?_) met
                  rw [Exchange.judged, Program.readable]
                  simp only [borne, if_true]
              | ok json =>
                  -- A reply that cannot be read is not tolerated.
                  cases read : decode json with
                  | some value => simp [Program.readable, read] at readable
                  | none =>
                      simp only [Program.readable, read, Option.elim, Except.error.injEq] at readable
                      rw [← readable, strict] at borne
                      cases borne
  · intro result later ends
    cases result with
    | ok value => exact ends
    | error error => exact ends

/-- A lookup of an object that need not exist ends the attempt unless it finds the object or is told of nothing. -/
theorem prudent_find? {decode : Json → Option α} {key : Key} {goal : Option α → List Exchange → Prop}
    (clean : Clean fatal? heard) (permitted : permits heard (.get key))
    (judges : ∀ reply, fatal? ⟨.get key, reply⟩ = Exchange.judged decode ApiError.saysNotFound reply)
    (found : ∀ json value, decode json = some value → goal (some value) (⟨.get key, .ok json⟩ :: heard))
    (absent : ∀ error : ApiError, error.saysNotFound = true → goal none (⟨.get key, .error error⟩ :: heard)) :
    Prudent fatal? permits goal (find? decode key) heard := by
  refine prudent_read clean permitted judges rfl (fun json value read => ⟨_, rfl, found json value read⟩) ?_ ?_
  · intro error denied
    exact ⟨none, by simp only [denied, if_true], absent error denied⟩
  · intro error denied
    simp only [denied, Bool.false_eq_true, if_false]

end Attempt

/-- A program goes on with its own value as it ends. -/
theorem Program.bind_pure (program : Program α) : program >>= pure = program := by
  change program.bind .done = program
  induction program with
  | done value => rfl
  | call request next inductionHypothesis => exact congrArg (Program.call request) (funext inductionHypothesis)

namespace Attempt

variable {fatal? : Exchange → Option ApiError} {permits : List Exchange → Request → Prop}
  {goal : α → List Exchange → Prop} {heard : List Exchange}

/-- An attempt goes on with its own value as it ends. -/
theorem bind_pure (attempt : Attempt α) : attempt >>= pure = attempt := by
  have same : (ExceptT.bindCont pure : Except ReconcileFailure α → Program (Except ReconcileFailure α)) = pure := by
    funext result
    cases result <;> rfl
  exact (congrArg (Program.bind attempt) same).trans (Program.bind_pure attempt)

/-- A request whose answer has to be good ends the attempt unless the answer can be read. -/
theorem prudent_require {decode : Json → Option α} {request : Request} (clean : Clean fatal? heard)
    (permitted : permits heard request)
    (judges : ∀ reply, fatal? ⟨request, reply⟩ = Exchange.judged decode (fun _ => false) reply)
    (answered : ∀ json value, decode json = some value → goal value (⟨request, .ok json⟩ :: heard)) :
    Prudent fatal? permits goal (require decode request) heard := by
  rw [require, ← Program.bind_pure (Program.read decode request)]
  exact prudent_read clean permitted judges rfl (fun json value read => ⟨value, rfl, answered json value read⟩)
    (fun _ impossible => by cases impossible) fun _ _ => rfl

/-! ### Objects that have to exist -/

/-- The reply shows that an object is stored under the key, or claims that it is. -/
inductive Secures (key : Key) : Exchange → Prop where
  | there (json : Json) : Secures key ⟨.get key, .ok json⟩
  | created {kind : Kind} {space : String} {object : Json} (about : Request.createdKey kind space object = key)
      (json : Json) : Secures key ⟨.create kind space object, .ok json⟩
  | taken {kind : Kind} {space : String} {object : Json} (about : Request.createdKey kind space object = key)
      {error : ApiError} (exists' : error.isAlreadyExists = true) :
      Secures key ⟨.create kind space object, .error error⟩

/-- See to it that objects exist, one after the other. -/
def ensureAll : List (Key × Json) → Attempt Unit
  | [] => pure ()
  | resource :: rest => do
    ensure resource.1 resource.2
    ensureAll rest

theorem uses_ensureAll {allowed : Request → Prop} {resources : List (Key × Json)}
    (allows : ∀ resource ∈ resources, allowed (.get resource.1) ∧
      allowed (.create resource.1.kind resource.1.namespaceName resource.2)) : Uses allowed (ensureAll resources) := by
  induction resources with
  | nil => exact uses_pure ()
  | cons resource rest inductionHypothesis =>
      obtain ⟨here, there⟩ := List.forall_mem_cons.mp allows
      exact Uses.bind (uses_ensure here.1 here.2) fun _ => inductionHypothesis there

/-- An object is ensured: once that succeeds, it was heard of. -/
theorem prudent_ensure {key : Key} {desired : Json} {goal : List Exchange → Prop} (clean : Clean fatal? heard)
    (named : Request.createdKey key.kind key.namespaceName desired = key) (looks : permits heard (.get key))
    (creates : ∀ reply, permits (⟨.get key, reply⟩ :: heard) (.create key.kind key.namespaceName desired))
    (looked : ∀ reply, fatal? ⟨.get key, reply⟩ =
      Exchange.judged (Program.ofKind key.kind) ApiError.isNotFound reply)
    (made : ∀ reply, fatal? ⟨.create key.kind key.namespaceName desired, reply⟩ =
      Exchange.judged (Program.ofKind key.kind) ApiError.isAlreadyExists reply)
    (there : ∀ json, goal (⟨.get key, .ok json⟩ :: heard))
    (stored : ∀ fault exchange, Secures key exchange →
      exchange.request = .create key.kind key.namespaceName desired →
        goal (exchange :: ⟨.get key, .error fault⟩ :: heard)) :
    Prudent fatal? permits (fun _ => goal) (ensure key desired) heard := by
  refine Prudent.bind (fun present later => if present = true then goal later
    else ∃ fault, later = ⟨.get key, .error fault⟩ :: heard) ?_ ?_
  · refine prudent_read clean looks looked rfl (fun json _ _ => ⟨true, rfl, there json⟩) ?_ ?_
    · intro error denied
      exact ⟨false, by simp only [denied, if_true], error, rfl⟩
    · intro error denied
      simp only [denied, Bool.false_eq_true, if_false]
  · intro present later clean met
    cases present with
    | true => exact prudent_pure clean met
    | false =>
        obtain ⟨fault, rfl⟩ := met
        refine prudent_read clean (creates _) made rfl
          (fun json _ _ => ⟨(), rfl, stored fault _ (.created named json) rfl⟩) ?_ ?_
        · intro error exists'
          exact ⟨(), by simp only [exists', if_true], stored fault _ (.taken named exists') rfl⟩
        · intro error other
          simp only [other, Bool.false_eq_true, if_false]

end Attempt

end Turnstile
