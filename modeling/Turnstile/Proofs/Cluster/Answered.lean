/-
Module: Turnstile.Proofs.Cluster.Answered
Purpose: What a program makes of a cluster if each of its requests is answered and nobody comes between.
Main exports: Program.answered, Program.perform_answer, Attempt.answered, Attempt.answered_bind, Cluster.look,
  Attempt.answered_find?, Attempt.answered_require, Attempt.answered_createOrGet, Attempt.abides_look
-/
import Turnstile.Proofs.Cluster.Conduct

/-!
A program whose requests are all answered is a function of the cluster that it starts from.  It is known by what
its parts make of their clusters: a lookup makes nothing of it and tells what is there, and a request whose answer
has to be good makes of it what the server makes of it.
-/

namespace Turnstile

variable {α β : Type}

namespace Program

/-- What a program makes of a cluster, and its value, if every request is answered. -/
def answered : Program α → Cluster → Cluster × α
  | .done value, cluster => (cluster, value)
  | .call request next, cluster =>
    (next (cluster.answer request).2).answered (cluster.answer request).1

/-- A program goes on from what its first part makes of the cluster. -/
theorem answered_bind (program : Program α) (next : α → Program β) (cluster : Cluster) :
    (program >>= next).answered cluster =
      (next (program.answered cluster).2).answered (program.answered cluster).1 := by
  change (program.bind next).answered cluster = _
  induction program generalizing cluster with
  | done value => rfl
  | call request after inductionHypothesis => exact inductionHypothesis _ _

/-- A program that is performed ends with what it makes of the cluster. -/
theorem perform_answer (program : Program α) (history : History) :
    (program.perform Cluster.answer history).1.present = (program.answered history.present).1 ∧
      (program.perform Cluster.answer history).2 = (program.answered history.present).2 := by
  induction program generalizing history with
  | done value => exact ⟨rfl, rfl⟩
  | call request next inductionHypothesis => exact inductionHypothesis _ _

/-- What every allowed request keeps of a cluster, a program of such requests keeps. -/
theorem Uses.answered {allowed : Request → Prop} {program : Program α} (uses : program.Uses allowed)
    (kept : Cluster → Prop)
    (keeps : ∀ {cluster request}, kept cluster → allowed request → kept (cluster.answer request).1)
    {cluster : Cluster} (holds : kept cluster) : kept (program.answered cluster).1 := by
  induction program generalizing cluster with
  | done value => exact holds
  | call request next inductionHypothesis =>
      exact inductionHypothesis _ (uses.2 _) (keeps holds uses.1)

/-- A request about an object with a name has the name it needs. -/
theorem isAddressed_of_key? {request : Request} {key : Key} (about : request.key? = some key)
    (named : key.name.isEmpty = false) : isAddressed request = true := by
  unfold isAddressed
  rw [about]
  split
  · rfl
  · rename_i same _
    cases same
    simp [named]
  · rfl

/-- A request that has its name is answered, and its answer is read. -/
theorem answered_read (decode : Json → Option α) {request : Request} (cluster : Cluster)
    (addressed : isAddressed request = true) :
    (read decode request).answered cluster =
      ((cluster.answer request).1, readable decode (cluster.answer request).2) := by
  rw [read, answered_bind, ask, if_pos addressed]
  rfl

end Program

/-! ### Answers -/

/-- What is created where nothing is stored is written. -/
theorem Cluster.answer_create {cluster : Cluster} {kind : Kind} {space : String} {object : Json} {key : Key}
    (named : Request.createdKey kind space object = key) (absent : cluster.find? key = none) :
    cluster.answer (.create kind space object) = cluster.written key (identified key object) := by
  simp only [answer, named, absent]

/-- A patch that is answered well finds an object, and the object is kept as it is answered. -/
theorem Cluster.patched_ok {cluster next : Cluster} {key : Key} {change counted json : Json}
    (good : cluster.patched key change counted = (next, .ok json)) :
    ∃ object, cluster.find? key = some object ∧ next = cluster.write key (object.mergePatch counted) ∧
      json = kept key (cluster.version + 1) (object.mergePatch counted) := by
  unfold patched at good
  split at good
  · cases good
  · rename_i object found
    split at good
    · cases good
    · cases good
      exact ⟨object, found, rfl, rfl⟩

/-- A patch that is refused makes nothing of the cluster. -/
theorem Cluster.patched_error {cluster next : Cluster} {key : Key} {change counted : Json} {error : ApiError}
    (refused : cluster.patched key change counted = (next, .error error)) : next = cluster := by
  unfold patched at refused
  split at refused
  · cases refused
    rfl
  · split at refused
    · cases refused
      rfl
    · cases refused

/-- What a lookup of an object that need not exist tells of a cluster. -/
def Cluster.look (cluster : Cluster) (decode : Json → Option α) (key : Key) :
    Except ReconcileFailure (Option α) :=
  if key.name.isEmpty then .error (.api .unanswered)
  else
    match cluster.find? key with
    | none => .ok none
    | some object => (decode object).elim (.error (.api .unanswered)) fun value => .ok (some value)

namespace Cluster

variable {cluster next : Cluster} {decode : Json → Option α} {key : Key}

/-- A lookup tells nothing but what is stored under its key. -/
theorem look_congr (same : next.find? key = cluster.find? key) : next.look decode key = cluster.look decode key := by
  rw [look, look, same]

/-- Nothing is stored where a lookup finds nothing. -/
theorem find?_of_look_none (seen : cluster.look decode key = .ok none) : cluster.find? key = none := by
  unfold look at seen
  split at seen
  · cases seen
  · split at seen
    · assumption
    · rename_i object found
      cases read : decode object <;> rw [read] at seen <;> cases seen

/-- What a lookup finds is stored. -/
theorem find?_of_look_some {value : α} (seen : cluster.look decode key = .ok (some value)) :
    ∃ object, cluster.find? key = some object ∧ decode object = some value := by
  unfold look at seen
  split at seen
  · cases seen
  · split at seen
    · cases seen
    · rename_i object found
      refine ⟨object, found, ?_⟩
      cases read : decode object with
      | none =>
          rw [read] at seen
          cases seen
      | some given =>
          rw [read] at seen
          cases seen
          rfl

/-- A lookup that succeeds has a name to look for. -/
theorem name_of_look {found : Option α} (seen : cluster.look decode key = .ok found) : key.name.isEmpty = false := by
  unfold look at seen
  split at seen
  · cases seen
  · rename_i named
    simpa using named

/-- An object that is stored is found by a lookup that can read it. -/
theorem look_of_find? (decode : Json → Option α) (named : key.name.isEmpty = false) {object : Json}
    (stored : cluster.find? key = some object) :
    cluster.look decode key = (decode object).elim (.error (.api .unanswered)) fun value => .ok (some value) := by
  simp only [look, named, stored, Bool.false_eq_true, if_false]

end Cluster

namespace Attempt

/-- What an attempt makes of a cluster, and how it ends, if every request is answered. -/
def answered (attempt : Attempt α) (cluster : Cluster) : Cluster × Except ReconcileFailure α :=
  Program.answered attempt cluster

theorem answered_fail (failure : ReconcileFailure) (cluster : Cluster) :
    answered (α := α) (fail failure) cluster = (cluster, .error failure) := rfl

/-- An attempt goes on if its first part succeeds. -/
theorem answered_bind (attempt : Attempt α) (next : α → Attempt β) (cluster : Cluster) :
    answered (attempt >>= next) cluster =
      match answered attempt cluster with
      | (after, .ok value) => answered (next value) after
      | (after, .error failure) => (after, .error failure) := by
  refine (Program.answered_bind attempt (ExceptT.bindCont next) cluster).trans ?_
  unfold answered
  rcases Program.answered attempt cluster with ⟨after, failure | value⟩ <;> rfl

theorem answered_ofReply (program : Program (Except ApiError α)) (cluster : Cluster) :
    answered (ofReply program) cluster =
      ((program.answered cluster).1, (program.answered cluster).2.mapError .api) := by
  unfold ofReply answered ExceptT.mk
  rw [Program.answered_bind]
  rcases program.answered cluster with ⟨after, error | value⟩ <;> rfl

/-- A request whose answer has to be good makes of a cluster what the server makes of it. -/
theorem answered_require (decode : Json → Option α) {request : Request} (cluster : Cluster)
    (addressed : Program.isAddressed request = true) :
    answered (require decode request) cluster =
      ((cluster.answer request).1, (Program.readable decode (cluster.answer request).2).mapError .api) := by
  rw [require, answered_ofReply, Program.answered_read decode cluster addressed]

/-- A lookup without a name fails at once. -/
theorem find?_unnamed (decode : Json → Option α) {key : Key} (unnamed : key.name.isEmpty = true) :
    find? decode key = fail (.api .unanswered) := by
  have unsent : Program.isAddressed (.get key) = false := by
    simp [Program.isAddressed, Request.verb, Request.key?, unnamed]
  have asked : Program.ask (.get key) = .done (.error .unanswered) := by
    rw [Program.ask, unsent]
    rfl
  unfold find? Program.read
  rw [asked]
  rfl

/-- A lookup makes nothing of a cluster. -/
theorem answered_find? (decode : Json → Option α) (key : Key) (cluster : Cluster) :
    answered (find? decode key) cluster = (cluster, cluster.look decode key) := by
  cases unnamed : key.name.isEmpty with
  | true =>
      rw [find?_unnamed decode unnamed, answered_fail, Cluster.look, if_pos unnamed]
  | false =>
      have addressed : Program.isAddressed (.get key) = true := Program.isAddressed_of_key? rfl unnamed
      rw [find?, answered_ofReply, Program.answered_bind, Program.answered_read decode cluster addressed]
      cases found : cluster.find? key with
      | none =>
          simp only [Cluster.answer, Cluster.look, unnamed, found]
          rfl
      | some object =>
          simp only [Cluster.answer, Cluster.look, unnamed, found, Option.elim, Program.readable]
          cases decode object with
          | none => rfl
          | some value => rfl

/-- An object that is absent is created, and taken if it can be read. -/
theorem answered_createOrGet (decode : Json → Option α) {key : Key} {desired : Json} {cluster : Cluster}
    (named : Request.createdKey key.kind key.namespaceName desired = key) (absent : cluster.find? key = none) :
    answered (createOrGet decode key desired) cluster =
      ((cluster.answer (.create key.kind key.namespaceName desired)).1,
        (decode (Cluster.kept key (cluster.version + 1) (Cluster.identified key desired))).elim
          (.error (.api .unanswered)) .ok) := by
  have addressed : Program.isAddressed (.create key.kind key.namespaceName desired) = true := rfl
  rw [createOrGet, answered_ofReply, Program.answered_bind, Program.answered_read decode cluster addressed,
    Cluster.answer_create named absent]
  simp only [Cluster.written, Program.readable]
  cases decode (Cluster.kept key (cluster.version + 1) (Cluster.identified key desired)) with
  | none => rfl
  | some value => rfl

variable {law : History → Prop} {history : History} {decode : Json → Option α} {key : Key}

/-- A lookup that is not interrupted tells of the cluster what there is to tell, or it fails. -/
theorem abides_look {goal : Option α → History → Prop} (stutters : ∀ later, law later → law (later.present :: later))
    (sees : ∀ found, history.present.look decode key = .ok found → goal found (history.present :: history)) :
    Abides law Eq goal (find? decode key) history := by
  cases unnamed : key.name.isEmpty with
  | true =>
      rw [find?_unnamed decode unnamed]
      exact abides_fail _ history
  | false =>
      refine abides_find? stutters ?_ ?_
      · rintro _ object value rfl stored read
        refine sees (some value) ?_
        rw [Cluster.look_of_find? decode unnamed stored, read]
        rfl
      · rintro _ rfl absent
        refine sees none ?_
        simp only [Cluster.look, unnamed, absent, Bool.false_eq_true, if_false]

end Attempt

end Turnstile
