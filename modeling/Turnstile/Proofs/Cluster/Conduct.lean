/-
Module: Turnstile.Proofs.Cluster.Conduct
Purpose: What a program of requests keeps to, whatever others do between its requests.
Main exports: Program.Abides, Program.Abides.bind, Attempt.Abides, Attempt.Abides.bind, Attempt.abides_require,
  Attempt.abides_find?, Program.Serves, Program.Abides.of_serves, Program.play, Program.Uses.abides
-/
import Mathlib.Data.List.Sort
import Turnstile.Proofs.Cluster.History
import Turnstile.Reconcile.Write

/-!
A program abides by a law on histories if each of its requests keeps the law, however the request ends and
whatever moves of others come before it, and if its value meets a goal.  The judgement is built up along the
program, so what is known after one request is there to justify the next.

For an attempt the goal speaks of success only: a failure ends the program, and nothing is left to justify.
-/

namespace Turnstile

/-- The answer of the server, where a list whose entries are in order already is not sorted. -/
def Cluster.computed (cluster : Cluster) : Request → Cluster × Except ApiError Json
  | .list kind space selection =>
    let entries := cluster.objects.filter fun entry =>
      entry.1.kind == kind && entry.1.namespaceName == space && selects selection entry
    if entries.Pairwise fun first second => decide (first.1.name ≤ second.1.name) = true then
      (cluster, .ok (cluster.listAnswer kind entries))
    else cluster.answer (.list kind space selection)
  | request => cluster.answer request

theorem Cluster.computed_eq_answer (cluster : Cluster) (request : Request) :
    cluster.computed request = cluster.answer request := by
  cases request with
  | list kind space selection =>
      simp only [computed]
      split
      · rename_i ordered
        rw [answer, listed, List.mergeSort_of_pairwise ordered]
      · rfl
  | _ => rfl

/-- The answer of the server, where entries of distinct names are put in their places one by one. -/
def Cluster.ranked (cluster : Cluster) : Request → Cluster × Except ApiError Json
  | .list kind space selection =>
    let entries := cluster.objects.filter fun entry =>
      entry.1.kind == kind && entry.1.namespaceName == space && selects selection entry
    if (entries.map fun entry => entry.1.name).Nodup then
      (cluster, .ok (cluster.listAnswer kind
        (entries.insertionSort fun first second => first.1.name ≤ second.1.name)))
    else cluster.answer (.list kind space selection)
  | request => cluster.answer request

theorem Cluster.ranked_eq_answer (cluster : Cluster) (request : Request) :
    cluster.ranked request = cluster.answer request := by
  cases request with
  | list kind space selection =>
      simp only [ranked]
      split
      · rename_i distinct
        have transitive : IsTrans (Key × Json) fun first second => first.1.name ≤ second.1.name :=
          ⟨fun _ _ _ lower upper => String.le_trans lower upper⟩
        have total : Std.Total fun (first second : Key × Json) => first.1.name ≤ second.1.name :=
          ⟨fun first second => String.le_total first.1.name second.1.name⟩
        rw [answer, listed]
        congr 3
        refine List.Perm.eq_of_pairwise ?_ (List.pairwise_insertionSort _ _) (List.pairwise_mergeSort' _ _)
          ((List.perm_insertionSort _ _).trans (List.mergeSort_perm _ _).symm)
        -- Names are distinct, so entries of the same place are the same entry.
        intro first second member other below above
        exact List.inj_on_of_nodup_map distinct ((List.mem_insertionSort _).mp member)
          (List.mem_mergeSort.mp other) (String.le_antisymm below above)
      · rfl
  | _ => rfl

/-- Every request of the program keeps the law, whatever moves come before it, and its value meets the goal. -/
def Program.Abides {α : Type} (law : History → Prop) (moves : History → History → Prop)
    (goal : α → History → Prop) : Program α → History → Prop
  | .done value, history => goal value history
  | .call request next, history =>
    ∀ later, moves history later → law later → ∀ cluster reply,
      Reply later.present request cluster reply →
        law (cluster :: later) ∧ (next reply).Abides law moves goal (cluster :: later)

variable {α β : Type} {law : History → Prop} {moves : History → History → Prop}

namespace Program

/-- A program abides if its first part does and the rest does from wherever the first part ends. -/
theorem Abides.bind (middle : α → History → Prop) {goal : β → History → Prop} {program : Program α}
    {next : α → Program β} {history : History} (first : program.Abides law moves middle history)
    (rest : ∀ value later, middle value later → (next value).Abides law moves goal later) :
    (program.bind next).Abides law moves goal history := by
  induction program generalizing history with
  | done value => exact rest value history first
  | call request after inductionHypothesis =>
      intro later moved lawful cluster reply served
      obtain ⟨kept, continues⟩ := first later moved lawful cluster reply served
      exact ⟨kept, inductionHypothesis reply continues⟩

/-- What meets a goal meets a weaker one. -/
theorem Abides.weaken {strong weak : α → History → Prop} {program : Program α} {history : History}
    (abides : program.Abides law moves strong history)
    (weaker : ∀ value later, strong value later → weak value later) :
    program.Abides law moves weak history := by
  induction program generalizing history with
  | done value => exact weaker value history abides
  | call request after inductionHypothesis =>
      intro later moved lawful cluster reply served
      obtain ⟨kept, continues⟩ := abides later moved lawful cluster reply served
      exact ⟨kept, inductionHypothesis reply continues⟩

/-- A program that waits goes on to abide while others move. -/
theorem Abides.moved {goal : α → History → Prop} {program : Program α} {history later : History}
    (abides : program.Abides law moves goal history)
    (compose : ∀ {first second third}, moves first second → moves second third → moves first third)
    (stays : ∀ value, goal value history → goal value later) (moved : moves history later) :
    program.Abides law moves goal later := by
  cases program with
  | done value => exact stays value abides
  | call request next =>
      intro latest further
      exact abides latest (compose moved further)

/-! ### Programs that are served without interruption -/

/-- The program is served from its first request to its last, with nothing in between. -/
inductive Serves : Program α → History → History → α → Prop where
  | done (value : α) (history : History) : Serves (.done value) history history value
  | call {request : Request} {next : Except ApiError Json → Program α} {history final : History}
      {cluster : Cluster} {reply : Except ApiError Json} {value : α}
      (served : Reply history.present request cluster reply)
      (rest : Serves (next reply) (cluster :: history) final value) :
      Serves (.call request next) history final value

/-- What has been before a program is served has been. -/
theorem Serves.since {program : Program α} {history final : History} {value : α}
    (served : Serves program history final value) : history <:+ final := by
  induction served with
  | done => exact List.suffix_refl _
  | call served rest inductionHypothesis => exact (List.suffix_cons _ _).trans inductionHypothesis

/-- A program that abides also when nobody moves keeps the law from its start to its end and meets its goal. -/
theorem Abides.of_serves {goal : α → History → Prop} {program : Program α} {history final : History}
    {value : α} (served : Serves program history final value) (rests : ∀ history, moves history history)
    (lawful : law history) (abides : program.Abides law moves goal history) : law final ∧ goal value final := by
  induction served with
  | done value history => exact ⟨lawful, abides⟩
  | call served rest inductionHypothesis =>
      obtain ⟨kept, continues⟩ := abides _ (rests _) lawful _ _ served
      exact inductionHypothesis kept continues

/-- Serve a program without interruption; a request that is chosen to fail is refused as a conflict. -/
def play (fails : Request → Bool) : Program α → History → History × α
  | .done value, history => (history, value)
  | .call request next, history =>
    if fails request then (next (.error Cluster.modified)).play fails (history.present :: history)
    else
      let (cluster, reply) := history.present.computed request
      (next reply).play fails (cluster :: history)

theorem serves_play (fails : Request → Bool) (program : Program α) (history : History) :
    Serves program history (program.play fails history).1 (program.play fails history).2 := by
  induction program generalizing history with
  | done value => exact .done value history
  | call request next inductionHypothesis =>
      simp only [play, Cluster.computed_eq_answer]
      split
      · exact .call (.refused rfl) (inductionHypothesis _ _)
      · exact .call .answered (inductionHypothesis _ _)

/-- A program that is seen to succeed is served without interruption. -/
theorem serves_play_of_toBool {ε : Type} {fails : Request → Bool} {program : Program (Except ε Unit)}
    {history : History} (succeeds : (program.play fails history).2.toBool = true) :
    Serves program history (program.play fails history).1 (.ok ()) := by
  have served := serves_play fails program history
  cases value : (program.play fails history).2 with
  | error failure =>
      rw [value] at succeeds
      cases succeeds
  | ok done =>
      rw [value] at served
      exact served

/-- Serve a program without interruption by a way to answer requests. -/
def perform (answers : Cluster → Request → Cluster × Except ApiError Json) : Program α → History → History × α
  | .done value, history => (history, value)
  | .call request next, history =>
    let (cluster, reply) := answers history.present request
    (next reply).perform answers (cluster :: history)

theorem serves_perform {answers : Cluster → Request → Cluster × Except ApiError Json}
    (exact' : ∀ cluster request, answers cluster request = cluster.answer request) (program : Program α)
    (history : History) : Serves program history (program.perform answers history).1
      (program.perform answers history).2 := by
  induction program generalizing history with
  | done value => exact .done value history
  | call request next inductionHypothesis =>
      simp only [perform, exact']
      exact .call .answered (inductionHypothesis _ _)

end Program

namespace Attempt

/-- The goal is met by a good value. -/
def Good {ε : Type} (goal : α → History → Prop) (result : Except ε α) (history : History) : Prop :=
  ∀ value, result = .ok value → goal value history

theorem good_error {ε : Type} {goal : α → History → Prop} (error : ε) (history : History) :
    Good goal (.error error) history := by
  intro value impossible
  cases impossible

/-- Every request of the attempt keeps the law, and its value meets the goal if it succeeds. -/
def Abides (law : History → Prop) (moves : History → History → Prop) (goal : α → History → Prop)
    (attempt : Attempt α) (history : History) : Prop :=
  Program.Abides law moves (Good goal) attempt history

variable {goal : α → History → Prop}

theorem abides_pure {value : α} {history : History} (met : goal value history) :
    Abides law moves goal (pure value) history := by
  intro result same
  cases same
  exact met

theorem abides_fail (failure : ReconcileFailure) (history : History) :
    Abides law moves goal (fail failure) history :=
  good_error failure history

/-- An attempt abides if its first part does and the rest does from wherever the first part succeeds. -/
theorem Abides.bind (middle : α → History → Prop) {goal : β → History → Prop} {attempt : Attempt α}
    {next : α → Attempt β} {history : History} (first : Abides law moves middle attempt history)
    (rest : ∀ value later, middle value later → Abides law moves goal (next value) later) :
    Abides law moves goal (attempt >>= next) history := by
  apply Program.Abides.bind _ first
  intro result later met
  cases result with
  | error failure => exact good_error failure later
  | ok value => exact rest value later (met value rfl)

/-! ### Single requests -/

/-- What has to hold of one request: it keeps the law however it ends, and its reply meets the outcome. -/
def Sends (law : History → Prop) (moves : History → History → Prop) (request : Request)
    (outcome : Except ApiError Json → History → Prop) (history : History) : Prop :=
  ∀ later, moves history later → law later → ∀ cluster reply,
    Reply later.present request cluster reply → law (cluster :: later) ∧ outcome reply (cluster :: later)

/-- A request is sent, or it lacks a name and fails at once. -/
theorem abides_read {decode : Json → Option α} {request : Request} {history : History}
    {goal : Except ApiError α → History → Prop}
    (sends : Sends law moves request (fun reply => goal (Program.readable decode reply)) history)
    (unsent : goal (.error .unanswered) history) :
    (Program.read decode request).Abides law moves goal history := by
  refine Program.Abides.bind (fun reply => goal (Program.readable decode reply)) ?_ fun _ _ met => met
  unfold Program.ask
  split
  · exact sends
  · exact unsent

/-- A good answer is carried on, and a failed request fails the attempt. -/
theorem abides_ofReply {program : Program (Except ApiError α)} {history : History}
    (abides : program.Abides law moves (Good goal) history) :
    Abides law moves goal (ofReply program) history := by
  apply Program.Abides.bind _ abides
  intro result later met
  cases result with
  | error error => exact good_error _ later
  | ok value => exact abides_pure (met value rfl)

/-- A readable answer is a good one that can be decoded. -/
theorem ok_of_readable {decode : Json → Option α} {reply : Except ApiError Json} {value : α}
    (readable : Program.readable decode reply = .ok value) :
    ∃ json, reply = .ok json ∧ decode json = some value := by
  cases reply with
  | error error => cases readable
  | ok json =>
      refine ⟨json, rfl, ?_⟩
      cases read : decode json with
      | none => simp [Program.readable, read] at readable
      | some given => simpa [Program.readable, read] using readable

/-- A request whose answer has to be good. -/
theorem abides_require {decode : Json → Option α} {request : Request} {history : History}
    (sends : Sends law moves request
      (fun reply later => ∀ json value, reply = .ok json → decode json = some value → goal value later)
      history) :
    Abides law moves goal (require decode request) history := by
  refine abides_ofReply (abides_read ?_ (good_error _ history))
  intro later moved lawful cluster reply served
  obtain ⟨kept, met⟩ := sends later moved lawful cluster reply served
  refine ⟨kept, ?_⟩
  intro value readable
  obtain ⟨json, ok, read⟩ := ok_of_readable readable
  exact met json value ok read

/-- A lookup of an object that need not exist: it finds what is there, and finds nothing if nothing is. -/
theorem abides_find? {decode : Json → Option α} {key : Key} {history : History}
    {goal : Option α → History → Prop} (stutters : ∀ later, law later → law (later.present :: later))
    (found : ∀ later object value, moves history later → later.present.find? key = some object →
      decode object = some value → goal (some value) (later.present :: later))
    (absent : ∀ later, moves history later → later.present.find? key = none →
      goal none (later.present :: later)) :
    Abides law moves goal (find? decode key) history := by
  refine abides_ofReply (Program.Abides.bind
    (fun (result : Except ApiError α) later => (∀ value, result = .ok value → goal (some value) later) ∧
      ∀ error, result = .error error → error.saysNotFound = true → goal none later) ?_ ?_)
  · refine abides_read ?_ ⟨by simp, ?_⟩
    · intro later moved lawful cluster reply served
      obtain ⟨rfl, outcome⟩ := served.of_get
      refine ⟨stutters later lawful, ?_, ?_⟩
      · intro value readable
        obtain ⟨json, ok, read⟩ := ok_of_readable readable
        rcases outcome with ⟨object, there, same⟩ | ⟨_, same⟩ | ⟨error, _, same⟩
        · cases same.symm.trans ok
          exact found later _ value moved there read
        · cases same.symm.trans ok
        · cases same.symm.trans ok
      · intro error unreadable denied
        rcases outcome with ⟨object, there, same⟩ | ⟨missing, same⟩ | ⟨fault, honest, same⟩
        · subst same
          cases read : decode object with
          | some value => simp [Program.readable, read] at unreadable
          | none =>
              simp only [Program.readable, read, Option.elim, Except.error.injEq] at unreadable
              rw [← unreadable] at denied
              cases denied
        · exact absent later moved missing
        · subst same
          cases unreadable
          rw [honest] at denied
          cases denied
    · intro error same denied
      cases same
      cases denied
  · intro result later met
    cases result with
    | ok value => exact fun given same => by cases same; exact met.1 value rfl
    | error error =>
        cases denied : error.saysNotFound with
        | true =>
            simp only [denied, if_true]
            exact fun given same => by cases same; exact met.2 error rfl denied
        | false =>
            simp only [denied]
            exact good_error error later

/-- An object is created or taken as it is: its creation is asked for once, and in the end it is there and can be
read. -/
theorem abides_createOrGet {decode : Json → Option α} {key : Key} {desired : Json} {history : History}
    (asked : History → Prop) {made : History → Prop}
    (named : Request.createdKey key.kind key.namespaceName desired = key)
    (stutters : ∀ later, law later → law (later.present :: later))
    (stays : ∀ {later final}, asked later → moves later final → asked final)
    (rests : ∀ {later : History}, asked later → asked (later.present :: later))
    (creates : Sends law moves (.create key.kind key.namespaceName desired) (fun _ => asked) history)
    (taken : ∀ later object value, asked later → later.present.find? key = some object →
      decode object = some value → made later) :
    Abides law moves (fun _ => made) (createOrGet decode key desired) history := by
  refine abides_ofReply (Program.Abides.bind
    (fun (result : Except ApiError α) later =>
      (∀ value, result = .ok value → made later) ∧ ∀ error, result = .error error →
        error ≠ .unanswered → asked later) ?_ ?_)
  · refine abides_read ?_ ⟨by simp, ?_⟩
    · intro later moved lawful cluster reply served
      obtain ⟨kept, wasAsked⟩ := creates later moved lawful cluster reply served
      refine ⟨kept, ?_, fun _ _ _ => wasAsked⟩
      intro value readable
      obtain ⟨json, ok, read⟩ := ok_of_readable readable
      subst ok
      have present := served.of_create_ok
      rw [named] at present
      exact taken _ json value wasAsked present read
    · intro error same answered
      cases same
      exact absurd rfl answered
  · intro result later met
    cases result with
    | ok value => exact fun given same => by cases same; exact met.1 value rfl
    | error error =>
        cases exists' : error.isAlreadyExists with
        | false =>
            simp only [exists']
            exact good_error error later
        | true =>
            simp only [exists', if_true]
            have answered : error ≠ .unanswered := by
              intro same
              rw [same] at exists'
              cases exists'
            refine abides_read ?_ (good_error _ later)
            intro final moved lawful cluster reply served
            obtain ⟨rfl, outcome⟩ := served.of_get
            refine ⟨stutters final lawful, ?_⟩
            intro value readable
            obtain ⟨json, ok, read⟩ := ok_of_readable readable
            rcases outcome with ⟨object, there, same⟩ | ⟨_, same⟩ | ⟨fault, _, same⟩
            · cases same.symm.trans ok
              exact taken _ json value (rests (stays (met.2 error rfl answered) moved)) there read
            · cases same.symm.trans ok
            · cases same.symm.trans ok

end Attempt

/-! ### Programs that send only some requests -/

namespace Program

/-- Every request of the program is of an allowed kind, whatever is replied. -/
def Uses (allowed : Request → Prop) : Program α → Prop
  | .done _ => True
  | .call request next => allowed request ∧ ∀ reply, (next reply).Uses allowed

variable {allowed : Request → Prop}

theorem Uses.bind {program : Program α} {next : α → Program β} (first : program.Uses allowed)
    (rest : ∀ value, (next value).Uses allowed) : (program.bind next).Uses allowed := by
  induction program with
  | done value => exact rest value
  | call request after inductionHypothesis =>
      exact ⟨first.1, fun reply => inductionHypothesis reply (first.2 reply)⟩

/-- What is allowed is also allowed where more is. -/
theorem Uses.weaken {more : Request → Prop} {program : Program α} (uses : program.Uses allowed)
    (weaker : ∀ {request}, allowed request → more request) : program.Uses more := by
  induction program with
  | done value => trivial
  | call request next inductionHypothesis =>
      exact ⟨weaker uses.1, fun reply => inductionHypothesis reply (uses.2 reply)⟩

theorem uses_read {decode : Json → Option α} {request : Request} (permitted : allowed request) :
    (read decode request).Uses allowed := by
  refine Uses.bind ?_ fun _ => trivial
  unfold ask
  split
  · exact ⟨permitted, fun _ => trivial⟩
  · trivial

/-- What the allowed requests keep, a program of such requests keeps. -/
theorem Uses.abides {program : Program α} (uses : program.Uses allowed) (kept : History → Prop)
    (stays : ∀ {later final}, kept later → moves later final → kept final)
    (keeps : ∀ {later request cluster reply}, kept later → law later → allowed request →
      Reply later.present request cluster reply → law (cluster :: later) ∧ kept (cluster :: later))
    {history : History} (holds : kept history) :
    program.Abides law moves (fun _ => kept) history := by
  induction program generalizing history with
  | done value => exact holds
  | call request next inductionHypothesis =>
      intro later moved lawful cluster reply served
      obtain ⟨lawfulNext, keptNext⟩ := keeps (stays holds moved) lawful uses.1 served
      exact ⟨lawfulNext, inductionHypothesis reply (uses.2 reply) keptNext⟩

/-- A program that abides by a law abides by a stronger one, if its requests keep that wherever they keep the
law. -/
theorem Abides.strengthen {strong : History → Prop} {goal : α → History → Prop} {program : Program α}
    {history : History} (abides : program.Abides law moves goal history) (uses : program.Uses allowed)
    (implies : ∀ {later}, strong later → law later)
    (keeps : ∀ {later request cluster reply}, strong later → allowed request →
      Reply later.present request cluster reply → law (cluster :: later) → strong (cluster :: later)) :
    program.Abides strong moves goal history := by
  induction program generalizing history with
  | done value => exact abides
  | call request next inductionHypothesis =>
      intro later moved lawful cluster reply served
      obtain ⟨kept, continues⟩ := abides later moved (implies lawful) cluster reply served
      exact ⟨keeps lawful uses.1 served kept, inductionHypothesis reply continues (uses.2 reply)⟩

end Program

namespace Attempt

variable {allowed : Request → Prop}

/-- Every request of the attempt is of an allowed kind, whatever is replied. -/
def Uses (allowed : Request → Prop) (attempt : Attempt α) : Prop :=
  Program.Uses allowed attempt

theorem uses_pure (value : α) : Uses allowed (pure value) := trivial

theorem uses_fail (failure : ReconcileFailure) : Uses (α := α) allowed (fail failure) := trivial

theorem Uses.bind {attempt : Attempt α} {next : α → Attempt β} (first : Uses allowed attempt)
    (rest : ∀ value, Uses allowed (next value)) : Uses allowed (attempt >>= next) := by
  apply Program.Uses.bind first
  intro result
  cases result with
  | error failure => exact uses_fail failure
  | ok value => exact rest value

theorem uses_ofReply {program : Program (Except ApiError α)} (uses : program.Uses allowed) :
    Uses allowed (ofReply program) := by
  apply Program.Uses.bind uses
  intro result
  cases result <;> exact trivial

theorem uses_require {decode : Json → Option α} {request : Request} (permitted : allowed request) :
    Uses allowed (require decode request) :=
  uses_ofReply (Program.uses_read permitted)

theorem uses_find? {decode : Json → Option α} {key : Key} (permitted : allowed (.get key)) :
    Uses allowed (find? decode key) := by
  refine uses_ofReply (Program.Uses.bind (Program.uses_read permitted) ?_)
  intro result
  cases result with
  | ok value => exact trivial
  | error error => exact trivial

theorem uses_ensure {key : Key} {desired : Json} (looks : allowed (.get key))
    (creates : allowed (.create key.kind key.namespaceName desired)) :
    Uses allowed (ensure key desired) := by
  refine Uses.bind (uses_ofReply (Program.Uses.bind (Program.uses_read looks) ?_)) ?_
  · intro result
    cases result with
    | ok value => exact trivial
    | error error => exact trivial
  · intro present
    cases present with
    | true => exact uses_pure ()
    | false =>
        refine uses_ofReply (Program.Uses.bind (Program.uses_read creates) ?_)
        intro result
        cases result with
        | ok value => exact trivial
        | error error => exact trivial

theorem uses_createOrGet {decode : Json → Option α} {key : Key} {desired : Json} (looks : allowed (.get key))
    (creates : allowed (.create key.kind key.namespaceName desired)) :
    Uses allowed (createOrGet decode key desired) := by
  refine uses_ofReply (Program.Uses.bind (Program.uses_read creates) ?_)
  intro result
  cases result with
  | ok value => exact trivial
  | error error =>
      simp only
      split
      · exact Program.uses_read looks
      · exact trivial

/-- What the allowed requests keep, an attempt of such requests keeps. -/
theorem Uses.abides {attempt : Attempt α} (uses : Uses allowed attempt) (kept : History → Prop)
    (stays : ∀ {later final}, kept later → moves later final → kept final)
    (keeps : ∀ {later request cluster reply}, kept later → law later → allowed request →
      Reply later.present request cluster reply → law (cluster :: later) ∧ kept (cluster :: later))
    {history : History} (holds : kept history) :
    Abides law moves (fun _ => kept) attempt history :=
  Program.Abides.weaken (Program.Uses.abides uses kept stays keeps holds) fun _ _ met _ _ => met

end Attempt

end Turnstile
