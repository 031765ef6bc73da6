/-
Module: Turnstile.Proofs.Launch.Watchers
Purpose: What the answers of the watchers of a launch say about what they saw.
Main exports: LaunchFailure.code?, Watcher.Codeless, Watcher.connectable_of_forPod,
  Watcher.FirstExit, Watcher.firstExit?_eq_some_iff, Watcher.firstExit_of_forExitCode
-/
import Turnstile.Launch.Watchers
import Turnstile.Proofs.Watch

/-!
No watcher of the monitor makes up an exit code.  The watcher of the pod reports a pod that it saw ready or
finished.  The listener for the exit code ends well, or with a code, only because of the first pod it saw
whose runner had terminated.
-/

namespace Turnstile

/-- The exit code that a failure passes on. -/
def LaunchFailure.code? : LaunchFailure → Option Int32
  | .exitCode code => some code
  | _ => none

/-- A pod that a client may connect to. -/
def Pod.Connectable (pod : Pod) : Prop :=
  pod.state = .ready ∨ pod.state = .finished

namespace Watcher

section Answers

variable {State Object Answer : Type} {watcher : Watcher State Object Answer} {cancelAt closesAt : Option Nat}
  {now : Nat} {state : State} {events : List (Nat × Except WatchFault Object)} {ending : Ending Object Answer}

theorem answer_of_interrupted {next : Option Nat} {time : Nat} {answer : Except LaunchFailure Answer}
    (interrupted : watcher.interrupted? cancelAt now state next = some (time, answer)) :
    answer = watcher.cancelled ∨ answer = watcher.expired state := by
  unfold interrupted? at interrupted
  simp only at interrupted
  split at interrupted
  · obtain ⟨_, _, same⟩ := Option.map_eq_some_iff.mp interrupted
    cases same
    exact .inl rfl
  · split at interrupted
    · obtain ⟨_, _, same⟩ := Option.map_eq_some_iff.mp interrupted
      cases same
      exact .inr rfl
    · cases interrupted

/-- What holds of every answer of the rule, and of faults of the watch, holds of the answer in the end. -/
theorem answer_of_ends (property : Except LaunchFailure Answer → Prop) (onCancelled : property watcher.cancelled)
    (onExpired : ∀ state, property (watcher.expired state)) (onClosed : property watcher.closed)
    (onFault : ∀ fault, property (.error (.watch fault)))
    (onAnswer : ∀ time state object given, watcher.observe time state object = .answer given → property given)
    (ends : watcher.Ends cancelAt closesAt now state events ending) : property ending.answer := by
  induction ends with
  | interrupted interrupted =>
      rcases answer_of_interrupted interrupted with rfl | rfl
      · exact onCancelled
      · exact onExpired _
  | closed => exact onClosed
  | faulty => exact onFault _
  | answered _ observed => exact onAnswer _ _ _ _ observed
  | onward _ _ _ inductionHypothesis => exact inductionHypothesis

end Answers

/-- The answer passes on no exit code. -/
def Codeless {Answer : Type} : Except LaunchFailure Answer → Prop
  | .ok _ => True
  | .error failure => failure.code? = none

section Codeless

variable {cancelAt closesAt : Option Nat} {now : Nat}

theorem codeless_forQueue {run : String} {enqueue queue : Nat} {seen : Option Nat}
    {events : List (Nat × Except WatchFault Workspace)} {ending : Ending Workspace Unit}
    (ends : (forQueue run enqueue queue).Ends cancelAt closesAt now seen events ending) : Codeless ending.answer := by
  refine answer_of_ends Codeless ?_ ?_ ?_ ?_ ?_ ends
  · trivial
  · rintro (_ | since) <;> rfl
  · rfl
  · exact fun _ => rfl
  · intro time seen workspace given observed
    simp only [forQueue] at observed
    split at observed <;> cases observed
    trivial

theorem codeless_forRun {reconcile ready : Nat} {seen : RunSeen} {events : List (Nat × Except WatchFault Run)}
    {ending : Ending Run Unit} (ends : (forRun reconcile ready).Ends cancelAt closesAt now seen events ending) :
    Codeless ending.answer := by
  refine answer_of_ends Codeless ?_ ?_ ?_ ?_ ?_ ends
  · trivial
  · rintro ⟨_ | _, _⟩ <;> rfl
  · rfl
  · exact fun _ => rfl
  · intro time seen run given observed
    simp only [forRun] at observed
    split at observed
    · rename_i failure ended
      cases observed
      unfold endedUnexecuted? at ended
      split at ended
      · cases ended
      · split at ended <;> cases ended
        rfl
    · cases observed

theorem codeless_forPod {state : Unit} {events : List (Nat × Except WatchFault Pod)} {ending : Ending Pod (Option Pod)}
    (ends : forPod.Ends cancelAt closesAt now state events ending) : Codeless ending.answer := by
  refine answer_of_ends Codeless ?_ ?_ ?_ ?_ ?_ ends
  · trivial
  · exact fun _ => trivial
  · rfl
  · exact fun _ => rfl
  · intro time seen pod given observed
    simp only [forPod] at observed
    split at observed <;> cases observed
    · trivial
    · trivial
    · rfl

end Codeless

/-- The watcher of the pod reports a pod that was delivered, and that a client may connect to. -/
theorem connectable_of_forPod {cancelAt closesAt : Option Nat} {now : Nat} {state : Unit}
    {events : List (Nat × Except WatchFault Pod)} {ending : Ending Pod (Option Pod)} {pod : Pod}
    (ends : forPod.Ends cancelAt closesAt now state events ending) (reported : ending.answer = .ok (some pod)) :
    ∃ time, (time, .ok pod) ∈ events ∧ pod.Connectable := by
  induction ends with
  | interrupted interrupted =>
      rcases answer_of_interrupted interrupted with same | same
      · cases same.symm.trans reported
      · cases same.symm.trans reported
  | closed => cases reported
  | faulty => cases reported
  | @answered now earliest state object given rest waited observed =>
      simp only [forPod] at observed
      cases reported
      split at observed
      · cases observed
      · rename_i ready
        cases observed
        exact ⟨earliest, List.mem_cons_self, .inl ready⟩
      · rename_i finished
        cases observed
        exact ⟨earliest, List.mem_cons_self, .inr finished⟩
      · cases observed
  | onward _ _ _ inductionHypothesis =>
      obtain ⟨time, member, connectable⟩ := inductionHypothesis reported
      exact ⟨time, List.mem_cons_of_mem _ member, connectable⟩

/-- The first pod delivered whose runner had terminated had ended with the code. -/
inductive FirstExit : List (Nat × Except WatchFault Pod) → Int32 → Prop where
  | now {time : Nat} {pod : Pod} {code : Int32} {later : List (Nat × Except WatchFault Pod)}
      (exited : pod.exitCode? = some code) : FirstExit ((time, .ok pod) :: later) code
  | later {time : Nat} {pod : Pod} {code : Int32} {later : List (Nat × Except WatchFault Pod)}
      (running : pod.exitCode? = none) (first : FirstExit later code) : FirstExit ((time, .ok pod) :: later) code

/-- The code of the first pod delivered whose runner had terminated. -/
def firstExit? : List (Nat × Except WatchFault Pod) → Option Int32
  | (_, .ok pod) :: later =>
    match pod.exitCode? with
    | some code => some code
    | none => firstExit? later
  | _ => none

theorem firstExit?_eq_some_iff {events : List (Nat × Except WatchFault Pod)} {code : Int32} :
    firstExit? events = some code ↔ FirstExit events code := by
  constructor
  · intro found
    fun_induction firstExit? events with
    | case1 time pod later given exited =>
        cases found
        exact .now exited
    | case2 time pod later running inductionHypothesis => exact .later running (inductionHypothesis found)
    | case3 => cases found
  · intro first
    induction first with
    | now exited => rw [firstExit?, exited]
    | later running _ inductionHypothesis => rw [firstExit?, running, inductionHypothesis]

/-- The listener that is not cancelled passes on the first exit code that was delivered, or a failure without one. -/
theorem firstExit_of_forExitCode {closesAt : Option Nat} {now : Nat} {state : Unit}
    {events : List (Nat × Except WatchFault Pod)} {ending : Ending Pod Unit}
    (ends : forExitCode.Ends none closesAt now state events ending) :
    (∃ code, FirstExit events code ∧ ending.answer = exitOutcome code) ∨
      (∃ failure, ending.answer = .error failure ∧ failure.code? = none) := by
  induction ends with
  | interrupted interrupted => cases interrupted
  | closed => exact .inr ⟨_, rfl, rfl⟩
  | faulty => exact .inr ⟨_, rfl, rfl⟩
  | @answered now earliest state pod given rest waited observed =>
      simp only [forExitCode] at observed
      split at observed
      · cases observed
      · rename_i code exited
        cases observed
        exact .inl ⟨code, .now exited, rfl⟩
  | @onward now earliest state next pod rest ending waited observed later inductionHypothesis =>
      simp only [forExitCode] at observed
      split at observed
      · rename_i running
        rcases inductionHypothesis with ⟨code, first, same⟩ | failed
        · exact .inl ⟨code, .later running first, same⟩
        · exact .inr failed
      · cases observed

end Watcher

end Turnstile
