/-
Module: Turnstile.Proofs.Launch.Handover
Purpose: Which pod is handed to the session, and that the session connects to it as its state asks.
Main exports: Watcher.Idle, Watcher.Breaks, Watcher.outcome_forPod, Watcher.HandingOver, Watcher.handingOver
-/
import Turnstile.Launch.Monitor
import Turnstile.Launch.Session
import Turnstile.Proofs.Launch.Watchers
import Turnstile.Proofs.Watch.Earliest

/-!
A pod is classified twice: by the watcher, which waits until the pod can be connected to, and by the session, which
chooses how to connect.  The session looks at the phase only.  That suffices for a pod that the watcher has let
through, since such a pod is ready or finished, and it is finished exactly by its phase.
-/

namespace Turnstile

/-- A pod is finished for a client exactly if its phase says that it has ended. -/
theorem Pod.state_eq_finished_iff (pod : Pod) : pod.state = .finished ↔ pod.isFinished = true := by
  unfold state
  split
  · rename_i ended
    simp [ended]
  · rename_i lasts
    -- No later test makes a pod finished.
    refine iff_of_false ?_ lasts
    split
    · exact State.noConfusion
    · split
      · exact State.noConfusion
      · split <;> exact State.noConfusion

/-- To a pod that a client may connect to, an interactive client is attached exactly if the pod is ready. -/
theorem Session.attach_forPod_iff {pod : Pod} (connectable : pod.Connectable) (run : String) (interactive : Bool) :
    (Session.forPod pod run interactive).attach = true ↔ interactive = true ∧ pod.state = .ready := by
  simp only [Session.forPod, Bool.and_eq_true, Bool.not_eq_true']
  refine and_congr_right fun _ => ?_
  rcases connectable with ready | finished
  · have lasts : pod.isFinished = false := by
      rw [← Bool.not_eq_true, ← pod.state_eq_finished_iff, ready]
      exact Pod.State.noConfusion
    simp [ready, lasts]
  · simp [finished, pod.state_eq_finished_iff.mp finished]

namespace Watcher

/-! ### What the watcher of the pod reads -/

/-- The arrival shows a pod that is still pending, so the wait goes on. -/
def Idle : Option (Except WatchFault Pod) → Prop
  | some (.ok pod) => pod.state = .pending
  | _ => False

/-- The arrival breaks the wait off: it shows a pod that has failed for good, or the watch fails or ends. -/
inductive Breaks : Option (Except WatchFault Pod) → LaunchFailure → Prop where
  | failed {pod : Pod} {reason : String} (state : pod.state = .failed reason) :
      Breaks (some (.ok pod)) (.podFailed pod.name reason)
  | faulty (fault : WatchFault) : Breaks (some (.error fault)) (.watch fault)
  | closed : Breaks none (.watchClosed "pod")

/-- What a pod that was seen decides. -/
def connection? (pod : Pod) : Option (Except LaunchFailure (Option Pod)) :=
  match pod.state with
  | .pending => none
  | .ready | .finished => some (.ok (some pod))
  | .failed reason => some (.error (.podFailed pod.name reason))

/-- What an arrival settles for the wait for a pod. -/
abbrev podRuling? : Option (Except WatchFault Pod) → Option (Except LaunchFailure (Option Pod)) :=
  ruling? connection? (.error (.watchClosed "pod"))

/-- The watcher answers with what a pod decides, and waits for another one otherwise. -/
theorem observe_forPod (time : Nat) (known : Unit) (pod : Pod) :
    forPod.observe time known pod = (connection? pod).elim (.wait ()) .answer := by
  rw [connection?]
  cases state : pod.state <;> simp only [forPod, state] <;> rfl

theorem decides_forPod : forPod.Decides connection? where
  answers := by
    intro time known pod given observed
    rw [observe_forPod] at observed
    cases decided : connection? pod with
    | none =>
        rw [decided] at observed
        cases observed
    | some answer =>
        rw [decided] at observed
        cases observed
        rfl
  waits := by
    intro time known next pod observed
    rw [observe_forPod] at observed
    cases decided : connection? pod with
    | none => rfl
    | some answer =>
        rw [decided] at observed
        cases observed

theorem connection?_eq_none_iff {pod : Pod} : connection? pod = none ↔ pod.state = .pending := by
  unfold connection?
  cases pod.state <;> simp

/-- A pod is reported exactly if a client may connect to it, and then as it was seen. -/
theorem connection?_eq_ok_iff {pod : Pod} {given : Option Pod} :
    connection? pod = some (.ok given) ↔ given = some pod ∧ pod.Connectable := by
  unfold connection? Pod.Connectable
  cases pod.state <;> simp [eq_comm]

/-- An arrival settles nothing exactly if it shows a pending pod. -/
theorem podRuling?_eq_none_iff {event : Option (Except WatchFault Pod)} : podRuling? event = none ↔ Idle event := by
  match event with
  | none | some (.error fault) => simp [ruling?, Idle]
  | some (.ok pod) => exact connection?_eq_none_iff

theorem podRuling?_eq_ok_iff {event : Option (Except WatchFault Pod)} {given : Option Pod} :
    podRuling? event = some (.ok given) ↔ ∃ pod, event = some (.ok pod) ∧ given = some pod ∧ pod.Connectable := by
  match event with
  | none | some (.error fault) => simp [ruling?]
  | some (.ok pod) => simp [ruling?, connection?_eq_ok_iff]

/-- An arrival settles a failure exactly if it breaks the wait off with it. -/
theorem podRuling?_eq_error_iff {event : Option (Except WatchFault Pod)} {failure : LaunchFailure} :
    podRuling? event = some (.error failure) ↔ Breaks event failure := by
  constructor
  · intro settles
    match event with
    | none =>
        cases settles
        exact .closed
    | some (.error fault) =>
        cases settles
        exact .faulty fault
    | some (.ok pod) =>
        simp only [podRuling?, ruling?, connection?] at settles
        split at settles <;> cases settles
        exact .failed ‹_›
  · intro breaks
    cases breaks with
    | failed state => simp [ruling?, connection?, state]
    | faulty fault => rfl
    | closed => rfl

/-! ### The end of the wait -/

variable {timeline : Timeline Pod}

/-- The wait for a pod that is not cancelled ends with the first arrival that settles anything. -/
theorem outcome_forPod (timeline : Timeline Pod) :
    forPod.outcome none timeline =
      verdict? connection? (.error (.watchClosed "pod")) timeline.arrivals := by
  -- The watcher knows nothing and has no deadline, so there is nothing to keep.
  have keeps : forPod.Keeps fun _ _ _ => True :=
    ⟨fun _ limit isLimit => by simp [forPod] at isLimit, fun _ _ _ _ => trivial⟩
  have start : (fun _ _ _ => True : List (Arrival Pod) → Nat → Unit → Prop) timeline.arrivals 0 forPod.start := trivial
  obtain ⟨later, now, known, _, same, halts⟩ := exists_halts none decides_forPod keeps start
  have closes : forPod.closed = .error (.watchClosed "pod") := rfl
  rw [closes] at same
  rw [← same]
  generalize forPod.outcome none timeline = halted at halts ⊢
  cases halts with
  | cancelled due => cases due
  | expired due => simp [forPod] at due
  | settled due => exact due.symm
  | never cancel deadline next =>
      subst next
      rfl

/-- The wait ends with what an arrival settles exactly if that arrival comes behind pending pods only. -/
theorem outcome_forPod_eq_some_iff {time : Nat} {given : Except LaunchFailure (Option Pod)} :
    forPod.outcome none timeline = some (time, given) ↔
      ∃ front event back, timeline.arrivals = front ++ (time, event) :: back ∧ podRuling? event = some given ∧
        ∀ earlier ∈ front, Idle earlier.2 := by
  rw [outcome_forPod, verdict?]
  constructor
  · intro first
    obtain ⟨front, event, back, split, settles, silent⟩ := exists_of_firstTelling? first
    exact ⟨front, event, back, split, settles, fun earlier member => podRuling?_eq_none_iff.mp (silent earlier member)⟩
  · rintro ⟨front, event, back, split, settles, idle⟩
    refine List.findSome?_eq_some_iff.mpr ⟨front, (time, event), back, split, ?_, ?_⟩
    · exact congrArg (Option.map (time, ·)) settles
    · intro earlier member
      exact Option.map_eq_none_iff.mpr (podRuling?_eq_none_iff.mpr (idle earlier member))

/-- What becomes of the wait for a pod that is not cancelled, and of the pod that it hands to the session. -/
structure HandingOver (timeline : Timeline Pod) : Prop where
  /-- A pod is reported exactly if it is the first that a client may connect to, and neither a failed pod nor a fault
  nor the end of the watch came before it. -/
  reports : ∀ time pod, forPod.outcome none timeline = some (time, .ok (some pod)) ↔
    ∃ front back, timeline.arrivals = front ++ (time, some (.ok pod)) :: back ∧
      (pod.state = .ready ∨ pod.state = .finished) ∧ ∀ earlier ∈ front, Idle earlier.2
  /-- Otherwise nothing is reported, and the failure is that of the first arrival that breaks the wait off. -/
  fails : ∀ time failure, forPod.outcome none timeline = some (time, .error failure) ↔
    ∃ front event back, timeline.arrivals = front ++ (time, event) :: back ∧ Breaks event failure ∧
      ∀ earlier ∈ front, Idle earlier.2
  /-- The wait never ends without a pod or a failure. -/
  decides : ∀ time, forPod.outcome none timeline ≠ some (time, .ok none)
  /-- It lasts for ever exactly if all that is ever read are pending pods. -/
  waits : forPod.outcome none timeline = none ↔ ∀ arrival ∈ timeline.arrivals, Idle arrival.2
  /-- The monitor is told of a pod exactly if that pod is reported, so of one pod at most. -/
  tells : ∀ pod, (Monitor.lifeOfWatch none (·.map Signal.podReady) (forPod.run none timeline)).signal =
    some (.podReady pod) ↔ ∃ time, forPod.outcome none timeline = some (time, .ok (some pod))
  /-- The session with a pod that was reported attaches exactly if the client is interactive and the pod is ready. -/
  attaches : ∀ time pod, forPod.outcome none timeline = some (time, .ok (some pod)) → ∀ run interactive,
    ((Session.forPod pod run interactive).attach = true ↔ interactive = true ∧ pod.state = .ready)

theorem reports_forPod (time : Nat) (pod : Pod) :
    forPod.outcome none timeline = some (time, .ok (some pod)) ↔
      ∃ front back, timeline.arrivals = front ++ (time, some (.ok pod)) :: back ∧ pod.Connectable ∧
        ∀ earlier ∈ front, Idle earlier.2 := by
  rw [outcome_forPod_eq_some_iff]
  constructor
  · rintro ⟨front, event, back, split, settles, idle⟩
    obtain ⟨other, rfl, same, connectable⟩ := podRuling?_eq_ok_iff.mp settles
    cases same
    exact ⟨front, back, split, connectable, idle⟩
  · rintro ⟨front, back, split, connectable, idle⟩
    exact ⟨front, _, back, split, podRuling?_eq_ok_iff.mpr ⟨pod, rfl, rfl, connectable⟩, idle⟩

/-- The watcher's signal names a pod exactly if the wait ended with that pod. -/
theorem tells_forPod (pod : Pod) :
    (Monitor.lifeOfWatch none (·.map Signal.podReady) (forPod.run none timeline)).signal = some (.podReady pod) ↔
      ∃ time, forPod.outcome none timeline = some (time, .ok (some pod)) := by
  unfold outcome Monitor.lifeOfWatch
  match forPod.run none timeline with
  | none => simp
  | some ⟨time, .error failure, unread⟩ => simp [Monitor.failureSignal]
  | some ⟨time, .ok given, unread⟩ => simp

/-- The pod handed to the session is the first one that can be connected to, if nothing broke the wait off before,
and the session attaches to it exactly if it is ready and the client is interactive. -/
theorem handingOver (timeline : Timeline Pod) : HandingOver timeline where
  reports := reports_forPod
  fails time failure := by
    rw [outcome_forPod_eq_some_iff]
    simp only [podRuling?_eq_error_iff]
  decides time ended := by
    obtain ⟨front, event, back, _, settles, _⟩ := outcome_forPod_eq_some_iff.mp ended
    obtain ⟨pod, _, impossible, _⟩ := podRuling?_eq_ok_iff.mp settles
    cases impossible
  waits := by
    rw [outcome_forPod, verdict?, firstTelling?, List.findSome?_eq_none_iff]
    simp only [Option.map_eq_none_iff, podRuling?_eq_none_iff]
  tells := tells_forPod
  attaches time pod reported run interactive := by
    obtain ⟨_, _, _, connectable, _⟩ := (reports_forPod time pod).mp reported
    exact Session.attach_forPod_iff connectable run interactive

end Watcher

end Turnstile
