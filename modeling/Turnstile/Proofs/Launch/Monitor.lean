/-
Module: Turnstile.Proofs.Launch.Monitor
Purpose: Waiting for the verdict over a run: what is returned, when, and that no watcher outlives it.
Main exports: Monitor.watchPosts, Monitor.lookupPosts, Monitor.token, Monitor.Settled, Monitor.settled_wait
-/
import Turnstile.Proofs.Launch.Verdict

/-!
The watchers of a run deliver at most one signal each, and the verdict over these signals is returned.  With
the verdict, the watchers are cancelled; those that follow a watch stop by then, and the lookup of the
workspace is waited for.  What a watcher had done before the verdict does not depend on that.
-/

namespace Turnstile.Monitor

/-- The watchers of a run that follow a watch, each as its life under a cancellation. -/
def watchPosts (settings : LaunchSettings) (run : String) (scene : Scene) : List (Option Nat → Life) :=
  let timeouts := settings.timeouts
  (scene.queue.map fun watch cancelAt =>
    lifeOfWatch cancelAt silent ((Watcher.forQueue run timeouts.enqueue timeouts.queue).run cancelAt watch)).toList ++
  (scene.run.map fun watch cancelAt =>
    lifeOfWatch cancelAt silent ((Watcher.forRun timeouts.reconcile timeouts.ready).run cancelAt watch)).toList ++
  (scene.pod.map fun watch cancelAt =>
    lifeOfWatch cancelAt (fun pod => pod.map .podReady) (Watcher.forPod.run cancelAt watch)).toList

/-- The lookup of the workspace as its life under a cancellation. -/
def lookupPosts (settings : LaunchSettings) (scene : Scene) : List (Option Nat → Life) :=
  (scene.workspace.map fun lookup cancelAt => lifeOfLookup cancelAt settings.workspace lookup).toList

theorem lives_eq_map_posts (settings : LaunchSettings) (run : String) (scene : Scene) (cancelAt : Option Nat) :
    lives settings run scene cancelAt =
      (lookupPosts settings scene ++ watchPosts settings run scene).map fun post => post cancelAt := by
  obtain ⟨workspace, queue, runs, pod⟩ := scene
  cases workspace <;> cases queue <;> cases runs <;> cases pod <;> rfl

/-- The cancellation that the watchers see: that of the launch, or else the verdict. -/
def token (cancelAt : Option Nat) (verdict : Ending Signal Pod) : Option Nat :=
  sooner cancelAt (some verdict.time)

theorem failureSignal_stopped {cancelAt : Option Nat} {time stop : Nat} (before : time < stop)
    (failure : LaunchFailure) :
    failureSignal (sooner cancelAt (some stop)) time failure = failureSignal cancelAt time failure := by
  have sameCut : comesBy (sooner cancelAt (some stop)) (some time) = comesBy cancelAt (some time) := by
    cases cancelAt <;> simp [sooner, comesBy] <;> omega
  rw [failureSignal, failureSignal, sameCut]

theorem not_cancelled_of_failureSignal {cancelAt : Option Nat} {time : Nat} {failure : LaunchFailure}
    {signal : Signal} (signals : failureSignal cancelAt time failure = some signal) :
    comesBy cancelAt (some time) = false := by
  unfold failureSignal at signals
  split at signals
  · cases signals
  · rename_i notCancelled
    exact Bool.eq_false_iff.mpr notCancelled

/-- A life that ends before a stop is not changed by it. -/
def Steady (post : Option Nat → Life) : Prop :=
  ∀ cancelAt time stop, (post cancelAt).endsAt = some time → time < stop →
    post (sooner cancelAt (some stop)) = post cancelAt

/-- A life that ends by its cancellation. -/
def Obedient (post : Option Nat → Life) : Prop :=
  ∀ limit, ∃ time, (post (some limit)).endsAt = some time ∧ time ≤ limit

/-- A watcher that fails once it is cancelled does not signal it. -/
def Discreet (post : Option Nat → Life) : Prop :=
  ∀ cancelAt time failure, (post cancelAt).endsAt = some time → (post cancelAt).signal = some (.fatal failure) →
    comesBy cancelAt (some time) = false

section Watch

variable {State Object Answer : Type} (watcher : Watcher State Object Answer) (signalOf : Answer → Option Signal)
  (watch : Timeline Object)

theorem steady_watch : Steady fun cancelAt => lifeOfWatch cancelAt signalOf (watcher.run cancelAt watch) := by
  intro cancelAt time stop endsAt before
  cases ended : watcher.run cancelAt watch with
  | none => simp [ended, lifeOfWatch] at endsAt
  | some ending =>
      have sameTime : ending.time = time := by simpa [ended, lifeOfWatch] using endsAt
      have ends := Watcher.ends_of_follow ended
      have stopped : watcher.run (sooner cancelAt (some stop)) watch = some ending :=
        Watcher.follow_of_ends (Watcher.ends_stopped ends (sameTime ▸ before))
      simp only [ended, stopped, lifeOfWatch, failureSignal_stopped (sameTime ▸ before)]

theorem obedient_watch : Obedient fun cancelAt => lifeOfWatch cancelAt signalOf (watcher.run cancelAt watch) := by
  intro limit
  obtain ⟨ending, ended, inTime⟩ :=
    Watcher.exists_follow_of_cancelled watcher limit watch.closesAt 0 watcher.start watch.events
  have run : watcher.run (some limit) watch = some ending := ended
  exact ⟨ending.time, by simp [run, lifeOfWatch], by simpa using inTime⟩

theorem discreet_watch (harmless : ∀ answer failure, signalOf answer ≠ some (.fatal failure)) :
    Discreet fun cancelAt => lifeOfWatch cancelAt signalOf (watcher.run cancelAt watch) := by
  intro cancelAt time failure endsAt signals
  cases ended : watcher.run cancelAt watch with
  | none => simp [ended, lifeOfWatch] at endsAt
  | some ending =>
      simp only [ended, lifeOfWatch, Option.some.injEq] at endsAt signals
      subst endsAt
      split at signals
      · exact absurd signals (harmless _ _)
      · exact not_cancelled_of_failureSignal signals

end Watch

theorem steady_lookup (name : String) (lookup : Option Nat × Except ApiError Workspace) :
    Steady fun cancelAt => lifeOfLookup cancelAt name lookup := by
  obtain ⟨answered, answer⟩ := lookup
  intro cancelAt time stop endsAt before
  cases answered with
  | none => cases endsAt
  | some answered =>
      have sameTime : answered = time := by simpa [lifeOfLookup] using endsAt
      simp only [lifeOfLookup, failureSignal_stopped (sameTime ▸ before)]

theorem discreet_lookup (name : String) (lookup : Option Nat × Except ApiError Workspace) :
    Discreet fun cancelAt => lifeOfLookup cancelAt name lookup := by
  obtain ⟨answered, answer⟩ := lookup
  intro cancelAt time failure endsAt signals
  cases answered with
  | none => cases endsAt
  | some answered =>
      simp only [lifeOfLookup, Option.some.injEq] at endsAt signals
      subst endsAt
      split at signals
      · cases signals
      · exact not_cancelled_of_failureSignal signals

section Posts

variable (settings : LaunchSettings) (run : String) (scene : Scene)

theorem obedient_of_mem_watchPosts {post : Option Nat → Life} (member : post ∈ watchPosts settings run scene) :
    Obedient post := by
  simp only [watchPosts, List.mem_append, Option.mem_toList, Option.map_eq_some_iff] at member
  rcases member with (⟨watch, _, rfl⟩ | ⟨watch, _, rfl⟩) | ⟨watch, _, rfl⟩
  all_goals exact obedient_watch _ _ watch

theorem steady_of_mem_posts {post : Option Nat → Life}
    (member : post ∈ lookupPosts settings scene ++ watchPosts settings run scene) : Steady post := by
  simp only [lookupPosts, watchPosts, List.mem_append, Option.mem_toList, Option.map_eq_some_iff] at member
  rcases member with ⟨lookup, _, rfl⟩ | (⟨watch, _, rfl⟩ | ⟨watch, _, rfl⟩) | ⟨watch, _, rfl⟩
  · exact steady_lookup _ lookup
  all_goals exact steady_watch _ _ watch

theorem discreet_of_mem_posts {post : Option Nat → Life}
    (member : post ∈ lookupPosts settings scene ++ watchPosts settings run scene) : Discreet post := by
  simp only [lookupPosts, watchPosts, List.mem_append, Option.mem_toList, Option.map_eq_some_iff] at member
  rcases member with ⟨lookup, _, rfl⟩ | (⟨watch, _, rfl⟩ | ⟨watch, _, rfl⟩) | ⟨watch, _, rfl⟩
  · exact discreet_lookup _ lookup
  · exact discreet_watch _ _ watch (by simp [silent])
  · exact discreet_watch _ _ watch (by simp [silent])
  · exact discreet_watch _ _ watch (by rintro (_ | pod) <;> simp)

end Posts

/-- Times that all come by a bound have a last one that does. -/
theorem exists_lastOf {times : List (Option Nat)} {bound : Nat}
    (inTime : ∀ moment ∈ times, ∃ time, moment = some time ∧ time ≤ bound) :
    ∃ last, lastOf times = some last ∧ last ≤ bound := by
  induction times with
  | nil => exact ⟨0, rfl, Nat.zero_le _⟩
  | cons moment times inductionHypothesis =>
      obtain ⟨time, rfl, early⟩ := inTime moment List.mem_cons_self
      obtain ⟨last, isLast, lastEarly⟩ := inductionHypothesis fun other member =>
        inTime other (List.mem_cons_of_mem _ member)
      exact ⟨max time last, by simp [lastOf, isLast], by omega⟩

/-- A last time is one by which all have come. -/
theorem le_lastOf {times : List (Option Nat)} {last : Nat} (isLast : lastOf times = some last) :
    ∀ moment ∈ times, ∃ time, moment = some time ∧ time ≤ last := by
  induction times generalizing last with
  | nil => simp
  | cons moment times inductionHypothesis =>
      cases moment with
      | none => cases isLast
      | some time =>
          obtain ⟨rest, restLast, rfl⟩ := Option.map_eq_some_iff.mp isLast
          intro other member
          cases member with
          | head => exact ⟨time, rfl, Nat.le_max_left _ _⟩
          | tail _ member =>
              obtain ⟨later, rfl, early⟩ := inductionHypothesis restLast other member
              exact ⟨later, rfl, Nat.le_trans early (Nat.le_max_right _ _)⟩

/-- What the watchers send, in the order in which it is received. -/
def sentBy (lives : List Life) : List (Nat × Signal) :=
  (lives.filterMap fun life => life.endsAt.bind fun time => life.signal.map fun signal => (time, signal)).mergeSort
    fun first second => first.1 ≤ second.1

theorem signals_eq_heard (lives : List Life) :
    signals lives = heard (sentBy lives) (lastOf (lives.map Life.endsAt)) := by
  have sameEvents : lives.filterMap Life.timed? =
      (lives.filterMap fun life =>
        life.endsAt.bind fun time => life.signal.map fun signal => (time, signal)).map
          fun signal => (signal.1, .ok signal.2) := by
    rw [List.map_filterMap]
    congr 1
    funext ⟨endsAt, signal⟩
    cases endsAt <;> cases signal <;> rfl
  unfold signals heard sentBy
  rw [sameEvents, List.map_mergeSort]
  exact fun _ _ _ _ => rfl

theorem settled_eq (settings : LaunchSettings) (run : String) (scene : Scene) (cancelAt : Option Nat)
    (verdict : Ending Signal Pod) :
    settled scene verdict =
      (lastOf ((lives settings run scene (token cancelAt verdict)).map Life.endsAt)).map fun last =>
        (max verdict.time last, verdict.answer) := by
  obtain ⟨limit, isLimit, early⟩ : ∃ limit, token cancelAt verdict = some limit ∧ limit ≤ verdict.time := by
    cases cancelAt with
    | none => exact ⟨verdict.time, rfl, Nat.le_refl _⟩
    | some time => exact ⟨min time verdict.time, rfl, Nat.min_le_right _ _⟩
  obtain ⟨last, isLast, lastEarly⟩ :
      ∃ last, lastOf (((watchPosts settings run scene).map fun post => post (some limit)).map Life.endsAt) = some last ∧
        last ≤ limit := by
    apply exists_lastOf
    intro moment member
    simp only [List.map_map, List.mem_map] at member
    obtain ⟨post, listed, rfl⟩ := member
    exact obedient_of_mem_watchPosts settings run scene listed limit
  rw [isLimit, lives_eq_map_posts, List.map_append, List.map_append]
  unfold settled lookupPosts
  cases scene.workspace with
  | none =>
      have sameTime : max verdict.time last = verdict.time := by omega
      simp only [Option.map_none, Option.toList_none, List.map_nil, List.nil_append, isLast, Option.map_some, sameTime]
  | some lookup =>
      obtain ⟨answered, answer⟩ := lookup
      cases answered with
      | none => rfl
      | some answered =>
          have sameTime : max verdict.time (max answered last) = max verdict.time answered := by omega
          simp only [Option.map_some, Option.toList_some, List.map_cons, List.map_nil, List.cons_append,
            List.nil_append, lifeOfLookup, lastOf, isLast, sameTime]

theorem settled_eq_some_iff (scene : Scene) (verdict : Ending Signal Pod) (answer : Except LaunchFailure Pod) :
    (∃ time, settled scene verdict = some (time, answer)) ↔
      verdict.answer = answer ∧ ∀ lookup, scene.workspace = some lookup → lookup.1.isSome := by
  unfold settled
  cases scene.workspace with
  | none => simp
  | some lookup =>
      obtain ⟨answered, answer⟩ := lookup
      cases answered <;> simp

/-- What waiting for the verdict over a run comes to. -/
structure Settled (settings : LaunchSettings) (run : String) (scene : Scene) (cancelAt : Option Nat) : Prop where
  /-- The verdict is one over the signals of the watchers, whose senders are gone with the last of them. -/
  heard : signals (lives settings run scene cancelAt) =
    heard (sentBy (lives settings run scene cancelAt)) (lastOf ((lives settings run scene cancelAt).map Life.endsAt))
  /-- The verdict is what is returned, and it is returned unless the workspace is looked up without an answer. -/
  returns : ∀ answer, (∃ time, wait settings run scene cancelAt = some (time, answer)) ↔
    verdict? cancelAt (lastOf ((lives settings run scene cancelAt).map Life.endsAt))
        (sentBy (lives settings run scene cancelAt)) = some answer ∧
      ∀ lookup, scene.workspace = some lookup → lookup.1.isSome
  /-- It is returned as soon as it is had and every watcher, cancelled by it, has ended. -/
  joined : wait settings run scene cancelAt =
    (merge.run cancelAt (signals (lives settings run scene cancelAt))).bind fun verdict =>
      (lastOf ((lives settings run scene (token cancelAt verdict)).map Life.endsAt)).map fun last =>
        (max verdict.time last, verdict.answer)
  /-- No watcher is still running then. -/
  stopped : ∀ time answer, wait settings run scene cancelAt = some (time, answer) →
    ∃ verdict, merge.run cancelAt (signals (lives settings run scene cancelAt)) = some verdict ∧
      verdict.answer = answer ∧
      ∀ life ∈ lives settings run scene (token cancelAt verdict), ∃ last, life.endsAt = some last ∧ last ≤ time
  /-- Watchers that ended before the verdict have done what they would have done without it. -/
  undisturbed : ∀ verdict, merge.run cancelAt (signals (lives settings run scene cancelAt)) = some verdict →
    ∀ (place : Nat) (life : Life) (time : Nat),
      (lives settings run scene cancelAt)[place]? = some life → life.endsAt = some time →
      time < verdict.time → (lives settings run scene (token cancelAt verdict))[place]? = some life
  /-- A watcher that fails once it is cancelled, by whatever, does not signal it. -/
  discreet : ∀ cancelled, ∀ life ∈ lives settings run scene cancelled, ∀ time failure,
    life.endsAt = some time → life.signal = some (.fatal failure) → comesBy cancelled (some time) = false

theorem joined_wait (settings : LaunchSettings) (run : String) (scene : Scene) (cancelAt : Option Nat) :
    wait settings run scene cancelAt =
      (merge.run cancelAt (signals (lives settings run scene cancelAt))).bind fun verdict =>
        (lastOf ((lives settings run scene (token cancelAt verdict)).map Life.endsAt)).map fun last =>
          (max verdict.time last, verdict.answer) := by
  unfold wait
  congr 1
  funext verdict
  exact settled_eq settings run scene cancelAt verdict

theorem settled_wait (settings : LaunchSettings) (run : String) (scene : Scene) (cancelAt : Option Nat) :
    Settled settings run scene cancelAt where
  heard := signals_eq_heard _
  returns := by
    intro answer
    rw [verdict?, ← signals_eq_heard, wait]
    cases merge.run cancelAt (signals (lives settings run scene cancelAt)) with
    | none => simp
    | some verdict => simp [settled_eq_some_iff]
  joined := joined_wait settings run scene cancelAt
  stopped := by
    intro time answer returned
    rw [joined_wait, Option.bind_eq_some_iff] at returned
    obtain ⟨verdict, judged, returned⟩ := returned
    obtain ⟨last, isLast, same⟩ := Option.map_eq_some_iff.mp returned
    cases same
    refine ⟨verdict, judged, rfl, ?_⟩
    intro life member
    obtain ⟨ended, endsAt, inTime⟩ := le_lastOf isLast life.endsAt (List.mem_map_of_mem member)
    exact ⟨ended, endsAt, Nat.le_trans inTime (Nat.le_max_right _ _)⟩
  undisturbed := by
    intro verdict _ place life time found endsAt before
    rw [lives_eq_map_posts, List.getElem?_map, Option.map_eq_some_iff] at found
    obtain ⟨post, atPlace, rfl⟩ := found
    have member := List.mem_of_getElem? atPlace
    rw [lives_eq_map_posts, List.getElem?_map, atPlace, Option.map_some]
    rw [token, steady_of_mem_posts settings run scene member cancelAt time verdict.time endsAt before]
  discreet := by
    intro cancelled life member time failure endsAt signals
    rw [lives_eq_map_posts, List.mem_map] at member
    obtain ⟨post, listed, rfl⟩ := member
    exact discreet_of_mem_posts settings run scene listed cancelled time failure endsAt signals

/-- The monitor returns the verdict over what its watchers signal, in whatever order and wherever it is
cancelled, and outlives its watchers. -/
theorem monitoring :
    (∀ cancelAt closesAt sent, Judged cancelAt closesAt sent) ∧
      ∀ settings run scene cancelAt, Settled settings run scene cancelAt :=
  ⟨judged, settled_wait⟩

end Turnstile.Monitor
