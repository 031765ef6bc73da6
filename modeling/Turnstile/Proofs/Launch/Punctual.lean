/-
Module: Turnstile.Proofs.Launch.Punctual
Purpose: When monitoring is decided, and when waiting for it is over.
Main exports: Monitor.Script, Monitor.Script.DecidedAt, Monitor.Settles, Monitor.concludes_of_ordered,
  Monitor.verdict_cases, Monitor.Punctual, Monitor.punctual_wait
-/
import Mathlib.Order.Bounds.Basic
import Turnstile.Proofs.Launch.Following
import Turnstile.Proofs.Launch.Monitor

/-!
What decides is told from the script of the four watchers alone, each of them left to itself: the cancellation of the
launch, the first failure, or a ready pod and the confirmed workspace once both are there.  The verdict comes with the
earliest of these.  The three watches are over by then, but the lookup of the workspace does not heed its cancellation:
waiting takes until it is answered, and for ever if it never is.
-/

namespace Turnstile.Monitor

/-! ### What decides -/

/-- The script of the four watchers of a launch: the answer to the lookup of the workspace, with its time if it ever
comes, and what the three watches deliver. -/
structure Script where
  lookup : Option Nat × Except ApiError Workspace
  queue : Timeline Workspace
  run : Timeline Run
  pod : Timeline Pod

namespace Script

/-- What is watched in a launch. -/
def scene (script : Script) : Scene where
  workspace := some script.lookup
  queue := some script.queue
  run := some script.run
  pod := some script.pod

/-- The workspace is confirmed at a time. -/
def Confirms (script : Script) (time : Nat) : Prop :=
  ∃ workspace, script.lookup = (some time, .ok workspace)

/-- The lookup of the workspace fails at a time. -/
def Misses (script : Script) (time : Nat) : Prop :=
  ∃ error, script.lookup = (some time, .error error)

/-- The pod is ready at a time. -/
def Readies (script : Script) (time : Nat) : Prop :=
  ∃ pod, Watcher.forPod.outcome none script.pod = some (time, .ok (some pod))

/-- A watcher fails at a time, left to itself. -/
inductive Fails (script : Script) (timeouts : Timeouts) (run : String) (time : Nat) : Prop where
  | lookup (misses : script.Misses time)
  | queue {failure : LaunchFailure} (fails : (Watcher.forQueue run timeouts.enqueue timeouts.queue).outcome none
      script.queue = some (time, .error failure))
  | run {failure : LaunchFailure} (fails : (Watcher.forRun timeouts.reconcile timeouts.ready).outcome none
      script.run = some (time, .error failure))
  | pod {failure : LaunchFailure} (fails : Watcher.forPod.outcome none script.pod = some (time, .error failure))

/-- Both a ready pod and the confirmed workspace are there at a time, and not before. -/
def Completes (script : Script) (time : Nat) : Prop :=
  ∃ ready confirmed, script.Readies ready ∧ script.Confirms confirmed ∧ time = max ready confirmed

/-- Something decides at a time. -/
inductive Decides (script : Script) (timeouts : Timeouts) (run : String) (cancelAt : Option Nat) (time : Nat) :
    Prop where
  | cancelled (due : cancelAt = some time)
  | failed (fails : script.Fails timeouts run time)
  | completed (completes : script.Completes time)

/-- The first time at which something decides. -/
def DecidedAt (script : Script) (timeouts : Timeouts) (run : String) (cancelAt : Option Nat) (time : Nat) : Prop :=
  IsLeast {moment | script.Decides timeouts run cancelAt moment} time

end Script

/-! ### The verdict over signals in the order of their times -/

section Signals

variable {cancelAt closesAt : Option Nat} {before after : List (Nat × Signal)} {time : Nat}

/-- The cancellation or sent signals decide at a time. -/
inductive Settles (cancelAt : Option Nat) (sent : List (Nat × Signal)) : Nat → Prop where
  | cancelled {time : Nat} (due : cancelAt = some time) : Settles cancelAt sent time
  | failed {time : Nat} {failure : LaunchFailure} (fails : (time, .fatal failure) ∈ sent) : Settles cancelAt sent time
  | completed {ready confirmed : Nat} {pod : Pod} (readies : (ready, .podReady pod) ∈ sent)
      (confirms : (confirmed, .workspaceExists) ∈ sent) : Settles cancelAt sent (max ready confirmed)

/-- What decides by some signals decides by others if these have been sent by then, too. -/
theorem settles_of_sent {sent others : List (Nat × Signal)}
    (sends : ∀ moment ≤ time, ∀ signal, (moment, signal) ∈ sent → (moment, signal) ∈ others)
    (settles : Settles cancelAt sent time) : Settles cancelAt others time := by
  cases settles with
  | cancelled due => exact .cancelled due
  | failed fails => exact .failed (sends _ (Nat.le_refl _) _ fails)
  | completed readies confirms =>
      exact .completed (sends _ (Nat.le_max_left _ _) _ readies) (sends _ (Nat.le_max_right _ _) _ confirms)

/-- As long as nothing is decided, neither the cancellation nor later signals decide before they come. -/
theorem le_of_settles {limit : Nat} (undecided : Undecided (before.map Prod.snd))
    (due : ∀ cancel, cancelAt = some cancel → limit ≤ cancel) (later : ∀ signal ∈ after, limit ≤ signal.1)
    (settles : Settles cancelAt (before ++ after) time) : limit ≤ time := by
  cases settles with
  | cancelled isDue => exact due time isDue
  | failed fails =>
      rcases List.mem_append.mp fails with earlier | isLater
      · exact absurd (List.mem_map_of_mem earlier) (undecided.1 _)
      · exact later _ isLater
  | @completed ready confirmed pod readies confirms =>
      rcases List.mem_append.mp readies with readied | isLater
      · rcases List.mem_append.mp confirms with confirmedEarlier | isLater
        · exact absurd ⟨List.mem_map_of_mem confirmedEarlier, pod, List.mem_map_of_mem readied⟩ undecided.2
        · exact Nat.le_trans (later _ isLater) (Nat.le_max_right _ _)
      · exact Nat.le_trans (later _ isLater) (Nat.le_max_left _ _)

/-- A signal that decides does so at its time. -/
theorem settles_of_decision {signal : Signal} {answer : Except LaunchFailure Pod}
    (undecided : Undecided (before.map Prod.snd)) (earlier : ∀ signal ∈ before, signal.1 ≤ time)
    (decision : Decision (before.map Prod.snd) signal answer) :
    Settles cancelAt (before ++ (time, signal) :: after) time := by
  have here : (time, signal) ∈ before ++ (time, signal) :: after := by simp
  have told : ∀ {other : Signal}, other ∈ before.map Prod.snd ++ [signal] →
      other = signal ∨ ∃ moment ≤ time, (moment, other) ∈ before := by
    intro other member
    rcases List.mem_append.mp member with listed | isSignal
    · obtain ⟨⟨moment, _⟩, isBefore, rfl⟩ := List.mem_map.mp listed
      exact .inr ⟨moment, earlier _ isBefore, isBefore⟩
    · exact .inl (List.mem_singleton.mp isSignal)
  have among : ∀ {timed : Nat × Signal}, timed ∈ before → timed ∈ before ++ (time, signal) :: after :=
    List.mem_append_left _
  cases decision with
  | fails failure => exact .failed here
  | succeeds _ complete _ =>
      obtain ⟨confirmed, pod, readied⟩ := complete
      rcases told confirmed with rfl | ⟨confirmedAt, confirmedBy, confirms⟩
      · rcases told readied with ⟨⟨⟩⟩ | ⟨readyAt, readyBy, readies⟩
        have settles : Settles cancelAt _ _ := .completed (among readies) here
        rwa [Nat.max_eq_right readyBy] at settles
      · rcases told readied with rfl | ⟨readyAt, _, readies⟩
        · have settles : Settles cancelAt _ _ := .completed here (among confirms)
          rwa [Nat.max_eq_left confirmedBy] at settles
        · exact absurd ⟨List.mem_map_of_mem confirms, pod, List.mem_map_of_mem readies⟩ undecided.2

/-- A cancellation that comes before all later signals is the first to decide. -/
theorem isLeast_cancel {cancel : Nat} (undecided : Undecided (before.map Prod.snd))
    (later : ∀ signal ∈ after, cancel ≤ signal.1) :
    IsLeast {time | Settles (some cancel) (before ++ after) time} cancel :=
  ⟨.cancelled rfl, fun _ settles => le_of_settles undecided (fun _ same => (Option.some.inj same).le) later settles⟩

/-- What the merge comes to that waits since `now` for these signals, after others. -/
def Concludes (cancelAt closesAt : Option Nat) (now : Nat) (reported : Reported) (before after : List (Nat × Signal)) :
    Prop :=
  (merge.follow cancelAt closesAt now reported (heard after closesAt).events = none ∧
      ∀ time, ¬Settles cancelAt (before ++ after) time) ∨
    ∃ ending, merge.follow cancelAt closesAt now reported (heard after closesAt).events = some ending ∧
      IsLeast {time | Settles cancelAt (before ++ after) time} ending.time

/-- Without further signals only the cancellation decides, unless the senders are gone before. -/
theorem concludes_nil {now : Nat} {reported : Reported} (undecided : Undecided (before.map Prod.snd))
    (early : ∀ cancel, cancelAt = some cancel → now ≤ cancel)
    (stays : ∀ close, closesAt = some close → ∃ time ≤ close, Settles cancelAt (before ++ []) time) :
    Concludes cancelAt closesAt now reported before [] := by
  simp only [Concludes, heard, List.map_nil, Watcher.follow, interrupted?_merge]
  cases cancelAt with
  | none =>
      have nothing : ∀ time, ¬Settles none (before ++ []) time := fun time settles =>
        Nat.not_succ_le_self time (le_of_settles undecided (by simp) (by simp) settles)
      cases closesAt with
      | none => exact .inl ⟨rfl, nothing⟩
      | some close =>
          obtain ⟨time, _, settles⟩ := stays close rfl
          exact absurd settles (nothing time)
  | some cancel =>
      have first : IsLeast {time | Settles (some cancel) (before ++ []) time} cancel :=
        isLeast_cancel undecided (by simp)
      have sameTime : max now cancel = cancel := Nat.max_eq_right (early cancel rfl)
      have cancels : comesBy (some cancel) (closesAt.map (max now)) = true := by
        cases closesAt with
        | none => rfl
        | some close =>
            obtain ⟨time, inTime, settles⟩ := stays close rfl
            exact decide_eq_true (Nat.le_trans (first.2 settles) (Nat.le_trans inTime (Nat.le_max_right _ _)))
      simp only [Option.map_some, sameTime, cancels, if_true]
      exact .inr ⟨_, rfl, first⟩

/-- Of signals sent in the order of their times, the merge answers with the first that decides, or never if nothing
does. -/
theorem concludes_of_ordered {now : Nat} {reported : Reported} (tells : Tells (before.map Prod.snd) reported)
    (undecided : Undecided (before.map Prod.snd)) (earlier : ∀ signal ∈ before, signal.1 ≤ now)
    (early : ∀ cancel, cancelAt = some cancel → now ≤ cancel) (later : ∀ signal ∈ after, now ≤ signal.1)
    (ordered : after.Pairwise fun first second => first.1 ≤ second.1)
    (stays : ∀ close, closesAt = some close → ∃ time ≤ close, Settles cancelAt (before ++ after) time) :
    Concludes cancelAt closesAt now reported before after := by
  induction after generalizing before now reported with
  | nil => exact concludes_nil undecided early stays
  | cons signal after inductionHypothesis =>
      obtain ⟨time, signal⟩ := signal
      have arrives : max now time = time := Nat.max_eq_right (later _ List.mem_cons_self)
      have inOrder : ∀ other ∈ (time, signal) :: after, time ≤ other.1 := by
        intro other member
        rcases List.mem_cons.mp member with rfl | behind
        · exact Nat.le_refl _
        · exact (List.pairwise_cons.mp ordered).1 other behind
      simp only [Concludes, heard, List.map_cons, Watcher.follow, interrupted?_merge, arrives]
      cases cut : comesBy (cancelAt.map (max now)) (some time) with
      | true =>
          obtain ⟨cancel, rfl, inTime⟩ : ∃ cancel, cancelAt = some cancel ∧ max now cancel ≤ time := by
            cases cancelAt with
            | none => cases cut
            | some cancel => exact ⟨cancel, rfl, of_decide_eq_true cut⟩
          have sameTime : max now cancel = cancel := Nat.max_eq_right (early cancel rfl)
          rw [sameTime] at inTime
          simp only [Option.map_some, sameTime, if_true]
          exact .inr ⟨_, rfl, isLeast_cancel undecided fun other member => Nat.le_trans inTime (inOrder other member)⟩
      | false =>
          have stillEarly : ∀ cancel, cancelAt = some cancel → time ≤ cancel := by
            rintro cancel rfl
            have late : ¬max now cancel ≤ time := of_decide_eq_false cut
            omega
          have sameObserve : merge.observe time reported signal = merge.observe 0 reported signal := rfl
          have bygone : ∀ other ∈ before, other.1 ≤ time :=
            fun other member => Nat.le_trans (earlier other member) (later _ List.mem_cons_self)
          rcases observe_cases tells undecided signal with
            ⟨answer, observed, decision⟩ | ⟨next, observed, nextTells, still⟩
          · simp only [Bool.false_eq_true, if_false, sameObserve, observed]
            exact .inr ⟨_, rfl, settles_of_decision undecided bygone decision,
              fun moment settles => le_of_settles undecided stillEarly inOrder settles⟩
          · simp only [Bool.false_eq_true, if_false, sameObserve, observed]
            have sameSent : before ++ (time, signal) :: after = (before ++ [(time, signal)]) ++ after := by simp
            rw [sameSent] at stays ⊢
            refine inductionHypothesis (by simpa using nextTells) (by simpa using still) ?_ stillEarly ?_
              (List.pairwise_cons.mp ordered).2 stays
            · intro other member
              rcases List.mem_append.mp member with isBefore | isSignal
              · exact bygone other isBefore
              · exact (congrArg Prod.fst (List.mem_singleton.mp isSignal)).le
            · exact fun other member => inOrder other (List.mem_cons_of_mem _ member)

end Signals

/-! ### The signals of the four watchers -/

/-- A life sends a signal at a time. -/
def Life.Sends (life : Life) (time : Nat) (signal : Signal) : Prop :=
  life.endsAt = some time ∧ life.signal = some signal

/-- Up to its cancellation a watcher sends what it sends left to itself. -/
def Untouched (post : Option Nat → Life) : Prop :=
  ∀ cancel time signal, time < cancel → ((post (some cancel)).Sends time signal ↔ (post none).Sends time signal)

section Posts

variable {settings : LaunchSettings} {run : String} {scene : Scene} {time : Nat} {signal : Signal}

theorem untouched_of_steady {post : Option Nat → Life} (steady : Steady post)
    (unstopped : ∀ stop time, (post (some stop)).endsAt = some time → time < stop → post none = post (some stop)) :
    Untouched post := by
  intro cancel time signal before
  constructor
  · rintro ⟨endsAt, signals⟩
    rw [unstopped cancel time endsAt before]
    exact ⟨endsAt, signals⟩
  · rintro ⟨endsAt, signals⟩
    have same : post (some cancel) = post none := steady none time cancel endsAt before
    rw [same]
    exact ⟨endsAt, signals⟩

theorem untouched_watch {State Object Answer : Type} (watcher : Watcher State Object Answer)
    (signalOf : Answer → Option Signal) (watch : Timeline Object) :
    Untouched fun cancelAt => lifeOfWatch cancelAt signalOf (watcher.run cancelAt watch) := by
  refine untouched_of_steady (steady_watch watcher signalOf watch) fun stop time endsAt before => ?_
  cases ended : watcher.run (some stop) watch with
  | none => simp [ended, lifeOfWatch] at endsAt
  | some ending =>
      have sameTime : ending.time = time := by simpa [ended, lifeOfWatch] using endsAt
      subst sameTime
      have unstopped : watcher.run none watch = some ending :=
        Watcher.follow_of_ends (Watcher.ends_unstopped (Watcher.ends_of_follow ended) before)
      have sameFailure : ∀ failure,
          failureSignal (some stop) ending.time failure = failureSignal none ending.time failure :=
        @failureSignal_stopped none _ _ before
      simp only [unstopped, lifeOfWatch, sameFailure]

theorem untouched_lookup (name : String) (lookup : Option Nat × Except ApiError Workspace) :
    Untouched fun cancelAt => lifeOfLookup cancelAt name lookup := by
  refine untouched_of_steady (steady_lookup name lookup) fun stop time endsAt before => ?_
  have endsAlike : (lifeOfLookup none name lookup).endsAt = some time := by
    obtain ⟨_ | answered, answer⟩ := lookup <;> exact endsAt
  exact (steady_lookup name lookup none time stop endsAlike before).symm

theorem untouched_of_mem_posts {post : Option Nat → Life}
    (member : post ∈ lookupPosts settings scene ++ watchPosts settings run scene) : Untouched post := by
  simp only [lookupPosts, watchPosts, List.mem_append, Option.mem_toList, Option.map_eq_some_iff] at member
  rcases member with ⟨lookup, _, rfl⟩ | (⟨watch, _, rfl⟩ | ⟨watch, _, rfl⟩) | ⟨watch, _, rfl⟩
  · exact untouched_lookup _ lookup
  all_goals exact untouched_watch _ _ watch

theorem mem_sentBy_iff {lives : List Life} :
    (time, signal) ∈ sentBy lives ↔ ∃ life ∈ lives, life.Sends time signal := by
  simp only [sentBy, List.mem_mergeSort, List.mem_filterMap, Option.bind_eq_some_iff, Option.map_eq_some_iff,
    Prod.mk.injEq, Life.Sends]
  constructor
  · rintro ⟨life, listed, _, endsAt, _, signals, rfl, rfl⟩
    exact ⟨life, listed, endsAt, signals⟩
  · rintro ⟨life, listed, endsAt, signals⟩
    exact ⟨life, listed, time, endsAt, signal, signals, rfl, rfl⟩

theorem pairwise_sentBy (lives : List Life) : (sentBy lives).Pairwise fun first second => first.1 ≤ second.1 := by
  have sorted : (sentBy lives).Pairwise fun first second => decide (first.1 ≤ second.1) = true :=
    List.pairwise_mergeSort (fun _ _ _ => by simpa using Nat.le_trans)
      (fun first second => by simpa using Nat.le_total first.1 second.1) _
  exact sorted.imp of_decide_eq_true

theorem mem_sentBy_iff_of_lt {cancel : Nat} (before : time < cancel) :
    (time, signal) ∈ sentBy (lives settings run scene (some cancel)) ↔
      (time, signal) ∈ sentBy (lives settings run scene none) := by
  simp only [mem_sentBy_iff, lives_eq_map_posts, List.mem_map, exists_exists_and_eq_and]
  exact exists_congr fun post => and_congr_right fun listed => untouched_of_mem_posts listed cancel time signal before

/-- What a watcher of a watch sends, left to itself. -/
theorem sends_watch_iff {State Object Answer : Type} {watcher : Watcher State Object Answer}
    {signalOf : Answer → Option Signal} {watch : Timeline Object} :
    (lifeOfWatch none signalOf (watcher.run none watch)).Sends time signal ↔
      (∃ answer, watcher.outcome none watch = some (time, .ok answer) ∧ signalOf answer = some signal) ∨
        ∃ failure, watcher.outcome none watch = some (time, .error failure) ∧ .fatal failure = signal := by
  rw [Watcher.outcome]
  cases watcher.run none watch with
  | none => simp [lifeOfWatch, Life.Sends]
  | some ending =>
      obtain ⟨ended, answer, unread⟩ := ending
      cases answer with
      | ok answer => simp [lifeOfWatch, Life.Sends]
      | error failure => simp [lifeOfWatch, Life.Sends, failureSignal, comesBy]

/-- What the lookup of the workspace sends, left to itself. -/
theorem sends_lookup_iff {name : String} {lookup : Option Nat × Except ApiError Workspace} :
    (lifeOfLookup none name lookup).Sends time signal ↔
      (∃ workspace, lookup = (some time, .ok workspace) ∧ .workspaceExists = signal) ∨
        ∃ error, lookup = (some time, .error error) ∧
          .fatal (if error.isNotFound then .workspaceNotFound name else .api error) = signal := by
  obtain ⟨answered, answer⟩ := lookup
  cases answered with
  | none => simp [lifeOfLookup, Life.Sends]
  | some answered =>
      cases answer with
      | ok workspace => simp [lifeOfLookup, Life.Sends, workspaceConfirmed]
      | error error => simp [lifeOfLookup, Life.Sends, workspaceConfirmed, failureSignal, comesBy]

end Posts

section Scripts

variable {settings : LaunchSettings} {run : String} {script : Script} {cancelAt : Option Nat} {time : Nat}

/-- What the four watchers of a script send, left to themselves. -/
theorem mem_sentBy_script_iff {signal : Signal} :
    (time, signal) ∈ sentBy (lives settings run script.scene none) ↔
      (lifeOfLookup none settings.workspace script.lookup).Sends time signal ∨
        (lifeOfWatch none silent ((Watcher.forQueue run settings.timeouts.enqueue settings.timeouts.queue).run none
          script.queue)).Sends time signal ∨
        (lifeOfWatch none silent ((Watcher.forRun settings.timeouts.reconcile settings.timeouts.ready).run none
          script.run)).Sends time signal ∨
        (lifeOfWatch none (fun pod => pod.map .podReady) (Watcher.forPod.run none script.pod)).Sends time signal := by
  simp [mem_sentBy_iff, lives, Script.scene]

theorem exists_fatal_iff :
    (∃ failure, (time, .fatal failure) ∈ sentBy (lives settings run script.scene none)) ↔
      script.Fails settings.timeouts run time := by
  simp only [mem_sentBy_script_iff, sends_lookup_iff, sends_watch_iff, silent, Option.map_eq_some_iff, reduceCtorEq,
    and_false, exists_false, false_or, Signal.fatal.injEq, exists_eq_right]
  constructor
  · rintro ⟨failure, ⟨error, missed, _⟩ | failed | failed | failed⟩
    · exact .lookup ⟨error, missed⟩
    · exact .queue failed
    · exact .run failed
    · exact .pod failed
  · rintro (⟨error, missed⟩ | failed | failed | failed)
    · exact ⟨_, .inl ⟨error, missed, rfl⟩⟩
    · exact ⟨_, .inr (.inl failed)⟩
    · exact ⟨_, .inr (.inr (.inl failed))⟩
    · exact ⟨_, .inr (.inr (.inr failed))⟩

theorem workspaceExists_iff :
    (time, .workspaceExists) ∈ sentBy (lives settings run script.scene none) ↔ script.Confirms time := by
  simp only [mem_sentBy_script_iff, sends_lookup_iff, sends_watch_iff, silent, Option.map_eq_some_iff, reduceCtorEq,
    and_false, exists_false, or_false, and_true, Script.Confirms]

theorem exists_podReady_iff :
    (∃ pod, (time, .podReady pod) ∈ sentBy (lives settings run script.scene none)) ↔ script.Readies time := by
  simp only [mem_sentBy_script_iff, sends_lookup_iff, sends_watch_iff, silent, Option.map_eq_some_iff, reduceCtorEq,
    and_false, exists_false, false_or, or_false, Signal.podReady.injEq, exists_eq_right, Script.Readies]

/-- Watchers left to themselves send what decides by the script. -/
theorem settles_iff_decides :
    Settles cancelAt (sentBy (lives settings run script.scene none)) time ↔
      script.Decides settings.timeouts run cancelAt time := by
  constructor
  · rintro (due | fails | ⟨readies, confirms⟩)
    · exact .cancelled due
    · exact .failed (exists_fatal_iff.mp ⟨_, fails⟩)
    · exact .completed ⟨_, _, exists_podReady_iff.mp ⟨_, readies⟩, workspaceExists_iff.mp confirms, rfl⟩
  · rintro (due | fails | ⟨ready, confirmed, readies, confirms, rfl⟩)
    · exact .cancelled due
    · obtain ⟨failure, fails⟩ := (@exists_fatal_iff settings).mpr fails
      exact .failed fails
    · obtain ⟨pod, readies⟩ := (@exists_podReady_iff settings run).mpr readies
      exact .completed readies (workspaceExists_iff.mpr confirms)

/-- Before the cancellation the same signals decide as without it. -/
theorem settles_iff_of_lt {cancel : Nat} (before : time < cancel) :
    Settles (some cancel) (sentBy (lives settings run script.scene (some cancel))) time ↔
      Settles (some cancel) (sentBy (lives settings run script.scene none)) time := by
  have same : ∀ moment ≤ time, ∀ signal, (moment, signal) ∈ sentBy (lives settings run script.scene (some cancel)) ↔
      (moment, signal) ∈ sentBy (lives settings run script.scene none) :=
    fun moment inTime signal => mem_sentBy_iff_of_lt (Nat.lt_of_le_of_lt inTime before)
  exact ⟨settles_of_sent fun moment inTime signal => (same moment inTime signal).mp,
    settles_of_sent fun moment inTime signal => (same moment inTime signal).mpr⟩

/-- The senders are not gone before something decides: the run is followed until the launch is cancelled or the run
fails. -/
theorem exists_settles_of_lastOf {close : Nat}
    (closes : lastOf ((lives settings run script.scene cancelAt).map Life.endsAt) = some close) :
    ∃ time ≤ close, Settles cancelAt (sentBy (lives settings run script.scene cancelAt)) time := by
  have listed : lifeOfWatch cancelAt silent
      ((Watcher.forRun settings.timeouts.reconcile settings.timeouts.ready).run cancelAt script.run) ∈
        lives settings run script.scene cancelAt := by
    simp [lives, Script.scene]
  obtain ⟨last, endsAt, inTime⟩ := le_lastOf closes _ (List.mem_map_of_mem listed)
  cases ended : (Watcher.forRun settings.timeouts.reconcile settings.timeouts.ready).run cancelAt script.run with
  | none =>
      rw [ended] at endsAt
      cases endsAt
  | some ending =>
      obtain ⟨time, answer, unread⟩ := ending
      rw [ended] at endsAt listed
      obtain rfl : time = last := Option.some.inj endsAt
      cases answer with
      | ok answer =>
          have isOutcome : (Watcher.forRun settings.timeouts.reconcile settings.timeouts.ready).outcome cancelAt
              script.run = some (time, .ok ()) := by rw [Watcher.outcome, ended]; rfl
          exact ⟨time, inTime, .cancelled (Watcher.cancelled_of_endsWell isOutcome)⟩
      | error failure =>
          cases cut : comesBy cancelAt (some time) with
          | true =>
              cases cancelAt with
              | none => cases cut
              | some cancel => exact ⟨cancel, Nat.le_trans (of_decide_eq_true cut) inTime, .cancelled rfl⟩
          | false =>
              have sends : (lifeOfWatch cancelAt silent (some ⟨time, .error failure, unread⟩)).Sends time
                  (.fatal failure) := ⟨rfl, by simp [lifeOfWatch, failureSignal, cut]⟩
              exact ⟨time, inTime, .failed (mem_sentBy_iff.mpr ⟨_, listed, sends⟩)⟩

/-- Sets of times that agree before a time that is in both have the same least one. -/
theorem isLeast_of_agree {first second : Set Nat} {limit : Nat} (inSecond : limit ∈ second)
    (agree : ∀ time < limit, (time ∈ first ↔ time ∈ second)) (inFirst : limit ∈ first) (least : IsLeast first time) :
    IsLeast second time := by
  have inTime : time ≤ limit := least.2 inFirst
  constructor
  · rcases Nat.lt_or_eq_of_le inTime with before | rfl
    · exact (agree time before).mp least.1
    · exact inSecond
  · intro other member
    rcases Nat.lt_or_ge other limit with before | behind
    · exact least.2 ((agree other before).mpr member)
    · exact Nat.le_trans inTime behind

/-- What decides first by the signals that are sent decides first by the script. -/
theorem isLeast_settles_iff :
    IsLeast {time | Settles cancelAt (sentBy (lives settings run script.scene cancelAt)) time} time ↔
      script.DecidedAt settings.timeouts run cancelAt time := by
  simp only [Script.DecidedAt, ← @settles_iff_decides settings]
  cases cancelAt with
  | none => exact Iff.rfl
  | some cancel =>
      constructor
      · exact isLeast_of_agree (.cancelled rfl) (fun _ before => settles_iff_of_lt before) (.cancelled rfl)
      · exact isLeast_of_agree (.cancelled rfl) (fun _ before => (settles_iff_of_lt before).symm) (.cancelled rfl)

/-- The verdict comes with the first event that decides, and never without one. -/
theorem verdict_cases (settings : LaunchSettings) (run : String) (script : Script) (cancelAt : Option Nat) :
    (merge.run cancelAt (signals (lives settings run script.scene cancelAt)) = none ∧
        ∀ time, ¬script.DecidedAt settings.timeouts run cancelAt time) ∨
      ∃ verdict, merge.run cancelAt (signals (lives settings run script.scene cancelAt)) = some verdict ∧
        script.DecidedAt settings.timeouts run cancelAt verdict.time := by
  simp only [← isLeast_settles_iff]
  rw [signals_eq_heard]
  have settles : Concludes cancelAt (lastOf ((lives settings run script.scene cancelAt).map Life.endsAt)) 0 {} []
      (sentBy (lives settings run script.scene cancelAt)) :=
    concludes_of_ordered tells_nil undecided_nil (by simp) (by simp) (by simp) (pairwise_sentBy _)
      fun _ closes => exists_settles_of_lastOf closes
  rcases settles with ⟨waits, nothing⟩ | decided
  · exact .inl ⟨waits, fun time least => nothing time least.1⟩
  · exact .inr decided

end Scripts

/-! ### When waiting is over -/

/-- When waiting for the verdict of a launch is over. -/
structure Punctual (settings : LaunchSettings) (run : String) (script : Script) (cancelAt : Option Nat) : Prop where
  /-- The verdict is had with the first event that decides. -/
  decided : ∀ time,
    (∃ verdict, merge.run cancelAt (signals (lives settings run script.scene cancelAt)) = some verdict ∧
      verdict.time = time) ↔ script.DecidedAt settings.timeouts run cancelAt time
  /-- It is returned once the lookup of the workspace is answered, too. -/
  returned : ∀ ended, (∃ answer, wait settings run script.scene cancelAt = some (ended, answer)) ↔
    ∃ time answered, script.DecidedAt settings.timeouts run cancelAt time ∧
      script.lookup.1 = some answered ∧ ended = max time answered
  /-- So it is returned with that event if the lookup is answered by then, and only then. -/
  punctual : ∀ time, script.DecidedAt settings.timeouts run cancelAt time →
    ((∃ answer, wait settings run script.scene cancelAt = some (time, answer)) ↔
      ∃ answered ≤ time, script.lookup.1 = some answered)
  /-- A decision in which the lookup has a part, by the pair that completes it or by its failure, is never late. -/
  prompt : ∀ time, script.DecidedAt settings.timeouts run cancelAt time →
    script.Completes time ∨ script.Misses time →
      ∃ answer, wait settings run script.scene cancelAt = some (time, answer)

theorem settled_script (script : Script) (verdict : Ending Signal Pod) :
    settled script.scene verdict =
      script.lookup.1.map fun answered => (max verdict.time answered, verdict.answer) := by
  obtain ⟨⟨_ | answered, answer⟩, queue, run, pod⟩ := script <;> rfl

theorem punctual_wait (settings : LaunchSettings) (run : String) (script : Script) (cancelAt : Option Nat) :
    Punctual settings run script cancelAt := by
  have decided : ∀ time,
      (∃ verdict, merge.run cancelAt (signals (lives settings run script.scene cancelAt)) = some verdict ∧
        verdict.time = time) ↔ script.DecidedAt settings.timeouts run cancelAt time := by
    intro time
    rcases verdict_cases settings run script cancelAt with ⟨waits, nothing⟩ | ⟨verdict, judged, first⟩
    · simp [waits, nothing time]
    · simp only [judged, Option.some.injEq, exists_eq_left']
      exact ⟨fun same => same ▸ first, first.unique⟩
  have returned : ∀ ended, (∃ answer, wait settings run script.scene cancelAt = some (ended, answer)) ↔
      ∃ time answered, script.DecidedAt settings.timeouts run cancelAt time ∧
        script.lookup.1 = some answered ∧ ended = max time answered := by
    intro ended
    simp only [wait, Option.bind_eq_some_iff, settled_script, Option.map_eq_some_iff, Prod.mk.injEq]
    constructor
    · rintro ⟨_, verdict, judged, answered, isAnswered, rfl, rfl⟩
      exact ⟨verdict.time, answered, (decided _).mp ⟨verdict, judged, rfl⟩, isAnswered, rfl⟩
    · rintro ⟨_, answered, first, isAnswered, rfl⟩
      obtain ⟨verdict, judged, rfl⟩ := (decided _).mpr first
      exact ⟨verdict.answer, verdict, judged, answered, isAnswered, rfl, rfl⟩
  have punctual : ∀ time, script.DecidedAt settings.timeouts run cancelAt time →
      ((∃ answer, wait settings run script.scene cancelAt = some (time, answer)) ↔
        ∃ answered ≤ time, script.lookup.1 = some answered) := by
    intro time first
    rw [returned]
    constructor
    · rintro ⟨other, answered, otherFirst, isAnswered, same⟩
      obtain rfl := first.unique otherFirst
      exact ⟨answered, same ▸ Nat.le_max_right _ _, isAnswered⟩
    · rintro ⟨answered, inTime, isAnswered⟩
      exact ⟨time, answered, first, isAnswered, (Nat.max_eq_left inTime).symm⟩
  refine ⟨decided, returned, punctual, fun time first byLookup => (punctual time first).mpr ?_⟩
  rcases byLookup with ⟨ready, confirmed, _, ⟨workspace, isConfirmed⟩, rfl⟩ | ⟨error, isMissed⟩
  · exact ⟨confirmed, Nat.le_max_right _ _, congrArg Prod.fst isConfirmed⟩
  · exact ⟨time, Nat.le_refl _, congrArg Prod.fst isMissed⟩

/-- A script in which nothing happens but that the workspace is found at a time, if ever. -/
def foundAt (answered : Option Nat) : Script where
  lookup := (answered, .ok default)
  queue := {}
  run := {}
  pod := {}

/-- A launch that is cancelled goes on waiting for the answer to the lookup of the workspace. -/
theorem late_wait :
    (foundAt (some 100)).DecidedAt {} "run-a" (some 50) 50 ∧
      wait ⟨"team", "dev", false, {}⟩ "run-a" (foundAt (some 100)).scene (some 50) = some (100, .error .cancelled) ∧
      (foundAt none).DecidedAt {} "run-a" (some 50) 50 ∧
      wait ⟨"team", "dev", false, {}⟩ "run-a" (foundAt none).scene (some 50) = none := by
  have decided : ∀ answered, (foundAt answered).DecidedAt {} "run-a" (some 50) 50 := by
    refine fun answered => ⟨.cancelled rfl, ?_⟩
    rintro time (due | (⟨_, ⟨⟩⟩ | failed | failed | failed) | ⟨_, _, ⟨_, readied⟩, _⟩)
    · exact (Option.some.inj due).le
    · cases failed
      decide
    · cases failed
      decide
    · cases failed
    · cases readied
  refine ⟨decided _, ?_, decided _, ?_⟩
  · have sent : (lives ⟨"team", "dev", false, {}⟩ "run-a" (foundAt (some 100)).scene (some 50)).filterMap Life.timed? =
        [(100, .ok .workspaceExists)] := rfl
    rw [wait, signals, sent, List.mergeSort_singleton]
    rfl
  · rw [wait, Option.bind_eq_none_iff]
    intro verdict _
    rfl

end Turnstile.Monitor
