/-
Module: Turnstile.Proofs.Launch.Success
Purpose: What a launch that succeeds, or passes on an exit code, has asked for and seen on its way.
Main exports: Monitor.Grounds, Launch.Submits, Launch.Created, Launch.Reached, Launch.Leaves, Launch.leaves,
  Launch.Truthful, Launch.truthful
-/
import Turnstile.Launch.Course
import Turnstile.Proofs.Cluster.Heard
import Turnstile.Proofs.Launch.Monitor
import Turnstile.Proofs.Launch.Watchers

/-!
A submission that succeeds has asked for its two creations, and both were granted.  Every signal to the monitor has
its grounds in what was watched, so a verdict for a pod rests on a workspace that was found and a pod that was
reported.  What follows is the session with that pod: it fails at once, or it ends well and the first terminated
runner decides.  Success or an exit code has no other source.

This holds whatever the requests are replied and however the entries of the payload are stored.
-/

namespace Turnstile

namespace Monitor

/-- What a signal rests on. -/
def Grounds (scene : Scene) : Signal → Prop
  | .workspaceExists => ∃ answered workspace, scene.workspace = some (some answered, .ok workspace)
  | .podReady pod => ∃ watch time, scene.pod = some watch ∧ (time, .ok pod) ∈ watch.events ∧ pod.Connectable
  | .fatal failure => failure.code? = none

theorem fatal_of_failureSignal {cancelAt : Option Nat} {time : Nat} {failure : LaunchFailure} {signal : Signal}
    (signals : failureSignal cancelAt time failure = some signal) : signal = .fatal failure := by
  unfold failureSignal at signals
  split at signals
  · cases signals
  · cases signals
    rfl

theorem grounds_of_lookup {scene : Scene} {cancelAt : Option Nat} {name : String}
    {lookup : Option Nat × Except ApiError Workspace} (found : scene.workspace = some lookup) {signal : Signal}
    (signals : (lifeOfLookup cancelAt name lookup).signal = some signal) : Grounds scene signal := by
  obtain ⟨answered, answer⟩ := lookup
  cases answered with
  | none => cases signals
  | some answered =>
      simp only [lifeOfLookup] at signals
      cases answer with
      | ok workspace =>
          cases signals
          exact ⟨answered, workspace, found⟩
      | error error =>
          have fatal := fatal_of_failureSignal signals
          subst fatal
          simp only [Grounds]
          split <;> rfl

theorem grounds_of_watch {State Object Answer : Type} {scene : Scene} {cancelAt : Option Nat}
    {watcher : Watcher State Object Answer} {signalOf : Answer → Option Signal} {watch : Timeline Object}
    (codeless : ∀ ending, watcher.run cancelAt watch = some ending → Watcher.Codeless ending.answer)
    (grounded : ∀ ending answer signal, watcher.run cancelAt watch = some ending → ending.answer = .ok answer →
      signalOf answer = some signal → Grounds scene signal)
    {signal : Signal} (signals : (lifeOfWatch cancelAt signalOf (watcher.run cancelAt watch)).signal = some signal) :
    Grounds scene signal := by
  cases ended : watcher.run cancelAt watch with
  | none =>
      rw [ended] at signals
      cases signals
  | some ending =>
      rw [ended] at signals
      simp only [lifeOfWatch] at signals
      split at signals
      · rename_i answer answered
        exact grounded ending answer signal ended answered signals
      · rename_i failure failed
        have fatal := fatal_of_failureSignal signals
        subst fatal
        have none := codeless ending ended
        rw [failed] at none
        exact none

theorem grounds_of_mem_lives {settings : LaunchSettings} {run : String} {scene : Scene} {cancelAt : Option Nat}
    {life : Life} (member : life ∈ lives settings run scene cancelAt) {signal : Signal}
    (signals : life.signal = some signal) : Grounds scene signal := by
  rw [lives_eq_map_posts, List.mem_map] at member
  obtain ⟨post, listed, rfl⟩ := member
  simp only [lookupPosts, watchPosts, List.mem_append, Option.mem_toList, Option.map_eq_some_iff] at listed
  rcases listed with ⟨lookup, found, rfl⟩ | (⟨watch, _, rfl⟩ | ⟨watch, _, rfl⟩) | ⟨watch, found, rfl⟩
  · exact grounds_of_lookup found signals
  · refine grounds_of_watch ?_ ?_ signals
    · exact fun _ ended => Watcher.codeless_forQueue (Watcher.ends_of_follow ended)
    · intro _ _ _ _ _ nothing
      cases nothing
  · refine grounds_of_watch ?_ ?_ signals
    · exact fun _ ended => Watcher.codeless_forRun (Watcher.ends_of_follow ended)
    · intro _ _ _ _ _ nothing
      cases nothing
  · refine grounds_of_watch ?_ ?_ signals
    · exact fun _ ended => Watcher.codeless_forPod (Watcher.ends_of_follow ended)
    · intro ending answer signal ended answered reports
      cases answer with
      | none => cases reports
      | some pod =>
          cases reports
          obtain ⟨time, member, connectable⟩ :=
            Watcher.connectable_of_forPod (Watcher.ends_of_follow ended) answered
          exact ⟨watch, time, found, member, connectable⟩

theorem grounds_of_mem_received {settings : LaunchSettings} {run : String} {scene : Scene} {cancelAt : Option Nat}
    {signal : Signal} (member : signal ∈ received cancelAt (sentBy (lives settings run scene cancelAt))) :
    Grounds scene signal := by
  simp only [received, List.mem_map] at member
  obtain ⟨timed, taken, rfl⟩ := member
  have sent := List.mem_mergeSort.mp ((List.takeWhile_prefix _).subset taken)
  simp only [List.mem_filterMap, Option.bind_eq_some_iff, Option.map_eq_some_iff] at sent
  obtain ⟨life, listed, _, _, signal, signals, rfl⟩ := sent
  exact grounds_of_mem_lives listed signals

/-- A verdict for a pod rests on a workspace that was found and on the pod having been reported. -/
theorem grounds_of_wait_ok {settings : LaunchSettings} {run : String} {scene : Scene} {cancelAt : Option Nat}
    {time : Nat} {pod : Pod} (returned : wait settings run scene cancelAt = some (time, .ok pod)) :
    Grounds scene .workspaceExists ∧ Grounds scene (.podReady pod) := by
  have verdict := ((settled_wait settings run scene cancelAt).returns (.ok pod)).mp ⟨time, returned⟩
  obtain ⟨before, signal, after, same, _, _, complete, last⟩ := ((judged _ _ _).succeeds pod).mp verdict.1
  have heard {signal' : Signal} (member : signal' ∈ before ++ [signal]) : Grounds scene signal' := by
    apply grounds_of_mem_received
    rw [same, List.append_cons]
    exact List.mem_append_left _ member
  exact ⟨heard complete.1, heard (podReady_mem_of_lastPod? last)⟩

/-- The monitor passes on no exit code. -/
theorem codeless_of_wait_error {settings : LaunchSettings} {run : String} {scene : Scene} {cancelAt : Option Nat}
    {time : Nat} {failure : LaunchFailure} (returned : wait settings run scene cancelAt = some (time, .error failure)) :
    failure.code? = none := by
  have verdict := ((settled_wait settings run scene cancelAt).returns (.error failure)).mp ⟨time, returned⟩
  rcases ((judged _ _ _).fails failure).mp verdict.1 with ⟨before, after, same, _⟩ | ⟨_, _, rfl⟩ | ⟨_, _, _, rfl⟩
  · have fatal : Grounds scene (.fatal failure) := by
      apply grounds_of_mem_received
      rw [same]
      exact List.mem_append_right _ List.mem_cons_self
    exact fatal
  · rfl
  · rfl

end Monitor

namespace Launch

/-! ### Submission -/

section Submission

variable (pack : List Archive.Entry → List UInt8) (settings : LaunchSettings) (name : String) (order : Order)
  (files : FileTree)

/-- What a submission comes to, by what it was replied, the latest first: nothing is asked for unless the order can
be prepared, and then both creations are. -/
inductive Submits : Except LaunchFailure Unit → List Exchange → Prop where
  | unprepared {failure : LaunchFailure} (fails : prepare pack order files = .error failure) :
      Submits (.error failure) []
  | sent {prepared : Prepared} (prepares : prepare pack order files = .ok prepared)
      (payload run : Except ApiError Json) :
      Submits
        (submitted name (Program.readable (Program.ofKind .configMap) payload)
          (Program.readable (Program.ofKind .run) run))
        [⟨Submission.runCreation name prepared.command order.args settings, run⟩,
         ⟨Submission.payloadCreation name prepared.payload settings, payload⟩]

theorem submits : (submit pack settings name order files).Heeds (fun _ _ => True)
    (Submits pack settings name order files) [] := by
  unfold submit
  cases prepares : prepare pack order files with
  | error failure => exact .unprepared prepares
  | ok prepared => exact ⟨trivial, fun payload => ⟨trivial, fun run => .sent prepares payload run⟩⟩

/-- A request for an object was replied with an object of its kind. -/
def Grants (heard : List Exchange) (request : Request) : Prop :=
  ∃ json, ⟨request, .ok json⟩ ∈ heard ∧ request.kind.fits json = true

/-- The payload and the run that the order calls for were asked for, and both were granted. -/
def Created (heard : List Exchange) : Prop :=
  ∃ command contents, Command.parse? order.command = some command ∧ Files.list files order.path = .ok contents ∧
    Grants heard (Submission.payloadCreation name (pack (Archive.entries contents)) settings) ∧
    Grants heard (Submission.runCreation name command order.args settings)

variable {pack settings name order files}

/-- An order is prepared from its command and from the contents of its directory. -/
theorem prepared_of_prepare {prepared : Prepared} (prepares : prepare pack order files = .ok prepared) :
    Command.parse? order.command = some prepared.command ∧
      ∃ contents, Files.list files order.path = .ok contents ∧ prepared.payload = pack (Archive.entries contents) := by
  unfold prepare at prepares
  split at prepares
  · cases prepares
  · rename_i command parsed
    unfold Payload.createBy at prepares
    split at prepares
    · cases prepares
    · rename_i contents listed
      unfold Payload.checked at prepares
      split at prepares
      · cases prepares
      · cases prepares
        exact ⟨parsed, contents, listed, rfl⟩

theorem codeless_prepare (pack : List Archive.Entry → List UInt8) (order : Order) (files : FileTree) :
    Watcher.Codeless (prepare pack order files) := by
  unfold prepare
  split
  · rfl
  · unfold Payload.createBy
    split
    · rfl
    · unfold Payload.checked
      split
      · rfl
      · trivial

theorem codeless_submitted (name : String) (payload run : Except ApiError Unit) :
    Watcher.Codeless (submitted name payload run) := by
  unfold submitted
  split
  · rfl
  · rfl
  · trivial

theorem created_of_submitted {name : String} {payload run : Except ApiError Unit} {answer : Unit}
    (ok : submitted name payload run = .ok answer) : payload = .ok () ∧ run = .ok () := by
  unfold submitted at ok
  split at ok
  · cases ok
  · cases ok
  · exact ⟨rfl, rfl⟩

/-- A creation whose answer is taken was granted. -/
theorem grants_of_readable {heard : List Exchange} {request : Request} {reply : Except ApiError Json}
    (member : ⟨request, reply⟩ ∈ heard)
    (taken : Program.readable (Program.ofKind request.kind) reply = .ok ()) : Grants heard request := by
  obtain ⟨json, rfl, fits⟩ := Attempt.ok_of_readable taken
  refine ⟨json, member, ?_⟩
  by_contra unfit
  rw [Program.ofKind, if_neg unfit] at fits
  cases fits

/-- A submission passes on no exit code, and if it succeeds both creations were granted. -/
theorem Submits.cases {result : Except LaunchFailure Unit} {heard : List Exchange}
    (submits : Submits pack settings name order files result heard) :
    (∃ failure, result = .error failure ∧ failure.code? = none) ∨
      result = .ok () ∧ Created pack settings name order files heard := by
  cases submits with
  | unprepared fails =>
      have none := codeless_prepare pack order files
      rw [fails] at none
      exact .inl ⟨_, rfl, none⟩
  | @sent prepared prepares payload run =>
      have none := codeless_submitted name (Program.readable (Program.ofKind .configMap) payload)
        (Program.readable (Program.ofKind .run) run)
      cases ended : submitted name (Program.readable (Program.ofKind .configMap) payload)
          (Program.readable (Program.ofKind .run) run) with
      | error failure =>
          rw [ended] at none
          exact .inl ⟨failure, rfl, none⟩
      | ok _ =>
          obtain ⟨payloadTaken, runTaken⟩ := created_of_submitted ended
          obtain ⟨parsed, contents, listed, packed⟩ := prepared_of_prepare prepares
          refine .inr ⟨rfl, prepared.command, contents, parsed, listed, ?_, ?_⟩
          · rw [← packed]
            exact grants_of_readable (List.mem_cons_of_mem _ List.mem_cons_self) payloadTaken
          · exact grants_of_readable List.mem_cons_self runTaken

end Submission

/-! ### Session -/

/-- A launch has got to a session with the pod. -/
structure Reached (settings : LaunchSettings) (name : String) (course : Course) (cancelAt : Option Nat) (pod : Pod)
    (begun : Nat) : Prop where
  workspaceFound : ∃ answered workspace, course.scene.workspace = some (some answered, .ok workspace)
  podReported : ∃ watch time, course.scene.pod = some watch ∧ (time, .ok pod) ∈ watch.events ∧ pod.Connectable
  monitored : Monitor.wait settings name course.scene cancelAt = some (begun, .ok pod)

/-- A launch whose monitor hands on a pod ends as its connection to it. -/
theorem outcome_of_wait {settings : LaunchSettings} {name : String} {course : Course} {cancelAt : Option Nat}
    {begun : Nat} {pod : Pod} (monitored : Monitor.wait settings name course.scene cancelAt = some (begun, .ok pod)) :
    outcome settings name course cancelAt =
      connected settings course cancelAt (Session.forPod pod name settings.interactive) begun := by
  rw [outcome, monitored]

/-- A submitted launch that ends well, or with a failure that passes on a code, ends with its session. -/
theorem reached_of_outcome {settings : LaunchSettings} {name : String} {course : Course} {cancelAt : Option Nat}
    {time : Nat} {result : Except LaunchFailure Unit}
    (ended : outcome settings name course cancelAt = some (time, result))
    (telling : ¬∃ failure, result = .error failure ∧ failure.code? = none) :
    ∃ pod begun, Reached settings name course cancelAt pod begun ∧
      connected settings course cancelAt (Session.forPod pod name settings.interactive) begun =
        some (time, result) := by
  unfold outcome at ended
  split at ended
  · cases ended
  · rename_i failed
    cases ended
    exact absurd ⟨_, rfl, Monitor.codeless_of_wait_error failed⟩ telling
  · rename_i begun pod monitored
    obtain ⟨workspaceFound, podReported⟩ := Monitor.grounds_of_wait_ok monitored
    exact ⟨pod, begun, ⟨workspaceFound, podReported, monitored⟩, ended⟩

/-- A session that ended well beside a listener: what was heard is the outcome, or it passes on no code. -/
theorem afterSession_cases (relay : Relay) (cancelAt : Option Nat) (left : Nat) :
    (∃ time reported, relay.exit = some (time, reported) ∧ (relay.afterSession cancelAt left).2 = reported.outcome) ∨
      ∃ failure, (relay.afterSession cancelAt left).2 = .error failure ∧ failure.code? = none := by
  unfold Relay.afterSession
  split
  · rename_i time reported heard
    simp only
    split
    · exact .inr ⟨_, rfl, rfl⟩
    · split
      · exact .inl ⟨time, reported, heard, rfl⟩
      · exact .inr ⟨_, rfl, rfl⟩
  · simp only
    split
    · exact .inr ⟨_, rfl, rfl⟩
    · exact .inr ⟨_, rfl, rfl⟩

/-- A session beside a listener ends as it failed, or with what was heard, or it passes on no code. -/
theorem outcome_cases {relay : Relay} {cancelAt : Option Nat} {time : Nat} {result : Except LaunchFailure Unit}
    (ended : relay.outcome cancelAt = some (time, result)) :
    (∃ left failure, relay.session = some (left, .error failure) ∧ result = .error failure) ∨
    (∃ left moment reported, relay.session = some (left, .ok ()) ∧ relay.exit = some (moment, reported) ∧
      result = reported.outcome) ∨
    (∃ failure, result = .error failure ∧ failure.code? = none) := by
  unfold Relay.outcome at ended
  split at ended
  · obtain ⟨_, _, same⟩ := Option.map_eq_some_iff.mp ended
    cases same
    exact .inr (.inr ⟨_, rfl, rfl⟩)
  · rename_i left sessionEnd sessionEnded
    split at ended
    · obtain ⟨_, _, same⟩ := Option.map_eq_some_iff.mp ended
      cases same
      exact .inr (.inr ⟨_, rfl, rfl⟩)
    · cases sessionEnd with
      | error failure =>
          cases ended
          exact .inl ⟨_, failure, sessionEnded, rfl⟩
      | ok _ =>
          have answered : (relay.afterSession cancelAt left).2 = result := congrArg Prod.snd (Option.some.inj ended)
          rcases afterSession_cases relay cancelAt left with ⟨moment, reported, heard, same⟩ | ⟨failure, same, none⟩
          · exact .inr (.inl ⟨left, moment, reported, sessionEnded, heard, answered.symm.trans same⟩)
          · exact .inr (.inr ⟨failure, answered.symm.trans same, none⟩)

/-- A connection ends as its session failed, by the first exit code, or with a failure that passes on no code. -/
theorem connected_cases {settings : LaunchSettings} {course : Course} {cancelAt : Option Nat} {session : Session}
    {begun time : Nat} {result : Except LaunchFailure Unit}
    (ended : connected settings course cancelAt session begun = some (time, result)) :
    (∃ left failure, course.session session begun = some (left, .error failure) ∧ result = .error failure) ∨
    (∃ left code, course.session session begun = some (left, .ok ()) ∧
      Watcher.FirstExit (course.exitWatch session begun).events code ∧ result = Watcher.exitOutcome code) ∨
    (∃ failure, result = .error failure ∧ failure.code? = none) := by
  obtain ⟨⟨moment, answer⟩, relayed, same⟩ := Option.map_eq_some_iff.mp ended
  cases same
  rcases outcome_cases relayed with failed | ⟨left, moment, reported, sessionEnded, heard, rfl⟩ | codeless
  · exact .inl failed
  · obtain ⟨ending, listened, same⟩ := Option.map_eq_some_iff.mp heard
    cases same
    rcases Watcher.firstExit_of_forExitCode (Watcher.ends_of_follow listened) with ⟨code, first, same⟩ | codeless
    · exact .inr (.inl ⟨left, code, sessionEnded, first, same⟩)
    · exact .inr (.inr codeless)
  · exact .inr (.inr codeless)

/-- A listener that ended with a result has that of the code it heard. -/
theorem exitOutcome_cases (code : Int32) :
    (code = 0 ∧ Watcher.exitOutcome code = .ok ()) ∨
      (code ≠ 0 ∧ Watcher.exitOutcome code = .error (.exitCode code)) := by
  unfold Watcher.exitOutcome
  split
  · rename_i zero
    exact .inl ⟨zero, rfl⟩
  · rename_i notZero
    exact .inr ⟨notZero, rfl⟩

/-- The status with which the process leaves for the result of a launch. -/
structure Leaves (result : Except LaunchFailure Unit) : Prop where
  zero : processStatus result = 0 ↔ result = .ok () ∨ result = .error (.exitCode 0)
  code : ∀ code, result = .error (.exitCode code) → 1 ≤ code.toInt → code.toInt ≤ 255 →
    processStatus result = code.toInt
  other : ∀ failure, result = .error failure →
    (∀ code, failure = .exitCode code → code.toInt < 0 ∨ 255 < code.toInt) → processStatus result = 1

theorem exitStatus_eq_zero_iff (code : Int32) : exitStatus code = 0 ↔ code = 0 := by
  have isZero : code = 0 ↔ code.toInt = 0 := by
    rw [← Int32.toInt_inj]
    rfl
  rw [isZero]
  unfold exitStatus
  split
  · omega
  · simp
    omega

theorem exitStatus_eq_one_of_beyond {code : Int32} (beyond : code.toInt < 0 ∨ 255 < code.toInt) :
    exitStatus code = 1 := by
  unfold exitStatus
  split
  · omega
  · rfl

theorem leaves (result : Except LaunchFailure Unit) : Leaves result where
  zero := by
    cases result with
    | ok _ => simp [processStatus]
    | error failure =>
        cases failure with
        | exitCode code => simp [processStatus, LaunchFailure.leavingCode, exitStatus_eq_zero_iff]
        | _ => simp [processStatus, LaunchFailure.leavingCode, exitStatus_eq_zero_iff]
  code := by
    rintro code rfl low high
    have fits : 0 ≤ code.toInt ∧ code.toInt ≤ 255 := ⟨by omega, high⟩
    simp only [processStatus, LaunchFailure.leavingCode, exitStatus, fits, and_self, if_true]
    omega
  other := by
    rintro failure rfl beyond
    cases failure with
    | exitCode code => exact exitStatus_eq_one_of_beyond (beyond code rfl)
    | _ => rfl

/-! ### A whole launch -/

section Truthful

variable (pack : List Archive.Entry → List UInt8) (settings : LaunchSettings) (name : String) (order : Order)
  (files : FileTree) (course : Course) (cancelAt : Option Nat)

/-- What the order calls for was created, the launch got to a session that ended well, and the runner first ended
with the code. -/
def ExitedWith (heard : List Exchange) (code : Int32) : Prop :=
  Created pack settings name order files heard ∧
  ∃ pod begun, Reached settings name course cancelAt pod begun ∧
    ∃ left, course.session (Session.forPod pod name settings.interactive) begun = some (left, .ok ()) ∧
      Watcher.FirstExit (course.exitWatch (Session.forPod pod name settings.interactive) begun).events code

/-- What the order calls for was created, and the launch got to a session that itself failed with the code. -/
def FailedWith (heard : List Exchange) (code : Int32) : Prop :=
  Created pack settings name order files heard ∧
  ∃ pod begun, Reached settings name course cancelAt pod begun ∧
    ∃ left, course.session (Session.forPod pod name settings.interactive) begun = some (left, .error (.exitCode code))

/-- What the end of a launch says of the command, by what the requests were replied. -/
structure Truthful (ending : Option (Nat × Except LaunchFailure Unit)) (heard : List Exchange) : Prop where
  /-- A launch only succeeds if the runner first ended with code zero. -/
  succeeds : ∀ time, ending = some (time, .ok ()) →
    ExitedWith pack settings name order files course cancelAt heard 0
  /-- A code is that of the first end of the runner, and not zero, unless the session itself failed with it. -/
  passesOn : ∀ time code, ending = some (time, .error (.exitCode code)) →
    FailedWith pack settings name order files course cancelAt heard code ∨
      (code ≠ 0 ∧ ExitedWith pack settings name order files course cancelAt heard code)
  /-- The process only leaves with status zero after a success, or after a session that failed with code zero. -/
  leavesWithZero : ∀ time result, ending = some (time, result) → processStatus result = 0 →
    result = .ok () ∨ FailedWith pack settings name order files course cancelAt heard 0

variable {pack settings name order files course cancelAt} {heard : List Exchange} {time : Nat}

theorem exitedWith_of_outcome_ok (created : Created pack settings name order files heard)
    (ended : outcome settings name course cancelAt = some (time, .ok ())) :
    ExitedWith pack settings name order files course cancelAt heard 0 := by
  obtain ⟨pod, begun, reached, connection⟩ := reached_of_outcome ended (by simp)
  refine ⟨created, pod, begun, reached, ?_⟩
  rcases connected_cases connection with ⟨_, _, _, same⟩ | ⟨left, code, sessionEnd, first, same⟩ | ⟨_, same, _⟩
  · cases same
  · rcases exitOutcome_cases code with ⟨rfl, _⟩ | ⟨_, failed⟩
    · exact ⟨left, sessionEnd, first⟩
    · cases same.trans failed
  · cases same

theorem exitedWith_of_outcome_exitCode {code : Int32} (created : Created pack settings name order files heard)
    (ended : outcome settings name course cancelAt = some (time, .error (.exitCode code))) :
    FailedWith pack settings name order files course cancelAt heard code ∨
      (code ≠ 0 ∧ ExitedWith pack settings name order files course cancelAt heard code) := by
  have telling : ¬∃ failure, (.error (.exitCode code) : Except LaunchFailure Unit) = .error failure ∧
      failure.code? = none := by
    rintro ⟨failure, same, none⟩
    cases same
    cases none
  obtain ⟨pod, begun, reached, connection⟩ := reached_of_outcome ended telling
  rcases connected_cases connection with
    ⟨left, failure, sessionEnd, same⟩ | ⟨left, heard, sessionEnd, first, same⟩ | ⟨failure, same, none⟩
  · cases same
    exact .inl ⟨created, pod, begun, reached, left, sessionEnd⟩
  · rcases exitOutcome_cases heard with ⟨_, ok⟩ | ⟨notZero, failed⟩
    · cases same.trans ok
    · cases same.trans failed
      exact .inr ⟨notZero, created, pod, begun, reached, left, sessionEnd, first⟩
  · cases same
    cases none

/-- A submission that fails ends the launch with a failure that says nothing of the command; one that succeeds leaves
the rest to the course of the launch. -/
theorem truthful_concluded {submission : Except LaunchFailure Unit}
    (submits : Submits pack settings name order files submission heard) :
    Truthful pack settings name order files course cancelAt (concluded settings name course cancelAt submission)
      heard := by
  rcases submits.cases with ⟨failure, rfl, none⟩ | ⟨rfl, created⟩
  · refine ⟨?_, ?_, ?_⟩
    · rintro time ⟨⟩
    · rintro time code ⟨⟩
      cases none
    · rintro time result ⟨⟩ isZero
      rcases (leaves _).zero.mp isZero with ok | same
      · cases ok
      · cases same
        cases none
  · refine ⟨fun _ ended => exitedWith_of_outcome_ok created ended,
      fun _ _ ended => exitedWith_of_outcome_exitCode created ended, ?_⟩
    intro time result ended isZero
    rcases (leaves result).zero.mp isZero with ok | rfl
    · exact .inl ok
    · rcases exitedWith_of_outcome_exitCode created ended with failed | ⟨notZero, _⟩
      · exact .inr failed
      · exact absurd rfl notZero

variable (pack settings name order files course cancelAt)

theorem truthful : (carryOut pack settings name order files course cancelAt).Heeds (fun _ _ => True)
    (Truthful pack settings name order files course cancelAt) [] :=
  Program.Heeds.bind _ (submits pack settings name order files) fun _ _ submits => truthful_concluded submits

end Truthful

end Launch

end Turnstile
