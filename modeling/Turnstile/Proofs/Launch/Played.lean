/-
Module: Turnstile.Proofs.Launch.Played
Purpose: A launch that succeeds in a scenario was served there what it had to ask for.
Main exports: Launch.workspaceLookup, Launch.submittedIn, Launch.Played, Launch.played, Launch.launching
-/
import Turnstile.Proofs.Cluster.Scenario
import Turnstile.Proofs.Launch.Success
import Turnstile.Rehearsal.Launch

/-!
A launch that is played through in a scenario submits its order, looks the workspace up and watches.  Its end is that
of its course in the scenario, so it tells the truth by the replies that its submission got.  After the submission it
only looks: whatever was served stays served, and nothing more is written.
-/

namespace Turnstile

namespace Launch

/-! ### What follows the submission -/

/-- A session that asks the cluster passes on no code. -/
theorem codeless_ask {space : String} {scenario : Scenario} {connection : Connection} {left : Nat}
    {answer : Except LaunchFailure Unit} (asked : (ask space scenario connection).2.1 = some (left, answer)) :
    Watcher.Codeless answer := by
  unfold ask at asked
  split at asked
  · cases asked
    rfl
  · simp only at asked
    split at asked <;> cases asked
    · trivial
    · rfl

/-- A session only looks. -/
theorem reads_ask (space : String) (scenario : Scenario) (connection : Connection) :
    scenario.Reads (ask space scenario connection).1 := by
  unfold ask
  split
  · refine Scenario.reads_run ?_ scenario
    unfold Program.ask
    split
    · exact ⟨rfl, fun _ => trivial⟩
    · trivial
  · simp only
    split
    · exact Scenario.reads_run (Program.uses_read rfl) scenario
    · exact Scenario.reads_run (Program.uses_read rfl) scenario

theorem reads_begin (settings : LaunchSettings) (name : String) (connector : Connector) (session : Session)
    (scenario : Scenario) : scenario.Reads (begin settings name connector session scenario).scenario := by
  have watched := Scenario.reads_openWatch Pod.ofJson? ⟨.pod, settings.namespaceName, name⟩ scenario
  cases connector with
  | scripted ending => exact watched
  | cluster => exact watched.trans (reads_ask settings.namespaceName _ session.connection)

/-- The lookup of the workspace that a launch belongs to. -/
def workspaceLookup (settings : LaunchSettings) : Request :=
  .get ⟨.workspace, settings.namespaceName, settings.workspace⟩

/-- After the lookup of the workspace the watches are opened, which changes nothing. -/
theorem reads_watches (settings : LaunchSettings) (name : String) (scenario : Scenario) :
    ((Program.read Workspace.ofJson? (workspaceLookup settings)).run scenario).1.Reads
      (openWatches settings name scenario).1 := by
  simp only [openWatches]
  refine Scenario.Reads.trans ?_ (Scenario.reads_openWatch _ _ _)
  refine Scenario.Reads.trans ?_ (Scenario.reads_openWatch _ _ _)
  exact Scenario.reads_openWatch _ _ _

theorem reads_openWatches (settings : LaunchSettings) (name : String) (scenario : Scenario) :
    scenario.Reads (openWatches settings name scenario).1 :=
  (Scenario.reads_run (Program.uses_read rfl) scenario).trans (reads_watches settings name scenario)

/-- A workspace that was found was asked for and served. -/
theorem served_of_lookup {settings : LaunchSettings} {name : String} {scenario : Scenario} {workspace : Workspace}
    (found : (openWatches settings name scenario).2.lookup = .ok workspace) :
    ⟨workspaceLookup settings, 200⟩ ∈ (openWatches settings name scenario).1.served := by
  have asks : (Program.read Workspace.ofJson? (workspaceLookup settings)).Heeds (fun _ _ => True)
      (fun answer heard => ∀ workspace, answer = .ok workspace →
        ∃ json, heard = [⟨workspaceLookup settings, .ok json⟩]) [] := by
    refine Program.heeds_read trivial ?_ (by simp)
    intro reply workspace taken
    obtain ⟨json, rfl, _⟩ := Attempt.ok_of_readable taken
    exact ⟨json, rfl⟩
  obtain ⟨heard, met, served⟩ := asks.run scenario
  rw [List.append_nil] at met
  obtain ⟨json, rfl⟩ := met workspace found
  apply (reads_watches settings name scenario).mem
  rw [served]
  exact List.mem_cons_self

theorem courseAfter_eq (settings : LaunchSettings) (name : String) (connector : Connector) (script : List Cue)
    (scenario : Scenario) : courseAfter settings name connector script scenario =
      courseIn settings name connector script (openWatches settings name scenario).2
        (openWatches settings name scenario).1 := by
  unfold courseAfter
  generalize openWatches settings name scenario = opened
  rfl

theorem ending_withSession (settings : LaunchSettings) (name : String) (connector : Connector) (script : List Cue)
    (ending : Option (Nat × Except LaunchFailure Unit)) (session : Session) (begun : Nat) (scenario : Scenario) :
    (withSession settings name connector script ending session begun scenario).ending = ending := rfl

theorem ending_follow (settings : LaunchSettings) (name : String) (connector : Connector) (script : List Cue)
    (cancelAt : Option Nat) (scenario : Scenario) :
    (follow settings name connector script cancelAt scenario).ending =
      outcome settings name (courseAfter settings name connector script scenario) cancelAt := by
  rw [courseAfter_eq]
  unfold follow
  generalize openWatches settings name scenario = opened
  simp only
  split
  · exact ending_withSession ..
  · rfl

/-- The workspace that the monitor sees is the one that was looked up. -/
theorem lookup_of_workspace {settings : LaunchSettings} {name : String} {connector : Connector} {script : List Cue}
    {scenario : Scenario} {answered : Option Nat} {answer : Except ApiError Workspace}
    (found : (courseAfter settings name connector script scenario).scene.workspace = some (answered, answer)) :
    (openWatches settings name scenario).2.lookup = answer := by
  rw [courseAfter_eq] at found
  generalize openWatches settings name scenario = opened at found ⊢
  cases found
  rfl

/-- A session changes nothing. -/
theorem reads_withSession (settings : LaunchSettings) (name : String) (connector : Connector) (script : List Cue)
    (ending : Option (Nat × Except LaunchFailure Unit)) (session : Session) (begun : Nat) (scenario : Scenario) :
    scenario.Reads (withSession settings name connector script ending session begun scenario).scenario := by
  have played := Scenario.reads_of_served (Scenario.served_playUntil begun script scenario)
  unfold withSession
  generalize Scenario.playUntil begun script scenario = reached at played ⊢
  exact played.trans (reads_begin settings name connector session reached.1)

/-- What follows the opening of the watches changes nothing. -/
theorem reads_follow (settings : LaunchSettings) (name : String) (connector : Connector) (script : List Cue)
    (cancelAt : Option Nat) (scenario : Scenario) :
    (openWatches settings name scenario).1.Reads
      (follow settings name connector script cancelAt scenario).scenario := by
  unfold follow
  generalize openWatches settings name scenario = opened
  simp only
  split
  · exact reads_withSession ..
  · exact Scenario.reads_of_served rfl

/-! ### The launch as a whole -/

section Played

variable (pack : List Archive.Entry → List UInt8) (settings : LaunchSettings) (name : String) (order : Order)
  (files : FileTree) (connector : Connector) (script : List Cue) (cancelAt : Option Nat) (scenario : Scenario)

/-- The scenario that the submission leaves behind. -/
def submittedIn : Scenario :=
  ((submit pack settings name order files).run scenario).1

/-- What holds of a launch that is played through in a scenario, and that leaves its submission in another. -/
structure Played (left : Scenario) (rehearsed : Rehearsed) : Prop where
  /-- It tells the truth by the replies that the scenario gave, and asks for no changes but those of its submission. -/
  truthful : ∃ heard,
    Truthful pack settings name order files (courseAfter settings name connector script left) cancelAt
      rehearsed.ending heard ∧
    (∀ exchange ∈ heard, exchange.noted ∈ rehearsed.scenario.served) ∧
    rehearsed.scenario.writes = heard.map Exchange.request ++ scenario.writes
  /-- If it succeeds, the scenario has served both creations and the lookup of the workspace. -/
  served : ∀ time, rehearsed.ending = some (time, .ok ()) →
    ∃ command contents, Command.parse? order.command = some command ∧ Files.list files order.path = .ok contents ∧
      ⟨Submission.payloadCreation name (pack (Archive.entries contents)) settings, 201⟩ ∈ rehearsed.scenario.served ∧
      ⟨Submission.runCreation name command order.args settings, 201⟩ ∈ rehearsed.scenario.served ∧
      ⟨workspaceLookup settings, 200⟩ ∈ rehearsed.scenario.served
  /-- Its sessions with the cluster pass on no code. -/
  codeless : connector = .cluster → ∀ session begun ended answer,
    (courseAfter settings name connector script left).session session begun = some (ended, answer) →
      Watcher.Codeless answer

variable {pack settings name order files connector script cancelAt scenario}

/-- A launch whose submission succeeds in a scenario is followed from there on. -/
theorem rehearseBy_of_submitted {done : Unit}
    (submission : ((submit pack settings name order files).run scenario).2 = .ok done) :
    rehearseBy pack settings name order files connector script cancelAt scenario =
      follow settings name connector script cancelAt (submittedIn pack settings name order files scenario) := by
  unfold rehearseBy submittedIn
  simp only [submission]

variable (pack settings name order files connector script cancelAt scenario)

/-- A launch in a scenario ends as its course in that scenario has it. -/
theorem ending_rehearseBy : (rehearseBy pack settings name order files connector script cancelAt scenario).ending =
    concluded settings name
      (courseAfter settings name connector script (submittedIn pack settings name order files scenario)) cancelAt
      ((submit pack settings name order files).run scenario).2 := by
  cases submission : ((submit pack settings name order files).run scenario).2 with
  | error failure => simp only [rehearseBy, submission, concluded]
  | ok done =>
      rw [rehearseBy_of_submitted submission]
      exact ending_follow settings name connector script cancelAt _

/-- After its submission a launch only looks. -/
theorem reads_rehearseBy : (submittedIn pack settings name order files scenario).Reads
    (rehearseBy pack settings name order files connector script cancelAt scenario).scenario := by
  cases submission : ((submit pack settings name order files).run scenario).2 with
  | error failure => exact Scenario.reads_of_served (by simp only [rehearseBy, submission, submittedIn])
  | ok done =>
      rw [rehearseBy_of_submitted submission]
      exact (reads_openWatches settings name _).trans (reads_follow settings name connector script cancelAt _)

/-- All that a submission asks for is a change. -/
theorem Submits.isWrite_of_mem {result : Except LaunchFailure Unit} {heard : List Exchange}
    (submits : Submits pack settings name order files result heard) :
    ∀ request ∈ heard.map Exchange.request, request.isWrite = true := by
  cases submits with
  | unprepared => exact List.forall_mem_nil _
  | sent => simp [Submission.runCreation, Submission.payloadCreation, Request.isWrite, Request.verb]

/-- In a scenario a launch tells the truth by what the scenario served. -/
theorem played : Played pack settings name order files connector script cancelAt scenario
    (submittedIn pack settings name order files scenario)
    (rehearseBy pack settings name order files connector script cancelAt scenario) := by
  have reads := reads_rehearseBy pack settings name order files connector script cancelAt scenario
  obtain ⟨heard, sent, served⟩ := (submits pack settings name order files).run scenario
  rw [List.append_nil] at sent
  have truthful : Truthful pack settings name order files
      (courseAfter settings name connector script (submittedIn pack settings name order files scenario)) cancelAt
      (rehearseBy pack settings name order files connector script cancelAt scenario).ending heard := by
    rw [ending_rehearseBy]
    exact truthful_concluded sent
  have noted : ∀ exchange ∈ heard, exchange.noted ∈
      (rehearseBy pack settings name order files connector script cancelAt scenario).scenario.served := by
    intro exchange member
    apply reads.mem
    rw [submittedIn, served]
    exact List.mem_append_left _ (List.mem_map_of_mem member)
  refine ⟨⟨heard, truthful, noted, ?_⟩, ?_, ?_⟩
  · have asks : (heard.map Exchange.noted).map Served.request = heard.map Exchange.request := List.map_map
    rw [reads.writes, submittedIn, Scenario.writes, served, List.map_append, List.filter_append, asks,
      List.filter_eq_self.mpr sent.isWrite_of_mem, Scenario.writes]
  · intro time ended
    obtain ⟨⟨command, contents, parsed, listed, payload, run⟩, _, _, reached, _⟩ := truthful.succeeds time ended
    have granted {request : Request} (grants : Grants heard request) : ⟨request, request.goodCode⟩ ∈
        (rehearseBy pack settings name order files connector script cancelAt scenario).scenario.served := by
      obtain ⟨json, member, _⟩ := grants
      exact noted _ member
    refine ⟨command, contents, parsed, listed, granted payload, granted run, ?_⟩
    rw [ending_rehearseBy] at ended
    cases submission : ((submit pack settings name order files).run scenario).2 with
    | error failure =>
        rw [submission] at ended
        cases ended
    | ok done =>
        obtain ⟨_, workspace, found⟩ := reached.workspaceFound
        rw [rehearseBy_of_submitted submission]
        exact (reads_follow settings name connector script cancelAt _).mem
          (served_of_lookup (lookup_of_workspace found))
  · rintro rfl session begun left answer asked
    exact codeless_ask asked

end Played

/-- Whatever the requests are replied and the sessions do, a launch tells the truth about its command, and the
process passes it on.  So it does in every scenario, by what is served there. -/
theorem launching (pack : List Archive.Entry → List UInt8) (settings : LaunchSettings) (name : String)
    (order : Order) (files : FileTree) (cancelAt : Option Nat) :
    (∀ course, (carryOut pack settings name order files course cancelAt).Heeds (fun _ _ => True)
      (Truthful pack settings name order files course cancelAt) []) ∧
    (∀ result, Leaves result) ∧
    ∀ connector script scenario, Played pack settings name order files connector script cancelAt scenario
      (submittedIn pack settings name order files scenario)
      (rehearseBy pack settings name order files connector script cancelAt scenario) :=
  ⟨fun course => truthful pack settings name order files course cancelAt, leaves,
    fun connector script scenario => played pack settings name order files connector script cancelAt scenario⟩

/-! ### A plan of no files -/

section Nothing

/-- The settings of the launches that follow. -/
def devSettings : LaunchSettings :=
  ⟨"team", "dev", false, {}⟩

/-- The compressed archive of no files. -/
def emptyPayload : List UInt8 :=
  [31, 139, 8, 0, 0, 0, 0, 0, 0, 255, 99, 96, 24, 5, 163, 96, 20, 140, 84, 0, 0, 46, 175, 181, 239, 0, 4, 0, 0]

/-- A cluster that holds nothing but the workspace, in whose queue the run comes first. -/
def headOfQueue : Scenario where
  cluster := Cluster.put {} ⟨.workspace, "team", "dev"⟩
    (.object
      [("metadata", .object [("name", .string "dev")]), ("spec", .object []),
       ("status", .object [("queue", .texts ["run-a"])])])

/-- The run is acknowledged, its pod gets ready, and later its runner ends with a code. -/
def runnerEnding (code : Int) : List Cue :=
  [⟨50, .merge ⟨.run, "team", "run-a"⟩ (.object
    [("status", .object
      [("conditions", .array [.object [("type", .string "Attachable"), ("status", .string "False")]])])])⟩,
   ⟨100, .put ⟨.pod, "team", "run-a"⟩ (.object
    [("metadata", .object [("name", .string "run-a")]),
     ("status", .object
      [("phase", .string "Running"),
       ("conditions", .array [.object [("type", .string "Ready"), ("status", .string "True")]])])])⟩,
   ⟨120, .merge ⟨.pod, "team", "run-a"⟩ (.object
    [("status", .object
      [("containerStatuses", .array [.object
        [("image", .string "x"), ("imageID", .string ""), ("name", .string Run.containerName), ("ready", .bool false),
         ("restartCount", .number 0 0),
         ("state", .object [("terminated", .object [("exitCode", .number code 0)])])]])])])⟩]

/-- A plan of no files, with a session that lasts for a while. -/
def planOfNothing (session : Except LaunchFailure Unit) (code : Int) : Rehearsed :=
  rehearseBy (fun _ => emptyPayload) devSettings "run-a" ⟨"plan", [], ""⟩ (.directory [])
    (.scripted (some (50, session))) (runnerEnding code) none headOfQueue

/-- The course that it takes after its submission. -/
def courseOfNothing (session : Except LaunchFailure Unit) (code : Int) : Course :=
  courseAfter devSettings "run-a" (.scripted (some (50, session))) (runnerEnding code)
    (submittedIn (fun _ => emptyPayload) devSettings "run-a" ⟨"plan", [], ""⟩ (.directory []) headOfQueue)

/-- What its submission comes to once it is prepared. -/
def sentOfNothing : Scenario × Except LaunchFailure Unit :=
  Program.run
    (do
      let sent ← Submission.send "run-a" .plan [] emptyPayload devSettings
      return submitted "run-a" sent.payload sent.run)
    headOfQueue

theorem submit_nothing : (submit (fun _ => emptyPayload) devSettings "run-a" ⟨"plan", [], ""⟩ (.directory [])).run
    headOfQueue = sentOfNothing := by
  have parsed : Command.parse? "plan" = some .plan := by decide
  have listed : Files.list (.directory []) "" = .ok [] := by cbv
  have fits : ¬Payload.limit < emptyPayload.length := by decide
  simp only [submit, prepare, parsed, Payload.createBy, listed, Payload.checked, fits, if_false, Except.map,
    sentOfNothing]

theorem courseOfNothing_eq (session : Except LaunchFailure Unit) (code : Int) :
    courseOfNothing session code = courseAfter devSettings "run-a" (.scripted (some (50, session)))
      (runnerEnding code) sentOfNothing.1 := by
  rw [courseOfNothing, submittedIn, submit_nothing]

/-- The signals are in order, so the monitor receives them as they are sent. -/
theorem wait_eq_of_pairwise {settings : LaunchSettings} {run : String} {scene : Monitor.Scene}
    {cancelAt : Option Nat}
    (ordered : ((Monitor.lives settings run scene cancelAt).filterMap Monitor.Life.timed?).Pairwise
      fun first second => decide (first.1 ≤ second.1) = true) :
    Monitor.wait settings run scene cancelAt = (Monitor.merge.run cancelAt
      { events := (Monitor.lives settings run scene cancelAt).filterMap Monitor.Life.timed?
        closesAt := Monitor.lastOf ((Monitor.lives settings run scene cancelAt).map Monitor.Life.endsAt) }).bind
      (Monitor.settled scene) := by
  rw [Monitor.wait, Monitor.signals, List.mergeSort_of_pairwise ordered]

/-- A session that is scripted is the same for every pod. -/
theorem connected_scripted (settings : LaunchSettings) (name : String) (script : List Cue) (scenario : Scenario)
    (ending : Option (Nat × Except LaunchFailure Unit)) (cancelAt : Option Nat) (session other : Session)
    (begun : Nat) :
    connected settings (courseAfter settings name (.scripted ending) script scenario) cancelAt session begun =
      connected settings (courseAfter settings name (.scripted ending) script scenario) cancelAt other begun := by
  rw [courseAfter_eq]
  generalize openWatches settings name scenario = opened
  rfl

theorem exists_ok_of_any {found : Option (Nat × Except LaunchFailure Pod)} {time : Nat}
    (checked : (found.any fun ending => ending.1 == time && ending.2.toBool) = true) :
    ∃ pod, found = some (time, .ok pod) := by
  obtain ⟨⟨when', answer⟩, rfl, fits⟩ := (Option.any_eq_true _ _).mp checked
  cases answer with
  | error failure => simp [Except.toBool] at fits
  | ok pod =>
      simp only [Bool.and_eq_true, beq_iff_eq] at fits
      exact ⟨pod, by rw [fits.1]⟩

theorem submission_nothing : ((submit (fun _ => emptyPayload) devSettings "run-a" ⟨"plan", [], ""⟩
    (.directory [])).run headOfQueue).2 = .ok () := by
  rw [submit_nothing]
  decide +kernel

theorem ending_planOfNothing {session : Except LaunchFailure Unit} {code : Int} {result : Except LaunchFailure Unit}
    (monitored : ∃ pod, Monitor.wait devSettings "run-a" (courseOfNothing session code).scene none =
      some (100, .ok pod))
    (ended : connected devSettings (courseOfNothing session code) none default 100 = some (150, result)) :
    (planOfNothing session code).ending = some (150, result) := by
  obtain ⟨pod, monitored⟩ := monitored
  calc (planOfNothing session code).ending
      = concluded devSettings "run-a" (courseOfNothing session code) none _ := ending_rehearseBy ..
    _ = outcome devSettings "run-a" (courseOfNothing session code) none := congrArg _ submission_nothing
    _ = connected devSettings (courseOfNothing session code) none (Session.forPod pod "run-a" false) 100 :=
        outcome_of_wait monitored
    _ = connected devSettings (courseOfNothing session code) none default 100 := connected_scripted ..
    _ = some (150, result) := ended

set_option maxRecDepth 100000 in
theorem succeeding_planOfNothing : (planOfNothing (.ok ()) 0).ending = some (150, .ok ()) := by
  apply ending_planOfNothing
  · apply exists_ok_of_any
    rw [courseOfNothing_eq, wait_eq_of_pairwise (by decide +kernel)]
    decide +kernel
  · rw [courseOfNothing_eq]
    decide +kernel

/-- A launch that succeeds was granted its creations and found its workspace. -/
theorem launching_planOfNothing :
    (planOfNothing (.ok ()) 0).ending = some (150, .ok ()) ∧
    ⟨Submission.payloadCreation "run-a" emptyPayload devSettings, 201⟩ ∈ (planOfNothing (.ok ()) 0).scenario.served ∧
    ⟨Submission.runCreation "run-a" .plan [] devSettings, 201⟩ ∈ (planOfNothing (.ok ()) 0).scenario.served ∧
    ⟨.get ⟨.workspace, "team", "dev"⟩, 200⟩ ∈ (planOfNothing (.ok ()) 0).scenario.served := by
  have played := (launching (fun _ => emptyPayload) devSettings "run-a" ⟨"plan", [], ""⟩ (.directory []) none).2.2
    (.scripted (some (50, .ok ()))) (runnerEnding 0) headOfQueue
  obtain ⟨command, contents, parsed, _, payload, run, workspace⟩ := played.served 150 succeeding_planOfNothing
  have plan : command = .plan := Option.some.inj (parsed.symm.trans (by decide))
  subst plan
  exact ⟨succeeding_planOfNothing, payload, run, workspace⟩

set_option maxRecDepth 100000 in
/-- The code of a session that fails with one is passed on in place of that of the runner. -/
theorem planOfNothing_overriding :
    (planOfNothing (.error (.exitCode 5)) 3).ending = some (150, .error (.exitCode 5)) ∧
    (∃ pod, Monitor.wait devSettings "run-a" (courseOfNothing (.error (.exitCode 5)) 3).scene none =
      some (100, .ok pod)) ∧
    ∀ session, Watcher.FirstExit ((courseOfNothing (.error (.exitCode 5)) 3).exitWatch session 100).events 3 ∧
      ¬Watcher.FirstExit ((courseOfNothing (.error (.exitCode 5)) 3).exitWatch session 100).events 5 := by
  have monitored : ∃ pod, Monitor.wait devSettings "run-a" (courseOfNothing (.error (.exitCode 5)) 3).scene none =
      some (100, .ok pod) := by
    apply exists_ok_of_any
    rw [courseOfNothing_eq, wait_eq_of_pairwise (by decide +kernel)]
    decide +kernel
  refine ⟨ending_planOfNothing monitored ?_, monitored, fun session => ?_⟩
  · rw [courseOfNothing_eq]
    decide +kernel
  · have three : Watcher.firstExit? ((courseOfNothing (.error (.exitCode 5)) 3).exitWatch default 100).events =
        some 3 := by
      rw [courseOfNothing_eq]
      decide +kernel
    change Watcher.FirstExit ((courseOfNothing (.error (.exitCode 5)) 3).exitWatch default 100).events 3 ∧
      ¬Watcher.FirstExit ((courseOfNothing (.error (.exitCode 5)) 3).exitWatch default 100).events 5
    rw [← Watcher.firstExit?_eq_some_iff, ← Watcher.firstExit?_eq_some_iff, three]
    decide

end Nothing

end Launch

end Turnstile
