/-
Module: Turnstile.Proofs.Launch.Provision
Purpose: Provisioning takes back what it created if it fails, and nothing else.
Main exports: Provision.Owes, Provision.Tidy, Provision.tidy_conclude, Provision.tidy_rehearse, Provision.tidying
-/
import Turnstile.Proofs.Cluster.Scenario
import Turnstile.Proofs.Launch.Marker
import Turnstile.Proofs.Launch.Readying
import Turnstile.Rehearsal.Provision

/-!
After the answer to the creation, provisioning comes to an outcome that no further request has a part in: it waits,
and it writes the marker if the workspace is ready.  Only then does it ask for the deletion, if at all.  So the
deletion depends on the outcome and not the other way round, and what it is answered does not matter.
-/

namespace Turnstile.Provision

variable {request : NewWorkspace} {course : Course} {files : FileTree} {folder name : String}

/-- How the wait for the workspace ends, and when. -/
def awaited? (request : NewWorkspace) (course : Course) : Option (Cause Unit) :=
  (Watcher.forReadiness request.reconcileTimeout request.readyTimeout).outcome course.cancelAt course.watch

/-- The workspace is to be deleted again: it was created, something has failed since, and it is not to be kept. -/
structure Owes (request : NewWorkspace) (answer : Except ApiError Unit) (outcome : Except LaunchFailure Unit) :
    Prop where
  created : answer = .ok ()
  failed : ∃ failure, outcome = .error failure
  unkept : request.cleanup = true

/-- What holds of an end of provisioning, by the answer to the creation and the requests that were sent, the latest
first. -/
structure Tidy (request : NewWorkspace) (course : Course) (files : FileTree) (folder name : String)
    (answer : Except ApiError Unit) (sent : List Request) (reached : Ending) : Prop where
  /-- One creation is sent, and the deletions of that very workspace that are asked for.  A workspace without a name
  is never deleted, as no such request can be sent. -/
  requests : sent =
    (if request.name = "" then [] else reached.deletions.map fun _ => .delete (key request)) ++ [creation request]
  /-- A deletion is asked for once if it is owed. -/
  deletes : Owes request answer reached.outcome → reached.deletions.length = 1
  /-- Otherwise it is never asked for. -/
  spares : ¬ Owes request answer reached.outcome → reached.deletions = []
  /-- If the creation fails that is reported, and the files are as they were. -/
  refused : ∀ error, answer = .error error →
    reached.outcome = .error (.admission ("Workspace/" ++ request.name) error) ∧ reached.files = files ∧
      reached.marked = none
  /-- Any other failure that is reported is that of the wait or that of the marker. -/
  fails : ∀ failure, answer = .ok () → reached.outcome = .error failure →
    awaited? request course = some (reached.time, .error failure) ∧ reached.marked = none ∨
      ∃ fault, reached.marked = some (.error fault) ∧ failure = .configuration fault
  /-- The marker is written only if the workspace was created, and once it is seen ready and not unhealthy before the
  deadline. -/
  marked : ∀ written, reached.marked = some written →
    answer = .ok () ∧ (marker request).record course.disk files folder name = (written, reached.files) ∧
      ∃ front workspace back, course.watch.arrivals = front ++ (reached.time, some (.ok workspace)) :: back ∧
        Condition.isTrueFor workspace.conditions Workspace.ready = true ∧
        Condition.isFalseFor workspace.conditions Workspace.healthy = false ∧
        reached.time < Watcher.deadlineAfter request.reconcileTimeout request.readyTimeout front
  /-- As long as it is not written the files are as they were. -/
  unmarked : reached.marked = none → reached.files = files
  /-- Provisioning succeeds exactly if the marker was written. -/
  succeeds : reached.outcome = .ok () ↔ reached.marked = some (.ok ())
  /-- After a success nothing was deleted, and a launch in the directory that names nothing uses the workspace, unless
  its name is none that a marker can tell. -/
  resolves : reached.outcome = .ok () → reached.deletions = [] ∧ ∀ shownAs,
    (LaunchSettings.resolve reached.files folder shownAs none none =
        .ok { namespaceName := request.namespaceName, workspace := request.name } ↔ (marker request).Legible)

theorem cleansUp_eq_true_iff {outcome : Except LaunchFailure Unit} :
    cleansUp request.cleanup outcome = true ↔ Owes request (.ok ()) outcome := by
  cases outcome with
  | ok done => exact ⟨nofun, fun owes => nomatch owes.failed⟩
  | error failure => exact ⟨fun unkept => ⟨rfl, ⟨failure, rfl⟩, unkept⟩, fun owes => owes.unkept⟩

/-- The deletion is asked for once if the outcome calls for it, and it is sent if the workspace has a name. -/
theorem heeds_cleanUp (request : NewWorkspace) (outcome : Except LaunchFailure Unit) (heard : List Exchange) :
    (cleanUp request outcome).Heeds (fun _ _ => True)
      (fun deletions later =>
        later.map Exchange.request =
            (if request.name = "" then [] else deletions.map fun _ => .delete (key request)) ++
              heard.map Exchange.request ∧
          (Owes request (.ok ()) outcome → deletions.length = 1) ∧
          (¬ Owes request (.ok ()) outcome → deletions = [])) heard := by
  unfold cleanUp
  rw [← cleansUp_eq_true_iff]
  by_cases owes : cleansUp request.cleanup outcome = true
  · rw [if_pos owes, Program.ask]
    by_cases named : request.name = ""
    · have unaddressed : Program.isAddressed (.delete (key request)) = false := by
        simp [Program.isAddressed, Request.verb, Request.key?, key, named]
      rw [unaddressed]
      exact ⟨by simp [named], fun _ => rfl, fun spared => absurd owes spared⟩
    · have addressed : Program.isAddressed (.delete (key request)) = true := by
        simp [Program.isAddressed, Request.verb, Request.key?, key, named]
      rw [addressed]
      exact ⟨trivial, fun reply => ⟨by simp [named], fun _ => rfl, fun spared => absurd owes spared⟩⟩
  · rw [if_neg owes]
    exact ⟨by simp, fun owed => absurd owed owes, fun _ => rfl⟩

/-- After a creation that failed nothing else is done. -/
theorem tidy_of_refused (request : NewWorkspace) (course : Course) (files : FileTree) (folder name : String)
    (error : ApiError) : Tidy request course files folder name (.error error) [creation request]
      { time := 0, outcome := .error (creationRefused request error), files } where
  requests := by simp
  deletes owes := nomatch owes.created
  spares _ := rfl
  refused _ same := by
    cases same
    exact ⟨rfl, rfl, rfl⟩
  fails _ created := nomatch created
  marked _ written := nomatch written
  unmarked _ := rfl
  succeeds := ⟨nofun, nofun⟩
  resolves succeeded := nomatch succeeded

/-- After a creation that succeeded, an end to which the wait and the marker come is tidy, whatever the deletions that
it calls for are answered. -/
theorem tidy_of_settled {awaited : Turnstile.Ending Workspace Unit}
    (waits : awaited? request course = some (awaited.time, awaited.answer)) {sent : List Request}
    {deletions : List (Except ApiError Json)}
    (requests : sent =
      (if request.name = "" then [] else deletions.map fun _ => .delete (key request)) ++ [creation request])
    (deletes : Owes request (.ok ()) (settled request course.disk files folder name awaited).outcome →
      deletions.length = 1)
    (spares : ¬ Owes request (.ok ()) (settled request course.disk files folder name awaited).outcome →
      deletions = []) :
    Tidy request course files folder name (.ok ()) sent
      { settled request course.disk files folder name awaited with deletions } := by
  obtain ⟨time, answer, unread⟩ := awaited
  cases answer with
  | error failure =>
      exact
        { requests, deletes, spares
          refused := fun _ refused => nomatch refused
          fails := fun _ _ failed => by
            cases failed
            exact Or.inl ⟨waits, rfl⟩
          marked := fun _ written => nomatch written
          unmarked := fun _ => rfl
          succeeds := ⟨nofun, nofun⟩
          resolves := fun succeeded => nomatch succeeded }
  | ok done =>
      rcases recorded : (marker request).record course.disk files folder name with ⟨written, left⟩
      have reached : settled request course.disk files folder name ⟨time, .ok done, unread⟩ =
          { time, outcome := written.mapError .configuration, files := left, marked := some written } := by
        simp only [settled, recorded]
      rw [reached] at deletes spares ⊢
      obtain ⟨front, workspace, back, ready⟩ := Watcher.ready_of_endsWell waits
      exact
        { requests, deletes, spares
          refused := fun _ refused => nomatch refused
          fails := fun failure _ failed => by
            cases written with
            | ok _ => cases failed
            | error fault =>
                cases failed
                exact Or.inr ⟨fault, rfl, rfl⟩
          marked := fun _ same => by
            cases same
            exact ⟨rfl, recorded, front, workspace, back, ready⟩
          unmarked := fun unwritten => nomatch unwritten
          succeeds := by cases written <;> simp [Except.mapError]
          resolves := fun succeeded => by
            cases written with
            | error fault => cases succeeded
            | ok _ =>
                have kept : ¬ Owes request (.ok ()) (.ok ()) := fun owes => nomatch owes.failed
                exact ⟨spares kept, LaunchSettings.resolve_iff_of_record recorded⟩ }

/-- What follows the answer to the creation comes to a tidy end, whatever is replied. -/
theorem tidy_conclude (request : NewWorkspace) (course : Course) (files : FileTree) (folder name : String)
    (answer : Except ApiError Unit) {heard : List Exchange}
    (created : heard.map Exchange.request = [creation request]) :
    (conclude request course files folder name answer).Heeds (fun _ _ => True)
      (fun ending later => ∃ reached, ending = some reached ∧
        Tidy request course files folder name answer (later.map Exchange.request) reached) heard := by
  cases answer with
  | error error =>
      refine ⟨_, rfl, ?_⟩
      rw [created]
      exact tidy_of_refused request course files folder name error
  | ok done =>
      obtain ⟨outcome, ended⟩ := Watcher.exists_outcome_forReadiness request.reconcileTimeout request.readyTimeout
        course.cancelAt course.watch
      obtain ⟨awaited, waits, _⟩ := Option.map_eq_some_iff.mp ended
      have settles : settle request course files folder name =
          some (settled request course.disk files folder name awaited) := by
        rw [settle, waits, Option.map_some]
      have answered : awaited? request course = some (awaited.time, awaited.answer) := by
        rw [awaited?, Watcher.outcome, waits, Option.map_some]
      simp only [conclude, settles]
      refine Program.Heeds.bind _ (heeds_cleanUp request _ heard) ?_
      rintro deletions later ⟨requests, deletes, spares⟩
      rw [created] at requests
      exact ⟨_, rfl, tidy_of_settled answered requests deletes spares⟩

/-! ### In a scenario -/

/-- Whatever happens after the creation, and until provisioning goes on, no change is asked for. -/
theorem reads_resumed {created watched : Scenario} (reads : created.Reads watched) (script : List Cue)
    (answer : Except ApiError Unit) :
    created.Reads (resumed request course files folder name script created watched answer) := by
  cases answer with
  | error error => exact Scenario.reads_of_served rfl
  | ok done =>
      simp only [resumed]
      split
      · exact reads.trans (Scenario.reads_of_served (Scenario.served_playAll script watched))
      · exact reads.trans (Scenario.reads_of_served (Scenario.served_playUntil _ script watched))

/-- All that provisioning sends asks for a change. -/
theorem Tidy.isWrite_of_mem {answer : Except ApiError Unit} {sent : List Request} {reached : Ending}
    (tidy : Tidy request course files folder name answer sent reached) :
    ∀ ask ∈ sent, ask.isWrite = true := by
  rw [tidy.requests]
  intro ask member
  split at member
  · cases List.mem_singleton.mp member
    rfl
  · rcases List.mem_append.mp member with deleted | created
    · obtain ⟨_, _, rfl⟩ := List.mem_map.mp deleted
      rfl
    · cases List.mem_singleton.mp created
      rfl

/-- In a scenario in which the creation was the latest change that was asked for, what follows its answer comes to a
tidy end and asks for no changes but those that it is to ask for. -/
theorem tidy_run (request : NewWorkspace) (course : Course) (files : FileTree) (folder name : String)
    (reply : Except ApiError Json) {scene : Scenario} {earlier : List Request}
    (created : scene.writes = creation request :: earlier) :
    let answer := Program.readable (Program.ofKind .workspace) reply
    ∃ sent reached, Tidy request course files folder name answer sent reached ∧
      ((conclude request course files folder name answer).run scene).2 = some reached ∧
      ((conclude request course files folder name answer).run scene).1.writes = sent ++ earlier := by
  intro answer
  have asked : ([⟨creation request, reply⟩] : List Exchange).map Exchange.request = [creation request] := rfl
  obtain ⟨more, ⟨reached, ends, tidy⟩, served⟩ :=
    (tidy_conclude request course files folder name answer asked).run scene
  refine ⟨_, reached, tidy, ends, ?_⟩
  have changes : (more.map Exchange.request).filter Request.isWrite = more.map Exchange.request :=
    List.filter_eq_self.mpr fun ask member =>
      tidy.isWrite_of_mem ask (List.map_append ▸ List.mem_append_left _ member)
  have asks : (more.map Exchange.noted).map Served.request = more.map Exchange.request := List.map_map
  rw [Scenario.writes, served, List.map_append, asks, List.filter_append, changes, ← Scenario.writes, created,
    List.map_append, List.append_assoc]
  rfl

/-- In every scenario provisioning comes to a tidy end, and asks for no changes but those that it is to ask for. -/
theorem tidy_rehearse (request : NewWorkspace) (files : FileTree) (folder name : String) (script : List Cue)
    (cancelAt : Option Nat) (scenario : Scenario) :
    ∃ sent reached,
      Tidy request (courseAfter request script cancelAt (scenario.serve (creation request)).1) files folder name
          (Program.readable (Program.ofKind .workspace) (scenario.serve (creation request)).2) sent reached ∧
        (rehearse request files folder name script cancelAt scenario).files = reached.files ∧
        (rehearse request files folder name script cancelAt scenario).ending =
          some (reached.time, reached.outcome) ∧
        (rehearse request files folder name script cancelAt scenario).scenario.writes = sent ++ scenario.writes := by
  have creates : (create request).run scenario = ((scenario.serve (creation request)).1,
      Program.readable (Program.ofKind .workspace) (scenario.serve (creation request)).2) :=
    Program.run_read _ rfl scenario
  have quiet := Scenario.reads_openWatch Workspace.ofJson? (key request) (scenario.serve (creation request)).1
  simp only [rehearse, creates]
  obtain ⟨sent, reached, tidy, ends, writes⟩ := tidy_run request _ files folder name _
    ((reads_resumed quiet script _).writes.trans (Scenario.writes_serve rfl scenario))
  exact ⟨sent, reached, tidy, congrArg (Option.elim · files Ending.files) ends,
    congrArg (Option.map fun ending => (ending.time, ending.outcome)) ends, writes⟩

/-- Provisioning comes to an end, and the end is tidy, whatever the creation and the deletion are answered, the watch
delivers, the disk refuses, and whenever it is cancelled.  So it does in every scenario, with the answers that are
given there. -/
theorem tidying (request : NewWorkspace) (files : FileTree) (folder name : String) :
    (∀ course, (carryOut request course files folder name).Heeds (fun _ _ => True)
      (fun ending heard => ∃ reached reply, ending = some reached ∧ ⟨creation request, reply⟩ ∈ heard ∧
        Tidy request course files folder name (Program.readable (Program.ofKind .workspace) reply)
          (heard.map Exchange.request) reached) []) ∧
    ∀ script cancelAt scenario, ∃ sent reached,
      Tidy request (courseAfter request script cancelAt (scenario.serve (creation request)).1) files folder name
          (Program.readable (Program.ofKind .workspace) (scenario.serve (creation request)).2) sent reached ∧
        (rehearse request files folder name script cancelAt scenario).files = reached.files ∧
        (rehearse request files folder name script cancelAt scenario).ending =
          some (reached.time, reached.outcome) ∧
        (rehearse request files folder name script cancelAt scenario).scenario.writes = sent ++ scenario.writes := by
  refine ⟨fun course => ?_, tidy_rehearse request files folder name⟩
  have asks : (create request).Heeds (fun _ _ => True)
      (fun answer heard => ∃ reply, heard = [⟨creation request, reply⟩] ∧
        answer = Program.readable (Program.ofKind .workspace) reply) [] :=
    ⟨trivial, fun reply => ⟨reply, rfl, rfl⟩⟩
  refine Program.Heeds.bind _ asks ?_
  rintro answer heard ⟨reply, rfl, rfl⟩
  refine (tidy_conclude request course files folder name _ rfl).remembers.weaken ?_
  rintro ending later ⟨⟨reached, same, tidy⟩, before⟩
  exact ⟨reached, reply, same, before.subset List.mem_cons_self, tidy⟩

end Turnstile.Provision
