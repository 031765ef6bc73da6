/-
Module: Turnstile.Reconcile.Controllers
Purpose: The controllers at work: which reconciliations follow each other in the course of time.
Main exports: Controllers, Controllers.start, Controllers.settle, Controllers.passTo, Controllers.act
-/
import Turnstile.Reconcile.Trigger
import Turnstile.Run.Reconcile
import Turnstile.Workspace.Reconcile

/-!
The controllers keep the subjects that were called, each once, and the times at which failed ones are tried
again.  Called runs are reconciled before called workspaces, and reconciliations take no time, so time passes
only when no subject is called.  A subject that is reconciled is neither called nor due until something calls
it or its reconciliation fails.  Reconciliations that call each other without end are given up.
-/

namespace Turnstile

/-- The controllers of a namespace, and the scenario that they work in. -/
structure Controllers where
  space : String
  settings : Settings
  scenario : Scenario
  called : List Subject := []
  due : List (Nat × Subject) := []

namespace Controllers

/-- How many reconciliations may follow each other. -/
def patience : Nat := 100000

/-- Call a subject unless it is called already. -/
def call (controllers : Controllers) (subject : Subject) : Controllers :=
  if controllers.called.contains subject then controllers
  else { controllers with called := controllers.called ++ [subject] }

/-- The subjects that a change calls. -/
def calledBy (controllers : Controllers) (change : Change) : List Subject :=
  if change.key.namespaceName == controllers.space then
    (change.after <|> change.before).elim [] (Subject.calledBy controllers.scenario.cluster change.key)
  else []

/-- Go on with a scenario, and call what its new changes call. -/
def goOn (controllers : Controllers) (scenario : Scenario) : Controllers :=
  let news := (scenario.journal.take (scenario.journal.length - controllers.scenario.journal.length)).reverse
  let moved := { controllers with scenario }
  (news.flatMap moved.calledBy).foldl call moved

/-- The delay after which a failed reconciliation is tried again, in milliseconds. -/
def delay (settings : Settings) (failure : ReconcileFailure) : Nat :=
  let requeue := settings.requeue
  (if failure.isConflict then requeue.conflictSeconds else requeue.errorSeconds).toNat * 1000

/-- The reconciliation of a subject; there is none for a subject that does not exist. -/
def reconciliation? (controllers : Controllers) (subject : Subject) : Option (Attempt Unit) := do
  let now := toString controllers.scenario.clock
  let object ← controllers.scenario.cluster.find? (subject.key controllers.space)
  match subject with
  | .run _ => (Run.ofJson? object).map (Run.reconcile now controllers.settings controllers.space)
  | .workspace _ =>
    (Workspace.ofJson? object).map (Workspace.reconcile now controllers.settings controllers.space)

/-- Try a subject again later, unless it is called anyway. -/
def postpone (controllers : Controllers) (subject : Subject) (failure : ReconcileFailure) : Controllers :=
  if controllers.called.contains subject then controllers
  else
    let time := controllers.scenario.clock + delay controllers.settings failure
    { controllers with due := controllers.due ++ [(time, subject)] }

/-- Reconcile a subject. -/
def reconcile (controllers : Controllers) (subject : Subject) : Controllers :=
  match controllers.reconciliation? subject with
  | none => controllers
  | some attempt =>
    let (scenario, result) := Program.run attempt.run controllers.scenario
    let later := controllers.goOn scenario
    match result with
    | .ok _ => later
    | .error failure => later.postpone subject failure

/-- The subject that is reconciled next. -/
def next? (controllers : Controllers) : Option Subject :=
  controllers.called.find? Subject.isRun <|> controllers.called.head?

/-- Take a subject off the lists. -/
def taken (controllers : Controllers) (subject : Subject) : Controllers :=
  { controllers with
    called := controllers.called.filter fun other => other != subject
    due := controllers.due.filter fun entry => entry.2 != subject }

/-- Reconcile until no subject is called, at most so many times. -/
def settle : Nat → Controllers → Controllers
  | 0, controllers => controllers
  | patience + 1, controllers =>
    match controllers.next? with
    | none => controllers
    | some subject => settle patience ((controllers.taken subject).reconcile subject)

/-- Let time pass. -/
def waited (controllers : Controllers) (time : Nat) : Controllers :=
  let scenario := controllers.scenario
  { controllers with scenario := { scenario with clock := max scenario.clock time } }

/-- The subject that is due first, with its time. -/
def first? (controllers : Controllers) : Option (Nat × Subject) :=
  (controllers.due.mergeSort fun first second => first.1 ≤ second.1).head?

/-- Let time pass up to an instant; what becomes due on the way is reconciled then. -/
def passTo (time : Nat) : Nat → Controllers → Controllers
  | 0, controllers => controllers.waited time
  | patience + 1, controllers =>
    match controllers.first? with
    | none => controllers.waited time
    | some (instant, subject) =>
      if time < instant then controllers.waited time
      else
        passTo time patience
          (settle Controllers.patience (((controllers.waited instant).taken subject).call subject))

/-- The controllers when they have settled at the start. -/
def start (settings : Settings) (space : String) (scenario : Scenario) : Controllers :=
  settle patience { space, settings, scenario, called := Subject.existing scenario.cluster space }

/-- Let others do something at a time: the controllers when they have settled, and whether it was done. -/
def act (controllers : Controllers) (time : Nat) (action : Action) : Controllers × Bool :=
  let reached := passTo time patience controllers
  let (scenario, happened) := reached.scenario.act action
  (settle patience (reached.goOn scenario), happened)

end Controllers

end Turnstile
