/-
Module: Turnstile.Cluster.Script
Purpose: What others do in a scenario in the course of time, and what a watch sees of it.
Main exports: Cue, Scenario.playUntil, Scenario.playAll, Scenario.openWatch, OpenWatch.timeline
-/
import Turnstile.Cluster.Program
import Turnstile.Watch

/-!
A script lists actions with their times; an action is never taken before the one that stands before it.  A
watch begins with the objects that are there and goes on with every object that is written, in the order
of the journal; removals are not told.
-/

namespace Turnstile

/-- An action at a time. -/
structure Cue where
  time : Nat
  action : Action

namespace Scenario

/-- Let time pass. -/
def waited (scenario : Scenario) (time : Nat) : Scenario :=
  { scenario with clock := max scenario.clock time }

/-- Play one entry of a script. -/
def perform (scenario : Scenario) (cue : Cue) : Scenario :=
  ((scenario.waited cue.time).act cue.action).1

/-- Play the entries of a script up to a time: where that leads, and the entries that are left. -/
def playUntil (limit : Nat) : List Cue → Scenario → Scenario × List Cue
  | [], scenario => (scenario.waited limit, [])
  | cue :: rest, scenario =>
    if max scenario.clock cue.time ≤ limit then playUntil limit rest (scenario.perform cue)
    else (scenario.waited limit, cue :: rest)

/-- Play a script to its end. -/
def playAll (script : List Cue) (scenario : Scenario) : Scenario :=
  script.foldl perform scenario

end Scenario

/-- A watch of one object that was opened: what it told at first, how long the journal was then, and whether
it goes on. -/
structure OpenWatch (Object : Type) where
  key : Key
  decode : Json → Option Object
  first : List (Nat × Except WatchFault Object)
  journaled : Nat
  continues : Bool

/-- Open a watch of one object. -/
def Scenario.openWatch {Object : Type} (decode : Json → Option Object) (key : Key) (scenario : Scenario) :
    Scenario × OpenWatch Object :=
  let now := scenario.clock
  let selection := Selection.named key.name
  let listed := Program.read (Program.itemsOf decode) (.list key.kind key.namespaceName selection)
  let (later, answer) := listed.run scenario
  match answer with
  | .error error => (later, ⟨key, decode, [(now, .error (.listFailed error))], 0, false⟩)
  | .ok objects =>
    let first := objects.map fun object => (now, .ok object)
    let (last, opened) := later.serve (.watch key.kind key.namespaceName selection)
    match opened with
    | .ok _ => (last, ⟨key, decode, first, later.journal.length, true⟩)
    | .error error => (last, ⟨key, decode, first ++ [(now, .error (.startFailed error))], 0, false⟩)

/-- What a watch tells of a change. -/
def OpenWatch.eventOf {Object : Type} (watch : OpenWatch Object) (change : Change) :
    Option (Nat × Except WatchFault Object) :=
  if change.key = watch.key then
    change.after.map fun object =>
      (change.time, (watch.decode object).elim (.error (.broken .unanswered)) .ok)
  else none

/-- What a watch delivers up to the end of the journal, with times counted from `start`. -/
def OpenWatch.timeline {Object : Type} (watch : OpenWatch Object) (start : Nat) (journal : List Change) :
    Timeline Object where
  events :=
    let later := (journal.take (journal.length - watch.journaled)).reverse
    let told := if watch.continues then later.filterMap watch.eventOf else []
    (watch.first ++ told).map fun event => (event.1 - start, event.2)

end Turnstile
