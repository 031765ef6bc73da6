/-
Module: Turnstile.Watch
Purpose: Following a watch in time: events, deadlines and cancellation, and which of them comes first.
Main exports: Timeline, Step, Watcher, Ending, Watcher.follow, Watcher.run
-/
import Turnstile.Launch.Failure

/-!
A watch delivers objects at certain times, may break off with a fault, and may end.  A watcher reads it
until it has its answer.  Between two events a watcher waits at most until its deadline, which depends on
what it has seen, and only until it is cancelled.  Of things that happen at the same millisecond,
cancellation comes first, then the deadline, then the event; a watcher never looks at what comes after its
answer.  Times are milliseconds since the watcher was started.
-/

namespace Turnstile

/-- What a watch delivers, and when: events in order, each with the earliest time of its delivery, and the
time at which the watch ends after the last of them, if it does. -/
structure Timeline (Object : Type) where
  events : List (Nat × Except WatchFault Object) := []
  closesAt : Option Nat := none

/-- What a watcher does after an object: go on, or answer. -/
inductive Step (State Answer : Type) where
  | wait (next : State)
  | answer (given : Except LaunchFailure Answer)

/-- A rule for following a watch. -/
structure Watcher (State Object Answer : Type) where
  /-- What it knows at the start. -/
  start : State
  /-- Until when it waits for the next object. -/
  deadline : State → Option Nat := fun _ => none
  /-- Its answer once the deadline has passed. -/
  expired : State → Except LaunchFailure Answer
  /-- What it makes of an object seen at a time. -/
  observe : Nat → State → Object → Step State Answer
  /-- Its answer when the watch ends. -/
  closed : Except LaunchFailure Answer
  /-- Its answer when it is cancelled. -/
  cancelled : Except LaunchFailure Answer

/-- The end of a watcher: when, with which answer, and which events it never read. -/
structure Ending (Object Answer : Type) where
  time : Nat
  answer : Except LaunchFailure Answer
  unread : List (Nat × Except WatchFault Object)

/-- The earlier of two times, where none is never. -/
def sooner : Option Nat → Option Nat → Option Nat
  | none, other => other
  | some time, none => some time
  | some first, some second => some (min first second)

/-- The time has come by `limit`, where none is never. -/
def comesBy (time limit : Option Nat) : Bool :=
  match time, limit with
  | none, _ => false
  | some _, none => true
  | some moment, some latest => moment ≤ latest

namespace Watcher

variable {State Object Answer : Type}

/-- What ends the wait for `next`, which began at `now`: cancellation, else the deadline, if it comes by
then. -/
def interrupted? (watcher : Watcher State Object Answer) (cancelAt : Option Nat) (now : Nat)
    (state : State) (next : Option Nat) : Option (Nat × Except LaunchFailure Answer) :=
  let cancel := cancelAt.map (max now)
  let deadline := (watcher.deadline state).map (max now)
  if comesBy cancel (sooner deadline next) then cancel.map fun time => (time, watcher.cancelled)
  else if comesBy deadline next then deadline.map fun time => (time, watcher.expired state)
  else none

/-- Follow the events from `now` on; none if the watcher waits for ever. -/
def follow (watcher : Watcher State Object Answer) (cancelAt closesAt : Option Nat) :
    Nat → State → List (Nat × Except WatchFault Object) → Option (Ending Object Answer)
  | now, state, [] =>
    let close := closesAt.map (max now)
    match watcher.interrupted? cancelAt now state close with
    | some (time, answer) => some ⟨time, answer, []⟩
    | none => close.map fun time => ⟨time, watcher.closed, []⟩
  | now, state, (earliest, event) :: rest =>
    let moment := max now earliest
    match watcher.interrupted? cancelAt now state (some moment) with
    | some (time, answer) => some ⟨time, answer, (earliest, event) :: rest⟩
    | none =>
      match event with
      | .error fault => some ⟨moment, .error (.watch fault), rest⟩
      | .ok object =>
        match watcher.observe moment state object with
        | .answer given => some ⟨moment, given, rest⟩
        | .wait next => watcher.follow cancelAt closesAt moment next rest

/-- Follow a watch from the start. -/
def run (watcher : Watcher State Object Answer) (cancelAt : Option Nat) (timeline : Timeline Object) :
    Option (Ending Object Answer) :=
  watcher.follow cancelAt timeline.closesAt 0 watcher.start timeline.events

end Watcher

end Turnstile
