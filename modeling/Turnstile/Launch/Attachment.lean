/-
Module: Turnstile.Launch.Attachment
Purpose: A user attached to a pod: the handshake that comes first, and what is relayed after it.
Main exports: Attachment.Step, Attachment.Course, Attachment.carryOut
-/
import Turnstile.Cluster
import Turnstile.Launch.Handshake

/-!
The pod asks for its client by the token; the client answers with the same token on a line of its own.  Only
when the answer has left is the run marked as having its client, and only then does anything pass between
the user and the pod: first the output that came with the token, then output and input as they come.  The
session lasts as long as the output.  If the output breaks off, the input is not stopped with it.
-/

namespace Turnstile.Attachment

/-- Something that is seen of an attachment from outside. -/
inductive Step where
  /-- Octets of the output of the pod are read while its token is awaited. -/
  | heard (data : List UInt8)
  /-- Octets reach the input of the pod. -/
  | sent (data : List UInt8)
  /-- All that was sent has left. -/
  | flushed
  /-- The server is asked for a change. -/
  | asked (request : Request)
  /-- The server has accepted it. -/
  | marked
  /-- Octets are shown to the user. -/
  | shown (data : List UInt8)

/-- How far something that is written gets if it does not get through: how much of it does, and why no more.  If
everything fits, it still does not leave.  Without a fault there is no end to the waiting. -/
structure Cut where
  room : Nat
  fault : Option SystemFault

/-- The failure of what is cut off at a time, if it fails at all. -/
def Cut.failure (cut : Cut) (time : Nat) : Option (Nat × Except LaunchFailure Unit) :=
  cut.fault.map fun fault => (time, .error (.io fault))

/-- What the surroundings do, with times in milliseconds.  What is read or typed is taken at its time, or at the
beginning of the relay if that comes later. -/
structure Course where
  /-- The namespace and the name of the run. -/
  namespaceName : String := ""
  run : String := ""
  /-- The answer to the request for the connection and for its streams. -/
  opened : Except LaunchFailure Unit
  /-- The output of the pod, in the reads in which it comes. -/
  output : List (Nat × Read) := []
  /-- How far the line with the token gets, unless it gets through. -/
  answerCut : Option Cut := none
  /-- The answer to the request that marks the run, if there is any. -/
  marking : Option (Except ApiError Unit) := some (.ok ())
  /-- How long it takes from the token to the beginning of the relay. -/
  delay : Nat := 0
  /-- What the user types. -/
  typed : List (Nat × List UInt8) := []
  /-- How much of that gets through, if not all of it does. -/
  inputRoom : Option Nat := none
  /-- How far the output for the user gets, unless it gets through. -/
  displayCut : Option Cut := none
  /-- How the connection is closed. -/
  closed : Except LaunchFailure Unit := .ok ()

/-- What has come of an attachment: all steps in order, with their times, and the outcome unless it lasts for
ever. -/
structure Ending where
  steps : List (Nat × Step)
  outcome : Option (Except LaunchFailure Unit)

/-- The line by which the client answers the pod. -/
def line : List UInt8 :=
  Handshake.token ++ [10]

/-- The request that marks a run as having its client. -/
def markRequest (namespaceName run : String) : Request :=
  .patch ⟨.run, namespaceName, run⟩
    (.object
      [("metadata", .object [("annotations", .object [(Run.clientAnnotation, .string Run.clientReadyText)])])])

/-- The failure of a pod that does not ask in time. -/
def notAsked (timeout : Nat) : LaunchFailure :=
  .attach ("no handshake from pod within " ++ (Duration.ofMillis timeout).text)

/-- What is heard by a read. -/
def Step.ofRead : Read → List Step
  | .octets data => [.heard data]
  | .failed _ => []

/-- Wait for the token until the timeout, after `seen` was read without it: what is heard, and the time at which
the token was complete, what followed it in the same read, and the output that is left. -/
def awaitToken (timeout : Nat) (seen : List UInt8) :
    List (Nat × Read) → List (Nat × Step) × Except LaunchFailure (Nat × List UInt8 × List (Nat × Read))
  | [] => ([], .error (notAsked timeout))
  | (time, read) :: rest =>
    if timeout < time then ([], .error (notAsked timeout))
    else
      let heard := (Step.ofRead read).map fun step => (time, step)
      match Handshake.hear Handshake.token seen read with
      | .ended (.error failure) => (heard, .error failure)
      | .ended (.ok follows) => (heard, .ok (time, follows, rest))
      | .more seen =>
        let (later, result) := awaitToken timeout seen rest
        (heard ++ later, result)

/-- Show output from the time `start` on until it ends or cannot be shown: what is shown, and the end with its
time. -/
def display (start : Nat) (cut : Option Cut) :
    List (Nat × Read) → List (Nat × Step) × Option (Nat × Except LaunchFailure Unit)
  | [] => ([], none)
  | (time, .failed fault) :: _ => ([], some (max start time, .error (.io fault)))
  | (time, .octets data) :: rest =>
    let now := max start time
    if data.isEmpty then
      -- What was shown still has to leave.
      ([], match cut with
        | none => some (now, .ok ())
        | some cut => cut.failure now)
    else
      match cut with
      | none =>
        let (steps, ending) := display start none rest
        ((now, .shown data) :: steps, ending)
      | some cut =>
        if data.length ≤ cut.room then
          let (steps, ending) := display start (some { cut with room := cut.room - data.length }) rest
          ((now, .shown data) :: steps, ending)
        else ([(now, .shown (data.take cut.room))], cut.failure now)

/-- As much of the pieces as there is room for. -/
def fitting : Option Nat → List (Nat × List UInt8) → List (Nat × List UInt8)
  | none, pieces => pieces
  | some _, [] => []
  | some room, (time, data) :: rest =>
    if data.length ≤ room then (time, data) :: fitting (some (room - data.length)) rest
    else [(time, data.take room)]

/-- What is typed before the output has ended well, which stops the input. -/
def timely (start : Nat) (ending : Option (Nat × Except LaunchFailure Unit)) (typed : List (Nat × List UInt8)) :
    List (Nat × List UInt8) :=
  match ending with
  | some (time, .ok ()) => typed.takeWhile fun piece => max start piece.1 < time
  | _ => typed

/-- The input that is forwarded. -/
def forward (start : Nat) (course : Course) (ending : Option (Nat × Except LaunchFailure Unit)) :
    List (Nat × Step) :=
  (fitting course.inputRoom (timely start ending course.typed)).map fun piece => (max start piece.1, .sent piece.2)

/-- What passes between the user and the pod while the output lasts, once what came with the token was shown. -/
def exchange (course : Course) (start : Nat) (cut : Option Cut) (rest : List (Nat × Read)) : Ending :=
  let (shown, ending) := display start cut rest
  ⟨shown.merge (forward start course ending) fun first second => first.1 ≤ second.1,
    ending.map fun last => last.2.bind fun _ => course.closed⟩

/-- What passes between the user and the pod after the handshake: nothing is forwarded before what came with the
token was shown. -/
def relay (course : Course) (start : Nat) (follows : List UInt8) (rest : List (Nat × Read)) : Ending :=
  let relayed := fun cut =>
    let exchanged := exchange course start cut rest
    Ending.mk ((start, .shown follows) :: exchanged.steps) exchanged.outcome
  match course.displayCut with
  | none => relayed none
  | some cut =>
    if follows.length ≤ cut.room then relayed (some { cut with room := cut.room - follows.length })
    else ⟨[(start, .shown (follows.take cut.room))], (cut.failure start).map Prod.snd⟩

/-- Answer the pod and mark the run; only if both work out does anything else pass. -/
def answer (course : Course) (time : Nat) (follows : List UInt8) (rest : List (Nat × Read)) : Ending :=
  match course.answerCut with
  | some cut => ⟨[(time, .sent (line.take cut.room))], (cut.failure time).map Prod.snd⟩
  | none =>
    let asking := [(time, .sent line), (time, .flushed), (time, .asked (markRequest course.namespaceName course.run))]
    match course.marking with
    | none => ⟨asking, none⟩
    | some (.error error) => ⟨asking, some (.error (.api error))⟩
    | some (.ok _) =>
      let relayed := relay course (time + course.delay) follows rest
      ⟨asking ++ (time + course.delay, .marked) :: relayed.steps, relayed.outcome⟩

/-- Carry an attachment out, with a timeout for the handshake. -/
def carryOut (timeout : Nat) (course : Course) : Ending :=
  match course.opened with
  | .error failure => ⟨[], some (.error failure)⟩
  | .ok _ =>
    let (heard, result) := awaitToken timeout [] course.output
    match result with
    | .error failure => ⟨heard, some (.error failure)⟩
    | .ok (time, follows, rest) =>
      let answered := answer course time follows rest
      ⟨heard ++ answered.steps, answered.outcome⟩

/-- What the user sees of the steps. -/
def seenBy (steps : List (Nat × Step)) : List UInt8 :=
  steps.flatMap fun step =>
    match step.2 with
    | .shown data => data
    | _ => []

/-- What the pod reads of the steps. -/
def readBy (steps : List (Nat × Step)) : List UInt8 :=
  steps.flatMap fun step =>
    match step.2 with
    | .sent data => data
    | _ => []

end Turnstile.Attachment
