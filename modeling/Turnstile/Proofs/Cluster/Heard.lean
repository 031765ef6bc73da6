/-
Module: Turnstile.Proofs.Cluster.Heard
Purpose: What a program of requests has heard when it sends its next request.
Main exports: Exchange, Program.Heeds, Program.Heeds.bind, Program.Uses.heeds, Attempt.Heeds, Attempt.Heeds.bind,
  Attempt.heeds_find?, Attempt.heeds_require, Attempt.heeds_createOrGet
-/
import Turnstile.Proofs.Cluster.Conduct

/-!
A program knows nothing of a cluster but the replies to its own requests.  It heeds a rule if every request that it
sends is permitted by what it has heard before, whatever the replies were.
-/

namespace Turnstile

/-- A request that was sent, and the reply to it. -/
structure Exchange where
  request : Request
  reply : Except ApiError Json

/-- Every request of the program is permitted by what was heard before, the latest first, and its value meets the
goal. -/
def Program.Heeds {α : Type} (permits : List Exchange → Request → Prop) (goal : α → List Exchange → Prop) :
    Program α → List Exchange → Prop
  | .done value, heard => goal value heard
  | .call request next, heard =>
    permits heard request ∧ ∀ reply, (next reply).Heeds permits goal (⟨request, reply⟩ :: heard)

variable {α β : Type} {permits : List Exchange → Request → Prop} {heard : List Exchange}

namespace Program

/-- A program heeds the rule if its first part does and the rest does with whatever the first part has heard. -/
theorem Heeds.bind (middle : α → List Exchange → Prop) {goal : β → List Exchange → Prop} {program : Program α}
    {next : α → Program β} (first : program.Heeds permits middle heard)
    (rest : ∀ value later, middle value later → (next value).Heeds permits goal later) :
    (program.bind next).Heeds permits goal heard := by
  induction program generalizing heard with
  | done value => exact rest value heard first
  | call request after inductionHypothesis =>
      exact ⟨first.1, fun reply => inductionHypothesis reply (first.2 reply)⟩

/-- A request is sent, or it lacks a name and fails at once. -/
theorem heeds_read {decode : Json → Option α} {request : Request}
    {goal : Except ApiError α → List Exchange → Prop} (permitted : permits heard request)
    (answered : ∀ reply, goal (readable decode reply) (⟨request, reply⟩ :: heard))
    (unsent : goal (.error .unanswered) heard) : (read decode request).Heeds permits goal heard := by
  refine Heeds.bind (fun reply => goal (readable decode reply)) ?_ fun _ _ met => met
  unfold ask
  split
  · exact ⟨permitted, answered⟩
  · exact unsent

/-- What allowed requests keep of what is heard, and permits them, a program of such requests keeps. -/
theorem Uses.heeds {allowed : Request → Prop} {program : Program α} (uses : program.Uses allowed)
    (kept : List Exchange → Prop)
    (keeps : ∀ {later request}, kept later → allowed request →
      permits later request ∧ ∀ reply, kept (⟨request, reply⟩ :: later))
    (holds : kept heard) : program.Heeds permits (fun _ => kept) heard := by
  induction program generalizing heard with
  | done value => exact holds
  | call request next inductionHypothesis =>
      obtain ⟨permitted, after⟩ := keeps holds uses.1
      exact ⟨permitted, fun reply => inductionHypothesis reply (uses.2 reply) (after reply)⟩

/-- What meets a goal meets a weaker one. -/
theorem Heeds.weaken {strong weak : α → List Exchange → Prop} {program : Program α}
    (heeds : program.Heeds permits strong heard)
    (weaker : ∀ value later, strong value later → weak value later) : program.Heeds permits weak heard := by
  induction program generalizing heard with
  | done value => exact weaker value heard heeds
  | call request next inductionHypothesis =>
      exact ⟨heeds.1, fun reply => inductionHypothesis reply (heeds.2 reply)⟩

/-- What was heard is never forgotten. -/
theorem Heeds.remembers {goal : α → List Exchange → Prop} {program : Program α}
    (heeds : program.Heeds permits goal heard) :
    program.Heeds permits (fun value later => goal value later ∧ heard <:+ later) heard := by
  induction program generalizing heard with
  | done value => exact ⟨heeds, List.suffix_refl heard⟩
  | call request next inductionHypothesis =>
      refine ⟨heeds.1, fun reply => (inductionHypothesis reply (heeds.2 reply)).weaken ?_⟩
      rintro value later ⟨met, more⟩
      exact ⟨met, (List.suffix_cons _ heard).trans more⟩

end Program

namespace Attempt

/-- Every request of the attempt is permitted by what was heard before, and its value meets the goal if it
succeeds. -/
def Heeds (permits : List Exchange → Request → Prop) (goal : α → List Exchange → Prop) (attempt : Attempt α)
    (heard : List Exchange) : Prop :=
  Program.Heeds permits (fun result later => ∀ value, result = .ok value → goal value later) attempt heard

variable {goal : α → List Exchange → Prop}

theorem heeds_pure {value : α} (met : goal value heard) : Heeds permits goal (pure value) heard := by
  intro result same
  cases same
  exact met

theorem heeds_fail (failure : ReconcileFailure) : Heeds permits goal (fail failure) heard := by
  intro result impossible
  cases impossible

/-- An attempt heeds the rule if its first part does and the rest does after the first part has succeeded. -/
theorem Heeds.bind (middle : α → List Exchange → Prop) {goal : β → List Exchange → Prop} {attempt : Attempt α}
    {next : α → Attempt β} (first : Heeds permits middle attempt heard)
    (rest : ∀ value later, middle value later → Heeds permits goal (next value) later) :
    Heeds permits goal (attempt >>= next) heard := by
  apply Program.Heeds.bind _ first
  intro result later met
  cases result with
  | error failure => exact heeds_fail failure
  | ok value => exact rest value later (met value rfl)

/-- What allowed requests keep of what is heard, and permits them, an attempt of such requests keeps. -/
theorem Uses.heeds {allowed : Request → Prop} {attempt : Attempt α} (uses : Uses allowed attempt)
    (kept : List Exchange → Prop)
    (keeps : ∀ {later request}, kept later → allowed request →
      permits later request ∧ ∀ reply, kept (⟨request, reply⟩ :: later))
    (holds : kept heard) : Heeds permits (fun _ => kept) attempt heard :=
  (Program.Uses.heeds uses kept keeps holds).weaken fun _ _ met _ _ => met

/-- An answer that says that an object does not exist is the reply itself. -/
theorem error_of_readable {decode : Json → Option α} {reply : Except ApiError Json} {error : ApiError}
    (unreadable : Program.readable decode reply = .error error) (denied : error.saysNotFound = true) :
    reply = .error error := by
  cases reply with
  | error fault => simpa [Program.readable] using unreadable
  | ok json =>
      -- A reply that cannot be read counts as none, and none does not say that an object does not exist.
      cases read : decode json with
      | some value => simp [Program.readable, read] at unreadable
      | none =>
          simp only [Program.readable, read, Option.elim, Except.error.injEq] at unreadable
          rw [← unreadable] at denied
          cases denied

/-- A lookup of an object that need not exist: it finds what it was answered with, or was told of nothing. -/
theorem heeds_find? {decode : Json → Option α} {key : Key} {goal : Option α → List Exchange → Prop}
    (permitted : permits heard (.get key))
    (found : ∀ json value, decode json = some value → goal (some value) (⟨.get key, .ok json⟩ :: heard))
    (absent : ∀ error : ApiError, error.saysNotFound = true → goal none (⟨.get key, .error error⟩ :: heard)) :
    Heeds permits goal (find? decode key) heard := by
  refine Program.Heeds.bind (fun (result : Except ApiError (Option α)) later =>
    ∀ value, result = .ok value → goal value later) ?_ ?_
  · refine Program.Heeds.bind (fun (result : Except ApiError α) later =>
      (∀ value, result = .ok value → goal (some value) later) ∧
        ∀ error, result = .error error → error.saysNotFound = true → goal none later) ?_ ?_
    · refine Program.heeds_read permitted (fun reply => ⟨fun value readable => ?_, fun error unreadable denied => ?_⟩)
        ⟨by simp, ?_⟩
      · obtain ⟨json, rfl, read⟩ := ok_of_readable readable
        exact found json value read
      · rw [error_of_readable unreadable denied]
        exact absent error denied
      · intro error same denied
        cases same
        cases denied
    · intro result later met
      cases result with
      | ok value =>
          intro given same
          cases same
          exact met.1 value rfl
      | error error =>
          cases denied : error.saysNotFound with
          | true =>
              simp only [denied, if_true]
              intro given same
              cases same
              exact met.2 error rfl denied
          | false =>
              simp only [denied]
              intro given impossible
              cases impossible
  · intro result later met
    cases result with
    | error error => exact heeds_fail _
    | ok value => exact heeds_pure (met value rfl)

/-- A request whose answer has to be good: it succeeds with an answer that can be read. -/
theorem heeds_require {decode : Json → Option α} {request : Request} (permitted : permits heard request)
    (answered : ∀ json value, decode json = some value → goal value (⟨request, .ok json⟩ :: heard)) :
    Heeds permits goal (require decode request) heard := by
  refine Program.Heeds.bind (fun (result : Except ApiError α) later =>
    ∀ value, result = .ok value → goal value later) ?_ ?_
  · refine Program.heeds_read permitted (fun reply value readable => ?_) (by simp)
    obtain ⟨json, rfl, read⟩ := ok_of_readable readable
    exact answered json value read
  · intro result later met
    cases result with
    | error error => exact heeds_fail _
    | ok value => exact heeds_pure (met value rfl)

/-- An object is created or taken as it is. -/
theorem heeds_createOrGet {decode : Json → Option α} {key : Key} {desired : Json}
    (creates : permits heard (.create key.kind key.namespaceName desired))
    (looks : ∀ reply, permits (⟨.create key.kind key.namespaceName desired, reply⟩ :: heard) (.get key)) :
    Heeds permits (fun _ _ => True) (createOrGet decode key desired) heard := by
  refine Program.Heeds.bind (fun _ _ => True) ?_ ?_
  · refine Program.Heeds.bind (fun result later =>
      ∀ error : ApiError, result = .error error → error.isAlreadyExists = true → permits later (.get key)) ?_ ?_
    · refine Program.heeds_read creates (fun reply _ _ _ => looks reply) ?_
      intro error same exists'
      cases same
      cases exists'
    · intro result later permitted
      cases result with
      | ok value => trivial
      | error error =>
          simp only
          split
          · rename_i exists'
            exact Program.heeds_read (permitted error rfl exists') (fun _ => trivial) trivial
          · trivial
  · intro result later _
    cases result with
    | error error => exact heeds_fail _
    | ok value => exact heeds_pure trivial

end Attempt

end Turnstile
