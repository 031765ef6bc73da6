/-
Module: Turnstile.Proofs.Launch.Verdict
Purpose: The verdict of the monitor over any signals, in any order, with a cancellation at any point.
Main exports: Monitor.received, Monitor.Undecided, Monitor.Decision, Monitor.verdict?, Monitor.Judged, Monitor.judged
-/
import Turnstile.Launch.Monitor
import Turnstile.Proofs.Watch

/-!
Signals count as far as they are received before the cancellation.  Up to some signal nothing may be decided:
no failure was received, and not both a pod and the workspace.  The signal that ends this decides, and then
neither later signals nor the cancellation matter any more.  If no signal decides, the cancellation does,
unless the senders are gone before it.
-/

namespace Turnstile.Monitor

/-- The timeline of sent signals, which ends when the last sender is gone. -/
def heard (sent : List (Nat × Signal)) (closesAt : Option Nat) : Timeline Signal where
  events := sent.map fun signal => (signal.1, .ok signal.2)
  closesAt := closesAt

/-- The answer of the merge, if there ever is one. -/
def verdict? (cancelAt closesAt : Option Nat) (sent : List (Nat × Signal)) : Option (Except LaunchFailure Pod) :=
  (merge.run cancelAt (heard sent closesAt)).map Ending.answer

/-- The signals that are received before the cancellation. -/
def received (cancelAt : Option Nat) (sent : List (Nat × Signal)) : List Signal :=
  (sent.takeWhile fun signal => !comesBy cancelAt (some signal.1)).map Prod.snd

/-- The latest of the times at which signals are sent, and a given one. -/
def latest (time : Nat) (sent : List (Nat × Signal)) : Nat :=
  sent.foldl (fun time signal => max time signal.1) time

/-- When the last sender is gone, which is after the last signal. -/
def closing (closesAt : Option Nat) (sent : List (Nat × Signal)) : Option Nat :=
  closesAt.map fun time => latest time sent

def podOf? : Signal → Option Pod
  | .podReady pod => some pod
  | _ => none

/-- The last pod that was reported. -/
def lastPod? (signals : List Signal) : Option Pod :=
  (signals.filterMap podOf?).getLast?

/-- Both a pod and the workspace were reported. -/
def Complete (signals : List Signal) : Prop :=
  .workspaceExists ∈ signals ∧ ∃ pod, .podReady pod ∈ signals

/-- Neither a failure nor both a pod and the workspace were reported. -/
def Undecided (signals : List Signal) : Prop :=
  (∀ failure, .fatal failure ∉ signals) ∧ ¬Complete signals

/-- What a signal decides that is received after others. -/
inductive Decision (before : List Signal) : Signal → Except LaunchFailure Pod → Prop where
  | fails (failure : LaunchFailure) : Decision before (.fatal failure) (.error failure)
  | succeeds {signal : Signal} {pod : Pod} (harmless : ∀ failure, signal ≠ .fatal failure)
      (complete : Complete (before ++ [signal])) (last : lastPod? (before ++ [signal]) = some pod) :
      Decision before signal (.ok pod)

/-- What the merge makes of received signals, as far as they decide. -/
def decided? (reported : Reported) : List Signal → Option (Except LaunchFailure Pod)
  | [] => none
  | signal :: signals =>
      match merge.observe 0 reported signal with
      | .answer given => some given
      | .wait next => decided? next signals

/-- What the merge answers if no signal decides. -/
def unheard? (cancelAt closes : Option Nat) : Option (Except LaunchFailure Pod) :=
  if comesBy cancelAt closes then some (.error .cancelled)
  else closes.map fun _ => .error (.watchClosed "monitor")

theorem interrupted?_merge (cancelAt next : Option Nat) (now : Nat) (reported : Reported) :
    merge.interrupted? cancelAt now reported next =
      if comesBy (cancelAt.map (max now)) next then cancelAt.map fun time => (max now time, .error .cancelled)
      else none := by
  have noDeadline : merge.deadline reported = none := rfl
  cases cancelAt with
  | none => cases next <;> rfl
  | some limit => cases next <;> rfl

theorem le_latest (time : Nat) (sent : List (Nat × Signal)) : time ≤ latest time sent := by
  induction sent generalizing time with
  | nil => exact Nat.le_refl time
  | cons signal sent inductionHypothesis =>
      exact Nat.le_trans (Nat.le_max_left _ _) (inductionHypothesis _)

theorem comesBy_map_max (cancelAt closesAt : Option Nat) (now : Nat) :
    comesBy (cancelAt.map (max now)) (closesAt.map (max now)) = comesBy cancelAt (closesAt.map (max now)) := by
  cases cancelAt with
  | none => rfl
  | some limit =>
      cases closesAt with
      | none => rfl
      | some close =>
          have sameOrder : max now limit ≤ max now close ↔ limit ≤ max now close := by omega
          exact decide_eq_decide.mpr sameOrder

/-- What comes later than a time at which there was no cancellation yet is cut off as if it stood alone. -/
theorem comesBy_max {cancelAt : Option Nat} {now : Nat} (early : comesBy cancelAt (some now) = false ∨ now = 0)
    (time : Nat) : comesBy cancelAt (some (max now time)) = comesBy cancelAt (some time) := by
  cases cancelAt with
  | none => rfl
  | some limit =>
      have notYet : ¬limit ≤ now ∨ now = 0 := early.imp_left of_decide_eq_false
      have sameOrder : limit ≤ max now time ↔ limit ≤ time := by omega
      exact decide_eq_decide.mpr sameOrder

theorem answer_follow {cancelAt closesAt : Option Nat} {now : Nat} {reported : Reported}
    (early : comesBy cancelAt (some now) = false ∨ now = 0) (sent : List (Nat × Signal)) :
    (merge.follow cancelAt closesAt now reported (heard sent closesAt).events).map Ending.answer =
      (decided? reported (received cancelAt sent)).or
        (unheard? cancelAt (closesAt.map fun time => latest (max now time) sent)) := by
  induction sent generalizing now reported with
  | nil =>
      have closes : (closesAt.map fun time => latest (max now time) []) = closesAt.map (max now) := rfl
      simp only [heard, List.map_nil, Watcher.follow, interrupted?_merge, comesBy_map_max, received,
        List.takeWhile_nil, decided?, Option.none_or, unheard?, closes]
      cases cancelAt with
      | none => cases closesAt <;> rfl
      | some limit =>
          cases closesAt with
          | none => rfl
          | some close =>
              by_cases inTime : limit ≤ max now close
              · simp [comesBy, inTime]
              · simp [comesBy, inTime]
                rfl
  | cons signal sent inductionHypothesis =>
      obtain ⟨time, signal⟩ := signal
      have sameCut : comesBy (cancelAt.map (max now)) (some (max now time)) = comesBy cancelAt (some time) := by
        rw [← comesBy_max early time]
        exact comesBy_map_max cancelAt (some time) now
      simp only [heard, List.map_cons, Watcher.follow, interrupted?_merge, sameCut]
      cases cut : comesBy cancelAt (some time) with
      | true =>
          obtain ⟨limit, rfl, inTime⟩ : ∃ limit, cancelAt = some limit ∧ limit ≤ time := by
            cases cancelAt with
            | none => cases cut
            | some limit => exact ⟨limit, rfl, of_decide_eq_true cut⟩
          have cancels : comesBy (some limit) (closesAt.map fun close => latest (max now close) ((time, signal) :: sent))
              = true := by
            cases closesAt with
            | none => rfl
            | some close =>
                have reached : time ≤ latest (max (max now close) time) sent :=
                  Nat.le_trans (Nat.le_max_right _ _) (le_latest _ _)
                exact decide_eq_true (Nat.le_trans inTime reached)
          simp [received, cut, decided?, unheard?, cancels]
      | false =>
          have sameLatest : (closesAt.map fun close => latest (max now close) ((time, signal) :: sent)) =
              closesAt.map fun close => latest (max (max now time) close) sent := by
            cases closesAt with
            | none => rfl
            | some close =>
                have sameTime : max (max now close) time = max (max now time) close := by omega
                simp only [Option.map_some, latest, List.foldl_cons, sameTime]
          have stillEarly : comesBy cancelAt (some (max now time)) = false := by
            rw [comesBy_max early time, cut]
          have sameObserve : merge.observe (max now time) reported signal = merge.observe 0 reported signal := rfl
          simp only [received, List.takeWhile_cons, cut, Bool.not_false, if_true, List.map_cons, decided?,
            sameObserve, sameLatest]
          cases merge.observe 0 reported signal with
          | answer given => simp
          | wait next => simpa [heard, received] using inductionHypothesis (.inl stillEarly)

theorem verdict?_eq (cancelAt closesAt : Option Nat) (sent : List (Nat × Signal)) :
    verdict? cancelAt closesAt sent =
      (decided? {} (received cancelAt sent)).or (unheard? cancelAt (closing closesAt sent)) := by
  have fromStart : closing closesAt sent = closesAt.map fun time => latest (max 0 time) sent := by
    simp [closing]
  rw [fromStart]
  exact answer_follow (.inr rfl) sent

theorem undecided_nil : Undecided [] :=
  ⟨fun _ => List.not_mem_nil, fun complete => List.not_mem_nil complete.1⟩

theorem undecided_of_append {before after : List Signal} (undecided : Undecided (before ++ after)) :
    Undecided before := by
  refine ⟨fun failure member => undecided.1 failure (List.mem_append_left _ member), ?_⟩
  rintro ⟨confirmed, pod, reported⟩
  exact undecided.2 ⟨List.mem_append_left _ confirmed, pod, List.mem_append_left _ reported⟩

/-- After a decision, nothing is undecided any more. -/
theorem not_undecided_of_decision {before : List Signal} {signal : Signal} {answer : Except LaunchFailure Pod}
    (decision : Decision before signal answer) (after : List Signal) : ¬Undecided (before ++ signal :: after) := by
  intro undecided
  rw [List.append_cons] at undecided
  have still := undecided_of_append undecided
  cases decision with
  | fails failure => exact still.1 failure (by simp)
  | succeeds _ complete _ => exact still.2 complete

theorem decision_unique {before : List Signal} {signal : Signal} {answer other : Except LaunchFailure Pod}
    (decision : Decision before signal answer) (otherDecision : Decision before signal other) : answer = other := by
  cases decision with
  | fails failure =>
      cases otherDecision with
      | fails => rfl
      | succeeds harmless => exact absurd rfl (harmless failure)
  | succeeds harmless _ last =>
      cases otherDecision with
      | fails failure => exact absurd rfl (harmless failure)
      | succeeds _ _ otherLast =>
          rw [last] at otherLast
          cases otherLast
          rfl

/-- The reports are what the signals told. -/
def Tells (told : List Signal) (reported : Reported) : Prop :=
  reported.pod = lastPod? told ∧ (reported.workspace = true ↔ .workspaceExists ∈ told)

theorem lastPod?_append (told : List Signal) (signal : Signal) :
    lastPod? (told ++ [signal]) = (podOf? signal).or (lastPod? told) := by
  cases signal <;> simp [lastPod?, podOf?]

theorem podReady_mem_of_lastPod? {signals : List Signal} {pod : Pod} (last : lastPod? signals = some pod) :
    .podReady pod ∈ signals := by
  obtain ⟨signal, member, same⟩ := List.mem_filterMap.mp (List.mem_of_getLast? last)
  cases signal with
  | podReady other =>
      cases same
      exact member
  | workspaceExists => cases same
  | fatal failure => cases same

theorem lastPod?_ne_none {signals : List Signal} {pod : Pod} (member : .podReady pod ∈ signals) :
    lastPod? signals ≠ none := by
  intro nothing
  have empty := List.getLast?_eq_none_iff.mp nothing
  have listed : pod ∈ signals.filterMap podOf? := List.mem_filterMap.mpr ⟨.podReady pod, member, rfl⟩
  rw [empty] at listed
  cases listed

/-- A signal either decides, or is told and leaves everything undecided. -/
theorem observe_cases {told : List Signal} {reported : Reported} (tells : Tells told reported)
    (undecided : Undecided told) (signal : Signal) :
    (∃ answer, merge.observe 0 reported signal = .answer answer ∧ Decision told signal answer) ∨
    (∃ next, merge.observe 0 reported signal = .wait next ∧ Tells (told ++ [signal]) next ∧
      Undecided (told ++ [signal])) := by
  obtain ⟨samePod, confirmed⟩ := tells
  cases signal with
  | fatal failure => exact .inl ⟨.error failure, rfl, .fails failure⟩
  | podReady pod =>
      have last : lastPod? (told ++ [.podReady pod]) = some pod := lastPod?_append told _
      cases known : reported.workspace with
      | true =>
          refine .inl ⟨.ok pod, by simp [merge, Reported.step, known], .succeeds (by simp) ?_ last⟩
          exact ⟨List.mem_append_left _ (confirmed.mp known), pod, by simp⟩
      | false =>
          have unconfirmed : .workspaceExists ∉ told ++ [.podReady pod] := by
            simp [← confirmed, known]
          refine .inr ⟨{ reported with pod := some pod }, by simp [merge, Reported.step, known], ?_, ?_⟩
          · exact ⟨last.symm, by simp [known, unconfirmed]⟩
          · exact ⟨by simpa using undecided.1, fun complete => unconfirmed complete.1⟩
  | workspaceExists =>
      have last : lastPod? (told ++ [.workspaceExists]) = lastPod? told := lastPod?_append told _
      cases known : reported.pod with
      | some pod =>
          rw [known] at samePod
          refine .inl ⟨.ok pod, by simp [merge, Reported.step, known], .succeeds (by simp) ?_ (last.trans samePod.symm)⟩
          exact ⟨by simp, pod, List.mem_append_left _ (podReady_mem_of_lastPod? samePod.symm)⟩
      | none =>
          refine .inr ⟨{ reported with workspace := true }, by simp [merge, Reported.step, known], ?_, ?_⟩
          · exact ⟨samePod.trans last.symm, by simp⟩
          · refine ⟨by simpa using undecided.1, ?_⟩
            rintro ⟨_, pod, listed⟩
            apply lastPod?_ne_none listed
            rw [last, ← samePod, known]

theorem decided?_eq_some_iff {told : List Signal} {reported : Reported} (tells : Tells told reported)
    (undecided : Undecided told) (signals : List Signal) (answer : Except LaunchFailure Pod) :
    decided? reported signals = some answer ↔
      ∃ before signal after, signals = before ++ signal :: after ∧ Undecided (told ++ before) ∧
        Decision (told ++ before) signal answer := by
  induction signals generalizing told reported with
  | nil => simp [decided?]
  | cons signal signals inductionHypothesis =>
      rcases observe_cases tells undecided signal with ⟨given, observed, decision⟩ | ⟨next, observed, nextTells, still⟩
      · simp only [decided?, observed, Option.some.injEq]
        constructor
        · rintro rfl
          exact ⟨[], signal, signals, rfl, by simpa using undecided, by simpa using decision⟩
        · rintro ⟨before, other, after, same, undecidedBefore, otherDecision⟩
          cases before with
          | nil =>
              cases same
              rw [List.append_nil] at otherDecision
              exact decision_unique decision otherDecision
          | cons first before =>
              cases same
              exact absurd undecidedBefore (not_undecided_of_decision decision before)
      · simp only [decided?, observed]
        rw [inductionHypothesis nextTells still]
        constructor
        · rintro ⟨before, other, after, rfl, undecidedBefore, decision⟩
          exact ⟨signal :: before, other, after, rfl, by simpa using undecidedBefore, by simpa using decision⟩
        · rintro ⟨before, other, after, same, undecidedBefore, decision⟩
          cases before with
          | nil =>
              cases same
              rw [List.append_nil] at decision
              exact absurd still (not_undecided_of_decision decision [])
          | cons first before =>
              cases same
              exact ⟨before, other, after, rfl, by simpa using undecidedBefore, by simpa using decision⟩

theorem decided?_eq_none_iff {told : List Signal} {reported : Reported} (tells : Tells told reported)
    (undecided : Undecided told) (signals : List Signal) :
    decided? reported signals = none ↔ Undecided (told ++ signals) := by
  induction signals generalizing told reported with
  | nil => simpa [decided?] using undecided
  | cons signal signals inductionHypothesis =>
      rcases observe_cases tells undecided signal with ⟨given, observed, decision⟩ | ⟨next, observed, nextTells, still⟩
      · have decided := not_undecided_of_decision decision signals
        simp [decided?, observed, decided]
      · simp only [decided?, observed]
        rw [inductionHypothesis nextTells still, List.append_assoc]
        rfl

/-- What the monitor makes of signals sent in any order and of a cancellation at any point. -/
structure Judged (cancelAt closesAt : Option Nat) (sent : List (Nat × Signal)) : Prop where
  /-- It succeeds with the last pod reported once both were, if nothing failed and it was not cancelled before. -/
  succeeds : ∀ pod, verdict? cancelAt closesAt sent = some (.ok pod) ↔
    ∃ before signal after, received cancelAt sent = before ++ signal :: after ∧ Undecided before ∧
      (∀ failure, signal ≠ .fatal failure) ∧ Complete (before ++ [signal]) ∧
      lastPod? (before ++ [signal]) = some pod
  /-- It fails with the first failure, if that comes first, or with what ends it while nothing is decided. -/
  fails : ∀ failure, verdict? cancelAt closesAt sent = some (.error failure) ↔
    (∃ before after, received cancelAt sent = before ++ .fatal failure :: after ∧ Undecided before) ∨
    (Undecided (received cancelAt sent) ∧ comesBy cancelAt (closing closesAt sent) = true ∧ failure = .cancelled) ∨
    (Undecided (received cancelAt sent) ∧ comesBy cancelAt (closing closesAt sent) = false ∧
      closesAt.isSome ∧ failure = .watchClosed "monitor")
  /-- It waits for ever only if nothing is decided, it is never cancelled and some sender stays. -/
  waits : verdict? cancelAt closesAt sent = none ↔
    Undecided (received cancelAt sent) ∧ cancelAt = none ∧ closesAt = none
  /-- Nothing sent after the signal that decides changes the verdict. -/
  decided : ¬Undecided (received cancelAt sent) → ∀ later closesLater,
    verdict? cancelAt closesLater (sent ++ later) = verdict? cancelAt closesAt sent
  /-- Nothing sent once it was cancelled changes the verdict. -/
  cancelled : comesBy cancelAt (closing closesAt sent) = true →
    ∀ later, (∀ signal ∈ later, comesBy cancelAt (some signal.1) = true) →
      verdict? cancelAt closesAt (sent ++ later) = verdict? cancelAt closesAt sent

theorem tells_nil : Tells [] {} :=
  ⟨rfl, by simp⟩

theorem decision_ok_iff {before : List Signal} {signal : Signal} {pod : Pod} :
    Decision before signal (.ok pod) ↔
      (∀ failure, signal ≠ .fatal failure) ∧ Complete (before ++ [signal]) ∧
        lastPod? (before ++ [signal]) = some pod := by
  constructor
  · intro decision
    cases decision with
    | succeeds harmless complete last => exact ⟨harmless, complete, last⟩
  · rintro ⟨harmless, complete, last⟩
    exact .succeeds harmless complete last

theorem decision_error_iff {before : List Signal} {signal : Signal} {failure : LaunchFailure} :
    Decision before signal (.error failure) ↔ signal = .fatal failure := by
  constructor
  · intro decision
    cases decision
    rfl
  · rintro rfl
    exact .fails failure

theorem unheard?_eq_none_iff (cancelAt closesAt : Option Nat) (sent : List (Nat × Signal)) :
    unheard? cancelAt (closing closesAt sent) = none ↔ cancelAt = none ∧ closesAt = none := by
  cases cancelAt <;> cases closesAt <;> simp [unheard?, closing, comesBy]
  split <;> simp

theorem unheard?_eq_some_iff (cancelAt closesAt : Option Nat) (sent : List (Nat × Signal))
    (answer : Except LaunchFailure Pod) :
    unheard? cancelAt (closing closesAt sent) = some answer ↔
      (comesBy cancelAt (closing closesAt sent) = true ∧ answer = .error .cancelled) ∨
      (comesBy cancelAt (closing closesAt sent) = false ∧ closesAt.isSome ∧
        answer = .error (.watchClosed "monitor")) := by
  cases cancels : comesBy cancelAt (closing closesAt sent) with
  | true =>
      have answered : unheard? cancelAt (closing closesAt sent) = some (.error .cancelled) := by
        simp [unheard?, cancels]
      rw [answered, Option.some.injEq]
      simp only [true_and, Bool.true_eq_false, false_and, or_false]
      exact eq_comm
  | false =>
      have answered : unheard? cancelAt (closing closesAt sent) =
          (closing closesAt sent).map fun _ => .error (.watchClosed "monitor") := by
        simp [unheard?, cancels]
      rw [answered]
      cases closesAt with
      | none => simp [closing]
      | some close =>
          simp only [closing, Option.map_some, Option.some.injEq, Bool.false_eq_true, false_and, false_or, true_and,
            Option.isSome_some]
          exact eq_comm

/-- What was received before is received still when more is sent. -/
theorem received_append (cancelAt : Option Nat) (sent later : List (Nat × Signal)) :
    ∃ more, received cancelAt (sent ++ later) = received cancelAt sent ++ more := by
  unfold received
  rw [List.takeWhile_append]
  split
  · rename_i allTaken
    have taken := (List.takeWhile_prefix _).eq_of_length allTaken
    exact ⟨_, by rw [taken, List.map_append]⟩
  · exact ⟨[], by simp⟩

theorem received_append_of_late {cancelAt : Option Nat} {later : List (Nat × Signal)} (sent : List (Nat × Signal))
    (late : ∀ signal ∈ later, comesBy cancelAt (some signal.1) = true) :
    received cancelAt (sent ++ later) = received cancelAt sent := by
  have noneTaken : later.takeWhile (fun signal => !comesBy cancelAt (some signal.1)) = [] := by
    cases later with
    | nil => rfl
    | cons signal later => simp [late signal List.mem_cons_self]
  unfold received
  rw [List.takeWhile_append, noneTaken]
  split
  · rename_i allTaken
    have taken := (List.takeWhile_prefix _).eq_of_length allTaken
    rw [taken, List.append_nil]
  · rfl

theorem comesBy_closing_append {cancelAt closesAt : Option Nat} {sent : List (Nat × Signal)}
    (cancels : comesBy cancelAt (closing closesAt sent) = true) (later : List (Nat × Signal)) :
    comesBy cancelAt (closing closesAt (sent ++ later)) = true := by
  cases cancelAt with
  | none => cases cancels
  | some limit =>
      cases closesAt with
      | none => rfl
      | some close =>
          have inTime : limit ≤ latest close sent := of_decide_eq_true cancels
          have further : latest close (sent ++ later) = latest (latest close sent) later := List.foldl_append
          have reached : limit ≤ latest close (sent ++ later) := by
            rw [further]
            exact Nat.le_trans inTime (le_latest _ _)
          exact decide_eq_true reached

theorem decided?_append {reported : Reported} {answer : Except LaunchFailure Pod} {signals : List Signal}
    (decided : decided? reported signals = some answer) (more : List Signal) :
    decided? reported (signals ++ more) = some answer := by
  induction signals generalizing reported with
  | nil => cases decided
  | cons signal signals inductionHypothesis =>
      rw [decided?] at decided
      rw [List.cons_append, decided?]
      split at decided
      · exact decided
      · exact inductionHypothesis decided

theorem judged (cancelAt closesAt : Option Nat) (sent : List (Nat × Signal)) : Judged cancelAt closesAt sent where
  succeeds := by
    intro pod
    rw [verdict?_eq, Option.or_eq_some_iff, unheard?_eq_some_iff]
    simp only [reduceCtorEq, and_false, or_self, or_false]
    rw [decided?_eq_some_iff tells_nil undecided_nil]
    simp only [List.nil_append, decision_ok_iff]
  fails := by
    intro failure
    rw [verdict?_eq, Option.or_eq_some_iff, unheard?_eq_some_iff, decided?_eq_none_iff tells_nil undecided_nil,
      decided?_eq_some_iff tells_nil undecided_nil]
    simp only [List.nil_append, decision_error_iff, Except.error.injEq]
    apply or_congr
    · constructor
      · rintro ⟨before, signal, after, same, undecided, rfl⟩
        exact ⟨before, after, same, undecided⟩
      · rintro ⟨before, after, same, undecided⟩
        exact ⟨before, _, after, same, undecided, rfl⟩
    · rw [← and_or_left]
  waits := by
    rw [verdict?_eq, Option.or_eq_none_iff, unheard?_eq_none_iff, decided?_eq_none_iff tells_nil undecided_nil]
    rfl
  decided := by
    intro decides later closesLater
    rw [← List.nil_append (received cancelAt sent), ← decided?_eq_none_iff tells_nil undecided_nil] at decides
    obtain ⟨answer, decided⟩ := Option.ne_none_iff_exists'.mp decides
    obtain ⟨more, same⟩ := received_append cancelAt sent later
    rw [verdict?_eq, verdict?_eq, same, decided, decided?_append decided]
    rfl
  cancelled := by
    intro cancels later late
    rw [verdict?_eq, verdict?_eq, received_append_of_late sent late, unheard?, unheard?, cancels,
      comesBy_closing_append cancels later]
    rfl

end Turnstile.Monitor
