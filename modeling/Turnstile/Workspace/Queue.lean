/-
Module: Turnstile.Workspace.Queue
Purpose: The next queue of a workspace, from the present one and the runs that are pending.
Main exports: Queue.firsts, Queue.recompute
-/

/-!
A queue forgets what is no longer pending, keeps the order of what stays, and takes newcomers at its tail
in the order in which they are listed.  A name stands in it once.
-/

namespace Turnstile.Queue

/-- The first occurrence of each name that is wanted and not yet seen, with the names seen by the end. -/
def firsts (wanted : String → Bool) : List String → List String → List String × List String
  | seen, [] => ([], seen)
  | seen, name :: rest =>
    if wanted name && !seen.contains name then
      let (later, known) := firsts wanted (name :: seen) rest
      (name :: later, known)
    else firsts wanted seen rest

/-- The next queue. -/
def recompute (current pending : List String) : List String :=
  let (survivors, seen) := firsts pending.contains [] current
  survivors ++ (firsts (fun _ => true) seen pending).1

end Turnstile.Queue
