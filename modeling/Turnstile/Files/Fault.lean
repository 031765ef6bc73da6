/-
Module: Turnstile.Files.Fault
Purpose: Why the operating system refuses an operation on a file.
Main exports: SystemFault, SystemFault.message
-/

/-!
The wording of a fault is the operating system's.
-/

namespace Turnstile

/-- A refusal of the operating system. -/
inductive SystemFault where
  | notFound
  | notDirectory
  | isDirectory
  | alreadyExists
  | tooManyLinks
  | invalidText
  | other (text : String)
deriving Repr, DecidableEq, Inhabited

namespace SystemFault

/-- The wording of a fault. -/
def message : SystemFault → String
  | .notFound => "No such file or directory (os error 2)"
  | .notDirectory => "Not a directory (os error 20)"
  | .isDirectory => "Is a directory (os error 21)"
  | .alreadyExists => "File exists (os error 17)"
  | .tooManyLinks => "Too many levels of symbolic links (os error 40)"
  | .invalidText => "stream did not contain valid UTF-8"
  | .other text => text

end SystemFault

end Turnstile
