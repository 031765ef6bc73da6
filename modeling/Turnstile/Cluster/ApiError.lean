/-
Module: Turnstile.Cluster.ApiError
Purpose: Why a request to the API server has no good answer, and why a watch broke off.
Main exports: ApiError, ApiError.saysNotFound, ApiError.isNotFound, ApiError.isConflict, WatchFault
-/

/-!
A request fails because the server refuses it, with a code, a reason and a message, or because no readable
answer was had.  A refusal with code 409 means both that an object exists already and that another writer
came first; which of the two is meant follows from the request.  That an object does not exist is told both
by the code and by the reason.  A plain lookup goes by the reason; whoever creates what is missing goes by
the code.
-/

namespace Turnstile

/-- A failed request. -/
inductive ApiError where
  | refused (code : Nat) (reason message : String)
  | unanswered
deriving Repr, DecidableEq, Inhabited

namespace ApiError

/-- The server refused with this code. -/
def hasCode (error : ApiError) (code : Nat) : Bool :=
  match error with
  | .refused given _ _ => given == code
  | .unanswered => false

/-- The server gives as its reason that the object does not exist. -/
def saysNotFound : ApiError → Bool
  | .refused _ reason _ => reason == "NotFound"
  | .unanswered => false

/-- The server refuses with the code for objects that do not exist. -/
def isNotFound (error : ApiError) : Bool :=
  error.hasCode 404

/-- The object exists already. -/
def isAlreadyExists (error : ApiError) : Bool :=
  error.hasCode 409

/-- Another writer changed the object first. -/
def isConflict (error : ApiError) : Bool :=
  error.hasCode 409

end ApiError

/-- A watch that broke off. -/
inductive WatchFault where
  /-- The list that a watch starts from failed. -/
  | listFailed (error : ApiError)
  /-- The watch itself could not be opened. -/
  | startFailed (error : ApiError)
  /-- The watch delivered something unreadable. -/
  | broken (error : ApiError)
  /-- The server reported an error within the watch. -/
  | reported (code : Nat)
  /-- The list carried no version to watch from. -/
  | noResourceVersion
deriving Repr, DecidableEq, Inhabited

end Turnstile
