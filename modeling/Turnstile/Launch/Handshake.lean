/-
Module: Turnstile.Launch.Handshake
Purpose: Waiting for the token by which a pod asks for its client.
Main exports: Read, Handshake.after?, Handshake.hear, Handshake.await, Handshake.reads
-/
import Turnstile.Launch.Failure
import Turnstile.Run

/-!
The client reads the output of the pod until the token has come in full, however the output is cut into
reads.  What follows the token within the read that completes it is already output for the user, apart
from the line ending of the token.  Output that ends before the token is a failed attachment.
-/

namespace Turnstile

/-- What one read of an output gives; a read of no octets is the end of the output. -/
inductive Read where
  | octets (data : List UInt8)
  | failed (fault : SystemFault)
deriving DecidableEq

namespace Handshake

/-- The most that one read takes. -/
def readLimit : Nat := 1024

/-- Cut the octets into pieces of at most `limit`, which is positive. -/
def pieces (limit : Nat) (data : List UInt8) : List (List UInt8) :=
  if limit = 0 ∨ data.length ≤ limit then [data]
  else data.take limit :: pieces limit (data.drop limit)
termination_by data.length
decreasing_by simp only [List.length_drop]; omega

/-- The reads in which output that arrives in these chunks is taken. -/
def reads (chunks : List Read) : List Read :=
  chunks.flatMap fun chunk =>
    match chunk with
    | .octets data => (pieces readLimit data).map .octets
    | .failed fault => [.failed fault]

/-- What follows the first occurrence of the token. -/
def after? (token : List UInt8) : List UInt8 → Option (List UInt8)
  | [] => if token.isEmpty then some [] else none
  | octet :: rest =>
    if token.isPrefixOf (octet :: rest) then some ((octet :: rest).drop token.length)
    else after? token rest

/-- A carriage return or a line feed. -/
def isLineEnding (octet : UInt8) : Bool :=
  octet == 13 || octet == 10

/-- The failure of output that ends too early. -/
def endedEarly : LaunchFailure :=
  .attach "pod output ended before handshake"

/-- What a read leads to: the end of the wait, or more octets that were read without the token. -/
inductive Heard where
  | ended (result : Except LaunchFailure (List UInt8))
  | more (seen : List UInt8)

/-- Take one read, after `seen` was read without the token.  The wait ends well with what follows the token
and its line ending. -/
def hear (token seen : List UInt8) : Read → Heard
  | .failed fault => .ended (.error (.io fault))
  | .octets data =>
    if data.isEmpty then .ended (.error endedEarly)
    else
      match after? token (seen ++ data) with
      | some follows => .ended (.ok (follows.dropWhile isLineEnding))
      | none => .more (seen ++ data)

/-- Read until the token has come, after `seen` was read without it: what follows the token and its line
ending in what was read, and the reads that were not taken. -/
def await (token seen : List UInt8) : List Read → Except LaunchFailure (List UInt8) × List Read
  | [] => (.error endedEarly, [])
  | read :: rest =>
    match hear token seen read with
    | .ended result => (result, rest)
    | .more seen => await token seen rest

/-- The octets of reads that were not taken. -/
def unread (rest : List Read) : List UInt8 :=
  rest.flatMap fun read =>
    match read with
    | .octets data => data
    | .failed _ => []

/-- The token on the wire. -/
def token : List UInt8 :=
  Run.handshakeToken.toUTF8.toList

end Handshake

end Turnstile
