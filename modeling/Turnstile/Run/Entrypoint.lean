/-
Module: Turnstile.Run.Entrypoint
Purpose: The script that the runner container executes for a run.
Main exports: Entrypoint.workspaceDirectory, Entrypoint.payloadDirectory, Entrypoint.lines, Entrypoint.text
-/
import Turnstile.Run
import Turnstile.Shell.Quoted
import Turnstile.Workspace

/-!
The script unpacks the payload, enters the directory of the configuration, waits for the line of an
interactive client if the run asks for one, and gives way to the command.  Every text that comes from the
run or the workspace is written as a quoted word, so the shell reads it back as one word.
-/

namespace Turnstile.Entrypoint

/-- Where the payload is unpacked. -/
def workspaceDirectory : String := "/workspace"

/-- Where the payload is mounted. -/
def payloadDirectory : String := "/payload"

/-- The line that enters the directory of the configuration. -/
def enterLine (workspace : Workspace) : String :=
  match workspace.spec.vcs.workingDir with
  | some directory => "cd " ++ workspaceDirectory ++ "/" ++ Shell.quote directory
  | none => "cd " ++ workspaceDirectory

/-- The lines that wait for a client: announce the token, read one line within the time the run allows,
and insist that the line is the token. -/
def handshakeLines (seconds : String) : List String :=
  ["",
   "echo \"" ++ Run.handshakeToken ++ "\"",
   "if ! read -t " ++ seconds ++ " reply; then",
   "  echo \"timed out waiting " ++ seconds ++ "s for client handshake\" >&2",
   "  exit 1",
   "fi",
   "if [ \"$reply\" != \"" ++ Run.handshakeToken ++ "\" ]; then",
   "  echo \"unexpected handshake from client\" >&2",
   "  exit 1",
   "fi"]

/-- The words of the command. -/
def commandWords (run : Run) : List String :=
  run.spec.command.program ++ run.spec.args.map Shell.quote

/-- The lines of the script. -/
def lines (run : Run) (workspace : Workspace) : List String :=
  ["#!/bin/sh",
   "set -e",
   "",
   "mkdir -p " ++ workspaceDirectory,
   "tar -xzf " ++ payloadDirectory ++ "/" ++ Shell.quote run.spec.configMapKey ++ " -C " ++ workspaceDirectory,
   enterLine workspace] ++
  (if run.spec.handshake then handshakeLines (toString run.spec.handshakeTimeoutSeconds.toNat) else []) ++
  ["", "exec " ++ " ".intercalate (commandWords run)]

/-- The script, every line ended by a newline. -/
def text (run : Run) (workspace : Workspace) : String :=
  String.join ((lines run workspace).map fun line => line ++ "\n")

end Turnstile.Entrypoint
