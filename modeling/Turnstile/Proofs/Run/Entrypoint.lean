/-
Module: Turnstile.Proofs.Run.Entrypoint
Purpose: What the entrypoint script says to the shell, whatever the run and the workspace contain.
Main exports: Entrypoint.dialogue, Entrypoint.commands, Entrypoint.phrases?_text, Entrypoint.Executes,
  Entrypoint.Faithful
-/
import Turnstile.Proofs.Shell.Quoted
import Turnstile.Run.Manifest

/-!
The script is read line by line.  A fixed line is read by computation; a line with a hole is read up to the
hole, the hole adds exactly its text to the word around it, and the rest of the line is read behind it.  No
text of the run or the workspace gets out of its word, so the shell finds the commands of the script with
these texts for words, and nothing else.
-/

namespace Turnstile.Entrypoint

open Shell

/-- The directory of the configuration. -/
def directory (workspace : Workspace) : String :=
  match workspace.spec.vcs.workingDir with
  | some directory => workspaceDirectory ++ "/" ++ directory
  | none => workspaceDirectory

/-- Where the script looks for the payload. -/
def payloadPath (run : Run) : String :=
  payloadDirectory ++ "/" ++ run.spec.configMapKey

/-- Text for whoever watches the script fail. -/
def complaint (text : String) : Phrase :=
  .command [literal "echo", literal text, .redirection ">&".toList, literal "2"]

/-- The commands by which the script waits for the line of a client. -/
def dialogue (seconds : String) : List Phrase :=
  [saying ["echo", Run.handshakeToken],
   .reserved "if", .reserved "!", saying ["read", "-t", seconds, "reply"],
   .reserved "then",
     complaint ("timed out waiting " ++ seconds ++ "s for client handshake"),
     saying ["exit", "1"],
   .reserved "fi",
   .reserved "if",
     .command
      [.word [.active '['], .word [.parameter "reply".toList true], literal "!=", literal Run.handshakeToken,
       literal "]"],
   .reserved "then",
     complaint "unexpected handshake from client",
     saying ["exit", "1"],
   .reserved "fi"]

/-- The commands that a run asks for. -/
def commands (run : Run) (workspace : Workspace) : List Phrase :=
  [saying ["set", "-e"],
   saying ["mkdir", "-p", workspaceDirectory],
   saying ["tar", "-xzf", payloadPath run, "-C", workspaceDirectory],
   saying ["cd", directory workspace]] ++
  (if run.spec.handshake then dialogue (toString run.spec.handshakeTimeoutSeconds.toNat) else []) ++
  [saying ("exec" :: run.spec.command.program ++ run.spec.args)]

/-- The characters of the lines, every line ended by a newline. -/
def ended (lines : List String) : List Char :=
  lines.flatMap fun line => line.toList ++ ['\n']

theorem toList_text (run : Run) (workspace : Workspace) :
    (text run workspace).toList = ended (lines run workspace) := by
  simp [text, ended, List.flatMap_map]

theorem reads_append {first second : List String} {phrases more : List Phrase}
    (readsFirst : Reads (ended first) phrases) (readsSecond : Reads (ended second) more) :
    Reads (ended (first ++ second)) (phrases ++ more) := by
  have together : ended (first ++ second) = ended first ++ ended second := List.flatMap_append
  rw [together]
  exact readsFirst.append readsSecond

theorem reads_unpacking (run : Run) :
    Reads (ended ["tar -xzf " ++ payloadDirectory ++ "/" ++ quote run.spec.configMapKey ++ " -C " ++
        workspaceDirectory])
      [saying ["tar", "-xzf", payloadPath run, "-C", workspaceDirectory]] := by
  have sameText : ended ["tar -xzf " ++ payloadDirectory ++ "/" ++ quote run.spec.configMapKey ++ " -C " ++
        workspaceDirectory] =
      "tar -xzf /payload/".toList ++ (quoted run.spec.configMapKey.toList ++ " -C /workspace\n".toList) := by
    simp [ended, quote, payloadDirectory, workspaceDirectory]
  have opened : scan .between "tar -xzf /payload/".toList =
      some ([.word ⟨"tar".toList.map .char, true⟩, .word ⟨"-xzf".toList.map .char, true⟩],
        .inside .none ⟨"/payload/".toList.map .char, true⟩) := rfl
  have closed (word : Word) : scan (.inside .none word) " -C /workspace\n".toList =
      some ([.word word, .word ⟨"-C".toList.map .char, true⟩, .word ⟨"/workspace".toList.map .char, true⟩,
        .newline], .between) := rfl
  have samePath : literal (payloadPath run) =
      .word ("/payload/".toList.map .char ++ run.spec.configMapKey.toList.map .char) := by
    simp [literal, payloadPath, payloadDirectory]
  obtain ⟨bare, scanned⟩ := scan_around_quoted opened closed run.spec.configMapKey.toList
  rw [sameText]
  refine ⟨_, scanned, ?_⟩
  intro rest
  rw [saying, List.map_cons, List.map_cons, List.map_cons, samePath]
  rfl

theorem reads_entering (workspace : Workspace) :
    Reads (ended [enterLine workspace]) [saying ["cd", directory workspace]] := by
  cases given : workspace.spec.vcs.workingDir with
  | none =>
      simp only [enterLine, directory, given]
      exact ⟨_, rfl, fun _ => rfl⟩
  | some inner =>
      simp only [enterLine, directory, given]
      have sameText : ended ["cd " ++ workspaceDirectory ++ "/" ++ quote inner] =
          "cd /workspace/".toList ++ (quoted inner.toList ++ ['\n']) := by
        simp [ended, quote, workspaceDirectory]
      have opened : scan .between "cd /workspace/".toList =
          some ([.word ⟨"cd".toList.map .char, true⟩],
            .inside .none ⟨"/workspace/".toList.map .char, true⟩) := rfl
      have closed (word : Word) : scan (.inside .none word) ['\n'] = some ([.word word, .newline], .between) := rfl
      have samePath : literal (workspaceDirectory ++ "/" ++ inner) =
          .word ("/workspace/".toList.map .char ++ inner.toList.map .char) := by
        simp [literal, workspaceDirectory]
      obtain ⟨bare, scanned⟩ := scan_around_quoted opened closed inner.toList
      rw [sameText]
      refine ⟨_, scanned, ?_⟩
      intro rest
      rw [saying, List.map_cons, List.map_cons, samePath]
      rfl

/-- The seconds of a timeout are written in plain characters. -/
theorem isPlain_of_mem_toString {number : Nat} {character : Char} (member : character ∈ (toString number).toList) :
    isPlain character = true := by
  rw [Nat.toString_eq_repr, Nat.toList_repr] at member
  have digit := Nat.isDigit_of_mem_toDigits (by decide) (by decide) member
  have asRange : character.isDigit = (decide ('0' ≤ character) && decide (character ≤ '9')) := rfl
  simp [isPlain, ← asRange, digit]

theorem reads_waiting {seconds : String} (given : seconds ≠ "")
    (plain : ∀ character ∈ seconds.toList, isPlain character = true) :
    Reads (ended ["if ! read -t " ++ seconds ++ " reply; then"])
      [.reserved "if", .reserved "!", saying ["read", "-t", seconds, "reply"], .reserved "then"] := by
  have sameText : ended ["if ! read -t " ++ seconds ++ " reply; then"] =
      "if ! read -t ".toList ++ (quoted seconds.toList ++ " reply; then\n".toList) := by
    rw [quoted_of_isPlain (by simpa using given) plain]
    simp [ended]
  have opened : scan .between "if ! read -t ".toList =
      some ([.word ⟨"if".toList.map .char, true⟩, .word ⟨"!".toList.map .char, true⟩,
        .word ⟨"read".toList.map .char, true⟩, .word ⟨"-t".toList.map .char, true⟩], .between) := rfl
  obtain ⟨bare, scannedSeconds⟩ := scan_quoted {} seconds.toList
  rw [← scan_between_quoted] at scannedSeconds
  have closed (word : Word) : scan (.inside .none word) " reply; then\n".toList =
      some ([.word word, .word ⟨"reply".toList.map .char, true⟩, .operator [';'],
        .word ⟨"then".toList.map .char, true⟩, .newline], .between) := rfl
  rw [sameText]
  exact ⟨_, scan_append opened (scan_append scannedSeconds (closed _)), fun _ => rfl⟩

theorem reads_complaint {line text : String}
    (written : line.toList = "  echo \"".toList ++ (text.toList ++ "\" >&2".toList))
    (inert : text.toList.all isInert = true) : Reads (ended [line]) [complaint text] := by
  have sameText : ended [line] = "  echo \"".toList ++ (text.toList ++ "\" >&2\n".toList) := by
    simp [ended, written]
  have opened : scan .between "  echo \"".toList =
      some ([.word ⟨"echo".toList.map .char, true⟩], .inside .double ⟨[], false⟩) := rfl
  have closed (pieces : List Piece) : scan (.inside .double ⟨pieces, false⟩) "\" >&2\n".toList =
      some ([.word ⟨pieces, false⟩, .operator ">&".toList, .word ⟨"2".toList.map .char, true⟩, .newline],
        .between) := rfl
  rw [sameText]
  exact ⟨_, scan_append opened (scan_append (scan_double _ (List.all_eq_true.mp inert)) (closed _)), fun _ => rfl⟩

theorem reads_timedOut {seconds : String} (plain : ∀ character ∈ seconds.toList, isPlain character = true) :
    Reads (ended ["  echo \"timed out waiting " ++ seconds ++ "s for client handshake\" >&2"])
      [complaint ("timed out waiting " ++ seconds ++ "s for client handshake")] := by
  have inertSeconds : seconds.toList.all isInert = true :=
    List.all_eq_true.mpr fun character member => isInert_of_isPlain (plain character member)
  have inertAround : "timed out waiting ".toList.all isInert = true ∧
      "s for client handshake".toList.all isInert = true := by
    decide
  apply reads_complaint
  · simp
  · simp only [String.toList_append, List.all_append, inertSeconds, inertAround, Bool.and_self]

theorem reads_comparison :
    Reads (ended ["if [ \"$reply\" != \"" ++ Run.handshakeToken ++ "\" ]; then"])
      [.reserved "if",
       .command
        [.word [.active '['], .word [.parameter "reply".toList true], literal "!=", literal Run.handshakeToken,
         literal "]"],
       .reserved "then"] :=
  ⟨_, rfl, fun _ => rfl⟩

theorem reads_leaving : Reads (ended ["  exit 1", "fi"]) [saying ["exit", "1"], .reserved "fi"] :=
  ⟨_, rfl, fun _ => rfl⟩

theorem reads_unexpected :
    Reads (ended ["  echo \"unexpected handshake from client\" >&2"])
      [complaint "unexpected handshake from client"] :=
  reads_complaint (by decide) (by decide)

theorem reads_handshake {seconds : String} (given : seconds ≠ "")
    (plain : ∀ character ∈ seconds.toList, isPlain character = true) :
    Reads (ended (handshakeLines seconds)) (dialogue seconds) := by
  have announced : Reads (ended ["", "echo \"" ++ Run.handshakeToken ++ "\""])
      [saying ["echo", Run.handshakeToken]] :=
    ⟨_, rfl, fun _ => rfl⟩
  have answered := reads_append (reads_waiting given plain) (reads_append (reads_timedOut plain) reads_leaving)
  have compared := reads_append reads_comparison (reads_append reads_unexpected reads_leaving)
  exact reads_append announced (reads_append answered compared)

/-- Words in a row, seen as each following a blank. -/
theorem cons_toList_intercalate {words : List String} (given : words ≠ []) :
    ' ' :: (" ".intercalate words).toList = words.flatMap fun word => ' ' :: word.toList := by
  induction words with
  | nil => exact absurd rfl given
  | cons word words inductionHypothesis =>
      cases words with
      | nil => simp
      | cons next words =>
          rw [List.flatMap_cons, ← inductionHypothesis (by simp)]
          simp [String.intercalate_cons_cons]

theorem reads_command (run : Run) :
    Reads (ended ["exec " ++ " ".intercalate (commandWords run)])
      [saying ("exec" :: run.spec.command.program ++ run.spec.args)] := by
  have plainProgram : run.spec.command.program.map quote = run.spec.command.program := by
    cases run.spec.command <;> decide
  have asWritten : commandWords run = (run.spec.command.program ++ run.spec.args).map quote := by
    rw [List.map_append, plainProgram]
    rfl
  have given : commandWords run ≠ [] := by
    unfold commandWords Command.program
    split <;> simp
  have sameText : ended ["exec " ++ " ".intercalate (commandWords run)] =
      "exec".toList ++ (run.spec.command.program ++ run.spec.args).flatMap
        (fun argument => ' ' :: quoted argument.toList) ++ ['\n'] := by
    have sameWords := cons_toList_intercalate given
    rw [asWritten, List.flatMap_map] at sameWords
    simp only [quote, String.toList_ofList] at sameWords
    simp [ended, asWritten, ← sameWords]
  rw [sameText]
  exact reads_saying (by decide) (by decide) (by decide) _

theorem reads_lines (run : Run) (workspace : Workspace) :
    Reads (ended (lines run workspace)) (commands run workspace) := by
  have opening : Reads (ended ["#!/bin/sh", "set -e", "", "mkdir -p " ++ workspaceDirectory])
      [saying ["set", "-e"], saying ["mkdir", "-p", workspaceDirectory]] :=
    ⟨_, rfl, fun _ => rfl⟩
  have blank : Reads (ended [""]) [] := ⟨_, rfl, fun _ => rfl⟩
  have asked : Reads
      (ended (if run.spec.handshake then handshakeLines (toString run.spec.handshakeTimeoutSeconds.toNat) else []))
      (if run.spec.handshake then dialogue (toString run.spec.handshakeTimeoutSeconds.toNat) else []) := by
    split
    · exact reads_handshake (by simp) fun _ => isPlain_of_mem_toString
    · exact Reads.nil
  have entered := reads_append opening (reads_append (reads_unpacking run) (reads_entering workspace))
  exact reads_append (reads_append entered asked) (reads_append blank (reads_command run))

theorem phrases?_text (run : Run) (workspace : Workspace) :
    phrases? (text run workspace) = some (commands run workspace) := by
  apply phrases?_of_reads
  rw [toList_text]
  exact reads_lines run workspace

theorem announces_iff (run : Run) (workspace : Workspace) :
    saying ["echo", Run.handshakeToken] ∈ commands run workspace ↔ run.spec.handshake = true := by
  have otherName {name : String} {words : List String} (other : name ≠ "echo") :
      saying ["echo", Run.handshakeToken] ≠ saying (name :: words) := by
    intro same
    have sameWords := Phrase.command.inj same
    rw [List.map_cons, List.map_cons] at sameWords
    exact other (literal_injective (List.cons.inj sameWords).1).symm
  have notFixed : saying ["echo", Run.handshakeToken] ∉
      [saying ["set", "-e"], saying ["mkdir", "-p", workspaceDirectory],
       saying ["tar", "-xzf", payloadPath run, "-C", workspaceDirectory],
       saying ["cd", directory workspace]] := by
    simp only [List.mem_cons, List.not_mem_nil, or_false, not_or]
    exact ⟨otherName (by decide), otherName (by decide), otherName (by decide), otherName (by decide)⟩
  have notCommand : saying ["echo", Run.handshakeToken] ∉
      [saying ("exec" :: run.spec.command.program ++ run.spec.args)] := by
    rw [List.mem_singleton]
    exact otherName (by decide)
  rw [commands, List.mem_append, List.mem_append, or_iff_left notCommand, or_iff_right notFixed]
  split
  · rename_i asked
    simp [asked, dialogue]
  · rename_i notAsked
    simp [notAsked]

/-- The items of the array at a path, none if there is no array. -/
def itemsAt (json : Json) (path : List String) : List Json :=
  ((json.at? path).bind Json.items?).getD []

/-- The text at a path. -/
def textAt? (json : Json) (path : List String) : Option String :=
  (json.at? path).bind Json.text?

/-- In the container, the file at the path is what the key of the config map holds. -/
def Mounts (pod container : Json) (configMap key path : String) : Prop :=
  ∃ volume ∈ itemsAt pod ["spec", "volumes"], ∃ item ∈ itemsAt volume ["configMap", "items"],
    ∃ mount ∈ itemsAt container ["volumeMounts"], ∃ directory file,
      textAt? volume ["configMap", "name"] = some configMap ∧
      textAt? item ["key"] = some key ∧ textAt? item ["path"] = some file ∧
      textAt? volume ["name"] = textAt? mount ["name"] ∧ (textAt? mount ["name"]).isSome ∧
      textAt? mount ["mountPath"] = some directory ∧ path = directory ++ "/" ++ file

/-- The pod of a run has one container, which executes the script and finds the payload where the script looks. -/
def Executes (pod : Json) (run : Run) (workspace : Workspace) : Prop :=
  ∃ container, itemsAt pod ["spec", "containers"] = [container] ∧
    (container.get? "command").bind Json.texts? = some ["/bin/sh", "-c", text run workspace] ∧
    Mounts pod container run.spec.configMap run.spec.configMapKey (payloadPath run)

theorem executes_manifest {run : Run} {workspace : Workspace} {settings : Settings} {owner : OwnerReference}
    (owned : run.controllerReference? = some owner) :
    ∃ pod, run.manifest workspace settings = .ok pod ∧ Executes pod run workspace := by
  have sameMounts : itemsAt (run.container workspace settings) ["volumeMounts"] =
      ((Run.volumeMounts settings.runner.cacheMountPath).items?).getD [] := by
    unfold Run.container
    cases workspace.spec.secretName <;> rfl
  simp only [Run.manifest, owned]
  refine ⟨_, rfl, run.container workspace settings, rfl, rfl, ?_⟩
  refine ⟨_, .tail _ (.head _), _, .head _, ?_⟩
  rw [sameMounts]
  exact ⟨_, .tail _ (.head _), payloadDirectory, run.spec.configMapKey, rfl, rfl, rfl, rfl, rfl, rfl, rfl⟩

/-- The script says what the run asks for, and the pod of the run executes it with the payload in its place. -/
structure Faithful (run : Run) (workspace : Workspace) : Prop where
  reads : phrases? (text run workspace) = some (commands run workspace)
  announces : saying ["echo", Run.handshakeToken] ∈ commands run workspace ↔ run.spec.handshake = true
  executed : ∀ settings owner, run.controllerReference? = some owner →
    ∃ pod, run.manifest workspace settings = .ok pod ∧ Executes pod run workspace

theorem faithful (run : Run) (workspace : Workspace) : Faithful run workspace where
  reads := phrases?_text run workspace
  announces := announces_iff run workspace
  executed := fun _ _ owned => executes_manifest owned

end Turnstile.Entrypoint
