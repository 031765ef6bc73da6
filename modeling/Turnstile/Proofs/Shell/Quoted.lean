/-
Module: Turnstile.Proofs.Shell.Quoted
Purpose: What the shell reads back from quoted words.
Main exports: Shell.scan_quoted, Shell.scan_around_quoted, Shell.scan_arguments, Shell.reads_saying
-/
import Turnstile.Proofs.Shell.Token

/-!
Whatever a text contains, its quoted form adds exactly its characters to the word that the reader is inside
of.  Plain characters are ordinary to the reader, and between single quotes every character is, but for the
quote, whose detour over a backslash brings the reader back between quotes with one more quote read.
-/

namespace Turnstile.Shell

theorem role_of_isPlain {character : Char} (plain : isPlain character = true) : role character = .ordinary := by
  have special : [' ', '\t', '\n', '|', '&', ';', '<', '>', '(', ')', apostrophe, '"', '\\', '$', backtick,
      '*', '?', '[', '~'].all (fun other => !isPlain other) = true := by
    decide
  have differs (other : Char) (notPlain : isPlain other = false) : character ≠ other := by
    intro same
    rw [same, notPlain] at plain
    cases plain
  simp only [List.all_cons, List.all_nil, Bool.and_true, Bool.and_eq_true, Bool.not_eq_true'] at special
  simp_all [role]

theorem role_eq_apostrophe_iff (character : Char) : role character = .apostrophe ↔ character = apostrophe := by
  constructor
  · unfold role
    grind
  · rintro rfl
    rfl

/-- Inside a word, characters that are read as themselves one by one are so together. -/
theorem scan_kept {quoting : Quoting} {characters : List Char}
    (kept : ∀ character ∈ characters, ∀ word : Word,
      stepInside quoting word character = some ([], .inside quoting (word.push (.char character))))
    (word : Word) :
    scan (.inside quoting word) characters =
      some ([], .inside quoting { word with pieces := word.pieces ++ characters.map .char }) := by
  induction characters generalizing word with
  | nil =>
      simp [scan]
  | cons character characters inductionHypothesis =>
      have scanned := inductionHypothesis (fun other member => kept other (List.mem_cons_of_mem _ member))
        (word.push (.char character))
      simp only [scan, step, kept character List.mem_cons_self word, Option.bind_some, scanned]
      simp [Word.push]

theorem scan_plain (word : Word) {characters : List Char} (plain : ∀ character ∈ characters, isPlain character = true) :
    scan (.inside .none word) characters =
      some ([], .inside .none { word with pieces := word.pieces ++ characters.map .char }) := by
  apply scan_kept
  intro character member word
  simp [stepInside, role_of_isPlain (plain character member)]

/-- Characters that are read as themselves between double quotes, as are many others. -/
def isInert (character : Char) : Bool :=
  role character = .ordinary || role character = .blank

theorem isInert_of_isPlain {character : Char} (plain : isPlain character = true) : isInert character = true := by
  simp [isInert, role_of_isPlain plain]

theorem scan_double (word : Word) {characters : List Char}
    (inert : ∀ character ∈ characters, isInert character = true) :
    scan (.inside .double word) characters =
      some ([], .inside .double { word with pieces := word.pieces ++ characters.map .char }) := by
  apply scan_kept
  intro character member word
  have known := inert character member
  simp only [isInert, Bool.or_eq_true, decide_eq_true_eq] at known
  rcases known with ordinary | blank
  · simp [stepInside, ordinary]
  · simp [stepInside, blank]

theorem scan_quotedChar (pieces : List Piece) (character : Char) :
    scan (.inside .single ⟨pieces, false⟩) (quotedChar character) =
      some ([], .inside .single ⟨pieces ++ [.char character], false⟩) := by
  by_cases isApostrophe : character = apostrophe
  · subst isApostrophe
    rfl
  · have notApostrophe := mt (role_eq_apostrophe_iff character).mp isApostrophe
    have stepped : stepInside .single ⟨pieces, false⟩ character =
        some ([], .inside .single ⟨pieces ++ [.char character], false⟩) := by
      unfold stepInside
      split <;> simp_all [Word.push]
    simp [quotedChar, isApostrophe, scan, step, stepped]

/-- Between single quotes, every text is read as it is. -/
theorem scan_flatMap_quotedChar (pieces : List Piece) (characters : List Char) :
    scan (.inside .single ⟨pieces, false⟩) (characters.flatMap quotedChar) =
      some ([], .inside .single ⟨pieces ++ characters.map .char, false⟩) := by
  induction characters generalizing pieces with
  | nil =>
      simp [scan]
  | cons character characters inductionHypothesis =>
      rw [List.flatMap_cons, scan_append (scan_quotedChar pieces character) (inductionHypothesis _)]
      simp

theorem quoted_of_isPlain {characters : List Char} (given : characters ≠ [])
    (plain : ∀ character ∈ characters, isPlain character = true) : quoted characters = characters := by
  have allPlain : characters.all isPlain = true := List.all_eq_true.mpr plain
  simp [quoted, given, allPlain]

/-- A quoted text inside a word adds the text to the word. -/
theorem scan_quoted (word : Word) (characters : List Char) :
    ∃ bare, scan (.inside .none word) (quoted characters) =
      some ([], .inside .none ⟨word.pieces ++ characters.map .char, bare⟩) := by
  unfold quoted
  split
  · rename_i isPlainText
    simp only [Bool.and_eq_true, List.all_eq_true] at isPlainText
    exact ⟨word.bare, scan_plain word isPlainText.2⟩
  · have opened : scan (.inside .none word) [apostrophe] =
        some ([], .inside .single ⟨word.pieces, false⟩) := rfl
    have closed (pieces : List Piece) : scan (.inside .single ⟨pieces, false⟩) [apostrophe] =
        some ([], .inside .none ⟨pieces, false⟩) := rfl
    exact ⟨false, scan_append opened (scan_append (scan_flatMap_quotedChar _ characters) (closed _))⟩

/-- A line is read around a quoted text as around the end of a word that has exactly this text there. -/
theorem scan_around_quoted {before after : List Char} {tokens : List Token} {more : Word → List Token} {word : Word}
    (opened : scan .between before = some (tokens, .inside .none word))
    (closed : ∀ word, scan (.inside .none word) after = some (more word, .between)) (characters : List Char) :
    ∃ bare, scan .between (before ++ (quoted characters ++ after)) =
      some (tokens ++ more ⟨word.pieces ++ characters.map .char, bare⟩, .between) := by
  obtain ⟨bare, scanned⟩ := scan_quoted word characters
  exact ⟨bare, scan_append opened (scan_append scanned (closed _))⟩

/-- A quoted text starts a word. -/
theorem scan_between_quoted (characters : List Char) :
    scan .between (quoted characters) = scan (.inside .none {}) (quoted characters) := by
  unfold quoted
  split
  · rename_i isPlainText
    cases characters with
    | nil => simp at isPlainText
    | cons character characters =>
        have plain : isPlain character = true := by simp_all
        have notHash : character ≠ '#' := by
          rintro rfl
          revert plain
          decide
        simp [scan, step, stepBetween, role_of_isPlain plain, notHash]
  · rfl

/-- Quoted words behind a word, up to the end of the line. -/
theorem scan_arguments (word : Word) (arguments : List (List Char)) :
    ∃ words : List Word, words.map Word.pieces = arguments.map (·.map .char) ∧
      scan (.inside .none word) (arguments.flatMap (fun argument => ' ' :: quoted argument) ++ ['\n']) =
        some (.word word :: words.map .word ++ [.newline], .between) := by
  induction arguments generalizing word with
  | nil => exact ⟨[], rfl, rfl⟩
  | cons argument arguments inductionHypothesis =>
      have blank : scan (.inside .none word) [' '] = some ([.word word], .between) := rfl
      obtain ⟨bare, scannedArgument⟩ := scan_quoted {} argument
      rw [← scan_between_quoted] at scannedArgument
      obtain ⟨words, samePieces, scannedRest⟩ := inductionHypothesis ⟨argument.map .char, bare⟩
      refine ⟨⟨argument.map .char, bare⟩ :: words, ?_, ?_⟩
      · rw [List.map_cons, List.map_cons, samePieces]
      · have scanned := scan_append blank (scan_append scannedArgument scannedRest)
        simpa using scanned

/-- Behind the first part of a command, words are its further parts. -/
theorem gather_words {parts : List Part} (started : parts ≠ []) (words : List Word) (rest : List Token) :
    gather parts (words.map .word ++ rest) = gather (parts ++ words.map fun word => .word word.pieces) rest := by
  induction words generalizing parts with
  | nil => simp
  | cons word words inductionHypothesis =>
      have gathered : gather parts (.word word :: (words.map .word ++ rest)) =
          gather (parts ++ [.word word.pieces]) (words.map .word ++ rest) := by
        cases parts with
        | nil => exact absurd rfl started
        | cons part parts => rfl
      rw [List.map_cons, List.cons_append, gathered, inductionHypothesis (by simp)]
      simp

theorem literal_injective {first second : String} (same : literal first = literal second) : first = second := by
  apply String.toList_injective
  apply (List.map_inj_right fun _ _ => Piece.char.inj).mp
  exact Part.word.inj same

/-- A line of a plain name and quoted words says exactly these words. -/
theorem reads_saying {name : String} (named : name ≠ "") (allPlain : name.toList.all isPlain = true)
    (notReserved : name ∉ reservedWords) (arguments : List String) :
    Reads (name.toList ++ arguments.flatMap (fun argument => ' ' :: quoted argument.toList) ++ ['\n'])
      [saying (name :: arguments)] := by
  have plain : ∀ character ∈ name.toList, isPlain character = true := List.all_eq_true.mp allPlain
  have asWritten : quoted name.toList = name.toList := quoted_of_isPlain (by simpa using named) plain
  have scannedName : scan .between name.toList = some ([], .inside .none ⟨name.toList.map .char, true⟩) := by
    rw [← asWritten, scan_between_quoted, asWritten, scan_plain {} plain]
    rfl
  obtain ⟨words, samePieces, scannedArguments⟩ :=
    scan_arguments ⟨name.toList.map .char, true⟩ (arguments.map String.toList)
  rw [List.flatMap_map] at scannedArguments
  have isWord : Word.reserved? ⟨name.toList.map .char, true⟩ = none := by
    apply List.find?_eq_none.mpr
    intro other member same
    rw [literal_injective (of_decide_eq_true same)] at member
    exact notReserved member
  have sameArguments : words.map (fun word => Part.word word.pieces) = arguments.map literal := by
    rw [← Function.comp_def, ← List.map_map, samePieces, List.map_map, List.map_map]
    rfl
  have scanned := scan_append scannedName scannedArguments
  rw [← List.append_assoc] at scanned
  refine ⟨_, scanned, ?_⟩
  intro rest
  simp only [List.nil_append, List.cons_append, List.append_assoc, gather, isWord]
  rw [gather_words (by simp), sameArguments]
  rfl

example : phrases? ("exec echo " ++ quote "a; \"$b\" # c\n" ++ " d") =
    some [saying ["exec", "echo", "a; \"$b\" # c\n", "d"]] := by
  decide

end Turnstile.Shell
