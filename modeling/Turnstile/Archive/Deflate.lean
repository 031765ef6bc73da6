/-
Module: Turnstile.Archive.Deflate
Purpose: Compressed data: written as runs and plain stretches, read in full generality.
Main exports: Deflate.compress, Deflate.decompress?
-/

/-!
Compressed data is a sequence of blocks.  A block holds its octets plainly, or as symbols of a code that is
fixed or told by the block.  Symbols are octets, or repetitions of what stands a distance back.

Writing looks for runs of one octet.  A long run becomes a block of the fixed code that repeats the octet
before it; everything between runs is held plainly.  Reading knows all kinds of blocks.
-/

namespace Turnstile.Deflate

/-! Writing. -/

/-- A stretch of the data. -/
inductive Stretch where
  | plain (octets : List UInt8)
  | run (octet : UInt8) (length : Nat)

/-- The shortest run that is written as one. -/
def shortestRun : Nat := 64

/-- Put a finished run of one octet to the stretches, which are given last first.  A short run joins the
plain octets before it, also given last first. -/
def settle (octet : UInt8) (count : Nat) (plain : List UInt8) (done : List Stretch) :
    List UInt8 × List Stretch :=
  if shortestRun ≤ count then
    ([], .run octet count :: if plain.isEmpty then done else .plain plain.reverse :: done)
  else (List.replicate count octet ++ plain, done)

/-- Split data into stretches, the octets and stretches met so far being given last first. -/
def stretchesFrom (octet : UInt8) (count : Nat) (plain : List UInt8) (done : List Stretch) :
    List UInt8 → List Stretch
  | [] =>
    let (left, stretches) := settle octet count plain done
    (if left.isEmpty then stretches else .plain left.reverse :: stretches).reverse
  | next :: rest =>
    if next == octet then stretchesFrom octet (count + 1) plain done rest
    else
      let (left, stretches) := settle octet count plain done
      stretchesFrom next 1 left stretches rest

/-- The stretches of data. -/
def stretches (data : List UInt8) : List Stretch :=
  match data with
  | [] => []
  | first :: rest => stretchesFrom first 1 [] [] rest

/-- The bits of a number, the lowest first. -/
def bits : Nat → Nat → List Bool
  | 0, _ => []
  | count + 1, value => (value % 2 == 1) :: bits count (value / 2)

/-- The octet of up to eight bits, the lowest first. -/
def octetOf (given : List Bool) : UInt8 :=
  UInt8.ofNat (given.foldr (fun bit value => (if bit then 1 else 0) + 2 * value) 0)

/-- The octets of bits, the last one filled up with zeros. -/
def octetsOf (given : List Bool) : Nat → List UInt8
  | 0 => []
  | bound + 1 => if given.isEmpty then [] else octetOf (given.take 8) :: octetsOf (given.drop 8) bound

/-- The code word of an octet or of a length symbol in the fixed code, the highest bit first. -/
def fixedWord (symbol : Nat) : List Bool :=
  if symbol < 144 then (bits 8 (48 + symbol)).reverse
  else if symbol < 256 then (bits 9 (400 + (symbol - 144))).reverse
  else if symbol < 280 then (bits 7 (symbol - 256)).reverse
  else (bits 8 (192 + (symbol - 280))).reverse

/-- A repetition of the last octet, 258 times. -/
def longRepeat : List Bool :=
  fixedWord 285 ++ bits 5 0

/-- A block of the fixed code for one octet and that many long repetitions of it, with an empty plain
block behind it that fills up the octet. -/
def runBlock (octet : UInt8) (repeats : Nat) : List UInt8 :=
  let given :=
    [false, true, false] ++ fixedWord octet.toNat ++ (List.replicate repeats longRepeat).flatten ++
      fixedWord 256 ++ [false, false, false]
  octetsOf given (given.length / 8 + 1) ++ [0, 0, 255, 255]

/-- A number in two octets, the lower first. -/
def word16 (value : Nat) : List UInt8 :=
  [UInt8.ofNat value, UInt8.ofNat (value / 256)]

/-- The largest plain block. -/
def plainLimit : Nat := 65535

/-- Plain blocks for octets. -/
def plainBlocks : Nat → List UInt8 → List UInt8
  | 0, _ => []
  | bound + 1, octets =>
    if octets.isEmpty then []
    else
      let now := octets.take plainLimit
      [0] ++ word16 now.length ++ word16 (65535 - now.length) ++ now ++ plainBlocks bound (octets.drop plainLimit)

/-- The blocks of a stretch.  What a run has beyond whole repetitions is held plainly. -/
def stretchBlocks : Stretch → List UInt8
  | .plain octets => plainBlocks (octets.length / plainLimit + 1) octets
  | .run octet length =>
    let repeats := (length - 1) / 258
    let left := length - 1 - repeats * 258
    if repeats = 0 then plainBlocks 1 (List.replicate length octet)
    else runBlock octet repeats ++ plainBlocks 1 (List.replicate left octet)

/-- The last block, which holds nothing. -/
def lastBlock : List UInt8 :=
  [1, 0, 0, 255, 255]

/-- Compressed data. -/
def compress (data : List UInt8) : List UInt8 :=
  (stretches data).flatMap stretchBlocks ++ lastBlock

/-! Reading. -/

/-- Data that is being read: the octets ahead, the bits left of the octet before them, and what was read so
far. -/
structure Input where
  ahead : List UInt8
  partialOctet : List Bool := []
  output : Array UInt8 := #[]

namespace Input

/-- Read one bit. -/
def bit? (input : Input) : Option (Bool × Input) :=
  match input.partialOctet with
  | bit :: rest => some (bit, { input with partialOctet := rest })
  | [] =>
    match input.ahead with
    | [] => none
    | octet :: rest =>
      some (octet.toNat % 2 == 1, { input with ahead := rest, partialOctet := bits 7 (octet.toNat / 2) })

/-- Read a number of that many bits, the lowest first. -/
def number? : Nat → Input → Option (Nat × Input)
  | 0, input => some (0, input)
  | count + 1, input =>
    match input.bit? with
    | none => none
    | some (bit, next) =>
      (number? count next).map fun read => ((if bit then 1 else 0) + 2 * read.1, read.2)

/-- Drop the bits left of an octet. -/
def align (input : Input) : Input :=
  { input with partialOctet := [] }

/-- Write one octet. -/
def push (input : Input) (octet : UInt8) : Input :=
  { input with output := input.output.push octet }

/-- Repeat what stands a distance back. -/
def copy? (distance : Nat) : Nat → Input → Option Input
  | 0, input => some input
  | count + 1, input =>
    if distance = 0 ∨ input.output.size < distance then none
    else copy? distance count (input.push ((input.output[input.output.size - distance]?).getD 0))

end Input

/-- A code: how many words each length has, and the symbols in the order of their words. -/
structure Code where
  counts : List Nat
  symbols : Array Nat

/-- The code in which the symbol of each place has the given word length. -/
def Code.ofLengths (lengths : List Nat) : Code where
  counts := (List.range 15).map fun length => lengths.countP (· == length + 1)
  symbols := ((List.range 15).flatMap fun length =>
    (lengths.zipIdx.filter fun entry => entry.1 == length + 1).map Prod.snd).toArray

/-- Read a symbol.  `word` is the word read so far, `first` the first word of its length, and `index` the
place of that word's symbol. -/
def symbolFrom? (symbols : Array Nat) : List Nat → Nat → Nat → Nat → Input → Option (Nat × Input)
  | [], _, _, _, _ => none
  | count :: longer, word, first, index, input =>
    match input.bit? with
    | none => none
    | some (bit, next) =>
      let read := word + (if bit then 1 else 0)
      if read < first + count then (symbols[index + (read - first)]?).map fun symbol => (symbol, next)
      else symbolFrom? symbols longer (2 * read) (2 * (first + count)) (index + count) next

/-- Read a symbol of a code. -/
def Code.symbol? (code : Code) (input : Input) : Option (Nat × Input) :=
  symbolFrom? code.symbols code.counts 0 0 0 input

/-- The smallest length of each length symbol, and how many bits tell what to add. -/
def lengthTable : List (Nat × Nat) :=
  [(3, 0), (4, 0), (5, 0), (6, 0), (7, 0), (8, 0), (9, 0), (10, 0), (11, 1), (13, 1), (15, 1), (17, 1),
   (19, 2), (23, 2), (27, 2), (31, 2), (35, 3), (43, 3), (51, 3), (59, 3), (67, 4), (83, 4), (99, 4),
   (115, 4), (131, 5), (163, 5), (195, 5), (227, 5), (258, 0)]

/-- The smallest distance of each distance symbol, and how many bits tell what to add. -/
def distanceTable : List (Nat × Nat) :=
  [(1, 0), (2, 0), (3, 0), (4, 0), (5, 1), (7, 1), (9, 2), (13, 2), (17, 3), (25, 3), (33, 4), (49, 4),
   (65, 5), (97, 5), (129, 6), (193, 6), (257, 7), (385, 7), (513, 8), (769, 8), (1025, 9), (1537, 9),
   (2049, 10), (3073, 10), (4097, 11), (6145, 11), (8193, 12), (12289, 12), (16385, 13), (24577, 13)]

/-- Read the value that a symbol of a table stands for. -/
def tableValue? (table : List (Nat × Nat)) (symbol : Nat) (input : Input) : Option (Nat × Input) :=
  match table[symbol]? with
  | none => none
  | some (base, extra) => (input.number? extra).map fun read => (base + read.1, read.2)

/-- Read the symbols of a block. -/
def symbols? (literals distances : Code) : Nat → Input → Option Input
  | 0, _ => none
  | bound + 1, input =>
    match literals.symbol? input with
    | none => none
    | some (symbol, next) =>
      if symbol < 256 then symbols? literals distances bound (next.push (UInt8.ofNat symbol))
      else if symbol = 256 then some next
      else
        match tableValue? lengthTable (symbol - 257) next with
        | none => none
        | some (length, behind) =>
          match distances.symbol? behind with
          | none => none
          | some (far, beyond) =>
            match tableValue? distanceTable far beyond with
            | none => none
            | some (distance, last) =>
              match last.copy? distance length with
              | none => none
              | some copied => symbols? literals distances bound copied

/-- The fixed code of octets and lengths. -/
def fixedLiterals : Code :=
  .ofLengths (List.replicate 144 8 ++ List.replicate 112 9 ++ List.replicate 24 7 ++ List.replicate 8 8)

/-- The fixed code of distances. -/
def fixedDistances : Code :=
  .ofLengths (List.replicate 30 5)

/-- The order in which a block tells the lengths of the code for lengths. -/
def lengthOrder : List Nat :=
  [16, 17, 18, 0, 8, 7, 9, 6, 10, 5, 11, 4, 12, 3, 13, 2, 14, 1, 15]

/-- Read word lengths; the lengths read so far are given last first. -/
def lengths? (code : Code) (wanted : Nat) : Nat → List Nat → Input → Option (List Nat × Input)
  | 0, _, _ => none
  | bound + 1, read, input =>
    if wanted ≤ read.length then
      (if read.length = wanted then some (read.reverse, input) else none)
    else
      match code.symbol? input with
      | none => none
      | some (symbol, next) =>
        let repeated (value extra base : Nat) : Option (List Nat × Input) :=
          match next.number? extra with
          | none => none
          | some (more, behind) =>
            lengths? code wanted bound (List.replicate (base + more) value ++ read) behind
        if symbol < 16 then lengths? code wanted bound (symbol :: read) next
        else if symbol = 16 then
          match read with
          | [] => none
          | last :: _ => repeated last 2 3
        else if symbol = 17 then repeated 0 3 3
        else repeated 0 7 11

/-- Read that many numbers of three bits. -/
def threes? : Nat → Input → Option (List Nat × Input)
  | 0, input => some ([], input)
  | count + 1, input =>
    match input.number? 3 with
    | none => none
    | some (value, next) => (threes? count next).map fun read => (value :: read.1, read.2)

/-- Read the codes that a block tells. -/
def toldCodes? (input : Input) : Option (Code × Code × Input) := do
  let (literalCount, input) ← input.number? 5
  let (distanceCount, input) ← input.number? 5
  let (lengthCount, input) ← input.number? 4
  let (told, input) ← threes? (lengthCount + 4) input
  let pairs := lengthOrder.zip told
  let code := Code.ofLengths ((List.range 19).map fun symbol => (pairs.lookup symbol).getD 0)
  let wanted := literalCount + 257 + (distanceCount + 1)
  let (lengths, input) ← lengths? code wanted (wanted + 1) [] input
  some (.ofLengths (lengths.take (literalCount + 257)), .ofLengths (lengths.drop (literalCount + 257)), input)

/-- Read octets that are held plainly. -/
def plain? : Nat → Input → Option Input
  | 0, input => some input
  | count + 1, input =>
    match input.ahead with
    | [] => none
    | octet :: rest => plain? count ({ input with ahead := rest }.push octet)

/-- Read blocks up to the last one. -/
def blocks? : Nat → Input → Option Input
  | 0, _ => none
  | bound + 1, input => do
    let (isLast, input) ← input.bit?
    let (kind, input) ← input.number? 2
    let read ←
      if kind = 0 then do
        let (length, input) ← input.align.number? 16
        let (inverse, input) ← input.number? 16
        if length + inverse ≠ 65535 then none else plain? length input
      else if kind = 1 then symbols? fixedLiterals fixedDistances (8 * input.ahead.length + 16) input
      else if kind = 2 then do
        let (literals, distances, input) ← toldCodes? input
        symbols? literals distances (8 * input.ahead.length + 16) input
      else none
    if isLast then some read else blocks? bound read

/-- The data that was compressed, and the octets behind it. -/
def decompress? (octets : List UInt8) : Option (List UInt8 × List UInt8) :=
  (blocks? (8 * octets.length + 1) { ahead := octets }).map fun input => (input.output.toList, input.ahead)

end Turnstile.Deflate
