import DocSpace.Compression.Code

set_option autoImplicit false

namespace DocSpace.Compression

/-- Output so far, the latest byte first, and the bits after it or what halted the run. -/
structure Run where
  done : List UInt8
  ending : Except Halt Bits

inductive Token where
  | literal (b : UInt8)
  | copy (length distance : Nat)
  | endOfBlock

structure Codes where
  literals : Code
  distances : Code

/-- Least value and count of further bits, from the symbol of the length 3 on. -/
def lengthRanges : List (Nat × Nat) := [
  (3, 0), (4, 0), (5, 0), (6, 0), (7, 0), (8, 0), (9, 0), (10, 0), (11, 1), (13, 1), (15, 1),
  (17, 1), (19, 2), (23, 2), (27, 2), (31, 2), (35, 3), (43, 3), (51, 3), (59, 3), (67, 4),
  (83, 4), (99, 4), (115, 4), (131, 5), (163, 5), (195, 5), (227, 5), (258, 0)]

/-- Least value and count of further bits, from the symbol of the distance 1 on. -/
def distanceRanges : List (Nat × Nat) := [
  (1, 0), (2, 0), (3, 0), (4, 0), (5, 1), (7, 1), (9, 2), (13, 2), (17, 3), (25, 3), (33, 4),
  (49, 4), (65, 5), (97, 5), (129, 6), (193, 6), (257, 7), (385, 7), (513, 8), (769, 8),
  (1025, 9), (1537, 9), (2049, 10), (3073, 10), (4097, 11), (6145, 11), (8193, 12), (12289, 12),
  (16385, 13), (24577, 13)]

def endSymbol : Nat := 256

def readRange (fault : StreamFault) (ranges : List (Nat × Nat)) (symbol : Nat) : Reading Nat :=
  match ranges[symbol]? with
  | some (least, more) => do return least + (← number more)
  | none => halt fault

def Codes.readToken (codes : Codes) : Reading Token := do
  let symbol ← codes.literals.read .literalCode
  if symbol < endSymbol then return .literal symbol.toUInt8
  if symbol = endSymbol then return .endOfBlock
  let length ← readRange .literalCode lengthRanges (symbol - endSymbol - 1)
  let distance ← readRange .distanceCode distanceRanges (← codes.distances.read .distanceCode)
  return .copy length distance

/-- Copies one byte after another, so a copy may reach into itself. -/
def copyBack? (distance : Nat) : Nat → List UInt8 → Option (List UInt8)
  | 0, done => some done
  | n + 1, done =>
    match done[distance - 1]? with
    | some b => copyBack? distance n (b :: done)
    | none => none

def Codes.run (codes : Codes) : Nat → List UInt8 → Bits → Run
  | 0, done, _ => ⟨done, .error .short⟩
  | fuel + 1, done, bits =>
    match codes.readToken.run bits with
    | .error h => ⟨done, .error h⟩
    | .ok (.endOfBlock, rest) => ⟨done, .ok rest⟩
    | .ok (.literal b, rest) => codes.run fuel (b :: done) rest
    | .ok (.copy length distance, rest) =>
      match copyBack? distance length done with
      | some done => codes.run fuel done rest
      | none => ⟨done, .error (.broken .distance)⟩

/-- Words of fixed lengths; two of the longest have no meaning. -/
def Codes.fixed : Codes where
  literals := .ofLengths (List.replicate 144 8 ++ List.replicate 112 9 ++ List.replicate 24 7 ++
    List.replicate 8 8)
  distances := .ofLengths (List.replicate 32 5)

/-- The order in which the lengths of the words for lengths are written. -/
def lengthOrder : List Nat := [16, 17, 18, 0, 8, 7, 9, 6, 10, 5, 11, 4, 12, 3, 13, 2, 14, 1, 15]

/-- The word lengths of the code that the other word lengths are written in. An unused code reads
as zeros. -/
def readLengthCode (count : Nat) : Reading Code := do
  let written ← (lengthOrder.take count).mapM fun symbol => do return (symbol, ← number 3)
  let lengths := (List.range lengthOrder.length).map fun s => (written.lookup s).getD 0
  if Code.isUnused lengths then return .node (.leaf 0) (.leaf 0)
  if !Code.isComplete lengths then halt .lengthCodes
  return .ofLengths lengths

/-- A word length, or one that is repeated: which, and how often. -/
def readRepeat (code : Code) (last? : Option Nat) : Reading (Nat × Nat) := do
  match ← code.read .lengthCodes with
  | 16 =>
    let more ← number 2
    match last? with
    | some length => return (length, 3 + more)
    | none => halt .lengthRepeat
  | 17 => return (0, 3 + (← number 3))
  | 18 => return (0, 11 + (← number 7))
  | length => return (length, 1)

/-- So many word lengths; `done` has those before, the latest first. -/
def readLengths (code : Code) : Nat → Nat → List Nat → Reading (List Nat)
  | 0, _, done => return done.reverse
  | _, 0, done => return done.reverse
  | fuel + 1, left, done => do
    let (length, times) ← readRepeat code done.head?
    if left < times then halt .lengthRepeat
    readLengths code fuel (left - times) (List.replicate times length ++ done)

def maxLiterals : Nat := 286

def maxDistances : Nat := 30

def readCodes : Reading Codes := do
  let literals := 257 + (← number 5)
  let distances := 1 + (← number 5)
  let count := 4 + (← number 4)
  if maxLiterals < literals || maxDistances < distances then halt .tooManySymbols
  let code ← readLengthCode count
  let lengths ← readLengths code (literals + distances) (literals + distances) []
  if lengths[endSymbol]?.getD 0 = 0 then halt .noEndOfBlock
  if !Code.isUsable (lengths.take literals) then halt .literalCodes
  if !Code.isUsable (lengths.drop literals) then halt .distanceCodes
  return ⟨.ofLengths (lengths.take literals), .ofLengths (lengths.drop literals)⟩

/-- The length of stored bytes, which is written twice, the second time with all bits changed. -/
def readStoredLength : Reading Nat := do
  align
  let length ← number 16
  let inverse ← number 16
  if length + inverse ≠ 0xffff then halt .storedLengths
  return length

def runStored : Nat → List UInt8 → Bits → Run
  | 0, done, bits => ⟨done, .ok bits⟩
  | n + 1, done, bits =>
    match byte.run bits with
    | .error h => ⟨done, .error h⟩
    | .ok (b, rest) => runStored n (b :: done) rest

inductive Block where
  | stored (length : Nat)
  | coded (codes : Codes)

/-- Whether the block is the last one, and what it is. -/
def readBlock : Reading (Bool × Block) := do
  let last ← bit
  match ← number 2 with
  | 0 => return (last, .stored (← readStoredLength))
  | 1 => return (last, .coded .fixed)
  | 2 => return (last, .coded (← readCodes))
  | _ => halt .blockType

def Block.run (done : List UInt8) (bits : Bits) : Block → Run
  | stored length => runStored length done bits
  | coded codes => codes.run bits.length done bits

def runBlocks : Nat → List UInt8 → Bits → Run
  | 0, done, _ => ⟨done, .error .short⟩
  | fuel + 1, done, bits =>
    match readBlock.run bits with
    | .error h => ⟨done, .error h⟩
    | .ok ((last, block), rest) =>
      match block.run done rest with
      | ⟨done, .error h⟩ => ⟨done, .error h⟩
      | ⟨done, .ok rest⟩ => if last then ⟨done, .ok rest⟩ else runBlocks fuel done rest

/-- Every block takes bits, so their number is fuel enough. -/
def inflate (bits : Bits) : Run := runBlocks (bits.length + 1) [] bits

end DocSpace.Compression
