set_option autoImplicit false

namespace DocSpace.Compression

inductive StreamFault where
  | header
  | headerMethod
  | headerFlags
  | headerCheck
  | window
  | dictionary
  | blockType
  | storedLengths
  | tooManySymbols
  | lengthCodes
  | lengthRepeat
  | noEndOfBlock
  | literalCodes
  | distanceCodes
  | literalCode
  | distanceCode
  | distance
  | check
  | size
  deriving DecidableEq

def StreamFault.text : StreamFault → String
  | header => "incorrect header check"
  | headerMethod => "unknown compression method"
  | headerFlags => "unknown header flags set"
  | headerCheck => "header crc mismatch"
  | window => "invalid window size"
  | dictionary => "need dictionary"
  | blockType => "invalid block type"
  | storedLengths => "invalid stored block lengths"
  | tooManySymbols => "too many length or distance symbols"
  | lengthCodes => "invalid code lengths set"
  | lengthRepeat => "invalid bit length repeat"
  | noEndOfBlock => "invalid code -- missing end-of-block"
  | literalCodes => "invalid literal/lengths set"
  | distanceCodes => "invalid distances set"
  | literalCode => "invalid literal/length code"
  | distanceCode => "invalid distance code"
  | distance => "invalid distance too far back"
  | check => "incorrect data check"
  | size => "incorrect length check"

/-- Why a reader halts: no bits are left, or they break the format. -/
inductive Halt where
  | short
  | broken (fault : StreamFault)
  deriving DecidableEq

abbrev Bits := List Bool

abbrev Reading := StateT Bits (Except Halt)

def byteBits (b : UInt8) : Bits := (List.range 8).map b.toNat.testBit

def bitsOf (bs : List UInt8) : Bits := bs.flatMap byteBits

def halt {α : Type} (fault : StreamFault) : Reading α := throw (.broken fault)

def bit : Reading Bool := fun bs =>
  match bs with
  | [] => .error .short
  | b :: rest => .ok (b, rest)

/-- A number of so many bits, the lowest first. -/
def number : Nat → Reading Nat
  | 0 => return 0
  | n + 1 => do
    let low ← bit
    return low.toNat + 2 * (← number n)

def byte : Reading UInt8 := do return (← number 8).toUInt8

/-- A number of so many bytes, the highest first. -/
def bigEndian : Nat → Reading Nat
  | 0 => return 0
  | n + 1 => do
    let high ← byte
    return high.toNat * 256 ^ n + (← bigEndian n)

/-- Drops the bits that are left of a byte that was begun. -/
def align : Reading Unit := modify fun bs => bs.drop (bs.length % 8)

end DocSpace.Compression
