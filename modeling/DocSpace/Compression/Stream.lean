import DocSpace.Compression.Inflate

set_option autoImplicit false

namespace DocSpace.Compression

/-- The check of zlib: two sums modulo a prime. -/
def adler32 (bs : List UInt8) : Nat :=
  let (a, b) := bs.foldl (fun (a, b) x =>
    let a := (a + x.toNat) % 65521
    (a, (b + a) % 65521)) (1, 0)
  b * 0x10000 + a

def crcBits : Nat → UInt32 → UInt32
  | 0, c => c
  | n + 1, c => crcBits n (if c &&& 1 = 1 then (c >>> 1) ^^^ 0xedb88320 else c >>> 1)

/-- The check of gzip: a remainder of polynomials. -/
def crc32 (bs : List UInt8) : Nat :=
  (bs.foldl (fun c b => crcBits 8 (c ^^^ b.toUInt32)) 0xffffffff ^^^ 0xffffffff).toNat

def Run.output (r : Run) : Except StreamFault (List UInt8) :=
  match r.ending with
  | .error (.broken f) => .error f
  | .error .short | .ok _ => .ok r.done.reverse

/-- Goes on to what follows the blocks and checks their output. -/
def Run.thenCheck (r : Run) (check : List UInt8 → Reading Unit) : Run :=
  match r.ending with
  | .error _ => r
  | .ok rest => ⟨r.done, ((do align; check r.done.reverse : Reading Unit).run rest).map (·.2)⟩

def unwrap (bs : List UInt8) (header : Reading Unit) (check : List UInt8 → Reading Unit) :
    Except StreamFault (List UInt8) :=
  match header.run (bitsOf bs) with
  | .error h => Run.output ⟨[], .error h⟩
  | .ok (_, rest) => ((inflate rest).thenCheck check).output

def ofBare (bs : List UInt8) : Except StreamFault (List UInt8) :=
  unwrap bs (return ()) fun _ => return ()

def deflateMethod : Nat := 8

def zlibHeader : Reading Unit := do
  let first ← number 8
  let flags ← number 8
  if (first * 256 + flags) % 31 ≠ 0 then halt .header
  if first % 16 ≠ deflateMethod then halt .headerMethod
  if 7 < first / 16 then halt .window
  if flags.testBit 5 then
    let _ ← bigEndian 4
    halt .dictionary

def ofZlib (bs : List UInt8) : Except StreamFault (List UInt8) :=
  unwrap bs zlibHeader fun output => do
    if (← bigEndian 4) ≠ adler32 output then halt .check

/-- A text up to and with its zero byte. -/
def skipText : Nat → Reading Unit
  | 0 => throw .short
  | fuel + 1 => do
    if (← byte) ≠ 0 then skipText fuel

def skipBytes : Nat → Reading Unit
  | 0 => return ()
  | n + 1 => do
    let _ ← byte
    skipBytes n

/-- The header of gzip with its optional parts; `bs` are its bytes and all after them. -/
def gzipHeader (bs : List UInt8) : Reading Unit := do
  if (← number 16) ≠ 0x8b1f then halt .header
  if (← number 8) ≠ deflateMethod then halt .headerMethod
  let flags ← number 8
  if 0x20 ≤ flags then halt .headerFlags
  skipBytes 6
  if flags.testBit 2 then skipBytes (← number 16)
  if flags.testBit 3 then skipText bs.length
  if flags.testBit 4 then skipText bs.length
  if flags.testBit 1 then
    let read := bs.take (bs.length - (← get).length / 8)
    if (← number 16) ≠ crc32 read % 0x10000 then halt .headerCheck

def ofGzip (bs : List UInt8) : Except StreamFault (List UInt8) :=
  unwrap bs (gzipHeader bs) fun output => do
    if (← number 32) ≠ crc32 output then halt .check
    if (← number 32) ≠ output.length % 0x100000000 then halt .size

end DocSpace.Compression
