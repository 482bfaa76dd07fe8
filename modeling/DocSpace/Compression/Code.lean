import DocSpace.Compression.Bits

set_option autoImplicit false

namespace DocSpace.Compression

def maxWord : Nat := 15

/-- A code as a tree: a word is a way to a leaf. -/
inductive Code where
  | empty
  | leaf (symbol : Nat)
  | node (zero one : Code)

namespace Code

def branches : Code → Code × Code
  | node zero one => (zero, one)
  | _ => (empty, empty)

def insert (code : Code) (symbol : Nat) : Bits → Code
  | [] => leaf symbol
  | b :: word =>
    let (zero, one) := code.branches
    if b then node zero (one.insert symbol word) else node (zero.insert symbol word) one

def symbolsOf (lengths : List Nat) (length : Nat) : List Nat :=
  (lengths.zipIdx.filter fun l => l.1 = length).map (·.2)

def wordBits (length value : Nat) : Bits := (List.range length).reverse.map value.testBit

/-- Words of each length follow the last word of the length before, one bit longer. -/
def ofLengths (lengths : List Nat) : Code :=
  let (code, _) := (List.range maxWord).foldl (fun (code, first) n =>
    let symbols := symbolsOf lengths (n + 1)
    let code := symbols.zipIdx.foldl
      (fun code s => code.insert s.1 (wordBits (n + 1) (first + s.2))) code
    (code, 2 * (first + symbols.length))) (empty, 0)
  code

def wordCount (length : Nat) : Nat := 1 <<< length

/-- How much of all words is taken, in words of the greatest length. -/
def taken (lengths : List Nat) : Nat :=
  lengths.foldl (fun n l => if l = 0 then n else n + wordCount (maxWord - l)) 0

def isComplete (lengths : List Nat) : Bool := taken lengths == wordCount maxWord

def isUnused (lengths : List Nat) : Bool := lengths.all (· == 0)

/-- One word of one bit may stand alone. -/
def isUsable (lengths : List Nat) : Bool :=
  isComplete lengths || isUnused lengths ||
    (lengths.all (· ≤ 1) && taken lengths < wordCount maxWord)

/-- The symbol of the word that comes next; an unused code takes a bit to fail. -/
def read (fault : StreamFault) : Code → Reading Nat
  | empty => do
    let _ ← bit
    halt fault
  | leaf symbol => return symbol
  | node zero one => do
    match (← bit), zero, one with
    | false, empty, _ | true, _, empty => halt fault
    | false, zero, _ => zero.read fault
    | true, _, one => one.read fault

end Code

end DocSpace.Compression
