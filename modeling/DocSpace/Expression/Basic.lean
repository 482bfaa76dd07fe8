import DocSpace.Expression.Token

set_option autoImplicit false

namespace DocSpace

inductive Expression where
  | null
  | bool (b : Bool)
  | ellipsis
  | whole (n : Nat)
  | double (d : Double)
  | text (s : String)
  | bytes (bs : List UInt8)
  | name (s : String)
  | tuple (items : List Expression)
  | list (items : List Expression)
  | set (items : List Expression)
  | dict (entries : List (Expression × Expression))
  /-- The items of `e`, among those of a tuple or a list. -/
  | spread (e : Expression)
  | item (e index : Expression)
  /-- An index for items from `start` to `stop`, each of them optional. -/
  | slice (start stop step : Expression)
  | member (e : Expression) (name : String)
  | call (e : Expression) (arguments : List Expression)
  | negation (e : Expression)
  | signed (mark : String) (e : Expression)
  | operation (mark : String) (left right : Expression)
  | comparison (mark : String) (left right : Expression)
  | both (left right : Expression)
  | either (left right : Expression)
  | choice (condition yes no : Expression)

namespace Expression

abbrev Taken (α : Type) := α × List Token

/-- Marks of two-sided operations, the loosest first. -/
def levels : List (List String) :=
  [["|"], ["^"], ["&"], ["<<", ">>"], ["+", "-"], ["*", "/", "//", "%", "@"]]

def comparisonMarks : List String := ["==", "!=", "<", ">", "<=", ">="]

def signs : List String := ["+", "-", "~"]

def comparisonMark? : List Token → Option (String × List Token)
  | .word "is" :: .word "not" :: ts => some ("is not", ts)
  | .word "not" :: .word "in" :: ts => some ("not in", ts)
  | .word "is" :: ts => some ("is", ts)
  | .word "in" :: ts => some ("in", ts)
  | .mark m :: ts => if m ∈ comparisonMarks then some (m, ts) else none
  | _ => none

/-- A text goes on in the texts behind it, and so do bytes in bytes. -/
def readTexts (s : String) : List Token → Except Misreading (Taken Expression)
  | .text t :: ts => readTexts (s ++ t) ts
  | .bytes _ :: _ => .error .malformed
  | ts => .ok (text s, ts)

def readBytes (bs : List UInt8) : List Token → Except Misreading (Taken Expression)
  | .bytes cs :: ts => readBytes (bs ++ cs) ts
  | .text _ :: _ => .error .malformed
  | ts => .ok (bytes bs, ts)

def readWord (w : String) (ts : List Token) : Except Misreading (Taken Expression) :=
  if w = "None" then .ok (null, ts)
  else if w = "True" then .ok (bool true, ts)
  else if w = "False" then .ok (bool false, ts)
  else if w = "lambda" then .error .unfamiliar
  else if Text.isKeyword w then .error .malformed
  else .ok (name w, ts)

/-- What brackets around items stand for: the item itself, if there is one and no comma. -/
def ofBracketed : List Expression × Bool → Except Misreading Expression
  | ([spread _], false) => .error .malformed
  | ([e], false) => .ok e
  | (es, _) => .ok (tuple es)

/-- An index is an item, or several items with commas. -/
def ofIndex : List Expression × Bool → Except Misreading Expression
  | ([], _) => .error .malformed
  | ([spread e], _) => .ok (tuple [spread e])
  | ([e], false) => .ok e
  | (es, _) => .ok (tuple es)

mutual

def readChoice : Nat → List Token → Except Misreading (Taken Expression)
  | 0, _ => .error .malformed
  | fuel + 1, ts => do
    let (yes, ts) ← readEither fuel ts
    match ts with
    | .word "if" :: ts =>
      match ← readEither fuel ts with
      | (condition, .word "else" :: ts) =>
        let (no, ts) ← readChoice fuel ts
        return (choice condition yes no, ts)
      | _ => .error .malformed
    | _ => return (yes, ts)

def readEither : Nat → List Token → Except Misreading (Taken Expression)
  | 0, _ => .error .malformed
  | fuel + 1, ts => do
    match ← readBoth fuel ts with
    | (left, .word "or" :: ts) =>
      let (right, ts) ← readEither fuel ts
      return (either left right, ts)
    | read => return read

def readBoth : Nat → List Token → Except Misreading (Taken Expression)
  | 0, _ => .error .malformed
  | fuel + 1, ts => do
    match ← readNegation fuel ts with
    | (left, .word "and" :: ts) =>
      let (right, ts) ← readBoth fuel ts
      return (both left right, ts)
    | read => return read

def readNegation : Nat → List Token → Except Misreading (Taken Expression)
  | 0, _ => .error .malformed
  | fuel + 1, .word "not" :: ts => do
    let (e, ts) ← readNegation fuel ts
    return (negation e, ts)
  | fuel + 1, ts => readComparison fuel ts

def readComparison : Nat → List Token → Except Misreading (Taken Expression)
  | 0, _ => .error .malformed
  | fuel + 1, ts => do
    let (left, ts) ← readOperation fuel levels ts
    match comparisonMark? ts with
    | none => return (left, ts)
    | some (m, ts) => readComparisons fuel m left ts

/-- In a chain, each two neighbours are compared. -/
def readComparisons :
    Nat → String → Expression → List Token → Except Misreading (Taken Expression)
  | 0, _, _, _ => .error .malformed
  | fuel + 1, mark, left, ts => do
    let (right, ts) ← readOperation fuel levels ts
    match comparisonMark? ts with
    | none => return (comparison mark left right, ts)
    | some (m, ts) =>
      let (more, ts) ← readComparisons fuel m right ts
      return (both (comparison mark left right) more, ts)

/-- An operation whose mark is of the first of the levels or binds tighter. -/
def readOperation : Nat → List (List String) → List Token → Except Misreading (Taken Expression)
  | 0, _, _ => .error .malformed
  | fuel + 1, [], ts => readSigned fuel ts
  | fuel + 1, marks :: tighter, ts => do
    let (left, ts) ← readOperation fuel tighter ts
    readOperations fuel marks tighter left ts

def readOperations :
    Nat → List String → List (List String) → Expression → List Token →
      Except Misreading (Taken Expression)
  | 0, _, _, _, _ => .error .malformed
  | fuel + 1, marks, tighter, left, ts =>
    match ts with
    | .mark m :: more =>
      if m ∈ marks then do
        let (right, ts) ← readOperation fuel tighter more
        readOperations fuel marks tighter (operation m left right) ts
      else .ok (left, ts)
    | _ => .ok (left, ts)

def readSigned : Nat → List Token → Except Misreading (Taken Expression)
  | 0, _ => .error .malformed
  | fuel + 1, ts =>
    match ts with
    | .mark m :: more =>
      if m ∈ signs then do
        let (e, ts) ← readSigned fuel more
        return (signed m e, ts)
      else readPower fuel ts
    | _ => readPower fuel ts

def readPower : Nat → List Token → Except Misreading (Taken Expression)
  | 0, _ => .error .malformed
  | fuel + 1, ts => do
    let (e, ts) ← readAtom fuel ts
    match ← readTrailers fuel e ts with
    | (base, .mark "**" :: ts) =>
      let (exponent, ts) ← readSigned fuel ts
      return (operation "**" base exponent, ts)
    | read => return read

def readAtom : Nat → List Token → Except Misreading (Taken Expression)
  | 0, _ | _, [] => .error .malformed
  | _ + 1, .word w :: ts => readWord w ts
  | _ + 1, .whole n :: ts => .ok (whole n, ts)
  | _ + 1, .double d :: ts => .ok (double d, ts)
  | _ + 1, .text s :: ts => readTexts s ts
  | _ + 1, .bytes bs :: ts => readBytes bs ts
  | _ + 1, .mark "..." :: ts => .ok (ellipsis, ts)
  | fuel + 1, .mark "(" :: ts => do
    let (es, ts) ← readItems fuel ")" ts
    return (← ofBracketed es, ts)
  | fuel + 1, .mark "[" :: ts => do
    let ((es, _), ts) ← readItems fuel "]" ts
    return (list es, ts)
  | fuel + 1, .mark "\x7b" :: ts => readBraced fuel ts
  | _ + 1, .mark _ :: _ => .error .malformed

def readBraced : Nat → List Token → Except Misreading (Taken Expression)
  | 0, _ => .error .malformed
  | fuel + 1, ts => do
    if ts.head? = some (.mark "\x7d") then return (dict [], ts.drop 1)
    match ← readItem fuel ts with
    | (_, .mark ":" :: _) =>
      let (es, ts) ← readEntries fuel ts
      return (dict es, ts)
    | _ =>
      let ((es, _), ts) ← readItems fuel "\x7d" ts
      return (set es, ts)

def readEntries : Nat → List Token → Except Misreading (Taken (List (Expression × Expression)))
  | 0, _ => .error .malformed
  | fuel + 1, ts =>
    if ts.head? = some (.mark "\x7d") then .ok ([], ts.drop 1)
    else if ts.head? = some (.mark "**") then .error .unfamiliar
    else do
      match ← readChoice fuel ts with
      | (key, .mark ":" :: ts) =>
        match ← readChoice fuel ts with
        | (e, .mark "," :: ts) =>
          let (es, ts) ← readEntries fuel ts
          return ((key, e) :: es, ts)
        | (e, .mark "\x7d" :: ts) => return ([(key, e)], ts)
        | (_, .word "for" :: _) => .error .unfamiliar
        | _ => .error .malformed
      | _ => .error .malformed

/-- Attributes, indices and calls behind `e`. -/
def readTrailers : Nat → Expression → List Token → Except Misreading (Taken Expression)
  | 0, _, _ => .error .malformed
  | fuel + 1, e, .mark "." :: .word w :: ts =>
    if Text.isKeyword w then .error .malformed else readTrailers fuel (member e w) ts
  | fuel + 1, e, .mark "[" :: ts => do
    let (es, ts) ← readIndices fuel ts
    readTrailers fuel (item e (← ofIndex es)) ts
  | fuel + 1, e, .mark "(" :: ts => do
    let ((es, _), ts) ← readItems fuel ")" ts
    readTrailers fuel (call e es) ts
  | _ + 1, e, ts => .ok (e, ts)

def readIndices : Nat → List Token → Except Misreading (Taken (List Expression × Bool))
  | 0, _ => .error .malformed
  | fuel + 1, ts =>
    if ts.head? = some (.mark "]") then .ok (([], false), ts.drop 1)
    else do
      match ← readIndex fuel ts with
      | (e, .mark "," :: ts) =>
        let ((es, _), ts) ← readIndices fuel ts
        return ((e :: es, true), ts)
      | (e, .mark "]" :: ts) => return (([e], false), ts)
      | (_, .mark ":=" :: _) => .error .unfamiliar
      | _ => .error .malformed

def readIndex : Nat → List Token → Except Misreading (Taken Expression)
  | 0, _ => .error .malformed
  | fuel + 1, ts =>
    if ts.head? = some (.mark "*") then readItem fuel ts
    else do
      let (start, ts) ← readBound fuel ts
      match start, ts with
      | start, .mark ":" :: ts =>
        let (stop, ts) ← readBound fuel ts
        let (step, ts) ← match ts with
          | .mark ":" :: ts => readBound fuel ts
          | ts => pure (none, ts)
        return (slice (start.getD null) (stop.getD null) (step.getD null), ts)
      | some e, ts => return (e, ts)
      | none, _ => .error .malformed

def readBound : Nat → List Token → Except Misreading (Taken (Option Expression))
  | 0, _ => .error .malformed
  | fuel + 1, ts =>
    if ts.head?.any (· ∈ [.mark ":", .mark "]", .mark ","]) then .ok (none, ts)
    else do
      let (e, ts) ← readChoice fuel ts
      return (some e, ts)

/-- Items with commas between them up to a closing bracket, and whether there was a comma. -/
def readItems : Nat → String → List Token → Except Misreading (Taken (List Expression × Bool))
  | 0, _, _ => .error .malformed
  | fuel + 1, close, ts =>
    if ts.head? = some (.mark close) then .ok (([], false), ts.drop 1)
    else do
      let (e, ts) ← readItem fuel ts
      match ts with
      | .mark "," :: ts =>
        let ((es, _), ts) ← readItems fuel close ts
        return ((e :: es, true), ts)
      | .mark m :: ts =>
        if m = close then return (([e], false), ts)
        else .error (if m = ":=" ∨ (m = "=" ∧ close = ")") then .unfamiliar else .malformed)
      | .word "for" :: _ | .word "async" :: _ => .error .unfamiliar
      | _ => .error .malformed

def readItem : Nat → List Token → Except Misreading (Taken Expression)
  | 0, _ => .error .malformed
  | fuel + 1, .mark "*" :: ts => do
    let (e, ts) ← readOperation fuel levels ts
    return (spread e, ts)
  | _ + 1, .mark "**" :: _ => .error .unfamiliar
  | fuel + 1, ts => readChoice fuel ts

end

def readBare : Nat → List Token → Except Misreading (Taken (List Expression × Bool))
  | 0, _ => .error .malformed
  | fuel + 1, ts => do
    let (e, rest) ← readChoice fuel ts
    match rest with
    | [.mark ","] => return (([e], true), [])
    | .mark "," :: rest =>
      let ((es, _), rest) ← readBare fuel rest
      return ((e :: es, true), rest)
    | _ => return (([e], false), rest)

/-- Steps that reading `ts` takes at most: some for each level of brackets. -/
def stepBound (ts : List Token) : Nat := 20 * (ts.length + 1)

def ofTokens (ts : List Token) : Except Misreading Expression := do
  match ← readBare (stepBound ts) ts with
  | (es, []) => ofBracketed es
  | _ => .error .malformed

def ofText (s : String) : Except Misreading Expression := do ofTokens (← Token.ofText s)

end Expression

end DocSpace
