import DocSpace.Text.Blank

set_option autoImplicit false

namespace DocSpace.EnvFile

open Text

/-- A name and its value; without an equals sign there is none. -/
structure Assignment where
  name : String
  value : Option String
  deriving DecidableEq

/-- Line ends of every kind become line feeds. -/
def normalizeLineEnds : List Char → List Char
  | '\r' :: '\n' :: cs => '\n' :: normalizeLineEnds cs
  | '\r' :: cs => '\n' :: normalizeLineEnds cs
  | c :: cs => c :: normalizeLineEnds cs
  | [] => []

def skipInlineBlanks (cs : List Char) : List Char := cs.dropWhile isInlineBlank

def lineRest (cs : List Char) : List Char × List Char :=
  (cs.takeWhile (!isLineEnd ·), cs.dropWhile (!isLineEnd ·))

def skipLine (cs : List Char) : List Char := (lineRest cs).2.drop 1

/-- The text up to the closing quote, and what comes after it. A backslash takes the character
after it along. -/
def untilQuote (quote : Char) : List Char → Option (List Char × List Char)
  | [] => none
  | '\\' :: c :: cs => (untilQuote quote cs).map fun (v, rest) => ('\\' :: c :: v, rest)
  | c :: cs =>
    if c = quote then some ([], cs)
    else (untilQuote quote cs).map fun (v, rest) => (c :: v, rest)

def unescape (escapes : List (Char × Char)) : List Char → List Char
  | '\\' :: c :: cs =>
    match escapes.lookup c with
    | some d => d :: unescape escapes cs
    | none => '\\' :: unescape escapes (c :: cs)
  | c :: cs => c :: unescape escapes cs
  | [] => []

def singleEscapes : List (Char × Char) := [('\\', '\\'), ('\'', '\'')]

def doubleEscapes : List (Char × Char) :=
  singleEscapes ++ [('"', '"'), ('a', '\x07'), ('b', '\x08'), ('f', '\x0c'), ('n', '\n'),
    ('r', '\r'), ('t', '\t'), ('v', '\x0b')]

def startsComment (cs : List Char) : Bool := (cs.dropWhile isBlank).head? = some '#'

/-- A value without quotes ends where white space and a number sign follow. -/
def cutComment : List Char → List Char
  | [] => []
  | c :: cs => if isBlank c && startsComment cs then [] else c :: cutComment cs

def exportWord : List Char := "export".toList

/-- The word in front counts only with white space after it. -/
def skipExport (cs : List Char) : List Char :=
  match cs.drop exportWord.length with
  | c :: rest =>
    if exportWord.isPrefixOf cs && isInlineBlank c then skipInlineBlanks rest else cs
  | [] => cs

def isNameChar (c : Char) : Bool := c != '=' && c != '#' && !isBlank c

def readName : List Char → Option (List Char × List Char)
  | '\'' :: cs =>
    match cs.takeWhile (· ≠ '\''), cs.dropWhile (· ≠ '\'') with
    | name@(_ :: _), _ :: rest => some (name, rest)
    | _, _ => none
  | cs =>
    match cs.takeWhile isNameChar with
    | [] => none
    | name => some (name, cs.dropWhile isNameChar)

def readValue (cs : List Char) : Option (List Char × List Char) :=
  match skipInlineBlanks cs with
  | '\'' :: rest => (untilQuote '\'' rest).map fun (v, r) => (unescape singleEscapes v, r)
  | '"' :: rest => (untilQuote '"' rest).map fun (v, r) => (unescape doubleEscapes v, r)
  | _ =>
    let (line, rest) := lineRest cs
    some (trim (cutComment line), rest)

/-- Whether nothing but a comment is left of the line. -/
def endsLine (cs : List Char) : Bool :=
  match skipInlineBlanks cs with
  | [] => true
  | c :: _ => c == '#' || isLineEnd c

/-- One line from its first character that is not blank: the assignment, if it makes one, and
what comes after the line. -/
def readLine (cs : List Char) : Option Assignment × List Char :=
  if cs.head? = some '#' then (none, skipLine cs) else
    let cs := skipExport cs
    match readName cs with
    | none => (none, skipLine cs)
    | some (name, rest) =>
      match skipInlineBlanks rest with
      | '=' :: rest =>
        match readValue rest with
        | none => (none, skipLine rest)
        | some (v, rest) => finish name (some v) rest
      | rest => finish name none rest
where
  finish (name : List Char) (value : Option (List Char)) (rest : List Char) :
      Option Assignment × List Char :=
    (if endsLine rest then some ⟨String.ofList name, value.map String.ofList⟩ else none,
      skipLine rest)

/-- Every line read takes at least one character, so `fuel` characters are read at most. -/
def readLines : Nat → List Char → List Assignment
  | 0, _ => []
  | fuel + 1, cs =>
    match trimStart cs with
    | [] => []
    | c :: rest =>
      let (assignment, after) := readLine (c :: rest)
      assignment.toList ++ readLines fuel after

/-- A mark of byte order in front is no part of the file's text. -/
def dropMark : List Char → List Char
  | '\ufeff' :: cs => cs
  | cs => cs

def read (content : String) : List Assignment :=
  let cs := normalizeLineEnds (dropMark content.toList)
  readLines cs.length cs

end DocSpace.EnvFile
