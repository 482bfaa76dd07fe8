import DocSpace.Fault
import DocSpace.Hint
import DocSpace.Number.Numeral
import DocSpace.Text.LetterCase
import DocSpace.Text.Pieces

set_option autoImplicit false

namespace DocSpace.Settings

open Text

inductive Reading where
  | flag
  | whole
  | double
  | texts
  | text
  deriving DecidableEq

def Reading.of : Annotation → Reading
  | .hint (.plain .bool) | .source "bool" _ => flag
  | .hint (.plain .int) | .source "int" _ => whole
  | .hint (.plain .double) | .source "float" _ => double
  | .hint (.items _) => texts
  | _ => text

def affirmatives : List String := ["1", "true", "yes", "on"]

/-- Pieces between commas, trimmed, without the empty ones. -/
def readTexts (s : String) : List String :=
  (((pieces ',' s.toList).map trim).filter (!·.isEmpty)).map String.ofList

def readWhole (s : String) : Except Fault Int :=
  match Number.readInt s with
  | .ok i => .ok i
  | .error .malformed => .error (.notWhole s)
  | .error (.tooManyDigits n) => .error (.tooManyDigits n)

def readDouble (s : String) : Except Fault Double :=
  match Number.readDouble s with
  | .ok d => .ok d
  | .error _ => .error (.notDouble s)

def coerce (a : Annotation) (s : String) : Except Fault Value :=
  match Reading.of a with
  | .flag => .ok (.bool (affirmatives.contains (lower s)))
  | .whole => (readWhole s).map .int
  | .double => (readDouble s).map .double
  | .texts => .ok (.list ((readTexts s).map .text))
  | .text => .ok (.text s)

end DocSpace.Settings
