set_option autoImplicit false

namespace DocSpace.Redaction

def hidden : String := "[REDACTED]"

/-- Forms in which a letter of the marker may be written. -/
def markerForms : List (List Char) :=
  [['a', 'A'], ['p', 'P'], ['i', 'I', 'ı', 'İ'], ['k', 'K', '\u212a'], ['e', 'E'], ['y', 'Y'],
    ['=']]

def startsWithForms : List (List Char) → List Char → Bool
  | [], _ => true
  | _ :: _, [] => false
  | form :: forms, c :: cs => form.contains c && startsWithForms forms cs

/-- Whether the name of the key starts a parameter here. -/
def isMarker : List Char → Bool
  | [] => false
  | c :: cs => (c == '?' || c == '&') && startsWithForms markerForms cs

/-- Where a text is relative to the last marker: at none, inside it with `n` characters to come
before its last, or past it. -/
inductive Phase where
  | outside
  | marker (n : Nat)
  | key

def hideFrom : Phase → List Char → List Char
  | _, [] => []
  | .outside, c :: cs => c :: hideFrom (if isMarker (c :: cs) then .marker 6 else .outside) cs
  | .marker (n + 1), c :: cs => c :: hideFrom (.marker n) cs
  | .marker 0, c :: cs => c :: hidden.toList ++ hideFrom .key cs
  | .key, c :: cs =>
    if c = '&' then c :: hideFrom (if isMarker (c :: cs) then .marker 6 else .outside) cs
    else hideFrom .key cs

def hideKey (s : String) : String := String.ofList (hideFrom .outside s.toList)

end DocSpace.Redaction
