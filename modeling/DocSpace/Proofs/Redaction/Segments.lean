import DocSpace.Proofs.Redaction.Exposed
import DocSpace.Proofs.Text.Pieces

set_option autoImplicit false

namespace DocSpace.Redaction

open Text

/-- Length of the marker at a place of a segment, if there is one: the name of the key behind a
question mark, or at the very start of a segment that follows an ampersand. -/
def markerLength? (follows : Bool) (segment : List Char) (place : Nat) : Option Nat :=
  if follows ∧ place = 0 ∧ startsWithForms markerForms segment then some markerForms.length
  else if segment[place]? = some '?' ∧ startsWithForms markerForms (segment.drop (place + 1)) then
    some (markerForms.length + 1)
  else none

def keyPlace? (follows : Bool) (segment : List Char) : Option Nat :=
  (List.range segment.length).findSome? fun place =>
    (markerLength? follows segment place).map (place + ·)

def hideSegment (follows : Bool) (segment : List Char) : List Char :=
  match keyPlace? follows segment with
  | some place => segment.take place ++ hidden.toList
  | none => segment

/-- Every segment but the first follows an ampersand. -/
def hideSegments (s : String) : String :=
  joined "&" ((pieces '&' s.toList).mapIdx fun i p => String.ofList (hideSegment (0 < i) p))

theorem markerLength?_succ (follows : Bool) (c : Char) (cs : List Char) (place : Nat) :
    markerLength? follows (c :: cs) (place + 1) = markerLength? false cs place := by
  simp only [markerLength?, Nat.succ_ne_zero, false_and, and_false, Bool.false_eq_true,
    ↓reduceIte, List.getElem?_cons_succ, List.drop_succ_cons]

theorem keyPlace?_cons (follows : Bool) (c : Char) (cs : List Char) :
    keyPlace? follows (c :: cs) =
      (markerLength? follows (c :: cs) 0).or ((keyPlace? false cs).map (· + 1)) := by
  have later : (List.range cs.length).findSome? (fun place =>
      (markerLength? false cs place).map (place + 1 + ·)) = (keyPlace? false cs).map (· + 1) := by
    rw [keyPlace?, List.map_findSome?]
    congr 1
    funext place
    rw [Function.comp_apply, Option.map_map]
    congr 1
    funext length
    exact Nat.add_right_comm place 1 length
  rw [keyPlace?, List.length_cons, List.range_succ_eq_map, List.findSome?_cons, List.findSome?_map]
  simp only [Function.comp_def, markerLength?_succ, later]
  cases markerLength? follows (c :: cs) 0 with
  | none => rfl
  | some length => simp only [Option.map_some, Nat.zero_add, Option.some_or]

theorem hideSegment_of_marker {follows : Bool} {c : Char} {cs : List Char} {length : Nat}
    (marker : markerLength? follows (c :: cs) 0 = some length) :
    hideSegment follows (c :: cs) = (c :: cs).take length ++ hidden.toList := by
  simp only [hideSegment, keyPlace?_cons, marker, Option.some_or]

theorem hideSegment_of_no_marker {follows : Bool} {c : Char} {cs : List Char}
    (absent : markerLength? follows (c :: cs) 0 = none) :
    hideSegment follows (c :: cs) = c :: hideSegment false cs := by
  simp only [hideSegment, keyPlace?_cons, absent, Option.none_or]
  cases keyPlace? false cs with
  | none => rfl
  | some place => rfl

/-- What is left of a segment once the scan has come to a marker in it. -/
theorem hideFrom_name {cs : List Char} (free : '&' ∉ cs)
    (found : startsWithForms markerForms cs = true) :
    hideFrom (.marker 6) cs = cs.take markerForms.length ++ hidden.toList := by
  have size : (cs.take markerForms.length).length = 6 + 1 :=
    List.length_take_of_le (length_le_of_startsWithForms found)
  have rest : '&' ∉ cs.drop markerForms.length := fun member => free (List.mem_of_mem_drop member)
  have swallowed : hideFrom .key (cs.drop markerForms.length) = [] := by
    simpa only [List.append_nil, hideFrom] using hideFrom_key_append rest []
  calc hideFrom (.marker 6) cs
      = hideFrom (.marker 6) (cs.take markerForms.length ++ cs.drop markerForms.length) := by
        rw [List.take_append_drop]
    _ = cs.take markerForms.length ++ hidden.toList := by
        rw [hideFrom_marker_append size, swallowed, List.append_nil]

/-- The scan of a segment that nothing stands before. -/
theorem hideFrom_segment {cs : List Char} (free : '&' ∉ cs) :
    hideFrom .outside cs = hideSegment false cs := by
  induction cs with
  | nil => rfl
  | cons c cs ih =>
      rw [List.mem_cons, not_or] at free
      have other : (c == '&') = false := beq_false_of_ne (Ne.symm free.1)
      by_cases marked : c = '?' ∧ startsWithForms markerForms cs = true
      · obtain ⟨rfl, found⟩ := marked
        have marker : markerLength? false ('?' :: cs) 0 = some (markerForms.length + 1) := by
          simp [markerLength?, found]
        rw [hideSegment_of_marker marker]
        simp [hideFrom, isMarker, found, hideFrom_name free.2 found]
      · have absent : markerLength? false (c :: cs) 0 = none := by
          simpa [markerLength?] using marked
        have outside : isMarker (c :: cs) = false := by
          simpa [isMarker, other] using marked
        rw [hideSegment_of_no_marker absent, hideFrom, outside, ← ih free.2]
        rfl

/-- The scan of a segment together with the ampersand before it. -/
theorem hideFrom_ampersand_segment {cs : List Char} (free : '&' ∉ cs) :
    hideFrom .outside ('&' :: cs) = '&' :: hideSegment true cs := by
  by_cases found : startsWithForms markerForms cs = true
  · cases cs with
    | nil => cases found
    | cons c cs =>
        have marker : markerLength? true (c :: cs) 0 = some markerForms.length := by
          simp [markerLength?, found]
        rw [hideSegment_of_marker marker, ← hideFrom_name free found]
        simp [hideFrom, isMarker, found]
  · have outside : isMarker ('&' :: cs) = false := by
      simpa [isMarker] using found
    have same : hideSegment true cs = hideSegment false cs := by
      cases cs with
      | nil => rfl
      | cons c cs =>
          have marker : markerLength? true (c :: cs) 0 = markerLength? false (c :: cs) 0 := by
            simp [markerLength?, found]
          simp only [hideSegment, keyPlace?_cons, marker]
    rw [hideFrom, outside, same, ← hideFrom_segment free]
    rfl

theorem isFresh_flatMap (ps : List (List Char)) : IsFresh (ps.flatMap ('&' :: ·)) := by
  cases ps with
  | nil => exact .nil
  | cons p ps => exact .ampersand _

/-- Every segment that an ampersand begins is hidden by itself. -/
theorem hideFrom_flatMap {ps : List (List Char)} :
    hideFrom .outside (ps.flatMap ('&' :: ·)) =
      ps.flatMap fun p => hideFrom .outside ('&' :: p) := by
  induction ps with
  | nil => rfl
  | cons p ps ih =>
      have fits : Phase.outside.Fits ('&' :: p) := trivial
      rw [List.flatMap_cons, List.flatMap_cons, hideFrom_append fits (isFresh_flatMap ps), ih]

theorem mapIdx_hideSegment (p : List Char) (ps : List (List Char)) :
    ((p :: ps).mapIdx fun i q => String.ofList (hideSegment (0 < i) q)) =
      String.ofList (hideSegment false p) ::
        ps.map fun q => String.ofList (hideSegment true q) := by
  rw [List.mapIdx_cons]
  congr 1
  exact List.ext_getElem (by simp) (by simp)

/-- Hiding keys in one scan is hiding them behind the first marker of each segment. -/
theorem hideKey_eq_hideSegments (s : String) : hideKey s = hideSegments s := by
  obtain ⟨p, ps, cut, whole, free, others⟩ := exists_pieces '&' s.toList
  have single : "&".toList = ['&'] := by decide
  have first : Phase.outside.Fits p := trivial
  have each : ps.flatMap (fun q => hideFrom .outside ('&' :: q)) =
      ps.flatMap fun q => '&' :: hideSegment true q :=
    List.flatMap_congr fun q member => hideFrom_ampersand_segment (others q member)
  rw [← String.toList_inj, hideKey, String.toList_ofList, whole,
    hideFrom_append first (isFresh_flatMap ps), hideFrom_segment free, hideFrom_flatMap, each,
    hideSegments, cut, mapIdx_hideSegment, toList_joined_cons single, String.toList_ofList]
  simp only [List.map_map, List.flatMap_map, Function.comp_def, String.toList_ofList]

/-- Only the first marker of a segment counts, and only the first segment is no parameter. -/
example : hideSegments "apiKey=0?apiKey=a?APIKEY=b&apikey=c?d&x" =
    "apiKey=0?apiKey=[REDACTED]&apikey=[REDACTED]&x" := by decide

end DocSpace.Redaction
