import DocSpace.Proofs.Redaction.Key
import Mathlib.Data.List.TakeWhile

set_option autoImplicit false

namespace DocSpace.Redaction

/-- What can be seen of a key in a URL, besides that there is one. -/
def exposed (key : String) : String :=
  hideKey (String.ofList (key.toList.dropWhile (· ≠ '&')))

/-- The end of a text, or the start of a parameter. -/
inductive IsFresh : List Char → Prop where
  | nil : IsFresh []
  | ampersand (cs : List Char) : IsFresh ('&' :: cs)

theorem ampersand_not_mem_markerForms : ∀ form ∈ markerForms, form.contains '&' = false := by
  decide

theorem startsWithForms_append_fresh {forms : List (List Char)}
    (plain : ∀ form ∈ forms, form.contains '&' = false) (cs : List Char) {rest : List Char}
    (fresh : IsFresh rest) : startsWithForms forms (cs ++ rest) = startsWithForms forms cs := by
  induction forms generalizing cs with
  | nil => simp only [startsWithForms]
  | cons form forms ih =>
      rw [List.forall_mem_cons] at plain
      cases cs with
      | nil =>
          cases fresh with
          | nil => rfl
          | ampersand rest =>
              simp only [List.nil_append, startsWithForms, plain.1, Bool.false_and]
      | cons c cs => simp only [List.cons_append, startsWithForms, ih plain.2 cs]

theorem isMarker_append_fresh (c : Char) (cs : List Char) {rest : List Char}
    (fresh : IsFresh rest) : isMarker (c :: (cs ++ rest)) = isMarker (c :: cs) := by
  simp only [isMarker, startsWithForms_append_fresh ampersand_not_mem_markerForms cs fresh]

theorem length_le_of_startsWithForms {forms : List (List Char)} {cs : List Char}
    (found : startsWithForms forms cs = true) : forms.length ≤ cs.length := by
  induction forms generalizing cs with
  | nil => exact Nat.zero_le _
  | cons form forms ih =>
      cases cs with
      | nil => cases found
      | cons c cs =>
          simp only [startsWithForms, Bool.and_eq_true] at found
          exact Nat.succ_le_succ (ih found.2)

/-- A marker that is being read ends within the text. -/
def Phase.Fits (cs : List Char) : Phase → Prop
  | .marker n => n < cs.length
  | .outside | .key => True

theorem fits_ite {c : Char} {cs : List Char} :
    (if isMarker (c :: cs) then Phase.marker 6 else .outside).Fits cs := by
  split
  · next found =>
      simp only [isMarker, Bool.and_eq_true] at found
      exact length_le_of_startsWithForms found.2
  · trivial

/-- A parameter is hidden in the same way wherever it stands. -/
theorem hideFrom_append {phase : Phase} {cs : List Char} (fits : phase.Fits cs)
    {rest : List Char} (fresh : IsFresh rest) :
    hideFrom phase (cs ++ rest) = hideFrom phase cs ++ hideFrom .outside rest := by
  induction cs generalizing phase with
  | nil =>
      cases phase with
      | outside => rfl
      | marker n => exact absurd fits (Nat.not_lt_zero n)
      | key =>
          cases fresh with
          | nil => rfl
          | ampersand cs => simp only [List.nil_append, hideFrom, ↓reduceIte]
  | cons c cs ih =>
      have marker := isMarker_append_fresh c cs fresh
      have inKey : Phase.key.Fits cs := trivial
      cases phase with
      | outside => simp only [List.cons_append, hideFrom, marker, ih fits_ite]
      | key =>
          simp only [List.cons_append, hideFrom, marker, ih fits_ite, ih inKey]
          split <;> rfl
      | marker n =>
          cases n with
          | zero =>
              simp only [List.cons_append, List.append_assoc, hideFrom, ih inKey]
          | succ n =>
              have inside : (Phase.marker n).Fits cs := Nat.lt_of_succ_lt_succ fits
              simp only [List.cons_append, hideFrom, ih inside]

theorem hideFrom_key_eq (cs : List Char) :
    hideFrom .key cs = hideFrom .outside (cs.dropWhile (· ≠ '&')) := by
  induction cs with
  | nil => rfl
  | cons c cs ih =>
      by_cases ampersand : c = '&'
      · simp only [hideFrom, List.dropWhile_cons, ampersand, ne_eq, not_true, decide_false,
          Bool.false_eq_true, ↓reduceIte]
      · simp only [hideFrom, List.dropWhile_cons, ampersand, ne_eq, not_false_eq_true,
          decide_true, ↓reduceIte, ih]

theorem toList_exposed (key : String) : (exposed key).toList = hideFrom .key key.toList := by
  rw [exposed, hideKey, String.toList_ofList, String.toList_ofList, hideFrom_key_eq]

/-- URLs that differ in their key read the same, once it is hidden, just if the keys expose the
same. -/
theorem hideKey_eq_iff_exposed {s t key key' : String} (before : List Char) {after : List Char}
    (fresh : IsFresh after) (left : s.toList = before ++ (keyMark ++ (key.toList ++ after)))
    (right : t.toList = before ++ (keyMark ++ (key'.toList ++ after))) :
    hideKey s = hideKey t ↔ exposed key = exposed key' := by
  have outside : Phase.outside.Bounded := trivial
  obtain ⟨shown, same⟩ := hideFrom_before_keyMark before outside
  have inKey (cs : List Char) : Phase.key.Fits cs := trivial
  rw [← String.toList_inj, ← String.toList_inj, toList_exposed, toList_exposed]
  simp only [hideKey, String.toList_ofList, left, right, same, hideFrom_append (inKey _) fresh,
    List.append_right_inj, List.append_left_inj]

end DocSpace.Redaction
