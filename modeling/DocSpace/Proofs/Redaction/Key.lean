import DocSpace.Redaction.Url
import Mathlib.Data.List.Basic

set_option autoImplicit false

namespace DocSpace.Redaction

def keyMark : List Char := ['?', 'a', 'p', 'i', 'K', 'e', 'y', '=']

theorem toList_keyMark : "?apiKey=".toList = keyMark := by decide

/-- A marker is found by its own characters, whatever comes after them. -/
theorem startsWithForms_append (forms : List (List Char)) {cs : List Char}
    (enough : forms.length ≤ cs.length) (rest : List Char) :
    startsWithForms forms (cs ++ rest) = startsWithForms forms cs := by
  induction forms generalizing cs with
  | nil => simp only [startsWithForms]
  | cons form forms ih =>
      cases cs with
      | nil => exact absurd enough (Nat.not_succ_le_zero _)
      | cons c cs =>
          simp only [List.cons_append, startsWithForms, ih (Nat.le_of_succ_le_succ enough)]

theorem isMarker_append (c : Char) {cs : List Char} (enough : 7 ≤ cs.length) (rest : List Char) :
    isMarker (c :: (cs ++ rest)) = isMarker (c :: cs) := by
  simp only [isMarker, startsWithForms_append markerForms enough rest]

theorem hideFrom_key_append {key : List Char} (free : '&' ∉ key) (rest : List Char) :
    hideFrom .key (key ++ rest) = hideFrom .key rest := by
  induction key with
  | nil => rfl
  | cons c key ih =>
      rw [List.mem_cons, not_or] at free
      have other : c ≠ '&' := fun equal => free.1 equal.symm
      simp only [List.cons_append, hideFrom, other, ↓reduceIte, ih free.2]

/-- Inside a marker everything stays, and after its last character the key is hidden. -/
theorem hideFrom_marker_append {n : Nat} {cs : List Char} (size : cs.length = n + 1)
    (rest : List Char) :
    hideFrom (.marker n) (cs ++ rest) = cs ++ hidden.toList ++ hideFrom .key rest := by
  induction n generalizing cs with
  | zero =>
      obtain ⟨c, rfl⟩ := List.length_eq_one_iff.mp size
      rfl
  | succ n ih =>
      cases cs with
      | nil => exact absurd size (Nat.succ_ne_zero _).symm
      | cons c cs =>
          simp only [List.cons_append, hideFrom, ih (Nat.succ.inj size)]

theorem hideFrom_outside_keyMark (rest : List Char) :
    hideFrom .outside (keyMark ++ rest) = keyMark ++ hidden.toList ++ hideFrom .key rest := by
  have found : isMarker (keyMark ++ rest) = true := rfl
  have inside : hideFrom (.marker 6) (keyMark.tail ++ rest) =
      keyMark.tail ++ hidden.toList ++ hideFrom .key rest := hideFrom_marker_append rfl rest
  simp only [keyMark, List.cons_append, List.nil_append, hideFrom] at found ⊢
  rw [found]
  exact congrArg ('?' :: ·) inside

/-- No marker starts where there is neither a question mark nor an ampersand. -/
theorem hideFrom_unmarked {cs : List Char} (question : '?' ∉ cs) (ampersand : '&' ∉ cs)
    (rest : List Char) : hideFrom .outside (cs ++ rest) = cs ++ hideFrom .outside rest := by
  induction cs with
  | nil => rfl
  | cons c cs ih =>
      rw [List.mem_cons, not_or] at question ampersand
      have plain : isMarker (c :: (cs ++ rest)) = false := by
        simp [isMarker, Ne.symm question.1, Ne.symm ampersand.1]
      rw [List.cons_append, hideFrom, plain, List.cons_append]
      exact congrArg (c :: ·) (ih question.2 ampersand.2)

def Phase.Bounded : Phase → Prop
  | .marker n => n ≤ 6
  | .outside | .key => True

theorem bounded_ite (found : Bool) {phase : Phase} (bounded : phase.Bounded) :
    (if found then Phase.marker 6 else phase).Bounded := by
  cases found with
  | false => exact bounded
  | true => exact Nat.le_refl 6

/-- From the mark on, only the mark and what the key lets through can be seen. -/
theorem hideFrom_keyMark {phase : Phase} (bounded : phase.Bounded) :
    ∃ shown, ∀ rest, hideFrom phase (keyMark ++ rest) = shown ++ hideFrom .key rest := by
  cases phase with
  | outside => exact ⟨keyMark ++ hidden.toList, hideFrom_outside_keyMark⟩
  | key =>
      refine ⟨[], fun rest => ?_⟩
      rw [hideFrom_key_append (by decide), List.nil_append]
  | marker n =>
      -- the marker that is being read ends inside the mark, so the key starts early
      refine ⟨keyMark.take (n + 1) ++ hidden.toList, fun rest => ?_⟩
      have size : (keyMark.take (n + 1)).length = n + 1 := by
        rw [List.length_take]
        exact Nat.min_eq_left (Nat.le_trans (Nat.succ_le_succ bounded) (by decide))
      have absent : '&' ∉ keyMark.drop (n + 1) :=
        fun member => absurd (List.mem_of_mem_drop member) (by decide)
      rw [← hideFrom_key_append absent, ← hideFrom_marker_append size]
      simp only [← List.append_assoc, List.take_append_drop]

/-- What is seen in front of a key does not depend on the key. -/
theorem hideFrom_before_keyMark (before : List Char) {phase : Phase} (bounded : phase.Bounded) :
    ∃ shown, ∀ rest,
      hideFrom phase (before ++ (keyMark ++ rest)) = shown ++ hideFrom .key rest := by
  induction before generalizing phase with
  | nil => exact hideFrom_keyMark bounded
  | cons c before ih =>
      have enough : 7 ≤ (before ++ keyMark).length := by
        rw [List.length_append]
        exact Nat.le_trans (by decide) (Nat.le_add_left keyMark.length before.length)
      have found (rest : List Char) : isMarker (c :: (before ++ (keyMark ++ rest))) =
          isMarker (c :: (before ++ keyMark)) := by
        rw [← List.append_assoc, isMarker_append c enough]
      have outside : Phase.outside.Bounded := trivial
      have within : Phase.key.Bounded := trivial
      obtain ⟨fresh, same⟩ := ih (bounded_ite (isMarker (c :: (before ++ keyMark))) outside)
      obtain ⟨inKey, sameKey⟩ := ih within
      cases phase with
      | outside =>
          refine ⟨c :: fresh, fun rest => ?_⟩
          simp only [List.cons_append, hideFrom, found, same]
      | key =>
          refine ⟨if c = '&' then c :: fresh else inKey, fun rest => ?_⟩
          simp only [List.cons_append, hideFrom, found, same, sameKey]
          split <;> rfl
      | marker n =>
          cases n with
          | zero =>
              refine ⟨c :: hidden.toList ++ inKey, fun rest => ?_⟩
              simp only [List.cons_append, List.append_assoc, hideFrom, sameKey]
          | succ n =>
              have shorter : (Phase.marker n).Bounded := Nat.le_of_succ_le bounded
              obtain ⟨inside, sameInside⟩ := ih shorter
              refine ⟨c :: inside, fun rest => ?_⟩
              simp only [List.cons_append, hideFrom, sameInside]

theorem hideFrom_keyed {key key' : List Char} (free : '&' ∉ key) (free' : '&' ∉ key')
    (after before : List Char) {phase : Phase} (bounded : phase.Bounded) :
    hideFrom phase (before ++ (keyMark ++ (key ++ after))) =
      hideFrom phase (before ++ (keyMark ++ (key' ++ after))) := by
  obtain ⟨shown, same⟩ := hideFrom_before_keyMark before bounded
  rw [same, same, hideFrom_key_append free, hideFrom_key_append free']

/-- Equal, or the same but for the value of one key. -/
inductive Twins : List Char → List Char → Prop where
  | same (cs : List Char) : Twins cs cs
  | keyed (before after : List Char) {key key' : List Char} (free : '&' ∉ key)
      (free' : '&' ∉ key') :
      Twins (before ++ (keyMark ++ (key ++ after))) (before ++ (keyMark ++ (key' ++ after)))

namespace Twins

variable {cs ds : List Char}

theorem append_left (twins : Twins cs ds) (front : List Char) :
    Twins (front ++ cs) (front ++ ds) := by
  cases twins with
  | same => exact .same _
  | keyed before after free free' =>
      simpa only [List.append_assoc] using keyed (front ++ before) after free free'

theorem append_right (twins : Twins cs ds) (back : List Char) :
    Twins (cs ++ back) (ds ++ back) := by
  cases twins with
  | same => exact .same _
  | keyed before after free free' =>
      simp only [List.append_assoc]
      exact .keyed before (after ++ back) free free'

/-- A key is still a key where characters are replaced, as long as none of them makes an ampersand
or is part of the mark. -/
theorem flatMap {f : Char → List Char} (twins : Twins cs ds) (mark : keyMark.flatMap f = keyMark)
    (free : ∀ c, c ≠ '&' → '&' ∉ f c) : Twins (cs.flatMap f) (ds.flatMap f) := by
  have absent {key : List Char} (none_yet : '&' ∉ key) : '&' ∉ key.flatMap f := by
    intro member
    obtain ⟨c, hc, made⟩ := List.mem_flatMap.mp member
    exact free c (fun same => none_yet (same ▸ hc)) made
  cases twins with
  | same => exact .same _
  | keyed before after free free' =>
      simp only [List.flatMap_append, mark]
      exact .keyed _ _ (absent free) (absent free')

theorem hideFrom_eq (twins : Twins cs ds) : hideFrom .outside cs = hideFrom .outside ds := by
  cases twins with
  | same => rfl
  | keyed before after free free' => exact hideFrom_keyed free free' after before trivial

end Twins

theorem hideKey_eq_of_twins {s t : String} (twins : Twins s.toList t.toList) :
    hideKey s = hideKey t := by
  rw [hideKey, hideKey, twins.hideFrom_eq]

end DocSpace.Redaction
