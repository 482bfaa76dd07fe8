import DocSpace.Proofs.Http.Escape
import Mathlib.Data.List.TakeWhile

set_option autoImplicit false

namespace DocSpace.Http

open Redaction

theorem takeWhile_append_stop {p : Char → Bool} {stop : Char} (ends : p stop = false)
    (front rest : List Char) :
    (front ++ stop :: rest).takeWhile p = front.takeWhile p := by
  induction front with
  | nil => simp only [List.nil_append, List.takeWhile_cons, ends, Bool.false_eq_true, ↓reduceIte,
      List.takeWhile_nil]
  | cons c front ih => simp only [List.cons_append, List.takeWhile_cons, ih]

theorem dropWhile_append_stop {p : Char → Bool} {stop : Char} (ends : p stop = false)
    (front rest : List Char) :
    (front ++ stop :: rest).dropWhile p = front.dropWhile p ++ stop :: rest := by
  induction front with
  | nil => simp only [List.nil_append, List.dropWhile_cons, ends, Bool.false_eq_true, ↓reduceIte,
      List.dropWhile_nil]
  | cons c front ih =>
      simp only [List.cons_append, List.dropWhile_cons, ih]
      split <;> rfl

theorem splitScheme_append (front rest : List Char) :
    splitScheme (front ++ '?' :: rest) =
      ((splitScheme front).1, (splitScheme front).2 ++ '?' :: rest) := by
  have ends : isSchemeChar '?' = false := by decide
  have scheme := takeWhile_append_stop ends front rest
  have inside : (front.takeWhile isSchemeChar).length ≤ front.length :=
    (List.takeWhile_prefix isSchemeChar).length_le
  simp only [splitScheme, scheme, List.drop_append_of_le_length inside]
  cases front.drop (front.takeWhile isSchemeChar).length with
  | nil => simp
  | cons c cs =>
      by_cases colon : c = ':'
      · subst colon
        simp only [List.cons_append]
        split <;> rfl
      · simp [colon]

theorem splitAuthority_append (front rest : List Char) :
    splitAuthority (front ++ '?' :: rest) =
      ((splitAuthority front).1, (splitAuthority front).2 ++ '?' :: rest) := by
  fun_cases splitAuthority front with
  | case1 cs ends =>
      have stops : (!ends '?') = false := rfl
      simp only [List.cons_append, splitAuthority]
      rw [takeWhile_append_stop stops, dropWhile_append_stop stops]
  | case2 front relative =>
      match front, relative with
      | [], _ => simp [splitAuthority]
      | [c], _ => simp [splitAuthority]
      | c :: d :: cs, relative =>
          rw [List.cons_append, List.cons_append, splitAuthority]
          intro ds equal
          injection equal with first equal
          injection equal with second _
          exact relative cs (by rw [first, second])

theorem cutAt_of_not_mem {sep : Char} {cs : List Char} (free : sep ∉ cs) :
    cutAt sep cs = (cs, none) := by
  have all : cs.dropWhile (· ≠ sep) = [] := by
    rw [List.dropWhile_eq_nil_iff]
    intro c member
    exact decide_eq_true fun equal : c = sep => free (equal ▸ member)
  rw [cutAt, all]

theorem cutAt_append_cons {sep : Char} {cs : List Char} (free : sep ∉ cs) (rest : List Char) :
    cutAt sep (cs ++ sep :: rest) = (cs, some rest) := by
  have each : ∀ c ∈ cs, decide (c ≠ sep) = true := fun c member =>
    decide_eq_true fun equal : c = sep => free (equal ▸ member)
  have stops : decide (sep ≠ sep) = false := by simp
  rw [cutAt, dropWhile_append_stop stops, takeWhile_append_stop stops,
    List.dropWhile_eq_nil_iff.mpr each, List.takeWhile_eq_self_iff.mpr each, List.nil_append]

/-- Cutting behind a key leaves what is before it. -/
theorem exists_cutAt_behind (front back : List Char) {sep : Char} (absent : sep ∉ front)
    (other : sep ∉ keyMark) :
    ∃ after rest, ∀ key, sep ∉ key → cutAt sep (front ++ (keyMark ++ (key ++ back))) =
      (front ++ (keyMark ++ (key ++ after)), rest) := by
  by_cases member : sep ∈ back
  · obtain ⟨after, rest, rfl, free⟩ := List.eq_append_cons_of_mem member
    refine ⟨after, some rest, fun key clear => ?_⟩
    have apart : sep ∉ front ++ (keyMark ++ (key ++ after)) := by
      simp only [List.mem_append, not_or]
      exact ⟨absent, other, clear, free⟩
    simpa only [List.append_assoc] using cutAt_append_cons apart rest
  · refine ⟨back, none, fun key clear => cutAt_of_not_mem ?_⟩
    simp only [List.mem_append, not_or]
    exact ⟨absent, other, clear, member⟩

/-- The first question mark is the key's own or comes before it. -/
theorem exists_cutAt_query (front : List Char) :
    ∃ path before, ∀ tail, ∃ query, '?' :: query = before ++ (keyMark ++ tail) ∧
      cutAt '?' (front ++ (keyMark ++ tail)) = (path, some query) := by
  by_cases member : '?' ∈ front
  · obtain ⟨path, before, rfl, free⟩ := List.eq_append_cons_of_mem member
    refine ⟨path, '?' :: before, fun tail => ⟨before ++ (keyMark ++ tail), rfl, ?_⟩⟩
    simpa only [List.append_assoc, List.cons_append] using cutAt_append_cons free _
  · exact ⟨front, [], fun tail => ⟨keyMark.tail ++ tail, rfl, cutAt_append_cons member _⟩⟩

/-- Parts of two URLs that differ in the value of one key. -/
inductive Split.Twins : Split → Split → Prop where
  | query (s : Split) {q q' : List Char} (twins : Redaction.Twins ('?' :: q) ('?' :: q')) :
      Split.Twins { s with query := some q } { s with query := some q' }
  | fragment (s : Split) {f f' : List Char} (twins : Redaction.Twins f f') (filled : f ≠ [])
      (filled' : f' ≠ []) :
      Split.Twins { s with fragment := some f } { s with fragment := some f' }

/-- A key that ends neither its parameter nor the query. -/
def IsKey (key : List Char) : Prop := '&' ∉ key ∧ '#' ∉ key

theorem split_twins (front back : List Char) {key key' : List Char} (own : IsKey key)
    (own' : IsKey key') :
    (split (front ++ (keyMark ++ (key ++ back)))).Twins
      (split (front ++ (keyMark ++ (key' ++ back)))) := by
  have scheme (tail : List Char) := splitScheme_append front (keyMark.tail ++ tail)
  have authority (tail : List Char) :=
    splitAuthority_append (splitScheme front).2 (keyMark.tail ++ tail)
  have mark (tail : List Char) : '?' :: (keyMark.tail ++ tail) = keyMark ++ tail := rfl
  simp only [mark] at scheme authority
  simp only [split, scheme, authority]
  generalize (splitAuthority (splitScheme front).2).2 = rest
  by_cases member : '#' ∈ rest
  · obtain ⟨before, fragment, rfl, free⟩ := List.eq_append_cons_of_mem member
    have cut (tail : List Char) := cutAt_append_cons free (fragment ++ (keyMark ++ tail))
    have filled (tail : List Char) : fragment ++ (keyMark ++ tail) ≠ [] := by
      simp [keyMark]
    simp only [List.append_assoc, List.cons_append, cut]
    exact .fragment ⟨_, _, _, _, none⟩ (.keyed fragment back own.1 own'.1) (filled _) (filled _)
  · obtain ⟨after, fragment, behind⟩ := exists_cutAt_behind rest back member (by decide)
    obtain ⟨path, before, cut⟩ := exists_cutAt_query rest
    obtain ⟨query, marked, here⟩ := cut (key ++ after)
    obtain ⟨query', marked', here'⟩ := cut (key' ++ after)
    simp only [behind key own.2, behind key' own'.2, here, here']
    refine .query ⟨_, _, _, none, _⟩ ?_
    rw [marked, marked']
    exact .keyed before after own.1 own'.1

end DocSpace.Http
