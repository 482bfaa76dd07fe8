import DocSpace.Proofs.Http.Split
import DocSpace.Proofs.Success

set_option autoImplicit false

namespace DocSpace.Http

open Redaction

inductive Address.Twins : Address → Address → Prop where
  | same (a : Address) : Address.Twins a a
  | query (a : Address) {q q' : List Char} (twins : Redaction.Twins ('?' :: q) ('?' :: q')) :
      Address.Twins { a with query := some q } { a with query := some q' }
  | fragment (a : Address) {f f' : List Char} (twins : Redaction.Twins f f') (filled : f ≠ [])
      (filled' : f' ≠ []) :
      Address.Twins { a with fragment := some f } { a with fragment := some f' }

/-- Query and fragment are only escaped. -/
theorem form_eq_map (s : Split) (query fragment : Option (List Char)) :
    form { s with query, fragment } =
      (form s).map fun a =>
        { a with
          query := query.map (escape isQuerySafe)
          fragment := fragment.map (escape isFragmentSafe) } := by
  simp only [form]
  cases encodeHost (splitPort (splitUser s.authority).2).1 with
  | error message => rfl
  | ok host =>
      cases readPort s.scheme (splitPort (splitUser s.authority).2).2 with
      | error message => rfl
      | ok port =>
          simp only [bind, Except.bind]
          split <;> rfl

/-- Parts that are twins form addresses that are. -/
theorem form_twins {s t : Split} (twins : s.Twins t) {a b : Address} (left : form s = .ok a)
    (right : form t = .ok b) : a.Twins b := by
  cases twins with
  | query s twins =>
      rw [form_eq_map s _ s.fragment] at left right
      obtain ⟨common, formed, rfl⟩ := map_eq_ok.mp left
      obtain ⟨other, formed', rfl⟩ := map_eq_ok.mp right
      obtain rfl := Except.ok.inj (formed.symm.trans formed')
      have marks := twins_escape twins keyMark_isQuerySafe
      have mark : isQuerySafe '?' = true := by decide
      rw [escape_cons_of_safe mark, escape_cons_of_safe mark] at marks
      exact .query { common with fragment := s.fragment.map (escape isFragmentSafe) } marks
  | fragment s twins filled filled' =>
      rw [form_eq_map s s.query] at left right
      obtain ⟨common, formed, rfl⟩ := map_eq_ok.mp left
      obtain ⟨other, formed', rfl⟩ := map_eq_ok.mp right
      obtain rfl := Except.ok.inj (formed.symm.trans formed')
      exact .fragment { common with query := s.query.map (escape isQuerySafe) }
        (twins_escape twins keyMark_isFragmentSafe) (escape_ne_nil filled) (escape_ne_nil filled')

theorem form_of_ofText {s : String} {a : Address} (read : Address.ofText s = .ok a) :
    form (split s.toList) = .ok a := by
  rw [Address.ofText] at read
  split at read
  · cases read
  · split at read
    · cases read
    · exact read

theorem Address.rooted_of_isAbsolute {a : Address} (absolute : a.isAbsolute = true) :
    a.rooted = a := if_pos absolute

theorem Address.rooted_of_relative {a : Address} (relative : a.isAbsolute = false) :
    a.rooted = ⟨[], [], [], none, '/' :: a.path.dropWhile (· = '/'), a.query, none⟩ :=
  if_neg (by rw [relative]; decide)

namespace Address.Twins

variable {a b : Address}

theorem host_eq (twins : a.Twins b) : a.host = b.host := by cases twins <;> rfl

theorem checkHost_eq (twins : a.Twins b) : a.checkHost = b.checkHost := by
  rw [checkHost, checkHost, twins.host_eq]

theorem isAbsolute_eq (twins : a.Twins b) : a.isAbsolute = b.isAbsolute := by cases twins <;> rfl

theorem rooted (twins : a.Twins b) : a.rooted.Twins b.rooted := by
  have both := twins.isAbsolute_eq
  cases absolute : a.isAbsolute with
  | true =>
      rw [rooted_of_isAbsolute absolute, rooted_of_isAbsolute (both ▸ absolute)]
      exact twins
  | false =>
      rw [rooted_of_relative absolute, rooted_of_relative (both ▸ absolute)]
      cases twins with
      | same => exact .same _
      | query a twins => exact .query ⟨[], [], [], none, _, none, none⟩ twins
      | fragment => exact .same _ -- the key goes with the fragment

theorem text (twins : a.Twins b) : Redaction.Twins a.text.toList b.text.toList := by
  cases twins with
  | same => exact .same _
  | query a twins =>
      simp only [Address.text, String.toList_ofList, marked]
      exact (twins.append_left _).append_right _
  | fragment a twins =>
      simp only [Address.text, String.toList_ofList, marked]
      exact (twins.append_left ['#']).append_left _

end Address.Twins

/-- What a redirect takes from the request's fragment holds no controls. -/
def Address.HasCleanFragment (a : Address) : Prop :=
  ∀ c ∈ fragmentText (a.fragment.getD []), isControl c = false

theorem checkInherited_of_clean {fragment : List Char}
    (clean : ∀ c ∈ fragment, isControl c = false) (location : Address) :
    checkInherited location fragment = location.checkLengths := by
  have none_found : fragment.find? isControl = none :=
    List.find?_eq_none.mpr fun c member => Bool.eq_false_iff.mp (clean c member)
  rw [checkInherited, none_found]
  cases location.checkLengths <;> rfl

/-- Only whether there is a fragment counts, if it is clean. -/
theorem checkRedirect_eq_of_fragment {a b : Address} (clean : a.HasCleanFragment)
    (clean' : b.HasCleanFragment)
    (both : fragmentText (a.fragment.getD []) = [] ↔ fragmentText (b.fragment.getD []) = [])
    (location : String) : checkRedirect a location = checkRedirect b location := by
  have presence : (fragmentText (a.fragment.getD [])).isEmpty =
      (fragmentText (b.fragment.getD [])).isEmpty := by
    rw [Bool.eq_iff_iff, List.isEmpty_iff, List.isEmpty_iff, both]
  simp only [checkRedirect, presence, checkInherited_of_clean clean,
    checkInherited_of_clean clean']

theorem Address.Twins.checkRedirect_eq {a b : Address} (twins : a.Twins b)
    (clean : a.HasCleanFragment) (clean' : b.HasCleanFragment) (location : String) :
    checkRedirect a location = checkRedirect b location := by
  apply checkRedirect_eq_of_fragment clean clean'
  cases twins with
  | same => exact Iff.rfl
  | query => exact Iff.rfl
  | fragment a twins filled filled' =>
      exact iff_of_false (fragmentText_ne_nil filled) (fragmentText_ne_nil filled')

inductive UrlTwins : String → String → Prop where
  | keyed {s t : String} (front back : List Char) {key key' : List Char} (own : IsKey key)
      (own' : IsKey key') (left : s.toList = front ++ (keyMark ++ (key ++ back)))
      (right : t.toList = front ++ (keyMark ++ (key' ++ back))) : UrlTwins s t

namespace UrlTwins

variable {s t : String}

theorem hideKey_eq (twins : UrlTwins s t) : hideKey s = hideKey t := by
  obtain ⟨front, back, own, own', left, right⟩ := twins
  apply hideKey_eq_of_twins
  rw [left, right]
  exact .keyed front back own.1 own'.1

/-- Requests to the URLs go to addresses that differ in the key only. -/
theorem address (twins : UrlTwins s t) {a b : Address} (left : Address.ofRequest s = .ok a)
    (right : Address.ofRequest t = .ok b) : a.Twins b := by
  have read {u : String} {c : Address} (run : Address.ofRequest u = .ok c) :
      ∃ d, form (split u.toList) = .ok d ∧ d.rooted = c := by
    rw [Address.ofRequest] at run
    cases text : Address.ofText u with
    | error message => rw [text] at run; cases run
    | ok d =>
        rw [text] at run
        exact ⟨d, form_of_ofText text, Except.ok.inj run⟩
  obtain ⟨front, back, own, own', leftText, rightText⟩ := twins
  obtain ⟨c, formed, rfl⟩ := read left
  obtain ⟨d, formed', rfl⟩ := read right
  rw [leftText] at formed
  rw [rightText] at formed'
  exact (form_twins (split_twins front back own own') formed formed').rooted

end UrlTwins

end DocSpace.Http
