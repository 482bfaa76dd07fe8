import DocSpace.Proofs.Query.Parameter
import DocSpace.Proofs.Redaction.Segments
import DocSpace.Proofs.Value.Sequence

set_option autoImplicit false

namespace DocSpace.Query

open Redaction Text

structure IsUnmarked (s : String) : Prop where
  question : '?' ∉ s.toList
  ampersand : '&' ∉ s.toList

instance (s : String) : Decidable (IsUnmarked s) :=
  decidable_of_iff ('?' ∉ s.toList ∧ '&' ∉ s.toList)
    ⟨fun free => ⟨free.1, free.2⟩, fun unmarked => ⟨unmarked.question, unmarked.ampersand⟩⟩

/-- Options of which no text starts a parameter of its own. -/
structure ListOptions.Unmarked (o : ListOptions) : Prop where
  field : ∀ f ∈ o.filters.getD [], IsUnmarked f.field.plain
  operation : ∀ f ∈ o.filters.getD [], ∃ s, f.operation = .text s
  operand : ∀ f ∈ o.filters.getD [], IsUnmarked f.operand
  selections : ∀ v ∈ o.selections.items?.getD [], ∀ s ∈ v.asText?, IsUnmarked s
  relations : ∀ v ∈ o.relations.items?.getD [], ∀ s ∈ v.asText?, IsUnmarked s
  pagination : ∀ p ∈ o.pagination, IsCount p.skip ∧ IsCount p.take
  sortBy : ∀ s ∈ o.sortBy, IsUnmarked s.field.plain

theorem IsUnmarked.append {s t : String} (left : IsUnmarked s) (right : IsUnmarked t) :
    IsUnmarked (s ++ t) where
  question := by
    rw [String.toList_append, List.mem_append, not_or]
    exact ⟨left.question, right.question⟩
  ampersand := by
    rw [String.toList_append, List.mem_append, not_or]
    exact ⟨left.ampersand, right.ampersand⟩

theorem IsUnmarked.joined {sep : String} (between : IsUnmarked sep) {ss : List String}
    (each : ∀ s ∈ ss, IsUnmarked s) : IsUnmarked (Text.joined sep ss) where
  question := not_mem_joined between.question fun s hs => (each s hs).question
  ampersand := not_mem_joined between.ampersand fun s hs => (each s hs).ampersand

theorem IsUnmarked.of_isCount {v : Value} (count : IsCount v) : IsUnmarked v.plain where
  question := fun member => absurd (count.mem_plain member) (by decide)
  ampersand := count.ampersand

/-- A join of a value whose texts start no parameter starts none. -/
theorem IsUnmarked.of_join {v : Value} {sep s : String} (between : IsUnmarked sep)
    (each : ∀ w ∈ v.items?.getD [], ∀ t ∈ w.asText?, IsUnmarked t) (run : v.join sep = .ok s) :
    IsUnmarked s := by
  obtain ⟨vs, ss, parts, texts, rfl⟩ := Value.join_eq_ok run
  refine .joined between fun t ht => ?_
  have listed : some t ∈ vs.map Value.asText? := texts ▸ List.mem_map_of_mem ht
  obtain ⟨w, hw, text⟩ := List.mem_map.mp listed
  exact each w (by rw [parts]; exact hw) t text

/-- A parameter with another name than the key's, and nothing in it that starts one. -/
structure Parameter.IsQuiet (p : Parameter) : Prop where
  name : p.1.toList.head? ≠ some 'a' ∧ p.1.toList.head? ≠ some 'A'
  unmarked : IsUnmarked p.text

section Quiet

variable {p : Parameter}

theorem Parameter.IsQuiet.of_parts
    (name : p.1.toList.head? ≠ some 'a' ∧ p.1.toList.head? ≠ some 'A')
    (left : IsUnmarked p.1) (right : IsUnmarked p.2) : p.IsQuiet where
  name := name
  unmarked := (left.append (by decide)).append right

theorem isQuiet_filter {f : Filter} (field : IsUnmarked f.field.plain)
    (word : ∃ s, f.operation = .text s) (operand : IsUnmarked f.operand) :
    f.parameter.IsQuiet := by
  have mark : f.parameter.1.toList.head? = some '$' := by
    simp only [Filter.parameter, String.toList_append]
    rfl
  obtain ⟨s, text⟩ := word
  have operation : IsUnmarked f.operation.plain := by
    have known := known_of_text text
    rw [text, Value.plain]
    simp only [operationNames, List.mem_cons, List.not_mem_nil, or_false] at known
    rcases known with rfl | rfl | rfl <;> decide
  refine .of_parts ?_ (.append (by decide) field) ((operation.append (by decide)).append operand)
  rw [mark]
  exact ⟨by decide, by decide⟩

def clauseNames : List String := ["select", "skip", "take", "relations", "sort"]

theorem isQuiet_clause {name value : String} (known : name ∈ clauseNames)
    (free : IsUnmarked value) : Parameter.IsQuiet (name, value) := by
  have plain : ∀ n ∈ clauseNames, (n.toList.head? ≠ some 'a' ∧ n.toList.head? ≠ some 'A') ∧
      IsUnmarked n := by decide
  obtain ⟨first, unmarked⟩ := plain name known
  exact .of_parts first unmarked free

theorem isQuiet_of_gives {o : ListOptions} (unmarked : o.Unmarked) (given : o.Gives p) :
    p.IsQuiet := by
  have comma : IsUnmarked "," := by decide
  cases given with
  | @filter f own =>
      exact isQuiet_filter (unmarked.field f own) (unmarked.operation f own)
        (unmarked.operand f own)
  | select _ joined => exact isQuiet_clause (by decide) (.of_join comma unmarked.selections joined)
  | @skip page own =>
      exact isQuiet_clause (by decide) (.of_isCount (unmarked.pagination page own).1)
  | @take page own =>
      exact isQuiet_clause (by decide) (.of_isCount (unmarked.pagination page own).2)
  | relations _ joined =>
      exact isQuiet_clause (by decide) (.of_join comma unmarked.relations joined)
  | preset preset =>
      refine isQuiet_clause (by decide) ?_
      cases preset <;> decide
  | @sortBy order own =>
      refine isQuiet_clause (by decide) ((unmarked.sortBy order own).append ?_)
      cases order.desc.truthy <;> decide

theorem startsWithForms_text (quiet : p.IsQuiet) :
    startsWithForms markerForms p.text.toList = false := by
  rw [Parameter.toList_text]
  cases letters : p.1.toList with
  | nil => rfl
  | cons c cs =>
      have name := quiet.name
      rw [letters, List.head?_cons, ne_eq, ne_eq, Option.some.injEq, Option.some.injEq] at name
      simp [markerForms, startsWithForms, name.1, name.2]

theorem hideFrom_ampersand_text (quiet : p.IsQuiet) :
    hideFrom .outside ('&' :: p.text.toList) = '&' :: p.text.toList := by
  have plain : isMarker ('&' :: p.text.toList) = false := by
    rw [isMarker, startsWithForms_text quiet, Bool.and_false]
  have rest : hideFrom .outside p.text.toList = p.text.toList := by
    simpa only [List.append_nil, hideFrom] using
      hideFrom_unmarked quiet.unmarked.question quiet.unmarked.ampersand []
  rw [hideFrom, plain]
  exact congrArg ('&' :: ·) rest

theorem hideFrom_parametersText {ps : List Parameter} (quiet : ∀ p ∈ ps, p.IsQuiet) :
    hideFrom .outside (parametersText ps).toList = (parametersText ps).toList := by
  rw [toList_parametersText, hideFrom_flatMap]
  refine List.flatMap_congr fun cs member => ?_
  obtain ⟨p, hp, rfl⟩ := List.mem_map.mp member
  exact hideFrom_ampersand_text (quiet p hp)

end Quiet

theorem isFresh_parametersText (ps : List Parameter) : IsFresh (parametersText ps).toList := by
  rw [toList_parametersText]
  exact isFresh_flatMap _

/-- In a URL with such clauses nothing but the key is hidden. -/
theorem hideKey_append_parametersText {base key : String} (place : IsUnmarked base)
    (free : '&' ∉ key.toList) {ps : List Parameter} (quiet : ∀ p ∈ ps, p.IsQuiet) :
    hideKey (base ++ "?apiKey=" ++ key ++ parametersText ps) =
      base ++ "?apiKey=" ++ Redaction.hidden ++ parametersText ps := by
  have inKey : Phase.key.Fits key.toList := trivial
  rw [← String.toList_inj, hideKey, String.toList_ofList]
  simp only [String.toList_append, toList_keyMark, List.append_assoc]
  rw [hideFrom_unmarked place.question place.ampersand, hideFrom_outside_keyMark,
    hideFrom_append inKey (isFresh_parametersText ps), hideFrom_parametersText quiet]
  have swallowed : hideFrom .key key.toList = [] := by
    simpa only [List.append_nil, hideFrom] using hideFrom_key_append free []
  rw [swallowed]
  simp only [List.nil_append, List.append_assoc]

/-- Hiding the key of a URL and adding clauses to it can be done in either order. -/
theorem hideKey_queryUrl {base key : String} (place : IsUnmarked base) (free : '&' ∉ key.toList)
    {options : Option ListOptions} (unmarked : ∀ o ∈ options, o.Unmarked) :
    (queryUrl (base ++ "?apiKey=" ++ key) options).map hideKey =
      queryUrl (base ++ "?apiKey=" ++ Redaction.hidden) options := by
  cases options with
  | none =>
      have quiet : ∀ p ∈ ([] : List Parameter), p.IsQuiet := nofun
      have bare := hideKey_append_parametersText place free quiet
      rw [parametersText_nil, String.append_empty, String.append_empty] at bare
      exact congrArg Except.ok bare
  | some o =>
      rw [queryUrl, queryUrl, queryString_eq]
      cases given : o.parameters with
      | error f => rfl
      | ok ps =>
          refine congrArg Except.ok (hideKey_append_parametersText place free fun p member => ?_)
          exact isQuiet_of_gives (unmarked o rfl) (gives_of_mem_parameters given member)

def crowded : ListOptions where
  selections := .list [.text "title", .text "ID"]
  filters := some [⟨.text "apiKey", .text "EQ", .text "apiKey=0", by decide, by decide⟩,
    ⟨.text "tag", .text membership, .list [.text "a", .null], by decide, by decide⟩]
  relations := .tuple [.text "author"]
  sort := .text "latest_first"
  sortBy := some ⟨.text "createdAt", .bool true⟩
  pagination := some ⟨.int 5, .int 20⟩

theorem unmarked_crowded : crowded.Unmarked where
  field := by decide
  operation := by
    intro f member
    simp only [crowded, Option.getD_some, List.mem_cons, List.not_mem_nil, or_false] at member
    rcases member with rfl | rfl
    · exact ⟨"EQ", rfl⟩
    · exact ⟨membership, rfl⟩
  operand := by decide
  selections := by decide
  relations := by decide
  pagination := by
    rintro p ⟨⟩
    exact ⟨.int 5, .int 20⟩
  sortBy := by decide

/-- A key with a marker of its own goes, and a filter that reads like a key stays. -/
theorem crowded_hideKey_queryUrl :
    IsUnmarked "https://h/m" ∧ '&' ∉ "k?apiKey=0".toList ∧ (∀ o ∈ some crowded, o.Unmarked) ∧
      queryUrl ("https://h/m" ++ "?apiKey=" ++ "k?apiKey=0") (some crowded) =
        .ok ("https://h/m?apiKey=k?apiKey=0&$$apiKey=EQ||apiKey=0&$$tag=IN||a|&select=title,ID" ++
          "&skip=5&take=20&relations=author&sort=latest_first&sort=createdAt||desc") ∧
      (queryUrl ("https://h/m" ++ "?apiKey=" ++ "k?apiKey=0") (some crowded)).map hideKey =
        queryUrl ("https://h/m" ++ "?apiKey=" ++ Redaction.hidden) (some crowded) := by
  have place : IsUnmarked "https://h/m" := by decide
  have free : '&' ∉ "k?apiKey=0".toList := by decide
  have unmarked : ∀ o ∈ some crowded, o.Unmarked := by
    rintro o ⟨⟩
    exact unmarked_crowded
  exact ⟨place, free, unmarked, rfl, hideKey_queryUrl place free unmarked⟩

end DocSpace.Query
