import DocSpace.Named
import Mathlib.Data.List.Forall2

set_option autoImplicit false

namespace DocSpace

namespace Named

variable {α : Type}

def names (es : Named α) : List String := es.map (·.1)

theorem contains_iff {es : Named α} {k : String} : es.contains k = true ↔ k ∈ es.names := by
  simp only [contains, names, List.any_eq_true, decide_eq_true_eq, List.mem_map]

theorem get?_isSome {es : Named α} {k : String} :
    (es.get? k).isSome = es.contains k := by
  rw [Bool.eq_iff_iff, get?, Option.isSome_map, List.find?_isSome, contains, List.any_eq_true]

theorem mem_names_insert {es : Named α} {k : String} {v : α} {n : String} :
    n ∈ (es.insert k v).names ↔ n = k ∨ n ∈ es.names := by
  induction es with
  | nil => simp [insert, names]
  | cons e es ih =>
      obtain ⟨k', v'⟩ := e
      unfold insert
      split
      · next same => simp [names, same]
      · simp only [names, List.map_cons, List.mem_cons] at ih ⊢
        rw [ih, or_left_comm]

theorem names_insert (es : Named α) (k : String) (v : α) :
    (es.insert k v).names = if k ∈ es.names then es.names else es.names ++ [k] := by
  induction es with
  | nil => rfl
  | cons e es ih =>
      obtain ⟨k', v'⟩ := e
      unfold insert
      split
      · next same => simp [names, same]
      · next other =>
          have apart : k ≠ k' := Ne.symm other
          simp only [names, List.map_cons, List.mem_cons, apart, false_or] at ih ⊢
          rw [ih]
          by_cases present : k ∈ es.map (·.1) <;> simp [present]

theorem nodup_names_concat {es : Named α} (distinct : es.names.Nodup) {k : String}
    (absent : k ∉ es.names) : (es.names ++ [k]).Nodup := by
  rw [List.nodup_append]
  refine ⟨distinct, by simp, fun n member n' single => ?_⟩
  rw [List.mem_singleton.mp single]
  rintro rfl
  exact absent member

theorem nodup_names_insert {es : Named α} (distinct : es.names.Nodup) (k : String) (v : α) :
    (es.insert k v).names.Nodup := by
  rw [names_insert]
  split
  · exact distinct
  · next absent => exact nodup_names_concat distinct absent

theorem nodup_names_insertAll {es : Named α} (distinct : es.names.Nodup) (more : Named α) :
    (es.insertAll more).names.Nodup := by
  unfold insertAll
  induction more generalizing es with
  | nil => exact distinct
  | cons e more ih => exact ih (nodup_names_insert distinct e.1 e.2)

theorem nodup_names_filter {es : Named α} (distinct : es.names.Nodup) (keeps : String × α → Bool) :
    (names (es.filter keeps)).Nodup := List.Nodup.sublist (List.filter_sublist.map _) distinct

theorem mem_names_insertAll {es more : Named α} {n : String} :
    n ∈ (es.insertAll more).names ↔ n ∈ es.names ∨ n ∈ more.names := by
  unfold insertAll
  induction more generalizing es with
  | nil => simp [names]
  | cons e more ih =>
      rw [List.foldl_cons, ih, mem_names_insert]
      simp only [names, List.map_cons, List.mem_cons]
      rw [or_comm (a := n = e.1), or_assoc]

theorem nodup_names_insertNew {es : Named α} (distinct : es.names.Nodup) (k : String) (v : α) :
    (es.insertNew k v).names.Nodup := by
  unfold insertNew
  split
  · exact distinct
  · next absent =>
      rw [contains_iff] at absent
      have split : (es ++ [(k, v)]).names = es.names ++ [k] := List.map_append
      exact split ▸ nodup_names_concat distinct absent

theorem mem_names_insertNew {es : Named α} {k : String} {v : α} {n : String} :
    n ∈ (es.insertNew k v).names ↔ n ∈ es.names ∨ n = k := by
  unfold insertNew
  split
  · next present =>
      exact ⟨Or.inl, fun either => either.elim id fun same => same ▸ contains_iff.mp present⟩
  · simp [names]

theorem count_names_insert_of_ne {es : Named α} {k n : String} (other : n ≠ k) (v : α) :
    (es.insert k v).names.count n = es.names.count n := by
  induction es with
  | nil =>
      have absent : n ∉ [k] := fun member => other (List.mem_singleton.mp member)
      exact List.count_eq_zero_of_not_mem absent
  | cons e es ih =>
      unfold insert
      split
      · next same => simp only [names, List.map_cons, same]
      · simp only [names, List.map_cons, List.count_cons] at ih ⊢
        rw [ih]

theorem count_names_insertNew_le {es : Named α} {n : String} (once : es.names.count n ≤ 1)
    (k : String) (v : α) : (es.insertNew k v).names.count n ≤ 1 := by
  unfold insertNew
  split
  · exact once
  · next absent =>
      rw [contains_iff] at absent
      have split : (es ++ [(k, v)]).names = es.names ++ [k] := List.map_append
      rw [split, List.count_append, List.count_singleton]
      split
      · next same =>
          have none_yet := List.count_eq_zero_of_not_mem absent
          rw [← beq_iff_eq.mp same]
          omega
      · exact once

theorem get?_cons (e : String × α) (es : Named α) (n : String) :
    get? (e :: es) n = if e.1 = n then some e.2 else es.get? n := by
  simp only [get?, List.find?_cons]
  by_cases same : e.1 = n <;> simp [same]

theorem get?_eq_none {es : Named α} {n : String} : es.get? n = none ↔ n ∉ es.names := by
  rw [← contains_iff, ← get?_isSome, Bool.not_eq_true, Option.isSome_eq_false_iff,
    Option.isNone_iff_eq_none]

theorem mem_of_get?_eq_some {es : Named α} {n : String} {v : α} (found : es.get? n = some v) :
    (n, v) ∈ es := by
  induction es with
  | nil => cases found
  | cons e es ih =>
      rw [get?_cons] at found
      split at found
      · next same =>
          obtain rfl := Option.some.inj found
          exact same ▸ List.mem_cons_self
      · exact List.mem_cons_of_mem e (ih found)

theorem get?_insert_self (es : Named α) (k : String) (v : α) : (es.insert k v).get? k = some v := by
  induction es with
  | nil => simp [insert, get?_cons]
  | cons e es ih =>
      obtain ⟨k', v'⟩ := e
      unfold insert
      split
      · simp only [get?_cons, ↓reduceIte]
      · next other => simp only [get?_cons, other, ↓reduceIte, ih]

theorem get?_insert_of_ne {es : Named α} {k n : String} (other : n ≠ k) (v : α) :
    (es.insert k v).get? n = es.get? n := by
  induction es with
  | nil => simp only [insert, get?_cons, Ne.symm other, ↓reduceIte]
  | cons e es ih =>
      unfold insert
      split
      · next same => simp only [get?_cons, same, Ne.symm other, ↓reduceIte]
      · simp only [get?_cons, ih]

theorem eq_or_mem_of_mem_insert {es : Named α} {k : String} {v : α} {e : String × α}
    (member : e ∈ es.insert k v) : e = (k, v) ∨ e ∈ es := by
  induction es with
  | nil => exact Or.inl (List.mem_singleton.mp member)
  | cons f es ih =>
      unfold insert at member
      split at member
      · exact (List.mem_cons.mp member).imp_right (List.mem_cons_of_mem f)
      · rcases List.mem_cons.mp member with rfl | rest
        · exact Or.inr List.mem_cons_self
        · exact (ih rest).imp_right (List.mem_cons_of_mem f)

/-- What is made of the values is made of the value that is put in. -/
theorem map_insert {β : Type} (f : α → β) (es : Named α) (k : String) (v : α) :
    (es.insert k v).map (fun e => (e.1, f e.2)) =
      Named.insert (es.map fun e => (e.1, f e.2)) k (f v) := by
  induction es with
  | nil => rfl
  | cons e es ih =>
      unfold insert
      split
      · next same => simp only [List.map_cons, same, ↓reduceIte]
      · next other => simp only [List.map_cons, other, ↓reduceIte, ih]

theorem get?_append (es gs : Named α) (n : String) :
    get? (es ++ gs) n = (es.get? n).or (gs.get? n) := by
  rw [get?, List.find?_append, Option.map_or, get?, get?]

theorem get?_insertNew (es : Named α) (k n : String) (v : α) :
    (es.insertNew k v).get? n = (es.get? n).or (get? [(k, v)] n) := by
  unfold insertNew
  split
  · next present =>
      by_cases same : k = n
      · rw [Option.or_of_isSome]
        rw [get?_isSome, ← same, present]
      · rw [get?_cons, if_neg same]
        exact (Option.or_none).symm
  · exact get?_append es _ n

theorem forall_mem_insert {P : α → Prop} {es : Named α} (each : ∀ e ∈ es, P e.2) (k : String)
    {v : α} (own : P v) : ∀ e ∈ es.insert k v, P e.2 := by
  induction es with
  | nil => exact List.forall_mem_singleton.mpr own
  | cons e es ih =>
      obtain ⟨head, tail⟩ := List.forall_mem_cons.mp each
      unfold insert
      split
      · exact List.forall_mem_cons.mpr ⟨own, tail⟩
      · exact List.forall_mem_cons.mpr ⟨head, ih tail⟩

theorem forall_mem_insertAll {P : α → Prop} {es more : Named α} (each : ∀ e ∈ es, P e.2)
    (others : ∀ e ∈ more, P e.2) : ∀ e ∈ es.insertAll more, P e.2 := by
  unfold insertAll
  induction more generalizing es with
  | nil => exact each
  | cons e more ih =>
      obtain ⟨head, tail⟩ := List.forall_mem_cons.mp others
      exact ih (forall_mem_insert each e.1 head) tail

theorem forall_mem_insertNew {P : α → Prop} {es : Named α} (each : ∀ e ∈ es, P e.2) (k : String)
    {v : α} (own : P v) : ∀ e ∈ es.insertNew k v, P e.2 := by
  unfold insertNew
  split
  · exact each
  · exact List.forall_mem_append.mpr ⟨each, List.forall_mem_singleton.mpr own⟩

/-- The same names in one order, with the same values but where `q` holds. -/
def Alike (q : String → Prop) (es gs : Named α) : Prop :=
  List.Forall₂ (fun e g => e.1 = g.1 ∧ (q e.1 ∨ e.2 = g.2)) es gs

namespace Alike

variable {q : String → Prop} {es gs : Named α}

theorem refl (q : String → Prop) (es : Named α) : Alike q es es :=
  List.forall₂_same.mpr fun _ _ => ⟨rfl, Or.inr rfl⟩

theorem names_eq (alike : Alike q es gs) : es.names = gs.names := by
  induction alike with
  | nil => rfl
  | cons head _ ih => simp only [names, List.map_cons, head.1] at ih ⊢; rw [ih]

theorem contains_eq (alike : Alike q es gs) (k : String) : es.contains k = gs.contains k := by
  rw [Bool.eq_iff_iff, contains_iff, contains_iff, alike.names_eq]

theorem get?_eq (alike : Alike q es gs) {k : String} (free : ¬q k) : es.get? k = gs.get? k := by
  induction alike with
  | nil => rfl
  | cons head _ ih =>
      obtain ⟨name, value⟩ := head
      rw [get?_cons, get?_cons, ← name, ih]
      split
      · next same => rw [value.resolve_left (same ▸ free)]
      · rfl

theorem mono (alike : Alike q es gs) {q' : String → Prop} (weaker : ∀ n ∈ es.names, q n → q' n) :
    Alike q' es gs := by
  induction alike with
  | nil => exact .nil
  | cons head _ ih =>
      obtain ⟨own, others⟩ := List.forall_mem_cons.mp weaker
      exact .cons ⟨head.1, head.2.imp_left own⟩ (ih others)

theorem insert (alike : Alike q es gs) {k : String} {v w : α} (same : q k ∨ v = w) :
    Alike q (es.insert k v) (gs.insert k w) := by
  induction alike with
  | nil => exact .cons ⟨rfl, same⟩ .nil
  | @cons e g es gs head tail ih =>
      unfold Named.insert
      rw [← head.1]
      split
      · exact .cons ⟨rfl, same⟩ tail
      · exact .cons ⟨rfl, head.2⟩ ih

theorem insertAll (alike : Alike q es gs) {more more' : Named α} (added : Alike q more more') :
    Alike q (es.insertAll more) (gs.insertAll more') := by
  unfold Named.insertAll
  induction added generalizing es gs with
  | nil => exact alike
  | cons head _ ih =>
      rw [List.foldl_cons, List.foldl_cons, ← head.1]
      exact ih (alike.insert head.2)

theorem insertNew (alike : Alike q es gs) {k : String} {v w : α}
    (same : k ∉ es.names → q k ∨ v = w) : Alike q (es.insertNew k v) (gs.insertNew k w) := by
  unfold Named.insertNew
  rw [← alike.contains_eq]
  split
  · exact alike
  · next absent =>
      rw [contains_iff] at absent
      exact List.rel_append alike (.cons ⟨rfl, same absent⟩ .nil)

/-- A value that is put under a name is the same, if the name is there only once. -/
theorem settle (alike : Alike q es gs) {k : String} (once : q k → es.names.count k ≤ 1) (v : α) :
    Alike (fun n => q n ∧ n ≠ k) (es.insert k v) (gs.insert k v) := by
  induction alike with
  | nil => exact refl _ _
  | @cons e g es gs head tail ih =>
      have count : (names (e :: es)).count k = (names es).count k + if e.1 == k then 1 else 0 :=
        List.count_cons
      rw [count] at once
      unfold Named.insert
      rw [← head.1]
      split
      · next same =>
          have rest : Alike (fun n => q n ∧ n ≠ k) es gs := by
            refine mono (q := q) tail fun n member held => ⟨held, ?_⟩
            rintro rfl
            have more := List.count_pos_iff.mpr member
            have bound := once held
            rw [beq_iff_eq.mpr same, if_pos rfl] at bound
            omega
          exact .cons ⟨rfl, Or.inr rfl⟩ rest
      · next other =>
          refine .cons ⟨rfl, head.2.imp_left fun held => ⟨held, other⟩⟩ (ih fun held => ?_)
          exact Nat.le_trans (Nat.le_add_right _ _) (once held)

theorem filter_eq (alike : Alike q es gs) (drops : String → Bool)
    (dropped : ∀ n, q n → drops n = true) :
    es.filter (fun e => !drops e.1) = gs.filter (fun g => !drops g.1) := by
  induction alike with
  | nil => rfl
  | @cons e g es gs head _ ih =>
      obtain ⟨name, value⟩ := head
      rw [List.filter_cons, List.filter_cons, ← name, ih]
      cases drop : drops e.1 with
      | true => rfl
      | false =>
          have same : e = g :=
            Prod.ext name (value.resolve_left fun held => by simp [dropped _ held] at drop)
          rw [same]

end Alike

end Named

end DocSpace
