import DocSpace.Text.Pieces

set_option autoImplicit false

namespace DocSpace.Text

variable {sep : Char}

theorem pieces_of_not_mem {cs : List Char} (free : sep ∉ cs) : pieces sep cs = [cs] := by
  induction cs with
  | nil => rfl
  | cons c cs ih =>
      rw [List.mem_cons, not_or] at free
      have other : c ≠ sep := fun equal => free.1 equal.symm
      simp only [pieces, other, ↓reduceIte, ih free.2]

theorem pieces_append {cs : List Char} (free : sep ∉ cs) (rest : List Char) :
    pieces sep (cs ++ sep :: rest) = cs :: pieces sep rest := by
  induction cs with
  | nil => simp only [List.nil_append, pieces, ↓reduceIte]
  | cons c cs ih =>
      rw [List.mem_cons, not_or] at free
      have other : c ≠ sep := fun equal => free.1 equal.symm
      simp only [List.cons_append, pieces, other, ↓reduceIte, ih free.2]

theorem pieces_flatMap {cs : List Char} (free : sep ∉ cs) (ps : List (List Char))
    (each : ∀ p ∈ ps, sep ∉ p) :
    pieces sep (cs ++ ps.flatMap (sep :: ·)) = cs :: ps := by
  induction ps generalizing cs with
  | nil => simpa only [List.flatMap_nil, List.append_nil] using pieces_of_not_mem free
  | cons p ps ih =>
      rw [List.flatMap_cons, List.cons_append, pieces_append free,
        ih (each p List.mem_cons_self) (fun q hq => each q (List.mem_cons_of_mem p hq))]

/-- A text is its pieces, each but the first behind a separator. -/
theorem exists_pieces (sep : Char) (cs : List Char) :
    ∃ p ps, pieces sep cs = p :: ps ∧ cs = p ++ ps.flatMap (sep :: ·) ∧ sep ∉ p ∧
      ∀ q ∈ ps, sep ∉ q := by
  induction cs with
  | nil => exact ⟨[], [], rfl, rfl, List.not_mem_nil, nofun⟩
  | cons c cs ih =>
      obtain ⟨p, ps, cut, whole, free, others⟩ := ih
      by_cases same : c = sep
      · refine ⟨[], p :: ps, ?_, ?_, List.not_mem_nil, List.forall_mem_cons.mpr ⟨free, others⟩⟩
        · simp only [pieces, same, ↓reduceIte, cut]
        · rw [List.nil_append, List.flatMap_cons, List.cons_append, same, ← whole]
      · refine ⟨c :: p, ps, ?_, ?_, ?_, others⟩
        · simp only [pieces, same, ↓reduceIte, cut]
        · rw [List.cons_append, ← whole]
        · exact List.not_mem_cons_of_ne_of_not_mem (Ne.symm same) free

theorem not_mem_of_mem_pieces {cs p : List Char} (member : p ∈ pieces sep cs) : sep ∉ p := by
  obtain ⟨q, qs, cut, _, free, others⟩ := exists_pieces sep cs
  rw [cut] at member
  rcases List.mem_cons.mp member with rfl | later
  · exact free
  · exact others p later

theorem toList_joined_cons {sepText : String} (single : sepText.toList = [sep])
    (s : String) (ss : List String) :
    (joined sepText (s :: ss)).toList =
      s.toList ++ (ss.map String.toList).flatMap (sep :: ·) := by
  induction ss generalizing s with
  | nil => simp only [joined, List.map_nil, List.flatMap_nil, List.append_nil]
  | cons t ts ih =>
      simp only [joined, String.toList_append, single, ih, List.map_cons, List.flatMap_cons,
        List.append_assoc, List.cons_append, List.nil_append]

theorem pieces_joined {sepText : String} (single : sepText.toList = [sep])
    {ss : List String} (some_text : ss ≠ []) (each : ∀ s ∈ ss, sep ∉ s.toList) :
    pieces sep (joined sepText ss).toList = ss.map String.toList := by
  cases ss with
  | nil => exact absurd rfl some_text
  | cons s ss =>
      rw [toList_joined_cons single, pieces_flatMap (each s List.mem_cons_self), List.map_cons]
      intro p hp
      obtain ⟨t, ht, rfl⟩ := List.mem_map.mp hp
      exact each t (List.mem_cons_of_mem s ht)

theorem joined_cons_of_ne_nil (sep s : String) {ss : List String} (more : ss ≠ []) :
    joined sep (s :: ss) = s ++ sep ++ joined sep ss := by
  cases ss with
  | nil => exact absurd rfl more
  | cons t ts => rfl

/-- What stands around one of several texts does not depend on it. -/
theorem joined_around (sep : String) (ss ts : List String) :
    ∃ before after, ∀ s, joined sep (ss ++ s :: ts) = before ++ s ++ after := by
  induction ss with
  | nil =>
      cases ts with
      | nil => exact ⟨"", "", fun s => by rw [String.empty_append, String.append_empty]; rfl⟩
      | cons t ts =>
          refine ⟨"", sep ++ joined sep (t :: ts), fun s => ?_⟩
          rw [String.empty_append, ← String.append_assoc]
          rfl
  | cons t ss ih =>
      obtain ⟨before, after, same⟩ := ih
      refine ⟨t ++ sep ++ before, after, fun s => ?_⟩
      rw [List.cons_append, joined_cons_of_ne_nil sep t (by simp), same]
      simp only [String.append_assoc]

/-- Texts without the separator can be told apart behind it. -/
theorem joined_injective {sepText : String} (single : sepText.toList = [sep])
    {ss ts : List String} (some_left : ss ≠ []) (some_right : ts ≠ [])
    (left : ∀ s ∈ ss, sep ∉ s.toList) (right : ∀ t ∈ ts, sep ∉ t.toList)
    (equal : joined sepText ss = joined sepText ts) : ss = ts := by
  have cut := congrArg (fun s : String => pieces sep s.toList) equal
  simp only [pieces_joined single some_left left, pieces_joined single some_right right] at cut
  exact (List.map_inj_right fun _ _ same => String.toList_injective same).mp cut

/-- A join holds nothing but its texts and the separator. -/
theorem not_mem_joined {sepText : String} {c : Char} (other : c ∉ sepText.toList)
    {ss : List String} (each : ∀ s ∈ ss, c ∉ s.toList) : c ∉ (joined sepText ss).toList := by
  induction ss with
  | nil => simp [joined]
  | cons s ss ih =>
      have rest := ih (fun t ht => each t (List.mem_cons_of_mem s ht))
      cases ss with
      | nil => exact each s List.mem_cons_self
      | cons t ts =>
          simp only [joined, String.toList_append, List.mem_append, not_or]
          exact ⟨⟨each s List.mem_cons_self, other⟩, rest⟩

/-- The first separator ends the left part, so what it ends is determined. -/
theorem append_cons_injective {as bs cs ds : List Char} (left : sep ∉ as) (right : sep ∉ cs)
    (equal : as ++ sep :: bs = cs ++ sep :: ds) : as = cs ∧ bs = ds := by
  induction as generalizing cs with
  | nil =>
      cases cs with
      | nil => exact ⟨rfl, (List.cons.inj equal).2⟩
      | cons c cs =>
          have first : sep = c := (List.cons.inj equal).1
          exact absurd (first ▸ List.mem_cons_self) right
  | cons a as ih =>
      rw [List.mem_cons, not_or] at left
      cases cs with
      | nil => exact absurd (List.cons.inj equal).1.symm left.1
      | cons c cs =>
          rw [List.mem_cons, not_or] at right
          obtain ⟨first, rest⟩ := List.cons.inj equal
          obtain ⟨front, back⟩ := ih left.2 right.2 rest
          exact ⟨by rw [first, front], back⟩

end DocSpace.Text
