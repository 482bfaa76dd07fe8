import DocSpace.Text.LetterCase
import Mathlib.Data.Nat.ModEq

set_option autoImplicit false

namespace DocSpace.Text

section Runs

variable {r s : CaseRun} {n m : Nat}

theorem CaseRun.moves_iff : r.apply? n = some m ↔
    (r.first ≤ n ∧ n ≤ r.last ∧ (n - r.first) % r.step = 0) ∧ ((n : Int) + r.shift).toNat = m := by
  rw [ CaseRun.apply?, Option.ite_none_right_eq_some, Option.some.injEq]

/-- A run without steps moves every letter from its first to its last. -/
theorem CaseRun.leaves_iff {first last : Nat} {shift : Int} :
    CaseRun.apply? ⟨first, last, 1, shift⟩ n = none ↔ ¬(first ≤ n ∧ n ≤ last) := by
  simp [ CaseRun.apply?, Nat.mod_one]

def CaseRun.lowest (r : CaseRun) : Nat := ((r.first : Int) + r.shift).toNat

/-- A bound on the letters that a run gives. -/
def CaseRun.highest (r : CaseRun) : Nat := ((r.last : Int) + r.shift).toNat

/-- Whether a run gives no letter of another: it ends before the other begins or begins after it
ends, or all it gives stands between the steps of the other. -/
def CaseRun.clears (r s : CaseRun) : Bool :=
  r.highest.blt s.first || s.last.blt r.lowest ||
    (r.step % s.step == 0 || r.lowest == r.highest) && r.lowest % s.step != s.first % s.step

/-- What a run gives is as many letters from the least as what it takes is from the first. -/
theorem CaseRun.modEq_lowest (natural : 0 ≤ (r.first : Int) + r.shift)
    (moved : r.apply? n = some m) : r.lowest ≤ m ∧ m ≤ r.highest ∧ r.lowest ≡ m [MOD r.step] := by
  obtain ⟨⟨first, last, steps⟩, rfl⟩ := CaseRun.moves_iff.mp moved
  have least : r.lowest ≤ ((n : Int) + r.shift).toNat := by
    rw [CaseRun.lowest]
    omega
  have distance : ((n : Int) + r.shift).toNat - r.lowest = n - r.first := by
    rw [CaseRun.lowest]
    omega
  refine ⟨least, by rw [CaseRun.highest]; omega, (Nat.modEq_iff_dvd' least).mpr ?_⟩
  rw [distance]
  exact Nat.dvd_of_mod_eq_zero steps

theorem CaseRun.leaves_of_clears (natural : 0 ≤ (r.first : Int) + r.shift)
    (clear : r.clears s = true) (moved : r.apply? n = some m) : s.apply? m = none := by
  rw [Option.eq_none_iff_forall_ne_some]
  intro k again
  obtain ⟨least, most, residue⟩ := CaseRun.modEq_lowest natural moved
  obtain ⟨⟨first, last, steps⟩, -⟩ := CaseRun.moves_iff.mp again
  have inside : s.first ≡ m [MOD s.step] :=
    (Nat.modEq_iff_dvd' first).mpr (Nat.dvd_of_mod_eq_zero steps)
  simp only [CaseRun.clears, Bool.or_eq_true, Bool.and_eq_true, Nat.blt_eq, beq_iff_eq,
    bne_iff_ne] at clear
  rcases clear with (before | after) | ⟨regular | single, between⟩
  · omega
  · omega
  · have coarse : r.lowest ≡ m [MOD s.step] := residue.of_dvd (Nat.dvd_of_mod_eq_zero regular)
    exact between (coarse.trans inside.symm)
  · have only : r.lowest = m := by omega
    exact between (only ▸ inside.symm)

/-- Whether no run of a table gives a letter that a run of another moves. -/
def CaseRun.AreClear (givers takers : List CaseRun) : Bool :=
  givers.all fun r => decide (0 ≤ (r.first : Int) + r.shift) && takers.all r.clears

/-- What a run gives, as a character, is moved by no run that it is clear of. -/
theorem CaseRun.leaves_ofNat {givers takers : List CaseRun}
    (clear : CaseRun.AreClear givers takers = true) (zero : ∀ s ∈ takers, s.apply? 0 = none)
    (member : r ∈ givers) (moved : r.apply? n = some m) :
    ∀ s ∈ takers, s.apply? (Char.ofNat m).toNat = none := by
  intro s other
  obtain ⟨natural, clears⟩ := (Bool.and_eq_true _ _).mp (List.all_eq_true.mp clear r member)
  by_cases valid : m.isValidChar
  · rw [Char.ofNat, dif_pos valid]
    exact CaseRun.leaves_of_clears (of_decide_eq_true natural)
      (List.all_eq_true.mp clears s other) moved
  · -- A number that is no character's is taken for the first one.
    rw [Char.ofNat, dif_neg valid]
    exact zero s other

end Runs

section Letters

def asciiCapitals : CaseRun := ⟨0x41, 0x5a, 1, 32⟩

/-- The dotted capital, moved to the letter without its dot above. -/
def dottedCapital : CaseRun := ⟨0x130, 0x130, 1, -199⟩

def capitals : List CaseRun := asciiCapitals :: dottedCapital :: lowerRuns.toList

theorem capitals_clear : CaseRun.AreClear capitals capitals = true := by
  decide +kernel

theorem lowerRuns_beyond_ascii : (lowerRuns.toList.all fun r => Nat.ble 0x80 r.first) = true := by
  decide

def IsSmall (c : Char) : Prop := ∀ r ∈ capitals, r.apply? c.toNat = none

instance (c : Char) : Decidable (IsSmall c) :=
  inferInstanceAs (Decidable (∀ r ∈ capitals, r.apply? c.toNat = none))

theorem isSmall_iff {c : Char} : IsSmall c ↔
    ¬(0x41 ≤ c.toNat ∧ c.toNat ≤ 0x5a) ∧ c.toNat ≠ 0x130 ∧
      ∀ r ∈ lowerRuns.toList, r.apply? c.toNat = none := by
  rw [IsSmall, capitals, List.forall_mem_cons, List.forall_mem_cons]
  refine and_congr ?_ (and_congr_left' ?_)
  · exact CaseRun.leaves_iff
  · have dotted : dottedCapital.apply? c.toNat = none ↔ _ := CaseRun.leaves_iff
    rw [dotted]
    omega

/-- What a capital is moved to is none. -/
theorem isSmall_ofNat {r : CaseRun} (member : r ∈ capitals) {n m : Nat}
    (moved : r.apply? n = some m) : IsSmall (Char.ofNat m) := by
  have first : IsSmall '\x00' := by decide +kernel
  exact CaseRun.leaves_ofNat capitals_clear first member moved

theorem toLower_ofNat : ∀ n < 0x80, (Char.ofNat n).toLower =
    if 0x41 ≤ n ∧ n ≤ 0x5a then Char.ofNat (n + 32) else Char.ofNat n := by
  decide

theorem isSmall_toLower {c : Char} (ascii : c.toNat < 0x80) : IsSmall c.toLower := by
  rw [← Char.ofNat_toNat c, toLower_ofNat _ ascii]
  split
  · next capital =>
      have moved : asciiCapitals.apply? c.toNat = some (c.toNat + 32) :=
        CaseRun.moves_iff.mpr ⟨⟨capital.1, capital.2, Nat.mod_one _⟩, rfl⟩
      exact isSmall_ofNat (List.mem_cons_self ..) moved
  · next other =>
      rw [Char.ofNat_toNat]
      refine isSmall_iff.mpr ⟨other, by omega, fun r member => ?_⟩
      have beyond := Nat.le_of_ble_eq_true (List.all_eq_true.mp lowerRuns_beyond_ascii r member)
      rw [ CaseRun.apply?, if_neg (by omega)]

theorem shifted?_eq_none {runs : Array CaseRun} {c : Char} :
    shifted? runs c = none ↔ ∀ r ∈ runs.toList, r.apply? c.toNat = none := by
  rw [shifted?, Option.map_eq_none_iff, ← Array.findSome?_toList, List.findSome?_eq_none_iff]

theorem isSmall_shifted? {c d : Char} (shifted : shifted? lowerRuns c = some d) : IsSmall d := by
  obtain ⟨m, found, rfl⟩ := Option.map_eq_some_iff.mp shifted
  rw [← Array.findSome?_toList] at found
  obtain ⟨r, member, moved⟩ := List.exists_of_findSome?_eq_some found
  exact isSmall_ofNat (List.mem_cons_of_mem _ (List.mem_cons_of_mem _ member)) moved

theorem isSmall_of_mem_lowerChar {c d : Char} (member : d ∈ lowerChar c) : IsSmall d := by
  unfold lowerChar at member
  split at member
  · next ascii =>
      obtain rfl := List.mem_singleton.mp member
      exact isSmall_toLower ascii
  · next beyond =>
      split at member
      · have parts : IsSmall 'i' ∧ IsSmall '\u0307' := by decide +kernel
        rw [List.mem_cons, List.mem_singleton] at member
        rcases member with rfl | rfl
        · exact parts.1
        · exact parts.2
      · next undotted =>
          rw [List.mem_singleton.mp member]
          cases shifted : shifted? lowerRuns c with
          | some m => exact isSmall_shifted? shifted
          | none =>
              rw [Option.getD_none]
              exact isSmall_iff.mpr ⟨by omega, fun dotted => undotted (Char.toNat_inj.mp dotted),
                shifted?_eq_none.mp shifted⟩

theorem lowerChar_of_isSmall {c : Char} (small : IsSmall c) : lowerChar c = [c] := by
  obtain ⟨noCapital, undotted, unmoved⟩ := isSmall_iff.mp small
  unfold lowerChar
  split
  · next ascii =>
      have unchanged := toLower_ofNat c.toNat ascii
      rw [if_neg noCapital, Char.ofNat_toNat] at unchanged
      rw [unchanged]
  · have other : c ≠ 'İ' := by
      rintro rfl
      exact undotted rfl
    rw [if_neg other, shifted?_eq_none.mpr unmoved, Option.getD_none]

theorem ne_sigma_of_isSmall {c : Char} (small : IsSmall c) : c ≠ 'Σ' := by
  rintro rfl
  exact absurd small (by decide +kernel)

end Letters

section Texts

theorem isSmall_of_mem_lowerAfter {before cs : List Char} {d : Char}
    (member : d ∈ lowerAfter before cs) : IsSmall d := by
  induction cs generalizing before with
  | nil => cases member
  | cons c cs ih =>
      rcases List.mem_append.mp member with own | later
      · split at own
        · have sigmas : IsSmall 'ς' ∧ IsSmall 'σ' := by decide +kernel
          obtain rfl := List.mem_singleton.mp own
          split
          · exact sigmas.1
          · exact sigmas.2
        · exact isSmall_of_mem_lowerChar own
      · exact ih later

theorem lowerAfter_eq_self {cs : List Char} (small : ∀ c ∈ cs, IsSmall c) (before : List Char) :
    lowerAfter before cs = cs := by
  induction cs generalizing before with
  | nil => rfl
  | cons c cs ih =>
      obtain ⟨first, rest⟩ := List.forall_mem_cons.mp small
      rw [lowerAfter, if_neg (ne_sigma_of_isSmall first), lowerChar_of_isSmall first, ih rest]
      rfl

/-- Lower case is in lower case. -/
theorem lower_lower (s : String) : lower (lower s) = lower s := by
  have small : ∀ c ∈ (lower s).toList, IsSmall c := by
    intro c member
    rw [lower, String.toList_ofList] at member
    exact isSmall_of_mem_lowerAfter member
  rw [lower, lowerAfter_eq_self small, String.ofList_toList]

end Texts

section Capitals

def asciiSmalls : CaseRun := ⟨0x61, 0x7a, 1, -32⟩

/-- Runs that give the capital of a small letter. -/
def raising : List CaseRun := asciiSmalls :: upperRuns.toList

def expanding : List CaseRun := upperExpansions.toList.map fun e => ⟨e.1, e.1, 1, 0⟩

theorem raising_clear : CaseRun.AreClear raising (raising ++ expanding) = true := by
  decide +kernel

theorem upper_beyond_ascii :
    (upperRuns.toList ++ expanding).all (fun r => Nat.ble 0x80 r.first) = true := by
  decide +kernel

def IsLarge (c : Char) : Prop := ∀ r ∈ raising ++ expanding, r.apply? c.toNat = none

instance (c : Char) : Decidable (IsLarge c) := List.decidableBAll _ _

theorem isLarge_iff {c : Char} : IsLarge c ↔
    ¬(0x61 ≤ c.toNat ∧ c.toNat ≤ 0x7a) ∧ (∀ r ∈ upperRuns.toList, r.apply? c.toNat = none) ∧
      ∀ e ∈ upperExpansions.toList, e.1 ≠ c.toNat := by
  rw [IsLarge, raising, List.cons_append, List.forall_mem_cons, List.forall_mem_append]
  refine and_congr CaseRun.leaves_iff (and_congr_right' ?_)
  rw [expanding, List.forall_mem_map]
  refine forall₂_congr fun e _ => ?_
  rw [CaseRun.leaves_iff]
  omega

/-- What a small letter is moved to is none. -/
theorem isLarge_ofNat {r : CaseRun} (member : r ∈ raising) {n m : Nat}
    (moved : r.apply? n = some m) : IsLarge (Char.ofNat m) := by
  have first : IsLarge '\x00' := by decide +kernel
  exact CaseRun.leaves_ofNat raising_clear first member moved

theorem isLarge_expansion :
    (upperExpansions.toList.all fun e => e.2.all fun n => decide (IsLarge (Char.ofNat n))) =
      true := by
  decide +kernel

theorem toUpper_ofNat : ∀ n < 0x80, (Char.ofNat n).toUpper =
    if 0x61 ≤ n ∧ n ≤ 0x7a then Char.ofNat (n - 32) else Char.ofNat n := by
  decide

theorem isLarge_of_ascii {c : Char} (ascii : c.toNat < 0x80)
    (other : ¬(0x61 ≤ c.toNat ∧ c.toNat ≤ 0x7a)) : IsLarge c := by
  intro r member
  rw [raising, List.cons_append] at member
  rcases List.mem_cons.mp member with rfl | member
  · exact CaseRun.leaves_iff.mpr other
  · have beyond := Nat.le_of_ble_eq_true (List.all_eq_true.mp upper_beyond_ascii r member)
    rw [ CaseRun.apply?, if_neg (by omega)]

theorem isLarge_toUpper {c : Char} (ascii : c.toNat < 0x80) : IsLarge c.toUpper := by
  rw [← Char.ofNat_toNat c, toUpper_ofNat _ ascii]
  split
  · next small =>
      have moved : asciiSmalls.apply? c.toNat = some (c.toNat - 32) := by
        refine CaseRun.moves_iff.mpr ⟨⟨small.1, small.2, Nat.mod_one _⟩, ?_⟩
        simp only [asciiSmalls]
        omega
      exact isLarge_ofNat List.mem_cons_self moved
  · next other =>
      rw [Char.ofNat_toNat]
      exact isLarge_of_ascii ascii other

theorem isLarge_of_mem_upperChar {c d : Char} (member : d ∈ upperChar c) : IsLarge d := by
  unfold upperChar at member
  split at member
  · next ascii =>
      rw [List.mem_singleton.mp member]
      exact isLarge_toUpper ascii
  · next beyond =>
      split at member
      · next e found =>
          obtain ⟨n, own, rfl⟩ := List.mem_map.mp member
          have known : e ∈ upperExpansions.toList :=
            Array.mem_toList_iff.mpr (Array.mem_of_find?_eq_some found)
          have each := List.all_eq_true.mp isLarge_expansion e known
          exact of_decide_eq_true (List.all_eq_true.mp each n own)
      · next single =>
          rw [List.mem_singleton.mp member]
          cases shifted : shifted? upperRuns c with
          | some m =>
              obtain ⟨m, found, rfl⟩ := Option.map_eq_some_iff.mp shifted
              rw [← Array.findSome?_toList] at found
              obtain ⟨r, run, moved⟩ := List.exists_of_findSome?_eq_some found
              exact isLarge_ofNat (List.mem_cons_of_mem _ run) moved
          | none =>
              rw [Option.getD_none]
              refine isLarge_iff.mpr ⟨by omega, shifted?_eq_none.mp shifted, fun e known => ?_⟩
              have other := Array.find?_eq_none.mp single e (Array.mem_toList_iff.mp known)
              simpa using other

theorem upperChar_of_isLarge {c : Char} (large : IsLarge c) : upperChar c = [c] := by
  obtain ⟨noSmall, unmoved, single⟩ := isLarge_iff.mp large
  unfold upperChar
  split
  · next ascii =>
      have unchanged := toUpper_ofNat c.toNat ascii
      rw [if_neg noSmall, Char.ofNat_toNat] at unchanged
      rw [unchanged]
  · have none_found : upperExpansions.find? (fun e => e.1 == c.toNat) = none := by
      rw [Array.find?_eq_none]
      intro e known
      simpa using single e (Array.mem_toList_iff.mpr known)
    rw [none_found]
    simp only [shifted?_eq_none.mpr unmoved, Option.getD_none]

theorem upper_append (s t : String) : upper (s ++ t) = upper s ++ upper t := by
  simp only [upper, String.toList_append, List.flatMap_append, String.ofList_append]

/-- Upper case is in upper case. -/
theorem upper_upper (s : String) : upper (upper s) = upper s := by
  have large : ∀ c ∈ (upper s).toList, IsLarge c := by
    intro d member
    rw [upper, String.toList_ofList] at member
    obtain ⟨c, _, own⟩ := List.mem_flatMap.mp member
    exact isLarge_of_mem_upperChar own
  have same : (upper s).toList.flatMap upperChar = (upper s).toList := by
    rw [List.flatMap_def, List.map_congr_left fun c member => upperChar_of_isLarge (large c member),
      ← List.flatMap_def, List.flatMap_singleton']
  rw [upper, same, String.ofList_toList]

end Capitals

end DocSpace.Text
