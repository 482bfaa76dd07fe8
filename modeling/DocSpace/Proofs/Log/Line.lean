import DocSpace.Log.Line
import DocSpace.Proofs.Json.Encode
import DocSpace.Proofs.Named
import DocSpace.Proofs.Redaction.Fields

set_option autoImplicit false

namespace DocSpace.Log

open Redaction

/-- The same but for values under names that the policy covers. -/
def Secretly (p : Policy) (fs gs : Fields) : Prop :=
  Named.Alike (fun n => p.covers n = true) fs gs

def AreStringKeyed (fs : Fields) : Prop := ∀ f ∈ fs, Value.isStringKeyed f.2 = true

variable {p : Policy} {fs gs hs : Fields}

namespace AreStringKeyed

theorem insert (keyed : AreStringKeyed fs) (n : String) {v : Value}
    (own : v.isStringKeyed = true) : AreStringKeyed (fs.insert n v) :=
  Named.forall_mem_insert (P := fun v : Value => v.isStringKeyed = true) keyed n own

theorem insertAll (keyed : AreStringKeyed fs) (others : AreStringKeyed gs) :
    AreStringKeyed (fs.insertAll gs) :=
  Named.forall_mem_insertAll (P := fun v : Value => v.isStringKeyed = true) keyed others

theorem insertNew (keyed : AreStringKeyed fs) (n : String) {v : Value}
    (own : v.isStringKeyed = true) : AreStringKeyed (fs.insertNew n v) :=
  Named.forall_mem_insertNew (P := fun v : Value => v.isStringKeyed = true) keyed n own

end AreStringKeyed

theorem hideFields_cons (p : Policy) (n : String) (v : Value) (fs : Fields) :
    hideFields p ((n, v) :: fs) =
      (if p.covers n then .ok hiddenValue else hideInside p (.text n) v).bind fun w =>
        (hideFields p fs).map fun hs => (n, w) :: hs := by
  unfold hideFields
  rw [List.mapM_cons]
  cases covered : p.covers n with
  | true =>
      simp only [covered, ↓reduceIte]
      rfl
  | false =>
      simp only [covered, Bool.false_eq_true, ↓reduceIte]
      cases hideInside p (.text n) v <;> rfl

/-- What is hidden leaves no trace. -/
theorem hideFields_eq (alike : Secretly p fs gs) : hideFields p fs = hideFields p gs := by
  induction alike with
  | nil => rfl
  | @cons f g fs gs head _ ih =>
      obtain ⟨n, v⟩ := f
      obtain ⟨n', w⟩ := g
      obtain ⟨names, values⟩ := head
      obtain rfl : n = n' := names
      rw [hideFields_cons, hideFields_cons, ih]
      rcases values with covered | same
      · rw [if_pos covered, if_pos covered]
      · rw [show v = w from same]

theorem names_hideFields (run : hideFields p fs = .ok hs) : hs.names = fs.names := by
  induction fs generalizing hs with
  | nil => exact Except.ok.inj run ▸ rfl
  | cons f fs ih =>
      rw [hideFields_cons] at run
      obtain ⟨w, _, run⟩ := bind_eq_ok.mp run
      obtain ⟨rest, others, rfl⟩ := map_eq_ok.mp run
      exact congrArg (f.1 :: ·) (ih others)

/-- What holds of every value once it is hidden, and of what stands for a sensitive one, holds of
the fields. -/
theorem exists_hideFields {P : Value → Prop} (mask : P hiddenValue)
    (each : ∀ f ∈ fs, ∃ w, hideInside p (.text f.1) f.2 = .ok w ∧ P w) :
    ∃ hs, hideFields p fs = .ok hs ∧ ∀ f ∈ hs, P f.2 := by
  induction fs with
  | nil => exact ⟨[], rfl, fun f member => absurd member List.not_mem_nil⟩
  | cons f fs ih =>
      obtain ⟨⟨w, inside, shown⟩, others⟩ := List.forall_mem_cons.mp each
      obtain ⟨hs, run, rest⟩ := ih others
      rw [hideFields_cons, run, inside]
      cases p.covers f.1 with
      | true => exact ⟨(f.1, hiddenValue) :: hs, rfl, List.forall_mem_cons.mpr ⟨mask, rest⟩⟩
      | false => exact ⟨(f.1, w) :: hs, rfl, List.forall_mem_cons.mpr ⟨shown, rest⟩⟩

theorem hideFields_ok (p : Policy) (keyed : AreStringKeyed fs) :
    ∃ hs, hideFields p fs = .ok hs ∧ AreStringKeyed hs := by
  have mask : hiddenValue.isStringKeyed = true := rfl
  exact exists_hideFields mask fun f member => hideInside_ok p (.text f.1) f.2 (keyed f member)

section Context

variable {q : String → Prop} {context context' : Fields}

theorem get?_addContext (context fs : Fields) (n : String) :
    (addContext context fs).get? n = (fs.get? n).or (context.get? n) := by
  unfold addContext
  induction context generalizing fs with
  | nil => exact Option.or_none.symm
  | cons c context ih =>
      rw [List.foldl_cons, ih, Named.get?_insertNew, Option.or_assoc, ← Named.get?_append]
      rfl

theorem count_names_addContext_le {n : String} (once : fs.names.count n ≤ 1) (context : Fields) :
    (addContext context fs).names.count n ≤ 1 := by
  unfold addContext
  induction context generalizing fs with
  | nil => exact once
  | cons c context ih => exact ih (Named.count_names_insertNew_le once c.1 c.2)

theorem areStringKeyed_addContext (keyed : AreStringKeyed fs) (others : AreStringKeyed context) :
    AreStringKeyed (addContext context fs) := by
  unfold addContext
  induction context generalizing fs with
  | nil => exact keyed
  | cons c context ih =>
      obtain ⟨own, rest⟩ := List.forall_mem_cons.mp others
      exact ih (keyed.insertNew c.1 own) rest

/-- Secrets of a context come out only under names that the event has not. -/
theorem addContext_alike (secretly : Secretly p context context') (alike : Named.Alike q fs gs)
    (surfaces : ∀ n ∈ context.names, p.covers n = true → n ∉ fs.names → q n) :
    Named.Alike q (addContext context fs) (addContext context' gs) := by
  unfold addContext
  induction secretly generalizing fs gs with
  | nil => exact alike
  | @cons c c' context context' head _ ih =>
      rw [List.foldl_cons, List.foldl_cons, ← head.1]
      obtain ⟨own, others⟩ := List.forall_mem_cons.mp surfaces
      refine ih (alike.insertNew fun absent => head.2.imp_left fun covered => own covered absent)
        fun n member covered absent => others n member covered fun present => absent ?_
      exact Named.mem_names_insertNew.mpr (Or.inl present)

end Context

section Stack

variable {q : String → Prop}

/-- Whether a line shows the calls under way. Secrets are hidden before they are asked for. -/
def showsStack (p : Policy) (context fs : Fields) : Bool :=
  match hideFields p fs with
  | .ok hs => asksForStack (addContext context hs)
  | .error _ => false

theorem showsStack_eq (run : hideFields p fs = .ok hs) (context : Fields) :
    showsStack p context fs = asksForStack (addContext context hs) := by
  rw [showsStack, run]

theorem asksForStack_insert {n : String} (other : stackRequest ≠ n) (v : Value) (fs : Fields) :
    asksForStack (fs.insert n v) = asksForStack fs := by
  rw [asksForStack, asksForStack, Named.get?_insert_of_ne other]

/-- A stack that is shown replaces any other, and one that is not leaves the fields as they are. -/
theorem addStack_alike (alike : Named.Alike q fs gs)
    (once : q stackField → fs.names.count stackField ≤ 1)
    (same : asksForStack fs = asksForStack gs) (stack : String) :
    Named.Alike (fun n => q n ∧ (n = stackField → asksForStack fs = false)) (addStack stack fs)
      (addStack stack gs) := by
  rw [addStack, addStack, ← same]
  cases asks : asksForStack fs with
  | true =>
      have settled := alike.settle once (.text stack)
      exact settled.mono fun n _ held => ⟨held.1, fun stacked => absurd stacked held.2⟩
  | false => exact alike.mono fun n _ held => ⟨held, fun _ => rfl⟩

end Stack

/-- The fields of a line, once its logger's name is known. -/
def arrange (level : Level) (stack : String) (all : Fields) (name : Value) : Fields :=
  (addStack stack ((all.insert "logger" name).insert "level" (.text level.word))).filter fun f =>
    !reserved.contains f.1

theorem lineFields_eq_map (logger : String) (level : Level) (stack : String)
    (context fs : Fields) :
    lineFields logger level stack context fs =
      (nameIn logger (addContext context fs)).map
        (arrange level stack (addContext context fs)) := by
  rw [lineFields]
  cases nameIn logger (addContext context fs) <;> rfl

/-- Names whose values a line does not show: they are replaced, or left out. -/
def overwritten : List String := "logger" :: "level" :: reserved.erase recordField

theorem reserved_of_mem_overwritten {n : String} (member : n ∈ overwritten) (logger : n ≠ "logger")
    (level : n ≠ "level") : reserved.contains n = true := by
  have rest := (List.mem_cons.mp member).resolve_left logger
  have own := (List.mem_cons.mp rest).resolve_left level
  exact List.contains_iff_mem.mpr (List.mem_of_mem_erase own)

theorem asksForStack_leveled (fs : Fields) (name word : Value) :
    asksForStack ((fs.insert "logger" name).insert "level" word) = asksForStack fs := by
  have logger : stackRequest ≠ "logger" := by decide
  have level : stackRequest ≠ "level" := by decide
  rw [asksForStack_insert level, asksForStack_insert logger]

/-- Values that differ under overwritten names only make one line. The stack is overwritten where it
is asked for. -/
theorem arrange_eq {q : String → Prop} (alike : Named.Alike q fs gs)
    (once : ∀ n, q n → fs.names.count n ≤ 1) (free : ¬q stackRequest)
    (gone : ∀ n, q n → (n = stackField → asksForStack fs = false) → n ∈ overwritten)
    (level : Level) (stack : String) (name : Value) :
    arrange level stack fs name = arrange level stack gs name := by
  have logger := alike.settle (once "logger") name
  have both := logger.settle (k := "level")
    (fun held => by
      rw [Named.count_names_insert_of_ne held.2]
      exact once "level" held.1)
    (.text level.word)
  have same : asksForStack fs = asksForStack gs := by
    rw [asksForStack, asksForStack, alike.get?_eq free]
  have stacked := addStack_alike both
    (fun held => by
      rw [Named.count_names_insert_of_ne held.2, Named.count_names_insert_of_ne held.1.2]
      exact once stackField held.1.1)
    (by rw [asksForStack_leveled, asksForStack_leveled, same]) stack
  refine stacked.filter_eq (fun n => reserved.contains n) fun n held => ?_
  obtain ⟨⟨⟨held, notLogger⟩, notLevel⟩, unasked⟩ := held
  rw [asksForStack_leveled] at unasked
  exact reserved_of_mem_overwritten (gone n held unasked) notLogger notLevel

theorem mem_addStack {n : String} {v : Value} (found : fs.get? n = some v)
    (unasked : n = stackField → asksForStack fs = false) (stack : String) :
    (n, v) ∈ addStack stack fs := by
  rw [addStack]
  split
  · next asks =>
      have other : n ≠ stackField := fun same => by rw [unasked same] at asks; cases asks
      exact Named.mem_of_get?_eq_some ((Named.get?_insert_of_ne other _).trans found)
  · exact Named.mem_of_get?_eq_some found

theorem mem_arrange {n : String} {v : Value} (found : fs.get? n = some v) (shown : n ∉ overwritten)
    (other : n ≠ recordField) (unasked : n = stackField → asksForStack fs = false) (level : Level)
    (stack : String) (name : Value) : (n, v) ∈ arrange level stack fs name := by
  simp only [overwritten, List.mem_cons, not_or] at shown
  obtain ⟨logger, word, kept⟩ := shown
  have free : reserved.contains n = false := by
    rw [Bool.eq_false_iff, ne_eq, List.contains_iff_mem]
    exact fun member => kept ((List.mem_erase_of_ne other).mpr member)
  rw [← Named.get?_insert_of_ne logger name,
    ← Named.get?_insert_of_ne word (.text level.word)] at found
  have placed := mem_addStack found (by rwa [asksForStack_leveled]) stack
  exact List.mem_filter.mpr ⟨placed, by rw [free]; rfl⟩

theorem stack_mem_arrange (asks : asksForStack fs = true) (level : Level) (stack : String)
    (name : Value) : (stackField, .text stack) ∈ arrange level stack fs name := by
  rw [← asksForStack_leveled fs name (.text level.word)] at asks
  have kept : reserved.contains stackField = false := by decide
  refine List.mem_filter.mpr ⟨?_, by rw [kept]; rfl⟩
  rw [addStack, if_pos asks]
  exact Named.mem_of_get?_eq_some (Named.get?_insert_self _ _ _)

theorem arrange_of_unasked (unasked : asksForStack fs = false) (level : Level) (stack : String)
    (name : Value) :
    arrange level stack fs name =
      ((fs.insert "logger" name).insert "level" (.text level.word)).filter fun f =>
        !reserved.contains f.1 := by
  rw [arrange, addStack, asksForStack_leveled, unasked, if_neg Bool.false_ne_true]

theorem nameIn_eq (same : fs.get? recordField = gs.get? recordField) (logger : String) :
    nameIn logger fs = nameIn logger gs := by
  rw [nameIn, nameIn, same]

theorem isStringKeyed_nameIn (keyed : AreStringKeyed fs) {logger : String} {name : Value}
    (run : nameIn logger fs = .ok name) : name.isStringKeyed = true := by
  rw [nameIn] at run
  split at run
  · exact Except.ok.inj run ▸ rfl
  · exact Except.ok.inj run ▸ rfl
  · next v _ found =>
      have own : v.isStringKeyed = true := keyed _ (Named.mem_of_get?_eq_some found)
      cases v with
      | member _ member _ | textMember _ member _ | intMember _ member _ =>
          exact Except.ok.inj run ▸ rfl
      | record type fields =>
          simp only [nameOf] at run
          split at run
          · next named =>
              exact Except.ok.inj run ▸ Value.isStringKeyed_of_lookup own named
          · cases run
      | _ => cases run

theorem areStringKeyed_arrange (keyed : AreStringKeyed fs) {name : Value}
    (own : name.isStringKeyed = true) (level : Level) (stack : String) :
    AreStringKeyed (arrange level stack fs name) := by
  have word : (Value.text level.word).isStringKeyed = true := rfl
  have calls : (Value.text stack).isStringKeyed = true := rfl
  have leveled := (keyed.insert "logger" own).insert "level" word
  intro f member
  have placed := (List.mem_filter.mp member).1
  rw [addStack] at placed
  split at placed
  · exact leveled.insert stackField calls f placed
  · exact leveled f placed

theorem isStringKeyed_toRecord (keyed : AreStringKeyed fs) :
    (toRecord fs).isStringKeyed = true :=
  Value.entriesStringKeyed_of_named keyed

end DocSpace.Log
