import DocSpace.Proofs.Space.Url
import DocSpace.Proofs.Value.Equality
import DocSpace.Space.Call

set_option autoImplicit false

namespace DocSpace

open Http Query

namespace Model

variable {m : Model}

end Model

namespace Call

theorem prepareUpdate_eq_ok {m : Model} {fields : Entries} {q : Request} :
    prepareUpdate m fields = .ok q ↔
      ∃ id, fields.get? identifier = some id ∧
        q = ⟨.patch, m.url id, some (.dict (fields.erase identifier))⟩ := by
  rw [prepareUpdate]
  cases fields.get? identifier with
  | none =>
      refine iff_of_false nofun ?_
      rintro ⟨_, named, _⟩
      cases named
  | some id =>
      constructor
      · intro run
        exact ⟨id, rfl, (Except.ok.inj run).symm⟩
      · rintro ⟨id', named, rfl⟩
        rw [Option.some.inj named]

theorem prepare_create_eq_ok {m : Model} {document : Value} {q : Request} :
    (create document).prepare m = .ok q ↔
      ∃ fields, Document.fields document = .ok fields ∧
        q = ⟨.post, m.collectionUrl, some (.dict fields)⟩ := by
  rw [prepare, bind_eq_ok]
  exact exists_congr fun fields => and_congr lift_eq_ok
    ⟨fun same => (Except.ok.inj same).symm, fun same => congrArg Except.ok same.symm⟩

/-- A change sends what the creation of its document would, but for the identifier, and to the place
that the identifier names. -/
theorem prepare_update_eq_ok {m : Model} {document : Value} {q : Request} :
    (update document).prepare m = .ok q ↔
      ∃ (fields : Entries) (id : Value),
        (create document).prepare m = .ok ⟨.post, m.collectionUrl, some (.dict fields)⟩ ∧
          fields.get? identifier = some id ∧
          q = ⟨.patch, m.url id, some (.dict (fields.erase identifier))⟩ := by
  refine bind_eq_ok.trans (exists_congr fun fields => ?_)
  rw [lift_eq_ok, lift_eq_ok, prepareUpdate_eq_ok, prepare_create_eq_ok]
  constructor
  · rintro ⟨read, id, named, rfl⟩
    exact ⟨id, ⟨fields, read, rfl⟩, named, rfl⟩
  · rintro ⟨id, ⟨_, read, same⟩, named, rfl⟩
    cases same
    exact ⟨read, id, named, rfl⟩

end Call

end DocSpace
