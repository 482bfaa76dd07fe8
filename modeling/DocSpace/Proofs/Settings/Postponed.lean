import DocSpace.Proofs.Success
import DocSpace.Settings.Load

set_option autoImplicit false

namespace DocSpace.Settings

namespace Reading

def hint : Reading → Hint
  | flag => .plain .bool
  | whole => .plain .int
  | double => .plain .double
  | texts => .items "list[str]"
  | text => .plain .text

def source : Reading → String
  | flag => "bool"
  | whole => "int"
  | double => "float"
  | texts => "list[str]"
  | text => "str"

theorem of_hint (r : Reading) : of (.hint r.hint) = r := by cases r <;> rfl

/-- The text of a type says what the type says, unless it is the text of a list. -/
theorem of_source {r : Reading} (single : r ≠ texts) : of (.source r.source) = r := by
  cases r with
  | texts => exact absurd rfl single
  | flag | whole | double | text => rfl

theorem of_source_texts : of (.source texts.source) = text := rfl

end Reading

/-- A field that is declared by one of the types that variables are read for. -/
structure TypedField where
  name : String
  type : Reading
  default? : Option Value

namespace TypedField

def byType (f : TypedField) : Field := ⟨f.name, .hint f.type.hint, f.default?⟩

def byText (f : TypedField) : Field := ⟨f.name, .source f.type.source, f.default?⟩

def IsSetList (word : String) (env : Environment) (f : TypedField) : Prop :=
  f.type = .texts ∧ env.get? (variableName word f.name) ≠ none

variable {word : String} {env : Environment} {f : TypedField}

theorem readField_eq (harmless : ¬ f.IsSetList word env) :
    readField word env f.byText = readField word env f.byType := by
  simp only [readField, byText, byType]
  cases set : env.get? (variableName word f.name) with
  | none => cases f.default? <;> rfl
  | some raw =>
      have single : f.type ≠ .texts := fun list => harmless ⟨list, by rw [set]; simp⟩
      simp only [coerce, Reading.of_source single, Reading.of_hint]

/-- A list is read as its pieces where its type is known, and as it stands where it is not. -/
theorem readField_of_isSetList (set : f.IsSetList word env) :
    ∃ raw, readField word env f.byText = .ok (.text raw) ∧
      readField word env f.byType = .ok (.list ((readTexts raw).map .text)) := by
  obtain ⟨list, present⟩ := set
  obtain ⟨raw, found⟩ := Option.ne_none_iff_exists'.mp present
  obtain ⟨name, type, default?⟩ := f
  obtain rfl : type = .texts := list
  refine ⟨raw, ?_, ?_⟩ <;>
    simp only [readField, byText, byType, found, coerce, Reading.of_source_texts,
      Reading.of_hint] <;> rfl

/-- A field is unreadable for the same reason either way. -/
theorem readField_error_iff {e : Failure} :
    readField word env f.byText = .error e ↔ readField word env f.byType = .error e := by
  by_cases set : f.IsSetList word env
  · obtain ⟨raw, text, pieces⟩ := readField_of_isSetList set
    rw [text, pieces]
    exact iff_of_false nofun nofun
  · rw [readField_eq set]

end TypedField

section Loading

open TypedField (byText byType)

variable (word : String) (env : Environment)

def readNamed (declare : TypedField → Field) (f : TypedField) : Except Failure (String × Value) :=
  (readField word env (declare f)).map fun v => ((declare f).name, v)

theorem readFields_map (declare : TypedField → Field) (fs : List TypedField) :
    readFields word env (fs.map declare) = fs.mapM (readNamed word env declare) := by
  rw [readFields, List.mapM_map]
  refine congrArg (fs.mapM ·) (funext fun f => ?_)
  simp only [Function.comp, readNamed]
  cases readField word env (declare f) <;> rfl

theorem readNamed_error_iff {declare : TypedField → Field} {f : TypedField} {e : Failure} :
    readNamed word env declare f = .error e ↔ readField word env (declare f) = .error e := by
  rw [readNamed, map_eq_error]

theorem readNamed_eq_iff {f : TypedField} :
    readNamed word env byType f = readNamed word env byText f ↔ ¬ f.IsSetList word env := by
  constructor
  · intro same set
    obtain ⟨raw, text, pieces⟩ := TypedField.readField_of_isSetList set
    simp only [readNamed, text, pieces, Except.map] at same
    cases same
  · intro harmless
    simp only [readNamed, TypedField.readField_eq harmless]
    rfl

/-- Whatever is made of the values, it is the same just if the values are. -/
theorem forall_load_eq_iff (fields fields' : List Field) :
    (∀ (α : Type) (finish : Named Value → Except Failure α),
        load ⟨word, fields, finish⟩ env = load ⟨word, fields', finish⟩ env) ↔
      readFields word env fields = readFields word env fields' := by
  have plain (fields : List Field) :
      load ⟨word, fields, .ok⟩ env = readFields word env fields := by
    rw [load]
    cases readFields word env fields <;> rfl
  constructor
  · intro same
    rw [← plain fields, ← plain fields', same (Named Value) .ok]
  · intro same α finish
    simp only [load, same]

/-- Declared by types or by their texts, settings are loaded alike just if a field is unreadable
or no list has a variable. -/
theorem load_byText_eq_iff (fs : List TypedField) :
    (∀ (α : Type) (finish : Named Value → Except Failure α),
        load ⟨word, fs.map byText, finish⟩ env = load ⟨word, fs.map byType, finish⟩ env) ↔
      (∃ f ∈ fs, ∃ e, readField word env f.byType = .error e) ∨
        ∀ f ∈ fs, ¬ f.IsSetList word env := by
  have alike (f : TypedField) (e : Failure) :
      readNamed word env byType f = .error e ↔ readNamed word env byText f = .error e := by
    rw [readNamed_error_iff, readNamed_error_iff, TypedField.readField_error_iff]
  rw [forall_load_eq_iff, readFields_map, readFields_map, eq_comm, mapM_eq_mapM_iff alike]
  simp only [readNamed_error_iff, readNamed_eq_iff]

end Loading

def tags : TypedField := ⟨"tags", .texts, none⟩

/-- Under the text of its type the list stays one text. -/
theorem tags_load_differs :
    load ⟨"", [tags.byType], .ok⟩ [("TAGS", "a, b")] =
        .ok [("tags", .list [.text "a", .text "b"])] ∧
      load ⟨"", [tags.byText], .ok⟩ [("TAGS", "a, b")] = .ok [("tags", .text "a, b")] ∧
      load ⟨"", [tags.byType], .ok⟩ [("TAGS", "a, b")] ≠
        load ⟨"", [tags.byText], .ok⟩ [("TAGS", "a, b")] := by
  have typed : load ⟨"", [tags.byType], .ok⟩ [("TAGS", "a, b")] =
      .ok [("tags", .list [.text "a", .text "b"])] := rfl
  have postponed : load ⟨"", [tags.byText], .ok⟩ [("TAGS", "a, b")] =
      .ok [("tags", .text "a, b")] := rfl
  refine ⟨typed, postponed, ?_⟩
  rw [typed, postponed]
  exact nofun

end DocSpace.Settings
