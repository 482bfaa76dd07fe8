import DocSpace.Proofs.Json.Double
import DocSpace.Proofs.Json.Encode
import DocSpace.Proofs.Json.Text
import DocSpace.Proofs.Named
import DocSpace.Proofs.Value.Equality

set_option autoImplicit false

namespace DocSpace

def Entries.ofNamed (es : Named Value) : Entries := es.map fun e => (.text e.1, e.2)

namespace Json

open Number Text

/-- Values that JSON has a form of its own for: numbers as they are made, whole ones of no more
digits than are read, and records with distinct names. -/
inductive IsJson : Value → Prop where
  | null : IsJson .null
  | bool (b : Bool) : IsJson (.bool b)
  | int {i : Int} (few : (natDigits i.natAbs).length ≤ maxDigits) : IsJson (.int i)
  | double {d : Double} (made : IsMade d) : IsJson (.double d)
  | text (s : String) : IsJson (.text s)
  | list {vs : List Value} (each : ∀ v ∈ vs, IsJson v) : IsJson (.list vs)
  | dict {es : Named Value} (distinct : es.names.Nodup) (each : ∀ e ∈ es, IsJson e.2) :
      IsJson (.dict (Entries.ofNamed es))

theorem isStringKeyed_of_isJson {v : Value} (json : IsJson v) : v.isStringKeyed = true := by
  induction json with
  | list _ ih => exact Value.areStringKeyed_of_forall ih
  | dict _ _ ih => exact Value.entriesStringKeyed_of_named ih
  | _ => rfl

def IsMark (mark : Char) (s : String) : Prop :=
  ∃ blanks, s.toList = mark :: blanks ∧ ∀ c ∈ blanks, isJsonBlank c = true

/-- A writer whose separators are a comma and a colon, with blanks or without. -/
structure Style.IsSeparating (style : Style) : Prop where
  items : IsMark ',' style.itemSeparator
  keys : IsMark ':' style.keySeparator

/-- A document that begins with the value itself. -/
def Starts (cs : List Char) : Prop :=
  ∃ c cs', cs = c :: cs' ∧ isJsonBlank c = false ∧ c ≠ ']'

/-- Characters that are read as a value, whatever delimits them. -/
structure ReadsAs (cs : List Char) (v : Value) : Prop where
  starts : Starts cs
  reads : ∀ {room fuel : Nat} {rest : List Char}, IsDelimited rest → cs.length ≤ room →
    2 * cs.length ≤ fuel → readValue room fuel (cs ++ rest) = .ok (v, rest)

theorem skipBlanks_of_ne {c : Char} (other : isJsonBlank c = false) (cs : List Char) :
    skipBlanks (c :: cs) = c :: cs := by
  rw [skipBlanks, List.dropWhile_cons, other]
  rfl

theorem skipBlanks_append {blanks : List Char} (blank : ∀ c ∈ blanks, isJsonBlank c = true)
    {cs : List Char} (starts : Starts cs) (rest : List Char) :
    skipBlanks (blanks ++ (cs ++ rest)) = cs ++ rest := by
  obtain ⟨c, cs, rfl, other, _⟩ := starts
  rw [skipBlanks, List.dropWhile_append_of_pos blank]
  exact skipBlanks_of_ne other _

theorem Starts.length_pos {cs : List Char} (starts : Starts cs) : 0 < cs.length := by
  obtain ⟨c, cs, rfl, _⟩ := starts
  exact Nat.succ_pos _

theorem isDelimited_cons {c : Char} (mark : c = ',' ∨ c = ']' ∨ c = '\x7d') (cs : List Char) :
    IsDelimited (c :: cs) := by
  intro d first
  obtain rfl : c = d := Option.some.inj first
  exact mark

/-- A character that neither a text nor a container begins with. -/
structure IsPlain (c : Char) : Prop where
  blank : isJsonBlank c = false
  closing : c ≠ ']'
  quote : c ≠ '"'
  bracket : c ≠ '['
  brace : c ≠ '\x7b'

theorem isPlain_of_isDigit {c : Char} (digit : c.isDigit = true) : IsPlain c := by
  have other {d : Char} (letter : d.isDigit = false) : c ≠ d := by
    rintro rfl
    rw [digit] at letter
    cases letter
  have blank : isJsonBlank c = false := by
    simp only [isJsonBlank, Bool.or_eq_false_iff, beq_eq_false_iff_ne]
    exact ⟨⟨⟨other (by decide), other (by decide)⟩, other (by decide)⟩, other (by decide)⟩
  exact ⟨blank, other (by decide), other (by decide), other (by decide), other (by decide)⟩

/-- What is neither a text nor a container is read as such. -/
theorem readsAs_of_readAtom {cs : List Char} {v : Value}
    (first : ∃ c cs', cs = c :: cs' ∧ IsPlain c)
    (run : ∀ {rest : List Char}, IsDelimited rest → readAtom (cs ++ rest) = .ok (v, rest)) :
    ReadsAs cs v := by
  obtain ⟨c, cs, rfl, plain⟩ := first
  refine ⟨⟨c, cs, rfl, plain.blank, plain.closing⟩, fun {room fuel rest} delimited _ enough => ?_⟩
  cases fuel with
  | zero =>
      rw [List.length_cons] at enough
      omega
  | succ fuel =>
      rw [← run delimited, List.cons_append]
      unfold readValue
      split
      · next same => exact absurd (List.cons.inj same).1 plain.quote
      · next same => exact absurd (List.cons.inj same).1 plain.bracket
      · next same => exact absurd (List.cons.inj same).1 plain.brace
      · rfl

theorem readsAs_chars {n : Numeral} (written : n.IsWritten) {v : Value}
    (run : ∀ {rest : List Char}, IsDelimited rest → readAtom (n.chars ++ rest) = .ok (v, rest)) :
    ReadsAs n.chars v := by
  refine readsAs_of_readAtom ?_ run
  obtain ⟨negative, whole, fraction, exponent⟩ := n
  obtain ⟨d, ds, split, digit⟩ := Numeral.exists_digit_of_isWhole written.whole
  simp only at split
  subst split
  cases negative with
  | true => exact ⟨'-', _, rfl, by constructor <;> decide⟩
  | false => exact ⟨d, _, rfl, isPlain_of_isDigit digit⟩

theorem readsAs_intText {i : Int} (few : (natDigits i.natAbs).length ≤ maxDigits) :
    ReadsAs (intText i).toList (.int i) := by
  rw [toList_intText_eq_chars]
  refine readsAs_chars (isWritten_intNumeral i) fun delimited => ?_
  rw [← toList_intText_eq_chars, readAtom_intText few delimited]

theorem readsAs_doubleText {d : Double} (made : IsMade d) :
    ReadsAs (doubleText .document d).toList (.double d) := by
  cases d with
  | finite negative m e =>
      rw [toList_doubleText]
      refine readsAs_chars (value_finiteNumeral made negative).1 fun delimited => ?_
      rw [← toList_doubleText, readAtom_doubleText made delimited]
  | infinite negative =>
      cases negative <;>
        exact readsAs_of_readAtom ⟨_, _, rfl, by constructor <;> decide⟩ (readAtom_doubleText made)
  | notANumber =>
      exact readsAs_of_readAtom ⟨_, _, rfl, by constructor <;> decide⟩ (readAtom_doubleText made)

theorem readsAs_null : ReadsAs "null".toList .null :=
  readsAs_of_readAtom ⟨_, _, rfl, by constructor <;> decide⟩ fun _ => rfl

theorem readsAs_encodeBool (b : Bool) : ReadsAs (encodeBool b).toList (.bool b) := by
  cases b <;> exact readsAs_of_readAtom ⟨_, _, rfl, by constructor <;> decide⟩ fun _ => rfl

theorem readsAs_text (asciiOnly : Bool) (s : String) :
    ReadsAs (encodeText asciiOnly s).toList (.text s) := by
  have chars : (encodeText asciiOnly s).toList =
      '"' :: (s.toList.flatMap (escapeChar asciiOnly) ++ ['"']) := String.toList_ofList
  rw [chars]
  refine ⟨⟨'"', _, rfl, by decide, by decide⟩, fun {room fuel rest} _ _ enough => ?_⟩
  cases fuel with
  | zero =>
      rw [List.length_cons] at enough
      omega
  | succ fuel =>
      rw [List.cons_append, List.append_assoc, readValue]
      show ((readText (s.toList.flatMap (escapeChar asciiOnly) ++ '"' :: rest)).mapError _).bind _ =
        _
      rw [readText_encodeText]
      rfl

section Items

variable {style : Style}

theorem toList_joined_cons (sep s t : String) (ts : List String) :
    (joined sep (s :: t :: ts)).toList =
      s.toList ++ (sep.toList ++ (joined sep (t :: ts)).toList) := by
  rw [joined, String.toList_append, String.toList_append, List.append_assoc]

/-- Behind the first of several texts there is a comma, and behind that the others. -/
theorem exists_joined_cons {sep : String} (mark : IsMark ',' sep) (s : String) {t : String}
    {ts : List String} (starts : Starts (joined sep (t :: ts)).toList) (rest : List Char) :
    ∃ more, (joined sep (s :: t :: ts)).toList ++ rest = s.toList ++ ',' :: more ∧
      skipBlanks more = (joined sep (t :: ts)).toList ++ rest ∧
      s.toList.length + (joined sep (t :: ts)).toList.length <
        (joined sep (s :: t :: ts)).toList.length := by
  obtain ⟨blanks, split, blank⟩ := mark
  refine ⟨blanks ++ ((joined sep (t :: ts)).toList ++ rest), ?_,
    skipBlanks_append blank starts rest, ?_⟩
  · rw [toList_joined_cons, split]
    simp only [List.append_assoc, List.cons_append]
  · rw [toList_joined_cons, split]
    simp only [List.length_append, List.length_cons]
    omega

theorem starts_joined (sep : String) {s : String} (starts : Starts s.toList) (ss : List String) :
    Starts (joined sep (s :: ss)).toList := by
  cases ss with
  | nil => exact starts
  | cons t ts =>
      obtain ⟨c, cs, split, other⟩ := starts
      exact ⟨c, _, by rw [toList_joined_cons, split, List.cons_append], other⟩

/-- Items are read one after another, up to the closing bracket. -/
theorem readItems_joined {sep : String} (mark : IsMark ',' sep) {vs : List Value}
    {ss : List String} (each : List.Forall₂ (fun v s => ReadsAs s.toList v) vs ss)
    (some : vs ≠ []) {room fuel : Nat} {rest : List Char}
    (roomy : (joined sep ss).toList.length ≤ room)
    (enough : 2 * (joined sep ss).toList.length < fuel) :
    readItems room fuel ((joined sep ss).toList ++ ']' :: rest) = .ok (vs, rest) := by
  induction each generalizing fuel with
  | nil => exact absurd rfl some
  | @cons v s vs ss head tail ih =>
      cases fuel with
      | zero => omega
      | succ fuel =>
          cases tail with
          | nil =>
              have delimited := isDelimited_cons (c := ']') (Or.inr (Or.inl rfl)) rest
              have run : readValue room fuel (s.toList ++ ']' :: rest) = .ok (v, ']' :: rest) :=
                head.reads delimited roomy (Nat.le_of_lt_succ enough)
              exact bind_eq_ok.mpr ⟨_, run, rfl⟩
          | @cons w t vs ss next others =>
              obtain ⟨more, chars, skipped, length⟩ :=
                exists_joined_cons mark s (starts_joined sep next.starts ss) (']' :: rest)
              have own := head.starts.length_pos
              have delimited := isDelimited_cons (c := ',') (Or.inl rfl) more
              have first : readValue room fuel (s.toList ++ ',' :: more) = .ok (v, ',' :: more) :=
                head.reads delimited (by omega) (by omega)
              have following : readItems room fuel (skipBlanks more) = .ok (w :: vs, rest) :=
                skipped ▸ ih (List.cons_ne_nil _ _) (by omega) (by omega)
              rw [chars, readItems]
              exact bind_eq_ok.mpr ⟨_, first, bind_eq_ok.mpr ⟨_, following, rfl⟩⟩

theorem readValue_bracket {room fuel : Nat} {c : Char} (spacious : room ≠ 0)
    (blank : isJsonBlank c = false) (closing : c ≠ ']') (cs : List Char) :
    readValue room (fuel + 1) ('[' :: c :: cs) =
      (readItems (room - 1) fuel (c :: cs)).map fun taken => (.list taken.1, taken.2) := by
  rw [readValue, if_neg spacious, skipBlanks_of_ne blank]
  split
  · next same => exact absurd (List.cons.inj same).1 closing
  · cases readItems (room - 1) fuel (c :: cs) <;> rfl

/-- A list of nothing is read, and one of items. -/
theorem readsAs_list {sep : String} (mark : IsMark ',' sep) {vs : List Value} {ss : List String}
    (each : List.Forall₂ (fun v s => ReadsAs s.toList v) vs ss) :
    ReadsAs ("[" ++ joined sep ss ++ "]").toList (.list vs) := by
  have chars : ("[" ++ joined sep ss ++ "]").toList = '[' :: ((joined sep ss).toList ++ [']']) := by
    simp only [String.toList_append]
    rfl
  rw [chars]
  refine ⟨⟨'[', _, rfl, by decide, by decide⟩, fun {room fuel rest} _ roomy enough => ?_⟩
  simp only [List.length_cons, List.length_append] at roomy enough
  have spacious : room ≠ 0 := by omega
  cases fuel with
  | zero => omega
  | succ fuel =>
      rw [List.cons_append, List.append_assoc]
      by_cases empty : vs = []
      · subst empty
        cases each
        rw [readValue, if_neg spacious]
        rfl
      · have run : readItems (room - 1) fuel ((joined sep ss).toList ++ ']' :: rest) =
            .ok (vs, rest) := readItems_joined mark each empty (by omega) (by omega)
        have starts : Starts (joined sep ss).toList := by
          cases each with
          | nil => exact absurd rfl empty
          | @cons v s vs ss head tail => exact starts_joined sep head.starts ss
        obtain ⟨c, cs, split, blank, closing⟩ := starts
        rw [split] at run ⊢
        show readValue room (fuel + 1) ('[' :: c :: (cs ++ ']' :: rest)) = _
        rw [readValue_bracket spacious blank closing]
        show (readItems (room - 1) fuel (c :: cs ++ ']' :: rest)).map _ = _
        rw [run]
        rfl

end Items

section Members

def member (asciiOnly : Bool) (sep : String) (name s : String) : String :=
  encodeText asciiOnly name ++ sep ++ s

theorem toList_member (asciiOnly : Bool) (sep name s : String) :
    (member asciiOnly sep name s).toList = '"' ::
      (name.toList.flatMap (escapeChar asciiOnly) ++ '"' :: (sep.toList ++ s.toList)) := by
  simp only [member, encodeText, String.toList_append, String.toList_ofList, List.cons_append,
    List.append_assoc, List.nil_append]

theorem readName_member (asciiOnly : Bool) {sep : String} (mark : IsMark ':' sep) (name : String)
    {s : String} (starts : Starts s.toList) (rest : List Char) :
    readName ((member asciiOnly sep name s).toList ++ rest) = .ok (name, s.toList ++ rest) := by
  obtain ⟨blanks, split, blank⟩ := mark
  have skipped := skipBlanks_append blank starts rest
  have chars : (member asciiOnly sep name s).toList ++ rest =
      '"' :: (name.toList.flatMap (escapeChar asciiOnly) ++
        '"' :: ':' :: (blanks ++ (s.toList ++ rest))) := by
    rw [toList_member, split]
    simp only [List.cons_append, List.append_assoc]
  rw [chars]
  show ((readText (name.toList.flatMap (escapeChar asciiOnly) ++
    '"' :: ':' :: (blanks ++ (s.toList ++ rest)))).mapError _).bind _ = _
  rw [readText_encodeText]
  show Except.ok (name, skipBlanks (blanks ++ (s.toList ++ rest))) = _
  rw [skipped]

theorem starts_member (asciiOnly : Bool) (sep name s : String) :
    Starts (member asciiOnly sep name s).toList :=
  ⟨'"', _, toList_member asciiOnly sep name s, by decide, by decide⟩

theorem length_lt_member (asciiOnly : Bool) (sep name s : String) :
    s.toList.length < (member asciiOnly sep name s).toList.length := by
  rw [toList_member]
  simp only [List.length_append, List.length_cons]
  omega

/-- A member is written from a name and what is read as its value. -/
def ReadsAsMember (asciiOnly : Bool) (sep : String) (e : String × Value) (t : String) : Prop :=
  ∃ s, t = member asciiOnly sep e.1 s ∧ ReadsAs s.toList e.2

theorem exists_quote_joined {asciiOnly : Bool} {keySep : String} {es : Named Value}
    {ts : List String} (each : List.Forall₂ (ReadsAsMember asciiOnly keySep) es ts)
    (some : es ≠ []) (sep : String) : ∃ cs, (joined sep ts).toList = '"' :: cs := by
  cases each with
  | nil => exact absurd rfl some
  | @cons e t es ts head tail =>
      obtain ⟨s, rfl, _⟩ := head
      cases ts with
      | nil => exact ⟨_, toList_member _ _ _ _⟩
      | cons u us =>
          rw [toList_joined_cons, toList_member]
          exact ⟨_, rfl⟩

/-- Members are read one after another, up to the closing brace. -/
theorem readMembers_joined {asciiOnly : Bool} {sep keySep : String} (mark : IsMark ',' sep)
    (colon : IsMark ':' keySep) {es : Named Value} {ts : List String}
    (each : List.Forall₂ (ReadsAsMember asciiOnly keySep) es ts) (some : es ≠ [])
    {room fuel : Nat} {rest : List Char} (roomy : (joined sep ts).toList.length ≤ room)
    (enough : 2 * (joined sep ts).toList.length < fuel) :
    readMembers room fuel ((joined sep ts).toList ++ '\x7d' :: rest) =
      .ok (Entries.ofNamed es, rest) := by
  induction each generalizing fuel with
  | nil => exact absurd rfl some
  | @cons e t es ts head tail ih =>
      obtain ⟨s, rfl, own⟩ := head
      have shorter := length_lt_member asciiOnly keySep e.1 s
      cases fuel with
      | zero => omega
      | succ fuel =>
          cases tail with
          | nil =>
              have delimited := isDelimited_cons (c := '\x7d') (Or.inr (Or.inr rfl)) rest
              simp only [joined] at roomy enough ⊢
              have run : readValue room fuel (s.toList ++ '\x7d' :: rest) =
                  .ok (e.2, '\x7d' :: rest) := own.reads delimited (by omega) (by omega)
              have name := readName_member asciiOnly colon e.1 own.starts ('\x7d' :: rest)
              rw [readMembers]
              exact bind_eq_ok.mpr ⟨_, name, bind_eq_ok.mpr ⟨_, run, rfl⟩⟩
          | @cons f u es ts next others =>
              obtain ⟨s', rfl, _⟩ := next
              obtain ⟨more, chars, skipped, length⟩ :=
                exists_joined_cons mark (member asciiOnly keySep e.1 s)
                  (starts_joined sep (starts_member asciiOnly keySep f.1 s') ts) ('\x7d' :: rest)
              have delimited := isDelimited_cons (c := ',') (Or.inl rfl) more
              have first : readValue room fuel (s.toList ++ ',' :: more) =
                  .ok (e.2, ',' :: more) := own.reads delimited (by omega) (by omega)
              have following : readMembers room fuel (skipBlanks more) = .ok (_, rest) :=
                skipped ▸ ih (List.cons_ne_nil _ _) (by omega) (by omega)
              have name := readName_member asciiOnly colon e.1 own.starts (',' :: more)
              rw [chars, readMembers]
              refine bind_eq_ok.mpr ⟨_, name, bind_eq_ok.mpr ⟨_, first, ?_⟩⟩
              exact bind_eq_ok.mpr ⟨_, following, rfl⟩

theorem readValue_brace {room fuel : Nat} {c : Char} (spacious : room ≠ 0)
    (blank : isJsonBlank c = false) (closing : c ≠ '\x7d') (cs : List Char) :
    readValue room (fuel + 1) ('\x7b' :: c :: cs) =
      (readMembers (room - 1) fuel (c :: cs)).map fun taken =>
        (.dict (Entries.ofList taken.1), taken.2) := by
  rw [readValue, if_neg spacious, skipBlanks_of_ne blank]
  split
  · next same => exact absurd (List.cons.inj same).1 closing
  · cases readMembers (room - 1) fuel (c :: cs) <;> rfl

end Members

section Records

theorem insert_of_not_mem {es : Named Value} {name : String} (absent : name ∉ es.names)
    (v : Value) :
    Entries.insert (Entries.ofNamed es) (.text name) v = Entries.ofNamed (es ++ [(name, v)]) := by
  induction es with
  | nil => rfl
  | cons e es ih =>
      rw [Named.names, List.map_cons, List.mem_cons, not_or] at absent
      have other : (Value.text e.1).same (.text name) = false := by
        rw [Value.same_text, beq_eq_false_iff_ne]
        exact Ne.symm absent.1
      show Entries.insert ((.text e.1, e.2) :: Entries.ofNamed es) (.text name) v = _
      rw [Entries.insert, other, if_neg (by decide), ih absent.2]
      rfl

/-- Distinct names are all kept, in their order. -/
theorem ofList_of_nodup {es : Named Value} (distinct : es.names.Nodup) :
    Entries.ofList (Entries.ofNamed es) = Entries.ofNamed es := by
  have from_done (es done : Named Value) (apart : (done ++ es).names.Nodup) :
      (Entries.ofNamed es).foldl (fun done e => Entries.insert done e.1 e.2)
        (Entries.ofNamed done) = Entries.ofNamed (done ++ es) := by
    induction es generalizing done with
    | nil => rw [List.append_nil]; rfl
    | cons e es ih =>
        have absent : e.1 ∉ done.names := by
          rw [Named.names, List.map_append, List.map_cons] at apart
          intro present
          exact (List.nodup_append.mp apart).2.2 e.1 present e.1 List.mem_cons_self rfl
        have split : done ++ e :: es = (done ++ [e]) ++ es := by
          rw [List.append_assoc]
          rfl
        rw [split] at apart ⊢
        show (Entries.ofNamed es).foldl _
          (Entries.insert (Entries.ofNamed done) (.text e.1) e.2) = _
        rw [insert_of_not_mem absent]
        exact ih _ apart
  exact from_done es [] distinct

/-- A record of nothing is read, and one of members. -/
theorem readsAs_record {asciiOnly : Bool} {sep keySep : String} (mark : IsMark ',' sep)
    (colon : IsMark ':' keySep) {es : Named Value} (distinct : es.names.Nodup) {ts : List String}
    (each : List.Forall₂ (ReadsAsMember asciiOnly keySep) es ts) :
    ReadsAs (Value.braced (joined sep ts)).toList (.dict (Entries.ofNamed es)) := by
  have chars : (Value.braced (joined sep ts)).toList =
      '\x7b' :: ((joined sep ts).toList ++ ['\x7d']) := by
    simp only [Value.braced, String.toList_append]
    rfl
  rw [chars]
  refine ⟨⟨'\x7b', _, rfl, by decide, by decide⟩, fun {room fuel rest} _ roomy enough => ?_⟩
  simp only [List.length_cons, List.length_append] at roomy enough
  have spacious : room ≠ 0 := by omega
  cases fuel with
  | zero => omega
  | succ fuel =>
      rw [List.cons_append, List.append_assoc]
      by_cases empty : es = []
      · subst empty
        cases each
        rw [readValue, if_neg spacious]
        rfl
      · have run : readMembers (room - 1) fuel ((joined sep ts).toList ++ '\x7d' :: rest) =
            .ok (Entries.ofNamed es, rest) :=
          readMembers_joined mark colon each empty (by omega) (by omega)
        obtain ⟨cs, split⟩ := exists_quote_joined each empty sep
        rw [split] at run ⊢
        show readValue room (fuel + 1) ('\x7b' :: '"' :: (cs ++ '\x7d' :: rest)) = _
        rw [readValue_brace spacious (by decide) (by decide)]
        show (readMembers (room - 1) fuel ('"' :: cs ++ '\x7d' :: rest)).map _ = _
        rw [run]
        show Except.ok (Value.dict (Entries.ofList (Entries.ofNamed es)), rest) = _
        rw [ofList_of_nodup distinct]

end Records

section Whole

variable {style : Style}

theorem readsAs_items {vs : List Value}
    (each : ∀ v ∈ vs, ∀ s, encode style v = .ok s → ReadsAs s.toList v) {ss : List String}
    (run : encodeItems style vs = .ok ss) : List.Forall₂ (fun v s => ReadsAs s.toList v) vs ss := by
  induction vs generalizing ss with
  | nil =>
      obtain rfl := Except.ok.inj run
      exact .nil
  | cons v vs ih =>
      obtain ⟨own, others⟩ := List.forall_mem_cons.mp each
      obtain ⟨s, first, run⟩ := bind_eq_ok.mp run
      obtain ⟨rest, tail, run⟩ := bind_eq_ok.mp run
      obtain rfl := Except.ok.inj run
      exact .cons (own s first) (ih others tail)

theorem readsAs_members {es : Named Value}
    (each : ∀ e ∈ es, ∀ s, encode style e.2 = .ok s → ReadsAs s.toList e.2) {ts : List String}
    (run : encodeEntries style (Entries.ofNamed es) = .ok ts) :
    List.Forall₂ (ReadsAsMember style.asciiOnly style.keySeparator) es ts := by
  induction es generalizing ts with
  | nil =>
      obtain rfl := Except.ok.inj run
      exact .nil
  | cons e es ih =>
      obtain ⟨own, others⟩ := List.forall_mem_cons.mp each
      obtain ⟨key, named, run⟩ := bind_eq_ok.mp run
      obtain rfl := Except.ok.inj named
      obtain ⟨s, value, run⟩ := bind_eq_ok.mp run
      obtain ⟨rest, tail, run⟩ := bind_eq_ok.mp run
      obtain rfl := Except.ok.inj run
      exact .cons ⟨s, rfl, own s value⟩ (ih others tail)

/-- What is written of a value is read as the value, whatever delimits it. -/
theorem readsAs_of_encode (separating : style.IsSeparating) {v : Value} (json : IsJson v)
    {s : String} (run : encode style v = .ok s) : ReadsAs s.toList v := by
  induction json generalizing s with
  | null => exact Except.ok.inj run ▸ readsAs_null
  | bool b => exact Except.ok.inj run ▸ readsAs_encodeBool b
  | int few => exact Except.ok.inj run ▸ readsAs_intText few
  | text t => exact Except.ok.inj run ▸ readsAs_text style.asciiOnly t
  | @double d made =>
      have shown : s = doubleText .document d := by
        rw [encode] at run
        cases d with
        | finite => exact (Except.ok.inj run).symm
        | infinite | notANumber =>
            rw [encodeDouble] at run
            split at run
            · exact (Except.ok.inj run).symm
            · cases run
      exact shown ▸ readsAs_doubleText made
  | list each ih =>
      rw [encode] at run
      obtain ⟨ss, items, run⟩ := bind_eq_ok.mp run
      obtain rfl := Except.ok.inj run
      exact readsAs_list separating.items (readsAs_items (fun v member s => ih v member) items)
  | dict distinct each ih =>
      rw [encode] at run
      obtain ⟨ts, members, run⟩ := bind_eq_ok.mp run
      obtain rfl := Except.ok.inj run
      exact readsAs_record separating.items separating.keys distinct
        (readsAs_members (fun e member s => ih e member) members)

/-- A document is read as the value that it was written from. -/
theorem decode_of_encode (separating : style.IsSeparating) {v : Value} (json : IsJson v)
    {s : String} (run : encode style v = .ok s) : decode s = .ok v := by
  obtain ⟨starts, reads⟩ := readsAs_of_encode separating json run
  have enough : 2 * s.toList.length ≤ 2 * s.toList.length + 1 := Nat.le_succ _
  have read : readValue s.toList.length (2 * s.toList.length + 1) (s.toList ++ []) = .ok (v, []) :=
    reads (fun _ first => by cases first) (Nat.le_refl _) enough
  have skipped : skipBlanks s.toList = s.toList := by
    obtain ⟨c, cs, split, blank, _⟩ := starts
    rw [split, skipBlanks_of_ne blank]
  rw [List.append_nil] at read
  have document : readDocument s.toList.length s.toList = .ok v := by
    rw [readDocument, skipped]
    exact bind_eq_ok.mpr ⟨_, read, rfl⟩
  rw [decode]
  exact mapError_eq_ok.mpr document

/-- What JSON has a form for has a text that is read back, if the writer is lenient. -/
theorem exists_encode_decode (lenient : style.IsLenient) (separating : style.IsSeparating)
    {v : Value} (json : IsJson v) : ∃ s, encode style v = .ok s ∧ decode s = .ok v := by
  obtain ⟨s, run⟩ := exists_encode lenient v (isStringKeyed_of_isJson json)
  exact ⟨s, run, decode_of_encode separating json run⟩

end Whole

end Json

end DocSpace
