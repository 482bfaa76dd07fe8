import DocSpace.Proofs.Json.Escape
import DocSpace.Proofs.Success

set_option autoImplicit false

namespace DocSpace.Failure

open Json Redaction

/-- A failure raised from the first of several, each of which is raised from the next. -/
def raisedFrom (e : Failure) : List Failure → Failure
  | [] => e
  | cause :: causes => e.withCause (cause.raisedFrom causes)

def keyedMessage (before key after : String) : String := before ++ "?apiKey=" ++ key ++ after

/-- Reports, or faults of one class, that differ in the value of one key in their messages only. -/
inductive Rekeyed : Failure → Failure → Prop where
  | report (r : Report) (before after : String) {key key' : String} (free : '&' ∉ key.toList)
      (free' : '&' ∉ key'.toList) :
      Rekeyed (.report { r with message := .text (keyedMessage before key after) })
        (.report { r with message := .text (keyedMessage before key' after) })
  | fault {f f' : Fault} (sameClass : f.label = f'.label) (before after : String)
      {key key' : String} (free : '&' ∉ key.toList) (free' : '&' ∉ key'.toList)
      (text : f.text = keyedMessage before key after)
      (text' : f'.text = keyedMessage before key' after) :
      Rekeyed (.fault f) (.fault f')

theorem keyedMessage_twins (before after : String) {key key' : String} (free : '&' ∉ key.toList)
    (free' : '&' ∉ key'.toList) :
    Twins (keyedMessage before key after).toList (keyedMessage before key' after).toList := by
  simp only [keyedMessage, String.toList_append, toList_keyMark, List.append_assoc]
  exact .keyed _ _ free free'

theorem causeText_eq_of_twins (label : String) {s t : String} (twins : Twins s.toList t.toList) :
    causeText label s = causeText label t := by
  apply hideKey_eq_of_twins
  simp only [String.toList_append]
  exact twins.append_left _

/-- What a failure above this one shows of it. -/
def asCause (e : Failure) : Except Fault String := e.text.map (causeText e.label)

theorem text_caused (r : Report) (cause : Failure) :
    (caused r cause).text =
      cause.asCause >>= fun t => encode reportStyle (.dict (r.entries (some t))) := by
  rw [asCause, map_bind, text]

theorem asCause_caused (r : Report) (cause : Failure) :
    (caused r cause).asCause = cause.asCause >>= fun t =>
      (encode reportStyle (.dict (r.entries (some t)))).map (causeText r.kind.className) := by
  rw [asCause, text_caused]
  cases cause.asCause <;> rfl

theorem entries_caused (r : Report) (cause : Failure) :
    (caused r cause).entries = cause.asCause.map fun t => r.entries (some t) := by
  rw [asCause, entries]
  cases cause.text with
  | error f => rfl
  | ok t => simp only [bind, Except.bind, pure, Except.pure, Except.map]

/-- All that shows of a cause is its text as one. -/
theorem withCause_eq_of_asCause {cause cause' : Failure} (same : cause.asCause = cause'.asCause)
    (e : Failure) :
    (e.withCause cause).entries = (e.withCause cause').entries ∧
      (e.withCause cause).text = (e.withCause cause').text ∧
      (e.withCause cause).asCause = (e.withCause cause').asCause := by
  have record (r : Report) : (caused r cause).entries = (caused r cause').entries := by
    rw [entries_caused, entries_caused, same]
  have shown (r : Report) : (caused r cause).text = (caused r cause').text := by
    rw [text_caused, text_caused, same]
  have above (r : Report) : (caused r cause).asCause = (caused r cause').asCause := by
    rw [asCause_caused, asCause_caused, same]
  cases e with
  | fault f => exact ⟨rfl, rfl, rfl⟩
  | report r => exact ⟨record r, shown r, above r⟩
  | caused r old => exact ⟨record r, shown r, above r⟩

theorem entries_withMessage (r : Report) (cause : Option String) (s : String) :
    { r with message := .text s }.entries cause =
      [(.text "code", r.code)] ++ (.text "message", .text s) :: (r.entries cause).drop 2 := rfl

/-- What a report writes around its message does not depend on the message. -/
theorem encode_withMessage_twins (r : Report) (cause : Option String) (label : String)
    {s t : String} (twins : Twins s.toList t.toList) :
    (encode reportStyle (.dict ({ r with message := .text s }.entries cause))).map
        (causeText label) =
      (encode reportStyle (.dict ({ r with message := .text t }.entries cause))).map
        (causeText label) := by
  simp only [entries_withMessage]
  rcases encode_around_text reportStyle [(.text "code", r.code)] ((r.entries cause).drop 2)
    (.text "message") with ⟨f, fails⟩ | ⟨before, after, written⟩
  · rw [fails, fails]
  · rw [written, written]
    refine congrArg Except.ok (causeText_eq_of_twins label ?_)
    simp only [String.toList_append]
    exact ((twins_encodeText _ twins).append_left _).append_right _

/-- Faults that are raised with their message alone, other than those that show it quoted. -/
theorem rekeyed_raised {className : String} (plain : className ≠ "KeyError")
    (before after : String) {key key' : String} (free : '&' ∉ key.toList)
    (free' : '&' ∉ key'.toList) :
    Rekeyed (.fault (.raised className [.text (keyedMessage before key after)]))
      (.fault (.raised className [.text (keyedMessage before key' after)])) := by
  have shown (s : String) : (Fault.raised className [.text s]).text = s := if_neg plain
  exact .fault rfl before after free free' (shown _) (shown _)

variable {e e' : Failure}

/-- Failures that differ in a key look the same from above, whatever they are raised from. -/
theorem Rekeyed.asCause_eq (rekeyed : Rekeyed e e') (causes : List Failure) :
    (e.raisedFrom causes).asCause = (e'.raisedFrom causes).asCause := by
  cases rekeyed with
  | @fault f f' sameClass before after key key' free free' own own' =>
      have alone : asCause (.fault f) = asCause (.fault f') := by
        refine congrArg Except.ok ?_
        rw [own, own', label, label, sameClass]
        exact causeText_eq_of_twins _ (keyedMessage_twins before after free free')
      -- a fault shows nothing of what it is raised from
      cases causes with
      | nil => exact alone
      | cons cause causes => exact alone
  | report r before after free free' =>
      have twins := keyedMessage_twins before after free free'
      cases causes with
      | nil => exact encode_withMessage_twins r none _ twins
      | cons cause causes =>
          simp only [raisedFrom, withCause, asCause_caused]
          exact congrArg _ (funext fun t => encode_withMessage_twins r (some t) _ twins)

theorem raisedFrom_eq_of_rekeyed (rekeyed : Rekeyed e e') (front back : List Failure)
    (top : Failure) :
    (top.raisedFrom (front ++ e :: back)).entries =
        (top.raisedFrom (front ++ e' :: back)).entries ∧
      (top.raisedFrom (front ++ e :: back)).text = (top.raisedFrom (front ++ e' :: back)).text ∧
      (top.raisedFrom (front ++ e :: back)).asCause =
        (top.raisedFrom (front ++ e' :: back)).asCause := by
  induction front generalizing top with
  | nil => exact withCause_eq_of_asCause (rekeyed.asCause_eq back) top
  | cons next front ih => exact withCause_eq_of_asCause (ih next).2.2 top

/-- However deep below a report a key stands in a message, neither the report's record nor its text
depends on the value of the key. -/
theorem raisedFrom_hides_key (r : Report) (front back : List Failure) (rekeyed : Rekeyed e e') :
    ((report r).raisedFrom (front ++ e :: back)).entries =
        ((report r).raisedFrom (front ++ e' :: back)).entries ∧
      ((report r).raisedFrom (front ++ e :: back)).text =
        ((report r).raisedFrom (front ++ e' :: back)).text := by
  obtain ⟨entries, text, _⟩ := raisedFrom_eq_of_rekeyed rekeyed front back (report r)
  exact ⟨entries, text⟩

def refused (key : String) : Failure :=
  .report { Report.plain .config "" with
    message := .text (keyedMessage "GET /tasks" key "&take=1") }

def dropped (key : String) : Failure :=
  .fault (.raised "RuntimeError" [.text (keyedMessage "no answer from /tasks" key "")])

def outage (key key' : String) : Failure :=
  (report (.plain .base "wrap")).raisedFrom [refused key, dropped key']

theorem outage_hides_key :
    Rekeyed (refused "topsecret") (refused "\"\n?apiKey=") ∧
      Rekeyed (dropped "topsecret") (dropped "") ∧
      (refused "topsecret").asCause = .ok ("ConfigError: \x7b\"code\": \"config_error\", " ++
        "\"message\": \"GET /tasks?apiKey=[REDACTED]&take=1\", \"detail\": \x7b\x7d\x7d") ∧
      ((outage "topsecret" "topsecret").entries = (outage "\"\n?apiKey=" "topsecret").entries ∧
        (outage "topsecret" "topsecret").text = (outage "\"\n?apiKey=" "topsecret").text) ∧
      (outage "topsecret" "topsecret").entries = (outage "topsecret" "").entries ∧
      (outage "topsecret" "topsecret").text = (outage "topsecret" "").text := by
  have report : Rekeyed (refused "topsecret") (refused "\"\n?apiKey=") :=
    .report (.plain .config "") _ _ (by decide) (by decide)
  have fault : Rekeyed (dropped "topsecret") (dropped "") :=
    rekeyed_raised (by decide) _ _ (by decide) (by decide)
  exact ⟨report, fault, by cbv, raisedFrom_hides_key _ [] [dropped "topsecret"] report,
    raisedFrom_hides_key _ [refused "topsecret"] [] fault⟩

end DocSpace.Failure
