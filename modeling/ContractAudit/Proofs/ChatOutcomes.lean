import ContractAudit.Enhancement.Chat
import ContractAudit.Proofs.Acceptance
import ContractAudit.Proofs.JsonScanning

/-!
# How a question to the chat service ends

A question ends with a response, with a failure that callers expect, or with an error that nothing
turns into a failure. The HTTP client is arbitrary: it may answer a post with whatever it likes.
Where it keeps to what is documented and all numbers can be written, only the content of the message
can lead to an error of the last kind. All that comes before it, from the network to the choices in
the body, is a failure when it goes wrong.
-/
namespace ContractAudit

/-! ## The reply -/

namespace Outcome

inductive Delivers : Outcome → Json → Prop where
  | message {status : Int} {body : List UInt8} {text : Text} {members : List (String × Json)}
      {first message content : Json} {others : List Json}
      (success : 200 ≤ status ∧ status < 300)
      (decoded : Json.bodyText? body = some text) (object : Json.read text = .ok (.obj members))
      (choices : Json.member? members "choices" = some (.arr (first :: others)))
      (chosen : first.get? "message" = some message)
      (given : message.get? "content" = some content) :
      Delivers (.reply status body) content

inductive Breaks (limit : Number.Quantity) : Outcome → ChatError → Prop where
  | client (i : Interruption) : Breaks limit (.interrupted i) (.interrupted i)
  | timeout (long : limit.isWritable = false) : Breaks limit .timeout .unwritable
  | status {status : Int} {body : List UInt8} (refused : ¬ (200 ≤ status ∧ status < 300))
      (long : Text.isWritable status = false) : Breaks limit (.reply status body) .unwritable

end Outcome

namespace Http

theorem decodeBody_eq_ok_iff {body : List UInt8} {members : List (String × Json)} :
    decodeBody body = .ok members ↔
      ∃ text, Json.bodyText? body = some text ∧ Json.read text = .ok (.obj members) := by
  rw [decodeBody]
  cases hbody : Json.bodyText? body with
  | none => simp
  | some text =>
    simp only [Option.map_some, Option.some.injEq, exists_eq_left']
    cases hread : Json.read text with
    | error e => simp
    | ok value => cases value <;> simp

theorem isFailure_of_decodeBody {body : List UInt8} {e : ChatError}
    (h : decodeBody body = .error e) : e.isFailure = true := by
  rw [decodeBody] at h
  split at h <;> cases h <;> rfl

theorem showing_not_isFailure_iff {error e : ChatError} (h : error.isFailure = true)
    {isWritable : Bool} :
    showing error isWritable = e ∧ e.isFailure = false ↔ isWritable = false ∧ e = .unwritable := by
  cases isWritable with
  | true =>
    simp only [showing, if_true, Bool.true_eq_false, false_and, iff_false]
    rintro ⟨rfl, hfailure⟩
    rw [h] at hfailure
    cases hfailure
  | false =>
    simp only [showing, Bool.false_eq_true, if_false, true_and]
    constructor
    · rintro ⟨rfl, -⟩
      rfl
    · rintro rfl
      exact ⟨rfl, rfl⟩

variable {limit : Number.Quantity} {outcome : Outcome}

theorem answerOf_reply (status : Int) (body : List UInt8) :
    answerOf limit (.reply status body) =
      if 200 ≤ status ∧ status < 300 then decodeBody body
      else .error (showing (.refused status) (Text.isWritable status)) := by
  simp only [answerOf, Bool.and_eq_true, decide_eq_true_eq]

theorem answerOf_eq_ok_iff {members : List (String × Json)} :
    answerOf limit outcome = .ok members ↔
      ∃ status body, outcome = .reply status body ∧ (200 ≤ status ∧ status < 300) ∧
        decodeBody body = .ok members := by
  cases outcome with
  | timeout | failed | interrupted _ => simp [answerOf]
  | reply status body =>
    rw [answerOf_reply]
    constructor
    · intro h
      split_ifs at h with hstatus
      exact ⟨status, body, rfl, hstatus, h⟩
    · rintro ⟨status, body, hreply, hstatus, h⟩
      cases hreply
      rwa [if_pos hstatus]

theorem answerOf_error_not_isFailure_iff {e : ChatError} :
    answerOf limit outcome = .error e ∧ e.isFailure = false ↔ outcome.Breaks limit e := by
  constructor
  · rintro ⟨herror, hfailure⟩
    cases outcome with
    | timeout =>
      obtain ⟨hlong, rfl⟩ :=
        (showing_not_isFailure_iff rfl).mp ⟨Except.error.inj herror, hfailure⟩
      exact .timeout hlong
    | failed =>
      cases herror
      cases hfailure
    | interrupted i =>
      cases herror
      exact .client i
    | reply status body =>
      rw [answerOf_reply] at herror
      split_ifs at herror with hstatus
      · rw [isFailure_of_decodeBody herror] at hfailure
        cases hfailure
      · obtain ⟨hlong, rfl⟩ :=
          (showing_not_isFailure_iff rfl).mp ⟨Except.error.inj herror, hfailure⟩
        exact .status hstatus hlong
  · intro h
    cases h with
    | client i => exact ⟨rfl, rfl⟩
    | timeout long =>
      have htimeout : (ChatError.timedOut limit).isFailure = true := rfl
      obtain ⟨hshown, hfailure⟩ := (showing_not_isFailure_iff htimeout).mpr ⟨long, rfl⟩
      exact ⟨congrArg Except.error hshown, hfailure⟩
    | @status status body refused long =>
      have hstatus : (ChatError.refused status).isFailure = true := rfl
      obtain ⟨hshown, hfailure⟩ := (showing_not_isFailure_iff hstatus).mpr ⟨long, rfl⟩
      rw [answerOf_reply, if_neg refused]
      exact ⟨congrArg Except.error hshown, hfailure⟩

end Http

/-! ## The content -/

namespace Chat

theorem content?_eq_some_iff {members : List (String × Json)} {content : Json} :
    content? members = some content ↔
      ∃ first others message, Json.member? members "choices" = some (.arr (first :: others)) ∧
        first.get? "message" = some message ∧ message.get? "content" = some content := by
  rw [content?]
  split
  · rename_i first others hchoices
    simp [hchoices, Option.bind_eq_some_iff]
  · rename_i hchoices
    simp only [reduceCtorEq, false_iff]
    rintro ⟨first, others, message, hfound, -⟩
    exact hchoices first others hfound

/-- The members of the object that a content offers. A content that counts as missing offers an
object without members. -/
inductive Offers : Json → List (String × Json) → Prop where
  | nothing {content : Json} (empty : content.isEmpty = true) : Offers content []
  | object {text : String} {members : List (String × Json)}
      (read : Json.read text.toList = .ok (.obj members)) : Offers (.str text) members

inductive Unreadable : Json → ChatError → Prop where
  | notText {content : Json} (filled : content.isEmpty = false)
      (other : ∀ text, content ≠ .str text) : Unreadable content .contentNotText
  | numeral {text : String} {digits : Text} (long : Json.LongNumeral text.toList digits)
      (read : Json.read text.toList = .error (.numeralTooLong digits.length)) :
      Unreadable (.str text) (.numeralTooLong digits.length)

theorem str_isEmpty_of_read {text : String} (h : Json.read text.toList ≠ .error .malformed) :
    (Json.str text).isEmpty = false := by
  rw [Json.isEmpty, Bool.eq_false_iff]
  intro hempty
  rw [String.isEmpty_iff] at hempty
  subst hempty
  exact h rfl

theorem decodeText_eq_ok_iff {text : String} {members : List (String × Json)} :
    decodeText text = .ok members ↔ Json.read text.toList = .ok (.obj members) := by
  rw [decodeText]
  split <;> simp_all

theorem decodeText_error_not_isFailure_iff {text : String} {e : ChatError} :
    decodeText text = .error e ∧ e.isFailure = false ↔
      ∃ digits, e = .numeralTooLong digits ∧
        Json.read text.toList = .error (.numeralTooLong digits) := by
  constructor
  · rintro ⟨herror, hfailure⟩
    rw [decodeText] at herror
    split at herror
    · cases herror
      cases hfailure
    · rename_i digits hread
      cases herror
      exact ⟨digits, rfl, hread⟩
    · cases herror
    · cases herror
      cases hfailure
  · rintro ⟨digits, rfl, hread⟩
    rw [decodeText, hread]
    exact ⟨rfl, rfl⟩

theorem decodeContent_eq_ok_iff {content : Json} {members : List (String × Json)} :
    decodeContent content = .ok members ↔ Offers content members := by
  constructor
  · intro h
    unfold decodeContent at h
    split_ifs at h with hempty
    · cases h
      exact .nothing hempty
    · split at h
      · exact .object (decodeText_eq_ok_iff.mp h)
      · cases h
  · intro h
    cases h with
    | nothing empty =>
      unfold decodeContent
      rw [if_pos empty]
    | object read =>
      have hfilled := str_isEmpty_of_read (by rw [read]; simp)
      simp only [decodeContent, hfilled, Bool.false_eq_true, if_false]
      exact decodeText_eq_ok_iff.mpr read

theorem decodeContent_error_not_isFailure_iff {content : Json} {e : ChatError} :
    decodeContent content = .error e ∧ e.isFailure = false ↔ Unreadable content e := by
  constructor
  · rintro ⟨herror, hfailure⟩
    unfold decodeContent at herror
    split_ifs at herror with hempty
    split at herror
    · obtain ⟨digits, rfl, hread⟩ := decodeText_error_not_isFailure_iff.mp ⟨herror, hfailure⟩
      obtain ⟨numeral, hlong, rfl⟩ := Json.exists_longNumeral_of_read hread
      exact .numeral hlong hread
    · rename_i hother
      cases herror
      exact .notText (by simpa using hempty) hother
  · intro h
    cases h with
    | notText filled other =>
      unfold decodeContent
      rw [if_neg (by simp [filled])]
      split
      · exact absurd rfl (other _)
      · exact ⟨rfl, rfl⟩
    | numeral _ read =>
      have hfilled := str_isEmpty_of_read (by rw [read]; simp)
      simp only [decodeContent, hfilled, Bool.false_eq_true, if_false]
      exact decodeText_error_not_isFailure_iff.mpr ⟨_, rfl, read⟩

theorem responseOf_eq_ok_iff {members : List (String × Json)} {response : EnhancementResponse} :
    responseOf members = .ok response ↔
      ∃ content offered, content? members = some content ∧ Offers content offered ∧
        response = .ofPayload offered := by
  rw [responseOf]
  cases hcontent : content? members with
  | none => simp
  | some content =>
    simp only [Option.some.injEq, exists_and_left, exists_eq_left', ← decodeContent_eq_ok_iff]
    cases hdecode : decodeContent content with
    | error e => simp [Except.map]
    | ok offered => simp [Except.map, eq_comm]

theorem responseOf_error_not_isFailure_iff {members : List (String × Json)} {e : ChatError} :
    responseOf members = .error e ∧ e.isFailure = false ↔
      ∃ content, content? members = some content ∧ Unreadable content e := by
  rw [responseOf]
  cases hcontent : content? members with
  | none =>
    simp only [reduceCtorEq, false_and, exists_false, iff_false]
    rintro ⟨herror, hfailure⟩
    cases herror
    cases hfailure
  | some content =>
    simp only [Option.some.injEq, exists_eq_left', ← decodeContent_error_not_isFailure_iff]
    cases hdecode : decodeContent content with
    | error e' => simp [Except.map]
    | ok offered => simp [Except.map]

end Chat

theorem Outcome.delivers_iff (limit : Number.Quantity) {outcome : Outcome} {content : Json} :
    outcome.Delivers content ↔
      ∃ members, Http.answerOf limit outcome = .ok members ∧
        Chat.content? members = some content := by
  simp only [Http.answerOf_eq_ok_iff, Http.decodeBody_eq_ok_iff, Chat.content?_eq_some_iff]
  constructor
  · intro h
    cases h with
    | message success decoded object choices chosen given =>
      exact ⟨_, ⟨_, _, rfl, success, _, decoded, object⟩, _, _, _, choices, chosen, given⟩
  · rintro ⟨members, ⟨status, body, rfl, success, text, decoded, object⟩, first, others, message,
      choices, chosen, given⟩
    exact .message success decoded object choices chosen given

/-! ## The question -/

/-- A client that stops for no reasons of its own, and whose replies have a status of three
digits. -/
structure HttpClient.Documented (client : HttpClient) : Prop where
  uninterrupted : ∀ address headers payload limit i,
    client address headers payload limit ≠ .interrupted i
  status : ∀ address headers payload limit status body,
    client address headers payload limit = .reply status body → 100 ≤ status ∧ status ≤ 999

theorem Chat.prompt_eq_error_iff {r : EnhancementRequest} {e : ChatError} :
    prompt r = .error e ↔ Text.isWritable r.lineNumber = false ∧ e = .unwritable := by
  unfold prompt
  cases Text.isWritable r.lineNumber <;> simp [eq_comm]

theorem Text.isWritable_of_lt {n : ℤ} (h : n.natAbs < 1000) : isWritable n = true := by
  have hlimit : 3 ≤ numeralLimit := by decide
  unfold isWritable
  generalize numeralLimit = limit at hlimit ⊢
  have hpower : Nat.pow 10 3 ≤ Nat.pow 10 limit := Nat.pow_le_pow_right (by decide) hlimit
  exact decide_eq_true (h.trans_le hpower)

namespace ChatService

variable {s : ChatService} {client : HttpClient} {r : EnhancementRequest}

def Meets (s : ChatService) (client : HttpClient) (r : EnhancementRequest) (outcome : Outcome) :
    Prop :=
  ∃ prompt, Chat.prompt r = .ok prompt ∧
    client s.url (Http.headersWith s.headers) (s.payload prompt) s.timeout = outcome

/-- A question ends with this error, which is none of the failures that callers expect. -/
inductive Escapes (s : ChatService) (client : HttpClient) (r : EnhancementRequest) :
    ChatError → Prop where
  | line (long : Text.isWritable r.lineNumber = false) : Escapes s client r .unwritable
  | outcome {outcome : Outcome} {e : ChatError} (met : s.Meets client r outcome)
      (breaks : outcome.Breaks s.timeout e) : Escapes s client r e
  | content {outcome : Outcome} {content : Json} {e : ChatError} (met : s.Meets client r outcome)
      (delivered : outcome.Delivers content) (unread : Chat.Unreadable content e) :
      Escapes s client r e

theorem ask_eq_ok_iff_meets {response : EnhancementResponse} :
    s.ask client r = .ok response ↔
      ∃ outcome members, s.Meets client r outcome ∧
        Http.answerOf s.timeout outcome = .ok members ∧ Chat.responseOf members = .ok response := by
  simp only [ask, Http.postJson, bind_eq_ok_iff]
  constructor
  · rintro ⟨prompt, hprompt, members, hanswer, hresponse⟩
    exact ⟨_, members, ⟨prompt, hprompt, rfl⟩, hanswer, hresponse⟩
  · rintro ⟨_, members, ⟨prompt, hprompt, rfl⟩, hanswer, hresponse⟩
    exact ⟨prompt, hprompt, members, hanswer, hresponse⟩

theorem ask_eq_error_iff_meets {e : ChatError} :
    s.ask client r = .error e ↔
      Chat.prompt r = .error e ∨ ∃ outcome, s.Meets client r outcome ∧
        (Http.answerOf s.timeout outcome = .error e ∨ ∃ members,
          Http.answerOf s.timeout outcome = .ok members ∧ Chat.responseOf members = .error e) := by
  simp only [ask, Http.postJson, bind_eq_error_iff]
  refine or_congr_right ?_
  constructor
  · rintro ⟨prompt, hprompt, hrest⟩
    exact ⟨_, ⟨prompt, hprompt, rfl⟩, hrest⟩
  · rintro ⟨_, ⟨prompt, hprompt, rfl⟩, hrest⟩
    exact ⟨prompt, hprompt, hrest⟩

theorem ask_eq_ok_iff {response : EnhancementResponse} :
    s.ask client r = .ok response ↔
      ∃ outcome content offered, s.Meets client r outcome ∧ outcome.Delivers content ∧
        Chat.Offers content offered ∧ response = .ofPayload offered := by
  simp only [ask_eq_ok_iff_meets, Chat.responseOf_eq_ok_iff, Outcome.delivers_iff s.timeout]
  constructor
  · rintro ⟨outcome, members, hmet, hanswer, content, offered, hcontent, hoffers, rfl⟩
    exact ⟨outcome, content, offered, hmet, ⟨members, hanswer, hcontent⟩, hoffers, rfl⟩
  · rintro ⟨outcome, content, offered, hmet, ⟨members, hanswer, hcontent⟩, hoffers, rfl⟩
    exact ⟨outcome, members, hmet, hanswer, content, offered, hcontent, hoffers, rfl⟩

theorem ask_error_not_isFailure_iff {e : ChatError} :
    s.ask client r = .error e ∧ e.isFailure = false ↔ s.Escapes client r e := by
  rw [ask_eq_error_iff_meets]
  constructor
  · rintro ⟨hprompt | ⟨outcome, hmet, hanswer | ⟨members, hanswer, hresponse⟩⟩, hfailure⟩
    · obtain ⟨hlong, rfl⟩ := Chat.prompt_eq_error_iff.mp hprompt
      exact .line hlong
    · exact .outcome hmet (Http.answerOf_error_not_isFailure_iff.mp ⟨hanswer, hfailure⟩)
    · obtain ⟨content, hcontent, hunread⟩ :=
        Chat.responseOf_error_not_isFailure_iff.mp ⟨hresponse, hfailure⟩
      have hdelivers := (Outcome.delivers_iff s.timeout).mpr ⟨members, hanswer, hcontent⟩
      exact .content hmet hdelivers hunread
  · intro h
    cases h with
    | line long => exact ⟨.inl (Chat.prompt_eq_error_iff.mpr ⟨long, rfl⟩), rfl⟩
    | outcome met breaks =>
      obtain ⟨hanswer, hfailure⟩ := Http.answerOf_error_not_isFailure_iff.mpr breaks
      exact ⟨.inr ⟨_, met, .inl hanswer⟩, hfailure⟩
    | content met delivered unread =>
      obtain ⟨members, hanswer, hcontent⟩ := (Outcome.delivers_iff s.timeout).mp delivered
      obtain ⟨hresponse, hfailure⟩ :=
        Chat.responseOf_error_not_isFailure_iff.mpr ⟨_, hcontent, unread⟩
      exact ⟨.inr ⟨_, met, .inr ⟨members, hanswer, hresponse⟩⟩, hfailure⟩

theorem escapes_iff_content (hclient : client.Documented)
    (hline : Text.isWritable r.lineNumber = true) (hlimit : s.timeout.isWritable = true)
    {e : ChatError} :
    s.Escapes client r e ↔ ∃ outcome content, s.Meets client r outcome ∧
      outcome.Delivers content ∧ Chat.Unreadable content e := by
  constructor
  · intro h
    cases h with
    | line long =>
      rw [hline] at long
      cases long
    | outcome met breaks =>
      obtain ⟨prompt, -, houtcome⟩ := met
      cases breaks with
      | client i => exact absurd houtcome (hclient.uninterrupted _ _ _ _ i)
      | timeout long =>
        rw [hlimit] at long
        cases long
      | status refused long =>
        obtain ⟨hleast, hmost⟩ := hclient.status _ _ _ _ _ _ houtcome
        rw [Text.isWritable_of_lt (by omega)] at long
        cases long
    | content met delivered unread => exact ⟨_, _, met, delivered, unread⟩
  · rintro ⟨outcome, content, met, delivered, unread⟩
    exact .content met delivered unread

/-- A question is answered exactly when a message arrives whose content is missing or the text of an
object. It ends with a failure in all other cases but these: a number that has to be shown cannot be
written, the client stops for a reason of its own, or the content of a message that arrives is
unreadable. Of a documented client and with numbers that can be written, only the last is left. -/
theorem ask_escapes_iff (s : ChatService) (client : HttpClient) (r : EnhancementRequest) :
    (∀ response, s.ask client r = .ok response ↔
        ∃ outcome content offered, s.Meets client r outcome ∧ outcome.Delivers content ∧
          Chat.Offers content offered ∧ response = .ofPayload offered) ∧
      (∀ e, s.Escapes client r e ↔ s.ask client r = .error e ∧ e.isFailure = false) ∧
      ((∀ e, ¬ s.Escapes client r e) ↔
        (∃ response, s.ask client r = .ok response) ∨
          ∃ e, s.ask client r = .error e ∧ e.isFailure = true) ∧
      (client.Documented → Text.isWritable r.lineNumber = true → s.timeout.isWritable = true →
        ∀ e, s.Escapes client r e ↔ ∃ outcome content, s.Meets client r outcome ∧
          outcome.Delivers content ∧ Chat.Unreadable content e) := by
  refine ⟨fun _ => ask_eq_ok_iff, fun _ => ask_error_not_isFailure_iff.symm, ?_,
    fun hclient hline hlimit _ => escapes_iff_content hclient hline hlimit⟩
  simp only [← ask_error_not_isFailure_iff]
  cases hask : s.ask client r with
  | ok response => simp
  | error e => simp

/-- A message with a list of texts for its content is neither answered nor refused, though nothing
is wrong with the client. -/
theorem ask_escapes_iff_list_content :
    let s : ChatService := { apiKey := "k" }
    let r : EnhancementRequest := ⟨"Reentrancy", "SWC-107", "x", 1⟩
    let text := "\x7b\"choices\":[\x7b\"message\":\x7b\"content\":[\"x\"]\x7d\x7d]\x7d".toList
    let client : HttpClient := fun _ _ _ _ => .reply 200 (text.map Char.toUInt8)
    client.Documented ∧ s.Escapes client r .contentNotText ∧
      s.ask client r = .error .contentNotText := by
  intro s r text client
  have hclient : client.Documented := by
    refine ⟨fun _ _ _ _ _ => by simp [client], ?_⟩
    intro _ _ _ _ status body h
    cases h
    decide
  have hline : Text.isWritable r.lineNumber = true := Text.isWritable_of_lt (by decide)
  obtain ⟨-, hescapes, -, hcontent⟩ := ask_escapes_iff s client r
  have hprompt : ∃ prompt, Chat.prompt r = .ok prompt := ⟨_, if_pos hline⟩
  obtain ⟨prompt, hprompt⟩ := hprompt
  have hbody : Json.bodyText? (text.map Char.toUInt8) = some text := by decide +kernel
  have hread : Json.read text = .ok (.obj [("choices", .arr [.obj [("message",
      .obj [("content", .arr [.str "x"])])]])]) := by
    unfold text
    cbv
  have hdelivers : (Outcome.reply 200 (text.map Char.toUInt8)).Delivers (.arr [.str "x"]) :=
    .message (by decide) hbody hread rfl rfl rfl
  have hunread : s.Escapes client r .contentNotText :=
    (hcontent hclient hline rfl _).mpr
      ⟨_, _, ⟨prompt, hprompt, rfl⟩, hdelivers, .notText rfl (by simp)⟩
  exact ⟨hclient, hunread, ((hescapes _).mp hunread).1⟩

end ChatService

end ContractAudit
