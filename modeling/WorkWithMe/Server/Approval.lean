import Mathlib.Logic.Function.Basic
import WorkWithMe.Client.Messages

/-!
# Approval responses

The `ApprovalManager` of `server/approval.rs` keeps, for every request that waits for the user, the
sending half of a oneshot channel, and `respond` hands the decision to it.  The decision comes in
over the WebSocket: `handle_approval_response` reads it from the member `data` of the message, and
does nothing at all, without a reply, when that is not an `ApprovalResponse`.

* `reachesRequest_iff` says which frames carry a decision to its request: those of an approval
  route whose `data` is the response.
* `not_reachesRequest_approvalResponseMessage`: the message of the front end, which has the id and
  the decision at its top level and no `data`, is never one of them.
-/

set_option autoImplicit false

namespace WorkWithMe.Server

/-! ## The manager -/

/-- A request that waits for a decision, at the receiving half of its channel. -/
abbrev RequestId := ℕ

/-- Approval response from user. -/
structure ApprovalResponse where
  /-- The approval it is for. -/
  id : String
  /-- The decision. -/
  approved : Bool
  deriving DecidableEq

/-- The pending requests, and what has been sent to the requests. -/
structure ApprovalManager where
  /-- The request whose sender is pending under an id. -/
  pending : String → Option RequestId
  /-- The decision a request has received. -/
  received : RequestId → Option Bool

/-- No request so far. -/
def ApprovalManager.new : ApprovalManager where
  pending _ := none
  received _ := none

/-- Respond to an approval request. -/
def ApprovalManager.respond (m : ApprovalManager) (response : ApprovalResponse) :
    Bool × ApprovalManager :=
  match m.pending response.id with
  | some r => (true,
    { pending := Function.update m.pending response.id none
      received := Function.update m.received r (some response.approved) })
  | none => (false, m)

/-! ## The handler -/

/-- The derived decoder of `ApprovalResponse`. -/
def decodeApprovalResponse (v : Json) : Option ApprovalResponse :=
  if v.isRecord 2 then do
    let id ← Json.required Json.asStr (v.fieldValues 0 ["id"])
    let approved ← Json.required Json.asBool (v.fieldValues 1 ["approved"])
    return ⟨id, approved⟩
  else none

/-- `handle_approval_response`: nothing happens when `data` is no response. -/
def handleApprovalResponse (msg : Envelope) (m : ApprovalManager) : List Reply × ApprovalManager :=
  match decodeApprovalResponse msg.data with
  | some response => ([.approvalAck (m.respond response).1], (m.respond response).2)
  | none => ([], m)

/-- What `dispatch_message` comes to. -/
inductive Dispatched where
  /-- The message is answered at once. -/
  | answer (replies : List Reply) (approvals : ApprovalManager)
  /-- `handle_new_chat` is called. -/
  | newChat
  /-- `handle_prompt` is called. -/
  | prompt

/-- Route an incoming message to its handler. -/
def dispatchMessage (msg : Envelope) (m : ApprovalManager) : Dispatched :=
  match route msg.type with
  | .join => .answer [.joinAck msg.sessionId] m
  | .newChat => .newChat
  | .prompt => .prompt
  | .steer => .answer [.steerAck msg.sessionId] m
  | .approval => .answer (handleApprovalResponse msg m).1 (handleApprovalResponse msg m).2
  | .unknown => .answer [.error ("Unknown message type: " ++ msg.type)] m

/-- The replies to a frame that come at once, and the approvals after it. -/
def answerFrame (t : CharTable) (f : Incoming) (m : ApprovalManager) :
    List Reply × ApprovalManager :=
  match receive t f with
  | .stop replies | .answer replies => (replies, m)
  | .dispatch msg =>
    match dispatchMessage msg m with
    | .answer replies m' => (replies, m')
    | .newChat | .prompt => ([], m)

/-! ## What a response does -/

section Respond

variable {m : ApprovalManager} {response : ApprovalResponse} {r : RequestId}

theorem respond_of_pending (h : m.pending response.id = some r) :
    m.respond response = (true,
      { pending := Function.update m.pending response.id none
        received := Function.update m.received r (some response.approved) }) := by
  rw [ApprovalManager.respond, h]

theorem respond_of_not_pending (h : m.pending response.id = none) :
    m.respond response = (false, m) := by
  rw [ApprovalManager.respond, h]

theorem respond_fst (m : ApprovalManager) (response : ApprovalResponse) :
    (m.respond response).1 = (m.pending response.id).isSome := by
  cases h : m.pending response.id with
  | none => rw [respond_of_not_pending h]; rfl
  | some r => rw [respond_of_pending h]; rfl

/-- Nothing is pending any more under the id. -/
theorem respond_pending_self (m : ApprovalManager) (response : ApprovalResponse) :
    (m.respond response).2.pending response.id = none := by
  cases h : m.pending response.id with
  | none => rw [respond_of_not_pending h, h]
  | some r => rw [respond_of_pending h]; exact Function.update_self ..

/-- The other ids stay as they are. -/
theorem respond_pending_of_ne (m : ApprovalManager) {j : String} (hj : j ≠ response.id) :
    (m.respond response).2.pending j = m.pending j := by
  cases h : m.pending response.id with
  | none => rw [respond_of_not_pending h]
  | some r => rw [respond_of_pending h]; exact Function.update_of_ne hj ..

/-- Only the request that was pending under the id receives something. -/
theorem respond_received_of_ne (h : m.pending response.id ≠ some r) :
    (m.respond response).2.received r = m.received r := by
  cases hp : m.pending response.id with
  | none => rw [respond_of_not_pending hp]
  | some q =>
    rw [respond_of_pending hp]
    exact Function.update_of_ne (fun hr ↦ h (by rw [hp, hr])) ..

/-- **A second response** finds nothing and changes nothing. -/
theorem respond_again (m : ApprovalManager) (response second : ApprovalResponse)
    (h : second.id = response.id) :
    (m.respond response).2.respond second = (false, (m.respond response).2) :=
  respond_of_not_pending (by rw [h, respond_pending_self])

end Respond

/-! ## From the message to the request -/

/-- The frame carries the decision on `id` to the request that waits for it. -/
structure ReachesRequest (t : CharTable) (f : Incoming) (id : String) (approved : Bool)
    (m : ApprovalManager) : Prop where
  /-- It is decoded into a response with the id and the decision. -/
  decoded : ∃ msg, receive t f = .dispatch msg ∧ route msg.type = .approval ∧
    decodeApprovalResponse msg.data = some ⟨id, approved⟩
  /-- The pending request receives the decision. -/
  received : ∀ r, m.pending id = some r → (answerFrame t f m).2.received r = some approved
  /-- It is no longer pending. -/
  removed : (answerFrame t f m).2.pending id = none
  /-- Every other entry is as it was. -/
  others : ∀ j, j ≠ id → (answerFrame t f m).2.pending j = m.pending j
  /-- No other request receives anything. -/
  silent : ∀ r, m.pending id ≠ some r → (answerFrame t f m).2.received r = m.received r
  /-- The client gets one acknowledgement. -/
  ack : (answerFrame t f m).1 = [.approvalAck (m.pending id).isSome]
  /-- The same frame a second time is acknowledged as a failure and changes nothing. -/
  again : answerFrame t f (answerFrame t f m).2 =
    ([.approvalAck false], (answerFrame t f m).2)

theorem answerFrame_of_decoded {t : CharTable} {f : Incoming} {msg : Envelope}
    {response : ApprovalResponse} (hf : receive t f = .dispatch msg)
    (hroute : route msg.type = .approval) (hd : decodeApprovalResponse msg.data = some response)
    (m : ApprovalManager) :
    answerFrame t f m = ([.approvalAck (m.respond response).1], (m.respond response).2) := by
  rw [answerFrame]
  rw [hf]
  simp only [dispatchMessage, hroute, handleApprovalResponse, hd]

/-- **Which frames carry a decision to its request.** -/
theorem reachesRequest_iff (t : CharTable) (f : Incoming) (id : String) (approved : Bool)
    (m : ApprovalManager) :
    ReachesRequest t f id approved m ↔ ∃ msg, receive t f = .dispatch msg ∧
      route msg.type = .approval ∧ decodeApprovalResponse msg.data = some ⟨id, approved⟩ := by
  refine ⟨ReachesRequest.decoded, fun h ↦ ?_⟩
  obtain ⟨msg, hf, hroute, hd⟩ := h
  have hm := answerFrame_of_decoded hf hroute hd
  refine ⟨⟨msg, hf, hroute, hd⟩, fun r hr ↦ ?_, ?_, fun j hj ↦ ?_, fun r hr ↦ ?_, ?_, ?_⟩
  · have hp : m.pending (⟨id, approved⟩ : ApprovalResponse).id = some r := hr
    rw [hm, respond_of_pending hp]
    exact Function.update_self ..
  · rw [hm]
    exact respond_pending_self m ⟨id, approved⟩
  · rw [hm]
    exact respond_pending_of_ne m hj
  · rw [hm]
    exact respond_received_of_ne hr
  · rw [hm, respond_fst]
  · rw [hm m, hm, respond_again m ⟨id, approved⟩ ⟨id, approved⟩ rfl]

/-- The read loop hands the message of the front end on without a `data`, or refuses it. -/
theorem data_of_approvalResponseMessage {t : CharTable} {size : ℕ} {id : String} {approved : Bool}
    {sid : Option SessionId} {msg : Envelope}
    (h : receive t (.text size (some (Client.approvalResponseMessage id approved sid))) =
      .dispatch msg) : msg.data = .null := by
  obtain ⟨size', v, hf, -, hd, -⟩ := receive_eq_dispatch h
  obtain ⟨-, hv⟩ := Incoming.text.inj hf
  obtain rfl := Option.some.inj hv
  rw [Client.decode_approvalResponseMessage, Option.some_inj] at hd
  rw [← hd]

/-- **No approval response of the front end reaches its request.** -/
theorem not_reachesRequest_approvalResponseMessage (t : CharTable) (size : ℕ) (id : String)
    (approved : Bool) (sid : Option SessionId) (m : ApprovalManager) :
    ¬ReachesRequest t (.text size (some (Client.approvalResponseMessage id approved sid))) id
      approved m := by
  rw [reachesRequest_iff]
  rintro ⟨msg, hf, -, hd⟩
  rw [data_of_approvalResponseMessage hf] at hd
  cases hd

/-- The user approves the only pending request; it goes on waiting, and nobody is told. -/
theorem approval_of_request_lost :
    answerFrame .asciiOnly
        (.text 81 (some (Client.approvalResponseMessage "req-1" true (some "s"))))
        ⟨fun id ↦ if id = "req-1" then some 0 else none, fun _ ↦ none⟩ =
      ([], ⟨fun id ↦ if id = "req-1" then some 0 else none, fun _ ↦ none⟩) ∧
    ¬ReachesRequest .asciiOnly
        (.text 81 (some (Client.approvalResponseMessage "req-1" true (some "s")))) "req-1" true
        ⟨fun id ↦ if id = "req-1" then some 0 else none, fun _ ↦ none⟩ := by
  have h : receive .asciiOnly
      (.text 81 (some (Client.approvalResponseMessage "req-1" true (some "s")))) =
      .dispatch ⟨⟨"s", "", "", ""⟩, "sandbox_approval_response", .null⟩ :=
    receive_text (by decide) (Client.decode_approvalResponseMessage ..)
      ((validateWsMessage_eq_none (by decide) (by decide) rfl).mpr (by decide))
  constructor
  · rw [answerFrame]
    rw [h]
    rfl
  · intro hr
    obtain ⟨msg, hf, -, hd⟩ := hr.decoded
    rw [h, Received.dispatch.injEq] at hf
    rw [← hf] at hd
    cases hd

end WorkWithMe.Server
