import WorkWithMe.Lib.Record
import WorkWithMe.Server.Call

/-!
# What the read loop makes of an incoming frame

`handle_socket` reads one frame after the other.  A text frame that is not too long and that
decodes as an `Envelope` (the `WsMessage` of `server/ws.rs`) is validated and dispatched on its
type; everything else is answered on the spot.  `receive` is this first half of an iteration, up to
the call of `dispatch_message`, and `route` is the `match` of `dispatch_message`.

The decoder skips what it does not know, and `sessionId` may be `null`.  `receive_eq_dispatch` is
the inversion lemma for a frame that reaches a handler, `receive_text` its converse.
-/

set_option autoImplicit false

namespace WorkWithMe.Server

/-! ## The envelope -/

/-- Incoming WebSocket message envelope. -/
structure Envelope extends WsMessage where
  /-- The kind of message. -/
  type : String
  /-- What an approval response is read from. -/
  data : Json

/-- A string, or `null` for the empty one. -/
def nullToEmptyString : Json → Option String
  | .null => some ""
  | .str s => some s
  | _ => none

@[simp] theorem nullToEmptyString_str (s : String) : nullToEmptyString (.str s) = some s := rfl

/-- The derived decoder of `WsMessage`. -/
def decodeWsMessage (v : Json) : Option Envelope :=
  if v.isRecord 6 then do
    let type ← Json.required Json.asStr (v.fieldValues 0 ["type"])
    let sessionId ← Json.withDefault "" nullToEmptyString
      (v.fieldValues 1 ["session_id", "sessionId"])
    let content ← Json.withDefault "" nullToEmptyString (v.fieldValues 2 ["content"])
    let text ← Json.withDefault "" nullToEmptyString (v.fieldValues 3 ["text"])
    let cwd ← Json.withDefault "" nullToEmptyString (v.fieldValues 4 ["cwd"])
    let data ← Json.withDefault .null some (v.fieldValues 5 ["data"])
    return ⟨⟨sessionId, content, text, cwd⟩, type, data⟩
  else none

/-! ## Validation -/

/-- `char::is_alphanumeric`, of which only its values on ASCII letters and digits matter here. -/
structure CharTable where
  /-- The characters that count as alphanumeric. -/
  isAlphanumeric : Char → Bool
  /-- ASCII letters and digits are among them. -/
  ascii : ∀ c, c.isAlphanum = true → isAlphanumeric c = true

/-- The table of a program that only sees ASCII. -/
def CharTable.asciiOnly : CharTable := ⟨Char.isAlphanum, fun _ h ↦ h⟩

/-- The characters a message type may consist of. -/
def CharTable.isTypeChar (t : CharTable) (c : Char) : Bool :=
  t.isAlphanumeric c || c == ':' || c == '-' || c == '_'

/-- `validate_ws_message`: the error, when there is one. -/
def validateWsMessage (t : CharTable) (msg : Envelope) : Option String :=
  if msg.type = "" then some "Message type cannot be empty"
  else if msg.type.toList.all t.isTypeChar = false then some "Invalid message type format"
  else if 64 < msg.sessionId.utf8ByteSize then some "Session ID too long"
  else if 1024 * 1024 < msg.content.utf8ByteSize then some "Message content too large"
  else none

/-! ## Frames in and out -/

/-- A frame from the client.  A text has its length in bytes and, when it is JSON, what it says. -/
inductive Incoming where
  | text (size : ℕ) (body : Option Json)
  | binary
  | close
  | ping
  | pong
  | failed

/-- A frame the read loop sends by itself. -/
inductive Reply where
  /-- An error. -/
  | error (message : String)
  /-- The answer to a ping. -/
  | pong
  /-- A subscription is confirmed. -/
  | joinAck (sessionId : SessionId)
  /-- A steering message is confirmed. -/
  | steerAck (sessionId : SessionId)
  /-- An approval response is confirmed. -/
  | approvalAck (success : Bool)
  deriving DecidableEq

/-- The JSON of a reply; a pong is no text. -/
def Reply.toJson : Reply → Json
  | .error message => .obj [("type", .str "error"), ("message", .str message)]
  | .pong => .null
  | .joinAck sid =>
    .obj [("type", .str "join:ack"), ("session_id", .str sid), ("subscribed", .bool true)]
  | .steerAck sid =>
    .obj [("type", .str "steer:ack"), ("session_id", .str sid), ("success", .bool true)]
  | .approvalAck success => .obj [("type", .str "approval:ack"), ("success", .bool success)]

/-- What an iteration of the read loop comes to. -/
inductive Received where
  /-- The loop ends, after a last reply perhaps. -/
  | stop (replies : List Reply)
  /-- The frame is answered, and the loop goes on. -/
  | answer (replies : List Reply)
  /-- The message goes to `dispatch_message`. -/
  | dispatch (msg : Envelope)

/-- The longest text, in bytes. -/
def maxMessageSize : ℕ := 1024 * 1024

/-- The body of the loop of `handle_socket`, up to the call of `dispatch_message`. -/
def receive (t : CharTable) : Incoming → Received
  | .text size body =>
    if maxMessageSize < size then .stop [.error "Message exceeds 1 MB limit"]
    else match body.bind decodeWsMessage with
      | some msg =>
        match validateWsMessage t msg with
        | some e => .answer [.error e]
        | none => .dispatch msg
      | none => .answer [.error "Invalid JSON message format"]
  | .binary => .answer [.error "Binary messages not supported"]
  | .close => .stop []
  | .ping => .answer [.pong]
  | .pong => .answer []
  | .failed => .stop []

/-- The branches of `dispatch_message`. -/
inductive Route where
  | join
  | newChat
  | prompt
  | steer
  | approval
  | unknown
  deriving DecidableEq

/-- The branch for a type. -/
def route (type : String) : Route :=
  if type = "join" then .join
  else if type = "new_chat" then .newChat
  else if type = "prompt" ∨ type = "agent:message" then .prompt
  else if type = "steer" then .steer
  else if type = "sandbox_approval_response" ∨ type = "approval:response" then .approval
  else .unknown

/-! ## What gets through -/

/-- A short text that decodes to a valid message is dispatched. -/
theorem receive_text {t : CharTable} {size : ℕ} {v : Json} {msg : Envelope}
    (hsize : size ≤ maxMessageSize) (hd : decodeWsMessage v = some msg)
    (hv : validateWsMessage t msg = none) : receive t (.text size (some v)) = .dispatch msg := by
  rw [receive, if_neg (by omega), Option.bind_some, hd]
  simp only [hv]

/-- Only a text that decodes to a valid message is dispatched. -/
theorem receive_eq_dispatch {t : CharTable} {f : Incoming} {msg : Envelope}
    (h : receive t f = .dispatch msg) :
    ∃ size v, f = .text size (some v) ∧ size ≤ maxMessageSize ∧ decodeWsMessage v = some msg ∧
      validateWsMessage t msg = none := by
  cases f with
  | text size body =>
    rw [receive] at h
    split at h
    · cases h
    · rename_i hsize
      split at h
      · rename_i m hm
        split at h
        · cases h
        · rename_i hv
          cases h
          obtain ⟨v, rfl, hd⟩ := Option.bind_eq_some_iff.mp hm
          exact ⟨size, v, rfl, by omega, hd, hv⟩
      · cases h
  | binary => cases h
  | close => cases h
  | ping => cases h
  | pong => cases h
  | failed => cases h

/-- A type of ASCII letters, colons, hyphens and underscores is well formed. -/
theorem CharTable.all_isTypeChar {t : CharTable} {l : List Char}
    (h : l.all CharTable.asciiOnly.isTypeChar = true) : l.all t.isTypeChar = true := by
  rw [List.all_eq_true] at h ⊢
  intro c hc
  have := h c hc
  simp only [isTypeChar, asciiOnly, Bool.or_eq_true] at this ⊢
  rcases this with ((h | h) | h) | h
  · exact Or.inl (Or.inl (Or.inl (t.ascii c h)))
  · exact Or.inl (Or.inl (Or.inr h))
  · exact Or.inl (Or.inr h)
  · exact Or.inr h

/-- **Validation**, for a message with an ASCII type and no `content`: it is the length of the
session id that matters. -/
theorem validateWsMessage_eq_none {t : CharTable} {msg : Envelope} (hne : msg.type ≠ "")
    (htype : msg.type.toList.all CharTable.asciiOnly.isTypeChar = true)
    (hcontent : msg.content = "") :
    validateWsMessage t msg = none ↔ msg.sessionId.utf8ByteSize ≤ 64 := by
  have h0 : ¬1024 * 1024 < msg.content.utf8ByteSize := by
    rw [hcontent]
    decide
  rw [validateWsMessage, if_neg hne, if_neg (by rw [t.all_isTypeChar htype]; decide), if_neg h0]
  split
  · simp; omega
  · simp; omega

end WorkWithMe.Server
