import WorkWithMe.Server.Envelope

/-!
# The messages of the chat front end

What the front end hands to `wsSend`, as JSON, and what `decodeWsMessage` reads from it:
`handleSubmit` and `handleApprovalResponse` of `ChatContext.tsx` have messages of their own, and
`join` and `new_chat` come from several places.  An image is what an attachment has become: its
MIME type and its content in base64.  `Outgoing` has all the messages of a session.

* `decode_steerMessage`, `decode_promptMessage`, `decode_approvalResponseMessage` and
  `decode_toJson` are the envelopes on the other side.  The images of a prompt, and the id and the
  decision of an approval response, are not in them.
-/

set_option autoImplicit false

namespace WorkWithMe.Client

open Server

/-! ## Composing -/

/-- A string or `null`. -/
def textOrNull : Option String → Json
  | some s => .str s
  | none => .null

/-- An attached image. -/
structure Image where
  /-- Its MIME type. -/
  mimeType : String
  /-- Its content in base64. -/
  data : String
  deriving DecidableEq

/-- The image in the payload. -/
def Image.toJson (image : Image) : Json :=
  .obj [("type", .str "image"), ("mimeType", .str image.mimeType), ("data", .str image.data)]

/-- The characters `String.prototype.trim` removes: white space and line terminators. -/
def isWhiteSpace (c : Char) : Bool :=
  (9 ≤ c.toNat && c.toNat ≤ 13) || (0x2000 ≤ c.toNat && c.toNat ≤ 0x200A) ||
    [0x20, 0xA0, 0x1680, 0x2028, 0x2029, 0x202F, 0x205F, 0x3000, 0xFEFF].contains c.toNat

/-- `String.prototype.trim`. -/
def trim (s : String) : String :=
  .ofList ((s.toList.dropWhile isWhiteSpace).reverse.dropWhile isWhiteSpace).reverse

/-- The message of a steering input. -/
def steerMessage (text : String) (sessionId : Option SessionId) : Json :=
  .obj [("type", .str "steer"), ("text", .str text), ("sessionId", textOrNull sessionId)]

/-- The message of a prompt: it has images when there is at least one. -/
def promptMessage (text : String) (sessionId : Option SessionId) (images : List Image) : Json :=
  .obj ([("type", .str "prompt"), ("text", .str text), ("sessionId", textOrNull sessionId)] ++
    if images = [] then [] else [("images", .arr (images.map Image.toJson))])

/-- The message of `handleApprovalResponse`. -/
def approvalResponseMessage (id : String) (approved : Bool) (sessionId : Option SessionId) : Json :=
  .obj [("type", .str "sandbox_approval_response"), ("id", .str id), ("approved", .bool approved),
    ("sessionId", textOrNull sessionId)]

/-- What the user has submitted, once it is on its way. -/
inductive Sent where
  /-- A steering input, of which the attachments are left behind. -/
  | steer (text : String)
  /-- A prompt. -/
  | prompt (text : String) (images : List Image)
  deriving DecidableEq

/-- `handleSubmit`: nothing is sent for an empty input; while a run is going the input steers it,
otherwise it is a prompt. -/
def handleSubmit (isProcessing : Bool) (input : String) (attachments : List Image) : Option Sent :=
  if trim input = "" ∧ attachments = [] then none
  else if isProcessing then some (.steer input)
  else some (.prompt (trim input) attachments)

/-- The payload. -/
def Sent.toJson (sessionId : Option SessionId) : Sent → Json
  | .steer text => steerMessage text sessionId
  | .prompt text images => promptMessage text sessionId images

/-- The message that joins a session. -/
def joinMessage (sessionId : SessionId) : Json :=
  .obj [("type", .str "join"), ("sessionId", .str sessionId)]

/-- The message that asks for a new chat. -/
def newChatMessage (cwd : Option String) : Json :=
  .obj [("type", .str "new_chat"), ("cwd", textOrNull cwd)]

/-- A message of a session. -/
inductive Outgoing where
  | join (sessionId : SessionId)
  | newChat (cwd : Option String)
  /-- What the user has submitted, for a session. -/
  | submitted (message : Sent) (sessionId : Option SessionId)
  deriving DecidableEq

/-- The payload. -/
def Outgoing.toJson : Outgoing → Json
  | .join sid => joinMessage sid
  | .newChat cwd => newChatMessage cwd
  | .submitted m sid => m.toJson sid

/-! ## What the server reads -/

@[simp] theorem nullToEmptyString_textOrNull (s : Option String) :
    nullToEmptyString (textOrNull s) = some (s.getD "") := by
  cases s <;> rfl

theorem decode_approvalResponseMessage (id : String) (approved : Bool) (sid : Option SessionId) :
    decodeWsMessage (approvalResponseMessage id approved sid) =
      some ⟨⟨sid.getD "", "", "", ""⟩, "sandbox_approval_response", .null⟩ := by
  simp [approvalResponseMessage, decodeWsMessage, Json.isRecord, Json.fieldValues, Json.required,
    Json.withDefault]

theorem decode_steerMessage (text : String) (sid : Option SessionId) :
    decodeWsMessage (steerMessage text sid) =
      some ⟨⟨sid.getD "", "", text, ""⟩, "steer", .null⟩ := by
  simp [steerMessage, decodeWsMessage, Json.isRecord, Json.fieldValues, Json.required,
    Json.withDefault]

theorem decode_promptMessage (text : String) (sid : Option SessionId) (images : List Image) :
    decodeWsMessage (promptMessage text sid images) =
      some ⟨⟨sid.getD "", "", text, ""⟩, "prompt", .null⟩ := by
  rw [promptMessage]
  -- the member `images`, if it is there, is no field of the envelope
  split <;> simp [decodeWsMessage, Json.isRecord, Json.fieldValues, Json.required,
    Json.withDefault]

/-- The envelope of a message. -/
def Outgoing.envelope : Outgoing → Envelope
  | .join sid => ⟨⟨sid, "", "", ""⟩, "join", .null⟩
  | .newChat cwd => ⟨⟨"", "", "", cwd.getD ""⟩, "new_chat", .null⟩
  | .submitted (.steer text) sid => ⟨⟨sid.getD "", "", text, ""⟩, "steer", .null⟩
  | .submitted (.prompt text _) sid => ⟨⟨sid.getD "", "", text, ""⟩, "prompt", .null⟩

/-- **The messages of a session** as the server reads them. -/
theorem decode_toJson (m : Outgoing) : decodeWsMessage m.toJson = some m.envelope := by
  cases m with
  | join sid =>
    simp [Outgoing.toJson, joinMessage, Outgoing.envelope, decodeWsMessage, Json.isRecord,
      Json.fieldValues, Json.required, Json.withDefault]
  | newChat cwd =>
    simp [Outgoing.toJson, newChatMessage, Outgoing.envelope, decodeWsMessage, Json.isRecord,
      Json.fieldValues, Json.required, Json.withDefault]
  | submitted m sid =>
    cases m with
    | steer text => exact decode_steerMessage text sid
    | prompt text images => exact decode_promptMessage text sid images

end WorkWithMe.Client
