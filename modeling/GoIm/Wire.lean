/-
What crosses a client's TCP connection, as each side reads it (`cmd/main.go`,
`server/tcp_server.go`, `cmd/client/main.go`).

The gateway reads a frame with `Unpack`; `handleConnection` answers a heartbeat itself and
hands every other frame to `HandleConnection`, which dispatches on `CmdType` to a handler
that unmarshals the body into a struct of its own.  The bundled client writes four kinds
of frame, answers every `Message` frame with an ack of the `SeqID` it reads from it, and
logs the verdict of every `AuthAck`.

* `requestOf` — the request a frame becomes on the gateway;
* `client_frames_read_as_meant` — every frame the client writes, however the stream is
  split into reads, is read as the request the client meant: its token, its recipient and
  content, its `SeqID`, or a heartbeat;
* `client_acks_every_chat_frame` — every chat frame the gateway writes makes the client
  send an ack that the gateway reads as a `MessageAck` of that frame's `SeqID`;
* `client_reads_auth_verdict` — the client reads every `AuthAck` as the verdict the
  gateway sent, whatever the message text beside it;
* `Reachable.ack_of_nonpositive_keeps_mailboxes` — an ack of a `seq_id` at most `0` (the
  zero value the client acks when its `Unmarshal` fails) removes nothing, because every
  mailbox entry is scored within its conversation's handed-out numbers.

Design notes: `ValidateToken` (a JWT check) is a parameter, `judge`, from the token's
text to the verdict the cluster model reads.  As in `Decode`, a body that is not UTF-8 is
refused, where `Unmarshal` would read invalid bytes inside strings as U+FFFD.
-/
import GoIm.Ingress
import GoIm.Ledger

namespace GoIm

/-! ## The gateway's handlers -/

/-- One member of `handleAuth`'s `authReq` struct, `Token`. -/
def authReqSetMember (token : String) (kv : List Char × Scalar) : Option String :=
  if fieldIs kv.1 "token" then decodeString token kv.2 else some token

/-- `json.Unmarshal(msg.Body, &authReq)` on the body's text, into the zero struct. -/
def authReqOfJson (text : List Char) : Option String :=
  (objectMembers text).bind (List.foldlM authReqSetMember "")

/-- One member of `handleMessageAck`'s `ackMsg` struct, `SeqID int64`. -/
def ackMsgSetMember (seq : Int) (kv : List Char × Scalar) : Option Int :=
  if fieldIs kv.1 "seq_id" then decodeInt seq kv.2 else some seq

/-- `json.Unmarshal(msg.Body, &ackMsg)` on the body's text, into the zero struct. -/
def ackMsgOfJson (text : List Char) : Option Int :=
  (objectMembers text).bind (List.foldlM ackMsgSetMember 0)

/-- The request a frame `Unpack` returned becomes: `handleConnection` answers a heartbeat
before `HandleConnection`, which dispatches on `CmdType` to `handleAuth`, `handleMessage`
and `handleMessageAck`, each unmarshalling the body; any other type is only logged.
`judge` is `ValidateToken` on the token's text. -/
def requestOf (judge : String → Token) (msg : Message) : Request :=
  let text := decodeUtf8 msg.body
  if msg.cmdType = cmdTypeHeartbeat then .heartbeat
  else if msg.cmdType = cmdTypeAuth then .auth ((text.bind authReqOfJson).map judge)
  else if msg.cmdType = cmdTypeMessage then .message (text.bind chatMsgOfJson)
  else if msg.cmdType = cmdTypeMessageAck then .messageAck (text.bind ackMsgOfJson)
  else .other msg.cmdType

/-- The text of a body that carries a text. -/
theorem decodeUtf8_utf8Bytes (text : List Char) : decodeUtf8 (utf8Bytes (String.mk text)) = some text :=
  decodeUtf8_toUTF8 _

/-! ## The bundled client -/

/-- `sendAuth`'s body: `map[string]string{"token": token}`. -/
def clientAuthJson (token : String) : List Char := object [field "token" (quote token)]

/-- `sendAck`'s body: `map[string]int64{"seq_id": seqID}`. -/
def clientAckJson (seqID : Int) : List Char := object [field "seq_id" (number seqID)]

/-- A frame the bundled client writes: `sendAuth`, `sendMessage`, `sendAck`, or the
`heartbeat` goroutine's ping. -/
inductive ClientFrame where
  | auth (token : String)
  | message (toUserID content : String)
  | ack (seqID : Int)
  | heartbeat
  deriving DecidableEq, Repr

/-- The `protocol.Message` `sendPacket` hands to `Pack`. -/
def ClientFrame.toMessage : ClientFrame → Message
  | .auth token => ⟨0, 0, cmdTypeAuth, utf8Bytes (String.mk (clientAuthJson token))⟩
  | .message toU content => ⟨0, 0, cmdTypeMessage, utf8Bytes (String.mk (clientMessageJson toU content))⟩
  | .ack seqID => ⟨0, 0, cmdTypeMessageAck, utf8Bytes (String.mk (clientAckJson seqID))⟩
  | .heartbeat => ⟨0, 0, cmdTypeHeartbeat, utf8Bytes "ping"⟩

/-- The request the client means by a frame. -/
def ClientFrame.meaning (judge : String → Token) : ClientFrame → Request
  | .auth token => .auth (some (judge token))
  | .message toU content => .message (some (toU, content))
  | .ack seqID => .messageAck (some seqID)
  | .heartbeat => .heartbeat

/-- A value the client's types can hold: `SeqID` is an `int64`. -/
def ClientFrame.InRange : ClientFrame → Prop
  | .ack seqID => -int64Max - 1 ≤ seqID ∧ seqID ≤ int64Max
  | _ => True

/-- One member of `receiveMessages`'s `chatMsg` struct (`FromUserID`, `Content`,
`SeqID`).  `Unmarshal` skips a member of the wrong type and goes on. -/
def clientChatSetMember (b : String × String × Int) (kv : List Char × Scalar) : String × String × Int :=
  if fieldIs kv.1 "from_user_id" then ((decodeString b.1 kv.2).map fun v => (v, b.2)).getD b
  else if fieldIs kv.1 "content" then ((decodeString b.2.1 kv.2).map fun v => (b.1, v, b.2.2)).getD b
  else if fieldIs kv.1 "seq_id" then ((decodeInt b.2.2 kv.2).map fun v => (b.1, b.2.1, v)).getD b
  else b

/-- `json.Unmarshal(msg.Body, &chatMsg)` in the client, whose error is ignored: a body
that is not an object leaves the zero struct. -/
def clientChatOfJson (text : List Char) : String × String × Int :=
  ((objectMembers text).map (List.foldl clientChatSetMember ("", "", 0))).getD ("", "", 0)

/-- What `receiveMessages` writes back for a frame it read: for a `Message` frame, an ack
of the `SeqID` it unmarshalled; nothing for the others. -/
def clientReply (msg : Message) : Option ClientFrame :=
  if msg.cmdType = cmdTypeMessage then
    some (.ack (((decodeUtf8 msg.body).map clientChatOfJson).getD ("", "", 0)).2.2)
  else none

/-- The verdict `receiveMessages` logs for an `AuthAck` frame: `json.Unmarshal` of the body
into a `map[string]interface{}`, whose error is ignored (a body that does not decode
leaves the map nil; a repeated key keeps its last value), then `resp["success"] == true`.
Nothing for the other frames. -/
def clientAuthVerdict (msg : Message) : Option Bool :=
  if msg.cmdType = cmdTypeAuthAck then
    some ((((decodeUtf8 msg.body).bind objectMembers).bind fun ms =>
      (ms.reverse.find? fun kv => kv.1 == "success".toList).map (·.2)) == some (.bool true))
  else none

/-- The client reads the type and the body only, which `Pack` keeps. -/
theorem clientAuthVerdict_packed (msg : Message) : clientAuthVerdict msg.packed = clientAuthVerdict msg :=
  rfl

/-! ## Round trips -/

/-- `handleAuth` reads back the token the client wrote. -/
theorem authReqOfJson_clientAuthJson (token : String) :
    authReqOfJson (clientAuthJson token) = some token := by
  have hobj : objectMembers (clientAuthJson token) = some [("token".toList, .str token.toList)] :=
    objectMembers_object [("token", quote token, .str token.toList)] (List.cons_ne_nil _ _)
      fun x hx => List.mem_singleton.mp hx ▸ scalarText_quote token
  simp +decide only [authReqOfJson, hobj, Option.some_bind, List.foldlM, authReqSetMember, if_true,
    decodeString, bind, Option.bind]
  rfl

/-- `handleMessageAck` reads back every `int64` the client acks. -/
theorem ackMsgOfJson_clientAckJson {n : Int} (h : -int64Max - 1 ≤ n ∧ n ≤ int64Max) :
    ackMsgOfJson (clientAckJson n) = some n := by
  have hobj : objectMembers (clientAckJson n) = some [("seq_id".toList, .num (number n))] :=
    objectMembers_object [("seq_id", number n, .num (number n))] (List.cons_ne_nil _ _)
      fun x hx => List.mem_singleton.mp hx ▸ scalarText_number n
  simp +decide only [ackMsgOfJson, hobj, Option.some_bind, List.foldlM, ackMsgSetMember, if_true,
    decodeInt, parseInt64_number n h, bind, Option.bind]
  rfl

/-- The gateway reads every frame of the client as the client meant it. -/
theorem requestOf_toMessage (judge : String → Token) {a : ClientFrame} (ha : a.InRange) :
    requestOf judge a.toMessage = a.meaning judge := by
  cases a with
  | auth token =>
    simp +decide only [requestOf, ClientFrame.toMessage, ClientFrame.meaning, decodeUtf8_utf8Bytes,
      Option.some_bind, authReqOfJson_clientAuthJson, Option.map_some', if_true, if_false]
  | message toU content =>
    simp +decide only [requestOf, ClientFrame.toMessage, ClientFrame.meaning, decodeUtf8_utf8Bytes,
      Option.some_bind, chatMsgOfJson_clientMessageJson, if_true, if_false]
  | ack seqID =>
    simp +decide only [requestOf, ClientFrame.toMessage, ClientFrame.meaning, decodeUtf8_utf8Bytes,
      Option.some_bind, ackMsgOfJson_clientAckJson ha, if_true, if_false]
  | heartbeat => rfl

/-- `receiveMessages` reads back the sender, the content and the `SeqID` of every chat
frame whose `SeqID` is an `int64`. -/
theorem clientChatOfJson_toJson (m : ChatMessage) (hs : -int64Max - 1 ≤ m.seqID ∧ m.seqID ≤ int64Max) :
    clientChatOfJson m.toJson = (m.fromUserID, m.content, m.seqID) := by
  have hobj : objectMembers m.toJson = some
      [("from_user_id".toList, .str m.fromUserID.toList), ("to_user_id".toList, .str m.toUserID.toList),
        ("content".toList, .str m.content.toList), ("msg_type".toList, .num (number m.msgType)),
        ("seq_id".toList, .num (number m.seqID)), ("timestamp".toList, .num (number m.timestamp))] :=
    objectMembers_object
      [("from_user_id", quote m.fromUserID, .str m.fromUserID.toList),
        ("to_user_id", quote m.toUserID, .str m.toUserID.toList),
        ("content", quote m.content, .str m.content.toList),
        ("msg_type", number m.msgType, .num (number m.msgType)),
        ("seq_id", number m.seqID, .num (number m.seqID)),
        ("timestamp", number m.timestamp, .num (number m.timestamp))] (List.cons_ne_nil _ _)
      (by simp only [List.mem_cons, List.mem_singleton, forall_eq_or_imp, forall_eq, List.not_mem_nil,
        scalarText_quote, scalarText_number]; simp)
  simp +decide only [clientChatOfJson, hobj, Option.map_some', Option.getD_some, List.foldl,
    clientChatSetMember, if_true, if_false, decodeString, decodeInt, parseInt64_number _ hs]
  rfl

theorem scalarText_bool (b : Bool) : ScalarText (toString b).toList (.bool b) := by
  intro d r _
  cases b <;> rfl

/-- `receiveMessages` reads the verdict of every `AuthAck` `sendAuthResponse` writes,
whatever its message text: the `success` member is the one key of that name. -/
theorem clientAuthVerdict_toMessage (success : Bool) (message : String) :
    clientAuthVerdict (Frame.authAck success message).toMessage = some success := by
  have hobj : objectMembers (authResponseJson success message) =
      some [("message".toList, .str message.toList), ("success".toList, .bool success)] :=
    objectMembers_object [("message", quote message, .str message.toList),
        ("success", (toString success).toList, .bool success)] (List.cons_ne_nil _ _)
      (by simp only [List.mem_cons, List.mem_singleton, forall_eq_or_imp, forall_eq, List.not_mem_nil,
        scalarText_quote, scalarText_bool]; simp)
  simp only [clientAuthVerdict, Frame.toMessage, if_true, decodeUtf8_utf8Bytes, Option.some_bind, hobj]
  cases success <;> rfl

/-! ## Over the stream -/

/-- What `Pack` wrote, followed by anything, however split into reads, is read by one
`Unpack` as the packed message. -/
theorem unpack_of_pack {msg : Message} {bytes : List UInt8} (hp : pack msg = .ok bytes)
    {cs : List (List UInt8)} {rest : List UInt8} (hcs : cs.flatten = bytes ++ rest) :
    ∃ cs', unpack cs = .ok (msg.packed, cs') ∧ cs'.flatten = rest := by
  have hlen : msg.body.length ≤ maxPayloadLength := by
    by_contra hc
    rw [pack_eq_error (by omega)] at hp
    cases hp
  rw [pack_eq_ok hlen] at hp
  cases hp
  exact unpack_pack hlen hcs

/-- Every chat frame the gateway writes, however the stream is split into reads, makes the
bundled client answer with an ack of the frame's `SeqID`, which the gateway reads as a
`MessageAck` of that `SeqID`. -/
theorem client_acks_every_chat_frame (judge : String → Token) {m : ChatMessage}
    (hs : -int64Max - 1 ≤ m.seqID ∧ m.seqID ≤ int64Max) {bytes : List UInt8}
    (hp : pack (Frame.chat m).toMessage = .ok bytes) {cs : List (List UInt8)} {rest : List UInt8}
    (hcs : cs.flatten = bytes ++ rest) :
    ∃ msg cs', unpack cs = .ok (msg, cs') ∧ cs'.flatten = rest ∧ clientReply msg = some (.ack m.seqID) ∧
      requestOf judge (ClientFrame.ack m.seqID).toMessage = .messageAck (some m.seqID) := by
  obtain ⟨cs', hu, hf⟩ := unpack_of_pack hp hcs
  refine ⟨_, cs', hu, hf, ?_, @requestOf_toMessage judge (.ack m.seqID) hs⟩
  simp only [clientReply, Message.packed, Frame.toMessage, if_true, decodeUtf8_utf8Bytes, Option.map_some',
    Option.getD_some, clientChatOfJson_toJson m hs]

theorem client_acks_hi :
    ∃ msg cs', unpack [encodeHeader (Frame.chat ⟨"alice", "bob", "hi", msgTypePrivate, 1, 0⟩).toMessage.packed ++
        (Frame.chat ⟨"alice", "bob", "hi", msgTypePrivate, 1, 0⟩).toMessage.body] = .ok (msg, cs') ∧
      cs'.flatten = [] ∧ clientReply msg = some (.ack 1) ∧
      requestOf (fun _ => .invalid) (ClientFrame.ack 1).toMessage = .messageAck (some 1) :=
  @client_acks_every_chat_frame (fun _ => .invalid) ⟨"alice", "bob", "hi", msgTypePrivate, 1, 0⟩
    (by norm_num [int64Max]) _ (pack_eq_ok (by decide)) _ [] (by simp)

/-- Every `AuthAck` the gateway writes, however the stream is split into reads, is read by
the bundled client as the verdict `handleAuth` sent, whatever the message beside it (the
user ID, or `ValidateToken`'s error text). -/
theorem client_reads_auth_verdict (success : Bool) (message : String) {bytes : List UInt8}
    (hp : pack (Frame.authAck success message).toMessage = .ok bytes) {cs : List (List UInt8)}
    {rest : List UInt8} (hcs : cs.flatten = bytes ++ rest) :
    ∃ msg cs', unpack cs = .ok (msg, cs') ∧ cs'.flatten = rest ∧ clientAuthVerdict msg = some success := by
  obtain ⟨cs', hu, hf⟩ := unpack_of_pack hp hcs
  exact ⟨_, cs', hu, hf, (clientAuthVerdict_packed _).trans (clientAuthVerdict_toMessage success message)⟩

theorem client_reads_invalid_request :
    ∃ msg cs', unpack [encodeHeader (Frame.authAck false "Invalid request").toMessage.packed ++
        (Frame.authAck false "Invalid request").toMessage.body] = .ok (msg, cs') ∧
      cs'.flatten = [] ∧ clientAuthVerdict msg = some false :=
  client_reads_auth_verdict false "Invalid request" (pack_eq_ok (by decide)) (by simp)

/-! ## Acks that remove nothing -/

/-- Every mailbox entry of a reachable state is scored by a number handed out in its
message's conversation. -/
theorem Reachable.score_allocated {s : Cluster} (h : Reachable s) {u : String} {x : MailEntry}
    (hx : x ∈ s.store.mailbox u) :
    x.1 ∈ allocated s.trace (getConversationID x.2.fromUserID x.2.toUserID) := by
  obtain ⟨origin, ho⟩ := h.routed.mailbox u x hx
  rw [h.scoredBySeq u x hx]
  exact List.mem_filterMap.mpr ⟨_, ho, by simp [Obs.seqIn, OfflineMessage.chat]⟩

/-- An ack frame runs `Remove` on the connection's user, or does nothing. -/
theorem handleFrame_messageAck_store (s : Cluster) (ci : Nat) (r : Option Int) (p : Bool) :
    (s.handleFrame ci (.messageAck r) p).store = s.store ∨
      ∃ u n, r = some n ∧ (s.handleFrame ci (.messageAck r) p).store = offlineRemove s.store u n := by
  unfold Cluster.handleFrame
  split
  · exact .inl rfl
  · dsimp only
    split
    · exact .inl rfl
    · split
      · exact .inr ⟨_, _, rfl, rfl⟩
      · exact .inl rfl

/-- In every reachable state, a `MessageAck` of a `seq_id` at most `0` leaves every mailbox
as it is: every entry is scored by a number `INCR` handed out, so at least `1`.  The
bundled client acks `0` when its `Unmarshal` of a frame fails, and a body without
`seq_id` decodes to `0`. -/
theorem Reachable.ack_of_nonpositive_keeps_mailboxes {s : Cluster} (h : Reachable s) (ci : Nat) {n : Int}
    (hn : n ≤ 0) (p : Bool) :
    (step s (.frame ci (.messageAck (some n)) p)).store.mailbox = s.store.mailbox := by
  have hkeep : ∀ u, (offlineRemove s.store u n).mailbox = s.store.mailbox := fun u => funext fun v => by
    rw [mailbox_offlineRemove]
    split
    · next hv =>
      subst hv
      refine List.filter_eq_self.mpr fun x hx => decide_eq_true ?_
      have := ((h.allocInv _).2 _ (h.score_allocated hx)).1
      omega
    · rfl
  simp only [step]
  split
  · split
    · rcases handleFrame_messageAck_store (s.setReader ci .check) ci (some n) p with he | ⟨u, n', hr, he⟩
      · rw [he, Cluster.setReader_store]
      · cases hr
        rw [he, Cluster.setReader_store, hkeep]
    · rfl
  · rfl

theorem ack_zero_keeps_bobs_mailbox :
    (step (run (Cluster.initial ["g"]) ackBeforeOfflineDelivery) (.frame 1 (.messageAck (some 0)) false)).store.mailbox =
      (run (Cluster.initial ["g"]) ackBeforeOfflineDelivery).store.mailbox :=
  Reachable.ack_of_nonpositive_keeps_mailboxes ((Reachable.initial _).run _) 1 le_rfl false

end GoIm
