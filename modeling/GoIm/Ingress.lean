/-
What a client's `Message` frame becomes (`cmd/main.go`, `cmd/client/main.go`).

`handleMessage` unmarshals the body into a struct of two strings, `to_user_id` and
`content`, and passes them to `SendPrivateMessage`; the frame that carries the message
out is the `Marshal` of a `ChatMessage`, with four more fields.

* `chatMsgOfJson` — `handleMessage`'s `json.Unmarshal`: a member absent from the body
  leaves its field empty (`chatMsgOfJson_fst_of_absent`, `chatMsgOfJson_snd_of_absent`);
* `chatMsgOfJson_clientMessageJson` — it reads back the body the bundled client writes;
* `byteLength_chat_toJson` — the egress body is 53 bytes longer than the client's
  ingress body, plus the sender's quoted id and the `SeqID`'s digits;
* `chat_frame_outgrows_ingress_limit` — a body at the ingress limit becomes a frame that
  `Pack` refuses;
* `body_without_recipient_is_routed` — a body with no `to_user_id` still gets a sequence
  number and is stored, in the mailbox of the empty user id.
-/
import GoIm.Cluster

namespace GoIm

/-! ## `handleMessage`'s body -/

/-- One member of `handleMessage`'s `chatMsg` struct, (`ToUserID`, `Content`). -/
def chatMsgSetMember (b : String × String) (kv : List Char × Scalar) : Option (String × String) :=
  if fieldIs kv.1 "to_user_id" then (decodeString b.1 kv.2).map fun v => (v, b.2)
  else if fieldIs kv.1 "content" then (decodeString b.2 kv.2).map fun v => (b.1, v)
  else some b

/-- `json.Unmarshal(msg.Body, &chatMsg)` on the body's text, into the zero struct. -/
def chatMsgOfJson (text : List Char) : Option (String × String) :=
  (objectMembers text).bind (List.foldlM chatMsgSetMember ("", ""))

/-- A property of the struct that each member keeps holds of the decoded struct. -/
theorem foldlM_chatMsgSetMember (P : String × String → Prop) :
    ∀ (ms : List (List Char × Scalar)) {b b' : String × String},
      (∀ kv ∈ ms, ∀ c c', P c → chatMsgSetMember c kv = some c' → P c') → P b →
      ms.foldlM chatMsgSetMember b = some b' → P b'
  | [], _, _, _, hb, h => by cases h; exact hb
  | kv :: ms, b, b', hstep, hb, h => by
    obtain ⟨c, hc, h⟩ := Option.bind_eq_some.mp h
    exact foldlM_chatMsgSetMember P ms (fun kv' hkv' => hstep kv' (List.mem_cons_of_mem _ hkv'))
      (hstep kv (List.mem_cons_self _ _) b c hb hc) h

/-- A member under another key leaves `ToUserID` as it is. -/
theorem chatMsgSetMember_fst {b b' : String × String} {kv : List Char × Scalar}
    (hk : fieldIs kv.1 "to_user_id" = false) (h : chatMsgSetMember b kv = some b') : b'.1 = b.1 := by
  unfold chatMsgSetMember at h
  rw [if_neg (by simp [hk])] at h
  split at h
  · obtain ⟨v, -, rfl⟩ := Option.map_eq_some'.mp h; rfl
  · cases h; rfl

/-- A member under another key leaves `Content` as it is. -/
theorem chatMsgSetMember_snd {b b' : String × String} {kv : List Char × Scalar}
    (hk : fieldIs kv.1 "content" = false) (h : chatMsgSetMember b kv = some b') : b'.2 = b.2 := by
  unfold chatMsgSetMember at h
  split at h
  · obtain ⟨v, -, rfl⟩ := Option.map_eq_some'.mp h; rfl
  · rw [if_neg (by simp [hk])] at h; cases h; rfl

section Absent

variable {text : List Char} {ms : List (List Char × Scalar)} (hm : objectMembers text = some ms)
  {b : String × String} (hb : chatMsgOfJson text = some b)
include hm hb

/-- A body with no `to_user_id` member decodes, if at all, with an empty recipient. -/
theorem chatMsgOfJson_fst_of_absent (hk : ∀ kv ∈ ms, fieldIs kv.1 "to_user_id" = false) : b.1 = "" := by
  rw [chatMsgOfJson, hm, Option.some_bind] at hb
  exact foldlM_chatMsgSetMember (fun c => c.1 = "") ms
    (fun kv hkv c c' hc h => (chatMsgSetMember_fst (hk kv hkv) h).trans hc) rfl hb

/-- A body with no `content` member decodes, if at all, with an empty content. -/
theorem chatMsgOfJson_snd_of_absent (hk : ∀ kv ∈ ms, fieldIs kv.1 "content" = false) : b.2 = "" := by
  rw [chatMsgOfJson, hm, Option.some_bind] at hb
  exact foldlM_chatMsgSetMember (fun c => c.2 = "") ms
    (fun kv hkv c c' hc h => (chatMsgSetMember_snd (hk kv hkv) h).trans hc) rfl hb

end Absent

/-- The body `sendMessage` of the bundled client writes: a `map[string]string`, whose
keys `Marshal` writes sorted. -/
def clientMessageJson (toUserID content : String) : List Char :=
  object [field "content" (quote content), field "to_user_id" (quote toUserID)]

/-- `handleMessage` reads back what the client wrote. -/
theorem chatMsgOfJson_clientMessageJson (toUserID content : String) :
    chatMsgOfJson (clientMessageJson toUserID content) = some (toUserID, content) := by
  have hobj : objectMembers (clientMessageJson toUserID content) =
      some [("content".toList, .str content.toList), ("to_user_id".toList, .str toUserID.toList)] :=
    objectMembers_object [("content", quote content, .str content.toList),
        ("to_user_id", quote toUserID, .str toUserID.toList)] (List.cons_ne_nil _ _)
      (by simp only [List.mem_cons, List.mem_singleton, forall_eq_or_imp, forall_eq, List.not_mem_nil,
        scalarText_quote]; simp)
  simp +decide only [chatMsgOfJson, hobj, Option.some_bind, List.foldlM, chatMsgSetMember, if_true,
    if_false, decodeString, Option.map_some', bind, Option.bind]
  rfl

theorem byteLength_clientMessageJson (toU content : String) :
    byteLength (clientMessageJson toU content) = byteLength (quote content) + byteLength (quote toU) + 26 := by
  have hk : byteLength (quote "content") = 9 ∧ byteLength (quote "to_user_id") = 12 := by decide
  have hc : ':'.utf8Size = 1 ∧ ','.utf8Size = 1 ∧ '\x7b'.utf8Size = 1 ∧ '\x7d'.utf8Size = 1 := by decide
  simp only [clientMessageJson, object, field, List.intercalate, List.intersperse, List.flatten,
    byteLength_append, byteLength_cons, byteLength_nil, hk, hc]
  omega

/-! ## The size of the frame that carries a message out -/

/-- The egress body of a message is its client's ingress body with `from_user_id`,
`msg_type`, `seq_id` and `timestamp` added: 53 bytes, the sender's quoted id and the
`SeqID`'s digits more. -/
theorem byteLength_chat_toJson (fromU toU content : String) (seq : Int) :
    byteLength (ChatMessage.toJson ⟨fromU, toU, content, msgTypePrivate, seq, 0⟩) =
      byteLength (clientMessageJson toU content) + byteLength (quote fromU) + byteLength (number seq) + 53 := by
  have hk : byteLength (quote "from_user_id") = 14 ∧ byteLength (quote "to_user_id") = 12 ∧
      byteLength (quote "content") = 9 ∧ byteLength (quote "msg_type") = 10 ∧
      byteLength (quote "seq_id") = 8 ∧ byteLength (quote "timestamp") = 11 ∧
      byteLength (number msgTypePrivate) = 1 ∧ byteLength (number 0) = 1 := by decide
  have hc : ':'.utf8Size = 1 ∧ ','.utf8Size = 1 ∧ '\x7b'.utf8Size = 1 ∧ '\x7d'.utf8Size = 1 := by decide
  simp only [ChatMessage.toJson, clientMessageJson, object, field, List.intercalate, List.intersperse,
    List.flatten, byteLength_append, byteLength_cons, byteLength_nil, hk, hc]
  omega

/-- `n` letters `a`, which JSON writes as they are. -/
theorem byteLength_quote_replicate (n : Nat) :
    byteLength (quote (String.mk (List.replicate n 'a'))) = n + 2 := by
  have h : ∀ n, byteLength ((List.replicate n 'a').flatMap escapeChar) = n := by
    intro n
    induction n with
    | zero => rfl
    | succ n ih =>
      have ha : byteLength (escapeChar 'a') = 1 := by decide
      rw [List.replicate_succ, List.flatMap_cons, byteLength_append, ih, ha]
      omega
  have hq : '"'.utf8Size = 1 := by decide
  simp only [quote, String.toList, byteLength_cons, byteLength_append, h, byteLength_nil, hq]

/-- A content that fills the client's body for `bob` to the byte limit. -/
def nearLimitContent : String := String.mk (List.replicate (maxPayloadLength - 33) 'a')

/-- A message accepted at the ingress limit cannot go out.  The client's body for `bob`
with `MaxPayloadLength - 33` letters is exactly `MaxPayloadLength` bytes, so `Pack` frames
it and `Unpack` accepts it, and `handleMessage` reads it back.  The chat frame that
`deliverLocal` or `DeliverOfflineMessages` builds for it from `alice` is 61 bytes over the
limit: `Pack` refuses it, and `Send` returns `ErrPayloadTooLarge` and queues nothing. -/
theorem chat_frame_outgrows_ingress_limit :
    (utf8Bytes (String.mk (clientMessageJson "bob" nearLimitContent))).length = maxPayloadLength ∧
      chatMsgOfJson (clientMessageJson "bob" nearLimitContent) = some ("bob", nearLimitContent) ∧
      (Frame.chat ⟨"alice", "bob", nearLimitContent, msgTypePrivate, 1, 0⟩).toMessage.body.length =
        maxPayloadLength + 61 ∧
      (∀ (c : Conn) (p : Bool), c.send (.chat ⟨"alice", "bob", nearLimitContent, msgTypePrivate, 1, 0⟩) p =
        (c, .packError .payloadTooLarge)) ∧
      ∀ (fromU toU content : String) (seq : Int),
        byteLength (ChatMessage.toJson ⟨fromU, toU, content, msgTypePrivate, seq, 0⟩) =
          byteLength (clientMessageJson toU content) + byteLength (quote fromU) + byteLength (number seq) + 53 := by
  have hq : byteLength (quote nearLimitContent) = maxPayloadLength - 33 + 2 := byteLength_quote_replicate _
  have hin : byteLength (clientMessageJson "bob" nearLimitContent) = maxPayloadLength := by
    rw [byteLength_clientMessageJson, hq, show byteLength (quote "bob") = 5 from rfl]
    unfold maxPayloadLength; omega
  have hout : (Frame.chat ⟨"alice", "bob", nearLimitContent, msgTypePrivate, 1, 0⟩).toMessage.body.length =
      maxPayloadLength + 61 := by
    rw [Frame.toMessage, length_utf8Bytes, byteLength_chat_toJson, hin]
    rfl
  have hpack := pack_eq_error (show maxPayloadLength < _ by rw [hout]; omega)
  exact ⟨by rw [length_utf8Bytes, hin], chatMsgOfJson_clientMessageJson _ _, hout,
    fun _ p => Conn.send_of_pack_error hpack p, byteLength_chat_toJson⟩

/-! ## A body without a recipient -/

theorem sendPrivateMessage_seqs (s : Cluster) {g : String} {origin : Nat} {fromU toU content : String}
    {p : Bool} {seq : Int} {st : Store} (h : nextSeq s.store (getConversationID fromU toU) = some (seq, st)) :
    (s.sendPrivateMessage g origin fromU toU content p).store.seqs = st.seqs := by
  unfold Cluster.sendPrivateMessage
  dsimp only
  rw [h]
  dsimp only
  split
  · rfl
  · split
    · unfold Cluster.deliverLocal
      split <;> simp [Cluster.storeOffline, offlineStore]
    · simp

theorem step_message_seqs {s : Cluster} {ci : Nat} {c : Conn} {toU content : String} {p : Bool}
    {seq : Int} {st : Store} (hc : s.conns ci = some c) (hr : c.reader = .read) (hu : c.userID ≠ "")
    (h : nextSeq s.store (getConversationID c.userID toU) = some (seq, st)) :
    (step s (.frame ci (.message (some (toU, content))) p)).store.seqs (getConversationID c.userID toU) = some seq := by
  have hc' : (s.setReader ci .check).conns ci = some { c with reader := .check } := by simp [hc]
  simp only [step, hc, hr, if_true, Cluster.handleFrame, hc']
  rw [if_neg hu]
  rw [sendPrivateMessage_seqs _ (by simpa using h)]
  obtain ⟨rfl, rfl⟩ := Store.incrBy_eq_some h
  simp

/-- `alice` logs in and sends a body that names no recipient. -/
def messageWithoutRecipient : List Event :=
  [.accept "g", .check 0 false false, .frame 0 (.auth (some (.valid "alice"))) false,
    .check 0 false false, .frame 0 (.message (chatMsgOfJson "\x7b\"content\":\"hi\"\x7d".toList)) false]

/-- A body without `to_user_id` is not dropped.  It decodes with the empty recipient, the
conversation `:alice` gets its first sequence number, and the message is stored in the
mailbox of the user id `""`.  In general, every body with no `to_user_id` member decodes
with the empty recipient, and every such message on an authenticated connection moves a
counter. -/
theorem body_without_recipient_is_routed :
    chatMsgOfJson "\x7b\"content\":\"hi\"\x7d".toList = some ("", "hi") ∧
      (run (Cluster.initial ["g"]) messageWithoutRecipient).trace =
        [.bind 0 "alice", .enqueue 0 (.authAck true "alice"), .alloc 0 ⟨"alice", "", "hi", msgTypePrivate, 1, 0⟩] ∧
      (run (Cluster.initial ["g"]) messageWithoutRecipient).store.seqs ":alice" = some 1 ∧
      (run (Cluster.initial ["g"]) messageWithoutRecipient).store.mailbox "" =
        [(1, ⟨"alice", "", "hi", msgTypePrivate, 1, 0⟩)] ∧
      (∀ (text : List Char) (ms : List (List Char × Scalar)) (b : String × String),
        objectMembers text = some ms → (∀ kv ∈ ms, fieldIs kv.1 "to_user_id" = false) →
        chatMsgOfJson text = some b → b.1 = "") ∧
      ∀ (s : Cluster) (ci : Nat) (c : Conn) (content : String) (p : Bool) (seq : Int) (st : Store),
        s.conns ci = some c → c.reader = .read → c.userID ≠ "" →
        nextSeq s.store (getConversationID c.userID "") = some (seq, st) →
        (step s (.frame ci (.message (some ("", content))) p)).store.seqs (getConversationID c.userID "") =
          some seq :=
  ⟨by decide, by decide, by decide, by decide, fun _ _ _ hm hk hb => chatMsgOfJson_fst_of_absent hm hb hk,
    fun _ _ _ _ _ _ _ hc hr hu h => step_message_seqs hc hr hu h⟩

end GoIm
