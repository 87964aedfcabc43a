/-
Every chat frame a socket carries is a message `SendPrivateMessage` built
(`service/message.go`, `service/pubsub.go`, `service/offline.go`).

`SendPrivateMessage` builds its `ChatMessage` once, with the sequence number, and then
hands it to `deliverLocal` on the sender's gateway, marshals it for the recipient's
gateway, or marshals it into the recipient's mailbox.  `HandlePubSubMessage` and
`DeliverOfflineMessages` rebuild a `ChatMessage` from what `json.Unmarshal` returns, and
`Unmarshal` reads back what `Marshal` wrote (`PubSubMessage.ofJson_toJson`,
`OfflineMessage.ofJson_toJson`): the rebuilt message is the one built, so the frame body
the recipient's socket carries is the same bytes on all three paths.

* `Routes`, `ChatMessage.Built` — a message the trace records as built, and what
  `SendPrivateMessage` puts in every message it builds;
* `Routed` — every chat frame queued, every payload waiting at a subscription and every
  mailbox entry carries a built message;
* `step_routed`, `Reachable.routed` — `Routed` holds in every reachable state;
* `written_chat_is_routed` — every chat frame written to any socket is a message
  `SendPrivateMessage` built.

Design notes: a payload or a mailbox entry is compared with the built message through the
`ChatMessage` its reader rebuilds from it (`PubSubMessage.chat`, `OfflineMessage.chat`),
so the time `Store` stamps on a mailbox entry, which no frame carries, plays no part.
-/
import GoIm.Sockets
import GoIm.Mailbox

namespace GoIm

/-- The trace records `m` as a message `SendPrivateMessage` built. -/
def Routes (t : List Obs) (m : ChatMessage) : Prop := ∃ origin, Obs.alloc origin m ∈ t

theorem Routes.mono {t t' : List Obs} {m : ChatMessage} (h : Routes t m) (ht : t ⊆ t') :
    Routes t' m :=
  h.imp fun _ ho => ht ho

/-- What `SendPrivateMessage` puts in every message it builds: `MsgTypePrivate`, no
timestamp, and a sequence number `INCR` returned, so within `int64`. -/
structure ChatMessage.Built (m : ChatMessage) : Prop where
  msgType : m.msgType = msgTypePrivate
  timestamp : m.timestamp = 0
  seqID : -int64Max - 1 ≤ m.seqID ∧ m.seqID ≤ int64Max

/-- A built message is the one `deliverLocal`'s mailbox fallback writes out field by
field. -/
theorem ChatMessage.Built.eta {m : ChatMessage} (h : m.Built) :
    (⟨m.fromUserID, m.toUserID, m.content, msgTypePrivate, m.seqID, 0⟩ : ChatMessage) = m := by
  obtain ⟨h1, h2, -⟩ := h
  cases m
  dsimp only at h1 h2
  rw [h1, h2]

/-- The `ChatMessage` `HandlePubSubMessage` builds from a pub/sub message. -/
def PubSubMessage.chat (m : PubSubMessage) : ChatMessage :=
  ⟨m.fromUserID, m.toUserID, m.content, m.msgType, m.seqID, 0⟩

/-- The `ChatMessage` `DeliverOfflineMessages` builds from a mailbox entry. -/
def OfflineMessage.chat (m : OfflineMessage) : ChatMessage :=
  ⟨m.fromUserID, m.toUserID, m.content, m.msgType, m.seqID, 0⟩

theorem msgTypePrivate_range : -int64Max - 1 ≤ msgTypePrivate ∧ msgTypePrivate ≤ int64Max := by
  simp only [int64Max, msgTypePrivate]; omega

/-- A pub/sub message that rebuilds a built message decodes from its text. -/
theorem ChatMessage.Built.ofJson_pubSub {m : PubSubMessage} (h : m.chat.Built) :
    PubSubMessage.ofJson m.toJson = some m :=
  PubSubMessage.ofJson_toJson m (by rw [show m.msgType = _ from h.msgType]; exact msgTypePrivate_range)
    h.seqID

/-- A mailbox entry that rebuilds a built message decodes from its text. -/
theorem ChatMessage.Built.ofJson_offline {m : OfflineMessage} (h : m.chat.Built) :
    OfflineMessage.ofJson m.toJson = some m :=
  OfflineMessage.ofJson_toJson m (by rw [show m.msgType = _ from h.msgType]; exact msgTypePrivate_range)
    h.seqID

/-- The payloads delivered to gateway `g`'s subscription and not yet handled. -/
def Cluster.inbox (s : Cluster) (g : String) : List (List Char) :=
  ((s.gateways g).map (·.inbox)).getD []

theorem Cluster.inbox_setGateway (s : Cluster) (g g' : String) (gw : Gateway) :
    (s.setGateway g gw).inbox g' = if g' = g then gw.inbox else s.inbox g' := by
  by_cases h : g' = g
  · subst h; simp [Cluster.inbox]
  · simp [Cluster.inbox, h]

theorem Cluster.inbox_of_gateways {s s' : Cluster} (h : s'.gateways = s.gateways) :
    s'.inbox = s.inbox := by
  funext g; simp [Cluster.inbox, h]

theorem Cluster.inbox_setManager (s : Cluster) (g : String) (m : ConnectionManager) :
    (s.setManager g m).inbox = s.inbox := by
  rw [Cluster.setManager_eq]
  split
  · next gw hgw => funext g'; rw [Cluster.inbox_setGateway]; split <;> simp_all [Cluster.inbox]
  · rfl

theorem Cluster.trace_subset_send (s : Cluster) (ci : Nat) (f : Frame) (p : Bool) :
    s.trace ⊆ (s.send ci f p).trace := by
  unfold Cluster.send
  split
  · dsimp only; split <;> simp
  · exact List.Subset.refl _

/-- The invariant: the trace records only built messages as built, and every chat frame
queued on a connection, every payload waiting at a gateway's subscription and every
mailbox entry carries one. -/
structure Routed (s : Cluster) : Prop where
  built : ∀ m, Routes s.trace m → m.Built
  queued : ∀ ci m, Obs.enqueue ci (.chat m) ∈ s.trace → Routes s.trace m
  inbox : ∀ g, ∀ t ∈ s.inbox g, ∃ m : PubSubMessage, t = m.toJson ∧ Routes s.trace m.chat
  mailbox : ∀ u, ∀ x ∈ s.store.mailbox u, Routes s.trace x.2.chat

/-- What logging `o` needs for `Routed` to stay: a message recorded as built is `Built`,
and a chat frame recorded as queued carries a message already built. -/
def Obs.RoutedIn (t : List Obs) : Obs → Prop
  | .alloc _ m => m.Built
  | .enqueue _ (.chat m) => Routes t m
  | _ => True

/-! ## What each operation does to the invariant -/

namespace Routed

variable {s : Cluster}

theorem congr (h : Routed s) {s' : Cluster} (ht : s'.trace = s.trace) (hi : s'.inbox = s.inbox)
    (hm : s'.store.mailbox = s.store.mailbox) : Routed s' := by
  obtain ⟨hb, hq, hin, hmb⟩ := h
  constructor <;> simp only [ht, hi, hm] <;> assumption

theorem log (h : Routed s) (o : Obs) (ho : o.RoutedIn s.trace) : Routed (s.log o) := by
  have mono : ∀ {m}, Routes s.trace m → Routes (s.log o).trace m :=
    fun hr => hr.mono (List.subset_append_left _ _)
  refine ⟨fun m ⟨origin, hm⟩ => ?_, fun ci m hm => ?_, fun g t ht => ?_, fun u x hx => ?_⟩
  · rcases List.mem_append.mp hm with hm | hm
    · exact h.built m ⟨origin, hm⟩
    · rw [← List.mem_singleton.mp hm] at ho; exact ho
  · rcases List.mem_append.mp hm with hm | hm
    · exact mono (h.queued ci m hm)
    · rw [← List.mem_singleton.mp hm] at ho; exact mono ho
  · obtain ⟨m, rfl, hm⟩ := h.inbox g t ht
    exact ⟨m, rfl, mono hm⟩
  · exact mono (h.mailbox u x hx)

/-- Logging a built message: the message is then routed. -/
theorem logAlloc (h : Routed s) (origin : Nat) (m : ChatMessage) (hm : m.Built) :
    Routed (s.log (.alloc origin m)) ∧ Routes (s.log (.alloc origin m)).trace m :=
  ⟨h.log _ hm, origin, List.mem_append_right _ (List.mem_singleton_self _)⟩

theorem setGateway (h : Routed s) (g : String) (gw : Gateway)
    (hg : ∀ t ∈ gw.inbox, t ∈ s.inbox g ∨ ∃ m : PubSubMessage, t = m.toJson ∧ Routes s.trace m.chat) :
    Routed (s.setGateway g gw) := by
  refine ⟨h.built, h.queued, fun g' t ht => ?_, h.mailbox⟩
  rw [Cluster.inbox_setGateway] at ht
  split at ht
  · next hg' => exact (hg t ht).elim (h.inbox g t) id
  · exact h.inbox g' t ht

/-- Rewriting a gateway whose pending payloads only lose some. -/
theorem setGateway_of_subset (h : Routed s) {g : String} {gw : Gateway}
    (hgw : s.gateways g = some gw) (gw' : Gateway) (hsub : gw'.inbox ⊆ gw.inbox) :
    Routed (s.setGateway g gw') :=
  h.setGateway g gw' fun t ht => .inl (by simpa [Cluster.inbox, hgw] using hsub ht)

theorem withStore (h : Routed s) (st : Store)
    (hm : ∀ u, ∀ x ∈ st.mailbox u, x ∈ s.store.mailbox u ∨ Routes s.trace x.2.chat) :
    Routed { s with store := st } :=
  ⟨h.built, h.queued, h.inbox, fun u x hx => (hm u x hx).elim (h.mailbox u x) id⟩

theorem withTasks (h : Routed s) (ts : List (Nat × String)) : Routed { s with tasks := ts } :=
  h.congr rfl rfl rfl

theorem setConn (h : Routed s) (ci : Nat) (c : Conn) : Routed (s.setConn ci c) :=
  h.congr rfl rfl rfl

theorem setReader (h : Routed s) (ci : Nat) (r : ReaderPhase) : Routed (s.setReader ci r) :=
  h.congr (by simp) (Cluster.inbox_of_gateways (by simp)) (by simp)

theorem setManager (h : Routed s) (g : String) (m : ConnectionManager) :
    Routed (s.setManager g m) :=
  h.congr (by simp) (Cluster.inbox_setManager s g m) (by simp)

theorem send (h : Routed s) (ci : Nat) (f : Frame) (p : Bool)
    (hf : ∀ m, f = .chat m → Routes s.trace m) : Routed (s.send ci f p) := by
  unfold Cluster.send
  split
  · dsimp only
    split
    · refine (h.setConn _ _).log _ ?_
      cases f with
      | chat m => exact hf m rfl
      | _ => trivial
    · exact h.setConn _ _
  · exact h

theorem sendAll : ∀ {s : Cluster}, Routed s → ∀ (ci : Nat) (fs : List Frame) (ps : List Bool),
    (∀ m, Frame.chat m ∈ fs → Routes s.trace m) → Routed (s.sendAll ci fs ps)
  | _, h, _, [], _, _ => h
  | s, h, ci, f :: fs, ps, hf =>
    sendAll (h.send ci f _ fun m hm => hf m (hm ▸ List.mem_cons_self _ _)) ci fs ps.tail
      fun m hm => (hf m (List.mem_cons_of_mem _ hm)).mono (s.trace_subset_send ci f _)

theorem storeOffline (h : Routed s) (fromU toU content : String) (seq : Int)
    (hr : Routes s.trace ⟨fromU, toU, content, msgTypePrivate, seq, 0⟩) :
    Routed (s.storeOffline fromU toU content seq) :=
  h.withStore _ fun _ _ hx =>
    (mem_mailbox_offlineStore hx).imp_right fun ⟨_, hx⟩ => by rw [hx]; exact hr

theorem deliverLocal (h : Routed s) (g uid : String) (msg : ChatMessage) (p : Bool)
    (hr : Routes s.trace msg) : Routed (s.deliverLocal g uid msg p) := by
  unfold Cluster.deliverLocal
  split
  · exact h.send _ _ _ fun m hm => by cases hm; exact hr
  · exact h.storeOffline _ _ _ _ (by rw [(h.built msg hr).eta]; exact hr)

theorem publish (h : Routed s) (tg : String) (m : PubSubMessage) (hr : Routes s.trace m.chat) :
    Routed (s.publish tg m) := by
  unfold Cluster.publish
  split
  · next gw hgw =>
    split
    · refine (h.setGateway _ _ fun t ht => ?_).log _ trivial
      rcases List.mem_append.mp ht with ht | ht
      · exact .inl (by simpa [Cluster.inbox, hgw] using ht)
      · exact .inr ⟨m, List.mem_singleton.mp ht, hr⟩
    · exact h
  · exact h

theorem sendPrivateMessage (h : Routed s) (g : String) (origin : Nat) (fromU toU content : String)
    (p : Bool) : Routed (s.sendPrivateMessage g origin fromU toU content p) := by
  unfold Cluster.sendPrivateMessage
  dsimp only
  split
  · exact h
  · next seq st hseq =>
    obtain ⟨-, hst⟩ := Store.incrBy_eq_some hseq
    have hs : Routed { s with store := st } := h.congr rfl rfl (by rw [hst]; rfl)
    obtain ⟨ha, hr⟩ := hs.logAlloc origin ⟨fromU, toU, content, msgTypePrivate, seq, 0⟩
      ⟨rfl, rfl, Store.incrBy_range hseq⟩
    split
    · exact ha.storeOffline _ _ _ _ hr
    · split
      · exact ha.deliverLocal _ _ _ _ hr
      · exact ha.publish _ _ hr

theorem handlePubSubMessage (h : Routed s) (g : String) (m : PubSubMessage) (p : Bool)
    (hr : Routes s.trace m.chat) : Routed (s.handlePubSubMessage g m p) :=
  h.deliverLocal _ _ _ _ hr

/-- What `FetchLatest` returns from a mailbox of built messages is the messages stored:
each member decodes to the entry's message. -/
theorem mem_fetchLatest (h : Routed s) {u : String} {n : Int} {m : OfflineMessage}
    (hm : m ∈ fetchLatest s.store u n) : ∃ x ∈ s.store.mailbox u, x.2 = m := by
  obtain ⟨x, hx, hdec⟩ := List.mem_filterMap.mp hm
  have hx : x ∈ s.store.mailbox u :=
    List.mem_reverse.mp (List.mem_of_mem_drop (List.mem_of_mem_take hx))
  rw [(h.built _ (h.mailbox u x hx)).ofJson_offline] at hdec
  exact ⟨x, hx, Option.some.inj hdec⟩

theorem deliverOfflineMessages (h : Routed s) (ci : Nat) (uid : String) (ps : List Bool) :
    Routed (s.deliverOfflineMessages ci uid ps) :=
  h.sendAll ci _ ps fun m hm => by
    obtain ⟨e, he, hf⟩ := List.mem_map.mp hm
    obtain ⟨x, hx, rfl⟩ := h.mem_fetchLatest he
    rw [← Frame.chat.inj hf]
    exact h.mailbox uid x hx

theorem handleAuth (h : Routed s) (g : String) (ci : Nat) (c : Conn) (tok : Option Token)
    (p : Bool) : Routed (s.handleAuth g ci c tok p) := by
  unfold Cluster.handleAuth
  split
  · exact h.send _ _ _ (by rintro m ⟨⟩)
  · exact h.send _ _ _ (by rintro m ⟨⟩)
  · exact ((((h.setConn _ _).log (.bind _ _) trivial).setManager _ _).withStore _ fun u x hx => .inl (by
      rwa [Store.mailbox_congr (Store.foldl_exec_now _ _) (Store.foldl_exec_mailboxes _ _)] at hx)
      ).send _ _ _ (by rintro m ⟨⟩) |>.withTasks _

theorem handleFrame (h : Routed s) (ci : Nat) (req : Request) (p : Bool) :
    Routed (s.handleFrame ci req p) := by
  unfold Cluster.handleFrame
  split
  · exact h
  · split
    · exact h.send _ _ _ (by rintro m ⟨⟩)
    · exact h.handleAuth _ _ _ _ _
    · split
      · exact h
      · split
        · exact h.sendPrivateMessage _ _ _ _ _ _
        · exact h
    · split
      · exact h
      · split
        · exact h.withStore _ fun u x hx => .inl (mailbox_offlineRemove_subset _ _ _ _ hx)
        · exact h
    · exact h

end Routed

/-! ## Over whole runs -/

/-- Every step keeps the invariant. -/
theorem step_routed {s : Cluster} (h : Routed s) (e : Event) : Routed (step s e) := by
  cases e with
  | accept g =>
    simp only [step]
    split
    · next gw hgw =>
      split
      · exact h
      · exact (h.setGateway_of_subset hgw _ (by exact List.Subset.refl _)).congr rfl rfl rfl
    · exact h
  | check ci q p =>
    simp only [step]
    split
    · split
      · exact h
      · split
        · exact (h.send _ _ _ (by rintro m ⟨⟩)).setReader _ _
        · split <;> exact h.setReader _ _
    · exact h
  | frame ci req p =>
    simp only [step]
    split
    · split
      · exact (h.setReader _ _).handleFrame _ _ _
      · exact h
    · exact h
  | readError ci =>
    simp only [step]
    split
    · split
      · exact h.setReader _ _
      · exact h
    · exact h
  | cleanup ci =>
    simp only [step]
    split
    · split
      · exact (h.setManager _ _).setConn _ _
      · exact h
    · exact h
  | writeLoop ci p fail =>
    simp only [step]
    split
    · exact h.setConn _ _
    · exact h
  | receive g p =>
    simp only [step]
    split
    · next gw hgw =>
      split
      · next t rest hin =>
        split
        · have h1 := h.setGateway_of_subset hgw { gw with inbox := rest }
            (by rw [hin]; exact List.subset_cons_self _ _)
          split
          · next m hdec =>
            obtain ⟨m', rfl, hr⟩ := h.inbox g t (by simp [Cluster.inbox, hgw, hin])
            rw [(h.built _ hr).ofJson_pubSub] at hdec
            cases hdec
            exact (h1.log (.receive _ _) trivial).handlePubSubMessage _ _ _
              (hr.mono (List.subset_append_left _ _))
          · exact h1
        · exact h
      · exact h
    · exact h
  | deliverOffline i ps =>
    simp only [step]
    split
    · exact (h.withTasks _).deliverOfflineMessages _ _ _
    · exact h
  | stop g =>
    simp only [step]
    split
    · next gw hgw => exact h.setGateway_of_subset hgw _ (by exact List.Subset.refl _)
    · exact h
  | stopPubSub g =>
    simp only [step]
    split
    · next gw hgw => exact h.setGateway_of_subset hgw _ (by exact List.nil_subset _)
    · exact h
  | tick dt => exact h.withStore _ fun u x hx => .inl (mailbox_tick_subset _ _ _ hx)

theorem Reachable.routed {s : Cluster} (h : Reachable s) : Routed s := by
  induction h with
  | initial gs =>
    refine ⟨fun m ⟨_, hm⟩ => (by cases hm), fun _ _ hm => (by cases hm), fun g t ht => ?_,
      fun u x hx => (by cases hx)⟩
    simp only [Cluster.inbox, Cluster.initial] at ht
    split at ht <;> cases ht
  | next e _ ih => exact step_routed ih e

/-- The frame `o` records as queued on connection `ci`. -/
theorem Obs.frameOn_eq_some {o : Obs} {ci : Nat} {f : Frame} (h : o.frameOn ci = some f) :
    o = .enqueue ci f := by
  cases o <;> simp only [Obs.frameOn, reduceCtorEq] at h
  split at h
  · next hc => cases h; rw [hc]
  · cases h

/-- In every reachable state, every chat frame written to any connection's socket is a
message `SendPrivateMessage` built, whichever path it took: `deliverLocal` on the
sender's gateway, a publish and the recipient's gateway's `HandlePubSubMessage`, or the
mailbox and `DeliverOfflineMessages`. -/
theorem written_chat_is_routed {s : Cluster} (h : Reachable s) {ci : Nat} {c : Conn}
    (hc : s.conns ci = some c) {m : ChatMessage} (hm : Frame.chat m ∈ c.written) :
    ∃ origin, Obs.alloc origin m ∈ s.trace := by
  have hs := h.sound ci
  simp only [ConnView.Sound, Cluster.view, hc] at hs
  obtain ⟨o, ho, hf⟩ := List.mem_filterMap.mp (hs.2.subset (List.mem_append_left _ hm))
  rw [Obs.frameOn_eq_some hf] at ho
  exact h.routed.queued ci m ho

/-- `alice` logs in on gateway `g` and `bob` on gateway `h`; `alice` sends `bob` the text
`hi`, which `h` receives from its subscription, and `bob`'s `writeLoop` writes the
`AuthAck` and the message. -/
def messageAcrossGateways : List Event :=
  [.accept "g", .check 0 false false, .frame 0 (.auth (some (.valid "alice"))) false,
    .accept "h", .check 1 false false, .frame 1 (.auth (some (.valid "bob"))) false,
    .check 0 false false, .frame 0 (.message (some ("bob", "hi"))) false,
    .receive "h" false, .writeLoop 1 false false, .writeLoop 1 false false]

/-- `bob`'s connection on gateway `h` at the end of `messageAcrossGateways`. -/
def bobOnGatewayH : Conn :=
  { gateway := "h", id := 1, userID := "bob", writeChan := [], closed := false,
    written := [.authAck true "bob", .chat ⟨"alice", "bob", "hi", msgTypePrivate, 1, 0⟩],
    reader := .check, writer := true }

theorem written_chat_is_routed_across_gateways :
    (run (Cluster.initial ["g", "h"]) messageAcrossGateways).conns 1 = some bobOnGatewayH ∧
      Frame.chat ⟨"alice", "bob", "hi", msgTypePrivate, 1, 0⟩ ∈ bobOnGatewayH.written ∧
      ∃ origin, Obs.alloc origin ⟨"alice", "bob", "hi", msgTypePrivate, 1, 0⟩ ∈
        (run (Cluster.initial ["g", "h"]) messageAcrossGateways).trace :=
  have hc : (run (Cluster.initial ["g", "h"]) messageAcrossGateways).conns 1 = some bobOnGatewayH :=
    by decide
  have hm : Frame.chat ⟨"alice", "bob", "hi", msgTypePrivate, 1, 0⟩ ∈ bobOnGatewayH.written :=
    by decide
  ⟨hc, hm, written_chat_is_routed ((Reachable.initial _).run _) hc hm⟩

end GoIm
