/-
Chat frames reach only connections that authenticated as their recipient
(`server/connection.go`, `service/message.go`, `service/offline.go`, `cmd/gateway/main.go`).

A chat frame is queued on a connection along three paths: `deliverLocal` sends it to the
connection `GetByUserID(msg.ToUserID)` returns, on the sender's gateway or, after a
publish, on the recipient's; and `DeliverOfflineMessages(userID, conn)` sends the entries
of `userID`'s mailbox to the connection `handleAuth` started it for.  A registry entry
`userConns[u] = conn` is written only by `BindUser(u, conn)`, after `ValidateToken`
accepted a token for `u`; the goroutine is started right after that `BindUser`; and
`Store` files a message under its `ToUserID`.  So every path ends on a connection that
was bound to the recipient.

* `Addressed` — registry entries and pending `DeliverOfflineMessages` goroutines name
  connections bound to their user, mailbox entries are addressed to the mailbox's owner,
  and every chat frame queued went to a connection bound to its recipient;
* `step_addressed`, `Reachable.addressed` — `Addressed` holds in every reachable state;
* `Reachable.written_chat_reaches_recipient` — every chat frame written to a socket is
  addressed to a user that connection authenticated as.

Design notes: "bound" is read off the trace, not off the connection's current `UserID`.
`BindUser` does not delete an older entry of the same connection, so a connection that
authenticates as `alice` and then as `bob` stays `userConns["alice"]` and goes on
receiving `alice`'s messages while its `UserID` is `bob`: what holds is that a socket
carries only messages for users whose token it presented.
-/
import GoIm.Routing

namespace GoIm

theorem Cluster.manager_setGateway (s : Cluster) (g g' : String) (gw : Gateway) :
    (s.setGateway g gw).manager g' = if g' = g then gw.manager else s.manager g' := by
  simp only [Cluster.manager, Cluster.setGateway_gateways, Function.update_apply]
  split <;> rfl

/-- A frame `Send` queued on a connection is recorded: what a reachable state's socket
carried was queued on it. -/
theorem Reachable.queued_of_written {s : Cluster} (h : Reachable s) {ci : Nat} {c : Conn}
    (hc : s.conns ci = some c) {f : Frame} (hf : f ∈ c.written) : Obs.enqueue ci f ∈ s.trace := by
  have hs := h.sound ci
  simp only [ConnView.Sound, Cluster.view, hc] at hs
  obtain ⟨o, ho, hf⟩ := List.mem_filterMap.mp (hs.2.subset (List.mem_append_left _ hf))
  rwa [Obs.frameOn_eq_some hf] at ho

/-- The invariant: every registry entry and every pending `DeliverOfflineMessages` names a
connection bound to that user, every mailbox entry is addressed to the mailbox's owner,
and every chat frame queued on a connection is addressed to a user it was bound to. -/
structure Addressed (s : Cluster) : Prop where
  registry : ∀ g u ci, (s.manager g).userConns u = some ci → Obs.bind ci u ∈ s.trace
  tasks : ∀ ci u, (ci, u) ∈ s.tasks → Obs.bind ci u ∈ s.trace
  mailbox : ∀ u, ∀ x ∈ s.store.mailbox u, x.2.toUserID = u
  queued : ∀ ci m, Obs.enqueue ci (.chat m) ∈ s.trace → Obs.bind ci m.toUserID ∈ s.trace

/-- What logging `o` needs for `Addressed` to stay: a chat frame recorded as queued goes to
a user its connection was bound to. -/
def Obs.AddressedIn (t : List Obs) : Obs → Prop
  | .enqueue ci (.chat m) => Obs.bind ci m.toUserID ∈ t
  | _ => True

/-! ## What each operation does to the invariant -/

namespace Addressed

variable {s : Cluster}

theorem congr (h : Addressed s) {s' : Cluster} (ht : s'.trace = s.trace)
    (hr : ∀ g, (s'.manager g).userConns = (s.manager g).userConns) (hk : s'.tasks = s.tasks)
    (hm : s'.store.mailbox = s.store.mailbox) : Addressed s' := by
  obtain ⟨h1, h2, h3, h4⟩ := h
  constructor <;> simp only [ht, hr, hk, hm] <;> assumption

theorem log (h : Addressed s) (o : Obs) (ho : o.AddressedIn s.trace) : Addressed (s.log o) := by
  have mono : ∀ {o'}, o' ∈ s.trace → o' ∈ (s.log o).trace := List.mem_append_left _
  refine ⟨fun g u ci hc => mono (h.registry g u ci hc), fun ci u hm => mono (h.tasks ci u hm),
    h.mailbox, fun ci m hm => ?_⟩
  rcases List.mem_append.mp hm with hm | hm
  · exact mono (h.queued ci m hm)
  · rw [← List.mem_singleton.mp hm] at ho; exact mono ho

theorem setConn (h : Addressed s) (ci : Nat) (c : Conn) : Addressed (s.setConn ci c) :=
  h.congr rfl (fun _ => rfl) rfl rfl

theorem setReader (h : Addressed s) (ci : Nat) (r : ReaderPhase) : Addressed (s.setReader ci r) :=
  h.congr (by simp) (by simp [Cluster.manager]) (by simp) (by simp)

theorem setGateway (h : Addressed s) (g : String) (gw : Gateway)
    (hu : ∀ u ci, gw.manager.userConns u = some ci → Obs.bind ci u ∈ s.trace) :
    Addressed (s.setGateway g gw) := by
  refine ⟨fun g' u ci hc => ?_, h.tasks, h.mailbox, h.queued⟩
  rw [Cluster.manager_setGateway] at hc
  split at hc
  · exact hu u ci hc
  · exact h.registry g' u ci hc

/-- Rewriting a gateway without touching its `userConns`. -/
theorem setGateway_of_userConns (h : Addressed s) {g : String} {gw : Gateway}
    (hgw : s.gateways g = some gw) (gw' : Gateway) (hu : gw'.manager.userConns = gw.manager.userConns) :
    Addressed (s.setGateway g gw') :=
  h.setGateway g gw' fun u ci hc => h.registry g u ci (by simpa [Cluster.manager, hgw, ← hu] using hc)

theorem setManager (h : Addressed s) (g : String) (m : ConnectionManager)
    (hu : ∀ u ci, m.userConns u = some ci → Obs.bind ci u ∈ s.trace) :
    Addressed (s.setManager g m) := by
  rw [Cluster.setManager_eq]
  split
  · exact h.setGateway _ _ hu
  · exact h

theorem withStore (h : Addressed s) (st : Store)
    (hm : ∀ u, ∀ x ∈ st.mailbox u, x ∈ s.store.mailbox u ∨ x.2.toUserID = u) :
    Addressed { s with store := st } :=
  ⟨h.registry, h.tasks, fun u x hx => (hm u x hx).elim (h.mailbox u x) id, h.queued⟩

theorem withTasks (h : Addressed s) (ts : List (Nat × String))
    (ht : ∀ ci u, (ci, u) ∈ ts → (ci, u) ∈ s.tasks ∨ Obs.bind ci u ∈ s.trace) :
    Addressed { s with tasks := ts } :=
  ⟨h.registry, fun ci u hm => (ht ci u hm).elim (h.tasks ci u) id, h.mailbox, h.queued⟩

theorem send (h : Addressed s) (ci : Nat) (f : Frame) (p : Bool)
    (hf : ∀ m, f = .chat m → Obs.bind ci m.toUserID ∈ s.trace) : Addressed (s.send ci f p) := by
  unfold Cluster.send
  split
  · dsimp only
    split
    · refine (h.setConn _ _).log _ ?_
      cases f with
      | chat m => exact hf m rfl
      | _ => trivial
    · exact h.setConn _ _
  · exact h

theorem sendAll : ∀ {s : Cluster}, Addressed s → ∀ (ci : Nat) (fs : List Frame) (ps : List Bool),
    (∀ m, Frame.chat m ∈ fs → Obs.bind ci m.toUserID ∈ s.trace) → Addressed (s.sendAll ci fs ps)
  | _, h, _, [], _, _ => h
  | s, h, ci, f :: fs, ps, hf =>
    sendAll (h.send ci f _ fun m hm => hf m (hm ▸ List.mem_cons_self _ _)) ci fs ps.tail
      fun m hm => s.trace_subset_send ci f _ (hf m (List.mem_cons_of_mem _ hm))

/-- `Store` files the message under its `ToUserID`. -/
theorem storeOffline (h : Addressed s) (fromU toU content : String) (seq : Int) :
    Addressed (s.storeOffline fromU toU content seq) :=
  h.withStore _ fun _ _ hx =>
    (mem_mailbox_offlineStore hx).imp_right fun ⟨hv, hx⟩ => by rw [hx, hv]

/-- `deliverLocal(userID, msg)` for the message's own recipient: the connection
`GetByUserID` returns was bound to it. -/
theorem deliverLocal (h : Addressed s) (g uid : String) (msg : ChatMessage) (p : Bool)
    (hu : msg.toUserID = uid) : Addressed (s.deliverLocal g uid msg p) := by
  unfold Cluster.deliverLocal
  split
  · next ci hci => exact h.send _ _ _ fun m hm => by cases hm; rw [hu]; exact h.registry g uid ci hci
  · exact h.storeOffline _ _ _ _

theorem publish (h : Addressed s) (tg : String) (m : PubSubMessage) : Addressed (s.publish tg m) := by
  unfold Cluster.publish
  split
  · next gw hgw =>
    split
    · exact (h.setGateway_of_userConns hgw _ (by rfl)).log (.publish _ _) trivial
    · exact h
  · exact h

theorem sendPrivateMessage (h : Addressed s) (g : String) (origin : Nat) (fromU toU content : String)
    (p : Bool) : Addressed (s.sendPrivateMessage g origin fromU toU content p) := by
  unfold Cluster.sendPrivateMessage
  dsimp only
  split
  · exact h
  · next seq st hseq =>
    obtain ⟨-, hst⟩ := Store.incrBy_eq_some hseq
    have hs : Addressed { s with store := st } := h.congr rfl (fun _ => rfl) rfl (by rw [hst]; rfl)
    have ha := hs.log (.alloc origin ⟨fromU, toU, content, msgTypePrivate, seq, 0⟩) trivial
    split
    · exact ha.storeOffline _ _ _ _
    · split
      · exact ha.deliverLocal _ _ _ _ rfl
      · exact ha.publish _ _

theorem handlePubSubMessage (h : Addressed s) (g : String) (m : PubSubMessage) (p : Bool) :
    Addressed (s.handlePubSubMessage g m p) :=
  h.deliverLocal _ _ _ _ rfl

/-- `DeliverOfflineMessages(userID, conn)` for a connection bound to `userID`: what
`FetchLatest` returns is `userID`'s mailbox, all addressed to `userID`. -/
theorem deliverOfflineMessages (h : Addressed s) (hr : Routed s) (ci : Nat) (uid : String)
    (ps : List Bool) (hb : Obs.bind ci uid ∈ s.trace) :
    Addressed (s.deliverOfflineMessages ci uid ps) :=
  h.sendAll ci _ ps fun m hm => by
    obtain ⟨e, he, hf⟩ := List.mem_map.mp hm
    obtain ⟨x, hx, rfl⟩ := hr.mem_fetchLatest he
    rw [← Frame.chat.inj hf]
    show Obs.bind ci x.2.toUserID ∈ s.trace
    rwa [h.mailbox uid x hx]

/-- `BindUser(uid, conn)` adds the one entry `uid ↦ conn`, for a connection just bound. -/
theorem bindUser (h : Addressed s) (g uid : String) (ci : Nat) (c : Conn) :
    Addressed (((s.setConn ci c).log (.bind ci uid)).setManager g ((s.manager g).bindUser uid ci)) :=
  ((h.setConn ci c).log (.bind ci uid) trivial).setManager _ _ fun u ci' hc => by
    simp only [ConnectionManager.bindUser, Function.update_apply] at hc
    split at hc
    · next hu => cases hc; rw [hu]; exact List.mem_append_right _ (List.mem_singleton_self _)
    · exact List.mem_append_left _ (h.registry g u ci' hc)

theorem handleAuth (h : Addressed s) (g : String) (ci : Nat) (c : Conn) (tok : Option Token)
    (p : Bool) : Addressed (s.handleAuth g ci c tok p) := by
  unfold Cluster.handleAuth
  split
  · exact h.send _ _ _ (by rintro m ⟨⟩)
  · exact h.send _ _ _ (by rintro m ⟨⟩)
  · next uid _ =>
    refine (((h.bindUser g uid ci _).withStore _ fun u x hx => .inl (by
      rwa [Store.mailbox_congr (Store.foldl_exec_now _ _) (Store.foldl_exec_mailboxes _ _)] at hx)
      ).send _ _ _ (by rintro m ⟨⟩)).withTasks _ fun ci' u hm => ?_
    refine (List.mem_append.mp hm).imp_right fun hm => ?_
    obtain ⟨rfl, rfl⟩ := Prod.mk.inj (List.mem_singleton.mp hm)
    exact Cluster.trace_subset_send _ _ _ _ (by simp)

theorem handleFrame (h : Addressed s) (ci : Nat) (req : Request) (p : Bool) :
    Addressed (s.handleFrame ci req p) := by
  unfold Cluster.handleFrame
  split
  · exact h
  · split
    · exact h.send _ _ _ (by rintro m ⟨⟩)
    · exact h.handleAuth _ _ _ _ _
    · split
      · exact h
      · split
        · exact h.sendPrivateMessage _ _ _ _ _ _
        · exact h
    · split
      · exact h
      · split
        · exact h.withStore _ fun u x hx => .inl (mailbox_offlineRemove_subset _ _ _ _ hx)
        · exact h
    · exact h

end Addressed

/-! ## Over whole runs -/

/-- Every step keeps the invariant; `DeliverOfflineMessages` reads the mailbox through
`Unmarshal`, so the step also uses that mailbox entries are built messages (`Routed`). -/
theorem step_addressed {s : Cluster} (hr : Routed s) (h : Addressed s) (e : Event) :
    Addressed (step s e) := by
  cases e with
  | accept g =>
    simp only [step]
    split
    · next gw hgw =>
      split
      · exact h
      · exact (h.setGateway_of_userConns hgw _ (by rfl)).congr rfl (fun _ => rfl) rfl rfl
    · exact h
  | check ci q p =>
    simp only [step]
    split
    · split
      · exact h
      · split
        · exact (h.send _ _ _ (by rintro m ⟨⟩)).setReader _ _
        · split <;> exact h.setReader _ _
    · exact h
  | frame ci req p =>
    simp only [step]
    split
    · split
      · exact (h.setReader _ _).handleFrame _ _ _
      · exact h
    · exact h
  | readError ci =>
    simp only [step]
    split
    · split
      · exact h.setReader _ _
      · exact h
    · exact h
  | cleanup ci =>
    simp only [step]
    split
    · split
      · refine (h.setManager _ _ fun u ci' hc => ?_).setConn _ _
        rw [ConnectionManager.remove_userConns] at hc
        split at hc
        · cases hc
        · exact h.registry _ u ci' hc
      · exact h
    · exact h
  | writeLoop ci p fail =>
    simp only [step]
    split
    · exact h.setConn _ _
    · exact h
  | receive g p =>
    simp only [step]
    split
    · next gw hgw =>
      split
      · split
        · next rest _ _ =>
          have h1 := h.setGateway_of_userConns hgw { gw with inbox := rest } rfl
          split
          · exact (h1.log (.receive _ _) trivial).handlePubSubMessage _ _ _
          · exact h1
        · exact h
      · exact h
    · exact h
  | deliverOffline i ps =>
    simp only [step]
    split
    · next ci uid hi =>
      exact (h.withTasks _ fun _ _ hm => .inl ((List.eraseIdx_sublist _ _).subset hm))
        |>.deliverOfflineMessages (hr.withTasks _) _ _ _ (h.tasks _ _ (List.getElem?_mem hi))
    · exact h
  | stop g =>
    simp only [step]
    split
    · next gw hgw => exact h.setGateway_of_userConns hgw _ rfl
    · exact h
  | stopPubSub g =>
    simp only [step]
    split
    · next gw hgw => exact h.setGateway_of_userConns hgw _ rfl
    · exact h
  | tick dt => exact h.withStore _ fun u x hx => .inl (mailbox_tick_subset _ _ _ hx)

theorem Reachable.addressed {s : Cluster} (h : Reachable s) : Addressed s := by
  induction h with
  | initial gs =>
    refine ⟨fun g u ci hc => ?_, fun _ _ hm => (by cases hm), fun u x hx => (by cases hx),
      fun _ _ hm => (by cases hm)⟩
    simp only [Cluster.manager, Cluster.initial] at hc
    split at hc <;> cases hc
  | next e hr ih => exact step_addressed hr.routed ih e

/-- In every reachable state, every chat frame written to a connection's socket is
addressed to a user that connection was bound to by `handleAuth`, that is one whose token
it presented and `ValidateToken` accepted: whichever path the message took, no socket
carries another user's messages. -/
theorem Reachable.written_chat_reaches_recipient {s : Cluster} (h : Reachable s) {ci : Nat}
    {c : Conn} (hc : s.conns ci = some c) {m : ChatMessage} (hm : Frame.chat m ∈ c.written) :
    Obs.bind ci m.toUserID ∈ s.trace :=
  h.addressed.queued ci m (h.queued_of_written hc hm)

theorem hi_reaches_authenticated_bob :
    (run (Cluster.initial ["g", "h"]) messageAcrossGateways).conns 1 = some bobOnGatewayH ∧
      Frame.chat ⟨"alice", "bob", "hi", msgTypePrivate, 1, 0⟩ ∈ bobOnGatewayH.written ∧
      Obs.bind 1 "bob" ∈ (run (Cluster.initial ["g", "h"]) messageAcrossGateways).trace :=
  have hc : (run (Cluster.initial ["g", "h"]) messageAcrossGateways).conns 1 = some bobOnGatewayH :=
    by decide
  have hm : Frame.chat ⟨"alice", "bob", "hi", msgTypePrivate, 1, 0⟩ ∈ bobOnGatewayH.written :=
    by decide
  ⟨hc, hm, Reachable.written_chat_reaches_recipient ((Reachable.initial _).run _) hc hm⟩

end GoIm
