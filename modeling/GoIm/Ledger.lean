/-
The two ledgers the gateways share through Redis, over whole runs: the conversations'
sequence counters and the gateways' pub/sub channels (`service/message.go`,
`service/pubsub.go`).

`SendPrivateMessage` takes the next number from its conversation's counter (`INCR`) before
it routes the message, and a message for a user on another gateway is published on that
gateway's channel, from which its `receiveLoop` takes the payloads in the order Redis
delivered them.

* `Quiet` — what most operations do to the ledgers: nothing; they queue frames, bind
  users, and move the mailboxes, the registries and the clock;
* `step_ledger_cases` — a step is quiet but for one `SendPrivateMessage`, the delivery of a
  channel's next payload, or a `PubSubManager.Stop`;
* `Reachable.allocInv` — every number handed out in a conversation lies between `1` and
  the conversation's counter;
* `Reachable.channel_fifo` — what a gateway's `receiveLoop` handled, followed by the
  payloads still pending, is an order-preserving subsequence of what was published to it:
  nothing is handled twice, out of publish order, or without having been published there.

Design notes: `SendPrivateMessage` is one step of the model, where in Go `INCR`, the
`GetUserGateway` read and the delivery are separate round trips that other goroutines
interleave; so the counter facts are stated per `INCR` (where each number lies), not as an
order of the built messages.  The model's subscription is a queue without bound that loses
nothing until `Stop`; go-redis's `Channel()` drops a message when its 100-message buffer
stays full for a minute, and a reconnect loses what was published meanwhile.  The channel
statement only rules out duplication, reordering and forgery, which those losses keep.
-/
import GoIm.Routing

namespace GoIm

/-! ## What the trace records of the ledgers -/

/-- The number an observation records as handed out in conversation `conv`. -/
def Obs.seqIn (conv : String) : Obs → Option Int
  | .alloc _ m => if getConversationID m.fromUserID m.toUserID = conv then some m.seqID else none
  | _ => none

/-- The message an observation records as published to gateway `g`'s channel. -/
def Obs.publishedTo (g : String) : Obs → Option PubSubMessage
  | .publish g' m => if g' = g then some m else none
  | _ => none

/-- The message an observation records as taken by gateway `g`'s `receiveLoop`. -/
def Obs.receivedAt (g : String) : Obs → Option PubSubMessage
  | .receive g' m => if g' = g then some m else none
  | _ => none

/-- The numbers handed out in conversation `conv`, in order. -/
def allocated (t : List Obs) (conv : String) : List Int := t.filterMap (Obs.seqIn conv)

/-- The messages published to gateway `g`, in order. -/
def published (t : List Obs) (g : String) : List PubSubMessage := t.filterMap (Obs.publishedTo g)

/-- The messages gateway `g`'s `receiveLoop` handled, in order. -/
def received (t : List Obs) (g : String) : List PubSubMessage := t.filterMap (Obs.receivedAt g)

@[simp] theorem allocated_append (t t' : List Obs) (conv : String) :
    allocated (t ++ t') conv = allocated t conv ++ allocated t' conv := List.filterMap_append ..

@[simp] theorem published_append (t t' : List Obs) (g : String) :
    published (t ++ t') g = published t g ++ published t' g := List.filterMap_append ..

@[simp] theorem received_append (t t' : List Obs) (g : String) :
    received (t ++ t') g = received t g ++ received t' g := List.filterMap_append ..

/-- An observation about one connection only: a frame queued, a user bound. -/
def Obs.Minor : Obs → Prop
  | .enqueue _ _ => True
  | .bind _ _ => True
  | _ => False

theorem Obs.Minor.ledgers {o : Obs} (h : o.Minor) :
    (∀ conv, o.seqIn conv = none) ∧ ∀ g, o.publishedTo g = none ∧ o.receivedAt g = none := by
  cases o <;> first | exact h.elim | exact ⟨fun _ => rfl, fun _ => ⟨rfl, rfl⟩⟩

/-- The counter of conversation `conv`; `INCR` counts a missing key from `0`. -/
def Cluster.counter (s : Cluster) (conv : String) : Int := (s.store.seqs conv).getD 0

@[simp] theorem Cluster.inbox_log (s : Cluster) (o : Obs) : (s.log o).inbox = s.inbox := rfl

theorem Store.foldl_exec_seqs (s : Store) (cs : List SessionCmd) :
    (cs.foldl Store.exec s).seqs = s.seqs := by
  induction cs generalizing s with
  | nil => rfl
  | cons c cs ih => rw [List.foldl_cons, ih, Store.exec_seqs]

theorem offlineRemove_seqs (s : Store) (u : String) (n : Int) : (offlineRemove s u n).seqs = s.seqs := by
  unfold offlineRemove; split <;> rfl

/-! ## Quiet operations -/

/-- `s'` is `s` after operations that leave the ledgers alone: the counters and every
gateway's pending payloads are as they were, and what `s'` adds to the trace is queued
frames and bindings. -/
structure Quiet (s s' : Cluster) : Prop where
  seqs : s'.store.seqs = s.store.seqs
  inbox : s'.inbox = s.inbox
  trace : ∃ new, s'.trace = s.trace ++ new ∧ ∀ o ∈ new, o.Minor

namespace Quiet

variable {s s' s'' : Cluster}

theorem of_gateways (hs : s'.store.seqs = s.store.seqs) (hg : s'.gateways = s.gateways)
    (ht : s'.trace = s.trace) : Quiet s s' :=
  ⟨hs, Cluster.inbox_of_gateways hg, [], by simp [ht], by simp⟩

theorem refl (s : Cluster) : Quiet s s := of_gateways rfl rfl rfl

theorem trans (h : Quiet s s') (h' : Quiet s' s'') : Quiet s s'' := by
  obtain ⟨hs, hin, n, hn, hm⟩ := h
  obtain ⟨hs', hin', n', hn', hm'⟩ := h'
  exact ⟨hs'.trans hs, hin'.trans hin, n ++ n', by simp [hn', hn],
    fun o ho => (List.mem_append.mp ho).elim (hm o) (hm' o)⟩

theorem log (h : Quiet s s') (o : Obs) (ho : o.Minor) : Quiet s (s'.log o) :=
  h.trans ⟨rfl, rfl, [o], rfl, by simpa using ho⟩

theorem setConn (h : Quiet s s') (ci : Nat) (c : Conn) : Quiet s (s'.setConn ci c) :=
  h.trans (of_gateways rfl rfl rfl)

theorem withStore (h : Quiet s s') (st : Store) (hs : st.seqs = s'.store.seqs) :
    Quiet s { s' with store := st } :=
  h.trans (of_gateways hs rfl rfl)

theorem withTasks (h : Quiet s s') (ts : List (Nat × String)) : Quiet s { s' with tasks := ts } :=
  h.trans (of_gateways rfl rfl rfl)

theorem withConns (h : Quiet s s') (cs : Nat → Option Conn) (n : Nat) :
    Quiet s { s' with conns := cs, nextConn := n } :=
  h.trans (of_gateways rfl rfl rfl)

end Quiet

section Ops

variable (s : Cluster)

theorem quiet_setGateway {g : String} {gw : Gateway} (hgw : s.gateways g = some gw) (gw' : Gateway)
    (hi : gw'.inbox = gw.inbox) : Quiet s (s.setGateway g gw') := by
  refine ⟨rfl, funext fun g' => ?_, [], by simp, by simp⟩
  · rw [Cluster.inbox_setGateway]
    split
    · subst g'; simp [Cluster.inbox, hgw, hi]
    · rfl

theorem quiet_setManager (g : String) (m : ConnectionManager) : Quiet s (s.setManager g m) := by
  rw [Cluster.setManager_eq]
  split
  · next gw hgw => exact quiet_setGateway s hgw _ rfl
  · exact .refl s

theorem quiet_setReader (ci : Nat) (p : ReaderPhase) : Quiet s (s.setReader ci p) :=
  .of_gateways (by simp) (by simp) (by simp)

theorem quiet_send (ci : Nat) (f : Frame) (p : Bool) : Quiet s (s.send ci f p) := by
  unfold Cluster.send
  split
  · dsimp only
    split
    · exact ((Quiet.refl s).setConn _ _).log (.enqueue _ _) trivial
    · exact (Quiet.refl s).setConn _ _
  · exact .refl s

theorem quiet_sendAll : ∀ (s : Cluster) (ci : Nat) (fs : List Frame) (ps : List Bool),
    Quiet s (s.sendAll ci fs ps)
  | s, _, [], _ => .refl s
  | s, ci, f :: fs, ps => (quiet_send s ci f _).trans (quiet_sendAll _ ci fs ps.tail)

theorem quiet_deliverOfflineMessages (ci : Nat) (uid : String) (ps : List Bool) :
    Quiet s (s.deliverOfflineMessages ci uid ps) :=
  quiet_sendAll _ _ _ _

theorem quiet_deliverLocal (g uid : String) (msg : ChatMessage) (p : Bool) :
    Quiet s (s.deliverLocal g uid msg p) := by
  unfold Cluster.deliverLocal
  split
  · exact quiet_send s _ _ _
  · exact .of_gateways rfl rfl rfl

theorem quiet_handleAuth (g : String) (ci : Nat) (c : Conn) (tok : Option Token) (p : Bool) :
    Quiet s (s.handleAuth g ci c tok p) := by
  unfold Cluster.handleAuth
  split
  · exact quiet_send s _ _ _
  · exact quiet_send s _ _ _
  · exact (((((Quiet.refl s).setConn _ _).log (.bind _ _) trivial).trans (quiet_setManager _ _ _)).withStore _
      (Store.foldl_exec_seqs _ _)).trans (quiet_send _ _ _ _) |>.withTasks _

/-- A frame either leaves the ledgers alone or runs `SendPrivateMessage` from the
connection's user. -/
theorem handleFrame_ledger_cases (ci : Nat) (req : Request) (p : Bool) :
    Quiet s (s.handleFrame ci req p) ∨
      ∃ g fromU toU content, s.handleFrame ci req p = s.sendPrivateMessage g ci fromU toU content p := by
  unfold Cluster.handleFrame
  split
  · exact .inl (.refl s)
  · split
    · exact .inl (quiet_send s _ _ _)
    · exact .inl (quiet_handleAuth s _ _ _ _ _)
    · split
      · exact .inl (.refl s)
      · split
        · exact .inr ⟨_, _, _, _, rfl⟩
        · exact .inl (.refl s)
    · split
      · exact .inl (.refl s)
      · split
        · exact .inl (.of_gateways (offlineRemove_seqs _ _ _) rfl rfl)
        · exact .inl (.refl s)
    · exact .inl (.refl s)

/-- `Publish` either drops the message (no subscriber) or appends its JSON to the
subscribed target's pending payloads and records it. -/
theorem publish_cases (tg : String) (m : PubSubMessage) :
    s.publish tg m = s ∨ ∃ gw, s.gateways tg = some gw ∧ gw.subscribed = true ∧
      s.publish tg m = (s.setGateway tg { gw with inbox := gw.inbox ++ [m.toJson] }).log (.publish tg m) := by
  unfold Cluster.publish
  split
  · next gw hgw =>
    split
    · next hs => exact .inr ⟨gw, hgw, hs, rfl⟩
    · exact .inl rfl
  · exact .inl rfl

/-- `SendPrivateMessage` either fails at `INCR` and does nothing, or takes the next
number, records the message built with it, and then is quiet or publishes that message. -/
theorem sendPrivateMessage_ledger_cases (g : String) (origin : Nat) (fromU toU content : String)
    (p : Bool) :
    s.sendPrivateMessage g origin fromU toU content p = s ∨
      ∃ seq st, nextSeq s.store (getConversationID fromU toU) = some (seq, st) ∧
        (Quiet (({ s with store := st }).log (.alloc origin ⟨fromU, toU, content, msgTypePrivate, seq, 0⟩))
            (s.sendPrivateMessage g origin fromU toU content p) ∨
          ∃ tg, getUserGateway st toU = some tg ∧ s.sendPrivateMessage g origin fromU toU content p =
            (({ s with store := st }).log (.alloc origin ⟨fromU, toU, content, msgTypePrivate, seq, 0⟩)).publish
              tg ⟨fromU, toU, content, msgTypePrivate, seq⟩) := by
  unfold Cluster.sendPrivateMessage
  dsimp only
  split
  · exact .inl rfl
  · next seq st hseq =>
    refine .inr ⟨seq, st, hseq, ?_⟩
    split
    · exact .inl (.of_gateways rfl rfl rfl)
    · next tg htg =>
      split
      · exact .inl (quiet_deliverLocal _ _ _ _ _)
      · exact .inr ⟨tg, htg, rfl⟩

end Ops

/-- What a step does to the ledgers: nothing; quiet bookkeeping, then a frame's
`SendPrivateMessage`; the next payload of a subscribed channel taken (and, when it decodes,
recorded and handled quietly); or a subscription stopped, its pending payloads dropped. -/
theorem step_ledger_cases (s : Cluster) (e : Event) :
    Quiet s (step s e) ∨
      (∃ s₀ g origin fromU toU content p, Quiet s s₀ ∧ s₀.store = s.store ∧
        step s e = s₀.sendPrivateMessage g origin fromU toU content p) ∨
      (∃ g gw t rest, s.gateways g = some gw ∧ gw.inbox = t :: rest ∧ gw.subscribed = true ∧
        (PubSubMessage.ofJson t = none ∧ step s e = s.setGateway g { gw with inbox := rest } ∨
          ∃ m, PubSubMessage.ofJson t = some m ∧
            Quiet ((s.setGateway g { gw with inbox := rest }).log (.receive g m)) (step s e))) ∨
      ∃ g gw, s.gateways g = some gw ∧ step s e = s.setGateway g { gw with subscribed := false, inbox := [] } := by
  cases e with
  | accept g =>
    refine .inl ?_
    simp only [step]
    split
    · next gw hgw =>
      split
      · exact .refl s
      · exact (quiet_setGateway s hgw _ (by rfl)).withConns _ _
    · exact .refl s
  | check ci pq pc =>
    refine .inl ?_
    simp only [step]
    split
    · split
      · exact .refl s
      · split
        · exact (quiet_send s _ _ _).trans (quiet_setReader _ _ _)
        · split <;> exact quiet_setReader s _ _
    · exact .refl s
  | frame ci req p =>
    simp only [step]
    split
    · split
      · rcases handleFrame_ledger_cases (s.setReader ci .check) ci req p with hq | ⟨g, fromU, toU, content, he⟩
        · exact .inl ((quiet_setReader s _ _).trans hq)
        · exact .inr (.inl ⟨_, g, ci, fromU, toU, content, p, quiet_setReader s _ _,
          Cluster.setReader_store _ _ _, he⟩)
      · exact .inl (.refl s)
    · exact .inl (.refl s)
  | readError ci =>
    refine .inl ?_
    simp only [step]
    split
    · split
      · exact quiet_setReader s _ _
      · exact .refl s
    · exact .refl s
  | cleanup ci =>
    refine .inl ?_
    simp only [step]
    split
    · split
      · exact (quiet_setManager s _ _).trans (.of_gateways rfl rfl rfl)
      · exact .refl s
    · exact .refl s
  | writeLoop ci pc fail =>
    refine .inl ?_
    simp only [step]
    split
    · exact .of_gateways rfl rfl rfl
    · exact .refl s
  | receive g p =>
    simp only [step]
    split
    · next gw hgw =>
      split
      · next t rest hin =>
        split
        · next hs =>
          refine .inr (.inr (.inl ⟨g, gw, t, rest, hgw, hin, hs, ?_⟩))
          split
          · next m hm => exact .inr ⟨m, hm, quiet_deliverLocal _ _ _ _ _⟩
          · next hm => exact .inl ⟨hm, rfl⟩
        · exact .inl (.refl s)
      · exact .inl (.refl s)
    · exact .inl (.refl s)
  | deliverOffline i ps =>
    refine .inl ?_
    simp only [step]
    split
    · exact ((Quiet.refl s).withTasks _).trans (quiet_deliverOfflineMessages _ _ _ _)
    · exact .refl s
  | stop g =>
    refine .inl ?_
    simp only [step]
    split
    · next gw hgw => exact quiet_setGateway s hgw _ (by rfl)
    · exact .refl s
  | stopPubSub g =>
    simp only [step]
    split
    · next gw hgw => exact .inr (.inr (.inr ⟨g, gw, hgw, rfl⟩))
    · exact .inl (.refl s)
  | tick dt => exact .inl (.of_gateways rfl rfl rfl)

/-! ## Sequence numbers -/

/-- Every counter is non-negative, and every number the trace records as handed out in a
conversation lies between `1` and the conversation's counter. -/
def AllocInv (s : Cluster) : Prop :=
  ∀ conv, 0 ≤ s.counter conv ∧ ∀ k ∈ allocated s.trace conv, 1 ≤ k ∧ k ≤ s.counter conv

namespace AllocInv

variable {s s' : Cluster}

/-- A move that keeps the counters and records no number keeps the invariant. -/
theorem of_seqs (h : AllocInv s) (hs : s'.store.seqs = s.store.seqs)
    (ht : ∃ new, s'.trace = s.trace ++ new ∧ ∀ o ∈ new, ∀ conv, o.seqIn conv = none) :
    AllocInv s' := by
  obtain ⟨new, hn, hnew⟩ := ht
  intro conv
  have ha : allocated new conv = [] := List.filterMap_eq_nil_iff.mpr fun o ho => hnew o ho conv
  rw [Cluster.counter, hs, hn, allocated_append, ha, List.append_nil]
  exact h conv

theorem quiet (h : AllocInv s) (hq : Quiet s s') : AllocInv s' :=
  h.of_seqs hq.seqs (hq.trace.imp fun _ ⟨hn, hm⟩ => ⟨hn, fun o ho => (hm o ho).ledgers.1⟩)

/-- `INCR` on a conversation's counter, with the record of the message built with the
number it returned: the counter's new value. -/
theorem alloc (h : AllocInv s) {origin : Nat} {fromU toU content : String} {seq : Int} {st : Store}
    (hseq : nextSeq s.store (getConversationID fromU toU) = some (seq, st)) :
    AllocInv (({ s with store := st }).log (.alloc origin ⟨fromU, toU, content, msgTypePrivate, seq, 0⟩)) := by
  obtain ⟨hv, rfl⟩ := Store.incrBy_eq_some hseq
  intro conv
  obtain ⟨h0, ha⟩ := h conv
  unfold Cluster.counter at h0 ha ⊢
  by_cases hc : getConversationID fromU toU = conv
  · subst hc
    have hnew : allocated [Obs.alloc origin ⟨fromU, toU, content, msgTypePrivate, seq, 0⟩]
        (getConversationID fromU toU) = [seq] := by simp [allocated, Obs.seqIn]
    simp only [Cluster.log_store, Cluster.log_trace, Function.update_same, Option.getD_some,
      allocated_append, hnew, List.mem_append, List.mem_singleton]
    refine ⟨by omega, fun k hk => hk.elim (fun hk => ?_) fun hk => by omega⟩
    have := ha k hk
    omega
  · have hnew : allocated [Obs.alloc origin ⟨fromU, toU, content, msgTypePrivate, seq, 0⟩] conv = [] := by
      simp [allocated, Obs.seqIn, hc]
    simp only [Cluster.log_store, Cluster.log_trace, Function.update_noteq (Ne.symm hc),
      allocated_append, hnew, List.append_nil]
    exact ⟨h0, ha⟩

theorem sendPrivateMessage (h : AllocInv s) (g : String) (origin : Nat) (fromU toU content : String)
    (p : Bool) : AllocInv (s.sendPrivateMessage g origin fromU toU content p) := by
  rcases sendPrivateMessage_ledger_cases s g origin fromU toU content p with he | ⟨seq, st, hseq, hq | ⟨tg, -, he⟩⟩
  · rw [he]; exact h
  · exact (h.alloc hseq).quiet hq
  · rw [he]
    rcases publish_cases _ tg ⟨fromU, toU, content, msgTypePrivate, seq⟩ with hp | ⟨gw, -, -, hp⟩
    · rw [hp]; exact h.alloc hseq
    · rw [hp]
      exact (h.alloc hseq).of_seqs rfl ⟨[.publish _ _], rfl, by simp [Obs.seqIn]⟩

/-- Every step keeps the invariant. -/
theorem next (h : AllocInv s) (e : Event) : AllocInv (step s e) := by
  have hgw : ∀ g gw, AllocInv (s.setGateway g gw) := fun g gw => h.of_seqs rfl ⟨[], by simp, by simp⟩
  rcases step_ledger_cases s e with hq | ⟨s₀, g, origin, fromU, toU, content, p, hq, -, he⟩ |
      ⟨g, gw, t, rest, -, -, -, ⟨-, he⟩ | ⟨m, -, hq⟩⟩ | ⟨g, gw, -, he⟩
  · exact h.quiet hq
  · rw [he]; exact (h.quiet hq).sendPrivateMessage _ _ _ _ _ _
  · rw [he]; exact hgw _ _
  · have h₁ : AllocInv ((s.setGateway g { gw with inbox := rest }).log (.receive g m)) :=
      (hgw g _).of_seqs rfl ⟨[.receive g m], rfl, by simp [Obs.seqIn]⟩
    exact h₁.quiet hq
  · rw [he]; exact hgw _ _

end AllocInv

theorem Reachable.allocInv {s : Cluster} (h : Reachable s) : AllocInv s := by
  induction h with
  | initial gs => exact fun _ => ⟨le_rfl, fun _ hk => nomatch hk⟩
  | next e _ ih => exact ih.next e

/-! ## Channels -/

/-- Gateway `g`'s channel as a queue that may lose messages but never duplicates, reorders
or invents one: the payloads waiting at its subscription are the JSON of messages, each
of which decodes back, and what its `receiveLoop` handled, followed by what is pending, is
an order-preserving subsequence of what was published to it. -/
def ChannelInv (s : Cluster) (g : String) : Prop :=
  ∃ pending, s.inbox g = pending.map PubSubMessage.toJson ∧
    (∀ m ∈ pending, PubSubMessage.ofJson m.toJson = some m) ∧
    (received s.trace g ++ pending).Sublist (published s.trace g)

namespace ChannelInv

variable {s s' : Cluster}

/-- A move that leaves `g`'s pending payloads alone and records nothing about its channel. -/
theorem of_channel {g : String} (h : ChannelInv s g) (hi : s'.inbox g = s.inbox g)
    (ht : ∃ new, s'.trace = s.trace ++ new ∧ ∀ o ∈ new, o.publishedTo g = none ∧ o.receivedAt g = none) :
    ChannelInv s' g := by
  obtain ⟨new, hn, hnew⟩ := ht
  obtain ⟨pending, h1, h2, h3⟩ := h
  have hp : published new g = [] := List.filterMap_eq_nil_iff.mpr fun o ho => (hnew o ho).1
  have hr : received new g = [] := List.filterMap_eq_nil_iff.mpr fun o ho => (hnew o ho).2
  exact ⟨pending, hi ▸ h1, h2, by simpa [hn, hp, hr] using h3⟩

theorem quiet (h : ∀ g, ChannelInv s g) (hq : Quiet s s') (g : String) : ChannelInv s' g :=
  (h g).of_channel (congrFun hq.inbox g)
    (hq.trace.imp fun _ ⟨hn, hm⟩ => ⟨hn, fun o ho => (hm o ho).ledgers.2 g⟩)

/-- Rewriting gateway `g₀` with its trace as it is leaves the other channels alone. -/
theorem setGateway_ne (h : ∀ g, ChannelInv s g) {g₀ g : String} (hg : g ≠ g₀) (gw : Gateway) :
    ChannelInv (s.setGateway g₀ gw) g :=
  (h g).of_channel (by rw [Cluster.inbox_setGateway, if_neg hg]) ⟨[], by simp, by simp⟩

/-- `Publish` of a message that decodes from its JSON: it joins the pending payloads and
the published messages at their ends. -/
theorem publish (h : ∀ g, ChannelInv s g) (tg : String) {m : PubSubMessage}
    (hm : PubSubMessage.ofJson m.toJson = some m) (g : String) : ChannelInv (s.publish tg m) g := by
  rcases publish_cases s tg m with he | ⟨gw, hgw, -, he⟩
  · rw [he]; exact h g
  · rw [he]
    by_cases hg : g = tg
    · subst hg
      obtain ⟨pending, h1, h2, h3⟩ := h g
      have hi : s.inbox g = gw.inbox := by simp [Cluster.inbox, hgw]
      have hp : published [.publish g m] g = [m] := by simp [published, Obs.publishedTo]
      refine ⟨pending ++ [m], ?_, ?_, ?_⟩
      · rw [Cluster.inbox_log, Cluster.inbox_setGateway, if_pos rfl, List.map_append, ← h1, hi]; rfl
      · exact fun x hx => (List.mem_append.mp hx).elim (h2 x) fun hx => List.mem_singleton.mp hx ▸ hm
      · rw [Cluster.log_trace, Cluster.setGateway_trace, published_append, received_append, hp,
          show received [.publish g m] g = [] from rfl, List.append_nil, ← List.append_assoc]
        exact h3.append (List.Sublist.refl [m])
    · exact (setGateway_ne h hg _).of_channel rfl
        ⟨[.publish tg m], rfl, by simp [Obs.publishedTo, Obs.receivedAt, Ne.symm hg]⟩

/-- Taking the next payload of a channel: it decodes, to the first pending message, which
is then recorded as received. -/
theorem receive (h : ∀ g, ChannelInv s g) {g₀ : String} {gw : Gateway} (hgw : s.gateways g₀ = some gw)
    {t : List Char} {rest : List (List Char)} (hin : gw.inbox = t :: rest) :
    ∃ m, PubSubMessage.ofJson t = some m ∧
      ∀ g, ChannelInv ((s.setGateway g₀ { gw with inbox := rest }).log (.receive g₀ m)) g := by
  obtain ⟨pending, h1, h2, h3⟩ := h g₀
  rw [show s.inbox g₀ = gw.inbox by simp [Cluster.inbox, hgw], hin] at h1
  obtain ⟨p, pending', rfl, ht, hr⟩ := List.map_eq_cons_iff.mp h1.symm
  refine ⟨p, ht ▸ h2 p (List.mem_cons_self _ _), fun g => ?_⟩
  by_cases hg : g = g₀
  · subst hg
    have hp : received [.receive g p] g = [p] := by simp [received, Obs.receivedAt]
    refine ⟨pending', by simp [Cluster.inbox_setGateway, hr], fun x hx => h2 x (List.mem_cons_of_mem _ hx), ?_⟩
    rw [Cluster.log_trace, Cluster.setGateway_trace, published_append, received_append, hp,
      show published [.receive g p] g = [] from rfl, List.append_nil, List.append_assoc]
    exact h3
  · exact (setGateway_ne h hg _).of_channel rfl
      ⟨[.receive g₀ p], rfl, by simp [Obs.publishedTo, Obs.receivedAt, Ne.symm hg]⟩

/-- `PubSubManager.Stop`: the pending messages are dropped. -/
theorem stop (h : ∀ g, ChannelInv s g) (g₀ : String) (gw : Gateway) (g : String) :
    ChannelInv (s.setGateway g₀ { gw with subscribed := false, inbox := [] }) g := by
  by_cases hg : g = g₀
  · subst hg
    obtain ⟨pending, -, -, h3⟩ := h g
    exact ⟨[], by simp [Cluster.inbox_setGateway], by simp,
      by simpa using (List.sublist_append_left _ pending).trans h3⟩
  · exact setGateway_ne h hg _

theorem sendPrivateMessage (h : ∀ g, ChannelInv s g) (g₀ : String) (origin : Nat)
    (fromU toU content : String) (p : Bool) (g : String) :
    ChannelInv (s.sendPrivateMessage g₀ origin fromU toU content p) g := by
  rcases sendPrivateMessage_ledger_cases s g₀ origin fromU toU content p with he | ⟨seq, st, hseq, hrest⟩
  · rw [he]; exact h g
  · have ha : ∀ g, ChannelInv (({ s with store := st }).log
        (.alloc origin ⟨fromU, toU, content, msgTypePrivate, seq, 0⟩)) g :=
      fun g => (h g).of_channel rfl ⟨[.alloc _ _], rfl, by simp [Obs.publishedTo, Obs.receivedAt]⟩
    rcases hrest with hq | ⟨tg, -, he⟩
    · exact quiet ha hq g
    · rw [he]
      exact publish ha tg (PubSubMessage.ofJson_toJson ⟨fromU, toU, content, msgTypePrivate, seq⟩
        msgTypePrivate_range (Store.incrBy_range hseq)) g

/-- Every step keeps the invariant of every channel. -/
theorem next (h : ∀ g, ChannelInv s g) (e : Event) (g : String) : ChannelInv (step s e) g := by
  rcases step_ledger_cases s e with hq | ⟨s₀, g₀, origin, fromU, toU, content, p, hq, -, he⟩ |
      ⟨g₀, gw, t, rest, hgw, hin, -, ⟨hm, -⟩ | ⟨m, hm, hq⟩⟩ | ⟨g₀, gw, -, he⟩
  · exact quiet h hq g
  · rw [he]; exact sendPrivateMessage (quiet h hq) _ _ _ _ _ _ g
  · obtain ⟨m, hm', -⟩ := receive h hgw hin
    simp [hm] at hm'
  · obtain ⟨m', hm', hinv⟩ := receive h hgw hin
    rw [hm, Option.some.injEq] at hm'
    subst hm'
    exact quiet hinv hq g
  · rw [he]; exact stop h _ _ g

end ChannelInv

theorem Reachable.channelInv {s : Cluster} (h : Reachable s) : ∀ g, ChannelInv s g := by
  induction h with
  | initial gs =>
    intro g
    refine ⟨[], ?_, by simp, List.Sublist.slnil⟩
    simp only [Cluster.inbox, Cluster.initial]
    split <;> rfl
  | next e _ ih => exact ChannelInv.next ih e

/-- In every reachable state, what gateway `g`'s `receiveLoop` handled, followed by the
messages whose JSON is still pending at its subscription (each of which decodes back), is
an order-preserving subsequence of the messages published to `g`: no message is handled
twice, out of publish order, or without having been published to that gateway.  Messages
may be lost on the way (`PubSubManager.Stop`, or go-redis's buffer), which this allows. -/
theorem Reachable.channel_fifo {s : Cluster} (h : Reachable s) (g : String) :
    ∃ pending, s.inbox g = pending.map PubSubMessage.toJson ∧
      (∀ m ∈ pending, PubSubMessage.ofJson m.toJson = some m) ∧
      (received s.trace g ++ pending).Sublist (published s.trace g) :=
  h.channelInv g

theorem channel_fifo_across_gateways :
    ∃ pending,
      (run (Cluster.initial ["g", "h"]) messageAcrossGateways).inbox "h" = pending.map PubSubMessage.toJson ∧
      (∀ m ∈ pending, PubSubMessage.ofJson m.toJson = some m) ∧
      (received (run (Cluster.initial ["g", "h"]) messageAcrossGateways).trace "h" ++ pending).Sublist
        (published (run (Cluster.initial ["g", "h"]) messageAcrossGateways).trace "h") :=
  Reachable.channel_fifo ((Reachable.initial _).run _) "h"

end GoIm
