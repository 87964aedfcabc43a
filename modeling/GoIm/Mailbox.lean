/-
The offline mailbox over whole runs (`service/message.go`, `service/offline.go`,
`cmd/main.go`).

`handleMessageAck` is documented to delete the offline messages the client confirmed,
an ack of `S` confirming every earlier message; but its `Remove` deletes every entry scored
up to `seq_id` whether or not it was ever sent.  `DeliverOfflineMessages` runs in a
goroutine of its own after `AuthAck`, so a message delivered live can be acknowledged
before it runs, and the ack then removes older entries no connection carried.

* `step_store_cases` — what a step does to the store: time passes, an ack's `Remove`,
  or at most one `Store`;
* `Reachable.mailbox_induction` — a property of the mailboxes that the empty store has
  and time, `Remove` and `Store` keep holds in every reachable state;
* `Reachable.scoredBySeq` — every mailbox entry is scored by its message's `SeqID`;
* `ack_removes_unsent_entry` — `bob` acknowledges a message he received live, and an
  older entry that no connection ever carried leaves his mailbox.
-/
import GoIm.Cluster

namespace GoIm

theorem Store.mailbox_congr {st st' : Store} (hn : st'.now = st.now)
    (hm : st'.mailboxes = st.mailboxes) : st'.mailbox = st.mailbox := by
  funext u; simp [Store.mailbox, hn, hm]

/-- `Store` reads the clock and the mailboxes only. -/
theorem offlineStore_mailbox_congr {st st' : Store} (hn : st'.now = st.now)
    (hm : st'.mailboxes = st.mailboxes) (u : String) (m : OfflineMessage) :
    (offlineStore st' u m).mailbox = (offlineStore st u m).mailbox := by
  funext v; simp only [mailbox_offlineStore, hn, Store.mailbox_congr hn hm]

/-- The mailboxes after a step that runs at most one `Store`, of a message from
`fromU`. -/
def StoresAtMostOne (st st' : Store) (fromU : String) : Prop :=
  st'.mailbox = st.mailbox ∨
    ∃ u m, m.fromUserID = fromU ∧ st'.mailbox = (offlineStore st u m).mailbox

namespace StoresAtMostOne

variable {st st' : Store} {fromU : String}

theorem of_eq (h : st' = st) : StoresAtMostOne st st' fromU := .inl (h ▸ rfl)

/-- A step that only moved the counters stores what the one before it stores. -/
theorem congr_left {st₀ : Store} (h : StoresAtMostOne st st' fromU) (hn : st.now = st₀.now)
    (hm : st.mailboxes = st₀.mailboxes) : StoresAtMostOne st₀ st' fromU := by
  rcases h with h | ⟨u, m, hu, h⟩
  · exact .inl (h.trans (Store.mailbox_congr hn hm))
  · exact .inr ⟨u, m, hu, h.trans (offlineStore_mailbox_congr hn hm u m)⟩

/-- What such a step adds to a mailbox is a message from `fromU`. -/
theorem mem {u : String} {x : MailEntry} (h : StoresAtMostOne st st' fromU)
    (hx : x ∈ st'.mailbox u) : x ∈ st.mailbox u ∨ x.2.fromUserID = fromU := by
  rcases h with h | ⟨v, m, hm, h⟩
  · exact .inl (h ▸ hx)
  · rw [h] at hx
    rcases mem_mailbox_offlineStore hx with hx | ⟨-, rfl⟩
    · exact .inl hx
    · exact .inr hm

end StoresAtMostOne

section Ops

variable (s : Cluster)

theorem deliverLocal_stores (g uid : String) (msg : ChatMessage) (p : Bool) :
    StoresAtMostOne s.store (s.deliverLocal g uid msg p).store msg.fromUserID := by
  unfold Cluster.deliverLocal
  split
  · exact .of_eq (by simp)
  · exact .inr ⟨_, _, rfl, rfl⟩

theorem sendPrivateMessage_stores (g : String) (origin : Nat) (fromU toU content : String)
    (p : Bool) :
    StoresAtMostOne s.store (s.sendPrivateMessage g origin fromU toU content p).store fromU := by
  unfold Cluster.sendPrivateMessage
  dsimp only
  split
  · exact .of_eq rfl
  · rename_i seq st hseq
    obtain ⟨-, rfl⟩ := Store.incrBy_eq_some hseq
    split
    · exact .inr ⟨_, _, rfl, offlineStore_mailbox_congr rfl rfl _ _⟩
    · split
      · exact StoresAtMostOne.congr_left (deliverLocal_stores _ _ _ _ _) rfl rfl
      · exact .inl (by rw [Cluster.publish_store]; exact Store.mailbox_congr rfl rfl)

theorem handleAuth_stores (g : String) (ci : Nat) (c : Conn) (tok : Option Token) (p : Bool)
    (fromU : String) : StoresAtMostOne s.store (s.handleAuth g ci c tok p).store fromU := by
  unfold Cluster.handleAuth
  split
  · exact .of_eq (by simp)
  · exact .of_eq (by simp)
  · exact .inl (Store.mailbox_congr (by simp) (by simp))

/-- A frame on connection `ci` either runs at most one `Store`, of a message from the
connection's user, or is an ack on a bound connection, whose `Remove` is all it does to
the store. -/
theorem handleFrame_store_cases {ci : Nat} {c : Conn} (hc : s.conns ci = some c) (req : Request)
    (p : Bool) :
    StoresAtMostOne s.store (s.handleFrame ci req p).store c.userID ∨
      ∃ n, c.userID ≠ "" ∧ req = .messageAck (some n) ∧
        (s.handleFrame ci req p).store = offlineRemove s.store c.userID n := by
  unfold Cluster.handleFrame
  rw [hc]
  dsimp only
  split
  · exact .inl (.of_eq (by simp))
  · exact .inl (handleAuth_stores _ _ _ _ _ _ _)
  · split
    · exact .inl (.of_eq rfl)
    · split
      · exact .inl (sendPrivateMessage_stores _ _ _ _ _ _ _)
      · exact .inl (.of_eq rfl)
  · split
    · exact .inl (.of_eq rfl)
    · split
      · exact .inr ⟨_, ‹_›, rfl, rfl⟩
      · exact .inl (.of_eq rfl)
  · exact .inl (.of_eq rfl)

end Ops

/-- What a step does to the store: time passes, a `MessageAck` frame on a connection
bound to a user runs `Remove` on that user's mailbox, or at most one `Store` runs. -/
theorem step_store_cases (s : Cluster) (e : Event) :
    (∃ dt, e = .tick dt ∧ (step s e).store = s.store.tick dt) ∨
      (∃ ci c n p, e = .frame ci (.messageAck (some n)) p ∧ s.conns ci = some c ∧
        c.reader = .read ∧ c.userID ≠ "" ∧ (step s e).store = offlineRemove s.store c.userID n) ∨
      ∃ fromU, StoresAtMostOne s.store (step s e).store fromU := by
  cases e with
  | tick dt => exact .inl ⟨dt, rfl, rfl⟩
  | frame ci req p =>
    simp only [step]
    split
    · rename_i c hc
      split
      · rename_i hr
        have hc' : (s.setReader ci .check).conns ci = some { c with reader := .check } := by simp [hc]
        rcases handleFrame_store_cases _ hc' req p with h | ⟨n, hu, rfl, h⟩
        · exact .inr (.inr ⟨_, by simpa using h⟩)
        · exact .inr (.inl ⟨ci, c, n, p, rfl, hc, hr, hu, by simpa using h⟩)
      · exact .inr (.inr ⟨"", .of_eq rfl⟩)
    · exact .inr (.inr ⟨"", .of_eq rfl⟩)
  | receive g p =>
    simp only [step]
    refine .inr (.inr ?_)
    split
    · split
      · split
        · split
          · exact ⟨_, StoresAtMostOne.congr_left (deliverLocal_stores _ _ _ _ _) (by simp) (by simp)⟩
          · exact ⟨"", .of_eq rfl⟩
        · exact ⟨"", .of_eq rfl⟩
      · exact ⟨"", .of_eq rfl⟩
    · exact ⟨"", .of_eq rfl⟩
  | accept _ | check _ _ _ | readError _ | cleanup _ | writeLoop _ _ _ | deliverOffline _ _ | stop _
    | stopPubSub _ => exact .inr (.inr ⟨"", .of_eq (step_store_of_not_touchesStore s _ rfl)⟩)

/-- A property of the mailboxes that holds of the empty ones and survives time, an ack's
`Remove` and a `Store` holds in every reachable state. -/
theorem Reachable.mailbox_induction {s : Cluster} (h : Reachable s)
    (P : (String → List MailEntry) → Prop) (h0 : P fun _ => [])
    (htick : ∀ (st : Store) (dt : Nat), P st.mailbox → P (st.tick dt).mailbox)
    (hrem : ∀ (st : Store) u n, P st.mailbox → P (offlineRemove st u n).mailbox)
    (hstore : ∀ (st : Store) u m, P st.mailbox → P (offlineStore st u m).mailbox) :
    P s.store.mailbox := by
  induction h with
  | initial gs => exact h0
  | @next s e _ ih =>
    rcases step_store_cases s e with ⟨dt, -, hst⟩ | ⟨ci, c, n, p, -, -, -, -, hst⟩ | ⟨_, hm⟩
    · exact hst ▸ htick _ dt ih
    · exact hst ▸ hrem _ _ n ih
    · rcases hm with hm | ⟨u, m, -, hm⟩
      · exact hm ▸ ih
      · exact hm ▸ hstore _ u m ih

/-- Every mailbox entry of a reachable state is scored by its message's `SeqID`. -/
theorem Reachable.scoredBySeq {s : Cluster} (h : Reachable s) : ScoredBySeq s.store :=
  h.mailbox_induction (fun mb => ∀ u, ∀ x ∈ mb u, x.1 = x.2.seqID) (fun _ _ hx => nomatch hx)
    (fun _ dt ih => ScoredBySeq.tick ih dt) (fun _ u n ih => ScoredBySeq.offlineRemove ih u n)
    (fun _ u m ih => ScoredBySeq.offlineStore ih u m)

/-- `alice` writes to `bob` twice.  The first message finds `bob` offline and goes to
his mailbox; `bob` logs in, and before his `DeliverOfflineMessages` goroutine runs, the
second is delivered to him live and written. -/
def ackBeforeOfflineDelivery : List Event :=
  [.accept "g", .check 0 false false, .frame 0 (.auth (some (.valid "alice"))) false,
    .check 0 false false, .frame 0 (.message (some ("bob", "m1"))) false,
    .accept "g", .check 1 false false, .frame 1 (.auth (some (.valid "bob"))) false,
    .check 0 false false, .frame 0 (.message (some ("bob", "m2"))) false,
    .writeLoop 1 false false, .writeLoop 1 false false, .check 1 false false]

/-- An ack removes what was never sent.  `bob` acknowledges `seq_id` 2, the message his
client received; the `Remove` also takes the entry of the first message, which neither
of the two connections ever carried, and leaves the mailbox empty before
`DeliverOfflineMessages` runs. -/
theorem ack_removes_unsent_entry :
    (run (Cluster.initial ["g"]) ackBeforeOfflineDelivery).store.mailbox "bob" =
        [(1, ⟨"alice", "bob", "m1", msgTypePrivate, 1, 0⟩)] ∧
      ((run (Cluster.initial ["g"]) ackBeforeOfflineDelivery).conns 1).map (·.written) =
        some [.authAck true "bob", .chat ⟨"alice", "bob", "m2", msgTypePrivate, 2, 0⟩] ∧
      (run (Cluster.initial ["g"]) ackBeforeOfflineDelivery).tasks = [(0, "alice"), (1, "bob")] ∧
      (step (run (Cluster.initial ["g"]) ackBeforeOfflineDelivery)
          (.frame 1 (.messageAck (some 2)) false)).store.mailbox "bob" = [] ∧
      (step (run (Cluster.initial ["g"]) ackBeforeOfflineDelivery)
          (.frame 1 (.messageAck (some 2)) false)).nextConn = 2 ∧
      ((step (run (Cluster.initial ["g"]) ackBeforeOfflineDelivery)
          (.frame 1 (.messageAck (some 2)) false)).conns 0).map (·.written) = some [] ∧
      ((step (run (Cluster.initial ["g"]) ackBeforeOfflineDelivery)
          (.frame 1 (.messageAck (some 2)) false)).conns 1).map (·.written) =
        some [.authAck true "bob", .chat ⟨"alice", "bob", "m2", msgTypePrivate, 2, 0⟩] := by
  set_option maxRecDepth 4000 in decide

end GoIm
