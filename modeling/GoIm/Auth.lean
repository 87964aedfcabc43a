/-
What a connection's frames can do before and after it authenticates (`cmd/main.go`,
`server/tcp_server.go`).

`handleMessage` and `handleMessageAck` read the connection's `UserID` and drop the
frame while it is empty, and only an `Auth` whose token `ValidateToken` accepts sets it
(`BindUser`).  Since a connection's `UserID` is the user of its last binding
(`Reachable.sound`), a frame before the first binding touches neither the store nor the
gateways, and after it every message routed from the connection names the bound user as
its sender.

* `AppendsSentBy` — what a step adds to the trace names `u` as the sender of every message
  it routes, of every chat frame it queues and of every message it publishes;
* `handleFrame_sentBy`, `handleFrame_unbound` — the two facts for one frame;
* `FrameSpec`, `frames_act_as_bound_user` — in every reachable state, what any frame on
  any connection can do.
-/
import GoIm.Sockets
import GoIm.Mailbox

namespace GoIm

/-- An observation of a routed message names `u` as its sender. -/
def Obs.sentBy (u : String) : Obs → Prop
  | .alloc _ m => m.fromUserID = u
  | .enqueue _ (.chat m) => m.fromUserID = u
  | .publish _ m => m.fromUserID = u
  | _ => True

/-- What `s'` adds to the trace of `s` names `u` as the sender of every message. -/
def AppendsSentBy (u : String) (s s' : Cluster) : Prop :=
  ∃ new, s'.trace = s.trace ++ new ∧ ∀ o ∈ new, o.sentBy u

namespace AppendsSentBy

variable {u : String} {s s' s'' : Cluster}

theorem of_trace (h : s'.trace = s.trace) : AppendsSentBy u s s' := ⟨[], by simp [h], by simp⟩

theorem trans (h : AppendsSentBy u s s') (h' : AppendsSentBy u s' s'') : AppendsSentBy u s s'' := by
  obtain ⟨n, hn, hs⟩ := h
  obtain ⟨n', hn', hs'⟩ := h'
  exact ⟨n ++ n', by simp [hn', hn], by simp only [List.mem_append]; rintro o (ho | ho) <;> simp [*]⟩

theorem log (o : Obs) (ho : o.sentBy u) : AppendsSentBy u s (s.log o) :=
  ⟨[o], rfl, by simpa using ho⟩

end AppendsSentBy

section Ops

variable (s : Cluster)

theorem appendsSentBy_send {u : String} (ci : Nat) {f : Frame} (hf : ∀ m, f = .chat m → m.fromUserID = u)
    (p : Bool) : AppendsSentBy u s (s.send ci f p) := by
  unfold Cluster.send
  split
  · dsimp only
    split
    · refine (AppendsSentBy.of_trace rfl).trans (AppendsSentBy.log _ ?_)
      cases f <;> simp [Obs.sentBy, hf]
    · exact .of_trace rfl
  · exact .of_trace rfl

theorem appendsSentBy_deliverLocal (g uid : String) (msg : ChatMessage) (p : Bool) :
    AppendsSentBy msg.fromUserID s (s.deliverLocal g uid msg p) := by
  unfold Cluster.deliverLocal
  split
  · exact appendsSentBy_send s _ (by rintro m ⟨⟩; rfl) _
  · exact .of_trace rfl

theorem appendsSentBy_sendPrivateMessage (g : String) (origin : Nat) (fromU toU content : String)
    (p : Bool) : AppendsSentBy fromU s (s.sendPrivateMessage g origin fromU toU content p) := by
  unfold Cluster.sendPrivateMessage
  dsimp only
  split
  · exact .of_trace rfl
  · rename_i seq st _
    have halloc : AppendsSentBy fromU s
        ({ s with store := st }.log (.alloc origin ⟨fromU, toU, content, msgTypePrivate, seq, 0⟩)) :=
      (AppendsSentBy.of_trace rfl).trans (.log _ rfl)
    refine halloc.trans ?_
    split
    · exact .of_trace rfl
    · split
      · exact appendsSentBy_deliverLocal _ _ _ _ _
      · unfold Cluster.publish
        split
        · split
          · exact (AppendsSentBy.of_trace rfl).trans (.log _ rfl)
          · exact .of_trace rfl
        · exact .of_trace rfl

theorem appendsSentBy_handleAuth (u g : String) (ci : Nat) (c : Conn) (tok : Option Token)
    (p : Bool) : AppendsSentBy u s (s.handleAuth g ci c tok p) := by
  have hf : ∀ b t m, Frame.authAck b t = .chat m → m.fromUserID = u := by intro _ _ _ h; cases h
  unfold Cluster.handleAuth
  split
  · exact appendsSentBy_send s _ (hf _ _) _
  · exact appendsSentBy_send s _ (hf _ _) _
  · rename_i uid _
    exact ((((AppendsSentBy.of_trace rfl).trans (.log (.bind ci uid) trivial)).trans
      (.of_trace (by simp))).trans (appendsSentBy_send _ _ (hf _ _) _)).trans (.of_trace rfl)

/-- Every message a frame on connection `ci` routes names the connection's `UserID` as
its sender. -/
theorem handleFrame_sentBy {ci : Nat} {c : Conn} (hc : s.conns ci = some c) (req : Request)
    (p : Bool) : AppendsSentBy c.userID s (s.handleFrame ci req p) := by
  unfold Cluster.handleFrame
  rw [hc]
  dsimp only
  split
  · exact appendsSentBy_send s _ (by rintro m ⟨⟩) _
  · exact appendsSentBy_handleAuth s _ _ _ _ _ _
  · split
    · exact .of_trace rfl
    · split
      · exact appendsSentBy_sendPrivateMessage s _ _ _ _ _ _
      · exact .of_trace rfl
  · split
    · exact .of_trace rfl
    · split <;> exact .of_trace rfl
  · exact .of_trace rfl

/-- A frame on a connection with no `UserID` that is not an `Auth` with an accepted
token leaves the store and the gateways as they are. -/
theorem handleFrame_unbound {ci : Nat} {c : Conn} (hc : s.conns ci = some c) (hu : c.userID = "")
    (req : Request) (hreq : ∀ u, req ≠ .auth (some (.valid u))) (p : Bool) :
    (s.handleFrame ci req p).store = s.store ∧ (s.handleFrame ci req p).gateways = s.gateways := by
  unfold Cluster.handleFrame
  rw [hc]
  dsimp only
  cases req with
  | heartbeat => simp
  | auth tok =>
    unfold Cluster.handleAuth
    match tok with
    | none => simp
    | some .expired => simp [validateToken]
    | some .invalid => simp [validateToken]
    | some (.valid u) => exact absurd rfl (hreq u)
  | message body => simp [hu]
  | messageAck seq => simp [hu]
  | other _ => simp

end Ops

/-- What a frame on connection `ci` may do to a state `s`. -/
structure FrameSpec (s : Cluster) (ci : Nat) (req : Request) (p : Bool) : Prop where
  /-- Before the connection's first binding, a frame other than an `Auth` with an
  accepted token changes nothing in the store (directory, counters, mailboxes) or the
  gateways (registries, pub/sub). -/
  unbound : bindsOn s.trace ci = [] → (∀ u, req ≠ .auth (some (.valid u))) →
    (step s (.frame ci req p)).store = s.store ∧ (step s (.frame ci req p)).gateways = s.gateways
  /-- After it, every message routed, every chat frame queued and every message published
  names the user of the last binding as its sender, ... -/
  sentBy : ∀ u, (bindsOn s.trace ci).getLast? = some u → AppendsSentBy u s (step s (.frame ci req p))
  /-- ... so does every message stored in a mailbox, ... -/
  stored : ∀ u, (bindsOn s.trace ci).getLast? = some u → ∀ v x,
    x ∈ (step s (.frame ci req p)).store.mailbox v → x ∉ s.store.mailbox v → x.2.fromUserID = u
  /-- ... and a `MessageAck` leaves every other user's mailbox as it is. -/
  acked : ∀ u, (bindsOn s.trace ci).getLast? = some u → ∀ n, req = .messageAck (some n) →
    ∀ v, v ≠ u → (step s (.frame ci req p)).store.mailbox v = s.store.mailbox v

/-- In every reachable state, a frame on any connection acts only as the user the
connection was last bound to, and not at all before its first binding. -/
theorem frames_act_as_bound_user {s : Cluster} (h : Reachable s) (ci : Nat) (req : Request)
    (p : Bool) : FrameSpec s ci req p := by
  by_cases hs : ∃ c, s.conns ci = some c ∧ c.reader = .read
  · obtain ⟨c, hc, hr⟩ := hs
    have hstep : step s (.frame ci req p) = (s.setReader ci .check).handleFrame ci req p := by
      simp [step, hc, hr]
    have hc' : (s.setReader ci .check).conns ci = some { c with reader := .check } := by simp [hc]
    have hu : c.userID = (bindsOn s.trace ci).getLast?.getD "" := by
      have := h.sound ci
      simp only [ConnView.Sound, Cluster.view, hc] at this
      exact this.1
    refine ⟨fun hb hreq => ?_, fun u hl => ?_, fun u hl v x hx hx' => ?_, fun u hl n hn v hv => ?_⟩ <;>
      rw [hstep] at *
    · simpa using handleFrame_unbound _ hc' (by simp [hu, hb]) req hreq p
    · have := handleFrame_sentBy _ hc' req p
      simpa [hu, hl] using (AppendsSentBy.of_trace (by simp)).trans this
    · rcases handleFrame_store_cases _ hc' req p with hm | ⟨n, -, -, hst⟩
      · rcases hm.mem hx with hx | hx
        · exact absurd (by simpa using hx) hx'
        · simpa [hu, hl] using hx
      · rw [hst, mailbox_offlineRemove] at hx
        split at hx
        · rename_i hv
          exact absurd (by simpa [hv] using List.mem_of_mem_filter hx) hx'
        · exact absurd (by simpa using hx) hx'
    · subst hn
      simp only [Cluster.handleFrame, hc', hu, hl, Option.getD_some]
      split
      · simp
      · simp [mailbox_offlineRemove, hv]
  · have hstep : step s (.frame ci req p) = s := by
      simp only [step]
      split
      · split
        · exact absurd ⟨_, ‹_›, ‹_›⟩ hs
        · rfl
      · rfl
    refine ⟨fun _ _ => ?_, fun _ _ => ?_, fun _ _ _ _ hx hx' => ?_, fun _ _ _ _ _ _ => ?_⟩ <;>
      rw [hstep] at *
    exacts [⟨rfl, rfl⟩, .of_trace rfl, absurd hx hx']

/-- `alice` has logged in on connection `0`, which waits for a frame. -/
theorem frames_act_as_bound_user_after_login :
    FrameSpec (run (Cluster.initial ["g"])
        [.accept "g", .check 0 false false, .frame 0 (.auth (some (.valid "alice"))) false,
          .check 0 false false])
      0 (.message (some ("bob", "hi"))) false :=
  frames_act_as_bound_user ((Reachable.initial _).run _) 0 _ false

end GoIm
