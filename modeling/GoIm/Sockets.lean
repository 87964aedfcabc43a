/-
Connections over whole runs (`server/connection.go`, `server/tcp_server.go`).

Every step changes each connection in one of a few ways (`ConnMove`): a `Send`, a move
of the reader loop, a `BindUser`, a `writeLoop` iteration, or the deferred cleanup; an
accept creates one.  The invariants of one connection are stated on the connection
together with what the trace records about it (`ConnView`), and each is proved once per
move.

* `step_moves` — every step other than an accept moves every connection by `ConnMove`s;
* `ConnView.Sound` and `Reachable.sound` — in every reachable state a connection's
  `UserID` is the user it was last bound to, and what its socket carried followed by
  what is queued is a subsequence of what `Send` queued on it;
* `ConnMove.closed_frozen` — once a connection is closed, nothing more reaches its
  socket.

Design notes: a connection is named by its handle, the index under which the cluster
keeps it; handles are never reused (`Reachable.fresh`).
-/
import GoIm.Cluster

namespace GoIm

/-- The frame an observation records as queued on connection `ci`. -/
def Obs.frameOn (ci : Nat) : Obs → Option Frame
  | .enqueue c f => if c = ci then some f else none
  | _ => none

/-- The user an observation records connection `ci` as bound to. -/
def Obs.bindOn (ci : Nat) : Obs → Option String
  | .bind c u => if c = ci then some u else none
  | _ => none

/-- The frames `Send` queued on connection `ci`, in order. -/
def queuedOn (t : List Obs) (ci : Nat) : List Frame := t.filterMap (Obs.frameOn ci)

/-- The users connection `ci` was bound to, in order. -/
def bindsOn (t : List Obs) (ci : Nat) : List String := t.filterMap (Obs.bindOn ci)

@[simp] theorem queuedOn_append (t t' : List Obs) (ci : Nat) :
    queuedOn (t ++ t') ci = queuedOn t ci ++ queuedOn t' ci := List.filterMap_append ..

@[simp] theorem bindsOn_append (t t' : List Obs) (ci : Nat) :
    bindsOn (t ++ t') ci = bindsOn t ci ++ bindsOn t' ci := List.filterMap_append ..

@[simp] theorem queuedOn_singleton (o : Obs) (ci : Nat) : queuedOn [o] ci = (o.frameOn ci).toList := by
  cases h : o.frameOn ci <;> simp [queuedOn, h]

@[simp] theorem bindsOn_singleton (o : Obs) (ci : Nat) : bindsOn [o] ci = (o.bindOn ci).toList := by
  cases h : o.bindOn ci <;> simp [bindsOn, h]

/-- A connection as the invariants see it: the connection, if it exists, with the
frames queued on it and the users it was bound to. -/
@[ext] structure ConnView where
  conn : Option Conn
  queued : List Frame
  binds : List String

/-- Connection `ci` of a cluster, with its part of the trace. -/
def Cluster.view (s : Cluster) (ci : Nat) : ConnView :=
  ⟨s.conns ci, queuedOn s.trace ci, bindsOn s.trace ci⟩

/-- What one goroutine can do to an existing connection. -/
inductive ConnMove : ConnView → ConnView → Prop
  /-- `Send`; a queued frame is recorded. -/
  | send (c : Conn) (f : Frame) (p : Bool) (q : List Frame) (b : List String) :
    ConnMove ⟨some c, q, b⟩
      ⟨some (c.send f p).1, q ++ if (c.send f p).2 = .queued then [f] else [], b⟩
  /-- The reader loop moves on. -/
  | reader (c : Conn) (r : ReaderPhase) (q : List Frame) (b : List String) :
    ConnMove ⟨some c, q, b⟩ ⟨some { c with reader := r }, q, b⟩
  /-- `BindUser`: the connection's `UserID` is set, and recorded. -/
  | bind (c : Conn) (u : String) (q : List Frame) (b : List String) :
    ConnMove ⟨some c, q, b⟩ ⟨some { c with userID := u }, q, b ++ [u]⟩
  /-- An iteration of `writeLoop`. -/
  | write (c : Conn) (p fail : Bool) (q : List Frame) (b : List String) :
    ConnMove ⟨some c, q, b⟩ ⟨some (c.writeStep p fail), q, b⟩
  /-- The handler's deferred `Close`. -/
  | cleanup (c : Conn) (q : List Frame) (b : List String) :
    ConnMove ⟨some c, q, b⟩ ⟨some { c with reader := .done, closed := true }, q, b⟩

/-- Every connection of `s` becomes the one of `s'` by moves. -/
def Moves (s s' : Cluster) : Prop :=
  ∀ ci, Relation.ReflTransGen ConnMove (s.view ci) (s'.view ci)

namespace Moves

variable {s s' s'' : Cluster}

theorem refl (s : Cluster) : Moves s s := fun _ => .refl

theorem trans (h : Moves s s') (h' : Moves s' s'') : Moves s s'' := fun ci => (h ci).trans (h' ci)

theorem of_view (h : ∀ ci, s'.view ci = s.view ci) : Moves s s' := fun ci => h ci ▸ .refl

end Moves

/-! ## Every step moves the connections -/

section Ops

variable (s : Cluster)

theorem moves_of_conns_trace {s' : Cluster} (hc : s'.conns = s.conns) (ht : s'.trace = s.trace) :
    Moves s s' :=
  Moves.of_view fun ci => by simp [Cluster.view, hc, ht]

theorem moves_withStore (st : Store) : Moves s { s with store := st } :=
  moves_of_conns_trace s rfl rfl

theorem moves_withTasks (ts : List (Nat × String)) : Moves s { s with tasks := ts } :=
  moves_of_conns_trace s rfl rfl

theorem moves_setGateway (g : String) (gw : Gateway) : Moves s (s.setGateway g gw) :=
  moves_of_conns_trace s rfl rfl

theorem moves_setManager (g : String) (m : ConnectionManager) : Moves s (s.setManager g m) :=
  moves_of_conns_trace s (by simp) (by simp)

/-- Logging what concerns no connection's queue or binding. -/
theorem moves_log (o : Obs) (h : ∀ ci, o.frameOn ci = none ∧ o.bindOn ci = none) :
    Moves s (s.log o) :=
  Moves.of_view fun ci => by simp [Cluster.view, (h ci).1, (h ci).2]

theorem moves_logAlloc (origin : Nat) (msg : ChatMessage) :
    Moves s (s.log (.alloc origin msg)) :=
  moves_log s _ fun _ => ⟨rfl, rfl⟩

theorem moves_logReceive (g : String) (m : PubSubMessage) : Moves s (s.log (.receive g m)) :=
  moves_log s _ fun _ => ⟨rfl, rfl⟩

/-- Replacing connection `ci` by a connection one move away. -/
theorem moves_setConn {ci : Nat} {c c' : Conn} (h : s.conns ci = some c)
    (hm : ∀ q b, ConnMove ⟨some c, q, b⟩ ⟨some c', q, b⟩) : Moves s (s.setConn ci c') := by
  intro j
  by_cases hj : j = ci
  · subst hj
    exact .single (by simpa [Cluster.view, h] using hm (queuedOn s.trace j) (bindsOn s.trace j))
  · exact (by simp [Cluster.view, hj] : (s.setConn ci c').view j = s.view j) ▸ .refl

theorem moves_send (ci : Nat) (f : Frame) (p : Bool) : Moves s (s.send ci f p) := by
  intro j
  unfold Cluster.send
  cases h : s.conns ci with
  | none => exact .refl
  | some c =>
    dsimp only
    by_cases hj : j = ci
    · subst hj
      refine .single ?_
      have hm := ConnMove.send c f p (queuedOn s.trace j) (bindsOn s.trace j)
      split <;> simp_all [Cluster.view, Obs.frameOn, Obs.bindOn]
    · refine (?_ : _ = s.view j) ▸ .refl
      split <;> simp [Cluster.view, hj, Obs.frameOn, Obs.bindOn, Ne.symm hj]

theorem moves_setReader (ci : Nat) (r : ReaderPhase) : Moves s (s.setReader ci r) := by
  unfold Cluster.setReader
  cases h : s.conns ci with
  | none => exact Moves.refl s
  | some c => exact moves_setConn s h (ConnMove.reader c r)

theorem moves_sendAll : ∀ (s : Cluster) (ci : Nat) (fs : List Frame) (ps : List Bool),
    Moves s (s.sendAll ci fs ps)
  | s, _, [], _ => Moves.refl s
  | s, ci, f :: fs, ps => (moves_send s ci f _).trans (moves_sendAll _ ci fs ps.tail)

theorem moves_storeOffline (fromU toU content : String) (seq : Int) :
    Moves s (s.storeOffline fromU toU content seq) :=
  moves_withStore s _

theorem moves_deliverLocal (g uid : String) (msg : ChatMessage) (p : Bool) :
    Moves s (s.deliverLocal g uid msg p) := by
  unfold Cluster.deliverLocal
  split
  · exact moves_send s _ _ _
  · exact moves_storeOffline s _ _ _ _

theorem moves_publish (tg : String) (m : PubSubMessage) : Moves s (s.publish tg m) := by
  unfold Cluster.publish
  split
  · split
    · exact (moves_setGateway s _ _).trans (moves_log _ _ fun _ => ⟨rfl, rfl⟩)
    · exact Moves.refl s
  · exact Moves.refl s

theorem moves_sendPrivateMessage (g : String) (origin : Nat) (fromU toU content : String)
    (p : Bool) : Moves s (s.sendPrivateMessage g origin fromU toU content p) := by
  unfold Cluster.sendPrivateMessage
  dsimp only
  split
  · exact Moves.refl s
  · rename_i seq st _
    refine ((moves_withStore s st).trans
      (moves_logAlloc _ origin ⟨fromU, toU, content, msgTypePrivate, seq, 0⟩)).trans ?_
    split
    · exact moves_storeOffline _ _ _ _ _
    · split
      · exact moves_deliverLocal _ _ _ _ _
      · exact moves_publish _ _ _

theorem moves_deliverOfflineMessages (ci : Nat) (uid : String) (ps : List Bool) :
    Moves s (s.deliverOfflineMessages ci uid ps) :=
  moves_sendAll s _ _ _

/-- `BindUser`'s half on the connection, with its record. -/
theorem moves_bind {ci : Nat} {c : Conn} (h : s.conns ci = some c) (u : String) :
    Moves s ((s.setConn ci { c with userID := u }).log (.bind ci u)) := by
  intro j
  by_cases hj : j = ci
  · subst hj
    have hm := ConnMove.bind c u (queuedOn s.trace j) (bindsOn s.trace j)
    exact .single (by simpa [Cluster.view, h, Obs.frameOn, Obs.bindOn] using hm)
  · refine (?_ : _ = s.view j) ▸ .refl
    simp [Cluster.view, hj, Obs.frameOn, Obs.bindOn, Ne.symm hj]

theorem moves_handleAuth (g : String) {ci : Nat} {c : Conn} (h : s.conns ci = some c)
    (tok : Option Token) (p : Bool) : Moves s (s.handleAuth g ci c tok p) := by
  unfold Cluster.handleAuth
  split
  · exact moves_send s _ _ _
  · exact moves_send s _ _ _
  · exact ((((moves_bind s h _).trans (moves_setManager _ _ _)).trans (moves_withStore _ _)).trans
      (moves_send _ _ _ _)).trans (moves_withTasks _ _)

theorem moves_handleFrame (ci : Nat) (req : Request) (p : Bool) :
    Moves s (s.handleFrame ci req p) := by
  unfold Cluster.handleFrame
  split
  · exact Moves.refl s
  · rename_i c h
    split
    · exact moves_send s _ _ _
    · exact moves_handleAuth s _ h _ _
    · split
      · exact Moves.refl s
      · split
        · exact moves_sendPrivateMessage s _ _ _ _ _ _
        · exact Moves.refl s
    · split
      · exact Moves.refl s
      · split
        · exact moves_withStore s _
        · exact Moves.refl s
    · exact Moves.refl s

end Ops

/-- Every step other than an accept moves every connection by `ConnMove`s. -/
theorem step_moves (s : Cluster) (e : Event) (he : ∀ g, e ≠ .accept g) : Moves s (step s e) := by
  cases e with
  | accept g => exact absurd rfl (he g)
  | check ci q p =>
    simp only [step]
    split
    · split
      · exact Moves.refl s
      · split
        · exact (moves_send s _ _ _).trans (moves_setReader _ _ _)
        · split
          · exact moves_setReader s _ _
          · exact moves_setReader s _ _
    · exact Moves.refl s
  | frame ci req p =>
    simp only [step]
    split
    · split
      · exact (moves_setReader s _ _).trans (moves_handleFrame _ _ _ _)
      · exact Moves.refl s
    · exact Moves.refl s
  | readError ci =>
    simp only [step]
    split
    · split
      · exact moves_setReader s _ _
      · exact Moves.refl s
    · exact Moves.refl s
  | cleanup ci =>
    simp only [step]
    split
    · rename_i c h
      split
      · exact (moves_setManager s _ _).trans
          (moves_setConn _ (by simpa using h) (ConnMove.cleanup c))
      · exact Moves.refl s
    · exact Moves.refl s
  | writeLoop ci p fail =>
    simp only [step]
    split
    · rename_i c h
      exact moves_setConn s h (ConnMove.write c p fail)
    · exact Moves.refl s
  | receive g p =>
    simp only [step]
    split
    · split
      · split
        · split
          · exact ((moves_setGateway s _ _).trans (moves_logReceive _ _ _)).trans
              (moves_deliverLocal _ _ _ _ _)
          · exact moves_setGateway s _ _
        · exact Moves.refl s
      · exact Moves.refl s
    · exact Moves.refl s
  | deliverOffline i ps =>
    simp only [step]
    split
    · exact (moves_withTasks s _).trans (moves_deliverOfflineMessages _ _ _ _)
    · exact Moves.refl s
  | stop g =>
    simp only [step]
    split
    · exact moves_setGateway s _ _
    · exact Moves.refl s
  | stopPubSub g =>
    simp only [step]
    split
    · exact moves_setGateway s _ _
    · exact Moves.refl s
  | tick dt => exact moves_withStore s _

/-! ## Creating connections -/

theorem step_nextConn (s : Cluster) (e : Event) (he : ∀ g, e ≠ .accept g) :
    (step s e).nextConn = s.nextConn := by
  cases e with
  | accept g => exact absurd rfl (he g)
  | check ci q p =>
    simp only [step]
    split
    · split
      · rfl
      · split
        · simp
        · split <;> simp
    · rfl
  | frame ci req p | readError ci | cleanup ci =>
    simp only [step]
    split
    · split <;> simp
    · rfl
  | receive g p =>
    simp only [step]
    split
    · split
      · split
        · split <;> simp
        · rfl
      · rfl
    · rfl
  | writeLoop ci p fail | deliverOffline i ps | stop g | stopPubSub g => simp only [step]; split <;> simp
  | tick dt => rfl

/-- An accept either does nothing or creates a connection under the next handle. -/
theorem accept_cases (s : Cluster) (g : String) :
    step s (.accept g) = s ∨
      ((step s (.accept g)).nextConn = s.nextConn + 1 ∧
        (∃ id, (step s (.accept g)).conns s.nextConn = some (Conn.new g id)) ∧
        (∀ ci, ci ≠ s.nextConn → (step s (.accept g)).conns ci = s.conns ci) ∧
        (step s (.accept g)).trace = s.trace) := by
  simp only [step]
  split
  · split
    · exact .inl rfl
    · exact .inr ⟨rfl, ⟨_, Function.update_same _ _ _⟩, fun ci h => by simp [h], rfl⟩
  · exact .inl rfl

theorem ConnMove.conn_isSome {v v' : ConnView} (m : ConnMove v v') :
    v.conn.isSome ∧ v'.conn.isSome := by
  cases m <;> exact ⟨rfl, rfl⟩

/-- Moves never bring a connection into existence. -/
theorem ConnMove.rtc_eq_of_none {v v' : ConnView} (m : Relation.ReflTransGen ConnMove v v')
    (h : v.conn = none) : v' = v := by
  induction m with
  | refl => rfl
  | tail _ m ih => subst ih; simpa [h] using m.conn_isSome.1

theorem ConnMove.rtc_isSome {v v' : ConnView} (m : Relation.ReflTransGen ConnMove v v')
    (h : v.conn.isSome) : v'.conn.isSome := by
  induction m with
  | refl => exact h
  | tail _ m _ => exact m.conn_isSome.2

/-- Handles from `nextConn` on are unused: no connection, nothing in the trace. -/
theorem Reachable.fresh {s : Cluster} (h : Reachable s) :
    ∀ ci, s.nextConn ≤ ci → s.view ci = ⟨none, [], []⟩ := by
  induction h with
  | initial gs => intro ci _; rfl
  | @next s e _ ih =>
    intro ci hci
    by_cases he : ∃ g, e = .accept g
    · obtain ⟨g, rfl⟩ := he
      rcases accept_cases s g with hs | ⟨hn, _, hc, ht⟩
      · rw [hs] at hci ⊢; exact ih ci hci
      · rw [hn] at hci
        have hv := ih ci (by omega)
        simp only [Cluster.view, ConnView.mk.injEq] at hv ⊢
        rw [hc ci (by omega), ht]
        exact hv
    · push_neg at he
      rw [step_nextConn s e he] at hci
      exact ConnMove.rtc_eq_of_none (ih ci hci ▸ step_moves s e he ci) rfl

/-- A connection of a reachable state is moved by every step, an accept included. -/
theorem Reachable.step_moves_of_isSome {s : Cluster} (h : Reachable s) {ci : Nat}
    (hc : (s.conns ci).isSome) (e : Event) :
    Relation.ReflTransGen ConnMove (s.view ci) ((step s e).view ci) := by
  by_cases he : ∃ g, e = .accept g
  · obtain ⟨g, rfl⟩ := he
    have hlt : ci ≠ s.nextConn := by
      intro hn
      have := congrArg ConnView.conn (h.fresh ci hn.ge)
      simp [Cluster.view] at this
      simp [this] at hc
    rcases accept_cases s g with hs | ⟨_, _, hc', ht⟩
    · rw [hs]
    · exact (by simp [Cluster.view, hc' ci hlt, ht] : (step s (.accept g)).view ci = s.view ci) ▸ .refl
  · push_neg at he
    exact step_moves s e he ci

/-- Along any run, a connection of a reachable state is moved by `ConnMove`s. -/
theorem Reachable.run_moves_of_isSome {s : Cluster} (h : Reachable s) {ci : Nat}
    (hc : (s.conns ci).isSome) (evs : List Event) :
    Relation.ReflTransGen ConnMove (s.view ci) ((GoIm.run s evs).view ci) := by
  induction evs generalizing s with
  | nil => exact .refl
  | cons e evs ih =>
    have m := h.step_moves_of_isSome hc e
    exact m.trans (ih (h.next e) (ConnMove.rtc_isSome m hc))

/-! ## The invariant of a connection -/

/-- What holds of every connection: one that does not exist has no record; one that
does carries the `UserID` of its last binding (empty before any), and what its socket
carried followed by what is queued is a subsequence of what `Send` queued on it. -/
def ConnView.Sound (v : ConnView) : Prop :=
  match v.conn with
  | none => v.queued = [] ∧ v.binds = []
  | some c => c.userID = v.binds.getLast?.getD "" ∧ (c.written ++ c.writeChan).Sublist v.queued

theorem ConnMove.sound {v v' : ConnView} (m : ConnMove v v') (h : v.Sound) : v'.Sound := by
  cases m with
  | send c f p q b =>
    obtain ⟨hu, hs⟩ := h
    refine ⟨by simpa using hu, ?_⟩
    rw [Conn.send_written, Conn.send_writeChan]
    split
    · simpa [← List.append_assoc] using hs.append (List.Sublist.refl [f])
    · simpa using hs
  | reader c r q b => exact h
  | bind c u q b => exact ⟨by simp, h.2⟩
  | write c p fail q b => exact ⟨by simpa using h.1, (Conn.writeStep_sublist c p fail).1.trans h.2⟩
  | cleanup c q b => exact h

theorem ConnView.Sound.of_rtc {v v' : ConnView} (m : Relation.ReflTransGen ConnMove v v')
    (h : v.Sound) : v'.Sound := by
  induction m with
  | refl => exact h
  | tail _ m ih => exact m.sound ih

/-- Every connection of a reachable state is sound. -/
theorem Reachable.sound {s : Cluster} (h : Reachable s) (ci : Nat) : (s.view ci).Sound := by
  induction h generalizing ci with
  | initial gs => exact ⟨rfl, rfl⟩
  | @next s e hr ih =>
    by_cases he : ∃ g, e = .accept g
    · obtain ⟨g, rfl⟩ := he
      rcases accept_cases s g with hs | ⟨_, ⟨id, hid⟩, hc, ht⟩
      · rw [hs]; exact ih ci
      · by_cases hci : ci = s.nextConn
        · subst hci
          have hf := hr.fresh s.nextConn le_rfl
          simp only [Cluster.view, ConnView.mk.injEq] at hf
          simp [ConnView.Sound, Cluster.view, hid, ht, hf.2.1, hf.2.2, Conn.new]
        · simpa [Cluster.view, hc ci hci, ht] using ih ci
    · push_neg at he
      exact ConnView.Sound.of_rtc (step_moves s e he ci) (ih ci)

/-! ## After `Close` -/

/-- On a closed connection no move writes: it stays closed, its socket as it was. -/
theorem ConnMove.closed_frozen {v v' : ConnView} (m : ConnMove v v') {c : Conn}
    (hv : v.conn = some c) (hc : c.closed) :
    ∃ c', v'.conn = some c' ∧ c'.closed ∧ c'.written = c.written := by
  cases m with
  | send c₀ f p q b => cases hv; exact ⟨_, rfl, by simpa using hc, by simp⟩
  | reader c₀ r q b => cases hv; exact ⟨_, rfl, hc, rfl⟩
  | bind c₀ u q b => cases hv; exact ⟨_, rfl, hc, rfl⟩
  | write c₀ p fail q b => cases hv; exact ⟨_, rfl, Conn.writeStep_of_closed _ p fail hc⟩
  | cleanup c₀ q b => cases hv; exact ⟨_, rfl, rfl, rfl⟩

theorem ConnMove.rtc_closed_frozen {v v' : ConnView} (m : Relation.ReflTransGen ConnMove v v')
    {c : Conn} (hv : v.conn = some c) (hc : c.closed) :
    ∃ c', v'.conn = some c' ∧ c'.closed ∧ c'.written = c.written := by
  induction m with
  | refl => exact ⟨c, hv, hc, rfl⟩
  | tail _ m ih =>
    obtain ⟨c₁, h₁, hc₁, hw₁⟩ := ih
    obtain ⟨c₂, h₂, hc₂, hw₂⟩ := m.closed_frozen h₁ hc₁
    exact ⟨c₂, h₂, hc₂, hw₂.trans hw₁⟩

/-- Once a connection of a reachable state is closed, no run writes to its socket again. -/
theorem Reachable.written_frozen {s : Cluster} (h : Reachable s) {ci : Nat} {c : Conn}
    (hc : s.conns ci = some c) (hcl : c.closed) (evs : List Event) :
    ∃ c', (GoIm.run s evs).conns ci = some c' ∧ c'.closed ∧ c'.written = c.written :=
  ConnMove.rtc_closed_frozen (h.run_moves_of_isSome (by simp [hc]) evs) hc hcl

/-- A schedule of shutdown: the handler of connection `0` sees `quit`, queues the `Kick`
and returns, and its deferred `Close` runs before `writeLoop` takes the frame. -/
def closeBeforeKick : List Event :=
  [.accept "g", .stop "g", .check 0 true false, .cleanup 0]

/-- The `Kick` of a shutdown can be lost: in this schedule it is queued on a connection
that is then closed, and no continuation of the run ever writes it to the socket. -/
theorem kick_lost_when_close_wins :
    (run (Cluster.initial ["g"]) closeBeforeKick).conns 0 =
        some { Conn.new "g" 1 with writeChan := [.kick], closed := true, reader := .done } ∧
      ∀ evs c, (run (run (Cluster.initial ["g"]) closeBeforeKick) evs).conns 0 = some c →
        .kick ∉ c.written := by
  have h0 : (run (Cluster.initial ["g"]) closeBeforeKick).conns 0 =
      some { Conn.new "g" 1 with writeChan := [.kick], closed := true, reader := .done } := by
    decide
  refine ⟨h0, fun evs c hc => ?_⟩
  obtain ⟨c', hc', -, hw⟩ := ((Reachable.initial _).run _).written_frozen h0 rfl evs
  cases hc.symm.trans hc'
  simp [hw, Conn.new]

/-- A schedule of delivery to a broken connection: `bob`'s `writeLoop` fails on the
`AuthAck` and closes the connection while its handler is still registered, and `alice`
then sends to `bob`. -/
def sendToBrokenConn : List Event :=
  [.accept "g", .check 0 false false, .frame 0 (.auth (some (.valid "alice"))) false,
    .accept "g", .check 1 false false, .frame 1 (.auth (some (.valid "bob"))) false,
    .writeLoop 1 false true, .check 0 false false, .frame 0 (.message (some ("bob", "hi"))) false]

/-- A closed connection that is still registered swallows a message.  The message gets
a sequence number, `deliverLocal` finds `bob`'s connection, and `Send` queues it there
(the runtime picks the queue over `closeChan`); nothing reaches the mailbox or pub/sub,
and no continuation of the run writes it to the socket. -/
theorem closed_registered_conn_swallows :
    (run (Cluster.initial ["g"]) sendToBrokenConn).trace =
        [.bind 0 "alice", .enqueue 0 (.authAck true "alice"), .bind 1 "bob",
          .enqueue 1 (.authAck true "bob"), .alloc 0 ⟨"alice", "bob", "hi", msgTypePrivate, 1, 0⟩,
          .enqueue 1 (.chat ⟨"alice", "bob", "hi", msgTypePrivate, 1, 0⟩)] ∧
      (run (Cluster.initial ["g"]) sendToBrokenConn).store.mailbox "bob" = [] ∧
      ((run (Cluster.initial ["g"]) sendToBrokenConn).manager "g").getByUserID "bob" = some 1 ∧
      ((run (Cluster.initial ["g"]) sendToBrokenConn).manager "g").connections 1 = true ∧
      (run (Cluster.initial ["g"]) sendToBrokenConn).conns 1 = some { Conn.new "g" 2 with
        userID := "bob", writeChan := [.chat ⟨"alice", "bob", "hi", msgTypePrivate, 1, 0⟩],
        closed := true, writer := false } ∧
      ∀ evs c, (run (run (Cluster.initial ["g"]) sendToBrokenConn) evs).conns 1 = some c →
        .chat ⟨"alice", "bob", "hi", msgTypePrivate, 1, 0⟩ ∉ c.written := by
  have h1 : (run (Cluster.initial ["g"]) sendToBrokenConn).conns 1 = some { Conn.new "g" 2 with
      userID := "bob", writeChan := [.chat ⟨"alice", "bob", "hi", msgTypePrivate, 1, 0⟩],
      closed := true, writer := false } := by
    decide
  refine ⟨by decide, by decide, by decide, by decide, h1, fun evs c hc => ?_⟩
  obtain ⟨c', hc', -, hw⟩ := ((Reachable.initial _).run _).written_frozen h1 rfl evs
  cases hc.symm.trans hc'
  simp [hw, Conn.new]

/-- A schedule in which connection `0`'s read fails before any frame: the handler returns
and its deferred `Close` runs on an empty queue. -/
def closeAfterReadError : List Event :=
  [.accept "g", .check 0 false false, .readError 0, .cleanup 0]

/-- `Send` on a closed connection can still queue a frame and return `nil`: after `Close`
both ready cases of its `select` may be picked, and the send case wins whenever the queue
has room. -/
theorem send_queues_after_close :
    (run (Cluster.initial ["g"]) closeAfterReadError).conns 0 =
        some { Conn.new "g" 1 with closed := true, reader := .done } ∧
      ({ Conn.new "g" 1 with closed := true, reader := .done } : Conn).send .pong false =
        ({ Conn.new "g" 1 with closed := true, reader := .done, writeChan := [.pong] }, .queued) ∧
      ∀ (c : Conn) (f : Frame) (b : List UInt8), pack f.toMessage = .ok b → c.closed →
        c.writeChan.length < writeChanCap →
        c.send f false = ({ c with writeChan := c.writeChan ++ [f] }, .queued) :=
  ⟨by decide, by decide, fun _ _ _ hp hc hq => (Conn.send_of_closed hp hc hq).1⟩

end GoIm
