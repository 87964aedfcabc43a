/-
The session directory over whole runs (`service/session.go`, `service/message.go`,
`cmd/main.go`).

`handleAuth` binds the connection to the token's user and runs `Login`, which writes
`user_session:<u>` (the gateway and the connection's ID) and `user_gateway:<u>`;
`SendPrivateMessage` reads `user_gateway:<u>` to choose where a message goes, and publishes
it to that gateway's channel when it is another gateway.  Nothing else writes either key.

* `AuthedOn` — some connection of a gateway, under a connection ID, was bound to a user;
* `step_dir` — a step leaves both key families alone, or is a `Login` of the user just
  bound on a connection;
* `step_publishes` — a step publishes a message only to the gateway the directory names
  for its recipient;
* `Reachable.directory_names_authenticated_gateways` — in every reachable state every
  location names a gateway on which the user authenticated, every session, on its own, a
  gateway and the ID of a connection of it bound to the user, and every message was
  published only to a gateway on which its recipient authenticated.

Design notes: each key is taken on its own.  `Login` writes the two keys with separate
commands of one pipeline, which the model runs as one step but which interleave with
another gateway's `Login` in Go, so the location and the session can name different
gateways (`login_pipelines_not_atomic`); each key's value still comes from one command of
one `Login`, which is what the result uses.  A key is read whether or not its deadline
has passed, so expired keys are covered too.  A connection keeps its gateway and ID for
good, and the trace only grows, so what was once authenticated stays recorded.
-/
import GoIm.Ledger

namespace GoIm

/-! ## Connections and the trace persist -/

/-- A move keeps a connection, on its gateway and under its ID. -/
theorem ConnMove.keeps {v v' : ConnView} (m : ConnMove v v') {c : Conn} (hc : v.conn = some c) :
    ∃ c', v'.conn = some c' ∧ c'.gateway = c.gateway ∧ c'.id = c.id := by
  cases m with
  | send c₀ f p q b => cases hc; exact ⟨_, rfl, Conn.send_gateway .., by rw [Conn.send_eq]⟩
  | reader c₀ r q b => cases hc; exact ⟨_, rfl, rfl, rfl⟩
  | bind c₀ u q b => cases hc; exact ⟨_, rfl, rfl, rfl⟩
  | write c₀ p fail q b => cases hc; exact ⟨_, rfl, Conn.writeStep_gateway .., by rw [Conn.writeStep_eq]⟩
  | cleanup c₀ q b => cases hc; exact ⟨_, rfl, rfl, rfl⟩

theorem ConnMove.rtc_keeps {v v' : ConnView} (m : Relation.ReflTransGen ConnMove v v') {c : Conn}
    (hc : v.conn = some c) : ∃ c', v'.conn = some c' ∧ c'.gateway = c.gateway ∧ c'.id = c.id := by
  induction m with
  | refl => exact ⟨c, hc, rfl, rfl⟩
  | tail _ m ih =>
    obtain ⟨c₁, h₁, hg, hi⟩ := ih
    obtain ⟨c₂, h₂, hg', hi'⟩ := m.keeps h₁
    exact ⟨c₂, h₂, hg'.trans hg, hi'.trans hi⟩

theorem Quiet.trace_grows {s s' : Cluster} (h : Quiet s s') : s.trace <+: s'.trace := by
  obtain ⟨new, hn, -⟩ := h.trace
  exact hn ▸ List.prefix_append _ _

theorem sendPrivateMessage_trace_grows (s : Cluster) (g : String) (origin : Nat)
    (fromU toU content : String) (p : Bool) :
    s.trace <+: (s.sendPrivateMessage g origin fromU toU content p).trace := by
  rcases sendPrivateMessage_ledger_cases s g origin fromU toU content p with he | ⟨seq, st, -, hq | ⟨tg, -, he⟩⟩
  · rw [he]
  · exact (List.prefix_append _ _).trans hq.trace_grows
  · rw [he]
    rcases publish_cases _ tg ⟨fromU, toU, content, msgTypePrivate, seq⟩ with hp | ⟨gw, -, -, hp⟩
    · rw [hp]; exact List.prefix_append _ _
    · rw [hp, Cluster.log_trace, Cluster.setGateway_trace, Cluster.log_trace, List.append_assoc]
      exact List.prefix_append _ _

/-- A quiet change adds only minor observations to the trace. -/
theorem Quiet.mem_trace {s s' : Cluster} (h : Quiet s s') {o : Obs} (ho : ¬ o.Minor) (hm : o ∈ s'.trace) :
    o ∈ s.trace := by
  obtain ⟨new, hn, hmin⟩ := h.trace
  rw [hn] at hm
  exact (List.mem_append.mp hm).resolve_right fun h' => ho (hmin _ h')

theorem Cluster.mem_log_trace {s : Cluster} {o o' : Obs} (h : o ∈ (s.log o').trace) (hne : o ≠ o') :
    o ∈ s.trace :=
  (List.mem_append.mp h).resolve_right fun h' => hne (List.mem_singleton.mp h')

/-- A step only adds to the trace. -/
theorem step_trace_grows (s : Cluster) (e : Event) : s.trace <+: (step s e).trace := by
  rcases step_ledger_cases s e with hq | ⟨s₀, g, origin, fromU, toU, content, p, hq, -, he⟩ |
      ⟨g, gw, t, rest, -, -, -, ⟨-, he⟩ | ⟨m, -, hq⟩⟩ | ⟨g, gw, -, he⟩
  · exact hq.trace_grows
  · rw [he]; exact hq.trace_grows.trans (sendPrivateMessage_trace_grows _ _ _ _ _ _ _)
  · rw [he, Cluster.setGateway_trace]
  · exact (List.prefix_append _ _).trans hq.trace_grows
  · rw [he, Cluster.setGateway_trace]

/-- Some connection of gateway `g`, with connection ID `id`, is recorded as bound to `u`. -/
def AuthedOn (s : Cluster) (u g : String) (id : Nat) : Prop :=
  ∃ ci c, s.conns ci = some c ∧ c.gateway = g ∧ c.id = id ∧ Obs.bind ci u ∈ s.trace

/-- What was authenticated stays recorded. -/
theorem Reachable.authedOn_step {s : Cluster} (h : Reachable s) {u g : String} {id : Nat}
    (ha : AuthedOn s u g id) (e : Event) : AuthedOn (step s e) u g id := by
  obtain ⟨ci, c, hc, hg, hi, hb⟩ := ha
  obtain ⟨c', hc', hg', hi'⟩ :=
    ConnMove.rtc_keeps (h.step_moves_of_isSome (by simp [hc]) e) (show (s.view ci).conn = some c from hc)
  exact ⟨ci, c', hc', hg'.trans hg, hi'.trans hi, (step_trace_grows s e).subset hb⟩

/-! ## The directory's keys -/

/-- The directory's two key families: `user_gateway:<u>` and `user_session:<u>`. -/
def Store.dir (st : Store) :
    (String → Option (Expiring String)) × (String → Option (Expiring SessionRecord)) :=
  (st.locations, st.sessions)

theorem Store.dir_eq {st st' : Store} :
    st'.dir = st.dir ↔ st'.locations = st.locations ∧ st'.sessions = st.sessions := by
  simp [Store.dir]

@[simp] theorem Store.dir_offlineStore (st : Store) (u : String) (m : OfflineMessage) :
    (offlineStore st u m).dir = st.dir := rfl

@[simp] theorem Store.dir_offlineRemove (st : Store) (u : String) (n : Int) :
    (offlineRemove st u n).dir = st.dir := by
  unfold offlineRemove; split <;> rfl

@[simp] theorem Store.dir_tick (st : Store) (dt : Nat) : (st.tick dt).dir = st.dir := rfl

theorem expireKey_ne {α : Type} (m : String → Option (Expiring α)) (now ttl : Nat) {k v : String}
    (hv : v ≠ k) : expireKey m now ttl k v = m v := by
  unfold expireKey; cases liveEntry m now k <;> simp [hv]

/-- `EXPIRE` keeps a key's value. -/
theorem expireKey_self {α : Type} {m : String → Option (Expiring α)} {now ttl : Nat} {k : String}
    {e : Expiring α} (h : expireKey m now ttl k k = some e) : ∃ e₀, m k = some e₀ ∧ e.value = e₀.value := by
  unfold expireKey at h
  cases hl : liveEntry m now k with
  | none => simp only [hl] at h; exact ⟨e, h, rfl⟩
  | some e₀ =>
    simp only [hl, Function.update_same, Option.some.injEq] at h
    exact ⟨e₀, ((liveEntry_eq_some m now).mp hl).1, by rw [← h]⟩

/-- What `Login(u, connID)` on gateway `g` leaves in the directory: `u`'s location names
`g`, `u`'s session names `g` and `connID`, and the other users' keys are as they were. -/
theorem login_dir (st : Store) (g u : String) (connID now : Nat) :
    (∀ v, v ≠ u → ((loginCmds g u connID now).foldl Store.exec st).locations v = st.locations v ∧
        ((loginCmds g u connID now).foldl Store.exec st).sessions v = st.sessions v) ∧
      (∀ e, ((loginCmds g u connID now).foldl Store.exec st).locations u = some e → e.value = g) ∧
      (∀ e, ((loginCmds g u connID now).foldl Store.exec st).sessions u = some e →
        e.value.gatewayID = g ∧ e.value.connID = connID) := by
  simp only [loginCmds, List.foldl, Store.exec]
  refine ⟨fun v hv => ⟨Function.update_noteq hv _ _, ?_⟩, fun e he => ?_, fun e he => ?_⟩
  · rw [expireKey_ne _ _ _ hv, Function.update_noteq hv]
  · rw [Function.update_same, Option.some.injEq] at he
    rw [← he]
  · obtain ⟨e₀, h₀, hv⟩ := expireKey_self he
    rw [Function.update_same, Option.some.injEq] at h₀
    rw [hv, ← h₀]
    exact ⟨rfl, rfl⟩

/-! ## What each operation does to the directory -/

section Ops

variable (s : Cluster)

theorem Cluster.send_conns_of {ci : Nat} {c : Conn} (hc : s.conns ci = some c) (f : Frame) (p : Bool) :
    (s.send ci f p).conns ci = some (c.send f p).1 := by
  unfold Cluster.send
  rw [hc]
  dsimp only
  split <;> simp

theorem deliverLocal_dir (g uid : String) (msg : ChatMessage) (p : Bool) :
    (s.deliverLocal g uid msg p).store.dir = s.store.dir := by
  unfold Cluster.deliverLocal
  split
  · simp
  · rfl

theorem sendPrivateMessage_dir (g : String) (origin : Nat) (fromU toU content : String) (p : Bool) :
    (s.sendPrivateMessage g origin fromU toU content p).store.dir = s.store.dir := by
  unfold Cluster.sendPrivateMessage
  dsimp only
  split
  · rfl
  · next seq st hseq =>
    obtain ⟨-, rfl⟩ := Store.incrBy_eq_some hseq
    split
    · rfl
    · split
      · exact (deliverLocal_dir _ _ _ _ _).trans rfl
      · simp only [Cluster.publish_store, Cluster.log_store]
        rfl

/-- `handleAuth` leaves the directory alone, or runs `Login` for the user it just bound on
the connection. -/
theorem handleAuth_dir (g : String) (ci : Nat) (c : Conn) (tok : Option Token) (p : Bool) :
    (s.handleAuth g ci c tok p).store.dir = s.store.dir ∨
      ∃ uid, (s.handleAuth g ci c tok p).store.dir = ((loginCmds g uid c.id s.store.now).foldl Store.exec s.store).dir ∧
        ∃ c', (s.handleAuth g ci c tok p).conns ci = some c' ∧ c'.gateway = c.gateway ∧ c'.id = c.id ∧
          Obs.bind ci uid ∈ (s.handleAuth g ci c tok p).trace := by
  unfold Cluster.handleAuth
  split
  · exact .inl (by simp)
  · exact .inl (by simp)
  · next uid _ =>
    refine .inr ⟨uid, by simp, _, @Cluster.send_conns_of _ ci { c with userID := uid } (by simp) _ _, by simp,
      by rw [Conn.send_eq], ?_⟩
    exact Cluster.trace_subset_send _ _ _ _ (by simp)

/-- A frame leaves the directory alone, or runs `Login` for the user it binds on its
connection. -/
theorem handleFrame_dir {ci : Nat} {c : Conn} (hc : s.conns ci = some c) (req : Request) (p : Bool) :
    (s.handleFrame ci req p).store.dir = s.store.dir ∨
      ∃ uid, (s.handleFrame ci req p).store.dir =
          ((loginCmds c.gateway uid c.id s.store.now).foldl Store.exec s.store).dir ∧
        ∃ c', (s.handleFrame ci req p).conns ci = some c' ∧ c'.gateway = c.gateway ∧ c'.id = c.id ∧
          Obs.bind ci uid ∈ (s.handleFrame ci req p).trace := by
  unfold Cluster.handleFrame
  rw [hc]
  dsimp only
  split
  · exact .inl (by simp)
  · exact handleAuth_dir _ _ _ _ _ _
  · split
    · exact .inl rfl
    · split
      · exact .inl (sendPrivateMessage_dir _ _ _ _ _ _ _)
      · exact .inl rfl
  · split
    · exact .inl rfl
    · split
      · exact .inl (Store.dir_offlineRemove _ _ _)
      · exact .inl rfl
  · exact .inl rfl

end Ops

/-- A step leaves the directory alone, or is a `Login` for the user a connection has just
been bound to, with the connection's gateway and ID. -/
theorem step_dir (s : Cluster) (e : Event) :
    (step s e).store.dir = s.store.dir ∨
      ∃ ci c uid, (step s e).conns ci = some c ∧ Obs.bind ci uid ∈ (step s e).trace ∧
        (step s e).store.dir = ((loginCmds c.gateway uid c.id s.store.now).foldl Store.exec s.store).dir := by
  cases e with
  | frame ci req p =>
    simp only [step]
    split
    · next c hc =>
      split
      · have hc' : (s.setReader ci .check).conns ci = some { c with reader := .check } := by simp [hc]
        rcases handleFrame_dir _ hc' req p with h | ⟨uid, hd, c', hc'', hg, hi, hb⟩
        · exact .inl (by simpa using h)
        · refine .inr ⟨ci, c', uid, hc'', hb, ?_⟩
          rw [hd, hg, hi]
          simp
      · exact .inl rfl
    · exact .inl rfl
  | receive g p =>
    refine .inl ?_
    simp only [step]
    split
    · split
      · split
        · split
          · exact (deliverLocal_dir _ _ _ _ _).trans rfl
          · rfl
        · rfl
      · rfl
    · rfl
  | tick dt => exact .inl (Store.dir_tick _ _)
  | accept _ | check _ _ _ | readError _ | cleanup _ | writeLoop _ _ _ | deliverOffline _ _ | stop _
    | stopPubSub _ => exact .inl (congrArg Store.dir (step_store_of_not_touchesStore s _ rfl))

/-- `SendPrivateMessage` publishes a message only to the gateway `GetUserGateway` named for
its recipient. -/
theorem sendPrivateMessage_publishes (s : Cluster) (g₀ : String) (origin : Nat) (fromU toU content : String)
    (p : Bool) {g : String} {m : PubSubMessage}
    (h : Obs.publish g m ∈ (s.sendPrivateMessage g₀ origin fromU toU content p).trace) :
    Obs.publish g m ∈ s.trace ∨ getUserGateway s.store m.toUserID = some g := by
  rcases sendPrivateMessage_ledger_cases s g₀ origin fromU toU content p with he | ⟨seq, st, hseq, hq | ⟨tg, htg, he⟩⟩
  · exact .inl (by rwa [he] at h)
  · exact .inl (Cluster.mem_log_trace (hq.mem_trace id h) (by simp))
  · obtain ⟨-, rfl⟩ := Store.incrBy_eq_some hseq
    rw [he] at h
    rcases publish_cases _ tg ⟨fromU, toU, content, msgTypePrivate, seq⟩ with hp | ⟨gw, -, -, hp⟩
    · rw [hp] at h
      exact .inl (Cluster.mem_log_trace h (by simp))
    · rw [hp] at h
      rcases List.mem_append.mp h with h | h
      · exact .inl (Cluster.mem_log_trace h (by simp))
      · obtain ⟨rfl, rfl⟩ := Obs.publish.inj (List.mem_singleton.mp h)
        exact .inr htg

/-- A step publishes a message only to the gateway the directory names for its recipient. -/
theorem step_publishes (s : Cluster) (e : Event) {g : String} {m : PubSubMessage}
    (h : Obs.publish g m ∈ (step s e).trace) :
    Obs.publish g m ∈ s.trace ∨ getUserGateway s.store m.toUserID = some g := by
  rcases step_ledger_cases s e with hq | ⟨s₀, g₀, origin, fromU, toU, content, p, hq, hst, he⟩ |
      ⟨g₀, gw, t, rest, -, -, -, ⟨-, he⟩ | ⟨m', -, hq⟩⟩ | ⟨g₀, gw, -, he⟩
  · exact .inl (hq.mem_trace id h)
  · rw [he] at h
    exact (sendPrivateMessage_publishes s₀ g₀ origin fromU toU content p h).imp (hq.mem_trace id)
      fun hg => hst ▸ hg
  · exact .inl (by rwa [he] at h)
  · exact .inl (Cluster.mem_log_trace (hq.mem_trace id h) (by simp))
  · exact .inl (by rwa [he] at h)

/-! ## Over whole runs -/

/-- Every location names a gateway on which the user authenticated, every session a
gateway and a connection ID, and every publish a gateway on which the recipient
authenticated. -/
structure Directed (s : Cluster) : Prop where
  location : ∀ u e, s.store.locations u = some e → ∃ id, AuthedOn s u e.value id
  session : ∀ u e, s.store.sessions u = some e → AuthedOn s u e.value.gatewayID e.value.connID
  publish : ∀ g m, Obs.publish g m ∈ s.trace → ∃ id, AuthedOn s m.toUserID g id

theorem Directed.next {s : Cluster} (hr : Reachable s) (h : Directed s) (e : Event) : Directed (step s e) := by
  have hpub : ∀ g m, Obs.publish g m ∈ (step s e).trace → ∃ id, AuthedOn (step s e) m.toUserID g id := by
    intro g m hm
    rcases step_publishes s e hm with hm | hg
    · obtain ⟨id, ha⟩ := h.publish g m hm
      exact ⟨id, hr.authedOn_step ha e⟩
    · obtain ⟨le, hle, hv⟩ := Option.map_eq_some'.mp ((lookup_eq_map_liveEntry _ _ _).symm.trans hg)
      obtain ⟨id, ha⟩ := h.location _ _ ((liveEntry_eq_some _ _).mp hle).1
      exact ⟨id, hr.authedOn_step (hv ▸ ha) e⟩
  rcases step_dir s e with hd | ⟨ci, c, uid, hc, hb, hd⟩
  · obtain ⟨hl, hs⟩ := Store.dir_eq.mp hd
    exact ⟨fun u e' he => (h.location u e' (hl ▸ he)).imp fun _ ha => hr.authedOn_step ha e,
      fun u e' he => hr.authedOn_step (h.session u e' (hs ▸ he)) e, hpub⟩
  · obtain ⟨hl, hs⟩ := Store.dir_eq.mp hd
    obtain ⟨hother, hloc, hses⟩ := login_dir s.store c.gateway uid c.id s.store.now
    have hmine : AuthedOn (step s e) uid c.gateway c.id := ⟨ci, c, hc, rfl, rfl, hb⟩
    refine ⟨fun u e' he => ?_, fun u e' he => ?_, hpub⟩
    · rw [hl] at he
      by_cases hu : u = uid
      · subst hu; exact ⟨c.id, (hloc e' he) ▸ hmine⟩
      · rw [(hother u hu).1] at he
        exact (h.location u e' he).imp fun _ ha => hr.authedOn_step ha e
    · rw [hs] at he
      by_cases hu : u = uid
      · subst hu
        obtain ⟨hg, hi⟩ := hses e' he
        rw [hg, hi]; exact hmine
      · rw [(hother u hu).2] at he
        exact hr.authedOn_step (h.session u e' he) e

theorem Reachable.directed {s : Cluster} (h : Reachable s) : Directed s := by
  induction h with
  | initial gs => exact ⟨(fun _ _ h => nomatch h), (fun _ _ h => nomatch h), (fun _ _ h => nomatch h)⟩
  | next e hr ih => exact ih.next hr e

/-- In every reachable state the directory names, for every user, only gateways on which
the user authenticated, each key on its own: `GetUserGateway(u)` returns a gateway with a
connection bound to `u`; `u`'s session names a gateway and the ID of a connection of it
bound to `u` (not necessarily the gateway the location names); and every message was
published only to a gateway on which its recipient authenticated. -/
theorem Reachable.directory_names_authenticated_gateways {s : Cluster} (h : Reachable s) :
    (∀ u g, getUserGateway s.store u = some g → ∃ id, AuthedOn s u g id) ∧
      (∀ u r, lookup s.store.sessions s.store.now u = some r → AuthedOn s u r.gatewayID r.connID) ∧
      ∀ g m, Obs.publish g m ∈ s.trace → ∃ id, AuthedOn s m.toUserID g id := by
  have hd := h.directed
  refine ⟨fun u g hg => ?_, fun u r hr => ?_, hd.publish⟩
  · obtain ⟨e, he, rfl⟩ := Option.map_eq_some'.mp ((lookup_eq_map_liveEntry _ _ _).symm.trans hg)
    exact hd.location u e ((liveEntry_eq_some _ _).mp he).1
  · obtain ⟨e, he, rfl⟩ := Option.map_eq_some'.mp ((lookup_eq_map_liveEntry _ _ _).symm.trans hr)
    exact hd.session u e ((liveEntry_eq_some _ _).mp he).1

theorem directory_across_gateways :
    (∀ u g, getUserGateway (run (Cluster.initial ["g", "h"]) messageAcrossGateways).store u = some g →
        ∃ id, AuthedOn (run (Cluster.initial ["g", "h"]) messageAcrossGateways) u g id) ∧
      (∀ u r, lookup (run (Cluster.initial ["g", "h"]) messageAcrossGateways).store.sessions
          (run (Cluster.initial ["g", "h"]) messageAcrossGateways).store.now u = some r →
        AuthedOn (run (Cluster.initial ["g", "h"]) messageAcrossGateways) u r.gatewayID r.connID) ∧
      ∀ g m, Obs.publish g m ∈ (run (Cluster.initial ["g", "h"]) messageAcrossGateways).trace →
        ∃ id, AuthedOn (run (Cluster.initial ["g", "h"]) messageAcrossGateways) m.toUserID g id :=
  Reachable.directory_names_authenticated_gateways ((Reachable.initial _).run _)

end GoIm
