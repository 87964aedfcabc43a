/-
The session directory: `SessionManager` (`service/session.go`).

`Login` writes the `user_session:<u>` hash and the `user_gateway:<u>` location in one
`Pipeline`, `Heartbeat` refreshes both deadlines and `Logout` deletes both.  A
go-redis `Pipeline` is not a transaction: its commands reach Redis one by one, each
can fail on its own, and the commands of other clients run between them.

* `dirRun` — any interleaving of single commands (with their failures) and time;
* `login_pipelines_not_atomic` — two gateways' `Login` pipelines for one user,
  interleaved, leave the session naming one gateway and the location the other, and
  a `Login` that returns an error has already rewritten the session hash;
* `agree_of_whole_pipelines` — when every pipeline runs back to back and succeeds,
  the session's `gateway_id` and the location agree whenever both exist.
-/
import GoIm.Store

namespace GoIm

/-- `SessionTTL`: five minutes, in seconds. -/
def sessionTTL : Nat := 300

/-- The pipeline of `Login(userID, connID)` on gateway `g` at time `now`. -/
def loginCmds (g u : String) (connID now : Nat) : List SessionCmd :=
  [.hsetSession u ⟨g, connID, now⟩, .expireSession u sessionTTL, .setLocation u g sessionTTL]

/-- The pipeline of `Heartbeat(userID)`. -/
def heartbeatCmds (u : String) : List SessionCmd :=
  [.expireSession u sessionTTL, .expireLocation u sessionTTL]

/-- The pipeline of `Logout(userID)`. -/
def logoutCmds (u : String) : List SessionCmd := [.delSession u, .delLocation u]

/-- `Pipeline.Exec`: each command runs if it reaches Redis (`true`) and is lost
otherwise; `Exec` reports an error when one was lost. -/
def execPipeline (s : Store) : List (SessionCmd × Bool) → Store × Bool
  | [] => (s, true)
  | (c, ok) :: rest =>
    let r := execPipeline (if ok then s.exec c else s) rest
    (r.1, ok && r.2)

/-- `GetUserGateway(userID)`: the location, if it is there. -/
def getUserGateway (s : Store) (u : String) : Option String := lookup s.locations s.now u

/-- `IsOnline(userID)`: the session hash exists. -/
def isOnline (s : Store) (u : String) : Bool := (lookup s.sessions s.now u).isSome

/-! ## Runs of single commands -/

/-- One event at the store: a command of some pipeline arrives and runs (or is lost),
or time passes. -/
inductive DirEvent where
  | cmd (c : SessionCmd) (ok : Bool)
  | tick (dt : Nat)
  deriving DecidableEq, Repr

def dirStep (s : Store) : DirEvent → Store
  | .cmd c ok => if ok then s.exec c else s
  | .tick dt => s.tick dt

def dirRun (s : Store) (evs : List DirEvent) : Store := evs.foldl dirStep s

/-- The directory invariant of the spec: when both keys of `u` exist, the session's
`gateway_id` is the location. -/
def Agree (s : Store) (u : String) : Prop :=
  ∀ r g, lookup s.sessions s.now u = some r → lookup s.locations s.now u = some g →
    r.gatewayID = g

instance (s : Store) (u : String) : Decidable (Agree s u) :=
  match hs : lookup s.sessions s.now u, hl : lookup s.locations s.now u with
  | some r, some g =>
    decidable_of_iff (r.gatewayID = g) (by simp [Agree, hs, hl])
  | none, _ => isTrue (by simp [Agree, hs])
  | some _, none => isTrue (by simp [Agree, hl])

/-- The user a command is about. -/
def SessionCmd.user : SessionCmd → String
  | .hsetSession u _ | .expireSession u _ | .setLocation u _ _ | .expireLocation u _
  | .delSession u | .delLocation u => u

/-- A command about another user leaves both of `u`'s keys as they read. -/
theorem lookup_exec_other {c : SessionCmd} {u : String} (h : c.user ≠ u) (s : Store) :
    lookup (s.exec c).sessions s.now u = lookup s.sessions s.now u ∧
      lookup (s.exec c).locations s.now u = lookup s.locations s.now u := by
  have h' : u ≠ c.user := Ne.symm h
  cases c <;> simp only [SessionCmd.user] at h' <;>
    simp [Store.exec, expireKey, h', lookup_update_ne] <;> split <;> simp [h']

/-- A key live at a later time was live, with the same value, before. -/
theorem lookup_of_lookup_later {α : Type} {m : String → Option (Expiring α)} {now dt : Nat}
    {k : String} {v : α} (h : lookup m (now + dt) k = some v) : lookup m now k = some v := by
  unfold lookup at h ⊢
  split at h
  · rename_i e _
    split at h
    · rename_i hl
      have : e.live now := by
        unfold Expiring.live at hl ⊢; split at hl <;> simp_all; omega
      simpa [this] using h
    · cases h
  · cases h

/-! ## Whole pipelines -/

/-- A pipeline run back to back with every command reaching Redis, or time passing. -/
inductive DirOp where
  | login (g u : String) (connID : Nat)
  | heartbeat (u : String)
  | logout (u : String)
  | tick (dt : Nat)
  deriving DecidableEq, Repr

/-- The commands of an operation, issued at time `now`, each succeeding. -/
def DirOp.events (now : Nat) : DirOp → List DirEvent
  | .login g u c => (loginCmds g u c now).map (.cmd · true)
  | .heartbeat u => (heartbeatCmds u).map (.cmd · true)
  | .logout u => (logoutCmds u).map (.cmd · true)
  | .tick dt => [.tick dt]

/-- Whole pipelines, one after another: each expands to its commands at the current time. -/
def opRun : Store → List DirOp → Store
  | s, [] => s
  | s, op :: ops => opRun (dirRun s (op.events s.now)) ops

/-- Commands about other users leave `u`'s keys as they read. -/
theorem lookup_foldl_other {cs : List SessionCmd} {u : String} (h : ∀ c ∈ cs, c.user ≠ u)
    (s : Store) :
    lookup (cs.foldl Store.exec s).sessions s.now u = lookup s.sessions s.now u ∧
      lookup (cs.foldl Store.exec s).locations s.now u = lookup s.locations s.now u := by
  induction cs generalizing s with
  | nil => exact ⟨rfl, rfl⟩
  | cons c cs ih =>
    have h1 := lookup_exec_other (h c (List.mem_cons_self c cs)) s
    have h2 := ih (fun c' hc' => h c' (List.mem_cons_of_mem c hc')) (s.exec c)
    rw [Store.exec_now] at h2
    exact ⟨h2.1.trans h1.1, h2.2.trans h1.2⟩

theorem dirRun_cmds (s : Store) (cs : List SessionCmd) :
    dirRun s (cs.map (.cmd · true)) = cs.foldl Store.exec s := by
  induction cs generalizing s with
  | nil => rfl
  | cons c cs ih => exact ih (s.exec c)

/-- After a whole `Login` of `u` on `g`, the session and the location both name `g`. -/
theorem lookup_login (s : Store) (g u : String) (c : Nat) :
    lookup ((loginCmds g u c s.now).foldl Store.exec s).sessions s.now u = some ⟨g, c, s.now⟩ ∧
      lookup ((loginCmds g u c s.now).foldl Store.exec s).locations s.now u = some g := by
  have hl := live_bind_liveEntry s.sessions s.now ⟨g, c, s.now⟩ u
  simp [loginCmds, Store.exec, expireKey, hl, lookup, sessionTTL]

/-- `Heartbeat` moves deadlines only: every key reads as before. -/
theorem lookup_heartbeat (s : Store) (u v : String) :
    lookup ((heartbeatCmds u).foldl Store.exec s).sessions s.now v = lookup s.sessions s.now v ∧
      lookup ((heartbeatCmds u).foldl Store.exec s).locations s.now v =
        lookup s.locations s.now v := by
  simp [heartbeatCmds, Store.exec, lookup_expireKey _ _ (show 0 < sessionTTL by decide)]

theorem lookup_logout (s : Store) (u : String) :
    lookup ((logoutCmds u).foldl Store.exec s).sessions s.now u = none ∧
      lookup ((logoutCmds u).foldl Store.exec s).locations s.now u = none := by
  simp [logoutCmds, Store.exec, lookup]

section Agreement

variable {s : Store} {u : String}

/-- The agreement of `u`'s keys is read off their two lookups. -/
theorem agree_of_lookups {s' : Store}
    (h1 : lookup s'.sessions s'.now u = lookup s.sessions s.now u)
    (h2 : lookup s'.locations s'.now u = lookup s.locations s.now u) (h : Agree s u) :
    Agree s' u := fun r g hr hg => h r g (h1 ▸ hr) (h2 ▸ hg)

/-- Each whole pipeline, and the passing of time, keeps `u`'s keys in agreement. -/
theorem agree_opStep (op : DirOp) (h : Agree s u) : Agree (dirRun s (op.events s.now)) u := by
  have hnow := Store.foldl_exec_now s
  cases op with
  | login g v c =>
    rw [DirOp.events, dirRun_cmds]
    by_cases hv : v = u
    · subst hv
      intro r g' hr hg
      rw [hnow, (lookup_login s g v c).1] at hr
      rw [hnow, (lookup_login s g v c).2] at hg
      cases hr; cases hg; rfl
    · have ho := @lookup_foldl_other (loginCmds g v c s.now) u
        (by simp [loginCmds, SessionCmd.user, hv]) s
      exact agree_of_lookups (by rw [hnow]; exact ho.1) (by rw [hnow]; exact ho.2) h
  | heartbeat v =>
    rw [DirOp.events, dirRun_cmds]
    exact agree_of_lookups (by rw [hnow]; exact (lookup_heartbeat s v u).1)
      (by rw [hnow]; exact (lookup_heartbeat s v u).2) h
  | logout v =>
    rw [DirOp.events, dirRun_cmds]
    by_cases hv : v = u
    · subst hv
      intro r g hr
      rw [hnow, (lookup_logout s v).1] at hr
      cases hr
    · have ho := @lookup_foldl_other (logoutCmds v) u
        (by simp [logoutCmds, SessionCmd.user, hv]) s
      exact agree_of_lookups (by rw [hnow]; exact ho.1) (by rw [hnow]; exact ho.2) h
  | tick dt =>
    intro r g hr hg
    exact h r g (lookup_of_lookup_later hr) (lookup_of_lookup_later hg)

/-- Run back to back and without failures, the `Login`, `Heartbeat` and `Logout`
pipelines of any gateways keep every user's session hash and location in agreement
whenever both exist, across any passing of time. -/
theorem agree_of_whole_pipelines (ops : List DirOp) (h : Agree s u) : Agree (opRun s ops) u := by
  induction ops generalizing s with
  | nil => exact h
  | cons op ops ih => exact ih (agree_opStep op h)

end Agreement

/-- Two gateways' whole `Login`s of `u`, time, and a `Heartbeat`. -/
theorem agree_of_whole_pipelines_two_logins :
    Agree Store.empty "u" ∧
      Agree (opRun Store.empty [.login "g1" "u" 1, .tick 10, .login "g2" "u" 2, .heartbeat "u"]) "u" :=
  ⟨by decide, agree_of_whole_pipelines _ (by decide)⟩

/-- Gateways `g1` and `g2` run `Login` for `u` at time `0`; Redis receives the
commands of `g1`'s pipeline around those of `g2`'s. -/
def interleavedLogins : List DirEvent :=
  [.cmd (.hsetSession "u" ⟨"g1", 1, 0⟩) true, .cmd (.hsetSession "u" ⟨"g2", 1, 0⟩) true,
    .cmd (.expireSession "u" sessionTTL) true, .cmd (.setLocation "u" "g2" sessionTTL) true,
    .cmd (.expireSession "u" sessionTTL) true, .cmd (.setLocation "u" "g1" sessionTTL) true]

/-- `Login` is neither atomic nor all-or-nothing.  The interleaving above of two whole
`Login` pipelines leaves both keys of `u` present and naming different gateways, so the
session and the location no longer agree; and a `Login` whose last command is lost
returns an error after rewriting the session. -/
theorem login_pipelines_not_atomic :
    ((loginCmds "g1" "u" 1 0).map (.cmd · true)).Sublist interleavedLogins ∧
      ((loginCmds "g2" "u" 1 0).map (.cmd · true)).Sublist interleavedLogins ∧
      interleavedLogins.length = 6 ∧
      ¬ Agree (dirRun Store.empty interleavedLogins) "u" ∧
    (execPipeline Store.empty ((loginCmds "g1" "u" 1 0).zip [true, true, false])).2 = false ∧
      lookup (execPipeline Store.empty
        ((loginCmds "g1" "u" 1 0).zip [true, true, false])).1.sessions 0 "u" ≠
        lookup Store.empty.sessions 0 "u" := by
  decide

end GoIm
