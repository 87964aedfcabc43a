/-
The lifetime of a user's location (`service/session.go`, `server/tcp_server.go`).

`Login` gives `user_gateway:<u>` a deadline `SessionTTL` ahead, and only
`SessionManager.Heartbeat` or another `Login` moves it.  The gateway answers a
`Heartbeat` frame in `handleHeartbeat`, which replies `pong` and calls nothing of
`SessionManager`.

* `step_store_of_quiet` — a heartbeat frame, a loop-top check, a write and time leave
  the store as it is, except that time moves the clock;
* `run_store_of_quiet` — along a run of such steps the store only ages;
* `heartbeats_do_not_renew_location` — `SessionTTL` after `Login` a connection that
  has sent a heartbeat every 30 s has no location, whatever else such steps do, and a
  message to its user goes to the mailbox.
-/
import GoIm.Cluster

namespace GoIm

/-- The steps of a connection that stays open and only heartbeats: heartbeat frames,
loop-top checks, writes, and time. -/
def Event.quiet : Event → Bool
  | .frame _ .heartbeat _ | .check _ _ _ | .writeLoop _ _ _ | .tick _ => true
  | _ => false

/-- The time a step lets pass. -/
def Event.elapsed : Event → Nat
  | .tick dt => dt
  | _ => 0

theorem step_store_of_quiet (s : Cluster) (e : Event) (h : e.quiet) :
    (step s e).store = s.store.tick e.elapsed := by
  cases e with
  | frame ci req p =>
    cases req <;> simp [Event.quiet] at h
    simp only [step]
    split
    · split
      · simp only [Cluster.handleFrame, Cluster.setReader_conns, Function.update_same]
        simp [*, Event.elapsed]
      · rfl
    · rfl
  | check ci q p =>
    simp only [step]
    split
    · split
      · rfl
      · split
        · simp [Event.elapsed]
        · split <;> simp [Event.elapsed]
    · rfl
  | writeLoop ci p fail => simp only [step]; split <;> rfl
  | tick dt => rfl
  | _ => simp [Event.quiet] at h

theorem run_store_of_quiet (s : Cluster) (evs : List Event) (h : ∀ e ∈ evs, e.quiet) :
    (run s evs).store = s.store.tick (evs.map Event.elapsed).sum := by
  induction evs generalizing s with
  | nil => rfl
  | cons e evs ih =>
    rw [run_cons, ih _ fun e' he' => h e' (.tail _ he'), step_store_of_quiet s e (h e (.head _))]
    simp

/-- The schedule of a client that logs in on gateway `g` at time `0`. -/
def aliceLogsIn : List Event :=
  [.accept "g", .check 0 false false, .frame 0 (.auth (some (.valid "alice"))) false]

/-- Ten rounds of a heartbeat every 30 s, each answered and written. -/
def heartbeatEvery30s : List Event :=
  (List.replicate 10
    [.tick 30, .check 0 false false, .frame 0 .heartbeat false, .writeLoop 0 false false]).flatten

/-- `bob` logs in on gateway `h` and sends `alice` a message. -/
def bobSendsAlice : List Event :=
  [.accept "h", .check 1 false false, .frame 1 (.auth (some (.valid "bob"))) false,
    .check 1 false false, .frame 1 (.message (some ("alice", "hi"))) false]

/-- Heartbeats do not keep a user reachable.  After `alice` logs in, every run of
heartbeats, checks, writes and time of at least `SessionTTL` leaves her without a
location; in particular after heartbeats every 30 s for `SessionTTL`, while her
connection is open and registered, `bob`'s message to her goes to her mailbox. -/
theorem heartbeats_do_not_renew_location :
    getUserGateway (run (Cluster.initial ["g", "h"]) aliceLogsIn).store "alice" = some "g" ∧
      (∀ evs, (∀ e ∈ evs, e.quiet) → sessionTTL ≤ (evs.map Event.elapsed).sum →
        getUserGateway (run (run (Cluster.initial ["g", "h"]) aliceLogsIn) evs).store "alice" =
          none) ∧
      let s := run (Cluster.initial ["g", "h"]) (aliceLogsIn ++ heartbeatEvery30s ++ bobSendsAlice)
      (s.conns 0).map (fun c => (c.userID, c.closed, c.reader)) = some ("alice", false, .check) ∧
        (s.manager "g").getByUserID "alice" = some 0 ∧
        (s.store.mailbox "alice").map (·.2.content) = ["hi"] := by
  refine ⟨by decide, fun evs hq ht => ?_, by decide⟩
  rw [run_store_of_quiet _ _ hq]
  have hl : (run (Cluster.initial ["g", "h"]) aliceLogsIn).store.locations "alice" =
      some ⟨"g", some sessionTTL⟩ := by decide
  have hn : (run (Cluster.initial ["g", "h"]) aliceLogsIn).store.now = 0 := by decide
  simp [getUserGateway, lookup, Store.tick, hl, hn, Expiring.live]
  omega

end GoIm
