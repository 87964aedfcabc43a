/-
The connection registry: `ConnectionManager` (`server/connection.go`).

Two maps, `connections` (ID → connection) and `userConns` (user → connection).
`BindUser` sets the connection's `UserID` and stores it under that user; `Remove`
deletes the connection and whatever `userConns` holds under its current `UserID`.

* `regRun` — the registry under the operations the server drives: `Add` on accept,
  `BindUser` on every accepted `Auth`, `Remove` when a connection's handler exits;
* `bound_present` — the invariant that does hold: an entry under a non-empty user that
  still names a connection bound to that user names a registered connection;
* `registry_invariant_fails` — removing a superseded connection deletes the binding of
  the connection that replaced it, and an `Auth` under another user leaves the old
  user's entry on a connection bound to someone else.
-/
import Mathlib.Logic.Function.Basic

namespace GoIm

/-- `ConnectionManager`; connections are named by their `ID`. -/
structure ConnectionManager where
  connections : Nat → Bool
  userConns : String → Option Nat

/-- `NewConnectionManager()`. -/
def ConnectionManager.empty : ConnectionManager :=
  { connections := fun _ => false, userConns := fun _ => none }

/-- `Add(conn)`. -/
def ConnectionManager.add (m : ConnectionManager) (id : Nat) : ConnectionManager :=
  { m with connections := Function.update m.connections id true }

/-- `Remove(conn)`, given the `UserID` that `conn.GetUserID()` returns. -/
def ConnectionManager.remove (m : ConnectionManager) (id : Nat) (uid : String) :
    ConnectionManager :=
  let m := { m with connections := Function.update m.connections id false }
  if uid ≠ "" then { m with userConns := Function.update m.userConns uid none } else m

/-- The `userConns` half of `BindUser(uid, conn)` (the other half is `conn.SetUserID`). -/
def ConnectionManager.bindUser (m : ConnectionManager) (uid : String) (id : Nat) :
    ConnectionManager :=
  { m with userConns := Function.update m.userConns uid (some id) }

theorem ConnectionManager.remove_connections (m : ConnectionManager) (id : Nat) (uid : String)
    (j : Nat) : (m.remove id uid).connections j = if j = id then false else m.connections j := by
  unfold remove; split <;> simp [Function.update_apply]

theorem ConnectionManager.remove_userConns (m : ConnectionManager) (id : Nat) (uid v : String) :
    (m.remove id uid).userConns v = if uid ≠ "" ∧ v = uid then none else m.userConns v := by
  unfold remove; split <;> simp_all [Function.update_apply]

/-- `GetByUserID(uid)`. -/
def ConnectionManager.getByUserID (m : ConnectionManager) (uid : String) : Option Nat :=
  m.userConns uid

/-! ## The registry as the server drives it -/

/-- The registry together with each connection's `UserID` field. -/
structure Registry where
  manager : ConnectionManager
  userID : Nat → String

/-- What the server does to the registry. -/
inductive RegOp where
  | add (id : Nat)
  | bind (uid : String) (id : Nat)
  | remove (id : Nat)
  deriving DecidableEq, Repr

/-- One operation; `bind` is `BindUser`, so it also sets the connection's `UserID`. -/
def regStep (r : Registry) : RegOp → Registry
  | .add id => { r with manager := r.manager.add id }
  | .bind uid id =>
    { manager := r.manager.bindUser uid id, userID := Function.update r.userID id uid }
  | .remove id => { r with manager := r.manager.remove id (r.userID id) }

def regRun (r : Registry) (ops : List RegOp) : Registry := ops.foldl regStep r

/-- The empty registry of a starting server: no connection, every `UserID` empty. -/
def Registry.empty : Registry := { manager := ConnectionManager.empty, userID := fun _ => "" }

/-- An operation the server can drive: `BindUser` and `Remove` run in the handler of a
registered connection. -/
def RegOp.Enabled (r : Registry) : RegOp → Prop
  | .add _ => True
  | .bind _ id | .remove id => r.manager.connections id = true

instance RegOp.decEnabled (r : Registry) : (op : RegOp) → Decidable (op.Enabled r)
  | .add _ => isTrue trivial
  | .bind _ id | .remove id => inferInstanceAs (Decidable (r.manager.connections id = true))

/-- A run of enabled operations. -/
def ServerRun : Registry → List RegOp → Prop
  | _, [] => True
  | r, op :: ops => op.Enabled r ∧ ServerRun (regStep r op) ops

instance ServerRun.dec : (r : Registry) → (ops : List RegOp) → Decidable (ServerRun r ops)
  | _, [] => isTrue trivial
  | r, op :: ops =>
    haveI := ServerRun.dec (regStep r op) ops
    inferInstanceAs (Decidable (op.Enabled r ∧ ServerRun (regStep r op) ops))

/-- The part of the spec's registry invariant that holds: an entry of `userConns` under
a non-empty user that names a connection whose `UserID` is still that user names a
registered connection. -/
def BoundPresent (r : Registry) : Prop :=
  ∀ uid id, uid ≠ "" → r.manager.getByUserID uid = some id → r.userID id = uid →
    r.manager.connections id = true

theorem boundPresent_step {r : Registry} {op : RegOp} (hen : op.Enabled r)
    (h : BoundPresent r) : BoundPresent (regStep r op) := by
  intro uid id hu hget hid
  cases op with
  | add i =>
    by_cases e : id = i
    · simp [regStep, ConnectionManager.add, e]
    · simpa [regStep, ConnectionManager.add, e] using h uid id hu hget hid
  | bind u i =>
    simp only [regStep, ConnectionManager.bindUser, ConnectionManager.getByUserID] at hget hid ⊢
    by_cases e : id = i
    · subst e; exact hen
    · rw [Function.update_noteq e] at hid
      by_cases hv : uid = u
      · subst hv; simp at hget; exact absurd hget.symm e
      · rw [Function.update_noteq hv] at hget; exact h uid id hu hget hid
  | remove i =>
    simp only [regStep, ConnectionManager.getByUserID, ConnectionManager.remove_userConns,
      ConnectionManager.remove_connections] at hget hid ⊢
    by_cases e : id = i
    · subst e; simp [hid, hu] at hget
    · simp only [e, if_false]
      split at hget
      · cases hget
      · exact h uid id hu hget hid

/-- `BoundPresent` holds along every run the server drives. -/
theorem bound_present (ops : List RegOp) (r : Registry) (hrun : ServerRun r ops)
    (h : BoundPresent r) : BoundPresent (regRun r ops) := by
  induction ops generalizing r with
  | nil => exact h
  | cons op ops ih => exact ih (regStep r op) hrun.2 (boundPresent_step hrun.1 h)

/-- Both halves of the spec's registry invariant fail on runs the server drives.  Two
connections of `u`: the second `BindUser` replaces the first, and when the first
connection's handler exits its `Remove` deletes the second's binding, so `u` is
unreachable while connection `2` is registered and bound to `u`.  One connection that
authenticates as `a` and then as `b`: `GetByUserID("a")` still returns it. -/
theorem registry_invariant_fails :
    ServerRun Registry.empty [.add 1, .bind "u" 1, .add 2, .bind "u" 2, .remove 1] ∧
      (regRun Registry.empty [.add 1, .bind "u" 1, .add 2, .bind "u" 2, .remove 1]).manager.connections 2 ∧
      (regRun Registry.empty [.add 1, .bind "u" 1, .add 2, .bind "u" 2, .remove 1]).userID 2 = "u" ∧
      (regRun Registry.empty [.add 1, .bind "u" 1, .add 2, .bind "u" 2, .remove 1]).manager.getByUserID
        "u" = none ∧
    ServerRun Registry.empty [.add 1, .bind "a" 1, .bind "b" 1] ∧
      (regRun Registry.empty [.add 1, .bind "a" 1, .bind "b" 1]).manager.getByUserID "a" = some 1 ∧
      (regRun Registry.empty [.add 1, .bind "a" 1, .bind "b" 1]).userID 1 = "b" := by
  decide

end GoIm
