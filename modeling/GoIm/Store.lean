/-
The shared Redis store, as the services use it.

The services touch four key families: `user_session:<u>` (a hash), `user_gateway:<u>`
(a string), `seq:<conversation>` (an integer) and `msg_box:<u>` (a sorted set).

* `Expiring` — a value with its deadline, the effect of `EXPIRE` and `SET ... EX`; a
  key whose deadline has passed reads as absent (`lookup`);
* `SessionCmd` and `Store.exec` — the commands `SessionManager` pipelines;
* `Store.incrBy` — `INCR`/`INCRBY` on a counter, with Redis's overflow error;
* `Store.tick` — the clock, which is all TTL expiry needs.

Design notes: the store is kept as one map per key family, indexed by the part of the
key after its prefix.  This loses nothing because no key of one family is a key of
another, whatever the user or conversation: the four prefixes differ within their first
letters (`sessionKey_ne_gatewayKey`, `sessionKey_ne_sequenceKey`,
`sessionKey_ne_offlineBoxKey`, `gatewayKey_ne_sequenceKey`, `gatewayKey_ne_offlineBoxKey`,
`sequenceKey_ne_offlineBoxKey`), so a command on one family never reads or writes
another.

A mailbox member is kept as the `OfflineMessage` whose JSON text it is:
`json.Marshal` is injective on these records, so equal members are equal records.
The sorted-set score `float64(SeqID)` is kept as the integer `SeqID`.
-/
import GoIm.Json

namespace GoIm

/-- The key prefixes of `service` (`SessionKeyPrefix`, `GatewayKeyPrefix`,
`SequenceKeyPrefix`, `OfflineBoxPrefix`). -/
def sessionKey (u : String) : String := "user_session:" ++ u
def gatewayKey (u : String) : String := "user_gateway:" ++ u
def sequenceKey (conv : String) : String := "seq:" ++ conv
def offlineBoxKey (u : String) : String := "msg_box:" ++ u

private theorem ne_of_data_take {s t : String} (n : Nat) (h : s.data.take n ≠ t.data.take n) :
    s ≠ t := fun e => h (e ▸ rfl)

theorem sessionKey_ne_gatewayKey (u v : String) : sessionKey u ≠ gatewayKey v :=
  ne_of_data_take 6 (by simp [sessionKey, gatewayKey, String.data_append])

theorem sessionKey_ne_sequenceKey (u v : String) : sessionKey u ≠ sequenceKey v :=
  ne_of_data_take 1 (by simp [sessionKey, sequenceKey, String.data_append])

theorem sessionKey_ne_offlineBoxKey (u v : String) : sessionKey u ≠ offlineBoxKey v :=
  ne_of_data_take 1 (by simp [sessionKey, offlineBoxKey, String.data_append])

theorem gatewayKey_ne_sequenceKey (u v : String) : gatewayKey u ≠ sequenceKey v :=
  ne_of_data_take 1 (by simp [gatewayKey, sequenceKey, String.data_append])

theorem gatewayKey_ne_offlineBoxKey (u v : String) : gatewayKey u ≠ offlineBoxKey v :=
  ne_of_data_take 1 (by simp [gatewayKey, offlineBoxKey, String.data_append])

theorem sequenceKey_ne_offlineBoxKey (u v : String) : sequenceKey u ≠ offlineBoxKey v :=
  ne_of_data_take 1 (by simp [sequenceKey, offlineBoxKey, String.data_append])

/-! ## Deadlines -/

/-- A stored value and its deadline (`none`: no TTL). -/
structure Expiring (α : Type) where
  value : α
  expireAt : Option Nat
  deriving DecidableEq, Repr

/-- The key is still there at time `now`. -/
def Expiring.live {α : Type} (e : Expiring α) (now : Nat) : Bool :=
  match e.expireAt with
  | none => true
  | some t => decide (now < t)

/-- A read (`GET`, `HGET`, `EXISTS`): the value if the key is there and not expired. -/
def lookup {α : Type} (m : String → Option (Expiring α)) (now : Nat) (k : String) : Option α :=
  match m k with
  | some e => if e.live now then some e.value else none
  | none => none

/-- The live entry of a key, with its deadline. -/
def liveEntry {α : Type} (m : String → Option (Expiring α)) (now : Nat) (k : String) :
    Option (Expiring α) :=
  match m k with
  | some e => if e.live now then some e else none
  | none => none

/-- `EXPIRE k ttl`: a live key gets the deadline `now + ttl`; a missing key is left. -/
def expireKey {α : Type} (m : String → Option (Expiring α)) (now ttl : Nat) (k : String) :
    String → Option (Expiring α) :=
  match liveEntry m now k with
  | some e => Function.update m k (some { e with expireAt := some (now + ttl) })
  | none => m

section Lemmas

variable {α : Type} (m : String → Option (Expiring α)) (now : Nat)

/-- Liveness reads only the deadline. -/
theorem Expiring.live_mk (v : α) (e : Expiring α) : (⟨v, e.expireAt⟩ : Expiring α).live now = e.live now :=
  rfl

@[simp] theorem Expiring.live_mk_none (v : α) : (⟨v, none⟩ : Expiring α).live now = true := rfl

@[simp] theorem Expiring.live_mk_some (v : α) (t : Nat) :
    (⟨v, some t⟩ : Expiring α).live now = decide (now < t) := rfl

/-- A key live at some time was live at every earlier time. -/
theorem Expiring.live_of_le (e : Expiring α) {t : Nat} (h : e.live t) (ht : now ≤ t) : e.live now := by
  unfold Expiring.live at *
  split at h <;> simp_all
  omega

theorem liveEntry_eq_some {k : String} {e : Expiring α} :
    liveEntry m now k = some e ↔ m k = some e ∧ e.live now := by
  unfold liveEntry
  cases m k <;> simp
  constructor
  · rintro ⟨h1, rfl⟩; exact ⟨rfl, h1⟩
  · rintro ⟨rfl, h1⟩; exact ⟨h1, rfl⟩

@[simp] theorem liveEntry_update_self (k : String) (e : Expiring α) :
    liveEntry (Function.update m k (some e)) now k = if e.live now then some e else none := by
  simp [liveEntry]

/-- A deadline taken from a live entry (or none) is live. -/
theorem live_bind_liveEntry (v : α) (k : String) :
    (⟨v, (liveEntry m now k).bind (·.expireAt)⟩ : Expiring α).live now := by
  cases h : liveEntry m now k with
  | none => rfl
  | some e => exact ((liveEntry_eq_some m now).mp h).2

theorem lookup_eq_map_liveEntry (k : String) : lookup m now k = (liveEntry m now k).map (·.value) := by
  unfold lookup liveEntry
  cases m k <;> simp only [Option.map_none', Option.map_some']
  split <;> rfl

@[simp] theorem lookup_update_self (k : String) (e : Expiring α) :
    lookup (Function.update m k (some e)) now k = if e.live now then some e.value else none := by
  simp [lookup]

@[simp] theorem lookup_update_ne {k k' : String} (h : k' ≠ k) (e : Option (Expiring α)) :
    lookup (Function.update m k e) now k' = lookup m now k' := by
  simp [lookup, Function.update_noteq h]

theorem lookup_expireKey {ttl : Nat} (h : 0 < ttl) (k k' : String) :
    lookup (expireKey m now ttl k) now k' = lookup m now k' := by
  by_cases hk : k' = k
  · subst hk
    unfold expireKey
    cases hl : liveEntry m now k' with
    | none => rfl
    | some e =>
      have : lookup m now k' = some e.value := by simp [lookup_eq_map_liveEntry, hl]
      simp [this, Expiring.live]
      omega
  · unfold expireKey
    split <;> simp [hk]

end Lemmas

/-! ## The store -/

/-- The `user_session:<u>` hash: `gateway_id`, `conn_id`, `login_time`. -/
structure SessionRecord where
  gatewayID : String
  connID : Nat
  loginTime : Nat
  deriving DecidableEq, Repr

/-- The keys of the four families, with the clock (seconds). -/
structure Store where
  now : Nat
  sessions : String → Option (Expiring SessionRecord)
  locations : String → Option (Expiring String)
  seqs : String → Option Int
  mailboxes : String → Option (Expiring (List (Int × OfflineMessage)))

/-- The empty store at time `0`. -/
def Store.empty : Store :=
  { now := 0, sessions := fun _ => none, locations := fun _ => none, seqs := fun _ => none,
    mailboxes := fun _ => none }

/-- Time passes; keys whose deadline is reached read as absent from then on. -/
def Store.tick (s : Store) (dt : Nat) : Store := { s with now := s.now + dt }

@[simp] theorem Store.tick_zero (s : Store) : s.tick 0 = s := rfl

@[simp] theorem Store.tick_tick (s : Store) (a b : Nat) : (s.tick a).tick b = s.tick (a + b) := by
  simp [Store.tick, Nat.add_assoc]

/-- The commands `SessionManager` sends, each on one key of the session families. -/
inductive SessionCmd where
  | hsetSession (u : String) (r : SessionRecord)
  | expireSession (u : String) (ttl : Nat)
  | setLocation (u : String) (g : String) (ttl : Nat)
  | expireLocation (u : String) (ttl : Nat)
  | delSession (u : String)
  | delLocation (u : String)
  deriving DecidableEq, Repr

/-- One command, applied atomically.  `HSET` on a live hash overwrites the three fields
and keeps the deadline; on a missing key it creates the hash with no deadline. -/
def Store.exec (s : Store) : SessionCmd → Store
  | .hsetSession u r =>
    let deadline := (liveEntry s.sessions s.now u).bind (·.expireAt)
    { s with sessions := Function.update s.sessions u (some ⟨r, deadline⟩) }
  | .expireSession u ttl => { s with sessions := expireKey s.sessions s.now ttl u }
  | .setLocation u g ttl =>
    { s with locations := Function.update s.locations u (some ⟨g, some (s.now + ttl)⟩) }
  | .expireLocation u ttl => { s with locations := expireKey s.locations s.now ttl u }
  | .delSession u => { s with sessions := Function.update s.sessions u none }
  | .delLocation u => { s with locations := Function.update s.locations u none }

@[simp] theorem Store.exec_now (s : Store) (c : SessionCmd) : (s.exec c).now = s.now := by
  cases c <;> rfl

@[simp] theorem Store.exec_seqs (s : Store) (c : SessionCmd) : (s.exec c).seqs = s.seqs := by
  cases c <;> rfl

@[simp] theorem Store.exec_mailboxes (s : Store) (c : SessionCmd) :
    (s.exec c).mailboxes = s.mailboxes := by
  cases c <;> rfl

@[simp] theorem Store.foldl_exec_now (s : Store) (cs : List SessionCmd) :
    (cs.foldl Store.exec s).now = s.now := by
  induction cs generalizing s with
  | nil => rfl
  | cons c cs ih => rw [List.foldl_cons, ih, Store.exec_now]

@[simp] theorem Store.foldl_exec_mailboxes (s : Store) (cs : List SessionCmd) :
    (cs.foldl Store.exec s).mailboxes = s.mailboxes := by
  induction cs generalizing s with
  | nil => rfl
  | cons c cs ih => rw [List.foldl_cons, ih, Store.exec_mailboxes]

/-- The largest value of a Redis integer (`int64`). -/
def int64Max : Int := 2 ^ 63 - 1

/-- `INCRBY k n` (and `INCR k` for `n = 1`): a missing key counts from `0`; a result
outside `int64` is Redis's "increment or decrement would overflow" error. -/
def Store.incrBy (s : Store) (k : String) (n : Int) : Option (Int × Store) :=
  let v := (s.seqs k).getD 0 + n
  if -int64Max - 1 ≤ v ∧ v ≤ int64Max then
    some (v, { s with seqs := Function.update s.seqs k (some v) })
  else none

/-- A successful `INCRBY` writes its result to the counter and touches nothing else. -/
theorem Store.incrBy_eq_some {s s' : Store} {k : String} {n v : Int} (h : s.incrBy k n = some (v, s')) :
    v = (s.seqs k).getD 0 + n ∧ s' = { s with seqs := Function.update s.seqs k (some v) } := by
  unfold Store.incrBy at h
  dsimp only at h
  split at h
  · cases h; exact ⟨rfl, rfl⟩
  · cases h

/-- `INCRBY` returns only values within `int64`. -/
theorem Store.incrBy_range {s s' : Store} {k : String} {n v : Int} (h : s.incrBy k n = some (v, s')) :
    -int64Max - 1 ≤ v ∧ v ≤ int64Max := by
  unfold Store.incrBy at h
  dsimp only at h
  split at h
  · cases h; assumption
  · cases h

end GoIm
