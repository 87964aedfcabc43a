/-
The offline mailbox and the sequence counters: `OfflineManager` and `SequenceManager`
(`service/offline.go`, `service/sequence.go`).

A mailbox `msg_box:<u>` is a Redis sorted set: members ordered by score (the message's
`SeqID`), ties broken by the member's JSON text.  A member is the text `Store` wrote,
kept as the record it is the `OfflineMessage.toJson` of; `Fetch` and `FetchLatest`
decode that text and skip a member that does not decode.  Range commands take Redis's indices,
where a negative index counts from the end.

* `offlineStore` — `Store`: `ZADD`, then `ZREMRANGEBYRANK 0 -(MaxOfflineMessages+1)`,
  then `EXPIRE`;
* `fetchLatest`, `fetchFrom` — `FetchLatest` (`ZREVRANGE 0 count-1`) and `Fetch`
  (`ZRANGEBYSCORE startSeq +inf LIMIT 0 count`);
* `offlineRemove` — `Remove`: `ZREMRANGEBYSCORE -inf maxSeqID`;
* `nextSeq`, `nextSeqBatch` — `INCR` and `INCRBY` on `seq:<conversation>`;
* `mailbox_offlineRemove` — after `Remove(u, s)` the mailbox holds exactly the
  entries above `s`.
-/
import GoIm.Decode

namespace GoIm

/-- `MaxOfflineMessages`. -/
def maxOfflineMessages : Nat := 1000

/-- `OfflineMessageTTL`: seven days, in seconds. -/
def offlineMessageTTL : Nat := 7 * 24 * 3600

/-- A mailbox entry: score and member. -/
abbrev MailEntry := Int × OfflineMessage

/-- The sorted-set order: by score, then by the member's text, byte-wise. -/
def MailEntry.before (a b : MailEntry) : Bool :=
  a.1 < b.1 || (a.1 == b.1 && charsLt a.2.toJson b.2.toJson)

/-- Insert an entry at its place in the order. -/
def zinsert (e : MailEntry) : List MailEntry → List MailEntry
  | [] => [e]
  | x :: xs => if e.before x then e :: x :: xs else x :: zinsert e xs

/-- `ZADD key score member`: a member already present only changes its score. -/
def zadd (z : List MailEntry) (e : MailEntry) : List MailEntry :=
  zinsert e (z.filter (·.2 != e.2))

/-- Redis's reading of a `[start, stop]` index range over `len` elements: negative
indices count from the end; the result is the `(from, count)` slice. -/
def rankSlice (len : Nat) (start stop : Int) : Nat × Nat :=
  let start := if start < 0 then max (start + len) 0 else start
  let stop := if stop < 0 then stop + len else stop
  if start > stop ∨ start ≥ len then (0, 0)
  else (start.toNat, (min stop (len - 1) - start + 1).toNat)

/-- `ZRANGE key start stop` on the ascending list. -/
def zrange (z : List MailEntry) (start stop : Int) : List MailEntry :=
  let r := rankSlice z.length start stop
  (z.drop r.1).take r.2

/-- `ZREMRANGEBYRANK key start stop`. -/
def zremRangeByRank (z : List MailEntry) (start stop : Int) : List MailEntry :=
  let r := rankSlice z.length start stop
  z.take r.1 ++ z.drop (r.1 + r.2)

/-- Redis's reading of `[0, -(k+1)]`: all ranks but the last `k`. -/
theorem rankSlice_zero_neg (len k : Nat) : rankSlice len 0 (-(k : Int) - 1) = (0, len - k) := by
  have hs : -(k : Int) - 1 < 0 := by omega
  unfold rankSlice
  dsimp only
  rw [if_neg (Int.lt_irrefl 0), if_pos hs]
  split_ifs
  · simp only [Prod.mk.injEq, true_and]; omega
  · simp only [Prod.mk.injEq, Int.toNat_zero, true_and]
    rw [Int.min_eq_left (by omega)]
    omega

/-- `Store`'s trim keeps the `MaxOfflineMessages` highest ranks. -/
theorem zremRangeByRank_cap (z : List MailEntry) :
    zremRangeByRank z 0 (-(maxOfflineMessages : Int) - 1) = z.drop (z.length - maxOfflineMessages) := by
  simp [zremRangeByRank, rankSlice_zero_neg]

theorem mem_zinsert {e y : MailEntry} {l : List MailEntry} : y ∈ zinsert e l ↔ y = e ∨ y ∈ l := by
  induction l with
  | nil => simp [zinsert]
  | cons x xs ih => unfold zinsert; split <;> simp [ih, or_left_comm]

/-- After `ZADD` a mailbox holds the new entry and the old entries of other members. -/
theorem mem_zadd {z : List MailEntry} {e y : MailEntry} :
    y ∈ zadd z e ↔ y = e ∨ (y ∈ z ∧ y.2 ≠ e.2) := by
  simp [zadd, mem_zinsert]

/-- The live mailbox of `u` (empty if missing or expired). -/
def Store.mailbox (s : Store) (u : String) : List MailEntry :=
  (lookup s.mailboxes s.now u).getD []

/-- `OfflineManager.Store(userID, msg)`: stamp the time, add the member, keep the
`MaxOfflineMessages` highest ranks, and set the seven-day deadline. -/
def offlineStore (s : Store) (u : String) (m : OfflineMessage) : Store :=
  let m := { m with timestamp := s.now }
  let z := zadd (s.mailbox u) (m.seqID, m)
  let z := zremRangeByRank z 0 (-(maxOfflineMessages : Int) - 1)
  { s with mailboxes := Function.update s.mailboxes u (some ⟨z, some (s.now + offlineMessageTTL)⟩) }

/-- After `Store(u, m)`: `u`'s mailbox is the trim of the old one with `m` added, stamped
with the time; the other mailboxes are as they were. -/
theorem mailbox_offlineStore (st : Store) (u v : String) (m : OfflineMessage) :
    (offlineStore st u m).mailbox v =
      if v = u then
        (zadd (st.mailbox u) (m.seqID, { m with timestamp := st.now })).drop
          ((zadd (st.mailbox u) (m.seqID, { m with timestamp := st.now })).length - maxOfflineMessages)
      else st.mailbox v := by
  by_cases hv : v = u
  · subst hv
    simp [offlineStore, Store.mailbox, Expiring.live, offlineMessageTTL, zremRangeByRank_cap]
  · simp [offlineStore, Store.mailbox, hv]

/-- What `Store` adds to a mailbox is the stamped message, under its `SeqID`. -/
theorem mem_mailbox_offlineStore {st : Store} {u v : String} {m : OfflineMessage} {x : MailEntry}
    (hx : x ∈ (offlineStore st u m).mailbox v) :
    x ∈ st.mailbox v ∨ (v = u ∧ x = (m.seqID, { m with timestamp := st.now })) := by
  rw [mailbox_offlineStore] at hx
  split at hx
  · rename_i hv
    subst hv
    rcases mem_zadd.mp (List.mem_of_mem_drop hx) with h | ⟨h, -⟩
    · exact .inr ⟨rfl, h⟩
    · exact .inl h
  · exact .inl hx

/-- `FetchLatest(userID, count)`: `ZREVRANGE key 0 count-1`, highest first, each member
unmarshalled. -/
def fetchLatest (s : Store) (u : String) (count : Int) : List OfflineMessage :=
  let z := (s.mailbox u).reverse
  (zrange z 0 (count - 1)).filterMap fun e => OfflineMessage.ofJson e.2.toJson

/-- `Fetch(userID, startSeq, count)`: `ZRANGEBYSCORE key startSeq +inf LIMIT 0 count`,
each member unmarshalled.  go-redis sends the `LIMIT` only when `Offset` or `Count` is
not `0`, and Redis reads a negative count as no limit: a count `≤ 0` returns every match. -/
def fetchFrom (s : Store) (u : String) (startSeq count : Int) : List OfflineMessage :=
  let z := (s.mailbox u).filter (fun e => startSeq ≤ e.1)
  (if count ≤ 0 then z else z.take count.toNat).filterMap fun e => OfflineMessage.ofJson e.2.toJson

/-- `Remove(userID, maxSeqID)`: `ZREMRANGEBYSCORE key -inf maxSeqID`. -/
def offlineRemove (s : Store) (u : String) (maxSeq : Int) : Store :=
  match liveEntry s.mailboxes s.now u with
  | some e =>
    let kept := e.value.filter (fun x => maxSeq < x.1)
    { s with mailboxes := Function.update s.mailboxes u (some ⟨kept, e.expireAt⟩) }
  | none => s

/-- `Remove(u, s)` leaves exactly the entries of `u`'s mailbox scored above `s`, and
every other mailbox as it was. -/
theorem mailbox_offlineRemove (s : Store) (u v : String) (maxSeq : Int) :
    (offlineRemove s u maxSeq).mailbox v =
      if v = u then (s.mailbox u).filter (fun x => maxSeq < x.1) else s.mailbox v := by
  unfold offlineRemove
  cases h : liveEntry s.mailboxes s.now u with
  | none =>
    have hn : lookup s.mailboxes s.now u = none := by simp [lookup_eq_map_liveEntry, h]
    by_cases hv : v = u
    · subst hv; simp [Store.mailbox, hn]
    · simp [hv]
  | some e =>
    obtain ⟨_, h2⟩ := (liveEntry_eq_some _ _).mp h
    have hl : lookup s.mailboxes s.now u = some e.value := by simp [lookup_eq_map_liveEntry, h]
    by_cases hv : v = u
    · subst hv; simp [Store.mailbox, hl, Expiring.live_mk, h2]
    · simp [Store.mailbox, hv]

/-- `Remove` only takes entries away. -/
theorem mailbox_offlineRemove_subset (s : Store) (u v : String) (maxSeq : Int) :
    (offlineRemove s u maxSeq).mailbox v ⊆ s.mailbox v := by
  rw [mailbox_offlineRemove]
  split
  · next hv => subst hv; exact fun _ hx => List.mem_of_mem_filter hx
  · exact List.Subset.refl _

/-- Time leaves a mailbox as it is or lets it expire. -/
theorem mailbox_tick (st : Store) (dt : Nat) (u : String) :
    (st.tick dt).mailbox u = st.mailbox u ∨ (st.tick dt).mailbox u = [] := by
  unfold Store.mailbox lookup Store.tick
  dsimp only
  cases st.mailboxes u with
  | none => exact .inl rfl
  | some e =>
    dsimp only
    cases h : e.live (st.now + dt)
    · exact .inr rfl
    · simp [h, e.live_of_le st.now h (Nat.le_add_right _ _)]

theorem mailbox_tick_subset (st : Store) (dt : Nat) (u : String) :
    (st.tick dt).mailbox u ⊆ st.mailbox u := by
  rcases mailbox_tick st dt u with e | e <;> rw [e]
  exacts [List.Subset.refl _, List.nil_subset _]

/-- Every mailbox entry is scored by its message's `SeqID`, as `Store` adds it. -/
def ScoredBySeq (st : Store) : Prop := ∀ u, ∀ x ∈ st.mailbox u, x.1 = x.2.seqID

namespace ScoredBySeq

variable {st : Store} (h : ScoredBySeq st)
include h

theorem offlineStore (u : String) (m : OfflineMessage) : ScoredBySeq (offlineStore st u m) := by
  intro v x hx
  rcases mem_mailbox_offlineStore hx with hx | ⟨-, rfl⟩
  · exact h v x hx
  · rfl

theorem offlineRemove (u : String) (n : Int) : ScoredBySeq (offlineRemove st u n) :=
  fun v x hx => h v x (mailbox_offlineRemove_subset st u v n hx)

theorem tick (dt : Nat) : ScoredBySeq (st.tick dt) :=
  fun v x hx => h v x (mailbox_tick_subset st dt v hx)

end ScoredBySeq

/-! ## Sequence numbers -/

/-- `NextSeq(conversationID)`: `INCR seq:<conversationID>`. -/
def nextSeq (s : Store) (conv : String) : Option (Int × Store) := s.incrBy conv 1

/-- `NextSeqBatch(conversationID, count)`: `INCRBY` by `count`; the batch is
`[end - count + 1, end]`. -/
def nextSeqBatch (s : Store) (conv : String) (count : Int) : Option ((Int × Int) × Store) :=
  (s.incrBy conv count).map fun (e, s) => ((e - count + 1, e), s)

end GoIm
