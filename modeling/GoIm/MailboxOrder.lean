/-
The order of the offline mailbox: what `Fetch`, `FetchLatest` and the trim of `Store`
pick (`service/offline.go`, `service/message.go`).

A mailbox is a sorted set, kept in ascending order of score (`Ascending`).  Every mailbox
of a reachable state is (`Reachable.scoreSorted`), its scores are the `SeqID`s and its
members decode to themselves, so each fetch is a slice of the mailbox.

* `Reachable.fetchFrom_of_pos`, `Reachable.fetchLatest_of_pos` — with a count `n ≥ 1`,
  `Fetch` returns the first `n` matches and `FetchLatest` the last `n` entries, reversed;
* `Reachable.fetchLatest_descending` — what `FetchLatest` returns is in descending order,
  for every count;
* `fetch_zero_count_returns_all` — a count `0` sets no limit: both return the mailbox,
  while a count `n ≥ 1` is the limit the comments describe;
* `offline_delivery_newest_first` — `DeliverOfflineMessages` sends newest first;
* `offlineStore_length_le` — after `Store` a mailbox holds at most `MaxOfflineMessages`;
* `offlineStore_evicts_new` — into a full mailbox, a message scored below every entry is
  evicted by the very `Store` that adds it;
* `new_message_evicted_from_full_mailbox` — after 1001 messages of one conversation, the
  first message of another is dropped at once.

Design notes: the trim ranks by score, and a score is a `SeqID`, which counts within one
conversation; so the lowest rank is not the oldest entry once two conversations share a
mailbox.
-/
import GoIm.Routing

namespace GoIm

/-! ## Ascending mailboxes -/

/-- A mailbox in ascending order of score, as the sorted set keeps it. -/
def Ascending (z : List MailEntry) : Prop := z.Pairwise fun a b => a.1 ≤ b.1

theorem MailEntry.le_of_before {a b : MailEntry} (h : a.before b) : a.1 ≤ b.1 := by
  simp only [MailEntry.before, Bool.or_eq_true, decide_eq_true_eq, Bool.and_eq_true,
    beq_iff_eq] at h
  omega

theorem MailEntry.le_of_not_before {a b : MailEntry} (h : ¬ a.before b) : b.1 ≤ a.1 := by
  simp only [MailEntry.before, Bool.or_eq_true, decide_eq_true_eq, not_or] at h
  omega

theorem Ascending.sublist {z z' : List MailEntry} (h : Ascending z) (hs : z'.Sublist z) :
    Ascending z' :=
  List.Pairwise.sublist hs h

/-- A sorted insert keeps the order. -/
theorem ascending_zinsert (e : MailEntry) : ∀ {z : List MailEntry}, Ascending z → Ascending (zinsert e z)
  | [], _ => List.pairwise_singleton _ _
  | x :: xs, h => by
    obtain ⟨hx, hxs⟩ := List.pairwise_cons.mp h
    unfold zinsert
    split
    · next hb =>
      refine List.Pairwise.cons (fun y hy => ?_) h
      rcases List.mem_cons.mp hy with rfl | hy
      · exact MailEntry.le_of_before hb
      · exact (MailEntry.le_of_before hb).trans (hx y hy)
    · next hb =>
      refine List.Pairwise.cons (fun y hy => ?_) (ascending_zinsert e hxs)
      rcases mem_zinsert.mp hy with rfl | hy
      · exact MailEntry.le_of_not_before hb
      · exact hx y hy

theorem ascending_zadd {z : List MailEntry} (h : Ascending z) (e : MailEntry) : Ascending (zadd z e) :=
  ascending_zinsert e (h.sublist (List.filter_sublist _))

/-- Every mailbox of the store is ascending. -/
def ScoreSorted (st : Store) : Prop := ∀ u, Ascending (st.mailbox u)

theorem Reachable.scoreSorted {s : Cluster} (h : Reachable s) : ScoreSorted s.store :=
  h.mailbox_induction (fun mb => ∀ u, Ascending (mb u)) (fun _ => List.Pairwise.nil)
    (fun st dt ih v => by
      rcases mailbox_tick st dt v with e | e <;> rw [e]
      exacts [ih v, List.Pairwise.nil])
    (fun st u n ih v => by
      rw [mailbox_offlineRemove]
      split
      exacts [(ih u).sublist (List.filter_sublist _), ih v])
    (fun st u m ih v => by
      rw [mailbox_offlineStore]
      split
      exacts [(ascending_zadd (ih u) _).sublist (List.drop_sublist _ _), ih v])

/-! ## `Fetch` and `FetchLatest` -/

/-- Redis's reading of `[0, count-1]`: a count `n ≥ 1` is the first `n` ranks, and a
count `0` is `[0, -1]`, every rank. -/
theorem rankSlice_zero_pred (len : Nat) {n : Int} (hn : 0 ≤ n) :
    rankSlice len 0 (n - 1) = (0, if n = 0 then len else min n.toNat len) := by
  have hstop : (if n - 1 < 0 then n - 1 + len else n - 1) = if n = 0 then (len : Int) - 1 else n - 1 := by
    split_ifs <;> omega
  unfold rankSlice
  dsimp only
  rw [if_neg (Int.lt_irrefl 0), hstop]
  split_ifs <;> simp only [Prod.mk.injEq, Int.toNat_zero, true_and] <;> omega

theorem zrange_zero_pred (z : List MailEntry) {n : Int} (hn : 0 ≤ n) :
    zrange z 0 (n - 1) = if n = 0 then z else z.take n.toNat := by
  simp only [zrange, rankSlice_zero_pred _ hn, List.drop_zero]
  split
  · exact List.take_length _
  · exact List.take_eq_take.mpr (by omega)

theorem zrange_sublist (z : List MailEntry) (a b : Int) : (zrange z a b).Sublist z :=
  (List.take_sublist _ _).trans (List.drop_sublist _ _)

section Reachable

variable {s : Cluster} (h : Reachable s) (u : String)
include h

/-- In a reachable state every member of a slice of a mailbox decodes to itself. -/
theorem Reachable.decode_slice {z : List MailEntry} (hz : z ⊆ s.store.mailbox u) :
    z.filterMap (fun e => OfflineMessage.ofJson e.2.toJson) = z.map (·.2) := by
  rw [← List.filterMap_eq_map]
  refine List.filterMap_congr fun x hx => ?_
  exact ((h.routed).built _ ((h.routed).mailbox u x (hz hx))).ofJson_offline

/-- `Fetch(u, startSeq, n)` with `n ≥ 1`: the first `n` entries scored from `startSeq`. -/
theorem Reachable.fetchFrom_of_pos (startSeq : Int) {n : Int} (hn : 0 < n) :
    fetchFrom s.store u startSeq n =
      (((s.store.mailbox u).filter fun e => startSeq ≤ e.1).take n.toNat).map (·.2) := by
  unfold fetchFrom
  dsimp only
  rw [if_neg (by omega)]
  exact h.decode_slice u fun x hx => List.mem_of_mem_filter (List.mem_of_mem_take hx)

/-- `FetchLatest(u, n)` with `n ≥ 1`: the last `n` entries, highest first. -/
theorem Reachable.fetchLatest_of_pos {n : Int} (hn : 0 < n) :
    fetchLatest s.store u n = ((s.store.mailbox u).reverse.take n.toNat).map (·.2) := by
  unfold fetchLatest
  dsimp only
  rw [zrange_zero_pred _ hn.le, if_neg (by omega)]
  exact h.decode_slice u fun x hx => List.mem_reverse.mp (List.mem_of_mem_take hx)

/-- What `FetchLatest` returns is in descending order of `SeqID`, whatever the count. -/
theorem Reachable.fetchLatest_descending (n : Int) :
    ((fetchLatest s.store u n).map (·.seqID)).Pairwise (· ≥ ·) := by
  have hsub := zrange_sublist (s.store.mailbox u).reverse 0 (n - 1)
  have hmem : ∀ {x}, x ∈ zrange (s.store.mailbox u).reverse 0 (n - 1) → x ∈ s.store.mailbox u :=
    fun hx => List.mem_reverse.mp (hsub.subset hx)
  unfold fetchLatest
  dsimp only
  rw [h.decode_slice u fun _ => hmem, List.pairwise_map, List.pairwise_map]
  refine ((List.pairwise_reverse.mpr (h.scoreSorted u)).sublist hsub).imp_of_mem fun ha hb hab => ?_
  rwa [← h.scoredBySeq u _ (hmem ha), ← h.scoredBySeq u _ (hmem hb)]

end Reachable

/-- `bob`'s mailbox after `alice` wrote him twice while he was offline. -/
def twoOffline : Store :=
  offlineStore (offlineStore Store.empty "bob" ⟨"alice", "bob", "m1", msgTypePrivate, 1, 0⟩) "bob"
    ⟨"alice", "bob", "m2", msgTypePrivate, 2, 0⟩

/-- A count of `0` is no limit.  `ZREVRANGE 0 -1` is the whole set, and go-redis sends no
`LIMIT` for `Count = 0`: `Fetch(u, s, 0)` and `FetchLatest(u, 0)` return every entry
(every match), not none.  A count `n ≥ 1` is the limit the comments describe: in every
reachable state `Fetch` returns the first `n` matches and `FetchLatest` the last `n`
entries, highest first. -/
theorem fetch_zero_count_returns_all :
    fetchFrom twoOffline "bob" 0 0 =
        [⟨"alice", "bob", "m1", msgTypePrivate, 1, 0⟩, ⟨"alice", "bob", "m2", msgTypePrivate, 2, 0⟩] ∧
      fetchLatest twoOffline "bob" 0 =
        [⟨"alice", "bob", "m2", msgTypePrivate, 2, 0⟩, ⟨"alice", "bob", "m1", msgTypePrivate, 1, 0⟩] ∧
      (∀ (st : Store) (u : String) (startSeq : Int),
        fetchFrom st u startSeq 0 = ((st.mailbox u).filter fun e => startSeq ≤ e.1).filterMap
            (fun e => OfflineMessage.ofJson e.2.toJson) ∧
          fetchLatest st u 0 = (st.mailbox u).reverse.filterMap fun e => OfflineMessage.ofJson e.2.toJson) ∧
      ∀ s, Reachable s → ∀ (u : String) (startSeq n : Int), 0 < n →
        fetchFrom s.store u startSeq n =
            (((s.store.mailbox u).filter fun e => startSeq ≤ e.1).take n.toNat).map (·.2) ∧
          fetchLatest s.store u n = ((s.store.mailbox u).reverse.take n.toNat).map (·.2) :=
  ⟨by decide, by decide, fun st u _ =>
    ⟨rfl, by simp only [fetchLatest, zrange_zero_pred _ (le_refl (0 : Int)), if_pos]⟩,
    fun _ h u startSeq _ hn => ⟨h.fetchFrom_of_pos u startSeq hn, h.fetchLatest_of_pos u hn⟩⟩

/-- `alice` writes to `bob` twice while he is offline; `bob` logs in and his
`DeliverOfflineMessages` goroutine runs. -/
def offlineThenLogin : List Event :=
  [.accept "g", .check 0 false false, .frame 0 (.auth (some (.valid "alice"))) false,
    .check 0 false false, .frame 0 (.message (some ("bob", "m1"))) false,
    .check 0 false false, .frame 0 (.message (some ("bob", "m2"))) false,
    .accept "g", .check 1 false false, .frame 1 (.auth (some (.valid "bob"))) false,
    .deliverOffline 1 []]

/-- Offline messages are delivered newest first: `DeliverOfflineMessages` sends what
`FetchLatest` returns, in that order, and in every reachable state that is descending
in `SeqID`. -/
theorem offline_delivery_newest_first :
    queuedOn (run (Cluster.initial ["g"]) offlineThenLogin).trace 1 =
        [.authAck true "bob", .chat ⟨"alice", "bob", "m2", msgTypePrivate, 2, 0⟩,
          .chat ⟨"alice", "bob", "m1", msgTypePrivate, 1, 0⟩] ∧
      ∀ s, Reachable s → ∀ u, ((fetchLatest s.store u 100).map (·.seqID)).Pairwise (· ≥ ·) :=
  ⟨by decide, fun _ h u => h.fetchLatest_descending u 100⟩


/-! ## The trim of `Store` -/

/-- After `Store` a mailbox holds at most `MaxOfflineMessages` entries. -/
theorem offlineStore_length_le (st : Store) (u : String) (m : OfflineMessage) :
    ((offlineStore st u m).mailbox u).length ≤ maxOfflineMessages := by
  rw [mailbox_offlineStore, if_pos rfl, List.length_drop]
  omega

/-- `ZADD` of a member not in the set is a sorted insert. -/
theorem zadd_of_fresh {z : List MailEntry} {e : MailEntry} (h : ∀ x ∈ z, x.2 ≠ e.2) :
    zadd z e = zinsert e z := by
  rw [zadd, List.filter_eq_self.mpr fun x hx => by simpa using h x hx]

/-- An entry scored below the head goes first. -/
theorem zinsert_of_lt {e x : MailEntry} (xs : List MailEntry) (h : e.1 < x.1) :
    zinsert e (x :: xs) = e :: x :: xs := by
  rw [zinsert, if_pos (by simp [MailEntry.before, h])]

/-- An entry scored above every entry goes last. -/
theorem zinsert_of_gt {e : MailEntry} : ∀ {z : List MailEntry}, (∀ x ∈ z, x.1 < e.1) →
    zinsert e z = z ++ [e]
  | [], _ => rfl
  | x :: xs, h => by
    have hx := h x (List.mem_cons_self _ _)
    rw [zinsert, if_neg (by simp only [MailEntry.before, Bool.or_eq_true, decide_eq_true_eq,
      Bool.and_eq_true, beq_iff_eq, not_or, not_and]; omega),
      zinsert_of_gt fun y hy => h y (List.mem_cons_of_mem _ hy)]
    rfl

section Trim

variable {st : Store} {u : String} {m : OfflineMessage} (hs : ∀ x ∈ st.mailbox u, x.1 = x.2.seqID)
include hs

/-- In a mailbox scored by `SeqID`, a message of another `SeqID` is a new member. -/
theorem fresh_of_seqID_ne (hne : ∀ x ∈ st.mailbox u, x.1 ≠ m.seqID) :
    ∀ x ∈ st.mailbox u, x.2 ≠ { m with timestamp := st.now } :=
  fun x hx e => hne x hx (by rw [hs x hx, e])

/-- Into a full mailbox, a message scored below every entry is evicted by the `Store`
that adds it: the mailbox is left as it was. -/
theorem offlineStore_evicts_new (hfull : (st.mailbox u).length = maxOfflineMessages)
    (hlt : ∀ x ∈ st.mailbox u, m.seqID < x.1) : (offlineStore st u m).mailbox u = st.mailbox u := by
  obtain ⟨x, xs, hz⟩ := List.exists_cons_of_length_pos (by rw [hfull]; decide : 0 < (st.mailbox u).length)
  have hfresh := fresh_of_seqID_ne hs fun y hy => (hlt y hy).ne'
  rw [mailbox_offlineStore, if_pos rfl, zadd_of_fresh hfresh, hz,
    zinsert_of_lt xs (hlt x (hz ▸ List.mem_cons_self _ _)), ← hz]
  simp [hfull]

/-- A message scored above every entry is appended, and the trim drops from the front. -/
theorem offlineStore_of_gt (hgt : ∀ x ∈ st.mailbox u, x.1 < m.seqID) :
    (offlineStore st u m).mailbox u = (st.mailbox u ++ [(m.seqID, { m with timestamp := st.now })]).drop
      ((st.mailbox u).length + 1 - maxOfflineMessages) := by
  rw [mailbox_offlineStore, if_pos rfl, zadd_of_fresh (fresh_of_seqID_ne hs fun y hy => (hgt y hy).ne),
    zinsert_of_gt hgt, List.length_append, List.length_singleton]

end Trim

/-- `alice`'s first `n` messages to `bob`: `NextSeq` numbers them `1, …, n` in their
conversation. -/
def aliceToBob (n : Nat) : List OfflineMessage :=
  (List.range' 1 n).map fun (i : Nat) => ⟨"alice", "bob", "hi", msgTypePrivate, (i : Int), 0⟩

/-- `Store(u, m)` for each message in turn. -/
def storeAll (st : Store) (u : String) (ms : List OfflineMessage) : Store :=
  ms.foldl (fun st m => offlineStore st u m) st

/-- While one conversation fills `bob`'s mailbox, the trim drops its oldest messages. -/
theorem storeAll_aliceToBob (n : Nat) :
    (storeAll Store.empty "bob" (aliceToBob n)).now = 0 ∧
      (storeAll Store.empty "bob" (aliceToBob n)).mailbox "bob" =
        ((aliceToBob n).map fun m => (m.seqID, m)).drop (n - maxOfflineMessages) := by
  induction n with
  | zero => exact ⟨rfl, rfl⟩
  | succ n ih =>
    have happ : aliceToBob (n + 1) = aliceToBob n ++ [⟨"alice", "bob", "hi", msgTypePrivate, n + 1, 0⟩] := by
      simp [aliceToBob, List.range'_concat, Nat.add_comm]
    have hstep : storeAll Store.empty "bob" (aliceToBob (n + 1)) = offlineStore
        (storeAll Store.empty "bob" (aliceToBob n)) "bob" ⟨"alice", "bob", "hi", msgTypePrivate, n + 1, 0⟩ := by
      rw [happ, storeAll, List.foldl_append]; rfl
    rw [hstep]
    refine ⟨ih.1, ?_⟩
    have hs : ∀ x ∈ (storeAll Store.empty "bob" (aliceToBob n)).mailbox "bob", x.1 = x.2.seqID := by
      rw [ih.2]
      intro x hx
      obtain ⟨m, -, rfl⟩ := List.mem_map.mp (List.mem_of_mem_drop hx)
      rfl
    have hgt : ∀ x ∈ (storeAll Store.empty "bob" (aliceToBob n)).mailbox "bob", x.1 < n + 1 := by
      rw [ih.2]
      intro x hx
      obtain ⟨m, hm, rfl⟩ := List.mem_map.mp (List.mem_of_mem_drop hx)
      obtain ⟨i, hi, rfl⟩ := List.mem_map.mp hm
      have := List.mem_range'_1.mp hi
      show (i : Int) < n + 1
      omega
    have hlen : ((aliceToBob n).map fun m => (m.seqID, m)).length = n := by simp [aliceToBob]
    rw [offlineStore_of_gt hs hgt, ih.1, ih.2, List.length_drop, hlen, happ, List.map_append]
    conv_rhs => rw [show n + 1 - maxOfflineMessages = (n - maxOfflineMessages) +
      (n - (n - maxOfflineMessages) + 1 - maxOfflineMessages) by unfold maxOfflineMessages; omega,
      ← List.drop_drop, List.drop_append_of_le_length (by rw [hlen]; omega)]
    rfl

/-- The trim keeps the highest `SeqID`s, not the latest stores.  `alice` writes to
offline `bob` 1001 times, and the trim has dropped her first message; `carol` then sends
`bob` her first message, `SeqID` 1 of their conversation.  The `Store` that adds it
evicts it at once, and `alice`'s 1000 earlier messages all stay. -/
theorem new_message_evicted_from_full_mailbox :
    (storeAll Store.empty "bob" (aliceToBob 1001)).mailbox "bob" =
        ((aliceToBob 1001).map fun m => (m.seqID, m)).drop 1 ∧
      (offlineStore (storeAll Store.empty "bob" (aliceToBob 1001)) "bob"
          ⟨"carol", "bob", "hi", msgTypePrivate, 1, 0⟩).mailbox "bob" =
        (storeAll Store.empty "bob" (aliceToBob 1001)).mailbox "bob" ∧
      ∀ st u m, ((offlineStore st u m).mailbox u).length ≤ maxOfflineMessages := by
  have h := (storeAll_aliceToBob 1001).2
  refine ⟨h, offlineStore_evicts_new ?_ ?_ ?_, offlineStore_length_le⟩
  · rw [h]
    intro x hx
    obtain ⟨m, -, rfl⟩ := List.mem_map.mp (List.mem_of_mem_drop hx)
    rfl
  · rw [h]; simp [aliceToBob, maxOfflineMessages]
  · rw [h, ← List.map_drop]
    intro x hx
    obtain ⟨m, hm, rfl⟩ := List.mem_map.mp hx
    rw [aliceToBob, ← List.map_drop, List.range'_succ] at hm
    obtain ⟨i, hi, rfl⟩ := List.mem_map.mp hm
    have := List.mem_range'_1.mp hi
    show (1 : Int) < i
    omega

end GoIm
