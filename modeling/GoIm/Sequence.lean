/-
Conversation ids and their sequence counters (`getConversationID`, `SequenceManager`).

`getConversationID` joins the two user ids in byte order with a `:`; the counter of a
conversation is the Redis integer under that id, bumped by `INCR` (`NextSeq`) and
`INCRBY n` (`NextSeqBatch`).

* `getConversationID_comm` — both directions of a pair get the same id;
* `getConversationID_inj` — ids without a `:` determine the pair;
* `conversation_ids_collide` — ids with a `:` do not: two different pairs share a counter;
* `SeqCall.exec_eq_some` — every call is `INCRBY` by its count, handing out
  `[old + 1, old + count]`;
* `seqRun_counter_mono` — over every interleaving of calls with counts `≥ 0` no counter
  decreases;
* `negative_batch_rewinds_counter` — a batch with a negative count moves the counter
  back, and a later `NextSeq` hands out a value again.

Design notes: the calls of all gateways reach the one Redis server, where each is
atomic, so an interleaving is a list of calls (`seqRun`).  A call that Redis refuses
(overflow) hands out nothing and changes nothing.
-/
import GoIm.Cluster

namespace GoIm

/-! ## Conversation ids -/

/-- The conversation id is one of the two joins. -/
theorem getConversationID_cases (a b : String) :
    getConversationID a b = a ++ ":" ++ b ∨ getConversationID a b = b ++ ":" ++ a := by
  unfold getConversationID
  split
  · exact .inl rfl
  · exact .inr rfl

/-- `A → B` and `B → A` share one conversation. -/
theorem getConversationID_comm (a b : String) : getConversationID a b = getConversationID b a := by
  unfold getConversationID
  by_cases hab : charsLt a.data b.data
  · rw [if_pos hab, if_neg (charsLt_asymm hab)]
  · by_cases hba : charsLt b.data a.data
    · rw [if_neg hab, if_pos hba]
    · rw [String.ext (eq_of_not_charsLt hab hba)]

/-- A join of two ids is split back at its first `:` when the first id has none. -/
theorem append_colon_inj : ∀ {a c : List Char} {b d : List Char}, ':' ∉ a → ':' ∉ c →
    a ++ ':' :: b = c ++ ':' :: d → a = c ∧ b = d
  | [], [], _, _, _, _, h => ⟨rfl, by simpa using h⟩
  | [], y :: _, _, _, _, hc, h => absurd (List.mem_cons.mpr (.inl (List.cons.inj h).1)) hc
  | x :: _, [], _, _, ha, _, h => absurd (List.mem_cons.mpr (.inl (List.cons.inj h).1.symm)) ha
  | x :: a, y :: c, _, _, ha, hc, h => by
    simp only [List.cons_append, List.cons.injEq] at h
    obtain ⟨rfl, rfl⟩ := append_colon_inj (List.not_mem_of_not_mem_cons ha)
      (List.not_mem_of_not_mem_cons hc) h.2
    exact ⟨h.1 ▸ rfl, rfl⟩

private theorem join_inj {x y z w : String} (hx : ':' ∉ x.data) (hz : ':' ∉ z.data)
    (h : x ++ ":" ++ y = z ++ ":" ++ w) : x = z ∧ y = w := by
  have h' := congrArg String.data h
  simp only [String.data_append] at h'
  obtain ⟨h1, h2⟩ := append_colon_inj hx hz (by simpa using h')
  exact ⟨String.ext h1, String.ext h2⟩

/-- For user ids without a `:`, the conversation id determines the pair. -/
theorem getConversationID_inj {a b c d : String} (ha : ':' ∉ a.data) (hb : ':' ∉ b.data)
    (hc : ':' ∉ c.data) (hd : ':' ∉ d.data) (h : getConversationID a b = getConversationID c d) :
    (a = c ∧ b = d) ∨ (a = d ∧ b = c) := by
  rcases getConversationID_cases a b with e | e <;> rcases getConversationID_cases c d with e' | e' <;>
    rw [e, e'] at h
  · exact .inl (join_inj ha hc h)
  · exact .inr (join_inj ha hd h)
  · obtain ⟨rfl, rfl⟩ := join_inj hb hc h; exact .inr ⟨rfl, rfl⟩
  · obtain ⟨rfl, rfl⟩ := join_inj hb hd h; exact .inl ⟨rfl, rfl⟩

/-- User ids may contain the separator, and then two different pairs of users share one
conversation id, hence one `seq:` counter: `alice:bob → carol` and `alice → bob:carol`.
Both directions of a pair always agree. -/
theorem conversation_ids_collide :
    getConversationID "alice:bob" "carol" = "alice:bob:carol" ∧
      getConversationID "alice" "bob:carol" = "alice:bob:carol" ∧
      ∀ a b, getConversationID a b = getConversationID b a :=
  ⟨by decide, by decide, getConversationID_comm⟩

/-! ## Counters -/

/-- A `SequenceManager` call from any gateway: `NextSeq(conv)` or
`NextSeqBatch(conv, count)`. -/
inductive SeqCall where
  | next (conv : String)
  | batch (conv : String) (count : Int)
  deriving DecidableEq, Repr

/-- The conversation a call counts in. -/
def SeqCall.conv : SeqCall → String
  | .next conv => conv
  | .batch conv _ => conv

/-- What a call adds to its counter: `INCR` adds `1`. -/
def SeqCall.count : SeqCall → Int
  | .next _ => 1
  | .batch _ n => n

/-- One call on the shared store, with the range it hands out (`[seq, seq]` for
`NextSeq`); `none` is Redis's overflow error. -/
def SeqCall.exec (st : Store) : SeqCall → Option ((Int × Int) × Store)
  | .next conv => (nextSeq st conv).map fun (v, st) => ((v, v), st)
  | .batch conv n => nextSeqBatch st conv n

/-- Every call is `INCRBY` by its count and hands out `[old + 1, old + count]`. -/
theorem SeqCall.exec_eq_some {st st' : Store} {c : SeqCall} {r : Int × Int}
    (h : c.exec st = some (r, st')) :
    r = ((st.seqs c.conv).getD 0 + 1, (st.seqs c.conv).getD 0 + c.count) ∧
      st.incrBy c.conv c.count = some (r.2, st') := by
  cases c with
  | next conv =>
    obtain ⟨⟨v, st₁⟩, h₁, h₂⟩ := Option.map_eq_some'.mp h
    cases h₂
    exact ⟨by rw [(Store.incrBy_eq_some h₁).1]; rfl, h₁⟩
  | batch conv n =>
    obtain ⟨⟨e, st₁⟩, h₁, h₂⟩ := Option.map_eq_some'.mp h
    cases h₂
    refine ⟨?_, h₁⟩
    rw [(Store.incrBy_eq_some h₁).1]
    simp only [SeqCall.conv, SeqCall.count, Prod.mk.injEq, and_true]
    omega

/-- After a call its counter reads the range's end; other counters are unchanged. -/
theorem SeqCall.exec_seqs {st st' : Store} {c : SeqCall} {r : Int × Int}
    (h : c.exec st = some (r, st')) (k : String) :
    (st'.seqs k).getD 0 = if k = c.conv then (st.seqs c.conv).getD 0 + c.count else (st.seqs k).getD 0 := by
  obtain ⟨hr, hi⟩ := c.exec_eq_some h
  obtain ⟨-, rfl⟩ := Store.incrBy_eq_some hi
  by_cases hk : k = c.conv
  · subst hk; simp [hr]
  · simp [hk]

/-- The calls in the order Redis runs them; a refused call hands out nothing. -/
def seqRun (st : Store) : List SeqCall → List (Int × Int) × Store
  | [] => ([], st)
  | c :: cs =>
    match c.exec st with
    | some (r, st') => let p := seqRun st' cs; (r :: p.1, p.2)
    | none => seqRun st cs

/-- With counts `≥ 0`, no counter ever decreases, whatever the interleaving. -/
theorem seqRun_counter_mono (k : String) :
    ∀ (st : Store) (cs : List SeqCall), (∀ c ∈ cs, 0 ≤ c.count) →
      (st.seqs k).getD 0 ≤ ((seqRun st cs).2.seqs k).getD 0
  | st, [], _ => le_rfl
  | st, c :: cs, hcs => by
    have ih := fun st => seqRun_counter_mono k st cs fun c hc => hcs c (List.mem_cons_of_mem _ hc)
    unfold seqRun
    cases h : c.exec st with
    | none => exact ih st
    | some p =>
      refine le_trans ?_ (ih p.2)
      rw [SeqCall.exec_seqs h]
      split
      · subst k; have := hcs c (List.mem_cons_self _ _); omega
      · exact le_rfl

/-- `NextSeqBatch` with a negative count moves the counter back.  After `NextSeq`
hands out `1`, `NextSeqBatch(conv, -1)` returns the empty range `[2, 0]` and resets the
counter to `0`, and the next `NextSeq` hands out `1` again. -/
theorem negative_batch_rewinds_counter :
    (seqRun Store.empty [.next "alice:bob", .batch "alice:bob" (-1), .next "alice:bob"]).1 =
        [(1, 1), (2, 0), (1, 1)] ∧
      (seqRun Store.empty [.next "alice:bob", .batch "alice:bob" (-1)]).2.seqs "alice:bob" = some 0 ∧
      ∀ (st st' : Store) (conv : String) (n : Int) (r : Int × Int), n < 0 →
        nextSeqBatch st conv n = some (r, st') → (st'.seqs conv).getD 0 < (st.seqs conv).getD 0 := by
  refine ⟨by decide, by decide, fun st st' conv n r hn h => ?_⟩
  have := @SeqCall.exec_seqs st st' (.batch conv n) r h conv
  simp only [SeqCall.conv, SeqCall.count, if_true] at this
  omega

end GoIm
