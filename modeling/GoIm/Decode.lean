/-
How `encoding/json`'s `Unmarshal` reads back the two payloads that cross Redis: a
`PubSubMessage` on a gateway's channel (`receiveLoop`) and an `OfflineMessage` in a
mailbox (`Fetch`, `FetchLatest`).

`Unmarshal` checks that the whole text is JSON, then decodes the object member by
member: a member sets the field whose name matches its key (exactly, or after case
folding), an unknown key is skipped, and `null` leaves a scalar field as it is and
clears a slice.  A `[]byte` field holds the standard base64 of its bytes; the handlers
turn those bytes back into a string with `string(b)`.

* `decodeUtf8` — the text of a byte string (RFC 3629), and `decodeUtf8_toUTF8`: it
  reads back the UTF-8 of every text;
* `unbase64` — `base64.StdEncoding.Decode`, and `unbase64_base64`;
* `stringBody`, `numberLit`, `scalar`, `members`, `objectMembers` — the JSON of an
  object whose members are scalars;
* `PubSubMessage.ofJson`, `OfflineMessage.ofJson` — `Unmarshal` into the two records;
* `PubSubMessage.ofJson_toJson`, `OfflineMessage.ofJson_toJson` — each reads back what
  `Marshal` wrote, whenever its integers fit in an `int64`.

Design notes: a text is a list of characters; the bytes on the wire are its UTF-8,
which `Unmarshal` decodes as it scans.  The model reads objects whose member values are
scalars: a payload with an array or an object as a value (which `Unmarshal` may accept:
it skips one under an unknown key, and fills a `[]byte` from an array of numbers) is
refused here; nothing in the cluster writes one.  A byte string that is not UTF-8 has no
text, and decoding it fails here where Go would keep the bytes; every byte string the
cluster decodes is the UTF-8 of a text.  `time.Time` is written as the clock reading
(see `Json`) and read back as such.  A loop that resumes after a sub-scan runs on fuel,
the length of its input, which bounds its steps.
-/
import GoIm.Store

namespace GoIm

/-! ## UTF-8 -/

/-- A continuation byte, `%x80-BF`. -/
def isCont (b : UInt8) : Bool := 0x80 ≤ b.toNat ∧ b.toNat ≤ 0xBF

/-- The character of a two-byte sequence, `%xC2-DF UTF8-tail`. -/
def rune2 (b0 b1 : UInt8) : Option Char :=
  if 0xC2 ≤ b0.toNat ∧ b0.toNat ≤ 0xDF ∧ isCont b1 then
    some (Char.ofNat ((b0.toNat - 0xC0) * 64 + (b1.toNat - 0x80)))
  else none

/-- The character of a three-byte sequence: `%xE0-EF 2( UTF8-tail )`, neither overlong
nor a surrogate. -/
def rune3 (b0 b1 b2 : UInt8) : Option Char :=
  let v := (b0.toNat - 0xE0) * 4096 + (b1.toNat - 0x80) * 64 + (b2.toNat - 0x80)
  if 0xE0 ≤ b0.toNat ∧ b0.toNat ≤ 0xEF ∧ isCont b1 ∧ isCont b2 ∧ 0x800 ≤ v ∧
      (v < 0xD800 ∨ 0xDFFF < v) then
    some (Char.ofNat v)
  else none

/-- The character of a four-byte sequence: `%xF0-F4 3( UTF8-tail )`, neither overlong
nor above U+10FFFF. -/
def rune4 (b0 b1 b2 b3 : UInt8) : Option Char :=
  let v := (b0.toNat - 0xF0) * 262144 + (b1.toNat - 0x80) * 4096 + (b2.toNat - 0x80) * 64 +
    (b3.toNat - 0x80)
  if 0xF0 ≤ b0.toNat ∧ b0.toNat ≤ 0xF4 ∧ isCont b1 ∧ isCont b2 ∧ isCont b3 ∧ 0x10000 ≤ v ∧
      v ≤ 0x10FFFF then
    some (Char.ofNat v)
  else none

/-- `utf8.DecodeRune` on valid input: the first character of `b0 :: bs`, dispatched on
its lead byte, and the bytes after it; none where the bytes are not UTF-8. -/
def decodeRune (b0 : UInt8) (bs : List UInt8) : Option (Char × List UInt8) :=
  if b0.toNat < 0x80 then some (Char.ofNat b0.toNat, bs)
  else match bs with
    | b1 :: bs1 =>
      if b0.toNat < 0xE0 then (rune2 b0 b1).map (·, bs1)
      else match bs1 with
        | b2 :: bs2 =>
          if b0.toNat < 0xF0 then (rune3 b0 b1 b2).map (·, bs2)
          else match bs2 with
            | b3 :: bs3 => (rune4 b0 b1 b2 b3).map (·, bs3)
            | [] => none
        | [] => none
    | [] => none

/-- Decoding character by character, for at most `fuel` characters. -/
def decodeUtf8Aux : Nat → List UInt8 → Option (List Char)
  | _, [] => some []
  | 0, _ :: _ => none
  | fuel + 1, b :: bs =>
    (decodeRune b bs).bind fun (c, rest) => (decodeUtf8Aux fuel rest).map (c :: ·)

/-- The text of a byte string: `string(b)` as a sequence of characters. -/
def decodeUtf8 (bs : List UInt8) : Option (List Char) := decodeUtf8Aux bs.length bs

theorem uint32_toNat_shiftRight (a k : UInt32) (hk : k.toNat < 32) :
    (a >>> k).toNat = a.toNat / 2 ^ k.toNat := by
  show (a.toBitVec >>> (k.toBitVec % 32).toNat).toNat = _
  rw [BitVec.toNat_ushiftRight, Nat.shiftRight_eq_div_pow, BitVec.toNat_umod]
  exact congrArg (a.toNat / 2 ^ ·) (Nat.mod_eq_of_lt hk)

/-- A byte `utf8EncodeChar` builds: the low `j` bits of `y` under the tag `t`. -/
theorem tagged_toNat (y : UInt32) (m t : UInt8) (j : Nat) (hm : m.toNat = 2 ^ j - 1) (hj : j ≤ 8)
    (ht : ∀ a < 2 ^ j, a ||| t.toNat = a + t.toNat) :
    (y.toUInt8 &&& m ||| t).toNat = y.toNat % 2 ^ j + t.toNat := by
  have hy : y.toUInt8.toNat = y.toNat % 2 ^ 8 := rfl
  rw [show (y.toUInt8 &&& m ||| t).toNat = (y.toUInt8 &&& m).toNat ||| t.toNat from
      BitVec.toNat_or .., UInt8.and_toNat, hy, hm,
    Nat.and_pow_two_sub_one_eq_mod, Nat.mod_mod_of_dvd _ (Nat.pow_dvd_pow 2 hj)]
  exact ht _ (Nat.mod_lt _ (Nat.two_pow_pos j))

/-- The bytes `utf8EncodeChar` writes, as numbers. -/
theorem utf8EncodeChar_toNat (c : Char) :
    (String.utf8EncodeChar c).map UInt8.toNat =
      if c.toNat ≤ 0x7f then [c.toNat]
      else if c.toNat ≤ 0x7ff then [c.toNat / 64 + 0xc0, c.toNat % 64 + 0x80]
      else if c.toNat ≤ 0xffff then
        [c.toNat / 4096 + 0xe0, c.toNat / 64 % 64 + 0x80, c.toNat % 64 + 0x80]
      else [c.toNat / 262144 + 0xf0, c.toNat / 4096 % 64 + 0x80, c.toNat / 64 % 64 + 0x80,
        c.toNat % 64 + 0x80] := by
  have hc : c.val.toNat < 0x110000 := by
    have := c.valid; simp only [UInt32.isValidChar, Nat.isValidChar] at this; omega
  have h6 : (c.val >>> 6).toNat = c.val.toNat / 64 := uint32_toNat_shiftRight _ 6 (by decide)
  have h12 : (c.val >>> 12).toNat = c.val.toNat / 4096 := uint32_toNat_shiftRight _ 12 (by decide)
  have h18 : (c.val >>> 18).toNat = c.val.toNat / 262144 :=
    uint32_toNat_shiftRight _ 18 (by decide)
  have cont := fun y : UInt32 => tagged_toNat y 0x3f 0x80 6 rfl (by decide) (by decide)
  have l2 := tagged_toNat (c.val >>> 6) 0x1f 0xc0 5 rfl (by decide) (by decide)
  have l3 := tagged_toNat (c.val >>> 12) 0x0f 0xe0 4 rfl (by decide) (by decide)
  have l4 := tagged_toNat (c.val >>> 18) 0x07 0xf0 3 rfl (by decide) (by decide)
  have e1 : c.val ≤ 0x7f ↔ c.val.toNat ≤ 0x7f := Iff.rfl
  have e2 : c.val ≤ 0x7ff ↔ c.val.toNat ≤ 0x7ff := Iff.rfl
  have e3 : c.val ≤ 0xffff ↔ c.val.toNat ≤ 0xffff := Iff.rfl
  have hb : c.val.toUInt8.toNat = c.val.toNat % 256 := rfl
  simp only [String.utf8EncodeChar, Char.toNat, e1, e2, e3]
  split_ifs <;> simp only [List.map, cont, l2, l3, l4, h6, h12, h18, hb, List.cons.injEq,
    UInt8.reduceToNat, Nat.reducePow, and_true] <;> omega

theorem rune2_eq {b0 b1 : UInt8} {n : Nat} (hn : 0x80 ≤ n ∧ n ≤ 0x7ff)
    (h0 : b0.toNat = n / 64 + 0xc0) (h1 : b1.toNat = n % 64 + 0x80) :
    rune2 b0 b1 = some (Char.ofNat n) := by
  simp only [rune2, isCont, h0, h1, Nat.add_sub_cancel, Nat.div_add_mod' n 64, decide_eq_true_eq]
  exact if_pos ⟨by omega, by omega, by omega, by omega⟩

theorem rune3_eq {b0 b1 b2 : UInt8} {n : Nat} (hn : 0x800 ≤ n ∧ n ≤ 0xffff ∧ (n < 0xD800 ∨ 0xDFFF < n))
    (h0 : b0.toNat = n / 4096 + 0xe0) (h1 : b1.toNat = n / 64 % 64 + 0x80)
    (h2 : b2.toNat = n % 64 + 0x80) :
    rune3 b0 b1 b2 = some (Char.ofNat n) := by
  have hv : n / 4096 * 4096 + n / 64 % 64 * 64 + n % 64 = n := by omega
  simp only [rune3, isCont, h0, h1, h2, Nat.add_sub_cancel, hv, decide_eq_true_eq]
  exact if_pos ⟨by omega, by omega, ⟨by omega, by omega⟩, ⟨by omega, by omega⟩, hn.1, hn.2.2⟩

theorem rune4_eq {b0 b1 b2 b3 : UInt8} {n : Nat} (hn : 0x10000 ≤ n ∧ n ≤ 0x10FFFF)
    (h0 : b0.toNat = n / 262144 + 0xf0) (h1 : b1.toNat = n / 4096 % 64 + 0x80)
    (h2 : b2.toNat = n / 64 % 64 + 0x80) (h3 : b3.toNat = n % 64 + 0x80) :
    rune4 b0 b1 b2 b3 = some (Char.ofNat n) := by
  have hv : n / 262144 * 262144 + n / 4096 % 64 * 4096 + n / 64 % 64 * 64 + n % 64 = n := by
    omega
  simp only [rune4, isCont, h0, h1, h2, h3, Nat.add_sub_cancel, hv, decide_eq_true_eq]
  exact if_pos ⟨by omega, by omega, ⟨by omega, by omega⟩, ⟨by omega, by omega⟩,
    ⟨by omega, by omega⟩, hn⟩

/-- One character's UTF-8 decodes back to it, whatever follows. -/
theorem decodeUtf8Aux_encode (c : Char) (rest : List UInt8) (f : Nat) :
    decodeUtf8Aux (f + 1) (String.utf8EncodeChar c ++ rest) =
      (decodeUtf8Aux f rest).map (c :: ·) := by
  have hc : c.toNat < 0x110000 ∧ (c.toNat < 0xd800 ∨ 0xdfff < c.toNat) := by
    have := c.valid; simp only [UInt32.isValidChar, Nat.isValidChar] at this; unfold Char.toNat; omega
  have he := utf8EncodeChar_toNat c
  generalize String.utf8EncodeChar c = bs at he
  rw [← Char.ofNat_toNat c]
  generalize c.toNat = n at hc he
  split_ifs at he with h1 h2 h3 <;>
    simp only [List.map_eq_cons_iff, List.map_eq_nil_iff] at he
  · obtain ⟨b0, _, rfl, h0, rfl⟩ := he
    simp only [List.singleton_append, decodeUtf8Aux, decodeRune]
    rw [if_pos (by omega), h0]
    rfl
  · obtain ⟨b0, _, rfl, h0, b1, _, rfl, hb1, rfl⟩ := he
    change decodeUtf8Aux (f + 1) (b0 :: b1 :: rest) = _
    simp only [decodeUtf8Aux, decodeRune]
    rw [if_neg (by omega), if_pos (by omega), rune2_eq ⟨by omega, h2⟩ h0 hb1]
    rfl
  · obtain ⟨b0, _, rfl, h0, b1, _, rfl, hb1, b2, _, rfl, hb2, rfl⟩ := he
    change decodeUtf8Aux (f + 1) (b0 :: b1 :: b2 :: rest) = _
    simp only [decodeUtf8Aux, decodeRune]
    rw [if_neg (by omega), if_neg (by omega), if_pos (by omega),
      rune3_eq ⟨by omega, h3, hc.2⟩ h0 hb1 hb2]
    rfl
  · obtain ⟨b0, _, rfl, h0, b1, _, rfl, hb1, b2, _, rfl, hb2, b3, _, rfl, hb3, rfl⟩ := he
    change decodeUtf8Aux (f + 1) (b0 :: b1 :: b2 :: b3 :: rest) = _
    simp only [decodeUtf8Aux, decodeRune]
    rw [if_neg (by omega), if_neg (by omega), if_neg (by omega),
      rune4_eq ⟨by omega, by omega⟩ h0 hb1 hb2 hb3]
    rfl

theorem decodeUtf8Aux_flatMap (cs : List Char) (f : Nat)
    (hf : (cs.flatMap String.utf8EncodeChar).length ≤ f) :
    decodeUtf8Aux f (cs.flatMap String.utf8EncodeChar) = some cs := by
  induction cs generalizing f with
  | nil => cases f <;> rfl
  | cons c cs ih =>
    have hc : 0 < (String.utf8EncodeChar c).length := by
      rw [String.length_utf8EncodeChar]; exact Char.utf8Size_pos c
    simp only [List.flatMap_cons, List.length_append] at hf ⊢
    obtain ⟨f, rfl⟩ : ∃ f', f = f' + 1 := ⟨f - 1, by omega⟩
    rw [decodeUtf8Aux_encode, ih f (by omega)]
    rfl

/-- `string(b)` of the bytes of a text is the text. -/
theorem decodeUtf8_toUTF8 (s : String) : decodeUtf8 s.toUTF8.data.toList = some s.data :=
  decodeUtf8Aux_flatMap s.data _ le_rfl

/-! ## base64 -/

/-- `StdEncoding`'s `decodeMap`: the value of a digit, none for any other character. -/
def base64Value (c : Char) : Option Nat :=
  if 'A' ≤ c ∧ c ≤ 'Z' then some (c.toNat - 65)
  else if 'a' ≤ c ∧ c ≤ 'z' then some (c.toNat - 71)
  else if '0' ≤ c ∧ c ≤ '9' then some (c.toNat + 4)
  else if c = '+' then some 62
  else if c = '/' then some 63
  else none

/-- `decodeQuantum` in turn: four digits give three bytes; a last quantum `ab==` or
`abc=` gives one or two; anything else, text after the padding included, is a
`CorruptInputError`. -/
def unbase64Quanta : List Char → Option (List UInt8)
  | a :: b :: c :: d :: rest => do
    let a ← base64Value a
    let b ← base64Value b
    if c = '=' then
      if d = '=' ∧ rest = [] then some [(a * 4 + b / 16).toUInt8] else none
    else
      let c ← base64Value c
      if d = '=' then
        if rest = [] then some [(a * 4 + b / 16).toUInt8, (b % 16 * 16 + c / 4).toUInt8] else none
      else
        let d ← base64Value d
        let bs ← unbase64Quanta rest
        some ((a * 4 + b / 16).toUInt8 :: (b % 16 * 16 + c / 4).toUInt8 ::
          (c % 4 * 64 + d).toUInt8 :: bs)
  | [] => some []
  | _ => none

/-- `base64.StdEncoding.Decode`: line breaks are skipped wherever they stand. -/
def unbase64 (cs : List Char) : Option (List UInt8) :=
  unbase64Quanta (cs.filter fun c => c ≠ '\n' ∧ c ≠ '\r')

theorem base64Digit_mod (n : Nat) : base64Digit (n % 64) = base64Digit n := by
  simp only [base64Digit, Nat.mod_mod]

theorem base64Value_base64Digit (n : Nat) : base64Value (base64Digit n) = some (n % 64) := by
  have h : ∀ k < 64, base64Value (base64Digit k) = some k := by decide
  rw [← base64Digit_mod, h _ (Nat.mod_lt _ (by decide))]

/-- No digit is the padding or a line break. -/
theorem base64Digit_ne (n : Nat) :
    base64Digit n ≠ '=' ∧ base64Digit n ≠ '\n' ∧ base64Digit n ≠ '\r' := by
  have h : ∀ k < 64, base64Digit k ≠ '=' ∧ base64Digit k ≠ '\n' ∧ base64Digit k ≠ '\r' := by
    decide
  rw [← base64Digit_mod]; exact h _ (Nat.mod_lt _ (by decide))

theorem toUInt8_toNat (x : UInt8) : x.toNat.toUInt8 = x :=
  UInt8.toNat.inj (UInt8.toNat_ofNat_of_lt x.toNat_lt_size)

/-- The arithmetic of a base64 quantum: its digits give back the bytes. -/
theorem quantum_digits {a b c : Nat} (ha : a < 256) (hb : b < 256) (hc : c < 256) :
    a / 4 % 64 * 4 + (a % 4 * 16 + b / 16) % 64 / 16 = a ∧
      (a % 4 * 16 + b / 16) % 64 % 16 * 16 + (b % 16 * 4 + c / 64) % 64 / 4 = b ∧
      (b % 16 * 4 + c / 64) % 64 % 4 * 64 + c % 64 = c :=
  ⟨by omega, by omega, by omega⟩

theorem unbase64Quanta_base64 (bs : List UInt8) : unbase64Quanta (base64 bs) = some bs := by
  induction bs using base64.induct with
  | case1 => rfl
  | case2 a =>
    have h := quantum_digits a.toNat_lt_size (Nat.zero_lt_succ 255) (Nat.zero_lt_succ 255)
    simp only [base64, unbase64Quanta, base64Value_base64Digit, Option.bind_eq_bind, Option.some_bind,
      if_true, and_self]
    rw [show a.toNat / 4 % 64 * 4 + a.toNat % 4 * 16 % 64 / 16 = a.toNat by simpa using h.1, toUInt8_toNat]
  | case3 a b =>
    have h := quantum_digits a.toNat_lt_size b.toNat_lt_size (Nat.zero_lt_succ 255)
    simp only [base64, unbase64Quanta, base64Value_base64Digit, Option.bind_eq_bind, Option.some_bind,
      if_neg (base64Digit_ne _).1, if_true]
    rw [h.1, show (a.toNat % 4 * 16 + b.toNat / 16) % 64 % 16 * 16 + b.toNat % 16 * 4 % 64 / 4 = b.toNat by
        simpa using h.2.1, toUInt8_toNat, toUInt8_toNat]
  | case4 a b c rest ih =>
    have h := quantum_digits a.toNat_lt_size b.toNat_lt_size c.toNat_lt_size
    simp only [base64, List.cons_append, List.nil_append, unbase64Quanta, base64Value_base64Digit,
      Option.bind_eq_bind, Option.some_bind, if_neg (base64Digit_ne _).1, List.append_eq, ih]
    rw [h.1, h.2.1, h.2.2, toUInt8_toNat, toUInt8_toNat, toUInt8_toNat]

theorem mem_base64 {bs : List UInt8} {c : Char} (h : c ∈ base64 bs) : c = '=' ∨ ∃ n, c = base64Digit n := by
  induction bs using base64.induct with
  | case1 => cases h
  | case2 a => simp only [base64, List.mem_cons, List.not_mem_nil] at h; aesop
  | case3 a b => simp only [base64, List.mem_cons, List.not_mem_nil] at h; aesop
  | case4 a b c' rest ih =>
    simp only [base64, List.cons_append, List.nil_append, List.mem_cons] at h
    rcases h with h | h | h | h | h
    any_goals exact .inr ⟨_, h⟩
    exact ih h

/-- `Decode` reads back what `EncodeToString` wrote. -/
theorem unbase64_base64 (bs : List UInt8) : unbase64 (base64 bs) = some bs := by
  rw [unbase64, List.filter_eq_self.mpr, unbase64Quanta_base64]
  intro c hc
  rcases mem_base64 hc with rfl | ⟨n, rfl⟩
  · decide
  · simp [(base64Digit_ne n).2]

/-! ## Strings -/

/-- The value of a hex digit. -/
def hexValue (c : Char) : Option Nat :=
  if '0' ≤ c ∧ c ≤ '9' then some (c.toNat - 48)
  else if 'a' ≤ c ∧ c ≤ 'f' then some (c.toNat - 87)
  else if 'A' ≤ c ∧ c ≤ 'F' then some (c.toNat - 55)
  else none

/-- `getu4`: the code unit of the `\uXXXX` at the head of `cs`, and what follows it. -/
def getu4 : List Char → Option (Nat × List Char)
  | s :: u :: a :: b :: c :: d :: rest =>
    if s = '\\' ∧ u = 'u' then do
      let a ← hexValue a
      let b ← hexValue b
      let c ← hexValue c
      let d ← hexValue d
      some (((a * 16 + b) * 16 + c) * 16 + d, rest)
    else none
  | _ => none

/-- The character a one-letter escape stands for (the scanner's `stateInStringEsc`). -/
def shortEscape (e : Char) : Option Char :=
  if e = '"' ∨ e = '\\' ∨ e = '/' then some e
  else if e = 'b' then some (Char.ofNat 8)
  else if e = 'f' then some (Char.ofNat 12)
  else if e = 'n' then some '\n'
  else if e = 'r' then some '\r'
  else if e = 't' then some '\t'
  else none

/-- The character of a `\uXXXX` escape with code unit `r`, and what follows it: a
surrogate pair is one character, and a lone surrogate is U+FFFD. -/
def unicodeEscape (r : Nat) (rest : List Char) : Char × List Char :=
  if 0xD800 ≤ r ∧ r < 0xE000 then
    match getu4 rest with
    | some (r2, rest2) =>
      if r < 0xDC00 ∧ 0xDC00 ≤ r2 ∧ r2 < 0xE000 then
        (Char.ofNat (0x10000 + (r - 0xD800) * 0x400 + (r2 - 0xDC00)), rest2)
      else (Char.ofNat 0xFFFD, rest)
    | none => (Char.ofNat 0xFFFD, rest)
  else (Char.ofNat r, rest)

/-- One step of `unquote` inside a string literal: the closing quote (`none`) or the
next character, with what follows; none on a bad escape or a raw control character,
which the scanner rejects. -/
def strStep : List Char → Option (Option Char × List Char)
  | [] => none
  | c :: cs =>
    if c = '"' then some (none, cs)
    else if c = '\\' then
      match cs with
      | e :: rest =>
        if e = 'u' then (getu4 (c :: cs)).map fun (r, rest) => (some (unicodeEscape r rest).1, (unicodeEscape r rest).2)
        else (shortEscape e).map fun ch => (some ch, rest)
      | [] => none
    else if c.toNat < 0x20 then none
    else some (some c, cs)

/-- The characters of a string literal after its opening quote, and what follows the
closing one, in at most `fuel` steps. -/
def stringBody : Nat → List Char → Option (List Char × List Char)
  | 0, _ => none
  | fuel + 1, cs =>
    match strStep cs with
    | some (some c, rest) => (stringBody fuel rest).map fun (s, r) => (c :: s, r)
    | some (none, rest) => some ([], rest)
    | none => none

theorem hexDigit_mod (n : Nat) : hexDigit (n % 16) = hexDigit n := by
  simp only [hexDigit, Nat.mod_mod]

theorem hexValue_hexDigit (n : Nat) : hexValue (hexDigit n) = some (n % 16) := by
  have h : ∀ k < 16, hexValue (hexDigit k) = some k := by decide
  rw [← hexDigit_mod, h _ (Nat.mod_lt _ (by decide))]

theorem bs_ne_quote : ('\\' : Char) ≠ '"' := by decide
theorem hexValue_zero : hexValue '0' = some 0 := rfl
theorem hexValue_two : hexValue '2' = some 2 := rfl

/-- `unquote` reads back the escape `encodeState.string` writes for a character. -/
theorem strStep_escapeChar (c : Char) (rest : List Char) :
    strStep (escapeChar c ++ rest) = some (some c, rest) := by
  have hof : ∀ n, c.toNat = n → Char.ofNat n = c := fun n h => h ▸ Char.ofNat_toNat c
  have hu : ∀ n rest, n < 0xD800 → unicodeEscape n rest = (Char.ofNat n, rest) := fun n rest h =>
    if_neg (by omega)
  unfold escapeChar
  by_cases h1 : c = '"'
  · subst h1; rfl
  rw [if_neg h1]
  by_cases h2 : c = '\\'
  · subst h2; rfl
  rw [if_neg h2]
  by_cases h3 : c = '\n'
  · subst h3; rfl
  rw [if_neg h3]
  by_cases h4 : c = '\r'
  · subst h4; rfl
  rw [if_neg h4]
  by_cases h5 : c = '\t'
  · subst h5; rfl
  rw [if_neg h5]
  by_cases h6 : c.toNat = 8
  · rw [if_pos h6, ← hof 8 h6]; rfl
  rw [if_neg h6]
  by_cases h7 : c.toNat = 12
  · rw [if_pos h7, ← hof 12 h7]; rfl
  rw [if_neg h7]
  by_cases h8 : c.toNat < 32 ∨ c = '<' ∨ c = '>' ∨ c = '&'
  · have hn : c.toNat < 256 := by
      rcases h8 with h | rfl | rfl | rfl
      · omega
      all_goals decide
    rw [if_pos h8]
    simp only [List.cons_append, List.nil_append, strStep, getu4, hexValue_hexDigit, if_true, and_self,
      Option.bind_eq_bind, Option.some_bind, Option.map_some', if_neg bs_ne_quote, hexValue_zero]
    rw [show ((0 * 16 + 0) * 16 + c.toNat / 16 % 16) * 16 + c.toNat % 16 = c.toNat by omega,
      hu _ _ (by omega), Char.ofNat_toNat]
  rw [if_neg h8]
  by_cases h9 : c.toNat = 0x2028 ∨ c.toNat = 0x2029
  · have hn : c.toNat % 16 = 8 ∨ c.toNat % 16 = 9 := by omega
    rw [if_pos h9]
    simp only [List.cons_append, List.nil_append, strStep, getu4, hexValue_hexDigit, if_true, and_self,
      Option.bind_eq_bind, Option.some_bind, Option.map_some', if_neg bs_ne_quote, hexValue_zero,
      hexValue_two]
    rw [show ((2 * 16 + 0) * 16 + 2) * 16 + c.toNat % 16 = c.toNat by omega,
      hu _ _ (by omega), Char.ofNat_toNat]
  rw [if_neg h9]
  simp only [List.singleton_append, strStep, if_neg h1, if_neg h2, if_neg (show ¬c.toNat < 32 by omega)]

/-- `unquote` reads back the body of every literal `encodeState.string` writes. -/
theorem stringBody_escaped (cs rest : List Char) (f : Nat) (hf : cs.length < f) :
    stringBody f (cs.flatMap escapeChar ++ '"' :: rest) = some (cs, rest) := by
  induction cs generalizing f with
  | nil =>
    obtain ⟨f, rfl⟩ : ∃ f', f = f' + 1 := ⟨f - 1, by simp at hf; omega⟩
    rfl
  | cons c cs ih =>
    obtain ⟨f, rfl⟩ : ∃ f', f = f' + 1 := ⟨f - 1, by simp at hf; omega⟩
    rw [List.flatMap_cons, List.append_assoc, stringBody, strStep_escapeChar]
    simp only [ih f (by simp at hf; omega), Option.map_some']

/-! ## Numbers -/

/-- Whitespace between tokens. -/
def isWs (c : Char) : Bool := c = ' ' ∨ c = '\t' ∨ c = '\n' ∨ c = '\r'

/-- The value of a run of decimal digits. -/
def digitsValue (ds : List Char) : Nat := ds.foldl (fun n c => n * 10 + (c.toNat - 48)) 0

/-- The integer part of a JSON number: `0`, or a nonzero digit and more digits. -/
def intPart : List Char → Option (List Char × List Char)
  | c :: cs =>
    if c = '0' then some (['0'], cs)
    else if c.isDigit then some (c :: (cs.span Char.isDigit).1, (cs.span Char.isDigit).2)
    else none
  | [] => none

/-- The fraction of a JSON number: none, or `.` and at least one digit. -/
def fracPart : List Char → Option (List Char × List Char)
  | c :: cs =>
    if c = '.' then
      if (cs.span Char.isDigit).1 = [] then none
      else some (c :: (cs.span Char.isDigit).1, (cs.span Char.isDigit).2)
    else some ([], c :: cs)
  | [] => some ([], [])

/-- The exponent of a JSON number: none, or `e` or `E`, a sign, and at least one digit. -/
def expPart : List Char → Option (List Char × List Char)
  | c :: cs =>
    if c = 'e' ∨ c = 'E' then
      let (sign, ds) : List Char × List Char :=
        match cs with
        | s :: ds => if s = '+' ∨ s = '-' then ([s], ds) else ([], s :: ds)
        | [] => ([], [])
      if (ds.span Char.isDigit).1 = [] then none
      else some (c :: sign ++ (ds.span Char.isDigit).1, (ds.span Char.isDigit).2)
    else some ([], c :: cs)
  | [] => some ([], [])

/-- The scanner's number, `-? int frac? exp?`: its text, and what follows it. -/
def numberLit (cs : List Char) : Option (List Char × List Char) :=
  let (sign, cs) : List Char × List Char :=
    match cs with
    | c :: rest => if c = '-' then (['-'], rest) else ([], c :: rest)
    | [] => ([], [])
  do
    let (i, cs) ← intPart cs
    let (f, cs) ← fracPart cs
    let (e, cs) ← expPart cs
    some (sign ++ i ++ f ++ e, cs)

/-- `strconv.ParseInt(s, 10, 64)`: an optional sign, then decimal digits, and the value
within `int64`. -/
def parseInt64 (s : List Char) : Option Int :=
  let (neg, ds) : Bool × List Char :=
    match s with
    | c :: ds => if c = '-' then (true, ds) else if c = '+' then (false, ds) else (false, c :: ds)
    | [] => (false, [])
  if ds ≠ [] ∧ ds.all Char.isDigit then
    let v : Int := if neg then -(digitsValue ds : Int) else digitsValue ds
    if -int64Max - 1 ≤ v ∧ v ≤ int64Max then some v else none
  else none

theorem digitChar_spec : ∀ k < 10, (Nat.digitChar k).isDigit ∧ (Nat.digitChar k).toNat - 48 = k ∧
    (Nat.digitChar k = '0' ↔ k = 0) := by
  decide

theorem toDigitsCore_append (f n : Nat) (ds : List Char) :
    Nat.toDigitsCore 10 f n ds = Nat.toDigitsCore 10 f n [] ++ ds := by
  induction f generalizing n ds with
  | zero => rfl
  | succ f ih =>
    simp only [Nat.toDigitsCore]
    split
    · rfl
    · rw [ih, ih _ [_], List.append_assoc, List.singleton_append]

/-- The decimal digits `Nat.repr` writes: digits, with no leading zero, of value `n`. -/
theorem toDigitsCore_spec (f n : Nat) (h : n < f) :
    (∀ c ∈ Nat.toDigitsCore 10 f n [], c.isDigit) ∧ digitsValue (Nat.toDigitsCore 10 f n []) = n ∧
      ∃ d ds, Nat.toDigitsCore 10 f n [] = d :: ds ∧ (d = '0' → n = 0 ∧ ds = []) := by
  induction f generalizing n with
  | zero => omega
  | succ f ih =>
    have hd := digitChar_spec (n % 10) (Nat.mod_lt _ (by decide))
    simp only [Nat.toDigitsCore]
    split
    · rename_i h0
      refine ⟨by simpa using hd.1, ?_, _, _, rfl, fun h => ⟨?_, rfl⟩⟩
      · simp only [digitsValue, List.foldl, Nat.zero_mul, Nat.zero_add, hd.2.1]; omega
      · have := hd.2.2.mp h; omega
    · rename_i h0
      obtain ⟨hdig, hval, d, ds, he, hz⟩ := ih (n / 10) (by omega)
      rw [toDigitsCore_append]
      refine ⟨fun c hc => ?_, ?_, d, ds ++ [_], by rw [he, List.cons_append],
        fun h => absurd (hz h).1 h0⟩
      · rcases List.mem_append.mp hc with hc | hc
        · exact hdig c hc
        · rw [List.mem_singleton.mp hc]; exact hd.1
      · rw [digitsValue, List.foldl_append, ← digitsValue, hval]
        simp only [List.foldl, hd.2.1]
        omega

theorem span_isDigit {ds : List Char} {d : Char} (r : List Char) (hds : ∀ c ∈ ds, c.isDigit)
    (hd : d.isDigit = false) : (ds ++ d :: r).span Char.isDigit = (ds, d :: r) := by
  rw [List.span_eq_take_drop, List.takeWhile_append_of_pos hds, List.dropWhile_append_of_pos hds,
    List.takeWhile_cons_of_neg (by simp [hd]), List.dropWhile_cons_of_neg (by simp [hd]),
    List.append_nil]

/-- `FormatInt(i, 10)` as digits: a sign for a negative `i`, then the digits of `|i|`. -/
theorem number_eq (i : Int) :
    number i = (if i < 0 then ['-'] else []) ++ Nat.toDigitsCore 10 (i.natAbs + 1) i.natAbs [] := by
  cases i with
  | ofNat n => rfl
  | negSucc n => rw [if_pos (Int.negSucc_lt_zero n)]; rfl

/-- A digit is none of the characters the scanner branches on. -/
theorem isDigit_ne {c : Char} (h : c.isDigit) : c ≠ '-' ∧ c ≠ '+' ∧ c ≠ '.' ∧ c ≠ 'e' ∧ c ≠ 'E' ∧
    c ≠ '"' ∧ c ≠ 't' ∧ c ≠ 'f' ∧ c ≠ 'n' ∧ isWs c = false := by
  refine ⟨?_, ?_, ?_, ?_, ?_, ?_, ?_, ?_, ?_, ?_⟩
  any_goals rintro rfl; exact absurd h (by decide)
  cases hw : isWs c
  · rfl
  · simp only [isWs, Bool.or_eq_true, decide_eq_true_eq] at hw
    rcases hw with rfl | rfl | rfl | rfl <;> exact absurd h (by decide)

/-- The scanner reads back the text of every integer, up to a character that cannot
continue a number. -/
theorem numberLit_number (i : Int) {d : Char} (r : List Char)
    (hd : d.isDigit = false ∧ d ≠ '.' ∧ d ≠ 'e' ∧ d ≠ 'E') :
    numberLit (number i ++ d :: r) = some (number i, d :: r) := by
  obtain ⟨hdig, -, c, ds, he, hz⟩ := toDigitsCore_spec (i.natAbs + 1) i.natAbs (by omega)
  have hc := hdig c (he ▸ List.mem_cons_self c ds)
  have hds : ∀ x ∈ ds, x.isDigit := fun x hx => hdig x (he ▸ List.mem_cons_of_mem c hx)
  have hint : intPart (c :: (ds ++ d :: r)) = some (c :: ds, d :: r) := by
    by_cases h0 : c = '0'
    · rw [(hz h0).2, h0]; rfl
    · simp only [intPart, if_neg h0, hc, if_true, span_isDigit r hds hd.1]
  have hfrac : fracPart (d :: r) = some ([], d :: r) := by simp only [fracPart, if_neg hd.2.1]
  have hexp : expPart (d :: r) = some ([], d :: r) := by
    simp only [expPart, if_neg (not_or.mpr hd.2.2)]
  rw [number_eq, he]
  split_ifs
  · simp only [numberLit, List.cons_append, List.nil_append, if_true, hint,
      Option.bind_eq_bind, Option.some_bind, hfrac, hexp, List.append_nil]
  · simp only [numberLit, List.nil_append, List.cons_append, if_neg (isDigit_ne hc).1, hint,
      Option.bind_eq_bind, Option.some_bind, hfrac, hexp, List.append_nil]

/-- `ParseInt` reads back the text of every `int64`. -/
theorem parseInt64_number (i : Int) (h : -int64Max - 1 ≤ i ∧ i ≤ int64Max) :
    parseInt64 (number i) = some i := by
  obtain ⟨hdig, hval, c, ds, he, -⟩ := toDigitsCore_spec (i.natAbs + 1) i.natAbs (by omega)
  have hc := hdig c (he ▸ List.mem_cons_self c ds)
  have hall : (c :: ds).all Char.isDigit := List.all_eq_true.mpr (he ▸ hdig)
  rw [number_eq, he]
  rw [he] at hval
  split_ifs with hi
  · simp only [parseInt64, List.singleton_append, if_true, ne_eq, reduceCtorEq, not_false_eq_true,
      hall, and_self, hval]
    have hn : (i.natAbs : Int) = -i := Int.ofNat_natAbs_of_nonpos (Int.le_of_lt hi)
    rw [hn, if_pos ⟨by omega, by omega⟩, Int.neg_neg]
  · simp only [parseInt64, List.nil_append, if_neg (isDigit_ne hc).1, if_neg (isDigit_ne hc).2.1, ne_eq,
      reduceCtorEq, not_false_eq_true, hall, and_self, hval, if_false, Bool.false_eq_true]
    have hn : (i.natAbs : Int) = i := Int.natAbs_of_nonneg (by omega)
    rw [hn]; exact if_pos h

/-! ## Objects -/

/-- A member value as the decoder reads it: a string's characters, a number's text, a
boolean, or `null`. -/
inductive Scalar where
  | str (chars : List Char)
  | num (literal : List Char)
  | bool (b : Bool)
  | null
  deriving DecidableEq, Repr

def skipWs : List Char → List Char
  | [] => []
  | c :: cs => if isWs c then skipWs cs else c :: cs

/-- A scalar value at the head of `cs`, and what follows it. -/
def scalar : List Char → Option (Scalar × List Char)
  | [] => none
  | c :: cs =>
    if c = '"' then (stringBody cs.length cs).map fun (s, r) => (.str s, r)
    else if c = 't' then if cs.take 3 = ['r', 'u', 'e'] then some (.bool true, cs.drop 3) else none
    else if c = 'f' then if cs.take 4 = ['a', 'l', 's', 'e'] then some (.bool false, cs.drop 4) else none
    else if c = 'n' then if cs.take 3 = ['u', 'l', 'l'] then some (.null, cs.drop 3) else none
    else (numberLit (c :: cs)).map fun (t, r) => (.num t, r)

/-- The next token is the character `c`: what follows it. -/
def expect (c : Char) (cs : List Char) : Option (List Char) :=
  match skipWs cs with
  | d :: rest => if d = c then some rest else none
  | [] => none

/-- The members of an object after its `{`, and what follows its `}`, for at most `fuel`
members. -/
def members : Nat → List Char → Option (List (List Char × Scalar) × List Char)
  | 0, _ => none
  | fuel + 1, cs => do
    let cs ← expect '"' cs
    let (k, cs) ← stringBody cs.length cs
    let cs ← expect ':' cs
    let (v, cs) ← scalar (skipWs cs)
    match skipWs cs with
    | d :: rest =>
      if d = ',' then (members fuel rest).map fun (ms, r) => ((k, v) :: ms, r)
      else if d = '\x7d' then some ([(k, v)], rest)
      else none
    | [] => none

/-- The members of a document that is one object, with only whitespace after it; `null`
decodes as no member, and any other value is an `UnmarshalTypeError`. -/
def objectMembers (text : List Char) : Option (List (List Char × Scalar)) :=
  match skipWs text with
  | c :: cs =>
    if c = '\x7b' then
      match skipWs cs with
      | d :: rest =>
        if d = '\x7d' then if skipWs rest = [] then some [] else none
        else (members cs.length cs).bind fun (ms, r) => if skipWs r = [] then some ms else none
      | [] => none
    else if c = 'n' ∧ cs.take 3 = ['u', 'l', 'l'] ∧ skipWs (cs.drop 3) = [] then some []
    else none
  | [] => none

theorem skipWs_cons {c : Char} (cs : List Char) (h : isWs c = false) : skipWs (c :: cs) = c :: cs := by
  rw [skipWs, if_neg (by simp [h])]

/-- `t` is the text of the scalar `v`: the decoder reads it back before a `,` or a `}`. -/
def ScalarText (t : List Char) (v : Scalar) : Prop :=
  ∀ d r, (d = ',' ∨ d = '\x7d') → scalar (skipWs (t ++ d :: r)) = some (v, d :: r)

theorem escapeChar_ne_nil (c : Char) : escapeChar c ≠ [] := fun h => by
  have := strStep_escapeChar c ['"']
  rw [h] at this
  cases this

theorem length_le_flatMap_escapeChar (cs : List Char) : cs.length ≤ (cs.flatMap escapeChar).length := by
  induction cs with
  | nil => exact Nat.le_refl 0
  | cons c cs ih =>
    have := List.length_pos_of_ne_nil (escapeChar_ne_nil c)
    simp only [List.flatMap_cons, List.length_append, List.length_cons]
    omega

theorem quote_append (s : String) (rest : List Char) :
    quote s ++ rest = '"' :: (s.toList.flatMap escapeChar ++ '"' :: rest) := by
  simp [quote]

theorem scalarText_quote (s : String) : ScalarText (quote s) (.str s.toList) := by
  intro d r _
  have hl := length_le_flatMap_escapeChar s.toList
  rw [quote_append, @skipWs_cons '"' _ rfl, scalar, if_pos rfl,
    stringBody_escaped _ _ _ (by simp only [List.length_append, List.length_cons]; omega)]
  rfl

theorem scalarText_number (i : Int) : ScalarText (number i) (.num (number i)) := by
  intro d r hd
  have hnd : d.isDigit = false ∧ d ≠ '.' ∧ d ≠ 'e' ∧ d ≠ 'E' := by
    rcases hd with rfl | rfl <;> decide
  obtain ⟨hdig, -, c, ds, he, -⟩ := toDigitsCore_spec (i.natAbs + 1) i.natAbs (by omega)
  have hc := isDigit_ne (hdig c (he ▸ List.mem_cons_self c ds))
  have hscalar : ∀ x cs, x ≠ '"' → x ≠ 't' → x ≠ 'f' → x ≠ 'n' → isWs x = false →
      number i ++ d :: r = x :: cs → scalar (skipWs (number i ++ d :: r)) = some (.num (number i), d :: r) := by
    intro x cs h1 h2 h3 h4 h5 hx
    rw [hx, skipWs_cons _ h5, scalar, if_neg h1, if_neg h2, if_neg h3, if_neg h4, ← hx,
      numberLit_number i r hnd]
    rfl
  have hn := number_eq i
  rw [he] at hn
  split_ifs at hn
  · exact hscalar '-' _ (by decide) (by decide) (by decide) (by decide) rfl (by rw [hn]; rfl)
  · exact hscalar c _ hc.2.2.2.2.2.1 hc.2.2.2.2.2.2.1 hc.2.2.2.2.2.2.2.1 hc.2.2.2.2.2.2.2.2.1
      hc.2.2.2.2.2.2.2.2.2 (by rw [hn]; rfl)

theorem field_append (k : String) (t rest : List Char) :
    field k t ++ rest = '"' :: (k.toList.flatMap escapeChar ++ '"' :: ':' :: (t ++ rest)) := by
  simp [field, quote]

/-- One member `"k":t`, then a `,` or the `\x7d` that ends the object. -/
theorem members_field (k : String) {t : List Char} {v : Scalar} (ht : ScalarText t v) (f : Nat)
    {d : Char} (hd : d = ',' ∨ d = '\x7d') (cs : List Char) :
    members (f + 1) (field k t ++ d :: cs) =
      if d = ',' then (members f cs).map fun (ms, r) => ((k.toList, v) :: ms, r)
      else some ([(k.toList, v)], cs) := by
  have hl := length_le_flatMap_escapeChar k.toList
  have hd' : isWs d = false := by rcases hd with rfl | rfl <;> rfl
  rw [members, field_append]
  simp only [expect, @skipWs_cons '"' _ rfl, if_true, Option.bind_eq_bind, Option.some_bind]
  rw [stringBody_escaped _ _ _ (by simp only [List.length_append, List.length_cons]; omega)]
  simp only [Option.some_bind, @skipWs_cons ':' _ rfl, if_true, ht d cs hd, skipWs_cons _ hd']
  rcases hd with rfl | rfl <;> rfl

theorem intercalate_cons_of_ne_nil (sep a : List Char) {l : List (List Char)} (hl : l ≠ []) :
    List.intercalate sep (a :: l) = a ++ (sep ++ List.intercalate sep l) := by
  obtain ⟨b, l, rfl⟩ := List.exists_cons_of_ne_nil hl
  simp [List.intercalate, List.intersperse_cons₂]

/-- A nonempty list of members up to the closing brace. -/
theorem members_fields (kvs : List (String × List Char × Scalar)) (hne : kvs ≠ [])
    (ht : ∀ x ∈ kvs, ScalarText x.2.1 x.2.2) (f : Nat) (hf : kvs.length ≤ f) (rest : List Char) :
    members f (List.intercalate [','] (kvs.map fun x => field x.1 x.2.1) ++ '\x7d' :: rest) =
      some (kvs.map fun x => (x.1.toList, x.2.2), rest) := by
  induction kvs generalizing f with
  | nil => exact absurd rfl hne
  | cons x xs ih =>
    obtain ⟨f, rfl⟩ : ∃ f', f = f' + 1 := ⟨f - 1, by simp at hf; omega⟩
    have hx := ht x (List.mem_cons_self x xs)
    cases xs with
    | nil =>
      rw [List.map_singleton, show List.intercalate [','] [field x.1 x.2.1] = field x.1 x.2.1 from List.append_nil _,
        members_field _ hx _ (.inr rfl), if_neg (by decide)]
      rfl
    | cons y ys =>
      rw [List.map_cons, intercalate_cons_of_ne_nil _ _ (by simp), List.append_assoc, List.append_assoc,
        List.singleton_append, members_field _ hx _ (.inl rfl), if_pos rfl,
        ih (List.cons_ne_nil y ys) (fun z hz => ht z (List.mem_cons_of_mem x hz)) f
          (by simp only [List.length_cons] at hf ⊢; omega)]
      rfl

theorem length_le_intercalate_comma (l : List (List Char)) :
    l.length ≤ (List.intercalate [','] l ++ ['\x7d']).length := by
  induction l with
  | nil => exact Nat.zero_le _
  | cons a l ih =>
    cases l with
    | nil => simp
    | cons b l' =>
      rw [intercalate_cons_of_ne_nil _ _ (List.cons_ne_nil b l')]
      simp only [List.length_append, List.length_cons, List.length_singleton] at ih ⊢
      omega

/-- `Unmarshal`'s view of an object `Marshal` wrote with at least one field. -/
theorem objectMembers_object (kvs : List (String × List Char × Scalar)) (hne : kvs ≠ [])
    (ht : ∀ x ∈ kvs, ScalarText x.2.1 x.2.2) :
    objectMembers (object (kvs.map fun x => field x.1 x.2.1)) =
      some (kvs.map fun x => (x.1.toList, x.2.2)) := by
  have hlen := length_le_intercalate_comma (kvs.map fun x => field x.1 x.2.1)
  rw [List.length_map] at hlen
  obtain ⟨x, xs, rfl⟩ := List.exists_cons_of_ne_nil hne
  obtain ⟨T, hT⟩ : ∃ T, List.intercalate [','] ((x :: xs).map fun x => field x.1 x.2.1) ++ ['\x7d'] =
      '"' :: T := by
    cases xs with
    | nil => exact ⟨_, by rw [List.map_singleton, show List.intercalate [','] [field x.1 x.2.1] =
        field x.1 x.2.1 from List.append_nil _, field_append]⟩
    | cons y ys => exact ⟨_, by rw [List.map_cons, intercalate_cons_of_ne_nil _ _ (by simp),
        List.append_assoc, field_append]⟩
  rw [object, objectMembers, @skipWs_cons '\x7b' _ rfl]
  dsimp only
  rw [if_pos rfl, hT, @skipWs_cons '"' _ rfl]
  dsimp only
  rw [if_neg (by decide), ← hT, members_fields _ hne ht _ hlen []]
  rfl

/-! ## The two records -/

/-- `foldName` on one character: an ASCII letter to upper case, and the two characters
outside ASCII whose case-folding orbit holds an ASCII letter (U+017F and U+212A) to that
letter.  Two keys made of ASCII fold alike exactly when `bytes.EqualFold` says so. -/
def foldChar (c : Char) : Char :=
  if 'a' ≤ c ∧ c ≤ 'z' then Char.ofNat (c.toNat - 32)
  else if c.toNat = 0x17F then 'S'
  else if c.toNat = 0x212A then 'K'
  else c

/-- A member's key names the field whose tag is `name` (an ASCII name): exactly, or after
case folding. -/
def fieldIs (key : List Char) (name : String) : Bool := key.map foldChar = name.toList.map foldChar

/-- A `string` field: a JSON string sets it, `null` leaves it, anything else is an
`UnmarshalTypeError`. -/
def decodeString (old : String) : Scalar → Option String
  | .str s => some (String.mk s)
  | .null => some old
  | _ => none

/-- An `int` or `int64` field: `strconv.ParseInt` of the number's text. -/
def decodeInt (old : Int) : Scalar → Option Int
  | .num t => parseInt64 t
  | .null => some old
  | _ => none

/-- A `[]byte` field, read as the handlers read it, as the text `string(b)`: base64, then
UTF-8; `null` clears it. -/
def decodeBytes : Scalar → Option String
  | .str s => (unbase64 s).bind fun b => (decodeUtf8 b).map String.mk
  | .null => some ""
  | _ => none

/-- The `time.Time` field, as the clock reading `Marshal` wrote. -/
def decodeTime (old : Nat) : Scalar → Option Nat
  | .str s => if s ≠ [] ∧ s.all Char.isDigit then some (digitsValue s) else none
  | .null => some old
  | _ => none

/-- One member of a `PubSubMessage` object. -/
def PubSubMessage.setMember (m : PubSubMessage) (kv : List Char × Scalar) : Option PubSubMessage :=
  if fieldIs kv.1 "from_user_id" then (decodeString m.fromUserID kv.2).map fun v => { m with fromUserID := v }
  else if fieldIs kv.1 "to_user_id" then (decodeString m.toUserID kv.2).map fun v => { m with toUserID := v }
  else if fieldIs kv.1 "content" then (decodeBytes kv.2).map fun v => { m with content := v }
  else if fieldIs kv.1 "msg_type" then (decodeInt m.msgType kv.2).map fun v => { m with msgType := v }
  else if fieldIs kv.1 "seq_id" then (decodeInt m.seqID kv.2).map fun v => { m with seqID := v }
  else some m

/-- `json.Unmarshal` into a `PubSubMessage`, as `receiveLoop` calls it. -/
def PubSubMessage.ofJson (text : List Char) : Option PubSubMessage :=
  (objectMembers text).bind (List.foldlM PubSubMessage.setMember ⟨"", "", "", 0, 0⟩)

/-- One member of an `OfflineMessage` object. -/
def OfflineMessage.setMember (m : OfflineMessage) (kv : List Char × Scalar) : Option OfflineMessage :=
  if fieldIs kv.1 "from_user_id" then (decodeString m.fromUserID kv.2).map fun v => { m with fromUserID := v }
  else if fieldIs kv.1 "to_user_id" then (decodeString m.toUserID kv.2).map fun v => { m with toUserID := v }
  else if fieldIs kv.1 "content" then (decodeBytes kv.2).map fun v => { m with content := v }
  else if fieldIs kv.1 "msg_type" then (decodeInt m.msgType kv.2).map fun v => { m with msgType := v }
  else if fieldIs kv.1 "seq_id" then (decodeInt m.seqID kv.2).map fun v => { m with seqID := v }
  else if fieldIs kv.1 "timestamp" then (decodeTime m.timestamp kv.2).map fun v => { m with timestamp := v }
  else some m

/-- `json.Unmarshal` into an `OfflineMessage`, as `Fetch` and `FetchLatest` call it. -/
def OfflineMessage.ofJson (text : List Char) : Option OfflineMessage :=
  (objectMembers text).bind (List.foldlM OfflineMessage.setMember ⟨"", "", "", 0, 0, 0⟩)

theorem escapeChar_base64 {c : Char} {bs : List UInt8} (h : c ∈ base64 bs) : escapeChar c = [c] := by
  have hd : ∀ k < 64, escapeChar (base64Digit k) = [base64Digit k] := by decide
  rcases mem_base64 h with rfl | ⟨n, rfl⟩
  · rfl
  · rw [← base64Digit_mod]; exact hd _ (Nat.mod_lt _ (by decide))

theorem flatMap_escapeChar_base64 (bs : List UInt8) : (base64 bs).flatMap escapeChar = base64 bs := by
  suffices ∀ l : List Char, (∀ c ∈ l, escapeChar c = [c]) → l.flatMap escapeChar = l from
    this _ fun c hc => escapeChar_base64 hc
  intro l hl
  induction l with
  | nil => rfl
  | cons c l ih =>
    rw [List.flatMap_cons, hl c (List.mem_cons_self c l), ih fun x hx => hl x (List.mem_cons_of_mem c hx)]
    rfl

theorem scalarText_quoteBytes (bs : List UInt8) : ScalarText (quoteBytes bs) (.str (base64 bs)) := by
  have h := scalarText_quote (String.mk (base64 bs))
  rwa [quote, String.toList, flatMap_escapeChar_base64] at h

/-- What `decodeBytes` makes of the base64 of a text's UTF-8. -/
theorem decodeBytes_base64 (s : String) : decodeBytes (.str (base64 s.toUTF8.data.toList)) = some s := by
  simp only [decodeBytes, unbase64_base64, Option.some_bind, decodeUtf8_toUTF8, Option.map_some']

/-- `Unmarshal` reads back every `PubSubMessage` `Publish` wrote, whenever its integers
fit in an `int64`. -/
theorem PubSubMessage.ofJson_toJson (m : PubSubMessage)
    (hm : -int64Max - 1 ≤ m.msgType ∧ m.msgType ≤ int64Max)
    (hs : -int64Max - 1 ≤ m.seqID ∧ m.seqID ≤ int64Max) :
    PubSubMessage.ofJson m.toJson = some m := by
  have hobj : objectMembers m.toJson = some
      [("from_user_id".toList, .str m.fromUserID.toList), ("to_user_id".toList, .str m.toUserID.toList),
        ("content".toList, .str (base64 m.content.toUTF8.data.toList)),
        ("msg_type".toList, .num (number m.msgType)), ("seq_id".toList, .num (number m.seqID))] :=
    objectMembers_object
      [("from_user_id", quote m.fromUserID, .str m.fromUserID.toList),
        ("to_user_id", quote m.toUserID, .str m.toUserID.toList),
        ("content", quoteBytes m.content.toUTF8.data.toList, .str (base64 m.content.toUTF8.data.toList)),
        ("msg_type", number m.msgType, .num (number m.msgType)),
        ("seq_id", number m.seqID, .num (number m.seqID))] (List.cons_ne_nil _ _)
      (by simp only [List.mem_cons, List.mem_singleton, forall_eq_or_imp, forall_eq, List.not_mem_nil,
        scalarText_quote, scalarText_quoteBytes, scalarText_number]; simp)
  simp +decide only [PubSubMessage.ofJson, hobj, Option.some_bind, List.foldlM, PubSubMessage.setMember,
    if_true, if_false, decodeString, decodeInt, decodeBytes_base64, parseInt64_number _ hm,
    parseInt64_number _ hs, Option.map_some', bind, Option.bind]
  rfl

/-- The clock reading `Marshal` writes reads back. -/
theorem decodeTime_toString (old n : Nat) : decodeTime old (.str (toString n).toList) = some n := by
  obtain ⟨hdig, hval, c, ds, he, -⟩ := toDigitsCore_spec (n + 1) n (by omega)
  have hs : (toString n).toList = Nat.toDigitsCore 10 (n + 1) n [] := rfl
  rw [decodeTime, hs, if_pos ⟨by rw [he]; exact List.cons_ne_nil c ds, List.all_eq_true.mpr hdig⟩, hval]

/-- `Unmarshal` reads back every mailbox entry `Store` wrote, whenever its integers fit in
an `int64`. -/
theorem OfflineMessage.ofJson_toJson (m : OfflineMessage)
    (hm : -int64Max - 1 ≤ m.msgType ∧ m.msgType ≤ int64Max)
    (hs : -int64Max - 1 ≤ m.seqID ∧ m.seqID ≤ int64Max) :
    OfflineMessage.ofJson m.toJson = some m := by
  have hobj : objectMembers m.toJson = some
      [("from_user_id".toList, .str m.fromUserID.toList), ("to_user_id".toList, .str m.toUserID.toList),
        ("content".toList, .str (base64 m.content.toUTF8.data.toList)),
        ("msg_type".toList, .num (number m.msgType)), ("seq_id".toList, .num (number m.seqID)),
        ("timestamp".toList, .str (toString m.timestamp).toList)] :=
    objectMembers_object
      [("from_user_id", quote m.fromUserID, .str m.fromUserID.toList),
        ("to_user_id", quote m.toUserID, .str m.toUserID.toList),
        ("content", quoteBytes m.content.toUTF8.data.toList, .str (base64 m.content.toUTF8.data.toList)),
        ("msg_type", number m.msgType, .num (number m.msgType)),
        ("seq_id", number m.seqID, .num (number m.seqID)),
        ("timestamp", quote (toString m.timestamp), .str (toString m.timestamp).toList)] (List.cons_ne_nil _ _)
      (by simp only [List.mem_cons, List.mem_singleton, forall_eq_or_imp, forall_eq, List.not_mem_nil,
        scalarText_quote, scalarText_quoteBytes, scalarText_number]; simp)
  simp +decide only [OfflineMessage.ofJson, hobj, Option.some_bind, List.foldlM, OfflineMessage.setMember,
    if_true, if_false, decodeString, decodeInt, decodeBytes_base64, parseInt64_number _ hm,
    parseInt64_number _ hs, decodeTime_toString, Option.map_some', bind, Option.bind]
  rfl

end GoIm
