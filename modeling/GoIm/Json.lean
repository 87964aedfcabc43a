/-
JSON texts of the service messages, as `encoding/json`'s `Marshal` writes them.

`Marshal` writes a struct's fields in declaration order under their `json` tags, a
string with HTML escaping on (`<`, `>`, `&` become `\u003c`, `\u003e`, `\u0026`), a
`[]byte` as its standard base64 text, and an integer in decimal.

* `ChatMessage`, `PubSubMessage`, `OfflineMessage` — the three message records of
  package `service`, with their texts `ChatMessage.toJson`, `PubSubMessage.toJson`
  and `OfflineMessage.toJson`;
* `authResponseJson` — the body `sendAuthResponse` writes (a map, so its keys sorted).

Design notes: every string that reaches these encoders came out of a JSON decoder
(token claims and request bodies), so it is valid UTF-8 and a Lean `String` holds it
exactly; `encodeState.string`'s replacement of invalid bytes never fires.
The `time.Time` of an offline message is kept as its clock reading and written as a
decimal string; nothing reads it back.
-/
import Mathlib

namespace GoIm

/-! ## Scalars -/

/-- The lowercase hex digit of `n % 16` (`encoding/json`'s `hex` table). -/
def hexDigit (n : Nat) : Char :=
  if n % 16 < 10 then Char.ofNat (48 + n % 16) else Char.ofNat (87 + n % 16)

/-- One character of a JSON string, as `encodeState.string` writes it with
`escapeHTML` set: short escapes for `"`, `\`, `\b`, `\f`, `\n`, `\r`, `\t`, `\u00XX`
for the other control characters and for `<`, `>`, `&`, and `\u2028`, `\u2029` for the
two line separators. -/
def escapeChar (c : Char) : List Char :=
  if c = '"' then ['\\', '"']
  else if c = '\\' then ['\\', '\\']
  else if c = '\n' then ['\\', 'n']
  else if c = '\r' then ['\\', 'r']
  else if c = '\t' then ['\\', 't']
  else if c.toNat = 8 then ['\\', 'b']
  else if c.toNat = 12 then ['\\', 'f']
  else if c.toNat < 32 ∨ c = '<' ∨ c = '>' ∨ c = '&' then
    ['\\', 'u', '0', '0', hexDigit (c.toNat / 16), hexDigit c.toNat]
  else if c.toNat = 0x2028 ∨ c.toNat = 0x2029 then
    ['\\', 'u', '2', '0', '2', hexDigit c.toNat]
  else [c]

/-- A JSON string literal. -/
def quote (s : String) : List Char :=
  '"' :: (s.toList.flatMap escapeChar ++ ['"'])

/-- The six-bit digit alphabet of `base64.StdEncoding`. -/
def base64Digit (n : Nat) : Char :=
  let n := n % 64
  if n < 26 then Char.ofNat (65 + n)
  else if n < 52 then Char.ofNat (71 + n)
  else if n < 62 then Char.ofNat (n - 4)
  else if n = 62 then '+' else '/'

/-- `base64.StdEncoding.EncodeToString`: three bytes to four digits, `=`-padded. -/
def base64 : List UInt8 → List Char
  | [] => []
  | [a] =>
    [base64Digit (a.toNat / 4), base64Digit (a.toNat % 4 * 16), '=', '=']
  | [a, b] =>
    [base64Digit (a.toNat / 4), base64Digit (a.toNat % 4 * 16 + b.toNat / 16),
      base64Digit (b.toNat % 16 * 4), '=']
  | a :: b :: c :: rest =>
    [base64Digit (a.toNat / 4), base64Digit (a.toNat % 4 * 16 + b.toNat / 16),
      base64Digit (b.toNat % 16 * 4 + c.toNat / 64), base64Digit c.toNat] ++ base64 rest

/-- A `[]byte` field: its base64 text, quoted. -/
def quoteBytes (b : List UInt8) : List Char := '"' :: (base64 b ++ ['"'])

/-- An integer field, in decimal. -/
def number (i : Int) : List Char := (toString i).toList

/-- `"key":value`. -/
def field (key : String) (value : List Char) : List Char := quote key ++ ':' :: value

/-- An object from its fields, in the given order. -/
def object (fields : List (List Char)) : List Char :=
  '\x7b' :: (List.intercalate [','] fields ++ ['\x7d'])

/-- Go's `<` on strings: byte-wise on the UTF-8 encoding, which on valid text is the
order of the code points, character by character. -/
def charsLt : List Char → List Char → Bool
  | [], [] => false
  | [], _ :: _ => true
  | _ :: _, [] => false
  | a :: as, b :: bs => decide (a.toNat < b.toNat) || (decide (a = b) && charsLt as bs)

/-- `charsLt` is a strict total order: of two different texts, exactly one is below the
other. -/
theorem charsLt_asymm : ∀ {a b : List Char}, charsLt a b → ¬ charsLt b a
  | [], [], h, _ => by simp [charsLt] at h
  | [], _ :: _, _, h' => by simp [charsLt] at h'
  | _ :: _, [], h, _ => by simp [charsLt] at h
  | x :: as, y :: bs, h, h' => by
    simp only [charsLt, Bool.or_eq_true, decide_eq_true_eq, Bool.and_eq_true] at h h'
    rcases h with h | ⟨rfl, h⟩
    · rcases h' with h' | ⟨rfl, _⟩ <;> omega
    · rcases h' with h' | ⟨-, h'⟩
      · omega
      · exact charsLt_asymm h h'

theorem eq_of_not_charsLt : ∀ {a b : List Char}, ¬ charsLt a b → ¬ charsLt b a → a = b
  | [], [], _, _ => rfl
  | [], _ :: _, h, _ => absurd rfl h
  | _ :: _, [], _, h' => absurd rfl h'
  | x :: as, y :: bs, h, h' => by
    simp only [charsLt, Bool.or_eq_true, decide_eq_true_eq, Bool.and_eq_true, not_or,
      not_and] at h h'
    have hxy : x = y := by
      rw [← Char.ofNat_toNat x, show x.toNat = y.toNat by omega, Char.ofNat_toNat]
    subst hxy
    rw [eq_of_not_charsLt (h.2 rfl) (h'.2 rfl)]

/-! ## Message records of package `service` -/

/-- `MsgTypePrivate`, the only message type the dispatcher sends. -/
def msgTypePrivate : Int := 1

/-- `ChatMessage`: the business-layer message a `Message` frame carries. -/
structure ChatMessage where
  fromUserID : String
  toUserID : String
  content : String
  msgType : Int
  seqID : Int
  timestamp : Int
  deriving DecidableEq, Repr

/-- `PubSubMessage`: the message carried between gateways. -/
structure PubSubMessage where
  fromUserID : String
  toUserID : String
  content : String
  msgType : Int
  seqID : Int
  deriving DecidableEq, Repr

/-- `OfflineMessage`: a mailbox entry; `timestamp` is the clock reading `Store` stamps. -/
structure OfflineMessage where
  fromUserID : String
  toUserID : String
  content : String
  msgType : Int
  seqID : Int
  timestamp : Nat
  deriving DecidableEq, Repr

/-- `json.Marshal` of a `ChatMessage`. -/
def ChatMessage.toJson (m : ChatMessage) : List Char :=
  object [field "from_user_id" (quote m.fromUserID), field "to_user_id" (quote m.toUserID),
    field "content" (quote m.content), field "msg_type" (number m.msgType),
    field "seq_id" (number m.seqID), field "timestamp" (number m.timestamp)]

/-- `json.Marshal` of a `PubSubMessage`; `Content` is a `[]byte`, so base64. -/
def PubSubMessage.toJson (m : PubSubMessage) : List Char :=
  object [field "from_user_id" (quote m.fromUserID), field "to_user_id" (quote m.toUserID),
    field "content" (quoteBytes m.content.toUTF8.data.toList), field "msg_type" (number m.msgType),
    field "seq_id" (number m.seqID)]

/-- `json.Marshal` of an `OfflineMessage`, the text `Store` adds to the mailbox. -/
def OfflineMessage.toJson (m : OfflineMessage) : List Char :=
  object [field "from_user_id" (quote m.fromUserID), field "to_user_id" (quote m.toUserID),
    field "content" (quoteBytes m.content.toUTF8.data.toList), field "msg_type" (number m.msgType),
    field "seq_id" (number m.seqID), field "timestamp" (quote (toString m.timestamp))]

/-- The body of `sendAuthResponse`: a `map[string]interface{}`, whose keys `Marshal`
writes sorted. -/
def authResponseJson (success : Bool) (message : String) : List Char :=
  object [field "message" (quote message), field "success" (toString success).toList]

/-- The UTF-8 length of a JSON text, the length of the frame body that carries it. -/
def byteLength (text : List Char) : Nat := (String.mk text).utf8ByteSize

@[simp] theorem byteLength_nil : byteLength [] = 0 := rfl

@[simp] theorem byteLength_cons (c : Char) (cs : List Char) :
    byteLength (c :: cs) = byteLength cs + c.utf8Size := rfl

@[simp] theorem byteLength_append (a b : List Char) : byteLength (a ++ b) = byteLength a + byteLength b := by
  induction a with
  | nil => simp
  | cons c a ih => simp only [List.cons_append, byteLength_cons, ih]; omega

end GoIm
