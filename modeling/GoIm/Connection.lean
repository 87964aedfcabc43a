/-
A client connection: `Connection` (`server/connection.go`).

The reader goroutine (`handleConnection`) and the writer goroutine (`writeLoop`) share
the connection through two channels: `writeChan`, a queue of at most 256 packed frames,
and `closeChan`, closed once by `Close`.  Go's `select` picks among its ready cases
at random; each such choice is an explicit argument here (`pickClose`).

* `Frame` — what the gateway writes, before `Pack`, with its `protocol.Message`;
* `Conn.send` — `Send`: `Pack`, then enqueue, `ErrClosed`, or drop when full;
  `Conn.send_of_closed`: after `Close` it may still enqueue;
* `Conn.writeStep` — one iteration of `writeLoop`;
* `Conn.close` — `Close`, idempotent.

Design notes: the queue holds frames rather than their packed bytes, which `Pack`
computes from the frame (`Frame.toMessage`).  `Close` closes `closeChan` and the socket
together, so one flag stands for both.
-/
import GoIm.Protocol
import GoIm.Json

namespace GoIm

/-- The UTF-8 bytes of a text. -/
def utf8Bytes (s : String) : List UInt8 := s.toUTF8.data.toList

/-- A frame body carrying a text is as long as the text's UTF-8. -/
theorem length_utf8Bytes (text : List Char) : (utf8Bytes (String.mk text)).length = byteLength text := by
  simp [utf8Bytes, byteLength, ← String.size_toUTF8, ByteArray.size]

/-- The `Kick` body of `sendReconnectInstruction`. -/
def kickBody : String := "\x7b\"reason\":\"server_restart\",\"reconnect\":true\x7d"

/-- A frame the gateway sends: the heartbeat reply, an `AuthAck`, a chat `Message`, or
the `Kick` of a shutdown. -/
inductive Frame where
  | pong
  | authAck (success : Bool) (message : String)
  | chat (m : ChatMessage)
  | kick
  deriving DecidableEq, Repr

/-- The `protocol.Message` a frame is sent as (`Length` and `Version` are `Pack`'s). -/
def Frame.toMessage : Frame → Message
  | .pong => ⟨0, 0, cmdTypeHeartbeat, utf8Bytes "pong"⟩
  | .authAck success message =>
    ⟨0, 0, cmdTypeAuthAck, utf8Bytes (String.mk (authResponseJson success message))⟩
  | .chat m => ⟨0, 0, cmdTypeMessage, utf8Bytes (String.mk m.toJson)⟩
  | .kick => ⟨0, 0, cmdTypeKick, utf8Bytes kickBody⟩

/-- Where `handleConnection`'s loop is: at the `select` on `quit` and `closeChan`,
blocked in `Unpack`, returned (the deferred cleanup still to run), or finished. -/
inductive ReaderPhase where
  | check
  | read
  | exiting
  | done
  deriving DecidableEq, Repr

/-- The capacity of `writeChan`. -/
def writeChanCap : Nat := 256

/-- A connection: `ID`, `UserID`, the two channels, what the socket has carried, and
where its two goroutines are. -/
structure Conn where
  gateway : String
  id : Nat
  userID : String
  writeChan : List Frame
  closed : Bool
  written : List Frame
  reader : ReaderPhase
  writer : Bool
  deriving DecidableEq, Repr

/-- `NewConnection(id, conn)` on gateway `g`, with its `writeLoop` started. -/
def Conn.new (g : String) (id : Nat) : Conn :=
  { gateway := g, id := id, userID := "", writeChan := [], closed := false, written := [],
    reader := .check, writer := true }

/-- What `Send` did: queued the frame or dropped it (both return `nil`), or returned
`net.ErrClosed` or `Pack`'s error. -/
inductive SendResult where
  | queued
  | dropped
  | closed
  | packError (e : ProtoError)
  deriving DecidableEq, Repr

/-- `Send(msg)`: `Pack`, then a `select` with a `default`: enqueue if `writeChan` has
room, `ErrClosed` if `closeChan` is closed, else drop.  When both cases are ready the
runtime picks; `pickClose` is its choice. -/
def Conn.send (c : Conn) (f : Frame) (pickClose : Bool) : Conn × SendResult :=
  match pack f.toMessage with
  | .error e => (c, .packError e)
  | .ok _ =>
    if c.writeChan.length < writeChanCap ∧ ¬(c.closed ∧ pickClose) then
      ({ c with writeChan := c.writeChan ++ [f] }, .queued)
    else if c.closed then (c, .closed)
    else (c, .dropped)

/-- `Close()`: close `closeChan` and the socket, once. -/
def Conn.close (c : Conn) : Conn := { c with closed := true }

/-- One iteration of `writeLoop`: when `closeChan` is closed and a frame is queued the
runtime picks (`pickClose`); a dequeued frame is written unless the write fails
(`fail`, or the socket is closed), which ends the loop through its deferred `Close`.
With nothing ready the loop blocks. -/
def Conn.writeStep (c : Conn) (pickClose fail : Bool) : Conn :=
  if ¬c.writer then c
  else
    match c.writeChan with
    | [] => if c.closed then { c with writer := false } else c
    | f :: rest =>
      if c.closed ∧ pickClose then { c with writer := false }
      else if fail ∨ c.closed then { c with writeChan := rest, writer := false, closed := true }
      else { c with writeChan := rest, written := c.written ++ [f] }

/-! ## The queue discipline -/

/-- `Send` changes the queue only by queueing the frame at its end. -/
theorem Conn.send_writeChan (c : Conn) (f : Frame) (p : Bool) :
    (c.send f p).1.writeChan =
      if (c.send f p).2 = .queued then c.writeChan ++ [f] else c.writeChan := by
  unfold Conn.send
  split
  · rfl
  · split
    · rfl
    · split <;> rfl

/-- `Send` touches nothing but the queue. -/
theorem Conn.send_eq (c : Conn) (f : Frame) (p : Bool) :
    (c.send f p).1 = { c with writeChan := (c.send f p).1.writeChan } := by
  unfold Conn.send
  split
  · rfl
  · split
    · rfl
    · split <;> rfl

@[simp] theorem Conn.send_written (c : Conn) (f : Frame) (p : Bool) :
    (c.send f p).1.written = c.written := by rw [Conn.send_eq]

@[simp] theorem Conn.send_userID (c : Conn) (f : Frame) (p : Bool) :
    (c.send f p).1.userID = c.userID := by rw [Conn.send_eq]

@[simp] theorem Conn.send_closed (c : Conn) (f : Frame) (p : Bool) :
    (c.send f p).1.closed = c.closed := by rw [Conn.send_eq]

@[simp] theorem Conn.send_gateway (c : Conn) (f : Frame) (p : Bool) :
    (c.send f p).1.gateway = c.gateway := by rw [Conn.send_eq]

@[simp] theorem Conn.send_reader (c : Conn) (f : Frame) (p : Bool) :
    (c.send f p).1.reader = c.reader := by rw [Conn.send_eq]

/-- A frame `Pack` refuses is not sent: `Send` returns the error and leaves the
connection as it is. -/
theorem Conn.send_of_pack_error {c : Conn} {f : Frame} {e : ProtoError} (h : pack f.toMessage = .error e)
    (p : Bool) : c.send f p = (c, .packError e) := by
  unfold Conn.send
  rw [h]

/-- `Send` after `Close`, with room in the queue: both `select` cases are ready, and the
runtime may pick `writeChan`, which queues the frame and returns `nil`, or `closeChan`,
which returns `ErrClosed`. -/
theorem Conn.send_of_closed {c : Conn} {f : Frame} {b : List UInt8} (hp : pack f.toMessage = .ok b)
    (hc : c.closed) (hq : c.writeChan.length < writeChanCap) :
    c.send f false = ({ c with writeChan := c.writeChan ++ [f] }, .queued) ∧
      c.send f true = (c, .closed) := by
  simp [Conn.send, hp, hc, hq]

/-- A write step touches the queue, the socket and the writer's state only. -/
theorem Conn.writeStep_eq (c : Conn) (p fail : Bool) :
    c.writeStep p fail =
      { c with
        writeChan := (c.writeStep p fail).writeChan
        closed := (c.writeStep p fail).closed
        written := (c.writeStep p fail).written
        writer := (c.writeStep p fail).writer } := by
  unfold Conn.writeStep
  split
  · rfl
  · split
    · split <;> rfl
    · split
      · rfl
      · split <;> rfl

@[simp] theorem Conn.writeStep_userID (c : Conn) (p fail : Bool) :
    (c.writeStep p fail).userID = c.userID := by rw [Conn.writeStep_eq]

@[simp] theorem Conn.writeStep_gateway (c : Conn) (p fail : Bool) :
    (c.writeStep p fail).gateway = c.gateway := by rw [Conn.writeStep_eq]

@[simp] theorem Conn.writeStep_reader (c : Conn) (p fail : Bool) :
    (c.writeStep p fail).reader = c.reader := by rw [Conn.writeStep_eq]

/-- On a closed connection a write step writes nothing, and the connection stays closed. -/
theorem Conn.writeStep_of_closed (c : Conn) (p fail : Bool) (h : c.closed) :
    (c.writeStep p fail).closed ∧ (c.writeStep p fail).written = c.written := by
  unfold Conn.writeStep
  split
  · exact ⟨h, rfl⟩
  · split <;> simp_all
    split <;> simp

/-- A write step moves the head of the queue to the socket, drops it, or does nothing
to either: what was written followed by what is queued can only lose frames. -/
theorem Conn.writeStep_sublist (c : Conn) (p fail : Bool) :
    ((c.writeStep p fail).written ++ (c.writeStep p fail).writeChan).Sublist
      (c.written ++ c.writeChan) ∧
    c.written.IsPrefix (c.writeStep p fail).written := by
  unfold Conn.writeStep
  split
  · exact ⟨List.Sublist.refl _, List.prefix_refl _⟩
  · cases h : c.writeChan with
    | nil => simp only [h]; split <;> simp [h]
    | cons f rest =>
      simp only [h]
      split
      · simp [h]
      · split
        · exact ⟨by simp [h], List.prefix_refl _⟩
        · exact ⟨by simp [h], List.prefix_append _ _⟩

end GoIm
