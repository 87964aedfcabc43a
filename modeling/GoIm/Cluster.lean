/-
The gateways of a cluster and the runs of their goroutines (`cmd/main.go`,
`server/tcp_server.go`, `service/message.go`, `service/pubsub.go`).

A cluster is the shared store, the gateways (each with its `ConnectionManager`,
its `quit` signal and its pub/sub subscription), the connections, and the
`DeliverOfflineMessages` goroutines not yet run.  A run is any interleaving of the
goroutines' steps (`Event`): a reader's loop-top `select`, a frame `Unpack` returned
and its synchronous dispatch, a `writeLoop` iteration, a pub/sub delivery, an
offline delivery, a shutdown, and time.  Every `select` choice is an argument of its
event.

* `Cluster.sendPrivateMessage` — `SendPrivateMessage` with `deliverLocal`,
  `deliverRemote` and `storeOfflineMessage`;
* `Cluster.handleFrame` — `handleHeartbeat` and `App.HandleConnection`;
* `step`, `run` — the interleaving semantics.

Design notes: the store is reachable throughout (its commands do not fail here; the
directory's own failures are in `Session`).  A client's frames enter already decoded
(`Request`): `json.Unmarshal` either fails or yields the fields, and a client can send
any JSON, so every outcome is possible.  `trace` logs what the gateways did, in order;
only specifications read it.  A handler runs as one step: `SendPrivateMessage` (its `INCR`,
the `GetUserGateway` read, the build and the delivery) and the `Login` pipeline of
`handleAuth` are atomic here, where in Go they are separate Redis round trips that other
goroutines interleave.  Results about order or agreement across goroutines are therefore
stated per Redis command (where an `INCR` number lies, each directory key on its own),
never as an order of whole handlers.
-/
import GoIm.Connection
import GoIm.Registry
import GoIm.Session
import GoIm.Offline

namespace GoIm

/-- A bearer token as `ValidateToken` judges it: signed with `JWTSecret` and unexpired,
with its claims' `UserID`; expired; or malformed or wrongly signed. -/
inductive Token where
  | valid (userID : String)
  | expired
  | invalid
  deriving DecidableEq, Repr

/-- `ValidateToken`: the claims' `UserID`, or the text of `ErrTokenExpired` /
`ErrInvalidToken`. -/
def validateToken : Token → Except String String
  | .valid u => .ok u
  | .expired => .error "token expired"
  | .invalid => .error "invalid token"

/-- A client frame with its body decoded as its handler decodes it: `none` when
`json.Unmarshal` fails; a missing field is the zero value. -/
inductive Request where
  | heartbeat
  | auth (token : Option Token)
  | message (body : Option (String × String))
  | messageAck (seqID : Option Int)
  | other (cmdType : UInt16)
  deriving DecidableEq, Repr

/-- What the gateways did, as specifications read it: a message of connection `origin`
given its sequence number and routed as `msg` (the `ChatMessage` of `SendPrivateMessage`'s
step 3), a frame queued on a connection, a message published to or received from a
gateway's channel, and a connection's `BindUser` to a user. -/
inductive Obs where
  | alloc (origin : Nat) (msg : ChatMessage)
  | enqueue (c : Nat) (f : Frame)
  | publish (g : String) (m : PubSubMessage)
  | receive (g : String) (m : PubSubMessage)
  | bind (c : Nat) (userID : String)
  deriving DecidableEq, Repr

/-- A gateway process: its registry, `quit`, its subscription to
`channel:gateway_<id>`, the payloads delivered to the subscription and not yet handled,
and its connection-ID counter. -/
structure Gateway where
  manager : ConnectionManager
  quit : Bool
  subscribed : Bool
  inbox : List (List Char)
  nextConnID : Nat

/-- A cluster: the store, the gateways by ID, the connections by handle, the pending
`DeliverOfflineMessages` goroutines (connection, user), and the trace. -/
structure Cluster where
  store : Store
  gateways : String → Option Gateway
  conns : Nat → Option Conn
  nextConn : Nat
  tasks : List (Nat × String)
  trace : List Obs

/-- A started cluster: the gateways `gs` subscribed (`App.Start` subscribes before it
listens), nothing connected, an empty store. -/
def Cluster.initial (gs : List String) : Cluster :=
  { store := Store.empty,
    gateways := fun g => if g ∈ gs then
      some { manager := .empty, quit := false, subscribed := true, inbox := [], nextConnID := 0 }
      else none,
    conns := fun _ => none, nextConn := 0, tasks := [], trace := [] }

/-- `getConversationID(user1, user2)`. -/
def getConversationID (user1 user2 : String) : String :=
  if charsLt user1.data user2.data then user1 ++ ":" ++ user2 else user2 ++ ":" ++ user1

namespace Cluster

variable (s : Cluster)

def log (o : Obs) : Cluster := { s with trace := s.trace ++ [o] }

def setConn (ci : Nat) (c : Conn) : Cluster := { s with conns := Function.update s.conns ci (some c) }

def setGateway (g : String) (gw : Gateway) : Cluster :=
  { s with gateways := Function.update s.gateways g (some gw) }

/-- Gateway `g`'s `ConnManager`. -/
def manager (g : String) : ConnectionManager := ((s.gateways g).map (·.manager)).getD .empty

def setManager (g : String) (m : ConnectionManager) : Cluster :=
  match s.gateways g with
  | some gw => s.setGateway g { gw with manager := m }
  | none => s

def setReader (ci : Nat) (p : ReaderPhase) : Cluster :=
  match s.conns ci with
  | some c => s.setConn ci { c with reader := p }
  | none => s

/-- `conn.Send(f)` on connection `ci`. -/
def send (ci : Nat) (f : Frame) (pick : Bool) : Cluster :=
  match s.conns ci with
  | some c =>
    let r := c.send f pick
    let s := s.setConn ci r.1
    if r.2 = .queued then s.log (.enqueue ci f) else s
  | none => s

/-! ### What the basic updates touch -/

@[simp] theorem log_store (o : Obs) : (s.log o).store = s.store := rfl
@[simp] theorem log_gateways (o : Obs) : (s.log o).gateways = s.gateways := rfl
@[simp] theorem log_conns (o : Obs) : (s.log o).conns = s.conns := rfl
@[simp] theorem log_nextConn (o : Obs) : (s.log o).nextConn = s.nextConn := rfl
@[simp] theorem log_tasks (o : Obs) : (s.log o).tasks = s.tasks := rfl
@[simp] theorem log_trace (o : Obs) : (s.log o).trace = s.trace ++ [o] := rfl

@[simp] theorem setConn_store (ci : Nat) (c : Conn) : (s.setConn ci c).store = s.store := rfl
@[simp] theorem setConn_gateways (ci : Nat) (c : Conn) : (s.setConn ci c).gateways = s.gateways :=
  rfl
@[simp] theorem setConn_conns (ci : Nat) (c : Conn) :
    (s.setConn ci c).conns = Function.update s.conns ci (some c) := rfl
@[simp] theorem setConn_nextConn (ci : Nat) (c : Conn) : (s.setConn ci c).nextConn = s.nextConn :=
  rfl
@[simp] theorem setConn_tasks (ci : Nat) (c : Conn) : (s.setConn ci c).tasks = s.tasks := rfl
@[simp] theorem setConn_trace (ci : Nat) (c : Conn) : (s.setConn ci c).trace = s.trace := rfl

@[simp] theorem setGateway_store (g : String) (gw : Gateway) : (s.setGateway g gw).store = s.store :=
  rfl
@[simp] theorem setGateway_gateways (g : String) (gw : Gateway) :
    (s.setGateway g gw).gateways = Function.update s.gateways g (some gw) := rfl
@[simp] theorem setGateway_conns (g : String) (gw : Gateway) : (s.setGateway g gw).conns = s.conns :=
  rfl
@[simp] theorem setGateway_nextConn (g : String) (gw : Gateway) :
    (s.setGateway g gw).nextConn = s.nextConn := rfl
@[simp] theorem setGateway_tasks (g : String) (gw : Gateway) : (s.setGateway g gw).tasks = s.tasks :=
  rfl
@[simp] theorem setGateway_trace (g : String) (gw : Gateway) : (s.setGateway g gw).trace = s.trace :=
  rfl

/-- `setManager` is `setGateway` on a gateway that exists. -/
theorem setManager_eq (g : String) (m : ConnectionManager) :
    s.setManager g m = (match s.gateways g with
      | some gw => s.setGateway g { gw with manager := m }
      | none => s) := rfl

@[simp] theorem setManager_store (g : String) (m : ConnectionManager) :
    (s.setManager g m).store = s.store := by
  rw [setManager_eq]; split <;> rfl
@[simp] theorem setManager_conns (g : String) (m : ConnectionManager) :
    (s.setManager g m).conns = s.conns := by
  rw [setManager_eq]; split <;> rfl
@[simp] theorem setManager_nextConn (g : String) (m : ConnectionManager) :
    (s.setManager g m).nextConn = s.nextConn := by
  rw [setManager_eq]; split <;> rfl
@[simp] theorem setManager_tasks (g : String) (m : ConnectionManager) :
    (s.setManager g m).tasks = s.tasks := by
  rw [setManager_eq]; split <;> rfl
@[simp] theorem setManager_trace (g : String) (m : ConnectionManager) :
    (s.setManager g m).trace = s.trace := by
  rw [setManager_eq]; split <;> rfl

/-- `setReader` rewrites the phase of connection `ci`, if there is one. -/
@[simp] theorem setReader_conns (ci : Nat) (p : ReaderPhase) :
    (s.setReader ci p).conns =
      Function.update s.conns ci ((s.conns ci).map fun c => { c with reader := p }) := by
  unfold setReader
  cases h : s.conns ci with
  | none =>
    funext j
    by_cases hj : j = ci
    · subst hj; simp [h]
    · simp [hj]
  | some c => rfl

@[simp] theorem setReader_store (ci : Nat) (p : ReaderPhase) : (s.setReader ci p).store = s.store := by
  unfold setReader; split <;> rfl
@[simp] theorem setReader_gateways (ci : Nat) (p : ReaderPhase) :
    (s.setReader ci p).gateways = s.gateways := by
  unfold setReader; split <;> rfl
@[simp] theorem setReader_nextConn (ci : Nat) (p : ReaderPhase) :
    (s.setReader ci p).nextConn = s.nextConn := by
  unfold setReader; split <;> rfl
@[simp] theorem setReader_tasks (ci : Nat) (p : ReaderPhase) : (s.setReader ci p).tasks = s.tasks := by
  unfold setReader; split <;> rfl
@[simp] theorem setReader_trace (ci : Nat) (p : ReaderPhase) : (s.setReader ci p).trace = s.trace := by
  unfold setReader; split <;> rfl

/-- `Send` touches the connections and the trace only. -/
theorem send_eq_with (ci : Nat) (f : Frame) (p : Bool) :
    s.send ci f p = { s with conns := (s.send ci f p).conns, trace := (s.send ci f p).trace } := by
  unfold send; split
  · dsimp only; split <;> rfl
  · rfl

@[simp] theorem send_store (ci : Nat) (f : Frame) (p : Bool) : (s.send ci f p).store = s.store :=
  by rw [send_eq_with]
@[simp] theorem send_gateways (ci : Nat) (f : Frame) (p : Bool) :
    (s.send ci f p).gateways = s.gateways := by rw [send_eq_with]
@[simp] theorem send_nextConn (ci : Nat) (f : Frame) (p : Bool) :
    (s.send ci f p).nextConn = s.nextConn := by rw [send_eq_with]
@[simp] theorem send_tasks (ci : Nat) (f : Frame) (p : Bool) : (s.send ci f p).tasks = s.tasks :=
  by rw [send_eq_with]

/-- `storeOfflineMessage(from, to, content, seqID)`: `Store` into `to`'s mailbox. -/
def storeOffline (fromU toU content : String) (seq : Int) : Cluster :=
  { s with store := offlineStore s.store toU ⟨fromU, toU, content, msgTypePrivate, seq, 0⟩ }

/-- `deliverLocal(userID, msg)` on gateway `g`: `Send` to the registered connection,
or `storeOfflineMessage` when there is none. -/
def deliverLocal (g uid : String) (msg : ChatMessage) (pick : Bool) : Cluster :=
  match (s.manager g).getByUserID uid with
  | some ci => s.send ci (.chat msg) pick
  | none => s.storeOffline msg.fromUserID msg.toUserID msg.content msg.seqID

/-- `Publish(target, msg)`: Redis hands the marshalled message to the subscriber of the
target's channel, if there is one, and drops it otherwise. -/
def publish (tg : String) (m : PubSubMessage) : Cluster :=
  match s.gateways tg with
  | some gw =>
    if gw.subscribed then
      (s.setGateway tg { gw with inbox := gw.inbox ++ [m.toJson] }).log (.publish tg m)
    else s
  | none => s

/-- `SendPrivateMessage(from, to, content)` on gateway `g`, for a frame of connection
`origin`: a sequence number, the recipient's gateway, then local delivery, a publish,
or the mailbox. -/
def sendPrivateMessage (g : String) (origin : Nat) (fromU toU content : String)
    (pick : Bool) : Cluster :=
  let conv := getConversationID fromU toU
  match nextSeq s.store conv with
  | none => s
  | some (seq, st) =>
    let msg : ChatMessage := ⟨fromU, toU, content, msgTypePrivate, seq, 0⟩
    let s := ({ s with store := st }).log (.alloc origin msg)
    match getUserGateway s.store toU with
    | none => s.storeOffline fromU toU content seq
    | some tg =>
      if tg = g then s.deliverLocal g toU msg pick
      else s.publish tg ⟨msg.fromUserID, msg.toUserID, msg.content, msg.msgType, msg.seqID⟩

/-- `HandlePubSubMessage(msg)` on gateway `g`. -/
def handlePubSubMessage (g : String) (m : PubSubMessage) (pick : Bool) : Cluster :=
  s.deliverLocal g m.toUserID ⟨m.fromUserID, m.toUserID, m.content, m.msgType, m.seqID, 0⟩ pick

/-- `Send` each frame in turn, with the runtime's choices. -/
def sendAll : Cluster → Nat → List Frame → List Bool → Cluster
  | s, _, [], _ => s
  | s, ci, f :: fs, ps => (s.send ci f (ps.headD false)).sendAll ci fs ps.tail

/-- The `Message` frame `DeliverOfflineMessages` builds for a mailbox entry. -/
def offlineFrame (m : OfflineMessage) : Frame :=
  .chat ⟨m.fromUserID, m.toUserID, m.content, m.msgType, m.seqID, 0⟩

/-- `DeliverOfflineMessages(userID, conn)`: `FetchLatest(userID, 100)`, then `Send`
each, in the order fetched. -/
def deliverOfflineMessages (ci : Nat) (uid : String) (picks : List Bool) : Cluster :=
  s.sendAll ci ((fetchLatest s.store uid 100).map offlineFrame) picks

/-- `handleAuth` on connection `ci` of gateway `g`: on a valid token `BindUser`,
`Login`, a positive `AuthAck`, and `go DeliverOfflineMessages`. -/
def handleAuth (g : String) (ci : Nat) (c : Conn) (tok : Option Token) (pick : Bool) :
    Cluster :=
  match tok.map validateToken with
  | none => s.send ci (.authAck false "Invalid request") pick
  | some (.error e) => s.send ci (.authAck false e) pick
  | some (.ok uid) =>
    let s := ((s.setConn ci { c with userID := uid }).log (.bind ci uid)).setManager g
      ((s.manager g).bindUser uid ci)
    let s := { s with store := (loginCmds g uid c.id s.store.now).foldl Store.exec s.store }
    let s := s.send ci (.authAck true uid) pick
    { s with tasks := s.tasks ++ [(ci, uid)] }

/-- A frame `Unpack` returned on connection `ci`: `handleHeartbeat`, or
`App.HandleConnection` with `handleAuth`, `handleMessage`, `handleMessageAck`. -/
def handleFrame (ci : Nat) (req : Request) (pick : Bool) : Cluster :=
  match s.conns ci with
  | none => s
  | some c =>
    match req with
    | .heartbeat => s.send ci .pong pick
    | .auth tok => s.handleAuth c.gateway ci c tok pick
    | .message body =>
      if c.userID = "" then s
      else
        match body with
        | some (toU, content) => s.sendPrivateMessage c.gateway ci c.userID toU content pick
        | none => s
    | .messageAck seq =>
      if c.userID = "" then s
      else
        match seq with
        | some n => { s with store := offlineRemove s.store c.userID n }
        | none => s
    | .other _ => s

/-! ### What the composite operations touch -/

@[simp] theorem publish_store (tg : String) (m : PubSubMessage) : (s.publish tg m).store = s.store := by
  unfold publish; split
  · split <;> simp
  · rfl

@[simp] theorem sendAll_store : ∀ (s : Cluster) (ci : Nat) (fs : List Frame) (ps : List Bool),
    (s.sendAll ci fs ps).store = s.store
  | _, _, [], _ => rfl
  | s, ci, f :: fs, ps => (sendAll_store _ ci fs ps.tail).trans (send_store s ci f _)

@[simp] theorem deliverOfflineMessages_store (ci : Nat) (uid : String) (ps : List Bool) :
    (s.deliverOfflineMessages ci uid ps).store = s.store := sendAll_store ..


@[simp] theorem storeOffline_nextConn (fromU toU content : String) (seq : Int) :
    (s.storeOffline fromU toU content seq).nextConn = s.nextConn := rfl

@[simp] theorem deliverLocal_nextConn (g uid : String) (msg : ChatMessage) (p : Bool) :
    (s.deliverLocal g uid msg p).nextConn = s.nextConn := by
  unfold deliverLocal; split <;> simp

@[simp] theorem publish_nextConn (tg : String) (m : PubSubMessage) :
    (s.publish tg m).nextConn = s.nextConn := by
  unfold publish; split
  · split <;> simp
  · rfl

@[simp] theorem sendPrivateMessage_nextConn (g : String) (origin : Nat) (fromU toU content : String)
    (p : Bool) : (s.sendPrivateMessage g origin fromU toU content p).nextConn = s.nextConn := by
  unfold sendPrivateMessage; dsimp only; split
  · rfl
  · split
    · rfl
    · split <;> simp

@[simp] theorem sendAll_nextConn : ∀ (s : Cluster) (ci : Nat) (fs : List Frame) (ps : List Bool),
    (s.sendAll ci fs ps).nextConn = s.nextConn
  | _, _, [], _ => rfl
  | s, ci, f :: fs, ps => (sendAll_nextConn _ ci fs ps.tail).trans (send_nextConn s ci f _)

@[simp] theorem handlePubSubMessage_nextConn (g : String) (m : PubSubMessage) (p : Bool) :
    (s.handlePubSubMessage g m p).nextConn = s.nextConn := deliverLocal_nextConn ..

@[simp] theorem deliverOfflineMessages_nextConn (ci : Nat) (uid : String) (ps : List Bool) :
    (s.deliverOfflineMessages ci uid ps).nextConn = s.nextConn := sendAll_nextConn ..

@[simp] theorem handleAuth_nextConn (g : String) (ci : Nat) (c : Conn) (tok : Option Token)
    (p : Bool) : (s.handleAuth g ci c tok p).nextConn = s.nextConn := by
  unfold handleAuth; split <;> simp

@[simp] theorem handleFrame_nextConn (ci : Nat) (req : Request) (p : Bool) :
    (s.handleFrame ci req p).nextConn = s.nextConn := by
  unfold handleFrame
  split
  · rfl
  · cases req with
    | heartbeat => exact send_nextConn ..
    | auth tok => exact handleAuth_nextConn ..
    | message body =>
      dsimp only
      split
      · rfl
      · split
        · exact sendPrivateMessage_nextConn ..
        · rfl
    | messageAck seq =>
      dsimp only
      split
      · rfl
      · split <;> rfl
    | other t => rfl

end Cluster

/-- A step of one goroutine, with the runtime's choices. -/
inductive Event where
  /-- `acceptLoop` accepts a connection on gateway `g` and starts its handler. -/
  | accept (g : String)
  /-- The loop-top `select` of connection `ci`'s handler on `quit` and `closeChan`. -/
  | check (ci : Nat) (pickQuit pickClose : Bool)
  /-- `Unpack` returns a frame on connection `ci`, which is then handled. -/
  | frame (ci : Nat) (req : Request) (pickClose : Bool)
  /-- `Unpack` fails on connection `ci` (end of stream, timeout, closed socket). -/
  | readError (ci : Nat)
  /-- The handler of `ci` has returned; its deferred `Remove` and `Close` run. -/
  | cleanup (ci : Nat)
  /-- An iteration of connection `ci`'s `writeLoop`. -/
  | writeLoop (ci : Nat) (pickClose fail : Bool)
  /-- Gateway `g`'s `receiveLoop` takes the next delivered payload and unmarshals it;
  one that does not decode is skipped. -/
  | receive (g : String) (pickClose : Bool)
  /-- The `i`-th pending `DeliverOfflineMessages` goroutine runs. -/
  | deliverOffline (i : Nat) (picks : List Bool)
  /-- `TCPServer.Stop` on gateway `g` closes `quit` and the listener. -/
  | stop (g : String)
  /-- `PubSubManager.Stop` on gateway `g`. -/
  | stopPubSub (g : String)
  /-- Time passes. -/
  | tick (dt : Nat)
  deriving DecidableEq, Repr

open Cluster in
/-- One step; a step whose goroutine is not at that point leaves the cluster as is. -/
def step (s : Cluster) : Event → Cluster
  | .accept g =>
    match s.gateways g with
    | some gw =>
      if gw.quit then s
      else
        let ci := s.nextConn
        let s := s.setGateway g { gw with nextConnID := gw.nextConnID + 1, manager := gw.manager.add ci }
        { s with conns := Function.update s.conns ci (some (Conn.new g (gw.nextConnID + 1))),
                 nextConn := ci + 1 }
    | none => s
  | .check ci pickQuit pickClose =>
    match s.conns ci with
    | some c =>
      if c.reader ≠ .check then s
      else if ((s.gateways c.gateway).map (·.quit)).getD false ∧ (¬c.closed ∨ pickQuit) then
        (s.send ci .kick pickClose).setReader ci .exiting
      else if c.closed then s.setReader ci .exiting
      else s.setReader ci .read
    | none => s
  | .frame ci req pick =>
    match s.conns ci with
    | some c => if c.reader = .read then (s.setReader ci .check).handleFrame ci req pick else s
    | none => s
  | .readError ci =>
    match s.conns ci with
    | some c => if c.reader = .read then s.setReader ci .exiting else s
    | none => s
  | .cleanup ci =>
    match s.conns ci with
    | some c =>
      if c.reader = .exiting then
        (s.setManager c.gateway ((s.manager c.gateway).remove ci c.userID)).setConn ci
          { c with reader := .done, closed := true }
      else s
    | none => s
  | .writeLoop ci pickClose fail =>
    match s.conns ci with
    | some c => s.setConn ci (c.writeStep pickClose fail)
    | none => s
  | .receive g pick =>
    match s.gateways g with
    | some gw =>
      match gw.inbox with
      | t :: rest =>
        if gw.subscribed then
          let s := s.setGateway g { gw with inbox := rest }
          match PubSubMessage.ofJson t with
          | some m => (s.log (.receive g m)).handlePubSubMessage g m pick
          | none => s
        else s
      | [] => s
    | none => s
  | .deliverOffline i picks =>
    match s.tasks[i]? with
    | some (ci, uid) => ({ s with tasks := s.tasks.eraseIdx i }).deliverOfflineMessages ci uid picks
    | none => s
  | .stop g =>
    match s.gateways g with
    | some gw => s.setGateway g { gw with quit := true }
    | none => s
  | .stopPubSub g =>
    match s.gateways g with
    | some gw => s.setGateway g { gw with subscribed := false, inbox := [] }
    | none => s
  | .tick dt => { s with store := s.store.tick dt }

/-- The events whose step can change the store: a frame's handler, a pub/sub delivery's
`HandlePubSubMessage`, and time. -/
def Event.touchesStore : Event → Bool
  | .frame _ _ _ | .receive _ _ | .tick _ => true
  | _ => false

/-- Every other event leaves the store as it is: it only moves connections, registries,
subscriptions, the pending offline deliveries or the trace. -/
theorem step_store_of_not_touchesStore (s : Cluster) (e : Event) (he : e.touchesStore = false) :
    (step s e).store = s.store := by
  cases e with
  | accept g =>
    simp only [step]
    split
    · split <;> rfl
    · rfl
  | check ci q p =>
    simp only [step]
    split
    · split
      · rfl
      · split
        · simp
        · split <;> simp
    · rfl
  | readError ci =>
    simp only [step]
    split
    · split <;> simp
    · rfl
  | cleanup ci =>
    simp only [step]
    split
    · split <;> simp
    · rfl
  | writeLoop ci p fail => simp only [step]; split <;> rfl
  | deliverOffline i ps => simp only [step]; split <;> simp
  | stop g | stopPubSub g => simp only [step]; split <;> rfl
  | frame _ _ _ | receive _ _ | tick _ => nomatch he

/-- A run: the steps in order. -/
def run (s : Cluster) (evs : List Event) : Cluster := evs.foldl step s

@[simp] theorem run_nil (s : Cluster) : run s [] = s := rfl

@[simp] theorem run_cons (s : Cluster) (e : Event) (evs : List Event) :
    run s (e :: evs) = run (step s e) evs := rfl

/-- The states of a started cluster under some interleaving. -/
inductive Reachable : Cluster → Prop
  | initial (gs : List String) : Reachable (Cluster.initial gs)
  | next {s : Cluster} (e : Event) : Reachable s → Reachable (step s e)

theorem Reachable.run {s : Cluster} (h : Reachable s) (evs : List Event) :
    Reachable (run s evs) := by
  induction evs generalizing s with
  | nil => exact h
  | cons e evs ih => exact ih (h.next e)

end GoIm
