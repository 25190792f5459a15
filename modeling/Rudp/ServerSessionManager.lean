import Rudp.Session

/-!
# The server's sessions

`src/ServerSessionManager.cpp`: one manager owns the sessions of all clients. A session is found by
its endpoint until its handshake completes, and by its `conn_id` from then on.

The hash maps are `Finmap`s, which have no order of their own, so the loops over them take the
order in which the keys are visited as an argument. The two sources of randomness are arguments as
well: the initial sequence number of a new session, and the pairs of words that `allocate_conn_id`
draws. If the draws run out, its loop has not ended, and the operation does not return.
-/

namespace Rudp

structure EndpointKey where
  address : String
  port : U16 := 0
  deriving DecidableEq, Repr

structure OutboundDatagram where
  endpoint : EndpointKey
  bytes : Bytes
  deriving DecidableEq

structure ServerSessionEvent where
  endpoint : EndpointKey
  connId : Option U32
  event : SessionEvent
  deriving DecidableEq

structure ServerSessionManager where
  pendingByEndpoint : Finmap fun _ : EndpointKey => SessionState := ∅
  activeByConnId : Finmap fun _ : U32 => SessionState := ∅
  activeConnIdByEndpoint : Finmap fun _ : EndpointKey => U32 := ∅
  retiredConnIds : Finset U32 := ∅

/-- What `std::random_device` yields for one call. -/
structure Randomness where
  initialSeq : U32
  draws : List (U32 × U32)

namespace ServerSessionManager

def isTerminalState (state : ConnectionState) : Bool := state = .reset || state = .closed

/-! ## Lookups -/

def findPendingSession (m : ServerSessionManager) (endpoint : EndpointKey) :
    Option SessionState := m.pendingByEndpoint.lookup endpoint

def findActiveSession (m : ServerSessionManager) (connId : U32) : Option SessionState :=
  m.activeByConnId.lookup connId

def activeConnId (m : ServerSessionManager) (endpoint : EndpointKey) : Option U32 :=
  m.activeConnIdByEndpoint.lookup endpoint

def hasActiveSession (m : ServerSessionManager) (connId : U32) : Bool :=
  (m.findActiveSession connId).isSome

def isActiveEndpointMatch (m : ServerSessionManager) (endpoint : EndpointKey) (connId : U32) :
    Bool := m.activeConnId endpoint = some connId

def activeStats (m : ServerSessionManager) (connId : U32) : Option SessionStats :=
  (m.findActiveSession connId).map fun session => session.stats

/-! ## Writes through an iterator -/

def setPending (m : ServerSessionManager) (endpoint : EndpointKey) (session : SessionState) :
    ServerSessionManager :=
  { m with pendingByEndpoint := m.pendingByEndpoint.insert endpoint session }

def setActive (m : ServerSessionManager) (connId : U32) (session : SessionState) :
    ServerSessionManager :=
  { m with activeByConnId := m.activeByConnId.insert connId session }

/-! ## Cleanup and promotion -/

def cleanupPendingSession (endpoint : EndpointKey) (m : ServerSessionManager) :
    ServerSessionManager :=
  match m.findPendingSession endpoint with
  | none => m
  | some session =>
    { m with
      retiredConnIds := if session.connId ≠ 0 then insert session.connId m.retiredConnIds
        else m.retiredConnIds
      pendingByEndpoint := m.pendingByEndpoint.erase endpoint }

def cleanupActiveSession (endpoint : EndpointKey) (connId : U32) (m : ServerSessionManager) :
    ServerSessionManager :=
  { m with
    retiredConnIds := if connId ≠ 0 then insert connId m.retiredConnIds else m.retiredConnIds
    activeByConnId := m.activeByConnId.erase connId
    activeConnIdByEndpoint := if m.activeConnId endpoint = some connId then
        m.activeConnIdByEndpoint.erase endpoint
      else m.activeConnIdByEndpoint }

def cleanupPendingIfTerminal (endpoint : EndpointKey) (m : ServerSessionManager) :
    ServerSessionManager :=
  match m.findPendingSession endpoint with
  | none => m
  | some session =>
    if !isTerminalState session.connectionState then m else cleanupPendingSession endpoint m

def cleanupActiveIfTerminal (endpoint : EndpointKey) (connId : U32) (m : ServerSessionManager) :
    ServerSessionManager :=
  match m.findActiveSession connId with
  | none => m
  | some session =>
    if !isTerminalState session.connectionState then m
    else cleanupActiveSession endpoint connId m

def promotePendingSession (endpoint : EndpointKey) (m : ServerSessionManager) :
    ServerSessionManager :=
  match m.findPendingSession endpoint with
  | none => m
  | some session =>
    if session.connId = 0 then m
    else
      { m with
        activeConnIdByEndpoint := m.activeConnIdByEndpoint.insert endpoint session.connId
        activeByConnId := m.activeByConnId.insert session.connId session
        pendingByEndpoint := m.pendingByEndpoint.erase endpoint }

/-! ## Allocation -/

def connIdIsInUse (m : ServerSessionManager) (connId : U32) : Bool :=
  connId = 0 || connId ∈ m.retiredConnIds || (m.findActiveSession connId).isSome ||
    decide (∃ endpoint ∈ m.pendingByEndpoint.keys,
      (m.findPendingSession endpoint).any fun session => session.connId = connId)

/-- The loop of `allocate_conn_id`: the first draw that is not in use. -/
def allocateConnId (draws : List (U32 × U32)) (m : ServerSessionManager) : Option U32 :=
  (draws.map fun (upper, lower) => (upper <<< 16) ^^^ (lower &&& 0xffff)).find?
    fun value => !m.connIdIsInUse value

/-- The session that the returned iterator points to; `none` is `end()`. -/
def ensureSessionForNewPeer (random : Randomness) (endpoint : EndpointKey)
    (m : ServerSessionManager) : Option (Option SessionState × ServerSessionManager) :=
  match m.findPendingSession endpoint with
  | some session => some (some session, m)
  | none =>
    if (m.activeConnId endpoint).isSome then some (none, m)
    else
      let m := m.setPending endpoint (Session.init .server random.initialSeq)
      (allocateConnId random.draws m).map fun connId =>
        let session := Session.assignConnId connId (Session.init .server random.initialSeq)
        (some session, m.setPending endpoint session)

/-! ## Dispatch -/

section Dispatch

variable (transport : TransportSettings)

def tryDispatchActive (endpoint : EndpointKey) (bytes : Bytes) (connId : U32) (nowMs : U64)
    (m : ServerSessionManager) : Bool × ServerSessionManager :=
  match m.findActiveSession connId with
  | none => (false, m)
  | some session =>
    let m := m.setActive connId (Session.onDatagramReceived transport bytes nowMs session)
    (true, cleanupActiveIfTerminal endpoint connId m)

def tryDispatchPending (endpoint : EndpointKey) (bytes : Bytes) (nowMs : U64)
    (m : ServerSessionManager) : Bool × ServerSessionManager :=
  match m.findPendingSession endpoint with
  | none => (false, m)
  | some session =>
    let session := Session.onDatagramReceived transport bytes nowMs session
    let m := m.setPending endpoint session
    if session.connectionState = .established then (true, promotePendingSession endpoint m)
    else (true, cleanupPendingIfTerminal endpoint m)

def routeExistingActive (endpoint : EndpointKey) (bytes : Bytes) (header : Header) (nowMs : U64)
    (m : ServerSessionManager) : Bool × ServerSessionManager :=
  if header.connId = 0 then (false, m)
  else if !m.hasActiveSession header.connId then (false, m)
  else if !m.isActiveEndpointMatch endpoint header.connId then (true, m)
  else tryDispatchActive transport endpoint bytes header.connId nowMs m

def routeExistingPending (endpoint : EndpointKey) (bytes : Bytes) (nowMs : U64)
    (m : ServerSessionManager) : Bool × ServerSessionManager :=
  tryDispatchPending transport endpoint bytes nowMs m

def routeNewPeer (random : Randomness) (endpoint : EndpointKey) (bytes : Bytes) (header : Header)
    (nowMs : U64) (m : ServerSessionManager) : Option (Bool × ServerSessionManager) :=
  if header.connId ≠ 0 then some (false, m)
  else
    (ensureSessionForNewPeer random endpoint m).map fun (session, m) =>
      match session with
      | none => (false, m)
      | some _ => (true, (tryDispatchPending transport endpoint bytes nowMs m).2)

def onDatagramReceived (random : Randomness) (endpoint : EndpointKey) (bytes : Bytes)
    (nowMs : U64) (m : ServerSessionManager) : Option ServerSessionManager :=
  match decode bytes with
  | none => some m
  | some decoded =>
    let (routed, m) := routeExistingActive transport endpoint bytes decoded.header nowMs m
    if routed then some m
    else
      let (routed, m) := routeExistingPending transport endpoint bytes nowMs m
      if routed then some m
      else (routeNewPeer transport random endpoint bytes decoded.header nowMs m).map Prod.snd

/-! ## Polling -/

/-- A loop that polls sessions: what goes out, and which keys are to be cleaned up. -/
structure Collected (κ : Type) where
  manager : ServerSessionManager
  outbound : List OutboundDatagram := []
  toCleanup : List κ := []

/-- What a loop does with the session it polled. -/
def Collected.record {κ : Type} (collected : Collected κ) (endpoint : EndpointKey) (key : κ)
    (bytes : Option Bytes) (state : ConnectionState) (m : ServerSessionManager) : Collected κ :=
  match bytes with
  | some bytes =>
    { collected with manager := m, outbound := collected.outbound ++ [{ endpoint, bytes }] }
  | none =>
    if isTerminalState state then
      { collected with manager := m, toCleanup := collected.toCleanup ++ [key] }
    else { collected with manager := m }

def collectPendingOne (nowMs : U64) (collected : Collected EndpointKey) (endpoint : EndpointKey) :
    Collected EndpointKey :=
  match collected.manager.findPendingSession endpoint with
  | none => collected
  | some session =>
    let (bytes, session) := Session.pollTx transport nowMs session
    collected.record endpoint endpoint bytes session.connectionState
      (collected.manager.setPending endpoint session)

def collectPendingTx (nowMs : U64) (order : List EndpointKey) (m : ServerSessionManager) :
    Collected EndpointKey := order.foldl (collectPendingOne transport nowMs) { manager := m }

def collectActiveOne (nowMs : U64) (collected : Collected (EndpointKey × U32))
    (endpoint : EndpointKey) : Collected (EndpointKey × U32) :=
  match collected.manager.activeConnId endpoint with
  | none => collected
  | some connId =>
    match collected.manager.findActiveSession connId with
    | none => collected
    | some session =>
      let (bytes, session) := Session.pollTx transport nowMs session
      collected.record endpoint (endpoint, connId) bytes session.connectionState
        (collected.manager.setActive connId session)

def collectActiveTx (nowMs : U64) (order : List EndpointKey) (m : ServerSessionManager) :
    Collected (EndpointKey × U32) :=
  order.foldl (collectActiveOne transport nowMs) { manager := m }

def pollTx (pendingOrder activeOrder : List EndpointKey) (nowMs : U64)
    (m : ServerSessionManager) : List OutboundDatagram × ServerSessionManager :=
  let pending := collectPendingTx transport nowMs pendingOrder m
  let active := collectActiveTx transport nowMs activeOrder pending.manager
  let m := pending.toCleanup.foldl (fun m endpoint => cleanupPendingSession endpoint m)
    active.manager
  let m := active.toCleanup.foldl (fun m key => cleanupActiveSession key.1 key.2 m) m
  (pending.outbound ++ active.outbound, m)

end Dispatch

/-! ## The application's side -/

def queueSend (connId channelId : U32) (channelType : ChannelType) (payload : Bytes)
    (m : ServerSessionManager) : Bool × ServerSessionManager :=
  match m.findActiveSession connId with
  | none => (false, m)
  | some session =>
    (true, m.setActive connId (Session.queueSend channelId channelType payload session))

def drainActiveEvents (connId : U32) (m : ServerSessionManager) :
    List SessionEvent × ServerSessionManager :=
  match m.findActiveSession connId with
  | none => ([], m)
  | some session =>
    let (events, session) := Session.drainEvents session
    (events, m.setActive connId session)

def drainPendingOne (drained : List ServerSessionEvent × ServerSessionManager)
    (endpoint : EndpointKey) : List ServerSessionEvent × ServerSessionManager :=
  match drained.2.findPendingSession endpoint with
  | none => drained
  | some session =>
    let (events, session) := Session.drainEvents session
    let connId := if session.connId ≠ 0 then some session.connId else none
    (drained.1 ++ events.map fun event => { endpoint, connId, event },
      drained.2.setPending endpoint session)

def drainActiveOne (drained : List ServerSessionEvent × ServerSessionManager)
    (endpoint : EndpointKey) : List ServerSessionEvent × ServerSessionManager :=
  match drained.2.activeConnId endpoint with
  | none => drained
  | some connId =>
    match drained.2.findActiveSession connId with
    | none => drained
    | some session =>
      let (events, session) := Session.drainEvents session
      (drained.1 ++ events.map fun event => { endpoint, connId := some connId, event },
        drained.2.setActive connId session)

def drainEvents (pendingOrder activeOrder : List EndpointKey) (m : ServerSessionManager) :
    List ServerSessionEvent × ServerSessionManager :=
  activeOrder.foldl drainActiveOne (pendingOrder.foldl drainPendingOne ([], m))

end ServerSessionManager

end Rudp
