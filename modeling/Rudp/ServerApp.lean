import Rudp.Commands
import Rudp.ManagerReports

/-!
# The server's loop

`run_server_app` of `src/BsdServerApp.cpp`. One pass of the loop takes the datagrams that have
arrived, a line that was typed, and polls all sessions; the events go to the log, and from them the
console keeps a list of the connections that a reply can be typed to. What the loop gets from
outside in a pass is a `ServerTurn`: signals, datagrams, lines, the clock, and the orders in which
the hash maps are visited.

The manager has all sessions in common tables, and the console has its own. Still, every endpoint
sees one session at a time, also of what is typed (`server_refines_sessions`), the console lists
what has been reported (`server_console`), and the log says it (`server_announces`).
-/

namespace Rudp

open Utils Config Session ServerSessionManager

namespace Runtime

/-! ## The state -/

/-- What has been received and sent, what has been reported, and the replies that `queue_send` has
taken. -/
structure ServerTraffic where
  received : List OutboundDatagram := []
  sent : List OutboundDatagram := []
  reported : List ServerSessionEvent := []
  replies : List (U32 × SendRequest) := []

def ServerTraffic.add (t new : ServerTraffic) : ServerTraffic where
  received := t.received ++ new.received
  sent := t.sent ++ new.sent
  reported := t.reported ++ new.reported
  replies := t.replies ++ new.replies

/-- The loop's variables, what has been logged, and the traffic so far; `calls` are the operations of
the manager that the loop has called, and `owners` the identifiers that the manager has allocated,
and for whom. `shouldExit` is also set when the loop is left by a `break`. -/
structure ServerApp where
  server : ServerRun := {}
  preferredConnId : Option U32 := none
  activeEndpoints : Finmap fun _ : U32 => EndpointKey := ∅
  stdinEnabled : Bool
  shouldExit : Bool := false
  log : List Text := []
  traffic : ServerTraffic := {}
  calls : List ManagerOp := []
  owners : List (EndpointKey × U32) := []

/-- The orders in which a loop visits the manager's tables. -/
structure TableOrder where
  pending : List EndpointKey := []
  active : List EndpointKey := []

/-- A datagram, what the manager draws at random for it, and the orders of the drain after it. -/
structure ServerDatagram where
  datagram : OutboundDatagram
  nowMs : U64
  random : Randomness := ⟨0, []⟩
  drainOrder : TableOrder := {}

/-- What the loop gets from outside in one pass. -/
structure ServerTurn where
  stopRequested : Bool := false
  selectFailed : Bool := false
  received : List ServerDatagram := []
  /-- Nothing to read, the end of the input, or a line. -/
  stdin : Option (Option Text) := none
  /-- The input ends with this line. -/
  lastLine : Bool := false
  listOrder : List U32 := []
  nowMs : U64 := 0
  pollOrder : TableOrder := {}
  drainOrder : TableOrder := {}

def endpointText (endpoint : EndpointKey) : Text :=
  endpoint.address.toList ++ ":".toList ++ toDecimal endpoint.port.toNat

/-- The events after which the console drops the connection from its list. -/
def endsListing : SessionEvent.Kind → Bool
  | .connectionReset | .connectionClosed | .error => true
  | .dataReceived | .connected => false

namespace ServerApp

def logLine (line : Text) (app : ServerApp) : ServerApp := { app with log := app.log ++ [line] }

/-- One operation of the manager. An order that is not one of the tables is none of its loops. -/
def call (transport : TransportSettings) (op : ManagerOp) (app : ServerApp) : Option ServerApp :=
  if op.Orderly app.server.manager then
    (app.server.step transport op).map fun server =>
      { app with
        server
        calls := app.calls ++ [op]
        owners := app.owners ++ op.allocates app.server.manager }
  else none

/-! ## Events -/

/-- The body of the loop of `drain_server_events`. -/
def noteEvent (app : ServerApp) (wrapped : ServerSessionEvent) : ServerApp :=
  let linePrefix := "[server] endpoint=".toList ++ endpointText wrapped.endpoint
  let app := { app with traffic := app.traffic.add { reported := [wrapped] } }
  match wrapped.connId with
  | none => app.logLine (formatSessionEvent linePrefix wrapped.event)
  | some connId =>
    let app :=
      { app with
        preferredConnId := some connId
        activeEndpoints := app.activeEndpoints.insert connId wrapped.endpoint }
    let app := app.logLine <|
      formatSessionEvent (linePrefix ++ " conn_id=".toList ++ toDecimal connId.toNat)
          wrapped.event ++
        (app.server.manager.activeStats connId).elim [] formatSessionStats
    if endsListing wrapped.event.kind then
      { app with
        activeEndpoints := app.activeEndpoints.erase connId
        preferredConnId := if app.preferredConnId = some connId then none
          else app.preferredConnId }
    else app

def drainServerEvents (transport : TransportSettings) (order : TableOrder) (app : ServerApp) :
    Option ServerApp :=
  (app.call transport (.drainEvents order.pending order.active)).map fun drained =>
    (app.server.manager.drainEvents order.pending order.active).1.foldl noteEvent drained

/-! ## Commands -/

def logSessions (order : List U32) (app : ServerApp) : ServerApp :=
  if app.activeEndpoints = ∅ then app.logLine "[server] no active sessions".toList
  else
    order.foldl (fun app connId =>
      match app.activeEndpoints.lookup connId with
      | none => app
      | some endpoint =>
        app.logLine ("[server] active conn_id=".toList ++ toDecimal connId.toNat ++
          " endpoint=".toList ++ endpointText endpoint)) app

def reply (transport : TransportSettings) (command : ServerSendCommand) (app : ServerApp) :
    Option ServerApp :=
  let request : SendRequest :=
    { channelId := command.channel.id
      channelType := command.channel.type
      payload := bytesOf command.payload }
  let queued := (app.server.manager.queueSend command.connId request.channelId request.channelType
    request.payload).1
  (app.call transport (.queueSend command.connId request.channelId request.channelType
    request.payload)).map fun app =>
      if queued then
        { app with traffic := app.traffic.add { replies := [(command.connId, request)] } }
      else app.logLine ("[server] unknown active conn_id=".toList ++ toDecimal command.connId.toNat)

def handleServerStdin (profile : RuntimeProfile) (transport : TransportSettings)
    (input : Option Text) (order : List U32) (app : ServerApp) : Option ServerApp :=
  match input with
  | none => some { app with shouldExit := true }
  | some line =>
    if line = "/quit".toList then some { app with shouldExit := true }
    else if line = "/sessions".toList then some (app.logSessions order)
    else if line = "/channels".toList then
      some { app with log := app.log ++ logChannels "[server]".toList profile }
    else
      match parseServerSendCommand profile line app.preferredConnId with
      | none =>
        some <| app.logLine <| "[server] unable to resolve target session; use: ".toList ++
          "send <conn_id> <channel> <message>".toList
      | some command => app.reply transport command

/-! ## One pass -/

def receiveOne (transport : TransportSettings) (app : ServerApp) (arrival : ServerDatagram) :
    Option ServerApp := do
  let app ← app.call transport (.onDatagramReceived arrival.random arrival.datagram.endpoint
    arrival.datagram.bytes arrival.nowMs)
  drainServerEvents transport arrival.drainOrder
    { app with traffic := app.traffic.add { received := [arrival.datagram] } }

/-- The input is not read again after its end. -/
def readStdin (profile : RuntimeProfile) (transport : TransportSettings) (turn : ServerTurn)
    (app : ServerApp) : Option ServerApp :=
  match turn.stdin with
  | none => some app
  | some input =>
    if app.stdinEnabled then
      (handleServerStdin profile transport input turn.listOrder app).map fun app =>
        { app with stdinEnabled := input.isSome && !turn.lastLine }
    else some app

def pollAll (transport : TransportSettings) (order : TableOrder) (nowMs : U64) (app : ServerApp) :
    Option ServerApp :=
  (app.call transport (.pollTx order.pending order.active nowMs)).map fun polled =>
    { polled with
      traffic := polled.traffic.add
        { sent := (app.server.manager.pollTx transport order.pending order.active nowMs).1 } }

/-- One pass. Once the loop has been left, nothing happens. -/
def turn (profile : RuntimeProfile) (transport : TransportSettings) (app : ServerApp)
    (turn : ServerTurn) : Option ServerApp :=
  if app.shouldExit then some app
  else if turn.stopRequested || turn.selectFailed then some { app with shouldExit := true }
  else do
    let app ← turn.received.foldlM (receiveOne transport) app
    let app ← app.readStdin profile transport turn
    let app ← app.pollAll transport turn.pollOrder turn.nowMs
    app.drainServerEvents transport turn.drainOrder

/-- What stands before the loop. `isInteractive` is `isatty(STDIN_FILENO)`. -/
def start (profile : RuntimeProfile) (isInteractive : Bool) : ServerApp where
  stdinEnabled := isInteractive
  log :=
    ["server listening on ".toList ++ profile.bindAddress ++ ":".toList ++
        toDecimal profile.bindPort.toNat,
      if isInteractive then
        "type a line to send on the default channel, or use: ".toList ++
          "send <conn_id> <channel> <message>, /channels".toList
      else "[server] stdin is not interactive; runtime commands disabled".toList]

/-- What stands behind the loop. -/
def logServerSummaries (order : List U32) (app : ServerApp) : ServerApp :=
  if app.activeEndpoints = ∅ then app.logLine "[server] summary no-active-sessions".toList
  else
    order.foldl (fun app connId =>
      match app.activeEndpoints.lookup connId, app.server.manager.activeStats connId with
      | some endpoint, some stats =>
        app.logLine <| formatSessionSummary
          ("[server] endpoint=".toList ++ endpointText endpoint ++ " conn_id=".toList ++
            toDecimal connId.toNat) stats
      | _, _ => app) app

end ServerApp

/-! ## What an endpoint sees -/

/-- The datagrams of the endpoint. -/
def bytesAt (endpoint : EndpointKey) (datagrams : List OutboundDatagram) : List Bytes :=
  (datagrams.filter fun datagram => datagram.endpoint = endpoint).map OutboundDatagram.bytes

/-- What has been seen at the endpoint is its part of the traffic: of the replies, those to an
identifier that was allocated for it. -/
structure SeenAt (owners : List (EndpointKey × U32)) (endpoint : EndpointKey) (t : ServerTraffic)
    (actions : List SeatAction) : Prop where
  received : actions.filterMap SeatAction.arrivedBytes = bytesAt endpoint t.received
  sent : actions.filterMap SeatAction.sentBytes = bytesAt endpoint t.sent
  reported : actions.filterMap SeatAction.reportedEvent =
    (t.reported.filter fun wrapped => wrapped.endpoint = endpoint).map ServerSessionEvent.event
  replies : actions.filterMap SeatAction.queuedRequest =
    (t.replies.filter fun reply => (endpoint, reply.1) ∈ owners).map Prod.snd

/-- Every event is reported, and every reply is typed, under an identifier that was allocated; the
event for the endpoint that it is reported for. -/
structure ServerTraffic.Owned (t : ServerTraffic) (owners : List (EndpointKey × U32)) : Prop where
  reported : ∀ wrapped ∈ t.reported, ∃ connId, wrapped.connId = some connId ∧
    (wrapped.endpoint, connId) ∈ owners
  replies : ∀ reply ∈ t.replies, ∃ endpoint, (endpoint, reply.1) ∈ owners

section Traffic

variable {owners owners' : List (EndpointKey × U32)} {endpoint : EndpointKey}
  {t t' : ServerTraffic} {actions actions' : List SeatAction} {p : Prop}

theorem SeenAt.add (h : SeenAt owners endpoint t actions)
    (h' : SeenAt owners endpoint t' actions') :
    SeenAt owners endpoint (t.add t') (actions ++ actions') := by
  constructor
  · rw [List.filterMap_append, h.received, h'.received]
    simp only [bytesAt, ServerTraffic.add, List.filter_append, List.map_append]
  · rw [List.filterMap_append, h.sent, h'.sent]
    simp only [bytesAt, ServerTraffic.add, List.filter_append, List.map_append]
  · rw [List.filterMap_append, h.reported, h'.reported]
    simp only [ServerTraffic.add, List.filter_append, List.map_append]
  · rw [List.filterMap_append, h.replies, h'.replies]
    simp only [ServerTraffic.add, List.filter_append, List.map_append]

theorem ServerTraffic.add_empty (t : ServerTraffic) : t.add {} = t := by
  simp only [add, List.append_nil]

theorem ServerTraffic.Owned.add (h : t.Owned owners) (h' : t'.Owned owners) :
    (t.add t').Owned owners := by
  constructor
  · intro wrapped hmem
    rcases List.mem_append.1 hmem with hold | hnew
    · exact h.reported wrapped hold
    · exact h'.reported wrapped hnew
  · intro reply hmem
    rcases List.mem_append.1 hmem with hold | hnew
    · exact h.replies reply hold
    · exact h'.replies reply hnew

theorem ServerTraffic.Owned.mono (h : t.Owned owners) (hsub : owners ⊆ owners') :
    t.Owned owners' := by
  constructor
  · intro wrapped hmem
    obtain ⟨connId, hconnId, howned⟩ := h.reported wrapped hmem
    exact ⟨connId, hconnId, hsub howned⟩
  · intro reply hmem
    obtain ⟨endpoint, howned⟩ := h.replies reply hmem
    exact ⟨endpoint, hsub howned⟩

/-- Traffic without events and replies. -/
theorem ServerTraffic.owned_of_quiet (hreported : t.reported = []) (hreplies : t.replies = []) :
    t.Owned owners := by
  constructor
  · rw [hreported]
    exact fun _ hmem => absurd hmem List.not_mem_nil
  · rw [hreplies]
    exact fun _ hmem => absurd hmem List.not_mem_nil

/-- Actions of one kind, seen as such. -/
theorem filterMap_map_eq {α β γ : Type} {f : β → Option γ} {g : α → β} {k : α → γ}
    (h : ∀ a, f (g a) = some (k a)) (l : List α) : (l.map g).filterMap f = l.map k := by
  rw [List.filterMap_map, show f ∘ g = fun a => some (k a) from funext h, List.filterMap_eq_map']

/-- Actions of another kind. -/
theorem filterMap_map_nil {α β γ : Type} {f : β → Option γ} {g : α → β}
    (h : ∀ a, f (g a) = none) (l : List α) : (l.map g).filterMap f = [] := by
  rw [List.filterMap_map]
  exact List.filterMap_eq_nil_iff.2 fun a _ => h a

theorem seenAt_reported (owners : List (EndpointKey × U32)) (endpoint : EndpointKey)
    (events : List ServerSessionEvent) :
    SeenAt owners endpoint { reported := events }
      ((events.filter fun wrapped => wrapped.endpoint = endpoint).map fun wrapped =>
        .reported wrapped.event) where
  received := filterMap_map_nil (fun _ => rfl) _
  sent := filterMap_map_nil (fun _ => rfl) _
  reported := filterMap_map_eq (f := SeatAction.reportedEvent) (fun _ => rfl) _
  replies := filterMap_map_nil (fun _ => rfl) _

theorem seenAt_sent (owners : List (EndpointKey × U32)) (endpoint : EndpointKey)
    (datagrams : List OutboundDatagram) :
    SeenAt owners endpoint { sent := datagrams }
      ((datagrams.filter fun datagram => datagram.endpoint = endpoint).map fun datagram =>
        .sent datagram.bytes) where
  received := filterMap_map_nil (fun _ => rfl) _
  sent := filterMap_map_eq (f := SeatAction.sentBytes) (fun _ => rfl) _
  reported := filterMap_map_nil (fun _ => rfl) _
  replies := filterMap_map_nil (fun _ => rfl) _

theorem seenAt_received (owners : List (EndpointKey × U32)) (endpoint : EndpointKey)
    (datagram : OutboundDatagram) (nowMs : U64) :
    SeenAt owners endpoint { received := [datagram] }
      (if datagram.endpoint = endpoint then [.arrived datagram.bytes nowMs] else []) := by
  split_ifs with heq
  · refine ⟨?_, rfl, rfl, rfl⟩
    simp [bytesAt, heq, SeatAction.arrivedBytes]
  · refine ⟨?_, rfl, rfl, rfl⟩
    simp [bytesAt, heq]

theorem seenAt_reply {connId : U32} [Decidable p] (howned : (endpoint, connId) ∈ owners ↔ p)
    (request : SendRequest) : SeenAt owners endpoint { replies := [(connId, request)] }
      (if p then [.queued request] else []) := by
  split_ifs with heq
  · refine ⟨rfl, rfl, rfl, ?_⟩
    simp [howned.2 heq, SeatAction.queuedRequest]
  · refine ⟨rfl, rfl, rfl, ?_⟩
    simp [mt howned.1 heq]

/-- An identifier that was allocated once has one owner. -/
theorem owner_unique (hnodup : (owners.map Prod.snd).Nodup) {e e' : EndpointKey} {c : U32}
    (h : (e, c) ∈ owners) (h' : (e', c) ∈ owners) : e = e' :=
  congrArg Prod.fst (List.inj_on_of_nodup_map hnodup h h' rfl)

/-- What is allocated later changes nothing about the replies so far. -/
theorem SeenAt.mono (h : SeenAt owners endpoint t actions) (howned : t.Owned owners)
    (hnodup : (owners'.map Prod.snd).Nodup) (hsub : owners ⊆ owners') :
    SeenAt owners' endpoint t actions := by
  refine ⟨h.received, h.sent, h.reported, h.replies.trans (congrArg _ ?_)⟩
  refine List.filter_congr fun reply hreply => decide_eq_decide.2 ⟨fun hmem => hsub hmem, ?_⟩
  intro hmem
  obtain ⟨e, he⟩ := howned.replies reply hreply
  obtain rfl := owner_unique hnodup (hsub he) hmem
  exact he

end Traffic

/-! ## What the console lists -/

/-- Where the console lists the connection, by the events reported so far. -/
def listing (reported : List ServerSessionEvent) (connId : U32) : Option EndpointKey :=
  ((reported.filter fun wrapped => wrapped.connId = some connId).getLast?).bind fun wrapped =>
    if endsListing wrapped.event.kind then none else some wrapped.endpoint

/-- The connection that was heard of last. -/
def lastListed (reported : List ServerSessionEvent) : Option U32 :=
  reported.getLast?.bind fun wrapped =>
    if endsListing wrapped.event.kind then none else wrapped.connId

/-- The line is written for this event of the connection. The counters of the session stand behind
it, if it was still active. -/
def IsEventLine (endpoint : EndpointKey) (connId : U32) (event : SessionEvent) (line : Text) :
    Prop :=
  ∃ stats : Option SessionStats, line =
    formatSessionEvent ("[server] endpoint=".toList ++ endpointText endpoint ++
      " conn_id=".toList ++ toDecimal connId.toNat) event ++ stats.elim [] formatSessionStats

/-- The line is written for what is reported. -/
def WrittenAs (wrapped : ServerSessionEvent) (line : Text) : Prop :=
  ∀ connId, wrapped.connId = some connId → IsEventLine wrapped.endpoint connId wrapped.event line

/-- The console's variables say what the events say, and the log has a line for each of them, in
their order. -/
structure Lists (app : ServerApp) : Prop where
  listed : ∀ connId, app.activeEndpoints.lookup connId = listing app.traffic.reported connId
  preferred : app.preferredConnId = lastListed app.traffic.reported
  written : List.SublistForall₂ WrittenAs app.traffic.reported app.log

section Written

variable {α β γ : Type} {R : α → β → Prop} {S : γ → β → Prop} {l l' : List α} {log log' : List β}

theorem sublistForall₂_append (h : List.SublistForall₂ R l log)
    (h' : List.SublistForall₂ R l' log') : List.SublistForall₂ R (l ++ l') (log ++ log') := by
  obtain ⟨lines, hlines, hlog⟩ := List.sublistForall₂_iff.1 h
  obtain ⟨lines', hlines', hlog'⟩ := List.sublistForall₂_iff.1 h'
  exact List.sublistForall₂_iff.2
    ⟨lines ++ lines', List.rel_append hlines hlines', hlog.append hlog'⟩

/-- What is written for all is written for some. -/
theorem sublistForall₂_map_of_sublist (h : List.SublistForall₂ R l log) (hsub : l'.Sublist l)
    {f : α → γ} (hS : ∀ a ∈ l', ∀ b, R a b → S (f a) b) : List.SublistForall₂ S (l'.map f) log := by
  induction h generalizing l' with
  | nil =>
    rw [List.sublist_nil.1 hsub]
    exact .nil
  | cons hab _ ih =>
    cases hsub with
    | cons _ hsub => exact (ih hsub hS).cons_right
    | cons_cons _ hsub =>
      exact .cons (hS _ List.mem_cons_self _ hab)
        (ih hsub fun a ha => hS a (List.mem_cons_of_mem _ ha))
  | cons_right _ ih => exact (ih hsub hS).cons_right

end Written

section Console

variable {app : ServerApp} {wrapped : ServerSessionEvent} {events : List ServerSessionEvent}
  {connId : U32}

theorem listing_concat (reported : List ServerSessionEvent)
    (hwrapped : wrapped.connId = some connId) (c : U32) : listing (reported ++ [wrapped]) c =
      if c = connId then if endsListing wrapped.event.kind then none else some wrapped.endpoint
      else listing reported c := by
  rw [listing, List.filter_append]
  split_ifs with hc hends
  · have hsame : wrapped.connId = some c := hwrapped.trans (congrArg some hc.symm)
    simp [hsame, hends]
  · have hsame : wrapped.connId = some c := hwrapped.trans (congrArg some hc.symm)
    simp [hsame, hends]
  · have hother : wrapped.connId ≠ some c := by
      rw [hwrapped]
      exact fun heq => hc (Option.some.inj heq).symm
    simp [hother, listing]

theorem ServerApp.noteEvent_frame (app : ServerApp) (wrapped : ServerSessionEvent) :
    (app.noteEvent wrapped).server = app.server ∧ (app.noteEvent wrapped).owners = app.owners ∧
      (app.noteEvent wrapped).traffic = app.traffic.add { reported := [wrapped] } ∧
      (app.noteEvent wrapped).calls = app.calls := by
  rw [noteEvent]
  cases wrapped.connId with
  | none => exact ⟨rfl, rfl, rfl, rfl⟩
  | some connId =>
    simp only
    split_ifs <;> exact ⟨rfl, rfl, rfl, rfl⟩

/-- An event is written to the log. -/
theorem ServerApp.noteEvent_log (app : ServerApp) (wrapped : ServerSessionEvent) :
    ∃ line, (app.noteEvent wrapped).log = app.log ++ [line] ∧ WrittenAs wrapped line := by
  rw [noteEvent]
  cases hwrapped : wrapped.connId with
  | none => exact ⟨_, rfl, fun connId heq => nomatch hwrapped.symm.trans heq⟩
  | some connId =>
    have hline : ∀ stats : Option SessionStats, WrittenAs wrapped
        (formatSessionEvent ("[server] endpoint=".toList ++ endpointText wrapped.endpoint ++
          " conn_id=".toList ++ toDecimal connId.toNat) wrapped.event ++
          stats.elim [] formatSessionStats) := by
      intro stats connId' heq
      obtain rfl := Option.some.inj (hwrapped.symm.trans heq)
      exact ⟨stats, rfl⟩
    simp only
    split_ifs <;> exact ⟨_, rfl, hline _⟩

theorem ServerApp.noteEvent_variables (app : ServerApp) (hwrapped : wrapped.connId = some connId) :
    (app.noteEvent wrapped).activeEndpoints =
        (if endsListing wrapped.event.kind then
          (app.activeEndpoints.insert connId wrapped.endpoint).erase connId
        else app.activeEndpoints.insert connId wrapped.endpoint) ∧
      (app.noteEvent wrapped).preferredConnId =
        if endsListing wrapped.event.kind then none else some connId := by
  rw [noteEvent, hwrapped]
  cases endsListing wrapped.event.kind with
  | true => exact ⟨rfl, if_pos rfl⟩
  | false => exact ⟨rfl, rfl⟩

theorem Lists.noteEvent (h : Lists app) (hwrapped : wrapped.connId = some connId) :
    Lists (app.noteEvent wrapped) := by
  obtain ⟨hlisted, hpreferred⟩ := app.noteEvent_variables hwrapped
  have htraffic := (app.noteEvent_frame wrapped).2.2.1
  refine ⟨?_, ?_, ?_⟩
  · intro c
    rw [hlisted, htraffic, ServerTraffic.add, listing_concat _ hwrapped]
    split_ifs with hends hc hc
    · rw [hc]
      exact Finmap.lookup_erase connId _
    · rw [← h.listed c, Finmap.lookup_erase_ne hc, Finmap.lookup_insert_of_ne _ hc]
    · rw [hc]
      exact Finmap.lookup_insert _
    · rw [← h.listed c, Finmap.lookup_insert_of_ne _ hc]
  · rw [hpreferred, htraffic, ServerTraffic.add, lastListed, List.getLast?_concat, Option.bind_some,
      hwrapped]
  · obtain ⟨line, hlog, hline⟩ := app.noteEvent_log wrapped
    rw [hlog, htraffic]
    exact sublistForall₂_append h.written (.cons hline .nil)

theorem Lists.noteEvents (h : Lists app)
    (hevents : ∀ wrapped ∈ events, ∃ connId, wrapped.connId = some connId) :
    Lists (events.foldl ServerApp.noteEvent app) := by
  induction events generalizing app with
  | nil => exact h
  | cons wrapped events ih =>
    obtain ⟨connId, hwrapped⟩ := hevents wrapped List.mem_cons_self
    exact ih (h.noteEvent hwrapped) fun w hw => hevents w (List.mem_cons_of_mem wrapped hw)

theorem ServerApp.noteEvents_frame (app : ServerApp) (events : List ServerSessionEvent) :
    (events.foldl noteEvent app).server = app.server ∧
      (events.foldl noteEvent app).owners = app.owners ∧
      (events.foldl noteEvent app).traffic = app.traffic.add { reported := events } ∧
      (events.foldl noteEvent app).calls = app.calls := by
  induction events generalizing app with
  | nil =>
    refine ⟨rfl, rfl, ?_, rfl⟩
    simp only [ServerTraffic.add, List.append_nil]
    rfl
  | cons wrapped events ih =>
    obtain ⟨hserver, howners, htraffic, hcalls⟩ := ih (app.noteEvent wrapped)
    obtain ⟨hserver', howners', htraffic', hcalls'⟩ := app.noteEvent_frame wrapped
    refine ⟨hserver.trans hserver', howners.trans howners', htraffic.trans ?_,
      hcalls.trans hcalls'⟩
    rw [htraffic']
    simp only [ServerTraffic.add, List.append_assoc, List.append_nil]
    rfl

end Console

/-! ## What the loop keeps -/

/-- The events reported under the identifier. -/
def reportedAs (connId : U32) (reported : List ServerSessionEvent) : List SessionEvent :=
  (reported.filter fun wrapped => wrapped.connId = some connId).map ServerSessionEvent.event

/-- What the manager has returned of its active sessions has been reported, and each of them came
with the event of its handshake. -/
structure Announces (reported : List ServerSessionEvent) (r : EventRun) : Prop where
  returned : ∀ connId, (eventsOf connId r.returned).Sublist (reportedAs connId reported)
  connected : ∀ endpoint connId, r.server.manager.activeConnId endpoint = some connId →
    ∃ event ∈ eventsOf connId r.carried, event.kind = .connected

/-- The manager is sound, the console lists what has been reported, and every endpoint sees one
session at a time. -/
structure Serves (transport : TransportSettings) (app : ServerApp) : Prop where
  sound : Sound app.server.manager app.server.assigned
  assigned : app.owners.map Prod.snd = app.server.assigned
  holds : ∀ endpoint connId, app.server.manager.holder endpoint = some connId →
    (endpoint, connId) ∈ app.owners
  owned : app.traffic.Owned app.owners
  lists : Lists app
  seats : ∀ endpoint, ∃ actions,
    SeatRun transport none actions (app.server.manager.sessionOf endpoint) ∧
      SeenAt app.owners endpoint app.traffic actions
  account : ∃ r : EventRun, Run.runM (EventRun.step transport) {} app.calls = some r ∧
    r.server = app.server ∧ Announces app.traffic.reported r

section Steps

variable {profile : RuntimeProfile} {transport : TransportSettings} {app app₁ app' : ServerApp}
  {op : ManagerOp} {new : ServerTraffic}

theorem ServerApp.call_eq (hcall : app.call transport op = some app₁) :
    op.Orderly app.server.manager ∧ app.server.step transport op = some app₁.server ∧
      app₁ = { app with
        server := app₁.server
        calls := app.calls ++ [op]
        owners := app.owners ++ op.allocates app.server.manager } := by
  rw [call] at hcall
  split_ifs at hcall with horderly
  obtain ⟨server, hstep, rfl⟩ := Option.map_eq_some_iff.1 hcall
  exact ⟨horderly, hstep, rfl⟩

theorem Serves.nodup (h : Serves transport app) : (app.owners.map Prod.snd).Nodup := by
  rw [h.assigned]
  exact h.sound.consistent.valid.nodup

theorem mem_eventsOf {connId : U32} {event : SessionEvent} {events : List (U32 × SessionEvent)} :
    event ∈ eventsOf connId events ↔ (connId, event) ∈ events := by
  simp [eventsOf]

/-- What is returned of the active sessions is reported. -/
theorem returnedBy_sublist (m : ServerSessionManager) (pendingOrder activeOrder : List EndpointKey)
    (connId : U32) :
    (eventsOf connId (returnedBy m (.drainEvents pendingOrder activeOrder))).Sublist
      (reportedAs connId (m.drainEvents pendingOrder activeOrder).1) := by
  rw [returnedBy, reportedAs]
  generalize (m.drainEvents pendingOrder activeOrder).1 = events
  induction events with
  | nil => exact .slnil
  | cons wrapped events ih =>
    by_cases hwrapped : wrapped.connId = some connId
    · rw [List.filter_cons_of_pos (by simpa using hwrapped), List.map_cons]
      cases hactive : m.hasActiveSession connId with
      | true => simpa [eventsOf, hwrapped, hactive] using ih
      | false => simpa [eventsOf, hwrapped, hactive] using ih.cons wrapped.event
    · rw [List.filter_cons_of_neg (by simpa using hwrapped)]
      rcases hother : wrapped.connId with _ | c
      · simpa [hother] using ih
      · have hne : c ≠ connId := fun heq => hwrapped (hother.trans (congrArg some heq))
        cases hactive : m.hasActiveSession c with
        | true => simpa [eventsOf, hother, hactive, hne] using ih
        | false => simpa [hother, hactive] using ih

theorem Announces.step {reported new : List ServerSessionEvent} {r : EventRun} {server : ServerRun}
    (h : Announces reported r) (hsound : Sound r.server.manager r.server.assigned)
    (hstep : r.server.step transport op = some server)
    (hreturned : ∀ connId,
      (eventsOf connId (returnedBy r.server.manager op)).Sublist (reportedAs connId new)) :
    Announces (reported ++ new) (r.book transport op server) := by
  constructor
  · intro c
    rw [EventRun.book, eventsOf_append, reportedAs, List.filter_append, List.map_append]
    exact (h.returned c).append (hreturned c)
  · intro e c hc
    simp only [EventRun.book] at hc ⊢
    rw [eventsOf_append]
    by_cases hbefore : r.server.manager.activeConnId e = some c
    · obtain ⟨event, hmem, hkind⟩ := h.connected e c hbefore
      exact ⟨event, List.mem_append_left _ hmem, hkind⟩
    · obtain ⟨event, hmem, hkind⟩ := ServerRun.step_connected hsound hstep hc hbefore
      exact ⟨event, List.mem_append_right _ (mem_eventsOf.2 hmem), hkind⟩

/-- **One operation of the manager**, with what the loop makes of what it returns. -/
theorem Serves.step (h : Serves transport app) (hcall : app.call transport op = some app₁)
    (hserver : app'.server = app₁.server) (howners : app'.owners = app₁.owners)
    (hcalls : app'.calls = app₁.calls) (htraffic : app'.traffic = app.traffic.add new)
    (hnew : new.Owned app₁.owners)
    (hseen : ∀ endpoint, SeenAt app₁.owners endpoint new
      (op.actionsAt transport app.server.manager endpoint))
    (hreturned : ∀ connId, (eventsOf connId (returnedBy app.server.manager op)).Sublist
      (reportedAs connId new.reported))
    (hlists : Lists app') : Serves transport app' := by
  obtain ⟨horderly, hstep, happ₁⟩ := ServerApp.call_eq hcall
  have howners₁ : app₁.owners = app.owners ++ op.allocates app.server.manager := by rw [happ₁]
  have hsub : app.owners ⊆ app₁.owners := howners₁ ▸ List.subset_append_left _ _
  have hsound := ServerRun.step_sound h.sound hstep
  have hassigned : app₁.owners.map Prod.snd = app₁.server.assigned := by
    rw [howners₁, List.map_append, h.assigned, ServerRun.step_assigned hstep]
  have hnodup : (app₁.owners.map Prod.snd).Nodup := hassigned ▸ hsound.consistent.valid.nodup
  refine ⟨hserver ▸ hsound, by rw [hserver, howners, hassigned], fun e c hholder => ?_, ?_, hlists,
    fun e => ?_, ?_⟩
  · rw [hserver] at hholder
    rw [howners, howners₁]
    rcases (ServerRun.step_tenure h.sound hstep e).holder c hholder with hold | hallocated
    · exact List.mem_append_left _ (h.holds e c hold)
    · exact List.mem_append_right _ hallocated
  · rw [howners, htraffic]
    exact (h.owned.mono hsub).add hnew
  · obtain ⟨actions, hrun, hseat⟩ := h.seats e
    refine ⟨actions ++ op.actionsAt transport app.server.manager e, ?_, ?_⟩
    · rw [hserver]
      exact hrun.trans (SeatLog.seatRun_step h.sound horderly hstep)
    · rw [howners, htraffic]
      exact (hseat.mono h.owned hnodup hsub).add (hseen e)
  · obtain ⟨r, hrun, hr, hannounces⟩ := h.account
    have hcalls₁ : app₁.calls = app.calls ++ [op] := by rw [happ₁]
    have hbook : EventRun.step transport r op = some (r.book transport op app₁.server) := by
      rw [EventRun.step, hr, if_pos horderly, hstep, Option.map_some]
    refine ⟨r.book transport op app₁.server, ?_, hserver.symm, ?_⟩
    · rw [hcalls, hcalls₁, Run.runM_append_eq, hrun, Option.bind_some, Run.runM_cons, hbook]
      rfl
    · rw [htraffic]
      exact hannounces.step (hr ▸ h.sound) (hr ▸ hstep) (hr ▸ hreturned)

theorem Lists.of_same (h : Lists app) (hlisted : app'.activeEndpoints = app.activeEndpoints)
    (hpreferred : app'.preferredConnId = app.preferredConnId)
    (hreported : app'.traffic.reported = app.traffic.reported) (hlog : app.log <+: app'.log) :
    Lists app' := by
  refine ⟨?_, ?_, ?_⟩
  · intro c
    rw [hlisted, hreported, h.listed]
  · rw [hpreferred, hreported, h.preferred]
  · obtain ⟨lines, hlines⟩ := hlog
    rw [hreported, ← hlines, ← List.append_nil app.traffic.reported]
    exact sublistForall₂_append h.written .nil

/-- The manager does not touch the console. -/
theorem Lists.called (h : Lists app) (hcall : app.call transport op = some app₁) : Lists app₁ := by
  obtain ⟨-, -, happ₁⟩ := ServerApp.call_eq hcall
  rw [happ₁]
  exact ⟨h.listed, h.preferred, h.written⟩

theorem Serves.logged (h : Serves transport app) (hserver : app'.server = app.server)
    (howners : app'.owners = app.owners) (htraffic : app'.traffic = app.traffic)
    (hcalls : app'.calls = app.calls) (hlisted : app'.activeEndpoints = app.activeEndpoints)
    (hpreferred : app'.preferredConnId = app.preferredConnId) (hlog : app.log <+: app'.log) :
    Serves transport app' := by
  refine ⟨hserver ▸ h.sound, by rw [howners, hserver, h.assigned], ?_, ?_,
    h.lists.of_same hlisted hpreferred (by rw [htraffic]) hlog, ?_, ?_⟩
  · rw [hserver, howners]
    exact h.holds
  · rw [htraffic, howners]
    exact h.owned
  · rw [hserver, howners, htraffic]
    exact h.seats
  · rw [hserver, htraffic, hcalls]
    exact h.account

theorem Serves.logSessions (h : Serves transport app) (order : List U32) :
    Serves transport (app.logSessions order) := by
  rw [ServerApp.logSessions]
  split_ifs
  · exact h.logged rfl rfl rfl rfl rfl rfl (List.prefix_append _ _)
  · refine Run.invariant (Serves transport) (fun app connId h => ?_) h order
    cases app.activeEndpoints.lookup connId with
    | none => exact h
    | some endpoint => exact h.logged rfl rfl rfl rfl rfl rfl (List.prefix_append _ _)

theorem Serves.drainServerEvents (h : Serves transport app) {order : TableOrder}
    (hdrain : app.drainServerEvents transport order = some app') : Serves transport app' := by
  obtain ⟨app₁, hcall, rfl⟩ := Option.map_eq_some_iff.1 hdrain
  obtain ⟨-, -, happ₁⟩ := ServerApp.call_eq hcall
  have howners₁ : app₁.owners = app.owners := by
    rw [happ₁]
    exact List.append_nil _
  have hnamed := h.sound.consistent.drainEvents_named order.pending order.active
  obtain ⟨hserver, howners, htraffic, hcalls⟩ := app₁.noteEvents_frame
    (app.server.manager.drainEvents order.pending order.active).1
  refine h.step hcall hserver howners hcalls (htraffic.trans (by rw [happ₁]))
    ⟨fun wrapped hmem => ?_, fun _ hmem => absurd hmem List.not_mem_nil⟩
    (fun e => seenAt_reported _ e _) (fun c => returnedBy_sublist _ _ _ c)
    ((h.lists.called hcall).noteEvents fun wrapped hmem => ?_)
  · obtain ⟨c, hconnId, hholder⟩ := hnamed wrapped hmem
    exact ⟨c, hconnId, howners₁ ▸ h.holds _ c hholder⟩
  · obtain ⟨c, hconnId, -⟩ := hnamed wrapped hmem
    exact ⟨c, hconnId⟩

theorem Serves.pollAll (h : Serves transport app) {order : TableOrder} {nowMs : U64}
    (hpoll : app.pollAll transport order nowMs = some app') : Serves transport app' := by
  obtain ⟨app₁, hcall, rfl⟩ := Option.map_eq_some_iff.1 hpoll
  obtain ⟨-, -, happ₁⟩ := ServerApp.call_eq hcall
  exact h.step hcall rfl rfl rfl (by rw [happ₁])
    (ServerTraffic.owned_of_quiet rfl rfl)
    (fun e => seenAt_sent _ e _) (fun _ => List.nil_sublist _)
    ((h.lists.called hcall).of_same rfl rfl (List.append_nil _) List.prefix_rfl)

theorem Serves.receiveOne (h : Serves transport app) {arrival : ServerDatagram}
    (hreceive : app.receiveOne transport arrival = some app') : Serves transport app' := by
  obtain ⟨app₁, hcall, hdrain⟩ := Option.bind_eq_some_iff.1 hreceive
  obtain ⟨-, -, happ₁⟩ := ServerApp.call_eq hcall
  refine Serves.drainServerEvents ?_ hdrain
  exact h.step hcall rfl rfl rfl (by rw [happ₁])
    (ServerTraffic.owned_of_quiet rfl rfl)
    (fun e => seenAt_received _ e arrival.datagram arrival.nowMs) (fun _ => List.nil_sublist _)
    ((h.lists.called hcall).of_same rfl rfl (List.append_nil _) List.prefix_rfl)

/-- A reply that is taken goes to the one endpoint that has the connection. -/
theorem Serves.reply (h : Serves transport app) {command : ServerSendCommand}
    (hreply : app.reply transport command = some app') : Serves transport app' := by
  rw [ServerApp.reply] at hreply
  obtain ⟨app₁, hcall, rfl⟩ := Option.map_eq_some_iff.1 hreply
  obtain ⟨-, -, happ₁⟩ := ServerApp.call_eq hcall
  have howners₁ : app₁.owners = app.owners := by
    rw [happ₁]
    exact List.append_nil _
  have hlists₁ : Lists app₁ := h.lists.called hcall
  have htraffic₁ : app₁.traffic = app.traffic := by rw [happ₁]
  have hbound : ∀ e, app.server.manager.activeConnId e = some command.connId →
      (e, command.connId) ∈ app.owners :=
    fun e hc => h.holds e _ (h.sound.consistent.holder_of_active hc)
  rw [ServerSessionManager.queueSend]
  cases hs : app.server.manager.findActiveSession command.connId with
  | none =>
    have hunbound : ∀ e, app.server.manager.activeConnId e ≠ some command.connId := by
      intro e hc
      obtain ⟨s, hfound⟩ := (h.sound.consistent.active_iff command.connId).2 ⟨e, hc⟩
      rw [hs] at hfound
      cases hfound
    refine @Serves.step _ _ _ _ _ {} h hcall rfl rfl rfl ?_
      (ServerTraffic.owned_of_quiet rfl rfl) (fun e => ?_)
      (fun _ => List.nil_sublist _) (hlists₁.of_same rfl rfl rfl (List.prefix_append _ _))
    · exact htraffic₁.trans app.traffic.add_empty.symm
    · rw [ManagerOp.actionsAt, if_neg (hunbound e)]
      exact ⟨rfl, rfl, rfl, rfl⟩
  | some s =>
    obtain ⟨e₀, hc₀⟩ := (h.sound.consistent.active_iff command.connId).1 ⟨s, hs⟩
    refine h.step hcall rfl rfl rfl (congrArg (ServerTraffic.add · _) htraffic₁) ⟨?_, ?_⟩
      (fun e => ?_) (fun _ => List.nil_sublist _)
      (hlists₁.of_same rfl rfl (List.append_nil _) List.prefix_rfl)
    · exact fun _ hmem => absurd hmem List.not_mem_nil
    · intro reply hmem
      rw [List.mem_singleton.1 hmem, howners₁]
      exact ⟨e₀, hbound e₀ hc₀⟩
    · refine seenAt_reply ⟨fun hmem => ?_, fun hc => howners₁ ▸ hbound e hc⟩ _
      have hsame : e = e₀ := owner_unique h.nodup (howners₁ ▸ hmem) (hbound e₀ hc₀)
      rwa [hsame]

theorem Serves.handleServerStdin (h : Serves transport app) {input : Option Text} {order : List U32}
    (hstdin : app.handleServerStdin profile transport input order = some app') :
    Serves transport app' := by
  cases input with
  | none =>
    obtain rfl := Option.some.inj hstdin
    exact h.logged rfl rfl rfl rfl rfl rfl List.prefix_rfl
  | some line =>
    simp only [ServerApp.handleServerStdin] at hstdin
    split_ifs at hstdin
    · obtain rfl := Option.some.inj hstdin
      exact h.logged rfl rfl rfl rfl rfl rfl List.prefix_rfl
    · obtain rfl := Option.some.inj hstdin
      exact h.logSessions order
    · obtain rfl := Option.some.inj hstdin
      exact h.logged rfl rfl rfl rfl rfl rfl (List.prefix_append _ _)
    · cases hcommand : parseServerSendCommand profile line app.preferredConnId with
      | none =>
        rw [hcommand] at hstdin
        obtain rfl := Option.some.inj hstdin
        exact h.logged rfl rfl rfl rfl rfl rfl (List.prefix_append _ _)
      | some command =>
        rw [hcommand] at hstdin
        exact h.reply hstdin

theorem Serves.readStdin (h : Serves transport app) {turn : ServerTurn}
    (hread : app.readStdin profile transport turn = some app') : Serves transport app' := by
  rw [ServerApp.readStdin] at hread
  cases hinput : turn.stdin with
  | none =>
    rw [hinput] at hread
    exact Option.some.inj hread ▸ h
  | some input =>
    rw [hinput] at hread
    simp only at hread
    split_ifs at hread
    · obtain ⟨app₁, hstdin, rfl⟩ := Option.map_eq_some_iff.1 hread
      exact (h.handleServerStdin hstdin).logged rfl rfl rfl rfl rfl rfl List.prefix_rfl
    · exact Option.some.inj hread ▸ h

/-- **One pass of the loop.** -/
theorem Serves.turn (h : Serves transport app) {turn : ServerTurn}
    (hturn : app.turn profile transport turn = some app') : Serves transport app' := by
  rw [ServerApp.turn] at hturn
  split_ifs at hturn
  · exact Option.some.inj hturn ▸ h
  · obtain rfl := Option.some.inj hturn
    exact h.logged rfl rfl rfl rfl rfl rfl List.prefix_rfl
  · obtain ⟨app₁, hreceive, hturn⟩ := Option.bind_eq_some_iff.1 hturn
    obtain ⟨app₂, hread, hturn⟩ := Option.bind_eq_some_iff.1 hturn
    obtain ⟨app₃, hpoll, hdrain⟩ := Option.bind_eq_some_iff.1 hturn
    have h₁ := Run.invariantM (Serves transport) (fun _ _ _ h hone => h.receiveOne hone) h hreceive
    exact ((h₁.readStdin hread).pollAll hpoll).drainServerEvents hdrain

/-! ## What is left to report -/

/-- No active session has events to report. -/
def Drained (app : ServerApp) : Prop :=
  ∀ connId session, app.server.manager.findActiveSession connId = some session →
    session.rx.pendingEvents = []

theorem Serves.drained (h : Serves transport app) {order : TableOrder}
    (hdrain : app.drainServerEvents transport order = some app') : Drained app' := by
  obtain ⟨app₁, hcall, rfl⟩ := Option.map_eq_some_iff.1 hdrain
  obtain ⟨⟨-, horder⟩, hstep, -⟩ := ServerApp.call_eq hcall
  obtain ⟨hserver, -⟩ := app₁.noteEvents_frame
    (app.server.manager.drainEvents order.pending order.active).1
  intro c s hs
  rw [hserver, ← Option.some.inj hstep,
    (@Sound.drainEvents_active _ _ h.sound order.pending order.active horder.visits c).1] at hs
  obtain ⟨s₀, -, rfl⟩ := Option.map_eq_some_iff.1 hs
  rfl

theorem Serves.drained_turn (h : Serves transport app) (hdrained : Drained app) {turn : ServerTurn}
    (hturn : app.turn profile transport turn = some app') : Drained app' := by
  rw [ServerApp.turn] at hturn
  split_ifs at hturn
  · exact Option.some.inj hturn ▸ hdrained
  · obtain rfl := Option.some.inj hturn
    exact hdrained
  · obtain ⟨app₁, hreceive, hturn⟩ := Option.bind_eq_some_iff.1 hturn
    obtain ⟨app₂, hread, hturn⟩ := Option.bind_eq_some_iff.1 hturn
    obtain ⟨app₃, hpoll, hdrain⟩ := Option.bind_eq_some_iff.1 hturn
    have h₁ := Run.invariantM (Serves transport) (fun _ _ _ h hone => h.receiveOne hone) h hreceive
    exact ((h₁.readStdin hread).pollAll hpoll).drained hdrain

end Steps

/-! ## Every run -/

section Runs

variable {profile : RuntimeProfile} {transport : TransportSettings} {isInteractive : Bool}
  {turns : List ServerTurn} {app : ServerApp}

theorem serves_start (transport : TransportSettings) (profile : RuntimeProfile)
    (isInteractive : Bool) : Serves transport (.start profile isInteractive) where
  sound := sound_empty
  assigned := rfl
  holds := fun _ _ hholder => nomatch hholder
  owned := ServerTraffic.owned_of_quiet rfl rfl
  lists := ⟨fun _ => rfl, rfl, .nil⟩
  seats := fun _ => ⟨[], .done none, rfl, rfl, rfl, rfl⟩
  account := ⟨{}, rfl, rfl, fun _ => .slnil, fun _ _ hc => nomatch hc⟩

theorem serves_run
    (hrun : Run.runM (ServerApp.turn profile transport) (.start profile isInteractive) turns =
      some app) : Serves transport app ∧ Drained app := by
  refine Run.invariantM (fun app => Serves transport app ∧ Drained app)
    (fun app turn app' h hturn => ⟨h.1.turn hturn, h.1.drained_turn h.2 hturn⟩) ?_ hrun
  exact ⟨serves_start transport profile isInteractive, fun _ _ hs => nomatch hs⟩

/-- **From the console to the wire, for every client.** In every run of the server's loop, with any
number of clients, what an endpoint has seen of the server is what a seat shows in which one session
after another lives its life alone: the datagrams received from the endpoint and sent to it, the
events reported for it, and the replies to its identifiers. Each reply that was taken belongs to one
endpoint. -/
theorem server_refines_sessions
    (hrun : Run.runM (ServerApp.turn profile transport) (.start profile isInteractive) turns =
      some app) :
    (∀ endpoint, ∃ actions,
      SeatRun transport none actions (app.server.manager.sessionOf endpoint) ∧
        SeenAt app.owners endpoint app.traffic actions) ∧
      ∀ reply ∈ app.traffic.replies, ∃! endpoint, (endpoint, reply.1) ∈ app.owners := by
  obtain ⟨hserves, -⟩ := serves_run hrun
  refine ⟨hserves.seats, fun reply hreply => ?_⟩
  obtain ⟨endpoint, howned⟩ := hserves.owned.replies reply hreply
  exact ⟨endpoint, howned, fun _ howned' => owner_unique hserves.nodup howned' howned⟩

/-- **What the console lists.** In every run of the server's loop, the console lists a connection
exactly if the last event reported under it was no reset, no close and no error; a line without an
address goes to the connection that was heard of last; and what is listed under an endpoint was
allocated for it, so that no other endpoint is ever active under it. -/
theorem server_console
    (hrun : Run.runM (ServerApp.turn profile transport) (.start profile isInteractive) turns =
      some app) :
    (∀ connId, app.activeEndpoints.lookup connId = listing app.traffic.reported connId) ∧
      app.preferredConnId = lastListed app.traffic.reported ∧
      ∀ connId endpoint, app.activeEndpoints.lookup connId = some endpoint →
        (endpoint, connId) ∈ app.owners ∧ ∀ endpoint',
          app.server.manager.activeConnId endpoint' = some connId → endpoint' = endpoint := by
  obtain ⟨hserves, -⟩ := serves_run hrun
  refine ⟨hserves.lists.listed, hserves.lists.preferred, fun c e hlisted => ?_⟩
  rw [hserves.lists.listed] at hlisted
  obtain ⟨wrapped, hlast, hlisted⟩ := Option.bind_eq_some_iff.1 hlisted
  obtain ⟨hmem, hwrapped⟩ := List.mem_filter.1 (List.mem_of_getLast? hlast)
  have hconnId : wrapped.connId = some c := of_decide_eq_true hwrapped
  split_ifs at hlisted
  obtain rfl := Option.some.inj hlisted
  obtain ⟨c', hconnId', howned⟩ := hserves.owned.reported wrapped hmem
  obtain rfl : c' = c := Option.some.inj (hconnId'.symm.trans hconnId)
  refine ⟨howned, fun e' hc => owner_unique hserves.nodup ?_ howned⟩
  exact hserves.holds e' c' (hserves.sound.consistent.holder_of_active hc)

/-- **What the log says.** Every run of the server's loop is one of the manager, by the operations
that the loop has called; and at the end of a pass, the log has a line for whatever an active session
has had to report since its handshake, under its endpoint and its identifier and in its order, the
end of the handshake included. -/
theorem server_announces
    (hrun : Run.runM (ServerApp.turn profile transport) (.start profile isInteractive) turns =
      some app) :
    ∃ r : EventRun, Run.runM (EventRun.step transport) {} app.calls = some r ∧
      r.server = app.server ∧
        ∀ endpoint connId, app.server.manager.activeConnId endpoint = some connId →
          List.SublistForall₂ (IsEventLine endpoint connId)
              (eventsOf connId r.carried ++ eventsOf connId r.appended) app.log ∧
            ∃ event ∈ eventsOf connId r.carried, event.kind = .connected := by
  obtain ⟨hserves, hdrained⟩ := serves_run hrun
  obtain ⟨r, hcalls, hr, hannounces⟩ := hserves.account
  refine ⟨r, hcalls, hr, fun e c hc => ⟨?_, hannounces.connected e c (hr ▸ hc)⟩⟩
  obtain ⟨s, hs⟩ := (hserves.sound.consistent.active_iff c).2 ⟨e, hc⟩
  have hbalanced := (EventInv.run eventInv_empty hcalls).1.balanced c
  rw [hr, show app.server.manager.findActiveSession c = some s from hs, AccountState,
    hdrained c s hs, List.append_nil] at hbalanced
  have hsub : (eventsOf c r.carried ++ eventsOf c r.appended).Sublist
      (reportedAs c app.traffic.reported) := hbalanced ▸ hannounces.returned c
  obtain ⟨wrappeds, hwrappeds, hevents⟩ := List.sublist_map_iff.1 hsub
  rw [hevents]
  refine sublistForall₂_map_of_sublist hserves.lists.written
    (hwrappeds.trans List.filter_sublist) fun wrapped hmem line hline => ?_
  obtain ⟨hreported, hwrapped⟩ := List.mem_filter.1 (hwrappeds.subset hmem)
  have hconnId : wrapped.connId = some c := of_decide_eq_true hwrapped
  -- The identifier has one owner.
  obtain ⟨c', hconnId', howned⟩ := hserves.owned.reported wrapped hreported
  obtain rfl := Option.some.inj (hconnId.symm.trans hconnId')
  have hholds := hserves.holds e c (hserves.sound.consistent.holder_of_active hc)
  exact owner_unique hserves.nodup howned hholds ▸ hline c hconnId

end Runs

/-! ## A run -/

def onlyPending : TableOrder := { pending := [clientEndpoint] }

def onlyActive : TableOrder := { active := [clientEndpoint] }

/-- A client greets; it completes its handshake, under identifier 7, and a line is typed. -/
def greetedAndReplied : List ServerTurn :=
  [{ received :=
      [{ datagram := ⟨clientEndpoint, controlDatagram 0 Flag.syn.toFlags 500 0 0⟩
         nowMs := 1
         random := ⟨100, [(0, 7)]⟩
         drainOrder := onlyPending }]
     nowMs := 1
     pollOrder := onlyPending
     drainOrder := onlyPending },
    { received :=
        [{ datagram := ⟨clientEndpoint, controlDatagram 7 Flag.ack.toFlags 0 101 0⟩
           nowMs := 2
           drainOrder := onlyActive }]
      stdin := some (some "hello".toList)
      nowMs := 2
      pollOrder := onlyActive
      drainOrder := onlyActive }]

theorem run_greetedAndReplied :
    ∃ app, Run.runM (ServerApp.turn twoChannels {}) (.start twoChannels true) greetedAndReplied =
        some app ∧
      app.traffic.replies.map (fun reply => (reply.1, reply.2.payload)) =
        [(7, bytesOf "hello".toList)] ∧
      listing app.traffic.reported 7 = some clientEndpoint ∧ app.preferredConnId = some 7 ∧
      app.server.manager.activeConnId clientEndpoint = some 7 := by
  have hvalues : ((Run.runM (ServerApp.turn twoChannels {}) (.start twoChannels true)
      greetedAndReplied).map fun app =>
        (app.traffic.replies.map fun reply => (reply.1, reply.2.payload),
          listing app.traffic.reported 7, app.preferredConnId,
          app.server.manager.activeConnId clientEndpoint)) =
      some ([(7, bytesOf "hello".toList)], some clientEndpoint, some 7, some 7) := by
    decide +kernel
  obtain ⟨app, hrun, hvalue⟩ := Option.map_eq_some_iff.1 hvalues
  simp only [Prod.mk.injEq] at hvalue
  exact ⟨app, hrun, hvalue⟩

theorem server_refines_sessions_greetedAndReplied :
    ∃ (app : ServerApp) (actions : List SeatAction),
      app.traffic.replies.map (fun reply => (reply.1, reply.2.payload)) =
          [(7, bytesOf "hello".toList)] ∧
        SeatRun {} none actions (app.server.manager.sessionOf clientEndpoint) ∧
        SeenAt app.owners clientEndpoint app.traffic actions := by
  obtain ⟨app, hrun, hreplies, -⟩ := run_greetedAndReplied
  obtain ⟨actions, hseat⟩ := (server_refines_sessions hrun).1 clientEndpoint
  exact ⟨app, actions, hreplies, hseat⟩

theorem server_console_greetedAndReplied :
    ∃ app : ServerApp, app.preferredConnId = some 7 ∧
      lastListed app.traffic.reported = some 7 ∧ (clientEndpoint, 7) ∈ app.owners := by
  obtain ⟨app, hrun, -, hlisted, hpreferred, -⟩ := run_greetedAndReplied
  obtain ⟨hlist, hlast, howned⟩ := server_console hrun
  exact ⟨app, hpreferred, hlast ▸ hpreferred,
    (howned 7 clientEndpoint ((hlist 7).trans hlisted)).1⟩

theorem server_announces_greetedAndReplied :
    ∃ (app : ServerApp) (r : EventRun),
      Run.runM (EventRun.step {}) {} app.calls = some r ∧
        List.SublistForall₂ (IsEventLine clientEndpoint 7)
            (eventsOf 7 r.carried ++ eventsOf 7 r.appended) app.log ∧
          ∃ event ∈ eventsOf 7 r.carried, event.kind = .connected := by
  obtain ⟨app, hrun, -, -, -, hactive⟩ := run_greetedAndReplied
  obtain ⟨r, hcalls, -, hannounces⟩ := server_announces hrun
  exact ⟨app, r, hcalls, hannounces clientEndpoint 7 hactive⟩

end Runtime

end Rudp
