import Rudp.LinkReliable
import Rudp.ManagerSeats
import Rudp.PeersQuiet

/-!
# Application data from end to end

The network may lose, repeat, delay and reorder what a client and a manager send each other, and
other endpoints may send the manager anything. Still, what the application on one side is handed as
data of the other, the application on the other side has queued, with the same channel and the same
payload (`data_integrity`).

The argument follows the data: a session sends as data only what was queued for it, and reports as
data only what arrived as data. On the server, the session of the client's endpoint is one session
at a time, by `ManagerSeats`.
-/

namespace Rudp

open Session RxHandler ServerSessionManager

/-! ## The data in a trace -/

/-- The request that the datagram carries, if it is a data packet. -/
def dataOf (bytes : Bytes) : Option SendRequest :=
  (decode bytes).bind fun packet => if packet.isData then some packet.request else none

namespace SeatAction

def arrivedRequest : SeatAction → Option SendRequest
  | .arrived bytes _ => dataOf bytes
  | .queued _ | .sent _ | .reported _ => none

def sentRequest : SeatAction → Option SendRequest
  | .sent bytes => dataOf bytes
  | .arrived _ _ | .queued _ | .reported _ => none

def reportedRequest : SeatAction → Option SendRequest
  | .reported event => if event.kind = .dataReceived then some event.request else none
  | .arrived _ _ | .queued _ | .sent _ => none

end SeatAction

/-! ## Receiving -/

/-- All that the receiver holds as data has the property. -/
structure HoldsOnly (A : SendRequest → Prop) (rx : RxSessionState) : Prop where
  pending : ∀ event ∈ rx.pendingEvents, event.kind = .dataReceived → A event.request
  buffered : ∀ (k : U32) (packet : OwnedPacket), rx.orderedReorderBuffer[k]? = some packet →
    A packet.request

section Receive

variable {A : SendRequest → Prop} {rx rx' : RxSessionState}

theorem holdsOnly_empty : HoldsOnly A {} where
  pending := fun _ hmem => nomatch hmem
  buffered := fun k packet hk => by simp at hk

theorem HoldsOnly.mono {A' : SendRequest → Prop} (h : HoldsOnly A rx) (hA : ∀ r, A r → A' r) :
    HoldsOnly A' rx :=
  ⟨fun event hmem hkind => hA _ (h.pending event hmem hkind),
    fun k packet hk => hA _ (h.buffered k packet hk)⟩

/-- Reports of the session itself are not data. -/
theorem HoldsOnly.report (h : HoldsOnly A rx) {events : List SessionEvent}
    (hevents : ∀ event ∈ events, event.kind ≠ .dataReceived) : HoldsOnly A (rx.report events) := by
  refine ⟨fun event hmem hkind => ?_, h.buffered⟩
  rcases List.mem_append.1 hmem with hold | hnew
  · exact h.pending event hold hkind
  · exact absurd hkind (hevents event hnew)

theorem decisionEvents_kind (packet : PacketView) (decision : ConnectionDecision) :
    ∀ event ∈ decisionEvents packet decision, event.kind ≠ .dataReceived := by
  intro event hmem
  rw [decisionEvents] at hmem
  split_ifs at hmem <;> simp at hmem <;> rcases hmem with rfl | rfl | rfl <;> simp [controlEvent]

theorem controlEvents_kind (role : SessionRole) (state : ConnectionState) (acknowledgedFin : Bool)
    (packet : PacketView) : ∀ event ∈ controlEvents role state acknowledgedFin packet,
      event.kind ≠ .dataReceived := by
  intro event hmem
  rcases List.mem_append.1 hmem with hfin | hdecision
  · split_ifs at hfin
    · rw [List.mem_singleton.1 hfin]
      simp [controlEvent]
    · cases hfin
  · exact decisionEvents_kind packet _ event hdecision

/-- **One packet.** What it adds is its own data, or data that was waiting. -/
theorem HoldsOnly.onPacket (h : HoldsOnly A rx) {packet : PacketView} {kind : ControlKind}
    (hpacket : kind = .none → A packet.request) (nowMs : U64) :
    HoldsOnly A (onPacket packet nowMs kind rx).2 := by
  have hframe := windowed_frame packet kind rx
  have hbuffer : (windowed packet kind rx).orderedReorderBuffer = rx.orderedReorderBuffer := by
    rw [hframe]
  have hpending : (windowed packet kind rx).pendingEvents = rx.pendingEvents := by rw [hframe]
  have hstored : kind = .none → ∀ (k : U32) (q : OwnedPacket),
      (bufferOrdered packet (windowed packet kind rx)).orderedReorderBuffer[k]? = some q →
        A q.request := by
    intro hkind k q hk
    rw [bufferOrdered_buffer, hbuffer] at hk
    split_ifs at hk
    · exact Option.some.inj hk ▸ hpacket hkind
    · exact h.buffered k q hk
  have hadd : kind = .none → ∀ event ∈ rx.pendingEvents ++ [makeDataEvent packet],
      event.kind = .dataReceived → A event.request := by
    intro hkind event hmem hevent
    rcases List.mem_append.1 hmem with hold | hnew
    · exact h.pending event hold hevent
    · rw [List.mem_singleton.1 hnew]
      exact hpacket hkind
  have heffect : PacketEffect packet kind rx (RxHandler.onPacket packet nowMs kind rx).2 :=
    onPacket_effect packet kind rx nowMs
  generalize (RxHandler.onPacket packet nowMs kind rx).2 = rx' at heffect
  cases heffect with
  | ignored _ => exact ⟨hpending ▸ h.pending, hbuffer ▸ h.buffered⟩
  | @ordered packets _ hkind _ _ hdrained _ =>
    refine ⟨fun event hmem hevent => ?_, fun k q hk => hstored hkind k q (hdrained.kept k q hk)⟩
    rw [hdrained.events, bufferOrdered_events, hpending] at hmem
    rcases List.mem_append.1 hmem with hold | hnew
    · exact h.pending event hold hevent
    · obtain ⟨q, hq, rfl⟩ := List.mem_map.1 hnew
      obtain ⟨j, hj⟩ := List.mem_iff_getElem?.1 hq
      exact hstored hkind _ q (hdrained.taken j q hj)
  | unordered hkind _ _ => exact ⟨hadd hkind, hbuffer ▸ h.buffered⟩
  | unreliable hkind _ hevents =>
    refine ⟨?_, hbuffer ▸ h.buffered⟩
    rcases hevents with rfl | rfl
    · rw [List.append_nil]
      exact h.pending
    · exact hadd hkind

/-- **One datagram.** -/
theorem HoldsOnly.onDatagramReceived {s : SessionState} (h : HoldsOnly A s.rx)
    (transport : TransportSettings) {bytes : Bytes} (hbytes : ∀ request ∈ dataOf bytes, A request)
    (nowMs : U64) : HoldsOnly A (Session.onDatagramReceived transport bytes nowMs s).rx := by
  cases onDatagramReceived_rx transport bytes nowMs s with
  | undecodable _ hsame =>
    rw [hsame]
    exact h
  | duplicate _ _ _ hrx _ =>
    rw [hrx]
    exact h
  | mismatch _ _ hrx _ =>
    rw [hrx]
    exact h.report fun event hmem => by rw [List.mem_singleton.1 hmem]; simp [localError]
  | @processed packet acknowledgedFin hdecode _ _ hrx _ =>
    rw [hrx]
    refine (h.report (controlEvents_kind _ _ _ packet)).onPacket (fun hkind => ?_) nowMs
    refine hbytes packet.request ?_
    have hdata : packet.isData = true := decide_eq_true hkind
    rw [dataOf, hdecode, Option.bind_some, if_pos hdata]
    rfl

theorem HoldsOnly.pollTx {s : SessionState} (h : HoldsOnly A s.rx) (transport : TransportSettings)
    (nowMs : U64) : HoldsOnly A (Session.pollTx transport nowMs s).2.rx := by
  rcases pollTx_rx transport nowMs s with hsame | ⟨-, -, message, hreport⟩
  · rw [hsame]
    exact h
  · rw [hreport]
    exact h.report fun event hmem => by rw [List.mem_singleton.1 hmem]; simp [localError]

/-- **One operation.** If what arrives as data has the property, so has what is reported. -/
theorem HoldsOnly.apply {s : SessionState} (h : HoldsOnly A s.rx) (transport : TransportSettings)
    (op : LifeOp)
    (harrived : ∀ request ∈ (op.actions transport s).filterMap SeatAction.arrivedRequest,
      A request) :
    HoldsOnly A (op.apply transport s).2.rx ∧
      ∀ request ∈ (op.actions transport s).filterMap SeatAction.reportedRequest, A request := by
  rcases op with ⟨_ | nowMs | ⟨bytes, nowMs⟩ | _⟩ | _ | _
  case call.queueSend | assignConnId => exact ⟨h, fun _ hmem => absurd hmem List.not_mem_nil⟩
  case call.pollTx =>
    refine ⟨h.pollTx transport nowMs, fun request hmem => ?_⟩
    rw [LifeOp.actions, List.filterMap_map] at hmem
    obtain ⟨_, -, hnone⟩ := List.mem_filterMap.1 hmem
    cases hnone
  case call.onDatagramReceived =>
    refine ⟨h.onDatagramReceived transport (fun request hdata => harrived request ?_) nowMs,
      fun _ hmem => absurd hmem List.not_mem_nil⟩
    exact List.mem_filterMap.2 ⟨_, List.mem_singleton_self _, hdata⟩
  case call.requestClose =>
    refine ⟨?_, fun _ hmem => absurd hmem List.not_mem_nil⟩
    simp only [LifeOp.apply, SessionOp.apply, requestClose]
    split_ifs <;> exact h
  case drainEvents =>
    refine ⟨⟨fun _ hmem => absurd hmem List.not_mem_nil, h.buffered⟩, fun request hmem => ?_⟩
    rw [LifeOp.actions, List.filterMap_map] at hmem
    obtain ⟨event, hevent, hrequest⟩ := List.mem_filterMap.1 hmem
    simp only [Function.comp_apply, SeatAction.reportedRequest] at hrequest
    split_ifs at hrequest with hkind
    exact Option.some.inj hrequest ▸ h.pending event hevent hkind

end Receive

/-! ## Sending -/

/-- All that the sender holds as data has the property. -/
structure SendsOnly (A : SendRequest → Prop) (tx : TxSessionState) : Prop where
  pending : ∀ request ∈ tx.pendingSend, A request
  inFlight : InFlight (fun p => isValidHeader p.header = true ∧ (p.isData = true → A p.request)) tx

section Send

variable {A : SendRequest → Prop} {s : SessionState}

theorem sendsOnly_init (role : SessionRole) (initialSeq : U32) :
    SendsOnly A (Session.init role initialSeq).tx :=
  ⟨fun _ hmem => absurd hmem List.not_mem_nil, @inFlight_empty _ role initialSeq⟩

theorem SendsOnly.mono {A' : SendRequest → Prop} {tx : TxSessionState} (h : SendsOnly A tx)
    (hA : ∀ r, A r → A' r) : SendsOnly A' tx :=
  ⟨fun request hmem => hA _ (h.pending request hmem),
    h.inFlight.mono fun _ hp => ⟨hp.1, fun hdata => hA _ (hp.2 hdata)⟩⟩

theorem FreshPacket.request_mem {role : SessionRole} {connId : U32} {state : ConnectionState}
    {rx : RxSessionState} {tx : TxSessionState} {p : PacketView}
    (h : FreshPacket role connId state rx tx p) (hdata : p.isData = true) :
    p.request ∈ tx.pendingSend := by
  cases h with
  | bare hflags =>
    rw [(bare_packet hflags).2.2] at hdata
    cases hdata
  | control hcause =>
    rw [hcause.packet.2] at hdata
    cases hdata
  | request hpending =>
    rw [requestPacket_packet.2.2.2, hpending]
    exact List.mem_cons_self

/-- **One poll.** -/
theorem SendsOnly.pollTx (h : SendsOnly A s.tx) (transport : TransportSettings) (nowMs : U64) :
    SendsOnly A (Session.pollTx transport nowMs s).2.tx ∧
      ∀ bytes, (Session.pollTx transport nowMs s).1 = some bytes →
        ∀ request ∈ dataOf bytes, A request := by
  have heffect := pollTx_effect transport nowMs s
  obtain ⟨hinFlight, hsent⟩ := heffect.inFlight
    (fun hsame hp => by
      obtain ⟨hvalid, -, hisData, -, hrequest⟩ := hsame.same
      rwa [hvalid, hisData, hrequest]) h.inFlight
    fun hsame hnew _ => ⟨hnew.valid, fun hdata =>
      h.pending _ (hsame.pendingSend ▸ hnew.request_mem hdata)⟩
  refine ⟨⟨fun request hmem => h.pending request ?_, hinFlight⟩,
    fun bytes hbytes request hdata => ?_⟩
  · rcases heffect.polls.queue with hsame | ⟨first, hcons⟩
    · exact hsame ▸ hmem
    · rw [hcons]
      exact List.mem_cons_of_mem _ hmem
  · obtain ⟨p, hencode, hvalid, hp⟩ := hsent bytes hbytes
    rw [hencode, dataOf, decode_encode hvalid, Option.bind_some] at hdata
    split_ifs at hdata with hisData
    · exact Option.some.inj hdata ▸ hp hisData
    · cases hdata

theorem ReceiveEffect.pendingSend_eq {bytes : Bytes} {s s' : SessionState}
    (h : ReceiveEffect bytes s s') : s'.tx.pendingSend = s.tx.pendingSend := by
  cases h with
  | dropped htx _ | mismatch htx _ => exact htx.pendingSend
  | processed _ _ hbefore hack hafter _ =>
    rw [hafter.pendingSend, ← hbefore.pendingSend]
    rcases hack with ⟨-, rfl, -⟩ | ⟨-, hack⟩
    · rfl
    · rw [hack.state]

/-- **One operation.** If what is queued has the property, so has what is sent. -/
theorem SendsOnly.apply (h : SendsOnly A s.tx) (transport : TransportSettings) (op : LifeOp)
    (hqueued : ∀ request ∈ (op.actions transport s).filterMap SeatAction.queuedRequest, A request) :
    SendsOnly A (op.apply transport s).2.tx ∧
      ∀ request ∈ (op.actions transport s).filterMap SeatAction.sentRequest, A request := by
  rcases op with ⟨⟨channelId, channelType, payload⟩ | nowMs | ⟨bytes, nowMs⟩ | _⟩ | _ | _
  case call.queueSend =>
    refine ⟨⟨fun request hmem => ?_, h.inFlight⟩, fun _ hmem => absurd hmem List.not_mem_nil⟩
    rcases List.mem_append.1 hmem with hold | hnew
    · exact h.pending request hold
    · exact hqueued request hnew
  case call.pollTx =>
    obtain ⟨hafter, hsent⟩ := h.pollTx transport nowMs
    refine ⟨hafter, fun request hmem => ?_⟩
    rw [LifeOp.actions, List.filterMap_map] at hmem
    obtain ⟨bytes, hbytes, hrequest⟩ := List.mem_filterMap.1 hmem
    exact hsent bytes (Option.mem_toList.1 hbytes) request hrequest
  case call.onDatagramReceived =>
    have heffect := (onDatagramReceived_effect transport bytes nowMs s).2.2
    refine ⟨⟨fun request hmem => h.pending request ?_, heffect.inFlight h.inFlight⟩,
      fun _ hmem => absurd hmem List.not_mem_nil⟩
    exact heffect.pendingSend_eq ▸ hmem
  case call.requestClose =>
    refine ⟨?_, fun _ hmem => absurd hmem List.not_mem_nil⟩
    simp only [LifeOp.apply, SessionOp.apply, requestClose]
    split_ifs <;> exact ⟨h.pending, h.inFlight⟩
  case assignConnId => exact ⟨⟨h.pending, h.inFlight⟩, fun _ hmem => absurd hmem List.not_mem_nil⟩
  case drainEvents =>
    refine ⟨⟨h.pending, h.inFlight⟩, fun request hmem => ?_⟩
    rw [LifeOp.actions, List.filterMap_map] at hmem
    obtain ⟨_, -, hnone⟩ := List.mem_filterMap.1 hmem
    cases hnone

end Send

/-! ## One seat -/

section Seat

variable {A : SendRequest → Prop} {transport : TransportSettings} {seat seat' : Option SessionState}
  {actions : List SeatAction}

/-- **At a seat**, what is reported as data has arrived as data. -/
theorem SeatRun.reported (h : SeatRun transport seat actions seat')
    (hseat : ∀ s ∈ seat, HoldsOnly A s.rx)
    (harrived : ∀ request ∈ actions.filterMap SeatAction.arrivedRequest, A request) :
    ∀ request ∈ actions.filterMap SeatAction.reportedRequest, A request := by
  induction h with
  | done _ => exact fun _ hmem => nomatch hmem
  | @dropped seat seat' actions bytes nowMs _ ih =>
    refine ih hseat fun request hmem => harrived request ?_
    rw [show SeatAction.arrived bytes nowMs :: actions = [.arrived bytes nowMs] ++ actions from rfl,
      List.filterMap_append]
    exact List.mem_append_right _ hmem
  | opened random connId _ ih =>
    refine ih (fun s hs => ?_) harrived
    obtain rfl := Option.some.inj hs
    exact holdsOnly_empty
  | @lived s seat' actions op _ _ ih =>
    rw [List.filterMap_append] at harrived ⊢
    obtain ⟨hafter, hnew⟩ := (hseat s rfl).apply transport op
      fun request hmem => harrived request (List.mem_append_left _ hmem)
    intro request hmem
    rcases List.mem_append.1 hmem with hmem | hmem
    · exact hnew request hmem
    · exact ih (fun t ht => Option.some.inj ht ▸ hafter)
        (fun request hmem => harrived request (List.mem_append_right _ hmem)) request hmem
  | closed _ _ ih => exact ih (fun _ hs => nomatch hs) harrived

/-- What is sent as data has been queued. -/
theorem SeatRun.sent (h : SeatRun transport seat actions seat')
    (hseat : ∀ s ∈ seat, SendsOnly A s.tx)
    (hqueued : ∀ request ∈ actions.filterMap SeatAction.queuedRequest, A request) :
    ∀ request ∈ actions.filterMap SeatAction.sentRequest, A request := by
  induction h with
  | done _ => exact fun _ hmem => nomatch hmem
  | dropped bytes nowMs _ ih => exact ih hseat hqueued
  | opened random connId _ ih =>
    refine ih (fun s hs => ?_) hqueued
    obtain rfl := Option.some.inj hs
    exact sendsOnly_init .server random.initialSeq
  | @lived s seat' actions op _ _ ih =>
    rw [List.filterMap_append] at hqueued ⊢
    obtain ⟨hafter, hnew⟩ := (hseat s rfl).apply transport op
      fun request hmem => hqueued request (List.mem_append_left _ hmem)
    intro request hmem
    rcases List.mem_append.1 hmem with hmem | hmem
    · exact hnew request hmem
    · exact ih (fun t ht => Option.some.inj ht ▸ hafter)
        (fun request hmem => hqueued request (List.mem_append_right _ hmem)) request hmem
  | closed _ _ ih => exact ih (fun _ hs => nomatch hs) hqueued

end Seat

/-! ## Client and manager -/

/-- The client's part in a step. -/
def PeerOp.clientOp (s : PeerSystem) : PeerOp → Option LifeOp
  | .queueSend channelId channelType payload =>
    some (.call (.queueSend channelId channelType payload))
  | .requestClose => some (.call .requestClose)
  | .drainEvents => some .drainEvents
  | .pollTx nowMs => some (.call (.pollTx nowMs))
  | .toClient index nowMs =>
    (s.serverSent[index]?).map fun bytes => .call (.onDatagramReceived bytes nowMs)
  | .toServer _ _ _ | .manager _ => none

/-- The manager's part in a step. -/
def PeerOp.serverOp (settings : PeerSettings) (s : PeerSystem) : PeerOp → Option ManagerOp
  | .toServer random index nowMs =>
    (s.clientSent[index]?).map fun bytes =>
      .onDatagramReceived random settings.endpoint bytes nowMs
  | .manager op => if op.isFrom settings.endpoint then none else some op
  | .queueSend _ _ _ | .requestClose | .drainEvents | .pollTx _ | .toClient _ _ => none

/-- Both programs, what the client has done, and what the manager has done for the client. -/
structure PeerTraffic where
  system : PeerSystem
  client : List SeatAction := []
  server : List SeatAction := []

def PeerTraffic.start (initialSeq : U32) : PeerTraffic := { system := .start initialSeq }

def PeerTraffic.step (settings : PeerSettings) (r : PeerTraffic) (op : PeerOp) :
    Option PeerTraffic :=
  let serverOp := op.serverOp settings r.system
  if ∀ o ∈ serverOp, o.Orderly r.system.server.manager then
    (r.system.step settings op).map fun system =>
      { system
        client := r.client ++ (op.clientOp r.system).elim []
          fun o => o.actions settings.client r.system.client
        server := r.server ++ serverOp.elim []
          fun o => o.actionsAt settings.server r.system.server.manager settings.endpoint }
  else none

section Step

variable {settings : PeerSettings}

/-- What is under way, and what either side has arrived at. -/
structure Faithful (settings : PeerSettings) (r : PeerTraffic) : Prop where
  sound : Sound r.system.server.manager r.system.server.assigned
  seat : SeatRun settings.server none r.server (r.system.server.manager.sessionOf settings.endpoint)
  clientSent : ∀ bytes ∈ r.system.clientSent, .sent bytes ∈ r.client
  serverSent : ∀ bytes ∈ r.system.serverSent, .sent bytes ∈ r.server
  toServer : r.server.filterMap SeatAction.arrivedRequest ⊆
    r.client.filterMap SeatAction.sentRequest
  toClient : r.client.filterMap SeatAction.arrivedRequest ⊆
    r.server.filterMap SeatAction.sentRequest
  holds : HoldsOnly (· ∈ r.client.filterMap SeatAction.arrivedRequest) r.system.client.rx
  reported : r.client.filterMap SeatAction.reportedRequest ⊆
    r.client.filterMap SeatAction.arrivedRequest
  sends : SendsOnly (· ∈ r.client.filterMap SeatAction.queuedRequest) r.system.client.tx
  sent : r.client.filterMap SeatAction.sentRequest ⊆ r.client.filterMap SeatAction.queuedRequest

theorem faithful_start (settings : PeerSettings) (initialSeq : U32) :
    Faithful settings (.start initialSeq) where
  sound := sound_empty
  seat := .done none
  clientSent := fun _ hmem => nomatch hmem
  serverSent := fun _ hmem => nomatch hmem
  toServer := List.Subset.refl _
  toClient := List.Subset.refl _
  holds := holdsOnly_empty
  reported := List.Subset.refl _
  sends := sendsOnly_init .client initialSeq
  sent := List.Subset.refl _

/-- A request in one of the datagrams of a log. -/
theorem mem_sentRequest {actions : List SeatAction} {bytes : Bytes} {request : SendRequest}
    (hsent : .sent bytes ∈ actions) (hdata : request ∈ dataOf bytes) :
    request ∈ actions.filterMap SeatAction.sentRequest :=
  List.mem_filterMap.2 ⟨_, hsent, hdata⟩

theorem LifeOp.sent_mem_actions {transport : TransportSettings} {s : SessionState} {op : LifeOp}
    {bytes : Bytes} (hmem : bytes ∈ (op.apply transport s).1.toList) :
    .sent bytes ∈ op.actions transport s := by
  rcases op with ⟨_ | nowMs | _ | _⟩ | _ | _
  case call.pollTx => exact List.mem_map_of_mem hmem
  all_goals cases hmem

theorem ManagerOp.sent_mem_actionsAt {transport : TransportSettings} {m : ServerSessionManager}
    {e : EndpointKey} {op : ManagerOp} {bytes : Bytes} (hmem : bytes ∈ op.sentTo transport m e) :
    .sent bytes ∈ op.actionsAt transport m e := by
  cases op with
  | pollTx pendingOrder activeOrder nowMs =>
    obtain ⟨datagram, hdatagram, rfl⟩ := List.mem_map.1 hmem
    exact List.mem_map_of_mem hdatagram
  | onDatagramReceived | queueSend | drainEvents | drainActiveEvents => cases hmem

/-- The client does something. -/
theorem Faithful.clientPart {r : PeerTraffic} (h : Faithful settings r) {o : LifeOp}
    {clientSent : List Bytes}
    (hclientSent : clientSent = r.system.clientSent ++
      (o.apply settings.client r.system.client).1.toList)
    (harrived : (o.actions settings.client r.system.client).filterMap SeatAction.arrivedRequest ⊆
      r.server.filterMap SeatAction.sentRequest) :
    Faithful settings
      { system := { r.system with
          client := (o.apply settings.client r.system.client).2
          clientSent }
        client := r.client ++ o.actions settings.client r.system.client
        server := r.server ++ [] } := by
  rw [List.append_nil, hclientSent]
  have hgrows : ∀ f : SeatAction → Option SendRequest, r.client.filterMap f ⊆
      (r.client ++ o.actions settings.client r.system.client).filterMap f := by
    intro f
    rw [List.filterMap_append]
    exact List.subset_append_left _ _
  have hnew : ∀ f : SeatAction → Option SendRequest,
      (o.actions settings.client r.system.client).filterMap f ⊆
        (r.client ++ o.actions settings.client r.system.client).filterMap f := by
    intro f
    rw [List.filterMap_append]
    exact List.subset_append_right _ _
  obtain ⟨hholds, hreported⟩ := (h.holds.mono fun _ hmem => hgrows _ hmem).apply settings.client o
    fun _ hmem => hnew _ hmem
  obtain ⟨hsends, hsent⟩ := (h.sends.mono fun _ hmem => hgrows _ hmem).apply settings.client o
    fun _ hmem => hnew _ hmem
  refine ⟨h.sound, h.seat, fun bytes hmem => ?_, h.serverSent,
    List.Subset.trans h.toServer (hgrows _), ?_, hholds, ?_, hsends, ?_⟩
  · rcases List.mem_append.1 hmem with hold | hout
    · exact List.mem_append_left _ (h.clientSent bytes hold)
    · exact List.mem_append_right _ (LifeOp.sent_mem_actions hout)
  · rw [List.filterMap_append]
    exact List.append_subset_of_subset_of_subset h.toClient harrived
  · rw [List.filterMap_append (f := SeatAction.reportedRequest)]
    exact List.append_subset_of_subset_of_subset (List.Subset.trans h.reported (hgrows _))
      hreported
  · rw [List.filterMap_append (f := SeatAction.sentRequest)]
    exact List.append_subset_of_subset_of_subset (List.Subset.trans h.sent (hgrows _)) hsent

/-- The manager does something. -/
theorem Faithful.serverPart {r : PeerTraffic} (h : Faithful settings r) {o : ManagerOp}
    {server : ServerRun} {allocated : List (EndpointKey × U32)}
    (horderly : o.Orderly r.system.server.manager)
    (hstep : r.system.server.step settings.server o = some server)
    (harrived : (o.actionsAt settings.server r.system.server.manager
        settings.endpoint).filterMap SeatAction.arrivedRequest ⊆
      r.client.filterMap SeatAction.sentRequest) :
    Faithful settings
      { r with
        system := { r.system with
          server
          serverSent := r.system.serverSent ++
            o.sentTo settings.server r.system.server.manager settings.endpoint
          allocated }
        server := r.server ++
          o.actionsAt settings.server r.system.server.manager settings.endpoint } := by
  refine ⟨ServerRun.step_sound h.sound hstep,
    h.seat.trans (SeatLog.seatRun_step h.sound horderly hstep), h.clientSent, fun bytes hmem => ?_,
    ?_, ?_, h.holds, h.reported, h.sends, h.sent⟩
  · rcases List.mem_append.1 hmem with hold | hout
    · exact List.mem_append_left _ (h.serverSent bytes hold)
    · exact List.mem_append_right _ (ManagerOp.sent_mem_actionsAt hout)
  · rw [List.filterMap_append]
    exact List.append_subset_of_subset_of_subset h.toServer harrived
  · rw [List.filterMap_append]
    exact List.Subset.trans h.toClient (List.subset_append_left _ _)

/-- The manager is called, with a datagram that is none of the client's or one that the client has
sent. -/
theorem Faithful.callManager {r : PeerTraffic} (h : Faithful settings r) {o : ManagerOp}
    {system : PeerSystem} (horderly : o.Orderly r.system.server.manager)
    (hcall : r.system.callManager settings o = some system)
    (hfrom : ∀ random bytes nowMs, o = .onDatagramReceived random settings.endpoint bytes nowMs →
      bytes ∈ r.system.clientSent) :
    Faithful settings
      { system
        client := r.client ++ []
        server := r.server ++
          o.actionsAt settings.server r.system.server.manager settings.endpoint } := by
  rw [List.append_nil]
  obtain ⟨server, hstep, rfl⟩ := Option.map_eq_some_iff.1 hcall
  refine h.serverPart horderly hstep fun request hmem => ?_
  cases o with
  | onDatagramReceived random endpoint bytes nowMs =>
    rw [ManagerOp.actionsAt] at hmem
    split_ifs at hmem with heq
    · subst heq
      obtain ⟨action, haction, hrequest⟩ := List.mem_filterMap.1 hmem
      rw [List.mem_singleton.1 haction] at hrequest
      exact mem_sentRequest (h.clientSent bytes (hfrom random bytes nowMs rfl)) hrequest
    · cases hmem
  | pollTx | drainEvents =>
    rw [ManagerOp.actionsAt, List.filterMap_map] at hmem
    obtain ⟨_, -, hnone⟩ := List.mem_filterMap.1 hmem
    cases hnone
  | queueSend =>
    rw [ManagerOp.actionsAt] at hmem
    split_ifs at hmem <;> cases hmem
  | drainActiveEvents =>
    rw [ManagerOp.actionsAt] at hmem
    split_ifs at hmem
    · rw [List.filterMap_map] at hmem
      obtain ⟨_, -, hnone⟩ := List.mem_filterMap.1 hmem
      cases hnone
    · cases hmem

/-- **One step.** -/
theorem Faithful.step {r r' : PeerTraffic} (h : Faithful settings r) {op : PeerOp}
    (hstep : r.step settings op = some r') : Faithful settings r' := by
  rw [PeerTraffic.step] at hstep
  split_ifs at hstep with horderly
  obtain ⟨system, hsystem, rfl⟩ := Option.map_eq_some_iff.1 hstep
  have hidle : Faithful settings
      { system := r.system, client := r.client ++ [], server := r.server ++ [] } := by
    rw [List.append_nil, List.append_nil]
    exact h
  cases op with
  | queueSend channelId channelType payload =>
    obtain rfl := Option.some.inj hsystem
    exact h.clientPart (o := .call (.queueSend channelId channelType payload))
      (List.append_nil _).symm fun _ hmem => nomatch hmem
  | requestClose =>
    obtain rfl := Option.some.inj hsystem
    exact h.clientPart (o := .call .requestClose) (List.append_nil _).symm
      fun _ hmem => nomatch hmem
  | drainEvents =>
    obtain rfl := Option.some.inj hsystem
    refine h.clientPart (o := .drainEvents) (List.append_nil _).symm fun request hmem => ?_
    rw [LifeOp.actions, List.filterMap_map] at hmem
    obtain ⟨_, -, hnone⟩ := List.mem_filterMap.1 hmem
    cases hnone
  | pollTx nowMs =>
    obtain rfl := Option.some.inj hsystem
    refine h.clientPart (o := .call (.pollTx nowMs)) rfl fun request hmem => ?_
    rw [LifeOp.actions, List.filterMap_map] at hmem
    obtain ⟨_, -, hnone⟩ := List.mem_filterMap.1 hmem
    cases hnone
  | toClient index nowMs =>
    simp only [PeerOp.clientOp, PeerOp.serverOp]
    cases hget : r.system.serverSent[index]? with
    | none =>
      rw [PeerSystem.step, hget] at hsystem
      obtain rfl := Option.some.inj hsystem
      exact hidle
    | some bytes =>
      rw [PeerSystem.step, hget] at hsystem
      obtain rfl := Option.some.inj hsystem
      refine h.clientPart (o := .call (.onDatagramReceived bytes nowMs)) (List.append_nil _).symm
        fun request hmem => ?_
      obtain ⟨action, haction, hrequest⟩ := List.mem_filterMap.1 hmem
      rw [List.mem_singleton.1 haction] at hrequest
      exact mem_sentRequest (h.serverSent bytes (List.mem_of_getElem? hget)) hrequest
  | toServer random index nowMs =>
    rw [PeerSystem.step] at hsystem
    simp only [PeerOp.clientOp, PeerOp.serverOp] at horderly ⊢
    cases hget : r.system.clientSent[index]? with
    | none =>
      rw [hget] at hsystem
      obtain rfl := Option.some.inj hsystem
      exact hidle
    | some bytes =>
      rw [hget] at hsystem horderly
      refine h.callManager (horderly _ rfl) hsystem fun random' bytes' nowMs' heq => ?_
      cases heq
      exact List.mem_of_getElem? hget
  | manager op =>
    rw [PeerSystem.step] at hsystem
    simp only [PeerOp.clientOp, PeerOp.serverOp] at horderly ⊢
    by_cases hfrom : op.isFrom settings.endpoint = true
    · rw [if_pos hfrom] at hsystem ⊢
      obtain rfl := Option.some.inj hsystem
      exact hidle
    · rw [if_neg hfrom] at hsystem horderly ⊢
      refine h.callManager (horderly _ rfl) hsystem fun random bytes nowMs heq => ?_
      subst heq
      exact absurd (decide_eq_true rfl) hfrom

end Step

/-- **What the application is told, the other side has queued.** In every run of a client and a
manager over a network that loses, repeats, delays and reorders their datagrams, and whatever other
endpoints send to the manager: each message that the server reports as the client's, the application
of the client has queued, with this channel and this payload; and the other way round. -/
theorem data_integrity (settings : PeerSettings) (initialSeq : U32) {ops : List PeerOp}
    {r : PeerTraffic}
    (hrun : Run.runM (PeerTraffic.step settings) (.start initialSeq) ops = some r) :
    r.server.filterMap SeatAction.reportedRequest ⊆
        r.client.filterMap SeatAction.queuedRequest ∧
      r.client.filterMap SeatAction.reportedRequest ⊆
        r.server.filterMap SeatAction.queuedRequest := by
  have h : Faithful settings r :=
    Run.invariantM (Faithful settings) (fun _ _ _ h hstep => h.step hstep)
      (faithful_start settings initialSeq) hrun
  constructor
  · calc r.server.filterMap SeatAction.reportedRequest
      _ ⊆ r.server.filterMap SeatAction.arrivedRequest := fun request hmem =>
        h.seat.reported (A := (· ∈ r.server.filterMap SeatAction.arrivedRequest))
          (fun _ hs => nomatch hs) (fun _ hmem => hmem) request hmem
      _ ⊆ r.client.filterMap SeatAction.sentRequest := h.toServer
      _ ⊆ r.client.filterMap SeatAction.queuedRequest := h.sent
  · calc r.client.filterMap SeatAction.reportedRequest
      _ ⊆ r.client.filterMap SeatAction.arrivedRequest := h.reported
      _ ⊆ r.server.filterMap SeatAction.sentRequest := h.toClient
      _ ⊆ r.server.filterMap SeatAction.queuedRequest := fun request hmem =>
        h.seat.sent (A := (· ∈ r.server.filterMap SeatAction.queuedRequest))
          (fun _ hs => nomatch hs) (fun _ hmem => hmem) request hmem

/-- After the handshake the client's message reaches the server twice, and the server answers it. -/
def questionAndAnswer : List PeerOp :=
  lateMessage ++ [.toServer ⟨0, []⟩ 2 3, .manager (.drainEvents [] [clientEndpoint]),
    .manager (.queueSend 7 1 .reliableOrdered [0x02]), .manager (.pollTx [] [clientEndpoint] 4),
    .toClient 1 4, .drainEvents]

theorem data_integrity_questionAndAnswer :
    ∃ r, Run.runM (PeerTraffic.step clientPeer) (.start 500) questionAndAnswer = some r ∧
      r.server.filterMap SeatAction.reportedRequest = [⟨1, .reliableOrdered, [0x01]⟩] ∧
      r.client.filterMap SeatAction.reportedRequest = [⟨1, .reliableOrdered, [0x02]⟩] ∧
      r.server.filterMap SeatAction.reportedRequest ⊆
        r.client.filterMap SeatAction.queuedRequest ∧
      r.client.filterMap SeatAction.reportedRequest ⊆
        r.server.filterMap SeatAction.queuedRequest := by
  have hvalues : ((Run.runM (PeerTraffic.step clientPeer) (.start 500)
      questionAndAnswer).map fun r =>
        (r.server.filterMap SeatAction.reportedRequest,
          r.client.filterMap SeatAction.reportedRequest)) =
      some ([⟨1, .reliableOrdered, [0x01]⟩], [⟨1, .reliableOrdered, [0x02]⟩]) := by
    decide +kernel
  obtain ⟨r, hr, hpair⟩ := Option.map_eq_some_iff.1 hvalues
  obtain ⟨hserver, hclient⟩ := Prod.mk.inj hpair
  exact ⟨r, hr, hserver, hclient, data_integrity clientPeer 500 hr⟩

end Rudp
