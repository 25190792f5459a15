import Rudp.ManagerEvents
import Rudp.SessionGreeting
import Rudp.SessionPoll

/-!
# How a session leaves the tables

The manager drops a session once it is reset or closed. A session that is neither established nor
ended waits, for its handshake to complete or, in `Closing`, for the acknowledgement of a FIN that
nobody made it send. No timer watches it: if no datagram arrives any more, the only thing that ends
it is a packet that uses up its retransmissions. `hasWayOut` says whether there is such a packet or
will be one, and `removal_scheduled_iff` that this decides: with it a finite schedule of polls
removes the session, and without it every poll leaves it where it is.
-/

namespace Rudp

open TxHandler Session

/-! ## What will be in flight -/

/-- A request is waiting that will go in flight, and the window lets it through. -/
def requestWaits (tx : TxSessionState) : Bool :=
  !reliableWindowFull tx && tx.pendingSend.any fun request => isReliableChannel request.channelType

/-- The session has a packet in flight, or one to send that will be. -/
def hasWayOut (s : SessionState) : Bool :=
  !s.tx.inflight.isEmpty || handshakeDue s.role s.connectionState s.tx || requestWaits s.tx

/-- What the lanes behind the scan have to send. -/
def backlog (tx : TxSessionState) : ℕ :=
  tx.probe.pongPending.toNat + tx.probe.pingPending.toNat + tx.ackOnlyPending.toNat +
    tx.pendingSend.length

/-- What a poll of a session that is not established looks at. -/
structure SameLanes (tx tx' : TxSessionState) : Prop where
  core : SameCore tx tx'
  synAck : tx'.synAckPending = tx.synAckPending
  waiting : tx'.waiting = tx.waiting

section Lanes

variable {transport : TransportSettings} {nowMs : U64} {role : SessionRole} {connId : U32}
  {state next : ConnectionState} {rx : RxSessionState} {tx tx' : TxSessionState}

theorem SameLanes.requestWaits (h : SameLanes tx tx') : requestWaits tx' = requestWaits tx := by
  have hpending : tx'.pendingSend = tx.pendingSend := h.core.pendingSend
  simp only [Rudp.requestWaits, reliableWindowFull, h.core.nextSeq, h.core.remoteAck, hpending]

theorem SameLanes.handshakeDue (h : SameLanes tx tx') (hstate : state.isPending) :
    handshakeDue role state tx' = handshakeDue role state tx := by
  rcases hstate with rfl | rfl <;>
    simp only [Rudp.handshakeDue, reliableWindowFull, h.core.nextSeq, h.core.remoteAck, h.synAck,
      h.core.finPending]

theorem SameLanes.backlog (h : SameLanes tx tx') : backlog tx' = backlog tx := by
  obtain ⟨hpong, hping, hack, hpending⟩ : tx'.probe.pongPending = tx.probe.pongPending ∧
      tx'.probe.pingPending = tx.probe.pingPending ∧ tx'.ackOnlyPending = tx.ackOnlyPending ∧
      tx'.pendingSend = tx.pendingSend := by
    simpa [TxSessionState.waiting] using h.waiting
  simp only [Rudp.backlog, hpong, hping, hack, hpending]

theorem applyOutboundResult_sameLanes (datagram : Bytes) (isRetransmission : Bool)
    (s : SessionState) : SameLanes s.tx (applyOutboundResult datagram nowMs isRetransmission s).tx := by
  refine ⟨(applyOutboundResult_frame nowMs s datagram isRetransmission).tx, ?_,
    applyOutboundResult_waiting datagram isRetransmission⟩
  rw [applyOutboundResult]
  split
  · rfl
  · simp only [updateOutboundProbeState, recordOutboundStats, clearOutboundAckState]
    split_ifs <;> rfl

/-- **Behind the scan.** A reliable request goes in flight, or what is in flight stays and the
request that will go in flight has come nearer. -/
theorem tryBuildFresh_progress : let tx' := (tryBuildFresh nowMs connId rx tx).2
    tx'.inflight.isEmpty = false ∧ requestWaits tx = true ∨
    tx'.inflight = tx.inflight ∧ requestWaits tx' = requestWaits tx ∧
      handshakeDue role state tx' = handshakeDue role state tx ∧
      (requestWaits tx = true → backlog tx' < backlog tx) := by
  intro tx'
  simp only [tx', tryBuildFresh]
  cases hpending : tx.pendingSend with
  | nil => exact Or.inr ⟨rfl, rfl, rfl, fun h => by simp [requestWaits, hpending] at h⟩
  | cons request rest =>
    have hfull : reliableWindowFull { tx with pendingSend := rest } = reliableWindowFull tx := rfl
    simp only [hfull, makePacketFromRequest]
    cases hreliable : isReliableChannel request.channelType with
    | true =>
      cases hwindow : reliableWindowFull tx with
      | true =>
        refine Or.inr ⟨rfl, ?_, rfl, fun h => ?_⟩
        · simp only [if_true, Bool.and_self, ← hpending]
        · simp [requestWaits, hwindow] at h
      | false =>
        left
        simp [requestWaits, hpending, hreliable, hwindow]
    | false =>
      refine Or.inr ⟨rfl, ?_, rfl, fun _ => ?_⟩
      · simp only [requestWaits, hpending, List.any_cons, hreliable, Bool.false_or]
        rfl
      · simp [backlog, hpending]

/-- What a poll comes to that finds no packet to send again. -/
theorem poll_progress
    (h : tryBuildHandshake transport nowMs role connId state rx tx = (none, next, tx))
    (hdue : firstDue transport nowMs tx = none) :
    let tx' := (poll transport nowMs role connId state rx tx).2.2
    tx'.inflight.isEmpty = false ∧ requestWaits tx = true ∨
    tx'.inflight = tx.inflight ∧ requestWaits tx' = requestWaits tx ∧
      Rudp.handshakeDue role state tx' = Rudp.handshakeDue role state tx ∧
      (requestWaits tx = true → backlog tx' < backlog tx) := by
  intro tx'
  simp only [tx', poll_behind_scan h hdue]
  split_ifs with hpong hping hack
  · exact Or.inr ⟨rfl, rfl, rfl, fun _ => by simp [backlog, hpong]⟩
  · exact Or.inr ⟨rfl, rfl, rfl, fun _ => by simp [backlog, hping]⟩
  · exact Or.inr ⟨rfl, rfl, rfl, fun _ => by simp [backlog, hack]⟩
  · exact tryBuildFresh_progress

/-- The last time there is. -/
def lastMs : U64 := BitVec.allOnes 64

/-- At the last time there is, every packet is due. -/
theorem firstDue_lastMs : firstDue transport lastMs tx = tx.inflight.toList.head? := by
  have hlast : ∀ t : U64, t ≤ lastMs := by
    intro t
    rw [lastMs, BitVec.le_def, BitVec.toNat_allOnes]
    exact Nat.le_sub_one_of_lt t.isLt
  rw [firstDue]
  simp only [TxEntry.due, hlast, decide_true, Bool.or_true]
  cases tx.inflight.toList <;> rfl

end Lanes

namespace ServerSessionManager

/-! ## One session -/

/-- What a poll leaves of a session in the tables. -/
def keptBy (transport : TransportSettings) (s : SessionState) (nowMs : U64) :
    Option SessionState :=
  if endsAt transport nowMs s then none else some (Session.pollTx transport nowMs s).2

/-- A server session that is neither established nor ended, and that nobody closes. -/
structure Lingering (s : SessionState) : Prop where
  unclosed : Unclosed s
  state : s.connectionState.isPending

section Session

variable {transport : TransportSettings} {nowMs : U64} {s : SessionState}

theorem Lingering.not_established (h : Lingering s) : s.connectionState ≠ .established := by
  rcases h.state with hstate | hstate <;> rw [hstate] <;> decide

/-- What the transmit handler does when this session is polled. -/
def polledLane (transport : TransportSettings) (nowMs : U64) (s : SessionState) :
    TxPollResult × ConnectionState × TxSessionState :=
  poll transport nowMs s.role s.connId s.connectionState s.rx s.tx

/-- A poll that fails removes the session; any other leaves it in its state. -/
theorem Lingering.keptBy_eq (h : Lingering s) :
    if (polledLane transport nowMs s).1.fatalError then keptBy transport s nowMs = none
    else ∃ s', keptBy transport s nowMs = some s' ∧ Lingering s' ∧ s'.role = s.role ∧
      s'.connectionState = s.connectionState ∧
      SameLanes (polledLane transport nowMs s).2.2 s'.tx := by
  obtain ⟨htimeout, hschedule⟩ := @pollTx_of_not_established transport nowMs s h.not_established
  have hstate := @pollTx_connectionState transport nowMs s htimeout
  have hunclosed := @Unclosed.poll transport nowMs s h.unclosed
  have hlane : laneResult transport nowMs s = polledLane transport nowMs s := by
    rw [laneResult, hschedule, polledLane]
  have hpoll := @pollTx_eq transport nowMs s htimeout
  rw [hlane] at hstate hpoll
  simp only [h.unclosed.role, reduceCtorEq, false_and, if_false] at hstate
  rw [keptBy, endsAt, hstate]
  cases hfatal : (polledLane transport nowMs s).1.fatalError with
  | true => simp [hpoll, hfatal, isTerminalState]
  | false =>
    simp only [hfatal, Bool.false_eq_true, if_false] at hpoll hstate ⊢
    have hrole : (Session.pollTx transport nowMs s).2.role = s.role :=
      hunclosed.role.trans h.unclosed.role.symm
    have hlives : isTerminalState s.connectionState = false := by
      rcases h.state with hstate | hstate <;> rw [hstate] <;> rfl
    refine ⟨_, by simp [hlives], ⟨hunclosed, hstate ▸ h.state⟩, hrole, hstate, ?_⟩
    rw [hpoll]
    cases (polledLane transport nowMs s).1.datagram with
    | none => exact ⟨.refl _, rfl, rfl⟩
    | some datagram =>
      exact applyOutboundResult_sameLanes datagram (polledLane transport nowMs s).1.retransmission
        { s with
          connectionState := (polledLane transport nowMs s).2.1
          tx := (polledLane transport nowMs s).2.2 }

/-- The handshake lane goes first: it puts a SYN-ACK in flight and has nothing more to send. -/
theorem Lingering.poll_due (h : Lingering s)
    (hdue : handshakeDue s.role s.connectionState s.tx = true) :
    ∃ s', keptBy transport s nowMs = some s' ∧ Lingering s' ∧ s'.tx.inflight.isEmpty = false ∧
      handshakeDue s'.role s'.connectionState s'.tx = false := by
  have hkept := @Lingering.keptBy_eq transport nowMs s h
  rcases h.state with hstate | hstate
  · simp only [handshakeDue, hstate, Bool.and_eq_true, Bool.not_eq_true'] at hdue
    have hpoll := @poll_synAck transport nowMs s.role s.connId s.rx s.tx hdue.1 hdue.2
    rw [polledLane, hstate, hpoll] at hkept
    simp only [makePollResult, Bool.false_eq_true, if_false] at hkept
    obtain ⟨s', hs', hlingers, -, hsame, hlanes⟩ := hkept
    refine ⟨s', hs', hlingers, ?_, ?_⟩
    · rw [hlanes.core.inflight]
      simp [sendNumbered]
    · simp only [handshakeDue, hsame, hlanes.synAck, Bool.false_and]
  · simp [handshakeDue, hstate, h.unclosed.fin] at hdue

/-- The lanes of a session whose handshake lane has nothing to send. -/
theorem Lingering.tryBuildHandshake_none (h : Lingering s)
    (hdue : handshakeDue s.role s.connectionState s.tx = false) :
    tryBuildHandshake transport nowMs s.role s.connId s.connectionState s.rx s.tx =
      (none, s.connectionState, s.tx) := by
  rw [tryBuildHandshake_of_not_due hdue, h.unclosed.role]
  simp

/-- Then the scan: at the packet it stops at, the session is given up or the packet goes again. -/
theorem Lingering.poll_first (h : Lingering s)
    (hdue : handshakeDue s.role s.connectionState s.tx = false) {seq : U32} {entry : TxEntry}
    (hfirst : firstDue transport nowMs s.tx = some (seq, entry)) :
    if entry.exhausted transport then keptBy transport s nowMs = none
    else ∃ s' entry', keptBy transport s nowMs = some s' ∧ Lingering s' ∧
      handshakeDue s'.role s'.connectionState s'.tx = false ∧
      s'.tx.inflight = s.tx.inflight.insert seq entry' ∧
      entry'.retryCount = entry.retryCount + 1 := by
  have hkept := @Lingering.keptBy_eq transport nowMs s h
  have hpoll := poll_of_firstDue (@Lingering.tryBuildHandshake_none transport nowMs s h hdue) hfirst
  rw [polledLane, hpoll, stopAt] at hkept
  cases hexhausted : entry.exhausted transport with
  | true =>
    simp only [hexhausted, if_true] at hkept ⊢
    exact hkept
  | false =>
    simp only [hexhausted, Bool.false_eq_true, if_false, makePollResult] at hkept ⊢
    obtain ⟨s', hs', hlingers, hrole, hsame, hlanes⟩ := hkept
    refine ⟨s', _, hs', hlingers, ?_, hlanes.core.inflight, rfl⟩
    rw [hrole, hsame, hlanes.handshakeDue h.state]
    exact hdue

/-- With nothing in flight, the session stays, and what it has to send next comes nearer. -/
theorem Lingering.poll_idle (h : Lingering s)
    (hdue : handshakeDue s.role s.connectionState s.tx = false)
    (hempty : s.tx.inflight.isEmpty = true) :
    ∃ s', keptBy transport s nowMs = some s' ∧ Lingering s' ∧
      s'.connectionState = s.connectionState ∧
      (s'.tx.inflight.isEmpty = false ∧ requestWaits s.tx = true ∨
        s'.tx.inflight.isEmpty = true ∧ requestWaits s'.tx = requestWaits s.tx ∧
          handshakeDue s'.role s'.connectionState s'.tx = false ∧
          (requestWaits s.tx = true → backlog s'.tx < backlog s.tx)) := by
  have hkept := @Lingering.keptBy_eq transport nowMs s h
  have hnone := @Lingering.tryBuildHandshake_none transport nowMs s h hdue
  have hfirst : firstDue transport nowMs s.tx = none := by
    rw [firstDue, Std.ExtTreeMap.isEmpty_iff.1 hempty]
    simp
  have hfatal : (polledLane transport nowMs s).1.fatalError = false := by
    rw [polledLane, poll_fatalError, hfirst]
    simp
  rw [hfatal, if_neg Bool.false_ne_true] at hkept
  obtain ⟨s', hs', hlingers, hrole, hsame, hlanes⟩ := hkept
  refine ⟨s', hs', hlingers, hsame, ?_⟩
  rw [hlanes.core.inflight, hlanes.requestWaits, hlanes.backlog, hrole, hsame,
    hlanes.handshakeDue h.state]
  rcases @poll_progress transport nowMs s.role s.connId s.connectionState s.connectionState s.rx
    s.tx hnone hfirst with hsent | ⟨hinflight, hwaits, hshake, hless⟩
  · exact Or.inl hsent
  · refine Or.inr ⟨?_, hwaits, hshake.trans hdue, hless⟩
    rw [polledLane, hinflight]
    exact hempty

/-! ## Polls that end it -/

/-- What is left of the retransmissions of the packet that the scan looks at first. -/
def retriesLeft (transport : TransportSettings) (s : SessionState) : ℕ :=
  s.tx.inflight.toList.head?.elim 0 fun item =>
    transport.maxRetransmitCount.toNat - item.2.retryCount.toNat

/-- The packet that the scan looks at first uses up its retransmissions. -/
theorem Lingering.ends_of_scan (h : Lingering s)
    (hdue : handshakeDue s.role s.connectionState s.tx = false)
    (hinflight : s.tx.inflight.isEmpty = false) : Run.EndsBy (keptBy transport) lastMs s := by
  refine Run.EndsBy.of_measure (fun s => Lingering s ∧
    handshakeDue s.role s.connectionState s.tx = false ∧
    ∃ seq entry, s.tx.inflight.toList.head? = some (seq, entry)) (retriesLeft transport)
    ?_ ⟨h, hdue, ?_⟩
  · rintro s s' ⟨h, hdue, seq, entry, hhead⟩ hs'
    have hpoll := @Lingering.poll_first transport lastMs s h hdue seq entry
      (firstDue_lastMs.trans hhead)
    cases hexhausted : entry.exhausted transport with
    | true =>
      rw [hexhausted, if_pos rfl, hs'] at hpoll
      cases hpoll
    | false =>
      rw [hexhausted, if_neg Bool.false_ne_true] at hpoll
      obtain ⟨t, entry', ht, hlingers, hdue', hinserted, hretry⟩ := hpoll
      obtain rfl := Option.some.inj (hs'.symm.trans ht)
      have hhead' : s'.tx.inflight.toList.head? = some (seq, entry') := by
        rw [hinserted]
        exact SeqMap.head?_toList_insert hhead entry'
      have hlt : entry.retryCount.toNat < transport.maxRetransmitCount.toNat := by
        simpa [TxEntry.exhausted, BitVec.lt_def] using hexhausted
      refine Or.inr ⟨⟨hlingers, hdue', seq, entry', hhead'⟩, ?_⟩
      -- The count does not wrap: it is still below its limit.
      have hnext : (entry.retryCount + 1).toNat = entry.retryCount.toNat + 1 := by
        have := transport.maxRetransmitCount.isLt
        rw [BitVec.toNat_add]
        exact Nat.mod_eq_of_lt (by simp; omega)
      simp only [retriesLeft, hhead, hhead', Option.elim_some, hretry, hnext]
      omega
  · cases hhead : s.tx.inflight.toList.head? with
    | some item => exact ⟨item.1, item.2, rfl⟩
    | none =>
      rw [List.head?_eq_none_iff, Std.ExtTreeMap.toList_eq_nil_iff] at hhead
      rw [hhead] at hinflight
      simp at hinflight

theorem Lingering.ends_of_due (h : Lingering s)
    (hdue : handshakeDue s.role s.connectionState s.tx = true) :
    Run.EndsBy (keptBy transport) lastMs s := by
  refine .of_step fun s' hs' => ?_
  obtain ⟨t, ht, hlingers, hinflight, hdone⟩ := @Lingering.poll_due transport lastMs s h hdue
  obtain rfl := Option.some.inj (hs'.symm.trans ht)
  exact hlingers.ends_of_scan hdone hinflight

theorem Lingering.ends_of_inFlight (h : Lingering s)
    (hinflight : s.tx.inflight.isEmpty = false) : Run.EndsBy (keptBy transport) lastMs s := by
  cases hdue : handshakeDue s.role s.connectionState s.tx with
  | true => exact h.ends_of_due hdue
  | false => exact h.ends_of_scan hdue hinflight

/-- A request that will go in flight does so once everything before it has been sent. -/
theorem Lingering.ends_of_request (h : Lingering s)
    (hdue : handshakeDue s.role s.connectionState s.tx = false)
    (hempty : s.tx.inflight.isEmpty = true) (hwaits : requestWaits s.tx = true) :
    Run.EndsBy (keptBy transport) lastMs s := by
  refine Run.EndsBy.of_measure (fun s => Lingering s ∧
    handshakeDue s.role s.connectionState s.tx = false ∧ s.tx.inflight.isEmpty = true ∧
    requestWaits s.tx = true) (fun s => backlog s.tx) ?_ ⟨h, hdue, hempty, hwaits⟩
  rintro s s' ⟨h, hdue, hempty, hwaits⟩ hs'
  obtain ⟨t, ht, hlingers, -, hpoll⟩ := @Lingering.poll_idle transport lastMs s h hdue hempty
  obtain rfl := Option.some.inj (hs'.symm.trans ht)
  rcases hpoll with ⟨hinflight, -⟩ | ⟨hstill, hsame, hdue', hless⟩
  · exact Or.inl (hlingers.ends_of_inFlight hinflight)
  · exact Or.inr ⟨⟨hlingers, hdue', hstill, hsame.trans hwaits⟩, hless hwaits⟩

/-- **A way out is taken.** -/
theorem Lingering.ends (h : Lingering s) (hway : hasWayOut s = true) :
    Run.EndsBy (keptBy transport) lastMs s := by
  cases hempty : s.tx.inflight.isEmpty with
  | false => exact h.ends_of_inFlight hempty
  | true =>
    cases hdue : handshakeDue s.role s.connectionState s.tx with
    | true => exact h.ends_of_due hdue
    | false =>
      refine h.ends_of_request hdue hempty ?_
      simpa [hasWayOut, hdue, hempty] using hway

/-- **Without one, every poll keeps the session, in its state.** -/
theorem Lingering.stays (h : Lingering s) (hway : hasWayOut s = false) (times : List U64) :
    ∃ s', Run.runM (keptBy transport) s times = some s' ∧
      s'.connectionState = s.connectionState := by
  have hstep : ∀ t nowMs, (Lingering t ∧ hasWayOut t = false ∧
        t.connectionState = s.connectionState) →
      ∃ t', keptBy transport t nowMs = some t' ∧ Lingering t' ∧ hasWayOut t' = false ∧
        t'.connectionState = s.connectionState := by
    rintro t nowMs ⟨h, hway, hsame⟩
    simp only [hasWayOut, Bool.or_eq_false_iff, Bool.not_eq_false'] at hway
    obtain ⟨⟨hempty, hdue⟩, hwaits⟩ := hway
    obtain ⟨t', ht', hlingers, hstate, hpoll⟩ :=
      @Lingering.poll_idle transport nowMs t h hdue hempty
    refine ⟨t', ht', hlingers, ?_, hstate.trans hsame⟩
    rcases hpoll with ⟨-, hsent⟩ | ⟨hstill, hwaits', hdue', -⟩
    · rw [hwaits] at hsent
      cases hsent
    · simp [hasWayOut, hstill, hdue', hwaits', hwaits]
  obtain ⟨s', hs', -, -, hsame⟩ := Run.runM_of_invariant _ hstep ⟨h, hway, rfl⟩ times
  exact ⟨s', hs', hsame⟩

end Session

/-! ## The tables -/

/-- Where a session is kept. -/
inductive TableKey where
  | pending (endpoint : EndpointKey)
  | active (connId : U32)

def session (m : ServerSessionManager) : TableKey → Option SessionState
  | .pending endpoint => m.pendingByEndpoint.lookup endpoint
  | .active connId => m.activeByConnId.lookup connId

/-- The manager is polled at these times, and visits its tables in some order each time. -/
inductive Polled (transport : TransportSettings) :
    ServerSessionManager → List U64 → ServerSessionManager → Prop where
  | done {m : ServerSessionManager} : Polled transport m [] m
  | poll {m m' : ServerSessionManager} {nowMs : U64} {times : List U64}
      {pendingOrder activeOrder : List EndpointKey}
      (hp : Enumerates pendingOrder m.pendingByEndpoint)
      (ha : Enumerates activeOrder m.activeConnIdByEndpoint)
      (hrest : Polled transport (m.pollTx transport pendingOrder activeOrder nowMs).2 times m') :
      Polled transport m (nowMs :: times) m'

section Tables

variable {transport : TransportSettings} {nowMs : U64} {m m' : ServerSessionManager}
  {assigned : List U32} {times : List U64}

theorem exists_enumerates {σ : Type} (t : Finmap fun _ : EndpointKey => σ) :
    ∃ order, Enumerates order t :=
  ⟨t.keys.toList, t.keys.nodup_toList, t.keys.toList_toFinset⟩

theorem exists_polled (transport : TransportSettings) (m : ServerSessionManager)
    (times : List U64) : ∃ m', Polled transport m times m' := by
  induction times generalizing m with
  | nil => exact ⟨m, .done⟩
  | cons nowMs times ih =>
    obtain ⟨pendingOrder, hp⟩ := exists_enumerates m.pendingByEndpoint
    obtain ⟨activeOrder, ha⟩ := exists_enumerates m.activeConnIdByEndpoint
    obtain ⟨m', hm'⟩ := ih (m.pollTx transport pendingOrder activeOrder nowMs).2
    exact ⟨m', .poll hp ha hm'⟩

/-- **One poll.** It does to every session, wherever it is kept, what it does to it alone. -/
theorem Sound.pollTx_session (h : Sound m assigned) {pendingOrder activeOrder : List EndpointKey}
    (hp : Enumerates pendingOrder m.pendingByEndpoint)
    (ha : Enumerates activeOrder m.activeConnIdByEndpoint) (key : TableKey) :
    (ServerSessionManager.pollTx transport pendingOrder activeOrder nowMs m).2.session key =
      (m.session key).bind fun s => keptBy transport s nowMs := by
  cases key with
  | pending e => exact pollTx_pending hp.visits e
  | active c => exact (h.pollTx_active ha.visits c).1

/-- **Any number of polls.** -/
theorem Polled.session (hpolled : Polled transport m times m') (h : Sound m assigned)
    (key : TableKey) :
    m'.session key = (m.session key).bind fun s => Run.runM (keptBy transport) s times := by
  induction hpolled with
  | done => simp
  | poll hp ha hrest ih =>
    rw [ih (h.pollTx _ _), h.pollTx_session hp ha, Option.bind_assoc]
    rfl

/-- The sessions in the tables that are not established. -/
theorem Sound.lingering (h : Sound m assigned) (hunclosed : Everywhere Unclosed m) {key : TableKey}
    {s : SessionState} (hs : m.session key = some s) (hne : s.connectionState ≠ .established) :
    Lingering s := by
  cases key with
  | pending e => exact ⟨hunclosed.pending e s hs, h.live.pending e s hs⟩
  | active c =>
    exact ⟨hunclosed.active c s hs, Or.inr ((h.live.active c s hs).resolve_left hne)⟩

/-- A session without a way out stays, in its state, however often the manager is polled. -/
theorem Sound.stuck (h : Sound m assigned) (hunclosed : Everywhere Unclosed m) {key : TableKey}
    {s : SessionState} (hs : m.session key = some s) (hne : s.connectionState ≠ .established)
    (hway : hasWayOut s = false) (hpolled : Polled transport m times m') :
    ∃ s', m'.session key = some s' ∧ s'.connectionState = s.connectionState := by
  obtain ⟨s', hs', hsame⟩ :=
    @Lingering.stays transport s (h.lingering hunclosed hs hne) hway times
  exact ⟨s', by rw [hpolled.session h, hs, Option.bind_some, hs'], hsame⟩

/-- **Exactly the sessions that can be removed.** -/
theorem Sound.removal_iff (h : Sound m assigned) (hunclosed : Everywhere Unclosed m)
    {key : TableKey} {s : SessionState} (hs : m.session key = some s)
    (hne : s.connectionState ≠ .established) :
    (∃ times : List U64, times.Pairwise (· ≤ ·) ∧
        ∀ m', Polled transport m times m' → m'.session key = none) ↔
      hasWayOut s = true := by
  constructor
  · rintro ⟨times, -, hremoved⟩
    cases hway : hasWayOut s with
    | true => rfl
    | false =>
      obtain ⟨m', hpolled⟩ := exists_polled transport m times
      obtain ⟨s', hs', -⟩ := h.stuck hunclosed hs hne hway hpolled
      rw [hremoved m' hpolled] at hs'
      cases hs'
  · intro hway
    obtain ⟨n, hn⟩ := @Lingering.ends transport s (h.lingering hunclosed hs hne) hway
    refine ⟨List.replicate n lastMs, List.pairwise_replicate.2 (Or.inr (BitVec.le_refl _)),
      fun m' hpolled => ?_⟩
    rw [hpolled.session h, hs, Option.bind_some, hn]

end Tables

end ServerSessionManager

/-! ## Every run -/

open ServerSessionManager

/-- **Exactly the sessions that leave the tables.** In every state the manager can reach, a session
that is not established can be removed by polls alone, at times that never go back, if and only if
it has a packet in flight, or one to send that will be. -/
theorem removal_scheduled_iff (transport : TransportSettings) {ops : List ManagerOp}
    {r : ServerRun} (hrun : Run.runM (ServerRun.step transport) {} ops = some r) {key : TableKey}
    {s : SessionState} (hs : r.manager.session key = some s)
    (hne : s.connectionState ≠ .established) :
    (∃ times : List U64, times.Pairwise (· ≤ ·) ∧
        ∀ m', Polled transport r.manager times m' → m'.session key = none) ↔
      hasWayOut s = true :=
  (ServerRun.run_sound hrun).removal_iff ((unclosed_rule transport).run hrun) hs hne

/-- A client begins its handshake. -/
def greeted : List ManagerOp :=
  [.onDatagramReceived ⟨100, [(0, 7)]⟩ clientEndpoint
    (controlDatagram 0 Flag.syn.toFlags 500 0 0) 0]

/-- It completes its handshake, under identifier 7, and closes. -/
def closedByPeer : List ManagerOp :=
  greeted ++ [.pollTx [clientEndpoint] [] 0,
    .onDatagramReceived ⟨0, []⟩ clientEndpoint (controlDatagram 7 Flag.ack.toFlags 0 101 0) 0,
    .onDatagramReceived ⟨0, []⟩ clientEndpoint (controlDatagram 7 Flag.fin.toFlags 501 101 0) 0]

/-- The session of a client that has fallen silent is removed: its SYN-ACK is given up. -/
theorem removal_scheduled_greeted :
    ∃ r s, Run.runM (ServerRun.step {}) {} greeted = some r ∧
      r.manager.session (.pending clientEndpoint) = some s ∧
      s.connectionState = .handshakeReceived ∧
      ∃ times : List U64, times.Pairwise (· ≤ ·) ∧
        ∀ m', Polled {} r.manager times m' → m'.session (.pending clientEndpoint) = none := by
  have hreturns : ((Run.runM (ServerRun.step {}) {} greeted).bind fun r =>
        (r.manager.session (.pending clientEndpoint)).map fun s =>
          (s.connectionState, hasWayOut s)) = some (.handshakeReceived, true) := by
    decide +kernel
  obtain ⟨r, hr, hsession⟩ := Option.bind_eq_some_iff.1 hreturns
  obtain ⟨s, hs, hvalue⟩ := Option.map_eq_some_iff.1 hsession
  obtain ⟨hstate, hway⟩ := Prod.mk.inj hvalue
  have hne : s.connectionState ≠ .established := by
    rw [hstate]
    decide
  exact ⟨r, s, hr, hs, hstate, (removal_scheduled_iff {} hr hs hne).2 hway⟩

/-- The session of a client that has closed is not: nothing is in flight, no poll moves it on. So it
is for an endpoint whose very first datagram is a FIN. -/
theorem closing_session_stuck :
    (∃ r s, Run.runM (ServerRun.step {}) {} closedByPeer = some r ∧
      r.manager.session (.active 7) = some s ∧ s.connectionState = .closing ∧
      ¬ ∃ times : List U64, times.Pairwise (· ≤ ·) ∧
        ∀ m', Polled {} r.manager times m' → m'.session (.active 7) = none) ∧
    ∃ r s, Run.runM (ServerRun.step {}) {} [.onDatagramReceived ⟨100, [(0, 7)]⟩ clientEndpoint
        (controlDatagram 0 Flag.fin.toFlags 500 0 0) 0] = some r ∧
      r.manager.session (.pending clientEndpoint) = some s ∧ s.connectionState = .closing ∧
      ¬ ∃ times : List U64, times.Pairwise (· ≤ ·) ∧
        ∀ m', Polled {} r.manager times m' → m'.session (.pending clientEndpoint) = none := by
  have hstuck : ∀ ops key, ((Run.runM (ServerRun.step {}) {} ops).bind fun r =>
        (r.manager.session key).map fun s => (s.connectionState, hasWayOut s)) =
          some (.closing, false) →
      ∃ r s, Run.runM (ServerRun.step {}) {} ops = some r ∧ r.manager.session key = some s ∧
        s.connectionState = .closing ∧ ¬ ∃ times : List U64, times.Pairwise (· ≤ ·) ∧
          ∀ m', Polled {} r.manager times m' → m'.session key = none := by
    intro ops key hreturns
    obtain ⟨r, hr, hsession⟩ := Option.bind_eq_some_iff.1 hreturns
    obtain ⟨s, hs, hvalue⟩ := Option.map_eq_some_iff.1 hsession
    obtain ⟨hstate, hway⟩ := Prod.mk.inj hvalue
    have hne : s.connectionState ≠ .established := by
      rw [hstate]
      decide
    refine ⟨r, s, hr, hs, hstate, ?_⟩
    rw [(ServerRun.run_sound hr).removal_iff ((unclosed_rule {}).run hr) hs hne, hway]
    exact Bool.false_ne_true
  exact ⟨hstuck _ _ (by decide +kernel), hstuck _ _ (by decide +kernel)⟩

end Rudp
