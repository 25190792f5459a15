import Rudp.SessionPoll

/-!
# Keepalive

An established client sends a PING when `keepalive_idle_ms` have passed since the last one, or since
the connection was established. It does not send one while the answer to the last is outstanding,
and nothing but a PONG clears that flag: after one lost PING there is no other, until the session
times out.

The flags and times that decide this are read off the log of what was sent: `lastSentMs` is the time
of the last PING (`probeInv_run`). `keepalive_iff` says exactly when a poll that is due sends one.
-/

namespace Rudp

open TxHandler Session

/-- When the last PING was sent. -/
def SentLog.lastPing (r : SentLog) : Option U64 :=
  ((r.sent.filter fun item => sentAs .ping item.2).getLast?).map Prod.fst

/-! ## The time of the last PING -/

section LastSent

variable {transport : TransportSettings} {nowMs : U64} {role : SessionRole} {connId : U32}
  {state : ConnectionState} {rx : RxSessionState} {tx : TxSessionState} {flags : Flags}
  {s : SessionState}

theorem laneRule_lastSentMs (v : U64) : LaneRule fun tx => tx.probe.lastSentMs = v where
  numbered _ _ _ htx := htx
  synAck _ htx := htx
  finalAck _ _ htx := htx
  fin _ htx := htx
  scanned _ _ htx := htx
  pong _ htx := htx
  ping _ htx := htx
  ackOnly _ htx := htx
  requests _ _ htx := htx

/-- The transmit handler does not know when its probes were sent. -/
theorem poll_lastSentMs :
    (poll transport nowMs role connId state rx tx).2.2.probe.lastSentMs = tx.probe.lastSentMs :=
  (laneRule_lastSentMs _).poll rfl

theorem applyOutboundResult_lastSentMs (datagram : Bytes) (isRetransmission : Bool) :
    (applyOutboundResult datagram nowMs isRetransmission s).tx.probe.lastSentMs =
      if sentAs .ping datagram then nowMs else s.tx.probe.lastSentMs := by
  rw [applyOutboundResult, sentAs]
  cases decode datagram with
  | none => rfl
  | some packet =>
    simp only [Option.any_some, decide_eq_true_eq, updateOutboundProbeState, recordOutboundStats,
      clearOutboundAckState]
    by_cases hping : classifyControlKind packet.header = .ping
    · simp [hping]
    · simp only [hping, ne_eq, not_false_eq_true, if_true, if_false]
      split_ifs <;> rfl

/-- **Polling** notes the time of a PING. -/
theorem pollTx_lastSentMs : (pollTx transport nowMs s).2.tx.probe.lastSentMs =
    if (pollTx transport nowMs s).1.any (sentAs .ping) then nowMs else s.tx.probe.lastSentMs := by
  cases htimeout : shouldTimeoutIdleSession transport s nowMs with
  | true =>
    rw [pollTx, if_pos htimeout]
    rfl
  | false =>
    have hlane : (laneResult transport nowMs s).2.2.probe.lastSentMs = s.tx.probe.lastSentMs := by
      rw [laneResult, poll_lastSentMs, schedulePendingTxWork]
      split_ifs <;> rfl
    rw [pollTx_eq htimeout]
    generalize laneResult transport nowMs s = lane at hlane ⊢
    obtain ⟨⟨datagram, fatalError, retransmission, message⟩, next, tx'⟩ := lane
    simp only at hlane
    cases fatalError with
    | true => exact hlane
    | false =>
      cases datagram with
      | none => exact hlane
      | some bytes =>
        simp only [Bool.false_eq_true, if_false, applyOutboundResult_lastSentMs, Option.any_some,
          hlane]

theorem receiveRule_lastSentMs (packet : PacketView) (v : U64) :
    ReceiveRule transport nowMs packet fun s => s.tx.probe.lastSentMs = v where
  recorded _ _ _ hs := hs
  adopted _ hs := hs
  reset _ hs := hs
  lingered s _ hs := by
    rw [scheduleFinalAckDuringLinger]
    split_ifs <;> exact hs
  probed s hs := by
    rw [handleProbeReceive]
    split_ifs <;> exact hs
  acked s hs := by
    rcases applyRemoteAck_effect transport packet.header s.tx with ⟨-, htx, -⟩ | ⟨-, hack⟩
    · rw [htx]
      exact hs
    · rw [hack.state]
      exact hs
  closed _ hs := hs
  decided s hs := by
    rw [applyConnectionDecision]
    split_ifs <;> first | exact hs | (simp only; split <;> exact hs)
  received _ _ hs := hs
  live s hs := by
    rw [updatePostReceiveLiveness]
    split_ifs <;> exact hs
  scheduled s rxResult hs := by
    rw [scheduleReceiveSideAck]
    split_ifs <;> exact hs

/-- **Receiving** does not. -/
theorem onDatagramReceived_lastSentMs (bytes : Bytes) :
    (onDatagramReceived transport bytes nowMs s).tx.probe.lastSentMs = s.tx.probe.lastSentMs :=
  ReceiveRule.onDatagramReceived (fun packet _ => receiveRule_lastSentMs packet _) rfl

end LastSent

/-- The time kept in the probe state is the time of the last PING in the log. -/
def ProbeInv (r : SentLog) : Prop :=
  r.session.tx.probe.lastSentMs = r.lastPing.getD 0

theorem ProbeInv.step {transport : TransportSettings} {r : SentLog} (h : ProbeInv r)
    (op : LifeOp) : ProbeInv (r.step transport op) := by
  rw [ProbeInv] at h
  rcases op with ⟨_ | nowMs | ⟨bytes, nowMs⟩ | _⟩ | _ | _
  case call.pollTx =>
    rw [ProbeInv, SentLog.lastPing]
    simp only [SentLog.step, pollTx_lastSentMs, h]
    cases (Session.pollTx transport nowMs r.session).1 with
    | none => simp [SentLog.lastPing]
    | some bytes => cases hping : sentAs .ping bytes <;> simp [SentLog.lastPing, hping]
  case call.onDatagramReceived => exact (onDatagramReceived_lastSentMs bytes).trans h
  case call.requestClose =>
    rw [ProbeInv, SentLog.step_session, LifeOp.apply, SessionOp.apply, Session.requestClose]
    split_ifs <;> exact h
  all_goals exact h

theorem probeInv_run (transport : TransportSettings) (role : SessionRole) (initialSeq : U32)
    (ops : List LifeOp) :
    ProbeInv (Run.run (SentLog.step transport) (SentLog.start role initialSeq) ops) := by
  refine Run.invariant ProbeInv (fun r op h => h.step op) ?_ ops
  rfl

/-! ## When a PING is due -/

/-- An established client with nothing in flight and nothing to answer, polled when
`keepalive_idle_ms` have passed since its last PING, or since it was established, and before it
times out. -/
structure KeepaliveDue (transport : TransportSettings) (t : U64) (r : SentLog) : Prop where
  established : r.session.connectionState = .established
  inflight : r.session.tx.inflight = ∅
  finalAck : r.session.tx.finalAckPending = false
  pong : r.session.tx.probe.pongPending = false
  ackOnly : r.session.tx.ackOnlyPending = false
  reliableAck : r.session.tx.reliableAckPending = false
  activityAck : transport.enableActivityAckOnly = true → r.session.tx.activityAckPending = false
  due : t ≥ r.lastPing.getD r.session.establishedSinceMs + transport.keepaliveIdleMs
  alive : t.toNat < r.session.lastRxMs.toNat + transport.idleTimeoutMs.toNat

/-- No PING is unanswered, or one is waiting already; after a PING at time 0, which the session takes
for no PING at all, the time since it was established counts; and the end of the idle time does not
wrap. -/
def probes (transport : TransportSettings) (t : U64) (r : SentLog) : Bool :=
  (r.session.tx.probe.pingPending || !r.session.tx.probe.pingOutstanding &&
    (r.lastPing ≠ some 0 || t ≥ r.session.establishedSinceMs + transport.keepaliveIdleMs)) &&
      t < r.session.lastRxMs + transport.idleTimeoutMs

theorem shouldScheduleProbe_iff {transport : TransportSettings} {s : SessionState} {t : U64} :
    shouldScheduleProbe transport s t = true ↔
      (s.role = .client ∧ s.connectionState = .established ∧
        s.tx.probe.pingOutstanding = false ∧ s.tx.probe.pingPending = false ∧
          s.tx.probe.pongPending = false) ∧
      t ≥ (if s.tx.probe.lastSentMs ≠ 0 then s.tx.probe.lastSentMs else s.establishedSinceMs) +
        transport.keepaliveIdleMs := by
  rw [shouldScheduleProbe]
  by_cases hblocked : s.role ≠ .client ∨ s.connectionState ≠ .established ∨
      s.tx.probe.pingOutstanding = true ∨ s.tx.probe.pingPending = true ∨
        s.tx.probe.pongPending = true
  · rw [if_pos hblocked]
    refine iff_of_false Bool.false_ne_true ?_
    rintro ⟨⟨hrole, hstate, hanswered, hping, hpong⟩, -⟩
    simp [hrole, hstate, hanswered, hping, hpong] at hblocked
  · rw [if_neg hblocked]
    simp only [not_or, not_not, Bool.not_eq_true] at hblocked
    simp only [decide_eq_true_eq, hblocked, true_and, and_self]

section Due

variable {transport : TransportSettings} {t : U64} {r : SentLog}

/-- What scheduling adds to a session with nothing to answer: a PING, if none is unanswered. -/
theorem KeepaliveDue.schedule (h : KeepaliveDue transport t r) (hinv : ProbeInv r)
    (hrole : r.session.role = .client) :
    ∃ pingPending : Bool, (schedulePendingTxWork transport t r.session).tx =
        { r.session.tx with probe := { r.session.tx.probe with pingPending } } ∧
      (pingPending = true ↔ r.session.tx.probe.pingPending = true ∨
        r.session.tx.probe.pingOutstanding = false ∧ (r.lastPing = some 0 →
          t ≥ r.session.establishedSinceMs + transport.keepaliveIdleMs)) := by
  have hreliable : shouldScheduleReliableAck r.session t = false := by
    simp [shouldScheduleReliableAck, h.reliableAck]
  have hactivity : shouldScheduleActivityAck transport r.session t = false := by
    rw [shouldScheduleActivityAck]
    cases henable : transport.enableActivityAckOnly with
    | false => rfl
    | true => simp [h.activityAck henable]
  have hbaseline : t ≥ (if r.session.tx.probe.lastSentMs ≠ 0 then r.session.tx.probe.lastSentMs
      else r.session.establishedSinceMs) + transport.keepaliveIdleMs ↔
        (r.lastPing = some 0 → t ≥ r.session.establishedSinceMs + transport.keepaliveIdleMs) := by
    have hdue := h.due
    rw [ProbeInv] at hinv
    rw [hinv]
    cases hlast : r.lastPing with
    | none =>
      rw [hlast] at hdue
      simpa using hdue
    | some v =>
      rw [hlast] at hdue
      rw [Option.getD_some] at hdue ⊢
      by_cases hv : v = 0
      · simp [hv]
      · rw [if_pos hv]
        exact iff_of_true hdue fun hzero => absurd (Option.some.inj hzero) hv
  rw [schedulePendingTxWork, hreliable, hactivity]
  simp only [Bool.false_eq_true, if_false]
  by_cases hprobe : shouldScheduleProbe transport r.session t = true
  · rw [if_pos hprobe]
    refine ⟨true, rfl, iff_of_true rfl (Or.inr ?_)⟩
    obtain ⟨⟨-, -, hanswered, -⟩, hlate⟩ := shouldScheduleProbe_iff.1 hprobe
    exact ⟨hanswered, hbaseline.1 hlate⟩
  · rw [if_neg hprobe]
    refine ⟨r.session.tx.probe.pingPending, rfl, Or.inl, ?_⟩
    rintro (hpending | ⟨hanswered, hlate⟩)
    · exact hpending
    · by_contra hpending
      rw [Bool.not_eq_true] at hpending
      exact hprobe (shouldScheduleProbe_iff.2
        ⟨⟨hrole, h.established, hanswered, hpending, h.pong⟩, hbaseline.2 hlate⟩)

/-- A poll with nothing in flight and nothing to answer sends the PING that scheduling asked for, or
what the application has queued. -/
theorem KeepaliveDue.sends_iff (h : KeepaliveDue transport t r) (hinv : ProbeInv r)
    (hrole : r.session.role = .client) :
    (Session.pollTx transport t r.session).1.any (sentAs .ping) = true ↔
      probes transport t r = true := by
  have hprobes : probes transport t r = true ↔
      (r.session.tx.probe.pingPending = true ∨ r.session.tx.probe.pingOutstanding = false ∧
        (r.lastPing = some 0 → t ≥ r.session.establishedSinceMs + transport.keepaliveIdleMs)) ∧
      shouldTimeoutIdleSession transport r.session t = false := by
    simp [probes, shouldTimeoutIdleSession, h.established, imp_iff_not_or]
  rw [hprobes]
  cases htimeout : shouldTimeoutIdleSession transport r.session t with
  | true =>
    rw [pollTx, if_pos htimeout]
    simp
  | false =>
    obtain ⟨pingPending, hschedule, hping⟩ := h.schedule hinv hrole
    rw [← hping, and_iff_left rfl, pollTx_datagram htimeout]
    have hshake : handshakeDue r.session.role r.session.connectionState r.session.tx = false := by
      simp [handshakeDue, h.established, h.finalAck]
    have hquiet := @tryBuildHandshake_of_session_not_due transport t r.session hshake
    have hdue : firstDue transport t (schedulePendingTxWork transport t r.session).tx = none := by
      rw [schedulePendingTxWork_firstDue, firstDue, h.inflight]
      simp
    rw [laneResult]
    rw [hschedule] at hquiet hdue ⊢
    cases pingPending with
    | true =>
      rw [poll_of_ping hquiet hdue h.pong rfl]
      simp only [makePollResult, Bool.false_eq_true, if_false, Option.any_some]
      rw [sentAs_controlPacket (by decide)]
      exact iff_of_true (by decide) trivial
    | false =>
      rw [poll_of_fresh hquiet hdue h.pong rfl h.ackOnly]
      refine iff_of_false (fun hsent => ?_) Bool.false_ne_true
      simp only [Bool.false_eq_true, if_false] at hsent
      obtain ⟨bytes, hbytes, hkind⟩ := (Option.any_eq_true _ _).1 hsent
      obtain ⟨request, seq, hrequest⟩ := tryBuildFresh_datagram hbytes
      obtain ⟨hvalid, -, hdata, -⟩ :=
        @requestPacket_packet r.session.connId r.session.rx seq request
      rw [PacketView.isData, decide_eq_true_eq] at hdata
      rw [hrequest, sentAs_encode hvalid, hdata] at hkind
      cases hkind

end Due

/-- **Exactly when keepalive goes on.** In every life of a client, whenever a PING is due and there
is nothing else to send, a poll sends one if and only if no earlier PING is still unanswered (or one
is waiting), the last PING was not sent at time 0, and the end of the idle time does not wrap. -/
theorem keepalive_iff (transport : TransportSettings) (initialSeq : U32) (ops : List LifeOp)
    (t : U64) (hdue : KeepaliveDue transport t
      (Run.run (SentLog.step transport) (SentLog.start .client initialSeq) ops)) :
    let r := Run.run (SentLog.step transport) (SentLog.start .client initialSeq) ops
    (Session.pollTx transport t r.session).1.any (sentAs .ping) = true ↔
      probes transport t r = true := by
  intro r
  have hrole : r.session.role = .client := by
    refine Run.invariant (fun r : SentLog => r.session.role = .client) (fun r op h => ?_) rfl ops
    rw [SentLog.step_session, LifeOp.apply_role, h]
  exact hdue.sends_iff (probeInv_run transport .client initialSeq ops) hrole

/-- A client that is established at 10 ms, and polled at the given times. -/
def establishedClient (times : List U64) : List LifeOp :=
  [.call (.pollTx 0),
    .call (.onDatagramReceived
      (controlDatagram 7 (Flag.syn.toFlags ||| Flag.ack.toFlags) 500 101 0) 10),
    .call (.pollTx 10)] ++ times.map fun nowMs => .call (.pollTx nowMs)

theorem keepaliveDue_of_established :
    KeepaliveDue {} 600
      (Run.run (SentLog.step {}) (SentLog.start .client 100) (establishedClient [])) ∧
    KeepaliveDue {} 1200
      (Run.run (SentLog.step {}) (SentLog.start .client 100) (establishedClient [600])) := by
  constructor
  · exact ⟨by decide +kernel, Std.ExtTreeMap.isEmpty_iff.1 (by decide +kernel), by decide +kernel,
      by decide +kernel, by decide +kernel, by decide +kernel, by decide +kernel, by decide +kernel,
      by decide +kernel⟩
  · exact ⟨by decide +kernel, Std.ExtTreeMap.isEmpty_iff.1 (by decide +kernel), by decide +kernel,
      by decide +kernel, by decide +kernel, by decide +kernel, by decide +kernel, by decide +kernel,
      by decide +kernel⟩

/-- The first PING goes out. -/
theorem keepalive_first :
    let r := Run.run (SentLog.step {}) (SentLog.start .client 100) (establishedClient [])
    (Session.pollTx {} 600 r.session).1.any (sentAs .ping) = true :=
  (keepalive_iff {} 100 (establishedClient []) 600 keepaliveDue_of_established.1).2 (by decide +kernel)

/-- The PING of 600 ms gets no answer, and there is none at 1200 ms, though one is due. -/
theorem keepalive_dies :
    let r := Run.run (SentLog.step {}) (SentLog.start .client 100) (establishedClient [600])
    r.lastPing = some 600 ∧ KeepaliveDue {} 1200 r ∧
      (Session.pollTx {} 1200 r.session).1.any (sentAs .ping) = false := by
  intro r
  exact ⟨by decide +kernel, keepaliveDue_of_established.2, by decide +kernel⟩

end Rudp
