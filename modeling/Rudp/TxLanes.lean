import Rudp.TxPoll

/-!
# The order of the builders

`poll` tries its builders in a fixed order, so which of them sends can be read off the state before
the call: `handshakeDue` for the handshake lane, `firstDue` for the packet at which the scan for
retransmissions stops, and `nothingPending` for the probes, ACKs and requests behind it.
-/

namespace Rudp

open TxHandler

/-! ## What a poll finds -/

/-- The handshake lane has a frame to send, and the window lets it through. -/
def handshakeDue (role : SessionRole) (state : ConnectionState) (tx : TxSessionState) : Bool :=
  match state with
  | .closed => role = .client && !reliableWindowFull tx
  | .handshakeReceived => tx.synAckPending && !reliableWindowFull tx
  | .established => tx.finalAckPending
  | .closing => tx.finPending && !reliableWindowFull tx
  | .handshakeSent | .reset => false

/-- The packet has used up its retransmissions. -/
def TxEntry.exhausted (transport : TransportSettings) (entry : TxEntry) : Bool :=
  entry.retryCount ≥ transport.maxRetransmitCount

/-- The packet is to be sent again. -/
def TxEntry.due (transport : TransportSettings) (nowMs : U64) (entry : TxEntry) : Bool :=
  entry.fastRetxPending ||
    nowMs ≥ entry.lastSendMs + retransmitTimeoutFor transport entry.retryCount

/-- The packet at which the retransmission scan stops. -/
def firstDue (transport : TransportSettings) (nowMs : U64) (tx : TxSessionState) :
    Option (U32 × TxEntry) :=
  tx.inflight.toList.find? fun item => item.2.exhausted transport || item.2.due transport nowMs

/-- No probe, no ACK and no request that the window lets through is waiting. -/
def nothingPending (tx : TxSessionState) : Bool :=
  !tx.probe.pongPending && !tx.probe.pingPending && !tx.ackOnlyPending &&
    tx.pendingSend.head?.all fun request =>
      isReliableChannel request.channelType && reliableWindowFull tx

section Lanes

variable {transport : TransportSettings} {nowMs : U64} {role : SessionRole} {connId : U32}
  {state next : ConnectionState} {rx : RxSessionState} {tx : TxSessionState}

theorem firstDue_mem {item : U32 × TxEntry} (h : firstDue transport nowMs tx = some item) :
    tx.inflight[item.1]? = some item.2 :=
  Std.ExtTreeMap.mem_toList_iff_getElem?_eq_some.1 (List.mem_of_find?_eq_some h)

/-! ## The handshake lane -/

theorem tryBuildHandshake_isSome :
    (tryBuildHandshake transport nowMs role connId state rx tx).1.isSome =
      handshakeDue role state tx := by
  simp only [tryBuildHandshake]
  rw [buildControlPacket_of_numbered (by decide : consumesReliableSeq Flag.syn.toFlags = true),
    buildControlPacket_of_numbered
      (by decide : consumesReliableSeq (Flag.syn.toFlags ||| Flag.ack.toFlags) = true),
    buildControlPacket_of_bare (by decide : consumesReliableSeq Flag.ack.toFlags = false),
    buildControlPacket_of_numbered (by decide : consumesReliableSeq Flag.fin.toFlags = true)]
  cases hwindow : reliableWindowFull tx <;> cases state <;> cases role <;>
    cases hsynAck : tx.synAckPending <;> cases hack : tx.finalAckPending <;>
    cases hfin : tx.finPending <;> simp [handshakeDue, hwindow, hsynAck, hack, hfin]

/-- A handshake lane with nothing to send still moves a closed client on. -/
theorem tryBuildHandshake_of_not_due (h : handshakeDue role state tx = false) :
    tryBuildHandshake transport nowMs role connId state rx tx =
      (none, if role = .client ∧ state = .closed then .handshakeSent else state, tx) := by
  have hnone := @tryBuildHandshake_isSome transport nowMs role connId state rx tx
  have hstate : (tryBuildHandshake transport nowMs role connId state rx tx).2.1 =
      if role = .client ∧ state = .closed then .handshakeSent else state := by
    rw [tryBuildHandshake]
    split_ifs
    · rfl
    all_goals first | rfl | split <;> rfl
  rw [h] at hnone
  rcases hbuilt : tryBuildHandshake transport nowMs role connId state rx tx with
    ⟨_ | bytes, state', tx'⟩
  · rw [hbuilt] at hstate
    obtain rfl := (tryBuildHandshake_builds hbuilt).of_none
    rw [← hstate]
  · rw [hbuilt] at hnone
    cases hnone

/-- The handshake lane goes first. -/
theorem poll_of_handshakeDue (h : handshakeDue role state tx = true) :
    (poll transport nowMs role connId state rx tx).1.fatalError = false ∧
      (poll transport nowMs role connId state rx tx).1.retransmission = false ∧
      (poll transport nowMs role connId state rx tx).1.datagram.isSome = true := by
  have hsome := @tryBuildHandshake_isSome transport nowMs role connId state rx tx
  rw [h] at hsome
  rw [poll]
  generalize tryBuildHandshake transport nowMs role connId state rx tx = built at hsome ⊢
  rcases built with ⟨_ | bytes, state', tx'⟩
  · cases hsome
  · exact ⟨rfl, rfl, rfl⟩

/-- A closed client starts its handshake with a SYN. -/
theorem poll_syn (hopen : reliableWindowFull tx = false) :
    poll transport nowMs .client connId .closed rx tx =
      (makePollResult (some (encode (controlPacket connId Flag.syn.toFlags rx tx.nextSeq).header [])),
        .handshakeSent,
        sendNumbered tx (controlPacket connId Flag.syn.toFlags rx tx.nextSeq) nowMs) := by
  have hbuild : tryBuildHandshake transport nowMs .client connId .closed rx tx =
      (some (encode (controlPacket connId Flag.syn.toFlags rx tx.nextSeq).header []),
        .handshakeSent,
        sendNumbered tx (controlPacket connId Flag.syn.toFlags rx tx.nextSeq) nowMs) := by
    rw [tryBuildHandshake, if_pos ⟨rfl, rfl⟩,
      buildControlPacket_of_numbered (by decide : consumesReliableSeq Flag.syn.toFlags = true)]
    simp [hopen]
  rw [poll, hbuild]

/-- A server that has been greeted answers with a SYN-ACK. -/
theorem poll_synAck (hpending : tx.synAckPending = true)
    (hopen : reliableWindowFull tx = false) :
    let packet := controlPacket connId (Flag.syn.toFlags ||| Flag.ack.toFlags) rx tx.nextSeq
    poll transport nowMs role connId .handshakeReceived rx tx =
      (makePollResult (some (encode packet.header [])), .handshakeReceived,
        { sendNumbered tx packet nowMs with synAckPending := false }) := by
  intro packet
  have hbuild : tryBuildHandshake transport nowMs role connId .handshakeReceived rx tx =
      (some (encode packet.header []), .handshakeReceived,
        { sendNumbered tx packet nowMs with synAckPending := false }) := by
    rw [tryBuildHandshake, if_neg (by simp), if_pos ⟨hpending, rfl⟩,
      buildControlPacket_of_numbered
        (by decide : consumesReliableSeq (Flag.syn.toFlags ||| Flag.ack.toFlags) = true)]
    simp [hopen, packet]
  rw [poll, hbuild]

/-! ## The scan -/

/-- What the scan does with the packet it stops at. -/
def stopAt (transport : TransportSettings) (nowMs : U64) (rx : RxSessionState)
    (tx : TxSessionState) (item : U32 × TxEntry) : TxPollResult × TxSessionState :=
  if item.2.exhausted transport then
    ({ fatalError := true, errorMessage := "retransmission retry limit exceeded" },
      { tx with inflight := tx.inflight.erase item.1 })
  else
    (makePollResult (some (encode (refresh rx item.2.packet).header item.2.packet.payload)) true,
      { tx with
        inflight := tx.inflight.insert item.1
          { item.2 with
            packet := refresh rx item.2.packet
            lastSendMs := nowMs
            retryCount := item.2.retryCount + 1
            gapEvidenceCount := 0
            fastRetxPending := false } })

theorem retransmitLoop_eq (items : List (U32 × TxEntry)) :
    retransmitLoop transport nowMs rx tx items =
      match items.find? fun item => item.2.exhausted transport || item.2.due transport nowMs with
      | none => ({}, tx)
      | some item => stopAt transport nowMs rx tx item := by
  induction items with
  | nil => rfl
  | cons item items ih =>
    obtain ⟨seq, entry⟩ := item
    rw [List.find?_cons, retransmitLoop]
    by_cases hexhausted : entry.retryCount ≥ transport.maxRetransmitCount
    · have h : entry.exhausted transport = true := decide_eq_true hexhausted
      simp [hexhausted, h, stopAt]
    · have h : entry.exhausted transport = false := decide_eq_false hexhausted
      have hscan : (!entry.fastRetxPending &&
          !decide (nowMs ≥ entry.lastSendMs + retransmitTimeoutFor transport entry.retryCount)) =
          !entry.due transport nowMs := by
        rw [TxEntry.due, Bool.not_or]
      simp only [hexhausted, if_false, hscan, h, Bool.false_or]
      cases hdue : entry.due transport nowMs with
      | false => exact ih
      | true => simp [stopAt, h, refresh]

/-- **The scan** stops at the first packet that is exhausted or due. -/
theorem tryBuildRetransmit_eq : tryBuildRetransmit transport nowMs rx tx =
    match firstDue transport nowMs tx with
    | none => ({}, tx)
    | some item => stopAt transport nowMs rx tx item :=
  retransmitLoop_eq tx.inflight.toList

theorem stopAt_stops (item : U32 × TxEntry) :
    ((stopAt transport nowMs rx tx item).1.fatalError ||
      (stopAt transport nowMs rx tx item).1.datagram.isSome) = true := by
  rw [stopAt]
  split_ifs <;> rfl

/-- The scan goes before everything but the handshake. -/
theorem poll_of_firstDue
    (h : tryBuildHandshake transport nowMs role connId state rx tx = (none, next, tx))
    {item : U32 × TxEntry} (hitem : firstDue transport nowMs tx = some item) :
    poll transport nowMs role connId state rx tx =
      ((stopAt transport nowMs rx tx item).1, next, (stopAt transport nowMs rx tx item).2) := by
  rw [poll, h]
  simp only [tryBuildRetransmit_eq, hitem]
  rw [if_pos (stopAt_stops item)]

/-! ## The lanes behind it -/

/-- What each assignment of the builders keeps of the transmit state. -/
structure LaneRule (P : TxSessionState → Prop) : Prop where
  numbered : ∀ tx packet nowMs, P tx → P (sendNumbered tx packet nowMs)
  synAck : ∀ tx, P tx → P { tx with synAckPending := false }
  finalAck : ∀ tx untilMs, P tx →
    P { tx with finalAckPending := false, finalAckLingerUntilMs := untilMs }
  fin : ∀ tx, P tx → P { tx with finPending := false }
  scanned : ∀ tx inflight, P tx → P { tx with inflight }
  pong : ∀ tx, P tx → P { tx with probe := { tx.probe with pongPending := false } }
  ping : ∀ tx, P tx → P { tx with probe := { tx.probe with pingPending := false } }
  ackOnly : ∀ tx, P tx → P { tx with ackOnlyPending := false }
  requests : ∀ tx pendingSend, P tx → P { tx with pendingSend }

namespace LaneRule

variable {P : TxSessionState → Prop}

theorem tryBuildHandshake (h : LaneRule P) (htx : P tx) :
    P (TxHandler.tryBuildHandshake transport nowMs role connId state rx tx).2.2 := by
  simp only [TxHandler.tryBuildHandshake]
  rw [buildControlPacket_of_numbered (by decide : consumesReliableSeq Flag.syn.toFlags = true),
    buildControlPacket_of_numbered
      (by decide : consumesReliableSeq (Flag.syn.toFlags ||| Flag.ack.toFlags) = true),
    buildControlPacket_of_bare (by decide : consumesReliableSeq Flag.ack.toFlags = false),
    buildControlPacket_of_numbered (by decide : consumesReliableSeq Flag.fin.toFlags = true)]
  cases reliableWindowFull tx with
  | true =>
    simp only [if_true]
    split_ifs
    · exact htx
    · exact htx
    · exact h.finalAck _ _ htx
    · exact htx
    · exact htx
  | false =>
    simp only [Bool.false_eq_true, if_false]
    split_ifs
    · exact h.numbered _ _ _ htx
    · exact h.synAck _ (h.numbered _ _ _ htx)
    · exact h.finalAck _ _ htx
    · exact h.fin _ (h.numbered _ _ _ htx)
    · exact htx

theorem tryBuildRetransmit (h : LaneRule P) (htx : P tx) :
    P (TxHandler.tryBuildRetransmit transport nowMs rx tx).2 := by
  rw [tryBuildRetransmit_eq]
  cases firstDue transport nowMs tx with
  | none => exact htx
  | some item =>
    simp only [stopAt]
    split_ifs
    · exact h.scanned _ _ htx
    · exact h.scanned _ _ htx

theorem tryBuildProbeLane (h : LaneRule P) (htx : P tx) :
    P (TxHandler.tryBuildProbeLane connId rx tx).2 := by
  rw [TxHandler.tryBuildProbeLane]
  split_ifs
  · exact h.pong _ htx
  · exact htx
  · exact h.ping _ htx

theorem tryBuildAckOnly (h : LaneRule P) (htx : P tx) :
    P (TxHandler.tryBuildAckOnly connId rx tx).2 := by
  rw [TxHandler.tryBuildAckOnly]
  split_ifs
  · exact htx
  · exact h.ackOnly _ htx

theorem tryBuildFresh (h : LaneRule P) (htx : P tx) :
    P (TxHandler.tryBuildFresh nowMs connId rx tx).2 := by
  rw [TxHandler.tryBuildFresh]
  cases tx.pendingSend with
  | nil => exact htx
  | cons request rest =>
    simp only [makePacketFromRequest]
    split_ifs
    · exact h.requests _ _ (h.requests _ _ htx)
    · exact h.numbered _ (requestPacket request connId rx tx.nextSeq) nowMs (h.requests _ rest htx)
    · exact h.requests _ _ htx

/-- **Frame rule.** What each assignment keeps of the state, a poll keeps. -/
theorem poll (h : LaneRule P) (htx : P tx) :
    P (TxHandler.poll transport nowMs role connId state rx tx).2.2 := by
  rw [TxHandler.poll]
  have hhandshake := @LaneRule.tryBuildHandshake transport nowMs role connId state rx tx P h htx
  generalize TxHandler.tryBuildHandshake transport nowMs role connId state rx tx = built
    at hhandshake ⊢
  rcases built with ⟨_ | bytes, state', tx₁⟩
  · have hscan := @LaneRule.tryBuildRetransmit transport nowMs rx tx₁ P h hhandshake
    simp only
    generalize TxHandler.tryBuildRetransmit transport nowMs rx tx₁ = scanned at hscan ⊢
    obtain ⟨result, tx₂⟩ := scanned
    simp only
    split_ifs
    · exact hscan
    · have hprobe := @LaneRule.tryBuildProbeLane connId rx tx₂ P h hscan
      generalize TxHandler.tryBuildProbeLane connId rx tx₂ = probed at hprobe ⊢
      rcases probed with ⟨_ | bytes, tx₃⟩
      · have hack := @LaneRule.tryBuildAckOnly connId rx tx₃ P h hprobe
        simp only
        generalize TxHandler.tryBuildAckOnly connId rx tx₃ = acked at hack ⊢
        rcases acked with ⟨_ | bytes, tx₄⟩
        · have hfresh := @LaneRule.tryBuildFresh nowMs connId rx tx₄ P h hack
          simp only
          generalize TxHandler.tryBuildFresh nowMs connId rx tx₄ = fresh at hfresh ⊢
          rcases fresh with ⟨_ | bytes, tx₅⟩ <;> exact hfresh
        · exact hack
      · exact hprobe
  · exact hhandshake

end LaneRule

theorem tryBuildFresh_isSome : (tryBuildFresh nowMs connId rx tx).1.isSome =
    !(tx.pendingSend.head?.all fun request =>
      isReliableChannel request.channelType && reliableWindowFull tx) := by
  rw [tryBuildFresh]
  cases tx.pendingSend with
  | nil => rfl
  | cons request rest =>
    have hfull : reliableWindowFull { tx with pendingSend := rest } = reliableWindowFull tx := rfl
    simp only [hfull, List.head?_cons, Option.all_some]
    cases hreliable : isReliableChannel request.channelType <;>
      cases hwindow : reliableWindowFull tx <;> rfl

/-- What the last lane sends is the packet of a request. -/
theorem tryBuildFresh_datagram {bytes : Bytes}
    (h : (tryBuildFresh nowMs connId rx tx).1 = some bytes) : ∃ (request : SendRequest) (seq : U32),
      bytes = encode (requestPacket request connId rx seq).header request.payload := by
  rw [tryBuildFresh] at h
  cases hpending : tx.pendingSend with
  | nil =>
    rw [hpending] at h
    cases h
  | cons request rest =>
    rw [hpending] at h
    simp only [makePacketFromRequest] at h
    split_ifs at h
    · exact ⟨request, tx.nextSeq, (Option.some.inj h).symm⟩
    · exact ⟨request, 0, (Option.some.inj h).symm⟩

/-- With no packet due, a PING that is waiting goes out unless a PONG is. -/
theorem poll_of_ping
    (h : tryBuildHandshake transport nowMs role connId state rx tx = (none, next, tx))
    (hdue : firstDue transport nowMs tx = none) (hpong : tx.probe.pongPending = false)
    (hping : tx.probe.pingPending = true) :
    poll transport nowMs role connId state rx tx =
      (makePollResult (some (encode (controlPacket connId Flag.ping.toFlags rx 0).header [])), next,
        { tx with probe := { tx.probe with pingPending := false } }) := by
  rw [poll, h]
  simp only [tryBuildRetransmit_eq, hdue]
  simp [tryBuildProbeLane, hpong, hping]
  rfl

/-- With no packet due and no probe or ACK waiting, it is the turn of the requests. -/
theorem poll_of_fresh
    (h : tryBuildHandshake transport nowMs role connId state rx tx = (none, next, tx))
    (hdue : firstDue transport nowMs tx = none) (hpong : tx.probe.pongPending = false)
    (hping : tx.probe.pingPending = false) (hack : tx.ackOnlyPending = false) :
    poll transport nowMs role connId state rx tx =
      ({ datagram := (tryBuildFresh nowMs connId rx tx).1 }, next,
        (tryBuildFresh nowMs connId rx tx).2) := by
  rw [poll, h]
  simp only [tryBuildRetransmit_eq, hdue]
  simp only [Bool.false_or, Option.isSome_none, Bool.false_eq_true, if_false, tryBuildProbeLane,
    hpong, hping, Bool.not_false, if_true, tryBuildAckOnly, hack]
  rcases tryBuildFresh nowMs connId rx tx with ⟨_ | bytes, tx'⟩ <;> rfl

/-- What the lanes behind the scan leave: one of them sends, or none. -/
theorem poll_behind_scan
    (h : tryBuildHandshake transport nowMs role connId state rx tx = (none, next, tx))
    (hdue : firstDue transport nowMs tx = none) :
    (poll transport nowMs role connId state rx tx).2.2 =
      if tx.probe.pongPending then { tx with probe := { tx.probe with pongPending := false } }
      else if tx.probe.pingPending then { tx with probe := { tx.probe with pingPending := false } }
      else if tx.ackOnlyPending then { tx with ackOnlyPending := false }
      else (tryBuildFresh nowMs connId rx tx).2 := by
  cases hpong : tx.probe.pongPending with
  | true =>
    rw [poll, h]
    simp only [tryBuildRetransmit_eq, hdue]
    simp [tryBuildProbeLane, hpong]
  | false =>
    cases hping : tx.probe.pingPending with
    | true => simp [poll_of_ping h hdue hpong hping]
    | false =>
      cases hack : tx.ackOnlyPending with
      | true =>
        rw [poll, h]
        simp only [tryBuildRetransmit_eq, hdue]
        simp [tryBuildProbeLane, hpong, hping, tryBuildAckOnly, hack]
      | false => simp [poll_of_fresh h hdue hpong hping hack]

/-- With nothing due and nothing pending, a poll changes nothing. -/
theorem poll_of_nothingPending
    (h : tryBuildHandshake transport nowMs role connId state rx tx = (none, next, tx))
    (hdue : firstDue transport nowMs tx = none) (hnothing : nothingPending tx = true) :
    poll transport nowMs role connId state rx tx = ({}, next, tx) := by
  have hfresh := @tryBuildFresh_isSome nowMs connId rx tx
  simp only [nothingPending, Bool.and_eq_true, Bool.not_eq_true'] at hnothing
  obtain ⟨⟨⟨hpong, hping⟩, hack⟩, hrequest⟩ := hnothing
  rw [poll_of_fresh h hdue hpong hping hack]
  rw [hrequest] at hfresh
  rcases hbuilt : tryBuildFresh nowMs connId rx tx with ⟨_ | bytes, tx'⟩
  · obtain rfl := (tryBuildFresh_builds transport role state hbuilt).of_none
    rfl
  · rw [hbuilt] at hfresh
    cases hfresh

/-- **What a poll returns that has no handshake or close to get on with.** -/
theorem poll_of_quiet
    (h : tryBuildHandshake transport nowMs role connId state rx tx = (none, next, tx)) :
    let polled := poll transport nowMs role connId state rx tx
    polled.2.1 = next ∧
    match firstDue transport nowMs tx with
    | some item => polled.1.fatalError = item.2.exhausted transport ∧
        polled.1.datagram.isSome = !item.2.exhausted transport
    | none => polled.1.fatalError = false ∧ polled.1.datagram.isSome = !nothingPending tx := by
  intro polled
  cases hfirst : firstDue transport nowMs tx with
  | some item =>
    simp only [polled, poll_of_firstDue h hfirst, stopAt, true_and]
    cases item.2.exhausted transport <;> exact ⟨rfl, rfl⟩
  | none =>
    cases hpong : tx.probe.pongPending with
    | true =>
      simp only [polled, poll, h, tryBuildRetransmit_eq, hfirst]
      simp [tryBuildProbeLane, hpong, makePollResult, nothingPending]
    | false =>
      cases hping : tx.probe.pingPending with
      | true => simp [polled, poll_of_ping h hfirst hpong hping, makePollResult, nothingPending, hping]
      | false =>
        cases hack : tx.ackOnlyPending with
        | true =>
          simp only [polled, poll, h, tryBuildRetransmit_eq, hfirst]
          simp [tryBuildProbeLane, hpong, hping, tryBuildAckOnly, hack, makePollResult,
            nothingPending]
        | false =>
          simp only [polled, poll_of_fresh h hfirst hpong hping hack, nothingPending, hpong, hping,
            hack, Bool.not_false, Bool.true_and]
          exact ⟨trivial, trivial, tryBuildFresh_isSome⟩

/-- With no packet due, nothing is sent again. -/
theorem poll_of_nothingDue
    (h : tryBuildHandshake transport nowMs role connId state rx tx = (none, next, tx))
    (hdue : firstDue transport nowMs tx = none) :
    (poll transport nowMs role connId state rx tx).1.retransmission = false := by
  rw [poll, h]
  simp only [tryBuildRetransmit_eq, hdue]
  simp only [Bool.false_or, Option.isSome_none, Bool.false_eq_true, if_false]
  rcases tryBuildProbeLane connId rx tx with ⟨_ | bytes, tx₁⟩
  · simp only
    rcases tryBuildAckOnly connId rx tx₁ with ⟨_ | bytes, tx₂⟩
    · simp only
      rcases tryBuildFresh nowMs connId rx tx₂ with ⟨_ | bytes, tx₃⟩ <;> rfl
    · rfl
  · rfl

/-- **When a poll fails the connection:** the handshake lane has nothing to send, and the scan stops
at a packet that has used up its retransmissions. -/
theorem poll_fatalError : (poll transport nowMs role connId state rx tx).1.fatalError =
    (!handshakeDue role state tx &&
      (firstDue transport nowMs tx).any fun item => item.2.exhausted transport) := by
  cases hshake : handshakeDue role state tx with
  | true => exact (poll_of_handshakeDue hshake).1
  | false =>
    have hpoll := (poll_of_quiet (@tryBuildHandshake_of_not_due transport nowMs role connId state rx
      tx hshake)).2
    cases hfirst : firstDue transport nowMs tx with
    | none =>
      rw [hfirst] at hpoll
      simpa using hpoll.1
    | some item =>
      rw [hfirst] at hpoll
      simpa using hpoll.1

end Lanes

end Rudp
