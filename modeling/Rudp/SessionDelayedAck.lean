import Rudp.SessionReceive

/-!
# Delayed acknowledgements

A session answers data on a reliable channel with an ACK of its own, `reliable_ack_delay_ms` later,
unless something else that it sends carries the acknowledgement first. Every further packet sets the
time anew, so a peer whose packets come closer together than the delay puts the ACK off again and
again.

As long as the session sends nothing, the ACK is owed: it is asked for already, or it is due one
delay after the *last* packet (`AckAsked`). `delayed_ack_iff` says exactly when a poll sends a
datagram then.
-/

namespace Rudp

open TxHandler Session RxHandler

/-! ## What a poll sends -/

/-- The poll gives the session up: its peer is idle, or there is no handshake frame to send and the
scan stops at a packet that has used up its retransmissions. -/
def abandons (transport : TransportSettings) (nowMs : U64) (s : SessionState) : Bool :=
  shouldTimeoutIdleSession transport s nowMs ||
    !handshakeDue s.role s.connectionState s.tx &&
      (firstDue transport nowMs s.tx).any fun item => item.2.exhausted transport

/-- Besides the delayed ACK, the session has something to send. -/
def sendsAnyway (transport : TransportSettings) (nowMs : U64) (s : SessionState) : Bool :=
  handshakeDue s.role s.connectionState s.tx || (firstDue transport nowMs s.tx).isSome ||
    !nothingPending s.tx || shouldScheduleActivityAck transport s nowMs ||
    shouldScheduleProbe transport s nowMs

section Poll

variable {transport : TransportSettings} {nowMs : U64} {s : SessionState}

theorem nothingPending_schedulePendingTxWork :
    nothingPending (schedulePendingTxWork transport nowMs s).tx =
      (nothingPending s.tx && !shouldScheduleReliableAck s nowMs &&
        !shouldScheduleActivityAck transport s nowMs && !shouldScheduleProbe transport s nowMs) := by
  rw [schedulePendingTxWork]
  split_ifs with hreliable hactivity hprobe
  · simp [nothingPending, hreliable]
  · simp [nothingPending, hactivity]
  · simp [nothingPending, hprobe]
  · simp [hreliable, hactivity, hprobe]

/-- **When a poll sends.** -/
theorem pollTx_isSome_iff : (pollTx transport nowMs s).1.isSome = true ↔
    abandons transport nowMs s = false ∧
      (sendsAnyway transport nowMs s = true ∨ shouldScheduleReliableAck s nowMs = true) := by
  rw [abandons, sendsAnyway]
  cases htimeout : shouldTimeoutIdleSession transport s nowMs with
  | true =>
    rw [pollTx, if_pos htimeout]
    simp
  | false =>
    rw [pollTx_datagram htimeout]
    cases hshake : handshakeDue s.role s.connectionState s.tx with
    | true =>
      have hlane := @poll_of_handshakeDue transport nowMs s.role s.connId s.connectionState s.rx
        (schedulePendingTxWork transport nowMs s).tx
        ((schedulePendingTxWork_handshakeDue s.role s.connectionState).trans hshake)
      rw [← laneResult] at hlane
      simp [hlane.1, hlane.2.2]
    | false =>
      have hlane := @laneResult_of_quiet transport nowMs s hshake
      cases hfirst : firstDue transport nowMs s.tx with
      | some item =>
        rw [hfirst] at hlane
        simp only at hlane
        rw [hlane.1]
        cases hexhausted : item.2.exhausted transport <;> simp [hlane.2, hexhausted]
      | none =>
        rw [hfirst] at hlane
        simp only at hlane
        rw [hlane.1, if_neg Bool.false_ne_true, hlane.2, nothingPending_schedulePendingTxWork]
        cases nothingPending s.tx <;> cases shouldScheduleReliableAck s nowMs <;>
          cases shouldScheduleActivityAck transport s nowMs <;>
          cases shouldScheduleProbe transport s nowMs <;> simp

/-- A poll that sends nothing and leaves the session established leaves it as it was. -/
theorem pollTx_of_silent (hnone : (pollTx transport nowMs s).1 = none)
    (hstate : (pollTx transport nowMs s).2.connectionState = .established) :
    (pollTx transport nowMs s).2 = s := by
  have hempty : PollsEmpty transport nowMs s := by
    refine ⟨hnone, ?_⟩
    rcases pollTx_rx transport nowMs s with hrx | ⟨-, hreset, -⟩
    · rw [hrx]
    · rw [hstate] at hreset
      cases hreset
  rw [hempty.eq] at hstate ⊢
  simp only at hstate ⊢
  split_ifs at hstate ⊢
  rfl

end Poll

/-! ## An ACK that is owed -/

/-- An ACK is asked for, or it is due at the given time. -/
def AckAsked (dueMs : U64) (tx : TxSessionState) : Prop :=
  tx.ackOnlyPending = true ∨ tx.reliableAckPending = true ∧ tx.reliableAckDueMs = dueMs

/-- The packet is data on a reliable channel. -/
def PacketView.isReliableData (packet : PacketView) : Bool :=
  classifyControlKind packet.header = .none && isReliableChannel packet.header.channelType

section Receive

variable {transport : TransportSettings} {bytes : Bytes} {nowMs dueMs : U64} {s : SessionState}
  {packet : PacketView}

theorem onPacket_asks_ack (hreliable : isReliableChannel packet.header.channelType = true)
    (kind : ControlKind) (rx : RxSessionState) :
    (onPacket packet nowMs kind rx).1.scheduleAckOnly = true := by
  have htouch : touchesWindow packet.header kind = true := by
    simp [touchesWindow, hreliable]
  rw [onPacket, updateReliableReceiveState, htouch]
  simp only [Bool.not_true, Bool.false_eq_true, if_false, hreliable, Bool.true_or]
  split_ifs <;> rfl

/-- Whatever else comes, the ACK is still owed. -/
theorem receiveRule_ackAsked (h : packet.isReliableData = false) :
    ReceiveRule transport nowMs packet fun s => AckAsked dueMs s.tx where
  recorded _ _ _ hs := hs
  adopted _ hs := hs
  reset _ hs := hs
  lingered s _ hs := by
    rw [scheduleFinalAckDuringLinger]
    split_ifs <;> exact hs
  probed s hs := by
    rw [handleProbeReceive]
    split_ifs <;> exact hs
  acked s hs := by
    rcases applyRemoteAck_effect transport packet.header s.tx with ⟨-, htx, -⟩ | ⟨-, hack⟩
    · rw [htx]
      exact hs
    · rw [hack.state]
      exact hs
  closed _ hs := hs
  decided s hs := by
    rw [applyConnectionDecision]
    generalize decideConnectionTransition s.role s.connectionState
      (classifyControlKind packet.header) = decision
    have hasked : ∀ tx : TxSessionState, AckAsked dueMs tx → AckAsked dueMs
        (if decision.scheduleAckOnly then { tx with ackOnlyPending := true } else tx) := by
      intro tx htx
      split_ifs
      · exact Or.inl rfl
      · exact htx
    cases decision.valid with
    | false =>
      simp only [Bool.not_false, if_true]
      split_ifs <;> exact hs
    | true =>
      simp only [Bool.not_true, Bool.false_eq_true, if_false]
      refine hasked _ ?_
      cases decision.nextState <;> simp only <;> split_ifs <;> exact hs
  received _ _ hs := hs
  live s hs := by
    rw [updatePostReceiveLiveness]
    split_ifs <;> exact hs
  scheduled s rxResult hs := by
    rw [scheduleReceiveSideAck, if_neg (by simpa [PacketView.isReliableData] using h :
      ¬(classifyControlKind packet.header = .none ∧
        isReliableChannel packet.header.channelType = true))]
    split_ifs
    · exact hs
    · exact Or.inl rfl

/-- Data on a reliable channel makes the ACK due one delay later, whenever it was due before. -/
theorem onDatagramReceived_reliableData (hdecode : decode bytes = some packet)
    (hdata : packet.isReliableData = true)
    (hstate : (onDatagramReceived transport bytes nowMs s).connectionState = .established) :
    AckAsked (nowMs + transport.reliableAckDelayMs)
      (onDatagramReceived transport bytes nowMs s).tx := by
  obtain ⟨hkind, hreliable⟩ : classifyControlKind packet.header = .none ∧
      isReliableChannel packet.header.channelType = true := by
    simpa [PacketView.isReliableData] using hdata
  rw [onDatagramReceived_of_decode hdecode] at hstate ⊢
  simp only at hstate ⊢
  generalize counted packet bytes.length nowMs s = t at hstate ⊢
  have hfirst : isDuplicateClientSynAck t (classifyControlKind packet.header) = false := by
    simp [isDuplicateClientSynAck, hkind]
  rw [hfirst, if_neg Bool.false_ne_true] at hstate ⊢
  split_ifs at hstate ⊢
  · cases hstate
  · rw [afterChecks, scheduleReceiveSideAck, onPacket_asks_ack hreliable, hkind]
    simp only [Bool.not_true, Bool.false_eq_true, if_false, hreliable, and_self, if_true]
    exact Or.inr ⟨rfl, rfl⟩

end Receive

/-! ## Traffic -/

/-- What happens to a session that its application leaves alone. -/
inductive TrafficOp where
  | onDatagramReceived (bytes : Bytes) (nowMs : U64)
  | pollTx (nowMs : U64)

/-- A session, and when the last data came on a reliable channel. -/
structure AckWatch where
  session : SessionState
  lastMs : U64 := 0

def AckWatch.step (transport : TransportSettings) (r : AckWatch) : TrafficOp → AckWatch
  | .onDatagramReceived bytes nowMs =>
    { session := Session.onDatagramReceived transport bytes nowMs r.session
      lastMs := if (decode bytes).any PacketView.isReliableData then nowMs else r.lastMs }
  | .pollTx nowMs => { r with session := (Session.pollTx transport nowMs r.session).2 }

/-- The session stays established, and a poll returns no datagram. -/
def StaysSilent (transport : TransportSettings) (r : AckWatch) (op : TrafficOp) : Prop :=
  (r.step transport op).session.connectionState = .established ∧
    match op with
    | .onDatagramReceived _ _ => True
    | .pollTx nowMs => (Session.pollTx transport nowMs r.session).1 = none

instance (transport : TransportSettings) (r : AckWatch) (op : TrafficOp) :
    Decidable (StaysSilent transport r op) :=
  match op with
  | .onDatagramReceived _ _ => inferInstanceAs (Decidable (_ ∧ True))
  | .pollTx _ => inferInstanceAs (Decidable (_ ∧ _ = none))

/-- The session is established and owes an ACK for the last packet. -/
structure OwesAck (transport : TransportSettings) (r : AckWatch) : Prop where
  established : r.session.connectionState = .established
  asked : AckAsked (r.lastMs + transport.reliableAckDelayMs) r.session.tx

section Traffic

variable {transport : TransportSettings} {r : AckWatch}

/-- The packet that the ACK is for. -/
theorem OwesAck.of_data {bytes : Bytes} {nowMs : U64}
    (hdata : (decode bytes).any PacketView.isReliableData = true)
    (hstate : (r.step transport (.onDatagramReceived bytes nowMs)).session.connectionState =
      .established) : OwesAck transport (r.step transport (.onDatagramReceived bytes nowMs)) := by
  refine ⟨hstate, ?_⟩
  obtain ⟨packet, hdecode, hreliable⟩ := (Option.any_eq_true _ _).1 hdata
  simp only [AckWatch.step, hdata, if_true]
  exact onDatagramReceived_reliableData hdecode hreliable hstate

theorem OwesAck.step (h : OwesAck transport r) {op : TrafficOp}
    (hsilent : StaysSilent transport r op) : OwesAck transport (r.step transport op) := by
  cases op with
  | onDatagramReceived bytes nowMs =>
    cases hdata : (decode bytes).any PacketView.isReliableData with
    | true => exact .of_data hdata hsilent.1
    | false =>
      refine ⟨hsilent.1, ?_⟩
      simp only [AckWatch.step, hdata, Bool.false_eq_true, if_false]
      refine ReceiveRule.onDatagramReceived (fun packet hdecode => receiveRule_ackAsked ?_) h.asked
      rwa [hdecode, Option.any_some] at hdata
  | pollTx nowMs =>
    have hsame : (r.step transport (.pollTx nowMs)).session = r.session :=
      pollTx_of_silent hsilent.2 hsilent.1
    refine ⟨hsilent.1, ?_⟩
    rw [hsame]
    exact h.asked

/-- An ACK that is owed is sent when it is due, unless something else is sent first. -/
theorem OwesAck.sends_iff (h : OwesAck transport r) (nowMs : U64) :
    (Session.pollTx transport nowMs r.session).1.isSome = true ↔
      abandons transport nowMs r.session = false ∧
        (sendsAnyway transport nowMs r.session = true ∨
          nowMs ≥ r.lastMs + transport.reliableAckDelayMs) := by
  rw [pollTx_isSome_iff]
  refine and_congr_right fun _ => ?_
  cases hanyway : sendsAnyway transport nowMs r.session with
  | true => simp
  | false =>
    -- Nothing else is waiting, so nothing keeps the ACK from being scheduled.
    have hnothing : nothingPending r.session.tx = true := by
      simp only [sendsAnyway, Bool.or_eq_false_iff, Bool.not_eq_false'] at hanyway
      exact hanyway.1.1.2
    simp only [nothingPending, Bool.and_eq_true, Bool.not_eq_true'] at hnothing
    obtain ⟨⟨⟨hpong, hping⟩, hack⟩, -⟩ := hnothing
    rcases h.asked with hasked | ⟨hreliable, hdue⟩
    · rw [hack] at hasked
      cases hasked
    · simp [shouldScheduleReliableAck, h.established, hreliable, hack, hping, hpong, hdue]

end Traffic

/-- **Exactly when a delayed ACK goes out.** Let data come on a reliable channel, and let the
session stay established and send nothing through any further packets and polls. Then a poll sends a
datagram if and only if it does not give the session up, and the *last* such data came at least the
delay before, or the session has something else to send. -/
theorem delayed_ack_iff (transport : TransportSettings) (s : SessionState) {bytes : Bytes}
    (t₀ t : U64) (ops : List TrafficOp)
    (hdata : (decode bytes).any PacketView.isReliableData = true)
    (hsilent : Run.Along (AckWatch.step transport) (StaysSilent transport) { session := s }
      (.onDatagramReceived bytes t₀ :: ops)) :
    let r := Run.run (AckWatch.step transport) { session := s } (.onDatagramReceived bytes t₀ :: ops)
    (Session.pollTx transport t r.session).1.isSome = true ↔
      abandons transport t r.session = false ∧
        (sendsAnyway transport t r.session = true ∨ t ≥ r.lastMs + transport.reliableAckDelayMs) := by
  intro r
  have howes : OwesAck transport r :=
    hsilent.2.invariant (OwesAck transport) (fun _ _ h hstep => h.step hstep)
      (.of_data hdata hsilent.1.1)
  exact howes.sends_iff t

/-- Unordered data for `idleServer`. -/
def dataAt (seq : U32) : Bytes :=
  encode { connId := 7, seq, channelId := 1, channelType := .reliableUnordered, ack := 101 } [0x01]

/-- The ACK for a single packet goes out after 2 ms. -/
theorem delayed_ack_in_time :
    (Session.pollTx {} 312 (Run.run (AckWatch.step {}) { session := idleServer }
      [.onDatagramReceived (dataAt 501) 310, .pollTx 311]).session).1.isSome = true :=
  (delayed_ack_iff {} idleServer 310 312 [.pollTx 311] (by decide +kernel) (by decide +kernel)).2
    (by decide +kernel)

/-- With a second packet 1 ms after the first, it does not. -/
theorem delayed_ack_postponed :
    let transport : TransportSettings := {}
    let ops : List TrafficOp :=
      [.onDatagramReceived (dataAt 501) 310, .onDatagramReceived (dataAt 502) 311]
    let r := Run.run (AckWatch.step transport) { session := idleServer } ops
    transport.reliableAckDelayMs = 2 ∧ idleServer.connectionState = .established ∧
      (decode (dataAt 501)).any PacketView.isReliableData = true ∧
      Run.Along (AckWatch.step transport) (StaysSilent transport) { session := idleServer } ops ∧
      r.session.connectionState = .established ∧
      Session.shouldTimeoutIdleSession transport r.session 312 = false ∧
      (Session.pollTx transport 312 r.session).1 = none ∧
      (Session.pollTx transport 312 r.session).2.connectionState = .established := by
  decide +kernel

end Rudp
