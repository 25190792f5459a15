import Rudp.SessionStep
import Rudp.TxWindow

/-!
# Closing a session

`request_close` schedules a FIN, and the session is closed once the FIN is acknowledged. Three
things can go wrong on the way. The FIN leaves ahead of whatever is still queued, so it may be
acknowledged while data that was queued earlier has never been sent; the FIN may be acknowledged
through a bit of `ack_bits`, which says nothing about the packets before it; and a session that is
closing still takes and sends requests, behind the FIN. The main result is that nothing else goes
wrong: if requests are neither overtaken nor added, and the FIN is acknowledged cumulatively, the
peer has everything.

Beside the session an observer keeps how much of the queue is older than `request_close`.
-/

namespace Rudp

open TxHandler Session

/-! ## What is in flight -/

/-- A FIN with this number waits for its acknowledgement. -/
def TxSessionState.finInFlight (tx : TxSessionState) (seq : U32) : Bool :=
  tx.inflight[seq]?.any fun entry => entry.packet.header.hasFlag .fin

/-- A FIN of the session is to be sent, or waits for its acknowledgement. -/
def TxSessionState.finOutstanding (tx : TxSessionState) : Bool :=
  tx.finPending || tx.inflight.toList.any fun item => item.2.packet.header.hasFlag .fin

/-- Reliable data with this number waits for its acknowledgement. -/
def TxSessionState.dataInFlight (tx : TxSessionState) (seq : U32) : Bool :=
  tx.inflight[seq]?.any fun entry => isReliableChannel entry.packet.header.channelType

section InFlight

variable {tx tx' : TxSessionState} {seq : U32}

theorem finInFlight_iff : tx.finInFlight seq = true ↔ ∃ entry, tx.inflight[seq]? = some entry ∧
    entry.packet.header.hasFlag .fin = true := Option.any_eq_true _ _

theorem finOutstanding_iff : tx.finOutstanding = true ↔
    tx.finPending = true ∨ ∃ f, tx.finInFlight f = true := by
  rw [TxSessionState.finOutstanding, Bool.or_eq_true, List.any_eq_true]
  refine or_congr_right ⟨?_, ?_⟩
  · rintro ⟨⟨f, entry⟩, hmem, hfin⟩
    exact ⟨f, finInFlight_iff.2
      ⟨entry, Std.ExtTreeMap.mem_toList_iff_getElem?_eq_some.1 hmem, hfin⟩⟩
  · rintro ⟨f, hf⟩
    obtain ⟨entry, hget, hfin⟩ := finInFlight_iff.1 hf
    exact ⟨(f, entry), Std.ExtTreeMap.mem_toList_iff_getElem?_eq_some.2 hget, hfin⟩

theorem dataInFlight_iff : tx.dataInFlight seq = true ↔ ∃ entry, tx.inflight[seq]? = some entry ∧
    isReliableChannel entry.packet.header.channelType = true := Option.any_eq_true _ _

theorem SameCore.finInFlight (h : SameCore tx tx') (seq : U32) :
    tx'.finInFlight seq = tx.finInFlight seq := by
  rw [TxSessionState.finInFlight, h.inflight, TxSessionState.finInFlight]

theorem SameCore.dataInFlight (h : SameCore tx tx') (seq : U32) :
    tx'.dataInFlight seq = tx.dataInFlight seq := by
  rw [TxSessionState.dataInFlight, h.inflight, TxSessionState.dataInFlight]

theorem WindowBound.sameCore (h : WindowBound tx) (hsame : SameCore tx tx') : WindowBound tx' :=
  h.shrink hsame.nextSeq hsame.remoteAck fun _ entry hk => ⟨entry, hsame.inflight ▸ hk⟩

/-- What a packet in flight can be, as far as closing is concerned. -/
theorem WindowBound.age_of_inFlight (h : WindowBound tx)
    (hseq : tx.finInFlight seq = true ∨ tx.dataInFlight seq = true) :
    1 ≤ tx.age seq ∧ tx.age seq ≤ 64 := by
  rcases hseq with hseq | hseq
  · obtain ⟨entry, hget, -⟩ := finInFlight_iff.1 hseq
    exact h.bound seq entry hget
  · obtain ⟨entry, hget, -⟩ := dataInFlight_iff.1 hseq
    exact h.bound seq entry hget

/-- What is in flight was sent before the packet that is sent next. -/
theorem WindowBound.seqLt_nextSeq (h : WindowBound tx) (hseq : tx.dataInFlight seq = true) :
    seqLt seq tx.nextSeq = true := by
  obtain ⟨hlow, hhigh⟩ := h.age_of_inFlight (Or.inr hseq)
  rw [seqLt_iff]
  simp only [TxSessionState.age, BitVec.toNat_sub] at *
  omega

end InFlight

/-! ## One poll -/

section Poll

variable {transport : TransportSettings} {nowMs : U64} {role : SessionRole} {connId : U32}
  {state : ConnectionState} {rx : RxSessionState} {tx tx' : TxSessionState} {result : TxPollResult}

/-- An entry in flight was there before, up to the ack fields, or this poll numbered it. -/
theorem PollEffect.entry_cases {k : U32} {entry' : TxEntry}
    (h : PollEffect transport nowMs role connId state rx tx result tx')
    (hget : tx'.inflight[k]? = some entry') :
    (∃ entry, tx.inflight[k]? = some entry ∧ SameButAcks entry.packet entry'.packet) ∨
      k = tx.nextSeq ∧
        ((∃ flags synAckPending, ControlCause role state tx flags synAckPending tx'.finPending ∧
          entry'.packet = controlPacket connId flags rx tx.nextSeq) ∨
        ∃ request ∈ tx.pendingSend, isReliableChannel request.channelType = true ∧
          entry'.packet = requestPacket request connId rx tx.nextSeq) := by
  cases h with
  | idle => exact Or.inl ⟨entry', hget, .refl _⟩
  | bare _ htx =>
    rw [htx] at hget
    exact Or.inl ⟨entry', hget, .refl _⟩
  | unreliable _ _ => exact Or.inl ⟨entry', hget, .refl _⟩
  | control hcause _ =>
    simp only [sendNumbered, SeqMap.getElem?_insertIfNew] at hget
    split_ifs at hget with hnew
    · obtain rfl := Option.some.inj hget
      exact Or.inr ⟨hnew.1.symm, Or.inl ⟨_, _, hcause, rfl⟩⟩
    · exact Or.inl ⟨entry', hget, .refl _⟩
  | @data request rest hpending hchannel _ =>
    simp only [sendNumbered, SeqMap.getElem?_insertIfNew] at hget
    split_ifs at hget with hnew
    · obtain rfl := Option.some.inj hget
      refine Or.inr ⟨hnew.1.symm, Or.inr ⟨request, ?_, hchannel, rfl⟩⟩
      rw [hpending]
      exact List.mem_cons_self
    · exact Or.inl ⟨entry', hget, .refl _⟩
  | retransmit hold _ _ =>
    simp only [SeqMap.getElem?_insert] at hget
    split_ifs at hget with heq
    · obtain rfl := Option.some.inj hget
      exact Or.inl ⟨_, heq ▸ hold, _, _, rfl⟩
    · exact Or.inl ⟨entry', hget, .refl _⟩
  | fatal _ _ =>
    simp only [SeqMap.getElem?_erase] at hget
    split_ifs at hget
    exact Or.inl ⟨entry', hget, .refl _⟩

/-- A FIN is in flight because it was, or because this poll sent it. -/
theorem PollEffect.finInFlight {f : U32}
    (h : PollEffect transport nowMs role connId state rx tx result tx')
    (hf : tx'.finInFlight f = true) :
    tx.finInFlight f = true ∨
      f = tx.nextSeq ∧ state = .closing ∧ tx.finPending = true ∧ tx'.finPending = false := by
  obtain ⟨entry', hget, hfin⟩ := finInFlight_iff.1 hf
  rcases h.entry_cases hget with ⟨entry, hold, _, _, heq⟩ |
    ⟨rfl, ⟨flags, synAckPending, hcause, heq⟩ | ⟨request, -, -, heq⟩⟩
  · rw [heq] at hfin
    exact Or.inl (finInFlight_iff.2 ⟨entry, hold, hfin⟩)
  · rw [heq] at hfin
    generalize tx'.finPending = finPending at hcause ⊢
    cases hcause with
    | syn _ _ => exact absurd hfin (by simp [Header.hasFlag, controlPacket, Flag.toFlags])
    | synAck _ _ => exact absurd hfin (by simp [Header.hasFlag, controlPacket, Flag.toFlags])
    | fin hpending hstate => exact Or.inr ⟨rfl, hstate, hpending, rfl⟩
  · rw [heq] at hfin
    exact absurd hfin (by simp [Header.hasFlag, requestPacket, Flag.toFlags])

/-- Data is in flight because it was, or because this poll took it from the queue. -/
theorem PollEffect.dataInFlight {k : U32}
    (h : PollEffect transport nowMs role connId state rx tx result tx')
    (hk : tx'.dataInFlight k = true) :
    tx.dataInFlight k = true ∨
      ∃ request ∈ tx.pendingSend, isReliableChannel request.channelType = true := by
  obtain ⟨entry', hget, hdata⟩ := dataInFlight_iff.1 hk
  rcases h.entry_cases hget with ⟨entry, hold, _, _, heq⟩ |
    ⟨-, ⟨_, _, -, heq⟩ | ⟨request, hmem, hchannel, -⟩⟩
  · rw [heq] at hdata
    exact Or.inl (dataInFlight_iff.2 ⟨entry, hold, hdata⟩)
  · rw [heq] at hdata
    cases hdata
  · exact Or.inr ⟨request, hmem, hchannel⟩

/-- A poll takes at most the head of the queue, and never asks for another FIN. -/
theorem PollEffect.queue (h : PollEffect transport nowMs role connId state rx tx result tx') :
    (tx'.pendingSend = tx.pendingSend ∨
      ∃ request, tx.pendingSend = request :: tx'.pendingSend) ∧
      (tx'.finPending = true → tx.finPending = true) := by
  cases h with
  | idle => exact ⟨Or.inl rfl, id⟩
  | bare _ htx =>
    rw [htx]
    exact ⟨Or.inl rfl, id⟩
  | control hcause _ =>
    refine ⟨Or.inl rfl, fun hpending => ?_⟩
    cases hcause with
    | syn _ _ => exact hpending
    | synAck _ _ => exact hpending
    | fin _ _ => cases hpending
  | unreliable hpending _ => exact ⟨Or.inr ⟨_, hpending⟩, id⟩
  | data hpending _ _ => exact ⟨Or.inr ⟨_, hpending⟩, id⟩
  | retransmit _ _ _ => exact ⟨Or.inl rfl, id⟩
  | fatal _ _ => exact ⟨Or.inl rfl, id⟩

end Poll

/-! ## One datagram -/

/-- Nothing new is in flight, and the queue is as it was. -/
structure Shrinks (tx tx' : TxSessionState) : Prop where
  fin : ∀ f, tx'.finInFlight f = true → tx.finInFlight f = true
  data : ∀ k, tx'.dataInFlight k = true → tx.dataInFlight k = true
  pendingSend : tx'.pendingSend = tx.pendingSend
  finPending : tx'.finPending = tx.finPending
  window : WindowBound tx → WindowBound tx'

theorem SameCore.shrinks {tx tx' : TxSessionState} (h : SameCore tx tx') : Shrinks tx tx' where
  fin := fun f hf => h.finInFlight f ▸ hf
  data := fun k hk => h.dataInFlight k ▸ hk
  pendingSend := h.pendingSend
  finPending := h.finPending
  window := fun hwindow => hwindow.sameCore h

theorem Shrinks.trans {tx₁ tx₂ tx₃ : TxSessionState} (h : Shrinks tx₁ tx₂)
    (h' : Shrinks tx₂ tx₃) : Shrinks tx₁ tx₃ where
  fin := fun f hf => h.fin f (h'.fin f hf)
  data := fun k hk => h.data k (h'.data k hk)
  pendingSend := h'.pendingSend.trans h.pendingSend
  finPending := h'.finPending.trans h.finPending
  window := fun hwindow => h'.window (h.window hwindow)

section Receive

variable {ack : U32} {ackBits : U64} {tx tx' : TxSessionState} {result : TxAckResult}

theorem Acknowledges.shrinks (h : Acknowledges ack ackBits tx tx' result) : Shrinks tx tx' where
  fin := fun f hf => by
    obtain ⟨entry', hget, hfin⟩ := finInFlight_iff.1 hf
    obtain ⟨entry, hold, hpacket, -⟩ := h.entries f entry' hget
    exact finInFlight_iff.2 ⟨entry, hold, hpacket ▸ hfin⟩
  data := fun k hk => by
    obtain ⟨entry', hget, hdata⟩ := dataInFlight_iff.1 hk
    obtain ⟨entry, hold, hpacket, -⟩ := h.entries k entry' hget
    exact dataInFlight_iff.2 ⟨entry, hold, hpacket ▸ hdata⟩
  pendingSend := by rw [h.state]
  finPending := by rw [h.state]
  window := fun hwindow => hwindow.acknowledges h

/-- What is acknowledged is in flight no longer. -/
theorem Acknowledges.not_inFlight (h : Acknowledges ack ackBits tx tx' result) {seq : U32}
    (hacked : isAcknowledgedByRemote seq ack ackBits = true) :
    tx'.finInFlight seq = false ∧ tx'.dataInFlight seq = false := by
  have hnone := (h.keys seq).2 (Or.inr hacked)
  rw [TxSessionState.finInFlight, TxSessionState.dataInFlight, hnone]
  exact ⟨rfl, rfl⟩

/-- A FIN that is in flight no longer was acknowledged. -/
theorem Acknowledges.fin_acknowledged (h : Acknowledges ack ackBits tx tx' result) {f : U32}
    (hf : tx.finInFlight f = true) (hgone : tx'.finInFlight f = false) :
    isAcknowledgedByRemote f ack ackBits = true := by
  obtain ⟨entry, hget, hfin⟩ := finInFlight_iff.1 hf
  by_contra hacked
  cases hget' : tx'.inflight[f]? with
  | none =>
    rcases (h.keys f).1 hget' with hnone | hyes
    · rw [hget] at hnone
      cases hnone
    · exact hacked hyes
  | some entry' =>
    obtain ⟨old, hold, hpacket, -⟩ := h.entries f entry' hget'
    obtain rfl := Option.some.inj (hget.symm.trans hold)
    have : tx'.finInFlight f = true := finInFlight_iff.2 ⟨entry', hget', hpacket ▸ hfin⟩
    rw [hgone] at this
    cases this

variable {bytes : Bytes} {s s' : SessionState}

theorem ReceiveEffect.shrinks (h : ReceiveEffect bytes s s') : Shrinks s.tx s'.tx := by
  cases h with
  | dropped htx _ => exact htx.shrinks
  | mismatch htx _ => exact htx.shrinks
  | processed _ _ hbefore hack hafter _ =>
    rcases hack with ⟨-, rfl, -⟩ | ⟨-, hack⟩
    · exact (hbefore.trans hafter).shrinks
    · exact (hbefore.shrinks.trans hack.shrinks).trans hafter.shrinks

/-- The FIN leaves the map of a session through a packet that acknowledges it. -/
theorem ReceiveEffect.fin_acknowledged (h : ReceiveEffect bytes s s') {f : U32}
    (hf : s.tx.finInFlight f = true) (hgone : s'.tx.finInFlight f = false) :
    ∃ packet, decode bytes = some packet ∧
      hasConnIdMismatch s (classifyControlKind packet.header) packet.header = false ∧
      classifyControlKind packet.header ≠ .syn ∧
      isAcknowledgedByRemote f packet.header.ack packet.header.ackBits = true ∧
      ∀ k, isAcknowledgedByRemote k packet.header.ack packet.header.ackBits = true →
        s'.tx.dataInFlight k = false := by
  have hsame : ¬ SameCore s.tx s'.tx := fun htx => by
    rw [htx.finInFlight, hf] at hgone
    cases hgone
  cases h with
  | dropped htx _ => exact absurd htx hsame
  | mismatch htx _ => exact absurd htx hsame
  | @processed packet result tx tx' hdecode hmatch hbefore hack hafter _ =>
    rcases hack with ⟨-, rfl, -⟩ | ⟨hkind, hack⟩
    · exact absurd (hbefore.trans hafter) hsame
    · rw [← hbefore.finInFlight] at hf
      rw [hafter.finInFlight] at hgone
      have hacked := hack.fin_acknowledged hf hgone
      refine ⟨packet, hdecode, hmatch, hkind, hacked, fun k hk => ?_⟩
      rw [hafter.dataInFlight]
      exact (hack.not_inFlight hk).2

/-- The connection is not on its way down. -/
def ConnectionState.isUp (state : ConnectionState) : Prop := state ≠ .closing ∧ state ≠ .reset

/-- A session that is up after a datagram was up before it, or its FIN was acknowledged. -/
theorem ReceiveEffect.isUp (h : ReceiveEffect bytes s s') (hup : s'.connectionState.isUp) :
    s.connectionState.isUp ∨ s.connectionState = .closing ∧
      ∃ f, s.tx.finInFlight f = true ∧ s'.tx.finInFlight f = false := by
  cases h with
  | dropped _ hstate => exact Or.inl (hstate ▸ hup)
  | mismatch _ hstate => exact absurd hstate hup.2
  | @processed packet result tx tx' _ _ hbefore hack hafter hstate =>
    by_cases hfin : result.acknowledgedFin = true ∧ s.connectionState = .closing
    · refine Or.inr ⟨hfin.2, ?_⟩
      rcases hack with ⟨-, -, rfl⟩ | ⟨-, hack⟩
      · cases hfin.1
      · obtain ⟨f, entry, hget, hacked, hflag⟩ := hack.fin.1 hfin.1
        refine ⟨f, ?_, ?_⟩
        · rw [← hbefore.finInFlight]
          exact finInFlight_iff.2 ⟨entry, hget, hflag⟩
        · rw [hafter.finInFlight]
          exact (hack.not_inFlight hacked).1
    · -- Without the acknowledgement no decision leads up again.
      rw [stateAfterAck, if_neg hfin] at hstate
      rw [hstate] at hup
      refine Or.inl ?_
      cases hnext : (decideConnectionTransition s.role s.connectionState
          (classifyControlKind packet.header)).nextState with
      | none =>
        rw [hnext] at hup
        exact hup
      | some next =>
        rw [hnext] at hup
        rcases nextState_cases hnext with ⟨rfl, -⟩ | ⟨rfl, -⟩ | ⟨-, -, -, hfrom⟩ |
          ⟨-, -, -, hfrom⟩ | ⟨-, -, -, hfrom⟩
        · exact absurd rfl hup.2
        · exact absurd rfl hup.1
        all_goals
          rw [hfrom]
          exact ⟨by decide, by decide⟩

end Receive

/-! ## One poll of a session -/

/-- What `poll_tx` means for closing. -/
structure Polls (s s' : SessionState) : Prop where
  fin : ∀ f, s'.tx.finInFlight f = true → s.tx.finInFlight f = true ∨
    f = s.tx.nextSeq ∧ s.connectionState = .closing ∧ s.tx.finPending = true ∧
      s'.tx.finPending = false
  data : ∀ k, s'.tx.dataInFlight k = true → s.tx.dataInFlight k = true ∨
    ∃ request ∈ s.tx.pendingSend, isReliableChannel request.channelType = true
  queue : s'.tx.pendingSend = s.tx.pendingSend ∨
    ∃ request, s.tx.pendingSend = request :: s'.tx.pendingSend
  finPending : s'.tx.finPending = true → s.tx.finPending = true
  window : WindowBound s.tx → WindowBound s'.tx
  isUp : s'.connectionState.isUp → s.connectionState.isUp

theorem PollTxEffect.polls {transport : TransportSettings} {nowMs : U64} {bytes : Option Bytes}
    {s s' : SessionState} (h : PollTxEffect transport nowMs s bytes s') : Polls s s' := by
  cases h with
  | timeout _ =>
    exact ⟨fun _ hf => Or.inl hf, fun _ hk => Or.inl hk, Or.inl rfl, id, id,
      fun hup => absurd rfl hup.2⟩
  | polled hbefore heffect hafter _ _ _ hstate =>
    refine ⟨fun f hf => ?_, fun k hk => ?_, ?_, fun hpending => ?_, fun hwindow => ?_,
      fun hup => ?_⟩
    · rw [hafter.finInFlight] at hf
      rw [hafter.finPending, ← hbefore.finInFlight, ← hbefore.finPending, ← hbefore.nextSeq]
      exact heffect.finInFlight hf
    · rw [hafter.dataInFlight] at hk
      rw [← hbefore.dataInFlight, ← hbefore.pendingSend]
      exact heffect.dataInFlight hk
    · rw [hafter.pendingSend, ← hbefore.pendingSend]
      exact heffect.queue.1
    · rw [hafter.finPending] at hpending
      rw [← hbefore.finPending]
      exact heffect.queue.2 hpending
    · exact ((hwindow.sameCore hbefore).pollEffect heffect).sameCore hafter
    · rw [hstate] at hup
      split_ifs at hup with hfatal hclient
      · exact absurd rfl hup.2
      · rw [hclient.2]
        exact ⟨by decide, by decide⟩
      · exact hup

/-! ## The observer -/

inductive SessionOp where
  | queueSend (channelId : U32) (channelType : ChannelType) (payload : Bytes)
  | pollTx (nowMs : U64)
  | onDatagramReceived (bytes : Bytes) (nowMs : U64)
  | requestClose

/-- A session, with what `request_close` found: how many requests at the head of the queue are
older than it. -/
structure CloseObserver where
  session : SessionState
  queuedBefore : ℕ := 0

def CloseObserver.start (role : SessionRole) (connId initialSeq : U32) : CloseObserver :=
  { session := assignConnId connId (Session.init role initialSeq) }

def CloseObserver.step (transport : TransportSettings) (r : CloseObserver) :
    SessionOp → CloseObserver
  | .queueSend channelId channelType payload =>
    { r with session := Session.queueSend channelId channelType payload r.session }
  | .pollTx nowMs =>
    let session := (Session.pollTx transport nowMs r.session).2
    -- What a poll takes from the queue, it takes from its head.
    let sent := r.session.tx.pendingSend.length - session.tx.pendingSend.length
    { r with session, queuedBefore := r.queuedBefore - sent }
  | .onDatagramReceived bytes nowMs =>
    { r with session := Session.onDatagramReceived transport bytes nowMs r.session }
  | .requestClose =>
    if r.session.connectionState = .established then
      { session := Session.requestClose r.session
        queuedBefore := r.session.tx.pendingSend.length }
    else r

/-! ## The condition -/

/-- No FIN overtakes data: nothing reliable is in the queue. -/
def NothingQueued (s : SessionState) : Prop :=
  ∀ request ∈ s.tx.pendingSend, isReliableChannel request.channelType = false

/-- A packet that acknowledges the FIN while data sent before the FIN is in flight does so through
its `ack` field, which lies after the FIN and after the 63 numbers that can be in flight with
it. -/
def AcksFinCumulatively (s : SessionState) (packet : PacketView) : Prop :=
  hasConnIdMismatch s (classifyControlKind packet.header) packet.header = false →
    classifyControlKind packet.header ≠ .syn →
    ∀ fin ∈ s.tx.inflight.toList, fin.2.packet.header.hasFlag .fin = true →
      isAcknowledgedByRemote fin.1 packet.header.ack packet.header.ackBits = true →
      (∃ data ∈ s.tx.inflight.toList,
        isReliableChannel data.2.packet.header.channelType = true ∧ seqLt data.1 fin.1 = true) →
      seqLt fin.1 packet.header.ack = true ∧ seqLt (fin.1 - 63) packet.header.ack = true

instance (s : SessionState) : Decidable (NothingQueued s) :=
  inferInstanceAs (Decidable (∀ request ∈ s.tx.pendingSend, _))

instance (s : SessionState) (packet : PacketView) : Decidable (AcksFinCumulatively s packet) :=
  inferInstanceAs (Decidable (_ → _ → ∀ fin ∈ s.tx.inflight.toList, _))

/-- The condition on one operation, about the session before it. Nothing reliable is queued from
`request_close` until the FIN is acknowledged. -/
def ClosesSafely (r : CloseObserver) : SessionOp → Prop
  | .queueSend _ channelType _ =>
    r.session.tx.finOutstanding = true → isReliableChannel channelType = false
  | .pollTx _ => True
  | .onDatagramReceived bytes _ => r.session.connectionState = .closing →
    ∀ packet ∈ decode bytes, AcksFinCumulatively r.session packet
  | .requestClose => r.session.connectionState = .established → NothingQueued r.session

instance (r : CloseObserver) (op : SessionOp) : Decidable (ClosesSafely r op) :=
  match op with
  | .queueSend _ _ _ => inferInstanceAs (Decidable (_ → _))
  | .pollTx _ => inferInstanceAs (Decidable True)
  | .onDatagramReceived bytes _ =>
    inferInstanceAs (Decidable (_ → ∀ packet ∈ decode bytes, AcksFinCumulatively r.session packet))
  | .requestClose => inferInstanceAs (Decidable (_ → NothingQueued r.session))

/-! ## The invariant -/

/-- What holds of a session at any time. There is at most one FIN, it is sent once, and only a
session on its way down has one. It is the last reliable packet. -/
structure CloseInv (r : CloseObserver) : Prop where
  window : WindowBound r.session.tx
  single : ∀ f g, r.session.tx.finInFlight f = true → r.session.tx.finInFlight g = true → f = g
  sent : r.session.tx.finPending = true → ∀ f, r.session.tx.finInFlight f = false
  up : r.session.connectionState.isUp →
    r.session.tx.finPending = false ∧ ∀ f, r.session.tx.finInFlight f = false
  queued_le : r.queuedBefore ≤ r.session.tx.pendingSend.length
  queued : ∀ request ∈ r.session.tx.pendingSend.take r.queuedBefore,
    isReliableChannel request.channelType = false
  last : (r.session.tx.finPending = true ∨ ∃ f, r.session.tx.finInFlight f = true) →
    NothingQueued r.session ∧ ∀ f k, r.session.tx.finInFlight f = true →
      r.session.tx.dataInFlight k = true → seqLt k f = true

theorem CloseInv.start (role : SessionRole) (connId i : U32) :
    CloseInv (CloseObserver.start role connId i) := by
  have hempty : ∀ k, (CloseObserver.start role connId i).session.tx.finInFlight k = false := by
    intro k
    simp [CloseObserver.start, TxSessionState.finInFlight, assignConnId, Session.init]
  refine ⟨?_, fun f g hf => ?_, fun _ => hempty, fun _ => ⟨rfl, hempty⟩, Nat.le_refl 0,
    fun request hmem => ?_, fun hfin => ?_⟩
  · exact StartsAt.windowBound (i := i) ⟨rfl, rfl, rfl, rfl⟩
  · rw [hempty f] at hf
    cases hf
  · cases hmem
  · rcases hfin with hpending | ⟨f, hf⟩
    · cases hpending
    · rw [hempty f] at hf
      cases hf

section Step

variable {r : CloseObserver}

theorem CloseInv.queueSend (h : CloseInv r) (channelId : U32) {channelType : ChannelType}
    (payload : Bytes)
    (hsafe : r.session.tx.finOutstanding = true → isReliableChannel channelType = false) :
    CloseInv { r with session := Session.queueSend channelId channelType payload r.session } where
  window := h.window.shrink rfl rfl fun _ entry hk => ⟨entry, hk⟩
  single := h.single
  sent := h.sent
  up := h.up
  queued_le := by
    simp only [Session.queueSend, queueAppData, List.length_append]
    exact Nat.le_add_right_of_le h.queued_le
  queued := fun request hmem => by
    simp only [Session.queueSend, queueAppData] at hmem
    rw [List.take_append_of_le_length h.queued_le] at hmem
    exact h.queued request hmem
  last := fun hfin => by
    obtain ⟨hnothing, hbefore⟩ := h.last hfin
    refine ⟨fun request hmem => ?_, hbefore⟩
    rcases List.mem_append.1 hmem with hmem | hmem
    · exact hnothing request hmem
    · rw [List.mem_singleton.1 hmem]
      exact hsafe (finOutstanding_iff.2 hfin)

/-- What is left of the older requests after one request was taken. -/
theorem take_queuedBefore {queue queue' : List SendRequest} {n : ℕ}
    (h : queue' = queue ∨ ∃ request, queue = request :: queue') :
    queue'.take (n - (queue.length - queue'.length)) ⊆ queue.take n ∧
      (n ≤ queue.length → n - (queue.length - queue'.length) ≤ queue'.length) := by
  rcases h with rfl | ⟨request, rfl⟩
  · simp
  · have hone : (request :: queue').length - queue'.length = 1 := by simp
    rw [hone]
    refine ⟨fun x hx => ?_, fun hle => ?_⟩
    · cases n with
      | zero => simp at hx
      | succ n =>
        rw [List.take_succ_cons]
        exact List.mem_cons_of_mem _ hx
    · simp only [List.length_cons] at hle
      omega

theorem CloseInv.polls {s' : SessionState} (h : CloseInv r) (hpolls : Polls r.session s') :
    CloseInv { r with
      session := s'
      queuedBefore := r.queuedBefore -
        (r.session.tx.pendingSend.length - s'.tx.pendingSend.length) } where
  window := hpolls.window h.window
  single := fun f g hf hg => by
    rcases hpolls.fin f hf with hf | ⟨rfl, -, hpending, -⟩
    · rcases hpolls.fin g hg with hg | ⟨-, -, hpending, -⟩
      · exact h.single f g hf hg
      · rw [h.sent hpending f] at hf
        cases hf
    · rcases hpolls.fin g hg with hg | ⟨rfl, -⟩
      · rw [h.sent hpending g] at hg
        cases hg
      · rfl
  sent := fun hpending f => by
    by_contra hf
    rcases hpolls.fin f (Bool.not_eq_false _ ▸ hf) with hf | ⟨-, -, -, hcleared⟩
    · rw [h.sent (hpolls.finPending hpending) f] at hf
      cases hf
    · rw [hpending] at hcleared
      cases hcleared
  up := fun hup => by
    obtain ⟨hpending, hnone⟩ := h.up (hpolls.isUp hup)
    refine ⟨?_, fun f => ?_⟩
    · by_contra hpending'
      rw [hpolls.finPending (Bool.not_eq_false _ ▸ hpending')] at hpending
      cases hpending
    · by_contra hf
      rcases hpolls.fin f (Bool.not_eq_false _ ▸ hf) with hf | ⟨-, -, hfin, -⟩
      · rw [hnone f] at hf
        cases hf
      · rw [hpending] at hfin
        cases hfin
  queued_le := (take_queuedBefore hpolls.queue).2 h.queued_le
  queued := fun request hmem => h.queued request ((take_queuedBefore hpolls.queue).1 hmem)
  last := fun hfin => by
    -- A FIN that is due or in flight was one or the other before the poll.
    have hfin' : r.session.tx.finPending = true ∨ ∃ f, r.session.tx.finInFlight f = true := by
      rcases hfin with hpending | ⟨f, hf⟩
      · exact Or.inl (hpolls.finPending hpending)
      · rcases hpolls.fin f hf with hf | ⟨-, -, hpending, -⟩
        · exact Or.inr ⟨f, hf⟩
        · exact Or.inl hpending
    obtain ⟨hnothing, hbefore⟩ := h.last hfin'
    have hdata : ∀ k, s'.tx.dataInFlight k = true → r.session.tx.dataInFlight k = true := by
      intro k hk
      rcases hpolls.data k hk with hk | ⟨request, hmem, hchannel⟩
      · exact hk
      · rw [hnothing request hmem] at hchannel
        cases hchannel
    refine ⟨fun request hmem => hnothing request ?_, fun f k hf hk => ?_⟩
    · rcases hpolls.queue with heq | ⟨first, heq⟩
      · exact heq ▸ hmem
      · rw [heq]
        exact List.mem_cons_of_mem _ hmem
    · rcases hpolls.fin f hf with hf | ⟨rfl, -⟩
      · exact hbefore f k hf (hdata k hk)
      · exact h.window.seqLt_nextSeq (hdata k hk)

theorem CloseInv.receives {bytes : Bytes} {s' : SessionState} (h : CloseInv r)
    (heffect : ReceiveEffect bytes r.session s') : CloseInv { r with session := s' } := by
  have hshrinks := heffect.shrinks
  refine ⟨hshrinks.window h.window, fun f g hf hg => h.single f g (hshrinks.fin f hf)
    (hshrinks.fin g hg), fun hpending f => ?_, fun hup => ?_, ?_, ?_, fun hfin => ?_⟩
  · have hnone := h.sent (hshrinks.finPending ▸ hpending) f
    by_contra hf
    rw [hshrinks.fin f (Bool.not_eq_false _ ▸ hf)] at hnone
    cases hnone
  · rcases heffect.isUp hup with hup | ⟨-, f, hf, hgone⟩
    · obtain ⟨hpending, hnone⟩ := h.up hup
      refine ⟨hshrinks.finPending ▸ hpending, fun f => ?_⟩
      have := hnone f
      by_contra hf
      rw [hshrinks.fin f (Bool.not_eq_false _ ▸ hf)] at this
      cases this
    · -- The acknowledged FIN was the only one.
      refine ⟨?_, fun g => ?_⟩
      · by_contra hpending
        rw [h.sent (hshrinks.finPending ▸ Bool.not_eq_false _ ▸ hpending) f] at hf
        cases hf
      · by_contra hg
        obtain rfl := h.single f g hf (hshrinks.fin g (Bool.not_eq_false _ ▸ hg))
        exact hg hgone
  · rw [hshrinks.pendingSend]
    exact h.queued_le
  · rw [hshrinks.pendingSend]
    exact h.queued
  · obtain ⟨hnothing, hbefore⟩ := h.last
      (hfin.imp (fun hpending => hshrinks.finPending ▸ hpending)
        fun ⟨f, hf⟩ => ⟨f, hshrinks.fin f hf⟩)
    refine ⟨?_, fun f k hf hk => hbefore f k (hshrinks.fin f hf) (hshrinks.data k hk)⟩
    rw [NothingQueued, hshrinks.pendingSend]
    exact hnothing

theorem CloseInv.requestClose (h : CloseInv r)
    (hstate : r.session.connectionState = .established) (hqueue : NothingQueued r.session) :
    CloseInv
      { session := Session.requestClose r.session
        queuedBefore := r.session.tx.pendingSend.length } := by
  have hup : r.session.connectionState.isUp := by
    rw [hstate]
    exact ⟨by decide, by decide⟩
  have hnone := (h.up hup).2
  rw [Session.requestClose, if_pos hstate]
  refine ⟨h.window.shrink rfl rfl fun _ entry hk => ⟨entry, hk⟩, h.single, fun _ => hnone,
    fun hup' => absurd rfl hup'.1, Nat.le_refl _, fun request hmem => ?_,
    fun _ => ⟨hqueue, fun f k hf _ => ?_⟩⟩
  · exact hqueue request (List.mem_of_mem_take hmem)
  · have := hnone f
    rw [show r.session.tx.finInFlight f = true from hf] at this
    cases this

theorem CloseInv.step {transport : TransportSettings} (h : CloseInv r) (op : SessionOp)
    (hsafe : ClosesSafely r op) : CloseInv (r.step transport op) := by
  cases op with
  | queueSend channelId channelType payload => exact h.queueSend channelId payload hsafe
  | pollTx nowMs => exact h.polls (pollTx_effect transport nowMs r.session).polls
  | onDatagramReceived bytes nowMs =>
    exact h.receives (onDatagramReceived_effect transport bytes nowMs r.session).2.2
  | requestClose =>
    rw [CloseObserver.step]
    split_ifs with hstate
    · exact h.requestClose hstate (hsafe hstate)
    · exact h

end Step

/-! ## Every run -/

/-- The FIN of a closing session was acknowledged. -/
def FinAcknowledged (r r' : CloseObserver) (f : U32) : Prop :=
  r.session.connectionState = .closing ∧ r.session.tx.finInFlight f = true ∧
    r'.session.tx.finInFlight f = false

/-- What a close that loses nothing looks like, from the state before the datagram to the state
after it. -/
structure LosesNothing (r r' : CloseObserver) : Prop where
  /-- A session that goes from Closing to Closed does so over its FIN. -/
  closed : r.session.connectionState = .closing → r'.session.connectionState = .closed →
    ∃ f, FinAcknowledged r r' f
  /-- No reliable data is unacknowledged. -/
  sent : ∀ f, FinAcknowledged r r' f → ∀ k, r'.session.tx.dataInFlight k = false
  /-- No reliable request from before `request_close` is in the queue. -/
  queued : ∀ f, FinAcknowledged r r' f →
    ∀ request ∈ r'.session.tx.pendingSend.take r'.queuedBefore,
      isReliableChannel request.channelType = false

/-- An `ack` that lies after the FIN, and after the 63 numbers before it, lies after everything in
flight that was sent before the FIN. -/
theorem WindowBound.seqLt_ack {tx : TxSessionState} (h : WindowBound tx) {f k ack : U32}
    (hf : tx.finInFlight f = true) (hk : tx.dataInFlight k = true) (hkf : seqLt k f = true)
    (hack : seqLt f ack = true) (hack' : seqLt (f - 63) ack = true) : seqLt k ack = true := by
  obtain ⟨hlow, hhigh⟩ := h.age_of_inFlight (Or.inl hf)
  obtain ⟨hlow', hhigh'⟩ := h.age_of_inFlight (Or.inr hk)
  rw [seqLt_iff] at *
  simp only [TxSessionState.age, BitVec.ofNat_eq_ofNat, BitVec.toNat_sub, BitVec.toNat_ofNat] at *
  omega

theorem CloseInv.losesNothing {r : CloseObserver} {transport : TransportSettings} {bytes : Bytes}
    {nowMs : U64} (h : CloseInv r) (hsafe : ClosesSafely r (.onDatagramReceived bytes nowMs)) :
    LosesNothing r (r.step transport (.onDatagramReceived bytes nowMs)) := by
  have heffect : ReceiveEffect bytes r.session
      (Session.onDatagramReceived transport bytes nowMs r.session) :=
    (onDatagramReceived_effect transport bytes nowMs r.session).2.2
  rw [CloseObserver.step]
  generalize Session.onDatagramReceived transport bytes nowMs r.session = s' at heffect
  have hsent : ∀ f, FinAcknowledged r { r with session := s' } f →
      ∀ k, s'.tx.dataInFlight k = false := by
    intro f ⟨hclosing, hf, hgone⟩ k
    obtain ⟨packet, hdecode, hmatch, hkind, hacked, hdata⟩ := heffect.fin_acknowledged hf hgone
    by_contra hk
    have hk : s'.tx.dataInFlight k = true := Bool.not_eq_false _ ▸ hk
    have hk' := heffect.shrinks.data k hk
    -- The FIN is the last reliable packet, so the data was sent before it.
    have hkf : seqLt k f = true := (h.last (Or.inr ⟨f, hf⟩)).2 f k hf hk'
    obtain ⟨fin, hfin, hflag⟩ := finInFlight_iff.1 hf
    obtain ⟨data, hdata', hchannel⟩ := dataInFlight_iff.1 hk'
    obtain ⟨hack, hack'⟩ := hsafe hclosing packet hdecode hmatch hkind (f, fin)
      (Std.ExtTreeMap.mem_toList_iff_getElem?_eq_some.2 hfin) hflag hacked
      ⟨(k, data), Std.ExtTreeMap.mem_toList_iff_getElem?_eq_some.2 hdata', hchannel, hkf⟩
    have hlt := h.window.seqLt_ack hf hk' hkf hack hack'
    rw [hdata k (by rw [isAcknowledgedByRemote, if_pos hlt])] at hk
    cases hk
  refine ⟨fun hclosing hclosed => ?_, hsent, fun _ _ => ?_⟩
  · have hup : s'.connectionState.isUp := by
      rw [show s'.connectionState = .closed from hclosed]
      exact ⟨by decide, by decide⟩
    rcases heffect.isUp hup with hup | ⟨-, f, hf, hgone⟩
    · exact absurd hclosing hup.1
    · exact ⟨f, hclosing, hf, hgone⟩
  · simp only [heffect.shrinks.pendingSend]
    exact h.queued

/-- **A graceful close loses nothing**, in every run in which `request_close` finds no reliable
data in the queue, none is queued until the FIN is acknowledged, and the FIN is acknowledged
cumulatively: when the acknowledgement of the FIN closes the session, no reliable data is in
flight, and nothing from before `request_close` is left in the queue. -/
theorem close_loses_nothing (transport : TransportSettings) (role : SessionRole)
    (connId i : U32) (ops : List SessionOp) (bytes : Bytes) (nowMs : U64)
    (hsafe : Run.Along (CloseObserver.step transport) ClosesSafely
      (CloseObserver.start role connId i) (ops ++ [.onDatagramReceived bytes nowMs])) :
    let r := Run.run (CloseObserver.step transport) (CloseObserver.start role connId i) ops
    LosesNothing r (r.step transport (.onDatagramReceived bytes nowMs)) := by
  intro r
  obtain ⟨hrun, hlast⟩ := Run.along_append.1 hsafe
  have h : CloseInv r := Run.Along.invariant CloseInv (fun _ op hr hop => hr.step op hop)
    (CloseInv.start role connId i) hrun
  exact h.losesNothing hlast.1

/-! ## Closes that lose data -/

/-- The handshake of a server session with `conn_id` 7, which sends its SYN-ACK as 100. -/
def serverHandshake : List SessionOp :=
  [.onDatagramReceived (controlDatagram 0 Flag.syn.toFlags 500 0 0) 0, .pollTx 0,
    .onDatagramReceived (controlDatagram 7 Flag.ack.toFlags 0 101 0) 0]

/-- One packet is sent and acknowledged together with the FIN. -/
theorem close_loses_nothing_cumulative :
    let r := Run.run (CloseObserver.step {}) (CloseObserver.start .server 7 100)
      (serverHandshake ++ [.queueSend 1 .reliableOrdered [0x01], .pollTx 0, .requestClose,
        .pollTx 0])
    LosesNothing r (r.step {} (.onDatagramReceived (controlDatagram 7 Flag.ack.toFlags 0 103 0) 0)) :=
  close_loses_nothing {} .server 7 100 _ _ 0 (by decide +kernel)

/-- The FIN, 101, overtakes the packet in the queue; the FIN, 102, is acknowledged by a bit while
packet 101 is missing; and the FIN, 101, is acknowledged while packet 102, queued after
`request_close`, is not. The sessions are closed, and the packet is lost. -/
theorem close_loses_data :
    (let r := Run.run (CloseObserver.step {}) (CloseObserver.start .server 7 100)
      (serverHandshake ++ [.queueSend 1 .reliableOrdered [0x01], .requestClose, .pollTx 0])
    ¬ LosesNothing r
      (r.step {} (.onDatagramReceived (controlDatagram 7 Flag.ack.toFlags 0 102 0) 0))) ∧
    (let r := Run.run (CloseObserver.step {}) (CloseObserver.start .server 7 100)
      (serverHandshake ++ [.queueSend 1 .reliableOrdered [0x01], .pollTx 0, .requestClose,
        .pollTx 0])
    ¬ LosesNothing r
      (r.step {} (.onDatagramReceived (controlDatagram 7 Flag.ack.toFlags 0 101 1) 0))) ∧
    let r := Run.run (CloseObserver.step {}) (CloseObserver.start .server 7 100)
      (serverHandshake ++ [.requestClose, .queueSend 1 .reliableOrdered [0x01], .pollTx 0,
        .pollTx 0])
    ¬ LosesNothing r
      (r.step {} (.onDatagramReceived (controlDatagram 7 Flag.ack.toFlags 0 102 0) 0)) := by
  refine ⟨fun h => ?_, fun h => ?_, fun h => ?_⟩
  · obtain ⟨f, hf⟩ := h.closed (by decide +kernel) (by decide +kernel)
    exact absurd (h.queued f hf) (by decide +kernel)
  · obtain ⟨f, hf⟩ := h.closed (by decide +kernel) (by decide +kernel)
    exact absurd (h.sent f hf 101) (by decide +kernel)
  · obtain ⟨f, hf⟩ := h.closed (by decide +kernel) (by decide +kernel)
    exact absurd (h.sent f hf 102) (by decide +kernel)

end Rudp
