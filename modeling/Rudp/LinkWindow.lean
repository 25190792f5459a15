import Rudp.Link

/-!
# The two windows of a link

The sender keeps `next_seq - remote_ack` below 64, the receiver remembers 64 numbers beyond its
front, and the only thing that ties the two together are acknowledgements that arrive late and out
of order. Both questions this raises are settled here against an observer that notes how far the
front has moved in total and which acks have reached the sender.

*The receiver's side.* Every ack the sender ever sees is a front of the past, so a packet that is
sent lies less than 64 ahead of a front of the past, and the front only moves on. A numbered packet
is therefore never beyond the bitmap (`Agree.numbered_fits`). Only a pure ACK can be: its 0 is no
number of the stream. `windows_agree_iff` is the result over whole runs.

*The sender's side.* `on_remote_ack` takes every ack for the newest one. It is the newest, at every
moment, if and only if none arrives behind the one before (`remoteAck_largest_iff`).
-/

namespace Rudp

open Serial Window TxHandler RxHandler

/-! ## The observer -/

/-- A link, how far the receiver's front has moved in total, and the acks the sender has got. -/
structure AckedLink where
  link : Link
  advanced : ℕ := 0
  received : List U32 := []

/-- The ack fields that a step hands to the sender. -/
def Link.ackOf (l : Link) : LinkOp → Option U32
  | .remoteAck n => l.acks[n]?.map Prod.fst
  | _ => none

def AckedLink.step (transport : TransportSettings) (a : AckedLink) (op : LinkOp) : AckedLink :=
  let link := a.link.step transport op
  { link
    advanced := a.advanced + offset a.link.rx link.rx.nextExpected
    received := a.received ++ (a.link.ackOf op).toList }

section Poll

variable {transport : TransportSettings} {nowMs : U64} {role : SessionRole} {connId : U32}
  {state : ConnectionState} {rx : RxSessionState} {tx tx' : TxSessionState}
  {result : TxPollResult}

theorem PollEffect.remoteAck (h : PollEffect transport nowMs role connId state rx tx result tx') :
    tx'.remoteAck = tx.remoteAck := by
  cases h with
  | bare _ htx => rw [htx]
  | idle | control | unreliable | data | retransmit | fatal => rfl

/-- A poll numbers a packet only while the window is open. -/
theorem PollEffect.open_of_numbered
    (h : PollEffect transport nowMs role connId state rx tx result tx')
    (hne : tx'.nextSeq ≠ tx.nextSeq) : reliableWindowFull tx = false := by
  cases h with
  | control _ hopen => exact hopen
  | data _ _ hopen => exact hopen
  | bare _ htx =>
    rw [htx] at hne
    exact absurd rfl hne
  | idle | unreliable | retransmit | fatal => exact absurd rfl hne

end Poll

section Sender

variable {transport : TransportSettings} {i : U32} {s : Sender}

/-- A step of the sender numbers at most one packet, and only while the window is open. -/
theorem Conserves.numbered_step (h : Conserves transport i s) (op : TxOp) :
    (firsts (s.step transport op).emitted).length = (firsts s.emitted).length ∨
      (firsts (s.step transport op).emitted).length = (firsts s.emitted).length + 1 ∧
        reliableWindowFull s.tx = false := by
  cases op with
  | queue | remoteAck | schedule => exact Or.inl rfl
  | poll nowMs role connId state rx =>
    have hnext := (h.step (.poll nowMs role connId state rx)).nextSeq
    set result := poll transport nowMs role connId state rx s.tx with hresult
    have hlog : firsts (s.step transport (.poll nowMs role connId state rx)).emitted =
        firsts s.emitted ++ firsts result.1.emissions := by
      rw [Sender.step, firsts, firsts, firsts, List.filterMap_append]
    have hone : (firsts result.1.emissions).length ≤ 1 := by
      refine (List.length_filterMap_le _ _).trans ?_
      rw [TxPollResult.emissions]
      split <;> simp
    rw [hlog, List.length_append] at hnext ⊢
    rcases Nat.le_one_iff_eq_zero_or_eq_one.1 hone with hnone | hsome
    · exact Or.inl (by rw [hnone, Nat.add_zero])
    · refine Or.inr ⟨by rw [hsome], ?_⟩
      have heffect : PollEffect transport nowMs role connId state rx s.tx result.1 result.2.2 :=
        poll_effect
      refine heffect.open_of_numbered fun hsame => ?_
      have hmoved : s.tx.nextSeq + 1 = s.tx.nextSeq := by
        rw [hsome, ahead_succ, ← h.nextSeq] at hnext
        exact hnext.symm.trans hsame
      simp at hmoved

/-- A packet that reaches the receive window without a number of its own is a pure ACK. -/
def UnnumberedIsAck (p : PacketView) : Prop :=
  p.isNumbered = false → touchesWindow p.header (classifyControlKind p.header) = true →
    classifyControlKind p.header = .ack

theorem FreshPacket.unnumberedIsAck {role : SessionRole} {connId : U32} {state : ConnectionState}
    {rx : RxSessionState} {tx : TxSessionState} {p : PacketView}
    (h : FreshPacket role connId state rx tx p) : UnnumberedIsAck p := by
  intro hnum htouch
  cases h with
  | @bare flags hflags =>
    have hkind : classifyControlKind (controlPacket connId flags rx 0).header =
        classifyControlKind { flags } := classifyControlKind_of_flags rfl
    rw [hkind] at htouch ⊢
    rcases hflags with rfl | rfl | rfl
    · decide
    · exact absurd htouch (by simp [touchesWindow, controlPacket, isReliableChannel]; decide)
    · exact absurd htouch (by simp [touchesWindow, controlPacket, isReliableChannel]; decide)
  | control hcause =>
    rw [hcause.packet.1] at hnum
    cases hnum
  | @request request rest seq hpending =>
    have hkind : classifyControlKind (requestPacket request connId rx seq).header = .none :=
      (classifyControlKind_of_flags (show _ = (0 : Flags) from rfl)).trans (by decide)
    rw [requestPacket_packet.2.1] at hnum
    rw [hkind] at htouch
    simp [touchesWindow, requestPacket, hnum] at htouch

/-- What the sender puts on the wire without a number is a pure ACK, if the window sees it. -/
theorem Conserves.unnumberedIsAck_step (h : Conserves transport i s)
    (hlog : ∀ e ∈ s.emitted, ∀ p, decode e.datagram = some p → UnnumberedIsAck p) (op : TxOp) :
    ∀ e ∈ (s.step transport op).emitted, ∀ p, decode e.datagram = some p → UnnumberedIsAck p := by
  cases op with
  | queue | remoteAck | schedule => exact hlog
  | poll nowMs role connId state rx =>
    intro e he p hp
    rcases List.mem_append.1 he with hold | hnew
    · exact hlog e hold p hp
    · have heffect := @poll_effect transport nowMs role connId state rx s.tx
      have hdatagram : (poll transport nowMs role connId state rx s.tx).1.datagram =
          some e.datagram := by
        rw [TxPollResult.emissions] at hnew
        split at hnew
        · cases hnew
        next datagram hd =>
          rw [List.mem_singleton.1 hnew]
          exact hd
      obtain ⟨q, hq, hsource⟩ := heffect.sent hdatagram
      rcases hsource with hfresh | ⟨k, entry, hget, rfl⟩
      · rw [hq, decode_encode hfresh.valid] at hp
        rw [← Option.some.inj hp]
        exact hfresh.unnumberedIsAck
      · -- What is retransmitted has a number.
        have hok := h.entries k entry hget
        have hsame := (refresh_sameButAcks rx entry.packet).same
        rw [hq, decode_encode (hsame.1.trans hok.valid)] at hp
        rw [← Option.some.inj hp]
        intro hnum
        rw [show (PacketView.mk (refresh rx entry.packet).header
          (refresh rx entry.packet).payload).isNumbered = true from hsame.2.1.trans hok.numbered]
          at hnum
        cases hnum

end Sender

/-! ## The windows agree -/

/-- What holds of a link that started at `i`: everything the sender knows about the receiver is a
front of the past, and the sender is at most 64 numbers beyond the front. -/
structure Agree (transport : TransportSettings) (i : U32) (a : AckedLink) : Prop where
  sender : Conserves transport i a.link.sender
  bare : ∀ e ∈ a.link.sender.emitted, ∀ p, decode e.datagram = some p → UnnumberedIsAck p
  front : a.link.rx.nextExpected = ahead i a.advanced
  acks : ∀ pair ∈ a.link.acks, ∃ c ≤ a.advanced, pair.1 = ahead i c
  remote : ∃ c ≤ a.advanced, a.link.sender.tx.remoteAck = ahead i c
  sent : a.link.numbered ≤ a.advanced + 64

section Step

variable {transport : TransportSettings} {i : U32} {a : AckedLink}

theorem LinkStart.agree {l : Link} (h : LinkStart i l) : Agree transport i { link := l } where
  sender := h.conserves
  bare := fun e he => by
    rw [h.emitted] at he
    cases he
  front := by rw [ahead_zero, h.front]
  acks := fun pair hpair => by
    rw [h.acks] at hpair
    cases hpair
  remote := ⟨0, le_rfl, by rw [ahead_zero, h.sender.remoteAck]⟩
  sent := by
    rw [Link.numbered, h.emitted]
    simp [firsts]

theorem advanced_le_ackedStep (a : AckedLink) (op : LinkOp) :
    a.advanced ≤ (a.step transport op).advanced := Nat.le_add_right _ _

/-- The front of a link is where the observer has it, whatever moved it. -/
theorem front_ackedStep (hfront : a.link.rx.nextExpected = ahead i a.advanced) (op : LinkOp) :
    (a.step transport op).link.rx.nextExpected = ahead i (a.step transport op).advanced := by
  simp only [AckedLink.step]
  rw [ahead_add, ← hfront, offset, ahead_toNat_sub]

/-- The link emits its front as an ack, and nothing else. -/
theorem acks_step (l : Link) (op : LinkOp) : (l.step transport op).acks = l.acks ∨
    (l.step transport op).acks = l.acks ++ [(l.rx.nextExpected, l.rx.receivedBits)] := by
  cases op with
  | queue | poll | schedule | drain => exact Or.inl rfl
  | emitAck => exact Or.inr rfl
  | deliver n nowMs =>
    rw [Link.step]
    split <;> exact Or.inl rfl
  | remoteAck n =>
    rw [Link.step]
    split <;> exact Or.inl rfl

/-- `remote_ack` is what it was, or the ack that came in. -/
theorem remoteAck_step (l : Link) (op : LinkOp) :
    (l.step transport op).sender.tx.remoteAck =
      (l.ackOf op).getD l.sender.tx.remoteAck := by
  cases op with
  | queue | schedule | emitAck | drain => rfl
  | deliver n nowMs =>
    rw [Link.step]
    split <;> rfl
  | poll nowMs role connId state rx =>
    have heffect := @poll_effect transport nowMs role connId state rx l.sender.tx
    exact heffect.remoteAck
  | remoteAck n =>
    rw [Link.step, Link.ackOf]
    cases hack : l.acks[n]? with
    | none => rfl
    | some pair =>
      show (onRemoteAck transport pair.1 pair.2 l.sender.tx).2.remoteAck = pair.1
      rw [(onRemoteAck_acknowledges transport pair.1 pair.2 l.sender.tx).state]

/-- The ack that comes in was emitted. -/
theorem ackOf_mem {l : Link} {op : LinkOp} {ack : U32} (h : l.ackOf op = some ack) :
    ∃ pair ∈ l.acks, pair.1 = ack := by
  cases op with
  | remoteAck n =>
    obtain ⟨pair, hpair, hfst⟩ := Option.map_eq_some_iff.1 h
    exact ⟨pair, List.mem_of_getElem? hpair, hfst⟩
  | queue | poll | schedule | deliver | emitAck | drain => cases h

theorem nextSeq_of_ackOf {l : Link} {op : LinkOp} {ack : U32} (h : l.ackOf op = some ack) :
    (l.step transport op).sender.tx.nextSeq = l.sender.tx.nextSeq := by
  cases op with
  | remoteAck n =>
    obtain ⟨pair, hpair, -⟩ := Option.map_eq_some_iff.1 h
    rw [Link.step, hpair]
    show (onRemoteAck transport pair.1 pair.2 l.sender.tx).2.nextSeq = _
    rw [(onRemoteAck_acknowledges transport pair.1 pair.2 l.sender.tx).state]
  | queue | poll | schedule | deliver | emitAck | drain => cases h

/-- A step of the link numbers at most one packet, and only while the window is open. -/
theorem Agree.numbered_step (h : Agree transport i a) (op : LinkOp) :
    (a.link.step transport op).numbered = a.link.numbered ∨
      (a.link.step transport op).numbered = a.link.numbered + 1 ∧
        reliableWindowFull a.link.sender.tx = false := by
  rw [Link.numbered, Link.numbered]
  rcases step_sender op with hsame | ⟨txOp, hstep⟩
  · rw [hsame]
    exact Or.inl rfl
  · rw [hstep]
    exact h.sender.numbered_step txOp

/-- While the window is open, the next number is less than 64 beyond the front. -/
theorem Agree.next_lt_of_open (h : Agree transport i a) (hadv : a.advanced < 2 ^ 31)
    (hopen : reliableWindowFull a.link.sender.tx = false) : a.link.numbered < a.advanced + 64 := by
  have hage := reliableWindowFull_eq_false.1 hopen
  obtain ⟨c, hc, hremote⟩ := h.remote
  have hsent := h.sent
  rw [TxSessionState.age, h.sender.nextSeq, hremote] at hage
  rcases Nat.lt_or_ge a.link.numbered c with hlt | hge
  · -- A front beyond everything sent closes the window.
    have hwrap := @toNat_ahead_sub_ahead_of_lt 32 i c a.link.numbered hlt (by omega)
    rw [Link.numbered] at hwrap hlt
    omega
  · have hdiff := @toNat_ahead_sub_ahead 32 i c a.link.numbered hge (by omega)
    rw [Link.numbered] at hdiff ⊢
    omega

/-- **One step** of the link. -/
theorem Agree.step (h : Agree transport i a) (hadv : a.advanced < 2 ^ 31) (op : LinkOp) :
    Agree transport i (a.step transport op) := by
  have hle := @advanced_le_ackedStep transport a op
  refine ⟨h.sender.link op, ?_, front_ackedStep h.front op, fun pair hpair => ?_, ?_, ?_⟩
  · show ∀ e ∈ (a.link.step transport op).sender.emitted, _
    rcases @step_sender transport a.link op with hsame | ⟨txOp, hstep⟩
    · rw [hsame]
      exact h.bare
    · rw [hstep]
      exact h.sender.unnumberedIsAck_step h.bare txOp
  · rcases @acks_step transport a.link op with hsame | hnew
    · obtain ⟨c, hc, hpair'⟩ := h.acks pair (hsame ▸ hpair)
      exact ⟨c, hc.trans hle, hpair'⟩
    · have hmem : pair ∈ a.link.acks ++ [(a.link.rx.nextExpected, a.link.rx.receivedBits)] :=
        hnew ▸ hpair
      rcases List.mem_append.1 hmem with hold | hlast
      · obtain ⟨c, hc, hpair'⟩ := h.acks pair hold
        exact ⟨c, hc.trans hle, hpair'⟩
      · rw [List.mem_singleton.1 hlast]
        exact ⟨a.advanced, hle, h.front⟩
  · have hremote := @remoteAck_step transport a.link op
    cases hack : a.link.ackOf op with
    | none =>
      obtain ⟨c, hc, hold⟩ := h.remote
      rw [hack, Option.getD_none, hold] at hremote
      exact ⟨c, hc.trans hle, hremote⟩
    | some ack =>
      obtain ⟨pair, hpair, rfl⟩ := ackOf_mem hack
      obtain ⟨c, hc, hpair'⟩ := h.acks pair hpair
      rw [hack, Option.getD_some, hpair'] at hremote
      exact ⟨c, hc.trans hle, hremote⟩
  · show (a.link.step transport op).numbered ≤ (a.step transport op).advanced + 64
    rcases h.numbered_step op with hsame | ⟨hone, hopen⟩
    · have := h.sent
      omega
    · have := h.next_lt_of_open hadv hopen
      omega

end Step

/-- The packet that a step hands to the receiver. -/
def Link.arrival (l : Link) : LinkOp → Option PacketView
  | .deliver n _ => (l.sender.emitted[n]?).bind fun e => decode e.datagram
  | _ => none

/-- `update_reliable_receive_state` rejects the packet as lying beyond the ACK bitmap. -/
def beyondBitmap (rx : RxSessionState) (p : PacketView) : Bool :=
  touchesWindow p.header (classifyControlKind p.header) && rx.nextExpected ≠ 0 &&
    seqGt p.header.seq rx.nextExpected && !(p.header.seq - rx.nextExpected ≤ kAckBitsWindow)

/-- The packet is serially before the front or at most 63 ahead of it, and is not rejected as
lying beyond the bitmap. -/
structure FitsWindow (rx : RxSessionState) (p : PacketView) : Prop where
  near : seqLt p.header.seq rx.nextExpected = true ∨ offset rx p.header.seq ≤ 63
  kept : beyondBitmap rx p = false

theorem fitsWindow_of_offset {rx : RxSessionState} {p : PacketView}
    (h : offset rx p.header.seq ≤ 63 ∨ 2 ^ 31 < offset rx p.header.seq) : FitsWindow rx p := by
  have hgt : seqGt p.header.seq rx.nextExpected = true ↔
      0 < offset rx p.header.seq ∧ offset rx p.header.seq ≤ 2 ^ 31 := seqGt_iff
  rcases h with hnear | hbehind
  · refine ⟨Or.inr hnear, ?_⟩
    have hle : p.header.seq - rx.nextExpected ≤ kAckBitsWindow := by
      rw [BitVec.le_def]
      exact hnear.trans (by decide)
    simp [beyondBitmap, hle]
  · refine ⟨Or.inl (seqLt_iff.2 hbehind.le), ?_⟩
    have hnot : seqGt p.header.seq rx.nextExpected = false := by
      rw [Bool.eq_false_iff, Ne, hgt]
      omega
    simp [beyondBitmap, hnot]

/-- Half the circle away is before the front and after it, and the code tests "after" first. -/
theorem FitsWindow.offset {rx : RxSessionState} {p : PacketView} (h : FitsWindow rx p)
    (htouch : touchesWindow p.header (classifyControlKind p.header) = true)
    (hne : rx.nextExpected ≠ 0) :
    offset rx p.header.seq ≤ 63 ∨ 2 ^ 31 < offset rx p.header.seq := by
  by_contra hfar
  have hbehind : 2 ^ 31 ≤ Rudp.offset rx p.header.seq :=
    seqLt_iff.1 (h.near.resolve_right (by omega))
  have hgt : seqGt p.header.seq rx.nextExpected = true := by
    refine seqGt_iff.2 ?_
    rw [← Rudp.offset]
    omega
  have hle : ¬ p.header.seq - rx.nextExpected ≤ kAckBitsWindow := by
    rw [BitVec.le_def, ← Rudp.offset]
    show ¬ Rudp.offset rx p.header.seq ≤ 64
    omega
  have hkept := h.kept
  simp [beyondBitmap, htouch, hgt, hle] at hkept
  exact hne hkept

/-- Whatever reaches the receive window lies within it. -/
def ArrivalFits (a : AckedLink) (op : LinkOp) : Prop :=
  ∀ p ∈ a.link.arrival op, touchesWindow p.header (classifyControlKind p.header) = true →
    FitsWindow a.link.rx p

/-- A pure ACK only arrives while 0 is strictly behind the front or at most 63 ahead of it. -/
def AckFits (a : AckedLink) (op : LinkOp) : Prop :=
  ∀ p ∈ a.link.arrival op, classifyControlKind p.header = .ack →
    offset a.link.rx 0 ≤ 63 ∨ 2 ^ 31 < offset a.link.rx 0

section Runs

variable {transport : TransportSettings} {i : U32} {a : AckedLink}

/-- **A numbered packet fits**: it was sent less than 64 numbers beyond a front of the past. -/
theorem Agree.numbered_fits (h : Agree transport i a) (hadv : a.advanced < 2 ^ 31)
    {p q : PacketView} {j : ℕ} (hq : (firsts a.link.sender.emitted)[j]? = some q)
    (hseq : p.header.seq = ahead i j) : FitsWindow a.link.rx p := by
  have hj : j < a.link.numbered := (List.getElem?_eq_some_iff.1 hq).1
  have hsent := h.sent
  refine fitsWindow_of_offset ?_
  rw [offset, hseq, h.front]
  rcases Nat.lt_or_ge j a.advanced with hlt | hge
  · rw [toNat_ahead_sub_ahead_of_lt hlt (by omega)]
    omega
  · rw [toNat_ahead_sub_ahead hge (by omega)]
    omega

theorem Agree.arrivalFits_iff (h : Agree transport i a) (hadv : a.advanced < 2 ^ 31)
    (op : LinkOp) : ArrivalFits a op ↔ AckFits a op := by
  refine forall_congr' fun p => forall_congr' fun hp => ?_
  obtain ⟨n, nowMs, rfl⟩ : ∃ n nowMs, op = .deliver n nowMs := by
    cases op with
    | deliver n nowMs => exact ⟨n, nowMs, rfl⟩
    | queue | poll | schedule | emitAck | remoteAck | drain => cases hp
  obtain ⟨e, he, hdecode⟩ := Option.bind_eq_some_iff.1 hp
  obtain ⟨p', hp', harrives⟩ := h.sender.arrives he
  obtain rfl : p' = p := Option.some.inj (hp'.symm.trans hdecode)
  rcases harrives with ⟨hnum, j, q, hq, -, hseq⟩ | ⟨hnum, hseq⟩
  · refine ⟨fun _ hack => ?_, fun _ _ => h.numbered_fits hadv hq hseq⟩
    simp [PacketView.isNumbered, consumesSeq, hack] at hnum
  · have hfits : offset a.link.rx 0 ≤ 63 ∨ 2 ^ 31 < offset a.link.rx 0 → FitsWindow a.link.rx p' :=
      fun hreach => fitsWindow_of_offset (by rw [hseq]; exact hreach)
    constructor
    · intro hall hack
      have htouch : touchesWindow p'.header (classifyControlKind p'.header) = true := by
        simp [touchesWindow, hack]
      by_cases hzero : a.link.rx.nextExpected = 0
      · rw [offset, hzero, BitVec.sub_self]
        exact Or.inl (by decide)
      · have hoffset := (hall htouch).offset htouch hzero
        rwa [hseq] at hoffset
    · intro hack htouch
      exact hfits (hack (h.bare e (List.mem_of_getElem? he) p' hdecode hnum htouch))

theorem advanced_le_ackedRun (a : AckedLink) (ops : List LinkOp) :
    a.advanced ≤ (Run.run (AckedLink.step transport) a ops).advanced :=
  Run.invariant (fun a' => a.advanced ≤ a'.advanced)
    (fun a' op h => h.trans (advanced_le_ackedStep a' op)) le_rfl ops

theorem Agree.run_iff (h : Agree transport i a) (ops : List LinkOp)
    (hadv : (Run.run (AckedLink.step transport) a ops).advanced < 2 ^ 31) :
    Run.Along (AckedLink.step transport) ArrivalFits a ops ↔
      Run.Along (AckedLink.step transport) AckFits a ops := by
  induction ops generalizing a with
  | nil => exact Iff.rfl
  | cons op ops ih =>
    have ha : a.advanced < 2 ^ 31 := (advanced_le_ackedRun a (op :: ops)).trans_lt hadv
    exact and_congr (h.arrivalFits_iff ha op) (ih (h.step ha op) hadv)

end Runs

/-- **Sender and receiver windows agree, if and only if no pure ACK finds 0 far ahead.** Start a
link at `i ≠ 0` and let the network lose, repeat, delay and reorder both datagrams and acks, so that
the front moves by less than half the circle. Everything that reaches the receive window lies before
the front or at most 63 ahead of it if and only if that holds of the 0 in every pure ACK. -/
theorem windows_agree_iff (transport : TransportSettings) {i : U32} {l : Link}
    (hstart : LinkStart i l) (ops : List LinkOp)
    (hadv : (Run.run (AckedLink.step transport) { link := l } ops).advanced < 2 ^ 31) :
    Run.Along (AckedLink.step transport) ArrivalFits { link := l } ops ↔
      Run.Along (AckedLink.step transport) AckFits { link := l } ops :=
  hstart.agree.run_iff ops hadv

instance (a : AckedLink) (op : LinkOp) : Decidable (AckFits a op) :=
  match h : a.link.arrival op with
  | none => isTrue fun p hp => by rw [h] at hp; cases hp
  | some p => decidable_of_iff (classifyControlKind p.header = .ack →
      offset a.link.rx 0 ≤ 63 ∨ 2 ^ 31 < offset a.link.rx 0)
      (by
        rw [AckFits, h]
        exact ⟨fun hp q hq => Option.some.inj hq ▸ hp, fun hall => hall p rfl⟩)

/-- A link that starts a little more than half the circle after 0. -/
def linkPastHalf : Link :=
  { sender := { tx := { nextSeq := 0x80000005, remoteAck := 0x80000005 } }
    rx := { nextExpected := 0x80000005 } }

theorem linkPastHalf_start : LinkStart 0x80000005 linkPastHalf :=
  ⟨by decide, ⟨rfl, rfl, rfl, rfl⟩, rfl, rfl, rfl, rfl, rfl, rfl, rfl, rfl, rfl⟩

/-- The sender owes an acknowledgement and sends it on its own. -/
def sendAck : List LinkOp := [.schedule { ackOnlyPending := true }, pollServer]

/-- Two packets cross, an old ack arrives after a newer one, and a pure ACK joins them. -/
def crossing : List LinkOp :=
  [.queue 1 .reliableUnordered [0x01], .queue 1 .reliableUnordered [0x02], pollServer, pollServer,
    .emitAck, .deliver 1 0, .deliver 0 0, .emitAck, .remoteAck 1, .remoteAck 0] ++ sendAck ++
    [.deliver 2 0]

theorem windows_agree_crossing :
    Run.Along (AckedLink.step {}) ArrivalFits { link := linkAt100 } crossing :=
  (windows_agree_iff {} linkAt100_start crossing (by decide +kernel)).2
    (by decide +kernel)

/-- On the other half of the circle a pure ACK is rejected as lying beyond the bitmap. -/
theorem ack_beyond_bitmap :
    LinkStart 0x80000005 linkPastHalf ∧
      (Run.run (AckedLink.step {}) { link := linkPastHalf }
        (sendAck ++ [.deliver 0 0])).advanced < 2 ^ 31 ∧
      ¬ Run.Along (AckedLink.step {}) ArrivalFits { link := linkPastHalf }
        (sendAck ++ [.deliver 0 0]) := by
  refine ⟨linkPastHalf_start, by decide +kernel, fun h => ?_⟩
  have hack : (Run.run (AckedLink.step {}) { link := linkPastHalf } sendAck).link.arrival
      (.deliver 0 0) = some { header := { connId := 7, flags := Flag.ack.toFlags }, payload := [] } := by
    decide +kernel
  have hkept := (h.2.2.1 _ hack (by decide)).kept
  exact absurd hkept (by decide +kernel)

/-! ## The newest acknowledgement -/

/-- The receiver's acks never decrease, from the number both sides started with. -/
def AcksNeverDecrease (i : U32) (l : Link) : Prop :=
  (i :: l.acks.map Prod.fst).Pairwise fun earlier later => seqLt later earlier = false

/-- `remote_ack` is the serially largest ack received so far. -/
structure LargestAck (i : U32) (a : AckedLink) : Prop where
  mem : a.link.sender.tx.remoteAck ∈ i :: a.received
  largest : ∀ ack ∈ i :: a.received, seqLt a.link.sender.tx.remoteAck ack = false

/-- An ack does not close the window, as long as no ack exceeds the next number to send. -/
def KeepsWindowOpen (transport : TransportSettings) (a : AckedLink) (op : LinkOp) : Prop :=
  (a.link.ackOf op).isSome = true →
    (∀ pair ∈ a.link.acks, seqGt pair.1 a.link.sender.tx.nextSeq = false) →
    reliableWindowFull a.link.sender.tx = false →
      reliableWindowFull (a.step transport op).link.sender.tx = false

/-- An ack that arrives is not serially before the one before it. -/
def AckNotBehind (a : AckedLink) (op : LinkOp) : Prop :=
  ∀ ack ∈ a.link.ackOf op, seqLt ack a.link.sender.tx.remoteAck = false

theorem seqLt_antisymm {a b : U32} (h : seqLt a b = false) (h' : seqLt b a = false) : a = b := by
  have hab : ¬ 2 ^ 31 ≤ (a - b).toNat := fun hle => by simp [seqLt_iff.2 hle] at h
  have hba : ¬ 2 ^ 31 ≤ (b - a).toNat := fun hle => by simp [seqLt_iff.2 hle] at h'
  have ha := a.isLt
  have hb := b.isLt
  rw [BitVec.toNat_sub] at hab hba
  apply BitVec.eq_of_toNat_eq
  omega

/-- Among numbers that never decrease, "not before" is transitive, however far they get. -/
theorem notBefore_trans {log : List U32}
    (hlog : log.Pairwise fun earlier later => seqLt later earlier = false) {a b c : U32}
    (ha : a ∈ log) (hb : b ∈ log) (hc : c ∈ log) (hab : seqLt b a = false)
    (hbc : seqLt c b = false) : seqLt c a = false := by
  have hself (x : U32) : seqLt x x = false := by
    rw [seqLt, sub_self]
    decide
  have hle {j k : ℕ} {x y : U32} (hjk : j ≤ k) (hx : log[j]? = some x) (hy : log[k]? = some y) :
      seqLt y x = false := by
    rcases hjk.eq_or_lt with rfl | hlt
    · obtain rfl := Option.some.inj (hx.symm.trans hy)
      exact hself x
    · obtain ⟨hj, rfl⟩ := List.getElem?_eq_some_iff.1 hx
      obtain ⟨hk, rfl⟩ := List.getElem?_eq_some_iff.1 hy
      exact List.pairwise_iff_getElem.1 hlog j k hj hk hlt
  obtain ⟨m, hm⟩ := List.mem_iff_getElem?.1 ha
  obtain ⟨p, hp⟩ := List.mem_iff_getElem?.1 hb
  obtain ⟨n, hn⟩ := List.mem_iff_getElem?.1 hc
  rcases le_total m n with hmn | hnm
  · exact hle hmn hm hn
  · -- `c` was emitted before `a`; then `b` coincides with one of them.
    rcases le_total n p with hnp | hpn
    · rw [← seqLt_antisymm (hle hnp hn hp) hbc]
      exact hab
    · rw [← seqLt_antisymm (hle (hpn.trans hnm) hp hm) hab] at hbc
      exact hbc

section Acks

variable {transport : TransportSettings} {i : U32} {a : AckedLink}

theorem acks_initial_run (a : AckedLink) (ops : List LinkOp) :
    a.link.acks <+: (Run.run (AckedLink.step transport) a ops).link.acks := by
  refine Run.invariant (fun a' : AckedLink => a.link.acks <+: a'.link.acks)
    (fun a' op h => h.trans ?_) (List.prefix_refl _) ops
  show a'.link.acks <+: (a'.link.step transport op).acks
  rcases @acks_step transport a'.link op with hsame | hnew
  · rw [hsame]
  · rw [hnew]
    exact List.prefix_append _ _

theorem AcksNeverDecrease.of_initial {l l' : Link} (h : AcksNeverDecrease i l')
    (hpre : l.acks <+: l'.acks) : AcksNeverDecrease i l :=
  List.Pairwise.sublist ((hpre.map Prod.fst).sublist.cons_cons i) h

/-- An ack between the one before and the next number to send keeps the window open. -/
theorem open_of_between {ack remoteAck nextSeq : U32} (hopen : (nextSeq - remoteAck).toNat < 64)
    (hremote : seqLt ack remoteAck = false) (hnext : seqGt ack nextSeq = false) :
    (nextSeq - ack).toNat < 64 := by
  have h₁ : ¬ 2 ^ 31 ≤ (ack - remoteAck).toNat := fun hle => by simp [seqLt_iff.2 hle] at hremote
  have h₂ : ¬ (0 < (ack - nextSeq).toNat ∧ (ack - nextSeq).toNat ≤ 2 ^ 31) :=
    fun hgt => by simp [seqGt_iff.2 hgt] at hnext
  have := ack.isLt
  have := remoteAck.isLt
  have := nextSeq.isLt
  rw [BitVec.toNat_sub] at hopen h₁ h₂ ⊢
  omega

/-- Every ack the sender got was emitted. -/
def Heard (a : AckedLink) : Prop := ∀ ack ∈ a.received, ack ∈ a.link.acks.map Prod.fst

theorem Heard.step (h : Heard a) (op : LinkOp) : Heard (a.step transport op) := by
  have hgrows : a.link.acks.map Prod.fst ⊆ (a.link.step transport op).acks.map Prod.fst :=
    ((@acks_initial_run transport a [op]).map Prod.fst).subset
  intro ack hack
  rcases List.mem_append.1 hack with hold | hnew
  · exact hgrows (h ack hold)
  · obtain ⟨pair, hpair, rfl⟩ := ackOf_mem (Option.mem_toList.1 hnew)
    exact hgrows (List.mem_map_of_mem hpair)

/-- **One step.** -/
theorem LargestAck.step_iff (h : LargestAck i a) (hheard : Heard a)
    (hmono : AcksNeverDecrease i a.link) (op : LinkOp) :
    LargestAck i (a.step transport op) ∧ KeepsWindowOpen transport a op ↔ AckNotBehind a op := by
  have hremote : (a.step transport op).link.sender.tx.remoteAck =
      (a.link.ackOf op).getD a.link.sender.tx.remoteAck := remoteAck_step a.link op
  have hreceived : (a.step transport op).received = a.received ++ (a.link.ackOf op).toList := rfl
  cases hack : a.link.ackOf op with
  | none =>
    rw [hack, Option.getD_none] at hremote
    rw [hack, Option.toList_none, List.append_nil] at hreceived
    refine ⟨fun _ ack hmem => ?_, fun _ => ⟨⟨?_, ?_⟩, fun hsome => ?_⟩⟩
    · rw [hack] at hmem
      cases hmem
    · rw [hremote, hreceived]
      exact h.mem
    · rw [hremote, hreceived]
      exact h.largest
    · rw [hack] at hsome
      cases hsome
  | some ack =>
    rw [hack, Option.getD_some] at hremote
    rw [hack, Option.toList_some] at hreceived
    obtain ⟨pair, hpair, rfl⟩ := ackOf_mem hack
    constructor
    · rintro ⟨hlargest, -⟩ ack' hmem
      obtain rfl : ack' = pair.1 := Option.some.inj (hmem.symm.trans hack)
      rw [← hremote]
      refine hlargest.largest _ ?_
      rw [hreceived, ← List.cons_append]
      exact List.mem_append_left _ h.mem
    · intro hnot
      have hnew := hnot pair.1 hack
      have hlog : ∀ ack ∈ i :: a.received, ack ∈ i :: a.link.acks.map Prod.fst := by
        intro ack hmem
        rcases List.mem_cons.1 hmem with rfl | hold
        · exact List.mem_cons_self
        · exact List.mem_cons_of_mem _ (hheard ack hold)
      have hself : seqLt pair.1 pair.1 = false := by
        rw [seqLt, sub_self]
        decide
      refine ⟨⟨?_, fun ack hmem => ?_⟩, fun _ hbound hopen => ?_⟩
      · rw [hremote, hreceived]
        exact List.mem_cons_of_mem _ (List.mem_append_right _ (List.mem_singleton_self _))
      · rw [hremote]
        rw [hreceived, ← List.cons_append] at hmem
        rcases List.mem_append.1 hmem with hold | hlast
        · exact notBefore_trans hmono (hlog _ hold) (hlog _ h.mem)
            (List.mem_cons_of_mem _ (List.mem_map_of_mem hpair)) (h.largest ack hold) hnew
        · rw [List.mem_singleton.1 hlast]
          exact hself
      · rw [reliableWindowFull_eq_false] at hopen ⊢
        rw [TxSessionState.age] at hopen ⊢
        have hnext : (a.step transport op).link.sender.tx.nextSeq = a.link.sender.tx.nextSeq :=
          nextSeq_of_ackOf hack
        rw [hremote, hnext]
        exact open_of_between hopen hnew (hbound pair hpair)

theorem LargestAck.run_iff (h : LargestAck i a) (hheard : Heard a) (ops : List LinkOp)
    (hmono : AcksNeverDecrease i (Run.run (AckedLink.step transport) a ops).link) :
    Run.Along (AckedLink.step transport)
        (fun a op => LargestAck i (a.step transport op) ∧ KeepsWindowOpen transport a op) a ops ↔
      Run.Along (AckedLink.step transport) AckNotBehind a ops := by
  induction ops generalizing a with
  | nil => exact Iff.rfl
  | cons op ops ih =>
    have hstep := @LargestAck.step_iff transport i a h hheard
      (hmono.of_initial (acks_initial_run a (op :: ops))) op
    constructor
    · rintro ⟨hop, hrest⟩
      exact ⟨hstep.1 hop, (ih hop.1 (hheard.step op) hmono).1 hrest⟩
    · rintro ⟨hop, hrest⟩
      exact ⟨hstep.2 hop, (ih (hstep.2 hop).1 (hheard.step op) hmono).2 hrest⟩

end Acks

/-- **`remote_ack` is the newest acknowledgement if and only if none arrives behind another.** In
every run of a link whose receiver's acks never decrease: after every step `remote_ack` is the
serially largest ack received so far, and no ack closes the window (unless some ack exceeds the next
number to send), if and only if every ack that arrives is not serially before `remote_ack`. -/
theorem remoteAck_largest_iff (transport : TransportSettings) {i : U32} {l : Link}
    (hstart : LinkStart i l) (ops : List LinkOp)
    (hmono : AcksNeverDecrease i (Run.run (AckedLink.step transport) { link := l } ops).link) :
    Run.Along (AckedLink.step transport)
        (fun a op => LargestAck i (a.step transport op) ∧ KeepsWindowOpen transport a op)
        { link := l } ops ↔
      Run.Along (AckedLink.step transport) AckNotBehind { link := l } ops := by
  refine LargestAck.run_iff ⟨?_, fun ack hack => ?_⟩ (fun ack hack => by cases hack) ops hmono
  · rw [hstart.sender.remoteAck]
    exact List.mem_cons_self
  · rw [hstart.sender.remoteAck, List.mem_singleton.1 hack, seqLt, sub_self]
    decide

instance (i : U32) (l : Link) : Decidable (AcksNeverDecrease i l) :=
  inferInstanceAs (Decidable ((i :: l.acks.map Prod.fst).Pairwise _))

instance (a : AckedLink) (op : LinkOp) : Decidable (AckNotBehind a op) :=
  match h : a.link.ackOf op with
  | none => isTrue fun ack hack => by rw [h] at hack; cases hack
  | some ack => decidable_of_iff (seqLt ack a.link.sender.tx.remoteAck = false)
      (by
        rw [AckNotBehind, h]
        exact ⟨fun hack q hq => Option.some.inj hq ▸ hack, fun hall => hall ack rfl⟩)

/-- Acks in order: the second one is the newest. -/
theorem remoteAck_largest_inOrder :
    LargestAck 100 (Run.run (AckedLink.step {}) { link := linkAt100 }
      [.queue 1 .reliableUnordered [0x01], pollServer, .emitAck, .deliver 0 0, .emitAck, .remoteAck 0,
        .remoteAck 1]) :=
  ((remoteAck_largest_iff {} linkAt100_start
    [.queue 1 .reliableUnordered [0x01], pollServer, .emitAck, .deliver 0 0, .emitAck, .remoteAck 0,
      .remoteAck 1] (by decide +kernel)).2 (by decide +kernel)).2.2.2.2.2.2.1.1

/-- One packet is sent, delivered and acknowledged; the ack that the receiver emitted before it
arrives last. -/
def lateAck : List LinkOp :=
  [.emitAck, .queue 1 .reliableUnordered [0x01], pollServer, .deliver 0 0, .emitAck, .remoteAck 1,
    .remoteAck 0]

/-- Nothing is in flight, and the late ack puts `remote_ack` back from 101 to 100: one number of the
window is lost, although everything is acknowledged. -/
theorem late_ack_regresses :
    LinkStart 100 linkAt100 ∧
      let a := Run.run (AckedLink.step {}) { link := linkAt100 } lateAck
      (AcksNeverDecrease 100 a.link ∧ a.link.numbered = 1 ∧ ZeroAhead 100 a.link) ∧
        (a.link.sender.tx.inflight.isEmpty = true ∧ a.link.sender.tx.nextSeq = 101 ∧
          a.received = [101, 100] ∧ a.link.sender.tx.remoteAck = 100) ∧
        ¬ LargestAck 100 a := by
  have hacks : (Run.run (AckedLink.step {}) { link := linkAt100 } lateAck).received = [101, 100] ∧
      (Run.run (AckedLink.step {}) { link := linkAt100 } lateAck).link.sender.tx.remoteAck = 100 := by
    decide +kernel
  refine ⟨linkAt100_start, by decide +kernel, by decide +kernel, fun h => ?_⟩
  have hlargest := h.largest 101 (by rw [hacks.1]; decide)
  rw [hacks.2] at hlargest
  exact absurd hlargest (by decide)

end Rudp
