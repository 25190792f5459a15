import Rudp.LinkReliable
import Rudp.LinkWindow
import Rudp.TxLanes

/-!
# The link does not get stuck

Whatever a network has done to a link so far, delivery is still possible: if nothing more is queued,
and the session goes on polling while the network hands over what it holds, there is a way to get
everything delivered, everything acknowledged and the send window open again
(`link_can_finish`). No timer has to expire on that way, and no packet has to be sent twice.

The two windows have to fit for this. A packet that is numbered but missing lies less than 65 ahead
of the receiver's front (`Agree`), so the receiver has a bit for it; those beyond the front are
handed over first (`Flows.fill`), and then the bitmap is contiguous when the one at the front
arrives, and the front passes all of them at once (`Flows.catchUp`). One ack is then enough to empty
the sender's map (`Flows.settle`).
-/

namespace Rudp

open Serial Window TxHandler RxHandler

/-! ## Statement -/

/-- A step in which the application queues nothing, the session is polled at `nowMs` while it is
established, or the network hands something over. -/
def LinkOp.carries (nowMs : U64) (role : SessionRole) (connId : U32) (rx : RxSessionState)
    (op : LinkOp) : Prop :=
  op = .poll nowMs role connId .established rx ∨ (∃ n, op = .deliver n nowMs) ∨ op = .emitAck ∨
    ∃ n, op = .remoteAck n

/-- What a link may do on the way. -/
structure MayTake (transport : TransportSettings) (i : U32) (nowMs : U64) (role : SessionRole)
    (connId : U32) (rx : RxSessionState) (l : Link) (op : LinkOp) : Prop where
  carries : op.carries nowMs role connId rx
  bounds : InBounds i (l.step transport op)
  contiguous : FrontContiguous l op

/-- There are numbers left for what is pending, and 0 stays out of the window's reach. -/
def HasRoom (i : U32) (l : Link) : Prop :=
  l.numbered + l.sender.tx.pendingSend.length < 2 ^ 31 ∧
    i.toNat + l.numbered + l.sender.tx.pendingSend.length + 64 < 2 ^ 32

/-- Everything has been sent, received and acknowledged, and every unordered request has been
delivered exactly once. -/
structure Finished (l : Link) : Prop where
  transmitted : transmitted l.sender.emitted = l.sender.queued
  pendingSend : l.sender.tx.pendingSend = []
  inflight : l.sender.tx.inflight = ∅
  windowOpen : reliableWindowFull l.sender.tx = false
  accepted : ∀ p ∈ firsts l.sender.emitted, p.isData = true → Accepted l.rx l.events p
  unordered : (l.unorderedEvents.map SessionEvent.request).Perm
    (l.sender.queued.filter fun r => r.channelType = .reliableUnordered)

/-! ## Both windows at once -/

/-- The receiver's window describes what arrived, and the sender is at most 64 numbers beyond its
front. -/
structure Flows (transport : TransportSettings) (i : U32) (l : Link) (f : ℕ) (R : Set ℕ) :
    Prop where
  reliable : LinkReliable transport i l f R
  agree : Agree transport i { link := l, advanced := f }

section Flows

variable {transport : TransportSettings} {i : U32} {l : Link} {f : ℕ} {R : Set ℕ}

theorem LinkReliable.front_lt (h : LinkReliable transport i l f R) : f < 2 ^ 31 :=
  Nat.lt_of_le_of_lt (h.receiver.front_le h.bounds.2) h.bounds.1

/-- Two descriptions of one front agree. -/
theorem LinkReliable.front_eq {l' : Link} {f' : ℕ} {R' : Set ℕ}
    (h : LinkReliable transport i l f R) (h' : LinkReliable transport i l' f' R')
    (hsame : l'.rx.nextExpected = l.rx.nextExpected) : f' = f := by
  have hf := h.front_lt
  have hf' := h'.front_lt
  rw [h'.receiver.front, h.receiver.front] at hsame
  exact (ahead_inj (by omega) (by omega)).1 hsame

/-- The front never goes back. An ack that the receiver emits before the step is the witness: it
is still a front of the past afterwards. -/
theorem LinkReliable.step_le (h : LinkReliable transport i l f R) {op : LinkOp}
    (hbounds : InBounds i (l.step transport op)) (hgap : FrontContiguous l op) :
    ∃ f' R', LinkReliable transport i (l.step transport op) f' R' ∧ f ≤ f' := by
  have hstill (hsame : (l.step transport op).rx.nextExpected = l.rx.nextExpected) :
      ∃ f' R', LinkReliable transport i (l.step transport op) f' R' ∧ f ≤ f' := by
    obtain ⟨f', R', h'⟩ := h.step hbounds hgap
    exact ⟨f', R', h', (h.front_eq h' hsame).ge⟩
  cases op with
  | queue | poll | schedule | emitAck | drain => exact hstill rfl
  | remoteAck n =>
    refine hstill ?_
    rw [Link.step]
    split <;> rfl
  | deliver n nowMs =>
    cases he : l.sender.emitted[n]? with
    | none => exact hstill (by rw [Link.step, he])
    | some e =>
      have hmarked : LinkReliable transport i (l.step transport .emitAck) f R := by
        refine ⟨h.nonzero, h.bounds, h.sender, h.receiver, fun pair hpair => ?_⟩
        rcases List.mem_append.1 hpair with hold | hnew
        · exact h.acks pair hold
        · rw [List.mem_singleton.1 hnew]
          exact ⟨f, R, subset_rfl, h.receiver.front, h.receiver.tracks⟩
      obtain ⟨f', R', h'⟩ := hmarked.deliver he nowMs hgap
      have hold : LinkReliable transport i (l.step transport (.deliver n nowMs)) f' R' := by
        rw [Link.step, he]
        exact ⟨h'.nonzero, h'.bounds, h'.sender, h'.receiver,
          fun pair hpair => h'.acks pair (List.mem_append_left _ hpair)⟩
      refine ⟨f', R', hold, ?_⟩
      obtain ⟨fa, Ra, hRa, hfront, htracks⟩ := h'.acks (l.rx.nextExpected, l.rx.receivedBits)
        (List.mem_append_right _ (List.mem_singleton_self _))
      have hfa : fa ≤ f' := htracks.front_le h'.receiver.tracks hRa
      have hf := h.front_lt
      have hf' := h'.front_lt
      rw [h.receiver.front] at hfront
      rwa [(ahead_inj (by omega) (by omega)).1 hfront]

theorem Flows.step (h : Flows transport i l f R) {op : LinkOp}
    (hbounds : InBounds i (l.step transport op)) (hgap : FrontContiguous l op) :
    ∃ f' R', Flows transport i (l.step transport op) f' R' := by
  obtain ⟨f', R', h', hle⟩ := h.reliable.step_le hbounds hgap
  have hf' := h'.front_lt
  have hagree := h.agree.step h.reliable.front_lt op
  have hadvanced : f + offset l.rx (l.step transport op).rx.nextExpected = f' := by
    rw [offset, h'.receiver.front, h.reliable.receiver.front,
      toNat_ahead_sub_ahead hle (by omega)]
    omega
  simp only [AckedLink.step, hadvanced] at hagree
  exact ⟨f', R', h', hagree.sender, hagree.bare, hagree.front, hagree.acks, hagree.remote,
    hagree.sent⟩

theorem LinkStart.flows (hstart : LinkStart i l) : ∃ f R, Flows transport i l f R := by
  obtain ⟨f, R, h⟩ := @LinkStart.reliable transport i l hstart
  refine ⟨f, R, h, ?_⟩
  have hf := h.front_lt
  have hfront : ahead i f = ahead i 0 := by rw [← h.receiver.front, hstart.front, ahead_zero]
  rw [ahead_inj (by omega) (by omega)] at hfront
  rw [hfront]
  exact hstart.agree

end Flows

/-! ## The network catches up -/

/-- What takes a number goes on the wire. -/
theorem firsts_emitted {log : List Emission} {p : PacketView} (h : p ∈ firsts log) :
    ∃ (n : ℕ) (e : Emission), log[n]? = some e ∧ decode e.datagram = some p ∧
      p.isNumbered = true := by
  obtain ⟨e, he, hfirst⟩ := List.mem_filterMap.1 h
  obtain ⟨n, hn⟩ := List.mem_iff_getElem?.1 he
  obtain ⟨hdecode, hnum⟩ := Option.filter_eq_some_iff.1 hfirst
  rw [Emission.first] at hdecode
  split_ifs at hdecode
  exact ⟨n, e, hn, hdecode, hnum⟩

section CatchUp

variable {transport : TransportSettings} {i : U32} {l : Link} {f j : ℕ} {R : Set ℕ}

/-- The packet that took number `j` arrives, in its first copy. -/
theorem Flows.arrives (h : Flows transport i l f R) (hj : j < l.numbered) :
    ∃ (n : ℕ) (p : PacketView), p.header.seq = ahead i j ∧
      touchesWindow p.header (classifyControlKind p.header) = true ∧
      (∀ nowMs, l.step transport (.deliver n nowMs) =
        { l with rx := (onPacket p nowMs (classifyControlKind p.header) l.rx).2 }) ∧
      ∀ nowMs, (p.header.seq = l.rx.nextExpected → Contiguous l.rx.receivedBits) →
        FrontContiguous l (.deliver n nowMs) := by
  have hget : (firsts l.sender.emitted)[j]? = some (firsts l.sender.emitted)[j] :=
    List.getElem?_eq_getElem hj
  obtain ⟨n, e, he, hdecode, hnum⟩ := firsts_emitted (List.mem_of_getElem? hget)
  refine ⟨n, _, h.reliable.sender.seqs j _ hget, touchesWindow_of_consumesSeq hnum,
    fun nowMs => ?_, fun nowMs hgap => ?_⟩
  · rw [Link.step, he]
    simp only [receiveDatagram, hdecode]
  · simp only [FrontContiguous, he, Option.bind_some, hdecode]
    exact fun _ => hgap

variable (nowMs : U64) (role : SessionRole) (connId : U32) (rx : RxSessionState)

/-- The network hands over what changes only the receiver. -/
theorem Flows.handOver (h : Flows transport i l f R) {n : ℕ} {rx' : RxSessionState}
    (hstep : l.step transport (.deliver n nowMs) = { l with rx := rx' })
    (hgap : FrontContiguous l (.deliver n nowMs)) :
    (∃ f' R', Flows transport i { l with rx := rx' } f' R') ∧
      Run.Reaches (Link.step transport) (MayTake transport i nowMs role connId rx) l
        { l with rx := rx' } := by
  have hbounds : InBounds i (l.step transport (.deliver n nowMs)) := by
    rw [hstep]
    exact h.reliable.bounds
  rw [← hstep]
  exact ⟨h.step hbounds hgap, .single ⟨Or.inr (Or.inl ⟨n, rfl⟩), hbounds, hgap⟩⟩

/-- **A packet beyond the front** is admitted when it arrives, and the front stays. -/
theorem Flows.deliver_ahead (h : Flows transport i l f R) (hj : j < l.numbered) (hahead : f < j) :
    ∃ rx' R', Run.Reaches (Link.step transport) (MayTake transport i nowMs role connId rx) l
        { l with rx := rx' } ∧
      Flows transport i { l with rx := rx' } f R' ∧ R ⊆ R' ∧ j ∈ R' := by
  obtain ⟨n, p, hseq, htouch, hstep, hgap⟩ := h.arrives hj
  have hsmall : l.numbered < 2 ^ 31 := h.reliable.bounds.1
  have hsent : l.numbered ≤ f + 64 := h.agree.sent
  have hfront := h.reliable.receiver.front
  obtain ⟨b, rfl⟩ := Nat.exists_eq_add_of_le (Nat.succ_le_of_lt hahead)
  have hne := h.reliable.receiver.front_ne_zero h.reliable.nonzero h.reliable.bounds.2
  have hoffset : offset l.rx p.header.seq = b + 1 := by
    rw [offset, hseq, hfront, toNat_ahead_sub_ahead hahead.le (by omega)]
    omega
  have hcontiguous : FrontContiguous l (.deliver n nowMs) := by
    refine hgap nowMs fun hat => ?_
    rw [hseq, hfront, ahead_inj (by omega) (by omega)] at hat
    omega
  obtain ⟨hnext, hbits⟩ := onPacket_window p nowMs (classifyControlKind p.header) l.rx
  rw [update_of_ahead htouch hne (by omega) hoffset] at hnext hbits
  obtain ⟨⟨f', R', h'⟩, hreach⟩ := h.handOver nowMs role connId rx (hstep nowMs) hcontiguous
  obtain rfl : f' = f := h.reliable.front_eq h'.reliable hnext
  have htracks := h'.reliable.receiver.tracks
  rw [hbits] at htracks
  refine ⟨_, R', hreach, h', h.reliable.receiver.tracks.mono htracks fun k hk hset => ?_, ?_⟩
  · rw [getLsbD_setBit _ _ hk, hset, Bool.true_or]
  · refine (htracks.bitmap b (by omega)).1 ?_
    rw [getLsbD_setBit _ _ (by omega), decide_eq_true rfl, Bool.or_true]

/-- One after the other, the missing packets beyond the front. -/
theorem Flows.fill (h : Flows transport i l f R) {k : ℕ} (hk : f + 1 + k ≤ l.numbered) :
    ∃ rx' R', Run.Reaches (Link.step transport) (MayTake transport i nowMs role connId rx) l
        { l with rx := rx' } ∧
      Flows transport i { l with rx := rx' } f R' ∧ ∀ j, f < j → j < f + 1 + k → j ∈ R' := by
  induction k with
  | zero => exact ⟨l.rx, R, .refl l, h, fun j hlow hhigh => by omega⟩
  | succ k ih =>
    obtain ⟨rx₁, R₁, hreach₁, h₁, hfull₁⟩ := ih (by omega)
    obtain ⟨rx₂, R₂, hreach₂, h₂, hsub, hnew⟩ :=
      h₁.deliver_ahead nowMs role connId rx (show f + 1 + k < _ from hk) (by omega)
    refine ⟨rx₂, R₂, hreach₁.trans hreach₂, h₂, fun j hlow hhigh => ?_⟩
    rcases Nat.lt_succ_iff_lt_or_eq.1 hhigh with hold | rfl
    · exact hsub (hfull₁ j hlow hold)
    · exact hnew

/-- Below `next_seq` nothing else is in the window's reach, so if nothing is missing beyond the
front, the bitmap has no gap. -/
theorem Flows.contiguous_of_full (h : Flows transport i l f R)
    (hzero : i.toNat + l.numbered + 64 < 2 ^ 32) (hfull : ∀ j, f < j → j < l.numbered → j ∈ R) :
    Contiguous l.rx.receivedBits := by
  have htracks := h.reliable.receiver.tracks
  have hf := h.reliable.receiver.front_le h.reliable.bounds.2
  intro b hb hset a hab
  rcases h.reliable.receiver.inLog _ ((htracks.bitmap b hb).1 hset) with hlt | hout
  · exact (htracks.bitmap a (by omega)).2 (hfull _ (by omega) (Nat.lt_trans (by omega) hlt))
  · rw [Link.numbered] at hzero
    omega

/-- **The packet at the front**, when nothing else is missing: the front passes everything that was
sent. -/
theorem Flows.deliver_front (h : Flows transport i l f R)
    (hzero : i.toNat + l.numbered + 64 < 2 ^ 32) (hfull : ∀ j, f < j → j < l.numbered → j ∈ R)
    (hf : f < l.numbered) :
    ∃ rx' R', Run.Reaches (Link.step transport) (MayTake transport i nowMs role connId rx) l
        { l with rx := rx' } ∧ Flows transport i { l with rx := rx' } l.numbered R' := by
  obtain ⟨n, p, hseq, htouch, hstep, hgap⟩ := h.arrives hf
  have hsmall : l.numbered < 2 ^ 31 := h.reliable.bounds.1
  have hfront := h.reliable.receiver.front
  have htracks := h.reliable.receiver.tracks
  have hne := h.reliable.receiver.front_ne_zero h.reliable.nonzero h.reliable.bounds.2
  have hcontiguous : FrontContiguous l (.deliver n nowMs) :=
    hgap nowMs fun _ => h.contiguous_of_full hzero hfull
  obtain ⟨⟨f', R', h'⟩, hreach⟩ := h.handOver nowMs role connId rx (hstep nowMs) hcontiguous
  refine ⟨_, R', hreach, ?_⟩
  -- The run above the front is everything that was sent.
  obtain ⟨hnext, -⟩ := onPacket_window p nowMs (classifyControlKind p.header) l.rx
  obtain ⟨k, hk, hadv⟩ := advanceReceiveWindow_eq l.rx
  rw [update_of_front htouch hne (hseq.trans hfront.symm), hadv] at hnext
  have hslide := htracks.slide hk
  have hlow : l.numbered ≤ f + 1 + k := by
    by_contra hlt
    have hmem := hfull (f + 1 + k) (by omega) (by omega)
    exact hslide.front_notMem (Set.mem_insert_of_mem _ hmem)
  have hk64 := hk.le
  have hf' := h'.reliable.front_lt
  have hfronts : ahead i f' = ahead i (f + 1 + k) := by
    rw [← h'.reliable.receiver.front, Nat.add_assoc, ahead_add, ← hfront]
    exact hnext
  rw [ahead_inj (by omega) (by omega)] at hfronts
  have hhigh : f' ≤ l.numbered := h'.reliable.receiver.front_le h'.reliable.bounds.2
  obtain rfl : f' = l.numbered := by omega
  exact h'

/-- **The receiver catches up** with everything that was sent. -/
theorem Flows.catchUp (h : Flows transport i l f R)
    (hzero : i.toNat + l.numbered + 64 < 2 ^ 32) :
    ∃ rx' R', Run.Reaches (Link.step transport) (MayTake transport i nowMs role connId rx) l
        { l with rx := rx' } ∧ Flows transport i { l with rx := rx' } l.numbered R' := by
  have hle : f ≤ l.numbered := h.reliable.receiver.front_le h.reliable.bounds.2
  rcases hle.lt_or_eq with hlt | rfl
  · obtain ⟨rx₁, R₁, hreach₁, h₁, hfull⟩ :=
      h.fill nowMs role connId rx (show f + 1 + (l.numbered - (f + 1)) ≤ l.numbered by omega)
    obtain ⟨rx₂, R₂, hreach₂, h₂⟩ := h₁.deliver_front nowMs role connId rx hzero
      (fun j hlow hhigh => hfull j hlow (Nat.lt_of_lt_of_le hhigh (by
        show l.numbered ≤ _
        omega))) hlt
    exact ⟨rx₂, R₂, hreach₁.trans hreach₂, h₂⟩
  · exact ⟨l.rx, R, .refl l, h⟩

end CatchUp

/-! ## One ack is enough -/

section Settle

variable {transport : TransportSettings} {i : U32} {l : Link} {R : Set ℕ}

theorem step_remoteAck {n : ℕ} {ack : U32} {ackBits : U64} (h : l.acks[n]? = some (ack, ackBits)) :
    l.step transport (.remoteAck n) =
      { l with sender := l.sender.step transport (.remoteAck ack ackBits) } := by
  rw [Link.step, h]

/-- A front beyond everything sent acknowledges everything in flight. -/
theorem Conserves.remoteAck_all {s : Sender} (h : Conserves transport i s)
    (hsmall : (firsts s.emitted).length < 2 ^ 31) (ackBits : U64) :
    (onRemoteAck transport s.tx.nextSeq ackBits s.tx).2.inflight = ∅ := by
  have hacks := onRemoteAck_acknowledges transport s.tx.nextSeq ackBits s.tx
  refine Std.ExtTreeMap.ext_getElem? fun k => ?_
  rw [Std.ExtTreeMap.getElem?_empty, hacks.keys]
  cases hget : s.tx.inflight[k]? with
  | none => exact Or.inl rfl
  | some entry =>
    refine Or.inr ?_
    obtain ⟨-, -, -, p, again, hhistory, -, -⟩ := h.entries k entry hget
    obtain ⟨hp, rfl⟩ := history_first hhistory
    obtain ⟨j, hj⟩ := List.mem_iff_getElem?.1 hp
    have hlt := (List.getElem?_eq_some_iff.1 hj).1
    have hbehind : seqLt p.header.seq s.tx.nextSeq = true := by
      rw [h.seqs j p hj, h.nextSeq, seqLt_ahead_iff (by omega) (by omega)]
      exact hlt
    rw [isAcknowledgedByRemote, if_pos hbehind]

variable (nowMs : U64) (role : SessionRole) (connId : U32) (rx : RxSessionState)

/-- **Once the receiver has caught up**, one ack empties the sender's map and opens its window. -/
theorem Flows.settle (h : Flows transport i l l.numbered R) :
    ∃ l', Run.Reaches (Link.step transport) (MayTake transport i nowMs role connId rx) l l' ∧
      (∃ f' R', Flows transport i l' f' R') ∧ l'.numbered = l.numbered ∧
      l'.rx = l.rx ∧ l'.events = l.events ∧ l'.sender = { l.sender with tx :=
        { l.sender.tx with
          remoteAck := l.sender.tx.nextSeq
          remoteAckBits := l.rx.receivedBits
          inflight := ∅ } } := by
  have hemit : MayTake transport i nowMs role connId rx l .emitAck :=
    ⟨Or.inr (Or.inr (Or.inl rfl)), h.reliable.bounds, trivial⟩
  obtain ⟨f₁, R₁, h₁⟩ := h.step hemit.bounds hemit.contiguous
  have hack : (l.step transport .emitAck).acks[l.acks.length]? =
      some (l.sender.tx.nextSeq, l.rx.receivedBits) := by
    rw [h.reliable.sender.nextSeq, ← Link.numbered, ← h.reliable.receiver.front]
    exact List.getElem?_concat_length
  have hstep : (l.step transport .emitAck).step transport (.remoteAck l.acks.length) =
      { l.step transport .emitAck with sender := { l.sender with tx :=
        { l.sender.tx with
          remoteAck := l.sender.tx.nextSeq
          remoteAckBits := l.rx.receivedBits
          inflight := ∅ } } } := by
    have hstate := (onRemoteAck_acknowledges transport l.sender.tx.nextSeq l.rx.receivedBits
      l.sender.tx).state
    rw [h.reliable.sender.remoteAck_all h.reliable.bounds.1] at hstate
    rw [step_remoteAck hack, Sender.step]
    exact congrArg (fun tx => { l.step transport .emitAck with sender := { l.sender with tx } })
      hstate
  have htake : MayTake transport i nowMs role connId rx (l.step transport .emitAck)
      (.remoteAck l.acks.length) := by
    refine ⟨Or.inr (Or.inr (Or.inr ⟨_, rfl⟩)), ?_, trivial⟩
    rw [hstep]
    exact h.reliable.bounds
  refine ⟨_, (Run.Reaches.single hemit).trans (.single htake),
    h₁.step htake.bounds htake.contiguous, ?_⟩
  rw [hstep]
  exact ⟨rfl, rfl, rfl, rfl⟩

end Settle

/-! ## The session goes on polling -/

/-- What an established session still has to put on the wire for the first time. -/
def owing (tx : TxSessionState) : ℕ :=
  tx.finalAckPending.toNat + tx.probe.pongPending.toNat + tx.probe.pingPending.toNat +
    tx.ackOnlyPending.toNat + tx.pendingSend.length

section Polling

variable {transport : TransportSettings} {nowMs : U64} {role : SessionRole} {connId : U32}
  {rx : RxSessionState} {tx : TxSessionState}

/-- A client answers a repeated SYN-ACK before anything else. -/
theorem poll_finalAck (hpending : tx.finalAckPending = true) :
    (poll transport nowMs role connId .established rx tx).2.2 =
      { tx with
        finalAckPending := false
        finalAckLingerUntilMs := nowMs + transport.handshakeLingerMs } := by
  have hbuild : tryBuildHandshake transport nowMs role connId .established rx tx =
      (some (encode (controlPacket connId Flag.ack.toFlags rx 0).header []), .established,
        { tx with
          finalAckPending := false
          finalAckLingerUntilMs := nowMs + transport.handshakeLingerMs }) := by
    rw [tryBuildHandshake, if_neg (by simp), if_neg (by simp), if_pos ⟨hpending, rfl⟩,
      buildControlPacket_of_bare (by decide : consumesReliableSeq Flag.ack.toFlags = false)]
  rw [poll, hbuild]

/-- The request that goes out when nothing else does. -/
theorem tryBuildFresh_of_open (hopen : reliableWindowFull tx = false) {request : SendRequest}
    {rest : List SendRequest} (hpending : tx.pendingSend = request :: rest) :
    owing (tryBuildFresh nowMs connId rx tx).2 + 1 = owing tx ∧
      (tryBuildFresh nowMs connId rx tx).2.pendingSend = rest := by
  have hfull : reliableWindowFull { tx with pendingSend := rest } = false := hopen
  simp only [tryBuildFresh, hpending, makePacketFromRequest, hfull, Bool.and_false,
    Bool.false_eq_true, if_false, owing, List.length_cons]
  split_ifs <;> exact ⟨rfl, rfl⟩

/-- **A poll gets on with it**, when nothing is in flight and the window is open: it puts one of the
things it owes on the wire, and if that takes a number it is a request. -/
theorem poll_owing (hinflight : tx.inflight = ∅) (hopen : reliableWindowFull tx = false)
    (howing : 0 < owing tx) :
    let tx' := (poll transport nowMs role connId .established rx tx).2.2
    owing tx' + 1 = owing tx ∧ (tx'.pendingSend.length + 1 = tx.pendingSend.length ∨
      tx'.nextSeq = tx.nextSeq ∧ tx'.pendingSend = tx.pendingSend) := by
  intro tx'
  cases hfinal : tx.finalAckPending with
  | true =>
    rw [show tx' = _ from poll_finalAck hfinal]
    refine ⟨?_, Or.inr ⟨rfl, rfl⟩⟩
    simp only [owing, hfinal, Bool.toNat_true, Bool.toNat_false]
    omega
  | false =>
    have hquiet := @tryBuildHandshake_of_not_due transport nowMs role connId .established rx tx
      (by rw [handshakeDue, hfinal])
    have hdue : firstDue transport nowMs tx = none := by
      rw [firstDue, hinflight]
      simp
    rw [show tx' = _ from poll_behind_scan hquiet hdue]
    split_ifs with hpong hping hack
    · refine ⟨?_, Or.inr ⟨rfl, rfl⟩⟩
      simp only [owing, hpong, Bool.toNat_true, Bool.toNat_false]
      omega
    · refine ⟨?_, Or.inr ⟨rfl, rfl⟩⟩
      simp only [owing, hping, Bool.toNat_true, Bool.toNat_false]
      omega
    · refine ⟨?_, Or.inr ⟨rfl, rfl⟩⟩
      simp only [owing, hack, Bool.toNat_true, Bool.toNat_false]
      omega
    · cases hpending : tx.pendingSend with
      | nil =>
        simp only [owing, hfinal, hpong, hping, hack, hpending, Bool.toNat_false,
          List.length_nil] at howing
        exact absurd howing (Nat.lt_irrefl 0)
      | cons request rest =>
        obtain ⟨hless, hrest⟩ :=
          @tryBuildFresh_of_open nowMs connId rx tx hopen request rest hpending
        exact ⟨hless, Or.inl (by rw [hrest, List.length_cons])⟩

end Polling

section Drain

variable {transport : TransportSettings} {i : U32} {l : Link} {f : ℕ} {R : Set ℕ}
  (nowMs : U64) (role : SessionRole) (connId : U32) (rx : RxSessionState)

/-- One poll of a link that has caught up. -/
theorem Flows.poll (h : Flows transport i l f R) (hroom : HasRoom i l)
    (hinflight : l.sender.tx.inflight = ∅) (hopen : reliableWindowFull l.sender.tx = false)
    (howing : 0 < owing l.sender.tx) :
    let l' := l.step transport (.poll nowMs role connId .established rx)
    MayTake transport i nowMs role connId rx l (.poll nowMs role connId .established rx) ∧
      HasRoom i l' ∧ owing l'.sender.tx + 1 = owing l.sender.tx := by
  intro l'
  obtain ⟨hless, hpending⟩ := @poll_owing transport nowMs role connId rx l.sender.tx hinflight
    hopen howing
  have hsmall : l.numbered < 2 ^ 31 := h.reliable.bounds.1
  have hpolled := h.reliable.sender.step (.poll nowMs role connId .established rx)
  have hsum : l'.numbered + l'.sender.tx.pendingSend.length ≤
      l.numbered + l.sender.tx.pendingSend.length := by
    have hnumbered : l'.numbered = l.numbered ∨ l'.numbered = l.numbered + 1 :=
      (h.reliable.sender.numbered_step (.poll nowMs role connId .established rx)).imp_right And.left
    rcases hpending with hrequest | ⟨hsame, hkept⟩
    · have hless : l'.sender.tx.pendingSend.length + 1 = l.sender.tx.pendingSend.length := hrequest
      omega
    · -- The next number is what it was, so no number was taken.
      have hahead : ahead i l'.numbered = ahead i l.numbered := by
        rw [Link.numbered, Link.numbered, ← h.reliable.sender.nextSeq, ← hsame]
        exact hpolled.nextSeq.symm
      rw [ahead_inj (by omega) (by omega)] at hahead
      rw [hahead]
      exact Nat.add_le_add_left (congrArg List.length hkept).le _
  have hroom' : HasRoom i l' := ⟨hsum.trans_lt hroom.1, by
    have := hroom.2
    omega⟩
  refine ⟨⟨Or.inl rfl, ⟨?_, ?_⟩, trivial⟩, hroom', hless⟩
  · exact Nat.lt_of_le_of_lt (Nat.le_add_right _ _) hroom'.1
  · show i.toNat + l'.numbered < 2 ^ 32
    have := hroom'.2
    omega

/-- What a link that goes on keeps: the windows fit, there is room, and nothing is queued. -/
structure GoesOn (transport : TransportSettings) (i : U32) (queued : List SendRequest) (l : Link) :
    Prop where
  flows : ∃ f R, Flows transport i l f R
  room : HasRoom i l
  queued : l.sender.queued = queued

/-- The receiver has everything that was sent, and the sender knows. -/
structure Settled (transport : TransportSettings) (i : U32) (l : Link) : Prop where
  flows : ∃ R, Flows transport i l l.numbered R
  inflight : l.sender.tx.inflight = ∅
  windowOpen : reliableWindowFull l.sender.tx = false

/-- The network catches up, and the sender still owes what it owed. -/
theorem GoesOn.settle {queued : List SendRequest} (h : GoesOn transport i queued l) :
    ∃ l', Run.Reaches (Link.step transport) (MayTake transport i nowMs role connId rx) l l' ∧
      GoesOn transport i queued l' ∧ Settled transport i l' ∧
      owing l'.sender.tx = owing l.sender.tx := by
  obtain ⟨f, R, hflows⟩ := h.flows
  obtain ⟨rx₁, R₁, hreach₁, h₁⟩ := hflows.catchUp nowMs role connId rx (by
    have := h.room.2
    omega)
  obtain ⟨l', hreach₂, ⟨f', R', h₂⟩, hnumbered, hrx, -, hsender⟩ :=
    Flows.settle nowMs role connId rx h₁
  have hfront : f' = l'.numbered :=
    (h₁.reliable.front_eq h₂.reliable (by rw [hrx])).trans hnumbered.symm
  have hroom : HasRoom i l' := by
    rw [HasRoom, hnumbered, hsender]
    exact h.room
  refine ⟨l', hreach₁.trans hreach₂, ⟨⟨f', R', h₂⟩, hroom, ?_⟩, ⟨⟨R', hfront ▸ h₂⟩, ?_, ?_⟩, ?_⟩
  · rw [hsender]
    exact h.queued
  · rw [hsender]
  · rw [hsender, reliableWindowFull_eq_false, TxSessionState.age, BitVec.sub_self]
    decide
  · rw [hsender]
    rfl

/-- **Something is sent**, as long as something is owed. -/
theorem GoesOn.less {queued : List SendRequest} (h : GoesOn transport i queued l)
    (howing : 0 < owing l.sender.tx) :
    ∃ l', Run.Reaches (Link.step transport) (MayTake transport i nowMs role connId rx) l l' ∧
      GoesOn transport i queued l' ∧ owing l'.sender.tx < owing l.sender.tx := by
  obtain ⟨l₁, hreach, h₁, hsettled, hsame⟩ := h.settle nowMs role connId rx
  obtain ⟨R, hflows⟩ := hsettled.flows
  obtain ⟨hmay, hroom, hless⟩ := hflows.poll nowMs role connId rx h₁.room hsettled.inflight
    hsettled.windowOpen (hsame ▸ howing)
  exact ⟨_, hreach.trans (.single hmay),
    ⟨hflows.step hmay.bounds hmay.contiguous, hroom, h₁.queued⟩, by omega⟩

end Drain

/-! ## What has been delivered in the end -/

/-- The numbered unordered packets carry the unordered requests, in order. -/
theorem firsts_unordered (log : List Emission) :
    ((firsts log).filter fun p => p.isData && p.header.channelType = .reliableUnordered).map
        PacketView.request =
      (transmitted log).filter fun r => r.channelType = .reliableUnordered := by
  induction log with
  | nil => rfl
  | cons e log ih =>
    cases hfirst : e.first with
    | none => simpa [transmitted, firsts, List.filterMap_cons, hfirst] using ih
    | some p =>
      cases hdata : p.isData with
      | false =>
        cases hnum : p.isNumbered <;>
          simpa [transmitted, firsts, List.filterMap_cons, hfirst, Option.filter, hdata, hnum]
            using ih
      | true =>
        by_cases htype : p.header.channelType = .reliableUnordered
        · have hnum : p.isNumbered = true := by
            have hkind : classifyControlKind p.header = .none := by
              simpa [PacketView.isData] using hdata
            simp [PacketView.isNumbered, consumesSeq, hkind, isReliableChannel, htype]
          simpa [transmitted, firsts, List.filterMap_cons, hfirst, Option.filter, hdata, hnum,
            htype, PacketView.request] using ih
        · cases hnum : p.isNumbered <;>
            simpa [transmitted, firsts, List.filterMap_cons, hfirst, Option.filter, hdata, hnum,
              htype, PacketView.request] using ih

section Finish

variable {transport : TransportSettings} {i : U32} {l : Link} {R : Set ℕ}

/-- Numbers are taken once. -/
theorem Conserves.firsts_nodup {s : Sender} (h : Conserves transport i s)
    (hsmall : (firsts s.emitted).length < 2 ^ 32) :
    ((firsts s.emitted).map fun p => p.header.seq).Nodup := by
  rw [List.Nodup, List.pairwise_map, List.pairwise_iff_getElem]
  intro j k hj hk hjk
  rw [h.seqs j _ (List.getElem?_eq_getElem hj), h.seqs k _ (List.getElem?_eq_getElem hk)]
  exact ahead_ne_ahead hjk (by omega)

/-- An unordered packet that the receiver has is delivered: only ordered ones wait. -/
theorem Receives.delivered {log : List PacketView} {rx : RxSessionState}
    {events : List SessionEvent} {f j : ℕ} (h : Receives i log rx events f R) (hj : j ∈ R)
    {p : PacketView} (hp : log[j]? = some p) (hdata : p.isData = true)
    (htype : p.header.channelType = .reliableUnordered) :
    makeDataEvent p ∈ events.filter SessionEvent.isUnordered := by
  refine List.mem_filter.2 ⟨?_, by simp [SessionEvent.isUnordered, makeDataEvent, htype]⟩
  rcases h.accepted j hj p hp hdata with hin | ⟨q, hq, hevent⟩
  · exact hin
  · obtain ⟨hordered, -⟩ := h.buffered _ q hq
    have hsame : q.header.channelType = p.header.channelType :=
      congrArg SessionEvent.channelType hevent
    rw [hordered, htype] at hsame
    cases hsame

/-- **All unordered requests, each once**, when the receiver has everything that was sent. -/
theorem Flows.unordered_perm (h : Flows transport i l l.numbered R)
    (hall : transmitted l.sender.emitted = l.sender.queued) :
    (l.unorderedEvents.map SessionEvent.request).Perm
      (l.sender.queued.filter fun r => r.channelType = .reliableUnordered) := by
  have hsmall : (firsts l.sender.emitted).length < 2 ^ 31 := h.reliable.bounds.1
  have hreceiver := h.reliable.receiver
  set sent := (firsts l.sender.emitted).filter fun p =>
    p.isData && p.header.channelType = .reliableUnordered with hsent
  -- Numbered requests are distinct on both sides.
  have hpairs : (l.unorderedEvents.map fun e => (e.seq, e.request)).Perm
      (sent.map fun p => (p.header.seq, p.request)) := by
    refine (List.perm_ext_iff_of_nodup ?_ ?_).2 fun pair => ?_
    · refine List.Nodup.of_map Prod.fst ?_
      rw [List.map_map]
      exact hreceiver.once
    · refine List.Nodup.of_map Prod.fst ?_
      rw [List.map_map]
      exact (h.reliable.sender.firsts_nodup (by omega)).sublist (List.filter_sublist.map _)
    · constructor
      · intro hpair
        obtain ⟨e, he, rfl⟩ := List.mem_map.1 hpair
        obtain ⟨j, -, p, hp, hdata, -, rfl⟩ := hreceiver.unordered e he
        have htype : p.header.channelType = .reliableUnordered :=
          of_decide_eq_true (Bool.and_eq_true_iff.1 (List.mem_filter.1 he).2).2
        refine List.mem_map.2 ⟨p, List.mem_filter.2 ⟨List.mem_of_getElem? hp, ?_⟩, rfl⟩
        simp [hdata, htype]
      · intro hpair
        obtain ⟨p, hp, rfl⟩ := List.mem_map.1 hpair
        obtain ⟨hfirst, hkind⟩ := List.mem_filter.1 hp
        obtain ⟨hdata, htype⟩ := Bool.and_eq_true_iff.1 hkind
        obtain ⟨j, hj⟩ := List.mem_iff_getElem?.1 hfirst
        have hmem := hreceiver.tracks.below j (List.getElem?_eq_some_iff.1 hj).1
        exact List.mem_map.2 ⟨makeDataEvent p,
          hreceiver.delivered hmem hj hdata (of_decide_eq_true htype), rfl⟩
  have hrequests := hpairs.map Prod.snd
  rw [List.map_map, List.map_map] at hrequests
  rw [← hall, ← firsts_unordered]
  exact hrequests

/-- A settled link that owes nothing is finished. -/
theorem Settled.finished (h : Settled transport i l) (howing : owing l.sender.tx = 0) :
    Finished l := by
  obtain ⟨R, hflows⟩ := h.flows
  have hpending : l.sender.tx.pendingSend = [] := by
    rw [← List.length_eq_zero_iff]
    exact Nat.eq_zero_of_add_eq_zero_left howing
  have hall : transmitted l.sender.emitted = l.sender.queued := by
    have hrequests := hflows.reliable.sender.requests
    rwa [hpending, List.append_nil] at hrequests
  refine ⟨hall, hpending, h.inflight, h.windowOpen, fun p hp hdata => ?_,
    hflows.unordered_perm hall⟩
  obtain ⟨j, hj⟩ := List.mem_iff_getElem?.1 hp
  have hmem := hflows.reliable.receiver.tracks.below j (List.getElem?_eq_some_iff.1 hj).1
  exact hflows.reliable.receiver.accepted j hmem p hj hdata

end Finish

/-! ## Every run -/

/-- **The link never gets stuck, while no front packet meets a gap.** Take any run of the link in
which the packet at the receiver's front arrives only while the bitmap is contiguous, whatever was
lost, repeated, delayed or reordered on it. If there are numbers left for what is pending, there is
a way to go on, in which the application queues nothing and the session is polled at one and the
same time, after which everything queued has been transmitted, every reliable packet accepted and
acknowledged, every unordered request delivered exactly once, and the send window is open. -/
theorem link_can_finish (transport : TransportSettings) {i : U32} {l : Link}
    (hstart : LinkStart i l) (ops : List LinkOp)
    (hbounds : Run.Along (Link.step transport) (fun l op => InBounds i (l.step transport op)) l ops)
    (hgap : Run.Along (Link.step transport) FrontContiguous l ops)
    (hroom : HasRoom i (Run.run (Link.step transport) l ops)) (nowMs : U64) (role : SessionRole)
    (connId : U32) (rx : RxSessionState) :
    ∃ rest, Run.Along (Link.step transport) (MayTake transport i nowMs role connId rx)
        (Run.run (Link.step transport) l ops) rest ∧
      let l' := Run.run (Link.step transport) l (ops ++ rest)
      l'.sender.queued = (Run.run (Link.step transport) l ops).sender.queued ∧ Finished l' := by
  have hflows : ∃ f R, Flows transport i (Run.run (Link.step transport) l ops) f R :=
    Run.Along.invariant (fun l => ∃ f R, Flows transport i l f R)
      (fun _ _ hl hop => by
        obtain ⟨f, R, hl⟩ := hl
        exact hl.step hop.1 hop.2)
      hstart.flows (Run.along_and.2 ⟨hbounds, hgap⟩)
  obtain ⟨l₁, hreach₁, h₁, hnothing⟩ := Run.Reaches.of_measure
    (GoesOn transport i (Run.run (Link.step transport) l ops).sender.queued)
    (fun l => owing l.sender.tx) (fun _ h howing => h.less nowMs role connId rx howing)
    ⟨hflows, hroom, rfl⟩
  obtain ⟨l₂, hreach₂, h₂, hsettled, hsame⟩ := h₁.settle nowMs role connId rx
  obtain ⟨rest, hrest, rfl⟩ := hreach₁.trans hreach₂
  refine ⟨rest, hrest, ?_⟩
  rw [show Run.run (Link.step transport) l (ops ++ rest) = _ from List.foldl_append]
  exact ⟨h₂.queued, hsettled.finished (hsame.trans hnothing)⟩

instance (i : U32) (l : Link) : Decidable (HasRoom i l) :=
  inferInstanceAs (Decidable (_ ∧ _))

/-- Three of four packets are sent, and only the second of them has arrived. -/
def secondArrived : List LinkOp :=
  [.queue 1 .reliableUnordered [0x01], .queue 1 .reliableUnordered [0x02],
    .queue 1 .reliableUnordered [0x03], .queue 1 .reliableUnordered [0x04],
    pollServer, pollServer, pollServer, .deliver 1 0]

theorem link_can_finish_secondArrived :
    ∃ rest, Run.Along (Link.step {}) (MayTake {} 100 0 .server 7 {})
        (Run.run (Link.step {}) linkAt100 secondArrived) rest ∧
      let l' := Run.run (Link.step {}) linkAt100 (secondArrived ++ rest)
      l'.sender.queued = (Run.run (Link.step {}) linkAt100 secondArrived).sender.queued ∧
        Finished l' :=
  link_can_finish {} linkAt100_start secondArrived (by decide +kernel) (by decide +kernel)
    (by decide +kernel) 0 .server 7 {}

end Rudp
