import Rudp.Sender

/-!
# The send window

`remote_ack` is whatever the peer last reported, and the window test is a wrapping subtraction, so
a forged acknowledgement can open the window at any time. It cannot make the map of unacknowledged
packets overflow: `WindowBound` relates the keys in flight to `next_seq` alone, and to
`remote_ack` only while the window is open. That is enough for the next packet to find its slot
free.
-/

namespace Rudp

open Serial TxHandler

/-- How far a sequence number lies behind the next one. -/
def TxSessionState.age (tx : TxSessionState) (seq : U32) : ℕ := (tx.nextSeq - seq).toNat

/-- The window invariant. The second part is what a peer cannot break: whenever the window is
open, what is in flight lies between `remote_ack` and `next_seq`. -/
structure WindowBound (tx : TxSessionState) : Prop where
  bound : ∀ (k : U32) (entry : TxEntry), tx.inflight[k]? = some entry →
    1 ≤ tx.age k ∧ tx.age k ≤ 64
  behind : tx.age tx.remoteAck < 64 → ∀ (k : U32) (entry : TxEntry),
    tx.inflight[k]? = some entry → tx.age k ≤ tx.age tx.remoteAck

theorem reliableWindowFull_eq_false {tx : TxSessionState} :
    reliableWindowFull tx = false ↔ tx.age tx.remoteAck < 64 := by
  rw [reliableWindowFull, decide_eq_false_iff_not, ge_iff_le, BitVec.le_def]
  exact Nat.not_le

theorem StartsAt.windowBound {i : U32} {tx : TxSessionState} (h : StartsAt i tx) :
    WindowBound tx where
  bound := fun k entry hk => by simp [h.inflight] at hk
  behind := fun _ k entry hk => by simp [h.inflight] at hk

/-! ## One step -/

section Step

variable {tx tx' : TxSessionState}

/-- Nothing new in flight, and the same counters. -/
theorem WindowBound.shrink (h : WindowBound tx) (hnext : tx'.nextSeq = tx.nextSeq)
    (hack : tx'.remoteAck = tx.remoteAck)
    (hkeys : ∀ (k : U32) (entry' : TxEntry), tx'.inflight[k]? = some entry' →
      ∃ entry, tx.inflight[k]? = some entry) : WindowBound tx' where
  bound := fun k entry' hk => by
    obtain ⟨entry, hentry⟩ := hkeys k entry' hk
    rw [TxSessionState.age, hnext]
    exact h.bound k entry hentry
  behind := fun hopen k entry' hk => by
    obtain ⟨entry, hentry⟩ := hkeys k entry' hk
    rw [TxSessionState.age, TxSessionState.age, hnext, hack] at *
    exact h.behind hopen k entry hentry

/-- The slot of the next packet is free. -/
theorem WindowBound.next_free (h : WindowBound tx) : tx.inflight[tx.nextSeq]? = none := by
  cases hget : tx.inflight[tx.nextSeq]? with
  | none => rfl
  | some entry =>
    have := (h.bound _ entry hget).1
    rw [TxSessionState.age, BitVec.sub_self] at this
    simp at this

theorem age_succ {a k : U32} (h : (a - k).toNat < 64) : (a + 1 - k).toNat = (a - k).toNat + 1 := by
  rw [add_sub_right_comm, BitVec.toNat_add]
  simp only [BitVec.ofNat_eq_ofNat, BitVec.toNat_ofNat]
  omega

/-- A packet takes the next number while the window is open. -/
theorem WindowBound.numbered (h : WindowBound tx) (hopen : reliableWindowFull tx = false)
    (packet : OwnedPacket) (nowMs : U64) : WindowBound (sendNumbered tx packet nowMs) := by
  have hopen' := reliableWindowFull_eq_false.1 hopen
  have hremote := age_succ hopen'
  have hages : ∀ (k : U32) (entry : TxEntry),
      (sendNumbered tx packet nowMs).inflight[k]? = some entry →
      1 ≤ (tx.nextSeq + 1 - k).toNat ∧ (tx.nextSeq + 1 - k).toNat ≤ (tx.nextSeq + 1 - tx.remoteAck).toNat := by
    intro k entry hk
    rw [sendNumbered, SeqMap.getElem?_insertIfNew] at hk
    split_ifs at hk with hnew
    · obtain ⟨rfl, -⟩ := hnew
      rw [hremote, age_succ (by simp), BitVec.sub_self]
      simp
    · have hk' := h.behind hopen' k entry hk
      have := age_succ (Nat.lt_of_le_of_lt hk' hopen')
      rw [hremote, this]
      simp only [TxSessionState.age] at hk'
      omega
  simp only [TxSessionState.age] at hopen'
  refine ⟨fun k entry hk => ⟨(hages k entry hk).1, (hages k entry hk).2.trans ?_⟩,
    fun _ k entry hk => (hages k entry hk).2⟩
  rw [hremote]
  omega

/-- What survives an acknowledgement is not serially before it. -/
theorem not_seqLt_of_not_acknowledged {k ack : U32} {ackBits : U64}
    (h : isAcknowledgedByRemote k ack ackBits ≠ true) : (k - ack).toNat < 2 ^ 31 := by
  by_contra hge
  refine h ?_
  rw [isAcknowledgedByRemote, if_pos (seqLt_iff.2 (Nat.not_lt.1 hge))]

/-- **Any acknowledgement**, forged or stale or wrapped, keeps the window bound. -/
theorem WindowBound.acknowledges {ack : U32} {ackBits : U64} {result : TxAckResult}
    (h : WindowBound tx) (hack : Acknowledges ack ackBits tx tx' result) : WindowBound tx' := by
  have hnext : tx'.nextSeq = tx.nextSeq := by rw [hack.state]
  have hremote : tx'.remoteAck = ack := by rw [hack.state]
  refine ⟨fun k entry' hk => ?_, fun hopen k entry' hk => ?_⟩
  · obtain ⟨entry, hentry, -⟩ := hack.entries k entry' hk
    rw [TxSessionState.age, hnext]
    exact h.bound k entry hentry
  · obtain ⟨entry, hentry, -⟩ := hack.entries k entry' hk
    have hage := (h.bound k entry hentry).2
    have hsurvives : isAcknowledgedByRemote k ack ackBits ≠ true := fun hacked => by
      rw [(hack.keys k).2 (Or.inr hacked)] at hk
      cases hk
    have hahead := not_seqLt_of_not_acknowledged hsurvives
    -- From `ack` to `k` and on to `next_seq`: too short a way to wrap.
    have hsum : (tx.nextSeq - ack).toNat = (k - ack).toNat + (tx.nextSeq - k).toNat := by
      rw [← sub_add_sub_cancel' k ack tx.nextSeq, BitVec.toNat_add, Nat.mod_eq_of_lt]
      rw [TxSessionState.age] at hage
      omega
    rw [TxSessionState.age, TxSessionState.age, hnext, hremote, hsum]
    exact Nat.le_add_left _ _

/-- **Any poll** keeps the window bound. -/
theorem WindowBound.pollEffect {transport : TransportSettings} {nowMs : U64} {role : SessionRole}
    {connId : U32} {state : ConnectionState} {rx : RxSessionState} {result : TxPollResult}
    (h : WindowBound tx)
    (heffect : PollEffect transport nowMs role connId state rx tx result tx') :
    WindowBound tx' := by
  cases heffect with
  | idle => exact h
  | bare _ htx =>
    rw [htx]
    exact h.shrink rfl rfl fun k entry hk => ⟨entry, hk⟩
  | control _ hopen =>
    exact (h.numbered hopen _ _).shrink rfl rfl fun k entry hk => ⟨entry, hk⟩
  | unreliable _ _ => exact h.shrink rfl rfl fun k entry hk => ⟨entry, hk⟩
  | data _ _ hopen =>
    exact (h.numbered hopen _ _).shrink rfl rfl fun k entry hk => ⟨entry, hk⟩
  | retransmit hget _ _ =>
    refine h.shrink rfl rfl fun k entry hk => ?_
    rw [SeqMap.getElem?_insert] at hk
    split_ifs at hk with heq
    · exact ⟨_, heq ▸ hget⟩
    · exact ⟨entry, hk⟩
  | fatal _ _ =>
    refine h.shrink rfl rfl fun k entry hk => ?_
    rw [SeqMap.getElem?_erase] at hk
    split_ifs at hk
    exact ⟨entry, hk⟩

end Step

theorem WindowBound.step {transport : TransportSettings} {s : Sender} (h : WindowBound s.tx)
    (op : TxOp) : WindowBound (s.step transport op).tx := by
  cases op with
  | queue channelId channelType payload => exact h.shrink rfl rfl fun k entry hk => ⟨entry, hk⟩
  | poll nowMs role connId state rx => exact h.pollEffect poll_effect
  | remoteAck ack ackBits => exact h.acknowledges (onRemoteAck_acknowledges _ _ _ _)
  | schedule flags => exact h.shrink rfl rfl fun k entry hk => ⟨entry, hk⟩

/-! ## Every run -/

/-- At most 64 packets are unacknowledged. -/
theorem WindowBound.size_le {tx : TxSessionState} (h : WindowBound tx) : tx.inflight.size ≤ 64 := by
  have hinj : (tx.inflight.keys.map tx.age).Nodup := by
    refine (List.nodup_map_iff_inj_on Std.ExtTreeMap.nodup_keys).2 fun j _ k _ hjk => ?_
    have := BitVec.eq_of_toNat_eq hjk
    exact sub_right_injective this
  have hsub : tx.inflight.keys.map tx.age ⊆ (List.range 64).map (· + 1) := by
    intro age hage
    obtain ⟨k, hk, rfl⟩ := List.mem_map.1 hage
    rw [Std.ExtTreeMap.mem_keys, Std.ExtTreeMap.mem_iff_isSome_getElem?, Option.isSome_iff_exists] at hk
    obtain ⟨entry, hentry⟩ := hk
    obtain ⟨hlow, hhigh⟩ := h.bound k entry hentry
    exact List.mem_map.2 ⟨tx.age k - 1, List.mem_range.2 (by omega), by omega⟩
  have := (hinj.subperm hsub).length_le
  simpa [Std.ExtTreeMap.length_keys] using this

/-- A poll that numbers a packet finds its slot free, emits the packet and stores it. -/
def StoresNumbered (transport : TransportSettings) (tx : TxSessionState) : Prop :=
  ∀ (nowMs : U64) (role : SessionRole) (connId : U32) (state : ConnectionState)
    (rx : RxSessionState),
    let polled := TxHandler.poll transport nowMs role connId state rx tx
    polled.2.2.nextSeq ≠ tx.nextSeq →
      tx.inflight[tx.nextSeq]? = none ∧ ∃ packet : OwnedPacket,
        packet.header.seq = tx.nextSeq ∧
        polled.1.datagram = some (encode packet.header packet.payload) ∧
        polled.2.2.inflight[tx.nextSeq]? = some (newEntry packet nowMs)

theorem WindowBound.storesNumbered {transport : TransportSettings} {tx : TxSessionState}
    (h : WindowBound tx) : StoresNumbered transport tx := by
  intro nowMs role connId state rx polled hassigned
  have hstored : ∀ packet : OwnedPacket,
      (sendNumbered tx packet nowMs).inflight[tx.nextSeq]? = some (newEntry packet nowMs) := by
    intro packet
    rw [sendNumbered, SeqMap.getElem?_insertIfNew, if_pos ⟨rfl, h.next_free⟩]
  have heffect : PollEffect transport nowMs role connId state rx tx polled.1 polled.2.2 :=
    poll_effect
  refine ⟨h.next_free, ?_⟩
  generalize polled.1 = result, polled.2.2 = tx' at heffect hassigned
  cases heffect with
  | control _ _ => exact ⟨_, rfl, rfl, hstored _⟩
  | data _ _ _ => exact ⟨_, rfl, rfl, hstored _⟩
  | bare _ htx =>
    rw [htx] at hassigned
    exact absurd rfl hassigned
  | idle | unreliable | retransmit | fatal => exact absurd rfl hassigned

/-- **The send window holds against any peer.** Whatever is queued, however `poll` is called and
whatever the acknowledgements say, every packet in flight is one of the last 64 that were numbered,
so at most 64 are in flight, and a poll that numbers a packet stores it. -/
theorem senderWindow_holds (transport : TransportSettings) {i : U32} {tx : TxSessionState}
    (hstart : StartsAt i tx) (ops : List TxOp) :
    let s := Run.run (Sender.step transport) { tx } ops
    (∀ (k : U32) (entry : TxEntry), s.tx.inflight[k]? = some entry →
        1 ≤ (s.tx.nextSeq - k).toNat ∧ (s.tx.nextSeq - k).toNat ≤ 64) ∧
      s.tx.inflight.size ≤ 64 ∧ StoresNumbered transport s.tx := by
  have h : WindowBound (Run.run (Sender.step transport) { tx } ops).tx :=
    Run.invariant (fun s : Sender => WindowBound s.tx) (fun _ op hs => hs.step op)
      hstart.windowBound ops
  exact ⟨h.bound, h.size_le, h.storesNumbered⟩

/-- A sender that starts right before the wrap and has queued one packet. -/
theorem senderWindow_holds_at_wrap :
    let s := Run.run (Sender.step {}) { tx := { nextSeq := -1, remoteAck := -1 } }
      [.queue 1 .reliableOrdered [0x01], .poll 0 .server 7 .established {}, .remoteAck 5 3]
    (∀ (k : U32) (entry : TxEntry), s.tx.inflight[k]? = some entry →
        1 ≤ (s.tx.nextSeq - k).toNat ∧ (s.tx.nextSeq - k).toNat ≤ 64) ∧
      s.tx.inflight.size ≤ 64 ∧ StoresNumbered {} s.tx :=
  senderWindow_holds {} ⟨rfl, rfl, rfl, rfl⟩ _

end Rudp
