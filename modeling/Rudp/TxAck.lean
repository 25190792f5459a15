import Rudp.TxPoll

/-!
# What an acknowledgement does, entry by entry

`on_remote_ack` runs two loops over the in-flight map. The first walks it in the order of the raw
keys and erases what the peer has; the second walks the sequence numbers from `ack` to the highest
one the bitmap names, and collects evidence for those that are still in flight.

`RemoteAckSpec` describes the result with neither loop and no order of keys: which keys stay, which
of them gain evidence, and that nothing else about them changes. `onRemoteAck_spec` says that the
loops compute it, for every state and on every part of the sequence circle.
-/

namespace Rudp

open Serial Window TxHandler

/-! ## The specification -/

/-- One more report that later packets have arrived. -/
def TxEntry.addEvidence (threshold : U32) (entry : TxEntry) : TxEntry :=
  { entry with
    gapEvidenceCount := entry.gapEvidenceCount + 1
    fastRetxPending := entry.fastRetxPending || entry.gapEvidenceCount + 1 ≥ threshold }

/-- The peer has `k`: it is before `ack`, or the bitmap names it. -/
def PeerHas (ack : U32) (ackBits : U64) (k : U32) : Prop :=
  seqLt k ack = true ∨ 1 ≤ (k - ack).toNat ∧ (k - ack).toNat ≤ 64 ∧
    ackBits.getLsbD ((k - ack).toNat - 1) = true

/-- The last sequence number that the second loop visits. -/
def highestAckedSeq (ack : U32) (ackBits : U64) : U32 :=
  ack + (63 - BitVec.ofNat 32 ackBits.clz.toNat) + 1

/-- What `on_remote_ack` makes of the transmit state. -/
structure RemoteAckSpec (transport : TransportSettings) (ack : U32) (ackBits : U64)
    (tx tx' : TxSessionState) (result : TxAckResult) : Prop where
  state : tx' = { tx with remoteAck := ack, remoteAckBits := ackBits, inflight := tx'.inflight }
  /-- What the peer has leaves, and nothing else does. -/
  stays : ∀ k : U32, (tx'.inflight[k]?).isSome = true ↔
    (tx.inflight[k]?).isSome = true ∧ ¬ PeerHas ack ackBits k
  fin : result.acknowledgedFin = true ↔ ∃ (k : U32) (entry : TxEntry),
    tx.inflight[k]? = some entry ∧ tx'.inflight[k]? = none ∧
      entry.packet.header.hasFlag .fin = true
  /-- Without a bitmap no entry changes. -/
  unchanged : ackBits = 0 → ∀ (k : U32) (entry' : TxEntry), tx'.inflight[k]? = some entry' →
    tx.inflight[k]? = some entry'
  /-- Exactly the keys below the highest one named gain evidence. -/
  evidence : ∀ h, HighestBit ackBits h → ∀ (k : U32) (entry' : TxEntry),
    tx'.inflight[k]? = some entry' → ∃ entry, tx.inflight[k]? = some entry ∧
      entry' = if (k - ack).toNat ≤ h then
          entry.addEvidence transport.fastRetxEvidenceThreshold
        else entry
  /-- The second loop takes `n` steps: its test succeeds `n` times and then fails. -/
  ends : ackBits ≠ 0 → ∃ n ≤ 65,
    (∀ j < n, seqLe (ahead ack j) (highestAckedSeq ack ackBits) = true) ∧
      seqLe (ahead ack n) (highestAckedSeq ack ackBits) = false

/-! ## The first loop -/

theorem isAcknowledgedByRemote_iff {k ack : U32} {ackBits : U64} :
    isAcknowledgedByRemote k ack ackBits = true ↔ PeerHas ack ackBits k := by
  rw [isAcknowledgedByRemote, PeerHas]
  by_cases hlt : seqLt k ack = true
  · simp [hlt]
  · have hsmall : (k - ack).toNat < 2 ^ 31 := by
      rw [seqLt_iff] at hlt
      omega
    rw [if_neg hlt]
    by_cases hself : (k - ack).toNat = 0
    · have hgt : seqGt k ack = false := by
        rw [Bool.eq_false_iff, ne_eq, seqGt_iff]
        omega
      simp [hlt, hgt, hself]
    · have hgt : seqGt k ack = true := seqGt_iff.2 (by omega)
      have hne : k - ack ≠ 0 := by
        intro hzero
        exact hself (by rw [hzero]; rfl)
      simp only [hgt, hne, hlt, Bool.not_true, Bool.false_eq_true, if_false, false_or]
      by_cases hfar : k - ack > kAckBitsWindow
      · rw [if_pos hfar]
        have : 64 < (k - ack).toNat := hfar
        simp only [Bool.false_eq_true, false_iff]
        omega
      · rw [if_neg hfar, decide_eq_true_eq]
        have hnear : (k - ack).toNat ≤ 64 := Nat.not_lt.1 hfar
        have hone : (1 : U32) ≤ k - ack := by
          rw [BitVec.le_def]
          exact Nat.one_le_iff_ne_zero.2 hself
        have hindex : (k - ack - 1).toNat = (k - ack).toNat - 1 := by
          rw [BitVec.toNat_sub_of_le hone]
          rfl
        have hbit : (k - ack).toNat - 1 < 64 := by omega
        rw [hindex]
        refine (and_bit_ne_zero_iff ackBits hbit).trans ⟨fun h => ⟨by omega, hnear, h⟩, ?_⟩
        rintro ⟨-, -, h⟩
        exact h

/-! ## The second loop -/

section Loop

variable {threshold ack : U32} {ackBits : U64}

theorem markGap_getElem? (seq k : U32) (m : SeqMap TxEntry) :
    (markGap threshold ack ackBits seq m)[k]? =
      if k = seq ∧ isAcknowledgedByRemote k ack ackBits = false then
        m[k]?.map (TxEntry.addEvidence threshold)
      else m[k]? := by
  rw [markGap]
  by_cases hack : isAcknowledgedByRemote seq ack ackBits = true
  · rw [if_pos hack, if_neg]
    rintro ⟨rfl, hnot⟩
    rw [hack] at hnot
    cases hnot
  · rw [if_neg hack]
    by_cases hk : k = seq
    · subst hk
      rw [if_pos ⟨rfl, Bool.eq_false_iff.2 hack⟩]
      cases hget : m[k]? with
      | none => simp [hget]
      | some entry =>
        simp only [SeqMap.getElem?_insert, if_true, Option.map_some]
        rfl
    · rw [if_neg fun h => hk h.1]
      cases hget : m[seq]? with
      | none => rfl
      | some entry => rw [SeqMap.getElem?_insert, if_neg (Ne.symm hk)]

/-- The test succeeds up to the last number, and fails behind it. -/
theorem seqLe_ahead_iff {seq : U32} {j n : ℕ} (hj : j ≤ n + 1) (hn : n < 2 ^ 31) :
    seqLe (ahead seq j) (ahead seq n) = true ↔ j ≤ n := by
  rw [seqLe, decide_eq_true_eq]
  rcases Nat.lt_or_ge n j with hlast | hle
  · obtain rfl : j = n + 1 := by omega
    rw [ahead_succ, BitVec.add_comm, BitVec.add_sub_cancel]
    simp
  · have hneg : (ahead seq j - ahead seq n).toInt < 0 ∨ ahead seq j = ahead seq n := by
      rcases Nat.lt_or_eq_of_le hle with hlt' | rfl
      · exact Or.inl ((toInt_ahead_sub_neg_iff (by omega) (by omega)).2 hlt')
      · exact Or.inr rfl
    rcases hneg with hneg | heq
    · exact ⟨fun _ => hle, fun _ => hneg.le⟩
    · rw [heq, BitVec.sub_self]
      simp [hle]

/-- **The loop marks an interval.** From `seq` on, it visits the next `n + 1` numbers, and every one
that the peer does not have gains evidence. -/
theorem markLoop_getElem? {n fuel : ℕ} (hfuel : n < fuel) (hn : n < 2 ^ 31) (seq k : U32)
    (m : SeqMap TxEntry) :
    (markLoop threshold ack ackBits (ahead seq n) fuel seq m)[k]? =
      if (k - seq).toNat ≤ n ∧ isAcknowledgedByRemote k ack ackBits = false then
        m[k]?.map (TxEntry.addEvidence threshold)
      else m[k]? := by
  induction n generalizing seq m fuel with
  | zero =>
    obtain ⟨fuel, rfl⟩ : ∃ f, fuel = f + 1 := ⟨fuel - 1, by omega⟩
    have hfirst : seqLe seq (ahead seq 0) = true := by
      simpa using (@seqLe_ahead_iff seq 0 0 (by omega) (by omega)).2 le_rfl
    have hnext : seqLe (seq + 1) (ahead seq 0) = false := by
      rw [Bool.eq_false_iff, ← ahead_zero seq, ← ahead_succ, ahead_zero]
      rw [ne_eq, seqLe_ahead_iff (by omega) (by omega)]
      omega
    have hself : (k - seq).toNat ≤ 0 ↔ k = seq := by
      rw [Nat.le_zero]
      refine ⟨fun h => ?_, fun h => by rw [h, BitVec.sub_self]; rfl⟩
      rw [← ahead_toNat_sub seq k, h, ahead_zero]
    rw [markLoop, if_pos hfirst]
    have hstop : ∀ m, markLoop threshold ack ackBits (ahead seq 0) fuel (seq + 1) m = m := by
      intro m
      cases fuel with
      | zero => rfl
      | succ fuel => rw [markLoop, hnext]; rfl
    rw [hstop, markGap_getElem?]
    simp only [hself]
  | succ n ih =>
    obtain ⟨fuel, rfl⟩ : ∃ f, fuel = f + 1 := ⟨fuel - 1, by omega⟩
    have hfirst : seqLe seq (ahead seq (n + 1)) = true := by
      simpa using (@seqLe_ahead_iff seq 0 (n + 1) (by omega) (by omega)).2 (by omega)
    have hshift : ahead seq (n + 1) = ahead (seq + 1) n := by
      rw [Nat.add_comm, ahead_add]
      rfl
    rw [markLoop, if_pos hfirst, hshift, ih (by omega) (by omega), markGap_getElem?]
    by_cases hk : k = seq
    · subst hk
      have hfar : ¬ (k - (k + 1)).toNat ≤ n := by
        have hwrap := @toNat_ahead_sub_ahead_of_lt 32 k 1 0 (by omega) (by omega)
        rw [ahead_zero] at hwrap
        rw [show k + 1 = ahead k 1 from rfl, hwrap]
        omega
      rw [if_neg fun h => hfar h.1, BitVec.sub_self]
      simp
    · have hpos : (k - seq).toNat ≠ 0 := by
        intro hzero
        exact hk (by rw [← ahead_toNat_sub seq k, hzero, ahead_zero])
      have hdist : (k - (seq + 1)).toNat = (k - seq).toNat - 1 := by
        have hback := @toNat_ahead_sub_ahead 32 seq 1 (k - seq).toNat (by omega)
          (lt_of_le_of_lt (Nat.sub_le _ _) (k - seq).isLt)
        rw [ahead_toNat_sub] at hback
        exact hback
      have hiff : (k - (seq + 1)).toNat ≤ n ↔ (k - seq).toNat ≤ n + 1 := by
        rw [hdist]
        omega
      simp only [hk, false_and, if_false, hiff]

end Loop

theorem highestAckedSeq_eq (ack : U32) {ackBits : U64} (hne : ackBits ≠ 0) :
    highestAckedSeq ack ackBits = ahead ack (63 - ackBits.clz.toNat + 1) := by
  have hclz : ackBits.clz.toNat < 64 := by
    have := BitVec.clz_lt_iff_ne_zero.2 hne
    rw [BitVec.lt_def] at this
    exact this
  have hsub : (63 : U32) - BitVec.ofNat 32 ackBits.clz.toNat =
      BitVec.ofNat 32 (63 - ackBits.clz.toNat) := by
    refine BitVec.eq_of_toNat_eq ?_
    simp only [BitVec.ofNat_eq_ofNat, BitVec.toNat_sub, BitVec.toNat_ofNat]
    omega
  rw [highestAckedSeq, hsub, ahead_succ]
  rfl

/-- **What is in flight after an acknowledgement.** -/
theorem onRemoteAck_getElem? (transport : TransportSettings) (ack : U32) (ackBits : U64)
    (tx : TxSessionState) (k : U32) :
    (onRemoteAck transport ack ackBits tx).2.inflight[k]? =
      if isAcknowledgedByRemote k ack ackBits = true then none
      else if ackBits ≠ 0 ∧ (k - ack).toNat ≤ 63 - ackBits.clz.toNat then
        tx.inflight[k]?.map (TxEntry.addEvidence transport.fastRetxEvidenceThreshold)
      else tx.inflight[k]? := by
  have herased := eraseIfAcknowledged_inflight ack ackBits tx.inflight {} k
  simp only [onRemoteAck, eraseAcknowledgedInflight, markGapFastRetransmitCandidates]
  by_cases hzero : ackBits = 0
  · rw [if_pos hzero, herased]
    simp only [hzero, ne_eq, not_true_eq_false, false_and, if_false]
  · have hclz : ackBits.clz.toNat < 64 := by
      have := BitVec.clz_lt_iff_ne_zero.2 hzero
      rw [BitVec.lt_def] at this
      exact this
    rw [if_neg hzero]
    have hhighest := highestAckedSeq_eq ack hzero
    rw [highestAckedSeq] at hhighest
    simp only
    rw [hhighest, markLoop_getElem? (by omega) (by omega), herased]
    by_cases hack : isAcknowledgedByRemote k ack ackBits = true
    · simp [hack]
    · -- The last number visited is one that the peer has.
      have hlast : (k - ack).toNat ≠ 63 - ackBits.clz.toNat + 1 := by
        intro heq
        refine hack (isAcknowledgedByRemote_iff.2 (Or.inr ⟨by omega, by omega, ?_⟩))
        rw [heq, Nat.add_sub_cancel]
        exact (highestBit_clz hzero).set
      have hiff : (k - ack).toNat ≤ 63 - ackBits.clz.toNat + 1 ↔
          (k - ack).toNat ≤ 63 - ackBits.clz.toNat := by omega
      simp only [Bool.eq_false_iff.2 hack, hiff, hzero, ne_eq, not_false_eq_true, true_and,
        Bool.false_eq_true, if_false, and_true]

/-- **`on_remote_ack` meets its specification**, for every state and every acknowledgement. -/
theorem onRemoteAck_spec (transport : TransportSettings) (ack : U32) (ackBits : U64)
    (tx : TxSessionState) :
    RemoteAckSpec transport ack ackBits tx (onRemoteAck transport ack ackBits tx).2
      (onRemoteAck transport ack ackBits tx).1 := by
  have hacks := onRemoteAck_acknowledges transport ack ackBits tx
  have hget := onRemoteAck_getElem? transport ack ackBits tx
  refine ⟨hacks.state, ?_, ?_, ?_, ?_, ?_⟩
  · intro k
    rw [← isAcknowledgedByRemote_iff, Option.isSome_iff_ne_none, Option.isSome_iff_ne_none, ne_eq,
      ne_eq, hacks.keys, not_or]
  · rw [hacks.fin]
    refine exists_congr fun k => exists_congr fun entry => and_congr_right fun hentry => ?_
    refine and_congr_left fun _ => ?_
    rw [hacks.keys, hentry]
    simp
  · intro hzero k entry' hentry'
    rw [hget] at hentry'
    split_ifs at hentry' with hack hmark
    · exact absurd hzero hmark.1
    · exact hentry'
  · intro h hbit k entry' hentry'
    obtain rfl := hbit.unique (highestBit_clz hbit.ne_zero)
    rw [hget] at hentry'
    split_ifs at hentry' with hack hmark
    · obtain ⟨entry, hentry, rfl⟩ := Option.map_eq_some_iff.1 hentry'
      exact ⟨entry, hentry, (if_pos hmark.2).symm⟩
    · exact ⟨entry', hentry', (if_neg fun hnear => hmark ⟨hbit.ne_zero, hnear⟩).symm⟩
  · intro hne
    rw [highestAckedSeq_eq ack hne]
    refine ⟨63 - ackBits.clz.toNat + 2, by omega, ?_, ?_⟩
    · intro j hj
      exact (seqLe_ahead_iff (by omega) (by omega)).2 (by omega)
    · rw [Bool.eq_false_iff, ne_eq, seqLe_ahead_iff (by omega) (by omega)]
      omega

end Rudp
