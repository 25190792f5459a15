import Rudp.TxHandler
import Rudp.Lib.Run

/-!
# What the transmit handler does

The two inversions every result about the sender rests on. `onRemoteAck_acknowledges` says what
an acknowledgement does to the in-flight map; `poll_effect` says what one `poll` can do, with the
guards it went through. After this module nobody unfolds a builder again.
-/

namespace Rudp

open Serial Window TxHandler

/-! ## Acknowledgement -/

theorem eraseIfAcknowledged_foldl (ack : U32) (ackBits : U64) (items : List (U32 × TxEntry))
    (acc : SeqMap TxEntry × TxAckResult) (k : U32) :
    (items.foldl (eraseIfAcknowledged ack ackBits) acc).1[k]? =
      if isAcknowledgedByRemote k ack ackBits = true ∧ k ∈ items.map Prod.fst then none
      else acc.1[k]? := by
  induction items generalizing acc with
  | nil => simp
  | cons item items ih =>
    rw [List.foldl_cons, ih, eraseIfAcknowledged, List.map_cons]
    by_cases hk : item.1 = k
    · subst hk
      by_cases hack : isAcknowledgedByRemote item.1 ack ackBits = true <;> simp [hack]
    · have hmem : k ∈ item.1 :: items.map Prod.fst ↔ k ∈ items.map Prod.fst := by
        simp [Ne.symm hk]
      refine if_congr (and_congr_right fun _ => hmem.symm) rfl ?_
      by_cases hack : isAcknowledgedByRemote item.1 ack ackBits = true
      · simp [hack, SeqMap.getElem?_erase, hk]
      · simp [hack]

theorem eraseIfAcknowledged_foldl_fin (ack : U32) (ackBits : U64) (items : List (U32 × TxEntry))
    (acc : SeqMap TxEntry × TxAckResult) :
    (items.foldl (eraseIfAcknowledged ack ackBits) acc).2.acknowledgedFin = true ↔
      acc.2.acknowledgedFin = true ∨ ∃ item ∈ items,
        isAcknowledgedByRemote item.1 ack ackBits = true ∧
          item.2.packet.header.hasFlag .fin = true := by
  induction items generalizing acc with
  | nil => simp
  | cons item items ih =>
    rw [List.foldl_cons, ih, eraseIfAcknowledged]
    by_cases hack : isAcknowledgedByRemote item.1 ack ackBits = true
    · by_cases hfin : item.2.packet.header.hasFlag .fin = true
      · simp [hack, hfin]
      · simp [hack, hfin]
    · simp [hack]

/-- `m'` has the entries of `m`, up to the evidence collected for fast retransmission. -/
structure SameButEvidence (m m' : SeqMap TxEntry) : Prop where
  keys : ∀ k : U32, m'[k]? = none ↔ m[k]? = none
  entries : ∀ (k : U32) (entry' : TxEntry), m'[k]? = some entry' → ∃ entry, m[k]? = some entry ∧
    entry'.packet = entry.packet ∧ entry'.retryCount = entry.retryCount

theorem SameButEvidence.refl (m : SeqMap TxEntry) : SameButEvidence m m where
  keys := fun _ => Iff.rfl
  entries := fun _ entry' h => ⟨entry', h, rfl, rfl⟩

theorem SameButEvidence.trans {m₁ m₂ m₃ : SeqMap TxEntry} (h : SameButEvidence m₁ m₂)
    (h' : SameButEvidence m₂ m₃) : SameButEvidence m₁ m₃ where
  keys := fun k => (h'.keys k).trans (h.keys k)
  entries := fun k entry₃ h₃ => by
    obtain ⟨entry₂, h₂, hpacket, hretry⟩ := h'.entries k entry₃ h₃
    obtain ⟨entry₁, h₁, hpacket', hretry'⟩ := h.entries k entry₂ h₂
    exact ⟨entry₁, h₁, hpacket.trans hpacket', hretry.trans hretry'⟩

theorem markGap_sameButEvidence (threshold ack : U32) (ackBits : U64) (seq : U32)
    (m : SeqMap TxEntry) : SameButEvidence m (markGap threshold ack ackBits seq m) := by
  rw [markGap]
  split_ifs
  · exact .refl m
  · cases hget : m[seq]? with
    | none => exact .refl m
    | some entry =>
      refine ⟨fun k => ?_, fun k entry' hk => ?_⟩
      · rw [SeqMap.getElem?_insert]
        split_ifs with heq
        · rw [← heq, hget]
          simp
        · rfl
      · rw [SeqMap.getElem?_insert] at hk
        split_ifs at hk with heq
        · obtain rfl := Option.some.inj hk
          exact ⟨entry, heq ▸ hget, rfl, rfl⟩
        · exact ⟨entry', hk, rfl, rfl⟩

theorem markLoop_sameButEvidence (threshold ack : U32) (ackBits : U64) (highest : U32) (fuel : ℕ)
    (seq : U32) (m : SeqMap TxEntry) :
    SameButEvidence m (markLoop threshold ack ackBits highest fuel seq m) := by
  induction fuel generalizing seq m with
  | zero => exact .refl m
  | succ fuel ih =>
    rw [markLoop]
    split_ifs
    · exact (markGap_sameButEvidence threshold ack ackBits seq m).trans (ih _ _)
    · exact .refl m

/-- The loop ends within its bound: more fuel does not change the result. -/
theorem markLoop_of_le (threshold ack : U32) (ackBits : U64) (highest : U32) {fuel : ℕ}
    {seq : U32} (hfuel : (highest - seq).toNat < fuel) (extra : ℕ) (m : SeqMap TxEntry) :
    markLoop threshold ack ackBits highest (fuel + extra) seq m =
      markLoop threshold ack ackBits highest fuel seq m := by
  induction fuel generalizing seq m with
  | zero => omega
  | succ fuel ih =>
    rw [Nat.add_right_comm, markLoop, markLoop]
    split_ifs
    · by_cases hlast : seq = highest
      · -- The number after the last one fails the test.
        subst hlast
        have hstop : ∀ (f : ℕ) (m : SeqMap TxEntry),
            markLoop threshold ack ackBits seq f (seq + 1) m = m := by
          intro f m
          cases f with
          | zero => rfl
          | succ f =>
            have hle : seqLe (seq + 1) seq = false := by
              rw [seqLe, BitVec.add_comm, BitVec.add_sub_cancel]
              decide
            rw [markLoop, hle]
            rfl
        rw [hstop, hstop]
      · refine ih ?_ _
        have hne : (highest - seq).toNat ≠ 0 := fun h0 => hlast
          (by rw [← ahead_toNat_sub seq highest, h0, ahead_zero])
        have hsub : highest - (seq + 1) = highest - seq - 1 := by
          rw [BitVec.sub_sub]
        have hnext : (highest - (seq + 1)).toNat = (highest - seq).toNat - 1 := by
          have hone : (1 : U32) ≤ highest - seq := by
            rw [BitVec.le_def]
            exact Nat.one_le_iff_ne_zero.2 hne
          rw [hsub, BitVec.toNat_sub_of_le hone]
          rfl
        omega
    · rfl

/-- The bound the model uses is enough: the last number visited is at most 64 ahead of `ack`. -/
theorem highestAckedSeq_sub_lt (ack : U32) {ackBits : U64} (hne : ackBits ≠ 0) :
    (ack + (63 - BitVec.ofNat 32 ackBits.clz.toNat) + 1 - ack).toNat < 65 := by
  have hclz : ackBits.clz.toNat < 64 := by
    have := BitVec.clz_lt_iff_ne_zero.2 hne
    rw [BitVec.lt_def] at this
    exact this
  have hsub : ack + (63 - BitVec.ofNat 32 ackBits.clz.toNat) + 1 - ack =
      63 - BitVec.ofNat 32 ackBits.clz.toNat + 1 := by
    rw [BitVec.add_assoc, BitVec.add_comm, BitVec.add_sub_cancel]
  rw [hsub]
  generalize ackBits.clz.toNat = c at hclz
  simp only [BitVec.ofNat_eq_ofNat, BitVec.toNat_add, BitVec.toNat_sub, BitVec.toNat_ofNat]
  omega

/-- **The loop ends.** With more fuel than the model gives it, it does nothing more. -/
theorem markLoop_ends (threshold ack : U32) {ackBits : U64} (hne : ackBits ≠ 0) (extra : ℕ)
    (m : SeqMap TxEntry) :
    markLoop threshold ack ackBits (ack + (63 - BitVec.ofNat 32 ackBits.clz.toNat) + 1)
        (65 + extra) ack m =
      markLoop threshold ack ackBits (ack + (63 - BitVec.ofNat 32 ackBits.clz.toNat) + 1) 65 ack
        m :=
  markLoop_of_le threshold ack ackBits _ (highestAckedSeq_sub_lt ack hne) extra m

/-- What `on_remote_ack` does: acknowledged packets leave the map, all others stay. -/
structure Acknowledges (ack : U32) (ackBits : U64) (tx tx' : TxSessionState)
    (result : TxAckResult) : Prop where
  state : tx' = { tx with remoteAck := ack, remoteAckBits := ackBits, inflight := tx'.inflight }
  keys : ∀ k : U32, tx'.inflight[k]? = none ↔
    tx.inflight[k]? = none ∨ isAcknowledgedByRemote k ack ackBits = true
  entries : ∀ (k : U32) (entry' : TxEntry), tx'.inflight[k]? = some entry' →
    ∃ entry, tx.inflight[k]? = some entry ∧ entry'.packet = entry.packet ∧
      entry'.retryCount = entry.retryCount
  fin : result.acknowledgedFin = true ↔ ∃ (k : U32) (entry : TxEntry),
    tx.inflight[k]? = some entry ∧ isAcknowledgedByRemote k ack ackBits = true ∧
      entry.packet.header.hasFlag .fin = true

/-- The first loop takes out what is acknowledged. -/
theorem eraseIfAcknowledged_inflight (ack : U32) (ackBits : U64) (m : SeqMap TxEntry)
    (result : TxAckResult) (k : U32) :
    (m.toList.foldl (eraseIfAcknowledged ack ackBits) (m, result)).1[k]? =
      if isAcknowledgedByRemote k ack ackBits = true then none else m[k]? := by
  rw [eraseIfAcknowledged_foldl]
  by_cases hack : isAcknowledgedByRemote k ack ackBits = true
  · rw [if_pos hack]
    split_ifs with hin
    · rfl
    · -- Not listed means not in the map.
      cases hk : m[k]? with
      | none => rfl
      | some entry =>
        exact absurd ⟨hack, List.mem_map_of_mem
          (Std.ExtTreeMap.mem_toList_iff_getElem?_eq_some.2 hk)⟩ hin
  · rw [if_neg hack, if_neg fun h => hack h.1]

/-- **Acknowledgement.** -/
theorem onRemoteAck_acknowledges (transport : TransportSettings) (ack : U32) (ackBits : U64)
    (tx : TxSessionState) :
    Acknowledges ack ackBits tx (onRemoteAck transport ack ackBits tx).2
      (onRemoteAck transport ack ackBits tx).1 := by
  have hmem : ∀ (k : U32) (entry : TxEntry), (k, entry) ∈ tx.inflight.toList ↔
      tx.inflight[k]? = some entry := fun _ _ => Std.ExtTreeMap.mem_toList_iff_getElem?_eq_some
  have hget := eraseIfAcknowledged_inflight ack ackBits tx.inflight {}
  set erased := tx.inflight.toList.foldl (eraseIfAcknowledged ack ackBits) (tx.inflight, {})
    with herased
  have hstate : ∃ m', SameButEvidence erased.1 m' ∧ (onRemoteAck transport ack ackBits tx).2 =
      { tx with remoteAck := ack, remoteAckBits := ackBits, inflight := m' } := by
    simp only [onRemoteAck, eraseAcknowledgedInflight, markGapFastRetransmitCandidates]
    split_ifs
    · exact ⟨_, .refl _, rfl⟩
    · exact ⟨_, markLoop_sameButEvidence _ _ _ _ _ _ _, rfl⟩
  obtain ⟨m', hsame, hstate⟩ := hstate
  have hkeys : ∀ k : U32, m'[k]? = none ↔
      tx.inflight[k]? = none ∨ isAcknowledgedByRemote k ack ackBits = true := by
    intro k
    rw [hsame.keys, hget]
    by_cases hack : isAcknowledgedByRemote k ack ackBits = true <;> simp [hack]
  refine ⟨by rw [hstate], by rw [hstate]; exact hkeys, fun k entry' hk => ?_, ?_⟩
  · rw [hstate] at hk
    obtain ⟨entry, hentry, hpacket, hretry⟩ := hsame.entries k entry' hk
    rw [hget] at hentry
    split_ifs at hentry
    exact ⟨entry, hentry, hpacket, hretry⟩
  · show erased.2.acknowledgedFin = true ↔ _
    rw [herased, eraseIfAcknowledged_foldl_fin]
    simp [hmem]

/-! ## Polling -/

/-- A control frame. -/
def controlPacket (connId : U32) (flags : Flags) (rx : RxSessionState) (seq : U32) : OwnedPacket :=
  { header :=
      { connId, channelType := .unreliable, flags, ack := rx.nextExpected
        ackBits := rx.receivedBits, seq }
    payload := [] }

/-- The packet of a request. -/
def requestPacket (request : SendRequest) (connId : U32) (rx : RxSessionState) (seq : U32) :
    OwnedPacket :=
  { header :=
      { connId, channelId := request.channelId, channelType := request.channelType
        ack := rx.nextExpected, ackBits := rx.receivedBits, seq }
    payload := request.payload }

/-- The state after a packet took the next sequence number. -/
def sendNumbered (tx : TxSessionState) (packet : OwnedPacket) (nowMs : U64) : TxSessionState :=
  { tx with
    nextSeq := tx.nextSeq + 1
    inflight := tx.inflight.insertIfNew tx.nextSeq (newEntry packet nowMs) }

/-- Why `poll` sends a control frame that takes a sequence number, and what it leaves of the
two pending flags for SYN-ACK and FIN. -/
inductive ControlCause (role : SessionRole) (state : ConnectionState) (tx : TxSessionState) :
    Flags → Bool → Bool → Prop where
  | syn (hrole : role = .client) (hstate : state = .closed) :
      ControlCause role state tx Flag.syn.toFlags tx.synAckPending tx.finPending
  | synAck (hpending : tx.synAckPending = true) (hstate : state = .handshakeReceived) :
      ControlCause role state tx (Flag.syn.toFlags ||| Flag.ack.toFlags) false tx.finPending
  | fin (hpending : tx.finPending = true) (hstate : state = .closing) :
      ControlCause role state tx Flag.fin.toFlags tx.synAckPending false

section Poll

variable (transport : TransportSettings) (nowMs : U64) (role : SessionRole) (connId : U32)
  (state : ConnectionState) (rx : RxSessionState) (tx : TxSessionState)

/-- Everything one `poll` can do: the result it returns and the state it leaves. -/
inductive PollEffect : TxPollResult → TxSessionState → Prop where
  | idle : PollEffect {} tx
  | bare {flags : Flags} {tx' : TxSessionState}
      (hflags : flags = Flag.ack.toFlags ∨ flags = Flag.ping.toFlags ∨ flags = Flag.pong.toFlags)
      (htx : tx' = { tx with
        finalAckPending := tx'.finalAckPending
        finalAckLingerUntilMs := tx'.finalAckLingerUntilMs
        ackOnlyPending := tx'.ackOnlyPending
        probe := tx'.probe }) :
      PollEffect (makePollResult (some (encode (controlPacket connId flags rx 0).header []))) tx'
  | control {flags : Flags} {synAckPending finPending : Bool}
      (hcause : ControlCause role state tx flags synAckPending finPending)
      (hopen : reliableWindowFull tx = false) :
      PollEffect
        (makePollResult (some (encode (controlPacket connId flags rx tx.nextSeq).header [])))
        { sendNumbered tx (controlPacket connId flags rx tx.nextSeq) nowMs with
          synAckPending, finPending }
  | unreliable {request : SendRequest} {rest : List SendRequest}
      (hpending : tx.pendingSend = request :: rest)
      (hchannel : isReliableChannel request.channelType = false) :
      PollEffect
        (makePollResult (some (encode (requestPacket request connId rx 0).header request.payload)))
        { tx with pendingSend := rest }
  | data {request : SendRequest} {rest : List SendRequest}
      (hpending : tx.pendingSend = request :: rest)
      (hchannel : isReliableChannel request.channelType = true)
      (hopen : reliableWindowFull tx = false) :
      PollEffect
        (makePollResult
          (some (encode (requestPacket request connId rx tx.nextSeq).header request.payload)))
        { sendNumbered tx (requestPacket request connId rx tx.nextSeq) nowMs with
          pendingSend := rest }
  | retransmit {seq : U32} {entry : TxEntry} (hget : tx.inflight[seq]? = some entry)
      (hretry : entry.retryCount < transport.maxRetransmitCount)
      (hdue : entry.fastRetxPending = true ∨
        nowMs ≥ entry.lastSendMs + retransmitTimeoutFor transport entry.retryCount) :
      PollEffect
        (makePollResult (some (encode (refresh rx entry.packet).header entry.packet.payload)) true)
        { tx with
          inflight := tx.inflight.insert seq
            { entry with
              packet := refresh rx entry.packet
              lastSendMs := nowMs
              retryCount := entry.retryCount + 1
              gapEvidenceCount := 0
              fastRetxPending := false } }
  | fatal {seq : U32} {entry : TxEntry} (hget : tx.inflight[seq]? = some entry)
      (hretry : transport.maxRetransmitCount ≤ entry.retryCount) :
      PollEffect
        { fatalError := true, errorMessage := "retransmission retry limit exceeded" }
        { tx with inflight := tx.inflight.erase seq }

/-- What a builder may return: nothing, or a datagram that `poll` passes on. -/
def Builds (bytes : Option Bytes) (tx' : TxSessionState) : Prop :=
  bytes = none ∧ tx' = tx ∨ bytes.isSome = true ∧
    PollEffect transport nowMs role connId state rx tx (makePollResult bytes) tx'

variable {transport nowMs role connId state rx tx}

theorem Builds.of_none {tx' : TxSessionState}
    (h : Builds transport nowMs role connId state rx tx none tx') : tx' = tx :=
  (h.resolve_right fun hsome => nomatch hsome.1).2

theorem Builds.of_some {bytes : Bytes} {tx' : TxSessionState}
    (h : Builds transport nowMs role connId state rx tx (some bytes) tx') :
    PollEffect transport nowMs role connId state rx tx (makePollResult (some bytes)) tx' :=
  (h.resolve_left fun hnone => nomatch hnone.1).2

theorem buildControlPacket_of_numbered {flags : Flags} (hflags : consumesReliableSeq flags = true) :
    buildControlPacket nowMs connId flags rx tx =
      if reliableWindowFull tx then (none, tx)
      else (some (encode (controlPacket connId flags rx tx.nextSeq).header []),
        sendNumbered tx (controlPacket connId flags rx tx.nextSeq) nowMs) := by
  simp only [buildControlPacket, hflags, Bool.true_and, Bool.not_true]
  rfl

theorem buildControlPacket_of_bare {flags : Flags} (hflags : consumesReliableSeq flags = false) :
    buildControlPacket nowMs connId flags rx tx =
      (some (encode (controlPacket connId flags rx 0).header []), tx) := by
  simp only [buildControlPacket, hflags, Bool.false_and, Bool.not_false]
  rfl

/-- The handshake builder: it has nothing to send and changes nothing, or it sends one frame. -/
theorem tryBuildHandshake_builds {bytes : Option Bytes} {state' : ConnectionState}
    {tx' : TxSessionState}
    (h : tryBuildHandshake transport nowMs role connId state rx tx = (bytes, state', tx')) :
    Builds transport nowMs role connId state rx tx bytes tx' := by
  simp only [tryBuildHandshake] at h
  rw [buildControlPacket_of_numbered (by decide : consumesReliableSeq Flag.syn.toFlags = true),
    buildControlPacket_of_numbered
      (by decide : consumesReliableSeq (Flag.syn.toFlags ||| Flag.ack.toFlags) = true),
    buildControlPacket_of_bare (by decide : consumesReliableSeq Flag.ack.toFlags = false),
    buildControlPacket_of_numbered (by decide : consumesReliableSeq Flag.fin.toFlags = true)] at h
  cases hwindow : reliableWindowFull tx with
  | true =>
    simp only [hwindow, if_true] at h
    split_ifs at h with hsyn hsynAck hack hfin
    · obtain ⟨rfl, rfl, rfl⟩ := h
      exact Or.inl ⟨rfl, rfl⟩
    · obtain ⟨rfl, rfl, rfl⟩ := h
      exact Or.inl ⟨rfl, rfl⟩
    · obtain ⟨rfl, rfl, rfl⟩ := h
      exact Or.inr ⟨rfl, .bare (Or.inl rfl) rfl⟩
    · obtain ⟨rfl, rfl, rfl⟩ := h
      exact Or.inl ⟨rfl, rfl⟩
    · obtain ⟨rfl, rfl, rfl⟩ := h
      exact Or.inl ⟨rfl, rfl⟩
  | false =>
    simp only [hwindow, Bool.false_eq_true, if_false] at h
    split_ifs at h with hsyn hsynAck hack hfin
    · obtain ⟨rfl, rfl, rfl⟩ := h
      exact Or.inr ⟨rfl, PollEffect.control (.syn hsyn.1 hsyn.2) hwindow⟩
    · obtain ⟨rfl, rfl, rfl⟩ := h
      exact Or.inr ⟨rfl, PollEffect.control (.synAck hsynAck.1 hsynAck.2) hwindow⟩
    · obtain ⟨rfl, rfl, rfl⟩ := h
      exact Or.inr ⟨rfl, .bare (Or.inl rfl) rfl⟩
    · obtain ⟨rfl, rfl, rfl⟩ := h
      exact Or.inr ⟨rfl, PollEffect.control (.fin hfin.1 hfin.2) hwindow⟩
    · obtain ⟨rfl, rfl, rfl⟩ := h
      exact Or.inl ⟨rfl, rfl⟩

/-- The retransmission scan stops at the first entry that is exhausted or due. -/
theorem retransmitLoop_effect (items : List (U32 × TxEntry))
    (hitems : ∀ item ∈ items, tx.inflight[item.1]? = some item.2) :
    retransmitLoop transport nowMs rx tx items = ({}, tx) ∨
      ((retransmitLoop transport nowMs rx tx items).1.fatalError ||
        (retransmitLoop transport nowMs rx tx items).1.datagram.isSome) = true ∧
      PollEffect transport nowMs role connId state rx tx
        (retransmitLoop transport nowMs rx tx items).1
        (retransmitLoop transport nowMs rx tx items).2 := by
  induction items with
  | nil => exact Or.inl rfl
  | cons item items ih =>
    obtain ⟨seq, entry⟩ := item
    have hget : tx.inflight[seq]? = some entry := hitems _ List.mem_cons_self
    rw [retransmitLoop]
    by_cases hretry : entry.retryCount ≥ transport.maxRetransmitCount
    · rw [if_pos hretry]
      exact Or.inr ⟨rfl, .fatal hget hretry⟩
    · rw [if_neg hretry]
      simp only
      split_ifs with hwait
      · exact ih fun item hitem => hitems item (List.mem_cons_of_mem _ hitem)
      · refine Or.inr ⟨rfl, .retransmit hget (BitVec.not_le.1 hretry) ?_⟩
        simpa [or_iff_not_imp_left] using hwait

theorem tryBuildRetransmit_effect :
    tryBuildRetransmit transport nowMs rx tx = ({}, tx) ∨
      ((tryBuildRetransmit transport nowMs rx tx).1.fatalError ||
        (tryBuildRetransmit transport nowMs rx tx).1.datagram.isSome) = true ∧
      PollEffect transport nowMs role connId state rx tx
        (tryBuildRetransmit transport nowMs rx tx).1
        (tryBuildRetransmit transport nowMs rx tx).2 :=
  retransmitLoop_effect _ fun _ hitem => Std.ExtTreeMap.mem_toList_iff_getElem?_eq_some.1 hitem

theorem tryBuildProbeLane_builds (transport : TransportSettings) (nowMs : U64)
    (role : SessionRole) (state : ConnectionState) {bytes : Option Bytes} {tx' : TxSessionState}
    (h : tryBuildProbeLane connId rx tx = (bytes, tx')) :
    Builds transport nowMs role connId state rx tx bytes tx' := by
  rw [tryBuildProbeLane] at h
  split_ifs at h
  · obtain ⟨rfl, rfl⟩ := h
    exact Or.inr ⟨rfl, .bare (Or.inr (Or.inr rfl)) rfl⟩
  · obtain ⟨rfl, rfl⟩ := h
    exact Or.inl ⟨rfl, rfl⟩
  · obtain ⟨rfl, rfl⟩ := h
    exact Or.inr ⟨rfl, .bare (Or.inr (Or.inl rfl)) rfl⟩

theorem tryBuildAckOnly_builds (transport : TransportSettings) (nowMs : U64)
    (role : SessionRole) (state : ConnectionState) {bytes : Option Bytes} {tx' : TxSessionState}
    (h : tryBuildAckOnly connId rx tx = (bytes, tx')) :
    Builds transport nowMs role connId state rx tx bytes tx' := by
  rw [tryBuildAckOnly] at h
  split_ifs at h
  · obtain ⟨rfl, rfl⟩ := h
    exact Or.inl ⟨rfl, rfl⟩
  · obtain ⟨rfl, rfl⟩ := h
    exact Or.inr ⟨rfl, .bare (Or.inl rfl) rfl⟩

/-- Fresh data: on a full window the request goes back to where it was. -/
theorem tryBuildFresh_builds (transport : TransportSettings) (role : SessionRole)
    (state : ConnectionState) {bytes : Option Bytes} {tx' : TxSessionState}
    (h : tryBuildFresh nowMs connId rx tx = (bytes, tx')) :
    Builds transport nowMs role connId state rx tx bytes tx' := by
  rw [tryBuildFresh] at h
  cases hpending : tx.pendingSend with
  | nil =>
    rw [hpending] at h
    obtain ⟨rfl, rfl⟩ := h
    exact Or.inl ⟨rfl, rfl⟩
  | cons request rest =>
    rw [hpending] at h
    have hwindow : reliableWindowFull { tx with pendingSend := rest } = reliableWindowFull tx := rfl
    simp only [hwindow] at h
    cases hchannel : isReliableChannel request.channelType with
    | false =>
      simp only [hchannel, Bool.false_and, Bool.false_eq_true, if_false, makePacketFromRequest] at h
      obtain ⟨rfl, rfl⟩ := h
      exact Or.inr ⟨rfl, .unreliable hpending hchannel⟩
    | true =>
      cases hopen : reliableWindowFull tx with
      | true =>
        simp only [hchannel, hopen, Bool.and_true, if_true] at h
        obtain ⟨rfl, rfl⟩ := h
        refine Or.inl ⟨rfl, ?_⟩
        rw [← hpending]
      | false =>
        simp only [hchannel, hopen, Bool.and_false, Bool.false_eq_true, if_false, if_true,
          makePacketFromRequest] at h
        obtain ⟨rfl, rfl⟩ := h
        exact Or.inr ⟨rfl, .data hpending hchannel hopen⟩

/-- **What one `poll` does.** -/
theorem poll_effect : PollEffect transport nowMs role connId state rx tx
    (poll transport nowMs role connId state rx tx).1
    (poll transport nowMs role connId state rx tx).2.2 := by
  rw [poll]
  split
  next bytes state' tx' hshake => exact (tryBuildHandshake_builds hshake).of_some
  next state' tx₁ hshake =>
    -- A builder that has nothing to send leaves the state to the next one.
    obtain rfl := (tryBuildHandshake_builds hshake).of_none
    rcases (tryBuildRetransmit_effect : _ ∨ _ ∧
      PollEffect transport nowMs role connId state rx tx₁ _ _) with hidle | ⟨hstop, heffect⟩
    · rw [hidle]
      simp only [Option.isSome_none, Bool.or_self, Bool.false_eq_true, if_false]
      split
      next bytes tx' hprobe =>
        exact (tryBuildProbeLane_builds transport nowMs role state hprobe).of_some
      next tx₂ hprobe =>
        obtain rfl := (tryBuildProbeLane_builds transport nowMs role state hprobe).of_none
        split
        next bytes tx' hack =>
          exact (tryBuildAckOnly_builds transport nowMs role state hack).of_some
        next tx₃ hack =>
          obtain rfl := (tryBuildAckOnly_builds transport nowMs role state hack).of_none
          split
          next bytes tx' hfresh =>
            exact (tryBuildFresh_builds transport role state hfresh).of_some
          next tx₄ hfresh =>
            obtain rfl := (tryBuildFresh_builds transport role state hfresh).of_none
            exact .idle
    · simp only [hstop, if_true]
      exact heffect

/-- The SYN is the only thing `poll` reports back: a closed client starts its handshake. -/
theorem poll_connectionState : (poll transport nowMs role connId state rx tx).2.1 =
    if role = .client ∧ state = .closed then .handshakeSent else state := by
  have hpoll : (poll transport nowMs role connId state rx tx).2.1 =
      (tryBuildHandshake transport nowMs role connId state rx tx).2.1 := by
    rw [poll]
    rcases tryBuildHandshake transport nowMs role connId state rx tx with ⟨_ | bytes, state', tx₁⟩
    · simp only
      split_ifs
      · rfl
      · repeat' split
        all_goals rfl
    · rfl
  rw [hpoll, tryBuildHandshake]
  split_ifs
  · rfl
  all_goals first | rfl | split <;> rfl

end Poll

end Rudp
