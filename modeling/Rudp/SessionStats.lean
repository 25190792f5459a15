import Rudp.SessionPoll

/-!
# Statistics

A session counts what it sends from a second decode of the datagram it has just built, and what it
receives before it looks at the packet. The ledger beside it keeps the datagrams themselves: those
that polls returned, those of them that sent a packet in flight again, and the decodable ones that
came in. `stats_account` says that the counters are the sizes of these lists.

The round trips are measured by PINGs: a PONG ends a trip that a PING has begun, and each trip
begins after the last one has ended. So the times of the trips do not overlap, and their sum is at
most the time that has passed; nothing in it wraps.
-/

namespace Rudp

open TxHandler Session

/-! ## Tallies -/

/-- The counters of one direction. -/
@[ext]
structure Tally where
  packets : U64
  bytes : U64
  control : U64
  data : U64
  pings : U64
  pongs : U64

def SessionStats.tallySent (stats : SessionStats) : Tally :=
  { packets := stats.packetsSent, bytes := stats.bytesSent, control := stats.controlPacketsSent
    data := stats.dataPacketsSent, pings := stats.pingsSent, pongs := stats.pongsSent }

def SessionStats.tallyReceived (stats : SessionStats) : Tally :=
  { packets := stats.packetsReceived, bytes := stats.bytesReceived
    control := stats.controlPacketsReceived, data := stats.dataPacketsReceived
    pings := stats.pingsReceived, pongs := stats.pongsReceived }

def totalSize (log : List Bytes) : ℕ := (log.map List.length).sum

/-- How many of the datagrams are packets of this kind. -/
def countSentAs (kind : ControlKind) (log : List Bytes) : ℕ := log.countP (sentAs kind)

/-- What the counters come to for these datagrams. -/
def Tally.of (log : List Bytes) : Tally :=
  { packets := BitVec.ofNat 64 log.length
    bytes := BitVec.ofNat 64 (totalSize log)
    control := BitVec.ofNat 64 (log.countP fun bytes => !sentAs .none bytes)
    data := BitVec.ofNat 64 (countSentAs .none log)
    pings := BitVec.ofNat 64 (countSentAs .ping log)
    pongs := BitVec.ofNat 64 (countSentAs .pong log) }

/-- One more packet. -/
def Tally.add (t : Tally) (kind : ControlKind) (size : ℕ) : Tally :=
  { packets := t.packets + 1
    bytes := t.bytes + BitVec.ofNat 64 size
    control := if kind = .none then t.control else t.control + 1
    data := if kind = .none then t.data + 1 else t.data
    pings := if kind = .ping then t.pings + 1 else t.pings
    pongs := if kind = .pong then t.pongs + 1 else t.pongs }

section Tally

variable {bytes : Bytes} {packet : PacketView} {log : List Bytes}

theorem totalSize_concat : totalSize (log ++ [bytes]) = totalSize log + bytes.length := by
  simp [totalSize]

theorem countSentAs_concat (hdecode : decode bytes = some packet) (kind : ControlKind) :
    countSentAs kind (log ++ [bytes]) = countSentAs kind log +
      if classifyControlKind packet.header = kind then 1 else 0 := by
  simp [countSentAs, sentAs, hdecode, List.countP_append, List.countP_singleton]

/-- A packet has at least one byte. -/
theorem length_le_totalSize (h : ∀ bytes ∈ log, (decode bytes).isSome = true) :
    log.length ≤ totalSize log := by
  have hpos : ∀ size ∈ log.map List.length, 1 ≤ size := by
    intro size hsize
    obtain ⟨bytes, hmem, rfl⟩ := List.mem_map.1 hsize
    have hsome := h bytes hmem
    cases bytes with
    | nil => exact absurd hsome (by decide)
    | cons b bs => simp
  simpa [totalSize] using List.card_nsmul_le_sum _ 1 hpos

theorem Tally.of_concat (hdecode : decode bytes = some packet) :
    Tally.of (log ++ [bytes]) =
      (Tally.of log).add (classifyControlKind packet.header) bytes.length := by
  have hcontrol : (log ++ [bytes]).countP (fun bytes => !sentAs .none bytes) =
      log.countP (fun bytes => !sentAs .none bytes) +
        if classifyControlKind packet.header = .none then 0 else 1 := by
    by_cases hdata : classifyControlKind packet.header = .none <;>
      simp [List.countP_append, sentAs, hdecode, hdata]
  simp only [Tally.of, Tally.add, totalSize_concat, countSentAs_concat hdecode, hcontrol,
    List.length_append, List.length_singleton, BitVec.ofNat_add]
  ext1
  · rfl
  · rfl
  all_goals
    simp only
    split_ifs <;> simp

end Tally

/-! ## Round trips -/

/-- What the round trips are measured with. -/
structure RttBook where
  count : U64
  sumMs : U64
  latestMs : Option U64
  minMs : Option U64
  maxMs : Option U64
  pingOutstanding : Bool
  lastPingSentMs : U64

def SessionState.rttBook (s : SessionState) : RttBook :=
  { count := s.stats.rttSampleCount, sumMs := s.stats.rttSumMs, latestMs := s.stats.latestRttMs
    minMs := s.stats.minRttMs, maxMs := s.stats.maxRttMs
    pingOutstanding := s.tx.probe.pingOutstanding, lastPingSentMs := s.tx.probe.lastPingSentMs }

/-- A PING goes out. -/
def RttBook.pinged (b : RttBook) (nowMs : U64) : RttBook :=
  { b with pingOutstanding := true, lastPingSentMs := nowMs }

/-- The PONG for it comes in. -/
def RttBook.answered (b : RttBook) (nowMs : U64) : RttBook :=
  let rttMs := nowMs - b.lastPingSentMs
  { b with
    count := b.count + 1
    sumMs := b.sumMs + rttMs
    latestMs := some rttMs
    minMs := some (b.minMs.elim rttMs fun current => if rttMs < current then rttMs else current)
    maxMs := some (b.maxMs.elim rttMs fun current => if rttMs > current then rttMs else current)
    pingOutstanding := false }

/-- The book agrees with the times of the trips so far. They lie one after the other, so that they
sum up to no more than the time of the PING that is out, or the time that it is now. -/
structure Measured (pings pongs : ℕ) (clockMs : U64) (samples : List U64) (b : RttBook) : Prop where
  count : b.count = BitVec.ofNat 64 samples.length
  sum : b.sumMs.toNat = (samples.map BitVec.toNat).sum
  latest : b.latestMs = samples.getLast?
  unset : samples = [] → b.minMs = none ∧ b.maxMs = none
  bounds : ∀ sample ∈ samples, ∃ low high, b.minMs = some low ∧ b.maxMs = some high ∧
    low ≤ sample ∧ sample ≤ high
  pings : samples.length + (if b.pingOutstanding then 1 else 0) ≤ pings
  pongs : samples.length ≤ pongs
  lastPing : b.lastPingSentMs ≤ clockMs
  elapsed : (samples.map BitVec.toNat).sum ≤
    (if b.pingOutstanding then b.lastPingSentMs else clockMs).toNat

section Measured

variable {pings pongs pings' pongs' : ℕ} {clockMs nowMs : U64} {samples : List U64} {b : RttBook}

theorem Measured.mono (h : Measured pings pongs clockMs samples b) (hclock : clockMs ≤ nowMs)
    (hpings : pings ≤ pings') (hpongs : pongs ≤ pongs') :
    Measured pings' pongs' nowMs samples b where
  count := h.count
  sum := h.sum
  latest := h.latest
  unset := h.unset
  bounds := h.bounds
  pings := h.pings.trans hpings
  pongs := h.pongs.trans hpongs
  lastPing := BitVec.le_trans h.lastPing hclock
  elapsed := by
    refine h.elapsed.trans ?_
    split_ifs
    · exact le_refl _
    · exact BitVec.le_def.1 hclock

theorem Measured.pinged (h : Measured pings pongs clockMs samples b) (hclock : clockMs ≤ nowMs) :
    Measured (pings + 1) pongs nowMs samples (b.pinged nowMs) where
  count := h.count
  sum := h.sum
  latest := h.latest
  unset := h.unset
  bounds := h.bounds
  pings := Nat.add_le_add_right ((Nat.le_add_right _ _).trans h.pings) 1
  pongs := h.pongs
  lastPing := BitVec.le_refl _
  elapsed := by
    refine ((h.mono hclock (le_refl _) (le_refl _)).elapsed).trans ?_
    simp only [RttBook.pinged, if_true]
    split_ifs
    · exact BitVec.le_def.1 (BitVec.le_trans h.lastPing hclock)
    · exact le_refl _

/-- The new minimum is at most the old one and the new time. -/
theorem min_le_of_elim (m : Option U64) (rttMs : U64) :
    (m.elim rttMs fun current => if rttMs < current then rttMs else current) ≤ rttMs ∧
      ∀ current, m = some current →
        (m.elim rttMs fun current => if rttMs < current then rttMs else current) ≤ current := by
  cases m with
  | none => exact ⟨BitVec.le_refl _, fun _ h => nomatch h⟩
  | some low =>
    simp only [Option.elim_some, Option.some.injEq, forall_eq', BitVec.le_def, BitVec.lt_def]
    split_ifs <;> omega

/-- The new maximum is at least the old one and the new time. -/
theorem le_max_of_elim (m : Option U64) (rttMs : U64) :
    (rttMs ≤ m.elim rttMs fun current => if rttMs > current then rttMs else current) ∧
      ∀ current, m = some current →
        current ≤ m.elim rttMs fun current => if rttMs > current then rttMs else current := by
  cases m with
  | none => exact ⟨BitVec.le_refl _, fun _ h => nomatch h⟩
  | some high =>
    simp only [Option.elim_some, Option.some.injEq, forall_eq', BitVec.le_def, gt_iff_lt,
      BitVec.lt_def]
    split_ifs <;> omega

/-- A trip that ends takes the time since its PING. -/
theorem Measured.answered (h : Measured pings pongs clockMs samples b) (hclock : clockMs ≤ nowMs)
    (hout : b.pingOutstanding = true) :
    Measured pings (pongs + 1) nowMs (samples ++ [nowMs - b.lastPingSentMs])
      (b.answered nowMs) := by
  have hlast : b.lastPingSentMs ≤ nowMs := BitVec.le_trans h.lastPing hclock
  have htrip : (nowMs - b.lastPingSentMs).toNat = nowMs.toNat - b.lastPingSentMs.toNat :=
    BitVec.toNat_sub_of_le hlast
  have helapsed := h.elapsed
  rw [hout, if_pos rfl] at helapsed
  have htotal : ((samples ++ [nowMs - b.lastPingSentMs]).map BitVec.toNat).sum ≤ nowMs.toNat := by
    have hle := BitVec.le_def.1 hlast
    simp only [List.map_append, List.map_cons, List.map_nil, List.sum_append, List.sum_singleton,
      htrip]
    omega
  have hpings := h.pings
  rw [hout, if_pos rfl] at hpings
  have hmin := min_le_of_elim b.minMs (nowMs - b.lastPingSentMs)
  have hmax := le_max_of_elim b.maxMs (nowMs - b.lastPingSentMs)
  refine ⟨?_, ?_, ?_, ?_, ?_, ?_, ?_, hlast, htotal⟩
  · rw [List.length_append, List.length_singleton, BitVec.ofNat_add, ← h.count]
    rfl
  · have hwrap := nowMs.isLt
    simp only [List.map_append, List.map_cons, List.map_nil, List.sum_append, List.sum_singleton]
      at htotal ⊢
    rw [RttBook.answered, BitVec.toNat_add, h.sum]
    exact Nat.mod_eq_of_lt (Nat.lt_of_le_of_lt htotal hwrap)
  · exact List.getLast?_concat.symm
  · simp
  · intro sample hsample
    refine ⟨_, _, rfl, rfl, ?_⟩
    rcases List.mem_append.1 hsample with hold | hnew
    · obtain ⟨low, high, hlow, hhigh, hle, hge⟩ := h.bounds sample hold
      exact ⟨BitVec.le_trans (hmin.2 low hlow) hle, BitVec.le_trans hge (hmax.2 high hhigh)⟩
    · obtain rfl := List.mem_singleton.1 hnew
      exact ⟨hmin.1, hmax.1⟩
  · simpa [RttBook.answered] using hpings
  · simpa using h.pongs

end Measured

/-! ## The books of a session -/

/-- The statistics, with what the round trips are measured with. -/
structure SessionBooks where
  sent : Tally
  received : Tally
  retransmissions : U64
  rtt : RttBook

def SessionState.books (s : SessionState) : SessionBooks :=
  { sent := s.stats.tallySent, received := s.stats.tallyReceived
    retransmissions := s.stats.retransmissionsSent, rtt := s.rttBook }

/-- A datagram goes out. -/
def SessionBooks.send (b : SessionBooks) (kind : ControlKind) (size : ℕ) (nowMs : U64)
    (again : Bool) : SessionBooks :=
  { b with
    sent := b.sent.add kind size
    retransmissions := if again then b.retransmissions + 1 else b.retransmissions
    rtt := if kind = .ping then b.rtt.pinged nowMs else b.rtt }

/-- A datagram comes in, and its packet is looked at or not. -/
def SessionBooks.receive (b : SessionBooks) (kind : ControlKind) (size : ℕ) (nowMs : U64)
    (probed : Bool) : SessionBooks :=
  { b with
    received := b.received.add kind size
    rtt := if probed ∧ kind = .pong ∧ b.rtt.pingOutstanding then b.rtt.answered nowMs else b.rtt }

section SessionBooks

variable {transport : TransportSettings} {nowMs : U64} {s : SessionState} {bytes : Bytes}
  {packet : PacketView}

/-! ### Polling -/

theorem laneRule_probe (outstanding : Bool) (lastMs : U64) : LaneRule fun tx =>
    tx.probe.pingOutstanding = outstanding ∧ tx.probe.lastPingSentMs = lastMs where
  numbered _ _ _ htx := htx
  synAck _ htx := htx
  finalAck _ _ htx := htx
  fin _ htx := htx
  scanned _ _ htx := htx
  pong _ htx := htx
  ping _ htx := htx
  ackOnly _ htx := htx
  requests _ _ htx := htx

/-- The transmit handler keeps no books. -/
theorem laneResult_books (connectionState : ConnectionState) (rx : RxSessionState) :
    SessionState.books { s with
      connectionState, tx := (laneResult transport nowMs s).2.2, rx } = s.books := by
  have hprobe : (laneResult transport nowMs s).2.2.probe.pingOutstanding =
        s.tx.probe.pingOutstanding ∧
      (laneResult transport nowMs s).2.2.probe.lastPingSentMs = s.tx.probe.lastPingSentMs := by
    refine (laneRule_probe _ _).poll ?_
    rw [schedulePendingTxWork]
    split_ifs <;> exact ⟨rfl, rfl⟩
  simp only [SessionState.books, SessionState.rttBook, hprobe]

theorem updateOutboundProbeState_books (kind : ControlKind) :
    (updateOutboundProbeState kind nowMs s).books = { s.books with
      rtt := if kind = .ping then s.books.rtt.pinged nowMs else s.books.rtt } := by
  rw [updateOutboundProbeState]
  by_cases hping : kind = .ping
  · rw [if_neg (not_not.2 hping), if_pos hping]
    rfl
  · rw [if_pos hping, if_neg hping]

theorem recordOutboundStats_books (size : ℕ) (again : Bool) :
    (recordOutboundStats packet size nowMs again s).books = { s.books with
      sent := s.books.sent.add (classifyControlKind packet.header) size
      retransmissions :=
        if again then s.books.retransmissions + 1 else s.books.retransmissions } := by
  rw [recordOutboundStats]
  cases again <;> cases classifyControlKind packet.header <;> rfl

theorem clearOutboundAckState_books (kind : ControlKind) :
    (clearOutboundAckState kind s).books = s.books := by
  simp only [clearOutboundAckState]
  split_ifs <;> rfl

theorem applyOutboundResult_books (hdecode : decode bytes = some packet) (again : Bool) :
    (applyOutboundResult bytes nowMs again s).books =
      s.books.send (classifyControlKind packet.header) bytes.length nowMs again := by
  rw [applyOutboundResult, hdecode]
  simp only
  rw [clearOutboundAckState_books, recordOutboundStats_books, updateOutboundProbeState_books]
  rfl

theorem pollTx_books_of_none (h : (pollTx transport nowMs s).1 = none) :
    (pollTx transport nowMs s).2.books = s.books := by
  cases htimeout : shouldTimeoutIdleSession transport s nowMs with
  | true =>
    rw [pollTx, if_pos htimeout]
    rfl
  | false =>
    rw [pollTx_datagram htimeout] at h
    rw [pollTx_eq htimeout]
    simp only
    cases hfatal : (laneResult transport nowMs s).1.fatalError with
    | true => exact laneResult_books .reset _
    | false =>
      rw [hfatal, if_neg Bool.false_ne_true] at h
      rw [if_neg Bool.false_ne_true, h]
      exact laneResult_books _ s.rx

/-- **Polling** books the datagram that it returns. -/
theorem pollTx_books_of_some (h : (pollTx transport nowMs s).1 = some bytes)
    (hdecode : decode bytes = some packet) :
    (laneResult transport nowMs s).1.datagram = some bytes ∧
      (pollTx transport nowMs s).2.books =
        s.books.send (classifyControlKind packet.header) bytes.length nowMs
          (laneResult transport nowMs s).1.retransmission := by
  cases htimeout : shouldTimeoutIdleSession transport s nowMs with
  | true =>
    rw [pollTx, if_pos htimeout] at h
    cases h
  | false =>
    rw [pollTx_datagram htimeout] at h
    rw [pollTx_eq htimeout]
    simp only
    cases hfatal : (laneResult transport nowMs s).1.fatalError with
    | true =>
      rw [hfatal] at h
      cases h
    | false =>
      rw [hfatal, if_neg Bool.false_ne_true] at h
      rw [if_neg Bool.false_ne_true, h]
      refine ⟨rfl, ?_⟩
      simp only
      rw [applyOutboundResult_books hdecode, laneResult_books _ s.rx]

/-! ### Receiving -/

theorem recordReceivedStats_books (kind : ControlKind) (size : ℕ) :
    (recordReceivedStats kind size nowMs s).books = s.books.receive kind size nowMs false := by
  cases kind <;> rfl

theorem handleProbeReceive_books (kind : ControlKind) :
    (handleProbeReceive kind nowMs s).books = { s.books with
      rtt := if kind = .pong ∧ s.books.rtt.pingOutstanding then s.books.rtt.answered nowMs
        else s.books.rtt } := by
  have hbook : s.books.rtt.pingOutstanding = s.tx.probe.pingOutstanding := rfl
  rw [handleProbeReceive, hbook]
  by_cases hping : kind = .ping ∧ s.connectionState = .established
  · have hpong : ¬(kind = .pong ∧ s.tx.probe.pingOutstanding = true) := by
      rintro ⟨rfl, -⟩
      cases hping.1
    rw [if_pos hping, if_neg hpong]
    rfl
  · rw [if_neg hping]
    split_ifs with hpong
    · simp only [SessionState.books, SessionState.rttBook, RttBook.answered]
      cases s.stats.minRttMs <;> cases s.stats.maxRttMs <;> rfl
    · rfl

theorem afterChecksRule_books (packet : PacketView) (b : SessionBooks) :
    AfterChecksRule transport nowMs packet fun s => s.books = b where
  acked s hs := by
    rcases applyRemoteAck_effect transport packet.header s.tx with ⟨-, htx, -⟩ | ⟨-, hack⟩
    · rw [htx]
      exact hs
    · rw [hack.state]
      exact hs
  closed _ hs := hs
  decided s hs := by
    rw [applyConnectionDecision]
    split_ifs <;> first | exact hs | (simp only; split <;> exact hs)
  received _ _ hs := hs
  live s hs := by
    rw [updatePostReceiveLiveness]
    split_ifs <;> exact hs
  scheduled s rxResult hs := by
    rw [scheduleReceiveSideAck]
    split_ifs <;> exact hs

/-- **Receiving** books the datagram before the checks, and the round trip after them. -/
theorem onDatagramReceived_books (hdecode : decode bytes = some packet) : ∃ probed : Bool,
    (onDatagramReceived transport bytes nowMs s).books =
      s.books.receive (classifyControlKind packet.header) bytes.length nowMs probed := by
  have hcounted : (counted packet bytes.length nowMs s).books =
      s.books.receive (classifyControlKind packet.header) bytes.length nowMs false := by
    rw [← recordReceivedStats_books]
    simp only [counted]
    split_ifs <;> rfl
  rw [onDatagramReceived_of_decode hdecode]
  simp only
  generalize counted packet bytes.length nowMs s = t at hcounted ⊢
  split_ifs with hmismatch hduplicate
  · exact ⟨false, hcounted⟩
  · refine ⟨false, ?_⟩
    rw [← hcounted, scheduleFinalAckDuringLinger]
    split_ifs <;> rfl
  · refine ⟨true, (afterChecksRule_books packet _).afterChecks ?_⟩
    rw [handleProbeReceive_books, hcounted]
    simp [SessionBooks.receive]

end SessionBooks

/-! ## What is sent again -/

/-- The datagram is a packet in flight, with the ack fields of now. -/
def isInFlight (s : SessionState) (bytes : Bytes) : Bool :=
  s.tx.inflight.toList.any fun item =>
    bytes = encode (refresh s.rx item.2.packet).header item.2.packet.payload

/-- What is in flight lies in the window, under its own number. -/
structure Filed (tx : TxSessionState) : Prop where
  window : WindowBound tx
  entries : ∀ (k : U32) (entry : TxEntry), tx.inflight[k]? = some entry →
    isValidHeader entry.packet.header = true ∧ entry.packet.isNumbered = true ∧
      entry.packet.header.seq = k

section Filed

variable {transport : TransportSettings} {nowMs : U64} {role : SessionRole} {connId : U32}
  {state : ConnectionState} {rx : RxSessionState} {tx tx' : TxSessionState} {result : TxPollResult}
  {s : SessionState} {bytes : Bytes}

theorem isInFlight_iff : isInFlight s bytes = true ↔ ∃ (k : U32) (entry : TxEntry),
    s.tx.inflight[k]? = some entry ∧
      bytes = encode (refresh s.rx entry.packet).header entry.packet.payload := by
  simp only [isInFlight, List.any_eq_true, decide_eq_true_eq, Prod.exists,
    Std.ExtTreeMap.mem_toList_iff_getElem?_eq_some]

theorem Filed.start (role : SessionRole) (initialSeq : U32) :
    Filed (Session.init role initialSeq).tx where
  window := StartsAt.windowBound (i := initialSeq) ⟨rfl, rfl, rfl, rfl⟩
  entries k entry hget := by simp [Session.init] at hget

theorem Filed.sameCore (h : Filed tx) (hsame : SameCore tx tx') : Filed tx' where
  window := h.window.sameCore hsame
  entries k entry hget := h.entries k entry (hsame.inflight ▸ hget)

theorem Filed.pollEffect (h : Filed tx)
    (heffect : PollEffect transport nowMs role connId state rx tx result tx') : Filed tx' where
  window := h.window.pollEffect heffect
  entries k entry' hget := by
    rcases heffect.entry_cases hget with ⟨entry, hold, hsame⟩ |
      ⟨rfl, ⟨flags, synAckPending, hcause, heq⟩ | ⟨request, -, hreliable, heq⟩⟩
    · obtain ⟨hvalid, hnumbered, -, hseq, -⟩ := hsame.same
      rw [hvalid, hnumbered, hseq]
      exact h.entries k entry hold
    · rw [heq]
      exact ⟨hcause.kind.1, hcause.packet.1, rfl⟩
    · rw [heq]
      obtain ⟨hvalid, hnumbered, -⟩ := @requestPacket_packet connId rx tx.nextSeq request
      exact ⟨hvalid, hnumbered.trans hreliable, rfl⟩

theorem Filed.acknowledges (h : Filed tx) {ack : U32} {ackBits : U64} {ackResult : TxAckResult}
    (hack : Acknowledges ack ackBits tx tx' ackResult) : Filed tx' where
  window := h.window.acknowledges hack
  entries k entry' hget := by
    obtain ⟨entry, hold, hpacket, -⟩ := hack.entries k entry' hget
    rw [hpacket]
    exact h.entries k entry hold

theorem Filed.poll {out : Option Bytes} {s' : SessionState} (h : Filed s.tx)
    (heffect : PollTxEffect transport nowMs s out s') : Filed s'.tx := by
  cases heffect with
  | timeout _ => exact h
  | polled hbefore heffect hafter _ _ _ _ =>
    exact ((h.sameCore hbefore).pollEffect heffect).sameCore hafter

theorem Filed.receive {s' : SessionState} (h : Filed s.tx) (heffect : ReceiveEffect bytes s s') :
    Filed s'.tx := by
  cases heffect with
  | dropped htx _ => exact h.sameCore htx
  | mismatch htx _ => exact h.sameCore htx
  | processed _ _ hbefore hack hafter _ =>
    refine Filed.sameCore ?_ hafter
    rcases hack with ⟨-, rfl, -⟩ | ⟨-, hack⟩
    · exact h.sameCore hbefore
    · exact (h.sameCore hbefore).acknowledges hack

theorem Filed.apply (h : Filed s.tx) (op : LifeOp) : Filed (op.apply transport s).2.tx := by
  rcases op with ⟨_ | nowMs | ⟨bytes, nowMs⟩ | _⟩ | _ | _
  case call.queueSend => exact ⟨⟨h.window.bound, h.window.behind⟩, h.entries⟩
  case call.pollTx => exact h.poll (pollTx_effect transport nowMs s)
  case call.onDatagramReceived =>
    exact h.receive (onDatagramReceived_effect transport bytes nowMs s).2.2
  case call.requestClose =>
    simp only [LifeOp.apply, SessionOp.apply, Session.requestClose]
    split_ifs
    · exact ⟨⟨h.window.bound, h.window.behind⟩, h.entries⟩
    · exact h
  all_goals exact h

/-- A packet that is built anew is none of those in flight: it takes no number, or the next one. -/
theorem Filed.fresh_not_inFlight (h : Filed tx) (p : PacketView)
    (hvalid : isValidHeader p.header = true)
    (hfresh : p.isNumbered = false ∨ p.header.seq = tx.nextSeq) :
    ¬∃ (k : U32) (entry : TxEntry), tx.inflight[k]? = some entry ∧
      encode p.header p.payload = encode (refresh rx entry.packet).header entry.packet.payload := by
  rintro ⟨k, entry, hget, heq⟩
  obtain ⟨hentry, hnumbered, hseq⟩ := h.entries k entry hget
  have hrefresh : isValidHeader (refresh rx entry.packet).header = true := hentry
  have hsame : p = refresh rx entry.packet := by
    have hdecode := congrArg decode heq
    rw [decode_encode hvalid, decode_encode hrefresh] at hdecode
    exact Option.some.inj hdecode
  rcases hfresh with hbare | hnext
  · rw [hsame] at hbare
    exact Bool.false_ne_true (hbare.symm.trans hnumbered)
  · rw [hsame] at hnext
    obtain rfl : k = tx.nextSeq := hseq.symm.trans hnext
    rw [h.window.next_free] at hget
    cases hget

/-- **Retransmissions** are what is in flight already. -/
theorem Filed.retransmission_iff (h : Filed tx)
    (heffect : PollEffect transport nowMs role connId state rx tx result tx')
    (hd : result.datagram = some bytes) : result.retransmission = true ↔
      ∃ (k : U32) (entry : TxEntry), tx.inflight[k]? = some entry ∧
        bytes = encode (refresh rx entry.packet).header entry.packet.payload := by
  cases heffect with
  | idle | fatal => cases hd
  | @bare flags _ hflags =>
    obtain rfl := Option.some.inj hd
    obtain ⟨hvalid, hbare, -⟩ := @bare_packet flags connId rx 0 hflags
    exact iff_of_false Bool.false_ne_true
      (h.fresh_not_inFlight (controlPacket connId flags rx 0) hvalid (Or.inl hbare))
  | @control flags _ _ hcause =>
    obtain rfl := Option.some.inj hd
    exact iff_of_false Bool.false_ne_true
      (h.fresh_not_inFlight (controlPacket connId flags rx tx.nextSeq) hcause.kind.1 (Or.inr rfl))
  | @unreliable request _ _ hchannel =>
    obtain rfl := Option.some.inj hd
    obtain ⟨hvalid, hnumbered, -⟩ := @requestPacket_packet connId rx 0 request
    exact iff_of_false Bool.false_ne_true (h.fresh_not_inFlight (requestPacket request connId rx 0)
      hvalid (Or.inl (hnumbered.trans hchannel)))
  | @data request =>
    obtain rfl := Option.some.inj hd
    obtain ⟨hvalid, -⟩ := @requestPacket_packet connId rx tx.nextSeq request
    exact iff_of_false Bool.false_ne_true
      (h.fresh_not_inFlight (requestPacket request connId rx tx.nextSeq) hvalid (Or.inr rfl))
  | retransmit hget => exact iff_of_true rfl ⟨_, _, hget, (Option.some.inj hd).symm⟩

/-- The flag that the books go by is right. -/
theorem Filed.isInFlight_eq (h : Filed s.tx)
    (hd : (laneResult transport nowMs s).1.datagram = some bytes) :
    isInFlight s bytes = (laneResult transport nowMs s).1.retransmission := by
  have hbefore := (schedulePendingTxWork_frame transport nowMs s).tx
  have heffect : PollEffect transport nowMs s.role s.connId s.connectionState s.rx
      (schedulePendingTxWork transport nowMs s).tx (laneResult transport nowMs s).1
      (laneResult transport nowMs s).2.2 := poll_effect
  rw [Bool.eq_iff_iff, isInFlight_iff, (h.sameCore hbefore).retransmission_iff heffect hd,
    hbefore.inflight]

theorem Filed.pollTx_decodes (h : Filed s.tx) (hd : (pollTx transport nowMs s).1 = some bytes) :
    ∃ packet, decode bytes = some packet := by
  have hin : InFlight (fun p => isValidHeader p.header = true) s.tx :=
    fun k entry hget => (h.entries k entry hget).1
  have hsent := ((pollTx_effect transport nowMs s).inFlight
    (fun hsame hp => hsame.same.1.trans hp) hin fun _ hfresh _ => hfresh.valid).2
  obtain ⟨p, hp, hvalid⟩ := hsent bytes hd
  refine ⟨p, ?_⟩
  rw [hp]
  exact decode_encode hvalid p.payload

end Filed

/-! ## The ledger -/

/-- A session, the datagrams that its polls have returned, those of them that were in flight
already, the decodable datagrams that it has received, and the time of its last step. -/
structure Ledger where
  session : SessionState
  sent : List Bytes := []
  resent : List Bytes := []
  received : List Bytes := []
  clockMs : U64 := 0

def Ledger.start (role : SessionRole) (initialSeq : U32) : Ledger :=
  { session := Session.init role initialSeq }

def Ledger.step (transport : TransportSettings) (r : Ledger) : LifeOp → Ledger
  | .call (.pollTx nowMs) =>
    let (datagram, session) := Session.pollTx transport nowMs r.session
    { r with
      session
      sent := r.sent ++ datagram.toList
      resent := r.resent ++ datagram.toList.filter (isInFlight r.session)
      clockMs := nowMs }
  | .call (.onDatagramReceived bytes nowMs) =>
    { r with
      session := Session.onDatagramReceived transport bytes nowMs r.session
      received := r.received ++ [bytes].filter fun bytes => (decode bytes).isSome
      clockMs := nowMs }
  | op => { r with session := (op.apply transport r.session).2 }

/-- Time does not go back. -/
def NonDecreasing (r : Ledger) : LifeOp → Prop
  | .call (.pollTx nowMs) | .call (.onDatagramReceived _ nowMs) => r.clockMs ≤ nowMs
  | .call (.queueSend _ _ _) | .call .requestClose | .assignConnId _ | .drainEvents => True

instance (r : Ledger) (op : LifeOp) : Decidable (NonDecreasing r op) :=
  match op with
  | .call (.pollTx _) | .call (.onDatagramReceived _ _) => inferInstanceAs (Decidable (_ ≤ _))
  | .call (.queueSend _ _ _) | .call .requestClose | .assignConnId _ | .drainEvents =>
    inferInstanceAs (Decidable True)

/-- The books agree with the ledger, up to a wrap of the counters. -/
structure BooksAgree (r : Ledger) : Prop where
  filed : Filed r.session.tx
  decodes : ∀ bytes ∈ r.sent, (decode bytes).isSome = true
  accepted : ∀ bytes ∈ r.received, (decode bytes).isSome = true
  sent : r.session.books.sent = Tally.of r.sent
  received : r.session.books.received = Tally.of r.received
  retransmissions : r.session.books.retransmissions = BitVec.ofNat 64 r.resent.length
  resent : r.resent.length ≤ r.sent.length
  measured : ∃ samples, Measured (countSentAs .ping r.sent) (countSentAs .pong r.received) r.clockMs
    samples r.session.books.rtt

section Ledger

variable {transport : TransportSettings} {r : Ledger} {nowMs : U64}

theorem BooksAgree.start (role : SessionRole) (initialSeq : U32) :
    BooksAgree (Ledger.start role initialSeq) where
  filed := .start role initialSeq
  decodes _ h := nomatch h
  accepted _ h := nomatch h
  sent := rfl
  received := rfl
  retransmissions := rfl
  resent := le_refl _
  measured := by
    refine ⟨[], ?_⟩
    exact {
      count := rfl
      sum := rfl
      latest := rfl
      unset := fun _ => ⟨rfl, rfl⟩
      bounds := fun _ h => nomatch h
      pings := le_refl _
      pongs := le_refl _
      lastPing := BitVec.le_refl _
      elapsed := le_refl _ }

/-- A poll that returns nothing. -/
theorem BooksAgree.poll_of_none (h : BooksAgree r) (hclock : r.clockMs ≤ nowMs)
    (hnone : (Session.pollTx transport nowMs r.session).1 = none) :
    BooksAgree (r.step transport (.call (.pollTx nowMs))) := by
  have hbooks := pollTx_books_of_none hnone
  have hfiled : Filed (Session.pollTx transport nowMs r.session).2.tx :=
    h.filed.apply (.call (.pollTx nowMs))
  simp only [Ledger.step]
  generalize Session.pollTx transport nowMs r.session = polled at hnone hbooks hfiled ⊢
  obtain ⟨out, s'⟩ := polled
  simp only at hnone hbooks hfiled
  subst hnone
  obtain ⟨samples, hmeasured⟩ := h.measured
  simp only [Option.toList_none, List.filter_nil, List.append_nil]
  refine ⟨hfiled, h.decodes, h.accepted, ?_, ?_, ?_, h.resent, samples, ?_⟩
  all_goals simp only [hbooks]
  · exact h.sent
  · exact h.received
  · exact h.retransmissions
  · exact hmeasured.mono hclock (le_refl _) (le_refl _)

/-- A poll that returns a datagram. -/
theorem BooksAgree.poll_of_some (h : BooksAgree r) (hclock : r.clockMs ≤ nowMs) {bytes : Bytes}
    (hsome : (Session.pollTx transport nowMs r.session).1 = some bytes) :
    BooksAgree (r.step transport (.call (.pollTx nowMs))) := by
  obtain ⟨packet, hdecode⟩ := h.filed.pollTx_decodes hsome
  obtain ⟨hlane, hbooks⟩ := pollTx_books_of_some hsome hdecode
  rw [← h.filed.isInFlight_eq hlane] at hbooks
  have hfiled : Filed (Session.pollTx transport nowMs r.session).2.tx :=
    h.filed.apply (.call (.pollTx nowMs))
  simp only [Ledger.step]
  generalize Session.pollTx transport nowMs r.session = polled at hsome hbooks hfiled ⊢
  obtain ⟨out, s'⟩ := polled
  simp only at hsome hbooks hfiled
  subst hsome
  obtain ⟨samples, hmeasured⟩ := h.measured
  simp only [Option.toList_some]
  refine ⟨hfiled, ?_, h.accepted, ?_, ?_, ?_, ?_, samples, ?_⟩
  · intro b hb
    rcases List.mem_append.1 hb with hold | hnew
    · exact h.decodes b hold
    · rw [List.mem_singleton.1 hnew, hdecode]
      rfl
  · simp only [hbooks, SessionBooks.send]
    rw [Tally.of_concat hdecode, h.sent]
  · simp only [hbooks, SessionBooks.send]
    exact h.received
  · simp only [hbooks, SessionBooks.send, h.retransmissions, List.filter_singleton]
    cases isInFlight r.session bytes with
    | false => simp
    | true => simp [BitVec.ofNat_add]
  · have hresent := h.resent
    have hone := List.length_filter_le (isInFlight r.session) [bytes]
    simp only [List.length_append, List.length_singleton] at hone ⊢
    omega
  · simp only [hbooks, SessionBooks.send, countSentAs_concat hdecode]
    split_ifs
    · exact hmeasured.pinged hclock
    · exact hmeasured.mono hclock (Nat.le_add_right _ _) (le_refl _)

theorem BooksAgree.receive (h : BooksAgree r) (hclock : r.clockMs ≤ nowMs) (bytes : Bytes) :
    BooksAgree (r.step transport (.call (.onDatagramReceived bytes nowMs))) := by
  have hfiled : Filed (Session.onDatagramReceived transport bytes nowMs r.session).tx :=
    h.filed.apply (.call (.onDatagramReceived bytes nowMs))
  obtain ⟨samples, hmeasured⟩ := h.measured
  simp only [Ledger.step]
  cases hdecode : decode bytes with
  | none =>
    have hsame : Session.onDatagramReceived transport bytes nowMs r.session = r.session := by
      rw [Session.onDatagramReceived, hdecode]
    rw [hsame]
    simp only [List.filter_singleton, hdecode, Option.isSome_none, Bool.cond_false,
      List.append_nil]
    exact ⟨h.filed, h.decodes, h.accepted, h.sent, h.received, h.retransmissions, h.resent, samples,
      hmeasured.mono hclock (le_refl _) (le_refl _)⟩
  | some packet =>
    obtain ⟨probed, hbooks⟩ :=
      @onDatagramReceived_books transport nowMs r.session bytes packet hdecode
    simp only [List.filter_singleton, hdecode, Option.isSome_some, Bool.cond_true]
    refine ⟨hfiled, h.decodes, ?_, ?_, ?_, ?_, h.resent, ?_⟩
    · intro b hb
      rcases List.mem_append.1 hb with hold | hnew
      · exact h.accepted b hold
      · rw [List.mem_singleton.1 hnew, hdecode]
        rfl
    · simp only [hbooks, SessionBooks.receive]
      exact h.sent
    · simp only [hbooks, SessionBooks.receive]
      rw [Tally.of_concat hdecode, h.received]
    · simp only [hbooks, SessionBooks.receive]
      exact h.retransmissions
    · simp only [hbooks, SessionBooks.receive, countSentAs_concat hdecode]
      have hmore := Nat.le_add_right (countSentAs .pong r.received)
        (if classifyControlKind packet.header = .pong then 1 else 0)
      by_cases hanswer : probed = true ∧ classifyControlKind packet.header = .pong ∧
          r.session.books.rtt.pingOutstanding = true
      · rw [if_pos hanswer, if_pos hanswer.2.1]
        exact ⟨_, hmeasured.answered hclock hanswer.2.2⟩
      · rw [if_neg hanswer]
        exact ⟨samples, hmeasured.mono hclock (le_refl _) hmore⟩

theorem BooksAgree.step (h : BooksAgree r) (op : LifeOp) (htime : NonDecreasing r op) :
    BooksAgree (r.step transport op) := by
  have hquiet : ∀ s' : SessionState, Filed s'.tx → s'.books = r.session.books →
      BooksAgree { r with session := s' } := by
    intro s' hfiled hbooks
    refine ⟨hfiled, h.decodes, h.accepted, ?_, ?_, ?_, h.resent, ?_⟩
    all_goals simp only [hbooks]
    · exact h.sent
    · exact h.received
    · exact h.retransmissions
    · exact h.measured
  have hfiled := @Filed.apply transport r.session h.filed op
  rcases op with ⟨_ | nowMs | ⟨bytes, nowMs⟩ | _⟩ | _ | _
  case call.pollTx =>
    cases hpoll : (Session.pollTx transport nowMs r.session).1 with
    | none => exact h.poll_of_none htime hpoll
    | some bytes => exact h.poll_of_some htime hpoll
  case call.onDatagramReceived => exact h.receive htime bytes
  case call.requestClose =>
    refine hquiet _ hfiled ?_
    simp only [LifeOp.apply, SessionOp.apply, Session.requestClose]
    split_ifs <;> rfl
  all_goals exact hquiet _ hfiled rfl

end Ledger

/-! ## The statistics -/

/-- The statistics account for every datagram of the ledger. -/
structure StatsExact (r : Ledger) : Prop where
  decodes : ∀ bytes ∈ r.sent, (decode bytes).isSome = true
  packetsSent : r.session.stats.packetsSent.toNat = r.sent.length
  bytesSent : r.session.stats.bytesSent.toNat = totalSize r.sent
  retransmissionsSent : r.session.stats.retransmissionsSent.toNat = r.resent.length
  packetsReceived : r.session.stats.packetsReceived.toNat = r.received.length
  bytesReceived : r.session.stats.bytesReceived.toNat = totalSize r.received
  sentKinds : r.session.stats.controlPacketsSent.toNat + r.session.stats.dataPacketsSent.toNat =
    r.session.stats.packetsSent.toNat
  receivedKinds : r.session.stats.controlPacketsReceived.toNat +
    r.session.stats.dataPacketsReceived.toNat = r.session.stats.packetsReceived.toNat
  rttCount : r.session.stats.rttSampleCount.toNat ≤
    min r.session.stats.pingsSent.toNat r.session.stats.pongsReceived.toNat
  rttPresent :
    (r.session.stats.latestRttMs.isSome = true ↔ 0 < r.session.stats.rttSampleCount.toNat) ∧
    (r.session.stats.minRttMs.isSome = true ↔ 0 < r.session.stats.rttSampleCount.toNat) ∧
    (r.session.stats.maxRttMs.isSome = true ↔ 0 < r.session.stats.rttSampleCount.toNat)
  rttOrder : ∀ latest low high, r.session.stats.latestRttMs = some latest →
    r.session.stats.minRttMs = some low → r.session.stats.maxRttMs = some high →
      low ≤ latest ∧ latest ≤ high
  rttSum : ∀ low high, r.session.stats.minRttMs = some low → r.session.stats.maxRttMs = some high →
    r.session.stats.rttSampleCount.toNat * low.toNat ≤ r.session.stats.rttSumMs.toNat ∧
      r.session.stats.rttSumMs.toNat ≤ r.session.stats.rttSampleCount.toNat * high.toNat

/-- A counter that has not wrapped. -/
theorem toNat_of_le {counter : U64} {n size : ℕ} (h : counter = BitVec.ofNat 64 n) (hle : n ≤ size)
    (hsize : size < 2 ^ 64) : counter.toNat = n := by
  rw [h, BitVec.toNat_ofNat]
  exact Nat.mod_eq_of_lt (Nat.lt_of_le_of_lt hle hsize)

theorem control_add_data (log : List Bytes) :
    (log.countP fun bytes => !sentAs .none bytes) + countSentAs .none log = log.length := by
  have hsplit := List.length_eq_countP_add_countP (l := log) (sentAs .none)
  have hnot : (fun bytes => decide ¬sentAs .none bytes = true) =
      fun bytes => !sentAs .none bytes := by
    funext bytes
    cases sentAs .none bytes <;> rfl
  rw [hnot] at hsplit
  rw [countSentAs, hsplit, Nat.add_comm]

section Exact

variable {r : Ledger} {log : List Bytes} {t : Tally} {b : RttBook} {samples : List U64}
  {clockMs : U64} {pings pongs : ℕ}

/-- A tally whose bytes have not wrapped. -/
theorem Tally.exact (h : t = Tally.of log) (hdecodes : ∀ bytes ∈ log, (decode bytes).isSome = true)
    (hsize : totalSize log < 2 ^ 64) :
    t.packets.toNat = log.length ∧ t.bytes.toNat = totalSize log ∧
      t.control.toNat + t.data.toNat = t.packets.toNat ∧ t.pings.toNat = countSentAs .ping log ∧
      t.pongs.toNat = countSentAs .pong log := by
  have hle := length_le_totalSize hdecodes
  have hcount : ∀ p : Bytes → Bool, log.countP p ≤ totalSize log :=
    fun p => List.countP_le_length.trans hle
  subst h
  have hpackets : (Tally.of log).packets.toNat = log.length := toNat_of_le rfl hle hsize
  have hcontrol : (Tally.of log).control.toNat = log.countP fun bytes => !sentAs .none bytes :=
    toNat_of_le rfl (hcount _) hsize
  have hdata : (Tally.of log).data.toNat = countSentAs .none log :=
    toNat_of_le rfl (hcount _) hsize
  refine ⟨hpackets, toNat_of_le rfl (le_refl _) hsize, ?_, toNat_of_le rfl (hcount _) hsize,
    toNat_of_le rfl (hcount _) hsize⟩
  rw [hcontrol, hdata, hpackets]
  exact control_add_data log

/-- A book of fewer than `2 ^ 64` trips. -/
theorem Measured.exact (h : Measured pings pongs clockMs samples b) (hpings : pings < 2 ^ 64) :
    b.count.toNat ≤ min pings pongs ∧
      ((b.latestMs.isSome = true ↔ 0 < b.count.toNat) ∧
        (b.minMs.isSome = true ↔ 0 < b.count.toNat) ∧
          (b.maxMs.isSome = true ↔ 0 < b.count.toNat)) ∧
      (∀ latest low high, b.latestMs = some latest → b.minMs = some low → b.maxMs = some high →
        low ≤ latest ∧ latest ≤ high) ∧
      ∀ low high, b.minMs = some low → b.maxMs = some high →
        b.count.toNat * low.toNat ≤ b.sumMs.toNat ∧
          b.sumMs.toNat ≤ b.count.toNat * high.toNat := by
  have hlength : samples.length ≤ pings := (Nat.le_add_right _ _).trans h.pings
  have hcount : b.count.toNat = samples.length := toNat_of_le h.count hlength hpings
  have hbounds : ∀ sample ∈ samples, ∀ low high, b.minMs = some low → b.maxMs = some high →
      low ≤ sample ∧ sample ≤ high := by
    intro sample hsample low high hlow hhigh
    obtain ⟨low', high', hlow', hhigh', hle⟩ := h.bounds sample hsample
    rw [hlow] at hlow'
    rw [hhigh] at hhigh'
    obtain rfl := Option.some.inj hlow'
    obtain rfl := Option.some.inj hhigh'
    exact hle
  rw [hcount]
  refine ⟨le_min hlength h.pongs, ?_, ?_, ?_⟩
  · rw [h.latest]
    rcases List.eq_nil_or_concat samples with rfl | ⟨rest, last, rfl⟩
    · obtain ⟨hmin, hmax⟩ := h.unset rfl
      simp [hmin, hmax]
    · obtain ⟨low, high, hmin, hmax, -⟩ := h.bounds last (by simp)
      simp [hmin, hmax]
  · intro latest low high hlatest hlow hhigh
    rw [h.latest] at hlatest
    exact hbounds latest (List.mem_of_getLast? hlatest) low high hlow hhigh
  · intro low high hlow hhigh
    rw [h.sum]
    have hlower := List.card_nsmul_le_sum (samples.map BitVec.toNat) low.toNat (by
      intro n hn
      obtain ⟨sample, hsample, rfl⟩ := List.mem_map.1 hn
      exact BitVec.le_def.1 (hbounds sample hsample low high hlow hhigh).1)
    have hupper := List.sum_le_card_nsmul (samples.map BitVec.toNat) high.toNat (by
      intro n hn
      obtain ⟨sample, hsample, rfl⟩ := List.mem_map.1 hn
      exact BitVec.le_def.1 (hbounds sample hsample low high hlow hhigh).2)
    simpa using And.intro hlower hupper

theorem BooksAgree.exact (h : BooksAgree r) (hsent : totalSize r.sent < 2 ^ 64)
    (hreceived : totalSize r.received < 2 ^ 64) : StatsExact r := by
  obtain ⟨hpackets, hbytes, hkinds, hpings, -⟩ := Tally.exact h.sent h.decodes hsent
  obtain ⟨hpackets', hbytes', hkinds', -, hpongs⟩ := Tally.exact h.received h.accepted hreceived
  have hsize := length_le_totalSize h.decodes
  obtain ⟨samples, hmeasured⟩ := h.measured
  have hwrap : countSentAs .ping r.sent < 2 ^ 64 :=
    Nat.lt_of_le_of_lt (List.countP_le_length.trans hsize) hsent
  obtain ⟨hcount, hpresent, horder, hsum⟩ := hmeasured.exact hwrap
  rw [← hpings, ← hpongs] at hcount
  exact {
    decodes := h.decodes
    packetsSent := hpackets
    bytesSent := hbytes
    retransmissionsSent := toNat_of_le h.retransmissions (h.resent.trans hsize) hsent
    packetsReceived := hpackets'
    bytesReceived := hbytes'
    sentKinds := hkinds
    receivedKinds := hkinds'
    rttCount := hcount
    rttPresent := hpresent
    rttOrder := horder
    rttSum := hsum }

end Exact

/-- **Statistics account for every datagram.** In every life of a session in which time does not go
back, and in which fewer than `2 ^ 64` bytes are sent and received, the statistics are those of the
datagrams that polls returned and of the decodable ones that came in. -/
theorem stats_exact (transport : TransportSettings) (role : SessionRole) (initialSeq : U32)
    (ops : List LifeOp)
    (htimes : Run.Along (Ledger.step transport) NonDecreasing (Ledger.start role initialSeq) ops)
    (hsent : totalSize (Run.run (Ledger.step transport) (Ledger.start role initialSeq) ops).sent <
      2 ^ 64)
    (hreceived : totalSize (Run.run (Ledger.step transport) (Ledger.start role initialSeq)
      ops).received < 2 ^ 64) :
    StatsExact (Run.run (Ledger.step transport) (Ledger.start role initialSeq) ops) := by
  have hbalanced := htimes.invariant BooksAgree (fun _ op h htime => h.step op htime)
    (.start role initialSeq)
  exact hbalanced.exact hsent hreceived

/-- A client that sends its SYN twice, and a PING 500 ms after it was established. -/
def pingedClient : List LifeOp :=
  [.call (.pollTx 0), .call (.pollTx 300),
    .call (.onDatagramReceived
      (controlDatagram 7 (Flag.syn.toFlags ||| Flag.ack.toFlags) 500 101 0) 310),
    .call (.pollTx 310), .call (.pollTx 900),
    .call (.onDatagramReceived (controlDatagram 7 Flag.pong.toFlags 0 101 0) 905)]

theorem pinged_client_stats :
    let r := Run.run (Ledger.step {}) (Ledger.start .client 100) pingedClient
    (r.session.stats.packetsSent = 4 ∧ r.session.stats.retransmissionsSent = 1 ∧
      r.session.stats.packetsReceived = 2 ∧ r.session.stats.latestRttMs = some 5) ∧
    StatsExact r :=
  ⟨by decide +kernel, stats_exact {} .client 100 pingedClient (by decide +kernel)
    (by decide +kernel) (by decide +kernel)⟩

end Rudp
