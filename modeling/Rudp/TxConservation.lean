import Rudp.TxWindow
import Rudp.RxWindow

/-!
# Sender conservation

What the log of datagrams says about the requests that were queued. A request moves from the queue
into the map of unacknowledged packets and onto the wire, and from there any number of times onto
the wire again; nothing is lost, reordered, renumbered or altered on the way.

The log is read as a peer reads it: each datagram is decoded. `transmitted` are the requests sent
for the first time, `firsts` the packets that took a sequence number, and `history` follows one
sequence number through its transmissions.
-/

namespace Rudp

open Serial TxHandler

/-! ## Reading the log -/

/-- The packet carries application data. -/
def PacketView.isData (p : PacketView) : Bool := classifyControlKind p.header = .none

/-- The packet took a sequence number. -/
def PacketView.isNumbered (p : PacketView) : Bool :=
  consumesSeq p.header (classifyControlKind p.header)

/-- The request a data packet carries. -/
def PacketView.request (p : PacketView) : SendRequest :=
  { channelId := p.header.channelId
    channelType := p.header.channelType
    payload := p.payload }

/-- The packet, if it goes out for the first time. -/
def Emission.first (e : Emission) : Option PacketView :=
  if e.retransmission then none else decode e.datagram

/-- The application requests transmitted for the first time, in transmission order. -/
def transmitted (log : List Emission) : List SendRequest :=
  log.filterMap fun e => (e.first.filter PacketView.isData).map PacketView.request

/-- The packets that took a sequence number, at their first transmission. -/
def firsts (log : List Emission) : List PacketView :=
  log.filterMap fun e => e.first.filter PacketView.isNumbered

/-- One more datagram in the history of sequence number `k`. -/
def recordSend (k : U32) (acc : Option (PacketView × List PacketView)) (e : Emission) :
    Option (PacketView × List PacketView) :=
  match decode e.datagram with
  | none => acc
  | some p =>
    if p.isNumbered ∧ p.header.seq = k then
      if e.retransmission then acc.map fun sent => (sent.1, sent.2 ++ [p]) else some (p, [])
    else acc

/-- The latest first transmission of sequence number `k`, and its retransmissions since. -/
def history (k : U32) (log : List Emission) : Option (PacketView × List PacketView) :=
  log.foldl (recordSend k) none

/-! ## The log grows -/

/-- The datagram of a packet. -/
def PacketView.sent (p : PacketView) (retransmission : Bool) : Emission :=
  { datagram := encode p.header p.payload, retransmission }

section Log

variable {p : PacketView} {log : List Emission} {retransmission : Bool}

theorem decode_sent (hvalid : isValidHeader p.header = true) :
    decode (p.sent retransmission).datagram = some p := decode_encode hvalid _

theorem first_sent (hvalid : isValidHeader p.header = true) :
    (p.sent retransmission).first = if retransmission = true then none else some p := by
  rw [Emission.first, decode_sent hvalid]
  rfl

theorem transmitted_sent (hvalid : isValidHeader p.header = true) :
    transmitted (log ++ [p.sent retransmission]) =
      transmitted log ++ if retransmission = false ∧ p.isData = true then [p.request] else [] := by
  rw [transmitted, List.filterMap_append]
  congr 1
  cases retransmission
  · cases hdata : p.isData <;> simp [first_sent hvalid, hdata]
  · simp [first_sent hvalid]

theorem firsts_sent (hvalid : isValidHeader p.header = true) :
    firsts (log ++ [p.sent retransmission]) =
      firsts log ++ if retransmission = false ∧ p.isNumbered = true then [p] else [] := by
  rw [firsts, List.filterMap_append]
  congr 1
  cases retransmission
  · cases hnum : p.isNumbered <;> simp [Option.filter, first_sent hvalid, hnum]
  · simp [first_sent hvalid]

theorem history_sent (hvalid : isValidHeader p.header = true) (k : U32) :
    history k (log ++ [p.sent retransmission]) =
      if p.isNumbered = true ∧ p.header.seq = k then
        if retransmission then (history k log).map fun sent => (sent.1, sent.2 ++ [p])
        else some (p, [])
      else history k log := by
  rw [history, List.foldl_concat, recordSend, decode_sent hvalid]
  rfl

/-- A history starts with a first transmission. -/
theorem history_first {k : U32} {again : List PacketView}
    (h : history k log = some (p, again)) : p ∈ firsts log ∧ p.header.seq = k := by
  induction log using List.reverseRecOn generalizing p again with
  | nil => cases h
  | append_singleton log e ih =>
    rw [history, List.foldl_concat, recordSend] at h
    have hold : firsts log ⊆ firsts (log ++ [e]) := by
      rw [firsts, firsts, List.filterMap_append]
      exact List.subset_append_left _ _
    cases hdecode : decode e.datagram with
    | none =>
      rw [hdecode] at h
      exact ⟨hold (ih h).1, (ih h).2⟩
    | some q =>
      simp only [hdecode] at h
      split_ifs at h with hk hre
      · obtain ⟨⟨p', again'⟩, hsent, heq⟩ := Option.map_eq_some_iff.1 h
        obtain ⟨rfl, -⟩ := Prod.mk.inj heq
        exact ⟨hold (ih hsent).1, (ih hsent).2⟩
      · obtain ⟨rfl, -⟩ := Prod.mk.inj (Option.some.inj h)
        refine ⟨?_, hk.2⟩
        rw [firsts, List.filterMap_append]
        refine List.mem_append_right _ ?_
        simp [Emission.first, hre, hdecode, hk.1]
      · exact ⟨hold (ih h).1, (ih h).2⟩

end Log

/-! ## Requests and packets -/

/-- A data packet that took a number carries a request that was transmitted. -/
theorem request_mem_transmitted {log : List Emission} {p : PacketView} (hp : p ∈ firsts log)
    (hdata : p.isData = true) : p.request ∈ transmitted log := by
  obtain ⟨e, he, hfirst⟩ := List.mem_filterMap.1 hp
  refine List.mem_filterMap.2 ⟨e, he, ?_⟩
  obtain ⟨hsome, -⟩ := Option.filter_eq_some_iff.1 hfirst
  simp [hsome, hdata]

/-- If all requests are reliable, the numbered data packets carry all of them. -/
theorem transmitted_eq_firsts {log : List Emission}
    (h : ∀ r ∈ transmitted log, isReliableChannel r.channelType = true) :
    transmitted log = ((firsts log).filter PacketView.isData).map PacketView.request := by
  induction log with
  | nil => rfl
  | cons e log ih =>
    have htail : ∀ r ∈ transmitted log, isReliableChannel r.channelType = true := by
      intro r hr
      refine h r ?_
      rw [transmitted, List.filterMap_cons]
      split
      · exact hr
      · exact List.mem_cons_of_mem _ hr
    specialize ih htail
    cases hfirst : e.first with
    | none => simpa [transmitted, firsts, List.filterMap_cons, hfirst] using ih
    | some p =>
      cases hdata : p.isData with
      | false =>
        cases hnum : p.isNumbered <;>
          simpa [transmitted, firsts, List.filterMap_cons, hfirst, Option.filter, hdata, hnum] using ih
      | true =>
        have hreliable : isReliableChannel p.header.channelType = true := by
          refine h p.request ?_
          simp [transmitted, hfirst, hdata]
        have hnum : p.isNumbered = true := by
          have hkind : classifyControlKind p.header = .none := by simpa [PacketView.isData] using hdata
          simp [PacketView.isNumbered, consumesSeq, hkind, hreliable]
        simpa [transmitted, firsts, List.filterMap_cons, hfirst, Option.filter, hdata, hnum] using ih

/-- In any case they carry some of them, in order. -/
theorem firsts_requests_sublist (log : List Emission) :
    List.Sublist (((firsts log).filter PacketView.isData).map PacketView.request)
      (transmitted log) := by
  induction log with
  | nil => exact List.Sublist.refl _
  | cons e log ih =>
    cases hfirst : e.first with
    | none => simpa [transmitted, firsts, List.filterMap_cons, hfirst] using ih
    | some p =>
      cases hdata : p.isData <;> cases hnum : p.isNumbered <;>
        simp [transmitted, firsts, hfirst, Option.filter, hdata, hnum] at ih ⊢
      all_goals first | exact ih | exact ih.cons _

/-! ## The packets `poll` builds -/

theorem isValidHeader_of_flags {header : Header} (hlen : header.headerLen = kHeaderLength)
    (hreserved : header.reserved = 0) (hflags : header.flags &&& 0xc0 = 0) :
    isValidHeader header = true := by
  rw [isValidHeader, if_neg (not_not.2 hlen), if_neg (not_not.2 hreserved)]
  cases header.channelType <;> exact decide_eq_true hflags

/-- The classification reads the flags and nothing else. -/
theorem classifyControlKind_of_flags {header : Header} {flags : Flags} (h : header.flags = flags) :
    classifyControlKind header = classifyControlKind { flags } := by
  subst h
  rfl

section Packets

variable {role : SessionRole} {state : ConnectionState} {tx : TxSessionState} {flags : Flags}
  {connId : U32} {rx : RxSessionState} {seq : U32} {request : SendRequest}

theorem isValidHeader_controlPacket (h : flags &&& 0xc0 = 0) :
    isValidHeader (controlPacket connId flags rx seq).header = true :=
  isValidHeader_of_flags rfl rfl h

/-- The control frames that take a sequence number. -/
theorem ControlCause.kind {synAckPending finPending : Bool}
    (h : ControlCause role state tx flags synAckPending finPending) :
    isValidHeader (controlPacket connId flags rx seq).header = true ∧
      (classifyControlKind (controlPacket connId flags rx seq).header = .syn ∨
        classifyControlKind (controlPacket connId flags rx seq).header = .synAck ∨
        classifyControlKind (controlPacket connId flags rx seq).header = .fin) := by
  have hkind : classifyControlKind (controlPacket connId flags rx seq).header =
      classifyControlKind { flags } := classifyControlKind_of_flags rfl
  rw [hkind]
  cases h with
  | syn => exact ⟨isValidHeader_controlPacket (by decide), Or.inl rfl⟩
  | synAck => exact ⟨isValidHeader_controlPacket (by decide), Or.inr (Or.inl rfl)⟩
  | fin => exact ⟨isValidHeader_controlPacket (by decide), Or.inr (Or.inr rfl)⟩

theorem ControlCause.packet {synAckPending finPending : Bool}
    (h : ControlCause role state tx flags synAckPending finPending) :
    (controlPacket connId flags rx seq).isNumbered = true ∧
      (controlPacket connId flags rx seq).isData = false := by
  obtain ⟨-, hkind⟩ : _ ∧ (classifyControlKind (controlPacket connId flags rx seq).header = .syn ∨
    _ ∨ _) := h.kind
  rcases hkind with hk | hk | hk <;> simp [PacketView.isNumbered, PacketView.isData, consumesSeq, hk]

/-- The control frames that take none. -/
theorem bare_packet
    (h : flags = Flag.ack.toFlags ∨ flags = Flag.ping.toFlags ∨ flags = Flag.pong.toFlags) :
    isValidHeader (controlPacket connId flags rx seq).header = true ∧
      (controlPacket connId flags rx seq).isNumbered = false ∧
      (controlPacket connId flags rx seq).isData = false := by
  have hkind : classifyControlKind (controlPacket connId flags rx seq).header =
      classifyControlKind { flags } := classifyControlKind_of_flags rfl
  rw [PacketView.isNumbered, PacketView.isData, hkind]
  rcases h with rfl | rfl | rfl
  · exact ⟨isValidHeader_controlPacket (by decide), rfl, by decide⟩
  · exact ⟨isValidHeader_controlPacket (by decide), rfl, by decide⟩
  · exact ⟨isValidHeader_controlPacket (by decide), rfl, by decide⟩

/-- The packet of a request is data, and takes a number if its channel is reliable. -/
theorem requestPacket_packet :
    isValidHeader (requestPacket request connId rx seq).header = true ∧
      (requestPacket request connId rx seq).isNumbered = isReliableChannel request.channelType ∧
      (requestPacket request connId rx seq).isData = true ∧
      (requestPacket request connId rx seq).request = request := by
  have hkind : classifyControlKind (requestPacket request connId rx seq).header = .none :=
    (classifyControlKind_of_flags (show _ = (0 : Flags) from rfl)).trans (by decide)
  refine ⟨isValidHeader_of_flags rfl rfl (by simp [requestPacket]), ?_, ?_, rfl⟩
  · rw [PacketView.isNumbered, hkind]
    simp [consumesSeq, requestPacket]
  · simp [PacketView.isData, hkind]

end Packets

/-- Ack fields do not change what a packet is. -/
theorem SameButAcks.same {p q : PacketView} (h : SameButAcks p q) :
    isValidHeader q.header = isValidHeader p.header ∧ q.isNumbered = p.isNumbered ∧
      q.isData = p.isData ∧ q.header.seq = p.header.seq ∧ q.request = p.request := by
  obtain ⟨_, _, rfl⟩ := h
  exact ⟨rfl, rfl, rfl, rfl, rfl⟩

theorem refresh_sameButAcks (rx : RxSessionState) (p : PacketView) :
    SameButAcks p (refresh rx p) := ⟨_, _, rfl⟩

section Fresh

variable {transport : TransportSettings} {nowMs : U64} {role : SessionRole} {connId : U32}
  {state : ConnectionState} {rx : RxSessionState} {tx tx' : TxSessionState}
  {result : TxPollResult} {p : PacketView}

/-- A packet that `poll` builds anew. -/
inductive FreshPacket (role : SessionRole) (connId : U32) (state : ConnectionState)
    (rx : RxSessionState) (tx : TxSessionState) : PacketView → Prop where
  | bare {flags : Flags}
      (hflags : flags = Flag.ack.toFlags ∨ flags = Flag.ping.toFlags ∨ flags = Flag.pong.toFlags) :
      FreshPacket role connId state rx tx (controlPacket connId flags rx 0)
  | control {flags : Flags} {synAckPending finPending : Bool}
      (hcause : ControlCause role state tx flags synAckPending finPending) :
      FreshPacket role connId state rx tx (controlPacket connId flags rx tx.nextSeq)
  | request {request : SendRequest} {rest : List SendRequest} {seq : U32}
      (hpending : tx.pendingSend = request :: rest) :
      FreshPacket role connId state rx tx (requestPacket request connId rx seq)

theorem FreshPacket.valid (h : FreshPacket role connId state rx tx p) :
    isValidHeader p.header = true := by
  cases h with
  | bare hflags => exact (bare_packet hflags).1
  | control hcause => exact hcause.kind.1
  | request => exact requestPacket_packet.1

theorem FreshPacket.connId_eq (h : FreshPacket role connId state rx tx p) :
    p.header.connId = connId := by
  cases h <;> rfl

/-- **What `poll` puts on the wire**: a packet built anew, or one in flight with new ack fields. -/
theorem PollEffect.sent (h : PollEffect transport nowMs role connId state rx tx result tx')
    {datagram : Bytes} (hd : result.datagram = some datagram) :
    ∃ p, datagram = encode p.header p.payload ∧ (FreshPacket role connId state rx tx p ∨
      ∃ (k : U32) (entry : TxEntry), tx.inflight[k]? = some entry ∧ p = refresh rx entry.packet) := by
  cases h with
  | idle | fatal => cases hd
  | bare hflags => exact ⟨_, (Option.some.inj hd).symm, Or.inl (.bare hflags)⟩
  | control hcause => exact ⟨_, (Option.some.inj hd).symm, Or.inl (.control hcause)⟩
  | unreliable hpending =>
    exact ⟨requestPacket _ connId rx 0, (Option.some.inj hd).symm, Or.inl (.request hpending)⟩
  | data hpending =>
    exact ⟨requestPacket _ connId rx tx.nextSeq, (Option.some.inj hd).symm,
      Or.inl (.request hpending)⟩
  | retransmit hget =>
    exact ⟨refresh rx _, (Option.some.inj hd).symm, Or.inr ⟨_, _, hget, rfl⟩⟩

end Fresh

/-! ## The invariant -/

/-- An entry in flight under key `k` is the latest packet that took `k`, with the number of its
retransmissions. -/
structure EntryOk (log : List Emission) (k : U32) (entry : TxEntry) : Prop where
  valid : isValidHeader entry.packet.header = true
  numbered : entry.packet.isNumbered = true
  seq : entry.packet.header.seq = k
  history : ∃ p again, history k log = some (p, again) ∧ SameButAcks p entry.packet ∧
    again.length = entry.retryCount.toNat

/-- What holds of a sender that numbered its first packet `i`. -/
structure Conserves (transport : TransportSettings) (i : U32) (s : Sender) : Prop where
  window : WindowBound s.tx
  requests : transmitted s.emitted ++ s.tx.pendingSend = s.queued
  nextSeq : s.tx.nextSeq = ahead i (firsts s.emitted).length
  seqs : ∀ (j : ℕ) (p : PacketView), (firsts s.emitted)[j]? = some p → p.header.seq = ahead i j
  decodes : ∀ e ∈ s.emitted, ∃ p, decode e.datagram = some p ∧
    if p.isNumbered = true then ∃ q ∈ firsts s.emitted, SameButAcks q p else p.header.seq = 0
  entries : ∀ (k : U32) (entry : TxEntry), s.tx.inflight[k]? = some entry →
    EntryOk s.emitted k entry
  retries : ∀ (k : U32) (p : PacketView) (again : List PacketView),
    history k s.emitted = some (p, again) →
      (∀ q ∈ again, SameButAcks p q) ∧ again.length ≤ transport.maxRetransmitCount.toNat
  orphans : ∀ (pre : List Emission) (e : Emission) (post : List Emission),
    s.emitted = pre ++ e :: post → e.retransmission = true →
      ∃ q, decode e.datagram = some q ∧ q.isNumbered = true ∧
        (history q.header.seq pre).isSome = true

theorem StartsAt.conserves (transport : TransportSettings) {i : U32} {tx : TxSessionState}
    (h : StartsAt i tx) : Conserves transport i { tx } where
  window := h.windowBound
  requests := by rw [h.pendingSend]; rfl
  nextSeq := by rw [h.nextSeq]; exact (ahead_zero i).symm
  seqs := fun j p hp => by simp [firsts] at hp
  decodes := fun e he => by cases he
  entries := fun k entry hk => by simp [h.inflight] at hk
  retries := fun k p again hk => by cases hk
  orphans := fun pre e post hsplit => by simp at hsplit

section Step

variable {transport : TransportSettings} {i : U32} {s s' : Sender}

/-- Nothing goes out, and nothing in flight changes but evidence, or leaves. -/
theorem Conserves.silent (h : Conserves transport i s) (hlog : s'.emitted = s.emitted)
    (hwindow : WindowBound s'.tx) (hnext : s'.tx.nextSeq = s.tx.nextSeq)
    (hrequests : transmitted s.emitted ++ s'.tx.pendingSend = s'.queued)
    (hentries : ∀ (k : U32) (entry' : TxEntry), s'.tx.inflight[k]? = some entry' →
      ∃ entry, s.tx.inflight[k]? = some entry ∧ entry'.packet = entry.packet ∧
        entry'.retryCount = entry.retryCount) :
    Conserves transport i s' where
  window := hwindow
  requests := by rw [hlog, hrequests]
  nextSeq := by rw [hnext, hlog, h.nextSeq]
  seqs := by rw [hlog]; exact h.seqs
  decodes := by rw [hlog]; exact h.decodes
  entries := fun k entry' hk => by
    obtain ⟨entry, hentry, hpacket, hretry⟩ := hentries k entry' hk
    have hok := h.entries k entry hentry
    rw [hlog]
    exact ⟨hpacket ▸ hok.valid, hpacket ▸ hok.numbered, hpacket ▸ hok.seq,
      hpacket ▸ hretry ▸ hok.history⟩
  retries := by rw [hlog]; exact h.retries
  orphans := by rw [hlog]; exact h.orphans

/-- The first packets of a log stay its first packets. -/
theorem firsts_subset (log : List Emission) (e : Emission) : firsts log ⊆ firsts (log ++ [e]) := by
  rw [firsts, firsts, List.filterMap_append]
  exact List.subset_append_left _ _

/-- Every datagram of a log that grew by a first transmission has its source in the log. -/
theorem decodes_concat {log : List Emission} {e : Emission} {p : PacketView}
    (h : ∀ e ∈ log, ∃ p, decode e.datagram = some p ∧
      if p.isNumbered = true then ∃ q ∈ firsts log, SameButAcks q p else p.header.seq = 0)
    (hdecode : decode e.datagram = some p)
    (hp : if p.isNumbered = true then ∃ q ∈ firsts (log ++ [e]), SameButAcks q p
      else p.header.seq = 0) :
    ∀ e' ∈ log ++ [e], ∃ p, decode e'.datagram = some p ∧
      if p.isNumbered = true then ∃ q ∈ firsts (log ++ [e]), SameButAcks q p
      else p.header.seq = 0 := by
  intro e' he'
  rcases List.mem_append.1 he' with hold | hnew
  · obtain ⟨p', hp', hsource⟩ := h e' hold
    refine ⟨p', hp', ?_⟩
    split_ifs at hsource ⊢
    · obtain ⟨q, hq, hsame⟩ := hsource
      exact ⟨q, firsts_subset log e hq, hsame⟩
    · exact hsource
  · rw [List.mem_singleton.1 hnew]
    exact ⟨p, hdecode, hp⟩

/-- A packet without a number goes out: a bare control frame or unreliable data. -/
theorem Conserves.bare (h : Conserves transport i s) {p : PacketView}
    (hvalid : isValidHeader p.header = true) (hp : p.isNumbered = false) (hzero : p.header.seq = 0)
    (hlog : s'.emitted = s.emitted ++ [p.sent false]) (hwindow : WindowBound s'.tx)
    (hnext : s'.tx.nextSeq = s.tx.nextSeq) (hinflight : s'.tx.inflight = s.tx.inflight)
    (hrequests : transmitted s'.emitted ++ s'.tx.pendingSend = s'.queued) :
    Conserves transport i s' := by
  have hhistory : ∀ k, history k s'.emitted = history k s.emitted := by
    intro k
    rw [hlog, history_sent hvalid, if_neg (by simp [hp])]
  have hfirsts : firsts s'.emitted = firsts s.emitted := by
    rw [hlog, firsts_sent hvalid, if_neg (by simp [hp]), List.append_nil]
  refine ⟨hwindow, hrequests, by rw [hnext, hfirsts, h.nextSeq], by rw [hfirsts]; exact h.seqs,
    ?_, fun k entry hk => ?_, fun k => by rw [hhistory]; exact h.retries k, ?_⟩
  · rw [hlog]
    exact decodes_concat h.decodes (decode_sent hvalid) (by simp [hp, hzero])
  · rw [hinflight] at hk
    obtain ⟨hv, hn, hseq, hhist⟩ := h.entries k entry hk
    exact ⟨hv, hn, hseq, by rw [hhistory]; exact hhist⟩
  · intro pre e post hsplit hre
    rw [hlog] at hsplit
    rcases Run.concat_eq_split hsplit with ⟨-, rfl⟩ | ⟨post', hold⟩
    · cases hre
    · exact h.orphans pre e post' hold hre

/-- A packet takes the next sequence number. -/
theorem Conserves.numbered (h : Conserves transport i s) {p : PacketView} {nowMs : U64}
    (hvalid : isValidHeader p.header = true) (hp : p.isNumbered = true)
    (hseq : p.header.seq = s.tx.nextSeq)
    (hlog : s'.emitted = s.emitted ++ [p.sent false]) (hwindow : WindowBound s'.tx)
    (hnext : s'.tx.nextSeq = s.tx.nextSeq + 1)
    (hinflight : s'.tx.inflight = s.tx.inflight.insertIfNew s.tx.nextSeq (newEntry p nowMs))
    (hrequests : transmitted s'.emitted ++ s'.tx.pendingSend = s'.queued) :
    Conserves transport i s' := by
  have hhistory : ∀ k, history k s'.emitted =
      if s.tx.nextSeq = k then some (p, []) else history k s.emitted := by
    intro k
    rw [hlog, history_sent hvalid, hseq]
    simp [hp]
  have hfirsts : firsts s'.emitted = firsts s.emitted ++ [p] := by
    rw [hlog, firsts_sent hvalid, if_pos ⟨rfl, hp⟩]
  refine ⟨hwindow, hrequests, ?_, fun j q hq => ?_, ?_, fun k entry hk => ?_,
    fun k q again hk => ?_, ?_⟩
  · rw [hnext, hfirsts, List.length_append, List.length_singleton, ahead_succ, h.nextSeq]
  · rw [hfirsts] at hq
    rcases Run.getElem?_concat.1 hq with hold | ⟨rfl, rfl⟩
    · exact h.seqs j q hold
    · rw [hseq, h.nextSeq]
  · rw [hlog]
    refine decodes_concat h.decodes (decode_sent hvalid) ?_
    rw [if_pos hp, ← hlog, hfirsts]
    exact ⟨p, by simp, .refl p⟩
  · rw [hinflight, SeqMap.getElem?_insertIfNew] at hk
    split_ifs at hk with hnew
    · obtain rfl := Option.some.inj hk
      refine ⟨hvalid, hp, hseq.trans hnew.1, p, [], ?_, .refl p, rfl⟩
      rw [hhistory, if_pos hnew.1]
    · -- The slot of the next number is free, so an old entry has another key.
      have hne : s.tx.nextSeq ≠ k := by
        rintro rfl
        rw [h.window.next_free] at hk
        cases hk
      obtain ⟨hv, hn, hkseq, hhist⟩ := h.entries k entry hk
      exact ⟨hv, hn, hkseq, by rw [hhistory, if_neg hne]; exact hhist⟩
  · rw [hhistory] at hk
    split_ifs at hk
    · obtain ⟨rfl, rfl⟩ := Prod.mk.inj (Option.some.inj hk)
      exact ⟨fun q hq => (nomatch hq), Nat.zero_le _⟩
    · exact h.retries k q again hk
  · intro pre e post hsplit hre
    rw [hlog] at hsplit
    rcases Run.concat_eq_split hsplit with ⟨-, rfl⟩ | ⟨post', hold⟩
    · cases hre
    · exact h.orphans pre e post' hold hre

/-- A packet in flight goes out again, with new ack fields. -/
theorem Conserves.again (h : Conserves transport i s) {seq : U32} {entry entry' : TxEntry}
    {p : PacketView} (hget : s.tx.inflight[seq]? = some entry)
    (hretry : entry.retryCount < transport.maxRetransmitCount)
    (hp : SameButAcks entry.packet p) (hpacket : entry'.packet = p)
    (hcount : entry'.retryCount = entry.retryCount + 1)
    (hlog : s'.emitted = s.emitted ++ [p.sent true]) (hwindow : WindowBound s'.tx)
    (hnext : s'.tx.nextSeq = s.tx.nextSeq)
    (hinflight : s'.tx.inflight = s.tx.inflight.insert seq entry')
    (hrequests : transmitted s.emitted ++ s'.tx.pendingSend = s'.queued) :
    Conserves transport i s' := by
  obtain ⟨hev, hen, heseq, q, again, hq, hsame, hlength⟩ := h.entries seq entry hget
  obtain ⟨hvalid, hnum, -, hseq, -⟩ := hp.same
  rw [hev] at hvalid
  rw [hen] at hnum
  rw [heseq] at hseq
  have hlt : entry.retryCount.toNat < transport.maxRetransmitCount.toNat := BitVec.lt_def.1 hretry
  have hcount' : entry'.retryCount.toNat = entry.retryCount.toNat + 1 := by
    rw [hcount, BitVec.toNat_add]
    have := transport.maxRetransmitCount.isLt
    simp only [BitVec.ofNat_eq_ofNat, BitVec.toNat_ofNat]
    omega
  have hhistory : ∀ k, history k s'.emitted =
      if seq = k then some (q, again ++ [p]) else history k s.emitted := by
    intro k
    rw [hlog, history_sent hvalid, hseq]
    by_cases hk : seq = k
    · subst hk
      simp [hnum, hq]
    · simp [hk]
  have hfirsts : firsts s'.emitted = firsts s.emitted := by
    rw [hlog, firsts_sent hvalid, if_neg (by simp), List.append_nil]
  refine ⟨hwindow, ?_, by rw [hnext, hfirsts, h.nextSeq], by rw [hfirsts]; exact h.seqs, ?_,
    fun k e hk => ?_, fun k r rs hk => ?_, ?_⟩
  · rw [hlog, transmitted_sent hvalid, if_neg (by simp), List.append_nil, hrequests]
  · rw [hlog]
    refine decodes_concat h.decodes (decode_sent hvalid) ?_
    rw [if_pos hnum, ← hlog, hfirsts]
    exact ⟨q, (history_first hq).1, hsame.trans hp⟩
  · rw [hinflight, SeqMap.getElem?_insert] at hk
    split_ifs at hk with heq
    · obtain rfl := Option.some.inj hk
      refine ⟨hpacket ▸ hvalid, hpacket ▸ hnum, by rw [hpacket, hseq, heq], q, again ++ [p], ?_,
        hpacket ▸ hsame.trans hp, ?_⟩
      · rw [hhistory, if_pos heq]
      · rw [List.length_append, List.length_singleton, hlength, hcount']
    · obtain ⟨hv, hn, hkseq, hhist⟩ := h.entries k e hk
      exact ⟨hv, hn, hkseq, by rw [hhistory, if_neg heq]; exact hhist⟩
  · rw [hhistory] at hk
    split_ifs at hk
    · obtain ⟨rfl, rfl⟩ := Prod.mk.inj (Option.some.inj hk)
      refine ⟨fun r hr => ?_, ?_⟩
      · rcases List.mem_append.1 hr with hold | hnew
        · exact (h.retries seq q again hq).1 r hold
        · rw [List.mem_singleton.1 hnew]
          exact hsame.trans hp
      · rw [List.length_append, List.length_singleton, hlength]
        omega
    · exact h.retries k r rs hk
  · intro pre e post hsplit hre
    rw [hlog] at hsplit
    rcases Run.concat_eq_split hsplit with ⟨rfl, rfl⟩ | ⟨post', hold⟩
    · exact ⟨p, decode_sent hvalid, hnum, by rw [hseq, hq]; rfl⟩
    · exact h.orphans pre e post' hold hre

/-- **Any poll** conserves. -/
theorem Conserves.pollEffect (h : Conserves transport i s) {nowMs : U64} {role : SessionRole}
    {connId : U32} {state : ConnectionState} {rx : RxSessionState} {result : TxPollResult}
    {tx' : TxSessionState}
    (heffect : PollEffect transport nowMs role connId state rx s.tx result tx') :
    Conserves transport i { s with tx := tx', emitted := s.emitted ++ result.emissions } := by
  have hwindow := h.window.pollEffect heffect
  have hrequests := h.requests
  cases heffect with
  | idle => simpa [TxPollResult.emissions] using h
  | bare hflags htx =>
    obtain ⟨hvalid, hnum, hdata⟩ : isValidHeader (controlPacket connId _ rx 0).header = true ∧ _ :=
      bare_packet hflags
    refine h.bare hvalid hnum rfl rfl hwindow (by rw [htx]) (by rw [htx]) ?_
    show transmitted (s.emitted ++ [PacketView.sent _ false]) ++ _ = _
    rw [transmitted_sent hvalid, hdata, if_neg (by simp), List.append_nil, htx]
    exact hrequests
  | control hcause hopen =>
    have hvalid : isValidHeader (controlPacket connId _ rx s.tx.nextSeq).header = true :=
      hcause.kind.1
    obtain ⟨hnum, hdata⟩ : (controlPacket connId _ rx s.tx.nextSeq).isNumbered = true ∧ _ :=
      hcause.packet
    refine h.numbered hvalid hnum rfl rfl hwindow rfl rfl ?_
    show transmitted (s.emitted ++ [PacketView.sent _ false]) ++ _ = _
    rw [transmitted_sent hvalid, hdata, if_neg (by simp), List.append_nil]
    exact hrequests
  | @unreliable request rest hpending hchannel =>
    obtain ⟨hvalid, hnum, hdata, hrequest⟩ :
      isValidHeader (requestPacket request connId rx 0).header = true ∧ _ := requestPacket_packet
    refine h.bare hvalid (hnum.trans hchannel) rfl rfl hwindow rfl rfl ?_
    show transmitted (s.emitted ++ [PacketView.sent _ false]) ++ _ = _
    rw [transmitted_sent hvalid, if_pos ⟨rfl, hdata⟩, hrequest, List.append_assoc]
    rw [hpending] at hrequests
    exact hrequests
  | @data request rest hpending hchannel hopen =>
    obtain ⟨hvalid, hnum, hdata, hrequest⟩ :
      isValidHeader (requestPacket request connId rx s.tx.nextSeq).header = true ∧ _ :=
      requestPacket_packet
    refine h.numbered hvalid (hnum.trans hchannel) rfl rfl hwindow rfl rfl ?_
    show transmitted (s.emitted ++ [PacketView.sent _ false]) ++ _ = _
    rw [transmitted_sent hvalid, if_pos ⟨rfl, hdata⟩, hrequest, List.append_assoc]
    rw [hpending] at hrequests
    exact hrequests
  | retransmit hget hretry _ =>
    exact h.again hget hretry (refresh_sameButAcks rx _) rfl rfl rfl hwindow rfl rfl hrequests
  | fatal _ _ =>
    refine h.silent (by simp [TxPollResult.emissions]) hwindow rfl hrequests fun k entry hk => ?_
    rw [SeqMap.getElem?_erase] at hk
    split_ifs at hk
    exact ⟨entry, hk, rfl, rfl⟩

/-- **One step** conserves. -/
theorem Conserves.step (h : Conserves transport i s) (op : TxOp) :
    Conserves transport i (s.step transport op) := by
  have hwindow : WindowBound (s.step transport op).tx := h.window.step op
  cases op with
  | queue channelId channelType payload =>
    refine h.silent rfl hwindow rfl ?_ fun k entry hk => ⟨entry, hk, rfl, rfl⟩
    rw [Sender.step, queueAppData, ← List.append_assoc, h.requests]
  | poll nowMs role connId state rx => exact h.pollEffect poll_effect
  | remoteAck ack ackBits =>
    have hack := onRemoteAck_acknowledges transport ack ackBits s.tx
    refine h.silent rfl hwindow ?_ ?_ hack.entries
    · rw [Sender.step, hack.state]
    · rw [Sender.step, hack.state]
      exact h.requests
  | schedule flags =>
    exact h.silent rfl hwindow rfl h.requests fun k entry hk => ⟨entry, hk, rfl, rfl⟩

end Step

/-! ## Leaving the map -/

/-- What one operation does to the packets in flight: a number that is assigned enters the map,
and a number leaves it only by an acknowledgement that covers it or by a poll that reports a fatal
error. -/
structure KeepsInFlight (transport : TransportSettings) (s : Sender) (op : TxOp) : Prop where
  enters : ∀ p, firsts (s.step transport op).emitted = firsts s.emitted ++ [p] →
    (s.step transport op).tx.inflight[p.header.seq]? ≠ none
  leaves : ∀ k : U32, s.tx.inflight[k]? ≠ none →
    (s.step transport op).tx.inflight[k]? = none →
      (∃ ack ackBits, op = .remoteAck ack ackBits ∧
        isAcknowledgedByRemote k ack ackBits = true) ∨
      ∃ nowMs role connId state rx, op = .poll nowMs role connId state rx ∧
        (TxHandler.poll transport nowMs role connId state rx s.tx).1.fatalError = true

/-- A number that `poll` removes was given up with a fatal error. -/
theorem PollEffect.leaves {transport : TransportSettings} {nowMs : U64} {role : SessionRole}
    {connId : U32} {state : ConnectionState} {rx : RxSessionState} {tx tx' : TxSessionState}
    {result : TxPollResult} (h : PollEffect transport nowMs role connId state rx tx result tx')
    {k : U32} (hk : tx.inflight[k]? ≠ none) (hgone : tx'.inflight[k]? = none) :
    result.fatalError = true := by
  have hnumbered : ∀ packet, (sendNumbered tx packet nowMs).inflight[k]? ≠ none := by
    intro packet
    rw [sendNumbered, SeqMap.getElem?_insertIfNew]
    split_ifs
    · exact Option.some_ne_none _
    · exact hk
  cases h with
  | idle => exact absurd hgone hk
  | bare _ htx =>
    rw [htx] at hgone
    exact absurd hgone hk
  | control _ _ => exact absurd hgone (hnumbered _)
  | unreliable _ _ => exact absurd hgone hk
  | data _ _ _ => exact absurd hgone (hnumbered _)
  | retransmit _ _ _ =>
    rw [SeqMap.getElem?_insert] at hgone
    split_ifs at hgone
    exact absurd hgone hk
  | fatal _ _ => rfl

theorem Conserves.keepsInFlight {transport : TransportSettings} {i : U32} {s : Sender}
    (h : Conserves transport i s) (op : TxOp) : KeepsInFlight transport s op := by
  refine ⟨fun p hp => ?_, fun k hk hgone => ?_⟩
  · have h' := h.step op
    have hseq : p.header.seq = s.tx.nextSeq := by
      rw [h'.seqs (firsts s.emitted).length p (by rw [hp]; simp), h.nextSeq]
    have hnext : (s.step transport op).tx.nextSeq = s.tx.nextSeq + 1 := by
      rw [h'.nextSeq, hp, List.length_append, List.length_singleton, ahead_succ, h.nextSeq]
    have hne : (s.step transport op).tx.nextSeq ≠ s.tx.nextSeq := by
      rw [hnext]
      simp
    cases op with
    | poll nowMs role connId state rx =>
      obtain ⟨-, packet, -, -, hstored⟩ := h.window.storesNumbered nowMs role connId state rx hne
      rw [hseq]
      exact fun hnone => Option.some_ne_none _ (hstored.symm.trans hnone)
    | queue channelId channelType payload => exact absurd rfl hne
    | remoteAck ack ackBits =>
      refine absurd ?_ hne
      rw [Sender.step, (onRemoteAck_acknowledges transport ack ackBits s.tx).state]
    | schedule flags => exact absurd rfl hne
  · cases op with
    | queue channelId channelType payload => exact absurd hgone hk
    | poll nowMs role connId state rx =>
      exact Or.inr ⟨nowMs, role, connId, state, rx, rfl, poll_effect.leaves hk hgone⟩
    | remoteAck ack ackBits =>
      have hkeys := ((onRemoteAck_acknowledges transport ack ackBits s.tx).keys k).1 hgone
      exact Or.inl ⟨ack, ackBits, rfl, hkeys.resolve_left hk⟩
    | schedule flags => exact absurd hgone hk

/-! ## Every run -/

/-- **Sender conservation.** In every run from a fresh state:

1. the requests transmitted for the first time, in order, followed by those still pending, are
   exactly the requests queued, in order;
2. the packets that take a sequence number take `i`, `i + 1`, `i + 2` and so on, and every other
   datagram carries 0;
3. a number that is assigned stays in flight until it is acknowledged or given up;
4. every retransmission repeats the packet that took its number, up to the ack fields, and there
   are at most `max_retransmit_count` of them. -/
theorem sender_conserves (transport : TransportSettings) {i : U32} {tx : TxSessionState}
    (hstart : StartsAt i tx) (ops : List TxOp) :
    let s := Run.run (Sender.step transport) { tx } ops
    transmitted s.emitted ++ s.tx.pendingSend = s.queued ∧
      ((firsts s.emitted).map (fun p => p.header.seq) =
          (List.range (firsts s.emitted).length).map (ahead i) ∧
        ∀ e ∈ s.emitted, ∃ p, decode e.datagram = some p ∧
          (p.isNumbered = false → p.header.seq = 0)) ∧
      (∀ op, KeepsInFlight transport s op) ∧
      (∀ k p again, history k s.emitted = some (p, again) →
          (∀ q ∈ again, SameButAcks p q) ∧
            again.length ≤ transport.maxRetransmitCount.toNat) ∧
        ∀ pre e post, s.emitted = pre ++ e :: post → e.retransmission = true →
          ∃ q, decode e.datagram = some q ∧ (history q.header.seq pre).isSome = true := by
  intro s
  have h : Conserves transport i s :=
    Run.invariant (Conserves transport i) (fun _ op hs => hs.step op) (hstart.conserves transport) ops
  refine ⟨h.requests, ⟨?_, fun e he => ?_⟩, h.keepsInFlight, h.retries, fun pre e post hsplit hre => ?_⟩
  · refine List.ext_getElem? fun j => ?_
    rw [List.getElem?_map, List.getElem?_map]
    rcases Nat.lt_or_ge j (firsts s.emitted).length with hj | hj
    · rw [List.getElem?_range hj, List.getElem?_eq_getElem hj]
      exact congrArg some (h.seqs j _ (List.getElem?_eq_getElem hj))
    · rw [List.getElem?_eq_none hj, List.getElem?_eq_none (by simpa using hj)]
      rfl
  · obtain ⟨p, hp, hsource⟩ := h.decodes e he
    refine ⟨p, hp, fun hnum => ?_⟩
    simpa [hnum] using hsource
  · obtain ⟨q, hq, -, hhist⟩ := h.orphans pre e post hsplit hre
    exact ⟨q, hq, hhist⟩

/-- A server that queues two packets, sends both and repeats the first one after a timeout. -/
theorem sender_conserves_retransmission :
    let s := Run.run (Sender.step {}) { tx := { nextSeq := 9, remoteAck := 9 } }
      [.queue 1 .reliableOrdered [0x01], .queue 2 .unreliable [0x02],
        .poll 0 .server 7 .established {}, .poll 0 .server 7 .established {},
        .poll 300 .server 7 .established {}]
    transmitted s.emitted ++ s.tx.pendingSend = s.queued := 
  (sender_conserves {} ⟨rfl, rfl, rfl, rfl⟩ _).1

end Rudp
