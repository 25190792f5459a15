import Rudp.TxConservation
import Rudp.RxOrdered

/-!
# The reliable link

A sender and a receiver, joined by a network that loses, duplicates, delays and reorders datagrams
but does not forge them: any datagram the sender ever emitted may arrive at any time, any number of
times, and so may any pair of ack fields the receiver ever emitted. The state keeps both logs, and
the events the receiving application has already taken.
-/

namespace Rudp

open Serial Window TxHandler RxHandler

/-- A step of the link. -/
inductive LinkOp where
  | queue (channelId : U32) (channelType : ChannelType) (payload : Bytes)
  | poll (nowMs : U64) (role : SessionRole) (connId : U32) (state : ConnectionState)
      (rx : RxSessionState)
  | schedule (flags : TxFlags)
  /-- The `n`-th datagram ever emitted arrives at the receiver. -/
  | deliver (n : ℕ) (nowMs : U64)
  /-- The receiver puts its ack fields into a header. -/
  | emitAck
  /-- The `n`-th pair of ack fields ever emitted arrives at the sender. -/
  | remoteAck (n : ℕ)
  /-- The receiving application takes its events. -/
  | drain

structure Link where
  sender : Sender
  rx : RxSessionState
  acks : List (U32 × U64) := []
  drained : List SessionEvent := []

/-- What the receiver makes of a datagram: it is decoded and classified, then handed on. -/
def receiveDatagram (rx : RxSessionState) (datagram : Bytes) (nowMs : U64) : RxSessionState :=
  match decode datagram with
  | none => rx
  | some packet => (onPacket packet nowMs (classifyControlKind packet.header) rx).2

def Link.step (transport : TransportSettings) (l : Link) : LinkOp → Link
  | .queue channelId channelType payload =>
    { l with sender := l.sender.step transport (.queue channelId channelType payload) }
  | .poll nowMs role connId state rx =>
    { l with sender := l.sender.step transport (.poll nowMs role connId state rx) }
  | .schedule flags => { l with sender := l.sender.step transport (.schedule flags) }
  | .deliver n nowMs =>
    match l.sender.emitted[n]? with
    | none => l
    | some e => { l with rx := receiveDatagram l.rx e.datagram nowMs }
  | .emitAck => { l with acks := l.acks ++ [(l.rx.nextExpected, l.rx.receivedBits)] }
  | .remoteAck n =>
    match l.acks[n]? with
    | none => l
    | some (ack, ackBits) => { l with sender := l.sender.step transport (.remoteAck ack ackBits) }
  | .drain =>
    let (events, rx) := drainEvents l.rx
    { l with rx, drained := l.drained ++ events }

/-- Every event the receiver has produced, taken or not. -/
def Link.events (l : Link) : List SessionEvent := l.drained ++ l.rx.pendingEvents

/-- How many sequence numbers the sender has used. -/
def Link.numbered (l : Link) : ℕ := (firsts l.sender.emitted).length

/-- A link at its start: both sides agree on `i`, and nothing has happened. -/
structure LinkStart (i : U32) (l : Link) : Prop where
  nonzero : i ≠ 0
  sender : StartsAt i l.sender.tx
  queued : l.sender.queued = []
  emitted : l.sender.emitted = []
  front : l.rx.nextExpected = i
  bits : l.rx.receivedBits = 0
  buffer : l.rx.orderedReorderBuffer = ∅
  unstarted : l.rx.orderedDeliveryStarted = false
  pending : l.rx.pendingEvents = []
  acks : l.acks = []
  drained : l.drained = []

/-- Sequence number 0 is not passed. -/
def ZeroAhead (i : U32) (l : Link) : Prop := i.toNat + l.numbered < 2 ^ 32

instance (i : U32) (l : Link) : Decidable (ZeroAhead i l) :=
  inferInstanceAs (Decidable (i.toNat + l.numbered < 2 ^ 32))

theorem makeDataEvent_of_sameButAcks {p q : PacketView} (h : SameButAcks p q) :
    makeDataEvent q = makeDataEvent p := by
  obtain ⟨_, _, rfl⟩ := h
  rfl

/-! ## What a step does to either side -/

section Step

variable {transport : TransportSettings} {i : U32} {l : Link}

theorem LinkStart.conserves (h : LinkStart i l) : Conserves transport i l.sender := by
  have hsender : l.sender = { tx := l.sender.tx } := by
    rw [← h.queued, ← h.emitted]
  rw [hsender]
  exact h.sender.conserves transport

theorem LinkStart.zeroAhead (h : LinkStart i l) : ZeroAhead i l := by
  rw [ZeroAhead, Link.numbered, h.emitted]
  exact i.isLt

/-- The sender takes a step of its own, or none. -/
theorem step_sender (op : LinkOp) : (l.step transport op).sender = l.sender ∨
    ∃ txOp, (l.step transport op).sender = l.sender.step transport txOp := by
  cases op with
  | queue channelId channelType payload =>
    exact Or.inr ⟨.queue channelId channelType payload, rfl⟩
  | poll nowMs role connId state rx => exact Or.inr ⟨.poll nowMs role connId state rx, rfl⟩
  | schedule flags => exact Or.inr ⟨.schedule flags, rfl⟩
  | deliver n nowMs =>
    rw [Link.step]
    split <;> exact Or.inl rfl
  | emitAck | drain => exact Or.inl rfl
  | remoteAck n =>
    rw [Link.step]
    split
    · exact Or.inl rfl
    next ack ackBits _ => exact Or.inr ⟨.remoteAck ack ackBits, rfl⟩

theorem Conserves.link (h : Conserves transport i l.sender) (op : LinkOp) :
    Conserves transport i (l.step transport op).sender := by
  rcases step_sender op with hsame | ⟨txOp, hstep⟩
  · rw [hsame]
    exact h
  · rw [hstep]
    exact h.step txOp

/-- The log of numbered packets only grows. -/
theorem firsts_prefix_step (s : Sender) (op : TxOp) :
    firsts s.emitted <+: firsts (s.step transport op).emitted := by
  cases op with
  | poll nowMs role connId state rx =>
    rw [Sender.step, firsts, firsts, List.filterMap_append]
    exact List.prefix_append _ _
  | queue | remoteAck | schedule => exact List.prefix_refl _

theorem firsts_prefix (l : Link) (op : LinkOp) :
    firsts l.sender.emitted <+: firsts (l.step transport op).sender.emitted := by
  rcases step_sender op with hsame | ⟨txOp, hstep⟩
  · rw [hsame]
  · rw [hstep]
    exact firsts_prefix_step l.sender txOp

/-- Entries of a log are found in every later one. -/
theorem getElem?_of_initial {α : Type} {xs ys : List α} (h : xs <+: ys) {j : ℕ} {a : α}
    (hj : xs[j]? = some a) : ys[j]? = some a := by
  obtain ⟨zs, rfl⟩ := h
  rw [List.getElem?_append_left (List.getElem?_eq_some_iff.1 hj).1, hj]

/-- **What arrives was sent.** A datagram of the log is a copy of a numbered packet, or it has
no number and carries 0. -/
theorem Conserves.arrives (h : Conserves transport i l.sender) {n : ℕ} {e : Emission}
    (he : l.sender.emitted[n]? = some e) : ∃ p, decode e.datagram = some p ∧
      (p.isNumbered = true ∧ (∃ j q, (firsts l.sender.emitted)[j]? = some q ∧
          SameButAcks q p ∧ p.header.seq = ahead i j) ∨
        p.isNumbered = false ∧ p.header.seq = 0) := by
  obtain ⟨p, hp, hsource⟩ := h.decodes e (List.mem_of_getElem? he)
  refine ⟨p, hp, ?_⟩
  split_ifs at hsource with hnum
  · obtain ⟨q, hq, hsame⟩ := hsource
    obtain ⟨j, hj⟩ := List.mem_iff_getElem?.1 hq
    refine Or.inl ⟨hnum, j, q, hj, hsame, ?_⟩
    rw [hsame.same.2.2.2.1, h.seqs j q hj]
  · exact Or.inr ⟨by simpa using hnum, hsource⟩

end Step

/-! ## A concrete link -/

/-- A link that starts at 100. -/
def linkAt100 : Link :=
  { sender := { tx := { nextSeq := 100, remoteAck := 100 } }, rx := { nextExpected := 100 } }

theorem linkAt100_start : LinkStart 100 linkAt100 :=
  ⟨by decide, ⟨rfl, rfl, rfl, rfl⟩, rfl, rfl, rfl, rfl, rfl, rfl, rfl, rfl, rfl⟩

/-- A server transmits what it has queued. -/
def pollServer : LinkOp := .poll 0 .server 7 .established {}

end Rudp
