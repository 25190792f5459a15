import Rudp.SessionStep
import Rudp.TxConservation

/-!
# What a session puts on the wire

A session sends packets it builds, and packets in flight with new ack fields. So a property of
packets that does not look at the ack fields, and that holds of all packets the session builds, holds
of everything it ever has in flight and of everything it ever sends.
-/

namespace Rudp

open TxHandler Session

/-- The packets in flight have the property. -/
def InFlight (P : PacketView → Prop) (tx : TxSessionState) : Prop :=
  ∀ (k : U32) (entry : TxEntry), tx.inflight[k]? = some entry → P entry.packet

section InFlight

variable {P Q : PacketView → Prop} {tx tx' : TxSessionState}

theorem InFlight.mono (h : InFlight P tx) (hPQ : ∀ p, P p → Q p) : InFlight Q tx :=
  fun k entry hget => hPQ _ (h k entry hget)

theorem InFlight.sameCore (h : InFlight P tx) (hsame : SameCore tx tx') : InFlight P tx' :=
  fun k entry hget => h k entry (hsame.inflight ▸ hget)

/-- Acknowledged packets leave, and no packet comes. -/
theorem InFlight.acknowledges (h : InFlight P tx) {ack : U32} {ackBits : U64}
    {result : TxAckResult} (hack : Acknowledges ack ackBits tx tx' result) : InFlight P tx' := by
  intro k entry' hget'
  obtain ⟨entry, hget, hpacket, -⟩ := hack.entries k entry' hget'
  rw [hpacket]
  exact h k entry hget

theorem inFlight_empty {role : SessionRole} {initialSeq : U32} :
    InFlight P (Session.init role initialSeq).tx := by
  intro k entry hget
  simp [Session.init] at hget

end InFlight

/-! ## One poll -/

section Poll

variable {transport : TransportSettings} {nowMs : U64} {role : SessionRole} {connId : U32}
  {state : ConnectionState} {rx : RxSessionState} {tx tx' : TxSessionState} {result : TxPollResult}

/-- A packet in flight was in flight before, up to its ack fields, or it has just been sent. -/
theorem PollEffect.inFlight_cases
    (h : PollEffect transport nowMs role connId state rx tx result tx') {k : U32} {entry' : TxEntry}
    (hget : tx'.inflight[k]? = some entry') :
    (∃ (j : U32) (entry : TxEntry), tx.inflight[j]? = some entry ∧
        SameButAcks entry.packet entry'.packet) ∨
      FreshPacket role connId state rx tx entry'.packet ∧ result.fatalError = false ∧
        result.datagram = some (encode entry'.packet.header entry'.packet.payload) := by
  cases h with
  | idle => exact Or.inl ⟨k, entry', hget, .refl _⟩
  | bare _ htx =>
    rw [htx] at hget
    exact Or.inl ⟨k, entry', hget, .refl _⟩
  | unreliable _ _ => exact Or.inl ⟨k, entry', hget, .refl _⟩
  | control hcause _ =>
    simp only [sendNumbered, SeqMap.getElem?_insertIfNew] at hget
    split_ifs at hget with hnew
    · obtain rfl := Option.some.inj hget
      exact Or.inr ⟨.control hcause, rfl, rfl⟩
    · exact Or.inl ⟨k, entry', hget, .refl _⟩
  | data hpending _ _ =>
    simp only [sendNumbered, SeqMap.getElem?_insertIfNew] at hget
    split_ifs at hget with hnew
    · obtain rfl := Option.some.inj hget
      exact Or.inr ⟨.request hpending, rfl, rfl⟩
    · exact Or.inl ⟨k, entry', hget, .refl _⟩
  | retransmit hold _ _ =>
    simp only [SeqMap.getElem?_insert] at hget
    split_ifs at hget
    · obtain rfl := Option.some.inj hget
      exact Or.inl ⟨_, _, hold, refresh_sameButAcks rx _⟩
    · exact Or.inl ⟨k, entry', hget, .refl _⟩
  | fatal _ _ =>
    simp only [SeqMap.getElem?_erase] at hget
    split_ifs at hget
    exact Or.inl ⟨k, entry', hget, .refl _⟩

end Poll

theorem PollTxEffect.keeps {transport : TransportSettings} {nowMs : U64} {s s' : SessionState}
    {out : Option Bytes} (h : PollTxEffect transport nowMs s out s') :
    s'.role = s.role ∧ s'.connId = s.connId := by
  cases h with
  | timeout _ => exact ⟨rfl, rfl⟩
  | polled _ _ _ hrole hconnId _ _ => exact ⟨hrole, hconnId⟩

/-- **Polling.** If every packet that this poll builds and sends has the property, so has everything
in flight afterwards and everything sent. -/
theorem PollTxEffect.inFlight {P : PacketView → Prop} {transport : TransportSettings} {nowMs : U64}
    {s s' : SessionState} {out : Option Bytes} (h : PollTxEffect transport nowMs s out s')
    (hacks : ∀ {p q}, SameButAcks p q → P p → P q) (hin : InFlight P s.tx)
    (hfresh : ∀ {tx p}, SameCore s.tx tx →
      FreshPacket s.role s.connId s.connectionState s.rx tx p →
      out = some (encode p.header p.payload) → P p) :
    InFlight P s'.tx ∧
      ∀ bytes, out = some bytes → ∃ p, bytes = encode p.header p.payload ∧ P p := by
  cases h with
  | timeout _ => exact ⟨hin, fun _ hbytes => nomatch hbytes⟩
  | @polled _ _ result tx tx' hbefore heffect hafter _ _ hbytes _ =>
    have hin := hin.sameCore hbefore
    refine ⟨InFlight.sameCore (fun k entry' hget => ?_) hafter, fun bytes hout => ?_⟩
    · rcases heffect.inFlight_cases hget with ⟨j, entry, hold, hsame⟩ | ⟨hnew, hfatal, hdatagram⟩
      · exact hacks hsame (hin j entry hold)
      · exact hfresh hbefore hnew (by rw [hbytes, hfatal, hdatagram]; rfl)
    · have hdatagram : result.datagram = some bytes := by
        rw [hbytes] at hout
        split_ifs at hout
        exact hout
      obtain ⟨p, hp, hnew | ⟨k, entry, hget, rfl⟩⟩ := heffect.sent hdatagram
      · exact ⟨p, hp, hfresh hbefore hnew (by rw [hout, hp])⟩
      · exact ⟨_, hp, hacks (refresh_sameButAcks s.rx entry.packet) (hin k entry hget)⟩

/-- **Receiving** brings no packet into flight. -/
theorem ReceiveEffect.inFlight {P : PacketView → Prop} {bytes : Bytes} {s s' : SessionState}
    (h : ReceiveEffect bytes s s') (hin : InFlight P s.tx) : InFlight P s'.tx := by
  cases h with
  | dropped htx _ => exact hin.sameCore htx
  | mismatch htx _ => exact hin.sameCore htx
  | processed _ _ hbefore hack hafter _ =>
    refine InFlight.sameCore ?_ hafter
    rcases hack with ⟨-, rfl, -⟩ | ⟨-, hack⟩
    · exact hin.sameCore hbefore
    · exact (hin.sameCore hbefore).acknowledges hack

/-! ## The stamp of a server session -/

/-- The packet decodes, and carries the identifier. -/
def Stamped (connId : U32) (p : PacketView) : Prop :=
  isValidHeader p.header = true ∧ p.header.connId = connId

theorem Stamped.of_sameButAcks {connId : U32} {p q : PacketView} (h : SameButAcks p q)
    (hp : Stamped connId p) : Stamped connId q := by
  obtain ⟨_, _, rfl⟩ := h
  exact hp

/-- A server session has nothing in flight but packets under its own identifier. -/
structure ServerStamped (s : SessionState) : Prop where
  role : s.role = .server
  inFlight : InFlight (Stamped s.connId) s.tx

section Server

variable {transport : TransportSettings} {nowMs : U64} {s : SessionState}

theorem ServerStamped.receive (h : ServerStamped s) (bytes : Bytes) :
    ServerStamped (Session.onDatagramReceived transport bytes nowMs s) := by
  obtain ⟨hrole, hconnId, heffect⟩ := onDatagramReceived_effect transport bytes nowMs s
  refine ⟨hrole.trans h.role, ?_⟩
  rw [hconnId h.role]
  exact heffect.inFlight h.inFlight

/-- A poll of a server session sends under its identifier. -/
theorem ServerStamped.poll (h : ServerStamped s) :
    ServerStamped (Session.pollTx transport nowMs s).2 ∧
      ∀ bytes, (Session.pollTx transport nowMs s).1 = some bytes →
        ∃ p, decode bytes = some p ∧ p.header.connId = s.connId := by
  have heffect := pollTx_effect transport nowMs s
  obtain ⟨hin, hsent⟩ := heffect.inFlight Stamped.of_sameButAcks h.inFlight
    fun _ hnew _ => ⟨hnew.valid, hnew.connId_eq⟩
  obtain ⟨hrole, hconnId⟩ := heffect.keeps
  refine ⟨⟨hrole.trans h.role, ?_⟩, fun bytes hbytes => ?_⟩
  · rw [hconnId]
    exact hin
  · obtain ⟨p, hp, hstamped⟩ := hsent bytes hbytes
    refine ⟨p, ?_, hstamped.2⟩
    rw [hp]
    exact decode_encode hstamped.1 p.payload

end Server

end Rudp
