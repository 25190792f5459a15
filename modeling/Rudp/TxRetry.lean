import Rudp.TxConservation
import Rudp.TxLanes

/-!
# Giving a connection up

A packet that is never acknowledged is sent again up to `max_retransmit_count` times, with a timeout
that doubles. The scan of `try_build_retransmit` looks at the retry limit before it looks at the
timer, so the poll right after the last retransmission fails the connection, in the same millisecond
if it comes then: the last retransmission is not given its timeout.

`gives_up_timed_out_iff` says exactly which runs never give up early.
-/

namespace Rudp

open Serial TxHandler

/-- The timeout of the packet, counted from when it was last sent, is over. -/
def TxEntry.timedOut (transport : TransportSettings) (nowMs : U64) (entry : TxEntry) : Bool :=
  entry.lastSendMs.toNat + (retransmitTimeoutFor transport entry.retryCount).toNat ≤ nowMs.toNat

/-- A poll that fails the connection finds a packet in flight that was retransmitted as often as it
may be, and whose last retransmission has timed out. -/
def GivesUpTimedOut (transport : TransportSettings) (s : Sender) : TxOp → Prop
  | .poll nowMs role connId state rx =>
    (poll transport nowMs role connId state rx s.tx).1.fatalError = true →
      ∃ (k : U32) (entry : TxEntry) (p : PacketView) (again : List PacketView),
        s.tx.inflight[k]? = some entry ∧ history k s.emitted = some (p, again) ∧
          again.length = transport.maxRetransmitCount.toNat ∧
          entry.timedOut transport nowMs = true
  | .queue _ _ _ | .remoteAck _ _ | .schedule _ => True

/-- A poll whose scan stops at a packet that has used up its retransmissions comes when the timeout
of such a packet is over. A poll that has a handshake frame to send does not scan. -/
def WaitsForLast (transport : TransportSettings) (s : Sender) : TxOp → Prop
  | .poll nowMs role _ state _ =>
    handshakeDue role state s.tx = false →
      ((firstDue transport nowMs s.tx).any fun item => item.2.exhausted transport) = true →
        (s.tx.inflight.toList.any fun item =>
          item.2.exhausted transport && item.2.timedOut transport nowMs) = true
  | .queue _ _ _ | .remoteAck _ _ | .schedule _ => True

instance (transport : TransportSettings) (s : Sender) (op : TxOp) :
    Decidable (WaitsForLast transport s op) :=
  match op with
  | .poll _ _ _ _ _ => inferInstanceAs (Decidable (_ → _ → _))
  | .queue _ _ _ | .remoteAck _ _ | .schedule _ => inferInstanceAs (Decidable True)

section Conserves

variable {transport : TransportSettings} {i : U32} {s : Sender}

/-- A packet in flight has used up its retransmissions when the log holds all of them. -/
theorem Conserves.exhausted_iff (h : Conserves transport i s) {k : U32} {entry : TxEntry}
    (hget : s.tx.inflight[k]? = some entry) :
    entry.exhausted transport = true ↔ ∃ p again, history k s.emitted = some (p, again) ∧
      again.length = transport.maxRetransmitCount.toNat := by
  obtain ⟨p, again, hhistory, -, hlength⟩ := (h.entries k entry hget).history
  have hle := (h.retries k p again hhistory).2
  rw [TxEntry.exhausted, decide_eq_true_eq, ge_iff_le, BitVec.le_def]
  constructor
  · intro hmax
    exact ⟨p, again, hhistory, by omega⟩
  · rintro ⟨p', again', hhistory', hlength'⟩
    rw [hhistory] at hhistory'
    obtain ⟨-, rfl⟩ := Prod.mk.inj (Option.some.inj hhistory')
    omega

theorem Conserves.givesUp_iff (h : Conserves transport i s) (op : TxOp) :
    GivesUpTimedOut transport s op ↔ WaitsForLast transport s op := by
  cases op with
  | queue channelId channelType payload => exact Iff.rfl
  | remoteAck ack ackBits => exact Iff.rfl
  | schedule flags => exact Iff.rfl
  | poll nowMs role connId state rx =>
    have hlast : (∃ (k : U32) (entry : TxEntry) (p : PacketView) (again : List PacketView),
        s.tx.inflight[k]? = some entry ∧ history k s.emitted = some (p, again) ∧
          again.length = transport.maxRetransmitCount.toNat ∧
          entry.timedOut transport nowMs = true) ↔
        (s.tx.inflight.toList.any fun item =>
          item.2.exhausted transport && item.2.timedOut transport nowMs) = true := by
      simp only [List.any_eq_true, Bool.and_eq_true, Prod.exists,
        Std.ExtTreeMap.mem_toList_iff_getElem?_eq_some]
      constructor
      · rintro ⟨k, entry, p, again, hget, hhistory, hlength, htimedOut⟩
        exact ⟨k, entry, hget, (h.exhausted_iff hget).2 ⟨p, again, hhistory, hlength⟩, htimedOut⟩
      · rintro ⟨k, entry, hget, hexhausted, htimedOut⟩
        obtain ⟨p, again, hhistory, hlength⟩ := (h.exhausted_iff hget).1 hexhausted
        exact ⟨k, entry, p, again, hget, hhistory, hlength, htimedOut⟩
    rw [GivesUpTimedOut, WaitsForLast, hlast, poll_fatalError]
    cases handshakeDue role state s.tx <;> simp

/-- From any sound sender on. -/
theorem Conserves.givesUp_along (h : Conserves transport i s) (ops : List TxOp) :
    Run.Along (Sender.step transport) (GivesUpTimedOut transport) s ops ↔
      Run.Along (Sender.step transport) (WaitsForLast transport) s ops :=
  Run.along_iff_of_invariant (Conserves transport i) (fun _ op hs => hs.givesUp_iff op)
    (fun _ op hs _ => hs.step op) h ops

end Conserves

/-- **Exactly the runs that give the last retransmission its timeout.** In every run from a fresh
state, every poll that fails the connection finds a packet that was retransmitted as often as it may
be and has timed out since, if and only if every poll whose scan stops at a packet with no
retransmission left comes after the timeout of one. -/
theorem gives_up_timed_out_iff (transport : TransportSettings) {i : U32} {tx : TxSessionState}
    (hstart : StartsAt i tx) (ops : List TxOp) :
    Run.Along (Sender.step transport) (GivesUpTimedOut transport) { tx } ops ↔
      Run.Along (Sender.step transport) (WaitsForLast transport) { tx } ops :=
  (hstart.conserves transport).givesUp_along ops

/-- One packet, and polls at the given times. -/
def pollsAt (times : List U64) : List TxOp :=
  .queue 1 .reliableOrdered [0x01] ::
    times.map fun nowMs => .poll nowMs .server 7 .established {}

/-- A run that waits: the sixth timeout, of 4000 ms, is over when the connection is given up. -/
theorem gives_up_timed_out_after_last :
    Run.Along (Sender.step {}) (GivesUpTimedOut {}) { tx := { nextSeq := 9, remoteAck := 9 } }
      (pollsAt [0, 250, 750, 1750, 3750, 7750, 11750]) :=
  (gives_up_timed_out_iff {} ⟨rfl, rfl, rfl, rfl⟩ _).2 (by decide +kernel)

/-- A run that does not: with a second poll in the millisecond of the fifth retransmission, the
connection is given up 0 ms after it. -/
theorem gives_up_early :
    let times : List U64 := [0, 250, 750, 1750, 3750, 7750]
    let s := Run.run (Sender.step {}) { tx := { nextSeq := 9, remoteAck := 9 } } (pollsAt times)
    (poll {} 7750 .server 7 .established {} s.tx).1.fatalError = true ∧
    s.tx.inflight.toList.map (fun item => (item.2.lastSendMs, item.2.timedOut {} 7750)) =
      [(7750, false)] ∧
    ¬ Run.Along (Sender.step {}) (GivesUpTimedOut {}) { tx := { nextSeq := 9, remoteAck := 9 } }
      (pollsAt (times ++ [7750])) := by
  intro times s
  have hstart : StartsAt 9 { nextSeq := 9, remoteAck := 9 } := ⟨rfl, rfl, rfl, rfl⟩
  rw [(hstart.conserves {}).givesUp_along]
  decide +kernel

end Rudp
