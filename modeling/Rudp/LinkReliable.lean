import Rudp.Link

/-!
# Reliability over the link

What the receiver acknowledges is what the sender forgets. As long as the receive window describes
what arrived, the two agree: nothing is forgotten that was not accepted (`acknowledged_accepted`),
and nothing is delivered twice (`unordered_atMostOnce`). The window goes wrong when the packet at
its front arrives while something beyond the next gap has been received, and then both fail
(`silent_loss_two_gaps`, `unordered_twice_two_gaps`).

The invariant counts packets from the first one sent. A set `R` of counts stands for what the
window has admitted: `Window.Tracks` ties it to the window, `Receives` to the events and the
reorder buffer, and every pair of ack fields ever emitted tracks a subset of it.
-/

namespace Rudp

open Serial Window TxHandler RxHandler

/-! ## Statement -/

/-- The packet at the front only arrives while the bitmap is contiguous. -/
def FrontContiguous (l : Link) : LinkOp → Prop
  | .deliver n _ =>
    match (l.sender.emitted[n]?).bind fun e => decode e.datagram with
    | none => True
    | some p => touchesWindow p.header (classifyControlKind p.header) = true →
        p.header.seq = l.rx.nextExpected → Contiguous l.rx.receivedBits
  | _ => True

/-- Fewer than half of all sequence numbers are used, and 0 is not among them. -/
def InBounds (i : U32) (l : Link) : Prop := l.numbered < 2 ^ 31 ∧ ZeroAhead i l

/-- The receiver has the payload of `p`: delivered, or waiting in the reorder buffer. -/
def Accepted (rx : RxSessionState) (events : List SessionEvent) (p : PacketView) : Prop :=
  makeDataEvent p ∈ events ∨ ∃ q, rx.orderedReorderBuffer[p.header.seq]? = some q ∧
    makeDataEvent q = makeDataEvent p

def SessionEvent.isUnordered (e : SessionEvent) : Bool :=
  e.kind = .dataReceived && e.channelType = .reliableUnordered

/-- The request an event reports. -/
def SessionEvent.request (e : SessionEvent) : SendRequest :=
  { channelId := e.channelId, channelType := e.channelType, payload := e.payload }

/-- The unordered reliable data events of the receiver. -/
def Link.unorderedEvents (l : Link) : List SessionEvent :=
  l.events.filter SessionEvent.isUnordered

/-! ## The window -/

section Window

variable {i : U32} {f j : ℕ} {R : Set ℕ} {rx : RxSessionState} {packet : PacketView}
  {kind : ControlKind}

/-- **The window and one packet**, counted from `i`: it is new and is admitted, or it leaves
everything as it was. -/
theorem window_step (htracks : Tracks f rx.receivedBits R) (hfront : rx.nextExpected = ahead i f)
    (hf : f < 2 ^ 31) (hne : rx.nextExpected ≠ 0)
    (htouch : touchesWindow packet.header kind = true) (hseq : packet.header.seq = ahead i j)
    (hj : j < 2 ^ 32)
    (hgap : packet.header.seq = rx.nextExpected → Contiguous rx.receivedBits) :
    accepts packet kind rx = true ∧ j ∉ R ∧
        (∃ f', (windowed packet kind rx).nextExpected = ahead i f' ∧
          Tracks f' (windowed packet kind rx).receivedBits (insert j R)) ∨
      accepts packet kind rx = false ∧ (windowed packet kind rx).nextExpected = ahead i f ∧
        Tracks f (windowed packet kind rx).receivedBits R := by
  have hoffset : f ≤ j → offset rx packet.header.seq = j - f := fun hle => by
    rw [offset, hseq, hfront, toNat_ahead_sub_ahead hle (by omega)]
  rcases Nat.lt_trichotomy j f with hlt | rfl | hgt
  · have hbehind : offset rx packet.header.seq = 2 ^ 32 - (f - j) := by
      rw [offset, hseq, hfront, toNat_ahead_sub_ahead_of_lt hlt (by omega)]
    rw [accepts, windowed, update_of_outside htouch hne (by omega)]
    exact Or.inr ⟨rfl, hfront, htracks⟩
  · have hat : packet.header.seq = rx.nextExpected := hseq.trans hfront.symm
    obtain ⟨k, hk, hadv⟩ := advanceReceiveWindow_eq rx
    rw [accepts, windowed, update_of_front htouch hne hat, hadv]
    refine Or.inl ⟨rfl, htracks.front_notMem, j + 1 + k, ?_, ?_⟩
    · rw [hfront, ← ahead_add, Nat.add_assoc]
    · -- Nothing is left above the run, so one position more or less is the same.
      show Tracks _ (rx.receivedBits >>> k) _
      rw [← hk.shift_succ_eq_iff.2 (hgap hat)]
      exact htracks.slide hk
  · rcases Nat.lt_or_ge 64 (j - f) with hfar | hnear
    · rw [accepts, windowed, update_of_outside htouch hne (by rw [hoffset hgt.le]; exact hfar)]
      exact Or.inr ⟨rfl, hfront, htracks⟩
    · obtain ⟨b, rfl⟩ : ∃ b, j = f + 1 + b := ⟨j - (f + 1), by omega⟩
      have hbit : offset rx packet.header.seq = b + 1 := by
        rw [hoffset hgt.le]
        omega
      have hmem := htracks.bitmap b (by omega)
      rw [accepts, windowed, update_of_ahead htouch hne (by omega) hbit]
      cases hold : rx.receivedBits.getLsbD b with
      | false =>
        refine Or.inl ⟨rfl, fun hin => ?_, f, hfront, htracks.mark (by omega)⟩
        rw [hmem.2 hin] at hold
        cases hold
      | true =>
        refine Or.inr ⟨rfl, hfront, ?_⟩
        have := htracks.mark (i := b) (by omega)
        rwa [Set.insert_eq_of_mem (hmem.1 hold)] at this

end Window

/-! ## The receiver -/

/-- What the window has admitted, `R`, against the log of numbered packets, the events and the
reorder buffer. The one count beyond the log stands for sequence number 0, which pure
acknowledgements carry. -/
structure Receives (i : U32) (log : List PacketView) (rx : RxSessionState)
    (events : List SessionEvent) (f : ℕ) (R : Set ℕ) : Prop where
  front : rx.nextExpected = ahead i f
  tracks : Tracks f rx.receivedBits R
  inLog : ∀ j ∈ R, j < log.length ∨ j = 2 ^ 32 - i.toNat
  accepted : ∀ j ∈ R, ∀ p : PacketView, log[j]? = some p → p.isData = true →
    Accepted rx events p
  buffered : ∀ (k : U32) (q : OwnedPacket), rx.orderedReorderBuffer[k]? = some q →
    q.header.channelType = .reliableOrdered ∧ ∃ j ∈ R, j < log.length ∧ k = ahead i j
  unordered : ∀ e ∈ events.filter SessionEvent.isUnordered, ∃ j ∈ R, ∃ p : PacketView,
    log[j]? = some p ∧ p.isData = true ∧ p.header.seq = ahead i j ∧ e = makeDataEvent p
  once : ((events.filter SessionEvent.isUnordered).map fun e => e.seq).Nodup

section Receiver

variable {i : U32} {log log' : List PacketView} {rx rx' : RxSessionState}
  {events events' : List SessionEvent} {f f' j : ℕ} {R : Set ℕ} {packet : PacketView}

theorem Receives.mono (hpre : log <+: log') (hzero : i.toNat + log'.length < 2 ^ 32)
    (h : Receives i log rx events f R) : Receives i log' rx events f R where
  front := h.front
  tracks := h.tracks
  inLog := fun j hj => (h.inLog j hj).imp_left fun hlt => Nat.lt_of_lt_of_le hlt hpre.length_le
  accepted := fun j hj p hp hdata => by
    have hlt : j < log.length := by
      have := (List.getElem?_eq_some_iff.1 hp).1
      exact (h.inLog j hj).resolve_right (by omega)
    have hold : log[j]? = some log[j] := List.getElem?_eq_getElem hlt
    obtain rfl := Option.some.inj ((getElem?_of_initial hpre hold).symm.trans hp)
    exact h.accepted j hj _ hold hdata
  buffered := fun k q hk => by
    obtain ⟨htype, j, hj, hlt, hkey⟩ := h.buffered k q hk
    exact ⟨htype, j, hj, Nat.lt_of_lt_of_le hlt hpre.length_le, hkey⟩
  unordered := fun e he => by
    obtain ⟨j, hj, p, hp, hrest⟩ := h.unordered e he
    exact ⟨j, hj, p, getElem?_of_initial hpre hp, hrest⟩
  once := h.once

/-- The front is at most the number of packets sent. -/
theorem Receives.front_le (hzero : i.toNat + log.length < 2 ^ 32)
    (h : Receives i log rx events f R) : f ≤ log.length := by
  by_contra hlt
  rcases h.inLog _ (h.tracks.below log.length (by omega)) with h | h <;> omega

theorem Receives.front_ne_zero (hi : i ≠ 0) (hzero : i.toNat + log.length < 2 ^ 32)
    (h : Receives i log rx events f R) : rx.nextExpected ≠ 0 := by
  have hle := h.front_le hzero
  intro hfront
  rw [h.front, ahead] at hfront
  have hnat := congrArg BitVec.toNat hfront
  rw [BitVec.toNat_add, BitVec.toNat_ofNat] at hnat
  have hpos : i.toNat ≠ 0 := fun h0 => hi (BitVec.eq_of_toNat_eq h0)
  simp at hnat
  omega

/-- The window admits count `j`, and the rest of the state follows. -/
theorem Receives.admit (h : Receives i log rx events f R)
    (hfront : rx'.nextExpected = ahead i f') (htracks : Tracks f' rx'.receivedBits (insert j R))
    (hin : j < log.length ∨ j = 2 ^ 32 - i.toNat)
    (hold : ∀ k ∈ R, ∀ p : PacketView, log[k]? = some p → p.isData = true →
      Accepted rx events p → Accepted rx' events' p)
    (hnew : ∀ p : PacketView, log[j]? = some p → p.isData = true → Accepted rx' events' p)
    (hbuffer : ∀ (k : U32) (q : OwnedPacket), rx'.orderedReorderBuffer[k]? = some q →
      rx.orderedReorderBuffer[k]? = some q ∨
        q.header.channelType = .reliableOrdered ∧ j < log.length ∧ k = ahead i j)
    (hunordered : ∀ e ∈ events'.filter SessionEvent.isUnordered,
      e ∈ events.filter SessionEvent.isUnordered ∨ ∃ p : PacketView,
        log[j]? = some p ∧ p.isData = true ∧ p.header.seq = ahead i j ∧ e = makeDataEvent p)
    (honce : ((events'.filter SessionEvent.isUnordered).map fun e => e.seq).Nodup) :
    Receives i log rx' events' f' (insert j R) where
  front := hfront
  tracks := htracks
  inLog := fun k hk => by
    rcases hk with rfl | hk
    · exact hin
    · exact h.inLog k hk
  accepted := fun k hk p hp hdata => by
    rcases hk with rfl | hk
    · exact hnew p hp hdata
    · exact hold k hk p hp hdata (h.accepted k hk p hp hdata)
  buffered := fun k q hk => by
    rcases hbuffer k q hk with hk | ⟨htype, hlt, hkey⟩
    · obtain ⟨htype, x, hx, hrest⟩ := h.buffered k q hk
      exact ⟨htype, x, Set.mem_insert_of_mem _ hx, hrest⟩
    · exact ⟨htype, j, Set.mem_insert _ _, hlt, hkey⟩
  unordered := fun e he => by
    rcases hunordered e he with he | ⟨p, hp⟩
    · obtain ⟨x, hx, hrest⟩ := h.unordered e he
      exact ⟨x, Set.mem_insert_of_mem _ hx, hrest⟩
    · exact ⟨j, Set.mem_insert _ _, p, hp⟩
  once := honce

/-- Only the window changes, for a packet without data. -/
theorem Receives.admit_control (h : Receives i log rx events f R)
    (hframe : rx' = { rx with nextExpected := rx'.nextExpected, receivedBits := rx'.receivedBits })
    (hfront : rx'.nextExpected = ahead i f') (htracks : Tracks f' rx'.receivedBits (insert j R))
    (hin : j < log.length ∨ j = 2 ^ 32 - i.toNat)
    (hnone : ∀ p : PacketView, log[j]? = some p → p.isData = false) :
    Receives i log rx' events f' (insert j R) := by
  have hbuffer : rx'.orderedReorderBuffer = rx.orderedReorderBuffer := by rw [hframe]
  refine h.admit hfront htracks hin (fun _ _ p _ _ hacc => ?_) (fun p hp hdata => ?_)
    (fun k q hk => Or.inl (hbuffer ▸ hk)) (fun e he => Or.inl he) h.once
  · rw [Accepted, hbuffer]
    exact hacc
  · rw [hnone p hp] at hdata
    cases hdata

/-- The window admits nothing. -/
theorem Receives.refuse (h : Receives i log rx events f R)
    (hframe : rx' = { rx with nextExpected := rx'.nextExpected, receivedBits := rx'.receivedBits })
    (hfront : rx'.nextExpected = ahead i f) (htracks : Tracks f rx'.receivedBits R) :
    Receives i log rx' events f R := by
  have hbuffer : rx'.orderedReorderBuffer = rx.orderedReorderBuffer := by rw [hframe]
  refine ⟨hfront, htracks, h.inLog, ?_, ?_, h.unordered, h.once⟩
  · intro j hj p hp hdata
    rw [Accepted, hbuffer]
    exact h.accepted j hj p hp hdata
  · rw [hbuffer]
    exact h.buffered

/-- Events on other channels change nothing. -/
theorem Receives.other_events (h : Receives i log rx events f R)
    (hfront : rx'.nextExpected = rx.nextExpected) (hbits : rx'.receivedBits = rx.receivedBits)
    (hbuffer : rx'.orderedReorderBuffer = rx.orderedReorderBuffer)
    (hnone : events'.filter SessionEvent.isUnordered = []) :
    Receives i log rx' (events ++ events') f R := by
  have hfilter : (events ++ events').filter SessionEvent.isUnordered =
      events.filter SessionEvent.isUnordered := by
    rw [List.filter_append, hnone, List.append_nil]
  refine ⟨hfront ▸ h.front, hbits ▸ h.tracks, h.inLog, fun j hj p hp hdata => ?_,
    hbuffer ▸ h.buffered, hfilter ▸ h.unordered, hfilter ▸ h.once⟩
  rw [Accepted, hbuffer]
  exact (h.accepted j hj p hp hdata).imp_left (List.mem_append_left _)

variable (hlog : log.length < 2 ^ 32)
  (hseqs : ∀ (j : ℕ) (p : PacketView), log[j]? = some p → p.header.seq = ahead i j)
  {q : PacketView} (hq : log[j]? = some q) (hsame : SameButAcks q packet) (hfresh : j ∉ R)

include hlog hseqs hq hsame hfresh

/-- An unordered packet is admitted: it is delivered at once, and no event had its number. -/
theorem Receives.admit_unordered (h : Receives i log rx events f R)
    (hbuffer : rx'.orderedReorderBuffer = rx.orderedReorderBuffer)
    (hfront : rx'.nextExpected = ahead i f') (htracks : Tracks f' rx'.receivedBits (insert j R))
    (hdata : q.isData = true) :
    Receives i log rx' (events ++ [makeDataEvent packet]) f' (insert j R) := by
  have hj := (List.getElem?_eq_some_iff.1 hq).1
  have hevent : makeDataEvent packet = makeDataEvent q := makeDataEvent_of_sameButAcks hsame
  have hqseq := hseqs j q hq
  refine h.admit hfront htracks (Or.inl hj) (fun _ _ p _ _ hacc => ?_) (fun p hp _ => ?_)
    (fun k r hk => Or.inl (hbuffer ▸ hk)) (fun e he => ?_) ?_
  · rw [Accepted, hbuffer]
    exact hacc.imp_left (List.mem_append_left _)
  · obtain rfl := Option.some.inj (hq.symm.trans hp)
    exact Or.inl (by rw [hevent]; simp)
  · rw [List.filter_append] at he
    rcases List.mem_append.1 he with hold | hnew
    · exact Or.inl hold
    · obtain rfl := List.mem_singleton.1 (List.mem_of_mem_filter hnew)
      exact Or.inr ⟨q, hq, hdata, hqseq, hevent⟩
  · rw [List.filter_append, List.map_append, List.nodup_append]
    refine ⟨h.once, ?_, fun s hs t ht => ?_⟩
    · rw [List.filter_singleton]
      cases (makeDataEvent packet).isUnordered <;> simp
    · -- An older event with this number would stand for an admitted count.
      obtain ⟨e, he, rfl⟩ := List.mem_map.1 hs
      obtain ⟨e', he', rfl⟩ := List.mem_map.1 ht
      obtain rfl := List.mem_singleton.1 (List.mem_of_mem_filter he')
      obtain ⟨x, hx, p, hp, -, hpseq, rfl⟩ := h.unordered e he
      have hxlen := (List.getElem?_eq_some_iff.1 hp).1
      rw [hevent]
      intro heq
      have hahead : ahead i x = ahead i j := by
        rw [← hpseq, ← hqseq]
        exact heq
      rw [ahead_inj (by omega) (by omega)] at hahead
      exact hfresh (hahead ▸ hx)

/-- An ordered packet is admitted: it is buffered, and a run is delivered. -/
theorem Receives.admit_ordered (h : Receives i log rx events f R) {rx₁ : RxSessionState}
    (hbuffer : rx₁.orderedReorderBuffer = rx.orderedReorderBuffer)
    (hfront : rx'.nextExpected = ahead i f') (htracks : Tracks f' rx'.receivedBits (insert j R))
    (htype : packet.header.channelType = .reliableOrdered) {packets : List OwnedPacket}
    (hdrained : Drained (bufferOrdered packet rx₁) rx' packets) :
    Receives i log rx' (events ++ packets.map makeDataEvent) f' (insert j R) := by
  have hj := (List.getElem?_eq_some_iff.1 hq).1
  have hevent : makeDataEvent packet = makeDataEvent q := makeDataEvent_of_sameButAcks hsame
  have hseq : packet.header.seq = ahead i j := by rw [hsame.same.2.2.2.1, hseqs j q hq]
  have hself : (bufferOrdered packet rx₁).orderedReorderBuffer[packet.header.seq]? =
      some packet := by rw [bufferOrdered_buffer, if_pos rfl]
  -- What was buffered is buffered still, or has become an event.
  have hkept : ∀ (k : U32) (r p : PacketView),
      (bufferOrdered packet rx₁).orderedReorderBuffer[k]? = some r → k = p.header.seq →
      makeDataEvent r = makeDataEvent p → Accepted rx' (events ++ packets.map makeDataEvent) p := by
    intro k r p hk hkp hr
    rcases hdrained.gone k r hk with hstay | ⟨x, -, hx⟩
    · exact Or.inr ⟨r, hkp ▸ hstay, hr⟩
    · refine Or.inl (List.mem_append_right _ ?_)
      rw [← hr]
      exact List.mem_map_of_mem (List.mem_of_getElem? hx)
  have hnone : (packets.map makeDataEvent).filter SessionEvent.isUnordered = [] := by
    rw [List.filter_eq_nil_iff]
    intro e he
    obtain ⟨r, hr, rfl⟩ := List.mem_map.1 he
    obtain ⟨x, hx⟩ := List.mem_iff_getElem?.1 hr
    have hrtype : r.header.channelType = .reliableOrdered := by
      have htaken := hdrained.taken x r hx
      rw [bufferOrdered_buffer, hbuffer] at htaken
      split_ifs at htaken
      · rw [← Option.some.inj htaken, htype]
      · exact (h.buffered _ _ htaken).1
    simp [SessionEvent.isUnordered, makeDataEvent, hrtype]
  refine h.admit hfront htracks (Or.inl hj) (fun x hx p hp _ hacc => ?_) (fun p hp _ => ?_)
    (fun k r hk => ?_) (fun e he => Or.inl ?_) ?_
  · rcases hacc with hin | ⟨r, hr, hrp⟩
    · exact Or.inl (List.mem_append_left _ hin)
    · refine hkept _ r p ?_ rfl hrp
      have hxlen := (List.getElem?_eq_some_iff.1 hp).1
      have hne : packet.header.seq ≠ p.header.seq := by
        rw [hseq, hseqs x p hp]
        intro heq
        rw [ahead_inj (by omega) (by omega)] at heq
        exact hfresh (heq ▸ hx)
      rw [bufferOrdered_buffer, if_neg hne, hbuffer, hr]
  · obtain rfl := Option.some.inj (hq.symm.trans hp)
    exact hkept _ packet q hself hsame.same.2.2.2.1 hevent
  · have hold := hdrained.kept k r hk
    rw [bufferOrdered_buffer, hbuffer] at hold
    split_ifs at hold with heq
    · obtain rfl := Option.some.inj hold
      exact Or.inr ⟨htype, hj, by rw [← heq, hseq]⟩
    · exact Or.inl hold
  · rw [List.filter_append, hnone, List.append_nil] at he
    exact he
  · rw [List.filter_append, hnone, List.append_nil]
    exact h.once

end Receiver

/-! ## One arrival -/

/-- A packet that touches the window without a number is control only. -/
theorem kind_ne_none_of_not_numbered {p : PacketView}
    (htouch : touchesWindow p.header (classifyControlKind p.header) = true)
    (hnum : p.isNumbered = false) : classifyControlKind p.header ≠ .none := by
  intro hkind
  simp [PacketView.isNumbered, consumesSeq, touchesWindow, hkind] at htouch hnum
  rw [htouch] at hnum
  cases hnum

/-- Sequence number 0, counted from `i`. -/
theorem ahead_zero_count (i : U32) : ahead i (2 ^ 32 - i.toNat) = 0 := by
  have := i.isLt
  apply BitVec.eq_of_toNat_eq
  rw [ahead, BitVec.toNat_add, BitVec.toNat_ofNat]
  simp
  omega

section Arrival

variable {i : U32} {log : List PacketView} {rx rx' : RxSessionState}
  {drained : List SessionEvent} {f : ℕ} {R : Set ℕ} {p : PacketView}

/-- A copy of a numbered packet arrives. -/
theorem Receives.arrive_numbered (h : Receives i log rx (drained ++ rx.pendingEvents) f R)
    (hf : f < 2 ^ 31) (hne : rx.nextExpected ≠ 0) (hlog : log.length < 2 ^ 32)
    (hseqs : ∀ (j : ℕ) (p : PacketView), log[j]? = some p → p.header.seq = ahead i j)
    {j : ℕ} {q : PacketView} (hq : log[j]? = some q) (hsame : SameButAcks q p)
    (hnum : p.isNumbered = true)
    (hgap : p.header.seq = rx.nextExpected → Contiguous rx.receivedBits)
    (heffect : PacketEffect p (classifyControlKind p.header) rx rx') :
    ∃ f' R', R ⊆ R' ∧ Receives i log rx' (drained ++ rx'.pendingEvents) f' R' := by
  have hj := (List.getElem?_eq_some_iff.1 hq).1
  have hframe := windowed_frame p (classifyControlKind p.header) rx
  have hbuffer : (windowed p (classifyControlKind p.header) rx).orderedReorderBuffer =
      rx.orderedReorderBuffer := by rw [hframe]
  have hpending : (windowed p (classifyControlKind p.header) rx).pendingEvents =
      rx.pendingEvents := by rw [hframe]
  have hseq : p.header.seq = ahead i j := by rw [hsame.same.2.2.2.1, hseqs j q hq]
  have hdata : q.isData = decide (classifyControlKind p.header = .none) :=
    hsame.same.2.2.1.symm
  rcases window_step h.tracks h.front hf hne (touchesWindow_of_consumesSeq hnum) hseq (by omega)
    hgap with ⟨haccept, hfresh, f', hfront, htracks⟩ | ⟨hrefuse, hfront, htracks⟩
  · refine ⟨f', insert j R, Set.subset_insert _ _, ?_⟩
    cases heffect with
    | ignored hcontrol =>
      rw [hpending]
      refine h.admit_control hframe hfront htracks (Or.inl hj) fun p' hp' => ?_
      obtain rfl := Option.some.inj (hq.symm.trans hp')
      rw [hdata, decide_eq_false fun hkind => hcontrol ⟨hkind, haccept⟩]
    | ordered hkind htype _ hdrained hwindow =>
      rw [hdrained.events, bufferOrdered_events, hpending, ← List.append_assoc]
      exact h.admit_ordered hlog hseqs hq hsame hfresh hbuffer (hwindow.1.trans hfront)
        (hwindow.2 ▸ htracks) htype hdrained
    | unordered hkind htype _ =>
      rw [← List.append_assoc]
      exact h.admit_unordered hlog hseqs hq hsame hfresh hbuffer hfront htracks
        (by rw [hdata, hkind]; rfl)
    | unreliable hkind htype _ =>
      simp [PacketView.isNumbered, consumesSeq, hkind, htype] at hnum
  · refine ⟨f, R, subset_rfl, ?_⟩
    cases heffect with
    | ignored _ =>
      rw [hpending]
      exact h.refuse hframe hfront htracks
    | ordered _ _ haccept _ _ | unordered _ _ haccept =>
      rw [hrefuse] at haccept
      cases haccept
    | unreliable hkind htype _ =>
      simp [PacketView.isNumbered, consumesSeq, hkind, htype] at hnum

/-- A packet without a number arrives: a pure acknowledgement marks sequence number 0 in the
window, everything else leaves the window alone. -/
theorem Receives.arrive_bare (h : Receives i log rx (drained ++ rx.pendingEvents) f R)
    (hi : i ≠ 0) (hf : f < 2 ^ 31) (hne : rx.nextExpected ≠ 0)
    (hzero : i.toNat + log.length < 2 ^ 32) (hnum : p.isNumbered = false)
    (hseq : p.header.seq = 0)
    (hgap : touchesWindow p.header (classifyControlKind p.header) = true →
      p.header.seq = rx.nextExpected → Contiguous rx.receivedBits)
    (heffect : PacketEffect p (classifyControlKind p.header) rx rx') :
    ∃ f' R', R ⊆ R' ∧ Receives i log rx' (drained ++ rx'.pendingEvents) f' R' := by
  have hframe := windowed_frame p (classifyControlKind p.header) rx
  have hpending : (windowed p (classifyControlKind p.header) rx).pendingEvents =
      rx.pendingEvents := by rw [hframe]
  cases htouch : touchesWindow p.header (classifyControlKind p.header) with
  | true =>
    have hkind := kind_ne_none_of_not_numbered htouch hnum
    have hpos : i.toNat ≠ 0 := fun h0 => hi (BitVec.eq_of_toNat_eq h0)
    obtain rfl : rx' = windowed p (classifyControlKind p.header) rx := by
      cases heffect with
      | ignored _ => rfl
      | ordered hnone _ _ _ _ | unordered hnone _ _ | unreliable hnone _ _ =>
        exact absurd hnone hkind
    rw [hpending]
    rcases window_step h.tracks h.front hf hne htouch (hseq.trans (ahead_zero_count i).symm)
      (by omega) (hgap htouch) with ⟨-, -, f', hfront, htracks⟩ | ⟨-, hfront, htracks⟩
    · refine ⟨f', _, Set.subset_insert _ _,
        h.admit_control hframe hfront htracks (Or.inr rfl) fun q hq => ?_⟩
      have := (List.getElem?_eq_some_iff.1 hq).1
      omega
    · exact ⟨f, R, subset_rfl, h.refuse hframe hfront htracks⟩
  | false =>
    have hsame : windowed p (classifyControlKind p.header) rx = rx := by
      rw [windowed, update_of_not_touches htouch]
    have hunreliable : isReliableChannel p.header.channelType = false := by
      simp only [touchesWindow, Bool.or_eq_false_iff] at htouch
      exact htouch.1.1.1.1
    refine ⟨f, R, subset_rfl, ?_⟩
    cases heffect with
    | ignored _ => rwa [hsame]
    | ordered _ htype _ _ _ | unordered _ htype _ =>
      simp [isReliableChannel, htype] at hunreliable
    | @unreliable events versions _ _ hevents =>
      have hnone : events.filter SessionEvent.isUnordered = [] := by
        have htype : p.header.channelType ≠ .reliableUnordered := fun heq => by
          simp [isReliableChannel, heq] at hunreliable
        rcases hevents with rfl | rfl
        · rfl
        · simp [SessionEvent.isUnordered, makeDataEvent, htype]
      rw [← List.append_assoc, hsame]
      exact h.other_events rfl rfl rfl hnone

end Arrival

/-! ## The link -/

/-- The invariant of the whole link: the receiver's set of admitted counts, and for every pair of
ack fields ever emitted the part of it that the pair reports. -/
structure LinkReliable (transport : TransportSettings) (i : U32) (l : Link) (f : ℕ) (R : Set ℕ) :
    Prop where
  nonzero : i ≠ 0
  bounds : InBounds i l
  sender : Conserves transport i l.sender
  receiver : Receives i (firsts l.sender.emitted) l.rx l.events f R
  acks : ∀ pair ∈ l.acks, ∃ f' R', R' ⊆ R ∧ pair.1 = ahead i f' ∧ Tracks f' pair.2 R'

section Link

variable {transport : TransportSettings} {i : U32} {l : Link} {f : ℕ} {R : Set ℕ}

/-- **A datagram arrives.** -/
theorem LinkReliable.deliver (h : LinkReliable transport i l f R) {n : ℕ} {e : Emission}
    (he : l.sender.emitted[n]? = some e) (nowMs : U64)
    (hgap : FrontContiguous l (.deliver n nowMs)) :
    ∃ f' R', LinkReliable transport i { l with rx := receiveDatagram l.rx e.datagram nowMs } f' R' := by
  obtain ⟨p, hp, harrives⟩ := h.sender.arrives he
  obtain ⟨hsmall, hzero⟩ := h.bounds
  have hlen : (firsts l.sender.emitted).length < 2 ^ 31 := hsmall
  have hf : f ≤ (firsts l.sender.emitted).length := h.receiver.front_le hzero
  have hne := h.receiver.front_ne_zero h.nonzero hzero
  have heffect := onPacket_effect p (classifyControlKind p.header) l.rx nowMs
  simp only [FrontContiguous, he, Option.bind_some, hp] at hgap
  obtain ⟨f', R', hsub, hreceives⟩ : ∃ f' R', R ⊆ R' ∧ Receives i (firsts l.sender.emitted)
      (onPacket p nowMs (classifyControlKind p.header) l.rx).2
      (l.drained ++ (onPacket p nowMs (classifyControlKind p.header) l.rx).2.pendingEvents)
      f' R' := by
    rcases harrives with ⟨hnum, j, q, hq, hsame, -⟩ | ⟨hnum, hseq⟩
    · exact h.receiver.arrive_numbered (by omega) hne (by omega) h.sender.seqs hq hsame hnum
        (hgap (touchesWindow_of_consumesSeq hnum)) heffect
    · exact h.receiver.arrive_bare h.nonzero (by omega) hne hzero hnum hseq hgap heffect
  refine ⟨f', R', h.nonzero, h.bounds, h.sender, ?_, fun pair hpair => ?_⟩
  · simp only [receiveDatagram, hp]
    exact hreceives
  · obtain ⟨fa, Ra, hRa, hack⟩ := h.acks pair hpair
    exact ⟨fa, Ra, hRa.trans hsub, hack⟩

/-- **One step** of the link. -/
theorem LinkReliable.step (h : LinkReliable transport i l f R) {op : LinkOp}
    (hbounds : InBounds i (l.step transport op)) (hgap : FrontContiguous l op) :
    ∃ f' R', LinkReliable transport i (l.step transport op) f' R' := by
  have hsender := h.sender.link op
  have hgrows : firsts l.sender.emitted <+: firsts (l.step transport op).sender.emitted :=
    firsts_prefix l op
  cases op with
  | queue channelId channelType payload =>
    exact ⟨f, R, h.nonzero, hbounds, hsender, h.receiver, h.acks⟩
  | poll nowMs role connId state rx =>
    exact ⟨f, R, h.nonzero, hbounds, hsender, h.receiver.mono hgrows hbounds.2, h.acks⟩
  | schedule flags => exact ⟨f, R, h.nonzero, hbounds, hsender, h.receiver, h.acks⟩
  | deliver n nowMs =>
    rw [Link.step]
    cases he : l.sender.emitted[n]? with
    | none => exact ⟨f, R, h⟩
    | some e => exact h.deliver he nowMs hgap
  | emitAck =>
    refine ⟨f, R, h.nonzero, hbounds, hsender, h.receiver, fun pair hpair => ?_⟩
    rcases List.mem_append.1 hpair with hold | hnew
    · exact h.acks pair hold
    · rw [List.mem_singleton.1 hnew]
      exact ⟨f, R, subset_rfl, h.receiver.front, h.receiver.tracks⟩
  | remoteAck n =>
    rw [Link.step] at hsender hbounds ⊢
    cases hack : l.acks[n]? with
    | none => exact ⟨f, R, h⟩
    | some pair =>
      rw [hack] at hsender hbounds
      exact ⟨f, R, h.nonzero, hbounds, hsender, h.receiver, h.acks⟩
  | drain =>
    refine ⟨f, R, h.nonzero, hbounds, hsender, ?_, h.acks⟩
    have hevents : (l.step transport .drain).events = l.events ++ [] := by
      simp [Link.events, Link.step, drainEvents]
    rw [hevents]
    exact h.receiver.other_events rfl rfl rfl rfl

theorem LinkStart.reliable (h : LinkStart i l) : ∃ f R, LinkReliable transport i l f R := by
  refine ⟨0, ∅, h.nonzero, ⟨?_, ?_⟩, h.conserves, ?_, ?_⟩
  · rw [Link.numbered, h.emitted]
    simp [firsts]
  · rw [ZeroAhead, Link.numbered, h.emitted]
    exact i.isLt
  · have hevents : l.events = [] := by rw [Link.events, h.drained, h.pending]; rfl
    rw [hevents]
    exact
      { front := by rw [h.front, ahead_zero]
        tracks := by rw [h.bits]; exact tracks_empty
        inLog := fun j hj => absurd hj (Set.notMem_empty j)
        accepted := fun j hj => absurd hj (Set.notMem_empty j)
        buffered := fun k q hk => by simp [h.buffer] at hk
        unordered := fun e he => by cases he
        once := List.nodup_nil }
  · intro pair hpair
    rw [h.acks] at hpair
    cases hpair

/-! ## What the sender forgets -/

/-- A packet that a pair of ack fields acknowledges is one the pair reports. -/
theorem acknowledged_mem {ack : U32} {ackBits : U64} {fa j : ℕ} {Ra : Set ℕ}
    (hack : ack = ahead i fa) (htracks : Tracks fa ackBits Ra) (hfa : fa < 2 ^ 31)
    (hj : j < 2 ^ 31) (h : isAcknowledgedByRemote (ahead i j) ack ackBits = true) : j ∈ Ra := by
  simp only [isAcknowledgedByRemote] at h
  split_ifs at h with hlt hgt hfar
  · rw [hack, seqLt_ahead_iff (by omega) (by omega)] at hlt
    exact htracks.below j hlt
  · rw [Bool.not_eq_true', Bool.not_eq_false, hack, seqGt,
      seqLt_ahead_iff (by omega) (by omega)] at hgt
    rw [not_or] at hfar
    have hdistance : (ahead i j - ack).toNat = j - fa := by
      rw [hack, toNat_ahead_sub_ahead hgt.le (by omega)]
    have hle : j - fa ≤ 64 := by
      have := hfar.2
      rw [gt_iff_lt, BitVec.lt_def, hdistance, Nat.not_lt] at this
      exact this
    have hindex : (ahead i j - ack - 1).toNat = j - fa - 1 := by
      have hone : (1 : U32) ≤ ahead i j - ack := by
        rw [BitVec.le_def, hdistance]
        exact Nat.sub_pos_of_lt hgt
      rw [BitVec.toNat_sub_of_le hone, hdistance]
      rfl
    rw [hindex, decide_eq_true_eq] at h
    have hmem := (htracks.bitmap _ (by omega)).1 ((and_bit_ne_zero_iff ackBits (by omega)).1 h)
    rwa [show fa + 1 + (j - fa - 1) = j by omega] at hmem

/-- What leaves the sender's map by an acknowledgement has been accepted. -/
theorem LinkReliable.accepted_of_acknowledged (h : LinkReliable transport i l f R) {n : ℕ}
    {k : U32} {entry : TxEntry} (hget : l.sender.tx.inflight[k]? = some entry)
    (hdata : entry.packet.isData = true)
    (hgone : (l.step transport (.remoteAck n)).sender.tx.inflight[k]? = none) :
    Accepted l.rx l.events entry.packet := by
  obtain ⟨hsmall, hzero⟩ := h.bounds
  have hlen : (firsts l.sender.emitted).length < 2 ^ 31 := hsmall
  rw [Link.step] at hgone
  cases hack : l.acks[n]? with
  | none =>
    rw [hack] at hgone
    exact absurd hgone (by rw [hget]; exact Option.some_ne_none _)
  | some pair =>
    rw [hack] at hgone
    have hacked := (((onRemoteAck_acknowledges transport pair.1 pair.2 l.sender.tx).keys k).1
      hgone).resolve_left (by rw [hget]; exact Option.some_ne_none _)
    obtain ⟨fa, Ra, hRa, hpair, htracks⟩ := h.acks pair (List.mem_of_getElem? hack)
    obtain ⟨-, -, -, p, again, hhistory, hsame, -⟩ := h.sender.entries k entry hget
    obtain ⟨hp, hpseq⟩ := history_first hhistory
    obtain ⟨j, hj⟩ := List.mem_iff_getElem?.1 hp
    have hjlen := (List.getElem?_eq_some_iff.1 hj).1
    -- The front of an old pair is not ahead of what was sent by now.
    have hfa : fa ≤ (firsts l.sender.emitted).length := by
      by_contra hlt
      have hmem := hRa (htracks.below (firsts l.sender.emitted).length (by omega))
      have hbound : i.toNat + (firsts l.sender.emitted).length < 2 ^ 32 := hzero
      rcases h.receiver.inLog _ hmem with h | h <;> omega
    rw [← hpseq, h.sender.seqs j p hj] at hacked
    have hmem := hRa (acknowledged_mem hpair htracks (by omega) (by omega) hacked)
    have haccepted := h.receiver.accepted j hmem p hj (by rw [← hsame.same.2.2.1, hdata])
    rw [Accepted, makeDataEvent_of_sameButAcks hsame, hsame.same.2.2.2.1]
    exact haccepted

/-- The unordered events: one at most for each number, with the request that took it. -/
theorem LinkReliable.unordered_once (h : LinkReliable transport i l f R) :
    (l.unorderedEvents.map fun e => e.seq).Nodup ∧
      (∀ e ∈ l.unorderedEvents, ∃ p ∈ firsts l.sender.emitted, p.isData = true ∧
        p.header.seq = e.seq ∧ p.request = e.request) ∧
      List.Subperm (l.unorderedEvents.map SessionEvent.request) l.sender.queued := by
  have hsource : ∀ e ∈ l.unorderedEvents, ∃ p ∈ firsts l.sender.emitted, p.isData = true ∧
      p.header.seq = e.seq ∧ p.request = e.request := by
    intro e he
    obtain ⟨j, -, p, hp, hdata, -, rfl⟩ := h.receiver.unordered e he
    exact ⟨p, List.mem_of_getElem? hp, hdata, rfl, rfl⟩
  refine ⟨h.receiver.once, hsource, ?_⟩
  -- Numbered requests are distinct, so containment is enough.
  have hnodup : (l.unorderedEvents.map fun e => (e.seq, e.request)).Nodup := by
    refine List.Nodup.of_map Prod.fst ?_
    rw [List.map_map]
    exact h.receiver.once
  have hsubset : (l.unorderedEvents.map fun e => (e.seq, e.request)) ⊆
      ((firsts l.sender.emitted).filter PacketView.isData).map
        fun p => (p.header.seq, p.request) := by
    intro pair hpair
    obtain ⟨e, he, rfl⟩ := List.mem_map.1 hpair
    obtain ⟨p, hp, hdata, hseq, hrequest⟩ := hsource e he
    exact List.mem_map.2 ⟨p, List.mem_filter.2 ⟨hp, hdata⟩, by rw [hseq, hrequest]⟩
  have hsubperm : List.Subperm (l.unorderedEvents.map SessionEvent.request)
      (((firsts l.sender.emitted).filter PacketView.isData).map PacketView.request) := by
    obtain ⟨pairs, hperm, hsub⟩ := hnodup.subperm hsubset
    have hperm' := hperm.map Prod.snd
    have hsub' := hsub.map Prod.snd
    rw [List.map_map] at hperm' hsub'
    exact ⟨pairs.map Prod.snd, hperm', hsub'⟩
  refine hsubperm.trans (List.Sublist.subperm ?_)
  refine (firsts_requests_sublist l.sender.emitted).trans ?_
  rw [← h.sender.requests]
  exact List.sublist_append_left _ _

end Link

/-! ## Every run -/

/-- Every run whose steps keep the bounds and meet the condition keeps the invariant. -/
theorem LinkStart.reliable_run {transport : TransportSettings} {i : U32} {l : Link}
    (hstart : LinkStart i l) {ops : List LinkOp}
    (hbounds : Run.Along (Link.step transport) (fun l op => InBounds i (l.step transport op)) l ops)
    (hgap : Run.Along (Link.step transport) FrontContiguous l ops) :
    ∃ f R, LinkReliable transport i (Run.run (Link.step transport) l ops) f R :=
  Run.Along.invariant (fun l => ∃ f R, LinkReliable transport i l f R)
    (fun _ _ hl hop => by
      obtain ⟨f, R, hl⟩ := hl
      exact hl.step hop.1 hop.2)
    hstart.reliable (Run.along_and.2 ⟨hbounds, hgap⟩)

/-- **No silent loss, while no front packet meets a gap.** In every run of the link in which the
packet at the receiver's front arrives only while the bitmap is contiguous: whenever a reliable
data packet leaves the sender's map by an acknowledgement, the receiver has accepted it. -/
theorem acknowledged_accepted (transport : TransportSettings) {i : U32} {l : Link}
    (hstart : LinkStart i l) (ops : List LinkOp)
    (hbounds : Run.Along (Link.step transport) (fun l op => InBounds i (l.step transport op)) l ops)
    (hgap : Run.Along (Link.step transport) FrontContiguous l ops) :
    let l' := Run.run (Link.step transport) l ops
    ∀ (n : ℕ) (k : U32) (entry : TxEntry), l'.sender.tx.inflight[k]? = some entry →
      entry.packet.isData = true →
      (l'.step transport (.remoteAck n)).sender.tx.inflight[k]? = none →
        Accepted l'.rx l'.events entry.packet := by
  intro l' n k entry hget hdata hgone
  obtain ⟨f, R, h⟩ := hstart.reliable_run hbounds hgap
  exact h.accepted_of_acknowledged hget hdata hgone

/-- **Unordered delivery is at most once, while no front packet meets a gap.** Every unordered
event carries the request that took its sequence number, no two carry the same number, and
together they report no request more often than it was queued. -/
theorem unordered_atMostOnce (transport : TransportSettings) {i : U32} {l : Link}
    (hstart : LinkStart i l) (ops : List LinkOp)
    (hbounds : Run.Along (Link.step transport) (fun l op => InBounds i (l.step transport op)) l ops)
    (hgap : Run.Along (Link.step transport) FrontContiguous l ops) :
    let l' := Run.run (Link.step transport) l ops
    (l'.unorderedEvents.map fun e => e.seq).Nodup ∧
      (∀ e ∈ l'.unorderedEvents, ∃ p ∈ firsts l'.sender.emitted, p.isData = true ∧
        p.header.seq = e.seq ∧ p.request = e.request) ∧
      List.Subperm (l'.unorderedEvents.map SessionEvent.request) l'.sender.queued := by
  obtain ⟨f, R, h⟩ := hstart.reliable_run hbounds hgap
  exact h.unordered_once

instance (l : Link) (op : LinkOp) : Decidable (FrontContiguous l op) :=
  match op with
  | .deliver n _ =>
    match h : (l.sender.emitted[n]?).bind fun e => decode e.datagram with
    | none => isTrue (by rw [FrontContiguous, h]; trivial)
    | some p => decidable_of_iff (touchesWindow p.header (classifyControlKind p.header) = true →
        p.header.seq = l.rx.nextExpected → Contiguous l.rx.receivedBits)
        (by rw [FrontContiguous, h])
  | .queue _ _ _ | .poll _ _ _ _ _ | .schedule _ | .emitAck | .remoteAck _ | .drain => isTrue trivial

instance (i : U32) (l : Link) : Decidable (InBounds i l) :=
  inferInstanceAs (Decidable (l.numbered < 2 ^ 31 ∧ ZeroAhead i l))

/-- Four unordered packets are queued and sent as 100 to 103. -/
def fourSent : List LinkOp :=
  [.queue 1 .reliableUnordered [0x01], .queue 1 .reliableUnordered [0x02],
    .queue 1 .reliableUnordered [0x03], .queue 1 .reliableUnordered [0x04],
    pollServer, pollServer, pollServer, pollServer]

/-- 101 arrives before 100 and once more after it. -/
def oneGap : List LinkOp := fourSent ++ [.deliver 1 0, .deliver 0 0, .deliver 1 0, .emitAck]

/-- 102 arrives before 100, while 101 is still missing. -/
def twoGaps : List LinkOp := fourSent ++ [.deliver 2 0, .deliver 0 0, .emitAck]

/-- One of these packets as it waits for its acknowledgement. -/
def sentUnordered (seq : U32) (payload : Bytes) : TxEntry :=
  newEntry
    { header := { connId := 7, seq, channelId := 1, channelType := .reliableUnordered }
      payload } 0

/-- With one gap, what the acknowledgement removes has arrived. -/
theorem acknowledged_accepted_oneGap :
    let l' := Run.run (Link.step {}) linkAt100 oneGap
    l'.sender.tx.inflight[(101 : U32)]? = some (sentUnordered 101 [0x02]) ∧
      (l'.step {} (.remoteAck 0)).sender.tx.inflight[(101 : U32)]? = none ∧
      Accepted l'.rx l'.events (sentUnordered 101 [0x02]).packet := by
  have hget : (Run.run (Link.step {}) linkAt100 oneGap).sender.tx.inflight[(101 : U32)]? =
      some (sentUnordered 101 [0x02]) := by decide +kernel
  have hgone : ((Run.run (Link.step {}) linkAt100 oneGap).step {} (.remoteAck 0)).sender.tx.inflight[
      (101 : U32)]? = none := by decide +kernel
  exact ⟨hget, hgone, acknowledged_accepted {} linkAt100_start oneGap (by decide +kernel)
    (by decide +kernel) 0 101 _ hget (by decide) hgone⟩

/-- With two gaps the acknowledgement removes 103, which never arrived. -/
theorem silent_loss_two_gaps :
    LinkStart 100 linkAt100 ∧
      Run.Along (Link.step {}) (fun l op => InBounds 100 (l.step {} op)) linkAt100 twoGaps ∧
      let l' := Run.run (Link.step {}) linkAt100 twoGaps
      l'.sender.tx.inflight[(103 : U32)]? = some (sentUnordered 103 [0x04]) ∧
        (sentUnordered 103 [0x04]).packet.isData = true ∧
        (l'.step {} (.remoteAck 0)).sender.tx.inflight[(103 : U32)]? = none ∧
        ¬ Accepted l'.rx l'.events (sentUnordered 103 [0x04]).packet := by
  refine ⟨linkAt100_start, by decide +kernel, by decide +kernel, by decide +kernel,
    by decide +kernel, ?_⟩
  rintro (hevent | ⟨q, hq, -⟩)
  · exact absurd hevent (by decide +kernel)
  · have hnone : (Run.run (Link.step {}) linkAt100 twoGaps).rx.orderedReorderBuffer[
        (sentUnordered 103 [0x04]).packet.header.seq]? = none := by decide +kernel
    rw [hnone] at hq
    cases hq

/-- With one gap every unordered packet is delivered once. -/
theorem unordered_atMostOnce_oneGap :
    let l' := Run.run (Link.step {}) linkAt100 oneGap
    (l'.unorderedEvents.map fun e => e.seq).Nodup ∧
      (∀ e ∈ l'.unorderedEvents, ∃ p ∈ firsts l'.sender.emitted, p.isData = true ∧
        p.header.seq = e.seq ∧ p.request = e.request) ∧
      List.Subperm (l'.unorderedEvents.map SessionEvent.request) l'.sender.queued :=
  unordered_atMostOnce {} linkAt100_start oneGap (by decide +kernel) (by decide +kernel)

/-- With two gaps the receiver forgets 102 and delivers it again. -/
theorem unordered_twice_two_gaps :
    LinkStart 100 linkAt100 ∧
      Run.Along (Link.step {}) (fun l op => InBounds 100 (l.step {} op)) linkAt100
        (twoGaps ++ [.deliver 2 0]) ∧
      ¬ ((Run.run (Link.step {}) linkAt100
        (twoGaps ++ [.deliver 2 0])).unorderedEvents.map fun e => e.seq).Nodup := by
  exact ⟨linkAt100_start, by decide +kernel, by decide +kernel⟩

end Rudp
