import Rudp.RxShift
import Rudp.Lib.Newest

/-!
# Versioned channels

A payload of a `MonotonicState` channel starts with a version, and `handle_monotonic_state` delivers
it only if the version is ahead of the last one delivered on that channel. So every such channel is
a register that keeps the newest value (`monotonic_refines`): the events are what the register
takes, whatever packets arrive in between, on this channel or on others.

Versions are compared around the circle. As long as those of a channel lie within half of it, the
comparison is an order, and the register ends at the newest state that arrived
(`monotonic_converges`), in whatever order and however often the states arrived.
-/

namespace Rudp

open Serial RxHandler

/-! ## Versions -/

/-- The version a payload starts with, if it is long enough to have one. -/
def payloadVersion (payload : Bytes) : Option U32 :=
  match payload with
  | b₀ :: b₁ :: b₂ :: b₃ :: _ =>
    some ((b₀.setWidth 32 <<< 24) ||| (b₁.setWidth 32 <<< 16) ||| (b₂.setWidth 32 <<< 8) |||
      b₃.setWidth 32)
  | _ => none

/-- The comparison of `handle_monotonic_state`: `version` is ahead of `current`. -/
def isAhead (version current : U32) : Bool := !decide ((version - current).toInt ≤ 0)

/-- The state that `p` carries is newer than that of `q`. -/
def newerState (p q : PacketView) : Bool :=
  match payloadVersion p.payload, payloadVersion q.payload with
  | some version, some current => isAhead version current
  | _, _ => false

/-- The packet is data of the versioned channel, and carries a version. -/
def PacketView.isStateOf (channelId : U32) (kind : ControlKind) (p : PacketView) : Bool :=
  kind = .none && p.header.channelType = .monotonicState && p.header.channelId = channelId &&
    (payloadVersion p.payload).isSome

def SessionEvent.isStateOf (channelId : U32) (e : SessionEvent) : Bool :=
  e.kind = .dataReceived && e.channelType = .monotonicState && e.channelId = channelId

/-- The states of a channel, taken from what arrived. -/
def statesOf (channelId : U32) (arrivals : List Arrival) : List PacketView :=
  (arrivals.filter fun a => a.packet.isStateOf channelId a.kind).map Arrival.packet

/-- The state is delivered, and its version recorded. -/
def deliverState (packet : PacketView) (version : U32) (rx : RxSessionState) : RxSessionState :=
  { rx with
    monotonicVersions := rx.monotonicVersions.insert packet.header.channelId version
    pendingEvents := rx.pendingEvents ++ [makeDataEvent packet] }

theorem handleMonotonicState_eq (packet : PacketView) (rx : RxSessionState) :
    handleMonotonicState packet rx =
      match payloadVersion packet.payload with
      | none => rx
      | some version =>
        if (rx.monotonicVersions.lookup packet.header.channelId).all (isAhead version) then
          deliverState packet version rx
        else rx := by
  rcases hpayload : packet.payload with _ | ⟨b₀, _ | ⟨b₁, _ | ⟨b₂, _ | ⟨b₃, rest⟩⟩⟩⟩ <;>
    simp only [handleMonotonicState, payloadVersion, hpayload]
  cases rx.monotonicVersions.lookup packet.header.channelId with
  | none => rfl
  | some current =>
    simp only [Option.all_some, isAhead]
    split_ifs <;> simp_all [deliverState]

/-! ## One packet -/

/-- What a channel's register has to do with the receive state and the events. -/
structure HoldsState (channelId : U32) (rx : RxSessionState) (events : List SessionEvent)
    (taken : List PacketView) : Prop where
  events_eq : events.filter (SessionEvent.isStateOf channelId) = taken.map makeDataEvent
  version : rx.monotonicVersions.lookup channelId =
    taken.getLast?.bind fun p => payloadVersion p.payload
  versioned : ∀ p ∈ taken, (payloadVersion p.payload).isSome = true
  buffered : ∀ (k : U32) (q : OwnedPacket), rx.orderedReorderBuffer[k]? = some q →
    q.header.channelType = .reliableOrdered

section Step

variable {channelId : U32} {rx rx' : RxSessionState} {events added : List SessionEvent}
  {taken : List PacketView} {packet : PacketView}

/-- Nothing happens on the channel. -/
theorem HoldsState.of_other (h : HoldsState channelId rx events taken)
    (hversion : rx'.monotonicVersions.lookup channelId = rx.monotonicVersions.lookup channelId)
    (hbuffer : ∀ (k : U32) (q : OwnedPacket), rx'.orderedReorderBuffer[k]? = some q →
      q.header.channelType = .reliableOrdered)
    (hadded : ∀ e ∈ added, e.isStateOf channelId = false) :
    HoldsState channelId rx' (events ++ added) taken where
  events_eq := by
    have hnone : added.filter (SessionEvent.isStateOf channelId) = [] :=
      List.filter_eq_nil_iff.2 fun e he => by simp [hadded e he]
    rw [List.filter_append, hnone, List.append_nil, h.events_eq]
  version := hversion.trans h.version
  versioned := h.versioned
  buffered := hbuffer

/-- The comparison with the recorded version is the comparison with the last state taken. -/
theorem HoldsState.isNewest (h : HoldsState channelId rx events taken) {version : U32}
    (hversion : payloadVersion packet.payload = some version) :
    (rx.monotonicVersions.lookup channelId).all (isAhead version) =
      taken.getLast?.all fun q => newerState packet q := by
  rw [h.version]
  cases hlast : taken.getLast? with
  | none => rfl
  | some q =>
    have hq := h.versioned q (List.mem_of_getLast? hlast)
    obtain ⟨current, hcurrent⟩ := Option.isSome_iff_exists.1 hq
    simp [newerState, hversion, hcurrent]

/-- A state of the channel arrives: it is delivered if it is the newest so far. -/
theorem HoldsState.offer (h : HoldsState channelId rx (events ++ rx.pendingEvents) taken)
    (htype : packet.header.channelType = .monotonicState)
    (hchannel : packet.header.channelId = channelId) {version : U32}
    (hversion : payloadVersion packet.payload = some version) :
    HoldsState channelId (handleMonotonicState packet rx)
      (events ++ (handleMonotonicState packet rx).pendingEvents)
      (Newest.offer newerState taken packet) := by
  subst hchannel
  rw [handleMonotonicState_eq]
  simp only [hversion]
  rw [h.isNewest hversion, Newest.offer]
  split_ifs with hnewest
  · refine ⟨?_, ?_, fun p hp => ?_, h.buffered⟩
    · rw [deliverState, ← List.append_assoc, List.filter_append, h.events_eq, List.map_append]
      simp [SessionEvent.isStateOf, makeDataEvent, htype]
    · simp [deliverState, hversion]
    · rcases List.mem_append.1 hp with hold | hnew
      · exact h.versioned p hold
      · rw [List.mem_singleton.1 hnew, hversion]
        rfl
  · exact h

/-- A packet of a versioned channel that is not a state of this one. -/
theorem HoldsState.handleMonotonicState
    (h : HoldsState channelId rx (events ++ rx.pendingEvents) taken)
    (hother : packet.isStateOf channelId .none = false)
    (htype : packet.header.channelType = .monotonicState) :
    HoldsState channelId (handleMonotonicState packet rx)
      (events ++ (handleMonotonicState packet rx).pendingEvents) taken := by
  rw [handleMonotonicState_eq]
  cases hversion : payloadVersion packet.payload with
  | none => exact h
  | some version =>
    have hchannel : packet.header.channelId ≠ channelId := by
      simpa [PacketView.isStateOf, htype, hversion] using hother
    simp only
    split_ifs
    · rw [deliverState, ← List.append_assoc]
      refine h.of_other (Finmap.lookup_insert_of_ne _ (Ne.symm hchannel)) h.buffered fun e he => ?_
      rw [List.mem_singleton.1 he]
      simp [SessionEvent.isStateOf, makeDataEvent, hchannel]
    · exact h

/-- An ordered packet: only ordered packets become events. -/
theorem HoldsState.handleReliableOrdered
    (h : HoldsState channelId rx (events ++ rx.pendingEvents) taken)
    (htype : packet.header.channelType = .reliableOrdered) :
    HoldsState channelId (handleReliableOrdered packet rx)
      (events ++ (handleReliableOrdered packet rx).pendingEvents) taken := by
  obtain ⟨packets, hdrained⟩ := handleReliableOrdered_drained packet rx
  have hbuffered : ∀ (k : U32) (q : OwnedPacket),
      (bufferOrdered packet rx).orderedReorderBuffer[k]? = some q →
        q.header.channelType = .reliableOrdered := by
    intro k q hk
    rw [bufferOrdered_buffer] at hk
    split_ifs at hk
    · rw [← Option.some.inj hk, htype]
    · exact h.buffered k q hk
  rw [hdrained.events, bufferOrdered_events, ← List.append_assoc]
  refine h.of_other (by rw [handleReliableOrdered_versions])
    (fun k q hk => hbuffered k q (hdrained.kept k q hk)) fun e he => ?_
  obtain ⟨p, hp, rfl⟩ := List.mem_map.1 he
  obtain ⟨j, hj⟩ := List.mem_iff_getElem?.1 hp
  simp [SessionEvent.isStateOf, makeDataEvent, hbuffered _ p (hdrained.taken j p hj)]

/-- **One packet.** -/
theorem HoldsState.onPacket (h : HoldsState channelId rx (events ++ rx.pendingEvents) taken)
    (packet : PacketView) (nowMs : U64) (kind : ControlKind) :
    HoldsState channelId (onPacket packet nowMs kind rx).2
      (events ++ (onPacket packet nowMs kind rx).2.pendingEvents)
      (if packet.isStateOf channelId kind then Newest.offer newerState taken packet
        else taken) := by
  have hwindowed : HoldsState channelId (windowed packet kind rx)
      (events ++ (windowed packet kind rx).pendingEvents) taken := by
    rw [windowed_frame]
    exact ⟨h.events_eq, h.version, h.versioned, h.buffered⟩
  rw [onPacket_eq]
  by_cases hstate : packet.isStateOf channelId kind = true
  · simp only [PacketView.isStateOf, Bool.and_eq_true, decide_eq_true_eq] at hstate
    obtain ⟨⟨⟨rfl, htype⟩, hchannel⟩, hsome⟩ := hstate
    obtain ⟨version, hversion⟩ := Option.isSome_iff_exists.1 hsome
    have htouch : touchesWindow packet.header .none = false := by
      simp [touchesWindow, isReliableChannel, htype]
    have haccepts : accepts packet .none rx = true := by
      rw [accepts, update_of_not_touches htouch]
    rw [if_pos ⟨rfl, haccepts⟩, if_pos (by simp [PacketView.isStateOf, htype, hchannel, hversion]),
      deliverData, htype]
    exact hwindowed.offer htype hchannel hversion
  · rw [if_neg hstate]
    split_ifs with hdata
    · obtain ⟨rfl, -⟩ := hdata
      have hone : ∀ e ∈ [makeDataEvent packet], packet.header.channelType ≠ .monotonicState →
          e.isStateOf channelId = false := by
        intro e he htype
        rw [List.mem_singleton.1 he]
        simp [SessionEvent.isStateOf, makeDataEvent, htype]
      rw [deliverData]
      cases htype : packet.header.channelType with
      | reliableOrdered => exact hwindowed.handleReliableOrdered htype
      | reliableUnordered | unreliable =>
        simp only [handleReliableUnordered, handleUnreliable, ← List.append_assoc]
        exact hwindowed.of_other rfl hwindowed.buffered fun e he => hone e he (by simp [htype])
      | monotonicState => exact hwindowed.handleMonotonicState (by simpa using hstate) htype
    · exact hwindowed

end Step

/-! ## Every run -/

/-- What can happen to a receiver: a packet arrives, or the application takes the events. -/
inductive InboxOp where
  | onPacket (a : Arrival)
  | drainEvents

/-- A receiver, and the events taken from it so far. -/
structure Inbox where
  rx : RxSessionState := {}
  drained : List SessionEvent := []

def Inbox.step (r : Inbox) : InboxOp → Inbox
  | .onPacket a => { r with rx := receive r.rx a }
  | .drainEvents =>
    let (events, rx) := drainEvents r.rx
    { rx, drained := r.drained ++ events }

/-- Every event so far, taken or not. -/
def Inbox.events (r : Inbox) : List SessionEvent := r.drained ++ r.rx.pendingEvents

def InboxOp.arrival : InboxOp → Option Arrival
  | .onPacket a => some a
  | .drainEvents => none

/-- The states of a channel that arrive in a run. -/
def statesOffered (channelId : U32) (ops : List InboxOp) : List PacketView :=
  statesOf channelId (ops.filterMap InboxOp.arrival)

theorem statesOffered_concat (channelId : U32) (ops : List InboxOp) (op : InboxOp) :
    statesOffered channelId (ops ++ [op]) = statesOffered channelId ops ++
      match op with
      | .onPacket a => if a.packet.isStateOf channelId a.kind then [a.packet] else []
      | .drainEvents => [] := by
  rw [statesOffered, List.filterMap_append, statesOf, List.filter_append, List.map_append]
  congr 1
  cases op with
  | drainEvents => rfl
  | onPacket a =>
    show (List.filter _ [a]).map Arrival.packet = _
    cases hstate : a.packet.isStateOf channelId a.kind <;> simp [hstate]

/-- The receiver runs, and the register of the channel with it. -/
theorem holdsState_run (channelId : U32) (ops : List InboxOp) :
    HoldsState channelId (Run.run Inbox.step {} ops).rx (Run.run Inbox.step {} ops).events
      (Newest.taken newerState (statesOffered channelId ops)) := by
  induction ops using List.reverseRecOn with
  | nil => exact ⟨rfl, rfl, fun _ hp => absurd hp List.not_mem_nil, fun k q hk => by simp at hk⟩
  | append_singleton ops op ih =>
    have hrun : Run.run Inbox.step {} (ops ++ [op]) = (Run.run Inbox.step {} ops).step op := by
      rw [Run.run, List.foldl_concat, ← Run.run]
    rw [hrun, statesOffered_concat]
    generalize Run.run Inbox.step {} ops = r at ih ⊢
    cases op with
    | onPacket a =>
      have hstep := HoldsState.onPacket ih a.packet a.nowMs a.kind
      simp only
      split_ifs at hstep ⊢ with hstate
      · rw [Newest.taken_concat]
        exact hstep
      · rw [List.append_nil]
        exact hstep
    | drainEvents =>
      rw [List.append_nil]
      refine ⟨?_, ih.version, ih.versioned, ih.buffered⟩
      have hevents : (r.step .drainEvents).events = r.events := by
        simp [Inbox.events, Inbox.step, drainEvents]
      rw [hevents]
      exact ih.events_eq

/-- **A versioned channel is a register.** Whatever arrives and whenever the events are taken: the
events of a versioned channel are the states that a register takes which keeps the newest, each of
them ahead of the one before, and the version recorded for the channel is that of the last. -/
theorem monotonic_refines (channelId : U32) (ops : List InboxOp) :
    let r := Run.run Inbox.step {} ops
    let taken := Newest.taken newerState (statesOffered channelId ops)
    r.events.filter (SessionEvent.isStateOf channelId) = taken.map makeDataEvent ∧
      taken.IsChain (fun q p => newerState p q = true) ∧
      r.rx.monotonicVersions.lookup channelId =
        taken.getLast?.bind fun p => payloadVersion p.payload := by
  intro r taken
  have h := holdsState_run channelId ops
  exact ⟨h.events_eq, Newest.taken_isChain _, h.version⟩

/-! ## Half of the circle -/

/-- How far the version of a payload lies ahead of `base`. -/
def versionOffset (base : U32) (payload : Bytes) : ℕ :=
  match payloadVersion payload with
  | some version => (version - base).toNat
  | none => 0

def PacketView.stateOffset (base : U32) (p : PacketView) : ℕ := versionOffset base p.payload

/-- Within half of the circle, ahead is after. -/
theorem isAhead_iff {base version current : U32} (hversion : (version - base).toNat < 2 ^ 31)
    (hcurrent : (current - base).toNat < 2 ^ 31) :
    isAhead version current = true ↔ (current - base).toNat < (version - base).toNat := by
  have hv := ahead_toNat_sub base version
  have hc := ahead_toNat_sub base current
  set j := (version - base).toNat
  set k := (current - base).toNat
  have hneg : (ahead base j - ahead base k).toInt < 0 ↔ j < k :=
    toInt_ahead_sub_neg_iff (by omega) (by omega)
  have hzero : (ahead base j - ahead base k).toInt = 0 ↔ j = k := by
    rw [← @ahead_inj 32 base j k (by omega) (by omega), ← BitVec.toInt_zero, BitVec.toInt_inj]
    exact sub_eq_zero
  rw [isAhead, Bool.not_eq_true', decide_eq_false_iff_not, ← hv, ← hc]
  omega

theorem PacketView.version_of_isStateOf {channelId : U32} {kind : ControlKind} {p : PacketView}
    (h : p.isStateOf channelId kind = true) :
    ∃ version, payloadVersion p.payload = some version := by
  simp only [PacketView.isStateOf, Bool.and_eq_true] at h
  exact Option.isSome_iff_exists.1 h.2

theorem version_of_mem_statesOf {channelId : U32} {arrivals : List Arrival} {p : PacketView}
    (h : p ∈ statesOf channelId arrivals) : ∃ version, payloadVersion p.payload = some version := by
  obtain ⟨a, ha, rfl⟩ := List.mem_map.1 h
  exact (List.mem_filter.1 ha).2 |> PacketView.version_of_isStateOf

/-- The states lie within half of the circle, counted from `base`. -/
def WithinHalf (base : U32) (states : List PacketView) : Prop :=
  ∀ p ∈ states, p.stateOffset base < 2 ^ 31

instance (base : U32) (states : List PacketView) : Decidable (WithinHalf base states) :=
  inferInstanceAs (Decidable (∀ p ∈ states, p.stateOffset base < 2 ^ 31))

/-- Then the register is one over the order of their offsets. -/
theorem taken_eq_above {base : U32} {offers : List PacketView}
    (hversion : ∀ p ∈ offers, ∃ version, payloadVersion p.payload = some version)
    (hhalf : WithinHalf base offers) :
    Newest.taken newerState offers =
      Newest.taken (Newest.above (PacketView.stateOffset base)) offers := by
  refine Newest.taken_congr fun p hp q hq => ?_
  obtain ⟨version, hp'⟩ := hversion p hp
  obtain ⟨current, hq'⟩ := hversion q hq
  have hpoff := hhalf p hp
  have hqoff := hhalf q hq
  simp only [PacketView.stateOffset, versionOffset, hp', hq'] at hpoff hqoff
  simp only [newerState, Newest.above, PacketView.stateOffset, versionOffset, hp', hq']
  rw [Bool.eq_iff_iff, isAhead_iff hpoff hqoff, decide_eq_true_eq]

/-- The versions of a channel that arrive in a run. -/
def versionsOffered (channelId : U32) (ops : List InboxOp) : List U32 :=
  (statesOffered channelId ops).filterMap fun p => payloadVersion p.payload

theorem mem_offsets_iff {base channelId : U32} {ops : List InboxOp} {j : ℕ} :
    j ∈ (statesOffered channelId ops).map (PacketView.stateOffset base) ↔
      ∃ version ∈ versionsOffered channelId ops, (version - base).toNat = j := by
  constructor
  · intro hj
    obtain ⟨p, hp, rfl⟩ := List.mem_map.1 hj
    obtain ⟨version, hversion⟩ := version_of_mem_statesOf hp
    refine ⟨version, List.mem_filterMap.2 ⟨p, hp, hversion⟩, ?_⟩
    simp [PacketView.stateOffset, versionOffset, hversion]
  · rintro ⟨version, hmem, rfl⟩
    obtain ⟨p, hp, hversion⟩ := List.mem_filterMap.1 hmem
    exact List.mem_map.2 ⟨p, hp, by simp [PacketView.stateOffset, versionOffset, hversion]⟩

/-- **Versioned channels converge.** As long as the versions that arrive on a channel lie within
half of the circle: receivers that get the same versions, in any order, any number of times and in
between any other packets, record the same version for the channel, and none that arrived is ahead
of it. -/
theorem monotonic_converges (channelId base : U32) {ops ops' : List InboxOp}
    (hhalf : WithinHalf base (statesOffered channelId ops))
    (hsame : ∀ version, version ∈ versionsOffered channelId ops ↔
      version ∈ versionsOffered channelId ops') :
    let recorded := fun ops : List InboxOp =>
      (Run.run Inbox.step {} ops).rx.monotonicVersions.lookup channelId
    recorded ops = recorded ops' ∧
      ∀ version ∈ versionsOffered channelId ops, ∃ current, recorded ops = some current ∧
        (version - base).toNat ≤ (current - base).toNat := by
  intro recorded
  have hoffsets : ∀ j, j ∈ (statesOffered channelId ops).map (PacketView.stateOffset base) ↔
      j ∈ (statesOffered channelId ops').map (PacketView.stateOffset base) := by
    intro j
    rw [mem_offsets_iff, mem_offsets_iff]
    exact exists_congr fun version => and_congr_left fun _ => hsame version
  have hhalf' : WithinHalf base (statesOffered channelId ops') := by
    intro p hp
    obtain ⟨q, hq, heq⟩ := List.mem_map.1 ((hoffsets _).2 (List.mem_map_of_mem hp))
    exact heq ▸ hhalf q hq
  have hrecorded : ∀ {ops}, WithinHalf base (statesOffered channelId ops) →
      recorded ops = ((Newest.taken (Newest.above (PacketView.stateOffset base))
        (statesOffered channelId ops)).getLast?.map
          (PacketView.stateOffset base)).map (ahead base) := by
    intro ops hhalf
    have hversion : recorded ops = _ := (holdsState_run channelId ops).version
    rw [hversion, statesOffered, taken_eq_above (fun _ hp => version_of_mem_statesOf hp) hhalf]
    cases hlast : (Newest.taken (Newest.above (PacketView.stateOffset base))
        (statesOf channelId (ops.filterMap InboxOp.arrival))).getLast? with
    | none => rfl
    | some p =>
      obtain ⟨version, hversion⟩ := version_of_mem_statesOf (Newest.mem_offers_of_last hlast)
      rw [Option.bind_some, hversion, Option.map_some, Option.map_some, PacketView.stateOffset,
        versionOffset, hversion, ahead_toNat_sub]
  constructor
  · rw [hrecorded hhalf, hrecorded hhalf', Newest.last_key_eq hoffsets]
  · intro version hmem
    obtain ⟨p, hp, hoffset⟩ := List.mem_map.1 (mem_offsets_iff.2 ⟨version, hmem, rfl⟩)
    obtain ⟨q, hq, hle⟩ := @Newest.le_last _ _ _ (PacketView.stateOffset base) _ p hp
    refine ⟨ahead base (q.stateOffset base), by rw [hrecorded hhalf, hq]; rfl, ?_⟩
    have hsmall := hhalf q (Newest.mem_offers_of_last hq)
    rw [toNat_ahead_sub_base base (by omega), ← hoffset]
    exact hle

/-- A state of channel 5. -/
def stateArrival (version : U8) (value : U8) : InboxOp :=
  .onPacket
    { packet :=
        { header := { channelId := 5, channelType := .monotonicState }
          payload := [0, 0, 0, version, value] } }

/-- The same three versions, once in order and once not. -/
theorem monotonic_converges_three :
    let ops := [stateArrival 1 0xa, stateArrival 2 0xb, .drainEvents, stateArrival 3 0xc]
    let ops' := [stateArrival 3 0xc, stateArrival 1 0xa, stateArrival 3 0xc, stateArrival 2 0xb]
    let recorded := fun ops : List InboxOp =>
      (Run.run Inbox.step {} ops).rx.monotonicVersions.lookup 5
    WithinHalf 0 (statesOffered 5 ops) ∧ recorded ops = recorded ops' := by
  intro ops ops' recorded
  have hhalf : WithinHalf 0 (statesOffered 5 ops) := by decide
  refine ⟨hhalf, (monotonic_converges 5 0 hhalf fun version => ?_).1⟩
  have hversions : versionsOffered 5 ops = [1, 2, 3] ∧ versionsOffered 5 ops' = [3, 1, 3, 2] := by
    decide
  rw [hversions.1, hversions.2]
  simp only [List.mem_cons, List.not_mem_nil, or_false]
  tauto

end Rudp
