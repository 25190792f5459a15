import Rudp.ManagerInvariant
import Rudp.Lib.Run

/-!
# Every run of the manager

The manager's operations, one by one, and then any sequence of them. A datagram is routed to at
most one session, that of the endpoint it came from, so all that belongs to other endpoints stays
as it is. Polling may reset any session; what it resets, it collects and cleans up before it
returns.
-/

namespace Rudp

namespace ServerSessionManager

/-- Every session in the tables is in a state that belongs there. -/
structure Live (m : ServerSessionManager) : Prop where
  pending : ∀ e s, m.findPendingSession e = some s → s.connectionState.isPending
  active : ∀ c s, m.findActiveSession c = some s → s.connectionState.isActive

/-- What every operation keeps. -/
structure Sound (m : ServerSessionManager) (assigned : List U32) : Prop where
  consistent : Consistent m assigned
  live : Live m

/-! ## One datagram -/

section Dispatch

variable {transport : TransportSettings} {bytes : Bytes} {nowMs : U64}
  {m : ServerSessionManager} {assigned : List U32} {e : EndpointKey} {c : U32} {s : SessionState}

/-- What holds of the manager after a datagram from `e`. -/
structure Dispatched (m m' : ServerSessionManager) (assigned : List U32) (e : EndpointKey) :
    Prop where
  consistent : Consistent m' assigned
  live : Live m'
  untouched : ∀ e', e' ≠ e → Untouched m m' e'

/-- A step that leaves the others alone, before the datagram is dispatched. -/
theorem Dispatched.of_untouched {m₁ m' : ServerSessionManager} (h : Dispatched m₁ m' assigned e)
    (huntouched : ∀ e', e' ≠ e → Untouched m m₁ e') : Dispatched m m' assigned e :=
  ⟨h.consistent, h.live, fun e' hne => (huntouched e' hne).trans (h.untouched e' hne)⟩

/-- Writing the pending session of `e` leaves the others alone. -/
theorem untouched_setPending (m : ServerSessionManager) (s : SessionState) {e' : EndpointKey}
    (hne : e' ≠ e) : Untouched m (m.setPending e s) e' :=
  ⟨by simp [hne], rfl, fun _ _ => rfl⟩

/-- Every session in the tables is in a state that belongs there, but for the pending one of
`e`. -/
structure OthersLive (m : ServerSessionManager) (e : EndpointKey) : Prop where
  pending : ∀ e' s, e' ≠ e → m.findPendingSession e' = some s → s.connectionState.isPending
  active : ∀ c s, m.findActiveSession c = some s → s.connectionState.isActive

theorem Live.others (h : Live m) (e : EndpointKey) : OthersLive m e :=
  ⟨fun e' s _ hs => h.pending e' s hs, h.active⟩

theorem OthersLive.setPending (h : OthersLive m e) (s : SessionState) :
    OthersLive (m.setPending e s) e := by
  refine ⟨fun e' t hne ht => ?_, h.active⟩
  rw [findPendingSession_setPending, if_neg hne] at ht
  exact h.pending e' t hne ht

/-- The session of `e` is established, and is promoted. -/
theorem Consistent.dispatch_promote (h : Consistent m assigned) (hothers : OthersLive m e)
    (hs : m.findPendingSession e = some s) (hstate : s.connectionState = .established) :
    Dispatched m (ServerSessionManager.promotePendingSession e m) assigned e := by
  have hholds := holds_of_pending assigned hs
  obtain ⟨hpending, hfind, hbinding, -⟩ :=
    promotePendingSession_lookups hs (h.connId_ne_zero hholds).1
  refine ⟨h.promotePendingSession hs, ⟨fun e' t ht => ?_, fun c t ht => ?_⟩,
    fun e' hne => ⟨?_, ?_, fun c hc => ?_⟩⟩
  · rw [hpending] at ht
    split_ifs at ht with heq
    exact hothers.pending e' t heq ht
  · rw [hfind] at ht
    split_ifs at ht
    · obtain rfl := Option.some.inj ht
      exact Or.inl hstate
    · exact hothers.active c t ht
  · rw [hpending, if_neg hne]
  · rw [hbinding, if_neg hne]
  · -- The identifier that enters the active table is not theirs.
    rw [hfind, if_neg (h.ne_of_active hne hholds hc)]

/-- The session of `e` is terminal, and is cleaned up. -/
theorem Consistent.dispatch_cleanup (h : Consistent m assigned) (hothers : OthersLive m e) :
    Dispatched m (ServerSessionManager.cleanupPendingSession e m) assigned e := by
  refine ⟨h.cleanupPendingSession, ⟨fun e' t ht => ?_, fun c t ht => ?_⟩,
    fun e' hne => ⟨?_, ?_, fun c _ => ?_⟩⟩
  · rw [findPendingSession_cleanupPendingSession] at ht
    split_ifs at ht with heq
    exact hothers.pending e' t heq ht
  · rw [findActiveSession_cleanupPendingSession] at ht
    exact hothers.active c t ht
  · rw [findPendingSession_cleanupPendingSession, if_neg hne]
  · rw [activeConnId_cleanupPendingSession]
  · rw [findActiveSession_cleanupPendingSession]

/-- A datagram for a pending session: the session stays, is promoted, or is cleaned up. -/
theorem Consistent.dispatchPending (h : Consistent m assigned) (hothers : OthersLive m e)
    (hs : m.findPendingSession e = some s)
    (hstate : s.connectionState.isPending ∨ s.connectionState = .closed) :
    Dispatched m (tryDispatchPending transport e bytes nowMs m).2 assigned e := by
  obtain ⟨hrole, hconnId, heffect⟩ := onDatagramReceived_effect transport bytes nowMs s
  have hconnId := hconnId (h.pending_session e s hs).2
  simp only [tryDispatchPending, hs]
  generalize Session.onDatagramReceived transport bytes nowMs s = s' at *
  have h₁ := h.setPending hs hconnId hrole
  have hothers₁ := hothers.setPending s'
  have hs₁ : (m.setPending e s').findPendingSession e = some s' := by simp
  refine Dispatched.of_untouched ?_ fun e' hne => untouched_setPending m s' hne
  split_ifs with hestablished
  · exact h₁.dispatch_promote hothers₁ hs₁ hestablished
  · simp only [cleanupPendingIfTerminal, hs₁]
    cases hterminal : isTerminalState s'.connectionState with
    | true => exact h₁.dispatch_cleanup hothers₁
    | false =>
      simp only [Bool.not_false, if_true]
      refine ⟨h₁, ⟨fun e' t ht => ?_, hothers₁.active⟩, fun e' _ => .refl _ e'⟩
      by_cases heq : e' = e
      · rw [heq, hs₁] at ht
        obtain rfl := Option.some.inj ht
        rcases heffect.of_pending hstate with hnext | hnext | hnext
        · exact absurd hnext hestablished
        · rw [hterminal] at hnext
          cases hnext
        · exact hnext
      · exact hothers₁.pending e' t heq ht

/-- A datagram for an active session: the session stays, or is cleaned up. -/
theorem Consistent.dispatchActive (h : Consistent m assigned) (hlive : Live m)
    (hc : m.activeConnId e = some c) (hs : m.findActiveSession c = some s) :
    Dispatched m (tryDispatchActive transport e bytes c nowMs m).2 assigned e := by
  obtain ⟨hrole, hconnId, heffect⟩ := onDatagramReceived_effect transport bytes nowMs s
  have hconnId := hconnId (h.active_session c s hs).2
  simp only [tryDispatchActive, hs]
  generalize Session.onDatagramReceived transport bytes nowMs s = s' at *
  have h₁ := h.setActive hs hconnId hrole
  have hs₁ : (m.setActive c s').findActiveSession c = some s' := by simp
  have hothers : ∀ c', c' ≠ c → (m.setActive c s').findActiveSession c' = m.findActiveSession c' := by
    intro c' hne
    simp [hne]
  have hother : ∀ e' c', e' ≠ e → m.activeConnId e' = some c' → c' ≠ c :=
    fun e' c' hne hc' => h.ne_of_active hne (h.holds_of_active hc) hc'
  simp only [cleanupActiveIfTerminal, hs₁]
  cases hterminal : isTerminalState s'.connectionState with
  | true =>
    simp only [Bool.not_true, Bool.false_eq_true, if_false]
    have hc₁ : (m.setActive c s').activeConnId e = some c := hc
    refine ⟨h₁.cleanupActiveSession hc₁, ⟨hlive.pending, fun c' t ht => ?_⟩,
      fun e' hne => ⟨rfl, ?_, fun c' hc' => ?_⟩⟩
    · rw [findActiveSession_cleanupActiveSession] at ht
      split_ifs at ht with heq
      exact hlive.active c' t (hothers c' heq ▸ ht)
    · rw [activeConnId_cleanupActiveSession hc₁, if_neg hne]
      rfl
    · have hcc := hother e' c' hne hc'
      rw [findActiveSession_cleanupActiveSession, if_neg hcc, hothers c' hcc]
  | false =>
    simp only [Bool.not_false, if_true]
    refine ⟨h₁, ⟨hlive.pending, fun c' t ht => ?_⟩,
      fun e' hne => ⟨rfl, rfl, fun c' hc' => hothers c' (hother e' c' hne hc')⟩⟩
    by_cases heq : c' = c
    · rw [heq, hs₁] at ht
      obtain rfl := Option.some.inj ht
      rcases heffect.of_active (hlive.active c s hs) with hnext | hnext
      · rw [hterminal] at hnext
        cases hnext
      · exact hnext
    · exact hlive.active c' t (hothers c' heq ▸ ht)

/-- The identifier that a datagram makes the manager assign: that of the session which
`ensure_session_for_new_peer` creates. -/
def assignedBy (random : Randomness) (endpoint : EndpointKey) (bytes : Bytes)
    (m : ServerSessionManager) : List U32 :=
  match decode bytes with
  | none => []
  | some decoded =>
    if decoded.header.connId = 0 ∧ m.findPendingSession endpoint = none then
      match ensureSessionForNewPeer random endpoint m with
      | some (some session, _) => [session.connId]
      | _ => []
    else []

/-- The session of a new peer. -/
def newSession (random : Randomness) (connId : U32) : SessionState :=
  Session.assignConnId connId (Session.init .server random.initialSeq)

/-- Everything a datagram can do: the identifiers it makes the manager assign, and the tables it
leaves. -/
inductive Routed (transport : TransportSettings) (random : Randomness) (e : EndpointKey)
    (bytes : Bytes) (nowMs : U64) (m : ServerSessionManager) :
    List U32 → ServerSessionManager → Prop where
  | ignored : Routed transport random e bytes nowMs m [] m
  | active {c : U32} {s : SessionState} (hc : m.activeConnId e = some c)
      (hs : m.findActiveSession c = some s) :
      Routed transport random e bytes nowMs m [] (tryDispatchActive transport e bytes c nowMs m).2
  | pending {s : SessionState} (hs : m.findPendingSession e = some s) :
      Routed transport random e bytes nowMs m [] (tryDispatchPending transport e bytes nowMs m).2
  | created {c : U32} (hnew : m.findPendingSession e = none) (hinactive : m.activeConnId e = none)
      (hfresh : m.connIdIsInUse c = false) :
      Routed transport random e bytes nowMs m [c]
        (tryDispatchPending transport e bytes nowMs (m.setPending e (newSession random c))).2

/-- The active session that a datagram is for. -/
def activeTarget (m : ServerSessionManager) (endpoint : EndpointKey) (bytes : Bytes) :
    Option U32 :=
  (decode bytes).bind fun decoded =>
    if decoded.header.connId ≠ 0 ∧ m.activeConnId endpoint = some decoded.header.connId then
      some decoded.header.connId
    else none

/-- Everything a datagram can do, as in `Routed`, and which datagrams do it. -/
inductive Route (transport : TransportSettings) (random : Randomness) (e : EndpointKey)
    (bytes : Bytes) (nowMs : U64) (m : ServerSessionManager) :
    List U32 → ServerSessionManager → Prop where
  | dropped (hnone : ∀ c, activeTarget m e bytes = some c → m.findActiveSession c = none) :
      Route transport random e bytes nowMs m [] m
  | active {packet : PacketView} {s : SessionState} (hdecode : decode bytes = some packet)
      (hne : packet.header.connId ≠ 0) (hc : m.activeConnId e = some packet.header.connId)
      (hs : m.findActiveSession packet.header.connId = some s) :
      Route transport random e bytes nowMs m []
        (tryDispatchActive transport e bytes packet.header.connId nowMs m).2
  | pending {packet : PacketView} {s : SessionState} (hdecode : decode bytes = some packet)
      (habsent : packet.header.connId ≠ 0 → m.findActiveSession packet.header.connId = none)
      (hs : m.findPendingSession e = some s) :
      Route transport random e bytes nowMs m [] (tryDispatchPending transport e bytes nowMs m).2
  | created {packet : PacketView} {c : U32} (hdecode : decode bytes = some packet)
      (hzero : packet.header.connId = 0) (hnew : m.findPendingSession e = none)
      (hinactive : m.activeConnId e = none) (hfresh : m.connIdIsInUse c = false) :
      Route transport random e bytes nowMs m [c]
        (tryDispatchPending transport e bytes nowMs (m.setPending e (newSession random c))).2

theorem routeExistingActive_cases (header : Header) :
    routeExistingActive transport e bytes header nowMs m = (false, m) ∧
        (header.connId ≠ 0 → m.findActiveSession header.connId = none) ∨
      header.connId ≠ 0 ∧ (routeExistingActive transport e bytes header nowMs m = (true, m) ∧
          m.activeConnId e ≠ some header.connId ∨
        ∃ s, m.activeConnId e = some header.connId ∧
          m.findActiveSession header.connId = some s ∧
          routeExistingActive transport e bytes header nowMs m =
            (true, (tryDispatchActive transport e bytes header.connId nowMs m).2)) := by
  rw [routeExistingActive]
  split_ifs with hzero hactive hmatch
  · exact Or.inl ⟨rfl, fun hne => absurd hzero hne⟩
  · refine Or.inl ⟨rfl, fun _ => ?_⟩
    simpa [hasActiveSession] using hactive
  · exact Or.inr ⟨hzero, Or.inl ⟨rfl, by simpa [isActiveEndpointMatch] using hmatch⟩⟩
  · refine Or.inr ⟨hzero, Or.inr ?_⟩
    simp only [hasActiveSession, Bool.not_eq_true', Bool.not_eq_false,
      Option.isSome_iff_exists] at hactive
    obtain ⟨s, hs⟩ := hactive
    refine ⟨s, by simpa [isActiveEndpointMatch] using hmatch, hs, ?_⟩
    rw [tryDispatchActive, hs]

/-- `allocate_conn_id` sees the new session in the table, but not yet with an identifier. -/
theorem allocateConnId_fresh {random : Randomness} {draws : List (U32 × U32)}
    (hnew : m.findPendingSession e = none)
    (h : allocateConnId draws (m.setPending e (Session.init .server random.initialSeq)) = some c) :
    m.connIdIsInUse c = false := by
  have hfound := List.find?_some h
  simp only [Bool.not_eq_true'] at hfound
  obtain ⟨hne, hretired, hactive, hpending⟩ := connIdIsInUse_eq_false.1 hfound
  refine connIdIsInUse_eq_false.2 ⟨hne, hretired, hactive, fun e' t ht => hpending e' t ?_⟩
  have heq : e' ≠ e := fun heq => by
    rw [heq, hnew] at ht
    cases ht
  rw [findPendingSession_setPending, if_neg heq, ht]

theorem activeTarget_of_decode {packet : PacketView} (hdecode : decode bytes = some packet) :
    activeTarget m e bytes =
      if packet.header.connId ≠ 0 ∧ m.activeConnId e = some packet.header.connId then
        some packet.header.connId
      else none := by
  simp only [activeTarget, hdecode, Option.bind_some]

/-- A datagram without an identifier, from an endpoint that has no pending session. -/
theorem routeNewPeer_route {random : Randomness} {packet : PacketView} {m' : ServerSessionManager}
    (hdecode : decode bytes = some packet) (hzero : packet.header.connId = 0)
    (hs : m.findPendingSession e = none)
    (h : (routeNewPeer transport random e bytes packet.header nowMs m).map Prod.snd = some m') :
    Route transport random e bytes nowMs m
      (match ensureSessionForNewPeer random e m with
        | some (some session, _) => [session.connId]
        | _ => []) m' := by
  simp only [routeNewPeer, hzero, ensureSessionForNewPeer, hs, ne_eq, not_true_eq_false,
    if_false] at h ⊢
  cases hbinding : m.activeConnId e with
  | some c =>
    simp only [hbinding, Option.isSome_some, if_true, Option.map_some, Option.some.injEq] at h ⊢
    subst h
    refine .dropped fun c hc => ?_
    simp [activeTarget_of_decode hdecode, hzero] at hc
  | none =>
    simp only [hbinding, Option.isSome_none, Bool.false_eq_true, if_false] at h ⊢
    cases halloc : allocateConnId random.draws
        (m.setPending e (Session.init .server random.initialSeq)) with
    | none =>
      rw [halloc] at h
      cases h
    | some c =>
      simp only [halloc, Option.map_some, Option.some.injEq] at h ⊢
      subst h
      have htwice : (m.setPending e (Session.init .server random.initialSeq)).setPending e
          (newSession random c) = m.setPending e (newSession random c) := by
        simp only [setPending, Finmap.insert_insert]
      rw [show Session.assignConnId c (Session.init .server random.initialSeq) =
        newSession random c from rfl, htwice]
      exact .created hdecode hzero hs hbinding (allocateConnId_fresh hs halloc)

/-- **Routing.** -/
theorem onDatagramReceived_route {random : Randomness} {m' : ServerSessionManager}
    (h : onDatagramReceived transport random e bytes nowMs m = some m') :
    Route transport random e bytes nowMs m (assignedBy random e bytes m) m' := by
  rw [onDatagramReceived] at h
  rw [assignedBy]
  cases hdecode : decode bytes with
  | none =>
    rw [hdecode] at h
    obtain rfl := Option.some.inj h
    exact .dropped fun c hc => by simp [activeTarget, hdecode] at hc
  | some packet =>
    simp only [hdecode] at h ⊢
    rcases routeExistingActive_cases packet.header with ⟨hroute, habsent⟩ | ⟨hne, hroute⟩
    · rw [hroute] at h
      simp only [Bool.false_eq_true, if_false, routeExistingPending] at h
      cases hs : m.findPendingSession e with
      | some s =>
        have hrouted : (tryDispatchPending transport e bytes nowMs m).1 = true := by
          simp only [tryDispatchPending, hs]
          split_ifs <;> rfl
        simp only [hrouted, if_true] at h
        obtain rfl := Option.some.inj h
        rw [if_neg fun hand => nomatch hand.2]
        exact .pending hdecode habsent hs
      | none =>
        have hrouted : tryDispatchPending transport e bytes nowMs m = (false, m) := by
          rw [tryDispatchPending, hs]
        simp only [hrouted, Bool.false_eq_true, if_false] at h
        by_cases hzero : packet.header.connId = 0
        · rw [if_pos ⟨hzero, rfl⟩]
          exact routeNewPeer_route hdecode hzero hs h
        · rw [if_neg fun hand => hzero hand.1]
          simp only [routeNewPeer, hzero, ne_eq, not_false_eq_true, if_true, Option.map_some,
            Option.some.injEq] at h
          subst h
          refine .dropped fun c hc => ?_
          rw [activeTarget_of_decode hdecode] at hc
          split_ifs at hc
          exact Option.some.inj hc ▸ habsent hzero
    · rw [if_neg fun hand => hne hand.1]
      rcases hroute with ⟨hroute, hother⟩ | ⟨s, hc, hs, hroute⟩
      · rw [hroute] at h
        obtain rfl := Option.some.inj h
        refine .dropped fun c hc => ?_
        rw [activeTarget_of_decode hdecode, if_neg fun hand => hother hand.2] at hc
        cases hc
      · rw [hroute] at h
        obtain rfl := Option.some.inj h
        exact .active hdecode hne hc hs

theorem onDatagramReceived_routed {random : Randomness} {m' : ServerSessionManager}
    (h : onDatagramReceived transport random e bytes nowMs m = some m') :
    Routed transport random e bytes nowMs m (assignedBy random e bytes m) m' := by
  have hroute := onDatagramReceived_route h
  generalize assignedBy random e bytes m = new at hroute ⊢
  cases hroute with
  | dropped _ => exact .ignored
  | active _ _ hc hs => exact .active hc hs
  | pending _ _ hs => exact .pending hs
  | created _ _ hnew hinactive hfresh => exact .created hnew hinactive hfresh

/-- **One datagram.** -/
theorem Sound.routed {random : Randomness} {new : List U32} {m' : ServerSessionManager}
    (h : Sound m assigned) (hrouted : Routed transport random e bytes nowMs m new m') :
    Dispatched m m' (assigned ++ new) e := by
  cases hrouted with
  | ignored =>
    rw [List.append_nil]
    exact ⟨h.consistent, h.live, fun e' _ => .refl m e'⟩
  | active hc hs =>
    rw [List.append_nil]
    exact h.consistent.dispatchActive h.live hc hs
  | pending hs =>
    rw [List.append_nil]
    exact h.consistent.dispatchPending (h.live.others e) hs (Or.inl (h.live.pending e _ hs))
  | @created c hnew hinactive hfresh =>
    -- The new session is closed until its first packet is through.
    have h₁ : Consistent (m.setPending e (newSession random c)) (assigned ++ [c]) :=
      h.consistent.createSession hnew hinactive hfresh rfl
    have hs : (m.setPending e (newSession random c)).findPendingSession e =
        some (newSession random c) := by simp
    refine Dispatched.of_untouched ?_ fun e' hne => untouched_setPending m (newSession random c) hne
    exact h₁.dispatchPending ((h.live.others e).setPending _) hs (Or.inr rfl)

end Dispatch

/-! ## One poll -/

/-- The tables while a poll is under way: sessions that were reset are due for cleanup. -/
structure Settling (m : ServerSessionManager) (assigned : List U32) (duePending : List EndpointKey)
    (dueActive : List (EndpointKey × U32)) : Prop where
  consistent : Consistent m assigned
  pending : ∀ e s, m.findPendingSession e = some s →
    s.connectionState.isPending ∨ e ∈ duePending
  active : ∀ c s, m.findActiveSession c = some s →
    s.connectionState.isActive ∨ ∃ e, (e, c) ∈ dueActive
  due : ∀ e c, (e, c) ∈ dueActive → m.activeConnId e = some c ∨ c ∈ m.retiredConnIds

section Poll

variable {transport : TransportSettings} {nowMs : U64} {m : ServerSessionManager}
  {assigned : List U32} {duePending : List EndpointKey} {dueActive : List (EndpointKey × U32)}

theorem Sound.settling (h : Sound m assigned) : Settling m assigned [] [] :=
  ⟨h.consistent, fun e s hs => Or.inl (h.live.pending e s hs),
    fun c s hs => Or.inl (h.live.active c s hs), fun _ _ hmem => nomatch hmem⟩

theorem Settling.sound (h : Settling m assigned [] []) : Sound m assigned where
  consistent := h.consistent
  live :=
    ⟨fun e s hs => (h.pending e s hs).resolve_right fun hmem => (nomatch hmem),
      fun c s hs => (h.active c s hs).resolve_right fun ⟨_, hmem⟩ => nomatch hmem⟩

/-- What a loop remembers of a polled session. -/
theorem Collected.record_spec {κ : Type} (collected : Collected κ) (e : EndpointKey) (key : κ)
    (out : Option Bytes) (state : ConnectionState) :
    (collected.record e key out state m).manager = m ∧
      collected.toCleanup ⊆ (collected.record e key out state m).toCleanup ∧
      (out = none → state = .reset → key ∈ (collected.record e key out state m).toCleanup) ∧
      ∀ k ∈ (collected.record e key out state m).toCleanup, k ∈ collected.toCleanup ∨ k = key := by
  cases out with
  | some bytes => exact ⟨rfl, List.Subset.refl _, nofun, fun k hk => Or.inl hk⟩
  | none =>
    simp only [Collected.record]
    split_ifs with hterminal
    · refine ⟨rfl, List.subset_append_left _ _, fun _ _ => by simp, fun k hk => ?_⟩
      simpa using hk
    · refine ⟨rfl, List.Subset.refl _, fun _ hreset => ?_, fun k hk => Or.inl hk⟩
      rw [hreset] at hterminal
      exact absurd rfl hterminal

theorem Settling.collectPendingOne {collected : Collected EndpointKey}
    (h : Settling collected.manager assigned collected.toCleanup dueActive) (e : EndpointKey) :
    Settling (collectPendingOne transport nowMs collected e).manager assigned
      (collectPendingOne transport nowMs collected e).toCleanup dueActive := by
  rw [ServerSessionManager.collectPendingOne]
  cases hs : collected.manager.findPendingSession e with
  | none => exact h
  | some s =>
    obtain ⟨hrole, hconnId, hstate⟩ := (pollTx_effect transport nowMs s).of_server
      (h.consistent.pending_session e s hs).2
    simp only
    obtain ⟨hmanager, hsubset, hdue, -⟩ := collected.record_spec e e
      (Session.pollTx transport nowMs s).1 (Session.pollTx transport nowMs s).2.connectionState
      (m := collected.manager.setPending e (Session.pollTx transport nowMs s).2)
    rw [hmanager]
    refine ⟨h.consistent.setPending hs hconnId hrole, fun e' t ht => ?_, h.active, h.due⟩
    rw [findPendingSession_setPending] at ht
    split_ifs at ht with heq
    · obtain rfl := Option.some.inj ht
      subst heq
      rcases hstate with hstate | ⟨hnone, hreset⟩
      · exact (h.pending e' s hs).imp (fun hpending => by rwa [hstate]) fun hmem => hsubset hmem
      · exact Or.inr (hdue hnone hreset)
    · exact (h.pending e' t ht).imp id fun hmem => hsubset hmem

theorem Settling.collectActiveOne {collected : Collected (EndpointKey × U32)}
    (h : Settling collected.manager assigned duePending collected.toCleanup) (e : EndpointKey) :
    Settling (collectActiveOne transport nowMs collected e).manager assigned duePending
      (collectActiveOne transport nowMs collected e).toCleanup := by
  rw [ServerSessionManager.collectActiveOne]
  cases hc : collected.manager.activeConnId e with
  | none => exact h
  | some c =>
    simp only
    cases hs : collected.manager.findActiveSession c with
    | none => exact h
    | some s =>
      obtain ⟨hrole, hconnId, hstate⟩ := (pollTx_effect transport nowMs s).of_server
        (h.consistent.active_session c s hs).2
      simp only
      obtain ⟨hmanager, hsubset, hdue, hnew⟩ := collected.record_spec e (e, c)
        (Session.pollTx transport nowMs s).1 (Session.pollTx transport nowMs s).2.connectionState
        (m := collected.manager.setActive c (Session.pollTx transport nowMs s).2)
      rw [hmanager]
      refine ⟨h.consistent.setActive hs hconnId hrole, h.pending, fun c' t ht => ?_,
        fun e' c' hmem => ?_⟩
      · rw [findActiveSession_setActive] at ht
        split_ifs at ht with heq
        · obtain rfl := Option.some.inj ht
          subst heq
          rcases hstate with hstate | ⟨hnone, hreset⟩
          · exact (h.active c' s hs).imp (fun hactive => by rwa [hstate])
              fun ⟨e', hmem⟩ => ⟨e', hsubset hmem⟩
          · exact Or.inr ⟨e, hdue hnone hreset⟩
        · exact (h.active c' t ht).imp id fun ⟨e', hmem⟩ => ⟨e', hsubset hmem⟩
      · rcases hnew (e', c') hmem with hold | heq
        · exact h.due e' c' hold
        · obtain ⟨rfl, rfl⟩ := Prod.mk.inj heq
          exact Or.inl hc

theorem subset_retiredConnIds_cleanupPendingSession (e : EndpointKey) :
    m.retiredConnIds ⊆ (cleanupPendingSession e m).retiredConnIds := by
  rw [cleanupPendingSession]
  split
  · exact Finset.Subset.refl _
  · simp only
    split_ifs
    · exact Finset.subset_insert _ _
    · exact Finset.Subset.refl _

theorem Settling.cleanupPendingSession {e : EndpointKey}
    (h : Settling m assigned (e :: duePending) dueActive) :
    Settling (cleanupPendingSession e m) assigned duePending dueActive where
  consistent := h.consistent.cleanupPendingSession
  pending := fun e' s hs => by
    rw [findPendingSession_cleanupPendingSession] at hs
    split_ifs at hs with heq
    exact (h.pending e' s hs).imp id fun hmem => (List.mem_cons.1 hmem).resolve_left heq
  active := fun c s hs => by
    rw [findActiveSession_cleanupPendingSession] at hs
    exact h.active c s hs
  due := fun e' c hmem => by
    rw [activeConnId_cleanupPendingSession]
    exact (h.due e' c hmem).imp id fun hretired =>
      subset_retiredConnIds_cleanupPendingSession e hretired

/-- Cleaning up a retired identifier changes nothing. -/
theorem Consistent.cleanupActiveSession_of_retired (h : Consistent m assigned) {e : EndpointKey}
    {c : U32} (hc : c ∈ m.retiredConnIds) : ServerSessionManager.cleanupActiveSession e c m = m := by
  have hbinding : ∀ e', m.activeConnId e' ≠ some c := fun e' he' =>
    (h.connId_ne_zero (h.holds_of_active he')).2 hc
  have hactive : m.findActiveSession c = none := by
    cases hs : m.findActiveSession c with
    | none => rfl
    | some s =>
      obtain ⟨e', he'⟩ := (h.active_iff c).1 ⟨s, hs⟩
      exact absurd he' (hbinding e')
  have herase : m.activeByConnId.erase c = m.activeByConnId := by
    refine Finmap.ext_lookup fun c' => ?_
    rw [lookup_erase_ite]
    split_ifs with heq
    · rw [heq]
      exact hactive.symm
    · rfl
  rw [ServerSessionManager.cleanupActiveSession, herase, if_neg (hbinding e)]
  simp [Finset.insert_eq_of_mem hc]

theorem Settling.cleanupActiveSession {e : EndpointKey} {c : U32}
    (h : Settling m assigned duePending ((e, c) :: dueActive)) :
    Settling (cleanupActiveSession e c m) assigned duePending dueActive := by
  rcases h.due e c List.mem_cons_self with hc | hretired
  · have hne := (h.consistent.connId_ne_zero (h.consistent.holds_of_active hc)).1
    refine ⟨h.consistent.cleanupActiveSession hc, h.pending, fun c' s hs => ?_,
      fun e' c' hmem => ?_⟩
    · rw [findActiveSession_cleanupActiveSession] at hs
      split_ifs at hs with heq
      refine (h.active c' s hs).imp id fun ⟨e', hmem⟩ => ⟨e', ?_⟩
      rcases List.mem_cons.1 hmem with hhead | htail
      · exact absurd (Prod.mk.inj hhead).2 heq
      · exact htail
    · have hinsert : (ServerSessionManager.cleanupActiveSession e c m).retiredConnIds =
          insert c m.retiredConnIds := if_pos hne
      rw [activeConnId_cleanupActiveSession hc, hinsert, Finset.mem_insert]
      rcases h.due e' c' (List.mem_cons_of_mem _ hmem) with hc' | hretired
      · split_ifs with heq
        · rw [heq, hc] at hc'
          exact Or.inr (Or.inl (Option.some.inj hc').symm)
        · exact Or.inl hc'
      · exact Or.inr (Or.inr hretired)
  · rw [h.consistent.cleanupActiveSession_of_retired hretired]
    refine ⟨h.consistent, h.pending, fun c' s hs => ?_,
      fun e' c' hmem => h.due e' c' (List.mem_cons_of_mem _ hmem)⟩
    refine (h.active c' s hs).imp id fun ⟨e', hmem⟩ => ⟨e', ?_⟩
    rcases List.mem_cons.1 hmem with hhead | htail
    · -- A retired identifier has no session.
      obtain ⟨-, rfl⟩ := Prod.mk.inj hhead
      obtain ⟨e'', he''⟩ := (h.consistent.active_iff c').1 ⟨s, hs⟩
      exact absurd hretired (h.consistent.connId_ne_zero (h.consistent.holds_of_active he'')).2
    · exact htail

theorem Sound.collectPendingTx (h : Sound m assigned) (order : List EndpointKey) :
    Settling (collectPendingTx transport nowMs order m).manager assigned
      (collectPendingTx transport nowMs order m).toCleanup [] :=
  Run.invariant (fun collected : Collected EndpointKey =>
      Settling collected.manager assigned collected.toCleanup [])
    (fun _ e hc => hc.collectPendingOne e) h.settling order

theorem Settling.collectActiveTx (h : Settling m assigned duePending [])
    (order : List EndpointKey) :
    Settling (collectActiveTx transport nowMs order m).manager assigned duePending
      (collectActiveTx transport nowMs order m).toCleanup :=
  Run.invariant (fun collected : Collected (EndpointKey × U32) =>
      Settling collected.manager assigned duePending collected.toCleanup)
    (fun _ e hc => hc.collectActiveOne e) h order

/-- **One poll.** What it resets, it cleans up. -/
theorem Sound.pollTx (h : Sound m assigned) (pendingOrder activeOrder : List EndpointKey) :
    Sound (pollTx transport pendingOrder activeOrder nowMs m).2 assigned := by
  have hpending := @Sound.collectPendingTx transport nowMs m assigned h pendingOrder
  rw [ServerSessionManager.pollTx]
  generalize ServerSessionManager.collectPendingTx transport nowMs pendingOrder m = pending
    at hpending
  have hactive := @Settling.collectActiveTx transport nowMs _ _ _ hpending activeOrder
  generalize ServerSessionManager.collectActiveTx transport nowMs activeOrder pending.manager =
    active at hactive
  have hcleaned : ∀ (due : List EndpointKey) (t : ServerSessionManager),
      Settling t assigned due active.toCleanup →
      Settling (due.foldl (fun m e => ServerSessionManager.cleanupPendingSession e m) t) assigned []
        active.toCleanup := by
    intro due
    induction due with
    | nil => exact fun t ht => ht
    | cons e due ih => exact fun t ht => ih _ ht.cleanupPendingSession
  have hfinal : ∀ (due : List (EndpointKey × U32)) (t : ServerSessionManager),
      Settling t assigned [] due →
      Settling (due.foldl (fun m k => ServerSessionManager.cleanupActiveSession k.1 k.2 m) t)
        assigned [] [] := by
    intro due
    induction due with
    | nil => exact fun t ht => ht
    | cons k due ih => exact fun t ht => ih _ ht.cleanupActiveSession
  exact (hfinal _ _ (hcleaned _ _ hactive)).sound

end Poll

/-! ## The application's side -/

section Application

variable {m : ServerSessionManager} {assigned : List U32} {e : EndpointKey} {c : U32}
  {s s' : SessionState}

/-- The application may do with a session what does not move its connection. -/
theorem Sound.setPending (h : Sound m assigned) (hs : m.findPendingSession e = some s)
    (hconnId : s'.connId = s.connId) (hrole : s'.role = s.role)
    (hstate : s'.connectionState = s.connectionState) : Sound (m.setPending e s') assigned := by
  refine ⟨h.consistent.setPending hs hconnId hrole, fun e' t ht => ?_, h.live.active⟩
  rw [findPendingSession_setPending] at ht
  split_ifs at ht
  · obtain rfl := Option.some.inj ht
    rw [hstate]
    exact h.live.pending e s hs
  · exact h.live.pending e' t ht

theorem Sound.setActive (h : Sound m assigned) (hs : m.findActiveSession c = some s)
    (hconnId : s'.connId = s.connId) (hrole : s'.role = s.role)
    (hstate : s'.connectionState = s.connectionState) : Sound (m.setActive c s') assigned := by
  refine ⟨h.consistent.setActive hs hconnId hrole, h.live.pending, fun c' t ht => ?_⟩
  rw [findActiveSession_setActive] at ht
  split_ifs at ht
  · obtain rfl := Option.some.inj ht
    rw [hstate]
    exact h.live.active c s hs
  · exact h.live.active c' t ht

theorem Sound.queueSend (h : Sound m assigned) (channelId : U32) (channelType : ChannelType)
    (payload : Bytes) : Sound (queueSend c channelId channelType payload m).2 assigned := by
  rw [ServerSessionManager.queueSend]
  cases hs : m.findActiveSession c with
  | none => exact h
  | some s => exact h.setActive hs rfl rfl rfl

theorem Sound.drainActiveEvents (h : Sound m assigned) :
    Sound (drainActiveEvents c m).2 assigned := by
  rw [ServerSessionManager.drainActiveEvents]
  cases hs : m.findActiveSession c with
  | none => exact h
  | some s => exact h.setActive hs rfl rfl rfl

theorem Sound.drainEvents (h : Sound m assigned) (pendingOrder activeOrder : List EndpointKey) :
    Sound (drainEvents pendingOrder activeOrder m).2 assigned := by
  have hpending : Sound (pendingOrder.foldl drainPendingOne ([], m)).2 assigned := by
    refine Run.invariant (fun drained : List ServerSessionEvent × ServerSessionManager =>
      Sound drained.2 assigned) (fun drained e hd => ?_) h pendingOrder
    rw [drainPendingOne]
    cases hs : drained.2.findPendingSession e with
    | none => exact hd
    | some s => exact hd.setPending hs rfl rfl rfl
  refine Run.invariant (fun drained : List ServerSessionEvent × ServerSessionManager =>
    Sound drained.2 assigned) (fun drained e hd => ?_) hpending activeOrder
  rw [drainActiveOne]
  cases hc : drained.2.activeConnId e with
  | none => exact hd
  | some c =>
    simp only
    cases hs : drained.2.findActiveSession c with
    | none => exact hd
    | some s => exact hd.setActive hs rfl rfl rfl

end Application

end ServerSessionManager

/-! ## Every run -/

open ServerSessionManager

/-- The public operations of the manager, with what they draw at random and the order in which
they visit the tables. -/
inductive ManagerOp where
  | onDatagramReceived (random : Randomness) (endpoint : EndpointKey) (bytes : Bytes) (nowMs : U64)
  | pollTx (pendingOrder activeOrder : List EndpointKey) (nowMs : U64)
  | queueSend (connId channelId : U32) (channelType : ChannelType) (payload : Bytes)
  | drainEvents (pendingOrder activeOrder : List EndpointKey)
  | drainActiveEvents (connId : U32)

/-- A manager, and the identifiers it has assigned so far. -/
structure ServerRun where
  manager : ServerSessionManager := {}
  assigned : List U32 := []

def ServerRun.step (transport : TransportSettings) (r : ServerRun) : ManagerOp → Option ServerRun
  | .onDatagramReceived random endpoint bytes nowMs =>
    (r.manager.onDatagramReceived transport random endpoint bytes nowMs).map fun manager =>
      { manager, assigned := r.assigned ++ assignedBy random endpoint bytes r.manager }
  | .pollTx pendingOrder activeOrder nowMs =>
    some { r with manager := (r.manager.pollTx transport pendingOrder activeOrder nowMs).2 }
  | .queueSend connId channelId channelType payload =>
    some { r with manager := (r.manager.queueSend connId channelId channelType payload).2 }
  | .drainEvents pendingOrder activeOrder =>
    some { r with manager := (r.manager.drainEvents pendingOrder activeOrder).2 }
  | .drainActiveEvents connId =>
    some { r with manager := (r.manager.drainActiveEvents connId).2 }

theorem ServerRun.step_sound {transport : TransportSettings} {r r' : ServerRun} {op : ManagerOp}
    (h : Sound r.manager r.assigned) (hstep : r.step transport op = some r') :
    Sound r'.manager r'.assigned := by
  cases op with
  | onDatagramReceived random endpoint bytes nowMs =>
    obtain ⟨m', hm', rfl⟩ := Option.map_eq_some_iff.1 hstep
    have hdispatched := h.routed (onDatagramReceived_routed hm')
    exact ⟨hdispatched.consistent, hdispatched.live⟩
  | pollTx pendingOrder activeOrder nowMs =>
    obtain rfl := Option.some.inj hstep
    exact h.pollTx pendingOrder activeOrder
  | queueSend connId channelId channelType payload =>
    obtain rfl := Option.some.inj hstep
    exact h.queueSend channelId channelType payload
  | drainEvents pendingOrder activeOrder =>
    obtain rfl := Option.some.inj hstep
    exact h.drainEvents pendingOrder activeOrder
  | drainActiveEvents connId =>
    obtain rfl := Option.some.inj hstep
    exact h.drainActiveEvents

theorem sound_empty : Sound {} [] := by
  refine ⟨⟨⟨?_, ?_, ?_, List.nodup_nil⟩, ?_, ?_, ?_⟩, ?_, ?_⟩
  · exact fun hholds => nomatch hholds
  · exact fun hholds => nomatch hholds
  · exact fun _ hmem => nomatch hmem
  · exact fun _ => ⟨fun ⟨_, hs⟩ => (nomatch hs), fun ⟨_, hc⟩ => (nomatch hc)⟩
  all_goals exact fun _ _ hs => nomatch hs

theorem ServerRun.run_sound {transport : TransportSettings} {ops : List ManagerOp} {r : ServerRun}
    (hrun : Run.runM (ServerRun.step transport) {} ops = some r) : Sound r.manager r.assigned :=
  Run.invariantM (fun r : ServerRun => Sound r.manager r.assigned)
    (fun _ _ _ h hstep => step_sound h hstep) sound_empty hrun

/-- The representation invariant of the manager, table by table. -/
structure RepresentationInvariant (m : ServerSessionManager) (assigned : List U32) : Prop where
  /-- The active sessions are exactly those that an endpoint is bound to. -/
  active_keys : ∀ connId, (∃ session, m.activeByConnId.lookup connId = some session) ↔
    ∃ endpoint, m.activeConnIdByEndpoint.lookup endpoint = some connId
  /-- No two endpoints are bound to one session. -/
  injective : ∀ e e' connId, m.activeConnIdByEndpoint.lookup e = some connId →
    m.activeConnIdByEndpoint.lookup e' = some connId → e = e'
  own_connId : ∀ connId session, m.activeByConnId.lookup connId = some session →
    session.connId = connId
  /-- No endpoint is both pending and active. -/
  disjoint : ∀ e, m.pendingByEndpoint.lookup e ≠ none → m.activeConnIdByEndpoint.lookup e = none
  /-- Identifiers in use are not zero and not retired. -/
  pending_connId : ∀ e session, m.pendingByEndpoint.lookup e = some session →
    session.connId ≠ 0 ∧ session.connId ∉ m.retiredConnIds
  active_connId : ∀ connId session, m.activeByConnId.lookup connId = some session →
    connId ≠ 0 ∧ connId ∉ m.retiredConnIds
  /-- Identifiers of two sessions differ. -/
  pending_distinct : ∀ e e' session session', m.pendingByEndpoint.lookup e = some session →
    m.pendingByEndpoint.lookup e' = some session' → session.connId = session'.connId → e = e'
  pending_active_distinct : ∀ e session, m.pendingByEndpoint.lookup e = some session →
    m.activeByConnId.lookup session.connId = none
  /-- No identifier was assigned twice. -/
  assigned_once : assigned.Nodup
  /-- No session that has ended is in a table. -/
  pending_state : ∀ e session, m.pendingByEndpoint.lookup e = some session →
    session.connectionState = .handshakeReceived ∨ session.connectionState = .closing
  active_state : ∀ connId session, m.activeByConnId.lookup connId = some session →
    session.connectionState = .established ∨ session.connectionState = .closing

theorem ServerSessionManager.Sound.representationInvariant {m : ServerSessionManager}
    {assigned : List U32} (h : Sound m assigned) : RepresentationInvariant m assigned where
  active_keys := h.consistent.active_iff
  injective := fun _ _ _ hc hc' => h.consistent.valid.unique (h.consistent.holds_of_active hc)
    (h.consistent.holds_of_active hc')
  own_connId := fun c s hs => (h.consistent.active_session c s hs).1
  disjoint := fun e hne => by
    obtain ⟨s, hs⟩ := Option.ne_none_iff_exists'.1 hne
    exact (h.consistent.pending_session e s hs).1
  pending_connId := fun _ _ hs => h.consistent.connId_ne_zero (holds_of_pending assigned hs)
  active_connId := fun c s hs => by
    obtain ⟨e, hc⟩ := (h.consistent.active_iff c).1 ⟨s, hs⟩
    exact h.consistent.connId_ne_zero (h.consistent.holds_of_active hc)
  pending_distinct := fun e e' s s' hs hs' heq => by
    refine h.consistent.valid.unique (holds_of_pending assigned hs) ?_
    rw [heq]
    exact holds_of_pending assigned hs'
  pending_active_distinct := fun e s hs => by
    cases ht : m.activeByConnId.lookup s.connId with
    | none => rfl
    | some t =>
      -- An endpoint bound to it would be the pending one.
      obtain ⟨e', hc⟩ := (h.consistent.active_iff s.connId).1 ⟨t, ht⟩
      obtain rfl := h.consistent.valid.unique (h.consistent.holds_of_active hc)
        (holds_of_pending assigned hs)
      rw [(h.consistent.pending_session e' s hs).1] at hc
      cases hc
  assigned_once := h.consistent.valid.nodup
  pending_state := h.live.pending
  active_state := h.live.active

/-- **The tables of the manager are consistent after every operation**, whatever datagrams come
from whatever endpoints, whatever is drawn at random, and in whatever order the tables are
visited. -/
theorem manager_representation (transport : TransportSettings) {ops : List ManagerOp}
    {r : ServerRun} (hrun : Run.runM (ServerRun.step transport) {} ops = some r) :
    RepresentationInvariant r.manager r.assigned :=
  (ServerRun.run_sound hrun).representationInvariant

def clientEndpoint : EndpointKey := { address := "10.0.0.1", port := 4000 }

def otherEndpoint : EndpointKey := { address := "10.0.0.2", port := 4000 }

/-- A client completes its handshake, under identifier 7; another one has just begun. The draw of
0 and the second draw of 7 are rejected. -/
def twoClients : List ManagerOp :=
  [.onDatagramReceived ⟨100, [(0, 0), (0, 7)]⟩ clientEndpoint
      (controlDatagram 0 Flag.syn.toFlags 500 0 0) 0,
    .pollTx [clientEndpoint] [] 0,
    .onDatagramReceived ⟨0, []⟩ clientEndpoint (controlDatagram 7 Flag.ack.toFlags 0 101 0) 0,
    .onDatagramReceived ⟨200, [(0, 7), (1, 2)]⟩ otherEndpoint
      (controlDatagram 0 Flag.syn.toFlags 900 0 0) 0]

theorem manager_representation_twoClients :
    ∃ r, Run.runM (ServerRun.step {}) {} twoClients = some r ∧
      r.manager.activeConnId clientEndpoint = some 7 ∧ r.assigned = [7, 0x10002] ∧
      RepresentationInvariant r.manager r.assigned := by
  have hreturns : ((Run.runM (ServerRun.step {}) {} twoClients).map fun r =>
      (r.manager.activeConnId clientEndpoint, r.assigned)) = some (some 7, [7, 0x10002]) := by
    decide +kernel
  obtain ⟨r, hr, hvalue⟩ := Option.map_eq_some_iff.1 hreturns
  obtain ⟨hactive, hassigned⟩ := Prod.mk.inj hvalue
  exact ⟨r, hr, hactive, hassigned, manager_representation {} hr⟩

/-- **Endpoint isolation.** In every state the manager can reach, a datagram leaves everything
that belongs to other endpoints as it was: their pending session, their binding, and the whole
active session they are bound to. -/
theorem datagram_isolated (transport : TransportSettings) {ops : List ManagerOp} {r : ServerRun}
    (hrun : Run.runM (ServerRun.step transport) {} ops = some r) {random : Randomness}
    {e e' : EndpointKey} {bytes : Bytes} {nowMs : U64} {m' : ServerSessionManager}
    (hstep : r.manager.onDatagramReceived transport random e bytes nowMs = some m')
    (hne : e' ≠ e) :
    m'.pendingByEndpoint.lookup e' = r.manager.pendingByEndpoint.lookup e' ∧
      m'.activeConnIdByEndpoint.lookup e' = r.manager.activeConnIdByEndpoint.lookup e' ∧
      ∀ connId, r.manager.activeConnIdByEndpoint.lookup e' = some connId →
        m'.activeByConnId.lookup connId = r.manager.activeByConnId.lookup connId := by
  have h := ServerRun.run_sound hrun
  have huntouched := (h.routed (onDatagramReceived_routed hstep)).untouched e' hne
  exact ⟨huntouched.pending, huntouched.binding, huntouched.active⟩

/-- A reset under another client's identifier. -/
theorem datagram_isolated_forged :
    ∃ r m', Run.runM (ServerRun.step {}) {} twoClients = some r ∧
      r.manager.onDatagramReceived {} ⟨0, []⟩ otherEndpoint
        (controlDatagram 7 Flag.rst.toFlags 0 0 0) 0 = some m' ∧
      m'.pendingByEndpoint.lookup clientEndpoint =
        r.manager.pendingByEndpoint.lookup clientEndpoint ∧
      m'.activeConnIdByEndpoint.lookup clientEndpoint =
        r.manager.activeConnIdByEndpoint.lookup clientEndpoint ∧
      ∀ connId, r.manager.activeConnIdByEndpoint.lookup clientEndpoint = some connId →
        m'.activeByConnId.lookup connId = r.manager.activeByConnId.lookup connId := by
  have hreturns : ((Run.runM (ServerRun.step {}) {} twoClients).bind fun r =>
      (r.manager.onDatagramReceived {} ⟨0, []⟩ otherEndpoint
        (controlDatagram 7 Flag.rst.toFlags 0 0 0) 0)).isSome = true := by
    decide +kernel
  obtain ⟨m', hm'⟩ := Option.isSome_iff_exists.1 hreturns
  obtain ⟨r, hr, hstep⟩ := Option.bind_eq_some_iff.1 hm'
  exact ⟨r, m', hr, hstep, datagram_isolated {} hr hstep (by decide)⟩

end Rudp
