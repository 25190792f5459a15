import Rudp.ManagerPoll

/-!
# How an endpoint comes by its identifier

An endpoint holds the identifier of its session. It gets one when the manager creates a session for
it, keeps it when the session is promoted, and loses it when the session is cleaned up. A session is
promoted by an ACK that carries the identifier itself; so whoever sent the ACK knew it.
-/

namespace Rudp

/-- Only a packet under its own identifier establishes a server session. -/
theorem ReceiveEffect.establishes {bytes : Bytes} {s s' : SessionState}
    (h : ReceiveEffect bytes s s') (hserver : s.role = .server) (hne : s.connId ≠ 0)
    (hstate : s.connectionState ≠ .established) (hnext : s'.connectionState = .established) :
    ∃ packet, decode bytes = some packet ∧ packet.header.connId = s.connId := by
  cases h with
  | dropped _ hsame => exact absurd (hsame.symm.trans hnext) hstate
  | mismatch _ hreset =>
    rw [hreset] at hnext
    cases hnext
  | @processed packet result _ _ hdecode hmatch _ _ _ hdecided =>
    refine ⟨packet, hdecode, ?_⟩
    rw [hnext] at hdecided
    cases hdecision : (decideConnectionTransition s.role
        (stateAfterAck s.connectionState result.acknowledgedFin)
        (classifyControlKind packet.header)).nextState with
    | none =>
      rw [hdecision, Option.getD_none, stateAfterAck] at hdecided
      split_ifs at hdecided
      exact absurd hdecided.symm hstate
    | some next =>
      rw [hdecision, Option.getD_some] at hdecided
      subst hdecided
      obtain ⟨hack, hfrom⟩ : classifyControlKind packet.header = .ack ∧
          stateAfterAck s.connectionState result.acknowledgedFin = .handshakeReceived := by
        simpa [hserver] using nextState_cases hdecision
      have hopen : s.connectionState ≠ .closed := by
        rintro hclosed
        simp [stateAfterAck, hclosed] at hfrom
      -- The session is past its first packet, so the check compares the two identifiers.
      have hsame : ¬s.connId = 0 → packet.header.connId = s.connId := by
        simpa [Session.hasConnIdMismatch, Session.allowsServerZeroConnIdBootstrap, hack,
          hopen] using hmatch
      exact hsame hne

namespace ServerSessionManager

/-- The identifier an endpoint holds: that of its session, pending or active. -/
def holder (m : ServerSessionManager) (endpoint : EndpointKey) : Option U32 :=
  ((m.findPendingSession endpoint).map SessionState.connId).or (m.activeConnId endpoint)

section Holder

variable {m m' : ServerSessionManager} {assigned : List U32} {e : EndpointKey} {c : U32}
  {s : SessionState}

theorem holder_of_pending (hs : m.findPendingSession e = some s) : m.holder e = some s.connId := by
  simp [holder, hs]

theorem Consistent.holder_of_active (h : Consistent m assigned) (hc : m.activeConnId e = some c) :
    m.holder e = some c := h.holds_of_active hc

theorem Consistent.holder_ne_zero (h : Consistent m assigned) (hc : m.holder e = some c) : c ≠ 0 :=
  (h.connId_ne_zero hc).1

theorem Untouched.holder_eq (h : Untouched m m' e) : m'.holder e = m.holder e := by
  rw [holder, h.pending, h.binding, holder]

end Holder

/-! ## One datagram -/

section Dispatch

variable {transport : TransportSettings} {bytes : Bytes} {nowMs : U64}
  {m : ServerSessionManager} {assigned : List U32} {e : EndpointKey} {c : U32} {s : SessionState}

/-- **A pending session gets a datagram.** It is promoted if it is established by it, cleaned up if
it has ended, and stays otherwise. -/
theorem Consistent.tryDispatchPending_cases (h : Consistent m assigned)
    (hs : m.findPendingSession e = some s) :
    let s' := Session.onDatagramReceived transport bytes nowMs s
    let m' := (tryDispatchPending transport e bytes nowMs m).2
    s'.connectionState = .established ∧ m'.findPendingSession e = none ∧
        m'.activeConnId e = some s.connId ∧ m'.findActiveSession s.connId = some s' ∨
      isTerminalState s'.connectionState = true ∧ m'.findPendingSession e = none ∧
        m'.activeConnId e = none ∨
      isTerminalState s'.connectionState = false ∧ s'.connectionState ≠ .established ∧
        m'.findPendingSession e = some s' ∧ m'.activeConnId e = none := by
  obtain ⟨hinactive, hserver⟩ := h.pending_session e s hs
  have hconnId := (onDatagramReceived_effect transport bytes nowMs s).2.1 hserver
  have hne := (h.connId_ne_zero (holds_of_pending assigned hs)).1
  simp only [tryDispatchPending, hs]
  generalize Session.onDatagramReceived transport bytes nowMs s = s' at hconnId ⊢
  have hs' : (m.setPending e s').findPendingSession e = some s' := by simp
  by_cases hestablished : s'.connectionState = .established
  · rw [if_pos hestablished]
    obtain ⟨hpending, hactive, hbinding, -⟩ :=
      promotePendingSession_lookups hs' (hconnId.symm ▸ hne)
    refine Or.inl ⟨hestablished, ?_, ?_, ?_⟩
    · rw [hpending, if_pos rfl]
    · rw [hbinding, if_pos rfl, hconnId]
    · rw [hactive, if_pos hconnId.symm]
  · rw [if_neg hestablished]
    refine Or.inr ?_
    simp only [cleanupPendingIfTerminal, hs']
    cases hterminal : isTerminalState s'.connectionState with
    | true =>
      refine Or.inl ⟨rfl, ?_, ?_⟩
      · simp [findPendingSession_cleanupPendingSession]
      · simpa [activeConnId_cleanupPendingSession] using hinactive
    | false => exact Or.inr ⟨rfl, hestablished, by simp, by simpa using hinactive⟩

/-- **An active session gets a datagram.** It stays, unless it has ended. -/
theorem Consistent.tryDispatchActive_cases (h : Consistent m assigned)
    (hc : m.activeConnId e = some c) (hs : m.findActiveSession c = some s) :
    let s' := Session.onDatagramReceived transport bytes nowMs s
    let m' := (tryDispatchActive transport e bytes c nowMs m).2
    m'.findPendingSession e = none ∧
      (isTerminalState s'.connectionState = true ∧ m'.activeConnId e = none ∨
        isTerminalState s'.connectionState = false ∧ m'.activeConnId e = some c ∧
          m'.findActiveSession c = some s') := by
  have hpending : m.findPendingSession e = none := by
    cases ht : m.findPendingSession e with
    | none => rfl
    | some t =>
      rw [(h.pending_session e t ht).1] at hc
      cases hc
  simp only [tryDispatchActive, hs]
  generalize Session.onDatagramReceived transport bytes nowMs s = s'
  have hs' : (m.setActive c s').findActiveSession c = some s' := by simp
  have hc' : (m.setActive c s').activeConnId e = some c := hc
  simp only [cleanupActiveIfTerminal, hs']
  cases hterminal : isTerminalState s'.connectionState with
  | true => exact ⟨hpending, Or.inl ⟨rfl, by simp [activeConnId_cleanupActiveSession hc']⟩⟩
  | false => exact ⟨hpending, Or.inr ⟨rfl, hc', hs'⟩⟩

/-- What a pending session that gets a datagram leaves its endpoint with: its own identifier, and a
binding only if the datagram carries it. -/
theorem Consistent.dispatchPending_holder (h : Consistent m assigned)
    (hs : m.findPendingSession e = some s) (hstate : s.connectionState ≠ .established) :
    let m' := (tryDispatchPending transport e bytes nowMs m).2
    (∀ c, m'.activeConnId e = some c →
        ∃ packet, decode bytes = some packet ∧ packet.header.connId = c) ∧
      ∀ c, m'.holder e = some c → c = s.connId := by
  intro m'
  obtain ⟨-, hserver⟩ := h.pending_session e s hs
  obtain ⟨-, hconnId, heffect⟩ := onDatagramReceived_effect transport bytes nowMs s
  have hne := (h.connId_ne_zero (holds_of_pending assigned hs)).1
  have hcases := @Consistent.tryDispatchPending_cases transport bytes nowMs m assigned e s h hs
  generalize Session.onDatagramReceived transport bytes nowMs s = s' at hconnId heffect hcases
  rw [holder]
  rcases hcases with ⟨hnext, hpending, hbinding, -⟩ | ⟨-, hpending, hbinding⟩ |
    ⟨-, -, hpending, hbinding⟩
  · simp only [m', hpending, hbinding, Option.map_none, Option.none_or, Option.some.injEq]
    exact ⟨fun c hc => hc ▸ heffect.establishes hserver hne hstate hnext, fun c hc => hc.symm⟩
  · simp [m', hpending, hbinding]
  · simp only [m', hpending, hbinding, Option.map_some, Option.some_or, Option.some.injEq]
    exact ⟨nofun, fun c hc => hc.symm.trans (hconnId hserver)⟩

end Dispatch

/-! ## The other operations -/

/-- The endpoint holds what it held, in the same table. -/
structure SameIds (m m' : ServerSessionManager) (e : EndpointKey) : Prop where
  pending : (m'.findPendingSession e).map SessionState.connId =
    (m.findPendingSession e).map SessionState.connId
  binding : m'.activeConnId e = m.activeConnId e

section SameIds

variable {m m' m₁ m₂ m₃ : ServerSessionManager} {e f : EndpointKey} {c : U32}
  {s s' : SessionState}

theorem SameIds.refl (m : ServerSessionManager) (e : EndpointKey) : SameIds m m e := ⟨rfl, rfl⟩

theorem SameIds.trans (h : SameIds m₁ m₂ e) (h' : SameIds m₂ m₃ e) : SameIds m₁ m₃ e :=
  ⟨h'.pending.trans h.pending, h'.binding.trans h.binding⟩

theorem SameIds.holder_eq (h : SameIds m m' e) : m'.holder e = m.holder e := by
  rw [holder, h.pending, h.binding, holder]

theorem sameIds_setPending (hs : m.findPendingSession f = some s) (hconnId : s'.connId = s.connId) :
    SameIds m (m.setPending f s') e := by
  refine ⟨?_, rfl⟩
  rw [findPendingSession_setPending]
  split_ifs with heq
  · rw [heq, hs, Option.map_some, Option.map_some, hconnId]
  · rfl

theorem sameIds_setActive : SameIds m (m.setActive c s') e := ⟨rfl, rfl⟩

/-- What a loop does, if every visit does it. -/
theorem SameIds.foldl {S κ : Type} {manager : S → ServerSessionManager} {step : S → κ → S}
    (hstep : ∀ s k, SameIds (manager s) (manager (step s k)) e) (init : S) (order : List κ) :
    SameIds (manager init) (manager (order.foldl step init)) e :=
  Run.invariant (fun s => SameIds (manager init) (manager s) e)
    (fun s k h => h.trans (hstep s k)) (.refl _ e) order

theorem sameIds_collectPendingTx (transport : TransportSettings) (nowMs : U64)
    (order : List EndpointKey) (m : ServerSessionManager) :
    SameIds m (collectPendingTx transport nowMs order m).manager e := by
  refine @SameIds.foldl e _ _ Collected.manager (collectPendingOne transport nowMs)
    (fun collected f => ?_) { manager := m } order
  rw [collectPendingOne_writes.eq]
  cases hs : collected.manager.findPendingSession f with
  | none => exact .refl _ e
  | some s => exact sameIds_setPending hs (pollTx_effect transport nowMs s).keeps.2

theorem sameIds_collectActiveTx (transport : TransportSettings) (nowMs : U64)
    (order : List EndpointKey) (m : ServerSessionManager) :
    SameIds m (collectActiveTx transport nowMs order m).manager e := by
  rw [collectActiveTx_frame]
  exact ⟨rfl, rfl⟩

theorem sameIds_queueSend (channelId : U32) (channelType : ChannelType) (payload : Bytes) :
    SameIds m (queueSend c channelId channelType payload m).2 e := by
  rw [queueSend]
  cases m.findActiveSession c with
  | none => exact .refl _ e
  | some s => exact sameIds_setActive

theorem sameIds_drainActiveEvents : SameIds m (drainActiveEvents c m).2 e := by
  rw [drainActiveEvents]
  cases m.findActiveSession c with
  | none => exact .refl _ e
  | some s => exact sameIds_setActive

theorem sameIds_drainEvents (pendingOrder activeOrder : List EndpointKey) :
    SameIds m (drainEvents pendingOrder activeOrder m).2 e := by
  have hpending : SameIds m (pendingOrder.foldl drainPendingOne ([], m)).2 e := by
    refine @SameIds.foldl e _ _ Prod.snd drainPendingOne (fun drained f => ?_) ([], m) pendingOrder
    rw [drainPendingOne]
    cases hs : drained.2.findPendingSession f with
    | none => exact .refl _ e
    | some s => exact sameIds_setPending hs rfl
  refine hpending.trans (SameIds.foldl (fun drained f => ?_) _ activeOrder)
  rw [drainActiveOne]
  cases drained.2.activeConnId f with
  | none => exact .refl _ e
  | some c =>
    simp only
    cases drained.2.findActiveSession c with
    | none => exact .refl _ e
    | some s => exact sameIds_setActive

end SameIds

/-- The endpoint keeps what it holds, or loses it. -/
structure OnlyLoses (m m' : ServerSessionManager) (e : EndpointKey) : Prop where
  pending : (m'.findPendingSession e).map SessionState.connId =
    (m.findPendingSession e).map SessionState.connId ∨ m'.findPendingSession e = none
  binding : m'.activeConnId e = m.activeConnId e ∨ m'.activeConnId e = none

section OnlyLoses

variable {m m' m₁ m₂ m₃ : ServerSessionManager} {assigned : List U32} {e f : EndpointKey} {c : U32}

theorem SameIds.onlyLoses (h : SameIds m m' e) : OnlyLoses m m' e :=
  ⟨Or.inl h.pending, Or.inl h.binding⟩

theorem OnlyLoses.trans (h : OnlyLoses m₁ m₂ e) (h' : OnlyLoses m₂ m₃ e) : OnlyLoses m₁ m₃ e := by
  refine ⟨?_, ?_⟩
  · rcases h'.pending with hsame | hnone
    · refine h.pending.imp hsame.trans fun hnone => ?_
      rwa [hnone, Option.map_none, Option.map_eq_none_iff] at hsame
    · exact Or.inr hnone
  · rcases h'.binding with hsame | hnone
    · exact h.binding.imp hsame.trans hsame.trans
    · exact Or.inr hnone

theorem onlyLoses_cleanupPendingSession : OnlyLoses m (cleanupPendingSession f m) e := by
  refine ⟨?_, Or.inl (activeConnId_cleanupPendingSession e)⟩
  rw [findPendingSession_cleanupPendingSession]
  split_ifs
  · exact Or.inr rfl
  · exact Or.inl rfl

theorem onlyLoses_cleanupActiveSession : OnlyLoses m (cleanupActiveSession f c m) e := by
  refine ⟨Or.inl rfl, ?_⟩
  rw [activeConnId_cleanupActiveSession_ite]
  split_ifs
  · exact Or.inr rfl
  · exact Or.inl rfl

theorem OnlyLoses.foldl {κ : Type} {step : ServerSessionManager → κ → ServerSessionManager}
    (hstep : ∀ m k, OnlyLoses m (step m k) e) (m : ServerSessionManager) (due : List κ) :
    OnlyLoses m (due.foldl step m) e :=
  Run.invariant (OnlyLoses m · e) (fun m k h => h.trans (hstep m k)) (SameIds.refl m e).onlyLoses due

theorem onlyLoses_pollTx (transport : TransportSettings) (pendingOrder activeOrder : List EndpointKey)
    (nowMs : U64) : OnlyLoses m (pollTx transport pendingOrder activeOrder nowMs m).2 e := by
  rw [pollTx]
  refine OnlyLoses.trans ((sameIds_collectPendingTx transport nowMs pendingOrder m).trans
    (sameIds_collectActiveTx transport nowMs activeOrder _)).onlyLoses ?_
  exact (OnlyLoses.foldl (fun _ _ => onlyLoses_cleanupPendingSession) _ _).trans
    (OnlyLoses.foldl (fun _ _ => onlyLoses_cleanupActiveSession) _ _)

/-- What an endpoint holds after it could only lose something, it held before. -/
theorem OnlyLoses.holder (hm : Consistent m assigned) (h : OnlyLoses m m' e)
    (hc : m'.holder e = some c) : m.holder e = some c := by
  rw [ServerSessionManager.holder, Option.or_eq_some_iff] at hc
  rcases hc with hpending | ⟨-, hactive⟩
  · rcases h.pending with hsame | hnone
    · rw [hsame] at hpending
      rw [ServerSessionManager.holder, hpending, Option.some_or]
    · simp [hnone] at hpending
  · rcases h.binding with hsame | hnone
    · exact hm.holder_of_active (hsame ▸ hactive)
    · rw [hnone] at hactive
      cases hactive

end OnlyLoses

end ServerSessionManager

/-! ## Every operation -/

open ServerSessionManager

/-- The identifiers that the operation makes the manager allocate, and for whom. -/
def ManagerOp.allocates (m : ServerSessionManager) : ManagerOp → List (EndpointKey × U32)
  | .onDatagramReceived random endpoint bytes _ =>
    (assignedBy random endpoint bytes m).map fun connId => (endpoint, connId)
  | .pollTx _ _ _ | .queueSend _ _ _ _ | .drainEvents _ _ | .drainActiveEvents _ => []

/-- The operation is a datagram from the endpoint, under the identifier. -/
def ManagerOp.Carries (op : ManagerOp) (endpoint : EndpointKey) (connId : U32) : Prop :=
  ∃ random bytes nowMs packet, op = .onDatagramReceived random endpoint bytes nowMs ∧
    decode bytes = some packet ∧ packet.header.connId = connId

/-- What an operation can give an endpoint: a binding to an identifier that it holds and that it has
just shown to know, or an identifier that was allocated for it. -/
structure Tenure (op : ManagerOp) (m m' : ServerSessionManager) (e : EndpointKey) : Prop where
  active : ∀ c, m'.activeConnId e = some c → m.activeConnId e = some c ∨ op.Carries e c
  holder : ∀ c, m'.holder e = some c → m.holder e = some c ∨ (e, c) ∈ op.allocates m

theorem ServerSessionManager.OnlyLoses.tenure {op : ManagerOp} {m m' : ServerSessionManager}
    {e : EndpointKey} {assigned : List U32} (hm : Consistent m assigned) (h : OnlyLoses m m' e) :
    Tenure op m m' e := by
  refine ⟨fun c hc => Or.inl ?_, fun c hc => Or.inl (h.holder hm hc)⟩
  rcases h.binding with hsame | hnone
  · exact hsame ▸ hc
  · rw [hnone] at hc
    cases hc

theorem Tenure.of_untouched {op : ManagerOp} {m m' : ServerSessionManager} {e : EndpointKey}
    (h : Untouched m m' e) : Tenure op m m' e :=
  ⟨fun _ hc => Or.inl (h.binding ▸ hc), fun _ hc => Or.inl (h.holder_eq ▸ hc)⟩

/-- A datagram from the endpoint itself. -/
theorem ServerSessionManager.Sound.route_tenure {transport : TransportSettings}
    {random : Randomness} {e : EndpointKey} {bytes : Bytes} {nowMs : U64}
    {m m' : ServerSessionManager} {assigned : List U32} (h : Sound m assigned)
    (hroute : Route transport random e bytes nowMs m (assignedBy random e bytes m) m') :
    Tenure (.onDatagramReceived random e bytes nowMs) m m' e := by
  have hcarries : ∀ {c}, (∃ packet, decode bytes = some packet ∧ packet.header.connId = c) →
      (ManagerOp.onDatagramReceived random e bytes nowMs).Carries e c :=
    fun ⟨packet, hdecode, hconnId⟩ => ⟨random, bytes, nowMs, packet, rfl, hdecode, hconnId⟩
  generalize hnew : assignedBy random e bytes m = new at hroute
  cases hroute with
  | dropped _ => exact .of_untouched (.refl m e)
  | active _ _ hc hs =>
    refine OnlyLoses.tenure h.consistent ?_
    obtain ⟨hpending, ⟨-, hbinding⟩ | ⟨-, hbinding, -⟩⟩ :=
      @Consistent.tryDispatchActive_cases transport bytes nowMs m assigned e _ _ h.consistent hc hs
    · exact ⟨Or.inr hpending, Or.inr hbinding⟩
    · exact ⟨Or.inr hpending, Or.inl (hbinding.trans hc.symm)⟩
  | pending _ _ hs =>
    have hstate := h.live.pending e _ hs
    obtain ⟨hactive, hholder⟩ := @Consistent.dispatchPending_holder transport bytes nowMs m assigned
      e _ h.consistent hs (by rintro hest; simp [ConnectionState.isPending, hest] at hstate)
    refine ⟨fun c hc => Or.inr (hcarries (hactive c hc)), fun c hc => Or.inl ?_⟩
    rw [hholder c hc]
    exact holder_of_pending hs
  | @created _ c hdecode hzero hfree hinactive hfresh =>
    have hcreated : Consistent (m.setPending e (newSession random c)) (assigned ++ [c]) :=
      h.consistent.createSession hfree hinactive hfresh rfl
    obtain ⟨hactive, hholder⟩ := @Consistent.dispatchPending_holder transport bytes nowMs _ _ e
      (newSession random c) hcreated (by simp) (by simp [newSession, Session.assignConnId,
        Session.init])
    refine ⟨fun c' hc => Or.inr (hcarries (hactive c' hc)), fun c' hc => Or.inr ?_⟩
    rw [hholder c' hc]
    simp [ManagerOp.allocates, hnew, newSession, Session.assignConnId]

/-- **One operation of the manager.** -/
theorem ServerRun.step_tenure {transport : TransportSettings} {r r' : ServerRun} {op : ManagerOp}
    (h : Sound r.manager r.assigned) (hstep : r.step transport op = some r') (e : EndpointKey) :
    Tenure op r.manager r'.manager e := by
  cases op with
  | onDatagramReceived random endpoint bytes nowMs =>
    obtain ⟨m', hm', rfl⟩ := Option.map_eq_some_iff.1 hstep
    by_cases heq : e = endpoint
    · subst heq
      exact h.route_tenure (onDatagramReceived_route hm')
    · exact .of_untouched ((h.routed (onDatagramReceived_routed hm')).untouched e heq)
  | pollTx pendingOrder activeOrder nowMs =>
    obtain rfl := Option.some.inj hstep
    exact (onlyLoses_pollTx transport pendingOrder activeOrder nowMs).tenure h.consistent
  | queueSend connId channelId channelType payload =>
    obtain rfl := Option.some.inj hstep
    exact (sameIds_queueSend channelId channelType payload).onlyLoses.tenure h.consistent
  | drainEvents pendingOrder activeOrder =>
    obtain rfl := Option.some.inj hstep
    exact (sameIds_drainEvents pendingOrder activeOrder).onlyLoses.tenure h.consistent
  | drainActiveEvents connId =>
    obtain rfl := Option.some.inj hstep
    exact sameIds_drainActiveEvents.onlyLoses.tenure h.consistent

end Rudp
