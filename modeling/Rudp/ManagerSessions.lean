import Rudp.ManagerRun

/-!
# What every session of the manager keeps

The manager creates sessions, hands them datagrams, polls them, queues data for them and drains
their events; it moves them from one table to the other, and it never touches them otherwise. So
whatever a session keeps under these five operations holds of every session in the tables, in every
run. Nothing is ever queued for a session before it is promoted, so what a session keeps under the
other four holds of every pending session.
-/

namespace Rudp

namespace ServerSessionManager

/-- The property holds of a new session, and every operation keeps it. -/
structure SessionRule (transport : TransportSettings) (Q : SessionState → Prop) : Prop where
  created : ∀ random connId, Q (newSession random connId)
  received : ∀ {s} bytes nowMs, Q s → Q (Session.onDatagramReceived transport bytes nowMs s)
  polled : ∀ {s} nowMs, Q s → Q (Session.pollTx transport nowMs s).2
  queued : ∀ {s} channelId channelType payload, Q s →
    Q (Session.queueSend channelId channelType payload s)
  drained : ∀ {s}, Q s → Q (Session.drainEvents s).2

/-- The property holds of every session in the tables. -/
structure Everywhere (Q : SessionState → Prop) (m : ServerSessionManager) : Prop where
  pending : ∀ e s, m.findPendingSession e = some s → Q s
  active : ∀ c s, m.findActiveSession c = some s → Q s

/-- The property holds of a new session, and every operation but queueing keeps it. -/
structure PendingRule (transport : TransportSettings) (P : SessionState → Prop) : Prop where
  created : ∀ random connId, P (newSession random connId)
  received : ∀ {s} bytes nowMs, P s → P (Session.onDatagramReceived transport bytes nowMs s)
  polled : ∀ {s} nowMs, P s → P (Session.pollTx transport nowMs s).2
  drained : ∀ {s}, P s → P (Session.drainEvents s).2

/-- The property holds of every pending session. -/
def AllPending (P : SessionState → Prop) (m : ServerSessionManager) : Prop :=
  ∀ e s, m.findPendingSession e = some s → P s

/-! ## Both tables -/

/-- One property of the pending sessions and one of the active ones, which a pending session has as
well when it is promoted. -/
structure TableRule (transport : TransportSettings) (P Q : SessionState → Prop) : Prop where
  pending : PendingRule transport P
  promoted : ∀ {s}, P s → Q s
  received : ∀ {s} bytes nowMs, Q s → Q (Session.onDatagramReceived transport bytes nowMs s)
  polled : ∀ {s} nowMs, Q s → Q (Session.pollTx transport nowMs s).2
  queued : ∀ {s} channelId channelType payload, Q s →
    Q (Session.queueSend channelId channelType payload s)
  drained : ∀ {s}, Q s → Q (Session.drainEvents s).2

structure Tables (P Q : SessionState → Prop) (m : ServerSessionManager) : Prop where
  pending : ∀ e s, m.findPendingSession e = some s → P s
  active : ∀ c s, m.findActiveSession c = some s → Q s

section Tables

variable {P Q : SessionState → Prop} {m : ServerSessionManager} {e : EndpointKey} {c : U32}
  {s : SessionState}

theorem Tables.setPending (h : Tables P Q m) (hs : P s) : Tables P Q (m.setPending e s) := by
  refine ⟨fun e' t ht => ?_, h.active⟩
  rw [findPendingSession_setPending] at ht
  split_ifs at ht
  · exact Option.some.inj ht ▸ hs
  · exact h.pending e' t ht

theorem Tables.setActive (h : Tables P Q m) (hs : Q s) : Tables P Q (m.setActive c s) := by
  refine ⟨h.pending, fun c' t ht => ?_⟩
  rw [findActiveSession_setActive] at ht
  split_ifs at ht
  · exact Option.some.inj ht ▸ hs
  · exact h.active c' t ht

theorem Tables.cleanupPendingSession (h : Tables P Q m) :
    Tables P Q (cleanupPendingSession e m) := by
  refine ⟨fun e' t ht => ?_, fun c' t ht => ?_⟩
  · rw [findPendingSession_cleanupPendingSession] at ht
    split_ifs at ht
    exact h.pending e' t ht
  · rw [findActiveSession_cleanupPendingSession] at ht
    exact h.active c' t ht

theorem Tables.cleanupActiveSession (h : Tables P Q m) :
    Tables P Q (cleanupActiveSession e c m) := by
  refine ⟨h.pending, fun c' t ht => ?_⟩
  rw [findActiveSession_cleanupActiveSession] at ht
  split_ifs at ht
  exact h.active c' t ht

theorem Tables.promotePendingSession (h : Tables P Q m) (hpromoted : ∀ {s}, P s → Q s) :
    Tables P Q (promotePendingSession e m) := by
  cases hs : m.findPendingSession e with
  | none =>
    rw [ServerSessionManager.promotePendingSession, hs]
    exact h
  | some s =>
    by_cases hzero : s.connId = 0
    · simp only [ServerSessionManager.promotePendingSession, hs, if_pos hzero]
      exact h
    · obtain ⟨hpending, hactive, -, -⟩ := promotePendingSession_lookups hs hzero
      refine ⟨fun e' t ht => ?_, fun c' t ht => ?_⟩
      · rw [hpending] at ht
        split_ifs at ht
        exact h.pending e' t ht
      · rw [hactive] at ht
        split_ifs at ht
        · exact Option.some.inj ht ▸ hpromoted (h.pending e s hs)
        · exact h.active c' t ht

end Tables

section Operations

variable {transport : TransportSettings} {P Q : SessionState → Prop} {m : ServerSessionManager}
  {e : EndpointKey}

theorem TableRule.tryDispatchPending (hrule : TableRule transport P Q) (h : Tables P Q m)
    (bytes : Bytes) (nowMs : U64) :
    Tables P Q (tryDispatchPending transport e bytes nowMs m).2 := by
  rw [ServerSessionManager.tryDispatchPending]
  cases hs : m.findPendingSession e with
  | none => exact h
  | some s =>
    have h₁ : Tables P Q (m.setPending e (Session.onDatagramReceived transport bytes nowMs s)) :=
      h.setPending (hrule.pending.received bytes nowMs (h.pending e s hs))
    simp only
    split_ifs
    · exact h₁.promotePendingSession hrule.promoted
    · simp only [cleanupPendingIfTerminal]
      split
      · exact h₁
      · split_ifs
        · exact h₁
        · exact h₁.cleanupPendingSession

theorem TableRule.tryDispatchActive (hrule : TableRule transport P Q) (h : Tables P Q m)
    (bytes : Bytes) (c : U32) (nowMs : U64) :
    Tables P Q (tryDispatchActive transport e bytes c nowMs m).2 := by
  rw [ServerSessionManager.tryDispatchActive]
  cases hs : m.findActiveSession c with
  | none => exact h
  | some s =>
    have h₁ : Tables P Q (m.setActive c (Session.onDatagramReceived transport bytes nowMs s)) :=
      h.setActive (hrule.received bytes nowMs (h.active c s hs))
    simp only [cleanupActiveIfTerminal]
    split
    · exact h₁
    · split_ifs
      · exact h₁
      · exact h₁.cleanupActiveSession

theorem TableRule.routed (hrule : TableRule transport P Q) (h : Tables P Q m)
    {random : Randomness} {bytes : Bytes} {nowMs : U64} {new : List U32}
    {m' : ServerSessionManager} (hrouted : Routed transport random e bytes nowMs m new m') :
    Tables P Q m' := by
  cases hrouted with
  | ignored => exact h
  | active _ _ => exact hrule.tryDispatchActive h bytes _ nowMs
  | pending _ => exact hrule.tryDispatchPending h bytes nowMs
  | created _ _ _ =>
    exact hrule.tryDispatchPending (h.setPending (hrule.pending.created random _)) bytes nowMs

theorem TableRule.pollTx (hrule : TableRule transport P Q) (h : Tables P Q m) (nowMs : U64)
    (pendingOrder activeOrder : List EndpointKey) :
    Tables P Q (pollTx transport pendingOrder activeOrder nowMs m).2 := by
  have hpending : Tables P Q (collectPendingTx transport nowMs pendingOrder m).manager := by
    refine Run.invariant (fun collected : Collected EndpointKey => Tables P Q collected.manager)
      (fun collected e hc => ?_) h pendingOrder
    rw [collectPendingOne]
    cases hs : collected.manager.findPendingSession e with
    | none => exact hc
    | some s =>
      simp only
      rw [(collected.record_spec e e _ _).1]
      exact hc.setPending (hrule.pending.polled nowMs (hc.pending e s hs))
  have hactive : ∀ m, Tables P Q m →
      Tables P Q (collectActiveTx transport nowMs activeOrder m).manager := by
    intro m hm
    refine Run.invariant
      (fun collected : Collected (EndpointKey × U32) => Tables P Q collected.manager)
      (fun collected e hc => ?_) hm activeOrder
    rw [collectActiveOne]
    cases hb : collected.manager.activeConnId e with
    | none => exact hc
    | some c =>
      simp only
      cases hs : collected.manager.findActiveSession c with
      | none => exact hc
      | some s =>
        simp only
        rw [(collected.record_spec e (e, c) _ _).1]
        exact hc.setActive (hrule.polled nowMs (hc.active c s hs))
  rw [ServerSessionManager.pollTx]
  refine Run.invariant (Tables P Q) (fun _ _ hm => hm.cleanupActiveSession) ?_ _
  exact Run.invariant (Tables P Q) (fun _ _ hm => hm.cleanupPendingSession) (hactive _ hpending) _

theorem TableRule.drainEvents (hrule : TableRule transport P Q) (h : Tables P Q m)
    (pendingOrder activeOrder : List EndpointKey) :
    Tables P Q (drainEvents pendingOrder activeOrder m).2 := by
  have hpending : Tables P Q (pendingOrder.foldl drainPendingOne ([], m)).2 := by
    refine Run.invariant (fun drained : List ServerSessionEvent × ServerSessionManager =>
      Tables P Q drained.2) (fun drained e hd => ?_) h pendingOrder
    rw [drainPendingOne]
    cases hs : drained.2.findPendingSession e with
    | none => exact hd
    | some s => exact hd.setPending (hrule.pending.drained (hd.pending e s hs))
  refine Run.invariant (fun drained : List ServerSessionEvent × ServerSessionManager =>
    Tables P Q drained.2) (fun drained e hd => ?_) hpending activeOrder
  rw [drainActiveOne]
  cases hb : drained.2.activeConnId e with
  | none => exact hd
  | some c =>
    simp only
    cases hs : drained.2.findActiveSession c with
    | none => exact hd
    | some s => exact hd.setActive (hrule.drained (hd.active c s hs))

/-- **One operation.** -/
theorem TableRule.step (hrule : TableRule transport P Q) {r r' : ServerRun} {op : ManagerOp}
    (h : Tables P Q r.manager) (hstep : r.step transport op = some r') :
    Tables P Q r'.manager := by
  cases op with
  | onDatagramReceived random endpoint bytes nowMs =>
    obtain ⟨m', hm', rfl⟩ := Option.map_eq_some_iff.1 hstep
    exact hrule.routed h (onDatagramReceived_routed hm')
  | pollTx pendingOrder activeOrder nowMs =>
    obtain rfl := Option.some.inj hstep
    exact hrule.pollTx h nowMs pendingOrder activeOrder
  | queueSend connId channelId channelType payload =>
    obtain rfl := Option.some.inj hstep
    simp only [ServerSessionManager.queueSend]
    cases hs : r.manager.findActiveSession connId with
    | none => exact h
    | some s => exact h.setActive (hrule.queued channelId channelType payload (h.active _ s hs))
  | drainEvents pendingOrder activeOrder =>
    obtain rfl := Option.some.inj hstep
    exact hrule.drainEvents h pendingOrder activeOrder
  | drainActiveEvents connId =>
    obtain rfl := Option.some.inj hstep
    simp only [ServerSessionManager.drainActiveEvents]
    cases hs : r.manager.findActiveSession connId with
    | none => exact h
    | some s => exact h.setActive (hrule.drained (h.active _ s hs))

end Operations

/-! ## The two rules -/

section Rules

variable {transport : TransportSettings} {Q : SessionState → Prop} {r r' : ServerRun}

theorem everywhere_empty : Everywhere Q {} := by
  refine ⟨?_, ?_⟩
  all_goals exact fun _ _ hs => nomatch hs

theorem SessionRule.step (hrule : SessionRule transport Q) {op : ManagerOp}
    (h : Everywhere Q r.manager) (hstep : r.step transport op = some r') :
    Everywhere Q r'.manager := by
  have hpending : PendingRule transport Q :=
    ⟨hrule.created, hrule.received, hrule.polled, hrule.drained⟩
  have htables : TableRule transport Q Q :=
    ⟨hpending, id, hrule.received, hrule.polled, hrule.queued, hrule.drained⟩
  have h' := htables.step ⟨h.pending, h.active⟩ hstep
  exact ⟨h'.pending, h'.active⟩

/-- **Every run.** -/
theorem SessionRule.run (hrule : SessionRule transport Q) {ops : List ManagerOp}
    (hrun : Run.runM (ServerRun.step transport) {} ops = some r) : Everywhere Q r.manager :=
  Run.invariantM (fun r : ServerRun => Everywhere Q r.manager)
    (fun _ _ _ h hstep => hrule.step h hstep) everywhere_empty hrun

theorem PendingRule.step (hrule : PendingRule transport Q) {op : ManagerOp}
    (h : AllPending Q r.manager) (hstep : r.step transport op = some r') :
    AllPending Q r'.manager := by
  have htables : TableRule transport Q fun _ => True :=
    ⟨hrule, fun _ => trivial, fun _ _ _ => trivial, fun _ _ => trivial, fun _ _ _ _ => trivial,
      fun _ => trivial⟩
  exact (htables.step ⟨h, fun _ _ _ => trivial⟩ hstep).pending

end Rules

end ServerSessionManager

end Rudp
