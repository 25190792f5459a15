import Rudp.ManagerSeats
import Rudp.SessionLifecycle

/-!
# What the manager reports

Two facts about `drain_events` that its callers rely on: every event comes under the identifier of
its session, for the endpoint that holds it (`drainEvents_named`), and a session that has become
active has the event of it to report (`step_connected`).
-/

namespace Rudp

open ServerSessionManager Session

/-! ## What the manager reports -/

namespace ServerSessionManager

section Drain

variable {m : ServerSessionManager} {assigned : List U32}

/-- A drain so far: what every endpoint holds is what it held, and every event names it. -/
structure Draining (m : ServerSessionManager) (assigned : List U32)
    (drained : List ServerSessionEvent × ServerSessionManager) : Prop where
  consistent : Consistent drained.2 assigned
  same : ∀ e, SameIds m drained.2 e
  named : ∀ wrapped ∈ drained.1, ∃ connId, wrapped.connId = some connId ∧
    m.holder wrapped.endpoint = some connId

variable {drained : List ServerSessionEvent × ServerSessionManager}

theorem Draining.named_append (h : Draining m assigned drained) {e : EndpointKey} {c : U32}
    (hholder : drained.2.holder e = some c) (events : List SessionEvent) :
    ∀ wrapped ∈ drained.1 ++ events.map fun event => ⟨e, some c, event⟩,
      ∃ connId, wrapped.connId = some connId ∧ m.holder wrapped.endpoint = some connId := by
  intro wrapped hmem
  rcases List.mem_append.1 hmem with hold | hnew
  · exact h.named wrapped hold
  · obtain ⟨event, -, rfl⟩ := List.mem_map.1 hnew
    exact ⟨c, rfl, (h.same e).holder_eq ▸ hholder⟩

theorem Draining.drainPendingOne (h : Draining m assigned drained) (e : EndpointKey) :
    Draining m assigned (drainPendingOne drained e) := by
  rw [ServerSessionManager.drainPendingOne]
  cases hs : drained.2.findPendingSession e with
  | none => exact h
  | some s =>
    have hholder := holder_of_pending hs
    have hne : (Session.drainEvents s).2.connId ≠ 0 := h.consistent.holder_ne_zero hholder
    simp only [if_pos hne]
    exact ⟨h.consistent.setPending hs rfl rfl,
      fun e' => (h.same e').trans (sameIds_setPending hs rfl), h.named_append hholder _⟩

theorem Draining.drainActiveOne (h : Draining m assigned drained) (e : EndpointKey) :
    Draining m assigned (drainActiveOne drained e) := by
  rw [ServerSessionManager.drainActiveOne]
  cases hc : drained.2.activeConnId e with
  | none => exact h
  | some c =>
    simp only
    cases hs : drained.2.findActiveSession c with
    | none => exact h
    | some s =>
      exact ⟨h.consistent.setActive hs rfl rfl, fun e' => (h.same e').trans sameIds_setActive,
        h.named_append (h.consistent.holder_of_active hc) _⟩

/-- Every event comes with the identifier of its session, and from the endpoint that holds it. -/
theorem Consistent.drainEvents_named (h : Consistent m assigned)
    (pendingOrder activeOrder : List EndpointKey) :
    ∀ wrapped ∈ (drainEvents pendingOrder activeOrder m).1, ∃ connId,
      wrapped.connId = some connId ∧ m.holder wrapped.endpoint = some connId := by
  have hstart : Draining m assigned ([], m) :=
    ⟨h, fun e => .refl m e, fun _ hmem => absurd hmem List.not_mem_nil⟩
  have hpending := Run.invariant (Draining m assigned) (fun _ e hd => hd.drainPendingOne e) hstart
    pendingOrder
  exact (Run.invariant (Draining m assigned) (fun _ e hd => hd.drainActiveOne e) hpending
    activeOrder).named

end Drain

end ServerSessionManager

theorem ServerRun.step_assigned {transport : TransportSettings} {r r' : ServerRun} {op : ManagerOp}
    (hstep : r.step transport op = some r') :
    r'.assigned = r.assigned ++ (op.allocates r.manager).map Prod.snd := by
  cases op with
  | onDatagramReceived random endpoint bytes nowMs =>
    obtain ⟨m', -, rfl⟩ := Option.map_eq_some_iff.1 hstep
    rw [ManagerOp.allocates, List.map_map, Function.comp_def, List.map_id']
  | pollTx | queueSend | drainEvents | drainActiveEvents =>
    obtain rfl := Option.some.inj hstep
    exact (List.append_nil _).symm

/-! ## What becomes active -/

namespace ServerSessionManager

section Connected

variable {transport : TransportSettings} {random : Randomness} {bytes : Bytes} {nowMs : U64}
  {m m₁ m' : ServerSessionManager} {assigned : List U32} {e : EndpointKey} {c : U32}
  {s : SessionState} {packet : PacketView}

/-- A session that a datagram establishes says so. -/
theorem connected_of_established (hdecode : decode bytes = some packet)
    (hstate : s.connectionState ≠ .established)
    (hnext : (Session.onDatagramReceived transport bytes nowMs s).connectionState = .established) :
    ∃ event ∈ (Session.onDatagramReceived transport bytes nowMs s).rx.pendingEvents,
      event.kind = .connected := by
  have hcompletes := (established_receive hdecode hnext).resolve_left hstate
  have hcount := (@countKind_receive transport bytes nowMs s packet hdecode).1
  rw [hcompletes, Bool.toNat_true] at hcount
  have hpos : 0 < countKind .connected
      (Session.onDatagramReceived transport bytes nowMs s).rx.pendingEvents := by omega
  obtain ⟨event, hmem, hkind⟩ := List.countP_pos_iff.1 hpos
  exact ⟨event, hmem, of_decide_eq_true hkind⟩

/-- A pending session that becomes active carries the event of it. The session is in the table `m₁`,
where it may have been put just now. -/
theorem Consistent.carried_connected (h₁ : Consistent m₁ assigned)
    (hdecode : decode bytes = some packet) (hs : m₁.findPendingSession e = some s)
    (hstate : s.connectionState ≠ .established) (hinactive : m.activeConnId e = none)
    (hc : (tryDispatchPending transport e bytes nowMs m₁).2.activeConnId e = some c) :
    ∃ event, (c, event) ∈ carriedBy m (tryDispatchPending transport e bytes nowMs m₁).2
      (.onDatagramReceived random e bytes nowMs) ∧ event.kind = .connected := by
  obtain ⟨hnext, -, hbinding, hactive⟩ | ⟨-, -, hnone⟩ | ⟨-, -, -, hnone⟩ :=
    @Consistent.tryDispatchPending_cases transport bytes nowMs m₁ assigned e s h₁ hs
  · obtain ⟨event, hmem, hkind⟩ := connected_of_established hdecode hstate hnext
    obtain rfl : s.connId = c := Option.some.inj (hbinding.symm.trans hc)
    refine ⟨event, ?_, hkind⟩
    rw [carriedBy, if_pos hinactive, hbinding, Option.elim_some, hactive, Option.elim_some]
    exact List.mem_map_of_mem hmem
  · rw [hnone] at hc
    cases hc
  · rw [hnone] at hc
    cases hc

/-- **An endpoint becomes active** with the event of it. -/
theorem Sound.carried_connected (h : Sound m assigned)
    (hroute : Route transport random e bytes nowMs m (assignedBy random e bytes m) m')
    (hc : m'.activeConnId e = some c) (hnew : m.activeConnId e ≠ some c) :
    ∃ event, (c, event) ∈ carriedBy m m' (.onDatagramReceived random e bytes nowMs) ∧
      event.kind = .connected := by
  generalize assignedBy random e bytes m = new at hroute
  cases hroute with
  | dropped _ => exact absurd hc hnew
  | active _ _ hbefore hs =>
    obtain ⟨-, ⟨-, hafter⟩ | ⟨-, hafter, -⟩⟩ :=
      @Consistent.tryDispatchActive_cases transport bytes nowMs m assigned e _ _ h.consistent
        hbefore hs
    · rw [hafter] at hc
      cases hc
    · exact absurd (hbefore.trans (hafter.symm.trans hc)) hnew
  | pending hdecode _ hs =>
    have hstate := h.live.pending e _ hs
    exact h.consistent.carried_connected hdecode hs
      (by rintro hest; simp [ConnectionState.isPending, hest] at hstate)
      (h.consistent.pending_session e _ hs).1 hc
  | @created _ c' hdecode _ hfree hinactive hfresh =>
    have hcreated : Consistent (m.setPending e (newSession random c')) (assigned ++ [c']) :=
      h.consistent.createSession hfree hinactive hfresh rfl
    exact hcreated.carried_connected hdecode (by simp) (s := newSession random c')
      (by simp [newSession, Session.assignConnId, Session.init]) hinactive hc

end Connected

end ServerSessionManager

/-- What an operation makes active, it carries the event of. -/
theorem ServerRun.step_connected {transport : TransportSettings} {r r' : ServerRun} {op : ManagerOp}
    (h : Sound r.manager r.assigned) (hstep : r.step transport op = some r') {e : EndpointKey}
    {c : U32} (hc : r'.manager.activeConnId e = some c) (hnew : r.manager.activeConnId e ≠ some c) :
    ∃ event, (c, event) ∈ carriedBy r.manager r'.manager op ∧ event.kind = .connected := by
  rcases (step_tenure h hstep e).active c hc with hold | ⟨random, bytes, nowMs, packet, rfl, -⟩
  · exact absurd hold hnew
  · obtain ⟨m', hm', rfl⟩ := Option.map_eq_some_iff.1 hstep
    exact h.carried_connected (onDatagramReceived_route hm') hc hnew

end Rudp
