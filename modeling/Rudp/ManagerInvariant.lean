import Rudp.ServerSessionManager
import Rudp.SessionStep
import Rudp.Lib.Registry

/-!
# The manager's tables

What the server promises its clients about connection identifiers, and that it keeps the promise.
Seen from outside, the manager is a registry: an endpoint holds the identifier of its session,
pending or active; a new session is issued a fresh identifier, and cleanup retires it. The four
tables represent this registry, and every operation of the manager keeps the representation
consistent, issues, or retires.

A session is handled through the inversions of `SessionStep`; all the manager needs to know is that
a server session keeps its role and its `conn_id`, and which states it can reach.
-/

namespace Rudp

/-! ## Server sessions -/

section Session

variable {bytes : Bytes} {s s' : SessionState}

/-- A session that waits for its handshake to complete, or for the end. -/
def ConnectionState.isPending (state : ConnectionState) : Prop :=
  state = .handshakeReceived ∨ state = .closing

def ConnectionState.isActive (state : ConnectionState) : Prop :=
  state = .established ∨ state = .closing

/-- No datagram sends a session back into its handshake, unless it is closed. -/
theorem ReceiveEffect.handshake (h : ReceiveEffect bytes s s') :
    (s'.connectionState = .handshakeSent → s.connectionState = .handshakeSent) ∧
      (s'.connectionState = .handshakeReceived →
        s.connectionState = .handshakeReceived ∨ s.connectionState = .closed) := by
  cases h with
  | dropped _ hstate =>
    rw [hstate]
    exact ⟨id, Or.inl⟩
  | mismatch _ hstate => simp [hstate]
  | @processed packet result _ _ _ _ _ hack _ hstate =>
    rw [hstate]
    cases hnext : (decideConnectionTransition s.role
        (stateAfterAck s.connectionState result.acknowledgedFin)
        (classifyControlKind packet.header)).nextState with
    | none =>
      rw [Option.getD_none, stateAfterAck]
      split_ifs
      · simp
      · exact ⟨id, Or.inl⟩
    | some next =>
      rw [Option.getD_some]
      rcases nextState_cases hnext with ⟨rfl, -⟩ | ⟨rfl, -⟩ | ⟨rfl, hsyn, -, hfrom⟩ | ⟨rfl, -⟩ |
        ⟨rfl, -⟩
      · simp
      · simp
      · refine ⟨by simp, fun _ => Or.inr ?_⟩
        -- A SYN carries no acknowledgement that could have closed the session.
        rcases hack with ⟨-, -, rfl⟩ | ⟨hkind, -⟩
        · simpa [stateAfterAck] using hfrom
        · exact absurd hsyn hkind
      · simp
      · simp

/-- Where a datagram takes a session that is not active yet. -/
theorem ReceiveEffect.of_pending (h : ReceiveEffect bytes s s')
    (hstate : s.connectionState.isPending ∨ s.connectionState = .closed) :
    s'.connectionState = .established ∨
      ServerSessionManager.isTerminalState s'.connectionState = true ∨
      s'.connectionState.isPending := by
  have hsent := h.handshake.1
  rw [ConnectionState.isPending] at hstate ⊢
  cases hnext : s'.connectionState with
  | handshakeSent =>
    rw [hsent hnext] at hstate
    simp at hstate
  | closed | handshakeReceived | established | closing | reset =>
    simp [ServerSessionManager.isTerminalState]

/-- Where a datagram takes an active session. -/
theorem ReceiveEffect.of_active (h : ReceiveEffect bytes s s')
    (hstate : s.connectionState.isActive) :
    ServerSessionManager.isTerminalState s'.connectionState = true ∨
      s'.connectionState.isActive := by
  obtain ⟨hsent, hreceived⟩ := h.handshake
  rw [ConnectionState.isActive] at hstate ⊢
  cases hnext : s'.connectionState with
  | handshakeSent =>
    rw [hsent hnext] at hstate
    simp at hstate
  | handshakeReceived =>
    rcases hreceived hnext with hold | hold <;> simp [hold] at hstate
  | closed | established | closing | reset => simp [ServerSessionManager.isTerminalState]

/-- A server session that a poll does not reset stays in its state. -/
theorem PollTxEffect.of_server {transport : TransportSettings} {nowMs : U64}
    {out : Option Bytes} (h : PollTxEffect transport nowMs s out s') (hserver : s.role = .server) :
    s'.role = s.role ∧ s'.connId = s.connId ∧ (s'.connectionState = s.connectionState ∨
      out = none ∧ s'.connectionState = .reset) := by
  cases h with
  | timeout _ => exact ⟨rfl, rfl, Or.inr ⟨rfl, rfl⟩⟩
  | @polled _ _ result _ _ _ _ _ hrole hconnId hbytes hstate =>
    refine ⟨hrole, hconnId, ?_⟩
    rw [hserver] at hstate
    cases hfatal : result.fatalError <;> simp_all

end Session

namespace ServerSessionManager

/-! ## The registry -/

/-- What the tables mean: the identifier an endpoint holds, and those that are used up. Zero is
never issued. -/
def registry (m : ServerSessionManager) (assigned : List U32) : Registry EndpointKey U32 where
  holds := fun endpoint =>
    ((m.findPendingSession endpoint).map SessionState.connId).or (m.activeConnId endpoint)
  retired := {connId | connId = 0 ∨ connId ∈ m.retiredConnIds}
  issued := assigned

/-- The tables represent a registry: they agree with each other, and what they hold was issued by
the rules. -/
structure Consistent (m : ServerSessionManager) (assigned : List U32) : Prop where
  valid : (m.registry assigned).Valid
  active_iff : ∀ connId, (∃ session, m.findActiveSession connId = some session) ↔
    ∃ endpoint, m.activeConnId endpoint = some connId
  active_session : ∀ connId session, m.findActiveSession connId = some session →
    session.connId = connId ∧ session.role = .server
  pending_session : ∀ endpoint session, m.findPendingSession endpoint = some session →
    m.activeConnId endpoint = none ∧ session.role = .server

/-- The parts of the state that belong to one endpoint are the same. -/
structure Untouched (m m' : ServerSessionManager) (endpoint : EndpointKey) : Prop where
  pending : m'.findPendingSession endpoint = m.findPendingSession endpoint
  binding : m'.activeConnId endpoint = m.activeConnId endpoint
  active : ∀ connId, m.activeConnId endpoint = some connId →
    m'.findActiveSession connId = m.findActiveSession connId

theorem Untouched.refl (m : ServerSessionManager) (endpoint : EndpointKey) :
    Untouched m m endpoint := ⟨rfl, rfl, fun _ _ => rfl⟩

theorem Untouched.trans {m₁ m₂ m₃ : ServerSessionManager} {endpoint : EndpointKey}
    (h : Untouched m₁ m₂ endpoint) (h' : Untouched m₂ m₃ endpoint) :
    Untouched m₁ m₃ endpoint where
  pending := h'.pending.trans h.pending
  binding := h'.binding.trans h.binding
  active := fun connId hbinding =>
    (h'.active connId (h.binding.trans hbinding)).trans (h.active connId hbinding)

section Tables

variable {α : Type*} {β : Type*} [DecidableEq α]

theorem lookup_insert_ite (a a' : α) (b : β) (t : Finmap fun _ : α => β) :
    (t.insert a b).lookup a' = if a' = a then some b else t.lookup a' := by
  split_ifs with h
  · rw [h, Finmap.lookup_insert]
  · exact Finmap.lookup_insert_of_ne t h

theorem lookup_erase_ite (a a' : α) (t : Finmap fun _ : α => β) :
    (t.erase a).lookup a' = if a' = a then none else t.lookup a' := by
  split_ifs with h
  · rw [h, Finmap.lookup_erase]
  · exact Finmap.lookup_erase_ne h

end Tables

section Lookups

variable (m : ServerSessionManager) (endpoint e : EndpointKey) (connId c : U32)
  (session : SessionState)

@[simp] theorem findPendingSession_setPending :
    (m.setPending endpoint session).findPendingSession e =
      if e = endpoint then some session else m.findPendingSession e :=
  lookup_insert_ite endpoint e session m.pendingByEndpoint

@[simp] theorem findActiveSession_setPending :
    (m.setPending endpoint session).findActiveSession c = m.findActiveSession c := rfl

@[simp] theorem activeConnId_setPending :
    (m.setPending endpoint session).activeConnId e = m.activeConnId e := rfl

@[simp] theorem findPendingSession_setActive :
    (m.setActive connId session).findPendingSession e = m.findPendingSession e := rfl

@[simp] theorem findActiveSession_setActive :
    (m.setActive connId session).findActiveSession c =
      if c = connId then some session else m.findActiveSession c :=
  lookup_insert_ite connId c session m.activeByConnId

@[simp] theorem activeConnId_setActive :
    (m.setActive connId session).activeConnId e = m.activeConnId e := rfl

end Lookups

/-! ## Holders -/

section Holders

variable {m : ServerSessionManager} {assigned : List U32} {e e' : EndpointKey} {c : U32}
  {s : SessionState}

theorem holds_of_pending (assigned : List U32) (hs : m.findPendingSession e = some s) :
    (m.registry assigned).holds e = some s.connId := by
  simp [registry, hs]

theorem Consistent.holds_of_active (h : Consistent m assigned) (hc : m.activeConnId e = some c) :
    (m.registry assigned).holds e = some c := by
  have hnone : m.findPendingSession e = none := by
    cases hget : m.findPendingSession e with
    | none => rfl
    | some s =>
      rw [(h.pending_session e s hget).1] at hc
      cases hc
  simp [registry, hnone, hc]

/-- Two endpoints never share an identifier. -/
theorem Consistent.ne_of_active (h : Consistent m assigned) (hne : e' ≠ e)
    (hholds : (m.registry assigned).holds e = some c) {c' : U32}
    (hc' : m.activeConnId e' = some c') : c' ≠ c := by
  rintro rfl
  exact hne (h.valid.unique (h.holds_of_active hc') hholds)

theorem Consistent.connId_ne_zero (h : Consistent m assigned)
    (hholds : (m.registry assigned).holds e = some c) : c ≠ 0 ∧ c ∉ m.retiredConnIds :=
  not_or.1 (h.valid.live hholds)

end Holders

/-! ## One write -/

section Write

variable {m : ServerSessionManager} {assigned : List U32} {e : EndpointKey} {c : U32}
  {s s' : SessionState}

/-- A pending session changes. -/
theorem Consistent.setPending (h : Consistent m assigned) (hs : m.findPendingSession e = some s)
    (hconnId : s'.connId = s.connId) (hrole : s'.role = s.role) :
    Consistent (m.setPending e s') assigned := by
  have hregistry : (m.setPending e s').registry assigned = m.registry assigned := by
    refine Registry.ext (funext fun e' => ?_) rfl rfl
    by_cases heq : e' = e
    · subst heq
      simp [registry, hs, hconnId]
    · simp [registry, heq]
  refine ⟨hregistry ▸ h.valid, h.active_iff, h.active_session, fun e' t ht => ?_⟩
  rw [findPendingSession_setPending] at ht
  split_ifs at ht with heq
  · obtain rfl := Option.some.inj ht
    rw [heq, hrole]
    exact h.pending_session e s hs
  · exact h.pending_session e' t ht

/-- An active session changes. -/
theorem Consistent.setActive (h : Consistent m assigned) (hs : m.findActiveSession c = some s)
    (hconnId : s'.connId = s.connId) (hrole : s'.role = s.role) :
    Consistent (m.setActive c s') assigned := by
  refine ⟨h.valid, fun c' => ?_, fun c' t ht => ?_, h.pending_session⟩
  · rw [findActiveSession_setActive]
    split_ifs with heq
    · subst heq
      exact ⟨fun _ => (h.active_iff c').1 ⟨s, hs⟩, fun _ => ⟨s', rfl⟩⟩
    · exact h.active_iff c'
  · rw [findActiveSession_setActive] at ht
    split_ifs at ht with heq
    · obtain rfl := Option.some.inj ht
      rw [heq, hconnId, hrole]
      exact h.active_session c s hs
    · exact h.active_session c' t ht

theorem findPendingSession_cleanupPendingSession (e' : EndpointKey) :
    (cleanupPendingSession e m).findPendingSession e' =
      if e' = e then none else m.findPendingSession e' := by
  rw [cleanupPendingSession]
  split
  next hnone =>
    split_ifs with heq
    · rw [heq, hnone]
    · rfl
  next s hs => exact lookup_erase_ite e e' m.pendingByEndpoint

theorem findActiveSession_cleanupPendingSession (c : U32) :
    (cleanupPendingSession e m).findActiveSession c = m.findActiveSession c := by
  rw [cleanupPendingSession]
  split <;> rfl

theorem activeConnId_cleanupPendingSession (e' : EndpointKey) :
    (cleanupPendingSession e m).activeConnId e' = m.activeConnId e' := by
  rw [cleanupPendingSession]
  split <;> rfl

theorem retired_insert (hc : c ≠ 0) (retired : Finset U32) :
    {x | x = 0 ∨ x ∈ if c ≠ 0 then insert c retired else retired} =
      insert c {x | x = 0 ∨ x ∈ retired} := by
  ext x
  simp only [if_pos hc, Set.mem_ofPred_eq, Finset.mem_insert, Set.mem_insert_iff]
  tauto

/-- Cleanup of a pending session retires its identifier. -/
theorem Consistent.cleanupPendingSession (h : Consistent m assigned) :
    Consistent (cleanupPendingSession e m) assigned := by
  cases hs : m.findPendingSession e with
  | none =>
    rw [ServerSessionManager.cleanupPendingSession, hs]
    exact h
  | some s =>
    have hholds := holds_of_pending assigned hs
    have hinactive := (h.pending_session e s hs).1
    have hregistry : (ServerSessionManager.cleanupPendingSession e m).registry assigned =
        (m.registry assigned).retire e s.connId := by
      refine Registry.ext (funext fun e' => ?_) ?_ rfl
      · simp only [registry, findPendingSession_cleanupPendingSession,
          activeConnId_cleanupPendingSession, Registry.retire, Function.update_apply]
        split_ifs with heq
        · simp [heq, hinactive]
        · rfl
      · simp only [registry, ServerSessionManager.cleanupPendingSession, hs, Registry.retire]
        exact retired_insert (h.connId_ne_zero hholds).1 m.retiredConnIds
    refine ⟨hregistry ▸ h.valid.retire hholds, fun c => ?_, fun c t ht => ?_, fun e' t ht => ?_⟩
    · simp only [findActiveSession_cleanupPendingSession, activeConnId_cleanupPendingSession]
      exact h.active_iff c
    · rw [findActiveSession_cleanupPendingSession] at ht
      exact h.active_session c t ht
    · rw [findPendingSession_cleanupPendingSession] at ht
      rw [activeConnId_cleanupPendingSession]
      split_ifs at ht
      exact h.pending_session e' t ht

theorem findActiveSession_cleanupActiveSession (c' : U32) :
    (cleanupActiveSession e c m).findActiveSession c' =
      if c' = c then none else m.findActiveSession c' :=
  lookup_erase_ite c c' m.activeByConnId

theorem activeConnId_cleanupActiveSession (hc : m.activeConnId e = some c) (e' : EndpointKey) :
    (cleanupActiveSession e c m).activeConnId e' =
      if e' = e then none else m.activeConnId e' := by
  simp only [cleanupActiveSession, hc, if_true]
  exact lookup_erase_ite e e' m.activeConnIdByEndpoint

/-- Cleanup of an active session retires its identifier. -/
theorem Consistent.cleanupActiveSession (h : Consistent m assigned)
    (hc : m.activeConnId e = some c) : Consistent (cleanupActiveSession e c m) assigned := by
  have hholds := h.holds_of_active hc
  have hpending : ∀ e', (ServerSessionManager.cleanupActiveSession e c m).findPendingSession e' =
    m.findPendingSession e' := fun _ => rfl
  have hregistry : (ServerSessionManager.cleanupActiveSession e c m).registry assigned =
      (m.registry assigned).retire e c := by
    refine Registry.ext (funext fun e' => ?_) ?_ rfl
    · simp only [registry, hpending, activeConnId_cleanupActiveSession hc, Registry.retire,
        Function.update_apply]
      split_ifs with heq
      · cases hget : m.findPendingSession e with
        | none => simp [heq, hget]
        | some s =>
          rw [(h.pending_session e s hget).1] at hc
          cases hc
      · rfl
    · simp only [registry, ServerSessionManager.cleanupActiveSession, Registry.retire]
      exact retired_insert (h.connId_ne_zero hholds).1 m.retiredConnIds
  refine ⟨hregistry ▸ h.valid.retire hholds, fun c' => ?_, fun c' t ht => ?_, fun e' t ht => ?_⟩
  · simp only [findActiveSession_cleanupActiveSession, activeConnId_cleanupActiveSession hc]
    by_cases heq : c' = c
    · -- Nobody else holds it.
      subst heq
      rw [if_pos rfl]
      refine ⟨by simp, ?_⟩
      rintro ⟨e', he'⟩
      split_ifs at he' with hee
      exact absurd rfl (h.ne_of_active hee hholds he')
    · rw [if_neg heq, h.active_iff]
      refine exists_congr fun e' => ?_
      split_ifs with hee
      · rw [hee, hc]
        simp [Ne.symm heq]
      · rfl
  · rw [findActiveSession_cleanupActiveSession] at ht
    split_ifs at ht
    exact h.active_session c' t ht
  · rw [activeConnId_cleanupActiveSession hc]
    refine ⟨?_, (h.pending_session e' t ht).2⟩
    split_ifs
    · rfl
    · exact (h.pending_session e' t ht).1

/-- The tables after a promotion. -/
theorem promotePendingSession_lookups (hs : m.findPendingSession e = some s)
    (hne : s.connId ≠ 0) :
    (∀ e', (promotePendingSession e m).findPendingSession e' =
      if e' = e then none else m.findPendingSession e') ∧
    (∀ c', (promotePendingSession e m).findActiveSession c' =
      if c' = s.connId then some s else m.findActiveSession c') ∧
    (∀ e', (promotePendingSession e m).activeConnId e' =
      if e' = e then some s.connId else m.activeConnId e') ∧
    (promotePendingSession e m).retiredConnIds = m.retiredConnIds := by
  simp only [promotePendingSession, hs, if_neg hne]
  exact ⟨fun e' => lookup_erase_ite e e' m.pendingByEndpoint,
    fun c' => lookup_insert_ite s.connId c' s m.activeByConnId,
    fun e' => lookup_insert_ite e e' s.connId m.activeConnIdByEndpoint, trivial⟩

/-- A promotion leaves every identifier with its holder. -/
theorem Consistent.promotePendingSession (h : Consistent m assigned)
    (hs : m.findPendingSession e = some s) : Consistent (promotePendingSession e m) assigned := by
  have hholds := holds_of_pending assigned hs
  obtain ⟨hpending, hactive, hbinding, hretired⟩ :=
    promotePendingSession_lookups hs (h.connId_ne_zero hholds).1
  obtain ⟨hinactive, hrole⟩ := h.pending_session e s hs
  have hregistry : (ServerSessionManager.promotePendingSession e m).registry assigned =
      m.registry assigned := by
    refine Registry.ext (funext fun e' => ?_) ?_ rfl
    · simp only [registry, hpending, hbinding]
      split_ifs with heq
      · simp [heq, hs]
      · rfl
    · simp only [registry, hretired]
  refine ⟨hregistry ▸ h.valid, fun c => ?_, fun c t ht => ?_, fun e' t ht => ?_⟩
  · simp only [hactive, hbinding]
    by_cases heq : c = s.connId
    · rw [if_pos heq]
      exact ⟨fun _ => ⟨e, by rw [if_pos rfl, heq]⟩, fun _ => ⟨s, rfl⟩⟩
    · rw [if_neg heq, h.active_iff]
      refine exists_congr fun e' => ?_
      split_ifs with hee
      · rw [hee, hinactive]
        simp [Ne.symm heq]
      · rfl
  · rw [hactive] at ht
    split_ifs at ht with heq
    · obtain rfl := Option.some.inj ht
      exact ⟨heq.symm, hrole⟩
    · exact h.active_session c t ht
  · rw [hpending] at ht
    rw [hbinding]
    split_ifs at ht with heq
    rw [if_neg heq]
    exact h.pending_session e' t ht

theorem connIdIsInUse_eq_false : m.connIdIsInUse c = false ↔ c ≠ 0 ∧ c ∉ m.retiredConnIds ∧
    m.findActiveSession c = none ∧ ∀ e s, m.findPendingSession e = some s → s.connId ≠ c := by
  simp only [connIdIsInUse, Bool.or_eq_false_iff, decide_eq_false_iff_not, Option.isSome_eq_false_iff,
    Option.isNone_iff_eq_none, not_exists, not_and, and_assoc]
  refine and_congr_right fun _ => and_congr_right fun _ => and_congr_right fun _ => ?_
  refine ⟨fun h e s hs hconnId => h e ?_ ?_, fun h e _ hany => ?_⟩
  · rw [Finmap.mem_keys, Finmap.mem_iff]
    exact ⟨s, hs⟩
  · simp [hs, hconnId]
  · obtain ⟨s, hs, hconnId⟩ := (Option.any_eq_true _ _).1 hany
    exact h e s hs (of_decide_eq_true hconnId)

/-- A new session is issued a fresh identifier. -/
theorem Consistent.createSession (h : Consistent m assigned) (hnew : m.findPendingSession e = none)
    (hinactive : m.activeConnId e = none) (hfresh : m.connIdIsInUse s.connId = false)
    (hrole : s.role = .server) : Consistent (m.setPending e s) (assigned ++ [s.connId]) := by
  obtain ⟨hne, hretired, hactive, hpending⟩ := connIdIsInUse_eq_false.1 hfresh
  have hregistry : (m.setPending e s).registry (assigned ++ [s.connId]) =
      (m.registry assigned).issue e s.connId := by
    refine Registry.ext (funext fun e' => ?_) rfl rfl
    simp only [registry, findPendingSession_setPending, activeConnId_setPending, Registry.issue,
      Function.update_apply]
    split_ifs <;> rfl
  have hholds : (m.registry assigned).holds e = none := by
    simp [registry, hnew, hinactive]
  have hnobody : (m.registry assigned).Fresh s.connId := by
    refine ⟨not_or.2 ⟨hne, hretired⟩, fun e' he' => ?_⟩
    simp only [registry, Option.or_eq_some_iff, Option.map_eq_some_iff] at he'
    rcases he' with ⟨t, ht, hconnId⟩ | ⟨-, hbinding⟩
    · exact hpending e' t ht hconnId
    · obtain ⟨t, ht⟩ := (h.active_iff s.connId).2 ⟨e', hbinding⟩
      rw [hactive] at ht
      cases ht
  refine ⟨hregistry ▸ h.valid.issue hholds hnobody, h.active_iff, h.active_session,
    fun e' t ht => ?_⟩
  rw [findPendingSession_setPending] at ht
  split_ifs at ht with heq
  · obtain rfl := Option.some.inj ht
    exact ⟨heq ▸ hinactive, hrole⟩
  · exact h.pending_session e' t ht

end Write

end ServerSessionManager

end Rudp
