import Rudp.ManagerExit
import Rudp.ManagerTenure
import Rudp.SessionPoll

/-!
# The manager, seen from one endpoint

The manager keeps the sessions of all clients in common tables, routes datagrams between them and
visits them in the order of its hash maps. A client sees nothing of this. Seen from one endpoint,
the manager is a seat: empty, or taken by one session, which gets nothing but the endpoint's own
datagrams, and whose packets and events are all that the manager sends to the endpoint or reports
about it (`manager_refines_sessions`).
-/

namespace Rudp

open ServerSessionManager

/-! ## A seat -/

/-- What happens at an endpoint. -/
inductive SeatAction where
  | arrived (bytes : Bytes) (nowMs : U64)
  | queued (request : SendRequest)
  | sent (bytes : Bytes)
  | reported (event : SessionEvent)

namespace SeatAction

def arrivedBytes : SeatAction → Option Bytes
  | .arrived bytes _ => some bytes
  | .queued _ | .sent _ | .reported _ => none

def queuedRequest : SeatAction → Option SendRequest
  | .queued request => some request
  | .arrived _ _ | .sent _ | .reported _ => none

def sentBytes : SeatAction → Option Bytes
  | .sent bytes => some bytes
  | .arrived _ _ | .queued _ | .reported _ => none

def reportedEvent : SeatAction → Option SessionEvent
  | .reported event => some event
  | .arrived _ _ | .queued _ | .sent _ => none

end SeatAction

/-- What is seen of an operation on a session. -/
def LifeOp.actions (transport : TransportSettings) (s : SessionState) : LifeOp → List SeatAction
  | .call (.queueSend channelId channelType payload) =>
    [.queued { channelId, channelType, payload }]
  | .call (.pollTx nowMs) => (Session.pollTx transport nowMs s).1.toList.map .sent
  | .call (.onDatagramReceived bytes nowMs) => [.arrived bytes nowMs]
  | .call .requestClose | .assignConnId _ => []
  | .drainEvents => (Session.drainEvents s).1.map .reported

/-- The operations that the manager uses once a session has its identifier. -/
def LifeOp.isShared : LifeOp → Bool
  | .call (.queueSend _ _ _) | .call (.pollTx _) | .call (.onDatagramReceived _ _)
  | .drainEvents => true
  | .call .requestClose | .assignConnId _ => false

/-- From one occupation of a seat to another. A datagram may be dropped; a new session takes an
empty seat; and a session leaves it when it has ended. -/
inductive SeatRun (transport : TransportSettings) :
    Option SessionState → List SeatAction → Option SessionState → Prop where
  | done (seat : Option SessionState) : SeatRun transport seat [] seat
  | dropped {seat seat' : Option SessionState} {actions : List SeatAction} (bytes : Bytes)
      (nowMs : U64) (hrest : SeatRun transport seat actions seat') :
      SeatRun transport seat (.arrived bytes nowMs :: actions) seat'
  | opened {seat' : Option SessionState} {actions : List SeatAction} (random : Randomness)
      (connId : U32) (hrest : SeatRun transport (some (newSession random connId)) actions seat') :
      SeatRun transport none actions seat'
  | lived {s : SessionState} {seat' : Option SessionState} {actions : List SeatAction} (op : LifeOp)
      (hop : op.isShared = true)
      (hrest : SeatRun transport (some (op.apply transport s).2) actions seat') :
      SeatRun transport (some s) (op.actions transport s ++ actions) seat'
  | closed {s : SessionState} {seat' : Option SessionState} {actions : List SeatAction}
      (hend : isTerminalState s.connectionState = true)
      (hrest : SeatRun transport none actions seat') : SeatRun transport (some s) actions seat'

namespace ServerSessionManager

/-- The session of an endpoint, in whichever table it is. -/
def sessionOf (m : ServerSessionManager) (endpoint : EndpointKey) : Option SessionState :=
  (m.findPendingSession endpoint).or (m.activeSession endpoint)

end ServerSessionManager

/-- What is seen of an operation of the manager at an endpoint. -/
def ManagerOp.actionsAt (transport : TransportSettings) (m : ServerSessionManager)
    (endpoint : EndpointKey) : ManagerOp → List SeatAction
  | .onDatagramReceived _ e bytes nowMs => if e = endpoint then [.arrived bytes nowMs] else []
  | .pollTx pendingOrder activeOrder nowMs =>
    ((m.pollTx transport pendingOrder activeOrder nowMs).1.filter fun datagram =>
      datagram.endpoint = endpoint).map fun datagram => .sent datagram.bytes
  | .queueSend connId channelId channelType payload =>
    if m.activeConnId endpoint = some connId then [.queued { channelId, channelType, payload }]
    else []
  | .drainEvents pendingOrder activeOrder =>
    ((m.drainEvents pendingOrder activeOrder).1.filter fun returned =>
      returned.endpoint = endpoint).map fun returned => .reported returned.event
  | .drainActiveEvents connId =>
    if m.activeConnId endpoint = some connId then (m.drainActiveEvents connId).1.map .reported
    else []

/-- The manager, and all that has been seen of it at one endpoint. Its loops visit every key of
their tables once. -/
structure SeatLog where
  server : ServerRun := {}
  actions : List SeatAction := []

def SeatLog.step (transport : TransportSettings) (endpoint : EndpointKey) (r : SeatLog)
    (op : ManagerOp) : Option SeatLog :=
  if op.Orderly r.server.manager then
    (r.server.step transport op).map fun server =>
      { server, actions := r.actions ++ op.actionsAt transport r.server.manager endpoint }
  else none

/-! ## Runs of a seat -/

section SeatRun

variable {transport : TransportSettings} {seat seat₁ seat₂ : Option SessionState}
  {actions actions₁ actions₂ : List SeatAction} {s : SessionState}

theorem SeatRun.trans (h₁ : SeatRun transport seat actions₁ seat₁)
    (h₂ : SeatRun transport seat₁ actions₂ seat₂) :
    SeatRun transport seat (actions₁ ++ actions₂) seat₂ := by
  induction h₁ with
  | done seat => exact h₂
  | dropped bytes nowMs _ ih => exact .dropped bytes nowMs (ih h₂)
  | opened random connId _ ih => exact .opened random connId (ih h₂)
  | lived op hop _ ih =>
    rw [List.append_assoc]
    exact .lived op hop (ih h₂)
  | closed hend _ ih => exact .closed hend (ih h₂)

/-- One operation on the session. -/
theorem SeatRun.one (op : LifeOp) (hop : op.isShared = true) :
    SeatRun transport (some s) (op.actions transport s) (some (op.apply transport s).2) := by
  have h := @SeatRun.lived transport s _ _ op hop (.done _)
  rwa [List.append_nil] at h

/-- One operation, after which the session has ended and leaves. -/
theorem SeatRun.last (op : LifeOp) (hop : op.isShared = true)
    (hend : isTerminalState (op.apply transport s).2.connectionState = true) :
    SeatRun transport (some s) (op.actions transport s) none := by
  have h := @SeatRun.lived transport s _ _ op hop (.closed hend (.done none))
  rwa [List.append_nil] at h

end SeatRun

namespace ServerSessionManager

/-! ## The session of an endpoint -/

section Lookups

variable {m m' : ServerSessionManager} {assigned : List U32} {e : EndpointKey} {c : U32}
  {s : SessionState}

theorem sessionOf_of_pending (hs : m.findPendingSession e = some s) : m.sessionOf e = some s := by
  rw [sessionOf, hs, Option.some_or]

theorem sessionOf_of_active (hpending : m.findPendingSession e = none)
    (hc : m.activeConnId e = some c) (hs : m.findActiveSession c = some s) :
    m.sessionOf e = some s := by
  rw [sessionOf, hpending, Option.none_or, activeSession, hc, Option.bind_some, hs]

theorem Consistent.not_pending (h : Consistent m assigned) (hc : m.activeConnId e = some c) :
    m.findPendingSession e = none := by
  refine Option.eq_none_iff_forall_ne_some.2 fun t ht => ?_
  rw [(h.pending_session e t ht).1] at hc
  cases hc

theorem Untouched.sessionOf_eq (h : Untouched m m' e) : m'.sessionOf e = m.sessionOf e := by
  rw [sessionOf, sessionOf, h.pending, activeSession, activeSession, h.binding]
  cases hc : m.activeConnId e with
  | none => rfl
  | some c => rw [Option.bind_some, Option.bind_some, h.active c hc]

/-- Writing an active session writes the seat of the endpoint that is bound to it. -/
theorem Consistent.sessionOf_setActive (h : Consistent m assigned) :
    (m.setActive c s).sessionOf e =
      if m.activeConnId e = some c then some s else m.sessionOf e := by
  split_ifs with hc
  · exact sessionOf_of_active (h.not_pending hc) hc (by simp)
  · rw [sessionOf, sessionOf, activeSession, activeSession]
    cases hc' : m.activeConnId e with
    | none => simp [hc']
    | some c' =>
      have hne : c' ≠ c := fun heq => hc (heq ▸ hc')
      simp [hc', hne]

end Lookups

/-! ## Every operation -/

section Operations

variable {transport : TransportSettings} {m m' : ServerSessionManager} {assigned : List U32}
  {e : EndpointKey} {s : SessionState} {bytes : Bytes} {nowMs : U64}
  {pendingOrder activeOrder : List EndpointKey}

theorem Consistent.seatRun_pending (h : Consistent m assigned)
    (hs : m.findPendingSession e = some s) :
    SeatRun transport (some s) [.arrived bytes nowMs]
      ((tryDispatchPending transport e bytes nowMs m).2.sessionOf e) := by
  let op : LifeOp := .call (.onDatagramReceived bytes nowMs)
  rcases @Consistent.tryDispatchPending_cases transport bytes nowMs m assigned e s h hs with
    ⟨-, hpending, hbinding, hactive⟩ | ⟨hend, hpending, hbinding⟩ | ⟨-, -, hpending, -⟩
  · rw [sessionOf_of_active hpending hbinding hactive]
    exact .one op rfl
  · rw [sessionOf, hpending, activeSession, hbinding]
    exact .last op rfl hend
  · rw [sessionOf_of_pending hpending]
    exact .one op rfl

theorem Consistent.seatRun_active (h : Consistent m assigned) {c : U32}
    (hc : m.activeConnId e = some c) (hs : m.findActiveSession c = some s) :
    SeatRun transport (some s) [.arrived bytes nowMs]
      ((tryDispatchActive transport e bytes c nowMs m).2.sessionOf e) := by
  let op : LifeOp := .call (.onDatagramReceived bytes nowMs)
  obtain ⟨hpending, ⟨hend, hbinding⟩ | ⟨-, hbinding, hactive⟩⟩ :=
    @Consistent.tryDispatchActive_cases transport bytes nowMs m assigned e c s h hc hs
  · rw [sessionOf, hpending, activeSession, hbinding]
    exact .last op rfl hend
  · rw [sessionOf_of_active hpending hbinding hactive]
    exact .one op rfl

/-- A datagram from the endpoint: it is dropped, or it goes to the session of the endpoint, which
may have been made for it. -/
theorem Sound.seatRun_datagram (h : Sound m assigned) {random : Randomness}
    (hroute : Routed transport random e bytes nowMs m new m') :
    SeatRun transport (m.sessionOf e) [.arrived bytes nowMs] (m'.sessionOf e) := by
  cases hroute with
  | ignored => exact .dropped bytes nowMs (.done _)
  | active hc hs =>
    rw [sessionOf_of_active (h.consistent.not_pending hc) hc hs]
    exact h.consistent.seatRun_active hc hs
  | pending hs =>
    rw [sessionOf_of_pending hs]
    exact h.consistent.seatRun_pending hs
  | @created c hfree hinactive hfresh =>
    have hempty : m.sessionOf e = none := by rw [sessionOf, hfree, activeSession, hinactive]; rfl
    have hcreated : Consistent (m.setPending e (newSession random c)) (assigned ++ [c]) :=
      h.consistent.createSession hfree hinactive hfresh rfl
    rw [hempty]
    exact .opened random c (hcreated.seatRun_pending (by simp))

/-- **A poll** does to the session of an endpoint what it does to it alone. -/
theorem Sound.sessionOf_pollTx (h : Sound m assigned)
    (hp : Enumerates pendingOrder m.pendingByEndpoint)
    (ha : Enumerates activeOrder m.activeConnIdByEndpoint) :
    (ServerSessionManager.pollTx transport pendingOrder activeOrder nowMs m).2.sessionOf e =
      (m.sessionOf e).bind fun s => keptBy transport s nowMs := by
  have hafter : Consistent
      (ServerSessionManager.pollTx transport pendingOrder activeOrder nowMs m).2 assigned :=
    (h.pollTx pendingOrder activeOrder).consistent
  have hloses := fun f => @onlyLoses_pollTx m f transport pendingOrder activeOrder nowMs
  have hpending := @pollTx_pending transport nowMs m pendingOrder activeOrder hp.visits e
  have hactive := fun c => (@Sound.pollTx_active transport nowMs m assigned pendingOrder
    activeOrder h ha.visits c).1
  generalize (ServerSessionManager.pollTx transport pendingOrder activeOrder nowMs m).2 = m'
    at hafter hloses hpending hactive ⊢
  have honly := hloses e
  cases hs : m.findPendingSession e with
  | some s =>
    have hunbound : m'.activeConnId e = none :=
      honly.binding.elim (fun hsame => hsame.trans (h.consistent.pending_session e s hs).1) id
    rw [sessionOf_of_pending hs, Option.bind_some, sessionOf, hpending, hs, activeSession, hunbound,
      Option.bind_none, Option.or_none]
    rfl
  | none =>
    rw [hs, Option.bind_none] at hpending
    rw [sessionOf, sessionOf, hpending, hs, Option.none_or, Option.none_or, activeSession,
      activeSession]
    cases hc : m.activeConnId e with
    | none =>
      rw [honly.binding.elim (fun hsame => hsame.trans hc) id]
      rfl
    | some c =>
      obtain ⟨s, hfound⟩ := (h.consistent.active_iff c).2 ⟨e, hc⟩
      have hkept : m'.findActiveSession c = keptBy transport s nowMs := by
        rw [hactive, hfound]
        rfl
      rw [Option.bind_some, hfound, Option.bind_some, ← hkept]
      rcases honly.binding with hsame | hnone
      · rw [hsame, hc, Option.bind_some]
      · -- Nobody else was bound to the identifier, so its session is gone.
        rw [hnone, Option.bind_none, eq_comm, Option.eq_none_iff_forall_ne_some]
        intro t ht
        obtain ⟨f, hf⟩ := (hafter.active_iff c).1 ⟨t, ht⟩
        rcases (hloses f).binding with hsame | hgone
        · obtain rfl := h.consistent.oneToOne f e c (hsame.symm.trans hf) hc
          rw [hnone] at hf
          cases hf
        · rw [hgone] at hf
          cases hf

/-- What two loops over the tables yield for one endpoint, if every visit yields what is about its
own endpoint: that of its session. -/
theorem Consistent.filter_visits (h : Consistent m assigned)
    (hp : Enumerates pendingOrder m.pendingByEndpoint)
    (ha : Enumerates activeOrder m.activeConnIdByEndpoint) {ω : Type} (about : ω → EndpointKey)
    {pending active : EndpointKey → SessionState → List ω}
    (hpending : ∀ f s, ∀ a ∈ pending f s, about a = f)
    (hactive : ∀ f s, ∀ a ∈ active f s, about a = f) :
    ((pendingOrder.flatMap fun f => (m.findPendingSession f).elim [] (pending f)) ++
        activeOrder.flatMap fun f => (m.activeSession f).elim [] (active f)).filter
          (fun a => about a = e) =
      (m.findPendingSession e).elim ((m.activeSession e).elim [] (active e)) (pending e) := by
  have hvisitsPending : Sweep.Visits pendingOrder m.findPendingSession := hp.visits
  have hvisitsActive : Sweep.Visits activeOrder m.activeSession :=
    ⟨ha.visits.nodup, fun f => by
      rw [h.isSome_activeSession]
      exact ha.visits.mem_iff f⟩
  have hhere : ∀ {emit : EndpointKey → SessionState → List ω},
      (∀ f s, ∀ a ∈ emit f s, about a = f) → ∀ s, ∀ a ∈ emit e s, decide (about a = e) = true :=
    fun hemit s a hmem => decide_eq_true (hemit e s a hmem)
  have hothers : ∀ {emit : EndpointKey → SessionState → List ω},
      (∀ f s, ∀ a ∈ emit f s, about a = f) →
      ∀ f s, f ≠ e → ∀ a ∈ emit f s, decide (about a = e) = false :=
    fun hemit f s hne a hmem => decide_eq_false fun heq => hne ((hemit f s a hmem).symm.trans heq)
  rw [List.filter_append, hvisitsPending.filter_flatMap (hhere hpending) (hothers hpending),
    hvisitsActive.filter_flatMap (hhere hactive) (hothers hactive)]
  cases hs : m.findPendingSession e with
  | none => rfl
  | some s =>
    rw [activeSession, (h.pending_session e s hs).1]
    exact List.append_nil _

/-- What a poll sends to the endpoint, its session sends. -/
theorem Sound.actionsAt_pollTx (h : Sound m assigned)
    (hp : Enumerates pendingOrder m.pendingByEndpoint)
    (ha : Enumerates activeOrder m.activeConnIdByEndpoint) :
    ManagerOp.actionsAt transport m e (.pollTx pendingOrder activeOrder nowMs) =
      (m.sessionOf e).elim [] fun s => LifeOp.actions transport s (.call (.pollTx nowMs)) := by
  have habout : ∀ f s, ∀ datagram ∈ sentTo transport nowMs f s, datagram.endpoint = f := by
    intro f s datagram hmem
    rw [sentTo, Option.mem_toList, Option.map_eq_some_iff] at hmem
    obtain ⟨bytes, -, rfl⟩ := hmem
    rfl
  have hsent : ∀ s,
      (sentTo transport nowMs e s).map (fun datagram => SeatAction.sent datagram.bytes) =
        LifeOp.actions transport s (.call (.pollTx nowMs)) := by
    intro s
    rw [sentTo, LifeOp.actions]
    cases (Session.pollTx transport nowMs s).1 <;> rfl
  rw [ManagerOp.actionsAt, h.pollTx_outbound hp.visits.nodup ha.visits.nodup,
    h.consistent.filter_visits hp ha OutboundDatagram.endpoint habout habout, sessionOf]
  cases m.findPendingSession e with
  | some s => exact hsent s
  | none =>
    rw [Option.none_or]
    cases m.activeSession e with
    | none => rfl
    | some s => exact hsent s

/-- **`drain_events`** drains the session of an endpoint. -/
theorem Sound.sessionOf_drainEvents (h : Sound m assigned)
    (hp : Enumerates pendingOrder m.pendingByEndpoint)
    (ha : Enumerates activeOrder m.activeConnIdByEndpoint) :
    (ServerSessionManager.drainEvents pendingOrder activeOrder m).2.sessionOf e =
      (m.sessionOf e).map fun s => (Session.drainEvents s).2 := by
  have hframe := drainPendingOne_writes.frame ([], m) pendingOrder
  have hpending : (pendingOrder.foldl drainPendingOne ([], m)).2.findPendingSession e =
      (m.findPendingSession e).map fun s => (Session.drainEvents s).2 :=
    drainPendingOne_writes.local.get_visits (s := ([], m)) trivial hp.visits e
  have hactive := fun c => (@Sound.drainEvents_active m assigned h pendingOrder activeOrder
    ha.visits c).1
  rw [ServerSessionManager.drainEvents] at hactive ⊢
  generalize pendingOrder.foldl drainPendingOne ([], m) = drained at hframe hpending hactive ⊢
  have hframe' := drainActiveOne_writes.frame drained activeOrder
  generalize activeOrder.foldl drainActiveOne drained = drained' at hframe' hactive ⊢
  have hkept : drained'.2.findPendingSession e = drained.2.findPendingSession e := by
    rw [hframe']
    rfl
  have hbinding : drained'.2.activeConnId e = m.activeConnId e := by
    rw [hframe', hframe]
    rfl
  rw [sessionOf, sessionOf, hkept, hpending, activeSession, activeSession, hbinding]
  cases hs : m.findPendingSession e with
  | some s => rfl
  | none =>
    rw [Option.map_none, Option.none_or, Option.none_or]
    cases hc : m.activeConnId e with
    | none => rfl
    | some c => exact hactive c

/-- What `drain_events` returns about the endpoint, its session held. -/
theorem Sound.actionsAt_drainEvents (h : Sound m assigned)
    (hp : Enumerates pendingOrder m.pendingByEndpoint)
    (ha : Enumerates activeOrder m.activeConnIdByEndpoint) :
    ManagerOp.actionsAt transport m e (.drainEvents pendingOrder activeOrder) =
      (m.sessionOf e).elim [] fun s => LifeOp.actions transport s .drainEvents := by
  have hpending := @drainPending_out m _ hp.1
  have hframe := drainPendingOne_writes.frame ([], m) pendingOrder
  rw [ManagerOp.actionsAt, ServerSessionManager.drainEvents]
  generalize pendingOrder.foldl drainPendingOne ([], m) = drained at hpending hframe ⊢
  have htables : drained.2.activeConnId = m.activeConnId ∧
      drained.2.activeSession = m.activeSession := by
    rw [hframe]
    exact ⟨rfl, rfl⟩
  have hone : OneToOne drained.2 := by
    rw [OneToOne, htables.1]
    exact h.consistent.oneToOne
  rw [show drained = (drained.1, drained.2) from rfl, drainActive_out hone ha.1, htables.1,
    htables.2, hpending, h.consistent.filter_visits hp ha ServerSessionEvent.endpoint
      (fun f s a hmem => ?_) (fun f s a hmem => ?_), sessionOf]
  · cases hs : m.findPendingSession e with
    | some s =>
      rw [Option.elim_some, List.map_map, Option.some_or, Option.elim_some]
      rfl
    | none =>
      rw [Option.elim_none, Option.none_or]
      cases hc : m.activeConnId e with
      | none => rw [activeSession, hc]; rfl
      | some c =>
        cases m.activeSession e with
        | none => rfl
        | some s =>
          simp only [Option.elim_some, List.map_map]
          rfl
  · obtain ⟨_, -, rfl⟩ := List.mem_map.1 hmem
    rfl
  · cases hc : m.activeConnId f with
    | none => simp [hc] at hmem
    | some c =>
      rw [hc, Option.elim_some] at hmem
      obtain ⟨_, -, rfl⟩ := List.mem_map.1 hmem
      rfl

/-- An operation on every session, that takes nothing away. -/
theorem seatRun_map {seat : Option SessionState} {op : LifeOp} (hop : op.isShared = true) :
    SeatRun transport seat (seat.elim [] fun s => op.actions transport s)
      (seat.map fun s => (op.apply transport s).2) := by
  cases seat with
  | none => exact .done none
  | some s => exact .one op hop

end Operations

end ServerSessionManager

/-- **One operation of the manager**, seen from an endpoint. -/
theorem SeatLog.seatRun_step {transport : TransportSettings} {e : EndpointKey} {r r' : ServerRun}
    {op : ManagerOp} (h : Sound r.manager r.assigned) (horderly : op.Orderly r.manager)
    (hstep : r.step transport op = some r') :
    SeatRun transport (r.manager.sessionOf e) (op.actionsAt transport r.manager e)
      (r'.manager.sessionOf e) := by
  cases op with
  | onDatagramReceived random endpoint bytes nowMs =>
    obtain ⟨m', hm', rfl⟩ := Option.map_eq_some_iff.1 hstep
    have hrouted := onDatagramReceived_routed hm'
    rw [ManagerOp.actionsAt]
    split_ifs with heq
    · subst heq
      exact h.seatRun_datagram hrouted
    · rw [((h.routed hrouted).untouched e (Ne.symm heq)).sessionOf_eq]
      exact .done _
  | pollTx pendingOrder activeOrder nowMs =>
    obtain rfl := Option.some.inj hstep
    rw [h.sessionOf_pollTx horderly.1 horderly.2, h.actionsAt_pollTx horderly.1 horderly.2]
    cases r.manager.sessionOf e with
    | none => exact .done none
    | some s =>
      rw [Option.elim_some, Option.bind_some, keptBy]
      split_ifs with hends
      · rw [endsAt, Bool.and_eq_true] at hends
        exact .last _ rfl hends.2
      · exact .one _ rfl
  | queueSend connId channelId channelType payload =>
    obtain rfl := Option.some.inj hstep
    rw [ManagerOp.actionsAt, ServerSessionManager.queueSend]
    cases hs : r.manager.findActiveSession connId with
    | none =>
      have hunbound : r.manager.activeConnId e ≠ some connId := by
        intro hc
        obtain ⟨s, hfound⟩ := (h.consistent.active_iff connId).2 ⟨e, hc⟩
        rw [hs] at hfound
        cases hfound
      rw [if_neg hunbound]
      exact .done _
    | some s =>
      simp only [h.consistent.sessionOf_setActive]
      split_ifs with hc
      · rw [sessionOf_of_active (h.consistent.not_pending hc) hc hs]
        exact .one (.call (.queueSend channelId channelType payload)) rfl
      · exact .done _
  | drainEvents pendingOrder activeOrder =>
    obtain rfl := Option.some.inj hstep
    rw [h.sessionOf_drainEvents horderly.1 horderly.2,
      h.actionsAt_drainEvents horderly.1 horderly.2]
    exact seatRun_map rfl
  | drainActiveEvents connId =>
    obtain rfl := Option.some.inj hstep
    rw [ManagerOp.actionsAt, ServerSessionManager.drainActiveEvents]
    cases hs : r.manager.findActiveSession connId with
    | none =>
      simp only [List.map_nil, ite_self]
      exact .done _
    | some s =>
      simp only [h.consistent.sessionOf_setActive]
      split_ifs with hc
      · rw [sessionOf_of_active (h.consistent.not_pending hc) hc hs]
        exact .one .drainEvents rfl
      · exact .done _

/-- **The manager is one session at a time, seen from an endpoint.** In every run of the manager,
with any number of clients, what is seen at an endpoint (the datagrams that come from it, the
requests queued for it, the datagrams sent to it and the events reported about it) is what a seat
shows in which one session after another lives its life alone. -/
theorem manager_refines_sessions (transport : TransportSettings) (endpoint : EndpointKey)
    {ops : List ManagerOp} {r : SeatLog}
    (hrun : Run.runM (SeatLog.step transport endpoint) {} ops = some r) :
    SeatRun transport none r.actions (r.server.manager.sessionOf endpoint) := by
  refine (Run.invariantM (fun r : SeatLog => Sound r.server.manager r.server.assigned ∧
    SeatRun transport none r.actions (r.server.manager.sessionOf endpoint))
    (fun r op r' h hstep => ?_) ⟨sound_empty, .done none⟩ hrun).2
  rw [SeatLog.step] at hstep
  split_ifs at hstep with horderly
  obtain ⟨server, hserver, rfl⟩ := Option.map_eq_some_iff.1 hstep
  exact ⟨ServerRun.step_sound h.1 hserver, h.2.trans (SeatLog.seatRun_step h.1 horderly hserver)⟩

/-- A client connects and sends a message. -/
theorem manager_refines_sessions_oneMessage :
    ∃ r, Run.runM (SeatLog.step {} clientEndpoint) {}
        (oneMessage ++ [.drainEvents [] [clientEndpoint]]) = some r ∧ r.actions.length = 6 ∧
      SeatRun {} none r.actions (r.server.manager.sessionOf clientEndpoint) := by
  have hlength : ((Run.runM (SeatLog.step {} clientEndpoint) {}
      (oneMessage ++ [.drainEvents [] [clientEndpoint]])).map fun r => r.actions.length) =
      some 6 := by
    decide +kernel
  obtain ⟨r, hr, hvalue⟩ := Option.map_eq_some_iff.1 hlength
  exact ⟨r, hr, hvalue, manager_refines_sessions {} clientEndpoint hr⟩

end Rudp
