import Rudp.ManagerPoll
import Rudp.SessionServer

/-!
# What the manager reports

Events live in the session that appended them, until the application drains them. A session that has
ended is removed at once, together with what it still held, and the last thing an active session
does is to append the event that says so. This module keeps the books, one account per `conn_id`:
what a session held when it became active, what it appended since, and what the application was
handed. `events_returned_iff` says exactly when the books balance: if no active session ever ends.
-/

namespace Rudp

open ServerSessionManager

/-! ## The books -/

/-- The order is one in which an iteration over the table can visit its keys. -/
def Enumerates {σ : Type} (order : List EndpointKey) (t : Finmap fun _ : EndpointKey => σ) : Prop :=
  order.Nodup ∧ order.toFinset = t.keys

instance {σ : Type} (order : List EndpointKey) (t : Finmap fun _ : EndpointKey => σ) :
    Decidable (Enumerates order t) :=
  inferInstanceAs (Decidable (order.Nodup ∧ order.toFinset = t.keys))

/-- The loops of the operation visit every key of their tables once. -/
def ManagerOp.Orderly (m : ServerSessionManager) : ManagerOp → Prop
  | .pollTx pendingOrder activeOrder _ | .drainEvents pendingOrder activeOrder =>
    Enumerates pendingOrder m.pendingByEndpoint ∧ Enumerates activeOrder m.activeConnIdByEndpoint
  | .onDatagramReceived _ _ _ _ | .queueSend _ _ _ _ | .drainActiveEvents _ => True

instance (m : ServerSessionManager) (op : ManagerOp) : Decidable (op.Orderly m) :=
  match op with
  | .pollTx pendingOrder activeOrder _ | .drainEvents pendingOrder activeOrder =>
    inferInstanceAs (Decidable (Enumerates pendingOrder m.pendingByEndpoint ∧
      Enumerates activeOrder m.activeConnIdByEndpoint))
  | .onDatagramReceived _ _ _ _ | .queueSend _ _ _ _ | .drainActiveEvents _ =>
    inferInstanceAs (Decidable True)

/-- The events that a call of a session's operation appends. -/
def reportedBy (s s' : SessionState) : List SessionEvent :=
  s'.rx.pendingEvents.drop s.rx.pendingEvents.length

/-- The events that a session holds when it becomes active. -/
def carriedBy (m m' : ServerSessionManager) : ManagerOp → List (U32 × SessionEvent)
  | .onDatagramReceived _ endpoint _ _ =>
    if m.activeConnId endpoint = none then
      (m'.activeConnId endpoint).elim [] fun connId =>
        (m'.findActiveSession connId).elim [] fun session =>
          session.rx.pendingEvents.map (connId, ·)
    else []
  | .pollTx _ _ _ | .queueSend _ _ _ _ | .drainEvents _ _ | .drainActiveEvents _ => []

/-- The events that active sessions append. -/
def appendedBy (transport : TransportSettings) (m : ServerSessionManager) :
    ManagerOp → List (U32 × SessionEvent)
  | .onDatagramReceived _ endpoint bytes nowMs =>
    (activeTarget m endpoint bytes).elim [] fun connId =>
      (m.findActiveSession connId).elim [] fun session =>
        (reportedBy session (Session.onDatagramReceived transport bytes nowMs session)).map
          (connId, ·)
  | .pollTx _ activeOrder nowMs => activeOrder.flatMap fun endpoint =>
    (m.activeConnId endpoint).elim [] fun connId =>
      (m.findActiveSession connId).elim [] fun session =>
        (reportedBy session (Session.pollTx transport nowMs session).2).map (connId, ·)
  | .queueSend _ _ _ _ | .drainEvents _ _ | .drainActiveEvents _ => []

/-- The events of active sessions that the application is handed. -/
def returnedBy (m : ServerSessionManager) : ManagerOp → List (U32 × SessionEvent)
  | .drainEvents pendingOrder activeOrder =>
    (m.drainEvents pendingOrder activeOrder).1.filterMap fun returned =>
      returned.connId.bind fun connId =>
        if m.hasActiveSession connId then some (connId, returned.event) else none
  | .drainActiveEvents connId => (m.drainActiveEvents connId).1.map (connId, ·)
  | .onDatagramReceived _ _ _ _ | .pollTx _ _ _ | .queueSend _ _ _ _ => []

/-- A manager, with the events of its active sessions: what they held when they became active, what
they appended since, and what the application was handed. -/
structure EventRun where
  server : ServerRun := {}
  carried : List (U32 × SessionEvent) := []
  appended : List (U32 × SessionEvent) := []
  returned : List (U32 × SessionEvent) := []

/-- The run with the operation booked. -/
def EventRun.book (transport : TransportSettings) (r : EventRun) (op : ManagerOp)
    (server : ServerRun) : EventRun where
  server := server
  carried := r.carried ++ carriedBy r.server.manager server.manager op
  appended := r.appended ++ appendedBy transport r.server.manager op
  returned := r.returned ++ returnedBy r.server.manager op

/-- One operation. There is no step in an order that no iteration yields. -/
def EventRun.step (transport : TransportSettings) (r : EventRun) (op : ManagerOp) :
    Option EventRun :=
  if op.Orderly r.server.manager then
    (r.server.step transport op).map (r.book transport op)
  else none

/-- The account of one session. -/
def eventsOf (connId : U32) (log : List (U32 × SessionEvent)) : List SessionEvent :=
  log.filterMap fun entry => if entry.1 = connId then some entry.2 else none

/-- Every event that an active session held or appended was handed to the application once, in the
order in which it was appended. -/
def AllReturned (r : EventRun) : Prop :=
  ∀ connId, eventsOf connId r.returned = eventsOf connId r.carried ++ eventsOf connId r.appended

/-- The operation does not end an active session: it is no RST for one, and no poll that gives one
up. -/
def KeepsActive (transport : TransportSettings) (m : ServerSessionManager) : ManagerOp → Prop
  | .onDatagramReceived _ endpoint bytes _ => ∀ decoded, decode bytes = some decoded →
    (activeTarget m endpoint bytes).isSome → classifyControlKind decoded.header ≠ .rst
  | .pollTx _ _ nowMs => ∀ connId session, m.findActiveSession connId = some session →
    givesUp transport nowMs session = false
  | .queueSend _ _ _ _ | .drainEvents _ _ | .drainActiveEvents _ => True

/-! ## One account -/

section Account

variable {connId : U32}

@[simp] theorem eventsOf_nil : eventsOf connId [] = [] := rfl

@[simp] theorem eventsOf_append (log log' : List (U32 × SessionEvent)) :
    eventsOf connId (log ++ log') = eventsOf connId log ++ eventsOf connId log' :=
  List.filterMap_append

@[simp] theorem eventsOf_map (c : U32) (events : List SessionEvent) :
    eventsOf connId (events.map (c, ·)) = if c = connId then events else [] := by
  rw [eventsOf, List.filterMap_map]
  split_ifs with h
  · simp [h]
  · simp [h]

theorem eventsOf_flatMap {κ : Type} (order : List κ) (f : κ → List (U32 × SessionEvent)) :
    eventsOf connId (order.flatMap f) = order.flatMap fun k => eventsOf connId (f k) :=
  List.filterMap_flatMap

/-- What an operation does to one account: nothing, it opens it, it books on it, or it closes it
with something left. -/
inductive AccountStep (retired retired' : Finset U32) (connId : U32) :
    Option SessionState → Option SessionState →
    List SessionEvent → List SessionEvent → List SessionEvent → Prop where
  | absent : AccountStep retired retired' connId none none [] [] []
  | opened {s : SessionState} (hfresh : connId ∉ retired) :
      AccountStep retired retired' connId none (some s) s.rx.pendingEvents [] []
  | booked {s s' : SessionState} {appended returned : List SessionEvent}
      (hbooked : s.rx.pendingEvents ++ appended = returned ++ s'.rx.pendingEvents) :
      AccountStep retired retired' connId (some s) (some s') [] appended returned
  | closed {s : SessionState} {appended : List SessionEvent} (hretired : connId ∈ retired')
      (hleft : appended ≠ []) :
      AccountStep retired retired' connId (some s) none [] appended []

/-- What an operation does to the books. -/
structure Books (transport : TransportSettings) (op : ManagerOp) (m m' : ServerSessionManager) :
    Prop where
  account : ∀ connId, AccountStep m.retiredConnIds m'.retiredConnIds connId
    (m.findActiveSession connId) (m'.findActiveSession connId)
    (eventsOf connId (carriedBy m m' op)) (eventsOf connId (appendedBy transport m op))
    (eventsOf connId (returnedBy m op))
  retired : m.retiredConnIds ⊆ m'.retiredConnIds
  keeps_iff : KeepsActive transport m op ↔ ∀ connId,
    (m.findActiveSession connId).isSome → (m'.findActiveSession connId).isSome

/-- The state of an account. That of an active session balances with what the session still holds;
one without a session was never opened, or was closed with something left. -/
def AccountState (retired : Finset U32) (connId : U32) (carried appended returned : List SessionEvent) :
    Option SessionState → Prop
  | some s => carried ++ appended = returned ++ s.rx.pendingEvents
  | none => carried = [] ∧ appended = [] ∧ returned = [] ∨
    connId ∈ retired ∧ ∃ left, left ≠ [] ∧ carried ++ appended = returned ++ left

variable {retired retired' : Finset U32} {before after : Option SessionState}
  {carried appended returned carried' appended' returned' : List SessionEvent}

theorem AccountStep.state
    (h : AccountStep retired retired' connId before after carried' appended' returned')
    (hretired : retired ⊆ retired')
    (hstate : AccountState retired connId carried appended returned before) :
    AccountState retired' connId (carried ++ carried') (appended ++ appended')
      (returned ++ returned') after := by
  cases h with
  | absent =>
    simp only [List.append_nil]
    exact hstate.imp id fun hclosed => ⟨hretired hclosed.1, hclosed.2⟩
  | opened hfresh =>
    rcases hstate with ⟨rfl, rfl, rfl⟩ | ⟨hmem, -⟩
    · exact List.append_nil _
    · exact absurd hmem hfresh
  | booked hbooked =>
    show carried ++ [] ++ (appended ++ appended') = returned ++ returned' ++ _
    rw [List.append_nil, ← List.append_assoc, show carried ++ appended = _ from hstate,
      List.append_assoc, hbooked, List.append_assoc]
  | @closed s _ hmem hleft =>
    refine Or.inr ⟨hmem, s.rx.pendingEvents ++ appended', fun hnil => ?_, ?_⟩
    · exact hleft (List.append_eq_nil_iff.1 hnil).2
    · rw [List.append_nil, List.append_nil, ← List.append_assoc,
        show carried ++ appended = _ from hstate, List.append_assoc]

/-- An account is unused after the step exactly if it was before and stays without a session. -/
theorem AccountStep.unused_iff
    (h : AccountStep retired retired' connId before after carried' appended' returned')
    (hstate : AccountState retired connId carried appended returned before) (hafter : after = none) :
    carried ++ carried' = [] ∧ appended ++ appended' = [] ∧ returned ++ returned' = [] ↔
      before = none ∧ carried = [] ∧ appended = [] ∧ returned = [] := by
  cases h with
  | absent => simp
  | opened _ => cases hafter
  | booked _ => cases hafter
  | closed _ hleft => simp [hleft]

end Account

/-! ## The books of a run -/

section Books

variable {transport : TransportSettings} {r : EventRun} {op : ManagerOp} {server : ServerRun}

/-- The account of a session, in a run. -/
def Balanced (r : EventRun) : Prop :=
  ∀ connId, AccountState r.server.manager.retiredConnIds connId (eventsOf connId r.carried)
    (eventsOf connId r.appended) (eventsOf connId r.returned)
    (r.server.manager.findActiveSession connId)

/-- No account was closed: those without a session were never used. -/
def NoneClosed (r : EventRun) : Prop :=
  ∀ connId, r.server.manager.findActiveSession connId = none →
    eventsOf connId r.carried = [] ∧ eventsOf connId r.appended = [] ∧
      eventsOf connId r.returned = []

theorem Balanced.book (h : Balanced r)
    (hbooks : Books transport op r.server.manager server.manager) :
    Balanced (r.book transport op server) := by
  intro connId
  simp only [EventRun.book, eventsOf_append]
  exact (hbooks.account connId).state hbooks.retired (h connId)

/-- An operation closes an account exactly if it ends an active session. -/
theorem Balanced.noneClosed_book_iff (h : Balanced r)
    (hbooks : Books transport op r.server.manager server.manager) :
    NoneClosed (r.book transport op server) ↔
      NoneClosed r ∧ KeepsActive transport r.server.manager op := by
  have hunused : ∀ connId, server.manager.findActiveSession connId = none →
      (eventsOf connId (r.book transport op server).carried = [] ∧
        eventsOf connId (r.book transport op server).appended = [] ∧
        eventsOf connId (r.book transport op server).returned = [] ↔
      r.server.manager.findActiveSession connId = none ∧ eventsOf connId r.carried = [] ∧
        eventsOf connId r.appended = [] ∧ eventsOf connId r.returned = []) := by
    intro connId hnone
    simp only [EventRun.book, eventsOf_append]
    exact (hbooks.account connId).unused_iff (h connId) hnone
  rw [hbooks.keeps_iff]
  constructor
  · intro hnone
    have hkeeps : ∀ connId, (r.server.manager.findActiveSession connId).isSome →
        (server.manager.findActiveSession connId).isSome := by
      intro connId hsome
      by_contra hgone
      rw [Bool.not_eq_true, Option.isSome_eq_false_iff, Option.isNone_iff_eq_none] at hgone
      rw [((hunused connId hgone).1 (hnone connId hgone)).1] at hsome
      cases hsome
    refine ⟨fun connId hs => ?_, hkeeps⟩
    cases hafter : server.manager.findActiveSession connId with
    | none => exact ((hunused connId hafter).1 (hnone connId hafter)).2
    | some s =>
      -- It is opened just now, so it was never used before.
      have haccount := hbooks.account connId
      have hstate := h connId
      rw [hs] at haccount hstate
      rw [hafter] at haccount
      rcases hstate with hstate | ⟨hretired, -⟩
      · exact hstate
      · generalize eventsOf connId (carriedBy _ _ _) = carried at haccount
        generalize eventsOf connId (appendedBy _ _ _) = appended at haccount
        generalize eventsOf connId (returnedBy _ _) = returned at haccount
        cases haccount with
        | opened hfresh => exact absurd hretired hfresh
  · rintro ⟨hnone, hkeeps⟩ connId hs
    have hbefore : r.server.manager.findActiveSession connId = none := by
      by_contra hsome
      have hactive := hkeeps connId (Option.isSome_iff_ne_none.2 hsome)
      rw [show server.manager.findActiveSession connId = none from hs] at hactive
      cases hactive
    exact (hunused connId hs).2 ⟨hbefore, hnone connId hbefore⟩

end Books

/-! ## Each operation -/

/-- No session of the manager is ever asked to close. -/
theorem unclosed_rule (transport : TransportSettings) : SessionRule transport Unclosed where
  created := fun random _ =>
    ⟨rfl, rfl, rfl, @inFlight_empty _ .server random.initialSeq, bufferSettled_fresh⟩
  received := fun bytes _ h => h.receive bytes
  polled := fun _ h => h.poll
  queued := fun _ _ _ h => ⟨h.role, h.finalAck, h.fin, h.noFin, h.settled⟩
  drained := fun h => ⟨h.role, h.finalAck, h.fin, h.noFin, ⟨h.settled.unstarted, h.settled.front⟩⟩

section Operations

variable {transport : TransportSettings} {m m' : ServerSessionManager} {assigned : List U32}

theorem AccountStep.same (retired retired' : Finset U32) (connId : U32) (o : Option SessionState) :
    AccountStep retired retired' connId o o [] [] [] := by
  cases o with
  | none => exact .absent
  | some s => exact .booked (List.append_nil _)

/-- An operation that leaves the active sessions alone. -/
theorem books_same {op : ManagerOp} (hfind : ∀ c, m'.findActiveSession c = m.findActiveSession c)
    (hretired : m.retiredConnIds ⊆ m'.retiredConnIds) (hcarried : carriedBy m m' op = [])
    (happended : appendedBy transport m op = []) (hreturned : returnedBy m op = [])
    (hkeeps : KeepsActive transport m op) : Books transport op m m' where
  account := fun c => by
    rw [hfind, hcarried, happended, hreturned]
    exact .same _ _ _ _
  retired := hretired
  keeps_iff := ⟨fun _ c hc => by rwa [hfind], fun _ => hkeeps⟩

/-- An operation on one active session that takes some of its events. -/
theorem books_setActive {op : ManagerOp} {connId : U32} {s s' : SessionState}
    {returned : List SessionEvent} (hs : m.findActiveSession connId = some s)
    (hcarried : carriedBy m (m.setActive connId s') op = [])
    (happended : appendedBy transport m op = [])
    (hreturned : returnedBy m op = returned.map (connId, ·))
    (hkept : s.rx.pendingEvents = returned ++ s'.rx.pendingEvents)
    (hkeeps : KeepsActive transport m op) : Books transport op m (m.setActive connId s') where
  account := fun c => by
    rw [hcarried, happended, hreturned, eventsOf_map, findActiveSession_setActive]
    by_cases hc : c = connId
    · subst hc
      rw [if_pos rfl, if_pos rfl, hs]
      exact .booked ((List.append_nil _).trans hkept)
    · rw [if_neg hc, if_neg (Ne.symm hc)]
      exact .same _ _ _ _
  retired := Finset.Subset.refl _
  keeps_iff := by
    refine ⟨fun _ c hc => ?_, fun _ => hkeeps⟩
    rw [findActiveSession_setActive]
    split_ifs
    · rfl
    · exact hc

theorem books_queueSend (connId channelId : U32) (channelType : ChannelType) (payload : Bytes) :
    Books transport (.queueSend connId channelId channelType payload) m
      (queueSend connId channelId channelType payload m).2 := by
  rw [queueSend]
  cases hs : m.findActiveSession connId with
  | none => exact books_same (fun _ => rfl) (Finset.Subset.refl _) rfl rfl rfl trivial
  | some s => exact @books_setActive _ _ _ _ _ _ [] hs rfl rfl rfl rfl trivial

theorem books_drainActiveEvents (connId : U32) :
    Books transport (.drainActiveEvents connId) m (drainActiveEvents connId m).2 := by
  have hreturned : returnedBy m (.drainActiveEvents connId) =
      (drainActiveEvents connId m).1.map (connId, ·) := rfl
  rw [drainActiveEvents] at hreturned ⊢
  cases hs : m.findActiveSession connId with
  | none =>
    rw [hs] at hreturned
    exact books_same (fun _ => rfl) (Finset.Subset.refl _) rfl rfl hreturned trivial
  | some s =>
    rw [hs] at hreturned
    exact books_setActive hs rfl rfl hreturned (List.append_nil _).symm trivial

/-- What is booked in a loop over the active sessions. -/
theorem ServerSessionManager.Consistent.eventsOf_loop (h : Consistent m assigned) {order : List EndpointKey}
    (horder : Sweep.Visits order m.activeConnId) (emit : SessionState → List SessionEvent)
    (connId : U32) :
    eventsOf connId (order.flatMap fun e => (m.activeConnId e).elim [] fun c =>
      (m.findActiveSession c).elim [] fun s => (emit s).map (c, ·)) =
        (m.findActiveSession connId).elim [] emit := by
  have hone : ∀ e, eventsOf connId ((m.activeConnId e).elim [] fun c =>
      (m.findActiveSession c).elim [] fun s => (emit s).map (c, ·)) =
        if m.activeConnId e = some connId then (m.findActiveSession connId).elim [] emit else [] := by
    intro e
    cases hc : m.activeConnId e with
    | none => rfl
    | some c =>
      simp only [Option.elim_some, Option.some.injEq]
      cases hs : m.findActiveSession c with
      | none =>
        split_ifs with heq
        · rw [← heq, hs]
          rfl
        · rfl
      | some s =>
        rw [Option.elim_some, eventsOf_map]
        split_ifs with heq
        · rw [← heq, hs]
          rfl
        · rfl
  simp only [eventsOf_flatMap, hone]
  by_cases hbound : ∃ e, m.activeConnId e = some connId
  · obtain ⟨e, hc⟩ := hbound
    rw [Sweep.flatMap_eq_single horder.nodup ((horder.mem_iff e).2 (by simp [hc]))
      fun e' _ hne => if_neg fun hc' => hne (h.oneToOne e' e connId hc' hc), if_pos hc]
  · have hnone : m.findActiveSession connId = none :=
      Option.eq_none_iff_forall_ne_some.2 fun s hs => hbound ((h.active_iff connId).1 ⟨s, hs⟩)
    rw [hnone]
    exact List.flatMap_eq_nil_iff.2 fun e _ => if_neg fun hc => hbound ⟨e, hc⟩

/-! ### Polling -/

theorem reportedBy_eq {s s' : SessionState} {events : List SessionEvent}
    (h : s'.rx.pendingEvents = s.rx.pendingEvents ++ events) : reportedBy s s' = events := by
  rw [reportedBy, h, List.drop_left]

/-- An active session ends in a poll exactly if the poll gives it up, and then it says so. -/
theorem Unclosed.endsAt_eq {nowMs : U64} {s : SessionState} (h : Unclosed s)
    (hstate : s.connectionState.isActive) :
    endsAt transport nowMs s = givesUp transport nowMs s ∧
      (givesUp transport nowMs s = false →
        (Session.pollTx transport nowMs s).2.rx.pendingEvents = s.rx.pendingEvents) ∧
      (givesUp transport nowMs s = true →
        reportedBy s (Session.pollTx transport nowMs s).2 ≠ []) := by
  have hpoll := @Unclosed.poll_active transport nowMs s h hstate
  cases hup : givesUp transport nowMs s with
  | true =>
    rw [if_pos hup] at hpoll
    obtain ⟨hnone, hreset, message, hrx⟩ := hpoll
    refine ⟨?_, fun hfalse => Bool.noConfusion hfalse, fun _ => ?_⟩
    · rw [endsAt, hnone, hreset]
      rfl
    · rw [reportedBy_eq (show _ = _ ++ [localError message] by rw [hrx]; rfl)]
      exact List.cons_ne_nil _ _
  | false =>
    rw [hup, if_neg Bool.false_ne_true] at hpoll
    refine ⟨?_, fun _ => by rw [hpoll.2], fun htrue => Bool.noConfusion htrue⟩
    rw [endsAt, hpoll.1]
    rcases hstate with hstate | hstate <;> simp [hstate, isTerminalState]

theorem Enumerates.visits {σ : Type} {order : List EndpointKey}
    {t : Finmap fun _ : EndpointKey => σ} (h : Enumerates order t) : Sweep.Visits order t.lookup :=
  visits_of_keys h.1 h.2

theorem books_pollTx (h : Sound m assigned) (hunclosed : Everywhere Unclosed m)
    {pendingOrder activeOrder : List EndpointKey} (nowMs : U64)
    (ha : Sweep.Visits activeOrder m.activeConnId) :
    Books transport (.pollTx pendingOrder activeOrder nowMs) m
      (pollTx transport pendingOrder activeOrder nowMs m).2 := by
  have hactive := fun c => @Sound.pollTx_active transport nowMs m assigned pendingOrder activeOrder
    h ha c
  have hends : ∀ c s, m.findActiveSession c = some s → _ := fun c s hs =>
    @Unclosed.endsAt_eq transport nowMs s (hunclosed.active c s hs) (h.live.active c s hs)
  refine ⟨fun c => ?_, (hactive 0).2.1, ?_⟩
  · obtain ⟨hfind, -, hretired⟩ := hactive c
    have happended := h.consistent.eventsOf_loop ha
      (fun s => reportedBy s (Session.pollTx transport nowMs s).2) c
    rw [appendedBy, happended, hfind]
    simp only [carriedBy, returnedBy, eventsOf_nil]
    cases hs : m.findActiveSession c with
    | none => exact .absent
    | some s =>
      obtain ⟨heq, hkept, hleft⟩ := hends c s hs
      simp only [Option.bind_some, Option.elim_some]
      cases hup : givesUp transport nowMs s with
      | true =>
        rw [heq, hup, if_pos rfl]
        exact .closed (hretired ⟨s, hs, heq.trans hup⟩) (hleft hup)
      | false =>
        rw [heq, hup, if_neg Bool.false_ne_true]
        have hkept := hkept hup
        rw [reportedBy_eq (hkept.trans (List.append_nil _).symm)]
        exact .booked (by rw [List.append_nil, hkept]; rfl)
  · constructor
    · intro hkeeps c hsome
      obtain ⟨s, hs⟩ := Option.isSome_iff_exists.1 hsome
      rw [(hactive c).1, hs, Option.bind_some, (hends c s hs).1, hkeeps c s hs]
      rfl
    · intro hkept c s hs
      have hsome := hkept c (by rw [hs]; rfl)
      rw [(hactive c).1, hs, Option.bind_some, (hends c s hs).1] at hsome
      cases hup : givesUp transport nowMs s with
      | false => rfl
      | true =>
        rw [hup] at hsome
        cases hsome

/-! ### Draining -/

theorem drainPendingOne_writes :
    WritesPending Prod.snd (fun s => (Session.drainEvents s).2) drainPendingOne where
  eq := fun drained e => by
    rw [drainPendingOne]
    cases drained.2.findPendingSession e <;> rfl

theorem drainActiveOne_writes :
    WritesActive Prod.snd (fun s => (Session.drainEvents s).2) drainActiveOne where
  cases := fun drained e => by
    rw [drainActiveOne]
    cases hc : drained.2.activeConnId e with
    | none => exact Or.inl ⟨rfl, by simp [activeSession, hc]⟩
    | some c =>
      simp only
      cases hs : drained.2.findActiveSession c with
      | none => exact Or.inl ⟨rfl, by simp [activeSession, hc, hs]⟩
      | some s => exact Or.inr ⟨c, s, rfl, hs, rfl⟩

/-- What the loop over the pending sessions returns. -/
theorem drainPending_out {order : List EndpointKey} (horder : order.Nodup) :
    (order.foldl drainPendingOne ([], m)).1 = order.flatMap fun e =>
      (m.findPendingSession e).elim [] fun s => s.rx.pendingEvents.map fun event =>
        { endpoint := e, connId := if s.connId ≠ 0 then some s.connId else none, event } := by
  refine (drainPendingOne_writes.local.out_foldl (s := ([], m)) trivial horder Prod.fst
    (fun e s => s.rx.pendingEvents.map fun event =>
      { endpoint := e, connId := if s.connId ≠ 0 then some s.connId else none, event })
    fun {drained e} _ => ?_).trans (List.nil_append _)
  rw [drainPendingOne]
  cases drained.2.findPendingSession e with
  | none => exact (List.append_nil _).symm
  | some s => rfl

/-- What the loop over the active sessions returns after it. -/
theorem drainActive_out (hm : OneToOne m) {order : List EndpointKey} (horder : order.Nodup)
    (before : List ServerSessionEvent) :
    (order.foldl drainActiveOne (before, m)).1 = before ++ order.flatMap fun e =>
      (m.activeSession e).elim [] fun s => (m.activeConnId e).elim [] fun c =>
        s.rx.pendingEvents.map fun event => { endpoint := e, connId := some c, event } := by
  refine (drainActiveOne_writes.local hm).out_foldl (s := (before, m)) rfl horder Prod.fst
    (fun e s => (m.activeConnId e).elim [] fun c =>
      s.rx.pendingEvents.map fun event => { endpoint := e, connId := some c, event })
    fun {drained e} hdrained => ?_
  have hbinding : m.activeConnId e = drained.2.activeConnId e :=
    congrArg (Finmap.lookup e) hdrained.symm
  rw [drainActiveOne, hbinding]
  cases hc : drained.2.activeConnId e with
  | none => simp [activeSession, hc]
  | some c =>
    simp only [activeSession, hc, Option.bind_some]
    cases drained.2.findActiveSession c with
    | none => exact (List.append_nil _).symm
    | some s => rfl

/-- A session is pending or active under an identifier, not both. -/
theorem ServerSessionManager.Consistent.hasActiveSession_of_pending (h : Consistent m assigned)
    {e : EndpointKey} {s : SessionState} (hs : m.findPendingSession e = some s) :
    m.hasActiveSession s.connId = false := by
  rw [hasActiveSession, Option.isSome_eq_false_iff, Option.isNone_iff_eq_none]
  refine Option.eq_none_iff_forall_ne_some.2 fun t ht => ?_
  obtain ⟨e', hc⟩ := (h.active_iff s.connId).1 ⟨t, ht⟩
  obtain rfl := h.valid.unique (h.holds_of_active hc) (holds_of_pending assigned hs)
  rw [(h.pending_session e' s hs).1] at hc
  cases hc

/-- What `drain_events` returns of the active sessions: everything they hold. -/
theorem ServerSessionManager.Consistent.returnedBy_drainEvents (h : Consistent m assigned)
    {pendingOrder activeOrder : List EndpointKey} (hp : pendingOrder.Nodup)
    (ha : activeOrder.Nodup) :
    returnedBy m (.drainEvents pendingOrder activeOrder) =
      activeOrder.flatMap fun e => (m.activeConnId e).elim [] fun c =>
        (m.findActiveSession c).elim [] fun s => s.rx.pendingEvents.map (c, ·) := by
  have hpending := @drainPending_out m _ hp
  have hframe := drainPendingOne_writes.frame ([], m) pendingOrder
  rw [returnedBy, drainEvents]
  generalize pendingOrder.foldl drainPendingOne ([], m) = drained at hpending hframe ⊢
  have htables : drained.2.activeConnId = m.activeConnId ∧
      drained.2.activeSession = m.activeSession := by
    rw [hframe]
    exact ⟨rfl, rfl⟩
  have hone : OneToOne drained.2 := by
    rw [OneToOne, htables.1]
    exact h.oneToOne
  rw [show drained = (drained.1, drained.2) from rfl, drainActive_out hone ha, htables.1, htables.2,
    List.filterMap_append, List.filterMap_flatMap]
  have hnone : drained.1.filterMap (fun returned => returned.connId.bind fun connId =>
      if m.hasActiveSession connId then some (connId, returned.event) else none) = [] := by
    rw [hpending]
    refine List.filterMap_eq_nil_iff.2 fun returned hmem => ?_
    obtain ⟨e, -, hmem⟩ := List.mem_flatMap.1 hmem
    cases hs : m.findPendingSession e with
    | none => simp [hs] at hmem
    | some s =>
      rw [hs, Option.elim_some, List.mem_map] at hmem
      obtain ⟨event, -, rfl⟩ := hmem
      have hinactive := h.hasActiveSession_of_pending hs
      simp only
      split_ifs <;> simp [hinactive]
  rw [hnone, List.nil_append]
  refine List.flatMap_congr fun e _ => ?_
  cases hc : m.activeConnId e with
  | none => simp [activeSession, hc]
  | some c =>
    cases hs : m.findActiveSession c with
    | none => simp [activeSession, hc, hs]
    | some s =>
      have hactive : m.hasActiveSession c = true := by simp [hasActiveSession, hs]
      simp only [activeSession, hc, Option.bind_some, hs, Option.elim_some, List.filterMap_map,
        Function.comp_def, hactive, if_true]
      rw [List.filterMap_eq_map']

/-- What `drain_events` leaves of the active sessions. -/
theorem ServerSessionManager.Sound.drainEvents_active (h : Sound m assigned)
    {pendingOrder activeOrder : List EndpointKey}
    (ha : Sweep.Visits activeOrder m.activeConnId) (c : U32) :
    (ServerSessionManager.drainEvents pendingOrder activeOrder m).2.findActiveSession c =
        (m.findActiveSession c).map (fun s => (Session.drainEvents s).2) ∧
      (ServerSessionManager.drainEvents pendingOrder activeOrder m).2.retiredConnIds = m.retiredConnIds := by
  have hframe := drainPendingOne_writes.frame ([], m) pendingOrder
  have hsound := h.drainEvents pendingOrder activeOrder
  have hsound' := h.drainEvents pendingOrder []
  rw [ServerSessionManager.drainEvents] at hsound hsound' ⊢
  rw [List.foldl_nil] at hsound'
  generalize pendingOrder.foldl drainPendingOne ([], m) = drained at hframe hsound hsound' ⊢
  have hfind : drained.2.findActiveSession c = m.findActiveSession c := by
    rw [hframe]
    rfl
  have hvisits : Sweep.Visits activeOrder drained.2.activeConnId := by
    rw [hframe]
    exact ha
  constructor
  · rw [← hfind]
    exact @Consistent.findActiveSession_foldl _ _ _ Prod.snd _ _ drained hsound'.consistent
      (drainActiveOne_writes.local hsound'.consistent.oneToOne) hvisits hsound.consistent c
  · rw [drainActiveOne_writes.frame drained activeOrder, hframe]

theorem books_drainEvents (h : Sound m assigned) {pendingOrder activeOrder : List EndpointKey}
    (hp : pendingOrder.Nodup) (ha : Sweep.Visits activeOrder m.activeConnId) :
    Books transport (.drainEvents pendingOrder activeOrder) m
      (drainEvents pendingOrder activeOrder m).2 := by
  have hactive := fun c => @Sound.drainEvents_active m assigned h pendingOrder activeOrder ha c
  refine ⟨fun c => ?_, (hactive 0).2.symm.subset, fun _ c hsome => ?_, fun _ => trivial⟩
  · rw [h.consistent.returnedBy_drainEvents hp ha.nodup,
      h.consistent.eventsOf_loop ha (fun s => s.rx.pendingEvents), (hactive c).1]
    simp only [carriedBy, appendedBy, eventsOf_nil]
    cases m.findActiveSession c with
    | none => exact .absent
    | some s => exact .booked rfl
  · rw [(hactive c).1, Option.isSome_map]
    exact hsome

/-! ### Receiving -/

section Datagram

variable {random : Randomness} {e : EndpointKey} {bytes : Bytes} {nowMs : U64}

theorem activeTarget_of_inactive (hinactive : m.activeConnId e = none) :
    activeTarget m e bytes = none := by
  rw [activeTarget]
  cases decode bytes with
  | none => rfl
  | some packet => simp [hinactive]

/-- A datagram that is for no active session. -/
theorem books_untargeted (htarget : activeTarget m e bytes = none)
    (hfind : ∀ c, m'.findActiveSession c = m.findActiveSession c)
    (hretired : m.retiredConnIds ⊆ m'.retiredConnIds)
    (hbinding : m'.activeConnId e = m.activeConnId e) :
    Books transport (.onDatagramReceived random e bytes nowMs) m m' := by
  refine books_same hfind hretired ?_ ?_ rfl fun _ _ hsome => ?_
  · rw [carriedBy, hbinding]
    split_ifs with hnone
    · rw [hnone]
      rfl
    · rfl
  · rw [appendedBy, htarget]
    rfl
  · rw [htarget] at hsome
    cases hsome

section Pending

variable {m₁ : ServerSessionManager} {s : SessionState}

/-- A session that becomes active takes its events along. -/
theorem books_promotePendingSession (h₁ : Consistent m₁ assigned)
    (hs : m₁.findPendingSession e = some s)
    (hfind : ∀ c, m₁.findActiveSession c = m.findActiveSession c)
    (hretired : m₁.retiredConnIds = m.retiredConnIds) (hinactive : m.activeConnId e = none) :
    Books transport (.onDatagramReceived random e bytes nowMs) m
      (promotePendingSession e m₁) := by
  have htarget := @activeTarget_of_inactive m e bytes hinactive
  have hlive := h₁.connId_ne_zero (holds_of_pending assigned hs)
  obtain ⟨-, hactive, hbinding, hretired'⟩ := promotePendingSession_lookups hs hlive.1
  have hnone : m.findActiveSession s.connId = none := by
    rw [← hfind]
    exact Option.isNone_iff_eq_none.1
      (Option.isSome_eq_false_iff.1 (h₁.hasActiveSession_of_pending hs))
  have hcarried : carriedBy m (promotePendingSession e m₁)
      (.onDatagramReceived random e bytes nowMs) = s.rx.pendingEvents.map (s.connId, ·) := by
    rw [carriedBy, if_pos hinactive, hbinding, if_pos rfl, Option.elim_some, hactive, if_pos rfl,
      Option.elim_some]
  have happended : appendedBy transport m (.onDatagramReceived random e bytes nowMs) = [] := by
    rw [appendedBy, htarget]
    rfl
  refine ⟨fun c => ?_, ?_, fun _ c hsome => ?_, fun _ _ _ hsome => ?_⟩
  · rw [hcarried, happended, eventsOf_map, hactive]
    simp only [returnedBy, eventsOf_nil]
    by_cases hc : c = s.connId
    · subst hc
      rw [if_pos rfl, if_pos rfl, hnone]
      refine .opened ?_
      rw [← hretired]
      exact hlive.2
    · rw [if_neg hc, if_neg (Ne.symm hc), hfind]
      exact .same _ _ _ _
  · rw [hretired']
    exact hretired.symm.subset
  · rw [hactive, hfind]
    split_ifs
    · rfl
    · exact hsome
  · rw [htarget] at hsome
    cases hsome

/-- A session that stays pending, or ends before it became active, has no account. -/
theorem books_cleanupPendingIfTerminal (hs : m₁.findPendingSession e = some s)
    (hfind : ∀ c, m₁.findActiveSession c = m.findActiveSession c)
    (hretired : m₁.retiredConnIds = m.retiredConnIds)
    (hbinding : m₁.activeConnId e = m.activeConnId e) (hinactive : m.activeConnId e = none) :
    Books transport (.onDatagramReceived random e bytes nowMs) m
      (cleanupPendingIfTerminal e m₁) := by
  refine books_untargeted (activeTarget_of_inactive hinactive) (fun c => ?_) ?_ ?_ <;>
    simp only [cleanupPendingIfTerminal, hs] <;> split_ifs
  · exact hfind c
  · rw [findActiveSession_cleanupPendingSession]
    exact hfind c
  · exact hretired.symm.subset
  · exact hretired.symm.subset.trans (subset_retiredConnIds_cleanupPendingSession e)
  · exact hbinding
  · rw [activeConnId_cleanupPendingSession]
    exact hbinding

/-- A datagram for a pending session, which may become active. The session is in the table `m₁`,
where it may have been put just now. -/
theorem books_tryDispatchPending (h₁ : Consistent m₁ assigned)
    (hs : m₁.findPendingSession e = some s)
    (hfind : ∀ c, m₁.findActiveSession c = m.findActiveSession c)
    (hretired : m₁.retiredConnIds = m.retiredConnIds)
    (hbinding : m₁.activeConnId e = m.activeConnId e) :
    Books transport (.onDatagramReceived random e bytes nowMs) m
      (tryDispatchPending transport e bytes nowMs m₁).2 := by
  obtain ⟨hrole, hconnId, -⟩ := onDatagramReceived_effect transport bytes nowMs s
  replace hconnId := hconnId (h₁.pending_session e s hs).2
  have hinactive : m.activeConnId e = none := hbinding.symm.trans (h₁.pending_session e s hs).1
  simp only [tryDispatchPending, hs]
  generalize Session.onDatagramReceived transport bytes nowMs s = s' at hrole hconnId ⊢
  have h₂ := h₁.setPending hs hconnId hrole
  have hs₂ : (m₁.setPending e s').findPendingSession e = some s' := by simp
  split_ifs
  · exact books_promotePendingSession h₂ hs₂ hfind hretired hinactive
  · exact books_cleanupPendingIfTerminal hs₂ hfind hretired hbinding hinactive

end Pending

/-- No session of an endpoint with an active session is promoted. -/
theorem carriedBy_of_active {c : U32} (hc : m.activeConnId e = some c) :
    carriedBy m m' (.onDatagramReceived random e bytes nowMs) = [] := by
  rw [carriedBy, if_neg]
  rw [hc]
  exact Option.some_ne_none c

theorem keepsActive_iff {packet : PacketView} (hdecode : decode bytes = some packet)
    (htarget : activeTarget m e bytes = some packet.header.connId) :
    KeepsActive transport m (.onDatagramReceived random e bytes nowMs) ↔
      classifyControlKind packet.header ≠ .rst := by
  simp only [KeepsActive, hdecode, htarget, Option.some.injEq, Option.isSome_some, forall_true_left]
  exact ⟨fun hk => hk packet rfl, fun hk decoded hdecoded => hdecoded ▸ hk⟩

/-- A datagram for an active session: a RST closes its account, anything else is booked on it. -/
theorem books_tryDispatchActive (h : Sound m assigned) (hunclosed : Everywhere Unclosed m)
    {packet : PacketView} {s : SessionState} (hdecode : decode bytes = some packet)
    (hne : packet.header.connId ≠ 0) (hc : m.activeConnId e = some packet.header.connId)
    (hs : m.findActiveSession packet.header.connId = some s) :
    Books transport (.onDatagramReceived random e bytes nowMs) m
      (tryDispatchActive transport e bytes packet.header.connId nowMs m).2 := by
  have htarget : activeTarget m e bytes = some packet.header.connId := by
    rw [activeTarget_of_decode hdecode, if_pos ⟨hne, hc⟩]
  have hown := (h.consistent.active_session _ s hs).1
  obtain ⟨hterminal, events, hevents, hleft⟩ :=
    @Unclosed.receive_active transport nowMs s (hunclosed.active _ s hs) (h.live.active _ s hs)
      bytes packet hdecode hown.symm
  have happended : appendedBy transport m (.onDatagramReceived random e bytes nowMs) =
      events.map (packet.header.connId, ·) := by
    rw [appendedBy, htarget, Option.elim_some, hs, Option.elim_some, reportedBy_eq hevents]
  simp only [tryDispatchActive, hs]
  generalize Session.onDatagramReceived transport bytes nowMs s = s' at hterminal hevents ⊢
  have hs' : (m.setActive packet.header.connId s').findActiveSession packet.header.connId =
    some s' := by simp
  have hstate : isTerminalState s'.connectionState = true ↔
      classifyControlKind packet.header = .rst := by
    rw [← hterminal, isTerminalState, Bool.or_eq_true, decide_eq_true_eq, decide_eq_true_eq]
  simp only [cleanupActiveIfTerminal, hs']
  by_cases hrst : classifyControlKind packet.header = .rst
  · rw [hstate.2 hrst]
    simp only [Bool.not_true, Bool.false_eq_true, if_false]
    have hretired : (cleanupActiveSession e packet.header.connId
        (m.setActive packet.header.connId s')).retiredConnIds =
          insert packet.header.connId m.retiredConnIds := if_pos hne
    refine ⟨fun c => ?_, ?_, ?_⟩
    · rw [carriedBy_of_active hc, happended, eventsOf_map, hretired, findActiveSession_cleanupActiveSession]
      simp only [returnedBy, eventsOf_nil]
      by_cases heq : c = packet.header.connId
      · subst heq
        rw [if_pos rfl, if_pos rfl, hs]
        exact .closed (Finset.mem_insert_self _ _) (hleft hrst)
      · rw [if_neg heq, if_neg (Ne.symm heq), findActiveSession_setActive, if_neg heq]
        exact .same _ _ _ _
    · rw [hretired]
      exact Finset.subset_insert _ _
    · rw [keepsActive_iff hdecode htarget]
      refine ⟨fun hk => absurd hrst hk, fun hk => ?_⟩
      have hsome := hk packet.header.connId (by rw [hs]; rfl)
      rw [findActiveSession_cleanupActiveSession, if_pos rfl] at hsome
      cases hsome
  · rw [Bool.eq_false_iff.2 fun htrue => hrst (hstate.1 htrue)]
    simp only [Bool.not_false, if_true]
    refine ⟨fun c => ?_, Finset.Subset.refl _, ?_⟩
    · rw [carriedBy_of_active hc, happended, eventsOf_map, findActiveSession_setActive]
      simp only [returnedBy, eventsOf_nil]
      by_cases heq : c = packet.header.connId
      · subst heq
        rw [if_pos rfl, if_pos rfl, hs]
        exact .booked hevents.symm
      · rw [if_neg heq, if_neg (Ne.symm heq)]
        exact .same _ _ _ _
    · rw [keepsActive_iff hdecode htarget]
      refine ⟨fun _ c hsome => ?_, fun _ => hrst⟩
      rw [findActiveSession_setActive]
      split_ifs
      · rfl
      · exact hsome

theorem books_onDatagramReceived (h : Sound m assigned) (hunclosed : Everywhere Unclosed m)
    (hreceived : onDatagramReceived transport random e bytes nowMs m = some m') :
    Books transport (.onDatagramReceived random e bytes nowMs) m m' := by
  have hroute := onDatagramReceived_route hreceived
  generalize assignedBy random e bytes m = new at hroute
  cases hroute with
  | dropped hnone =>
    refine books_untargeted ?_ (fun _ => rfl) (Finset.Subset.refl _) rfl
    refine Option.eq_none_iff_forall_ne_some.2 fun c hc => ?_
    have habsent := hnone c hc
    rw [activeTarget] at hc
    obtain ⟨packet, -, hc⟩ := Option.bind_eq_some_iff.1 hc
    split_ifs at hc with hbound
    obtain ⟨s, hs⟩ := (h.consistent.active_iff _).2 ⟨e, hbound.2⟩
    rw [← Option.some.inj hc, hs] at habsent
    cases habsent
  | active hdecode hne hc hs => exact books_tryDispatchActive h hunclosed hdecode hne hc hs
  | pending _ _ hs =>
    exact books_tryDispatchPending h.consistent hs (fun _ => rfl) rfl rfl
  | @created packet c _ _ hnew hinactive hfresh =>
    have h₁ : Consistent (m.setPending e (newSession random c)) (assigned ++ [c]) :=
      h.consistent.createSession hnew hinactive hfresh rfl
    exact books_tryDispatchPending h₁ (s := newSession random c) (by simp) (fun _ => rfl) rfl rfl

end Datagram

/-- **One operation.** -/
theorem books_of_step {op : ManagerOp} {r r' : ServerRun} (h : Sound r.manager r.assigned)
    (hunclosed : Everywhere Unclosed r.manager) (horderly : op.Orderly r.manager)
    (hstep : r.step transport op = some r') : Books transport op r.manager r'.manager := by
  cases op with
  | onDatagramReceived random endpoint bytes nowMs =>
    obtain ⟨m', hm', rfl⟩ := Option.map_eq_some_iff.1 hstep
    exact books_onDatagramReceived h hunclosed hm'
  | pollTx pendingOrder activeOrder nowMs =>
    obtain rfl := Option.some.inj hstep
    exact books_pollTx h hunclosed nowMs horderly.2.visits
  | queueSend connId channelId channelType payload =>
    obtain rfl := Option.some.inj hstep
    exact books_queueSend connId channelId channelType payload
  | drainEvents pendingOrder activeOrder =>
    obtain rfl := Option.some.inj hstep
    exact books_drainEvents h horderly.1.1 horderly.2.visits
  | drainActiveEvents connId =>
    obtain rfl := Option.some.inj hstep
    exact books_drainActiveEvents connId

end Operations

/-! ## Every run -/

/-- What holds along every run. -/
structure EventInv (r : EventRun) : Prop where
  sound : Sound r.server.manager r.server.assigned
  unclosed : Everywhere Unclosed r.server.manager
  balanced : Balanced r

theorem eventInv_empty : EventInv {} := by
  refine ⟨sound_empty, everywhere_empty, fun connId => ?_⟩
  exact Or.inl ⟨rfl, rfl, rfl⟩

theorem EventInv.step {transport : TransportSettings} {r r' : EventRun} {op : ManagerOp}
    (h : EventInv r) (hstep : r.step transport op = some r') :
    EventInv r' ∧ (NoneClosed r' ↔ NoneClosed r ∧ KeepsActive transport r.server.manager op) := by
  rw [EventRun.step] at hstep
  split_ifs at hstep with horderly
  obtain ⟨server, hserver, rfl⟩ := Option.map_eq_some_iff.1 hstep
  have hbooks := books_of_step h.sound h.unclosed horderly hserver
  exact ⟨⟨ServerRun.step_sound h.sound hserver, (unclosed_rule transport).step h.unclosed hserver,
    h.balanced.book hbooks⟩, h.balanced.noneClosed_book_iff hbooks⟩

theorem EventInv.run {transport : TransportSettings} {r r' : EventRun} {ops : List ManagerOp}
    (h : EventInv r) (hrun : Run.runM (EventRun.step transport) r ops = some r') :
    EventInv r' ∧ (NoneClosed r' ↔ NoneClosed r ∧ Run.AlongM (EventRun.step transport)
      (fun r op => KeepsActive transport r.server.manager op) r ops) := by
  induction ops generalizing r with
  | nil =>
    obtain rfl : r = r' := by simpa using hrun
    exact ⟨h, by simp [Run.AlongM]⟩
  | cons op ops ih =>
    obtain ⟨t, ht, hrest⟩ := Option.bind_eq_some_iff.1 hrun
    obtain ⟨hinv, hstep⟩ := h.step ht
    obtain ⟨hinv', hiff⟩ := ih hinv hrest
    refine ⟨hinv', ?_⟩
    rw [hiff, hstep, and_assoc, Run.AlongM]
    refine and_congr_right fun _ => and_congr_right fun _ =>
      ⟨fun halong t' ht' => ?_, fun halong => halong t ht⟩
    rw [ht] at ht'
    exact Option.some.inj ht' ▸ halong

/-- When no active session holds anything, all events were returned if no account was closed. -/
theorem Balanced.allReturned_iff {r : EventRun} (h : Balanced r)
    (hdrained : ∀ c s, r.server.manager.findActiveSession c = some s → s.rx.pendingEvents = []) :
    AllReturned r ↔ NoneClosed r := by
  refine ⟨fun hall c hs => ?_, fun hnone c => ?_⟩
  · have hstate := h c
    rw [hs] at hstate
    rcases hstate with hunused | ⟨-, left, hleft, hrest⟩
    · exact hunused
    · rw [← hall c] at hrest
      exact absurd (List.self_eq_append_right.1 hrest) hleft
  · cases hs : r.server.manager.findActiveSession c with
    | none =>
      obtain ⟨hcarried, happended, hreturned⟩ := hnone c hs
      rw [hcarried, happended, hreturned]
      rfl
    | some s =>
      have hstate := h c
      rw [hs, AccountState, hdrained c s hs, List.append_nil] at hstate
      exact hstate.symm

/-- **Exactly the runs in which no event is lost.** In every run of the manager that ends with
`drain_events`, every event of an active session was returned exactly once if and only if no active
session received a RST, and no poll gave one up. -/
theorem events_returned_iff (transport : TransportSettings) {ops : List ManagerOp}
    {pendingOrder activeOrder : List EndpointKey} {r : EventRun}
    (hrun : Run.runM (EventRun.step transport) {}
      (ops ++ [.drainEvents pendingOrder activeOrder]) = some r) :
    AllReturned r ↔ Run.AlongM (EventRun.step transport)
      (fun r op => KeepsActive transport r.server.manager op) {} ops := by
  obtain ⟨t, ht, hlast⟩ := Run.runM_append hrun
  obtain ⟨hinv, hiff⟩ := eventInv_empty.run ht
  obtain ⟨r', hdrain, hr⟩ := Option.bind_eq_some_iff.1 hlast
  obtain rfl : r' = r := by simpa using hr
  obtain ⟨hinv', hiff'⟩ := hinv.step hdrain
  have hdrained : ∀ c s, r'.server.manager.findActiveSession c = some s →
      s.rx.pendingEvents = [] := by
    intro c s hs
    rw [EventRun.step] at hdrain
    split_ifs at hdrain with horderly
    obtain ⟨server, hserver, rfl⟩ := Option.map_eq_some_iff.1 hdrain
    obtain rfl := Option.some.inj hserver
    rw [EventRun.book, (hinv.sound.drainEvents_active horderly.2.visits c).1,
      Option.map_eq_some_iff] at hs
    obtain ⟨s₀, -, rfl⟩ := hs
    rfl
  have hstart : NoneClosed {} := fun _ _ => ⟨rfl, rfl, rfl⟩
  rw [hinv'.balanced.allReturned_iff hdrained, hiff', hiff]
  simp only [hstart, true_and, KeepsActive, and_true]

/-- A client completes its handshake, under identifier 7, and sends a message. -/
def oneMessage : List ManagerOp :=
  [.onDatagramReceived ⟨100, [(0, 7)]⟩ clientEndpoint
      (controlDatagram 0 Flag.syn.toFlags 500 0 0) 0,
    .pollTx [clientEndpoint] [] 0,
    .onDatagramReceived ⟨0, []⟩ clientEndpoint (controlDatagram 7 Flag.ack.toFlags 0 101 0) 0,
    .onDatagramReceived ⟨0, []⟩ clientEndpoint
      (encode { connId := 7, channelType := .unreliable, ack := 101 } [0x01]) 0]

/-- The application gets both events. -/
theorem events_returned_oneMessage :
    ∃ r, Run.runM (EventRun.step {}) {} (oneMessage ++ [.drainEvents [] [clientEndpoint]]) =
        some r ∧
      r.returned.map (fun entry => (entry.1, entry.2.kind)) =
        [(7, .connected), (7, .dataReceived)] ∧
      (AllReturned r ↔ Run.AlongM (EventRun.step {})
        (fun r op => KeepsActive {} r.server.manager op) {} oneMessage) := by
  have hreturns : ((Run.runM (EventRun.step {}) {}
      (oneMessage ++ [.drainEvents [] [clientEndpoint]])).map fun r =>
        r.returned.map fun entry => (entry.1, entry.2.kind)) =
      some [(7, .connected), (7, .dataReceived)] := by
    decide +kernel
  obtain ⟨r, hr, hvalue⟩ := Option.map_eq_some_iff.1 hreturns
  exact ⟨r, hr, hvalue, events_returned_iff {} hr⟩

/-- A RST follows the message: the session is removed with both events, and nothing is returned. -/
theorem reset_discards_events :
    ∃ r, Run.runM (EventRun.step {}) {} (oneMessage ++
        [.onDatagramReceived ⟨0, []⟩ clientEndpoint
            (controlDatagram 7 Flag.rst.toFlags 0 101 0) 0,
          .drainEvents [] []]) = some r ∧
      r.appended.map (fun entry => (entry.1, entry.2.kind)) =
        [(7, .dataReceived), (7, .connectionReset)] ∧
      r.returned = [] ∧ ¬ AllReturned r := by
  have hreturns : ((Run.runM (EventRun.step {}) {} (oneMessage ++
      [.onDatagramReceived ⟨0, []⟩ clientEndpoint (controlDatagram 7 Flag.rst.toFlags 0 101 0) 0,
        .drainEvents [] []])).map fun r =>
        (r.appended.map (fun entry => (entry.1, entry.2.kind)), decide (r.returned = []),
          (eventsOf 7 r.appended).length)) =
      some ([(7, .dataReceived), (7, .connectionReset)], true, 2) := by
    decide +kernel
  obtain ⟨r, hr, hvalue⟩ := Option.map_eq_some_iff.1 hreturns
  simp only [Prod.mk.injEq, decide_eq_true_eq] at hvalue
  obtain ⟨happended, hreturned, hlength⟩ := hvalue
  refine ⟨r, hr, happended, hreturned, fun hall => ?_⟩
  have hseven := hall 7
  rw [hreturned, eventsOf_nil] at hseven
  rw [(List.append_eq_nil_iff.1 hseven.symm).2] at hlength
  cases hlength

end Rudp
