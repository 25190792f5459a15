import Rudp.ManagerSessions
import Rudp.SessionWire
import Rudp.Lib.Sweep

/-!
# Polling all sessions

`poll_tx` of the manager visits the pending sessions and then the active ones, in whatever order the
hash maps yield them, and cleans up what has ended. Each visit concerns one session, so the order of
the visits decides only the order of the datagrams: what is sent, to whom, and what is left in the
tables is the same for every order.
-/

namespace Rudp

namespace ServerSessionManager

/-- The active session an endpoint is bound to. -/
def activeSession (m : ServerSessionManager) (endpoint : EndpointKey) : Option SessionState :=
  (m.activeConnId endpoint).bind m.findActiveSession

/-! ## One visit -/

section Visit

variable (transport : TransportSettings) (nowMs : U64)

/-- What a visit sends. -/
def sentTo (endpoint : EndpointKey) (s : SessionState) : List OutboundDatagram :=
  ((Session.pollTx transport nowMs s).1.map fun bytes => { endpoint, bytes }).toList

/-- The visit finds that the session has ended. -/
def endsAt (s : SessionState) : Bool :=
  (Session.pollTx transport nowMs s).1.isNone &&
    isTerminalState (Session.pollTx transport nowMs s).2.connectionState

variable {transport nowMs} {κ : Type} (collected : Collected κ) (m : ServerSessionManager)

theorem Collected.record_outbound (endpoint : EndpointKey) (key : κ) (s : SessionState) :
    (collected.record endpoint key (Session.pollTx transport nowMs s).1
      (Session.pollTx transport nowMs s).2.connectionState m).outbound =
        collected.outbound ++ sentTo transport nowMs endpoint s := by
  rw [sentTo]
  cases (Session.pollTx transport nowMs s).1 with
  | some bytes => rfl
  | none =>
    simp only [Collected.record]
    split_ifs <;> simp

theorem Collected.record_toCleanup (endpoint : EndpointKey) (key : κ) (s : SessionState) :
    (collected.record endpoint key (Session.pollTx transport nowMs s).1
      (Session.pollTx transport nowMs s).2.connectionState m).toCleanup =
        collected.toCleanup ++ if endsAt transport nowMs s then [key] else [] := by
  rw [endsAt]
  cases (Session.pollTx transport nowMs s).1 with
  | some bytes => simp [Collected.record]
  | none =>
    simp only [Collected.record, Option.isNone_none, Bool.true_and]
    split_ifs <;> simp

end Visit

/-! ## The two loops -/

section Loops

variable {transport : TransportSettings} {nowMs : U64} {m : ServerSessionManager}
  {order order' : List EndpointKey}

/-- What a visit does to the pending sessions: it writes that of its own endpoint. -/
structure WritesPending {S : Type} (manager : S → ServerSessionManager)
    (update : SessionState → SessionState) (step : S → EndpointKey → S) : Prop where
  eq : ∀ s e, manager (step s e) = ((manager s).findPendingSession e).elim (manager s)
    fun session => (manager s).setPending e (update session)

section WritesPending

variable {S : Type} {manager : S → ServerSessionManager} {update : SessionState → SessionState}
  {step : S → EndpointKey → S}

theorem WritesPending.local (hstep : WritesPending manager update step) :
    Sweep.Local (fun _ => True) (fun s => (manager s).findPendingSession) (fun _ => update)
      step := by
  refine ⟨fun _ => trivial, fun {s e} _ => ?_, fun {s e e'} _ hne => ?_⟩
  · rw [hstep.eq]
    cases hs : (manager s).findPendingSession e with
    | none => exact hs
    | some session => simp
  · rw [hstep.eq]
    cases (manager s).findPendingSession e with
    | none => rfl
    | some session => simp [hne]

/-- A loop over the pending sessions writes their table, and no other. -/
theorem WritesPending.frame (hstep : WritesPending manager update step) (init : S)
    (order : List EndpointKey) :
    manager (order.foldl step init) =
      { manager init with
        pendingByEndpoint := (manager (order.foldl step init)).pendingByEndpoint } := by
  refine Run.invariant (fun s => manager s =
    { manager init with pendingByEndpoint := (manager s).pendingByEndpoint })
    (fun s e hs => ?_) rfl order
  simp only [hstep.eq]
  cases (manager s).findPendingSession e with
  | none => exact hs
  | some session =>
    rw [Option.elim_some, setPending, hs]

end WritesPending

theorem collectPendingOne_writes :
    WritesPending Collected.manager (fun s => (Session.pollTx transport nowMs s).2)
      (collectPendingOne transport nowMs) where
  eq := fun collected e => by
    rw [collectPendingOne]
    cases collected.manager.findPendingSession e with
    | none => rfl
    | some session => exact (collected.record_spec e e _ _).1

theorem collectPendingOne_local :
    Sweep.Local (fun _ => True) (fun collected => collected.manager.findPendingSession)
      (fun _ s => (Session.pollTx transport nowMs s).2) (collectPendingOne transport nowMs) :=
  collectPendingOne_writes.local

/-- The bindings of active endpoints, and no two are the same. -/
def OneToOne (m : ServerSessionManager) : Prop :=
  ∀ e e' c, m.activeConnId e = some c → m.activeConnId e' = some c → e = e'

theorem Consistent.oneToOne {assigned : List U32} (h : Consistent m assigned) : OneToOne m :=
  fun _ _ _ hc hc' => h.valid.unique (h.holds_of_active hc) (h.holds_of_active hc')

/-- What a visit does to the active sessions: it writes that of its own endpoint. -/
structure WritesActive {S : Type} (manager : S → ServerSessionManager)
    (update : SessionState → SessionState) (step : S → EndpointKey → S) : Prop where
  cases : ∀ s e, manager (step s e) = manager s ∧ (manager s).activeSession e = none ∨
    ∃ c session, (manager s).activeConnId e = some c ∧
      (manager s).findActiveSession c = some session ∧
      manager (step s e) = (manager s).setActive c (update session)

theorem WritesActive.local {S : Type} {manager : S → ServerSessionManager}
    {update : SessionState → SessionState} {step : S → EndpointKey → S}
    (hstep : WritesActive manager update step) (hm : OneToOne m) :
    Sweep.Local (fun s => (manager s).activeConnIdByEndpoint = m.activeConnIdByEndpoint)
      (fun s => (manager s).activeSession) (fun _ => update) step := by
  refine ⟨fun {s e} h => ?_, fun {s e} _ => ?_, fun {s e e'} h hne => ?_⟩
  all_goals rcases hstep.cases s e with ⟨hsame, hnone⟩ | ⟨c, session, hc, hs, hset⟩
  · rw [hsame, h]
  · rw [hset]
    exact h
  · rw [hsame, hnone]
    rfl
  · simp only [hset, activeSession, activeConnId_setActive, hc, Option.bind_some,
      findActiveSession_setActive, if_true, hs, Option.map_some]
  · rw [hsame]
  · simp only [hset, activeSession, activeConnId_setActive]
    cases hc' : (manager s).activeConnId e' with
    | none => rfl
    | some c' =>
      have hbinding : ∀ e'', m.activeConnId e'' = (manager s).activeConnId e'' :=
        fun e'' => congrArg (Finmap.lookup e'') h.symm
      have hcc : c' ≠ c := by
        rintro rfl
        exact hne (hm e' e c' ((hbinding e').trans hc') ((hbinding e).trans hc))
      simp [hcc]

theorem WritesActive.frame {S : Type} {manager : S → ServerSessionManager}
    {update : SessionState → SessionState} {step : S → EndpointKey → S}
    (hstep : WritesActive manager update step) (init : S) (order : List EndpointKey) :
    manager (order.foldl step init) =
      { manager init with
        activeByConnId := (manager (order.foldl step init)).activeByConnId } := by
  refine Run.invariant (fun s => manager s =
    { manager init with activeByConnId := (manager s).activeByConnId }) (fun s e hs => ?_) rfl order
  rcases hstep.cases s e with ⟨hsame, -⟩ | ⟨c, session, -, -, hset⟩
  · rw [hsame]
    exact hs
  · rw [hset, setActive, hs]

theorem collectActiveOne_writes :
    WritesActive Collected.manager (fun s => (Session.pollTx transport nowMs s).2)
      (collectActiveOne transport nowMs) where
  cases := fun collected e => by
    rw [collectActiveOne]
    cases hc : collected.manager.activeConnId e with
    | none => exact Or.inl ⟨rfl, by simp [activeSession, hc]⟩
    | some c =>
      simp only
      cases hs : collected.manager.findActiveSession c with
      | none => exact Or.inl ⟨rfl, by simp [activeSession, hc, hs]⟩
      | some s => exact Or.inr ⟨c, s, rfl, hs, (collected.record_spec e (e, c) _ _).1⟩

theorem collectActiveOne_local (hm : OneToOne m) :
    Sweep.Local
      (fun collected => collected.manager.activeConnIdByEndpoint = m.activeConnIdByEndpoint)
      (fun collected => collected.manager.activeSession)
      (fun _ s => (Session.pollTx transport nowMs s).2) (collectActiveOne transport nowMs) :=
  collectActiveOne_writes.local hm

/-- What the loop over the pending sessions sends and collects. -/
theorem collectPendingTx_spec (horder : order.Nodup) :
    (collectPendingTx transport nowMs order m).outbound = order.flatMap (fun e =>
        (m.findPendingSession e).elim [] (sentTo transport nowMs e)) ∧
      (collectPendingTx transport nowMs order m).toCleanup = order.flatMap (fun e =>
        (m.findPendingSession e).elim [] fun s => if endsAt transport nowMs s then [e] else []) := by
  have hlocal := @collectPendingOne_local transport nowMs
  constructor
  · refine (hlocal.out_foldl (s := { manager := m }) trivial horder Collected.outbound _
      fun {collected e} _ => ?_).trans (List.nil_append _)
    rw [collectPendingOne]
    cases collected.manager.findPendingSession e with
    | none => exact (List.append_nil _).symm
    | some s => exact collected.record_outbound _ e e s
  · refine (hlocal.out_foldl (s := { manager := m }) trivial horder Collected.toCleanup
      (fun e s => if endsAt transport nowMs s then [e] else [])
      fun {collected e} _ => ?_).trans (List.nil_append _)
    rw [collectPendingOne]
    cases collected.manager.findPendingSession e with
    | none => exact (List.append_nil _).symm
    | some s => exact collected.record_toCleanup _ e e s

theorem collectPendingTx_frame (order : List EndpointKey) :
    (collectPendingTx transport nowMs order m).manager =
      { m with
        pendingByEndpoint :=
          (collectPendingTx transport nowMs order m).manager.pendingByEndpoint } :=
  collectPendingOne_writes.frame { manager := m } order

theorem collectActiveTx_frame (order : List EndpointKey) :
    (collectActiveTx transport nowMs order m).manager =
      { m with
        activeByConnId := (collectActiveTx transport nowMs order m).manager.activeByConnId } :=
  collectActiveOne_writes.frame { manager := m } order

/-- What the loop over the active sessions sends and collects. -/
theorem collectActiveTx_spec (hm : OneToOne m) (horder : order.Nodup) :
    (collectActiveTx transport nowMs order m).outbound = order.flatMap (fun e =>
        (m.activeSession e).elim [] (sentTo transport nowMs e)) ∧
      (collectActiveTx transport nowMs order m).toCleanup = order.flatMap (fun e =>
        (m.activeSession e).elim [] fun s => if endsAt transport nowMs s then
          ((m.activeConnId e).map (e, ·)).toList else []) := by
  have hlocal := @collectActiveOne_local transport nowMs m hm
  constructor
  · refine (hlocal.out_foldl (s := { manager := m }) rfl horder Collected.outbound _
      fun {collected e} _ => ?_).trans (List.nil_append _)
    rw [collectActiveOne]
    cases hc : collected.manager.activeConnId e with
    | none => simp [activeSession, hc]
    | some c =>
      simp only [activeSession, hc, Option.bind_some]
      cases collected.manager.findActiveSession c with
      | none => exact (List.append_nil _).symm
      | some s => exact collected.record_outbound _ e (e, c) s
  · refine (hlocal.out_foldl (s := { manager := m }) rfl horder Collected.toCleanup
      (fun e s => if endsAt transport nowMs s then
        ((m.activeConnId e).map (e, ·)).toList else [])
      fun {collected e} hcollected => ?_).trans (List.nil_append _)
    have hbinding : m.activeConnId e = collected.manager.activeConnId e :=
      congrArg (Finmap.lookup e) hcollected.symm
    rw [collectActiveOne, hbinding]
    cases hc : collected.manager.activeConnId e with
    | none => simp [activeSession, hc]
    | some c =>
      simp only [activeSession, hc, Option.bind_some]
      cases collected.manager.findActiveSession c with
      | none => exact (List.append_nil _).symm
      | some s => exact collected.record_toCleanup _ e (e, c) s

end Loops

/-! ## Cleanup -/

section Cleanup

variable {m : ServerSessionManager}

/-- Sessions may be cleaned up in any order. -/
theorem cleanupPendingSession_comm (m : ServerSessionManager) (e e' : EndpointKey) :
    cleanupPendingSession e' (cleanupPendingSession e m) =
      cleanupPendingSession e (cleanupPendingSession e' m) := by
  by_cases heq : e' = e
  · rw [heq]
  have hfirst := @findPendingSession_cleanupPendingSession m e e'
  have hsecond := @findPendingSession_cleanupPendingSession m e' e
  rw [if_neg heq] at hfirst
  rw [if_neg (Ne.symm heq)] at hsecond
  cases hs : m.findPendingSession e <;> cases hs' : m.findPendingSession e' <;>
    rw [hs'] at hfirst <;> rw [hs] at hsecond <;>
    simp only [cleanupPendingSession, hs, hs'] at hfirst hsecond ⊢ <;>
    simp only [hfirst, hsecond]
  rw [Finmap.erase_erase]
  congr 1
  split_ifs <;> first | rfl | exact Finset.insert_comm _ _ _

/-- Retiring identifiers in another order. -/
theorem retire_comm (retired : Finset U32) (c c' : U32) :
    (if c' ≠ 0 then insert c' (if c ≠ 0 then insert c retired else retired)
      else if c ≠ 0 then insert c retired else retired) =
      if c ≠ 0 then insert c (if c' ≠ 0 then insert c' retired else retired)
      else if c' ≠ 0 then insert c' retired else retired := by
  split_ifs
  · exact Finset.insert_comm _ _ _
  all_goals rfl

theorem activeConnId_cleanupActiveSession_ite (e f : EndpointKey) (c : U32) :
    (cleanupActiveSession e c m).activeConnId f =
      if f = e ∧ m.activeConnId e = some c then none else m.activeConnId f := by
  by_cases hc : m.activeConnId e = some c
  · rw [activeConnId_cleanupActiveSession hc]
    simp [hc]
  · rw [if_neg fun hand => hc hand.2]
    simp only [cleanupActiveSession, if_neg hc]
    rfl

theorem cleanupActiveSession_comm (m : ServerSessionManager) (k k' : EndpointKey × U32) :
    cleanupActiveSession k'.1 k'.2 (cleanupActiveSession k.1 k.2 m) =
      cleanupActiveSession k.1 k.2 (cleanupActiveSession k'.1 k'.2 m) := by
  have hbinding : ∀ f,
      (cleanupActiveSession k'.1 k'.2 (cleanupActiveSession k.1 k.2 m)).activeConnId f =
        (cleanupActiveSession k.1 k.2 (cleanupActiveSession k'.1 k'.2 m)).activeConnId f := by
    intro f
    simp only [activeConnId_cleanupActiveSession_ite]
    grind
  have htable := Finmap.ext_lookup hbinding
  simp only [cleanupActiveSession] at htable ⊢
  rw [htable, retire_comm, Finmap.erase_erase]

theorem findPendingSession_cleanupPending_foldl (due : List EndpointKey)
    (m : ServerSessionManager) (e : EndpointKey) :
    (due.foldl (fun m e => cleanupPendingSession e m) m).findPendingSession e =
      if e ∈ due then none else m.findPendingSession e := by
  induction due generalizing m with
  | nil => simp
  | cons f due ih =>
    rw [List.foldl_cons, ih, findPendingSession_cleanupPendingSession]
    simp only [List.mem_cons]
    split_ifs <;> tauto

theorem findPendingSession_cleanupActive_foldl (due : List (EndpointKey × U32))
    (m : ServerSessionManager) (e : EndpointKey) :
    (due.foldl (fun m k => cleanupActiveSession k.1 k.2 m) m).findPendingSession e =
      m.findPendingSession e := by
  induction due generalizing m with
  | nil => rfl
  | cons k due ih =>
    rw [List.foldl_cons, ih]
    rfl

theorem findActiveSession_cleanupPending_foldl (due : List EndpointKey)
    (m : ServerSessionManager) (c : U32) :
    (due.foldl (fun m e => cleanupPendingSession e m) m).findActiveSession c =
      m.findActiveSession c := by
  induction due generalizing m with
  | nil => rfl
  | cons e due ih => rw [List.foldl_cons, ih, findActiveSession_cleanupPendingSession]

theorem retired_cleanupPending_foldl (due : List EndpointKey) (m : ServerSessionManager) :
    m.retiredConnIds ⊆ (due.foldl (fun m e => cleanupPendingSession e m) m).retiredConnIds := by
  induction due generalizing m with
  | nil => exact Finset.Subset.refl _
  | cons e due ih =>
    exact (subset_retiredConnIds_cleanupPendingSession e).trans (ih _)

theorem findActiveSession_cleanupActive_foldl (due : List (EndpointKey × U32))
    (m : ServerSessionManager) (c : U32) :
    (due.foldl (fun m k => cleanupActiveSession k.1 k.2 m) m).findActiveSession c =
      if c ∈ due.map Prod.snd then none else m.findActiveSession c := by
  induction due generalizing m with
  | nil => rfl
  | cons k due ih =>
    rw [List.foldl_cons, ih, findActiveSession_cleanupActiveSession, List.map_cons]
    simp only [List.mem_cons]
    split_ifs <;> tauto

theorem retired_cleanupActive_foldl (due : List (EndpointKey × U32)) (m : ServerSessionManager) :
    m.retiredConnIds ⊆ (due.foldl (fun m k => cleanupActiveSession k.1 k.2 m) m).retiredConnIds ∧
      ∀ c ∈ due.map Prod.snd, c ≠ 0 →
        c ∈ (due.foldl (fun m k => cleanupActiveSession k.1 k.2 m) m).retiredConnIds := by
  induction due generalizing m with
  | nil => exact ⟨Finset.Subset.refl _, fun _ hmem => nomatch hmem⟩
  | cons k due ih =>
    obtain ⟨hsubset, hdue⟩ := ih (cleanupActiveSession k.1 k.2 m)
    refine ⟨fun c hc => hsubset ?_, fun c hmem hne => ?_⟩
    · simp only [cleanupActiveSession]
      split_ifs
      · exact Finset.mem_insert_of_mem hc
      · exact hc
    · rcases List.mem_cons.1 hmem with rfl | htail
      · refine hsubset ?_
        simp only [cleanupActiveSession, if_pos hne]
        exact Finset.mem_insert_self _ _
      · exact hdue c htail hne

instance : RightCommutative fun (m : ServerSessionManager) e => cleanupPendingSession e m :=
  ⟨cleanupPendingSession_comm⟩

instance : RightCommutative fun (m : ServerSessionManager) (k : EndpointKey × U32) =>
    cleanupActiveSession k.1 k.2 m := ⟨cleanupActiveSession_comm⟩

end Cleanup

/-! ## One poll -/

section Poll

variable {transport : TransportSettings} {nowMs : U64} {m : ServerSessionManager}
  {assigned : List U32} {duePending order order' : List EndpointKey}

theorem collectPendingTx_order (h : Sweep.Visits order m.findPendingSession)
    (h' : Sweep.Visits order' m.findPendingSession) :
    (collectPendingTx transport nowMs order m).manager =
      (collectPendingTx transport nowMs order' m).manager := by
  have htable : (collectPendingTx transport nowMs order m).manager.pendingByEndpoint =
      (collectPendingTx transport nowMs order' m).manager.pendingByEndpoint := by
    have hlocal := @collectPendingOne_local transport nowMs
    refine Finmap.ext_lookup fun e => ?_
    exact (hlocal.get_visits (s := { manager := m }) trivial h e).trans
      (hlocal.get_visits (s := { manager := m }) trivial h' e).symm
  rw [collectPendingTx_frame order, htable, ← collectPendingTx_frame order']

theorem Consistent.isSome_activeSession (h : Consistent m assigned) (e : EndpointKey) :
    (m.activeSession e).isSome = (m.activeConnId e).isSome := by
  rw [activeSession]
  cases hc : m.activeConnId e with
  | none => rfl
  | some c =>
    obtain ⟨s, hs⟩ := (h.active_iff c).2 ⟨e, hc⟩
    simp [hs]

/-- A loop over the active endpoints rewrites every active session. -/
theorem Consistent.findActiveSession_foldl {S : Type} {manager : S → ServerSessionManager}
    {update : SessionState → SessionState} {step : S → EndpointKey → S} {init : S}
    (h : Consistent (manager init) assigned)
    (hlocal : Sweep.Local
      (fun s => (manager s).activeConnIdByEndpoint = (manager init).activeConnIdByEndpoint)
      (fun s => (manager s).activeSession) (fun _ => update) step)
    (horder : Sweep.Visits order (manager init).activeConnId)
    (hafter : Consistent (manager (order.foldl step init)) assigned) (c : U32) :
    (manager (order.foldl step init)).findActiveSession c =
      ((manager init).findActiveSession c).map update := by
  have hbinding : ∀ e, (manager (order.foldl step init)).activeConnId e =
      (manager init).activeConnId e :=
    fun e => congrArg (Finmap.lookup e) (hlocal.inv_foldl (s := init) rfl order)
  by_cases hbound : ∃ e, (manager init).activeConnId e = some c
  · obtain ⟨e, hc⟩ := hbound
    have hvisits : Sweep.Visits order (manager init).activeSession :=
      ⟨horder.nodup, fun e => by rw [horder.mem_iff, h.isSome_activeSession]⟩
    have hget := hlocal.get_visits (s := init) rfl hvisits e
    simpa only [activeSession, hbinding, hc, Option.bind_some] using hget
  · -- No endpoint is bound to it, before and after, so there is no such session.
    have hbefore : (manager init).findActiveSession c = none :=
      Option.eq_none_iff_forall_ne_some.2 fun s hs => hbound ((h.active_iff c).1 ⟨s, hs⟩)
    rw [hbefore]
    refine Option.eq_none_iff_forall_ne_some.2 fun s hs => hbound ?_
    obtain ⟨e, hc⟩ := (hafter.active_iff c).1 ⟨s, hs⟩
    exact ⟨e, (hbinding e).symm.trans hc⟩

/-- The loop over the active sessions polls each of them. -/
theorem findActiveSession_collectActiveTx (h : Settling m assigned duePending [])
    (horder : Sweep.Visits order m.activeConnId) (c : U32) :
    (collectActiveTx transport nowMs order m).manager.findActiveSession c =
      (m.findActiveSession c).map fun s => (Session.pollTx transport nowMs s).2 :=
  @Consistent.findActiveSession_foldl _ _ _ Collected.manager _ _ { manager := m } h.consistent
    (collectActiveOne_local h.consistent.oneToOne) horder
    (h.collectActiveTx order).consistent c

theorem collectActiveTx_order (hm : Settling m assigned duePending [])
    (h : Sweep.Visits order m.activeConnId) (h' : Sweep.Visits order' m.activeConnId) :
    (collectActiveTx transport nowMs order m).manager =
      (collectActiveTx transport nowMs order' m).manager := by
  have htable : (collectActiveTx transport nowMs order m).manager.activeByConnId =
      (collectActiveTx transport nowMs order' m).manager.activeByConnId := by
    refine Finmap.ext_lookup fun c => ?_
    exact (findActiveSession_collectActiveTx hm h c).trans
      (findActiveSession_collectActiveTx hm h' c).symm
  rw [collectActiveTx_frame order, htable, ← collectActiveTx_frame order']

variable {pendingOrder pendingOrder' activeOrder activeOrder' : List EndpointKey}

/-- What a poll sends: what each session sends. -/
theorem Sound.pollTx_outbound (h : Sound m assigned) (hp : pendingOrder.Nodup)
    (ha : activeOrder.Nodup) :
    (ServerSessionManager.pollTx transport pendingOrder activeOrder nowMs m).1 =
      (pendingOrder.flatMap fun e =>
        (m.findPendingSession e).elim [] (sentTo transport nowMs e)) ++
      activeOrder.flatMap fun e => (m.activeSession e).elim [] (sentTo transport nowMs e) := by
  have hsettling := @Sound.collectPendingTx transport nowMs _ _ h pendingOrder
  have hsame : ∀ e, (ServerSessionManager.collectPendingTx transport nowMs pendingOrder
      m).manager.activeSession e = m.activeSession e := by
    intro e
    rw [collectPendingTx_frame]
    rfl
  rw [ServerSessionManager.pollTx]
  simp only [(collectPendingTx_spec hp).1,
    (collectActiveTx_spec hsettling.consistent.oneToOne ha).1, hsame]

/-- **The order of the visits does not matter.** -/
theorem Sound.pollTx_order (h : Sound m assigned)
    (hp : Sweep.Visits pendingOrder m.findPendingSession)
    (ha : Sweep.Visits activeOrder m.activeConnId)
    (hp' : Sweep.Visits pendingOrder' m.findPendingSession)
    (ha' : Sweep.Visits activeOrder' m.activeConnId) :
    (ServerSessionManager.pollTx transport pendingOrder activeOrder nowMs m).1.Perm
        (ServerSessionManager.pollTx transport pendingOrder' activeOrder' nowMs m).1 ∧
      (ServerSessionManager.pollTx transport pendingOrder activeOrder nowMs m).2 =
        (ServerSessionManager.pollTx transport pendingOrder' activeOrder' nowMs m).2 := by
  constructor
  · rw [h.pollTx_outbound hp.nodup ha.nodup, h.pollTx_outbound hp'.nodup ha'.nodup]
    exact ((hp.perm hp').flatMap_right _).append ((ha.perm ha').flatMap_right _)
  · have hpending := @collectPendingTx_order transport nowMs _ _ _ hp hp'
    have hsettling := @Sound.collectPendingTx transport nowMs _ _ h pendingOrder'
    have hduePending : (ServerSessionManager.collectPendingTx transport nowMs pendingOrder
        m).toCleanup.Perm
        (ServerSessionManager.collectPendingTx transport nowMs pendingOrder' m).toCleanup := by
      rw [(collectPendingTx_spec hp.nodup).2, (collectPendingTx_spec hp'.nodup).2]
      exact (hp.perm hp').flatMap_right _
    have hbinding : (ServerSessionManager.collectPendingTx transport nowMs pendingOrder'
        m).manager.activeConnId = m.activeConnId := by
      rw [collectPendingTx_frame]
      rfl
    simp only [ServerSessionManager.pollTx]
    rw [hpending]
    generalize ServerSessionManager.collectPendingTx transport nowMs pendingOrder' m = pending
      at hduePending hsettling hbinding ⊢
    rw [← hbinding] at ha ha'
    have hdueActive : (ServerSessionManager.collectActiveTx transport nowMs activeOrder
        pending.manager).toCleanup.Perm
        (ServerSessionManager.collectActiveTx transport nowMs activeOrder'
          pending.manager).toCleanup := by
      rw [(collectActiveTx_spec hsettling.consistent.oneToOne ha.nodup).2,
        (collectActiveTx_spec hsettling.consistent.oneToOne ha'.nodup).2]
      exact (ha.perm ha').flatMap_right _
    rw [collectActiveTx_order hsettling ha ha', hduePending.foldl_eq, hdueActive.foldl_eq]

/-- The pending sessions that the loop finds ended. -/
theorem mem_toCleanup_collectPendingTx (hp : Sweep.Visits pendingOrder m.findPendingSession)
    (e : EndpointKey) :
    e ∈ (ServerSessionManager.collectPendingTx transport nowMs pendingOrder m).toCleanup ↔
      ∃ s, m.findPendingSession e = some s ∧ endsAt transport nowMs s = true := by
  rw [(collectPendingTx_spec hp.nodup).2, List.mem_flatMap]
  constructor
  · rintro ⟨f, -, hmem⟩
    cases hs : m.findPendingSession f with
    | none => simp [hs] at hmem
    | some s =>
      rw [hs, Option.elim_some] at hmem
      split_ifs at hmem with hends
      · obtain rfl : e = f := by simpa using hmem
        exact ⟨s, hs, hends⟩
      · cases hmem
  · rintro ⟨s, hs, hends⟩
    exact ⟨e, (hp.mem_iff e).2 (by simp [hs]), by simp [hs, hends]⟩

/-- **What a poll does to the pending sessions.** -/
theorem pollTx_pending (hp : Sweep.Visits pendingOrder m.findPendingSession) (e : EndpointKey) :
    (ServerSessionManager.pollTx transport pendingOrder activeOrder nowMs m).2.findPendingSession e =
      (m.findPendingSession e).bind fun s => if endsAt transport nowMs s then none
        else some (Session.pollTx transport nowMs s).2 := by
  have hlocal := @collectPendingOne_local transport nowMs
  have hpolled : (ServerSessionManager.collectPendingTx transport nowMs pendingOrder
      m).manager.findPendingSession e =
        (m.findPendingSession e).map fun s => (Session.pollTx transport nowMs s).2 := by
    have hget := hlocal.get_visits (s := { manager := m }) trivial hp e
    exact hget
  have hdue := @mem_toCleanup_collectPendingTx transport nowMs m pendingOrder hp e
  rw [ServerSessionManager.pollTx]
  generalize ServerSessionManager.collectPendingTx transport nowMs pendingOrder m = pending
    at hpolled hdue ⊢
  have hkept : (ServerSessionManager.collectActiveTx transport nowMs activeOrder
      pending.manager).manager.findPendingSession e = pending.manager.findPendingSession e := by
    rw [collectActiveTx_frame]
    rfl
  simp only [findPendingSession_cleanupActive_foldl, findPendingSession_cleanupPending_foldl,
    hdue, hkept, hpolled]
  cases hs : m.findPendingSession e with
  | none => simp
  | some s => simp

/-- The active sessions that the loop finds ended. -/
theorem mem_toCleanup_collectActiveTx (h : Consistent m assigned)
    (ha : Sweep.Visits activeOrder m.activeConnId) (c : U32) :
    c ∈ (ServerSessionManager.collectActiveTx transport nowMs activeOrder m).toCleanup.map
        Prod.snd ↔
      ∃ s, m.findActiveSession c = some s ∧ endsAt transport nowMs s = true := by
  rw [(collectActiveTx_spec h.oneToOne ha.nodup).2, List.mem_map]
  constructor
  · rintro ⟨⟨e, c'⟩, hmem, rfl⟩
    obtain ⟨e', -, hmem⟩ := List.mem_flatMap.1 hmem
    cases hc : m.activeConnId e' with
    | none => simp [activeSession, hc] at hmem
    | some c =>
      cases hs : m.findActiveSession c with
      | none => simp [activeSession, hc, hs] at hmem
      | some s =>
        simp only [activeSession, hc, Option.bind_some, hs, Option.elim_some] at hmem
        split_ifs at hmem with hends
        · obtain ⟨-, rfl⟩ : e = e' ∧ c' = c := by simpa using hmem
          exact ⟨s, hs, hends⟩
        · cases hmem
  · rintro ⟨s, hs, hends⟩
    obtain ⟨e, hc⟩ := (h.active_iff c).1 ⟨s, hs⟩
    refine ⟨(e, c), List.mem_flatMap.2 ⟨e, (ha.mem_iff e).2 (by simp [hc]), ?_⟩, rfl⟩
    simp [activeSession, hc, hs, hends]

/-- **What a poll does to the active sessions.** -/
theorem Sound.pollTx_active (h : Sound m assigned)
    (ha : Sweep.Visits activeOrder m.activeConnId) (c : U32) :
    (ServerSessionManager.pollTx transport pendingOrder activeOrder nowMs m).2.findActiveSession c =
        (m.findActiveSession c).bind (fun s => if endsAt transport nowMs s then none
          else some (Session.pollTx transport nowMs s).2) ∧
      m.retiredConnIds ⊆
        (ServerSessionManager.pollTx transport pendingOrder activeOrder nowMs m).2.retiredConnIds ∧
      ((∃ s, m.findActiveSession c = some s ∧ endsAt transport nowMs s = true) → c ∈
        (ServerSessionManager.pollTx transport pendingOrder activeOrder nowMs
          m).2.retiredConnIds) := by
  have hsettling := @Sound.collectPendingTx transport nowMs _ _ h pendingOrder
  have hframe := @collectPendingTx_frame transport nowMs m pendingOrder
  rw [ServerSessionManager.pollTx]
  generalize ServerSessionManager.collectPendingTx transport nowMs pendingOrder m = pending
    at hsettling hframe ⊢
  have hfind : pending.manager.findActiveSession c = m.findActiveSession c := by
    rw [hframe]
    rfl
  have hvisits : Sweep.Visits activeOrder pending.manager.activeConnId := by
    rw [hframe]
    exact ha
  have hpolled := @findActiveSession_collectActiveTx transport nowMs _ _ _ _ hsettling hvisits c
  have hdue := @mem_toCleanup_collectActiveTx transport nowMs _ _ _ hsettling.consistent hvisits c
  have hretired : (ServerSessionManager.collectActiveTx transport nowMs activeOrder
      pending.manager).manager.retiredConnIds = m.retiredConnIds := by
    rw [collectActiveTx_frame, hframe]
  rw [hfind] at hpolled hdue
  generalize ServerSessionManager.collectActiveTx transport nowMs activeOrder pending.manager =
    active at hpolled hdue hretired ⊢
  have hsubset := retired_cleanupPending_foldl pending.toCleanup active.manager
  obtain ⟨hsubset', hnew⟩ := retired_cleanupActive_foldl active.toCleanup
    (pending.toCleanup.foldl (fun m e => ServerSessionManager.cleanupPendingSession e m)
      active.manager)
  refine ⟨?_, ?_, fun hends => hnew c (hdue.2 hends) ?_⟩
  · rw [findActiveSession_cleanupActive_foldl, findActiveSession_cleanupPending_foldl, hpolled]
    simp only [hdue]
    cases hs : m.findActiveSession c with
    | none => simp
    | some s => simp
  · rw [← hretired]
    exact hsubset.trans hsubset'
  · obtain ⟨s, hs, -⟩ := hends
    obtain ⟨e, hc⟩ := (h.consistent.active_iff c).1 ⟨s, hs⟩
    exact (h.consistent.connId_ne_zero (h.consistent.holds_of_active hc)).1

/-- What a visit sends goes to the endpoint that is visited. -/
theorem endpoints_sublist (get : EndpointKey → Option SessionState) (order : List EndpointKey) :
    ((order.flatMap fun e => (get e).elim [] (sentTo transport nowMs e)).map
      OutboundDatagram.endpoint).Sublist order := by
  induction order with
  | nil => exact List.Sublist.refl _
  | cons e order ih =>
    rw [List.flatMap_cons, List.map_append]
    have hone : (((get e).elim [] (sentTo transport nowMs e)).map
        OutboundDatagram.endpoint).Sublist [e] := by
      cases get e with
      | none => exact List.nil_sublist _
      | some s =>
        simp only [Option.elim_some, sentTo]
        cases (Session.pollTx transport nowMs s).1 with
        | none => exact List.nil_sublist _
        | some bytes => exact List.Sublist.refl _
    exact hone.append ih

end Poll

/-- Every session sends under its own identifier. -/
theorem serverStamped_rule (transport : TransportSettings) :
    SessionRule transport ServerStamped where
  created := fun random _ => ⟨rfl, @inFlight_empty _ .server random.initialSeq⟩
  received := fun bytes _ h => h.receive bytes
  polled := fun _ h => h.poll.1
  queued := fun _ _ _ h => ⟨h.role, h.inFlight⟩
  drained := fun h => ⟨h.role, h.inFlight⟩

end ServerSessionManager

/-! ## Every poll -/

open ServerSessionManager

/-- The endpoint is bound to a session, pending or active, under this identifier. -/
def BoundTo (m : ServerSessionManager) (endpoint : EndpointKey) (connId : U32) : Prop :=
  (∃ session, m.pendingByEndpoint.lookup endpoint = some session ∧ session.connId = connId) ∨
    m.activeConnIdByEndpoint.lookup endpoint = some connId ∧
      ∃ session, m.activeByConnId.lookup connId = some session ∧ session.connId = connId

/-- Every endpoint gets at most one datagram, and it carries the identifier of its session. -/
structure RoutesOutbound (m : ServerSessionManager) (outbound : List OutboundDatagram) : Prop where
  one_each : (outbound.map OutboundDatagram.endpoint).Nodup
  addressed : ∀ datagram ∈ outbound, ∃ packet, decode datagram.bytes = some packet ∧
    packet.header.connId ≠ 0 ∧ BoundTo m datagram.endpoint packet.header.connId

theorem mem_sentTo {transport : TransportSettings} {nowMs : U64} {e : EndpointKey}
    {s : SessionState} (h : ServerStamped s) {datagram : OutboundDatagram}
    (hmem : datagram ∈ sentTo transport nowMs e s) : datagram.endpoint = e ∧
      ∃ packet, decode datagram.bytes = some packet ∧ packet.header.connId = s.connId := by
  rw [sentTo, Option.mem_toList, Option.map_eq_some_iff] at hmem
  obtain ⟨bytes, hbytes, rfl⟩ := hmem
  exact ⟨rfl, h.poll.2 bytes hbytes⟩

/-- **Polling the manager.** In every state it can reach and at every time, each endpoint is sent
at most one datagram, under the identifier of the session it is bound to; and whatever the order in
which the tables are visited, the same datagrams are sent and the same tables are left. -/
theorem poll_routes (transport : TransportSettings) {ops : List ManagerOp} {r : ServerRun}
    (hrun : Run.runM (ServerRun.step transport) {} ops = some r)
    {pendingOrder activeOrder pendingOrder' activeOrder' : List EndpointKey}
    (hp : Sweep.Visits pendingOrder r.manager.pendingByEndpoint.lookup)
    (ha : Sweep.Visits activeOrder r.manager.activeConnIdByEndpoint.lookup)
    (hp' : Sweep.Visits pendingOrder' r.manager.pendingByEndpoint.lookup)
    (ha' : Sweep.Visits activeOrder' r.manager.activeConnIdByEndpoint.lookup) (nowMs : U64) :
    RoutesOutbound r.manager (r.manager.pollTx transport pendingOrder activeOrder nowMs).1 ∧
      (r.manager.pollTx transport pendingOrder activeOrder nowMs).1.Perm
        (r.manager.pollTx transport pendingOrder' activeOrder' nowMs).1 ∧
      (r.manager.pollTx transport pendingOrder activeOrder nowMs).2 =
        (r.manager.pollTx transport pendingOrder' activeOrder' nowMs).2 := by
  have h := ServerRun.run_sound hrun
  have hstamped := (serverStamped_rule transport).run hrun
  refine ⟨⟨?_, fun datagram hmem => ?_⟩, h.pollTx_order hp ha hp' ha'⟩
  · rw [h.pollTx_outbound hp.nodup ha.nodup, List.map_append]
    refine List.Nodup.sublist ((endpoints_sublist _ _).append (endpoints_sublist _ _)) ?_
    refine hp.nodup.append ha.nodup fun e hmem hmem' => ?_
    obtain ⟨s, hs⟩ := Option.isSome_iff_exists.1 ((hp.mem_iff e).1 hmem)
    obtain ⟨c, hc⟩ := Option.isSome_iff_exists.1 ((ha.mem_iff e).1 hmem')
    have hnone := (h.consistent.pending_session e s hs).1
    rw [activeConnId, hc] at hnone
    cases hnone
  · rw [h.pollTx_outbound hp.nodup ha.nodup, List.mem_append, List.mem_flatMap,
      List.mem_flatMap] at hmem
    rcases hmem with ⟨e, -, hmem⟩ | ⟨e, -, hmem⟩
    · cases hs : r.manager.findPendingSession e with
      | none => simp [hs] at hmem
      | some s =>
        rw [hs] at hmem
        obtain ⟨rfl, packet, hdecode, hconnId⟩ := mem_sentTo (hstamped.pending e s hs) hmem
        refine ⟨packet, hdecode, ?_, Or.inl ⟨s, hs, hconnId.symm⟩⟩
        rw [hconnId]
        exact (h.consistent.connId_ne_zero (holds_of_pending r.assigned hs)).1
    · cases hc : r.manager.activeConnId e with
      | none => simp [activeSession, hc] at hmem
      | some c =>
        cases hs : r.manager.findActiveSession c with
        | none => simp [activeSession, hc, hs] at hmem
        | some s =>
          rw [activeSession, hc, Option.bind_some, hs] at hmem
          obtain ⟨rfl, packet, hdecode, hconnId⟩ := mem_sentTo (hstamped.active c s hs) hmem
          obtain rfl := (h.consistent.active_session c s hs).1
          refine ⟨packet, hdecode, ?_, Or.inr ?_⟩
          · rw [hconnId]
            exact (h.consistent.connId_ne_zero (h.consistent.holds_of_active hc)).1
          · rw [hconnId]
            exact ⟨hc, s, hs, rfl⟩

theorem visits_of_keys {σ : Type} {order : List EndpointKey} {t : Finmap fun _ : EndpointKey => σ}
    (hnodup : order.Nodup) (hkeys : order.toFinset = t.keys) : Sweep.Visits order t.lookup :=
  ⟨hnodup, fun e => by
    rw [← List.mem_toFinset, hkeys, Finmap.mem_keys, ← Finmap.lookup_isSome]⟩

/-- Two clients have begun their handshakes. -/
def twoPending : List ManagerOp :=
  [.onDatagramReceived ⟨100, [(0, 7)]⟩ clientEndpoint
      (controlDatagram 0 Flag.syn.toFlags 500 0 0) 0,
    .onDatagramReceived ⟨200, [(1, 2)]⟩ otherEndpoint
      (controlDatagram 0 Flag.syn.toFlags 900 0 0) 0]

/-- Both get their SYN-ACK, whichever is visited first. -/
theorem poll_routes_twoPending :
    ∃ r, Run.runM (ServerRun.step {}) {} twoPending = some r ∧
      (r.manager.pollTx {} [clientEndpoint, otherEndpoint] [] 0).1.length = 2 ∧
      RoutesOutbound r.manager (r.manager.pollTx {} [clientEndpoint, otherEndpoint] [] 0).1 ∧
      (r.manager.pollTx {} [clientEndpoint, otherEndpoint] [] 0).1.Perm
        (r.manager.pollTx {} [otherEndpoint, clientEndpoint] [] 0).1 ∧
      (r.manager.pollTx {} [clientEndpoint, otherEndpoint] [] 0).2 =
        (r.manager.pollTx {} [otherEndpoint, clientEndpoint] [] 0).2 := by
  have hreturns : ((Run.runM (ServerRun.step {}) {} twoPending).map fun r =>
        (r.manager.pendingByEndpoint.keys, r.manager.activeConnIdByEndpoint.keys,
          (r.manager.pollTx {} [clientEndpoint, otherEndpoint] [] 0).1.length)) =
      some ({clientEndpoint, otherEndpoint}, ∅, 2) := by
    decide +kernel
  obtain ⟨r, hr, hvalue⟩ := Option.map_eq_some_iff.1 hreturns
  simp only [Prod.mk.injEq] at hvalue
  obtain ⟨hpending, hactive, hlength⟩ := hvalue
  have hp : Sweep.Visits [clientEndpoint, otherEndpoint] r.manager.pendingByEndpoint.lookup :=
    visits_of_keys (by decide) (hpending ▸ by decide)
  have hp' : Sweep.Visits [otherEndpoint, clientEndpoint] r.manager.pendingByEndpoint.lookup :=
    visits_of_keys (by decide) (hpending ▸ by decide)
  have ha : Sweep.Visits [] r.manager.activeConnIdByEndpoint.lookup :=
    visits_of_keys List.nodup_nil hactive.symm
  exact ⟨r, hr, hlength, poll_routes {} hr hp ha hp' ha 0⟩

end Rudp
