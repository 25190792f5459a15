import Rudp.Peers
import Rudp.ManagerEvents

/-!
# Honest peers and the check on `conn_id`

A session resets itself when a packet carries another identifier than its own. Between a client and
a manager that only ever get each other's datagrams, this should not happen. It does: `poll` sends
queued data also in `HandshakeSent`, before the client has learned its identifier, and so under
`conn_id` 0; a pending session that gets such a packet takes it for a stranger's.

`connId_check_iff` says that nothing else goes wrong. An endpoint keeps its identifier as long as no
session of its gives up, all the manager ever sends to it carries this one identifier, and so do all
packets of the client that do not date from before it learned it.
-/

namespace Rudp

open ServerSessionManager

/-! ## The check -/

/-- What the check on `conn_id` finds when the session gets the datagram. -/
def failsConnIdCheck (bytes : Bytes) (nowMs : U64) (state : SessionState) : Bool :=
  match decode bytes with
  | none => false
  | some decoded =>
    let controlKind := classifyControlKind decoded.header
    let state := Session.recordReceivedStats controlKind bytes.length nowMs state
    let state := if Session.shouldAdoptServerConnId state controlKind decoded.header then
        Session.adoptServerConnId decoded.header state
      else state
    Session.hasConnIdMismatch state controlKind decoded.header

/-- The session that the manager hands a datagram to. -/
def ServerSessionManager.recipient (random : Randomness) (endpoint : EndpointKey) (bytes : Bytes)
    (m : ServerSessionManager) : Option SessionState :=
  match decode bytes with
  | none => none
  | some decoded =>
    if decoded.header.connId ≠ 0 ∧ m.hasActiveSession decoded.header.connId then
      if m.isActiveEndpointMatch endpoint decoded.header.connId then
        m.findActiveSession decoded.header.connId
      else none
    else
      match m.findPendingSession endpoint with
      | some session => some session
      | none =>
        if decoded.header.connId ≠ 0 then none
        else (ensureSessionForNewPeer random endpoint m).bind Prod.fst

/-- No session is reset over its `conn_id` in this step. -/
def PeerSystem.passesConnIdCheck (settings : PeerSettings) (s : PeerSystem) : PeerOp → Bool
  | .toClient index nowMs =>
    s.serverSent[index]?.all fun bytes => !failsConnIdCheck bytes nowMs s.client
  | .toServer random index nowMs =>
    s.clientSent[index]?.all fun bytes =>
      (s.server.manager.recipient random settings.endpoint bytes).all fun session =>
        !failsConnIdCheck bytes nowMs session
  | .queueSend _ _ _ | .requestClose | .drainEvents | .pollTx _ | .manager _ => true

/-- The datagram dates from before the client learned its identifier, and is no SYN. -/
def isEarly (bytes : Bytes) : Bool :=
  (decode bytes).any fun packet =>
    packet.header.connId = 0 && classifyControlKind packet.header ≠ .syn

/-- No early packet reaches a pending session in this step. -/
def PeerSystem.sparesPending (settings : PeerSettings) (s : PeerSystem) : PeerOp → Bool
  | .toServer _ index _ =>
    (s.server.manager.findPendingSession settings.endpoint).isNone ||
      s.clientSent[index]?.all fun bytes => !isEarly bytes
  | .queueSend _ _ _ | .requestClose | .drainEvents | .pollTx _ | .toClient _ _ | .manager _ => true

/-- A poll gives the session up, over an idle timeout or a retry limit. -/
def expires (transport : TransportSettings) (nowMs : U64) (session : SessionState) : Bool :=
  session.connectionState ≠ .reset &&
    (Session.pollTx transport nowMs session).2.connectionState = .reset

/-- No session of the client's endpoint is given up in this step, and the loops over the tables visit
every session once. -/
def PeerSystem.Regular (settings : PeerSettings) (s : PeerSystem) : PeerOp → Prop
  | .manager op => op.Orderly s.server.manager ∧ match op with
    | .pollTx _ _ nowMs =>
      (s.server.manager.findPendingSession settings.endpoint).all
          (fun session => !expires settings.server nowMs session) = true ∧
        (s.server.manager.activeSession settings.endpoint).all
          (fun session => !expires settings.server nowMs session) = true
    | .onDatagramReceived _ _ _ _ | .queueSend _ _ _ _ | .drainEvents _ _
    | .drainActiveEvents _ => True
  | .queueSend _ _ _ | .requestClose | .drainEvents | .pollTx _ | .toClient _ _
  | .toServer _ _ _ => True

instance (settings : PeerSettings) (s : PeerSystem) (op : PeerOp) :
    Decidable (s.Regular settings op) :=
  match op with
  | .manager (.pollTx _ _ _) => inferInstanceAs (Decidable (_ ∧ _ ∧ _))
  | .manager (.onDatagramReceived _ _ _ _) | .manager (.queueSend _ _ _ _)
  | .manager (.drainEvents _ _) | .manager (.drainActiveEvents _) =>
    inferInstanceAs (Decidable (_ ∧ True))
  | .queueSend _ _ _ | .requestClose | .drainEvents | .pollTx _ | .toClient _ _
  | .toServer _ _ _ => inferInstanceAs (Decidable True)

theorem failsConnIdCheck_eq (bytes : Bytes) (nowMs : U64) (s : SessionState) :
    failsConnIdCheck bytes nowMs s = (decode bytes).any fun packet =>
      Session.hasConnIdMismatch s (classifyControlKind packet.header) packet.header := by
  rw [failsConnIdCheck]
  cases decode bytes with
  | none => rfl
  | some packet => exact (counted_same packet bytes.length nowMs s).mismatch

/-! ## Sessions that stay -/

/-- A server session that nobody asked to close ends by a RST, or over its `conn_id`. -/
theorem Unclosed.receive_open {transport : TransportSettings} {nowMs : U64} {s : SessionState}
    (h : Unclosed s) (hstate : s.connectionState.isPending ∨ s.connectionState.isActive)
    {bytes : Bytes} {packet : PacketView} (hdecode : decode bytes = some packet)
    (hmatch : Session.hasConnIdMismatch s (classifyControlKind packet.header) packet.header = false)
    (hrst : classifyControlKind packet.header ≠ .rst) :
    isTerminalState (Session.onDatagramReceived transport bytes nowMs s).connectionState = false := by
  have hopen : isTerminalState s.connectionState = false := by
    rcases hstate with (hstate | hstate) | (hstate | hstate) <;> rw [hstate] <;> rfl
  have heffect := onDatagramReceived_rx transport bytes nowMs s
  generalize Session.onDatagramReceived transport bytes nowMs s = s' at heffect ⊢
  cases heffect with
  | undecodable hnone _ =>
    rw [hdecode] at hnone
    cases hnone
  | duplicate _ _ _ _ hsame =>
    rw [hsame]
    exact hopen
  | mismatch hdecode' hmismatch _ _ =>
    rw [hdecode] at hdecode'
    obtain rfl := Option.some.inj hdecode'
    rw [hmatch] at hmismatch
    cases hmismatch
  | processed acknowledgedFin hdecode' _ hfin _ hnext =>
    rw [hdecode] at hdecode'
    obtain rfl := Option.some.inj hdecode'
    have hnoFin : acknowledgedFin = false := by
      rw [← Bool.not_eq_true]
      rintro hacknowledged
      obtain ⟨k, entry, hget, hflag⟩ := hfin hacknowledged
      rw [h.noFin k entry hget] at hflag
      cases hflag
    have hafter : stateAfterAck s.connectionState acknowledgedFin = s.connectionState := by
      simp [stateAfterAck, hnoFin]
    rw [hnext, hafter]
    cases hdecision : (decideConnectionTransition s.role s.connectionState
        (classifyControlKind packet.header)).nextState with
    | none => exact hopen
    | some next =>
      rcases nextState_cases hdecision with ⟨-, hkind⟩ | ⟨rfl, -⟩ | ⟨rfl, -⟩ | ⟨rfl, -⟩ | ⟨rfl, -⟩
      · exact absurd hkind hrst
      all_goals rfl

namespace ServerSessionManager

section Stay

variable {transport : TransportSettings} {m m' : ServerSessionManager} {assigned : List U32}
  {e : EndpointKey} {c : U32} {bytes : Bytes} {nowMs : U64} {packet : PacketView}
  {s : SessionState} {random : Randomness}

/-- A pending session gets every datagram of its endpoint that is for no active session. -/
theorem recipient_of_pending (hdecode : decode bytes = some packet)
    (habsent : packet.header.connId ≠ 0 → m.findActiveSession packet.header.connId = none)
    (hs : m.findPendingSession e = some s) : m.recipient random e bytes = some s := by
  have hinactive : ¬(packet.header.connId ≠ 0 ∧ m.hasActiveSession packet.header.connId) := by
    rintro ⟨hne, hactive⟩
    simp [hasActiveSession, habsent hne] at hactive
  simp only [recipient, hdecode, if_neg hinactive, hs]

/-- An endpoint keeps its identifier through a datagram of its own that is no RST, and that passes
the check. -/
theorem Sound.holder_of_datagram (h : Sound m assigned) (hunclosed : Everywhere Unclosed m)
    (hdecode : decode bytes = some packet) (hrst : classifyControlKind packet.header ≠ .rst)
    (hpasses : ∀ s, m.recipient random e bytes = some s → failsConnIdCheck bytes nowMs s = false)
    (hstep : onDatagramReceived transport random e bytes nowMs m = some m')
    (hholder : m.holder e = some c) : m'.holder e = some c := by
  have hroute := onDatagramReceived_route hstep
  generalize assignedBy random e bytes m = new at hroute
  cases hroute with
  | dropped _ => exact hholder
  | @active packet' s hdecode' hne hc hs =>
    rw [hdecode] at hdecode'
    obtain rfl := Option.some.inj hdecode'
    obtain ⟨hconnId, -⟩ := h.consistent.active_session _ s hs
    have hopen := @Unclosed.receive_open transport nowMs s (hunclosed.active _ s hs)
      (Or.inr (h.live.active _ s hs)) bytes packet hdecode
      (by simp [Session.hasConnIdMismatch, hconnId]) hrst
    obtain ⟨hpending, ⟨hterminal, -⟩ | ⟨-, hbinding, -⟩⟩ :=
      @Consistent.tryDispatchActive_cases transport bytes nowMs m assigned e _ _ h.consistent hc hs
    · rw [hopen] at hterminal
      cases hterminal
    · rw [holder, hpending, hbinding, ← hholder, h.consistent.holder_of_active hc]
      rfl
  | @pending packet' s hdecode' habsent hs =>
    rw [hdecode] at hdecode'
    obtain rfl := Option.some.inj hdecode'
    have hmatch := hpasses s (recipient_of_pending hdecode habsent hs)
    rw [failsConnIdCheck_eq, hdecode, Option.any_some] at hmatch
    have hopen := @Unclosed.receive_open transport nowMs s (hunclosed.pending e s hs)
      (Or.inl (h.live.pending e s hs)) bytes packet hdecode hmatch hrst
    obtain ⟨-, hserver⟩ := h.consistent.pending_session e s hs
    have hconnId := (onDatagramReceived_effect transport bytes nowMs s).2.1 hserver
    rw [holder_of_pending hs] at hholder
    rcases @Consistent.tryDispatchPending_cases transport bytes nowMs m assigned e s h.consistent hs
      with ⟨-, hpending, hbinding, -⟩ | ⟨hterminal, -⟩ | ⟨-, -, hpending, -⟩
    · rw [holder, hpending, hbinding, ← hholder]
      rfl
    · rw [hopen] at hterminal
      cases hterminal
    · rw [holder_of_pending hpending, hconnId, hholder]
  | created _ _ hnew hinactive _ => simp [holder, hnew, hinactive] at hholder

/-- A poll that does not give a server session up leaves it where it is. -/
theorem endsAt_of_not_expires (hserver : s.role = .server)
    (hopen : isTerminalState s.connectionState = false)
    (hexpires : expires transport nowMs s = false) : endsAt transport nowMs s = false := by
  have hne : s.connectionState ≠ .reset := by
    rintro hreset
    rw [hreset] at hopen
    cases hopen
  have hstays : (Session.pollTx transport nowMs s).2.connectionState ≠ .reset := by
    simpa [expires, hne] using hexpires
  obtain ⟨-, -, hstate | ⟨-, hreset⟩⟩ := (pollTx_effect transport nowMs s).of_server hserver
  · rw [endsAt, hstate, hopen, Bool.and_false]
  · exact absurd hreset hstays

theorem SameIds.foldl_of_mem {κ : Type} {step : ServerSessionManager → κ → ServerSessionManager}
    {due : List κ} (hstep : ∀ m, ∀ k ∈ due, SameIds m (step m k) e) (m : ServerSessionManager) :
    SameIds m (due.foldl step m) e := by
  induction due generalizing m with
  | nil => exact .refl m e
  | cons k due ih =>
    exact (hstep m k List.mem_cons_self).trans
      (ih (fun m k hk => hstep m k (List.mem_cons_of_mem _ hk)) _)

/-- The sessions that a poll does not give up are not cleaned up. -/
theorem Sound.notMem_toCleanup (h : Sound m assigned) {pendingOrder activeOrder : List EndpointKey}
    (hp : pendingOrder.Nodup) (ha : activeOrder.Nodup)
    (hpending : ∀ s, m.findPendingSession e = some s → expires transport nowMs s = false)
    (hactive : ∀ s, m.activeSession e = some s → expires transport nowMs s = false) :
    let pending := ServerSessionManager.collectPendingTx transport nowMs pendingOrder m
    e ∉ pending.toCleanup ∧
      ∀ k ∈ (collectActiveTx transport nowMs activeOrder pending.manager).toCleanup, k.1 ≠ e := by
  intro pending
  have hsettling := @Sound.collectPendingTx transport nowMs _ _ h pendingOrder
  constructor
  · intro hmem
    simp only [pending, (collectPendingTx_spec hp).2, List.mem_flatMap] at hmem
    obtain ⟨f, -, hmem⟩ := hmem
    cases hs : m.findPendingSession f with
    | none => simp [hs] at hmem
    | some s =>
      simp only [hs, Option.elim_some, List.mem_ite_nil_right, List.mem_singleton] at hmem
      obtain ⟨hends, rfl⟩ := hmem
      have hopen : isTerminalState s.connectionState = false := by
        rcases h.live.pending e s hs with hstate | hstate <;> rw [hstate] <;> rfl
      rw [endsAt_of_not_expires (h.consistent.pending_session e s hs).2 hopen
        (hpending s hs)] at hends
      cases hends
  · rintro k hmem rfl
    have hsame : pending.manager.activeSession = m.activeSession := by
      funext f
      rw [collectPendingTx_frame]
      rfl
    rw [(collectActiveTx_spec hsettling.consistent.oneToOne ha).2, List.mem_flatMap] at hmem
    obtain ⟨f, -, hmem⟩ := hmem
    rw [hsame] at hmem
    cases hs : m.activeSession f with
    | none => simp [hs] at hmem
    | some s =>
      simp only [hs, Option.elim_some, List.mem_ite_nil_right, Option.mem_toList,
        Option.map_eq_some_iff] at hmem
      obtain ⟨hends, c, -, rfl⟩ := hmem
      obtain ⟨c', hc', hfind⟩ := Option.bind_eq_some_iff.1 hs
      have hopen : isTerminalState s.connectionState = false := by
        rcases h.live.active c' s hfind with hstate | hstate <;> rw [hstate] <;> rfl
      rw [endsAt_of_not_expires (h.consistent.active_session c' s hfind).2 hopen
        (hactive s hs)] at hends
      cases hends

/-- An endpoint keeps its identifier through a poll that does not give its session up. -/
theorem Sound.holder_of_poll (h : Sound m assigned) {pendingOrder activeOrder : List EndpointKey}
    (hp : pendingOrder.Nodup) (ha : activeOrder.Nodup)
    (hpending : ∀ s, m.findPendingSession e = some s → expires transport nowMs s = false)
    (hactive : ∀ s, m.activeSession e = some s → expires transport nowMs s = false) :
    (ServerSessionManager.pollTx transport pendingOrder activeOrder nowMs m).2.holder e =
      m.holder e := by
  obtain ⟨hkept, hkept'⟩ := h.notMem_toCleanup hp ha hpending hactive
  rw [ServerSessionManager.pollTx]
  refine SameIds.holder_eq (((sameIds_collectPendingTx transport nowMs pendingOrder m).trans
    (sameIds_collectActiveTx transport nowMs activeOrder _)).trans
    (SameIds.trans (SameIds.foldl_of_mem (fun m f hf => ?_) _)
      (SameIds.foldl_of_mem (fun m k hk => ?_) _)))
  · have hne : e ≠ f := fun heq => hkept (heq ▸ hf)
    refine ⟨?_, activeConnId_cleanupPendingSession e⟩
    rw [findPendingSession_cleanupPendingSession, if_neg hne]
  · refine ⟨rfl, ?_⟩
    rw [activeConnId_cleanupActiveSession_ite, if_neg fun heq => hkept' k hk heq.1.symm]

end Stay

end ServerSessionManager

/-! ## One identifier -/

/-- The packet decodes, and is no RST. -/
def NoReset (p : PacketView) : Prop :=
  isValidHeader p.header = true ∧ p.header.hasFlag .rst = false

theorem NoReset.of_sameButAcks {p q : PacketView} (h : SameButAcks p q) (hp : NoReset p) :
    NoReset q := by
  obtain ⟨_, _, rfl⟩ := h
  exact hp

theorem classifyControlKind_ne_rst {header : Header} (h : header.hasFlag .rst = false) :
    classifyControlKind header ≠ .rst := by
  simp only [classifyControlKind, h]
  split_ifs <;> simp_all

/-- The endpoint's identifier is the only one: all that the manager has sent to the endpoint carries
it, and the client has it, or none yet. -/
structure Harmony (settings : PeerSettings) (s : PeerSystem) : Prop where
  agreement : Agreement settings s
  unclosed : Everywhere Unclosed s.server.manager
  stamped : Everywhere ServerStamped s.server.manager
  inFlight : InFlight NoReset s.client.tx
  clientSent : ∀ bytes ∈ s.clientSent, ∃ packet, decode bytes = some packet ∧
    packet.header.hasFlag .rst = false
  serverSent : ∀ bytes ∈ s.serverSent, ∃ packet, decode bytes = some packet ∧
    s.server.manager.holder settings.endpoint = some packet.header.connId
  adopted : s.client.connId ≠ 0 →
    s.server.manager.holder settings.endpoint = some s.client.connId

section Harmony

variable {settings : PeerSettings} {s s' : PeerSystem}

theorem harmony_start (settings : PeerSettings) (initialSeq : U32) :
    Harmony settings (.start initialSeq) where
  agreement := agreement_start settings initialSeq
  unclosed := everywhere_empty
  stamped := everywhere_empty
  inFlight := @inFlight_empty _ .client initialSeq
  clientSent := fun _ hmem => nomatch hmem
  serverSent := fun _ hmem => nomatch hmem
  adopted := fun hne => absurd rfl hne

/-- What the manager sends to an endpoint, a poll of the endpoint's session returned. -/
theorem ManagerOp.exists_poll {transport : TransportSettings} {m : ServerSessionManager}
    {assigned : List U32} (h : Sound m assigned) {op : ManagerOp} (horderly : op.Orderly m)
    {e : EndpointKey} {bytes : Bytes} (hmem : bytes ∈ op.sentTo transport m e) :
    ∃ session nowMs, (m.findPendingSession e = some session ∨ m.activeSession e = some session) ∧
      (Session.pollTx transport nowMs session).1 = some bytes := by
  cases op with
  | pollTx pendingOrder activeOrder nowMs =>
    obtain ⟨datagram, hfilter, rfl⟩ := List.mem_map.1 hmem
    obtain ⟨hmem, hendpoint⟩ := List.mem_filter.1 hfilter
    obtain ⟨hp, ha⟩ := horderly
    have hvisit : ∀ {f session}, datagram ∈ ServerSessionManager.sentTo transport nowMs f session →
        f = e ∧ (Session.pollTx transport nowMs session).1 = some datagram.bytes := by
      intro f session hsent
      rw [ServerSessionManager.sentTo, Option.mem_toList, Option.map_eq_some_iff] at hsent
      obtain ⟨bytes, hbytes, rfl⟩ := hsent
      exact ⟨of_decide_eq_true hendpoint, hbytes⟩
    rw [h.pollTx_outbound hp.visits.nodup ha.visits.nodup, List.mem_append, List.mem_flatMap,
      List.mem_flatMap] at hmem
    rcases hmem with ⟨f, -, hsent⟩ | ⟨f, -, hsent⟩
    · cases hs : m.findPendingSession f with
      | none => simp [hs] at hsent
      | some session =>
        rw [hs] at hsent
        obtain ⟨rfl, hbytes⟩ := hvisit hsent
        exact ⟨session, nowMs, Or.inl hs, hbytes⟩
    · cases hs : m.activeSession f with
      | none => simp [hs] at hsent
      | some session =>
        rw [hs] at hsent
        obtain ⟨rfl, hbytes⟩ := hvisit hsent
        exact ⟨session, nowMs, Or.inr hs, hbytes⟩
  | onDatagramReceived | queueSend | drainEvents | drainActiveEvents => cases hmem

/-- It carries the identifier that the endpoint holds. -/
theorem Harmony.sentTo (h : Harmony settings s) {op : ManagerOp}
    (horderly : op.Orderly s.server.manager) {bytes : Bytes}
    (hmem : bytes ∈ op.sentTo settings.server s.server.manager settings.endpoint) :
    ∃ packet, decode bytes = some packet ∧
      s.server.manager.holder settings.endpoint = some packet.header.connId := by
  have hsound := h.agreement.sound
  obtain ⟨session, nowMs, hs | hs, hbytes⟩ := ManagerOp.exists_poll hsound horderly hmem
  · obtain ⟨packet, hdecode, hconnId⟩ := (h.stamped.pending _ session hs).poll.2 bytes hbytes
    exact ⟨packet, hdecode, hconnId ▸ holder_of_pending hs⟩
  · obtain ⟨c, hc, hfind⟩ := Option.bind_eq_some_iff.1 hs
    obtain ⟨packet, hdecode, hconnId⟩ := (h.stamped.active c session hfind).poll.2 bytes hbytes
    refine ⟨packet, hdecode, ?_⟩
    rw [hconnId, (hsound.consistent.active_session c session hfind).1]
    exact hsound.consistent.holder_of_active hc

/-- The client does something that leaves its identifier alone. -/
theorem Harmony.setClient (h : Harmony settings s) {client : SessionState}
    (hagreement : Agreement settings { s with client })
    (hconnId : client.connId = s.client.connId) (hinFlight : InFlight NoReset client.tx) :
    Harmony settings { s with client } where
  agreement := hagreement
  unclosed := h.unclosed
  stamped := h.stamped
  inFlight := hinFlight
  clientSent := h.clientSent
  serverSent := h.serverSent
  adopted := by
    rw [hconnId]
    exact h.adopted

theorem Harmony.pollTx (h : Harmony settings s) (nowMs : U64) :
    Harmony settings
      { s with
        client := (Session.pollTx settings.client nowMs s.client).2
        clientSent := s.clientSent ++
          (Session.pollTx settings.client nowMs s.client).1.toList } := by
  have heffect := pollTx_effect settings.client nowMs s.client
  obtain ⟨hinFlight, hsent⟩ := heffect.inFlight NoReset.of_sameButAcks h.inFlight
    fun _ hnew _ => ⟨hnew.valid, hnew.flags.1⟩
  refine ⟨h.agreement.pollTx nowMs, h.unclosed, h.stamped, hinFlight, fun bytes hmem => ?_,
    h.serverSent, ?_⟩
  · rcases List.mem_append.1 hmem with hold | hnew
    · exact h.clientSent bytes hold
    · obtain ⟨p, hp, hvalid, hrst⟩ := hsent bytes (Option.mem_toList.1 hnew)
      rw [hp]
      exact ⟨p, decode_encode hvalid p.payload, hrst⟩
  · rw [heffect.keeps.2]
    exact h.adopted

theorem Harmony.toClient (h : Harmony settings s) {bytes : Bytes} (hmem : bytes ∈ s.serverSent)
    (nowMs : U64) :
    Harmony settings
      { s with client := Session.onDatagramReceived settings.client bytes nowMs s.client } := by
  obtain ⟨-, -, heffect⟩ := onDatagramReceived_effect settings.client bytes nowMs s.client
  have hagreement := h.agreement.toClient bytes nowMs
  have hinFlight := heffect.inFlight h.inFlight
  rcases client_connId settings.client bytes nowMs s.client with
    hsame | ⟨-, packet, hdecode, hconnId⟩
  · exact h.setClient hagreement hsame hinFlight
  · refine ⟨hagreement, h.unclosed, h.stamped, hinFlight, h.clientSent, h.serverSent, fun _ => ?_⟩
    obtain ⟨packet', hdecode', hholder⟩ := h.serverSent bytes hmem
    rw [hdecode] at hdecode'
    obtain rfl := Option.some.inj hdecode'
    exact hconnId ▸ hholder

/-- The manager is called, and the endpoint keeps its identifier. -/
theorem Harmony.callManager (h : Harmony settings s) {op : ManagerOp}
    (hagreement : Agreement settings s') (horderly : op.Orderly s.server.manager)
    (hcall : s.callManager settings op = some s')
    (hkeeps : ∀ c, s.server.manager.holder settings.endpoint = some c →
      s'.server.manager.holder settings.endpoint = some c) : Harmony settings s' := by
  obtain ⟨server, hserver, rfl⟩ := Option.map_eq_some_iff.1 hcall
  refine ⟨hagreement, (unclosed_rule settings.server).step h.unclosed hserver,
    (serverStamped_rule settings.server).step h.stamped hserver, h.inFlight, h.clientSent,
    fun bytes hmem => ?_, fun hne => hkeeps _ (h.adopted hne)⟩
  have hsent : ∃ packet, decode bytes = some packet ∧
      s.server.manager.holder settings.endpoint = some packet.header.connId :=
    (List.mem_append.1 hmem).elim (h.serverSent bytes) (h.sentTo horderly)
  obtain ⟨packet, hdecode, hholder⟩ := hsent
  exact ⟨packet, hdecode, hkeeps _ hholder⟩

/-- What a manager that hears from somebody else, or is not told anything, leaves the endpoint with. -/
theorem Harmony.holder_of_call (h : Harmony settings s) {op : ManagerOp} {server : ServerRun}
    (hother : op.isFrom settings.endpoint = false) (hregular : s.Regular settings (.manager op))
    (hserver : s.server.step settings.server op = some server) :
    server.manager.holder settings.endpoint = s.server.manager.holder settings.endpoint := by
  have hsound := h.agreement.sound
  cases op with
  | onDatagramReceived random endpoint bytes nowMs =>
    obtain ⟨m', hm', rfl⟩ := Option.map_eq_some_iff.1 hserver
    have hne : settings.endpoint ≠ endpoint := fun heq => of_decide_eq_false hother heq.symm
    exact ((hsound.routed (onDatagramReceived_routed hm')).untouched _ hne).holder_eq
  | pollTx pendingOrder activeOrder nowMs =>
    obtain rfl := Option.some.inj hserver
    obtain ⟨⟨hp, ha⟩, hpending, hactive⟩ := hregular
    refine hsound.holder_of_poll hp.visits.nodup ha.visits.nodup (fun session hs => ?_)
      fun session hs => ?_
    · simpa [hs] using hpending
    · simpa [hs] using hactive
  | queueSend connId channelId channelType payload =>
    obtain rfl := Option.some.inj hserver
    exact (sameIds_queueSend channelId channelType payload).holder_eq
  | drainEvents pendingOrder activeOrder =>
    obtain rfl := Option.some.inj hserver
    exact (sameIds_drainEvents pendingOrder activeOrder).holder_eq
  | drainActiveEvents connId =>
    obtain rfl := Option.some.inj hserver
    exact sameIds_drainActiveEvents.holder_eq

/-- **One step** in which nobody is reset over a `conn_id`. -/
theorem Harmony.step (h : Harmony settings s) {op : PeerOp} (hregular : s.Regular settings op)
    (hpasses : s.passesConnIdCheck settings op = true) (hstep : s.step settings op = some s') :
    Harmony settings s' := by
  have hagreement := h.agreement.step hstep
  cases PeerSystem.step_cases hstep with
  | undelivered => exact h
  | queueSend channelId channelType payload => exact h.setClient hagreement rfl h.inFlight
  | requestClose =>
    refine h.setClient hagreement ?_ ?_ <;> rw [Session.requestClose] <;> split_ifs
    all_goals first | rfl | exact h.inFlight
  | drainEvents => exact h.setClient hagreement rfl h.inFlight
  | pollTx nowMs => exact h.pollTx nowMs
  | toClient nowMs hget => exact h.toClient (List.mem_of_getElem? hget) nowMs
  | @toServer random index nowMs bytes _ hget hcall =>
    have horderly : (ManagerOp.onDatagramReceived random settings.endpoint bytes nowMs).Orderly
      s.server.manager := trivial
    refine h.callManager hagreement horderly hcall fun c hholder => ?_
    obtain ⟨server, hserver, rfl⟩ := Option.map_eq_some_iff.1 hcall
    obtain ⟨m', hm', rfl⟩ := Option.map_eq_some_iff.1 hserver
    obtain ⟨packet, hdecode, hrst⟩ := h.clientSent bytes (List.mem_of_getElem? hget)
    refine h.agreement.sound.holder_of_datagram h.unclosed hdecode (classifyControlKind_ne_rst hrst)
      (fun session hsession => ?_) hm' hholder
    simpa [PeerSystem.passesConnIdCheck, hget, hsession] using hpasses
  | manager hother hcall =>
    refine h.callManager hagreement hregular.1 hcall fun c hholder => ?_
    obtain ⟨server, hserver, rfl⟩ := Option.map_eq_some_iff.1 hcall
    rw [h.holder_of_call hother hregular hserver]
    exact hholder

/-- The client never gets a foreign identifier. -/
theorem Harmony.client_passes (h : Harmony settings s) {bytes : Bytes}
    (hmem : bytes ∈ s.serverSent) (nowMs : U64) : failsConnIdCheck bytes nowMs s.client = false := by
  obtain ⟨packet, hdecode, hholder⟩ := h.serverSent bytes hmem
  rw [failsConnIdCheck_eq, hdecode, Option.any_some]
  by_cases hzero : s.client.connId = 0
  · simp [Session.hasConnIdMismatch, hzero]
  · rw [h.adopted hzero] at hholder
    simp [Session.hasConnIdMismatch, Option.some.inj hholder]

/-- A session that was just created, and one that is active, passes everything it gets. -/
theorem ServerSessionManager.Sound.recipient_passes {m : ServerSessionManager} {assigned : List U32}
    (h : Sound m assigned) {e : EndpointKey} (hnone : m.findPendingSession e = none)
    {random : Randomness} {bytes : Bytes} {session : SessionState}
    (hsession : m.recipient random e bytes = some session) (nowMs : U64) :
    failsConnIdCheck bytes nowMs session = false := by
  rw [failsConnIdCheck_eq]
  rw [recipient] at hsession
  cases hdecode : decode bytes with
  | none => rfl
  | some packet =>
    simp only [hdecode, hnone] at hsession
    rw [Option.any_some]
    by_cases hactive : packet.header.connId ≠ 0 ∧ m.hasActiveSession packet.header.connId
    · rw [if_pos hactive] at hsession
      split_ifs at hsession
      simp [Session.hasConnIdMismatch, (h.consistent.active_session _ session hsession).1]
    · rw [if_neg hactive] at hsession
      by_cases hzero : packet.header.connId = 0
      · rw [if_neg (not_not.2 hzero)] at hsession
        simp only [ensureSessionForNewPeer, hnone] at hsession
        split_ifs at hsession
        · cases hsession
        · -- Nothing is foreign to a closed server session as long as it comes without an identifier.
          obtain ⟨⟨_, _⟩, hcreated, rfl⟩ := Option.bind_eq_some_iff.1 hsession
          obtain ⟨c, -, heq⟩ := Option.map_eq_some_iff.1 hcreated
          obtain rfl := Option.some.inj (Prod.mk.inj heq).1
          simp [Session.hasConnIdMismatch, Session.allowsServerZeroConnIdBootstrap, hzero,
            Session.assignConnId, Session.init]
      · rw [if_pos hzero] at hsession
        cases hsession

/-- Which datagrams of the client a session of the manager takes for a stranger's. -/
theorem Harmony.server_passes (h : Harmony settings s) {bytes : Bytes}
    (hmem : bytes ∈ s.clientSent) (random : Randomness) (nowMs : U64) :
    ((s.server.manager.recipient random settings.endpoint bytes).all fun session =>
        !failsConnIdCheck bytes nowMs session) =
      ((s.server.manager.findPendingSession settings.endpoint).isNone || !isEarly bytes) := by
  have hsound := h.agreement.sound
  obtain ⟨packet, hdecode, -⟩ := h.clientSent bytes hmem
  have hknown := h.agreement.sent bytes hmem packet hdecode
  cases hs : s.server.manager.findPendingSession settings.endpoint with
  | none =>
    cases hrecipient : s.server.manager.recipient random settings.endpoint bytes with
    | none => rfl
    | some session => simp [hsound.recipient_passes hs hrecipient nowMs]
  | some session =>
    have hholder := holder_of_pending hs
    have hne : session.connId ≠ 0#32 := hsound.consistent.holder_ne_zero hholder
    have hopen : session.connectionState ≠ .closed := by
      rcases hsound.live.pending _ session hs with hstate | hstate <;> simp [hstate]
    by_cases hzero : packet.header.connId = 0
    · have hforeign : Session.hasConnIdMismatch session (classifyControlKind packet.header)
          packet.header = decide (classifyControlKind packet.header ≠ .syn) := by
        have hdiffer : packet.header.connId ≠ session.connId := fun heq => hne (heq.symm.trans hzero)
        simp [Session.hasConnIdMismatch, Session.allowsServerZeroConnIdBootstrap, hopen, hne,
          hdiffer]
      rw [recipient_of_pending hdecode (fun hconnId => absurd hzero hconnId) hs, Option.all_some,
        failsConnIdCheck_eq, isEarly, hdecode, Option.any_some, Option.any_some, hforeign]
      simp [hzero]
    · -- The client has learned its identifier, and there is only one.
      have hadopted : packet.header.connId = s.client.connId := hknown.resolve_left hzero
      have hsame : packet.header.connId = session.connId := by
        rw [h.adopted (hadopted ▸ hzero)] at hholder
        exact hadopted.trans (Option.some.inj hholder)
      have habsent : s.server.manager.findActiveSession packet.header.connId = none := by
        rw [hsame]
        exact hsound.representationInvariant.pending_active_distinct _ session hs
      rw [recipient_of_pending hdecode (fun _ => habsent) hs, Option.all_some, failsConnIdCheck_eq,
        isEarly, hdecode]
      simp [Session.hasConnIdMismatch, hsame, hne]

theorem Harmony.passes_iff (h : Harmony settings s) (op : PeerOp) :
    s.passesConnIdCheck settings op = true ↔ s.sparesPending settings op = true := by
  cases op with
  | toClient index nowMs =>
    refine iff_of_true ?_ rfl
    rw [PeerSystem.passesConnIdCheck]
    cases hget : s.serverSent[index]? with
    | none => rfl
    | some bytes => simp [h.client_passes (List.mem_of_getElem? hget) nowMs]
  | toServer random index nowMs =>
    rw [PeerSystem.passesConnIdCheck, PeerSystem.sparesPending]
    cases hget : s.clientSent[index]? with
    | none => simp
    | some bytes =>
      rw [Option.all_some, Option.all_some,
        h.server_passes (List.mem_of_getElem? hget) random nowMs]
  | queueSend | requestClose | drainEvents | pollTx | manager => exact Iff.rfl

end Harmony

end Rudp
