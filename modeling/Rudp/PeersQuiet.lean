import Rudp.PeersMismatch
import Rudp.SessionGreeting

/-!
# A client that waits for its identifier

If the application queues nothing before the client has learned its identifier, everything that the
client sends without one is a SYN, and no session is ever reset over a `conn_id`.
-/

namespace Rudp

open ServerSessionManager

/-- The application queues data only once the client has its identifier. -/
def PeerSystem.queuesInTime (s : PeerSystem) : PeerOp → Bool
  | .queueSend _ _ _ => s.client.connId ≠ 0
  | .requestClose | .drainEvents | .pollTx _ | .toClient _ _ | .toServer _ _ _ | .manager _ => true

/-- The packet decodes, and is a SYN if it carries no identifier. -/
def NotEarly (p : PacketView) : Prop :=
  isValidHeader p.header = true ∧ (p.header.connId = 0 → classifyControlKind p.header = .syn)

theorem NotEarly.of_sameButAcks {p q : PacketView} (h : SameButAcks p q) (hp : NotEarly p) :
    NotEarly q := by
  obtain ⟨_, _, rfl⟩ := h
  exact hp

theorem NotEarly.isEarly_eq {p : PacketView} (h : NotEarly p) {bytes : Bytes}
    (hbytes : bytes = encode p.header p.payload) : isEarly bytes = false := by
  rw [isEarly, hbytes, decode_encode h.1, Option.any_some]
  simpa using h.2

/-- A pending session has nothing to say but what belongs to the handshake. -/
theorem greets_rule (transport : TransportSettings) : PendingRule transport Greets where
  created := fun random _ => ⟨rfl, rfl, rfl, @inFlight_empty _ .server random.initialSeq⟩
  received := fun bytes _ h => h.receive bytes
  polled := fun _ h => h.poll.1
  drained := fun h => ⟨h.role, h.pendingSend, h.fin, h.inFlight⟩

/-- The client has said nothing but SYN without its identifier, and before it gets one it hears
nothing that it would have to answer. -/
structure Patience (settings : PeerSettings) (s : PeerSystem) : Prop where
  harmony : Harmony settings s
  greets : AllPending Greets s.server.manager
  inFlight : InFlight NotEarly s.client.tx
  sent : ∀ bytes ∈ s.clientSent, isEarly bytes = false
  greeting : s.client.connId = 0 → Greeting s.client
  unheard : s.client.connId = 0 → s.client.connectionState = .closed → s.clientSent = []
  unknown : s.clientSent = [] → s.server.manager.holder settings.endpoint = none
  serverSent : s.client.connId = 0 → ∀ bytes ∈ s.serverSent,
    ∃ packet, decode bytes = some packet ∧ IsGreeting packet

section Patience

variable {settings : PeerSettings} {s s' : PeerSystem}

theorem patience_start (settings : PeerSettings) (initialSeq : U32) :
    Patience settings (.start initialSeq) where
  harmony := harmony_start settings initialSeq
  greets := fun _ _ hs => nomatch hs
  inFlight := @inFlight_empty _ .client initialSeq
  sent := fun _ hmem => nomatch hmem
  greeting := fun _ => ⟨rfl, rfl, rfl, Or.inl ⟨rfl, by simp [PeerSystem.start, Session.init,
    TxHandler.reliableWindowFull, kReliableWindowSize]⟩⟩
  unheard := fun _ _ => rfl
  unknown := fun _ => rfl
  serverSent := fun _ _ hmem => nomatch hmem

/-- No step of such a run gets in the way of a pending session. -/
theorem Patience.spares (h : Patience settings s) (op : PeerOp) :
    s.sparesPending settings op = true := by
  cases op with
  | toServer random index nowMs =>
    rw [PeerSystem.sparesPending]
    cases hget : s.clientSent[index]? with
    | none => simp
    | some bytes => simp [h.sent bytes (List.mem_of_getElem? hget)]
  | queueSend | requestClose | drainEvents | pollTx | toClient | manager => rfl

/-- What the client sends in a poll is in time, or a SYN. -/
theorem Patience.poll_sends (h : Patience settings s) (nowMs : U64) {p : PacketView}
    (hvalid : isValidHeader p.header = true) (hconnId : p.header.connId = s.client.connId)
    (hout : (Session.pollTx settings.client nowMs s.client).1 = some (encode p.header p.payload)) :
    NotEarly p := by
  refine ⟨hvalid, fun hzero => ?_⟩
  have hsame : ∀ {header : Header} {payload : Bytes}, isValidHeader header = true →
      encode p.header p.payload = encode header payload → p.header = header := by
    intro header payload hheader heq
    have hdecode := decode_encode hvalid p.payload
    rw [heq, decode_encode hheader] at hdecode
    exact (congrArg PacketView.header (Option.some.inj hdecode)).symm
  rcases (h.greeting (hconnId.symm.trans hzero)).poll.2.2 _ hout with hsyn | ⟨k, entry, hget, hold⟩
  · have hcause : ControlCause .client .closed s.client.tx Flag.syn.toFlags _ _ := .syn rfl rfl
    rw [hsame hcause.kind.1 hsyn, @classifyControlKind_of_flags _ Flag.syn.toFlags rfl]
    decide
  · have hentry := (h.inFlight k entry hget).of_sameButAcks
      (refresh_sameButAcks s.client.rx entry.packet)
    have hheader := hsame hentry.1 hold
    rw [hheader]
    exact hentry.2 (hheader ▸ hzero)

theorem Patience.pollTx (h : Patience settings s) (nowMs : U64) :
    Patience settings
      { s with
        client := (Session.pollTx settings.client nowMs s.client).2
        clientSent := s.clientSent ++
          (Session.pollTx settings.client nowMs s.client).1.toList } := by
  have heffect := pollTx_effect settings.client nowMs s.client
  obtain ⟨-, hconnId⟩ := heffect.keeps
  obtain ⟨hinFlight, hsent⟩ := heffect.inFlight NotEarly.of_sameButAcks h.inFlight
    fun _ hnew hout => h.poll_sends nowMs hnew.valid hnew.connId_eq hout
  refine ⟨h.harmony.pollTx nowMs, h.greets, hinFlight, fun bytes hmem => ?_, fun hzero => ?_,
    fun hzero hclosed => ?_, fun hnone => h.unknown (List.append_eq_nil_iff.1 hnone).1,
    fun hzero => h.serverSent (hconnId.symm.trans hzero)⟩
  · rcases List.mem_append.1 hmem with hold | hnew
    · exact h.sent bytes hold
    · obtain ⟨p, hp, hearly⟩ := hsent bytes (Option.mem_toList.1 hnew)
      exact hearly.isEarly_eq hp
  · exact (h.greeting (hconnId.symm.trans hzero)).poll.1
  · exact absurd hclosed (h.greeting (hconnId.symm.trans hzero)).poll.2.1

/-- The client does something that sends nothing and adopts nothing. -/
theorem Patience.setClient (h : Patience settings s) {client : SessionState}
    (hharmony : Harmony settings { s with client }) (hconnId : client.connId = s.client.connId)
    (hinFlight : InFlight NotEarly client.tx)
    (hgreeting : s.client.connId = 0 → Greeting client)
    (hstate : s.client.connId = 0 → client.connectionState = s.client.connectionState) :
    Patience settings { s with client } where
  harmony := hharmony
  greets := h.greets
  inFlight := hinFlight
  sent := h.sent
  greeting := fun hzero => hgreeting (hconnId.symm.trans hzero)
  unheard := fun hzero hclosed => h.unheard (hconnId.symm.trans hzero)
    ((hstate (hconnId.symm.trans hzero)).symm.trans hclosed)
  unknown := h.unknown
  serverSent := fun hzero => h.serverSent (hconnId.symm.trans hzero)

theorem Patience.toClient (h : Patience settings s) {bytes : Bytes} (hmem : bytes ∈ s.serverSent)
    (nowMs : U64) :
    Patience settings
      { s with client := Session.onDatagramReceived settings.client bytes nowMs s.client } := by
  have hfixed : s.client.connId ≠ 0 →
      (Session.onDatagramReceived settings.client bytes nowMs s.client).connId = s.client.connId :=
    fun hne => (client_connId settings.client bytes nowMs s.client).resolve_right fun hor =>
      hne hor.1
  have hbefore : (Session.onDatagramReceived settings.client bytes nowMs s.client).connId = 0 →
      s.client.connId = 0 := fun hzero => by_contra fun hne => hne ((hfixed hne).symm.trans hzero)
  obtain ⟨packet', hdecode', hholder⟩ := h.harmony.serverSent bytes hmem
  have hreceived : (Session.onDatagramReceived settings.client bytes nowMs s.client).connId = 0 →
      Greeting (Session.onDatagramReceived settings.client bytes nowMs s.client) ∧
        (Session.onDatagramReceived settings.client bytes nowMs s.client).connectionState ≠
          .closed := by
    intro hzero
    have hopen : s.client.connectionState ≠ .closed := by
      intro hclosed
      rw [h.unknown (h.unheard (hbefore hzero) hclosed)] at hholder
      cases hholder
    obtain ⟨packet, hdecode, hgreeting⟩ := h.serverSent (hbefore hzero) bytes hmem
    rw [hdecode] at hdecode'
    obtain rfl := Option.some.inj hdecode'
    have hne := h.harmony.agreement.sound.consistent.holder_ne_zero hholder
    exact ((h.greeting (hbefore hzero)).receive hopen hdecode hne hgreeting.2.1
      hgreeting.ne_fin).resolve_left fun hne' => hne' hzero
  exact {
    harmony := h.harmony.toClient hmem nowMs
    greets := h.greets
    inFlight := (onDatagramReceived_effect settings.client bytes nowMs s.client).2.2.inFlight
      h.inFlight
    sent := h.sent
    greeting := fun hzero => (hreceived hzero).1
    unheard := fun hzero hclosed => absurd hclosed (hreceived hzero).2
    unknown := h.unknown
    serverSent := fun hzero => h.serverSent (hbefore hzero) }

/-- The manager is called. -/
theorem Patience.callManager (h : Patience settings s) {op : ManagerOp}
    (hharmony : Harmony settings s') (horderly : op.Orderly s.server.manager)
    (hcall : s.callManager settings op = some s')
    (hallocates : s.clientSent = [] →
      ∀ c, (settings.endpoint, c) ∉ op.allocates s.server.manager) : Patience settings s' := by
  obtain ⟨server, hserver, rfl⟩ := Option.map_eq_some_iff.1 hcall
  have hsound := h.harmony.agreement.sound
  refine ⟨hharmony, (greets_rule settings.server).step h.greets hserver, h.inFlight, h.sent,
    h.greeting, h.unheard, fun hnone => ?_, fun hzero bytes hmem => ?_⟩
  · cases hholder : server.manager.holder settings.endpoint with
    | none => rfl
    | some c =>
      rcases (ServerRun.step_tenure hsound hserver settings.endpoint).holder c hholder with
        hold | hnew
      · rw [h.unknown hnone] at hold
        cases hold
      · exact absurd hnew (hallocates hnone c)
  · rcases List.mem_append.1 hmem with hold | hnew
    · exact h.serverSent hzero bytes hold
    · obtain ⟨session, nowMs, hs | hs, hbytes⟩ := ManagerOp.exists_poll hsound horderly hnew
      · exact (h.greets _ session hs).poll.2 bytes hbytes
      · -- An active session would have the client's identifier.
        obtain ⟨c, hc, -⟩ := Option.bind_eq_some_iff.1 hs
        have hne := hsound.consistent.holder_ne_zero (hsound.consistent.holder_of_active hc)
        exact absurd ((h.harmony.agreement.active c hc).trans hzero) hne

/-- **One step.** -/
theorem Patience.step (h : Patience settings s) {op : PeerOp} (hregular : s.Regular settings op)
    (hqueues : s.queuesInTime op = true) (hstep : s.step settings op = some s') :
    Patience settings s' := by
  have hharmony := h.harmony.step hregular ((h.harmony.passes_iff op).2 (h.spares op)) hstep
  cases PeerSystem.step_cases hstep with
  | undelivered => exact h
  | queueSend channelId channelType payload =>
    have hne : s.client.connId ≠ 0 := of_decide_eq_true hqueues
    exact h.setClient hharmony rfl h.inFlight (fun hzero => absurd hzero hne) fun _ => rfl
  | requestClose =>
    by_cases hstate : s.client.connectionState = .established
    · have hne : s.client.connId ≠ 0 := fun hzero => (h.greeting hzero).not_established hstate
      refine h.setClient hharmony ?_ ?_ (fun hzero => absurd hzero hne)
        fun hzero => absurd hzero hne
      · rw [Session.requestClose, if_pos hstate]
      · rw [Session.requestClose, if_pos hstate]
        exact h.inFlight
    · have hsame : Session.requestClose s.client = s.client := if_neg hstate
      rw [hsame] at hharmony ⊢
      exact h
  | drainEvents =>
    refine h.setClient hharmony rfl h.inFlight (fun hzero => ?_) fun _ => rfl
    have hgreeting := h.greeting hzero
    exact ⟨hgreeting.role, hgreeting.connId, hgreeting.silent, hgreeting.state⟩
  | pollTx nowMs => exact h.pollTx nowMs
  | toClient nowMs hget => exact h.toClient (List.mem_of_getElem? hget) nowMs
  | @toServer random index nowMs bytes _ hget hcall =>
    have horderly : (ManagerOp.onDatagramReceived random settings.endpoint bytes nowMs).Orderly
      s.server.manager := trivial
    refine h.callManager hharmony horderly hcall fun hnone => ?_
    rw [hnone] at hget
    cases hget
  | @manager op _ hother hcall =>
    refine h.callManager hharmony hregular.1 hcall fun _ c hmem => ?_
    cases op with
    | onDatagramReceived random endpoint bytes nowMs =>
      obtain ⟨_, -, heq⟩ := List.mem_map.1 hmem
      obtain ⟨rfl, -⟩ := Prod.mk.inj heq
      simp [ManagerOp.isFrom] at hother
    | pollTx | queueSend | drainEvents | drainActiveEvents => cases hmem

end Patience

/-! ## Every run -/

/-- **Exactly the runs in which nobody is reset over a `conn_id`.** Let a client and a manager get
only each other's datagrams, lost, repeated and reordered as may be, and let no session of the
client's endpoint be given up. Then no session is ever reset over its `conn_id` if and only if no
packet but a SYN that the client sent without an identifier reaches a pending session; and this
holds of every run in which the application waits for the identifier before it queues data. -/
theorem connId_check_iff (settings : PeerSettings) (initialSeq : U32) {ops : List PeerOp}
    (hregular : Run.AlongM (PeerSystem.step settings) (PeerSystem.Regular settings)
      (.start initialSeq) ops) :
    (Run.AlongM (PeerSystem.step settings)
        (fun s op => s.passesConnIdCheck settings op = true) (.start initialSeq) ops ↔
      Run.AlongM (PeerSystem.step settings)
        (fun s op => s.sparesPending settings op = true) (.start initialSeq) ops) ∧
    (Run.AlongM (PeerSystem.step settings)
        (fun s op => s.queuesInTime op = true) (.start initialSeq) ops →
      Run.AlongM (PeerSystem.step settings)
        (fun s op => s.passesConnIdCheck settings op = true) (.start initialSeq) ops) := by
  constructor
  · exact Run.AlongM.iff_of_invariant (Harmony settings) (fun s op h _ => h.passes_iff op)
      (fun s op s' h hs hpasses hstep => h.step hs hpasses hstep)
      (harmony_start settings initialSeq) hregular
  · intro hqueues
    exact (Run.alongM_and hregular hqueues).of_invariant (Patience settings)
      (fun s op h _ => (h.harmony.passes_iff op).2 (h.spares op))
      (fun s op s' h hs hstep => h.step hs.1 hs.2 hstep) (patience_start settings initialSeq)

/-- The application waits for the handshake, and sends a message then. -/
def lateMessage : List PeerOp :=
  handshake ++ [.queueSend 1 .reliableOrdered [0x01], .pollTx 2, .toServer ⟨0, []⟩ 2 2]

theorem connId_check_lateMessage :
    Run.AlongM (PeerSystem.step clientPeer) (fun s op => s.queuesInTime op = true) (.start 500)
      lateMessage ∧
    Run.AlongM (PeerSystem.step clientPeer)
      (fun s op => s.passesConnIdCheck clientPeer op = true) (.start 500) lateMessage := by
  have hregular : Run.AlongM (PeerSystem.step clientPeer) (PeerSystem.Regular clientPeer)
      (.start 500) lateMessage := by
    decide +kernel
  have hqueues : Run.AlongM (PeerSystem.step clientPeer) (fun s op => s.queuesInTime op = true)
      (.start 500) lateMessage := by
    decide +kernel
  exact ⟨hqueues, (connId_check_iff clientPeer 500 hregular).2 hqueues⟩

/-- The application does not wait: its message follows the SYN. -/
def earlyMessage : List PeerOp :=
  [.queueSend 1 .unreliable [0x01],
    .pollTx 0,
    .pollTx 0,
    .toServer ⟨100, [(0, 7)]⟩ 0 0,
    .toServer ⟨0, []⟩ 1 0]

/-- The pending session takes the message for a stranger's, is reset and removed. -/
theorem early_message_resets :
    Run.AlongM (PeerSystem.step clientPeer) (PeerSystem.Regular clientPeer) (.start 500)
      earlyMessage ∧
    ((Run.runM (PeerSystem.step clientPeer) (.start 500) earlyMessage).map fun s =>
      (s.server.manager.pendingByEndpoint.keys, s.server.manager.retiredConnIds)) =
        some (∅, {7}) ∧
    ¬ Run.AlongM (PeerSystem.step clientPeer)
      (fun s op => s.passesConnIdCheck clientPeer op = true) (.start 500) earlyMessage := by
  decide +kernel

end Rudp
