import Rudp.ManagerTenure

/-!
# A client and its server

One client session at one endpoint, and one manager, joined by a network that may lose, repeat,
delay and reorder datagrams. It does not make any up: what reaches the client, the manager has sent
to its endpoint, and what reaches the manager from there, the client has sent. Other endpoints may
send the manager any bytes at all.

The client takes over the identifier of the first SYN-ACK that reaches it, and never another one.
All it ever sends carries that identifier, or none. A session of the manager becomes active by an
ACK that carries its identifier; so this is the client's (`connId_agreement`), however many sessions
the manager has begun for the client and given up since.
-/

namespace Rudp

open ServerSessionManager

/-! ## The system -/

/-- Where the client is, and the settings of both programs. -/
structure PeerSettings where
  endpoint : EndpointKey
  client : TransportSettings := {}
  server : TransportSettings := {}

/-- Both programs, every datagram that each has sent to the other, and the identifiers that the
manager has allocated, with the endpoints it allocated them for. -/
structure PeerSystem where
  client : SessionState
  server : ServerRun := {}
  clientSent : List Bytes := []
  serverSent : List Bytes := []
  allocated : List (EndpointKey × U32) := []

def PeerSystem.start (initialSeq : U32) : PeerSystem :=
  { client := Session.init .client initialSeq }

/-- What can happen next. The client's application acts, the client is polled, a datagram of the
past reaches one of the two, or the manager is called. -/
inductive PeerOp where
  | queueSend (channelId : U32) (channelType : ChannelType) (payload : Bytes)
  | requestClose
  | drainEvents
  | pollTx (nowMs : U64)
  | toClient (index : ℕ) (nowMs : U64)
  | toServer (random : Randomness) (index : ℕ) (nowMs : U64)
  | manager (op : ManagerOp)

/-- The operation is a datagram from the endpoint. -/
def ManagerOp.isFrom (endpoint : EndpointKey) : ManagerOp → Bool
  | .onDatagramReceived _ e _ _ => e = endpoint
  | .pollTx _ _ _ | .queueSend _ _ _ _ | .drainEvents _ _ | .drainActiveEvents _ => false

/-- What the operation makes the manager send to the endpoint. -/
def ManagerOp.sentTo (transport : TransportSettings) (m : ServerSessionManager)
    (endpoint : EndpointKey) : ManagerOp → List Bytes
  | .pollTx pendingOrder activeOrder nowMs =>
    ((m.pollTx transport pendingOrder activeOrder nowMs).1.filter fun datagram =>
      datagram.endpoint = endpoint).map OutboundDatagram.bytes
  | .onDatagramReceived _ _ _ _ | .queueSend _ _ _ _ | .drainEvents _ _ | .drainActiveEvents _ => []

def PeerSystem.callManager (settings : PeerSettings) (s : PeerSystem) (op : ManagerOp) :
    Option PeerSystem :=
  (s.server.step settings.server op).map fun server =>
    { s with
      server
      serverSent := s.serverSent ++ op.sentTo settings.server s.server.manager settings.endpoint
      allocated := s.allocated ++ op.allocates s.server.manager }

/-- An index without a datagram, and a datagram from the client's endpoint that the client has not
sent, are not delivered. -/
def PeerSystem.step (settings : PeerSettings) (s : PeerSystem) : PeerOp → Option PeerSystem
  | .queueSend channelId channelType payload =>
    some { s with client := Session.queueSend channelId channelType payload s.client }
  | .requestClose => some { s with client := Session.requestClose s.client }
  | .drainEvents => some { s with client := (Session.drainEvents s.client).2 }
  | .pollTx nowMs =>
    let polled := Session.pollTx settings.client nowMs s.client
    some { s with client := polled.2, clientSent := s.clientSent ++ polled.1.toList }
  | .toClient index nowMs =>
    match s.serverSent[index]? with
    | none => some s
    | some bytes =>
      some { s with client := Session.onDatagramReceived settings.client bytes nowMs s.client }
  | .toServer random index nowMs =>
    match s.clientSent[index]? with
    | none => some s
    | some bytes =>
      s.callManager settings (.onDatagramReceived random settings.endpoint bytes nowMs)
  | .manager op => if op.isFrom settings.endpoint then some s else s.callManager settings op

/-- Everything a step can do. -/
inductive PeerStep (settings : PeerSettings) (s : PeerSystem) : PeerOp → PeerSystem → Prop where
  | undelivered {op : PeerOp} : PeerStep settings s op s
  | queueSend (channelId : U32) (channelType : ChannelType) (payload : Bytes) :
      PeerStep settings s (.queueSend channelId channelType payload)
        { s with client := Session.queueSend channelId channelType payload s.client }
  | requestClose :
      PeerStep settings s .requestClose { s with client := Session.requestClose s.client }
  | drainEvents :
      PeerStep settings s .drainEvents { s with client := (Session.drainEvents s.client).2 }
  | pollTx (nowMs : U64) :
      PeerStep settings s (.pollTx nowMs)
        { s with
          client := (Session.pollTx settings.client nowMs s.client).2
          clientSent := s.clientSent ++
            (Session.pollTx settings.client nowMs s.client).1.toList }
  | toClient {index : ℕ} (nowMs : U64) {bytes : Bytes} (hget : s.serverSent[index]? = some bytes) :
      PeerStep settings s (.toClient index nowMs)
        { s with client := Session.onDatagramReceived settings.client bytes nowMs s.client }
  | toServer {random : Randomness} {index : ℕ} {nowMs : U64} {bytes : Bytes} {s' : PeerSystem}
      (hget : s.clientSent[index]? = some bytes)
      (hcall : s.callManager settings
        (.onDatagramReceived random settings.endpoint bytes nowMs) = some s') :
      PeerStep settings s (.toServer random index nowMs) s'
  | manager {op : ManagerOp} {s' : PeerSystem} (hother : op.isFrom settings.endpoint = false)
      (hcall : s.callManager settings op = some s') : PeerStep settings s (.manager op) s'

theorem PeerSystem.step_cases {settings : PeerSettings} {s s' : PeerSystem} {op : PeerOp}
    (hstep : s.step settings op = some s') : PeerStep settings s op s' := by
  cases op with
  | queueSend channelId channelType payload =>
    exact Option.some.inj hstep ▸ .queueSend channelId channelType payload
  | requestClose => exact Option.some.inj hstep ▸ .requestClose
  | drainEvents => exact Option.some.inj hstep ▸ .drainEvents
  | pollTx nowMs => exact Option.some.inj hstep ▸ .pollTx nowMs
  | toClient index nowMs =>
    rw [PeerSystem.step] at hstep
    cases hget : s.serverSent[index]? with
    | none =>
      rw [hget] at hstep
      exact Option.some.inj hstep ▸ .undelivered
    | some bytes =>
      rw [hget] at hstep
      exact Option.some.inj hstep ▸ .toClient nowMs hget
  | toServer random index nowMs =>
    rw [PeerSystem.step] at hstep
    cases hget : s.clientSent[index]? with
    | none =>
      rw [hget] at hstep
      exact Option.some.inj hstep ▸ .undelivered
    | some bytes =>
      rw [hget] at hstep
      exact .toServer hget hstep
  | manager op =>
    rw [PeerSystem.step] at hstep
    by_cases hfrom : op.isFrom settings.endpoint = true
    · rw [if_pos hfrom] at hstep
      exact Option.some.inj hstep ▸ .undelivered
    · rw [if_neg hfrom] at hstep
      exact .manager (Bool.eq_false_iff.2 hfrom) hstep

/-! ## Agreement -/

/-- The packet decodes, and carries the client's identifier or none. -/
def FromClient (connId : U32) (p : PacketView) : Prop :=
  isValidHeader p.header = true ∧ (p.header.connId = 0 ∨ p.header.connId = connId)

theorem FromClient.of_sameButAcks {connId : U32} {p q : PacketView} (h : SameButAcks p q)
    (hp : FromClient connId p) : FromClient connId q := by
  obtain ⟨_, _, rfl⟩ := h
  exact hp

/-- The client knows the identifier that its endpoint is bound to; and so that this stays so, all
that is under way from the client carries no other. -/
structure Agreement (settings : PeerSettings) (s : PeerSystem) : Prop where
  sound : Sound s.server.manager s.server.assigned
  role : s.client.role = .client
  inFlight : InFlight (FromClient s.client.connId) s.client.tx
  sent : ∀ bytes ∈ s.clientSent, ∀ packet, decode bytes = some packet →
    packet.header.connId = 0 ∨ packet.header.connId = s.client.connId
  allocated : ∀ c, s.server.manager.holder settings.endpoint = some c →
    (settings.endpoint, c) ∈ s.allocated
  active : ∀ c, s.server.manager.activeConnId settings.endpoint = some c → c = s.client.connId

section Step

variable {settings : PeerSettings} {s s' : PeerSystem}

theorem agreement_start (settings : PeerSettings) (initialSeq : U32) :
    Agreement settings (.start initialSeq) where
  sound := sound_empty
  role := rfl
  inFlight := @inFlight_empty _ .client initialSeq
  sent := fun _ hmem => nomatch hmem
  allocated := fun _ hc => nomatch hc
  active := fun _ hc => nomatch hc

/-- The client does something that leaves its identifier alone. -/
theorem Agreement.setClient (h : Agreement settings s) {client : SessionState}
    (hrole : client.role = s.client.role) (hconnId : client.connId = s.client.connId)
    (hinFlight : InFlight (FromClient s.client.connId) client.tx) :
    Agreement settings { s with client } where
  sound := h.sound
  role := hrole.trans h.role
  inFlight := by
    rw [hconnId]
    exact hinFlight
  sent := by
    rw [hconnId]
    exact h.sent
  allocated := h.allocated
  active := by
    rw [hconnId]
    exact h.active

theorem Agreement.pollTx (h : Agreement settings s) (nowMs : U64) :
    Agreement settings
      { s with
        client := (Session.pollTx settings.client nowMs s.client).2
        clientSent := s.clientSent ++
          (Session.pollTx settings.client nowMs s.client).1.toList } := by
  have heffect := pollTx_effect settings.client nowMs s.client
  obtain ⟨hrole, hconnId⟩ := heffect.keeps
  obtain ⟨hinFlight, hsent⟩ := heffect.inFlight FromClient.of_sameButAcks h.inFlight
    fun _ hnew _ => ⟨hnew.valid, Or.inr hnew.connId_eq⟩
  have hclient := h.setClient hrole hconnId hinFlight
  refine ⟨hclient.sound, hclient.role, hclient.inFlight, fun bytes hmem packet hdecode => ?_,
    hclient.allocated, hclient.active⟩
  rcases List.mem_append.1 hmem with hold | hnew
  · exact hclient.sent bytes hold packet hdecode
  · obtain ⟨p, hp, hvalid, hknown⟩ := hsent bytes (Option.mem_toList.1 hnew)
    rw [hp, decode_encode hvalid] at hdecode
    obtain rfl := Option.some.inj hdecode
    rw [hconnId]
    exact hknown

/-- The client takes over an identifier only while it has none. -/
theorem client_connId (transport : TransportSettings) (bytes : Bytes) (nowMs : U64)
    (client : SessionState) :
    (Session.onDatagramReceived transport bytes nowMs client).connId = client.connId ∨
      client.connId = 0 ∧ ∃ packet, decode bytes = some packet ∧
        (Session.onDatagramReceived transport bytes nowMs client).connId = packet.header.connId := by
  rw [onDatagramReceived_connId]
  cases decode bytes with
  | none => exact Or.inl rfl
  | some packet =>
    simp only
    split_ifs with hadopt
    · simp only [Session.shouldAdoptServerConnId, Bool.and_eq_true, decide_eq_true_eq] at hadopt
      exact Or.inr ⟨hadopt.1.2, packet, rfl, rfl⟩
    · exact Or.inl rfl

theorem Agreement.toClient (h : Agreement settings s) (bytes : Bytes) (nowMs : U64) :
    Agreement settings
      { s with client := Session.onDatagramReceived settings.client bytes nowMs s.client } := by
  obtain ⟨hrole, -, heffect⟩ := onDatagramReceived_effect settings.client bytes nowMs s.client
  have hinFlight := heffect.inFlight h.inFlight
  rcases client_connId settings.client bytes nowMs s.client with hsame | ⟨hzero, -⟩
  · exact h.setClient hrole hsame hinFlight
  · -- So far the client has sent under no identifier, and nothing is active.
    refine ⟨h.sound, hrole.trans h.role, hinFlight.mono fun p hp => ⟨hp.1, Or.inl ?_⟩,
      fun bytes hmem packet hdecode => Or.inl ?_, h.allocated, fun c hc => ?_⟩
    · simpa [hzero] using hp.2
    · simpa [hzero] using h.sent bytes hmem packet hdecode
    · have hne := h.sound.consistent.holder_ne_zero (h.sound.consistent.holder_of_active hc)
      exact absurd ((h.active c hc).trans hzero) hne

/-- The manager is called; a datagram from the client's endpoint is one of the client's. -/
theorem Agreement.callManager (h : Agreement settings s) {op : ManagerOp}
    (hop : ∀ c, op.Carries settings.endpoint c → c = 0 ∨ c = s.client.connId)
    (hstep : s.callManager settings op = some s') : Agreement settings s' := by
  obtain ⟨server, hserver, rfl⟩ := Option.map_eq_some_iff.1 hstep
  have hsound := ServerRun.step_sound h.sound hserver
  have htenure := ServerRun.step_tenure h.sound hserver settings.endpoint
  refine ⟨hsound, h.role, h.inFlight, h.sent, fun c hc => ?_, fun c hc => ?_⟩
  · rw [List.mem_append]
    exact (htenure.holder c hc).imp (h.allocated c) id
  · rcases htenure.active c hc with hold | hcarries
    · exact h.active c hold
    · have hne := hsound.consistent.holder_ne_zero (hsound.consistent.holder_of_active hc)
      exact (hop c hcarries).resolve_left hne

/-- **One step.** -/
theorem Agreement.step (h : Agreement settings s) {op : PeerOp}
    (hstep : s.step settings op = some s') : Agreement settings s' := by
  cases PeerSystem.step_cases hstep with
  | undelivered => exact h
  | queueSend channelId channelType payload => exact h.setClient rfl rfl h.inFlight
  | requestClose =>
    refine h.setClient ?_ ?_ ?_ <;> rw [Session.requestClose] <;> split_ifs
    all_goals first | rfl | exact h.inFlight
  | drainEvents => exact h.setClient rfl rfl h.inFlight
  | pollTx nowMs => exact h.pollTx nowMs
  | toClient nowMs hget => exact h.toClient _ nowMs
  | toServer hget hcall =>
    refine h.callManager (fun c hcarries => ?_) hcall
    obtain ⟨_, _, _, packet, heq, hdecode, rfl⟩ := hcarries
    injection heq with _ _ hbytes _
    rw [← hbytes] at hdecode
    exact h.sent _ (List.mem_of_getElem? hget) packet hdecode
  | manager hother hcall =>
    refine h.callManager (fun c hcarries => ?_) hcall
    obtain ⟨_, _, _, _, rfl, -, -⟩ := hcarries
    simp [ManagerOp.isFrom] at hother

/-- The client's identifier is for good. -/
theorem PeerSystem.step_connId {op : PeerOp} (hstep : s.step settings op = some s')
    (hne : s.client.connId ≠ 0) : s'.client.connId = s.client.connId := by
  have hcalled : ∀ {op}, s.callManager settings op = some s' →
      s'.client.connId = s.client.connId := by
    intro op hcall
    obtain ⟨_, -, rfl⟩ := Option.map_eq_some_iff.1 hcall
    rfl
  cases PeerSystem.step_cases hstep with
  | undelivered => rfl
  | queueSend channelId channelType payload => rfl
  | requestClose =>
    simp only [Session.requestClose]
    split_ifs <;> rfl
  | drainEvents => rfl
  | pollTx nowMs => exact (pollTx_effect settings.client nowMs s.client).keeps.2
  | toClient nowMs hget =>
    exact (client_connId settings.client _ nowMs s.client).resolve_right fun h => hne h.1
  | toServer hget hcall => exact hcalled hcall
  | manager hother hcall => exact hcalled hcall

end Step

/-- **The client and the manager agree on the identifier.** Whatever the network does, and whatever
other endpoints send: if the client's endpoint is bound to an active session, the client has its
identifier, and the manager has allocated it for this endpoint. The endpoint is never bound to any
other from then on. -/
theorem connId_agreement (settings : PeerSettings) (initialSeq : U32) {ops : List PeerOp}
    {s : PeerSystem} (hrun : Run.runM (PeerSystem.step settings) (.start initialSeq) ops = some s)
    {connId : U32}
    (hactive : s.server.manager.activeConnIdByEndpoint.lookup settings.endpoint = some connId) :
    s.client.connId = connId ∧ (settings.endpoint, connId) ∈ s.allocated ∧
      ∀ later s' connId', Run.runM (PeerSystem.step settings) s later = some s' →
        s'.server.manager.activeConnIdByEndpoint.lookup settings.endpoint = some connId' →
        connId' = connId := by
  have h : Agreement settings s := Run.invariantM (Agreement settings)
    (fun _ _ _ h hstep => h.step hstep) (agreement_start settings initialSeq) hrun
  have hholder := h.sound.consistent.holder_of_active hactive
  have hagree : connId = s.client.connId := h.active connId hactive
  have hne : s.client.connId ≠ 0 := hagree ▸ h.sound.consistent.holder_ne_zero hholder
  refine ⟨hagree.symm, h.allocated connId hholder, fun later s' connId' hlater hactive' => ?_⟩
  have hfinal : Agreement settings s' ∧ s'.client.connId = s.client.connId := by
    refine Run.invariantM (fun t => Agreement settings t ∧ t.client.connId = s.client.connId)
      (fun t op t' ht hstep => ⟨ht.1.step hstep, ?_⟩) ⟨h, rfl⟩ hlater
    rw [PeerSystem.step_connId hstep (ht.2.symm ▸ hne), ht.2]
  rw [hfinal.1.active connId' hactive', hfinal.2, hagree]

def clientPeer : PeerSettings := { endpoint := clientEndpoint }

/-- A SYN, delivered twice, a SYN-ACK, and the ACK that completes the handshake; in between,
somebody else claims the identifier. -/
def handshake : List PeerOp :=
  [.pollTx 0,
    .toServer ⟨100, [(0, 7)]⟩ 0 0,
    .toServer ⟨0, []⟩ 0 0,
    .manager (.onDatagramReceived ⟨0, []⟩ otherEndpoint (controlDatagram 7 Flag.ack.toFlags 0 0 0) 0),
    .manager (.pollTx [clientEndpoint] [] 0),
    .toClient 0 1,
    .pollTx 1,
    .toServer ⟨0, []⟩ 1 1]

theorem connId_agreement_handshake :
    ∃ s, Run.runM (PeerSystem.step clientPeer) (.start 500) handshake = some s ∧
      s.server.manager.activeConnIdByEndpoint.lookup clientEndpoint = some 7 ∧
      s.client.connId = 7 ∧ (clientEndpoint, 7) ∈ s.allocated ∧
      ∀ later s' connId', Run.runM (PeerSystem.step clientPeer) s later = some s' →
        s'.server.manager.activeConnIdByEndpoint.lookup clientEndpoint = some connId' →
        connId' = 7 := by
  have hreturns : ((Run.runM (PeerSystem.step clientPeer) (.start 500) handshake).map fun s =>
      s.server.manager.activeConnIdByEndpoint.lookup clientEndpoint) = some (some 7) := by
    decide +kernel
  obtain ⟨s, hs, hactive⟩ := Option.map_eq_some_iff.1 hreturns
  exact ⟨s, hs, hactive, connId_agreement clientPeer 500 hs hactive⟩

end Rudp
