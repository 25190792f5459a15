import Rudp.SessionTypes

/-!
# The connection state machine

Classification of control flags and the lifecycle decision for one packet, following
`src/ConnectionStateMachine.cpp`. `nextState_cases` is the inversion the later proofs use: what
state a decision can lead to, and from where.
-/

namespace Rudp

inductive ControlKind where
  | none
  | syn
  | synAck
  | ack
  | fin
  | rst
  | ping
  | pong
  | invalid
  deriving DecidableEq, Repr

structure ConnectionDecision where
  valid : Bool := true
  nextState : Option ConnectionState := none
  scheduleSynAck : Bool := false
  scheduleFinalAck : Bool := false
  scheduleAckOnly : Bool := false
  emitConnected : Bool := false
  emitConnectionClosed : Bool := false
  emitConnectionReset : Bool := false
  errorMessage : String := ""
  deriving DecidableEq, Repr

def makeInvalidDecision (message : String) : ConnectionDecision :=
  { valid := false, errorMessage := message }

def classifyControlKind (header : Header) : ControlKind :=
  let syn := header.hasFlag .syn
  let ack := header.hasFlag .ack
  let fin := header.hasFlag .fin
  let rst := header.hasFlag .rst
  let ping := header.hasFlag .ping
  let pong := header.hasFlag .pong
  let flagCount := syn.toNat + fin.toNat + rst.toNat + ping.toNat + pong.toNat
  if ack then
    if syn && !fin && !rst && !ping && !pong then .synAck
    else if !syn && !fin && !rst && !ping && !pong then .ack
    else .invalid
  else if flagCount = 0 then .none
  else if flagCount > 1 then .invalid
  else if syn then .syn
  else if fin then .fin
  else if rst then .rst
  else if ping then .ping
  else if pong then .pong
  else .invalid

def decideConnectionTransition (role : SessionRole) (currentState : ConnectionState)
    (kind : ControlKind) : ConnectionDecision :=
  match kind with
  | .none | .ping | .pong => {}
  | .invalid => makeInvalidDecision "invalid control-flag combination"
  | .rst => { nextState := some .reset, emitConnectionReset := true }
  | .fin => { nextState := some .closing, scheduleAckOnly := true, emitConnectionClosed := true }
  | .syn =>
    if role = .server ∧ currentState = .closed then
      { nextState := some .handshakeReceived, scheduleSynAck := true }
    else if currentState = .established then
      makeInvalidDecision "unexpected SYN in Established state"
    else {}
  | .synAck =>
    if role = .client ∧ currentState = .handshakeSent then
      { nextState := some .established, scheduleFinalAck := true, emitConnected := true }
    -- The source spells out the Established client as well, with the same empty decision.
    else {}
  | .ack =>
    if role = .server ∧ currentState = .handshakeReceived then
      { nextState := some .established, emitConnected := true }
    else {}

/-- Where a decision can lead, and from where. -/
theorem nextState_cases {role : SessionRole} {state next : ConnectionState} {kind : ControlKind}
    (h : (decideConnectionTransition role state kind).nextState = some next) :
    next = .reset ∧ kind = .rst ∨ next = .closing ∧ kind = .fin ∨
      next = .handshakeReceived ∧ kind = .syn ∧ role = .server ∧ state = .closed ∨
      next = .established ∧ kind = .synAck ∧ role = .client ∧ state = .handshakeSent ∨
      next = .established ∧ kind = .ack ∧ role = .server ∧ state = .handshakeReceived := by
  cases kind <;> simp only [decideConnectionTransition, makeInvalidDecision] at h
  case syn | synAck | ack =>
    split_ifs at h
    simp_all
  all_goals simp_all

end Rudp
