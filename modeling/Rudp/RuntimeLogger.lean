import Rudp.ManagerSeats
import Rudp.Utils

/-!
# Log lines

The lines of `src/RuntimeLogger.cpp`. A line is fields after one another, and a payload in it may
have any bytes: a quote, a blank, the name of another field. Still, a line says all about the event
and the counters that it is written from (`session_log_inj`).
-/

namespace Rudp

open Utils

/-! ## Bytes and text -/

/-- The bytes of a string: a character stands for the byte of its number. -/
def bytesOf (text : Text) : Bytes := text.map fun c => BitVec.ofNat 8 c.toNat

def textOf (bytes : Bytes) : Text := bytes.map fun b => Char.ofNat b.toNat

namespace Runtime

/-! ## Events -/

/-- `to_string` -/
def kindToString : SessionEvent.Kind → Text
  | .dataReceived => "DataReceived".toList
  | .connected => "Connected".toList
  | .connectionClosed => "ConnectionClosed".toList
  | .connectionReset => "ConnectionReset".toList
  | .error => "Error".toList

def quoted (text : Text) : Text := kDoubleQuote :: text ++ [kDoubleQuote]

def formatSessionEvent (linePrefix : Text) (event : SessionEvent) : Text :=
  linePrefix ++
    " event=".toList ++ kindToString event.kind ++
    " seq=".toList ++ toDecimal event.seq.toNat ++
    " channel_id=".toList ++ toDecimal event.channelId.toNat ++
    " payload_size=".toList ++ toDecimal event.payload.length ++
    (if event.errorMessage = "" then []
      else " error=".toList ++ quoted event.errorMessage.toList) ++
    if event.payload = [] then [] else " payload=".toList ++ quoted (textOf event.payload)

/-! ## Counters -/

def orNotAvailable (value : Option U64) : Text :=
  match value with
  | some value => toDecimal value.toNat
  | none => "n/a".toList

def averageRttMs (stats : SessionStats) : Option U64 :=
  if stats.rttSampleCount ≠ 0 then some (stats.rttSumMs / stats.rttSampleCount) else none

/-- Each field, with the blank before its name. -/
def statsFields (stats : SessionStats) : List (Text × Text) :=
  [(" sent=".toList, toDecimal stats.packetsSent.toNat),
    (" recv=".toList, toDecimal stats.packetsReceived.toNat),
    (" tx_bytes=".toList, toDecimal stats.bytesSent.toNat),
    (" rx_bytes=".toList, toDecimal stats.bytesReceived.toNat),
    (" ctrl_tx=".toList, toDecimal stats.controlPacketsSent.toNat),
    (" ctrl_rx=".toList, toDecimal stats.controlPacketsReceived.toNat),
    (" data_tx=".toList, toDecimal stats.dataPacketsSent.toNat),
    (" data_rx=".toList, toDecimal stats.dataPacketsReceived.toNat),
    (" ping=".toList, toDecimal stats.pingsSent.toNat ++ "/".toList ++
      toDecimal stats.pingsReceived.toNat),
    (" pong=".toList, toDecimal stats.pongsSent.toNat ++ "/".toList ++
      toDecimal stats.pongsReceived.toNat),
    (" retx=".toList, toDecimal stats.retransmissionsSent.toNat),
    (" rtt_ms=".toList, orNotAvailable stats.latestRttMs),
    (" rtt_avg_ms=".toList, orNotAvailable (averageRttMs stats)),
    (" rtt_min_ms=".toList, orNotAvailable stats.minRttMs),
    (" rtt_max_ms=".toList, orNotAvailable stats.maxRttMs)]

def formatSessionStats (stats : SessionStats) : Text :=
  Lines.writeFields (statsFields stats)

def formatSessionSummary (linePrefix : Text) (stats : SessionStats) : Text :=
  linePrefix ++ " summary".toList ++ formatSessionStats stats

/-! ## Reading a line -/

section Read

variable {event event' : SessionEvent} {stats stats' : SessionStats}

theorem toDecimal_inj {n n' : ℕ} (h : toDecimal n = toDecimal n') : n = n' := by
  rw [← valueOf_toDecimal n, h, valueOf_toDecimal]

/-- A character that is no digit is in no number. -/
theorem not_mem_toDecimal {c : Char} (hc : c.isDigit = false) (n : ℕ) : c ∉ toDecimal n := by
  intro hmem
  have hdigit := Nat.isDigit_of_mem_toDigits (by decide) (by decide) hmem
  rw [hc] at hdigit
  cases hdigit

theorem orNotAvailable_inj {value value' : Option U64}
    (h : orNotAvailable value = orNotAvailable value') : value = value' := by
  have hno : ∀ n : ℕ, toDecimal n ≠ "n/a".toList := by
    intro n heq
    exact not_mem_toDecimal (c := 'n') (by decide) n (heq ▸ by decide)
  cases value with
  | none =>
    cases value' with
    | none => rfl
    | some n => exact absurd h.symm (hno n.toNat)
  | some n =>
    cases value' with
    | none => exact absurd h (hno n.toNat)
    | some n' => rw [BitVec.eq_of_toNat_eq (toDecimal_inj h)]

theorem not_mem_orNotAvailable (value : Option U64) : ' ' ∉ orNotAvailable value := by
  cases value with
  | none => decide
  | some n => exact not_mem_toDecimal (by decide) _

theorem not_mem_pair {c : Char} (hc : c.isDigit = false) (hslash : c ≠ '/') (m n : ℕ) :
    c ∉ toDecimal m ++ "/".toList ++ toDecimal n := by
  intro hmem
  rcases List.mem_append.1 hmem with hmem | hmem
  · rcases List.mem_append.1 hmem with hmem | hmem
    · exact not_mem_toDecimal hc m hmem
    · exact hslash (List.mem_singleton.1 hmem)
  · exact not_mem_toDecimal hc n hmem

theorem statsFields_names : (statsFields stats).map Prod.fst = (statsFields stats').map Prod.fst :=
  rfl

theorem statsFields_blank : ∀ field ∈ statsFields stats, field.1.head? = some ' ' := by
  intro field hfield
  have hmem : field.1 ∈ (statsFields stats).map Prod.fst := List.mem_map_of_mem hfield
  simp only [statsFields, List.map_cons, List.map_nil, List.mem_cons, List.not_mem_nil,
    or_false] at hmem
  rcases hmem with h | h | h | h | h | h | h | h | h | h | h | h | h | h | h <;> rw [h] <;> rfl

theorem statsFields_values : ∀ field ∈ statsFields stats, ' ' ∉ field.2 := by
  intro field hfield
  simp only [statsFields, List.mem_cons, List.not_mem_nil, or_false] at hfield
  rcases hfield with rfl | rfl | rfl | rfl | rfl | rfl | rfl | rfl | rfl | rfl | rfl | rfl | rfl |
    rfl | rfl
  all_goals
    first
    | exact not_mem_toDecimal (by decide) _
    | exact not_mem_pair (by decide) (by decide) _ _
    | exact not_mem_orNotAvailable _

theorem pair_inj {m m' n n' : U64}
    (h : toDecimal m.toNat ++ "/".toList ++ toDecimal n.toNat =
      toDecimal m'.toNat ++ "/".toList ++ toDecimal n'.toNat) : m = m' ∧ n = n' := by
  have hslash : ∀ text rest : Text, text ++ "/".toList ++ rest = text ++ '/' :: rest :=
    fun text rest => List.append_assoc text ['/'] rest
  rw [hslash, hslash] at h
  obtain ⟨hm, hn⟩ := Lines.append_sep_inj (not_mem_toDecimal (by decide) _)
    (not_mem_toDecimal (by decide) _) h
  exact ⟨BitVec.eq_of_toNat_eq (toDecimal_inj hm), BitVec.eq_of_toNat_eq (toDecimal_inj hn)⟩

/-- The counters that a line shows: of the samples, their mean only. -/
def shownStats (stats : SessionStats) : SessionStats × Option U64 :=
  ({ stats with rttSampleCount := 0, rttSumMs := 0 }, averageRttMs stats)

theorem formatSessionStats_inj (h : formatSessionStats stats = formatSessionStats stats') :
    shownStats stats = shownStats stats' := by
  have hfields : statsFields stats = statsFields stats' :=
    Lines.writeFields_inj statsFields_names statsFields_blank statsFields_values
      statsFields_values h
  simp only [statsFields, List.cons.injEq, Prod.mk.injEq, true_and, and_true] at hfields
  have hnumber : ∀ {m n : U64}, toDecimal m.toNat = toDecimal n.toNat → m = n :=
    fun heq => BitVec.eq_of_toNat_eq (toDecimal_inj heq)
  obtain ⟨hsent, hrecv, htxBytes, hrxBytes, hctrlTx, hctrlRx, hdataTx, hdataRx, hping, hpong, hretx,
    hrtt, havg, hmin, hmax⟩ := hfields
  refine Prod.ext ?_ (orNotAvailable_inj havg)
  simp only [shownStats, hnumber hsent, hnumber hrecv, hnumber htxBytes, hnumber hrxBytes,
    hnumber hctrlTx, hnumber hctrlRx, hnumber hdataTx, hnumber hdataRx, (pair_inj hping).1,
    (pair_inj hping).2, (pair_inj hpong).1, (pair_inj hpong).2, hnumber hretx,
    orNotAvailable_inj hrtt, orNotAvailable_inj hmin, orNotAvailable_inj hmax]

/-- An event whose message can stand between quotes. -/
def Quotable (event : SessionEvent) : Prop := kDoubleQuote ∉ event.errorMessage.toList

instance (event : SessionEvent) : Decidable (Quotable event) :=
  inferInstanceAs (Decidable (kDoubleQuote ∉ event.errorMessage.toList))

/-- The event as a line shows it. -/
def shownEvent (event : SessionEvent) : SessionEvent := { event with channelType := .unreliable }

theorem textOf_inj {bytes bytes' : Bytes} (h : textOf bytes = textOf bytes') : bytes = bytes' := by
  refine List.map_injective_iff.2 (fun b b' heq => ?_) h
  have hvalid : ∀ b : U8, (Char.ofNat b.toNat).toNat = b.toNat := by decide
  exact BitVec.eq_of_toNat_eq (by rw [← hvalid b, heq, hvalid b'])

theorem kindToString_inj {kind kind' : SessionEvent.Kind}
    (h : kindToString kind = kindToString kind') : kind = kind' := by
  revert h
  cases kind <;> cases kind' <;> decide

theorem not_mem_kindToString (kind : SessionEvent.Kind) : ' ' ∉ kindToString kind := by
  cases kind <;> decide

/-- What follows the message. -/
def payloadEnd (event : SessionEvent) (stats : SessionStats) : Text :=
  (if event.payload = [] then [] else " payload=".toList ++ quoted (textOf event.payload)) ++
    formatSessionStats stats

/-- What follows the length of the payload. -/
def lineEnd (event : SessionEvent) (stats : SessionStats) : Text :=
  (if event.errorMessage = "" then [] else " error=".toList ++ quoted event.errorMessage.toList) ++
    payloadEnd event stats

theorem exists_lineEnd (event : SessionEvent) (stats : SessionStats) :
    ∃ rest, lineEnd event stats = ' ' :: rest := by
  rw [lineEnd, payloadEnd]
  split_ifs
  all_goals exact ⟨_, rfl⟩

/-- The length of the payload tells where it ends. -/
theorem payloadEnd_inj (hlength : event.payload.length = event'.payload.length)
    (h : payloadEnd event stats = payloadEnd event' stats') :
    event.payload = event'.payload ∧ formatSessionStats stats = formatSessionStats stats' := by
  rw [payloadEnd, payloadEnd] at h
  by_cases hempty : event.payload = []
  · have hempty' : event'.payload = [] := by
      rw [hempty] at hlength
      exact List.length_eq_zero_iff.1 hlength.symm
    rw [if_pos hempty, if_pos hempty'] at h
    exact ⟨hempty.trans hempty'.symm, h⟩
  · have hempty' : event'.payload ≠ [] := by
      intro hnil
      rw [hnil] at hlength
      exact hempty (List.length_eq_zero_iff.1 hlength)
    rw [if_neg hempty, if_neg hempty', List.append_assoc, List.append_assoc] at h
    have hquoted := List.append_cancel_left h
    simp only [quoted, List.cons_append, List.cons.injEq, true_and, List.append_assoc] at hquoted
    obtain ⟨htext, hrest⟩ := List.append_inj hquoted (by simp [textOf, hlength])
    exact ⟨textOf_inj htext, (List.cons.inj hrest).2⟩

/-- A payload or the counters follow, and no message. -/
theorem payloadEnd_second (event : SessionEvent) (stats : SessionStats) :
    (payloadEnd event stats)[1]? ≠ some 'e' := by
  rw [payloadEnd]
  split_ifs
  · exact (by decide : some 's' ≠ some 'e')
  · exact (by decide : some 'p' ≠ some 'e')

theorem lineEnd_inj (hevent : Quotable event) (hevent' : Quotable event')
    (h : lineEnd event stats = lineEnd event' stats') :
    event.errorMessage = event'.errorMessage ∧
      payloadEnd event stats = payloadEnd event' stats' := by
  rw [lineEnd, lineEnd] at h
  by_cases hnone : event.errorMessage = "" <;> by_cases hnone' : event'.errorMessage = ""
  · rw [if_pos hnone, if_pos hnone'] at h
    exact ⟨hnone.trans hnone'.symm, h⟩
  · rw [if_pos hnone, if_neg hnone', List.nil_append] at h
    exact absurd (h ▸ rfl) (payloadEnd_second event stats)
  · rw [if_neg hnone, if_pos hnone', List.nil_append] at h
    exact absurd (h ▸ rfl) (payloadEnd_second event' stats')
  · rw [if_neg hnone, if_neg hnone', List.append_assoc, List.append_assoc] at h
    have hquoted := List.append_cancel_left h
    simp only [quoted, List.cons_append, List.cons.injEq, true_and, List.append_assoc,
      List.nil_append] at hquoted
    obtain ⟨hmessage, hrest⟩ := Lines.append_sep_inj hevent hevent' hquoted
    exact ⟨String.toList_inj.1 hmessage, hrest⟩

/-- The line, cut behind each value. -/
theorem line_eq (linePrefix : Text) (event : SessionEvent) (stats : SessionStats) :
    formatSessionEvent linePrefix event ++ formatSessionStats stats =
      linePrefix ++ (" event=".toList ++ (kindToString event.kind ++
        ' ' :: ("seq=".toList ++ (toDecimal event.seq.toNat ++
          ' ' :: ("channel_id=".toList ++ (toDecimal event.channelId.toNat ++
            ' ' :: ("payload_size=".toList ++ (toDecimal event.payload.length ++
              lineEnd event stats)))))))) := by
  simp only [formatSessionEvent, lineEnd, payloadEnd, List.append_assoc]
  rfl

/-- **A line says all** that it is written from. -/
theorem line_inj {linePrefix : Text} (hevent : Quotable event) (hevent' : Quotable event')
    (h : formatSessionEvent linePrefix event ++ formatSessionStats stats =
      formatSessionEvent linePrefix event' ++ formatSessionStats stats') :
    shownEvent event = shownEvent event' ∧ shownStats stats = shownStats stats' := by
  rw [line_eq, line_eq] at h
  obtain ⟨rest, hrest⟩ := exists_lineEnd event stats
  obtain ⟨rest', hrest'⟩ := exists_lineEnd event' stats'
  have hnumber : ∀ {m n : ℕ} {rest rest' : Text},
      toDecimal m ++ ' ' :: rest = toDecimal n ++ ' ' :: rest' → m = n ∧ rest = rest' := by
    intro m n rest rest' heq
    obtain ⟨hdigits, htail⟩ := Lines.append_sep_inj (not_mem_toDecimal (by decide) m)
      (not_mem_toDecimal (by decide) n) heq
    exact ⟨toDecimal_inj hdigits, htail⟩
  obtain ⟨hkind, h⟩ := Lines.append_sep_inj (not_mem_kindToString _) (not_mem_kindToString _)
    (List.append_cancel_left (List.append_cancel_left h))
  obtain ⟨hseq, h⟩ := hnumber (List.append_cancel_left h)
  obtain ⟨hchannel, h⟩ := hnumber (List.append_cancel_left h)
  have hend := List.append_cancel_left h
  obtain ⟨hlength, -⟩ := hnumber (hrest ▸ hrest' ▸ hend)
  rw [hlength] at hend
  obtain ⟨hmessage, hpayload⟩ := lineEnd_inj hevent hevent' (List.append_cancel_left hend)
  obtain ⟨hbytes, hcounters⟩ := payloadEnd_inj hlength hpayload
  refine ⟨?_, formatSessionStats_inj hcounters⟩
  simp only [shownEvent, kindToString_inj hkind, BitVec.eq_of_toNat_eq hseq,
    BitVec.eq_of_toNat_eq hchannel, hmessage, hbytes]

end Read

/-! ## The lines of a session -/

open Session RxHandler TxHandler

/-- All that the session will report can stand in a line. -/
def AllQuotable (rx : RxSessionState) : Prop := ∀ event ∈ rx.pendingEvents, Quotable event

section Session

variable {rx : RxSessionState} {s : SessionState}

theorem AllQuotable.report (h : AllQuotable rx) (events : List SessionEvent)
    (hevents : ∀ event ∈ events, Quotable event) : AllQuotable (rx.report events) := by
  intro event hmem
  rcases List.mem_append.1 hmem with hold | hnew
  · exact h event hold
  · exact hevents event hnew

/-- What a poll says when it gives up. -/
theorem poll_message (transport : TransportSettings) (nowMs : U64) (s : SessionState) :
    (poll transport nowMs s.role s.connId s.connectionState s.rx s.tx).1.errorMessage ∈
      ["", "retransmission retry limit exceeded"] := by
  have heffect := @poll_effect transport nowMs s.role s.connId s.connectionState s.rx s.tx
  generalize (poll transport nowMs s.role s.connId s.connectionState s.rx s.tx).1 = result
    at heffect
  generalize (poll transport nowMs s.role s.connId s.connectionState s.rx s.tx).2.2 = tx'
    at heffect
  cases heffect <;> simp [makePollResult]

theorem AllQuotable.pollTx (h : AllQuotable s.rx) (transport : TransportSettings) (nowMs : U64) :
    AllQuotable (Session.pollTx transport nowMs s).2.rx := by
  have hrx := schedulePendingTxWork_rx transport nowMs s
  rw [Session.pollTx]
  split_ifs
  · exact h.report [localError "idle timeout"] fun event hmem => by
      rw [List.mem_singleton.1 hmem]
      decide
  · have hmessage := poll_message transport nowMs
      (schedulePendingTxWork transport nowMs s)
    simp only
    generalize schedulePendingTxWork transport nowMs s = t at hrx hmessage
    rcases hpolled : poll transport nowMs t.role t.connId t.connectionState t.rx t.tx with
      ⟨result, next, tx'⟩
    rw [hpolled] at hmessage
    simp only
    split_ifs
    · have hbefore : AllQuotable t.rx := hrx ▸ h
      refine hbefore.report [localError result.errorMessage] fun event hmem => ?_
      rw [List.mem_singleton.1 hmem]
      simp only [List.mem_cons, List.not_mem_nil, or_false] at hmessage
      rcases hmessage with hempty | hlimit
      · simp [Quotable, localError, hempty]
      · rw [Quotable, localError, hlimit]
        decide
    · cases result.datagram with
      | none => exact hrx ▸ h
      | some datagram =>
        simp only [applyOutboundResult_rx]
        exact hrx ▸ h

theorem AllQuotable.onPacket (h : AllQuotable rx) (packet : PacketView) (nowMs : U64)
    (kind : ControlKind) : AllQuotable (RxHandler.onPacket packet nowMs kind rx).2 := by
  have hpending : (windowed packet kind rx).pendingEvents = rx.pendingEvents := by
    rw [windowed_frame]
  have hdata : ∀ p : PacketView, Quotable (makeDataEvent p) := fun _ => List.not_mem_nil
  have hadd : ∀ event ∈ rx.pendingEvents ++ [makeDataEvent packet], Quotable event := by
    intro event hmem
    rcases List.mem_append.1 hmem with hold | hnew
    · exact h event hold
    · exact List.mem_singleton.1 hnew ▸ hdata packet
  have heffect : PacketEffect packet kind rx (RxHandler.onPacket packet nowMs kind rx).2 :=
    onPacket_effect packet kind rx nowMs
  generalize (RxHandler.onPacket packet nowMs kind rx).2 = rx' at heffect
  cases heffect with
  | ignored _ =>
    rw [AllQuotable, hpending]
    exact h
  | ordered _ _ _ hdrained _ =>
    intro event hmem
    rw [hdrained.events, bufferOrdered_events, hpending] at hmem
    rcases List.mem_append.1 hmem with hold | hnew
    · exact h event hold
    · obtain ⟨q, -, rfl⟩ := List.mem_map.1 hnew
      exact hdata q
  | unordered _ _ _ => exact hadd
  | unreliable _ _ hevents =>
    rcases hevents with rfl | rfl
    · intro event hmem
      exact h event (List.append_nil rx.pendingEvents ▸ hmem)
    · exact hadd

theorem decision_message (role : SessionRole) (state : ConnectionState) (kind : ControlKind) :
    kDoubleQuote ∉ (decideConnectionTransition role state kind).errorMessage.toList := by
  cases kind <;> simp only [decideConnectionTransition]
  case syn | synAck | ack => split_ifs <;> decide
  all_goals decide

theorem controlEvents_quotable (role : SessionRole) (state : ConnectionState)
    (acknowledgedFin : Bool) (packet : PacketView) :
    ∀ event ∈ controlEvents role state acknowledgedFin packet, Quotable event := by
  have hplain : ∀ kind, Quotable (controlEvent kind packet "") := fun _ => List.not_mem_nil
  intro event hmem
  rcases List.mem_append.1 hmem with hfin | hdecision
  · split_ifs at hfin
    · rw [List.mem_singleton.1 hfin]
      exact hplain _
    · cases hfin
  · rw [decisionEvents] at hdecision
    split_ifs at hdecision <;> simp at hdecision
    all_goals rcases hdecision with rfl | rfl | rfl
    case pos => exact decision_message _ _ _
    all_goals exact hplain _

theorem AllQuotable.onDatagramReceived (h : AllQuotable s.rx) (transport : TransportSettings)
    (bytes : Bytes) (nowMs : U64) :
    AllQuotable (Session.onDatagramReceived transport bytes nowMs s).rx := by
  cases onDatagramReceived_rx transport bytes nowMs s with
  | undecodable _ hsame =>
    rw [hsame]
    exact h
  | duplicate _ _ _ hrx _ =>
    rw [hrx]
    exact h
  | mismatch _ _ hrx _ =>
    rw [hrx]
    refine h.report _ fun event hmem => ?_
    rw [List.mem_singleton.1 hmem]
    decide
  | processed _ _ _ _ hrx _ =>
    rw [hrx]
    exact (h.report _ (controlEvents_quotable _ _ _ _)).onPacket _ nowMs _

theorem AllQuotable.apply (h : AllQuotable s.rx) (transport : TransportSettings) (op : LifeOp) :
    AllQuotable (op.apply transport s).2.rx := by
  rcases op with ⟨_ | nowMs | ⟨bytes, nowMs⟩ | _⟩ | _ | _
  case call.queueSend | assignConnId => exact h
  case call.pollTx => exact h.pollTx transport nowMs
  case call.onDatagramReceived => exact h.onDatagramReceived transport bytes nowMs
  case call.requestClose =>
    simp only [LifeOp.apply, SessionOp.apply, requestClose]
    split_ifs <;> exact h
  case drainEvents => exact fun event hmem => absurd hmem List.not_mem_nil

/-- In every life of a session. -/
theorem allQuotable_life (transport : TransportSettings) (role : SessionRole) (initialSeq : U32)
    (ops : List LifeOp) :
    AllQuotable (Run.run (fun s op => (LifeOp.apply transport s op).2)
      (Session.init role initialSeq) ops).rx :=
  Run.invariant (fun s : SessionState => AllQuotable s.rx) (fun _ op h => h.apply transport op)
    (fun _ hmem => absurd hmem List.not_mem_nil) ops

end Session

/-- **The log can be read back.** Take any two sessions, wherever they are in their lives, an event
that each has to report, and any counters. If the lines are the same, so are the kind, the number,
the channel, the payload and the message of the event, and all counters. -/
theorem session_log_inj {transport transport' : TransportSettings} {role role' : SessionRole}
    {initialSeq initialSeq' : U32} {ops ops' : List LifeOp} {linePrefix : Text}
    {event event' : SessionEvent} {stats stats' : SessionStats}
    (hevent : event ∈ (drainEvents (Run.run (fun s op => (LifeOp.apply transport s op).2)
      (Session.init role initialSeq) ops)).1)
    (hevent' : event' ∈ (drainEvents (Run.run (fun s op => (LifeOp.apply transport' s op).2)
      (Session.init role' initialSeq') ops')).1)
    (hline : formatSessionEvent linePrefix event ++ formatSessionStats stats =
      formatSessionEvent linePrefix event' ++ formatSessionStats stats') :
    shownEvent event = shownEvent event' ∧ shownStats stats = shownStats stats' :=
  line_inj (allQuotable_life transport role initialSeq ops event hevent)
    (allQuotable_life transport' role' initialSeq' ops' event' hevent') hline

/-- A payload that looks like the end of its line. -/
def trickyDatagram (channelType : ChannelType) : Bytes :=
  encode { channelType, seq := 5, channelId := 3 } (bytesOf (quoted " sent=0".toList))

/-- The type of the channel is not in the line. -/
theorem session_log_inj_tricky :
    ∃ event ∈ (drainEvents (Run.run (fun s op => (LifeOp.apply {} s op).2) (Session.init .client 0)
        [.call (.onDatagramReceived (trickyDatagram .unreliable) 0)])).1,
      ∃ event' ∈ (drainEvents (Run.run (fun s op => (LifeOp.apply {} s op).2)
          (Session.init .server 9)
          [.call (.onDatagramReceived (trickyDatagram .reliableUnordered) 0)])).1,
        event ≠ event' ∧ shownEvent event = shownEvent event' ∧
          shownStats {} = shownStats { rttSumMs := 7 } := by
  let event : SessionEvent :=
    { seq := 5, channelId := 3, payload := bytesOf (quoted " sent=0".toList) }
  have hevent : event ∈ (drainEvents (Run.run (fun s op => (LifeOp.apply {} s op).2)
      (Session.init .client 0)
      [.call (.onDatagramReceived (trickyDatagram .unreliable) 0)])).1 := by
    decide +kernel
  have hevent' : { event with channelType := .reliableUnordered } ∈
      (drainEvents (Run.run (fun s op => (LifeOp.apply {} s op).2) (Session.init .server 9)
        [.call (.onDatagramReceived (trickyDatagram .reliableUnordered) 0)])).1 := by
    decide +kernel
  exact ⟨event, hevent, _, hevent', by decide,
    @session_log_inj _ _ _ _ _ _ _ _ [] _ _ _ _ hevent hevent' rfl⟩

end Runtime

end Rudp
