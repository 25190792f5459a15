import Rudp.Commands
import Rudp.LoadGenerator
import Rudp.SessionSender

/-!
# The client's loop

`run_client_app` of `src/BsdClientApp.cpp`. One pass of the loop takes what has arrived, a line that
was typed, and what the load workers have produced; it polls the session, writes its log, and runs
the bootstrap commands when the session is established. What the loop gets from outside in a pass is
a `ClientTurn`: signals, datagrams, lines, the clock, and the turns that the workers take meanwhile.

Whatever is typed, loaded from the bootstrap file or produced by a worker goes to the session in the
order of its entry, and from there to the wire: nothing is lost and nothing changes places
(`client_conserves`).
-/

namespace Rudp

open Utils Config Session

namespace Runtime

/-! ## The state -/

/-- What has been entered: a line, typed or from the bootstrap file, or a message of a worker. -/
inductive ClientInput where
  | typed (line : Text)
  | bootstrap (line : Text)
  | generated (message : QueuedSend)
  deriving DecidableEq, Repr

/-- The loop's variables, what has been sent and logged, and, so far, what has been entered and
which workers have been joined. `shouldExit` is also set when the loop is left by a `break`. -/
structure ClientApp where
  session : SessionState
  loadGenerator : LoadGenerator := {}
  bootstrapApplied : Bool
  stdinEnabled : Bool
  shouldExit : Bool := false
  sent : List Bytes := []
  log : List Text := []
  entered : List ClientInput := []
  joined : List Worker := []

/-- What the loop gets from outside in one pass. The second argument of `bootstrapTurns` is that of
`LoadGenerator.spawn`. -/
structure ClientTurn where
  stopRequested : Bool := false
  selectFailed : Bool := false
  received : List (Bytes × U64) := []
  /-- Nothing to read, the end of the input, or a line. -/
  stdin : Option (Option Text) := none
  commandTurns : ℕ → List ℕ := fun _ => []
  drainTurns : List ℕ := []
  clock : ℕ → U64 := fun _ => 0
  bootstrapTurns : ℕ → ℕ → List ℕ := fun _ _ => []

namespace ClientApp

def logLine (line : Text) (app : ClientApp) : ClientApp := { app with log := app.log ++ [line] }

def queueSend (channelId : U32) (channelType : ChannelType) (payload : Text) (app : ClientApp) :
    ClientApp :=
  { app with session := Session.queueSend channelId channelType (bytesOf payload) app.session }

def enter (input : ClientInput) (app : ClientApp) : ClientApp :=
  { app with entered := app.entered ++ [input] }

/-- `LoadGenerator::stop_all`: the workers take their last turns and are joined. -/
def stopAll (turns : List ℕ) (app : ClientApp) : Option ClientApp :=
  (app.loadGenerator.stopAll turns).map fun loadGenerator =>
    { app with
      loadGenerator
      joined := app.joined ++ (app.loadGenerator.askToStop turns).workers }

/-! ## Commands -/

/-- Nothing comes back if the workers are to be joined and do not finish. -/
def processClientCommand (profile : RuntimeProfile) (line : Text) (turns : ℕ → List ℕ)
    (app : ClientApp) : Option ClientApp :=
  match parseClientCommand profile line with
  | some .quit => some { app with shouldExit := true }
  | some .channels => some { app with log := app.log ++ logChannels "[client]".toList profile }
  | some .workers =>
    let loadGenerator := app.loadGenerator.takeTurns (turns 0)
    some <| logLine ("[client] load workers=".toList ++ toDecimal loadGenerator.workerCount.toNat)
      { app with loadGenerator }
  | some .stopLoad =>
    (app.stopAll (turns 0)).map (logLine "[client] load workers stopped".toList)
  | some (.spawn command) =>
    let loadGenerator := app.loadGenerator.spawn command.channel command.threadCount
      command.messageCount command.intervalMs command.payload turns
    some <| logLine
      ("[client] spawned ".toList ++ toDecimal command.threadCount.toNat ++ " workers on ".toList ++
        command.channel.name ++ " count=".toList ++ toDecimal command.messageCount.toNat ++
        " interval_ms=".toList ++ toDecimal command.intervalMs.toNat)
      { app with loadGenerator }
  | some (.send channel message) => some (app.queueSend channel.id channel.type message)
  | none =>
    some <| app.logLine <|
      "[client] unknown command; use: send <channel> <message> or /spawn <channel> ".toList ++
        "<threads> <count> <interval-ms> <payload>".toList

/-- The lines of the file that are neither empty nor comments. -/
def bootstrapCommands (file : Text) : List Text :=
  (Lines.read '\n' file).filter fun line => line ≠ [] ∧ line.head? ≠ some '#'

/-- `path` is the environment variable, `file` what the file of that name holds. -/
def loadBootstrapCommands (path file : Option Text) : List Text × List Text :=
  match path with
  | none | some [] => ([], [])
  | some path =>
    match file with
    | none => ([], ["[client] failed to open bootstrap file: ".toList ++ path])
    | some file => (bootstrapCommands file, [])

/-! ## One pass -/

def receive (transport : TransportSettings) (received : List (Bytes × U64)) (app : ClientApp) :
    ClientApp :=
  { app with
    session := received.foldl (fun session datagram =>
      Session.onDatagramReceived transport datagram.1 datagram.2 session) app.session }

def readStdin (profile : RuntimeProfile) (turn : ClientTurn) (app : ClientApp) : Option ClientApp :=
  match turn.stdin with
  | some (some line) =>
    if app.stdinEnabled then
      processClientCommand profile line turn.commandTurns (app.enter (.typed line))
    else some app
  | some none => some { app with stdinEnabled := false }
  | none => some app

def queueGenerated (app : ClientApp) (message : QueuedSend) : ClientApp :=
  (app.enter (.generated message)).queueSend message.channelId message.channelType message.payload

def drainLoad (turns : List ℕ) (app : ClientApp) : ClientApp :=
  let drained := (app.loadGenerator.takeTurns turns).drain
  drained.1.foldl queueGenerated { app with loadGenerator := drained.2 }

/-- One poll for each reading of the clock, until there is nothing to send. -/
def pollAll (transport : TransportSettings) : List U64 → ClientApp → ClientApp
  | [], app => app
  | nowMs :: rest, app =>
    match Session.pollTx transport nowMs app.session with
    | (none, session) => { app with session }
    | (some outbound, session) =>
      pollAll transport rest { app with session, sent := app.sent ++ [outbound] }

def drainClientEvents (app : ClientApp) : ClientApp :=
  let drained := Session.drainEvents app.session
  { app with
    session := drained.2
    log := app.log ++ drained.1.map fun event =>
      formatSessionEvent "[client]".toList event ++ formatSessionStats drained.2.stats }

/-- The commands from the `i`-th on. -/
def runBootstrap (profile : RuntimeProfile) (turns : ℕ → ℕ → List ℕ) :
    ℕ → List Text → ClientApp → Option ClientApp
  | _, [], app => some app
  | i, command :: rest, app => do
    let app ← processClientCommand profile command (turns i)
      ((app.logLine ("[client] bootstrap> ".toList ++ command)).enter (.bootstrap command))
    if app.shouldExit then return app else runBootstrap profile turns (i + 1) rest app

def applyBootstrap (profile : RuntimeProfile) (commands : List Text) (turns : ℕ → ℕ → List ℕ)
    (app : ClientApp) : Option ClientApp :=
  if app.bootstrapApplied = false ∧ app.session.connectionState = .established then
    (runBootstrap profile turns 0 commands app).map fun app => { app with bootstrapApplied := true }
  else some app

def exitOnReset (app : ClientApp) : ClientApp :=
  if app.session.connectionState = .reset then
    logLine "[client] session entered Reset, exiting".toList { app with shouldExit := true }
  else app

def exchange (profile : RuntimeProfile) (transport : TransportSettings) (turn : ClientTurn)
    (app : ClientApp) : ClientApp :=
  (pollAll transport ((List.range profile.pollBudget.toNat).map turn.clock)
    (app.drainLoad turn.drainTurns)).drainClientEvents

/-- One pass. Once the loop has been left, nothing happens. -/
def turn (profile : RuntimeProfile) (transport : TransportSettings) (commands : List Text)
    (app : ClientApp) (turn : ClientTurn) : Option ClientApp :=
  if app.shouldExit then some app
  else if turn.stopRequested || turn.selectFailed then some { app with shouldExit := true }
  else do
    let app ← readStdin profile turn (app.receive transport turn.received)
    if app.shouldExit then return app
    let app ← applyBootstrap profile commands turn.bootstrapTurns
      (app.exchange profile transport turn)
    return app.exitOnReset

/-- What stands before the loop. `isInteractive` is `isatty(STDIN_FILENO)`. -/
def start (profile : RuntimeProfile) (commands log : List Text) (isInteractive : Bool)
    (initialSeq : U32) : ClientApp where
  session := Session.init .client initialSeq
  bootstrapApplied := commands.isEmpty
  stdinEnabled := isInteractive
  log := log ++
    ["client targeting ".toList ++ profile.remoteAddress ++ ":".toList ++
        toDecimal profile.remotePort.toNat,
      if isInteractive then
        "type a line to send it on the default channel; use: send <channel> <message>, ".toList ++
          "/spawn <channel> <threads> <count> <interval-ms> <payload>, ".toList ++
          "/workers, /stop-load, /channels, /quit".toList
      else "[client] stdin is not interactive; runtime commands disabled".toList]

/-- What stands behind the loop. -/
def finish (turns : List ℕ) (app : ClientApp) : Option ClientApp :=
  (app.stopAll turns).map (logLine (formatSessionSummary "[client]".toList app.session.stats))

end ClientApp

/-! ## The session under the loop -/

/-- From one state of a session to another, with these requests queued and these datagrams sent. -/
def Lives (transport : TransportSettings) (s : SessionState) (queued : List SendRequest)
    (sent : List Bytes) (s' : SessionState) : Prop :=
  ∃ (ops : List LifeOp) (emitted : List Emission), emitted.map Emission.datagram = sent ∧
    ∀ before past, Run.run (SessionTraffic.step transport) ⟨s, before, past⟩ ops =
      ⟨s', before ++ queued, past ++ emitted⟩

section Lives

variable {transport : TransportSettings} {s s₁ s' : SessionState}
  {queued queued₁ : List SendRequest} {sent sent₁ : List Bytes}

theorem Lives.refl (transport : TransportSettings) (s : SessionState) : Lives transport s [] [] s :=
  ⟨[], [], rfl, fun before past => by rw [List.append_nil, List.append_nil]; rfl⟩

theorem Lives.trans (h : Lives transport s queued sent s₁)
    (h' : Lives transport s₁ queued₁ sent₁ s') :
    Lives transport s (queued ++ queued₁) (sent ++ sent₁) s' := by
  obtain ⟨ops, emitted, hsent, hrun⟩ := h
  obtain ⟨ops', emitted', hsent', hrun'⟩ := h'
  refine ⟨ops ++ ops', emitted ++ emitted', ?_, fun before past => ?_⟩
  · rw [List.map_append, hsent, hsent']
  · rw [Run.run, List.foldl_append, ← Run.run, ← Run.run, hrun, hrun', List.append_assoc,
      List.append_assoc]

theorem Lives.op (transport : TransportSettings) (s : SessionState) (op : LifeOp) :
    Lives transport s op.queues (op.apply transport s).1.toList (op.apply transport s).2 :=
  ⟨[op], op.emits transport s, op.emits_datagram s, fun _ _ => rfl⟩

/-- A session that lives conserves what is queued for it. -/
theorem Lives.conserves {role : SessionRole} {initialSeq : U32}
    (h : Lives transport (Session.init role initialSeq) queued sent s') :
    ∃ emitted : List Emission, emitted.map Emission.datagram = sent ∧
      Conserves transport initialSeq { tx := s'.tx, queued, emitted } := by
  obtain ⟨ops, emitted, hsent, hrun⟩ := h
  have hconserves := session_conserves transport role initialSeq ops
  rw [SessionTraffic.start, hrun [] []] at hconserves
  exact ⟨emitted, hsent, hconserves⟩

end Lives

/-! ## The generator under the loop -/

/-- From one state of the generator to another, with these messages taken from it and these workers
joined. -/
def Works (g : LoadGenerator) (drained : List QueuedSend) (joined : List Worker)
    (g' : LoadGenerator) : Prop :=
  ∃ ops : List LoadOp, ∀ before past,
    Run.runM LoadRun.step ⟨g, before, past⟩ ops = some ⟨g', before ++ drained, past ++ joined⟩

section Works

variable {g g₁ g' : LoadGenerator} {drained drained₁ : List QueuedSend}
  {joined joined₁ : List Worker}

theorem Works.refl (g : LoadGenerator) : Works g [] [] g :=
  ⟨[], fun before past => by rw [List.append_nil, List.append_nil]; rfl⟩

theorem Works.trans (h : Works g drained joined g₁) (h' : Works g₁ drained₁ joined₁ g') :
    Works g (drained ++ drained₁) (joined ++ joined₁) g' := by
  obtain ⟨ops, hrun⟩ := h
  obtain ⟨ops', hrun'⟩ := h'
  refine ⟨ops ++ ops', fun before past => ?_⟩
  rw [Run.runM_append_eq, hrun, Option.bind_some, hrun', List.append_assoc, List.append_assoc]

theorem Works.op (op : LoadOp)
    (h : ∀ before past, LoadRun.step ⟨g, before, past⟩ op =
      some ⟨g', before ++ drained, past ++ joined⟩) : Works g drained joined g' := by
  refine ⟨[op], fun before past => ?_⟩
  rw [Run.runM_cons, h, Option.bind_some, Run.runM_nil]

theorem works_takeTurns (turns : List ℕ) (g : LoadGenerator) :
    Works g [] [] (g.takeTurns turns) := by
  refine Run.invariant (fun g' => Works g [] [] g') (fun g' k h => ?_) (Works.refl g) turns
  exact h.trans <| Works.op (.work k) fun before past => by
    rw [List.append_nil, List.append_nil]
    rfl

theorem works_spawn (command : SpawnCommand) (turns : ℕ → List ℕ) (g : LoadGenerator) :
    Works g [] [] (g.spawn command.channel command.threadCount command.messageCount
      command.intervalMs command.payload turns) :=
  Works.op (.spawn command.channel command.threadCount command.messageCount command.intervalMs
    command.payload turns) fun before past => by
      rw [List.append_nil, List.append_nil]
      rfl

theorem works_stopAll {turns : List ℕ} (h : g.stopAll turns = some g') :
    Works g [] (g.askToStop turns).workers g' :=
  Works.op (.stopAll turns) fun before past => by
    rw [LoadRun.step, h, List.append_nil]
    rfl

theorem works_drain (g : LoadGenerator) : Works g g.drain.1 [] g.drain.2 :=
  Works.op .drain fun before past => by
    rw [List.append_nil]
    rfl

end Works

/-! ## What the loop does -/

/-- The request that a line makes. -/
def lineRequest (profile : RuntimeProfile) (line : Text) : Option SendRequest :=
  match parseClientCommand profile line with
  | some (.send channel message) =>
    some { channelId := channel.id, channelType := channel.type, payload := bytesOf message }
  | _ => none

namespace ClientInput

def request (profile : RuntimeProfile) : ClientInput → Option SendRequest
  | .typed line | .bootstrap line => lineRequest profile line
  | .generated message =>
    some
      { channelId := message.channelId
        channelType := message.channelType
        payload := bytesOf message.payload }

def message : ClientInput → Option QueuedSend
  | .generated message => some message
  | .typed _ | .bootstrap _ => none

def bootstrapLine : ClientInput → Option Text
  | .bootstrap line => some line
  | .typed _ | .generated _ => none

end ClientInput

/-- From one state of the loop to another, with these inputs entered and these datagrams sent. The
generator is left to its own operations, and the workers it joins are noted. -/
structure Advances (profile : RuntimeProfile) (transport : TransportSettings) (app : ClientApp)
    (inputs : List ClientInput) (datagrams : List Bytes) (app' : ClientApp) : Prop where
  entered : app'.entered = app.entered ++ inputs
  sent : app'.sent = app.sent ++ datagrams
  session : Lives transport app.session (inputs.filterMap (ClientInput.request profile)) datagrams
    app'.session
  load : ∃ joined, app'.joined = app.joined ++ joined ∧
    Works app.loadGenerator (inputs.filterMap ClientInput.message) joined app'.loadGenerator

section Steps

open ClientApp

variable {profile : RuntimeProfile} {transport : TransportSettings} {app app₁ app' : ClientApp}
  {inputs inputs₁ : List ClientInput} {datagrams datagrams₁ : List Bytes}

/-- The generator is left alone. -/
theorem idle_load (hgenerator : app'.loadGenerator = app.loadGenerator)
    (hjoined : app'.joined = app.joined) :
    ∃ joined, app'.joined = app.joined ++ joined ∧
      Works app.loadGenerator [] joined app'.loadGenerator := by
  refine ⟨[], by rw [hjoined, List.append_nil], ?_⟩
  rw [hgenerator]
  exact .refl _

theorem Advances.refl (profile : RuntimeProfile) (transport : TransportSettings)
    (app : ClientApp) : Advances profile transport app [] [] app :=
  ⟨(List.append_nil _).symm, (List.append_nil _).symm, .refl _ _, idle_load rfl rfl⟩

theorem Advances.trans (h : Advances profile transport app inputs datagrams app₁)
    (h' : Advances profile transport app₁ inputs₁ datagrams₁ app') :
    Advances profile transport app (inputs ++ inputs₁) (datagrams ++ datagrams₁) app' := by
  refine ⟨?_, ?_, ?_, ?_⟩
  · rw [h'.entered, h.entered, List.append_assoc]
  · rw [h'.sent, h.sent, List.append_assoc]
  · rw [List.filterMap_append]
    exact h.session.trans h'.session
  · obtain ⟨joined, hjoined, hworks⟩ := h.load
    obtain ⟨joined', hjoined', hworks'⟩ := h'.load
    refine ⟨joined ++ joined', by rw [hjoined', hjoined, List.append_assoc], ?_⟩
    rw [List.filterMap_append]
    exact hworks.trans hworks'

/-- A request is queued. -/
theorem lives_queueSend (transport : TransportSettings) (s : SessionState) (channelId : U32)
    (channelType : ChannelType) (payload : Bytes) :
    Lives transport s [{ channelId, channelType, payload }] []
      (Session.queueSend channelId channelType payload s) :=
  Lives.op transport s (.call (.queueSend channelId channelType payload))

/-- **One command.** -/
theorem advances_command {line : Text} {turns : ℕ → List ℕ} {input : ClientInput}
    (hrequest : input.request profile = lineRequest profile line) (hmessage : input.message = none)
    (h : processClientCommand profile line turns (app.enter input) = some app') :
    Advances profile transport app [input] [] app' := by
  have hcommand : ∀ {loadGenerator : LoadGenerator} {joined : List Worker} {shouldExit : Bool}
      {log : List Text}, lineRequest profile line = none →
      (∃ new, joined = app.joined ++ new ∧ Works app.loadGenerator [] new loadGenerator) →
        Advances profile transport app [input] []
          { app with
            loadGenerator
            joined
            shouldExit
            log
            entered := app.entered ++ [input] } := by
    intro loadGenerator joined shouldExit log hnone hworks
    refine ⟨rfl, (List.append_nil _).symm, ?_, ?_⟩
    · rw [List.filterMap_cons_none (hrequest.trans hnone)]
      exact .refl _ _
    · rw [List.filterMap_cons_none hmessage]
      exact hworks
  have hidle : ∃ new, app.joined = app.joined ++ new ∧
      Works app.loadGenerator [] new app.loadGenerator := idle_load rfl rfl
  rw [processClientCommand] at h
  rw [lineRequest] at hcommand hrequest
  cases hparse : parseClientCommand profile line with
  | none =>
    rw [hparse] at h hcommand
    obtain rfl := Option.some.inj h
    exact hcommand rfl hidle
  | some command =>
    rw [hparse] at h hcommand hrequest
    cases command with
    | quit =>
      obtain rfl := Option.some.inj h
      exact hcommand rfl hidle
    | channels =>
      obtain rfl := Option.some.inj h
      exact hcommand rfl hidle
    | workers =>
      obtain rfl := Option.some.inj h
      exact hcommand rfl
        ⟨[], (List.append_nil _).symm, works_takeTurns (turns 0) app.loadGenerator⟩
    | stopLoad =>
      obtain ⟨app₁, hstop, rfl⟩ := Option.map_eq_some_iff.1 h
      obtain ⟨loadGenerator, hjoin, rfl⟩ := Option.map_eq_some_iff.1 hstop
      exact hcommand rfl ⟨_, rfl, works_stopAll hjoin⟩
    | spawn command =>
      obtain rfl := Option.some.inj h
      exact hcommand rfl ⟨[], (List.append_nil _).symm, works_spawn command turns app.loadGenerator⟩
    | send channel message =>
      obtain rfl := Option.some.inj h
      refine ⟨rfl, (List.append_nil _).symm, ?_, ?_⟩
      · rw [List.filterMap_cons_some hrequest]
        exact lives_queueSend transport app.session channel.id channel.type (bytesOf message)
      · rw [List.filterMap_cons_none hmessage]
        exact hidle

theorem advances_receive (received : List (Bytes × U64)) :
    Advances profile transport app [] [] (app.receive transport received) := by
  refine ⟨(List.append_nil _).symm, (List.append_nil _).symm, ?_, idle_load rfl rfl⟩
  refine Run.invariant (fun s => Lives transport app.session [] [] s) (fun s datagram h => ?_)
    (.refl _ _) received
  exact h.trans (Lives.op transport s (.call (.onDatagramReceived datagram.1 datagram.2)))

/-- The messages of the workers are queued one after the other. -/
theorem queueGenerated_foldl (messages : List QueuedSend) (app : ClientApp) :
    ∃ session, messages.foldl queueGenerated app =
        { app with session, entered := app.entered ++ messages.map .generated } ∧
      Lives transport app.session
        ((messages.map ClientInput.generated).filterMap (ClientInput.request profile)) []
        session := by
  induction messages generalizing app with
  | nil => exact ⟨app.session, by rw [List.map_nil, List.append_nil]; rfl, .refl _ _⟩
  | cons message messages ih =>
    obtain ⟨session, hfold, hlives⟩ := ih (app.queueGenerated message)
    refine ⟨session, ?_, (lives_queueSend transport app.session message.channelId
      message.channelType (bytesOf message.payload)).trans hlives⟩
    rw [List.foldl_cons, hfold]
    simp [queueGenerated, enter, ClientApp.queueSend]

theorem filterMap_message_generated (messages : List QueuedSend) :
    (messages.map ClientInput.generated).filterMap ClientInput.message = messages := by
  rw [List.filterMap_map]
  exact List.filterMap_some

theorem advances_drainLoad (turns : List ℕ) :
    ∃ messages : List QueuedSend, Advances profile transport app
      (messages.map .generated) [] (app.drainLoad turns) := by
  obtain ⟨session, hfold, hlives⟩ := @queueGenerated_foldl profile transport
    (app.loadGenerator.takeTurns turns).drain.1
    { app with loadGenerator := (app.loadGenerator.takeTurns turns).drain.2 }
  refine ⟨(app.loadGenerator.takeTurns turns).drain.1, ?_⟩
  rw [drainLoad, hfold]
  refine ⟨rfl, (List.append_nil _).symm, hlives, [], (List.append_nil _).symm, ?_⟩
  rw [filterMap_message_generated]
  exact (works_takeTurns turns app.loadGenerator).trans (works_drain _)

theorem advances_pollAll (times : List U64) :
    ∃ datagrams, Advances profile transport app [] datagrams (pollAll transport times app) ∧
      datagrams.length ≤ times.length := by
  induction times generalizing app with
  | nil => exact ⟨[], .refl _ _ _, le_rfl⟩
  | cons nowMs times ih =>
    have hpoll := Lives.op transport app.session (.call (.pollTx nowMs))
    simp only [LifeOp.apply, SessionOp.apply] at hpoll
    rw [pollAll]
    rcases hpolled : Session.pollTx transport nowMs app.session with ⟨_ | outbound, session⟩
    · rw [hpolled] at hpoll
      exact ⟨[], ⟨(List.append_nil _).symm, (List.append_nil _).symm, hpoll, idle_load rfl rfl⟩,
        Nat.zero_le _⟩
    · rw [hpolled] at hpoll
      obtain ⟨datagrams, hrest, hlength⟩ := @ih { app with session, sent := app.sent ++ [outbound] }
      have hfirst : Advances profile transport app [] [outbound]
          { app with session, sent := app.sent ++ [outbound] } :=
        ⟨(List.append_nil _).symm, rfl, hpoll, idle_load rfl rfl⟩
      exact ⟨_, hfirst.trans hrest, by simpa using hlength⟩

theorem advances_drainClientEvents :
    Advances profile transport app [] [] app.drainClientEvents := by
  refine ⟨(List.append_nil _).symm, (List.append_nil _).symm, ?_, idle_load rfl rfl⟩
  exact Lives.op transport app.session .drainEvents

theorem parseClientCommand_quit {line : Text} :
    parseClientCommand profile line = some .quit ↔ line = "/quit".toList := by
  rw [parseClientCommand]
  split_ifs with hquit
  · exact iff_of_true rfl hquit
  all_goals
    refine iff_of_false ?_ hquit
    try cases parseSpawnCommand profile line
    all_goals simp

/-- Only `/quit` leaves the loop, and no command says that the bootstrap commands have been run. -/
theorem processClientCommand_frame {line : Text} {turns : ℕ → List ℕ}
    (h : processClientCommand profile line turns app = some app') :
    app'.shouldExit = (app.shouldExit || decide (line = "/quit".toList)) ∧
      app'.bootstrapApplied = app.bootstrapApplied := by
  have hquit := @parseClientCommand_quit profile line
  have hother : parseClientCommand profile line ≠ some .quit →
      app.shouldExit = (app.shouldExit || decide (line = "/quit".toList)) := by
    intro hne
    rw [decide_eq_false (mt hquit.2 hne), Bool.or_false]
  rw [processClientCommand] at h
  cases hparse : parseClientCommand profile line with
  | none =>
    rw [hparse] at h hother
    obtain rfl := Option.some.inj h
    exact ⟨hother nofun, rfl⟩
  | some command =>
    rw [hparse] at h hquit hother
    cases command with
    | quit =>
      obtain rfl := Option.some.inj h
      refine ⟨?_, rfl⟩
      rw [decide_eq_true (hquit.1 rfl), Bool.or_true]
    | stopLoad =>
      obtain ⟨app₁, hstop, rfl⟩ := Option.map_eq_some_iff.1 h
      obtain ⟨loadGenerator, -, rfl⟩ := Option.map_eq_some_iff.1 hstop
      exact ⟨hother nofun, rfl⟩
    | channels | workers | spawn command | send channel message =>
      obtain rfl := Option.some.inj h
      exact ⟨hother nofun, rfl⟩

/-! ## The bootstrap commands -/

/-- The commands up to the first that leaves the loop. -/
def untilQuit : List Text → List Text
  | [] => []
  | command :: rest =>
    if command = "/quit".toList then [command] else command :: untilQuit rest

theorem advances_runBootstrap {turns : ℕ → ℕ → List ℕ} {commands : List Text} {i : ℕ}
    (hstays : app.shouldExit = false)
    (h : runBootstrap profile turns i commands app = some app') :
    Advances profile transport app ((untilQuit commands).map .bootstrap) [] app' := by
  induction commands generalizing app i with
  | nil =>
    obtain rfl := Option.some.inj h
    exact .refl _ _ _
  | cons command commands ih =>
    rw [runBootstrap] at h
    obtain ⟨app₁, hcommand, hrest⟩ := Option.bind_eq_some_iff.1 h
    obtain ⟨hexit, -⟩ := processClientCommand_frame hcommand
    have hfirst : Advances profile transport app [.bootstrap command] [] app₁ := by
      obtain ⟨hentered, hsent, hsession, hload⟩ :=
        @advances_command profile transport _ _ command (turns i) (.bootstrap command) rfl rfl
          hcommand
      exact ⟨hentered, hsent, hsession, hload⟩
    rw [untilQuit]
    by_cases hquit : command = "/quit".toList
    · have hleft : app₁.shouldExit = true := by
        rw [hexit, decide_eq_true hquit, Bool.or_true]
      rw [if_pos hleft] at hrest
      obtain rfl := Option.some.inj hrest
      rw [if_pos hquit]
      exact hfirst
    · have hstill : app₁.shouldExit = false := by
        rw [hexit, decide_eq_false hquit, Bool.or_false]
        exact hstays
      rw [if_neg (by simp [hstill])] at hrest
      rw [if_neg hquit, List.map_cons]
      exact hfirst.trans (ih hstill hrest)

/-! ## One pass -/

/-- The two flags of the loop stay as they are. -/
structure Keeps (app app' : ClientApp) : Prop where
  shouldExit : app'.shouldExit = app.shouldExit
  bootstrapApplied : app'.bootstrapApplied = app.bootstrapApplied

theorem keeps_pollAll (times : List U64) : Keeps app (pollAll transport times app) := by
  induction times generalizing app with
  | nil => exact ⟨rfl, rfl⟩
  | cons nowMs times ih =>
    rw [pollAll]
    rcases Session.pollTx transport nowMs app.session with ⟨_ | outbound, session⟩
    · exact ⟨rfl, rfl⟩
    · obtain ⟨hexit, happlied⟩ := @ih { app with session, sent := app.sent ++ [outbound] }
      exact ⟨hexit, happlied⟩

theorem keeps_drainLoad (turns : List ℕ) : Keeps app (app.drainLoad turns) := by
  obtain ⟨session, hfold, -⟩ := @queueGenerated_foldl {} {}
    (app.loadGenerator.takeTurns turns).drain.1
    { app with loadGenerator := (app.loadGenerator.takeTurns turns).drain.2 }
  rw [drainLoad, hfold]
  exact ⟨rfl, rfl⟩

/-- Messages are queued, and no more is sent than the budget allows. -/
theorem advances_exchange (turn : ClientTurn) :
    ∃ (messages : List QueuedSend) (datagrams : List Bytes),
      Advances profile transport app (messages.map .generated) datagrams
        (app.exchange profile transport turn) ∧
      datagrams.length ≤ profile.pollBudget.toNat ∧
      Keeps app (app.exchange profile transport turn) := by
  obtain ⟨messages, hload⟩ :=
    @advances_drainLoad profile transport app turn.drainTurns
  obtain ⟨datagrams, hpoll, hlength⟩ := @advances_pollAll profile transport
    (app.drainLoad turn.drainTurns) ((List.range profile.pollBudget.toNat).map turn.clock)
  refine ⟨messages, datagrams, ?_, by simpa using hlength, ?_⟩
  · have hall := (hload.trans hpoll).trans advances_drainClientEvents
    rwa [List.append_nil, List.append_nil, List.nil_append, List.append_nil] at hall
  · obtain ⟨hexit, happlied⟩ := @keeps_pollAll transport (app.drainLoad turn.drainTurns)
      ((List.range profile.pollBudget.toNat).map turn.clock)
    obtain ⟨hexit', happlied'⟩ := @keeps_drainLoad app turn.drainTurns
    exact ⟨hexit.trans hexit', happlied.trans happlied'⟩

theorem advances_readStdin {turn : ClientTurn} (h : readStdin profile turn app = some app') :
    ∃ inputs, Advances profile transport app inputs [] app' ∧
      inputs.filterMap ClientInput.bootstrapLine = [] ∧
      app'.bootstrapApplied = app.bootstrapApplied := by
  have hidle : ∀ stdinEnabled, ∃ inputs,
      Advances profile transport app inputs [] { app with stdinEnabled } ∧
        inputs.filterMap ClientInput.bootstrapLine = [] ∧
        app.bootstrapApplied = app.bootstrapApplied := by
    intro stdinEnabled
    exact ⟨[], ⟨(List.append_nil _).symm, (List.append_nil _).symm, .refl _ _, idle_load rfl rfl⟩,
      rfl, rfl⟩
  rw [readStdin] at h
  rcases hinput : turn.stdin with _ | _ | line
  · rw [hinput] at h
    obtain rfl := Option.some.inj h
    exact hidle app.stdinEnabled
  · rw [hinput] at h
    obtain rfl := Option.some.inj h
    exact hidle false
  · rw [hinput] at h
    simp only at h
    split_ifs at h
    · exact ⟨[.typed line], advances_command rfl rfl h, rfl, (processClientCommand_frame h).2⟩
    · obtain rfl := Option.some.inj h
      exact hidle app.stdinEnabled

/-- **One pass of the loop.** -/
structure Pass (profile : RuntimeProfile) (transport : TransportSettings) (commands : List Text)
    (app : ClientApp) (inputs : List ClientInput) (datagrams : List Bytes) (app' : ClientApp) :
    Prop where
  advances : Advances profile transport app inputs datagrams app'
  budget : datagrams.length ≤ profile.pollBudget.toNat
  bootstrap : app'.bootstrapApplied = app.bootstrapApplied ∧
      inputs.filterMap ClientInput.bootstrapLine = [] ∨
    app.bootstrapApplied = false ∧ app'.bootstrapApplied = true ∧
      inputs.filterMap ClientInput.bootstrapLine = untilQuit commands

theorem filterMap_bootstrapLine_generated (messages : List QueuedSend) :
    (messages.map ClientInput.generated).filterMap ClientInput.bootstrapLine = [] := by
  rw [List.filterMap_map]
  exact List.filterMap_eq_nil_iff.2 fun _ _ => rfl

theorem filterMap_bootstrapLine_bootstrap (lines : List Text) :
    (lines.map ClientInput.bootstrap).filterMap ClientInput.bootstrapLine = lines := by
  rw [List.filterMap_map]
  exact List.filterMap_some

theorem exitOnReset_bootstrapApplied (app : ClientApp) :
    app.exitOnReset.bootstrapApplied = app.bootstrapApplied := by
  rw [exitOnReset]
  split_ifs <;> rfl

theorem advances_exitOnReset (h : Advances profile transport app inputs datagrams app') :
    Advances profile transport app inputs datagrams app'.exitOnReset := by
  rw [exitOnReset]
  split_ifs
  · exact ⟨h.entered, h.sent, h.session, h.load⟩
  · exact h

theorem pass_turn {commands : List Text} {turn : ClientTurn}
    (h : app.turn profile transport commands turn = some app') :
    ∃ inputs datagrams, Pass profile transport commands app inputs datagrams app' := by
  have hidle : ∀ shouldExit, Pass profile transport commands app [] [] { app with shouldExit } :=
    fun shouldExit =>
      ⟨⟨(List.append_nil _).symm, (List.append_nil _).symm, .refl _ _, idle_load rfl rfl⟩,
        Nat.zero_le _, Or.inl ⟨rfl, rfl⟩⟩
  rw [ClientApp.turn] at h
  split_ifs at h with hleft hbreak
  · obtain rfl := Option.some.inj h
    exact ⟨[], [], hidle app.shouldExit⟩
  · obtain rfl := Option.some.inj h
    exact ⟨[], [], hidle true⟩
  · obtain ⟨app₁, hstdin, h⟩ := Option.bind_eq_some_iff.1 h
    obtain ⟨inputs, hread, hnone, happlied⟩ := @advances_readStdin profile transport _ _ turn hstdin
    have hread := (@advances_receive profile transport app turn.received).trans hread
    rw [List.nil_append, List.nil_append] at hread
    split_ifs at h with hexit
    · obtain rfl := Option.some.inj h
      exact ⟨inputs, [], hread, Nat.zero_le _, Or.inl ⟨happlied, hnone⟩⟩
    · obtain ⟨app₂, hbootstrap, h⟩ := Option.bind_eq_some_iff.1 h
      obtain rfl := Option.some.inj h
      obtain ⟨messages, datagrams, hexchange, hbudget, hexit', happlied'⟩ :=
        @advances_exchange profile transport app₁ turn
      have hgenerated := filterMap_bootstrapLine_generated messages
      have hafter := hread.trans hexchange
      rw [List.nil_append] at hafter
      rw [applyBootstrap] at hbootstrap
      split_ifs at hbootstrap with hdue
      · obtain ⟨app₃, hrun, rfl⟩ := Option.map_eq_some_iff.1 hbootstrap
        have hstays : (app₁.exchange profile transport turn).shouldExit = false :=
          hexit'.trans (Bool.eq_false_iff.2 hexit)
        obtain ⟨hentered, hsent, hsession, hload⟩ :=
          hafter.trans (@advances_runBootstrap profile transport _ _ _ _ _ hstays hrun)
        rw [List.append_nil] at hsent hsession
        refine ⟨inputs ++ messages.map .generated ++ (untilQuit commands).map .bootstrap, datagrams,
          ?_, hbudget, Or.inr ⟨?_, ?_, ?_⟩⟩
        · exact advances_exitOnReset ⟨hentered, hsent, hsession, hload⟩
        · exact happlied.symm.trans (happlied'.symm.trans hdue.1)
        · exact exitOnReset_bootstrapApplied _
        · rw [List.filterMap_append, List.filterMap_append, hnone, hgenerated,
            filterMap_bootstrapLine_bootstrap]
          rfl
      · obtain rfl := Option.some.inj hbootstrap
        refine ⟨inputs ++ messages.map .generated, datagrams, advances_exitOnReset hafter, hbudget,
          Or.inl ⟨?_, ?_⟩⟩
        · exact (exitOnReset_bootstrapApplied _).trans (happlied'.trans happlied)
        · rw [List.filterMap_append, hnone, hgenerated]
          rfl

end Steps

/-! ## Every run -/

section Runs

open ClientApp

variable {profile : RuntimeProfile} {transport : TransportSettings} {commands log : List Text}
  {isInteractive : Bool} {initialSeq : U32} {turns : List ClientTurn} {app : ClientApp}

theorem advances_run
    (hrun : Run.runM (ClientApp.turn profile transport commands)
      (.start profile commands log isInteractive initialSeq) turns = some app) :
    Advances profile transport (.start profile commands log isInteractive initialSeq) app.entered
      app.sent app := by
  refine Run.invariantM (fun app => Advances profile transport
    (.start profile commands log isInteractive initialSeq) app.entered app.sent app)
    (fun app turn app' h hstep => ?_) (.refl _ _ _) hrun
  obtain ⟨inputs, datagrams, hpass⟩ := pass_turn hstep
  have hall := h.trans hpass.advances
  rwa [← hpass.advances.entered, ← hpass.advances.sent] at hall

/-- **From the keyboard to the wire.** In every run of the client's loop, the requests that have
been entered (by lines that were typed, by bootstrap commands and by the workers) are, in the order
of their entry, those that the datagrams sent so far have carried first, and then those still
pending; and the sender is as sound as ever. -/
theorem client_conserves
    (hrun : Run.runM (ClientApp.turn profile transport commands)
      (.start profile commands log isInteractive initialSeq) turns = some app) :
    ∃ emitted : List Emission, emitted.map Emission.datagram = app.sent ∧
      transmitted emitted ++ app.session.tx.pendingSend =
        app.entered.filterMap (ClientInput.request profile) ∧
      Conserves transport initialSeq
        { tx := app.session.tx
          queued := app.entered.filterMap (ClientInput.request profile)
          emitted } := by
  obtain ⟨emitted, hsent, hconserves⟩ := (advances_run hrun).session.conserves
  exact ⟨emitted, hsent, hconserves.requests, hconserves⟩

/-- **From a worker to the session.** Every run of the client's loop is one of the load generator, in
which the messages taken from it are those entered for the workers, and the workers joined are those
that the loop has stopped. So what these and the running workers have produced is what has been
entered for them and what waits in the queue: each worker's messages in their order, none lost and
none doubled. -/
theorem client_load
    (hrun : Run.runM (ClientApp.turn profile transport commands)
      (.start profile commands log isInteractive initialSeq) turns = some app) :
    (∃ ops, Run.runM LoadRun.step {} ops = some
      { generator := app.loadGenerator
        drained := app.entered.filterMap ClientInput.message
        joined := app.joined }) ∧
      Accounted (app.entered.filterMap ClientInput.message) app.joined app.loadGenerator := by
  obtain ⟨joined, hjoined, ops, hworks⟩ := (advances_run hrun).load
  obtain rfl : app.joined = joined := hjoined.trans (List.nil_append _)
  have hload := hworks [] []
  exact ⟨⟨ops, hload⟩, LoadRun.accounted hload⟩

theorem sent_length_run {app₀ : ClientApp}
    (hrun : Run.runM (ClientApp.turn profile transport commands) app₀ turns = some app) :
    app.sent.length ≤ app₀.sent.length + turns.length * profile.pollBudget.toNat := by
  induction turns generalizing app₀ with
  | nil =>
    obtain rfl := Option.some.inj hrun
    omega
  | cons turn turns ih =>
    rw [Run.runM_cons] at hrun
    obtain ⟨app₁, hstep, hrest⟩ := Option.bind_eq_some_iff.1 hrun
    obtain ⟨inputs, datagrams, hpass⟩ := pass_turn hstep
    have hfirst : app₁.sent.length = app₀.sent.length + datagrams.length := by
      rw [hpass.advances.sent, List.length_append]
    have hbudget := hpass.budget
    have hlater := ih hrest
    rw [List.length_cons, Nat.add_mul, Nat.one_mul]
    omega

/-- **The bootstrap commands** are entered once, in one go and up to the first `/quit`, and no pass
sends more datagrams than its budget. -/
theorem client_bootstrap
    (hrun : Run.runM (ClientApp.turn profile transport commands)
      (.start profile commands log isInteractive initialSeq) turns = some app) :
    app.entered.filterMap ClientInput.bootstrapLine =
        (if app.bootstrapApplied then untilQuit commands else []) ∧
      app.sent.length ≤ turns.length * profile.pollBudget.toNat := by
  constructor
  · refine Run.invariantM (fun app : ClientApp => app.entered.filterMap ClientInput.bootstrapLine =
      if app.bootstrapApplied then untilQuit commands else []) (fun app turn app' h hstep => ?_) ?_
      hrun
    · obtain ⟨inputs, datagrams, hpass⟩ := pass_turn hstep
      rw [hpass.advances.entered, List.filterMap_append, h]
      rcases hpass.bootstrap with ⟨hsame, hnone⟩ | ⟨hbefore, hafter, hlines⟩
      · rw [hsame, hnone, List.append_nil]
      · rw [hbefore, hafter, hlines]
        rfl
    · cases commands <;> rfl
  · have hlength := sent_length_run hrun
    have hnone : (ClientApp.start profile commands log isInteractive initialSeq).sent.length = 0 :=
      rfl
    rwa [hnone, Nat.zero_add] at hlength

end Runs

/-! ## A run -/

/-- A load of two messages, and a line that the profile sends as a state. -/
def someCommands : List Text := ["/spawn chat 1 2 0 load".toList, "send 7 x".toList]

/-- The SYN is answered, a line is typed, the bootstrap commands are run, and the worker gets
its turns. -/
def threePasses : List ClientTurn :=
  [{},
    { received := [(controlDatagram 7 (Flag.syn.toFlags ||| Flag.ack.toFlags) 100 501 0, 5)]
      stdin := some (some "hello".toList)
      clock := fun i => 5 + BitVec.ofNat 64 i },
    { drainTurns := [0, 0, 0, 0], clock := fun _ => 9 }]

theorem run_threePasses :
    ∃ app, Run.runM (ClientApp.turn twoChannels {} someCommands)
        (.start twoChannels someCommands [] true 500) threePasses = some app ∧
      app.sent.length = 6 ∧ app.bootstrapApplied = true ∧ app.session.tx.pendingSend = [] ∧
      app.entered =
        [.typed "hello".toList, .bootstrap "/spawn chat 1 2 0 load".toList,
          .bootstrap "send 7 x".toList, .generated ⟨2, .reliableOrdered, "load [t0 #0]".toList⟩,
          .generated ⟨2, .reliableOrdered, "load [t0 #1]".toList⟩] := by
  have hvalues : ((Run.runM (ClientApp.turn twoChannels {} someCommands)
      (.start twoChannels someCommands [] true 500) threePasses).map fun app =>
        (app.sent.length, app.bootstrapApplied, app.session.tx.pendingSend, app.entered)) =
      some (6, true, [], [.typed "hello".toList, .bootstrap "/spawn chat 1 2 0 load".toList,
        .bootstrap "send 7 x".toList, .generated ⟨2, .reliableOrdered, "load [t0 #0]".toList⟩,
        .generated ⟨2, .reliableOrdered, "load [t0 #1]".toList⟩]) := by
    decide +kernel
  obtain ⟨app, hrun, hvalue⟩ := Option.map_eq_some_iff.1 hvalues
  simp only [Prod.mk.injEq] at hvalue
  exact ⟨app, hrun, hvalue⟩

theorem client_conserves_threePasses :
    ∃ (app : ClientApp) (emitted : List Emission),
      emitted.map Emission.datagram = app.sent ∧ app.sent.length = 6 ∧
      transmitted emitted = app.entered.filterMap (ClientInput.request twoChannels) := by
  obtain ⟨app, hrun, hlength, -, hpending, -⟩ := run_threePasses
  obtain ⟨emitted, hsent, hrequests, -⟩ := client_conserves hrun
  rw [hpending, List.append_nil] at hrequests
  exact ⟨app, emitted, hsent, hlength, hrequests⟩

/-- After the three passes the load is stopped, and its worker is joined. -/
theorem client_load_stopped :
    ∃ app : ClientApp,
      app.entered.filterMap ClientInput.message =
        [⟨2, .reliableOrdered, "load [t0 #0]".toList⟩,
          ⟨2, .reliableOrdered, "load [t0 #1]".toList⟩] ∧
      app.joined.map Worker.produced = [2] ∧ app.loadGenerator.workers = [] ∧
      (∃ ops, Run.runM LoadRun.step {} ops = some
        { generator := app.loadGenerator
          drained := app.entered.filterMap ClientInput.message
          joined := app.joined }) ∧
      Accounted (app.entered.filterMap ClientInput.message) app.joined app.loadGenerator := by
  have hvalues : ((Run.runM (ClientApp.turn twoChannels {} someCommands)
      (.start twoChannels someCommands [] true 500) (threePasses ++
        [{ stdin := some (some "/stop-load".toList), commandTurns := fun _ => [0, 0] }])).map
          fun app => (app.entered.filterMap ClientInput.message, app.joined.map Worker.produced,
            app.loadGenerator.workers)) =
      some ([⟨2, .reliableOrdered, "load [t0 #0]".toList⟩,
        ⟨2, .reliableOrdered, "load [t0 #1]".toList⟩], [2], []) := by
    decide +kernel
  obtain ⟨app, hrun, hvalue⟩ := Option.map_eq_some_iff.1 hvalues
  simp only [Prod.mk.injEq] at hvalue
  obtain ⟨hentered, hjoined, hworkers⟩ := hvalue
  exact ⟨app, hentered, hjoined, hworkers, client_load hrun⟩

theorem client_bootstrap_threePasses :
    ∃ app : ClientApp,
      app.entered.filterMap ClientInput.bootstrapLine = untilQuit someCommands ∧
        app.sent.length ≤ threePasses.length * 8 := by
  obtain ⟨app, hrun, -, happlied, -, -⟩ := run_threePasses
  obtain ⟨hlines, hlength⟩ := client_bootstrap hrun
  rw [happlied] at hlines
  exact ⟨app, hlines, hlength⟩

end Runtime

end Rudp
