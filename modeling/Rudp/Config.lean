import Rudp.SessionTypes
import Rudp.Utils

/-!
# Configuration

`src/Config.cpp`: the settings that a `.env` file changes, and the profiles that are read from files
in a small subset of YAML.

The C++ functions return whether they succeeded and write what they read through a reference, and
the reason of a failure through a pointer that may be null. Here a step that fails is an error with
what the pointer holds then, and a step that succeeds leaves the message alone. A failed step may
leave its target half written in C++; the two public functions work on a copy, and drop it.
-/

namespace Rudp

namespace Config

open Utils

/-! ## Settings and profiles -/

structure RuntimeSettings where
  serverBindAddress : Text := "127.0.0.1".toList
  serverPort : U16 := 9000
  clientServerAddress : Text := "127.0.0.1".toList
  clientServerPort : U16 := 9000
  clientBindAddress : Text := "0.0.0.0".toList
  socketBufferSize : U64 := 1500
  serverLoopSleepUs : U32 := 10000
  clientSelectTimeoutUs : U32 := 10000
  clientPollBudget : U32 := 8
  serverLogPath : Text := "logs/rudp_server.log".toList
  clientLogPath : Text := "logs/rudp_client.log".toList
  deriving DecidableEq, Repr

structure Settings where
  transport : TransportSettings := {}
  runtime : RuntimeSettings := {}
  deriving DecidableEq, Repr

inductive RuntimeMode where
  | server
  | client
  deriving DecidableEq, Repr

structure ChannelDefinition where
  id : U32 := 0
  name : Text := []
  type : ChannelType := .unreliable
  isDefault : Bool := false
  deriving DecidableEq, Repr

structure RuntimeProfile where
  mode : RuntimeMode := .server
  bindAddress : Text := "127.0.0.1".toList
  bindPort : U16 := 9000
  remoteAddress : Text := "127.0.0.1".toList
  remotePort : U16 := 9000
  logPath : Text := "logs/rudp.log".toList
  socketBufferSize : U64 := 1500
  loopSleepUs : U32 := 10000
  selectTimeoutUs : U32 := 10000
  pollBudget : U32 := 8
  channels : List ChannelDefinition := []
  deriving DecidableEq, Repr

/-! ## Messages -/

/-- What `error_message` points to; `none` is the null pointer. -/
abbrev Message := Option Text

def Message.write (text : Text) : Message → Message := Option.map fun _ => text

/-- Written only if nothing has been written before. -/
def Message.writeIfEmpty (text : Text) : Message → Message :=
  Option.map fun current => if current = [] then text else current

/-! ## Values -/

/-- `target = static_cast<Integer>(parsed)` keeps the low bits. `assign_yaml_integer` passes its
arguments on to this function. -/
def assignInteger {w : ℕ} (rawValue : Text) (message : Message) (key : Text) :
    Except Message (BitVec w) :=
  match stoull rawValue with
  | some parsed => .ok (parsed.setWidth w)
  | none => .error (message.write ("invalid integer for key ".toList ++ key))

def parseRuntimeMode (value : Text) : Option RuntimeMode :=
  if value = "server".toList then some .server
  else if value = "client".toList then some .client
  else none

def parseChannelType (value : Text) : Option ChannelType :=
  if value = "reliable_ordered".toList then some .reliableOrdered
  else if value = "reliable_unordered".toList then some .reliableUnordered
  else if value = "unreliable".toList then some .unreliable
  else if value = "monotonic_state".toList then some .monotonicState
  else none

/-! ## The `.env` file -/

def applyKv (settings : Settings) (key value : Text) (message : Message) :
    Except Message Settings :=
  let transport := settings.transport
  let runtime := settings.runtime
  if key = "RUDP_TRANSPORT_INITIAL_RTO_MS".toList then
    (assignInteger value message key).map fun parsed =>
      { settings with transport := { transport with initialRtoMs := parsed } }
  else if key = "RUDP_TRANSPORT_MAX_RTO_MS".toList then
    (assignInteger value message key).map fun parsed =>
      { settings with transport := { transport with maxRtoMs := parsed } }
  else if key = "RUDP_TRANSPORT_MAX_RETRANSMIT_COUNT".toList then
    (assignInteger value message key).map fun parsed =>
      { settings with transport := { transport with maxRetransmitCount := parsed } }
  else if key = "RUDP_TRANSPORT_HANDSHAKE_LINGER_MS".toList then
    (assignInteger value message key).map fun parsed =>
      { settings with transport := { transport with handshakeLingerMs := parsed } }
  else if key = "RUDP_TRANSPORT_KEEPALIVE_IDLE_MS".toList then
    (assignInteger value message key).map fun parsed =>
      { settings with transport := { transport with keepaliveIdleMs := parsed } }
  else if key = "RUDP_TRANSPORT_IDLE_TIMEOUT_MS".toList then
    (assignInteger value message key).map fun parsed =>
      { settings with transport := { transport with idleTimeoutMs := parsed } }
  else if key = "RUDP_TRANSPORT_RELIABLE_ACK_DELAY_MS".toList then
    (assignInteger value message key).map fun parsed =>
      { settings with transport := { transport with reliableAckDelayMs := parsed } }
  else if key = "RUDP_TRANSPORT_FAST_RETX_EVIDENCE_THRESHOLD".toList then
    (assignInteger value message key).map fun parsed =>
      { settings with transport := { transport with fastRetxEvidenceThreshold := parsed } }
  else if key = "RUDP_TRANSPORT_ENABLE_ACTIVITY_ACK_ONLY".toList then
    match parseBool value with
    | none => .error (message.write ("invalid boolean for key ".toList ++ key))
    | some parsed => .ok { settings with
        transport := { transport with enableActivityAckOnly := parsed } }
  else if key = "RUDP_RUNTIME_SERVER_BIND_ADDRESS".toList then
    .ok { settings with runtime := { runtime with serverBindAddress := unquote value } }
  else if key = "RUDP_RUNTIME_SERVER_PORT".toList then
    (assignInteger value message key).map fun parsed =>
      { settings with runtime := { runtime with serverPort := parsed } }
  else if key = "RUDP_RUNTIME_CLIENT_SERVER_ADDRESS".toList then
    .ok { settings with runtime := { runtime with clientServerAddress := unquote value } }
  else if key = "RUDP_RUNTIME_CLIENT_SERVER_PORT".toList then
    (assignInteger value message key).map fun parsed =>
      { settings with runtime := { runtime with clientServerPort := parsed } }
  else if key = "RUDP_RUNTIME_CLIENT_BIND_ADDRESS".toList then
    .ok { settings with runtime := { runtime with clientBindAddress := unquote value } }
  else if key = "RUDP_RUNTIME_SOCKET_BUFFER_SIZE".toList then
    (assignInteger value message key).map fun parsed =>
      { settings with runtime := { runtime with socketBufferSize := parsed } }
  else if key = "RUDP_RUNTIME_SERVER_LOOP_SLEEP_US".toList then
    (assignInteger value message key).map fun parsed =>
      { settings with runtime := { runtime with serverLoopSleepUs := parsed } }
  else if key = "RUDP_RUNTIME_CLIENT_SELECT_TIMEOUT_US".toList then
    (assignInteger value message key).map fun parsed =>
      { settings with runtime := { runtime with clientSelectTimeoutUs := parsed } }
  else if key = "RUDP_RUNTIME_CLIENT_POLL_BUDGET".toList then
    (assignInteger value message key).map fun parsed =>
      { settings with runtime := { runtime with clientPollBudget := parsed } }
  else if key = "RUDP_RUNTIME_SERVER_LOG_PATH".toList then
    .ok { settings with runtime := { runtime with serverLogPath := unquote value } }
  else if key = "RUDP_RUNTIME_CLIENT_LOG_PATH".toList then
    .ok { settings with runtime := { runtime with clientLogPath := unquote value } }
  else .ok settings

/-- `trimmed.empty() || trimmed.front() == '#'` -/
def isSkipped (line : Text) : Bool :=
  trim line = [] || (trim line).head? = some '#'

/-- The body of the loop over the lines. -/
def applyEnvLine (lineNumber : ℕ) (line : Text) (message : Message) (loaded : Settings) :
    Except Message Settings :=
  if isSkipped line then .ok loaded
  else
    match Lines.cut '=' (trim line) with
    | none => .error (message.write ("invalid .env line ".toList ++ toDecimal lineNumber))
    | some (key, value) => applyKv loaded (trim key) (trim value) message

def applyEnvLines (message : Message) : ℕ → List Text → Settings → Except Message Settings
  | _, [], loaded => .ok loaded
  | lineNumber, line :: rest, loaded =>
    match applyEnvLine (lineNumber + 1) line message loaded with
    | .error message => .error message
    | .ok loaded => applyEnvLines message (lineNumber + 1) rest loaded

/-- The file is the text behind the path, if it can be opened; `settings` is the global, which the
result replaces. -/
def loadFromEnvFile (path : Text) (file : Option Text) (settings : Settings) (message : Message) :
    Bool × Settings × Message :=
  match file with
  | none => (false, settings, message.write ("unable to open ".toList ++ path))
  | some input =>
    match applyEnvLines message 0 (Lines.read '\n' input) settings with
    | .error message => (false, settings, message)
    | .ok loaded => (true, loaded, message)

/-! ## Profiles -/

def defaultRuntimeProfile (settings : Settings) : RuntimeProfile :=
  let runtime := settings.runtime
  { mode := .server
    bindAddress := runtime.serverBindAddress
    bindPort := runtime.serverPort
    remoteAddress := runtime.clientServerAddress
    remotePort := runtime.clientServerPort
    logPath := runtime.serverLogPath
    socketBufferSize := runtime.socketBufferSize
    loopSleepUs := runtime.serverLoopSleepUs
    selectTimeoutUs := runtime.clientSelectTimeoutUs
    pollBudget := runtime.clientPollBudget
    channels := [] }

def indentationOf (line : Text) : ℕ := (line.takeWhile (· = ' ')).length

def parseKeyValue (line : Text) : Option (Text × Text) :=
  (Lines.cut ':' line).map fun (key, value) => (trim key, unquote (trim value))

/-- The log path of a mode. -/
def Settings.logPath (settings : Settings) : RuntimeMode → Text
  | .client => settings.runtime.clientLogPath
  | .server => settings.runtime.serverLogPath

def applyProfileField (settings : Settings) (profile : RuntimeProfile) (scope key value : Text)
    (message : Message) : Except Message RuntimeProfile :=
  if scope = [] then
    if key = "mode".toList then
      match parseRuntimeMode value with
      | none => .error (message.write "mode must be server or client".toList)
      | some mode => .ok { profile with mode, logPath := settings.logPath mode }
    else .ok profile
  else if scope = "runtime".toList then
    if key = "log_path".toList then .ok { profile with logPath := value }
    else if key = "socket_buffer_size".toList then
      (assignInteger value message "runtime.socket_buffer_size".toList).map fun parsed =>
        { profile with socketBufferSize := parsed }
    else if key = "loop_sleep_us".toList then
      (assignInteger value message "runtime.loop_sleep_us".toList).map fun parsed =>
        { profile with loopSleepUs := parsed }
    else if key = "select_timeout_us".toList then
      (assignInteger value message "runtime.select_timeout_us".toList).map fun parsed =>
        { profile with selectTimeoutUs := parsed }
    else if key = "poll_budget".toList then
      (assignInteger value message "runtime.poll_budget".toList).map fun parsed =>
        { profile with pollBudget := parsed }
    else .ok profile
  else if scope = "connection".toList then
    if key = "bind_address".toList then .ok { profile with bindAddress := value }
    else if key = "bind_port".toList then
      (assignInteger value message "connection.bind_port".toList).map fun parsed =>
        { profile with bindPort := parsed }
    else if key = "remote_address".toList then .ok { profile with remoteAddress := value }
    else if key = "remote_port".toList then
      (assignInteger value message "connection.remote_port".toList).map fun parsed =>
        { profile with remotePort := parsed }
    else .ok profile
  else .ok profile

def applyChannelField (channel : ChannelDefinition) (key value : Text) (message : Message) :
    Except Message ChannelDefinition :=
  if key = "id".toList then
    (assignInteger value message "channels[].id".toList).map fun parsed =>
      { channel with id := parsed }
  else if key = "name".toList then .ok { channel with name := value }
  else if key = "type".toList then
    match parseChannelType value with
    | none => .error (message.write ("channel type must be reliable_ordered, ".toList ++
        "reliable_unordered, unreliable, or monotonic_state".toList))
    | some type => .ok { channel with type }
  else if key = "default".toList then
    match parseBool value with
    | none => .error (message.write "channels[].default must be true or false".toList)
    | some isDefault => .ok { channel with isDefault }
  else .ok channel

/-- The variables of the loop. `current_channel` is null or points to the back of `channels`, so it
is a flag here. -/
structure YamlState where
  profile : RuntimeProfile
  sectionName : Text := []
  currentChannel : Bool := false
  deriving DecidableEq, Repr

/-- An entry is parsed and applied, and if this fails without a message, there is one about the
line. -/
def applyEntry {α : Type} (what : Text) (lineNumber : ℕ) (message : Message) (text : Text)
    (apply : Text → Text → Except Message α) : Except Message α :=
  let fallback := "invalid ".toList ++ what ++ " on line ".toList ++ toDecimal lineNumber
  match parseKeyValue text with
  | none => .error (message.writeIfEmpty fallback)
  | some (key, value) => (apply key value).mapError (Message.writeIfEmpty fallback)

/-- The body of the loop over the lines. -/
def applyLine (settings : Settings) (lineNumber : ℕ) (line : Text) (message : Message)
    (state : YamlState) : Except Message YamlState :=
  let trimmed := trim line
  let indent := indentationOf line
  let profile := state.profile
  if isSkipped line then .ok state
  else if indent = 0 then
    if trimmed.getLast? = some ':' then
      .ok { state with sectionName := trimmed.dropLast, currentChannel := false }
    else
      (applyEntry "root entry".toList lineNumber message trimmed fun key value =>
        applyProfileField settings profile [] key value message).map fun profile =>
          { state with profile, currentChannel := false }
  else if state.sectionName = "channels".toList then
    if indent = 2 ∧ "- ".toList <+: trimmed then
      (applyEntry "channel entry".toList lineNumber message (trimmed.drop 2) fun key value =>
        applyChannelField {} key value message).map fun channel =>
          { state with
            profile := { profile with channels := profile.channels ++ [channel] }
            currentChannel := true }
    else if indent = 4 ∧ state.currentChannel then
      (applyEntry "channel field".toList lineNumber message trimmed fun key value =>
        applyChannelField (profile.channels.getLastD {}) key value message).map fun channel =>
          { state with
            profile := { profile with channels := profile.channels.dropLast ++ [channel] } }
    else
      .error (message.write
        ("invalid channels indentation on line ".toList ++ toDecimal lineNumber))
  else if indent = 2 ∧
      (state.sectionName = "runtime".toList ∨ state.sectionName = "connection".toList) then
    (applyEntry (state.sectionName ++ " field".toList) lineNumber message trimmed fun key value =>
      applyProfileField settings profile state.sectionName key value message).map fun profile =>
        { state with profile }
  else .error (message.write ("unsupported YAML shape on line ".toList ++ toDecimal lineNumber))

def applyLines (settings : Settings) (message : Message) :
    ℕ → List Text → YamlState → Except Message YamlState
  | _, [], state => .ok state
  | lineNumber, line :: rest, state =>
    match applyLine settings (lineNumber + 1) line message state with
    | .error message => .error message
    | .ok state => applyLines settings message (lineNumber + 1) rest state

/-- What is left to do after the loop: a profile has a default channel, and a client profile has
somebody to connect to. -/
def finishProfile (message : Message) (profile : RuntimeProfile) :
    Except Message RuntimeProfile :=
  let channels := match profile.channels with
    | [] => [{ id := 1, name := "default".toList, type := .unreliable, isDefault := true }]
    | first :: rest =>
      if (first :: rest).any (·.isDefault) then first :: rest
      else { first with isDefault := true } :: rest
  let profile := { profile with channels }
  if profile.mode = .server then .ok { profile with remoteAddress := [], remotePort := 0 }
  else if profile.remoteAddress = [] ∨ profile.remotePort = 0 then
    .error (message.write ("client profiles must define connection.remote_address and ".toList ++
      "connection.remote_port".toList))
  else .ok profile

def applyProfileYaml (settings : Settings) (profile : RuntimeProfile) (input : Text)
    (message : Message) : Except Message RuntimeProfile :=
  let start := { profile := { profile with channels := [] } : YamlState }
  match applyLines settings message 0 (Lines.read '\n' input) start with
  | .error message => .error message
  | .ok state => finishProfile message state.profile

/-- `profile` is the caller's, which the result replaces. -/
def loadRuntimeProfileFromYaml (settings : Settings) (path : Text) (file : Option Text)
    (profile : RuntimeProfile) (message : Message) : Bool × RuntimeProfile × Message :=
  match file with
  | none => (false, profile, message.write ("unable to open ".toList ++ path))
  | some input =>
    match applyProfileYaml settings (defaultRuntimeProfile settings) input message with
    | .error message => (false, profile, message)
    | .ok loaded => (true, loaded, message)

end Config

end Rudp
