import Rudp.ConfigOrder

/-!
# The command line

`src/BsdRuntime.cpp`: what the program does before it becomes a server or a client. A `.env` file
changes the settings, the profile named on the command line is read over them, and variables of the
environment override what the profile says.

The program's surroundings are a value, with what the standard library and `spdlog` throw. Of the
file logger's exceptions only `spdlog`'s are caught: if the directory of the log file cannot be
created, the program aborts. So the profile has a say in whether the program starts at all, also
after it has been read, and so has the environment (`cli_runs_iff`).
-/

namespace Rudp

namespace Runtime

open Config Utils

/-! ## Starting -/

/-- What the process finds: its arguments, the environment, which paths exist (nothing, if that
cannot be told), what is behind those that can be opened, whether `create_directories` returns for a
path, and what `spdlog::basic_logger_mt` throws for a name and a path. -/
structure Host where
  argv : List Text
  getenv : Text → Option Text
  pathExists : Text → Option Bool
  files : Text → Option Text
  createsDirectories : Text → Bool
  basicLogger : Text → Text → Option Text

/-- The process exits with 1 and what it has printed on `std::cerr`, or aborts over an exception that
nothing catches, or runs the app of the profile's mode. -/
inductive CliOutcome where
  | exits (cerr : List Text)
  | aborts
  | runs (settings : Settings) (profile : RuntimeProfile)
  deriving DecidableEq

def applyStringOverride (host : Host) (target envName : Text) : Text :=
  match host.getenv envName with
  | none => target
  | some value => if value ≠ [] then value else target

/-- `std::stoul` reads as `std::stoull` does, where a `long` has 64 bits; what it throws is caught,
and the target stays. -/
def applyU16Override (host : Host) (target : U16) (envName : Text) : U16 :=
  match host.getenv envName with
  | none => target
  | some value =>
    if value = [] then target
    else match stoull value with
      | none => target
      | some parsed => parsed.setWidth 16

def applyLogPathOverride (host : Host) (profile : RuntimeProfile) : RuntimeProfile :=
  let overridePath :=
    if profile.mode = .server then host.getenv "RUDP_RUNTIME_SERVER_LOG_PATH".toList
    else host.getenv "RUDP_RUNTIME_CLIENT_LOG_PATH".toList
  match overridePath with
  | none => profile
  | some path => if path ≠ [] then { profile with logPath := path } else profile

def applyConnectionOverrides (host : Host) (profile : RuntimeProfile) : RuntimeProfile :=
  if profile.mode = .server then
    { profile with
      bindAddress :=
        applyStringOverride host profile.bindAddress "RUDP_RUNTIME_SERVER_BIND_ADDRESS".toList
      bindPort := applyU16Override host profile.bindPort "RUDP_RUNTIME_SERVER_BIND_PORT".toList }
  else
    { profile with
      bindAddress :=
        applyStringOverride host profile.bindAddress "RUDP_RUNTIME_CLIENT_BIND_ADDRESS".toList
      bindPort := applyU16Override host profile.bindPort "RUDP_RUNTIME_CLIENT_BIND_PORT".toList
      remoteAddress :=
        applyStringOverride host profile.remoteAddress "RUDP_RUNTIME_CLIENT_REMOTE_ADDRESS".toList
      remotePort :=
        applyU16Override host profile.remotePort "RUDP_RUNTIME_CLIENT_REMOTE_PORT".toList }

def printUsage (argv0 : Text) : List Text :=
  ["Usage:".toList, "  ".toList ++ argv0 ++ " <runtime-config.yaml>".toList,
    "Transport defaults are loaded from .env when present.".toList]

def parseArgs (argv : List Text) : Except (List Text) Text :=
  match argv with
  | [_, path] => .ok path
  | _ => .error (printUsage (argv.headD []))

/-- `std::filesystem::path::parent_path`: what stands before the last name, without the slashes in
between, unless it is the root directory. -/
def parentPath (path : Text) : Text :=
  let directory := path.rdropWhile (· ≠ '/')
  if directory.all (· = '/') then directory else directory.rdropWhile (· = '/')

/-- What creating a file logger comes to. -/
inductive TextLogger where
  | created
  | spdlogEx (what : Text)
  | filesystemError

def makeTextLogger (host : Host) (loggerName logPath : Text) : TextLogger :=
  if host.createsDirectories (parentPath logPath) then
    match host.basicLogger loggerName logPath with
    | none => .created
    | some what => .spdlogEx what
  else .filesystemError

/-- Whether there is a file beside the console, and what has been printed on `std::cerr`. -/
structure RuntimeSinks where
  file : Bool
  cerr : List Text := []

/-- A `filesystem_error` is not caught, and nothing comes back. -/
def makeRuntimeLogger (host : Host) (profile : RuntimeProfile) : Option RuntimeSinks :=
  let loggerName :=
    if profile.mode = .server then "rudp_server_file".toList else "rudp_client_file".toList
  match makeTextLogger host loggerName profile.logPath with
  | .created => some { file := true }
  | .spdlogEx what =>
    some { file := false, cerr := ["failed to create file logger: ".toList ++ what] }
  | .filesystemError => none

/-- The settings after the `.env` file, if there is one. -/
def loadDotenv (host : Host) (settings : Settings) : Except CliOutcome Settings :=
  match host.pathExists ".env".toList with
  | none => .error .aborts
  | some false => .ok settings
  | some true =>
    match loadFromEnvFile ".env".toList (host.files ".env".toList) settings (some []) with
    | (true, settings, _) => .ok settings
    | (false, _, message) => .error (.exits ["failed to load .env: ".toList ++ message.getD []])

def runCli (host : Host) : CliOutcome :=
  match loadDotenv host {} with
  | .error outcome => outcome
  | .ok settings =>
    match parseArgs host.argv with
    | .error cerr => .exits cerr
    | .ok configPath =>
      match loadRuntimeProfileFromYaml settings configPath (host.files configPath) {} (some []) with
      | (false, _, message) =>
        .exits ["failed to load runtime config: ".toList ++ message.getD []]
      | (true, profile, _) =>
        let profile := applyLogPathOverride host (applyConnectionOverrides host profile)
        match makeRuntimeLogger host profile with
        | none => .aborts
        | some _ => .runs settings profile

/-! ## Layers -/

/-- What a line of the `.env` file changes. -/
inductive Setting where
  | transport (change : TransportSettings → TransportSettings)
  | serverBindAddress (value : Text)
  | serverPort (value : U16)
  | clientServerAddress (value : Text)
  | clientServerPort (value : U16)
  | clientBindAddress (value : Text)
  | socketBufferSize (value : U64)
  | serverLoopSleepUs (value : U32)
  | clientSelectTimeoutUs (value : U32)
  | clientPollBudget (value : U32)
  | serverLogPath (value : Text)
  | clientLogPath (value : Text)
  | nothing

def Setting.apply (settings : Settings) : Setting → Settings
  | .transport change => { settings with transport := change settings.transport }
  | .serverBindAddress value =>
    { settings with runtime := { settings.runtime with serverBindAddress := value } }
  | .serverPort value => { settings with runtime := { settings.runtime with serverPort := value } }
  | .clientServerAddress value =>
    { settings with runtime := { settings.runtime with clientServerAddress := value } }
  | .clientServerPort value =>
    { settings with runtime := { settings.runtime with clientServerPort := value } }
  | .clientBindAddress value =>
    { settings with runtime := { settings.runtime with clientBindAddress := value } }
  | .socketBufferSize value =>
    { settings with runtime := { settings.runtime with socketBufferSize := value } }
  | .serverLoopSleepUs value =>
    { settings with runtime := { settings.runtime with serverLoopSleepUs := value } }
  | .clientSelectTimeoutUs value =>
    { settings with runtime := { settings.runtime with clientSelectTimeoutUs := value } }
  | .clientPollBudget value =>
    { settings with runtime := { settings.runtime with clientPollBudget := value } }
  | .serverLogPath value =>
    { settings with runtime := { settings.runtime with serverLogPath := value } }
  | .clientLogPath value =>
    { settings with runtime := { settings.runtime with clientLogPath := value } }
  | .nothing => settings

/-- What an entry of the `.env` file says. -/
def readSetting (key value : Text) : Option Setting :=
  if key = "RUDP_TRANSPORT_INITIAL_RTO_MS".toList then
    (readInteger 64 value).map fun parsed => .transport ({ · with initialRtoMs := parsed })
  else if key = "RUDP_TRANSPORT_MAX_RTO_MS".toList then
    (readInteger 64 value).map fun parsed => .transport ({ · with maxRtoMs := parsed })
  else if key = "RUDP_TRANSPORT_MAX_RETRANSMIT_COUNT".toList then
    (readInteger 32 value).map fun parsed => .transport ({ · with maxRetransmitCount := parsed })
  else if key = "RUDP_TRANSPORT_HANDSHAKE_LINGER_MS".toList then
    (readInteger 64 value).map fun parsed => .transport ({ · with handshakeLingerMs := parsed })
  else if key = "RUDP_TRANSPORT_KEEPALIVE_IDLE_MS".toList then
    (readInteger 64 value).map fun parsed => .transport ({ · with keepaliveIdleMs := parsed })
  else if key = "RUDP_TRANSPORT_IDLE_TIMEOUT_MS".toList then
    (readInteger 64 value).map fun parsed => .transport ({ · with idleTimeoutMs := parsed })
  else if key = "RUDP_TRANSPORT_RELIABLE_ACK_DELAY_MS".toList then
    (readInteger 64 value).map fun parsed => .transport ({ · with reliableAckDelayMs := parsed })
  else if key = "RUDP_TRANSPORT_FAST_RETX_EVIDENCE_THRESHOLD".toList then
    (readInteger 32 value).map fun parsed =>
      .transport ({ · with fastRetxEvidenceThreshold := parsed })
  else if key = "RUDP_TRANSPORT_ENABLE_ACTIVITY_ACK_ONLY".toList then
    (parseBool value).map fun parsed => .transport ({ · with enableActivityAckOnly := parsed })
  else if key = "RUDP_RUNTIME_SERVER_BIND_ADDRESS".toList then
    some (.serverBindAddress (unquote value))
  else if key = "RUDP_RUNTIME_SERVER_PORT".toList then (readInteger 16 value).map .serverPort
  else if key = "RUDP_RUNTIME_CLIENT_SERVER_ADDRESS".toList then
    some (.clientServerAddress (unquote value))
  else if key = "RUDP_RUNTIME_CLIENT_SERVER_PORT".toList then
    (readInteger 16 value).map .clientServerPort
  else if key = "RUDP_RUNTIME_CLIENT_BIND_ADDRESS".toList then
    some (.clientBindAddress (unquote value))
  else if key = "RUDP_RUNTIME_SOCKET_BUFFER_SIZE".toList then
    (readInteger 64 value).map .socketBufferSize
  else if key = "RUDP_RUNTIME_SERVER_LOOP_SLEEP_US".toList then
    (readInteger 32 value).map .serverLoopSleepUs
  else if key = "RUDP_RUNTIME_CLIENT_SELECT_TIMEOUT_US".toList then
    (readInteger 32 value).map .clientSelectTimeoutUs
  else if key = "RUDP_RUNTIME_CLIENT_POLL_BUDGET".toList then
    (readInteger 32 value).map .clientPollBudget
  else if key = "RUDP_RUNTIME_SERVER_LOG_PATH".toList then some (.serverLogPath (unquote value))
  else if key = "RUDP_RUNTIME_CLIENT_LOG_PATH".toList then some (.clientLogPath (unquote value))
  else some .nothing

/-- What a line of the `.env` file says, if it is accepted. -/
def readEnvLine (line : Text) : Option Setting :=
  if isSkipped line then some .nothing
  else (Lines.cut '=' (trim line)).bind fun (key, value) => readSetting (trim key) (trim value)

/-- What the `.env` file says, if there is one; nothing, if it is not accepted. -/
def dotenvSettings (host : Host) : Option (List Setting) :=
  match host.pathExists ".env".toList with
  | none => none
  | some false => some []
  | some true =>
    (host.files ".env".toList).bind fun input => (Lines.read '\n' input).mapM readEnvLine

/-- What the profile says, if it can be read. -/
def yamlItems (host : Host) (path : Text) : Option (List Item) :=
  (host.files path).bind fun input => readBlock (significant (Lines.read '\n' input))

/-- A variable of the environment that is set, and not to nothing. -/
def envText (host : Host) (name : Text) : Option Text := (host.getenv name).filter (· ≠ [])

def envPort (host : Host) (name : Text) : Option U16 := (envText host name).bind (readInteger 16)

/-- The variables that the app of a mode listens to. -/
def runtimeVar (mode : RuntimeMode) (field : String) : Text :=
  "RUDP_RUNTIME_".toList ++ (match mode with
    | .server => "SERVER_".toList
    | .client => "CLIENT_".toList) ++ field.toList

/-- What the last line says about something. -/
def lastOf {α ι : Type} (writes : ι → Option α) (lines : List ι) : Option α :=
  (lines.filterMap writes).getLast?

/-- What the profile says, else what the `.env` file says, else the default. -/
def layered {α : Type} (yaml dotenv : Option α) (default : α) : α := (yaml.or dotenv).getD default

def channelsOf (items : List Item) : List ChannelDefinition :=
  items.foldl (fun channels item => match item with
    | .newChannel entry => channels ++ [entry.apply {}]
    | .channelField entry => channels.dropLast ++ [entry.apply (channels.getLastD {})]
    | _ => channels) []

/-- The last mode that the profile names; there is a server without one. -/
def modeOf (yaml : List Item) : RuntimeMode :=
  (lastOf (fun item => setsMode item.entry) yaml).getD .server

def setsBindAddress : Entry → Option Text
  | .bindAddress address => some address
  | _ => none

def setsBindPort : Entry → Option U16
  | .bindPort port => some port
  | _ => none

def setsSocketBufferSize : Entry → Option U64
  | .socketBufferSize size => some size
  | _ => none

def setsLoopSleepUs : Entry → Option U32
  | .loopSleepUs value => some value
  | _ => none

def setsSelectTimeoutUs : Entry → Option U32
  | .selectTimeoutUs value => some value
  | _ => none

def setsPollBudget : Entry → Option U32
  | .pollBudget value => some value
  | _ => none

/-- The first channel is the default, unless another one is, and there is one at least. -/
def withDefaultChannel (channels : List ChannelDefinition) : List ChannelDefinition :=
  match channels with
  | [] => [{ id := 1, name := "default".toList, type := .unreliable, isDefault := true }]
  | first :: rest =>
    if (first :: rest).any (·.isDefault) then first :: rest
    else { first with isDefault := true } :: rest

/-- What the two files describe. -/
def fileProfile (dotenv : List Setting) (yaml : List Item) : RuntimeProfile where
  mode := modeOf yaml
  bindAddress := layered (lastOf (fun item => setsBindAddress item.entry) yaml)
    (lastOf (fun | .serverBindAddress value => some value | _ => none) dotenv) "127.0.0.1".toList
  bindPort := layered (lastOf (fun item => setsBindPort item.entry) yaml)
    (lastOf (fun | .serverPort value => some value | _ => none) dotenv) 9000
  remoteAddress := layered (lastOf (fun item => setsRemoteAddress item.entry) yaml)
    (lastOf (fun | .clientServerAddress value => some value | _ => none) dotenv)
    "127.0.0.1".toList
  remotePort := layered (lastOf (fun item => setsRemotePort item.entry) yaml)
    (lastOf (fun | .clientServerPort value => some value | _ => none) dotenv) 9000
  logPath := layered
    (lastOf (fun item => writesLogPath (dotenv.foldl Setting.apply {}) item.entry) yaml)
    (lastOf (fun | .serverLogPath value => some value | _ => none) dotenv)
    "logs/rudp_server.log".toList
  socketBufferSize := layered (lastOf (fun item => setsSocketBufferSize item.entry) yaml)
    (lastOf (fun | .socketBufferSize value => some value | _ => none) dotenv) 1500
  loopSleepUs := layered (lastOf (fun item => setsLoopSleepUs item.entry) yaml)
    (lastOf (fun | .serverLoopSleepUs value => some value | _ => none) dotenv) 10000
  selectTimeoutUs := layered (lastOf (fun item => setsSelectTimeoutUs item.entry) yaml)
    (lastOf (fun | .clientSelectTimeoutUs value => some value | _ => none) dotenv) 10000
  pollBudget := layered (lastOf (fun item => setsPollBudget item.entry) yaml)
    (lastOf (fun | .clientPollBudget value => some value | _ => none) dotenv) 8
  channels := channelsOf yaml

/-- The arguments and the files are accepted, and give a client somebody to connect to. -/
structure Accepts (host : Host) (dotenv : List Setting) (yaml : List Item) : Prop where
  settings : dotenvSettings host = some dotenv
  profile : ∃ argv0 path, host.argv = [argv0, path] ∧ yamlItems host path = some yaml
  peer : ¬LacksPeer (fileProfile dotenv yaml).mode (fileProfile dotenv yaml).remoteAddress
    (fileProfile dotenv yaml).remotePort

/-- The environment on top of the files. A server connects to nobody. -/
def layeredProfile (host : Host) (dotenv : List Setting) (yaml : List Item) : RuntimeProfile :=
  let below := fileProfile dotenv yaml
  { below with
    bindAddress := (envText host (runtimeVar below.mode "BIND_ADDRESS")).getD below.bindAddress
    bindPort := (envPort host (runtimeVar below.mode "BIND_PORT")).getD below.bindPort
    remoteAddress := match below.mode with
      | .server => []
      | .client => (envText host (runtimeVar .client "REMOTE_ADDRESS")).getD below.remoteAddress
    remotePort := match below.mode with
      | .server => 0
      | .client => (envPort host (runtimeVar .client "REMOTE_PORT")).getD below.remotePort
    logPath := (envText host (runtimeVar below.mode "LOG_PATH")).getD below.logPath
    channels := withDefaultChannel below.channels }

/-! ## The files -/

section Files

variable {settings : Settings} {message : Message} {key value : Text} {α : Type}

theorem applyKv_eq : (applyKv settings key value message).toOption =
    (readSetting key value).map (Setting.apply settings) := by
  rw [applyKv, readSetting]
  cases parseBool value <;>
    simp only [apply_ite Except.toOption, apply_ite (Option.map _), assignInteger_eq,
      Option.map_map] <;> rfl

theorem applyEnvLine_eq (lineNumber : ℕ) (line : Text) :
    (applyEnvLine lineNumber line message settings).toOption =
      (readEnvLine line).map (Setting.apply settings) := by
  rw [applyEnvLine, readEnvLine]
  split_ifs with hskip
  · rfl
  · cases Lines.cut '=' (trim line) with
    | none => rfl
    | some entry => exact applyKv_eq

/-- **The `.env` file** is read line by line, and then applied. -/
theorem applyEnvLines_eq (lineNumber : ℕ) (lines : List Text) :
    (applyEnvLines message lineNumber lines settings).toOption =
      (lines.mapM readEnvLine).map fun dotenv => dotenv.foldl Setting.apply settings := by
  rw [← Run.runM_read]
  induction lines generalizing lineNumber settings with
  | nil => rfl
  | cons line rest ih =>
    have hline := @applyEnvLine_eq settings message (lineNumber + 1) line
    rw [applyEnvLines, Run.runM_cons, ← hline]
    cases applyEnvLine (lineNumber + 1) line message settings with
    | error message => rfl
    | ok settings => exact ih (lineNumber + 1)

theorem loadDotenv_eq (host : Host) : (loadDotenv host settings).toOption =
    (dotenvSettings host).map fun dotenv => dotenv.foldl Setting.apply settings := by
  rw [loadDotenv, dotenvSettings]
  rcases host.pathExists ".env".toList with _ | _ | _
  case none | some.false => rfl
  case some.true =>
    cases host.files ".env".toList with
    | none => rfl
    | some input =>
      simp only [Option.bind_some, loadFromEnvFile]
      rw [← @applyEnvLines_eq settings (some []) 0]
      cases applyEnvLines (some []) 0 (Lines.read '\n' input) settings <;> rfl

/-- A setting at the end is the last that a line has written there. -/
theorem setting_eq {get : Settings → α} {writes : Setting → Option α}
    (h : ∀ settings setting, get (Setting.apply settings setting) =
      (writes setting).getD (get settings)) (dotenv : List Setting) :
    get (dotenv.foldl Setting.apply settings) = (lastOf writes dotenv).getD (get settings) :=
  Run.get_run h settings dotenv

/-- So is a field of the profile. -/
theorem field_eq {get : RuntimeProfile → α} {sets : Entry → Option α}
    (h : ∀ profile entry, get (Entry.apply settings profile entry) =
      (sets entry).getD (get profile))
    (hchannels : ∀ profile channels, get { profile with channels } = get profile)
    (profile : RuntimeProfile) (yaml : List Item) :
    get (yaml.foldl (Item.effect settings) profile) =
      (lastOf (fun item => sets item.entry) yaml).getD (get profile) := by
  refine Run.get_run (fun profile item => ?_) profile yaml
  cases item with
  | rootEntry entry | field entry => exact h profile entry
  | newChannel entry | channelField entry => exact (hchannels _ _).trans (h profile .nothing)
  | skip | header name => exact h profile .nothing

/-- **Two layers.** A field of the profile is what its last line writes there, else what the last
line of the `.env` file that is about it says. -/
theorem layered_eq (get : RuntimeProfile → α) (sets : Entry → Option α)
    (getSetting : Settings → α) (writes : Setting → Option α) (dotenv : List Setting)
    (yaml : List Item)
    (h : ∀ profile entry,
      get (Entry.apply (dotenv.foldl Setting.apply {}) profile entry) =
        (sets entry).getD (get profile) := by
      intro _ entry
      cases entry <;> rfl)
    (hchannels : ∀ profile channels, get { profile with channels } = get profile := by
      intro _ _
      rfl)
    (hsetting : ∀ settings setting, getSetting (Setting.apply settings setting) =
      (writes setting).getD (getSetting settings) := by
      intro _ setting
      cases setting <;> rfl)
    (hdefault : ∀ settings, get (defaultRuntimeProfile settings) = getSetting settings := by
      intro _
      rfl) :
    get (yaml.foldl (Item.effect (dotenv.foldl Setting.apply {}))
        { defaultRuntimeProfile (dotenv.foldl Setting.apply {}) with channels := [] }) =
      layered (lastOf (fun item => sets item.entry) yaml) (lastOf writes dotenv)
        (getSetting {}) := by
  rw [field_eq h hchannels, hchannels, hdefault, setting_eq hsetting, layered]
  cases lastOf (fun item => sets item.entry) yaml <;> rfl

/-- **The profile after the last line** is what the two files describe. -/
theorem fileProfile_eq (dotenv : List Setting) (yaml : List Item) :
    yaml.foldl (Item.effect (dotenv.foldl Setting.apply {}))
        { defaultRuntimeProfile (dotenv.foldl Setting.apply {}) with channels := [] } =
      fileProfile dotenv yaml := by
  set start : RuntimeProfile :=
    { defaultRuntimeProfile (dotenv.foldl Setting.apply {}) with channels := [] } with hstart
  set profile := yaml.foldl (Item.effect (dotenv.foldl Setting.apply {})) start with hprofile
  have hmode : profile.mode = modeOf yaml :=
    field_eq (fun _ entry => by cases entry <;> rfl) (fun _ _ => rfl) start yaml
  have hchannels : profile.channels = channelsOf yaml := by
    refine (List.foldl_hom RuntimeProfile.channels fun profile item => ?_).symm
    cases item with
    | rootEntry entry | field entry => cases entry <;> rfl
    | skip | header name | newChannel entry | channelField entry => rfl
  have hbindAddress := layered_eq RuntimeProfile.bindAddress setsBindAddress
    (fun settings => settings.runtime.serverBindAddress)
    (fun | .serverBindAddress value => some value | _ => none) dotenv yaml
  have hbindPort := layered_eq RuntimeProfile.bindPort setsBindPort
    (fun settings => settings.runtime.serverPort)
    (fun | .serverPort value => some value | _ => none) dotenv yaml
  have hremoteAddress := layered_eq RuntimeProfile.remoteAddress setsRemoteAddress
    (fun settings => settings.runtime.clientServerAddress)
    (fun | .clientServerAddress value => some value | _ => none) dotenv yaml
  have hremotePort := layered_eq RuntimeProfile.remotePort setsRemotePort
    (fun settings => settings.runtime.clientServerPort)
    (fun | .clientServerPort value => some value | _ => none) dotenv yaml
  have hlogPath := layered_eq RuntimeProfile.logPath
    (writesLogPath (dotenv.foldl Setting.apply {}))
    (fun settings => settings.runtime.serverLogPath)
    (fun | .serverLogPath value => some value | _ => none) dotenv yaml
  have hsocketBufferSize := layered_eq RuntimeProfile.socketBufferSize setsSocketBufferSize
    (fun settings => settings.runtime.socketBufferSize)
    (fun | .socketBufferSize value => some value | _ => none) dotenv yaml
  have hloopSleepUs := layered_eq RuntimeProfile.loopSleepUs setsLoopSleepUs
    (fun settings => settings.runtime.serverLoopSleepUs)
    (fun | .serverLoopSleepUs value => some value | _ => none) dotenv yaml
  have hselectTimeoutUs := layered_eq RuntimeProfile.selectTimeoutUs setsSelectTimeoutUs
    (fun settings => settings.runtime.clientSelectTimeoutUs)
    (fun | .clientSelectTimeoutUs value => some value | _ => none) dotenv yaml
  have hpollBudget := layered_eq RuntimeProfile.pollBudget setsPollBudget
    (fun settings => settings.runtime.clientPollBudget)
    (fun | .clientPollBudget value => some value | _ => none) dotenv yaml
  calc profile = ⟨profile.mode, profile.bindAddress, profile.bindPort, profile.remoteAddress,
          profile.remotePort, profile.logPath, profile.socketBufferSize, profile.loopSleepUs,
          profile.selectTimeoutUs, profile.pollBudget, profile.channels⟩ := rfl
    _ = fileProfile dotenv yaml := by
      rw [hmode, hchannels, hbindAddress, hbindPort, hremoteAddress, hremotePort, hlogPath,
        hsocketBufferSize, hloopSleepUs, hselectTimeoutUs, hpollBudget]
      rfl

end Files

/-! ## The environment -/

section Environment

variable {host : Host} {profile : RuntimeProfile}

theorem applyStringOverride_eq (target name : Text) :
    applyStringOverride host target name = (envText host name).getD target := by
  rw [applyStringOverride, envText]
  cases host.getenv name with
  | none => rfl
  | some value =>
    by_cases hvalue : value = []
    · simp [hvalue, Option.filter]
    · simp [hvalue, Option.filter]

theorem applyU16Override_eq (target : U16) (name : Text) :
    applyU16Override host target name = (envPort host name).getD target := by
  rw [applyU16Override, envPort, envText]
  cases host.getenv name with
  | none => rfl
  | some value =>
    by_cases hvalue : value = []
    · simp [hvalue, Option.filter]
    · simp only [hvalue, if_false, Option.filter_some, ne_eq, not_false_eq_true, decide_true,
        if_true, Option.bind_some, readInteger]
      cases stoull value <;> rfl

/-- A variable that is read as port 0. -/
theorem envPort_eq_zero (name : Text) : envPort host name = some 0 ↔
    ∃ value number, host.getenv name = some value ∧ stoull value = some number ∧
      number.toNat % 2 ^ 16 = 0 := by
  have hlow : ∀ number : U64, number.setWidth 16 = 0 ↔ number.toNat % 2 ^ 16 = 0 := by
    intro number
    rw [← BitVec.toNat_inj, BitVec.toNat_setWidth]
    rfl
  rw [envPort, Option.bind_eq_some_iff]
  constructor
  · rintro ⟨value, hvalue, hread⟩
    obtain ⟨number, hnumber, hzero⟩ := Option.map_eq_some_iff.1 hread
    exact ⟨value, number, (Option.filter_eq_some_iff.1 hvalue).1, hnumber, (hlow number).1 hzero⟩
  · rintro ⟨value, number, hvalue, hnumber, hzero⟩
    have hset : value ≠ [] := by
      rintro rfl
      have hnone : stoull [] = none := by decide
      rw [hnone] at hnumber
      cases hnumber
    refine ⟨value, Option.filter_eq_some_iff.2 ⟨hvalue, by simpa using hset⟩, ?_⟩
    rw [readInteger, hnumber, Option.map_some, (hlow number).2 hzero]

theorem applyLogPathOverride_eq : applyLogPathOverride host profile =
    { profile with
      logPath := (envText host (runtimeVar profile.mode "LOG_PATH")).getD profile.logPath } := by
  have hpath : (if profile.mode = .server then host.getenv "RUDP_RUNTIME_SERVER_LOG_PATH".toList
      else host.getenv "RUDP_RUNTIME_CLIENT_LOG_PATH".toList) =
      host.getenv (runtimeVar profile.mode "LOG_PATH") := by
    cases profile.mode <;> rfl
  simp only [applyLogPathOverride, hpath, envText]
  cases host.getenv (runtimeVar profile.mode "LOG_PATH") with
  | none => rfl
  | some path =>
    by_cases hempty : path = []
    · simp [hempty, Option.filter]
    · simp [hempty, Option.filter]

/-- **The overrides** of the mode that the files name. -/
theorem overrides_eq : applyLogPathOverride host (applyConnectionOverrides host profile) =
    { profile with
      bindAddress := (envText host (runtimeVar profile.mode "BIND_ADDRESS")).getD
        profile.bindAddress
      bindPort := (envPort host (runtimeVar profile.mode "BIND_PORT")).getD profile.bindPort
      remoteAddress := match profile.mode with
        | .server => profile.remoteAddress
        | .client => (envText host (runtimeVar .client "REMOTE_ADDRESS")).getD
          profile.remoteAddress
      remotePort := match profile.mode with
        | .server => profile.remotePort
        | .client => (envPort host (runtimeVar .client "REMOTE_PORT")).getD profile.remotePort
      logPath := (envText host (runtimeVar profile.mode "LOG_PATH")).getD profile.logPath } := by
  rw [applyLogPathOverride_eq, applyConnectionOverrides]
  simp only [applyStringOverride_eq, applyU16Override_eq]
  cases hmode : profile.mode with
  | server =>
    rw [if_pos rfl]
    rfl
  | client =>
    rw [if_neg (by decide)]
    rfl

end Environment

instance (mode : RuntimeMode) (remoteAddress : Text) (remotePort : U16) :
    Decidable (LacksPeer mode remoteAddress remotePort) :=
  inferInstanceAs (Decidable (_ ∧ _))

/-! ## Starting -/

section Start

variable {profile : RuntimeProfile}

/-- What is done after the last line. -/
theorem finishProfile_eq_ite : (finishProfile none profile).toOption =
    if LacksPeer profile.mode profile.remoteAddress profile.remotePort then none
    else some { profile with
      remoteAddress := match profile.mode with
        | .server => []
        | .client => profile.remoteAddress
      remotePort := match profile.mode with
        | .server => 0
        | .client => profile.remotePort
      channels := withDefaultChannel profile.channels } := by
  by_cases hpeer : LacksPeer profile.mode profile.remoteAddress profile.remotePort
  · rw [if_pos hpeer, finishProfile_of_lacksPeer hpeer]
  · rw [if_neg hpeer]
    cases hmode : profile.mode with
    | server =>
      simp only [finishProfile, hmode, if_true]
      rfl
    | client =>
      have hsome : ¬(profile.remoteAddress = [] ∨ profile.remotePort = 0) :=
        fun hlacks => hpeer ⟨hmode, hlacks⟩
      simp only [finishProfile, hmode, hsome, if_false, reduceCtorEq]
      rfl

theorem readProfile_eq (settings : Settings) (defaults : RuntimeProfile) (lines : List Text) :
    readProfile settings defaults lines = (readBlock lines).bind fun items =>
      (finishProfile none
        (items.foldl (Item.effect settings) { defaults with channels := [] })).toOption := by
  rw [readProfile, runM_eq_readLines, readBlock]
  cases readLines ([], false) lines with
  | none => rfl
  | some items =>
    rw [Option.map_some, Option.bind_some, Option.bind_some, profile_foldl]

theorem parseArgs_eq_ok {argv : List Text} {path : Text} :
    parseArgs argv = .ok path ↔ ∃ argv0, argv = [argv0, path] := by
  constructor
  · intro h
    rcases argv with _ | ⟨argv0, _ | ⟨path', _ | ⟨more, rest⟩⟩⟩
    · cases h
    · cases h
    · exact ⟨argv0, by rw [Except.ok.inj h]⟩
    · cases h
  · rintro ⟨argv0, rfl⟩
    rfl

/-- The files are loaded into what they describe, or not at all. -/
theorem load_eq (host : Host) (dotenv : List Setting) (path : Text) (message : Message) :
    match loadRuntimeProfileFromYaml (dotenv.foldl Setting.apply {}) path (host.files path) {}
      message with
    | (false, _, _) => ∀ yaml, yamlItems host path = some yaml →
      LacksPeer (fileProfile dotenv yaml).mode (fileProfile dotenv yaml).remoteAddress
        (fileProfile dotenv yaml).remotePort
    | (true, loaded, _) => ∃ yaml, yamlItems host path = some yaml ∧
      ¬LacksPeer (fileProfile dotenv yaml).mode (fileProfile dotenv yaml).remoteAddress
        (fileProfile dotenv yaml).remotePort ∧
      applyLogPathOverride host (applyConnectionOverrides host loaded) =
        layeredProfile host dotenv yaml := by
  rw [yamlItems]
  cases hfile : host.files path with
  | none =>
    intro yaml hyaml
    cases hyaml
  | some input =>
    have hread := readProfile_eq (dotenv.foldl Setting.apply {})
      (defaultRuntimeProfile (dotenv.foldl Setting.apply {}))
      (significant (Lines.read '\n' input))
    rw [Option.bind_some]
    cases hitems : readBlock (significant (Lines.read '\n' input)) with
    | none =>
      rw [hitems, Option.bind_none] at hread
      obtain ⟨message', hload⟩ := @load_of_none _ message _ path {} hread
      rw [hload]
      intro yaml hyaml
      cases hyaml
    | some yaml =>
      rw [hitems, Option.bind_some, fileProfile_eq, finishProfile_eq_ite] at hread
      by_cases hpeer : LacksPeer (fileProfile dotenv yaml).mode
          (fileProfile dotenv yaml).remoteAddress (fileProfile dotenv yaml).remotePort
      · rw [if_pos hpeer] at hread
        obtain ⟨message', hload⟩ := @load_of_none _ message _ path {} hread
        rw [hload]
        intro yaml' hyaml
        obtain rfl := Option.some.inj hyaml
        exact hpeer
      · rw [if_neg hpeer] at hread
        rw [@load_of_some _ message _ path {} _ hread]
        refine ⟨yaml, rfl, hpeer, ?_⟩
        rw [overrides_eq, layeredProfile]
        cases (fileProfile dotenv yaml).mode <;> rfl

/-- Only the directory of the log file can end the program here. -/
theorem makeRuntimeLogger_isSome (host : Host) (profile : RuntimeProfile) :
    (makeRuntimeLogger host profile).isSome =
      host.createsDirectories (parentPath profile.logPath) := by
  rw [makeRuntimeLogger]
  generalize (if profile.mode = .server then "rudp_server_file".toList
    else "rudp_client_file".toList) = loggerName
  simp only [makeTextLogger]
  cases host.createsDirectories (parentPath profile.logPath) with
  | false => rfl
  | true => cases host.basicLogger loggerName profile.logPath <;> rfl

variable {host : Host} {dotenv : List Setting} {yaml : List Item}

/-- **What is accepted is started**, unless the directory of the log file cannot be created. -/
theorem Accepts.runCli_eq (h : Accepts host dotenv yaml) : runCli host =
    if host.createsDirectories (parentPath (layeredProfile host dotenv yaml).logPath) then
      .runs (dotenv.foldl Setting.apply {}) (layeredProfile host dotenv yaml)
    else .aborts := by
  obtain ⟨argv0, path, hargv, hyaml⟩ := h.profile
  have hdotenv := @loadDotenv_eq {} host
  rw [h.settings, Option.map_some] at hdotenv
  rw [runCli]
  cases hload : loadDotenv host {} with
  | error outcome =>
    rw [hload] at hdotenv
    cases hdotenv
  | ok loaded =>
    rw [hload] at hdotenv
    obtain rfl := Option.some.inj hdotenv
    have hprofile := load_eq host dotenv path (some [])
    simp only [parseArgs_eq_ok.2 ⟨argv0, hargv⟩]
    generalize loadRuntimeProfileFromYaml (dotenv.foldl Setting.apply {}) path
      (host.files path) {} (some []) = result at hprofile ⊢
    obtain ⟨_ | _, loaded, message⟩ := result
    · exact absurd (hprofile yaml hyaml) h.peer
    · obtain ⟨yaml', hyaml', -, hlayers⟩ := hprofile
      obtain rfl := Option.some.inj (hyaml.symm.trans hyaml')
      simp only [hlayers]
      have hlogger := makeRuntimeLogger_isSome host (layeredProfile host dotenv yaml)
      cases hsinks : makeRuntimeLogger host (layeredProfile host dotenv yaml) with
      | none =>
        rw [hsinks] at hlogger
        rw [← hlogger]
        rfl
      | some sinks =>
        rw [hsinks] at hlogger
        rw [← hlogger]
        rfl

/-- What is not accepted is refused, or it cannot be told whether there is a `.env` file. -/
theorem accepts_or_ends (host : Host) : (∃ dotenv yaml, Accepts host dotenv yaml) ∨
    (∃ cerr, runCli host = .exits cerr) ∨
      host.pathExists ".env".toList = none ∧ runCli host = .aborts := by
  have hdotenv := @loadDotenv_eq {} host
  rw [runCli]
  cases hload : loadDotenv host {} with
  | error outcome =>
    refine Or.inr ?_
    rw [loadDotenv] at hload
    split at hload
    case h_1 habsent =>
      obtain rfl := Except.error.inj hload
      exact Or.inr ⟨habsent, rfl⟩
    case h_2 => cases hload
    case h_3 =>
      split at hload
      · cases hload
      · obtain rfl := Except.error.inj hload
        exact Or.inl ⟨_, rfl⟩
  | ok loaded =>
    rw [hload] at hdotenv
    obtain ⟨dotenv, hread, rfl⟩ := Option.map_eq_some_iff.1 hdotenv.symm
    cases hargs : parseArgs host.argv with
    | error cerr => exact Or.inr (Or.inl ⟨cerr, rfl⟩)
    | ok path =>
      obtain ⟨argv0, hargv⟩ := parseArgs_eq_ok.1 hargs
      have hprofile := load_eq host dotenv path (some [])
      simp only
      generalize loadRuntimeProfileFromYaml (dotenv.foldl Setting.apply {}) path
        (host.files path) {} (some []) = result at hprofile ⊢
      obtain ⟨_ | _, loaded, message⟩ := result
      · exact Or.inr (Or.inl ⟨_, rfl⟩)
      · obtain ⟨yaml, hyaml, hpeer, -⟩ := hprofile
        exact Or.inl ⟨dotenv, yaml, hread, ⟨argv0, path, hargv, hyaml⟩, hpeer⟩

theorem accepts_of_runs {settings : Settings} (h : runCli host = .runs settings profile) :
    ∃ dotenv yaml, Accepts host dotenv yaml ∧ settings = dotenv.foldl Setting.apply {} ∧
      profile = layeredProfile host dotenv yaml ∧
      host.createsDirectories (parentPath profile.logPath) = true := by
  rcases accepts_or_ends host with ⟨dotenv, yaml, haccepts⟩ | ⟨cerr, hexits⟩ | ⟨-, haborts⟩
  · rw [haccepts.runCli_eq] at h
    split_ifs at h with hcreates
    obtain ⟨rfl, rfl⟩ := CliOutcome.runs.inj h
    exact ⟨dotenv, yaml, haccepts, rfl, rfl, hcreates⟩
  · rw [hexits] at h
    cases h
  · rw [haborts] at h
    cases h

end Start

/-- **What the program starts with.** It runs an app if and only if the `.env` file is accepted or
absent, there is one argument, the profile behind it can be read, the two files give a client
somebody to connect to, and the directory of the log file can be created. What it runs with is the
layered profile: each field is what the environment says, else the last line of the profile that
writes it, else the last line of the `.env` file about it, else the default. It aborts if and only if
all is accepted but that directory cannot be created, or it cannot be told whether there is a `.env`
file. -/
theorem cli_runs_iff (host : Host) :
    (∀ settings profile, runCli host = .runs settings profile ↔
      ∃ dotenv yaml, Accepts host dotenv yaml ∧ settings = dotenv.foldl Setting.apply {} ∧
        profile = layeredProfile host dotenv yaml ∧
        host.createsDirectories (parentPath profile.logPath) = true) ∧
    (runCli host = .aborts ↔ host.pathExists ".env".toList = none ∨
      ∃ dotenv yaml, Accepts host dotenv yaml ∧
        host.createsDirectories (parentPath (layeredProfile host dotenv yaml).logPath) =
          false) := by
  refine ⟨fun settings profile => ⟨accepts_of_runs, ?_⟩, ?_, ?_⟩
  · rintro ⟨dotenv, yaml, haccepts, rfl, rfl, hcreates⟩
    rw [haccepts.runCli_eq, if_pos hcreates]
  · intro haborts
    rcases accepts_or_ends host with ⟨dotenv, yaml, haccepts⟩ | ⟨cerr, hexits⟩ | ⟨habsent, -⟩
    · rw [haccepts.runCli_eq] at haborts
      split_ifs at haborts with hcreates
      exact Or.inr ⟨dotenv, yaml, haccepts, Bool.eq_false_iff.2 hcreates⟩
    · rw [hexits] at haborts
      cases haborts
    · exact Or.inl habsent
  · rintro (habsent | ⟨dotenv, yaml, haccepts, hcreates⟩)
    · rw [runCli, loadDotenv, habsent]
    · rw [haccepts.runCli_eq, hcreates]
      rfl

/-- A log file without a directory, where `create_directories` takes no empty path. -/
example : runCli
    { argv := ["rudp".toList, "server.yaml".toList]
      getenv := fun _ => none
      pathExists := fun _ => some false
      files := fun _ => some "mode: server\nruntime:\n  log_path: a.log".toList
      createsDirectories := fun path => path ≠ []
      basicLogger := fun _ _ => none } = .aborts := by
  decide +kernel

/-- **Whom a client is started with.** The files are checked for a peer before the environment is
read. So a client always has an address to send to, but the port can still become 0: if and only
if `RUDP_RUNTIME_CLIENT_REMOTE_PORT` starts with a number whose low 16 bits are 0. A server has
neither. -/
theorem cli_peer (host : Host) {settings : Settings} {profile : RuntimeProfile}
    (h : runCli host = .runs settings profile) :
    match profile.mode with
    | .server => profile.remoteAddress = [] ∧ profile.remotePort = 0
    | .client => profile.remoteAddress ≠ [] ∧ (profile.remotePort = 0 ↔
      ∃ value number, host.getenv "RUDP_RUNTIME_CLIENT_REMOTE_PORT".toList = some value ∧
        stoull value = some number ∧ number.toNat % 2 ^ 16 = 0) := by
  obtain ⟨dotenv, yaml, haccepts, -, rfl, -⟩ := accepts_of_runs h
  have hmode : (layeredProfile host dotenv yaml).mode = (fileProfile dotenv yaml).mode := rfl
  rw [hmode]
  cases hclient : (fileProfile dotenv yaml).mode with
  | server =>
    simp only [layeredProfile, hclient]
    exact ⟨trivial, trivial⟩
  | client =>
    have hsome : ¬((fileProfile dotenv yaml).remoteAddress = [] ∨
        (fileProfile dotenv yaml).remotePort = 0) := fun hlacks => haccepts.peer ⟨hclient, hlacks⟩
    rw [not_or] at hsome
    simp only [layeredProfile, hclient]
    refine ⟨?_, ?_⟩
    · cases hvar : envText host (runtimeVar .client "REMOTE_ADDRESS") with
      | none => exact hsome.1
      | some address =>
        rw [Option.getD_some]
        have hset := (Option.filter_eq_some_iff.1 hvar).2
        simpa using hset
    · refine Iff.trans ?_ (envPort_eq_zero (runtimeVar .client "REMOTE_PORT"))
      cases envPort host (runtimeVar .client "REMOTE_PORT") with
      | none => exact iff_of_false hsome.2 (Option.some_ne_none 0).symm
      | some port => rw [Option.getD_some, Option.some_inj]

/-- A client whose files name a port, and whose environment names another one, too large. -/
def truncatedPort : Host where
  argv := ["rudp".toList, "client.yaml".toList]
  getenv name :=
    if name = "RUDP_RUNTIME_CLIENT_REMOTE_PORT".toList then some "65536".toList else none
  pathExists path := some (path = ".env".toList)
  files path :=
    if path = ".env".toList then some "RUDP_RUNTIME_CLIENT_SERVER_ADDRESS=10.0.0.1".toList
    else if path = "client.yaml".toList then
      some "mode: client\nconnection:\n  remote_port: 9001".toList
    else none
  createsDirectories path := path ≠ []
  basicLogger _ _ := none

/-- What it is started with. -/
def portZero : RuntimeProfile where
  mode := .client
  remoteAddress := "10.0.0.1".toList
  remotePort := 0
  logPath := "logs/rudp_client.log".toList
  channels := [{ id := 1, name := "default".toList, type := .unreliable, isDefault := true }]

theorem cli_peer_truncatedPort :
    runCli truncatedPort =
        .runs { runtime := { clientServerAddress := "10.0.0.1".toList } } portZero ∧
      portZero.remoteAddress ≠ [] ∧ (portZero.remotePort = 0 ↔ ∃ value number,
        truncatedPort.getenv "RUDP_RUNTIME_CLIENT_REMOTE_PORT".toList = some value ∧
          stoull value = some number ∧ number.toNat % 2 ^ 16 = 0) := by
  have hruns : runCli truncatedPort =
      .runs { runtime := { clientServerAddress := "10.0.0.1".toList } } portZero := by
    decide +kernel
  exact ⟨hruns, cli_peer truncatedPort hruns⟩

end Runtime

end Rudp
