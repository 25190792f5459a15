import Rudp.Config
import Rudp.Lib.Run

/-!
# What a profile file says

The loader of `Config` writes into a profile as it reads. Here is what the lines say, apart from any
profile: a line is an *item*, and what it is depends on the section it stands in and on whether a
channel has been opened, on nothing else. `applyLine_eq` says that the loader reads items and does
what they say; from there on, a profile file is the run of its lines.
-/

namespace Rudp

namespace Config

open Utils

/-! ## Items -/

/-- What an entry sets. -/
inductive Entry where
  | mode (mode : RuntimeMode)
  | logPath (value : Text)
  | socketBufferSize (value : U64)
  | loopSleepUs (value : U32)
  | selectTimeoutUs (value : U32)
  | pollBudget (value : U32)
  | bindAddress (value : Text)
  | bindPort (value : U16)
  | remoteAddress (value : Text)
  | remotePort (value : U16)
  | nothing
  deriving DecidableEq

def Entry.apply (settings : Settings) (profile : RuntimeProfile) : Entry → RuntimeProfile
  | .mode value => { profile with mode := value, logPath := settings.logPath value }
  | .logPath value => { profile with logPath := value }
  | .socketBufferSize value => { profile with socketBufferSize := value }
  | .loopSleepUs value => { profile with loopSleepUs := value }
  | .selectTimeoutUs value => { profile with selectTimeoutUs := value }
  | .pollBudget value => { profile with pollBudget := value }
  | .bindAddress value => { profile with bindAddress := value }
  | .bindPort value => { profile with bindPort := value }
  | .remoteAddress value => { profile with remoteAddress := value }
  | .remotePort value => { profile with remotePort := value }
  | .nothing => profile

/-- The number that a value stands for, in a field of `w` bits. -/
def readInteger (w : ℕ) (value : Text) : Option (BitVec w) := (stoull value).map (·.setWidth w)

/-- What an entry of a section says. -/
def readField (scope key value : Text) : Option Entry :=
  if scope = [] then
    if key = "mode".toList then (parseRuntimeMode value).map .mode
    else some .nothing
  else if scope = "runtime".toList then
    if key = "log_path".toList then some (.logPath value)
    else if key = "socket_buffer_size".toList then (readInteger 64 value).map .socketBufferSize
    else if key = "loop_sleep_us".toList then (readInteger 32 value).map .loopSleepUs
    else if key = "select_timeout_us".toList then (readInteger 32 value).map .selectTimeoutUs
    else if key = "poll_budget".toList then (readInteger 32 value).map .pollBudget
    else some .nothing
  else if scope = "connection".toList then
    if key = "bind_address".toList then some (.bindAddress value)
    else if key = "bind_port".toList then (readInteger 16 value).map .bindPort
    else if key = "remote_address".toList then some (.remoteAddress value)
    else if key = "remote_port".toList then (readInteger 16 value).map .remotePort
    else some .nothing
  else some .nothing

inductive ChannelEntry where
  | id (value : U32)
  | name (value : Text)
  | type (value : ChannelType)
  | isDefault (value : Bool)
  | nothing
  deriving DecidableEq

def ChannelEntry.apply (channel : ChannelDefinition) : ChannelEntry → ChannelDefinition
  | .id value => { channel with id := value }
  | .name value => { channel with name := value }
  | .type value => { channel with type := value }
  | .isDefault value => { channel with isDefault := value }
  | .nothing => channel

def readChannelField (key value : Text) : Option ChannelEntry :=
  if key = "id".toList then (readInteger 32 value).map .id
  else if key = "name".toList then some (.name value)
  else if key = "type".toList then (parseChannelType value).map .type
  else if key = "default".toList then (parseBool value).map .isDefault
  else some .nothing

/-- What a line says. -/
inductive Item where
  | skip
  | header (name : Text)
  | rootEntry (entry : Entry)
  | newChannel (entry : ChannelEntry)
  | channelField (entry : ChannelEntry)
  | field (entry : Entry)
  deriving DecidableEq

def Item.apply (settings : Settings) (state : YamlState) : Item → YamlState
  | .skip => state
  | .header name => { state with sectionName := name, currentChannel := false }
  | .rootEntry entry =>
    { state with profile := entry.apply settings state.profile, currentChannel := false }
  | .newChannel entry =>
    { state with
      profile := { state.profile with channels := state.profile.channels ++ [entry.apply {}] }
      currentChannel := true }
  | .channelField entry =>
    { state with
      profile := { state.profile with
        channels := state.profile.channels.dropLast ++
          [entry.apply (state.profile.channels.getLastD {})] } }
  | .field entry => { state with profile := entry.apply settings state.profile }

/-- The line in this section, with a channel open or not. -/
def readItem (sectionName : Text) (currentChannel : Bool) (line : Text) : Option Item :=
  if isSkipped line then some .skip
  else if indentationOf line = 0 then
    if (trim line).getLast? = some ':' then some (.header (trim line).dropLast)
    else (parseKeyValue (trim line)).bind fun (key, value) =>
      (readField [] key value).map .rootEntry
  else if sectionName = "channels".toList then
    if indentationOf line = 2 ∧ "- ".toList <+: trim line then
      (parseKeyValue ((trim line).drop 2)).bind fun (key, value) =>
        (readChannelField key value).map .newChannel
    else if indentationOf line = 4 ∧ currentChannel then
      (parseKeyValue (trim line)).bind fun (key, value) =>
        (readChannelField key value).map .channelField
    else none
  else if indentationOf line = 2 ∧
      (sectionName = "runtime".toList ∨ sectionName = "connection".toList) then
    (parseKeyValue (trim line)).bind fun (key, value) =>
      (readField sectionName key value).map .field
  else none

/-! ## The loader reads items -/

section Loader

variable (settings : Settings) (profile : RuntimeProfile) (scope key value : Text)
  (message : Message) (lineNumber : ℕ) (line : Text) (state : YamlState)

theorem assignInteger_eq {α : Type} {w : ℕ} (f : BitVec w → α) :
    ((assignInteger value message key).map f).toOption = (readInteger w value).map f := by
  rw [assignInteger, readInteger]
  cases stoull value <;> rfl

theorem applyProfileField_eq :
    (applyProfileField settings profile scope key value message).toOption =
      (readField scope key value).map (Entry.apply settings profile) := by
  rw [applyProfileField, readField]
  cases parseRuntimeMode value <;>
    simp only [apply_ite Except.toOption, apply_ite (Option.map _), assignInteger_eq,
      Option.map_map] <;> rfl

theorem applyChannelField_eq (channel : ChannelDefinition) :
    (applyChannelField channel key value message).toOption =
      (readChannelField key value).map (ChannelEntry.apply channel) := by
  rw [applyChannelField, readChannelField]
  cases parseChannelType value <;> cases parseBool value <;>
    simp only [apply_ite Except.toOption, apply_ite (Option.map _), assignInteger_eq,
      Option.map_map] <;> rfl

/-- An entry whose text reads as an item. -/
theorem applyEntry_eq {α β γ : Type} {what text : Text} {apply : Text → Text → Except Message α}
    {read : Text → Text → Option β} {f : β → α}
    (h : ∀ key value, (apply key value).toOption = (read key value).map f) (g : α → γ) :
    ((applyEntry what lineNumber message text apply).map g).toOption =
      ((parseKeyValue text).bind fun (key, value) => read key value).map (g ∘ f) := by
  rw [applyEntry]
  cases parseKeyValue text with
  | none => rfl
  | some pair =>
    have happly := h pair.1 pair.2
    simp only [Option.bind_some]
    rw [← Option.map_map, ← happly]
    cases apply pair.1 pair.2 <;> rfl

/-- **One line.** The loader reads an item and does what it says. -/
theorem applyLine_eq : (applyLine settings lineNumber line message state).toOption =
    (readItem state.sectionName state.currentChannel line).map (Item.apply settings state) := by
  have hfield : ∀ profile scope key value,
      (applyProfileField settings profile scope key value message).toOption =
        (readField scope key value).map (Entry.apply settings profile) :=
    fun profile scope key value => applyProfileField_eq settings profile scope key value message
  have hchannel : ∀ channel key value,
      (applyChannelField channel key value message).toOption =
        (readChannelField key value).map (ChannelEntry.apply channel) :=
    fun channel key value => applyChannelField_eq key value message channel
  simp only [applyLine, readItem, apply_ite Except.toOption, apply_ite (Option.map _),
    applyEntry_eq _ _ (hfield _ _), applyEntry_eq _ _ (hchannel _), Option.map_bind,
    Option.map_map, Function.comp_def]
  rfl

end Loader

/-! ## Runs of lines -/

/-- What a line makes of the loop's variables, if it is accepted. -/
def readStep (settings : Settings) (state : YamlState) (line : Text) : Option YamlState :=
  (readItem state.sectionName state.currentChannel line).map (Item.apply settings state)

/-- The lines that say something. -/
def significant (lines : List Text) : List Text := lines.filter fun line => !isSkipped line

/-- The profile that the lines describe, over the given defaults. -/
def readProfile (settings : Settings) (defaults : RuntimeProfile) (lines : List Text) :
    Option RuntimeProfile :=
  (Run.runM (readStep settings) { profile := { defaults with channels := [] } } lines).bind
    fun state => (finishProfile none state.profile).toOption

section Runs

variable {settings : Settings} {message : Message} {state : YamlState} {lines : List Text}
  {profile : RuntimeProfile} {input : Text}

theorem applyLines_eq (lineNumber : ℕ) :
    (applyLines settings message lineNumber lines state).toOption =
      Run.runM (readStep settings) state lines := by
  induction lines generalizing lineNumber state with
  | nil => rfl
  | cons line rest ih =>
    have hline := applyLine_eq settings message (lineNumber + 1) line state
    rw [applyLines, Run.runM_cons, readStep, ← hline]
    cases applyLine settings (lineNumber + 1) line message state with
    | error message => rfl
    | ok state => exact ih (lineNumber + 1)

theorem readStep_of_skipped {line : Text} (h : isSkipped line = true) :
    readStep settings state line = some state := by
  rw [readStep, readItem, if_pos h]
  rfl

/-- Blank lines and comments say nothing. -/
theorem runM_significant : Run.runM (readStep settings) state (significant lines) =
    Run.runM (readStep settings) state lines := by
  induction lines generalizing state with
  | nil => rfl
  | cons line rest ih =>
    rw [significant, List.filter_cons, ← significant, Run.runM_cons]
    cases hskip : isSkipped line with
    | true =>
      rw [readStep_of_skipped hskip]
      exact ih
    | false =>
      simp only [Bool.not_false, if_true, Run.runM_cons]
      cases readStep settings state line with
      | none => rfl
      | some state => exact ih

theorem finishProfile_eq : (finishProfile message profile).toOption =
    (finishProfile none profile).toOption := by
  simp only [finishProfile, apply_ite Except.toOption]
  rfl

/-- **The loader** returns the profile that the significant lines describe. -/
theorem applyProfileYaml_eq : (applyProfileYaml settings profile input message).toOption =
    readProfile settings profile (significant (Lines.read '\n' input)) := by
  rw [readProfile, runM_significant, ← @applyLines_eq settings message _ _ 0, applyProfileYaml]
  cases applyLines settings message 0 (Lines.read '\n' input)
      { profile := { profile with channels := [] } } with
  | error message => rfl
  | ok state => exact finishProfile_eq

theorem load_of_some (path : Text) (caller : RuntimeProfile) {loaded : RuntimeProfile}
    (h : readProfile settings (defaultRuntimeProfile settings)
      (significant (Lines.read '\n' input)) = some loaded) :
    loadRuntimeProfileFromYaml settings path (some input) caller message =
      (true, loaded, message) := by
  rw [← @applyProfileYaml_eq settings message] at h
  rw [loadRuntimeProfileFromYaml]
  cases hload : applyProfileYaml settings (defaultRuntimeProfile settings) input message with
  | error message =>
    rw [hload] at h
    cases h
  | ok profile =>
    rw [hload] at h
    obtain rfl := Option.some.inj h
    rfl

/-- A file that is rejected leaves the caller's profile alone. -/
theorem load_of_none (path : Text) (caller : RuntimeProfile)
    (h : readProfile settings (defaultRuntimeProfile settings)
      (significant (Lines.read '\n' input)) = none) :
    ∃ message', loadRuntimeProfileFromYaml settings path (some input) caller message =
      (false, caller, message') := by
  rw [← @applyProfileYaml_eq settings message] at h
  rw [loadRuntimeProfileFromYaml]
  cases hload : applyProfileYaml settings (defaultRuntimeProfile settings) input message with
  | error message => exact ⟨message, rfl⟩
  | ok profile =>
    rw [hload] at h
    cases h

end Runs

end Config

end Rudp
