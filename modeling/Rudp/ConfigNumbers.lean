import Rudp.ConfigEntries

/-!
# Integer settings

The integers of the configuration are read by `std::stoull`, which looks at the beginning of the
value only, takes a sign, and returns 64 bits, of which the field keeps the low ones. So `12abc` is
12, `-1` is the largest number of the field, and 70000 in a field of 16 bits is 4464.
`integer_settings_iff` says for which values an integer setting is treated as it should be.
-/

namespace Rudp

namespace Config

open Utils

/-! ## Values -/

/-- The value is a decimal number that a field of `w` bits can hold. -/
def fits (w : ℕ) (value : Text) : Bool := isDecimal value && valueOf value < 2 ^ w

/-- There is no number at the beginning of the value, or one that no 64 bits can hold. -/
def hasNoNumber (value : Text) : Bool :=
  leadingDigits value = [] || 2 ^ 64 ≤ valueOf (leadingDigits value)

section Values

variable {w : ℕ} {value : Text}

theorem stoull_eq_none_iff : stoull value = none ↔ hasNoNumber value = true := by
  simp only [hasNoNumber, Bool.or_eq_true, decide_eq_true_eq]
  by_cases hnone : leadingDigits value = [] ∨ 2 ^ 64 ≤ valueOf (leadingDigits value)
  · exact iff_of_true (by rw [stoull, if_pos hnone]) hnone
  · refine iff_of_false ?_ hnone
    rw [stoull, if_neg hnone]
    split_ifs <;> simp

theorem readInteger_eq_none_iff : readInteger w value = none ↔ hasNoNumber value = true := by
  rw [readInteger, Option.map_eq_none_iff, stoull_eq_none_iff]

/-- A number that fits is read as it is. -/
theorem readInteger_of_fits (hw : w ≤ 64) (h : fits w value = true) :
    ∃ n : BitVec w, readInteger w value = some n ∧ n.toNat = valueOf value := by
  rw [fits, Bool.and_eq_true, decide_eq_true_eq] at h
  obtain ⟨hdecimal, hrange⟩ := h
  have hwide : valueOf value < 2 ^ 64 :=
    hrange.trans_le (Nat.pow_le_pow_right (by decide) hw)
  refine ⟨_, by rw [readInteger, stoull_of_isDecimal hdecimal hwide]; rfl, ?_⟩
  rw [BitVec.toNat_setWidth, BitVec.toNat_ofNat, Nat.mod_eq_of_lt hwide, Nat.mod_eq_of_lt hrange]

/-- A line that sets a field of `w` bits is accepted exactly if its value fits, and then the field
holds the value; otherwise the whole file is refused. -/
structure LineExact {σ : Type} (w : ℕ) (value : Text) (result : Option σ) (get : σ → ℕ)
    (refused : Prop) : Prop where
  accepts : result.isSome = true ↔ fits w value = true
  holds : ∀ s, result = some s → get s = valueOf value
  refuses : fits w value = false → refused

/-- **Exactly when a line is right**, if it reads an integer into the field. -/
theorem lineExact_iff {σ : Type} {result : Option σ} {get : σ → ℕ} {refused : Prop}
    {set : BitVec w → σ} (hw : w ≤ 64) (hget : ∀ n, get (set n) = n.toNat)
    (hresult : result = (readInteger w value).map set) (hrefused : result = none → refused) :
    LineExact w value result get refused ↔ fits w value = true ∨ hasNoNumber value = true := by
  subst hresult
  constructor
  · intro hexact
    cases hread : readInteger w value with
    | none => exact Or.inr (readInteger_eq_none_iff.1 hread)
    | some n =>
      refine Or.inl (hexact.accepts.1 ?_)
      rw [hread]
      rfl
  · rintro (hfits | hnone)
    · obtain ⟨n, hread, hn⟩ := readInteger_of_fits hw hfits
      rw [hread] at hrefused ⊢
      refine ⟨iff_of_true rfl hfits, ?_, ?_⟩
      · intro s hs
        rw [← Option.some.inj hs, hget, hn]
      · intro hnot
        rw [hfits] at hnot
        cases hnot
    · have hread := readInteger_eq_none_iff (w := w).2 hnone
      rw [hread] at hrefused ⊢
      have hnot : ¬fits w value = true := by
        intro hfits
        obtain ⟨n, hsome, -⟩ := readInteger_of_fits hw hfits
        rw [hread] at hsome
        cases hsome
      exact ⟨iff_of_false Bool.false_ne_true hnot, (fun _ hs => nomatch hs),
        fun _ => hrefused rfl⟩

end Values

/-! ## The keys of the `.env` file -/

inductive IntegerKey where
  | initialRtoMs
  | maxRtoMs
  | maxRetransmitCount
  | handshakeLingerMs
  | keepaliveIdleMs
  | idleTimeoutMs
  | reliableAckDelayMs
  | fastRetxEvidenceThreshold
  | serverPort
  | clientServerPort
  | socketBufferSize
  | serverLoopSleepUs
  | clientSelectTimeoutUs
  | clientPollBudget
  deriving DecidableEq

namespace IntegerKey

def name : IntegerKey → Text
  | initialRtoMs => "RUDP_TRANSPORT_INITIAL_RTO_MS".toList
  | maxRtoMs => "RUDP_TRANSPORT_MAX_RTO_MS".toList
  | maxRetransmitCount => "RUDP_TRANSPORT_MAX_RETRANSMIT_COUNT".toList
  | handshakeLingerMs => "RUDP_TRANSPORT_HANDSHAKE_LINGER_MS".toList
  | keepaliveIdleMs => "RUDP_TRANSPORT_KEEPALIVE_IDLE_MS".toList
  | idleTimeoutMs => "RUDP_TRANSPORT_IDLE_TIMEOUT_MS".toList
  | reliableAckDelayMs => "RUDP_TRANSPORT_RELIABLE_ACK_DELAY_MS".toList
  | fastRetxEvidenceThreshold => "RUDP_TRANSPORT_FAST_RETX_EVIDENCE_THRESHOLD".toList
  | serverPort => "RUDP_RUNTIME_SERVER_PORT".toList
  | clientServerPort => "RUDP_RUNTIME_CLIENT_SERVER_PORT".toList
  | socketBufferSize => "RUDP_RUNTIME_SOCKET_BUFFER_SIZE".toList
  | serverLoopSleepUs => "RUDP_RUNTIME_SERVER_LOOP_SLEEP_US".toList
  | clientSelectTimeoutUs => "RUDP_RUNTIME_CLIENT_SELECT_TIMEOUT_US".toList
  | clientPollBudget => "RUDP_RUNTIME_CLIENT_POLL_BUDGET".toList

/-- The width of the field. -/
def width : IntegerKey → ℕ
  | serverPort | clientServerPort => 16
  | maxRetransmitCount | fastRetxEvidenceThreshold | serverLoopSleepUs | clientSelectTimeoutUs
  | clientPollBudget => 32
  | initialRtoMs | maxRtoMs | handshakeLingerMs | keepaliveIdleMs | idleTimeoutMs
  | reliableAckDelayMs | socketBufferSize => 64

/-- What the field holds. -/
def get (settings : Settings) : IntegerKey → ℕ
  | initialRtoMs => settings.transport.initialRtoMs.toNat
  | maxRtoMs => settings.transport.maxRtoMs.toNat
  | maxRetransmitCount => settings.transport.maxRetransmitCount.toNat
  | handshakeLingerMs => settings.transport.handshakeLingerMs.toNat
  | keepaliveIdleMs => settings.transport.keepaliveIdleMs.toNat
  | idleTimeoutMs => settings.transport.idleTimeoutMs.toNat
  | reliableAckDelayMs => settings.transport.reliableAckDelayMs.toNat
  | fastRetxEvidenceThreshold => settings.transport.fastRetxEvidenceThreshold.toNat
  | serverPort => settings.runtime.serverPort.toNat
  | clientServerPort => settings.runtime.clientServerPort.toNat
  | socketBufferSize => settings.runtime.socketBufferSize.toNat
  | serverLoopSleepUs => settings.runtime.serverLoopSleepUs.toNat
  | clientSelectTimeoutUs => settings.runtime.clientSelectTimeoutUs.toNat
  | clientPollBudget => settings.runtime.clientPollBudget.toNat

theorem width_le (key : IntegerKey) : key.width ≤ 64 := by
  cases key <;> decide

/-- What an integer key does: the value is read into its field. -/
theorem applyKv_name (key : IntegerKey) (settings : Settings) (value : Text) (message : Message) :
    ∃ set : BitVec key.width → Settings, (∀ n, key.get (set n) = n.toNat) ∧
      (applyKv settings key.name value message).toOption =
        (readInteger key.width value).map set := by
  cases key <;> unfold name applyKv
  -- The comparisons with the keys before this one fail.
  all_goals
    repeat rw [if_neg (mt String.toList_inj.1 (by decide))]
    rw [if_pos rfl]
    exact ⟨_, fun _ => rfl, assignInteger_eq _ _ _ _⟩

end IntegerKey

/-- The key and the value of a line of a `.env` file. -/
def envEntry (line : Text) : Option (Text × Text) :=
  if isSkipped line then none
  else (Lines.cut '=' (trim line)).map fun (key, value) => (trim key, trim value)

/-- The line is treated as it should be: no file with a line whose value does not fit is loaded, and
the settings stay as they were. -/
def EnvLineExact (key : IntegerKey) (lineNumber : ℕ) (line value : Text) (message : Message)
    (loaded : Settings) : Prop :=
  LineExact key.width value (applyEnvLine lineNumber line message loaded).toOption
    (fun loaded => key.get loaded) (∀ path input settings message,
      line ∈ Lines.read '\n' input →
        ∃ message', loadFromEnvFile path (some input) settings message =
          (false, settings, message'))

section Env

variable {key : IntegerKey} {line value : Text} {message : Message} {loaded : Settings}

theorem applyEnvLine_of_entry (hentry : envEntry line = some (key.name, value)) (lineNumber : ℕ) :
    applyEnvLine lineNumber line message loaded = applyKv loaded key.name value message := by
  rw [envEntry] at hentry
  cases hskip : isSkipped line with
  | true =>
    rw [hskip] at hentry
    cases hentry
  | false =>
    rw [hskip, if_neg Bool.false_ne_true, Option.map_eq_some_iff] at hentry
    obtain ⟨⟨rawKey, rawValue⟩, hcut, hpair⟩ := hentry
    obtain ⟨hkey, hvalue⟩ := Prod.mk.inj hpair
    rw [applyEnvLine, hskip, if_neg Bool.false_ne_true, hcut]
    simp only [hkey, hvalue]

/-- A line that is never accepted spoils the file. -/
theorem applyEnvLines_of_rejected {lines : List Text} (hmem : line ∈ lines)
    (hline : ∀ lineNumber message loaded,
      (applyEnvLine lineNumber line message loaded).toOption = none) (lineNumber : ℕ) :
    (applyEnvLines message lineNumber lines loaded).toOption = none := by
  induction lines generalizing lineNumber loaded with
  | nil => cases hmem
  | cons first rest ih =>
    rw [applyEnvLines]
    cases hfirst : applyEnvLine (lineNumber + 1) first message loaded with
    | error message => rfl
    | ok loaded' =>
      rcases List.mem_cons.1 hmem with rfl | hrest
      · have hnone := hline (lineNumber + 1) message loaded
        rw [hfirst] at hnone
        cases hnone
      · exact ih hrest (lineNumber + 1)

theorem loadFromEnvFile_of_rejected {input : Text} (hmem : line ∈ Lines.read '\n' input)
    (hline : ∀ lineNumber message loaded,
      (applyEnvLine lineNumber line message loaded).toOption = none) (path : Text)
    (settings : Settings) : ∃ message', loadFromEnvFile path (some input) settings message =
      (false, settings, message') := by
  have hlines := @applyEnvLines_of_rejected line message settings _ hmem hline 0
  rw [loadFromEnvFile]
  cases hload : applyEnvLines message 0 (Lines.read '\n' input) settings with
  | error message => exact ⟨message, rfl⟩
  | ok loaded =>
    rw [hload] at hlines
    cases hlines

theorem envLineExact_iff (hentry : envEntry line = some (key.name, value)) (lineNumber : ℕ) :
    EnvLineExact key lineNumber line value message loaded ↔
      fits key.width value = true ∨ hasNoNumber value = true := by
  have hline : ∀ lineNumber message loaded,
      ∃ set : BitVec key.width → Settings, (∀ n, key.get (set n) = n.toNat) ∧
        (applyEnvLine lineNumber line message loaded).toOption =
          (readInteger key.width value).map set := by
    intro lineNumber message loaded
    rw [applyEnvLine_of_entry hentry]
    exact key.applyKv_name loaded value message
  obtain ⟨set, hget, happly⟩ := hline lineNumber message loaded
  refine lineExact_iff key.width_le hget happly ?_
  intro hnone path input settings message hmem
  have hread : readInteger key.width value = none := by
    rw [happly] at hnone
    exact Option.map_eq_none_iff.1 hnone
  refine loadFromEnvFile_of_rejected hmem ?_ path settings
  intro lineNumber message loaded
  obtain ⟨_, -, happly⟩ := hline lineNumber message loaded
  rw [happly, hread]
  rfl

end Env

/-! ## The fields of a profile -/

inductive IntegerField where
  | socketBufferSize
  | loopSleepUs
  | selectTimeoutUs
  | pollBudget
  | bindPort
  | remotePort
  | channelId
  deriving DecidableEq

namespace IntegerField

def sectionName : IntegerField → Text
  | socketBufferSize | loopSleepUs | selectTimeoutUs | pollBudget => "runtime".toList
  | bindPort | remotePort => "connection".toList
  | channelId => "channels".toList

def key : IntegerField → Text
  | socketBufferSize => "socket_buffer_size".toList
  | loopSleepUs => "loop_sleep_us".toList
  | selectTimeoutUs => "select_timeout_us".toList
  | pollBudget => "poll_budget".toList
  | bindPort => "bind_port".toList
  | remotePort => "remote_port".toList
  | channelId => "id".toList

def width : IntegerField → ℕ
  | bindPort | remotePort => 16
  | loopSleepUs | selectTimeoutUs | pollBudget | channelId => 32
  | socketBufferSize => 64

/-- What the field holds. A channel is defined at the back of the list. -/
def get (profile : RuntimeProfile) : IntegerField → ℕ
  | socketBufferSize => profile.socketBufferSize.toNat
  | loopSleepUs => profile.loopSleepUs.toNat
  | selectTimeoutUs => profile.selectTimeoutUs.toNat
  | pollBudget => profile.pollBudget.toNat
  | bindPort => profile.bindPort.toNat
  | remotePort => profile.remotePort.toNat
  | channelId => (profile.channels.getLastD {}).id.toNat

theorem width_le (field : IntegerField) : field.width ≤ 64 := by
  cases field <;> decide

end IntegerField

/-- The key and the value of a line in a section of a profile. -/
def sectionEntry (state : YamlState) (line : Text) : Option (Text × Text) :=
  if isSkipped line ∨ indentationOf line = 0 then none
  else if state.sectionName = "channels".toList then
    if indentationOf line = 2 ∧ "- ".toList <+: trim line then parseKeyValue ((trim line).drop 2)
    else if indentationOf line = 4 ∧ state.currentChannel then parseKeyValue (trim line)
    else none
  else if indentationOf line = 2 ∧
      (state.sectionName = "runtime".toList ∨ state.sectionName = "connection".toList) then
    parseKeyValue (trim line)
  else none

/-- The line is treated as it should be: a file in which it is read in this state, and whose value
does not fit, is not loaded, and the caller's profile stays as it was. -/
def ProfileLineExact (field : IntegerField) (settings : Settings) (lineNumber : ℕ)
    (line value : Text) (message : Message) (state : YamlState) : Prop :=
  LineExact field.width value (applyLine settings lineNumber line message state).toOption
    (fun state => field.get state.profile) (∀ path input caller message before after,
      Lines.read '\n' input = before ++ line :: after →
        (applyLines settings message 0 before
          { profile := { defaultRuntimeProfile settings with channels := [] } }).toOption =
            some state →
        ∃ message', loadRuntimeProfileFromYaml settings path (some input) caller message =
          (false, caller, message'))

section Profile

variable {field : IntegerField} {settings : Settings} {line value : Text} {message : Message}
  {state : YamlState}

theorem sectionEntry_spec {key : Text} (hentry : sectionEntry state line = some (key, value)) :
    readItem state.sectionName state.currentChannel line =
      if state.sectionName = "channels".toList then
        (readChannelField key value).map
          (if indentationOf line = 2 ∧ "- ".toList <+: trim line then .newChannel
          else .channelField)
      else (readField state.sectionName key value).map .field := by
  rw [sectionEntry] at hentry
  by_cases hnone : isSkipped line = true ∨ indentationOf line = 0
  · rw [if_pos hnone] at hentry
    cases hentry
  rw [if_neg hnone] at hentry
  rw [not_or] at hnone
  rw [readItem, if_neg hnone.1, if_neg hnone.2]
  by_cases hchannels : state.sectionName = "channels".toList
  · rw [if_pos hchannels] at hentry ⊢
    rw [if_pos hchannels]
    by_cases hnew : indentationOf line = 2 ∧ "- ".toList <+: trim line
    · rw [if_pos hnew] at hentry ⊢
      rw [if_pos hnew, hentry]
      rfl
    · rw [if_neg hnew] at hentry ⊢
      rw [if_neg hnew]
      split_ifs at hentry with hopen
      rw [if_pos hopen, hentry]
      rfl
  · rw [if_neg hchannels] at hentry ⊢
    rw [if_neg hchannels]
    split_ifs at hentry with hfield
    rw [if_pos hfield, hentry]
    rfl

/-- The entries of the sections that are no lists. -/
theorem readField_of_key (hfield : field ≠ .channelId) :
    field.sectionName ≠ "channels".toList ∧ ∃ entry : BitVec field.width → Entry,
      readField field.sectionName field.key value = (readInteger field.width value).map entry ∧
        ∀ n profile, field.get ((entry n).apply settings profile) = n.toNat := by
  cases field
  case channelId => exact absurd rfl hfield
  all_goals
    refine ⟨mt String.toList_inj.1 (by decide), ?_⟩
    unfold readField IntegerField.sectionName IntegerField.key
    rw [if_neg (mt String.toList_eq_nil_iff.1 (by decide))]
    repeat rw [if_neg (mt String.toList_inj.1 (by decide))]
    rw [if_pos rfl]
    repeat rw [if_neg (mt String.toList_inj.1 (by decide))]
    rw [if_pos rfl]
    exact ⟨_, rfl, fun _ _ => rfl⟩

/-- What an integer entry does: the value is read into its field. -/
theorem readStep_of_entry (hsection : state.sectionName = field.sectionName)
    (hentry : sectionEntry state line = some (field.key, value)) :
    ∃ set : BitVec field.width → YamlState, (∀ n, field.get (set n).profile = n.toNat) ∧
      readStep settings state line = (readInteger field.width value).map set := by
  rw [readStep, sectionEntry_spec hentry, hsection]
  by_cases hfield : field = .channelId
  · subst hfield
    have hchannels : IntegerField.channelId.sectionName = "channels".toList := rfl
    have hid : readChannelField IntegerField.channelId.key value =
        (readInteger 32 value).map .id := if_pos rfl
    rw [if_pos hchannels, hid, Option.map_map, Option.map_map]
    refine ⟨_, fun n => ?_, rfl⟩
    simp only [Function.comp, IntegerField.get]
    split_ifs <;> rw [Item.apply, List.getLastD_concat] <;> rfl
  · obtain ⟨hchannels, entry, hread, hget⟩ := @readField_of_key field settings value hfield
    rw [if_neg hchannels, hread, Option.map_map, Option.map_map]
    exact ⟨_, fun n => hget n state.profile, rfl⟩

theorem load_of_rejected {before after : List Text} {input : Text}
    (hinput : Lines.read '\n' input = before ++ line :: after)
    (hbefore : (applyLines settings message 0 before
      { profile := { defaultRuntimeProfile settings with channels := [] } }).toOption = some state)
    (hline : readStep settings state line = none) (path : Text) (caller : RuntimeProfile) :
    ∃ message', loadRuntimeProfileFromYaml settings path (some input) caller message =
      (false, caller, message') := by
  refine load_of_none path caller ?_
  rw [applyLines_eq] at hbefore
  rw [readProfile, runM_significant, hinput, Option.bind_eq_none_iff]
  intro final hfinal
  obtain ⟨middle, hmiddle, hrest⟩ := Run.runM_append hfinal
  rw [hbefore] at hmiddle
  obtain rfl := Option.some.inj hmiddle
  rw [Run.runM_cons, hline] at hrest
  cases hrest

theorem profileLineExact_iff (hsection : state.sectionName = field.sectionName)
    (hentry : sectionEntry state line = some (field.key, value)) (lineNumber : ℕ) :
    ProfileLineExact field settings lineNumber line value message state ↔
      fits field.width value = true ∨ hasNoNumber value = true := by
  obtain ⟨set, hget, hstep⟩ := @readStep_of_entry field settings line value state hsection hentry
  have happly : (applyLine settings lineNumber line message state).toOption =
      (readInteger field.width value).map set :=
    (applyLine_eq settings message lineNumber line state).trans hstep
  refine lineExact_iff field.width_le hget happly ?_
  intro hnone path input caller message before after hinput hbefore
  refine load_of_rejected hinput hbefore ?_ path caller
  rw [happly] at hnone
  rw [hstep, hnone]

end Profile

/-- **Exactly when an integer setting is read right.** A line of a `.env` file or of a profile that
sets an integer is treated as it should be if and only if its value is a decimal number that fits
the field, or there is no number that `std::stoull` could read at its beginning. -/
theorem integer_settings_iff (settings : Settings) (lineNumber : ℕ) (line value : Text)
    (message : Message) :
    (∀ key : IntegerKey, envEntry line = some (key.name, value) →
      (EnvLineExact key lineNumber line value message settings ↔
        fits key.width value = true ∨ hasNoNumber value = true)) ∧
    ∀ (field : IntegerField) (state : YamlState), state.sectionName = field.sectionName →
      sectionEntry state line = some (field.key, value) →
      (ProfileLineExact field settings lineNumber line value message state ↔
        fits field.width value = true ∨ hasNoNumber value = true) :=
  ⟨fun _ hentry => envLineExact_iff hentry lineNumber,
    fun _ _ hsection hentry => profileLineExact_iff hsection hentry lineNumber⟩

/-- A port and the number of a channel. -/
theorem integer_settings_read :
    EnvLineExact .serverPort 1 "RUDP_RUNTIME_SERVER_PORT = 9001".toList "9001".toList none {} ∧
    ProfileLineExact .channelId {} 2 "  - id: 7".toList "7".toList none
      { profile := {}, sectionName := "channels".toList } :=
  ⟨((integer_settings_iff {} 1 _ _ none).1 .serverPort (by decide +kernel)).2 (by decide +kernel),
    ((integer_settings_iff {} 2 _ _ none).2 .channelId _ rfl (by decide +kernel)).2
      (by decide +kernel)⟩

/-- A port of five digits that no 16 bits can hold, and digits with something behind them. -/
theorem integer_settings_misread :
    (let line := "RUDP_RUNTIME_SERVER_PORT=70000".toList
    let loaded := loadFromEnvFile [] (some line) {} none
    fits 16 "70000".toList = false ∧ loaded.1 = true ∧ loaded.2.1.runtime.serverPort = 4464 ∧
      ¬EnvLineExact .serverPort 1 line "70000".toList none {}) ∧
    let line := "  bind_port: 12abc".toList
    let loaded := loadRuntimeProfileFromYaml {} [] (some ("connection:\n".toList ++ line)) {} none
    fits 16 "12abc".toList = false ∧ loaded.1 = true ∧ loaded.2.1.bindPort = 12 ∧
      ¬ProfileLineExact .bindPort {} 2 line "12abc".toList none
        { profile := {}, sectionName := "connection".toList } := by
  refine ⟨⟨by decide +kernel, by decide +kernel, by decide +kernel, ?_⟩, by decide +kernel,
    by decide +kernel, by decide +kernel, ?_⟩
  · rw [envLineExact_iff (by decide +kernel)]
    decide +kernel
  · rw [profileLineExact_iff rfl (by decide +kernel)]
    decide +kernel

end Config

end Rudp
