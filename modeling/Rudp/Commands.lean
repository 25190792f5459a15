import Rudp.ConfigRoundTrip
import Rudp.RuntimeLogger

/-!
# Typed commands

What the loops of `src/BsdClientApp.cpp` and `src/BsdServerApp.cpp` make of a line that is typed. A
line names a channel by its name or its number, and what follows is the message: any text, blanks
included. A line that is no command is a message itself, on the default channel.
-/

namespace Rudp

open Utils Config

namespace Runtime

/-! ## Channels -/

def defaultChannel (profile : RuntimeProfile) : Option ChannelDefinition :=
  (profile.channels.find? fun channel => channel.isDefault).or profile.channels.head?

/-- By name first. `std::stoul` reads 64 bits, which are cut to 32. -/
def findChannel (profile : RuntimeProfile) (token : Text) : Option ChannelDefinition :=
  (profile.channels.find? fun channel => channel.name = token).or <|
    (readInteger 32 token).bind fun id => profile.channels.find? fun channel => channel.id = id

def logChannels (linePrefix : Text) (profile : RuntimeProfile) : List Text :=
  profile.channels.map fun channel =>
    linePrefix ++ " channel id=".toList ++ toDecimal channel.id.toNat ++ " name=".toList ++
      channel.name ++ " type=".toList ++ channelTypeName channel.type ++
      if channel.isDefault then " default=true".toList else []

/-! ## The client's commands -/

def parseClientSendCommand (profile : RuntimeProfile) (line : Text) :
    Option (ChannelDefinition × Text) :=
  match "send ".toList.isPrefixOf? line with
  | some rest => do
    let (token, message) ← Lines.cut ' ' rest
    let channel ← findChannel profile token
    return (channel, message)
  | none => (defaultChannel profile).map fun channel => (channel, line)

structure SpawnCommand where
  channel : ChannelDefinition
  threadCount : U32
  messageCount : U32
  intervalMs : U32
  payload : Text
  deriving DecidableEq, Repr

def parseSpawnCommand (profile : RuntimeProfile) (line : Text) : Option SpawnCommand := do
  let rest ← "/spawn ".toList.isPrefixOf? line
  let (token, rest) ← Lines.cut ' ' rest
  let (threads, rest) ← Lines.cut ' ' rest
  let (count, rest) ← Lines.cut ' ' rest
  let (interval, payload) ← Lines.cut ' ' rest
  let channel ← findChannel profile token
  let threadCount ← readInteger 32 threads
  let messageCount ← readInteger 32 count
  let intervalMs ← readInteger 32 interval
  return { channel, threadCount, messageCount, intervalMs, payload }

/-- What `process_client_command` finds in a line. -/
inductive ClientCommand where
  | quit | channels | workers | stopLoad
  | spawn (command : SpawnCommand)
  | send (channel : ChannelDefinition) (message : Text)
  deriving DecidableEq, Repr

def parseClientCommand (profile : RuntimeProfile) (line : Text) : Option ClientCommand :=
  if line = "/quit".toList then some .quit
  else if line = "/channels".toList then some .channels
  else if line = "/workers".toList then some .workers
  else if line = "/stop-load".toList then some .stopLoad
  else match parseSpawnCommand profile line with
    | some command => some (.spawn command)
    | none => (parseClientSendCommand profile line).map fun (channel, message) =>
      .send channel message

/-! ## The server's commands -/

structure ServerSendCommand where
  connId : U32
  channel : ChannelDefinition
  payload : Text
  deriving DecidableEq, Repr

def parseServerSendCommand (profile : RuntimeProfile) (line : Text)
    (preferredConnId : Option U32) : Option ServerSendCommand :=
  match "send ".toList.isPrefixOf? line with
  | some rest => do
    let (number, rest) ← Lines.cut ' ' rest
    let (token, payload) ← Lines.cut ' ' rest
    let connId ← readInteger 32 number
    let channel ← findChannel profile token
    return { connId, channel, payload }
  | none => do
    let connId ← preferredConnId
    let channel ← defaultChannel profile
    return { connId, channel, payload := line }

/-! ## Typing a command -/

/-- Channels that can be told apart by what is typed. -/
structure Addressable (profile : RuntimeProfile) : Prop where
  names : (profile.channels.map ChannelDefinition.name).Nodup
  ids : (profile.channels.map ChannelDefinition.id).Nodup
  noBlank : ∀ channel ∈ profile.channels, ' ' ∉ channel.name
  noNumber : ∀ channel ∈ profile.channels, isDecimal channel.name = false

/-- What names a channel. -/
def IsToken (channel : ChannelDefinition) (token : Text) : Prop :=
  token = channel.name ∨ token = toDecimal channel.id.toNat

section Typing

variable {profile : RuntimeProfile} {channel : ChannelDefinition} {token : Text}

/-- The first element of a kind that occurs once is the only one. -/
theorem find?_of_nodup {α β : Type} [DecidableEq β] {l : List α} {f : α → β} {a : α}
    (h : (l.map f).Nodup) (ha : a ∈ l) : l.find? (fun b => f b = f a) = some a := by
  induction l with
  | nil => cases ha
  | cons b l ih =>
    obtain ⟨hfresh, hrest⟩ := List.nodup_cons.1 h
    rcases List.mem_cons.1 ha with rfl | hmem
    · exact List.find?_cons_of_pos (decide_eq_true rfl)
    · have hne : f b ≠ f a := fun heq => hfresh (heq ▸ List.mem_map_of_mem hmem)
      rw [List.find?_cons_of_neg (by simpa using hne), ih hrest hmem]

theorem Addressable.findChannel (h : Addressable profile) (hchannel : channel ∈ profile.channels)
    (htoken : IsToken channel token) : findChannel profile token = some channel := by
  rw [Runtime.findChannel]
  rcases htoken with rfl | rfl
  · rw [find?_of_nodup h.names hchannel, Option.some_or]
  · have hnone : profile.channels.find?
        (fun c => c.name = toDecimal channel.id.toNat) = none := by
      refine List.find?_eq_none.2 fun c hc heq => ?_
      have hnumber := h.noNumber c hc
      rw [of_decide_eq_true heq, isDecimal_toDecimal] at hnumber
      cases hnumber
    rw [hnone, Option.none_or, readInteger_toDecimal (by decide), Option.bind_some,
      find?_of_nodup h.ids hchannel]

theorem Addressable.not_mem_token (h : Addressable profile) (hchannel : channel ∈ profile.channels)
    (htoken : IsToken channel token) : ' ' ∉ token := by
  rcases htoken with rfl | rfl
  · exact h.noBlank channel hchannel
  · exact not_mem_toDecimal (by decide) _

theorem isPrefixOf?_append (before rest : Text) :
    before.isPrefixOf? (before ++ rest) = some rest :=
  List.isPrefixOf?_eq_some_iff_append_eq.2 rfl

theorem isPrefixOf?_of_not_prefix {before line : Text} (h : ¬before <+: line) :
    before.isPrefixOf? line = none :=
  Option.eq_none_iff_forall_ne_some.2 fun rest hrest =>
    h ⟨rest, List.isPrefixOf?_eq_some_iff_append_eq.1 hrest⟩

/-- The client's `send <channel> <message>`. -/
def sendLine (token message : Text) : Text := "send ".toList ++ (token ++ ' ' :: message)

/-- The client's `/spawn <channel> <threads> <count> <interval-ms> <payload>`. -/
def spawnLine (token : Text) (threadCount messageCount intervalMs : U32) (payload : Text) : Text :=
  "/spawn ".toList ++ (token ++ ' ' :: (toDecimal threadCount.toNat ++ ' ' ::
    (toDecimal messageCount.toNat ++ ' ' :: (toDecimal intervalMs.toNat ++ ' ' :: payload))))

/-- The server's `send <conn_id> <channel> <message>`. -/
def serverSendLine (connId : U32) (token message : Text) : Text :=
  "send ".toList ++ (toDecimal connId.toNat ++ ' ' :: (token ++ ' ' :: message))

theorem cut_toDecimal (n : ℕ) (rest : Text) :
    Lines.cut ' ' (toDecimal n ++ ' ' :: rest) = some (toDecimal n, rest) :=
  Lines.cut_append (not_mem_toDecimal (by decide) n)

theorem readInteger_typed (n : U32) : readInteger 32 (toDecimal n.toNat) = some n :=
  readInteger_toDecimal (by decide) n

theorem parseSpawnCommand_spawnLine (h : Addressable profile)
    (hchannel : channel ∈ profile.channels) (htoken : IsToken channel token)
    (threadCount messageCount intervalMs : U32) (payload : Text) :
    parseSpawnCommand profile (spawnLine token threadCount messageCount intervalMs payload) =
      some { channel, threadCount, messageCount, intervalMs, payload } := by
  unfold parseSpawnCommand spawnLine
  simp only [isPrefixOf?_append, Option.bind_eq_bind, Option.bind_some]
  rw [Lines.cut_append (h.not_mem_token hchannel htoken), Option.bind_some, cut_toDecimal,
    Option.bind_some, cut_toDecimal, Option.bind_some, cut_toDecimal, Option.bind_some,
    h.findChannel hchannel htoken, Option.bind_some, readInteger_typed, Option.bind_some,
    readInteger_typed, Option.bind_some, readInteger_typed, Option.bind_some]
  rfl

theorem parseClientSendCommand_sendLine (h : Addressable profile)
    (hchannel : channel ∈ profile.channels) (htoken : IsToken channel token) (message : Text) :
    parseClientSendCommand profile (sendLine token message) = some (channel, message) := by
  rw [parseClientSendCommand, sendLine, isPrefixOf?_append]
  simp only [Option.bind_eq_bind, Option.bind_some,
    Lines.cut_append (h.not_mem_token hchannel htoken), h.findChannel hchannel htoken,
    Option.pure_def]

/-- A line whose first letter is no slash is none of the commands with one. -/
theorem parseClientCommand_of_head {line : Text} (h : line.head? ≠ some '/') :
    parseClientCommand profile line = (parseClientSendCommand profile line).map
      fun (channel, message) => .send channel message := by
  have hne : ∀ text : Text, text.head? = some '/' → line ≠ text := by
    rintro text htext rfl
    exact h htext
  have hspawn : parseSpawnCommand profile line = none := by
    have hprefix : ¬"/spawn ".toList <+: line := by
      rintro ⟨rest, rfl⟩
      exact h rfl
    rw [parseSpawnCommand, isPrefixOf?_of_not_prefix hprefix]
    rfl
  rw [parseClientCommand, if_neg (hne _ rfl), if_neg (hne _ rfl), if_neg (hne _ rfl),
    if_neg (hne _ rfl), hspawn]

/-- **What can be typed.** If the channels can be told apart, then every message on every channel,
every load on it and every reply to a session can be typed: the line is read back as what was meant,
whatever the text of the message is. -/
theorem typed_commands (h : Addressable profile) (hchannel : channel ∈ profile.channels)
    (htoken : IsToken channel token) (message : Text)
    (threadCount messageCount intervalMs connId : U32) (preferredConnId : Option U32) :
    parseClientCommand profile (sendLine token message) = some (.send channel message) ∧
      parseClientCommand profile
          (spawnLine token threadCount messageCount intervalMs message) =
        some (.spawn { channel, threadCount, messageCount, intervalMs, payload := message }) ∧
      parseServerSendCommand profile (serverSendLine connId token message) preferredConnId =
        some { connId, channel, payload := message } := by
  refine ⟨?_, ?_, ?_⟩
  · rw [@parseClientCommand_of_head _ (sendLine token message) (fun hslash => nomatch hslash),
      parseClientSendCommand_sendLine h hchannel htoken]
    rfl
  · have hne : ∀ text : Text, text.take 3 ≠ "/sp".toList →
        spawnLine token threadCount messageCount intervalMs message ≠ text := by
      rintro text htext rfl
      exact htext rfl
    rw [parseClientCommand, if_neg (hne _ (by decide)), if_neg (hne _ (by decide)),
      if_neg (hne _ (by decide)), if_neg (hne _ (by decide)),
      parseSpawnCommand_spawnLine h hchannel htoken]
  · rw [parseServerSendCommand, serverSendLine, isPrefixOf?_append]
    simp only [Option.bind_eq_bind]
    rw [cut_toDecimal, Option.bind_some, Lines.cut_append (h.not_mem_token hchannel htoken),
      Option.bind_some, readInteger_typed, Option.bind_some, h.findChannel hchannel htoken,
      Option.bind_some]
    rfl

/-- A default channel and a named one. -/
def twoChannels : RuntimeProfile where
  mode := .client
  channels := [{ id := 2, name := "chat".toList, type := .reliableOrdered, isDefault := true },
    { id := 7, name := "state".toList, type := .monotonicState }]

theorem typed_commands_twoChannels :
    parseClientCommand twoChannels "send 7 send chat x".toList =
        some (.send { id := 7, name := "state".toList, type := .monotonicState }
          "send chat x".toList) ∧
      parseClientCommand twoChannels "/spawn state 2 3 0 x y".toList =
        some (.spawn
          { channel := { id := 7, name := "state".toList, type := .monotonicState }
            threadCount := 2
            messageCount := 3
            intervalMs := 0
            payload := "x y".toList }) ∧
      parseServerSendCommand twoChannels "send 9 state ".toList none =
        some { connId := 9
               channel := { id := 7, name := "state".toList, type := .monotonicState }
               payload := [] } := by
  have haddressable : Addressable twoChannels := by
    constructor <;> decide +kernel
  have hmem :
      { id := 7, name := "state".toList, type := .monotonicState } ∈ twoChannels.channels := by
    decide
  exact ⟨(typed_commands haddressable hmem (Or.inr rfl) "send chat x".toList 0 0 0 0 none).1,
    (typed_commands haddressable hmem (Or.inl rfl) "x y".toList 2 3 0 0 none).2.1,
    (typed_commands haddressable hmem (Or.inl rfl) [] 0 0 0 9 none).2.2⟩

end Typing

/-! ## Lines for a loaded profile -/

section Loaded

variable {settings : Settings} {path : Text} {file : Option Text} {profile loaded : RuntimeProfile}
  {message message' : Message}

/-- A profile that the loader accepts has a default channel. -/
theorem finishProfile_default (h : finishProfile message profile = .ok loaded) :
    ∃ channel ∈ loaded.channels, channel.isDefault = true := by
  rw [finishProfile] at h
  simp only at h
  cases hchannels : profile.channels with
  | nil =>
    rw [hchannels] at h
    split_ifs at h
    all_goals
      obtain rfl := Except.ok.inj h
      exact ⟨_, List.mem_cons_self, rfl⟩
  | cons first rest =>
    rw [hchannels] at h
    by_cases hany : (first :: rest).any (·.isDefault) = true
    · obtain ⟨channel, hmem, hdefault⟩ := List.any_eq_true.1 hany
      simp only [hany, if_true] at h
      split_ifs at h
      all_goals
        obtain rfl := Except.ok.inj h
        exact ⟨channel, hmem, hdefault⟩
    · simp only [hany, Bool.false_eq_true, if_false] at h
      split_ifs at h
      all_goals
        obtain rfl := Except.ok.inj h
        exact ⟨_, List.mem_cons_self, rfl⟩

theorem loaded_default
    (h : loadRuntimeProfileFromYaml settings path file profile message = (true, loaded, message')) :
    ∃ channel, defaultChannel loaded = some channel ∧ channel ∈ loaded.channels ∧
      channel.isDefault = true := by
  have hdefault : ∃ channel ∈ loaded.channels, channel.isDefault = true := by
    cases file with
    | none => cases h
    | some input =>
      simp only [loadRuntimeProfileFromYaml] at h
      cases hload : applyProfileYaml settings (defaultRuntimeProfile settings) input message with
      | error message₁ =>
        rw [hload] at h
        cases h
      | ok profile₁ =>
        rw [hload] at h
        cases h
        rw [applyProfileYaml] at hload
        split at hload
        · cases hload
        · exact finishProfile_default hload
  obtain ⟨first, hfirst⟩ := Option.isSome_iff_exists.1
    (List.find?_isSome.2 hdefault : (loaded.channels.find? fun c => c.isDefault).isSome)
  refine ⟨first, ?_, List.mem_of_find?_eq_some hfirst, List.find?_some hfirst⟩
  rw [defaultChannel, hfirst, Option.some_or]

/-- **What a client refuses.** With a profile that the loader has accepted, a line is refused
exactly if it starts with `send ` and names no channel. A line that does not start so is a command,
or it is sent as it was typed, on a channel that the profile marks as default. -/
theorem loaded_profile_lines
    (h : loadRuntimeProfileFromYaml settings path file profile message = (true, loaded, message'))
    (line : Text) :
    (parseClientCommand loaded line = none ↔
      ∃ rest, line = "send ".toList ++ rest ∧
        ∀ token text, Lines.cut ' ' rest = some (token, text) → findChannel loaded token = none) ∧
    (¬"send ".toList <+: line → ∃ command, parseClientCommand loaded line = some command ∧
      ∀ channel text, command = .send channel text →
        text = line ∧ channel ∈ loaded.channels ∧ channel.isDefault = true) := by
  obtain ⟨default, hdefault, hmem, hmarked⟩ := loaded_default h
  by_cases hsend : "send ".toList <+: line
  · obtain ⟨rest, rfl⟩ := hsend
    refine ⟨?_, fun hnot => absurd (List.prefix_append _ _) hnot⟩
    rw [@parseClientCommand_of_head _ ("send ".toList ++ rest) (fun hslash => nomatch hslash),
      parseClientSendCommand, isPrefixOf?_append, Option.map_eq_none_iff]
    constructor
    · intro hnone
      refine ⟨rest, rfl, fun token text hcut => ?_⟩
      simp only [hcut, Option.bind_eq_bind, Option.bind_some] at hnone
      cases hfind : findChannel loaded token with
      | none => rfl
      | some channel =>
        rw [hfind] at hnone
        cases hnone
    · rintro ⟨rest', heq, hnone⟩
      obtain rfl := List.append_cancel_left heq
      cases hcut : Lines.cut ' ' rest with
      | none => simp only [hcut, Option.bind_eq_bind, Option.bind_none]
      | some pair =>
        simp only [hcut, Option.bind_eq_bind, Option.bind_some, hnone pair.1 pair.2 hcut,
          Option.bind_none]
  · have hplain : parseClientSendCommand loaded line = some (default, line) := by
      rw [parseClientSendCommand, isPrefixOf?_of_not_prefix hsend, hdefault]
      rfl
    have hmeaning : ∃ command, parseClientCommand loaded line = some command ∧
        ∀ channel text, command = .send channel text → channel = default ∧ text = line := by
      rw [parseClientCommand, hplain]
      split_ifs
      case neg =>
        cases parseSpawnCommand loaded line with
        | some command => exact ⟨_, rfl, nofun⟩
        | none =>
          refine ⟨_, rfl, fun channel text heq => ?_⟩
          cases heq
          exact ⟨rfl, rfl⟩
      all_goals exact ⟨_, rfl, nofun⟩
    obtain ⟨command, hparse, hsends⟩ := hmeaning
    constructor
    · rw [hparse]
      refine iff_of_false nofun ?_
      rintro ⟨rest, rfl, -⟩
      exact hsend (List.prefix_append _ _)
    · refine fun _ => ⟨command, hparse, fun channel text heq => ?_⟩
      obtain ⟨rfl, rfl⟩ := hsends channel text heq
      exact ⟨rfl, hmem, hmarked⟩

/-- A profile without channels gets one. -/
theorem loaded_profile_lines_server :
    ∃ loaded, loadRuntimeProfileFromYaml {} "p".toList (some "mode: server\n".toList) {} none =
        (true, loaded, none) ∧
      ∃ command, parseClientCommand loaded "/help".toList = some command ∧
        ∀ channel text, command = .send channel text →
          text = "/help".toList ∧ channel ∈ loaded.channels ∧ channel.isDefault = true := by
  have hvalue : (fun r : Bool × RuntimeProfile × Message => (r.1, r.2.2))
      (loadRuntimeProfileFromYaml {} "p".toList (some "mode: server\n".toList) {} none) =
      (true, none) := by
    decide +kernel
  rcases hloaded : loadRuntimeProfileFromYaml {} "p".toList (some "mode: server\n".toList) {} none
    with ⟨ok, loaded, message⟩
  rw [hloaded] at hvalue
  obtain ⟨rfl, rfl⟩ := Prod.mk.inj hvalue
  exact ⟨loaded, rfl, (loaded_profile_lines hloaded "/help".toList).2 (by decide)⟩

end Loaded

end Runtime

end Rudp
