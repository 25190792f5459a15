import Rudp.ConfigEntries

/-!
# Profiles that are written

The layout of `configs/client.yaml`: the mode, then a section for the runtime, one for the
connection and one for the channels, with an entry for every field. Blank lines and comments may
stand anywhere. `profile_round_trip` says that what is written so is read back.

A value survives if it has no line break, is not quoted, and has no space at its ends. It may be
empty, and colons and hashes in it do no harm, since only the first colon of a line and a hash at
its beginning mean anything.
-/

namespace Rudp

namespace Config

open Utils

/-! ## Lines -/

/-- A key, and the value if there is one, as the loader sees them when the line is trimmed. -/
def entryText (key value : Text) : Text := key ++ ':' :: if value = [] then [] else ' ' :: value

/-- `key: value`, indented. -/
def entryLine (indent : ℕ) (key value : Text) : Text :=
  List.replicate indent ' ' ++ (key ++ ':' :: ' ' :: value)

/-- `name:` -/
def headerLine (name : Text) : Text := name ++ [':']

/-- The text can be the key of a line. -/
structure IsKey (key : Text) : Prop where
  nonempty : key ≠ []
  noHash : key.head? ≠ some '#'
  noColon : ':' ∉ key
  noBreak : '\n' ∉ key
  stripped : Lines.IsStripped isSpace key

/-- The value is read as it is written. -/
structure IsPlain (value : Text) : Prop where
  stripped : Lines.IsStripped isSpace value
  unquoted : isQuoted value = false
  noBreak : '\n' ∉ value

section Lines

variable {key value : Text}

theorem IsKey.head (h : IsKey key) : ∃ c rest, key = c :: rest ∧ c ≠ '#' ∧ isSpace c = false := by
  cases key with
  | nil => exact absurd rfl h.nonempty
  | cons c rest =>
    refine ⟨c, rest, rfl, ?_, h.stripped.1 c rfl⟩
    rintro rfl
    exact h.noHash rfl

theorem isStripped_colon (h : IsKey key) : Lines.IsStripped isSpace (headerLine key) := by
  obtain ⟨c, rest, rfl, -, hc⟩ := h.head
  constructor
  · intro d hd
    obtain rfl := Option.some.inj hd
    exact hc
  · intro d hd
    rw [headerLine, List.getLast?_concat] at hd
    obtain rfl := Option.some.inj hd
    rfl

theorem isStripped_entryText (hkey : IsKey key) (hvalue : Lines.IsStripped isSpace value) :
    Lines.IsStripped isSpace (entryText key value) := by
  by_cases hempty : value = []
  · rw [entryText, if_pos hempty]
    exact isStripped_colon hkey
  · obtain ⟨c, rest, rfl, -, hc⟩ := hkey.head
    rw [entryText, if_neg hempty]
    constructor
    · intro d hd
      obtain rfl := Option.some.inj hd
      exact hc
    · intro d hd
      refine hvalue.2 d ?_
      rwa [List.getLast?_append_of_ne_nil _ (List.cons_ne_nil _ _), List.getLast?_cons_cons,
        List.getLast?_cons_of_ne_nil hempty] at hd

theorem trim_of_isStripped {text : Text} (h : Lines.IsStripped isSpace text) :
    trim text = text := by
  have hpad : trim ([] ++ text ++ []) = text := Lines.strip_pad (by simp) h (by simp)
  rwa [List.nil_append, List.append_nil] at hpad

theorem trim_entryLine (hkey : IsKey key) (hvalue : Lines.IsStripped isSpace value)
    (indent : ℕ) : trim (entryLine indent key value) = entryText key value := by
  have hblank : ∀ n, ∀ c ∈ List.replicate n ' ', isSpace c = true := by
    intro n c hc
    rw [List.eq_of_mem_replicate hc]
    rfl
  -- If there is no value, the blank that would be before it is stripped too.
  have hpad := fun n => Lines.strip_pad (hblank indent) (isStripped_entryText hkey hvalue)
    (hblank n)
  by_cases hempty : value = []
  · subst hempty
    rw [← hpad 1, trim, entryLine, entryText, if_pos rfl]
    simp [List.append_assoc]
  · rw [← hpad 0, trim, entryLine, entryText, if_neg hempty, List.replicate_zero, List.append_nil]

theorem indentationOf_entryLine (hkey : IsKey key) (indent : ℕ) :
    indentationOf (entryLine indent key value) = indent := by
  obtain ⟨c, rest, rfl, -, hc⟩ := hkey.head
  have hblank : c ≠ ' ' := by
    rintro rfl
    cases hc
  rw [indentationOf, entryLine, List.takeWhile_append_of_pos fun d hd => by
    rw [List.eq_of_mem_replicate hd]; rfl]
  simp [hblank]

theorem isSkipped_entryLine (hkey : IsKey key) (hvalue : Lines.IsStripped isSpace value)
    (indent : ℕ) : isSkipped (entryLine indent key value) = false := by
  obtain ⟨c, rest, hcons, hhash, -⟩ := hkey.head
  rw [isSkipped, trim_entryLine hkey hvalue, entryText, hcons]
  simp [hhash]

theorem parseKeyValue_entryText (hkey : IsKey key) (hvalue : IsPlain value) :
    parseKeyValue (entryText key value) = some (key, value) := by
  have htrim : trim (if value = [] then [] else ' ' :: value) = value := by
    by_cases hempty : value = []
    · rw [if_pos hempty, hempty]
      rfl
    · rw [if_neg hempty]
      have hpad : trim ([' '] ++ value ++ []) = value :=
        Lines.strip_pad (by simp [isSpace]) hvalue.stripped (by simp)
      rwa [List.append_nil] at hpad
  have hunquote : unquote value = value := by
    rw [unquote, hvalue.unquoted, if_neg Bool.false_ne_true]
  rw [parseKeyValue, entryText, Lines.cut_append hkey.noColon]
  simp only [Option.map_some, htrim, hunquote, trim_of_isStripped hkey.stripped]

theorem indentationOf_headerLine (hkey : IsKey key) : indentationOf (headerLine key) = 0 := by
  obtain ⟨c, rest, rfl, -, hc⟩ := hkey.head
  have hblank : c ≠ ' ' := by
    rintro rfl
    cases hc
  simp [indentationOf, headerLine, hblank]

theorem isSkipped_headerLine (hkey : IsKey key) : isSkipped (headerLine key) = false := by
  rw [isSkipped, trim_of_isStripped (isStripped_colon hkey)]
  obtain ⟨c, rest, rfl, hhash, -⟩ := hkey.head
  simp [headerLine, hhash]

end Lines

/-! ## The layout -/

def runtimeModeName : RuntimeMode → Text
  | .server => "server".toList
  | .client => "client".toList

def boolName : Bool → Text
  | true => "true".toList
  | false => "false".toList

/-- A section with its fields. -/
def sectionLines (name : Text) (fields : List (Text × Text)) : List Text :=
  headerLine name :: fields.map fun (key, value) => entryLine 2 key value

def runtimeFields (profile : RuntimeProfile) : List (Text × Text) :=
  [("log_path".toList, profile.logPath),
    ("socket_buffer_size".toList, toDecimal profile.socketBufferSize.toNat),
    ("loop_sleep_us".toList, toDecimal profile.loopSleepUs.toNat),
    ("select_timeout_us".toList, toDecimal profile.selectTimeoutUs.toNat),
    ("poll_budget".toList, toDecimal profile.pollBudget.toNat)]

def connectionFields (profile : RuntimeProfile) : List (Text × Text) :=
  [("bind_address".toList, profile.bindAddress),
    ("bind_port".toList, toDecimal profile.bindPort.toNat),
    ("remote_address".toList, profile.remoteAddress),
    ("remote_port".toList, toDecimal profile.remotePort.toNat)]

def channelLines (channel : ChannelDefinition) : List Text :=
  [entryLine 2 "- id".toList (toDecimal channel.id.toNat),
    entryLine 4 "name".toList channel.name,
    entryLine 4 "type".toList (channelTypeName channel.type),
    entryLine 4 "default".toList (boolName channel.isDefault)]

/-- The lines of `configs/client.yaml`. -/
def layout (profile : RuntimeProfile) : List Text :=
  entryLine 0 "mode".toList (runtimeModeName profile.mode) ::
    (sectionLines "runtime".toList (runtimeFields profile) ++
      (sectionLines "connection".toList (connectionFields profile) ++
        headerLine "channels".toList :: profile.channels.flatMap channelLines))

/-- The lines are those of a text with blank lines and comments inserted anywhere. -/
inductive Annotated : List Text → List Text → Prop where
  | nil : Annotated [] []
  | line {plain lines : List Text} (line : Text) (rest : Annotated plain lines) :
    Annotated (line :: plain) (line :: lines)
  | note {plain lines : List Text} {note : Text} (skipped : isSkipped note = true)
    (noBreak : '\n' ∉ note) (rest : Annotated plain lines) : Annotated plain (note :: lines)

theorem Annotated.refl : ∀ lines : List Text, Annotated lines lines
  | [] => .nil
  | first :: rest => .line first (.refl rest)

/-- A profile that the layout can express. -/
structure IsWritable (profile : RuntimeProfile) : Prop where
  logPath : IsPlain profile.logPath
  bindAddress : IsPlain profile.bindAddress
  remoteAddress : IsPlain profile.remoteAddress
  names : ∀ channel ∈ profile.channels, IsPlain channel.name
  hasDefault : ∃ channel ∈ profile.channels, channel.isDefault = true
  client : profile.mode = .client → profile.remoteAddress ≠ [] ∧ profile.remotePort ≠ 0
  server : profile.mode = .server → profile.remoteAddress = [] ∧ profile.remotePort = 0

/-! ## What is written -/

instance (key : Text) : Decidable (IsKey key) :=
  decidable_of_iff (key ≠ [] ∧ key.head? ≠ some '#' ∧ ':' ∉ key ∧ '\n' ∉ key ∧
    Lines.IsStripped isSpace key)
    ⟨fun ⟨h₁, h₂, h₃, h₄, h₅⟩ => ⟨h₁, h₂, h₃, h₄, h₅⟩, fun h => ⟨h.1, h.2, h.3, h.4, h.5⟩⟩

instance (value : Text) : Decidable (IsPlain value) :=
  decidable_of_iff (Lines.IsStripped isSpace value ∧ isQuoted value = false ∧ '\n' ∉ value)
    ⟨fun h => ⟨h.1, h.2.1, h.2.2⟩, fun h => ⟨h.1, h.2, h.3⟩⟩

/-- The keys of the layout. -/
def layoutKeys : List Text :=
  ["mode".toList, "runtime".toList, "log_path".toList, "socket_buffer_size".toList,
    "loop_sleep_us".toList, "select_timeout_us".toList, "poll_budget".toList, "connection".toList,
    "bind_address".toList, "bind_port".toList, "remote_address".toList, "remote_port".toList,
    "channels".toList, "- id".toList, "id".toList, "name".toList, "type".toList, "default".toList]

theorem isKey_of_mem : ∀ key ∈ layoutKeys, IsKey key := by decide +kernel

theorem isPlain_toDecimal (n : ℕ) : IsPlain (toDecimal n) := by
  have hdigits : ∀ c ∈ toDecimal n, c.isDigit = true := fun c hc =>
    Nat.isDigit_of_mem_toDigits (by decide) (by decide) hc
  have hspace : ∀ c ∈ toDecimal n, isSpace c = false := fun c hc => (isDigit_ne (hdigits c hc)).1
  have hquote : ∀ quote : Char, quote.isDigit = false → (toDecimal n).head? ≠ some quote := by
    intro quote hquote hhead
    rw [hdigits quote (List.mem_of_mem_head? hhead)] at hquote
    cases hquote
  refine ⟨⟨fun c hc => hspace c (List.mem_of_mem_head? hc),
    fun c hc => hspace c (List.mem_of_mem_getLast? hc)⟩, ?_, fun hc => ?_⟩
  · simp [isQuoted, hquote kDoubleQuote rfl, hquote kSingleQuote rfl]
  · cases hspace _ hc

theorem isPlain_runtimeModeName (mode : RuntimeMode) : IsPlain (runtimeModeName mode) := by
  cases mode <;> decide +kernel

theorem isPlain_channelTypeName (type : ChannelType) : IsPlain (channelTypeName type) := by
  cases type <;> decide +kernel

theorem isPlain_boolName (value : Bool) : IsPlain (boolName value) := by
  cases value <;> decide +kernel

theorem readInteger_toDecimal {w : ℕ} (hw : w ≤ 64) (n : BitVec w) :
    readInteger w (toDecimal n.toNat) = some n := by
  have hrange : valueOf (toDecimal n.toNat) < 2 ^ 64 := by
    rw [valueOf_toDecimal]
    exact n.isLt.trans_le (Nat.pow_le_pow_right (by decide) hw)
  rw [readInteger, stoull_of_isDecimal (isDecimal_toDecimal _) hrange, valueOf_toDecimal,
    Option.map_some, BitVec.setWidth_ofNat_of_le hw, BitVec.ofNat_toNat, BitVec.setWidth_eq]

theorem parseRuntimeMode_runtimeModeName (mode : RuntimeMode) :
    parseRuntimeMode (runtimeModeName mode) = some mode := by
  unfold parseRuntimeMode runtimeModeName
  cases mode
  all_goals
    repeat rw [if_neg (mt String.toList_inj.1 (by decide))]
    rw [if_pos rfl]

theorem parseChannelType_channelTypeName (type : ChannelType) :
    parseChannelType (channelTypeName type) = some type := by
  unfold parseChannelType channelTypeName
  cases type
  all_goals
    repeat rw [if_neg (mt String.toList_inj.1 (by decide))]
    rw [if_pos rfl]

theorem parseBool_boolName (value : Bool) : parseBool (boolName value) = some value := by
  unfold parseBool boolName
  cases value
  all_goals
    repeat rw [if_neg (mt String.toList_inj.1 (by decide))]
    rw [if_pos rfl]

/-! ## Reading the layout -/

section Runs

variable {settings : Settings} {state : YamlState} {name key value : Text}

theorem readStep_headerLine (hname : IsKey name) :
    readStep settings state (headerLine name) =
      some { state with sectionName := name, currentChannel := false } := by
  have hlast : (headerLine name).getLast? = some ':' := List.getLast?_concat
  have hname' : (headerLine name).dropLast = name := List.dropLast_concat
  rw [readStep, readItem, isSkipped_headerLine hname, if_neg Bool.false_ne_true,
    if_pos (indentationOf_headerLine hname), trim_of_isStripped (isStripped_colon hname),
    if_pos hlast, hname']
  rfl

/-- The field is written so that it is read as the entry. -/
def Writes (scope : Text) (field : Text × Text) (entry : Entry) : Prop :=
  IsKey field.1 ∧ IsPlain field.2 ∧ readField scope field.1 field.2 = some entry

theorem writes_of {entry : Entry} (hkey : IsKey key) (hvalue : IsPlain value)
    (hread : readField name key value = some entry) : Writes name (key, value) entry :=
  ⟨hkey, hvalue, hread⟩

theorem readStep_field {field : Text × Text} {entry : Entry}
    (hsection : state.sectionName = "runtime".toList ∨ state.sectionName = "connection".toList)
    (h : Writes state.sectionName field entry) :
    readStep settings state (entryLine 2 field.1 field.2) =
      some { state with profile := entry.apply settings state.profile } := by
  obtain ⟨hkey, hvalue, hread⟩ := h
  have hchannels : state.sectionName ≠ "channels".toList := by
    rcases hsection with h | h <;> rw [h] <;> exact mt String.toList_inj.1 (by decide)
  rw [readStep, readItem, isSkipped_entryLine hkey hvalue.1, if_neg Bool.false_ne_true,
    indentationOf_entryLine hkey, if_neg (by decide), if_neg hchannels, if_pos ⟨rfl, hsection⟩,
    trim_entryLine hkey hvalue.1, parseKeyValue_entryText hkey hvalue]
  simp only [Option.bind_some, hread]
  rfl

/-- The entries of a section are applied one after the other. -/
theorem runM_fields {fields : List (Text × Text)} {entries : List Entry}
    (hsection : state.sectionName = "runtime".toList ∨ state.sectionName = "connection".toList)
    (h : List.Forall₂ (Writes state.sectionName) fields entries) :
    Run.runM (readStep settings) state (fields.map fun (key, value) => entryLine 2 key value) =
      some { state with profile := entries.foldl (Entry.apply settings) state.profile } := by
  induction fields generalizing state entries with
  | nil =>
    cases h
    rfl
  | cons field fields ih =>
    obtain _ | ⟨hfield, hrest⟩ := h
    rw [List.map_cons, Run.runM_cons, readStep_field hsection hfield]
    exact ih hsection hrest

theorem runM_section {fields : List (Text × Text)} {entries : List Entry}
    (hname : name = "runtime".toList ∨ name = "connection".toList)
    (h : List.Forall₂ (Writes name) fields entries) :
    Run.runM (readStep settings) state (sectionLines name fields) =
      some { profile := entries.foldl (Entry.apply settings) state.profile
             sectionName := name } := by
  have hkey : IsKey name := by
    rcases hname with rfl | rfl <;> exact isKey_of_mem _ (by simp [layoutKeys])
  rw [sectionLines, Run.runM_cons, readStep_headerLine hkey]
  exact runM_fields hname h

theorem readStep_mode (mode : RuntimeMode) :
    readStep settings state (entryLine 0 "mode".toList (runtimeModeName mode)) =
      some { state with
        profile := { state.profile with mode, logPath := settings.logPath mode }
        currentChannel := false } := by
  have hkey : IsKey "mode".toList := isKey_of_mem _ (by simp [layoutKeys])
  have hvalue := isPlain_runtimeModeName mode
  have hlast : (entryText "mode".toList (runtimeModeName mode)).getLast? ≠ some ':' := by
    cases mode <;> decide +kernel
  rw [readStep, readItem, isSkipped_entryLine hkey hvalue.1, if_neg Bool.false_ne_true,
    if_pos (indentationOf_entryLine hkey 0), trim_entryLine hkey hvalue.1, if_neg hlast,
    parseKeyValue_entryText hkey hvalue]
  simp only [Option.bind_some, readField, if_true, parseRuntimeMode_runtimeModeName]
  rfl

/-- What the sections of a profile say. -/
def runtimeEntries (profile : RuntimeProfile) : List Entry :=
  [.logPath profile.logPath, .socketBufferSize profile.socketBufferSize,
    .loopSleepUs profile.loopSleepUs, .selectTimeoutUs profile.selectTimeoutUs,
    .pollBudget profile.pollBudget]

def connectionEntries (profile : RuntimeProfile) : List Entry :=
  [.bindAddress profile.bindAddress, .bindPort profile.bindPort,
    .remoteAddress profile.remoteAddress, .remotePort profile.remotePort]

theorem writes_runtime {profile : RuntimeProfile} (h : IsWritable profile) :
    List.Forall₂ (Writes "runtime".toList) (runtimeFields profile) (runtimeEntries profile) := by
  refine .cons (writes_of (isKey_of_mem _ (by simp [layoutKeys])) h.logPath ?_) <|
    .cons (writes_of (isKey_of_mem _ (by simp [layoutKeys])) (isPlain_toDecimal _) ?_) <|
    .cons (writes_of (isKey_of_mem _ (by simp [layoutKeys])) (isPlain_toDecimal _) ?_) <|
    .cons (writes_of (isKey_of_mem _ (by simp [layoutKeys])) (isPlain_toDecimal _) ?_) <|
    .cons (writes_of (isKey_of_mem _ (by simp [layoutKeys])) (isPlain_toDecimal _) ?_) .nil
  -- The comparisons with the keys before this one fail.
  all_goals
    unfold readField
    rw [if_neg (mt String.toList_eq_nil_iff.1 (by decide)), if_pos rfl]
    repeat rw [if_neg (mt String.toList_inj.1 (by decide))]
    rw [if_pos rfl]
  all_goals
    rw [readInteger_toDecimal (by decide), Option.map_some]

theorem writes_connection {profile : RuntimeProfile} (h : IsWritable profile) :
    List.Forall₂ (Writes "connection".toList) (connectionFields profile)
      (connectionEntries profile) := by
  refine .cons (writes_of (isKey_of_mem _ (by simp [layoutKeys])) h.bindAddress ?_) <|
    .cons (writes_of (isKey_of_mem _ (by simp [layoutKeys])) (isPlain_toDecimal _) ?_) <|
    .cons (writes_of (isKey_of_mem _ (by simp [layoutKeys])) h.remoteAddress ?_) <|
    .cons (writes_of (isKey_of_mem _ (by simp [layoutKeys])) (isPlain_toDecimal _) ?_) .nil
  all_goals
    unfold readField
    rw [if_neg (mt String.toList_eq_nil_iff.1 (by decide)),
      if_neg (mt String.toList_inj.1 (by decide)), if_pos rfl]
    repeat rw [if_neg (mt String.toList_inj.1 (by decide))]
    rw [if_pos rfl]
  all_goals
    rw [readInteger_toDecimal (by decide), Option.map_some]

/-- The last channel is open. -/
def atChannel (profile : RuntimeProfile) (before : List ChannelDefinition)
    (channel : ChannelDefinition) : YamlState where
  profile := { profile with channels := before ++ [channel] }
  sectionName := "channels".toList
  currentChannel := true

theorem readStep_channelField {entry : ChannelEntry} (hkey : IsKey key) (hvalue : IsPlain value)
    (hread : readChannelField key value = some entry) (profile : RuntimeProfile)
    (before : List ChannelDefinition) (channel : ChannelDefinition) :
    readStep settings (atChannel profile before channel) (entryLine 4 key value) =
      some (atChannel profile before (entry.apply channel)) := by
  have hsection : (atChannel profile before channel).sectionName = "channels".toList := rfl
  have hopen : (atChannel profile before channel).currentChannel = true := rfl
  rw [readStep, readItem, isSkipped_entryLine hkey hvalue.1, if_neg Bool.false_ne_true,
    indentationOf_entryLine hkey, if_neg (by decide), if_pos hsection,
    if_neg fun h => absurd h.1 (by decide), if_pos ⟨rfl, hopen⟩, trim_entryLine hkey hvalue.1,
    parseKeyValue_entryText hkey hvalue]
  simp only [Option.bind_some, hread, Option.map_some, Item.apply, List.dropLast_concat,
    List.getLastD_concat, atChannel]

theorem readStep_newChannel (hsection : state.sectionName = "channels".toList) (id : U32) :
    readStep settings state (entryLine 2 "- id".toList (toDecimal id.toNat)) =
      some (atChannel state.profile state.profile.channels { id }) := by
  have hdash : IsKey "- id".toList := isKey_of_mem _ (by simp [layoutKeys])
  have hkey : IsKey "id".toList := isKey_of_mem _ (by simp [layoutKeys])
  have hvalue := isPlain_toDecimal id.toNat
  -- The dash is a part of the first key for the printer, and is dropped by the loader.
  have htext : entryText "- id".toList (toDecimal id.toNat) =
      "- ".toList ++ entryText "id".toList (toDecimal id.toNat) := rfl
  have hprefix : "- ".toList <+: entryText "- id".toList (toDecimal id.toNat) :=
    htext ▸ List.prefix_append _ _
  have hdrop : (entryText "- id".toList (toDecimal id.toNat)).drop 2 =
      entryText "id".toList (toDecimal id.toNat) := rfl
  rw [readStep, readItem, isSkipped_entryLine hdash hvalue.1, if_neg Bool.false_ne_true,
    indentationOf_entryLine hdash, if_neg (by decide), if_pos hsection,
    trim_entryLine hdash hvalue.1, if_pos ⟨rfl, hprefix⟩, hdrop,
    parseKeyValue_entryText hkey hvalue]
  simp only [Option.bind_some, readChannelField, if_true,
    readInteger_toDecimal (by decide : 32 ≤ 64), Option.map_some, Item.apply, atChannel, hsection]
  rfl

/-- **One channel.** The lines of a channel add it at the back. -/
theorem runM_channelLines {channel : ChannelDefinition} (hname : IsPlain channel.name)
    (hsection : state.sectionName = "channels".toList) :
    Run.runM (readStep settings) state (channelLines channel) =
      some (atChannel state.profile state.profile.channels channel) := by
  have hread : readChannelField "name".toList channel.name = some (.name channel.name) ∧
      readChannelField "type".toList (channelTypeName channel.type) = some (.type channel.type) ∧
      readChannelField "default".toList (boolName channel.isDefault) =
        some (.isDefault channel.isDefault) := by
    unfold readChannelField
    refine ⟨?_, ?_, ?_⟩
    all_goals
      repeat rw [if_neg (mt String.toList_inj.1 (by decide))]
      rw [if_pos rfl]
    · rw [parseChannelType_channelTypeName, Option.map_some]
    · rw [parseBool_boolName, Option.map_some]
  obtain ⟨hname', htype, hdefault⟩ := hread
  rw [channelLines, Run.runM_cons, readStep_newChannel hsection, Option.bind_some, Run.runM_cons,
    readStep_channelField (isKey_of_mem _ (by simp [layoutKeys])) hname hname', Option.bind_some,
    Run.runM_cons,
    readStep_channelField (isKey_of_mem _ (by simp [layoutKeys])) (isPlain_channelTypeName _) htype,
    Option.bind_some, Run.runM_cons,
    readStep_channelField (isKey_of_mem _ (by simp [layoutKeys])) (isPlain_boolName _) hdefault]
  rfl

/-- The channels are read in their order. -/
theorem runM_channels {channels : List ChannelDefinition}
    (hnames : ∀ channel ∈ channels, IsPlain channel.name)
    (hsection : state.sectionName = "channels".toList) :
    ∃ state', Run.runM (readStep settings) state (channels.flatMap channelLines) = some state' ∧
      state'.profile =
        { state.profile with channels := state.profile.channels ++ channels } := by
  induction channels generalizing state with
  | nil => exact ⟨state, rfl, by rw [List.append_nil]⟩
  | cons channel channels ih =>
    rw [List.flatMap_cons, Run.runM_append_eq,
      runM_channelLines (hnames channel List.mem_cons_self) hsection]
    obtain ⟨state', hrun, hprofile⟩ := @ih (atChannel state.profile state.profile.channels channel)
      (fun c hc => hnames c (List.mem_cons_of_mem channel hc)) rfl
    refine ⟨state', hrun, hprofile.trans ?_⟩
    simp only [atChannel, List.append_assoc, List.singleton_append]

/-- The layout describes the profile, whatever the profile was before. -/
theorem runM_layout {profile : RuntimeProfile} (h : IsWritable profile)
    (hnone : state.profile.channels = []) :
    ∃ state', Run.runM (readStep settings) state (layout profile) = some state' ∧
      state'.profile = profile := by
  have hkey : IsKey "channels".toList := isKey_of_mem _ (by simp [layoutKeys])
  rw [layout, Run.runM_cons, readStep_mode, Option.bind_some, Run.runM_append_eq,
    runM_section (Or.inl rfl) (writes_runtime h), Option.bind_some, Run.runM_append_eq,
    runM_section (Or.inr rfl) (writes_connection h), Option.bind_some, Run.runM_cons,
    readStep_headerLine hkey, Option.bind_some]
  obtain ⟨state', hrun, hprofile⟩ := @runM_channels settings { state with
      profile := (connectionEntries profile).foldl (Entry.apply settings)
        ((runtimeEntries profile).foldl (Entry.apply settings)
          { state.profile with mode := profile.mode, logPath := settings.logPath profile.mode })
      sectionName := "channels".toList
      currentChannel := false } _ h.names rfl
  refine ⟨state', hrun, hprofile.trans ?_⟩
  simp [connectionEntries, runtimeEntries, Entry.apply, hnone]

/-- Blank lines and comments change nothing. -/
theorem runM_annotated {plain lines : List Text} (h : Annotated plain lines) :
    Run.runM (readStep settings) state lines = Run.runM (readStep settings) state plain := by
  induction h generalizing state with
  | nil => rfl
  | line line rest ih => simp only [Run.runM_cons, ih]
  | note skipped noBreak rest ih =>
    rw [Run.runM_cons, readStep_of_skipped skipped]
    exact ih

end Runs

/-! ## The text -/

section File

variable {profile : RuntimeProfile} {key value name : Text}

theorem noBreak_entryLine (hkey : IsKey key) (hvalue : IsPlain value) (indent : ℕ) :
    '\n' ∉ entryLine indent key value := by
  have hblank : '\n' ∉ List.replicate indent ' ' := fun h => by
    cases List.eq_of_mem_replicate h
  simp [entryLine, hblank, hkey.noBreak, hvalue.noBreak]

theorem noBreak_headerLine (hkey : IsKey key) : '\n' ∉ headerLine key := by
  simp [headerLine, hkey.noBreak]

theorem noBreak_sectionLines {fields : List (Text × Text)} {entries : List Entry}
    (hname : IsKey name) (h : List.Forall₂ (Writes name) fields entries) :
    ∀ line ∈ sectionLines name fields, '\n' ∉ line := by
  intro line hline
  rcases List.mem_cons.1 hline with rfl | hline
  · exact noBreak_headerLine hname
  obtain ⟨field, hfield, rfl⟩ := List.mem_map.1 hline
  obtain ⟨i, hi, rfl⟩ := List.mem_iff_getElem.1 hfield
  have hwrites := h.get hi (h.length_eq ▸ hi)
  exact noBreak_entryLine hwrites.1 hwrites.2.1 2

theorem noBreak_channelLines {channel : ChannelDefinition} (hname : IsPlain channel.name) :
    ∀ line ∈ channelLines channel, '\n' ∉ line := by
  simp only [channelLines, List.forall_mem_cons]
  exact ⟨noBreak_entryLine (isKey_of_mem _ (by simp [layoutKeys])) (isPlain_toDecimal _) 2,
    noBreak_entryLine (isKey_of_mem _ (by simp [layoutKeys])) hname 4,
    noBreak_entryLine (isKey_of_mem _ (by simp [layoutKeys])) (isPlain_channelTypeName _) 4,
    noBreak_entryLine (isKey_of_mem _ (by simp [layoutKeys])) (isPlain_boolName _) 4,
    List.forall_mem_nil _⟩

theorem noBreak_layout (h : IsWritable profile) : ∀ line ∈ layout profile, '\n' ∉ line := by
  rw [layout, List.forall_mem_cons, List.forall_mem_append, List.forall_mem_append,
    List.forall_mem_cons]
  refine ⟨noBreak_entryLine (isKey_of_mem _ (by simp [layoutKeys])) (isPlain_runtimeModeName _) 0,
    noBreak_sectionLines (isKey_of_mem _ (by simp [layoutKeys])) (writes_runtime h),
    noBreak_sectionLines (isKey_of_mem _ (by simp [layoutKeys])) (writes_connection h),
    noBreak_headerLine (isKey_of_mem _ (by simp [layoutKeys])), fun line hline => ?_⟩
  obtain ⟨channel, hchannel, hline⟩ := List.mem_flatMap.1 hline
  exact noBreak_channelLines (h.names channel hchannel) line hline

theorem noBreak_annotated {plain lines : List Text} (h : Annotated plain lines)
    (hplain : ∀ line ∈ plain, '\n' ∉ line) : ∀ line ∈ lines, '\n' ∉ line := by
  induction h with
  | nil => exact hplain
  | line line rest ih =>
    rw [List.forall_mem_cons] at hplain ⊢
    exact ⟨hplain.1, ih hplain.2⟩
  | note skipped noBreak rest ih =>
    rw [List.forall_mem_cons]
    exact ⟨noBreak, ih hplain⟩

/-- The text is read as the lines it is written from, with or without a line break at its end. -/
theorem runM_read {settings : Settings} {state : YamlState} {lines : List Text} {text : Text}
    (hlines : ∀ line ∈ lines, '\n' ∉ line)
    (htext : text = Lines.write '\n' lines ∨ text ++ ['\n'] = Lines.write '\n' lines) :
    Run.runM (readStep settings) state (Lines.read '\n' text) =
      Run.runM (readStep settings) state lines := by
  rcases htext with rfl | htext
  · rw [Lines.read_write hlines]
  rcases Lines.read_of_append_sep hlines htext with hread | hread
  · rw [hread]
  · -- An empty line at the end is lost, and would be skipped.
    rw [← hread, Run.runM_append_eq]
    cases Run.runM (readStep settings) state (Lines.read '\n' text) with
    | none => rfl
    | some state =>
      have hskip : isSkipped [] = true := rfl
      simp only [Option.bind_some, Run.runM_cons, Run.runM_nil, readStep_of_skipped hskip]

theorem finishProfile_of_isWritable (h : IsWritable profile) :
    finishProfile none profile = .ok profile := by
  obtain ⟨channel, hmem, hdefault⟩ := h.hasDefault
  have hany : profile.channels.any (·.isDefault) = true :=
    List.any_eq_true.2 ⟨channel, hmem, hdefault⟩
  have hclient := h.client
  have hserver := h.server
  rw [finishProfile]
  obtain ⟨mode, _, _, remoteAddress, remotePort, _, _, _, _, _, channels⟩ := profile
  cases channels with
  | nil => cases hmem
  | cons first rest =>
    simp only at hany hclient hserver ⊢
    rw [if_pos hany]
    cases mode with
    | server =>
      obtain ⟨rfl, rfl⟩ := hserver rfl
      rfl
    | client =>
      rw [if_neg (by decide), if_neg (not_or.2 (hclient rfl))]

end File

/-- **Round trip.** A profile that is written in the layout of the configuration files, with blank
lines and comments anywhere, is loaded as it was, whatever the settings are. -/
theorem profile_round_trip (settings : Settings) (path : Text) (caller : RuntimeProfile)
    (message : Message) {profile : RuntimeProfile} (h : IsWritable profile) {lines : List Text}
    (hlines : Annotated (layout profile) lines) {text : Text}
    (htext : text = Lines.write '\n' lines ∨ text ++ ['\n'] = Lines.write '\n' lines) :
    loadRuntimeProfileFromYaml settings path (some text) caller message =
      (true, profile, message) := by
  refine load_of_some path caller ?_
  obtain ⟨state, hrun, hprofile⟩ := @runM_layout settings
    { profile := { defaultRuntimeProfile settings with channels := [] } } profile h rfl
  rw [readProfile, runM_significant,
    runM_read (noBreak_annotated hlines (noBreak_layout h)) htext, runM_annotated hlines, hrun,
    Option.bind_some, hprofile, finishProfile_of_isWritable h]
  rfl

/-- A client profile with a comment and a blank line, an address with colons and a hash, and a
channel without a name. -/
theorem written_profile_loaded :
    loadRuntimeProfileFromYaml {} [] (some ("# a client\nmode: client\n\nruntime:\n".toList ++
      "  log_path: a.log\n  socket_buffer_size: 1500\n  loop_sleep_us: 0\n".toList ++
      "  select_timeout_us: 4294967295\n  poll_budget: 8\nconnection:\n".toList ++
      "  bind_address: 0.0.0.0\n  bind_port: 0\n  remote_address: fe80::1 #2\n".toList ++
      "  remote_port: 65535\nchannels:\n  - id: 3\n    name: \n".toList ++
      "    type: reliable_ordered\n    default: true".toList)) {} none =
      (true, { mode := .client, bindAddress := "0.0.0.0".toList, bindPort := 0,
               remoteAddress := "fe80::1 #2".toList, remotePort := 65535, logPath := "a.log".toList,
               socketBufferSize := 1500, loopSleepUs := 0, selectTimeoutUs := 4294967295,
               pollBudget := 8,
               channels := [{ id := 3, type := .reliableOrdered, isDefault := true }] }, none) := by
  have hcomment : isSkipped "# a client".toList = true := by decide +kernel
  have hblank : isSkipped [] = true := rfl
  exact profile_round_trip {} [] {} none
    ⟨by decide +kernel, by decide +kernel, by decide +kernel, by decide +kernel,
      ⟨_, List.mem_cons_self, rfl⟩, by decide +kernel, by decide +kernel⟩
    (.note hcomment (by decide +kernel) (.line _ (.note hblank (by decide) (.refl _))))
    (Or.inr (by decide +kernel))

end Config

end Rudp
