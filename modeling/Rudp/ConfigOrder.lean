import Rudp.ConfigEntries
import Rudp.Lib.Sweep

/-!
# The order of the sections

A profile file is a mode line and three sections, each of them at most once. The entries write
different fields, so it should not matter in which order the blocks stand. There is one exception: a
mode line also writes the log path of its mode, over the one that the runtime section may have set
before. The other defaults are supplied after the last line, where no order can be seen.
`section_order_iff` says exactly when two orders of the same blocks are loaded alike.
-/

namespace Rudp

namespace Config

open Utils

/-! ## Blocks -/

inductive Block where
  | mode
  | runtime
  | connection
  | channels
  deriving DecidableEq

def Block.all : List Block := [.mode, .runtime, .connection, .channels]

theorem Block.nodup_all : all.Nodup := by decide

theorem Block.mem_all (block : Block) : block ∈ all := by
  cases block <;> decide

/-- `mode: value` -/
def IsModeLine (line : Text) : Prop :=
  indentationOf line = 0 ∧ ∃ value, parseKeyValue (trim line) = some ("mode".toList, value)

/-- A header, and lines that are indented. -/
def IsSection (name : Text) (lines : List Text) : Prop :=
  ∃ header body, lines = header :: body ∧ indentationOf header = 0 ∧ trim header = name ++ [':'] ∧
    ∀ line ∈ body, indentationOf line ≠ 0

/-- The lines are a block of this kind, which may be absent. -/
def IsBlock (block : Block) (lines : List Text) : Prop :=
  lines = [] ∨ match block with
    | .mode => ∃ line, lines = [line] ∧ IsModeLine line
    | .runtime => IsSection "runtime".toList lines
    | .connection => IsSection "connection".toList lines
    | .channels => IsSection "channels".toList lines

/-- The blocks of a profile file. -/
structure Blocks where
  lines : Block → List Text
  isBlock : ∀ block, IsBlock block (lines block)
  significant : ∀ block, ∀ line ∈ lines block, isSkipped line = false

/-! ## Items of a block -/

/-- The section in which a line stands, and whether a channel is open. -/
abbrev Position := Text × Bool

def Item.next (position : Position) : Item → Position
  | .skip | .channelField _ | .field _ => position
  | .header name => (name, false)
  | .rootEntry _ => (position.1, false)
  | .newChannel _ => (position.1, true)

def readLines : Position → List Text → Option (List Item)
  | _, [] => some []
  | position, line :: rest =>
    (readItem position.1 position.2 line).bind fun item =>
      (readLines (item.next position) rest).map (item :: ·)

/-- What a block says. -/
def readBlock (lines : List Text) : Option (List Item) := readLines ([], false) lines

def items (lines : List Text) : List Item := (readBlock lines).getD []

/-- What an item does to the profile. -/
def Item.effect (settings : Settings) (profile : RuntimeProfile) : Item → RuntimeProfile
  | .skip | .header _ => profile
  | .rootEntry entry | .field entry => entry.apply settings profile
  | .newChannel entry => { profile with channels := profile.channels ++ [entry.apply {}] }
  | .channelField entry =>
    { profile with
      channels := profile.channels.dropLast ++ [entry.apply (profile.channels.getLastD {})] }

def applyBlock (settings : Settings) (blocks : Blocks) (profile : RuntimeProfile)
    (block : Block) : RuntimeProfile :=
  (items (blocks.lines block)).foldl (Item.effect settings) profile

section Runs

variable {settings : Settings} {state : YamlState} {lines : List Text} {line name : Text}

theorem runM_eq_readLines : Run.runM (readStep settings) state lines =
    (readLines (state.sectionName, state.currentChannel) lines).map fun items =>
      items.foldl (Item.apply settings) state := by
  induction lines generalizing state with
  | nil => rfl
  | cons line rest ih =>
    rw [Run.runM_cons, readStep, readLines]
    cases readItem state.sectionName state.currentChannel line with
    | none => rfl
    | some item =>
      have hnext : ((item.apply settings state).sectionName,
          (item.apply settings state).currentChannel) =
          item.next (state.sectionName, state.currentChannel) := by
        cases item <;> rfl
      simp only [Option.map_some, Option.bind_some, ih, hnext, Option.map_map]
      rfl

theorem profile_foldl (items : List Item) : (items.foldl (Item.apply settings) state).profile =
    items.foldl (Item.effect settings) state.profile := by
  refine (List.foldl_hom YamlState.profile fun state item => ?_).symm
  cases item <;> rfl

theorem readItem_header (hskip : isSkipped line = false) (hindent : indentationOf line = 0)
    (hname : trim line = name ++ [':']) (position : Position) :
    readItem position.1 position.2 line = some (.header name) := by
  rw [readItem, hskip, if_neg Bool.false_ne_true, if_pos hindent, hname, List.getLast?_concat,
    if_pos rfl, List.dropLast_concat]

/-- A block is read in the same way wherever it stands. -/
theorem readLines_block {block : Block} (h : IsBlock block lines)
    (hskip : ∀ line ∈ lines, isSkipped line = false) (position : Position) :
    readLines position lines = readBlock lines := by
  rcases h with rfl | h
  · rfl
  have hsection : ∀ name, IsSection name lines → readLines position lines = readBlock lines := by
    rintro name ⟨header, body, rfl, hindent, hname, -⟩
    have hheader := readItem_header (hskip _ List.mem_cons_self) hindent hname
    rw [readBlock, readLines, readLines, hheader position, hheader ([], false)]
    rfl
  cases block with
  | mode =>
    obtain ⟨line, rfl, hindent, -⟩ := h
    have hline := hskip line List.mem_cons_self
    simp only [readBlock, readLines, readItem, hline, if_pos hindent, Bool.false_eq_true, if_false]
  | runtime | connection | channels => exact hsection _ h

end Runs

/-! ## What a block writes -/

/-- The block whose fields the entry writes. -/
def Entry.block : Entry → Option Block
  | .mode _ => some .mode
  | .logPath _ | .socketBufferSize _ | .loopSleepUs _ | .selectTimeoutUs _ | .pollBudget _ =>
    some .runtime
  | .bindAddress _ | .bindPort _ | .remoteAddress _ | .remotePort _ => some .connection
  | .nothing => none

def Item.entry : Item → Entry
  | .rootEntry entry | .field entry => entry
  | .skip | .header _ | .newChannel _ | .channelField _ => .nothing

def Item.block : Item → Option Block
  | .newChannel _ | .channelField _ => some .channels
  | item => item.entry.block

/-- The entry writes nothing, or fields of the block. -/
def Within (block : Block) (entry : Option Entry) : Prop :=
  ∀ e ∈ entry, e.block = none ∨ e.block = some block

section Within

variable {block : Block} {lines : List Text} {key value name : Text}

theorem Within.ite {c : Prop} [Decidable c] {entry entry' : Option Entry}
    (h : Within block entry) (h' : Within block entry') :
    Within block (if c then entry else entry') := by
  split <;> assumption

theorem Within.map {α : Type} {o : Option α} {f : α → Entry}
    (h : ∀ a, (f a).block = some block) : Within block (o.map f) := by
  intro e he
  obtain ⟨a, -, rfl⟩ := Option.map_eq_some_iff.1 he
  exact Or.inr (h a)

theorem Within.some {entry : Entry} (h : entry.block = none ∨ entry.block = some block) :
    Within block (some entry) := by
  intro e he
  rwa [← Option.some.inj he]

theorem within_mode : Within .mode (readField [] "mode".toList value) := by
  rw [readField, if_pos rfl, if_pos rfl]
  exact .map fun _ => rfl

theorem within_runtime : Within .runtime (readField "runtime".toList key value) := by
  unfold readField
  rw [if_neg (mt String.toList_eq_nil_iff.1 (by decide)), if_pos rfl]
  exact .ite (.some (Or.inr rfl)) <| .ite (.map fun _ => rfl) <| .ite (.map fun _ => rfl) <|
    .ite (.map fun _ => rfl) <| .ite (.map fun _ => rfl) (.some (Or.inl rfl))

theorem within_connection : Within .connection (readField "connection".toList key value) := by
  unfold readField
  rw [if_neg (mt String.toList_eq_nil_iff.1 (by decide)),
    if_neg (mt String.toList_inj.1 (by decide)), if_pos rfl]
  exact .ite (.some (Or.inr rfl)) <| .ite (.map fun _ => rfl) <| .ite (.some (Or.inr rfl)) <|
    .ite (.map fun _ => rfl) (.some (Or.inl rfl))

/-- The item writes nothing, or fields of the block. -/
def Item.In (block : Block) (item : Item) : Prop := item.block = none ∨ item.block = some block

theorem readItem_field {position : Position} {line : Text} {item : Item}
    (hname : position.1 = "runtime".toList ∨ position.1 = "connection".toList)
    (hwithin : ∀ key value, Within block (readField position.1 key value))
    (hskip : isSkipped line = false) (hindent : indentationOf line ≠ 0)
    (h : readItem position.1 position.2 line = some item) :
    (item.next position).1 = position.1 ∧ item.In block := by
  have hchannels : position.1 ≠ "channels".toList := by
    rcases hname with hname | hname <;> rw [hname] <;> exact mt String.toList_inj.1 (by decide)
  rw [readItem, hskip, if_neg Bool.false_ne_true, if_neg hindent, if_neg hchannels] at h
  by_cases hfield : indentationOf line = 2 ∧
      (position.1 = "runtime".toList ∨ position.1 = "connection".toList)
  · rw [if_pos hfield] at h
    obtain ⟨⟨key, value⟩, -, hentry⟩ := Option.bind_eq_some_iff.1 h
    obtain ⟨entry, hread, rfl⟩ := Option.map_eq_some_iff.1 hentry
    exact ⟨rfl, hwithin key value entry hread⟩
  · rw [if_neg hfield] at h
    cases h

theorem readItem_channel {position : Position} {line : Text} {item : Item}
    (hname : position.1 = "channels".toList) (hskip : isSkipped line = false)
    (hindent : indentationOf line ≠ 0) (h : readItem position.1 position.2 line = some item) :
    (item.next position).1 = position.1 ∧ item.In .channels := by
  rw [readItem, hskip, if_neg Bool.false_ne_true, if_neg hindent, if_pos hname] at h
  by_cases hnew : indentationOf line = 2 ∧ "- ".toList <+: trim line
  · rw [if_pos hnew] at h
    obtain ⟨⟨key, value⟩, -, hentry⟩ := Option.bind_eq_some_iff.1 h
    obtain ⟨entry, -, rfl⟩ := Option.map_eq_some_iff.1 hentry
    exact ⟨rfl, Or.inr rfl⟩
  · rw [if_neg hnew] at h
    by_cases hopen : indentationOf line = 4 ∧ position.2 = true
    · rw [if_pos hopen] at h
      obtain ⟨⟨key, value⟩, -, hentry⟩ := Option.bind_eq_some_iff.1 h
      obtain ⟨entry, -, rfl⟩ := Option.map_eq_some_iff.1 hentry
      exact ⟨rfl, Or.inr rfl⟩
    · rw [if_neg hopen] at h
      cases h

/-- The lines of a section stay in it. -/
theorem readLines_body {body : List Text} {result : List Item} {position : Position}
    (hline : ∀ position : Position, ∀ line item, position.1 = name → isSkipped line = false →
      indentationOf line ≠ 0 → readItem position.1 position.2 line = some item →
      (item.next position).1 = position.1 ∧ item.In block)
    (hbody : ∀ line ∈ body, isSkipped line = false ∧ indentationOf line ≠ 0)
    (hname : position.1 = name) (h : readLines position body = some result) :
    ∀ item ∈ result, item.In block := by
  induction body generalizing position result with
  | nil =>
    obtain rfl := Option.some.inj h
    exact fun item hitem => nomatch hitem
  | cons line rest ih =>
    rw [readLines] at h
    obtain ⟨item, hitem, hrest⟩ := Option.bind_eq_some_iff.1 h
    obtain ⟨result, hresult, rfl⟩ := Option.map_eq_some_iff.1 hrest
    obtain ⟨hskip, hindent⟩ := hbody line List.mem_cons_self
    obtain ⟨hnext, hin⟩ := hline position line item hname hskip hindent hitem
    refine List.forall_mem_cons.2 ⟨hin, ?_⟩
    exact ih (fun l hl => hbody l (List.mem_cons_of_mem line hl)) (hnext.trans hname) hresult

/-- **Blocks.** The items of a block write its fields only. -/
theorem items_in (h : IsBlock block lines) (hskip : ∀ line ∈ lines, isSkipped line = false) :
    ∀ item ∈ items lines, item.In block := by
  rcases h with rfl | h
  · exact fun item hitem => nomatch hitem
  have hsection : ∀ name, IsSection name lines →
      (∀ position : Position, ∀ line item, position.1 = name → isSkipped line = false →
        indentationOf line ≠ 0 → readItem position.1 position.2 line = some item →
        (item.next position).1 = position.1 ∧ item.In block) →
      ∀ item ∈ items lines, item.In block := by
    rintro name ⟨header, body, rfl, hindent, hname, hbody⟩ hline
    have hheader := readItem_header (hskip _ List.mem_cons_self) hindent hname ([], false)
    rw [items, readBlock, readLines, hheader, Option.bind_some]
    cases hread : readLines ((Item.header name).next ([], false)) body with
    | none => exact fun item hitem => nomatch hitem
    | some result =>
      have hlines : ∀ line ∈ body, isSkipped line = false ∧ indentationOf line ≠ 0 :=
        fun line hmem => ⟨hskip line (List.mem_cons_of_mem header hmem), hbody line hmem⟩
      exact List.forall_mem_cons.2 ⟨Or.inl rfl, readLines_body hline hlines rfl hread⟩
  cases block with
  | mode =>
    obtain ⟨line, rfl, hindent, value, hvalue⟩ := h
    have hline := hskip line List.mem_cons_self
    rw [items, readBlock, readLines]
    cases hread : readItem [] false line with
    | none => exact fun item hitem => nomatch hitem
    | some item =>
      refine List.forall_mem_cons.2 ⟨?_, fun item hitem => nomatch hitem⟩
      rw [readItem, hline, if_neg Bool.false_ne_true, if_pos hindent] at hread
      by_cases hcolon : (trim line).getLast? = some ':'
      · rw [if_pos hcolon] at hread
        obtain rfl := Option.some.inj hread
        exact Or.inl rfl
      · rw [if_neg hcolon, hvalue, Option.bind_some] at hread
        obtain ⟨entry, hentry, rfl⟩ := Option.map_eq_some_iff.1 hread
        exact within_mode entry hentry
  | runtime =>
    refine hsection _ h ?_
    intro position line item hname
    exact readItem_field (Or.inl hname) fun key value => hname ▸ within_runtime
  | connection =>
    refine hsection _ h ?_
    intro position line item hname
    exact readItem_field (Or.inr hname) fun key value => hname ▸ within_connection
  | channels => exact hsection _ h fun position line item hname => readItem_channel hname

end Within

/-! ## What no order changes -/

/-- The fields that a block writes, the log path apart. -/
def Block.view (profile : RuntimeProfile) : Block → RuntimeProfile
  | .mode => { mode := profile.mode }
  | .runtime =>
    { socketBufferSize := profile.socketBufferSize, loopSleepUs := profile.loopSleepUs
      selectTimeoutUs := profile.selectTimeoutUs, pollBudget := profile.pollBudget }
  | .connection =>
    { bindAddress := profile.bindAddress, bindPort := profile.bindPort
      remoteAddress := profile.remoteAddress, remotePort := profile.remotePort }
  | .channels => { channels := profile.channels }

section Views

variable {settings : Settings} {blocks : Blocks} {profile profile' : RuntimeProfile}
  {block : Block} {order : List Block}

/-- A profile is what its blocks show of it, and the log path. -/
theorem eq_of_view (h : ∀ block, Block.view profile block = Block.view profile' block)
    (hpath : profile.logPath = profile'.logPath) : profile = profile' := by
  have hmode := h .mode
  have hruntime := h .runtime
  have hconnection := h .connection
  have hchannels := h .channels
  cases profile
  cases profile'
  simp only [Block.view, RuntimeProfile.mk.injEq] at hmode hruntime hconnection hchannels hpath ⊢
  tauto

theorem view_view (profile : RuntimeProfile) (block : Block) :
    Block.view (Block.view profile block) block = Block.view profile block := by
  cases block <;> rfl

theorem view_apply_congr (h : Block.view profile block = Block.view profile' block)
    (entry : Entry) : Block.view (entry.apply settings profile) block =
      Block.view (entry.apply settings profile') block := by
  cases block <;> simp only [Block.view, RuntimeProfile.mk.injEq] at h <;> cases entry <;>
    simp [Entry.apply, Block.view, h]

/-- What a block shows after an item depends on nothing but what it showed before. -/
theorem view_effect_congr (h : Block.view profile block = Block.view profile' block)
    (item : Item) : Block.view (item.effect settings profile) block =
      Block.view (item.effect settings profile') block := by
  cases item with
  | skip | header name => exact h
  | rootEntry entry | field entry => exact view_apply_congr h entry
  | newChannel entry | channelField entry =>
    cases block with
    | channels =>
      have hview := congrArg RuntimeProfile.channels h
      have hchannels : profile.channels = profile'.channels := hview
      simp only [Item.effect, Block.view, hchannels]
    | mode | runtime | connection => exact h

theorem view_effect_of_ne {item : Item} (h : item.block ≠ some block) :
    Block.view (item.effect settings profile) block = Block.view profile block := by
  cases item with
  | rootEntry entry | field entry =>
    cases entry <;> cases block <;> first | rfl | exact absurd rfl h
  | newChannel entry | channelField entry => cases block <;> first | rfl | exact absurd rfl h
  | _ => rfl

theorem view_foldl_congr (h : Block.view profile block = Block.view profile' block)
    (items : List Item) : Block.view (items.foldl (Item.effect settings) profile) block =
      Block.view (items.foldl (Item.effect settings) profile') block := by
  induction items generalizing profile profile' with
  | nil => exact h
  | cons item rest ih => exact ih (view_effect_congr h item)

theorem view_foldl_of_ne {items : List Item} (h : ∀ item ∈ items, item.block ≠ some block) :
    Block.view (items.foldl (Item.effect settings) profile) block =
      Block.view profile block := by
  induction items generalizing profile with
  | nil => rfl
  | cons item rest ih =>
    rw [List.forall_mem_cons] at h
    rw [List.foldl_cons, ih h.2, view_effect_of_ne h.1]

/-- The blocks of a file are the visits of a loop, each of which rewrites what its block shows. -/
theorem local_applyBlock (settings : Settings) (blocks : Blocks) :
    Sweep.Local (fun _ => True) (fun profile block => some (Block.view profile block))
      (fun block view => Block.view (applyBlock settings blocks view block) block)
      (applyBlock settings blocks) where
  inv := fun _ => trivial
  here := by
    intro profile block _
    exact congrArg some (view_foldl_congr (view_view profile block).symm _)
  elsewhere := by
    intro profile block block' _ hne
    refine congrArg some (view_foldl_of_ne ?_)
    intro item hitem hblock
    rcases items_in (blocks.isBlock block) (blocks.significant block) item hitem with hin | hin
    · rw [hin] at hblock
      cases hblock
    · rw [hin] at hblock
      exact hne (Option.some.inj hblock).symm

/-- **Views.** What a block shows at the end is what it writes over what it showed before, in
whatever order the blocks stand. -/
theorem view_order (hperm : order.Perm Block.all) (block : Block) :
    Block.view (order.foldl (applyBlock settings blocks) profile) block =
      Block.view (applyBlock settings blocks (Block.view profile block) block) block := by
  have hnodup : order.Nodup := hperm.nodup_iff.2 Block.nodup_all
  have hmem : block ∈ order := hperm.mem_iff.2 block.mem_all
  exact Option.some.inj ((local_applyBlock settings blocks).get_foldl trivial hnodup hmem)

end Views

/-! ## Last writes -/

/-- The last line of a block that sets something. -/
def lastSet {α : Type} (sets : Entry → Option α) (lines : List Text) : Option α :=
  ((items lines).filterMap fun item => sets item.entry).getLast?

def setsMode : Entry → Option RuntimeMode
  | .mode mode => some mode
  | _ => none

def setsLogPath : Entry → Option Text
  | .logPath path => some path
  | _ => none

def setsRemoteAddress : Entry → Option Text
  | .remoteAddress address => some address
  | _ => none

def setsRemotePort : Entry → Option U16
  | .remotePort port => some port
  | _ => none

/-- A mode sets the log path too. -/
def writesLogPath (settings : Settings) : Entry → Option Text
  | .mode mode => some (settings.logPath mode)
  | .logPath path => some path
  | _ => none

section LastWrites

variable {α : Type} {settings : Settings} {blocks : Blocks} {profile : RuntimeProfile}
  {order : List Block}

/-- A field at the end is the last that a line has written there. -/
theorem get_order {get : RuntimeProfile → α} {sets : Entry → Option α}
    (h : ∀ profile entry, get (Entry.apply settings profile entry) =
      (sets entry).getD (get profile))
    (hchannels : ∀ profile channels, get { profile with channels } = get profile) :
    get (order.foldl (applyBlock settings blocks) profile) =
      (order.flatMap fun block => (items (blocks.lines block)).filterMap fun item =>
        sets item.entry).getLast?.getD (get profile) := by
  have hitem : ∀ profile item, get (Item.effect settings profile item) =
      (sets item.entry).getD (get profile) := by
    intro profile item
    cases item with
    | rootEntry entry | field entry => exact h profile entry
    | newChannel entry | channelField entry => exact (hchannels _ _).trans (h profile .nothing)
    | skip | header name => exact h profile .nothing
  have hrun := Run.get_run hitem profile (order.flatMap fun block => items (blocks.lines block))
  rw [List.filterMap_flatMap, Run.run, List.foldl_flatMap] at hrun
  exact hrun

theorem entry_in (block : Block) : ∀ item ∈ items (blocks.lines block),
    item.entry.block = none ∨ item.entry.block = some block := by
  intro item hitem
  have hin := items_in (blocks.isBlock block) (blocks.significant block) item hitem
  cases item with
  | newChannel entry | channelField entry => exact Or.inl rfl
  | _ => exact hin

/-- Items of other blocks set nothing that only entries of one block set. -/
theorem filterMap_eq_nil {block block' : Block} {sets : Entry → Option α}
    (hsets : ∀ entry : Entry, sets entry = none ∨ entry.block = some block) (hne : block' ≠ block) :
    (items (blocks.lines block')).filterMap (fun item => sets item.entry) = [] := by
  rw [List.filterMap_eq_nil_iff]
  intro item hitem
  refine (hsets item.entry).resolve_right fun hblock => ?_
  rcases entry_in block' item hitem with hin | hin
  · rw [hin] at hblock
    cases hblock
  · rw [hin] at hblock
    exact hne (Option.some.inj hblock)

/-- A field that only one block writes. -/
theorem get_order_of_block {block : Block} {get : RuntimeProfile → α} {sets : Entry → Option α}
    (h : ∀ profile entry, get (Entry.apply settings profile entry) =
      (sets entry).getD (get profile))
    (hchannels : ∀ profile channels, get { profile with channels } = get profile)
    (hsets : ∀ entry : Entry, sets entry = none ∨ entry.block = some block)
    (hperm : order.Perm Block.all) :
    get (order.foldl (applyBlock settings blocks) profile) =
      (lastSet sets (blocks.lines block)).getD (get profile) := by
  rw [get_order h hchannels, Sweep.flatMap_eq_single (hperm.nodup_iff.2 Block.nodup_all)
    (hperm.mem_iff.2 block.mem_all) fun block' _ hne => filterMap_eq_nil hsets hne]
  rfl

/-- The mode line stands before the runtime section. -/
def ModeFirst (order : List Block) : Prop := order.idxOf .mode < order.idxOf .runtime

instance (order : List Block) : Decidable (ModeFirst order) :=
  inferInstanceAs (Decidable (_ < _))

/-- Two of the blocks write the log path. -/
theorem flatMap_writers {emit : Block → List α} (hconnection : emit .connection = [])
    (hchannels : emit .channels = []) (hperm : order.Perm Block.all) :
    order.flatMap emit = if ModeFirst order then emit .mode ++ emit .runtime
      else emit .runtime ++ emit .mode := by
  have hwriters : ∀ order ∈ Block.all.permutations',
      order.filter (fun block => block = .mode ∨ block = .runtime) =
        if ModeFirst order then [.mode, .runtime] else [.runtime, .mode] := by decide
  have hothers : order.flatMap emit =
      (order.filter fun block => block = .mode ∨ block = .runtime).flatMap emit := by
    clear hperm
    induction order with
    | nil => rfl
    | cons block order ih =>
      cases block <;> simp [ih, hconnection, hchannels]
  rw [hothers, hwriters order (List.mem_permutations'.2 hperm)]
  split_ifs <;> simp

/-- **The log path** at the end: of the mode line and the runtime section, the one that stands last
has the last word. -/
theorem logPath_order (hperm : order.Perm Block.all) :
    (order.foldl (applyBlock settings blocks) profile).logPath =
      (let byMode := (lastSet setsMode (blocks.lines .mode)).map settings.logPath
      let explicit := lastSet setsLogPath (blocks.lines .runtime)
      if ModeFirst order then explicit.or byMode else byMode.or explicit).getD
        profile.logPath := by
  have hget : ∀ profile entry, (Entry.apply settings profile entry).logPath =
      (writesLogPath settings entry).getD profile.logPath := by
    intro profile entry
    cases entry <;> rfl
  have hmode : (items (blocks.lines .mode)).filterMap
      (fun item => writesLogPath settings item.entry) =
        ((items (blocks.lines .mode)).filterMap fun item => setsMode item.entry).map
          settings.logPath := by
    rw [List.map_filterMap]
    refine List.filterMap_congr ?_
    intro item hitem
    have hin := entry_in .mode item hitem
    revert hin
    cases item.entry <;> simp [Entry.block, writesLogPath, setsMode]
  have hruntime : (items (blocks.lines .runtime)).filterMap
      (fun item => writesLogPath settings item.entry) =
      (items (blocks.lines .runtime)).filterMap fun item => setsLogPath item.entry := by
    refine List.filterMap_congr ?_
    intro item hitem
    have hin := entry_in .runtime item hitem
    revert hin
    cases item.entry <;> simp [Entry.block, writesLogPath, setsLogPath]
  have hnone : ∀ block, block ≠ .mode → block ≠ .runtime →
      (items (blocks.lines block)).filterMap (fun item => writesLogPath settings item.entry) =
        [] := by
    intro block hnotMode hnotRuntime
    rw [List.filterMap_eq_nil_iff]
    intro item hitem
    have hin := entry_in block item hitem
    revert hin
    cases item.entry <;> simp [Entry.block, writesLogPath, hnotMode.symm, hnotRuntime.symm]
  rw [get_order hget fun _ _ => rfl, flatMap_writers (hnone .connection (by decide) (by decide))
    (hnone .channels (by decide) (by decide)) hperm, hmode, hruntime]
  simp only [lastSet]
  split_ifs <;> simp [List.getLast?_append]

end LastWrites

/-! ## Loading the blocks -/

/-- The profile after the last line. -/
def afterBlocks (settings : Settings) (defaults : RuntimeProfile) (blocks : Blocks)
    (order : List Block) : RuntimeProfile :=
  order.foldl (applyBlock settings blocks) { defaults with channels := [] }

/-- A client that has nobody to connect to. -/
def LacksPeer (mode : RuntimeMode) (remoteAddress : Text) (remotePort : U16) : Prop :=
  mode = .client ∧ (remoteAddress = [] ∨ remotePort = 0)

/-- No order of the blocks is a profile: a line cannot be read, or a client has no peer. -/
def Refused (defaults : RuntimeProfile) (blocks : Blocks) : Prop :=
  (∃ block, readBlock (blocks.lines block) = none) ∨
    LacksPeer ((lastSet setsMode (blocks.lines .mode)).getD defaults.mode)
      ((lastSet setsRemoteAddress (blocks.lines .connection)).getD defaults.remoteAddress)
      ((lastSet setsRemotePort (blocks.lines .connection)).getD defaults.remotePort)

/-- The mode line and the runtime section do not write different log paths. -/
def SameLogPath (settings : Settings) (blocks : Blocks) : Prop :=
  ∀ mode ∈ lastSet setsMode (blocks.lines .mode),
    ∀ path ∈ lastSet setsLogPath (blocks.lines .runtime), path = settings.logPath mode

section Loading

variable {settings : Settings} {defaults profile : RuntimeProfile} {blocks : Blocks}
  {order : List Block} {state : YamlState}

theorem finishProfile_of_lacksPeer
    (h : LacksPeer profile.mode profile.remoteAddress profile.remotePort) :
    (finishProfile none profile).toOption = none := by
  obtain ⟨hclient, hpeer⟩ := h
  simp only [finishProfile]
  rw [if_neg (by rw [hclient]; decide), if_pos hpeer]
  rfl

/-- What is done after the last line leaves the log path alone. -/
theorem finishProfile_of_peer
    (h : ¬LacksPeer profile.mode profile.remoteAddress profile.remotePort) :
    ∃ loaded, finishProfile none profile = .ok loaded ∧ loaded.logPath = profile.logPath := by
  simp only [finishProfile]
  by_cases hserver : profile.mode = .server
  · rw [if_pos hserver]
    exact ⟨_, rfl, rfl⟩
  · have hclient : profile.mode = .client := by
      cases hmode : profile.mode with
      | server => exact absurd hmode hserver
      | client => rfl
    rw [if_neg hserver, if_neg fun hpeer => h ⟨hclient, hpeer⟩]
    exact ⟨_, rfl, rfl⟩

theorem runM_block (block : Block) : Run.runM (readStep settings) state (blocks.lines block) =
    (readBlock (blocks.lines block)).map fun items =>
      items.foldl (Item.apply settings) state := by
  rw [runM_eq_readLines, readLines_block (blocks.isBlock block) (blocks.significant block)]

/-- **The blocks** are applied one after the other. -/
theorem runM_order (h : ∀ block ∈ order, readBlock (blocks.lines block) ≠ none) :
    ∃ state', Run.runM (readStep settings) state (order.flatMap blocks.lines) = some state' ∧
      state'.profile = order.foldl (applyBlock settings blocks) state.profile := by
  induction order generalizing state with
  | nil => exact ⟨state, rfl, rfl⟩
  | cons block order ih =>
    rw [List.forall_mem_cons] at h
    obtain ⟨result, hresult⟩ := Option.ne_none_iff_exists'.1 h.1
    obtain ⟨state', hrun, hprofile⟩ := @ih (result.foldl (Item.apply settings) state) h.2
    rw [List.flatMap_cons, Run.runM_append_eq, runM_block, hresult]
    refine ⟨state', hrun, ?_⟩
    rw [hprofile, profile_foldl, List.foldl_cons, applyBlock, items, hresult]
    rfl

theorem runM_order_of_unread {block : Block} (hmem : block ∈ order)
    (h : readBlock (blocks.lines block) = none) :
    Run.runM (readStep settings) state (order.flatMap blocks.lines) = none := by
  induction order generalizing state with
  | nil => cases hmem
  | cons first order ih =>
    rw [List.flatMap_cons, Run.runM_append_eq, runM_block]
    rcases List.mem_cons.1 hmem with rfl | hmem
    · rw [h]
      rfl
    · cases readBlock (blocks.lines first) with
      | none => rfl
      | some result => exact ih hmem

/-- The peer of the profile is the same in every order. -/
theorem refused_iff (settings : Settings) (hperm : order.Perm Block.all) :
    Refused defaults blocks ↔ (∃ block, readBlock (blocks.lines block) = none) ∨
      LacksPeer (afterBlocks settings defaults blocks order).mode
        (afterBlocks settings defaults blocks order).remoteAddress
        (afterBlocks settings defaults blocks order).remotePort := by
  have hmode : (afterBlocks settings defaults blocks order).mode =
      (lastSet setsMode (blocks.lines .mode)).getD defaults.mode := by
    refine get_order_of_block (fun profile entry => ?_) (fun _ _ => rfl) (fun entry => ?_) hperm
    · cases entry <;> rfl
    · cases entry <;> simp [setsMode, Entry.block]
  have haddress : (afterBlocks settings defaults blocks order).remoteAddress =
      (lastSet setsRemoteAddress (blocks.lines .connection)).getD defaults.remoteAddress := by
    refine get_order_of_block (fun profile entry => ?_) (fun _ _ => rfl) (fun entry => ?_) hperm
    · cases entry <;> rfl
    · cases entry <;> simp [setsRemoteAddress, Entry.block]
  have hport : (afterBlocks settings defaults blocks order).remotePort =
      (lastSet setsRemotePort (blocks.lines .connection)).getD defaults.remotePort := by
    refine get_order_of_block (fun profile entry => ?_) (fun _ _ => rfl) (fun entry => ?_) hperm
    · cases entry <;> rfl
    · cases entry <;> simp [setsRemotePort, Entry.block]
  rw [Refused, hmode, haddress, hport]

theorem readProfile_of_refused (hperm : order.Perm Block.all) (h : Refused defaults blocks) :
    readProfile settings defaults (order.flatMap blocks.lines) = none := by
  rw [readProfile]
  by_cases hunread : ∃ block, readBlock (blocks.lines block) = none
  · obtain ⟨block, hblock⟩ := hunread
    rw [runM_order_of_unread (hperm.mem_iff.2 block.mem_all) hblock]
    rfl
  · have hpeer := ((refused_iff settings hperm).1 h).resolve_left hunread
    rw [not_exists] at hunread
    obtain ⟨state, hrun, hprofile⟩ := @runM_order settings blocks order
      { profile := { defaults with channels := [] } } fun block _ => hunread block
    rw [hrun, Option.bind_some, hprofile]
    exact finishProfile_of_lacksPeer hpeer

/-- A profile that is not refused is what the blocks make of the defaults, finished. -/
theorem readProfile_of_accepted (hperm : order.Perm Block.all) (h : ¬Refused defaults blocks) :
    ∃ loaded, readProfile settings defaults (order.flatMap blocks.lines) = some loaded ∧
      finishProfile none (afterBlocks settings defaults blocks order) = .ok loaded ∧
      loaded.logPath = (afterBlocks settings defaults blocks order).logPath := by
  rw [refused_iff settings hperm, not_or, not_exists] at h
  obtain ⟨loaded, hfinish, hpath⟩ := finishProfile_of_peer h.2
  obtain ⟨state, hrun, hprofile⟩ := @runM_order settings blocks order
    { profile := { defaults with channels := [] } } fun block _ => h.1 block
  refine ⟨loaded, ?_, hfinish, hpath⟩
  rw [readProfile, hrun, Option.bind_some, hprofile, ← afterBlocks, hfinish]
  rfl

/-- Which of two writers stands last can be seen if and only if both write, and not the same. -/
theorem lastWord_iff {modeFirst modeFirst' : Prop} [Decidable modeFirst] [Decidable modeFirst']
    {mode : Option RuntimeMode} {explicit : Option Text} {byMode : RuntimeMode → Text}
    {default : Text} :
    (if modeFirst then explicit.or (mode.map byMode) else (mode.map byMode).or explicit).getD
        default =
      (if modeFirst' then explicit.or (mode.map byMode) else (mode.map byMode).or explicit).getD
        default ↔
      (modeFirst ↔ modeFirst') ∨ ∀ m ∈ mode, ∀ path ∈ explicit, path = byMode m := by
  by_cases h : modeFirst <;> by_cases h' : modeFirst' <;> cases mode <;> cases explicit <;>
    simp [h, h', eq_comm]

end Loading

/-- **Exactly when the order does not matter.** Two texts with the same blocks in different orders
are loaded alike if and only if they are refused in every order, or the mode line stands on the same
side of the runtime section in both, or these two do not write different log paths. -/
theorem section_order_iff (settings : Settings) (defaults : RuntimeProfile) (message : Message)
    (blocks : Blocks) {order order' : List Block} (hperm : order.Perm Block.all)
    (hperm' : order'.Perm Block.all) {input input' : Text}
    (hinput : significant (Lines.read '\n' input) = order.flatMap blocks.lines)
    (hinput' : significant (Lines.read '\n' input') = order'.flatMap blocks.lines) :
    (applyProfileYaml settings defaults input message).toOption =
        (applyProfileYaml settings defaults input' message).toOption ↔
      Refused defaults blocks ∨ (ModeFirst order ↔ ModeFirst order') ∨
        SameLogPath settings blocks := by
  rw [applyProfileYaml_eq, applyProfileYaml_eq, hinput, hinput']
  by_cases hrefused : Refused defaults blocks
  · rw [readProfile_of_refused hperm hrefused, readProfile_of_refused hperm' hrefused]
    exact iff_of_true rfl (Or.inl hrefused)
  obtain ⟨loaded, hload, hfinish, hpath⟩ := @readProfile_of_accepted settings _ _ _ hperm hrefused
  obtain ⟨loaded', hload', hfinish', hpath'⟩ :=
    @readProfile_of_accepted settings _ _ _ hperm' hrefused
  rw [hload, hload', or_iff_right hrefused, Option.some_inj]
  -- The profiles differ in the log path, or not at all.
  have hsame : loaded = loaded' ↔ loaded.logPath = loaded'.logPath := by
    refine ⟨congrArg RuntimeProfile.logPath, ?_⟩
    intro h
    rw [hpath, hpath'] at h
    have hprofiles := eq_of_view (fun block =>
      (view_order hperm block).trans (view_order hperm' block).symm) h
    rw [afterBlocks, hprofiles, ← afterBlocks, hfinish'] at hfinish
    exact (Except.ok.inj hfinish).symm
  rw [hsame, hpath, hpath', afterBlocks, afterBlocks, logPath_order hperm, logPath_order hperm']
  exact lastWord_iff

/-- A server with a log file and a port of its own. -/
def serverBlocks : Blocks where
  lines
    | .mode => ["mode: server".toList]
    | .runtime => ["runtime:".toList, "  log_path: a.log".toList]
    | .connection => ["connection:".toList, "  bind_port: 9001".toList]
    | .channels => []
  isBlock
    | .mode => Or.inr ⟨_, rfl, by decide +kernel, "server".toList, by decide +kernel⟩
    | .runtime => Or.inr ⟨_, _, rfl, by decide +kernel, by decide +kernel, by decide +kernel⟩
    | .connection => Or.inr ⟨_, _, rfl, by decide +kernel, by decide +kernel, by decide +kernel⟩
    | .channels => Or.inl rfl
  significant := by
    intro block
    cases block <;> decide +kernel

/-- With the mode line first, the sections may change places. -/
theorem section_order_kept :
    let input :=
      "mode: server\nruntime:\n  log_path: a.log\nconnection:\n  bind_port: 9001".toList
    let input' :=
      "mode: server\nconnection:\n  bind_port: 9001\n\nruntime:\n  log_path: a.log".toList
    (applyProfileYaml {} (defaultRuntimeProfile {}) input none).toOption =
      (applyProfileYaml {} (defaultRuntimeProfile {}) input' none).toOption :=
  (@section_order_iff {} (defaultRuntimeProfile {}) none serverBlocks
    [.mode, .runtime, .connection, .channels] [.mode, .connection, .runtime, .channels]
    (by decide) (by decide) _ _ (by decide +kernel) (by decide +kernel)).2
    (Or.inr (Or.inl (by decide)))

/-- With the mode line last, the log file is forgotten. -/
theorem section_order_seen :
    let input :=
      "mode: server\nruntime:\n  log_path: a.log\nconnection:\n  bind_port: 9001".toList
    let input' :=
      "runtime:\n  log_path: a.log\nconnection:\n  bind_port: 9001\nmode: server".toList
    let load := fun input =>
      (applyProfileYaml {} (defaultRuntimeProfile {}) input none).toOption
    significant (Lines.read '\n' input) =
        [Block.mode, .runtime, .connection, .channels].flatMap serverBlocks.lines ∧
      significant (Lines.read '\n' input') =
        [Block.runtime, .connection, .mode, .channels].flatMap serverBlocks.lines ∧
      (load input).map (·.logPath) = some "a.log".toList ∧
      (load input').map (·.logPath) = some "logs/rudp_server.log".toList ∧
      load input ≠ load input' := by
  decide +kernel

end Config

end Rudp
