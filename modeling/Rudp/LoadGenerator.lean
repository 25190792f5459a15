import Rudp.Config
import Rudp.Lib.Run
import Rudp.Lib.Shuffle

/-!
# The load generator

`LoadGenerator` of `src/BsdClientApp.cpp`: worker threads that produce messages, and the loop of the
client, which starts and stops them and takes what they have produced.

The threads meet at a flag, a counter and a queue under a lock. Between two such accesses a worker
only touches what is its own, so a step of a worker is one access here, and a run is any order of
the steps. What the loop does takes the turns of the workers meanwhile as an argument. How long a
worker sleeps is part of the order.
-/

namespace Rudp

open Utils Config

structure QueuedSend where
  channelId : U32 := 0
  channelType : ChannelType := .unreliable
  payload : Text := []
  deriving DecidableEq, Repr

/-! ## Workers -/

/-- Where a worker's thread is: before the test of its loop, before it takes the lock, before it
counts itself out, and at its end. -/
inductive WorkerPoint where
  | looping | producing | leaving | finished
  deriving DecidableEq, Repr

/-- What the lambda of `spawn` captures, and where it is. -/
structure Worker where
  channelId : U32
  channelType : ChannelType
  messageCount : U32
  intervalMs : U32
  payload : Text
  workerIndex : U32
  produced : U32 := 0
  point : WorkerPoint := .looping
  deriving DecidableEq, Repr

namespace Worker

/-- The message with a number. -/
def message (w : Worker) (n : U32) : QueuedSend where
  channelId := w.channelId
  channelType := w.channelType
  payload := w.payload ++ " [t".toList ++ toDecimal w.workerIndex.toNat ++ " #".toList ++
    toDecimal n.toNat ++ "]".toList

/-- One step: where it leads, and what it adds to the queue. -/
def step (stopRequested : Bool) (w : Worker) : Worker × Option QueuedSend :=
  match w.point with
  | .looping =>
    if stopRequested ∨ w.messageCount ≠ 0 ∧ w.messageCount ≤ w.produced then
      ({ w with point := .leaving }, none)
    else ({ w with point := .producing }, none)
  | .producing =>
    ({ w with produced := w.produced + 1, point := .looping }, some (w.message w.produced))
  | .leaving => ({ w with point := .finished }, none)
  | .finished => (w, none)

end Worker

/-! ## The generator -/

structure LoadGenerator where
  stopRequested : Bool := false
  activeWorkerCount : U64 := 0
  queue : List QueuedSend := []
  workers : List Worker := []
  deriving DecidableEq, Repr

namespace LoadGenerator

/-- One step of one worker. -/
def work (g : LoadGenerator) (k : ℕ) : LoadGenerator :=
  match g.workers[k]? with
  | none => g
  | some w =>
    { g with
      activeWorkerCount :=
        if w.point = .leaving then g.activeWorkerCount - 1 else g.activeWorkerCount
      queue := g.queue ++ (w.step g.stopRequested).2.toList
      workers := g.workers.set k (w.step g.stopRequested).1 }

/-- The workers take their turns. -/
def takeTurns (turns : List ℕ) (g : LoadGenerator) : LoadGenerator := turns.foldl work g

def launch (worker : Worker) (g : LoadGenerator) : LoadGenerator :=
  { g with
    activeWorkerCount := g.activeWorkerCount + 1
    workers := g.workers ++ [worker] }

/-- Before the `i`-th thread is started, those that run already take the turns `turns i`. -/
def spawn (channel : ChannelDefinition) (threadCount messageCount intervalMs : U32) (payload : Text)
    (turns : ℕ → List ℕ) (g : LoadGenerator) : LoadGenerator :=
  (List.range threadCount.toNat).foldl
    (fun g i => (g.takeTurns (turns i)).launch
      { channelId := channel.id
        channelType := channel.type
        messageCount
        intervalMs
        payload
        workerIndex := BitVec.ofNat 32 i })
    { g with stopRequested := false }

/-- The workers are told to stop, and take their turns. -/
def askToStop (turns : List ℕ) (g : LoadGenerator) : LoadGenerator :=
  LoadGenerator.takeTurns turns { g with stopRequested := true }

/-- Joining the threads returns once all of them have finished. -/
def stopAll (turns : List ℕ) (g : LoadGenerator) : Option LoadGenerator :=
  let g := g.askToStop turns
  if g.workers.all fun w => w.point = .finished then
    some { g with workers := [], activeWorkerCount := 0 }
  else none

def drain (g : LoadGenerator) : List QueuedSend × LoadGenerator := (g.queue, { g with queue := [] })

def workerCount (g : LoadGenerator) : U64 := g.activeWorkerCount

def hasPendingMessages (g : LoadGenerator) : Bool := !g.queue.isEmpty

end LoadGenerator

/-! ## Runs -/

inductive LoadOp where
  | work (k : ℕ)
  | spawn (channel : ChannelDefinition) (threadCount messageCount intervalMs : U32) (payload : Text)
    (turns : ℕ → List ℕ)
  | stopAll (turns : List ℕ)
  | drain

/-- The generator, what has been taken from it, and the workers that have been joined. -/
structure LoadRun where
  generator : LoadGenerator := {}
  drained : List QueuedSend := []
  joined : List Worker := []

def LoadRun.step (r : LoadRun) : LoadOp → Option LoadRun
  | .work k => some { r with generator := r.generator.work k }
  | .spawn channel threadCount messageCount intervalMs payload turns =>
    some { r with
      generator :=
        r.generator.spawn channel threadCount messageCount intervalMs payload turns }
  | .stopAll turns =>
    (r.generator.stopAll turns).map fun generator =>
      { r with generator, joined := r.joined ++ (r.generator.askToStop turns).workers }
  | .drain =>
    some { r with
      generator := r.generator.drain.2
      drained := r.drained ++ r.generator.drain.1 }

/-! ## One worker -/

/-- What a worker has produced so far: the first of its messages, in order. -/
structure Produced (w : Worker) (stream : List QueuedSend) : Prop where
  messages : stream = (List.range stream.length).map fun n => w.message (BitVec.ofNat 32 n)
  produced : w.produced = BitVec.ofNat 32 stream.length
  bounded : w.messageCount ≠ 0 → stream.length ≤ w.messageCount.toNat
  room : w.point = .producing → w.messageCount ≠ 0 → stream.length < w.messageCount.toNat

/-- A worker that nobody has told to stop leaves when it has produced all of its messages. -/
def Worker.Unstopped (w : Worker) : Prop :=
  w.point = .leaving ∨ w.point = .finished → w.messageCount ≠ 0 ∧ w.messageCount ≤ w.produced

section One

variable {w : Worker} {stream : List QueuedSend}

theorem produced_start (h : w.produced = 0) (hpoint : w.point = .looping) : Produced w [] where
  messages := rfl
  produced := h
  bounded := fun _ => Nat.zero_le _
  room := fun hproducing => by
    rw [hpoint] at hproducing
    cases hproducing

/-- With a bound on the messages, their number does not wrap. -/
theorem Produced.toNat_produced (h : Produced w stream) (hcount : w.messageCount ≠ 0) :
    w.produced.toNat = stream.length := by
  rw [h.produced, BitVec.toNat_ofNat]
  exact Nat.mod_eq_of_lt ((h.bounded hcount).trans_lt w.messageCount.isLt)

theorem Produced.moved (h : Produced w stream) {point : WorkerPoint}
    (hroom : point = .producing → w.messageCount ≠ 0 → stream.length < w.messageCount.toNat) :
    Produced { w with point } stream :=
  ⟨h.messages, h.produced, h.bounded, hroom⟩

/-- **One step of a worker.** -/
theorem Produced.step (h : Produced w stream) (stopRequested : Bool) :
    Produced (w.step stopRequested).1 (stream ++ (w.step stopRequested).2.toList) := by
  rw [Worker.step]
  cases hpoint : w.point with
  | looping =>
    simp only
    split_ifs with hleave
    · rw [Option.toList_none, List.append_nil]
      exact h.moved fun hproducing => nomatch hproducing
    · rw [Option.toList_none, List.append_nil]
      refine h.moved fun _ hcount => ?_
      have hless : ¬w.messageCount ≤ w.produced := fun hle => hleave (Or.inr ⟨hcount, hle⟩)
      rw [BitVec.le_def, h.toNat_produced hcount] at hless
      exact Nat.not_le.1 hless
  | producing =>
    simp only [Option.toList_some]
    refine ⟨?_, ?_, fun hcount => ?_, fun hproducing => nomatch hproducing⟩
    · rw [List.length_append, List.length_singleton, List.range_succ, List.map_append]
      conv_lhs => rw [h.messages, h.produced]
      rfl
    · simp only [h.produced, List.length_append, List.length_singleton, BitVec.ofNat_add]
      rfl
    · rw [List.length_append, List.length_singleton]
      exact h.room hpoint hcount
  | leaving =>
    simp only [Option.toList_none, List.append_nil]
    exact h.moved fun hproducing => nomatch hproducing
  | finished =>
    simp only [Option.toList_none, List.append_nil]
    exact h

theorem Worker.messageCount_step (w : Worker) (stopRequested : Bool) :
    (w.step stopRequested).1.messageCount = w.messageCount := by
  rw [step]
  cases w.point with
  | looping =>
    simp only
    split_ifs <;> rfl
  | producing | leaving | finished => rfl

theorem Worker.Unstopped.step (h : w.Unstopped) : (w.step false).1.Unstopped := by
  rw [Worker.step]
  cases hpoint : w.point with
  | looping =>
    simp only [Bool.false_eq_true, false_or]
    split_ifs with hleave
    · exact fun _ => hleave
    · rintro (hleaving | hfinished)
      · cases hleaving
      · cases hfinished
  | producing =>
    rintro (hleaving | hfinished)
    · cases hleaving
    · cases hfinished
  | leaving => exact fun _ => h (Or.inl hpoint)
  | finished => exact fun _ => h (Or.inr hpoint)

end One

/-! ## All workers -/

/-- The worker has not counted itself out. -/
def Worker.isActive (w : Worker) : Bool := w.point != .finished

/-- What has been taken from the queue and what is in it, is what the workers have produced, each in
its own order; and the counter says how many of them are still there. -/
structure Accounted (drained : List QueuedSend) (joined : List Worker) (g : LoadGenerator) :
    Prop where
  merges : Shuffle.Merges Produced (joined ++ g.workers) (drained ++ g.queue)
  active : g.activeWorkerCount = BitVec.ofNat 64 (g.workers.countP Worker.isActive)

section All

variable {drained : List QueuedSend} {joined : List Worker} {g : LoadGenerator}

theorem accounted_empty : Accounted [] [] {} := ⟨Shuffle.merges_nil, rfl⟩

theorem Worker.isActive_step (w : Worker) (stopRequested : Bool) :
    (w.step stopRequested).1.isActive = (w.isActive && w.point != .leaving) := by
  rw [Worker.step, Worker.isActive, Worker.isActive]
  cases hpoint : w.point with
  | looping =>
    simp only
    split_ifs <;> rfl
  | producing => rfl
  | leaving => rfl
  | finished =>
    simp only [hpoint]
    rfl

/-- **One step of one worker.** -/
theorem Accounted.work (h : Accounted drained joined g) (k : ℕ) :
    Accounted drained joined (g.work k) := by
  rw [LoadGenerator.work]
  cases hw : g.workers[k]? with
  | none => exact h
  | some w =>
    obtain ⟨hlt, hget⟩ := List.getElem?_eq_some_iff.1 hw
    constructor
    · have hindex : (joined ++ g.workers)[joined.length + k]? = some w := by
        rw [List.getElem?_append_right (Nat.le_add_right _ _), Nat.add_sub_cancel_left, hw]
      have hstep := h.merges.step hindex fun stream hstream => hstream.step g.stopRequested
      rwa [List.set_append_right _ _ (Nat.le_add_right _ _), Nat.add_sub_cancel_left,
        List.append_assoc] at hstep
    · simp only
      rw [List.countP_set hlt, hget, Worker.isActive_step, h.active]
      by_cases hleaving : w.point = .leaving
      · have hactive : w.isActive = true := by
          rw [Worker.isActive, hleaving]
          rfl
        have hpos : 0 < g.workers.countP Worker.isActive :=
          List.countP_pos_iff.2 ⟨w, List.mem_of_getElem? hw, hactive⟩
        rw [if_pos hleaving, hactive, hleaving]
        obtain ⟨n, hn⟩ : ∃ n, g.workers.countP Worker.isActive = n + 1 :=
          Nat.exists_eq_add_one.2 hpos
        rw [hn, BitVec.ofNat_add]
        simp
      · have hsame : (w.point != .leaving) = true := bne_iff_ne.2 hleaving
        rw [if_neg hleaving, hsame, Bool.and_true]
        by_cases hactive : w.isActive = true
        · have hpos : 0 < g.workers.countP Worker.isActive :=
            List.countP_pos_iff.2 ⟨w, List.mem_of_getElem? hw, hactive⟩
          rw [if_pos hactive, Nat.sub_add_cancel hpos]
        · rw [if_neg hactive, Nat.sub_zero, Nat.add_zero]

theorem Accounted.takeTurns (h : Accounted drained joined g) (turns : List ℕ) :
    Accounted drained joined (g.takeTurns turns) :=
  Run.invariant (Accounted drained joined) (fun _ k hg => hg.work k) h turns

theorem Accounted.launch (h : Accounted drained joined g) {w : Worker} (hw : Produced w [])
    (hactive : w.isActive = true) : Accounted drained joined (g.launch w) := by
  constructor
  · have hjoin := h.merges.join hw
    rwa [List.append_assoc] at hjoin
  · simp only [LoadGenerator.launch]
    rw [List.countP_append, List.countP_singleton, if_pos hactive, BitVec.ofNat_add, h.active]
    rfl

theorem Accounted.spawn (h : Accounted drained joined g) (channel : ChannelDefinition)
    (threadCount messageCount intervalMs : U32) (payload : Text) (turns : ℕ → List ℕ) :
    Accounted drained joined
      (g.spawn channel threadCount messageCount intervalMs payload turns) :=
  Run.invariant (Accounted drained joined)
    (fun _ i hg => (hg.takeTurns (turns i)).launch (produced_start rfl rfl) rfl)
    (s := { g with stopRequested := false }) ⟨h.merges, h.active⟩ (List.range threadCount.toNat)

theorem Accounted.askToStop (h : Accounted drained joined g) (turns : List ℕ) :
    Accounted drained joined (g.askToStop turns) :=
  Accounted.takeTurns (g := { g with stopRequested := true }) ⟨h.merges, h.active⟩ turns

theorem LoadGenerator.stopAll_some {g' : LoadGenerator} {turns : List ℕ}
    (h : g.stopAll turns = some g') :
    (∀ w ∈ (g.askToStop turns).workers, w.point = .finished) ∧
      g' = { g.askToStop turns with workers := [], activeWorkerCount := 0 } := by
  simp only [stopAll] at h
  split_ifs at h with hall
  exact ⟨fun w hw => of_decide_eq_true (List.all_eq_true.1 hall w hw), (Option.some.inj h).symm⟩

/-- When the threads have been joined, the counter is down to zero by itself. -/
theorem Accounted.stopAll (h : Accounted drained joined g) {g' : LoadGenerator} {turns : List ℕ}
    (hstop : g.stopAll turns = some g') :
    Accounted drained (joined ++ (g.askToStop turns).workers) g' := by
  obtain ⟨-, rfl⟩ := LoadGenerator.stopAll_some hstop
  have hasked := (h.askToStop turns).merges
  exact ⟨by rwa [List.append_nil], rfl⟩

theorem Accounted.drain (h : Accounted drained joined g) :
    Accounted (drained ++ g.drain.1) joined g.drain.2 := by
  refine ⟨?_, h.active⟩
  have hmerges := h.merges
  rwa [LoadGenerator.drain, List.append_nil]

end All

/-! ## Nobody is told to stop -/

/-- The flag is up only while nobody works, and whoever has left has produced everything. -/
structure Unstopped (g : LoadGenerator) : Prop where
  idle : g.stopRequested = true → g.workers = []
  workers : ∀ w ∈ g.workers, w.Unstopped

section Unstopped

variable {g : LoadGenerator}

theorem unstopped_of_nil (h : g.workers = []) : Unstopped g :=
  ⟨fun _ => h, fun _ hw => absurd (h ▸ hw) List.not_mem_nil⟩

theorem Unstopped.work (h : Unstopped g) (k : ℕ) : Unstopped (g.work k) := by
  rw [LoadGenerator.work]
  cases hw : g.workers[k]? with
  | none => exact h
  | some w =>
    have hmem : w ∈ g.workers := List.mem_of_getElem? hw
    have hup : g.stopRequested = false := by
      rw [← Bool.not_eq_true]
      intro htrue
      rw [h.idle htrue] at hmem
      cases hmem
    refine ⟨fun htrue => absurd htrue (by simp [hup]), fun v hv => ?_⟩
    rcases List.mem_or_eq_of_mem_set hv with hold | rfl
    · exact h.workers v hold
    · rw [hup]
      exact (h.workers w hmem).step

theorem Unstopped.takeTurns (h : Unstopped g) (turns : List ℕ) : Unstopped (g.takeTurns turns) :=
  Run.invariant Unstopped (fun _ k hg => hg.work k) h turns

theorem LoadGenerator.stopRequested_work (g : LoadGenerator) (k : ℕ) :
    (g.work k).stopRequested = g.stopRequested := by
  rw [work]
  cases g.workers[k]? <;> rfl

theorem LoadGenerator.stopRequested_takeTurns (g : LoadGenerator) (turns : List ℕ) :
    (g.takeTurns turns).stopRequested = g.stopRequested :=
  Run.invariant (fun g' : LoadGenerator => g'.stopRequested = g.stopRequested)
    (fun g' k hg => (g'.stopRequested_work k).trans hg) rfl turns

theorem Unstopped.spawn (h : Unstopped g) (channel : ChannelDefinition)
    (threadCount messageCount intervalMs : U32) (payload : Text) (turns : ℕ → List ℕ) :
    Unstopped (g.spawn channel threadCount messageCount intervalMs payload turns) := by
  refine (Run.invariant (fun g' : LoadGenerator => g'.stopRequested = false ∧ Unstopped g')
    (fun g' i hg => ?_) (s := { g with stopRequested := false })
    ⟨rfl, fun hup => absurd hup Bool.false_ne_true, h.workers⟩ (List.range threadCount.toNat)).2
  have hdown : (g'.takeTurns (turns i)).stopRequested = false :=
    (g'.stopRequested_takeTurns (turns i)).trans hg.1
  refine ⟨hdown, fun hup => absurd (hdown.symm.trans hup) Bool.false_ne_true, fun w hw => ?_⟩
  rcases List.mem_append.1 hw with hold | hnew
  · exact (hg.2.takeTurns (turns i)).workers w hold
  · rw [List.mem_singleton.1 hnew]
    rintro (hleaving | hfinished)
    · cases hleaving
    · cases hfinished

end Unstopped

/-! ## Every run -/

theorem LoadRun.step_accounted {r r' : LoadRun} {op : LoadOp}
    (h : Accounted r.drained r.joined r.generator) (hstep : r.step op = some r') :
    Accounted r'.drained r'.joined r'.generator := by
  cases op with
  | work k =>
    obtain rfl := Option.some.inj hstep
    exact h.work k
  | spawn channel threadCount messageCount intervalMs payload turns =>
    obtain rfl := Option.some.inj hstep
    exact h.spawn channel threadCount messageCount intervalMs payload turns
  | stopAll turns =>
    obtain ⟨g, hg, rfl⟩ := Option.map_eq_some_iff.1 hstep
    exact h.stopAll hg
  | drain =>
    obtain rfl := Option.some.inj hstep
    exact h.drain

theorem LoadRun.step_unstopped {r r' : LoadRun} {op : LoadOp} (h : Unstopped r.generator)
    (hstep : r.step op = some r') : Unstopped r'.generator := by
  cases op with
  | work k =>
    obtain rfl := Option.some.inj hstep
    exact h.work k
  | spawn channel threadCount messageCount intervalMs payload turns =>
    obtain rfl := Option.some.inj hstep
    exact h.spawn channel threadCount messageCount intervalMs payload turns
  | stopAll turns =>
    obtain ⟨g, hg, rfl⟩ := Option.map_eq_some_iff.1 hstep
    obtain ⟨-, rfl⟩ := LoadGenerator.stopAll_some hg
    exact unstopped_of_nil rfl
  | drain =>
    obtain rfl := Option.some.inj hstep
    exact ⟨h.idle, h.workers⟩

section Runs

variable {ops : List LoadOp} {r : LoadRun}

theorem LoadRun.accounted (hrun : Run.runM LoadRun.step {} ops = some r) :
    Accounted r.drained r.joined r.generator :=
  Run.invariantM (fun r : LoadRun => Accounted r.drained r.joined r.generator)
    (fun _ _ _ h hstep => LoadRun.step_accounted h hstep) accounted_empty hrun

theorem LoadRun.unstopped (hrun : Run.runM LoadRun.step {} ops = some r) :
    Unstopped r.generator :=
  Run.invariantM (fun r : LoadRun => Unstopped r.generator)
    (fun _ _ _ h hstep => LoadRun.step_unstopped h hstep) (unstopped_of_nil rfl) hrun

/-- **Nothing lost, nothing doubled, in order.** However the threads and the client's loop take
turns: what has been taken from the queue, and what is in it, is a shuffle of what the workers have
produced, each its first messages in order and never more than asked for. The counter says how many
workers are there, and a worker that has left without being told to has produced all. -/
theorem load_merges (hrun : Run.runM LoadRun.step {} ops = some r) :
    Accounted r.drained r.joined r.generator ∧ ∀ w ∈ r.generator.workers, w.Unstopped :=
  ⟨LoadRun.accounted hrun, (LoadRun.unstopped hrun).workers⟩

end Runs

/-- Two workers with two messages each; the loop takes three of them and stops both in between. -/
def twoWorkers : List LoadOp :=
  [.spawn { id := 4 } 2 2 0 "x".toList fun _ => [], .work 0, .work 1, .work 1, .work 0, .work 0,
    .work 0, .drain, .work 1, .stopAll [0, 0, 1, 1, 1]]

theorem load_merges_twoWorkers :
    ∃ r, Run.runM LoadRun.step {} twoWorkers = some r ∧
      r.drained.map QueuedSend.payload =
        ["x [t1 #0]".toList, "x [t0 #0]".toList, "x [t0 #1]".toList] ∧
      r.generator.queue.map QueuedSend.payload = ["x [t1 #1]".toList] ∧
      Accounted r.drained r.joined r.generator ∧ ∀ w ∈ r.generator.workers, w.Unstopped := by
  have hvalues : ((Run.runM LoadRun.step {} twoWorkers).map fun r =>
      (r.drained.map QueuedSend.payload, r.generator.queue.map QueuedSend.payload)) =
      some (["x [t1 #0]".toList, "x [t0 #0]".toList, "x [t0 #1]".toList],
        ["x [t1 #1]".toList]) := by
    decide +kernel
  obtain ⟨r, hr, hpair⟩ := Option.map_eq_some_iff.1 hvalues
  obtain ⟨hdrained, hqueue⟩ := Prod.mk.inj hpair
  exact ⟨r, hr, hdrained, hqueue, load_merges hr⟩

/-! ## Stopping -/

/-- The steps that a worker takes until it has finished, once it is told to stop. -/
def Worker.stepsToStop (w : Worker) : ℕ :=
  match w.point with
  | .producing => 3
  | .looping => 2
  | .leaving => 1
  | .finished => 0

/-- What a worker that is told to stop adds to the queue: the message it is about to add. -/
def Worker.last (w : Worker) : Option QueuedSend :=
  if w.point = .producing then some (w.message w.produced) else none

section Stop

variable {g : LoadGenerator}

/-- The steps of a worker depend on its own turns only. -/
theorem LoadGenerator.getElem?_takeTurns (g : LoadGenerator) (turns : List ℕ) (k : ℕ) :
    (g.takeTurns turns).workers[k]? =
      g.workers[k]?.map (fun w => (Worker.step g.stopRequested · |>.1)^[turns.count k] w) := by
  induction turns generalizing g with
  | nil => simp [takeTurns]
  | cons j turns ih =>
    have hstep : g.takeTurns (j :: turns) = (g.work j).takeTurns turns := rfl
    rw [hstep, ih, g.stopRequested_work, List.count_cons]
    by_cases hjk : j = k
    · subst hjk
      rw [work]
      cases hw : g.workers[j]? with
      | none => simp [hw]
      | some w =>
        obtain ⟨hlt, -⟩ := List.getElem?_eq_some_iff.1 hw
        simp [hlt, Function.iterate_succ_apply]
    · have hother : (g.work j).workers[k]? = g.workers[k]? := by
        rw [work]
        cases g.workers[j]? with
        | none => rfl
        | some w => exact List.getElem?_set_ne hjk
      simp [hother, hjk]

theorem Worker.stepsToStop_step (w : Worker) :
    (w.step true).1.stepsToStop = w.stepsToStop - 1 := by
  cases hpoint : w.point <;> simp [step, stepsToStop, hpoint]

theorem Worker.stepsToStop_iterate (w : Worker) (n : ℕ) :
    ((Worker.step true · |>.1)^[n] w).stepsToStop = w.stepsToStop - n := by
  induction n with
  | zero => rfl
  | succ n ih =>
    rw [Function.iterate_succ_apply', stepsToStop_step, ih]
    omega

theorem Worker.stepsToStop_eq_zero {w : Worker} : w.stepsToStop = 0 ↔ w.point = .finished := by
  cases hpoint : w.point <;> simp [stepsToStop, hpoint]

theorem Worker.last_step (w : Worker) :
    (w.step true).2.toList ++ (w.step true).1.last.toList = w.last.toList := by
  cases hpoint : w.point <;> simp [step, last, hpoint]

/-- A worker that is told to stop adds what it would have added before it looks at the flag. -/
theorem LoadGenerator.work_last (h : g.stopRequested = true) (k : ℕ) :
    ((g.work k).queue ++ (g.work k).workers.filterMap Worker.last).Perm
      (g.queue ++ g.workers.filterMap Worker.last) := by
  rw [work]
  cases hw : g.workers[k]? with
  | none => exact .refl _
  | some w =>
    obtain ⟨hlt, hget⟩ := List.getElem?_eq_some_iff.1 hw
    have hsplit : g.workers = g.workers.take k ++ w :: g.workers.drop (k + 1) := by
      rw [← hget, List.cons_getElem_drop_succ, List.take_append_drop]
    have hcons : ∀ (v : Worker) (rest : List Worker),
        (v :: rest).filterMap Worker.last = v.last.toList ++ rest.filterMap Worker.last := by
      intro v rest
      rw [List.filterMap_cons]
      cases v.last <;> rfl
    have hlast := w.last_step
    simp only [h, List.set_eq_take_append_cons_drop, if_pos hlt]
    conv_rhs => rw [hsplit]
    rw [List.filterMap_append, List.filterMap_append, hcons, hcons, ← hlast, List.append_assoc]
    refine List.Perm.append_left _ ?_
    rw [List.append_assoc]
    exact List.perm_append_comm_assoc _ _ _

theorem LoadGenerator.queue_work (g : LoadGenerator) (k : ℕ) : g.queue <+: (g.work k).queue := by
  rw [work]
  cases g.workers[k]? with
  | none => exact List.prefix_refl _
  | some w => exact List.prefix_append _ _

theorem LoadGenerator.askToStop_queue (g : LoadGenerator) (turns : List ℕ) :
    g.queue <+: (g.askToStop turns).queue ∧
      ((g.askToStop turns).queue ++ (g.askToStop turns).workers.filterMap Worker.last).Perm
        (g.queue ++ g.workers.filterMap Worker.last) := by
  refine (Run.invariant (fun g' : LoadGenerator => g'.stopRequested = true ∧
    g.queue <+: g'.queue ∧ (g'.queue ++ g'.workers.filterMap Worker.last).Perm
      (g.queue ++ g.workers.filterMap Worker.last)) (fun g' k h => ?_)
    (s := { g with stopRequested := true }) ⟨rfl, List.prefix_refl _, .refl _⟩ turns).2
  exact ⟨(g'.stopRequested_work k).trans h.1, h.2.1.trans (g'.queue_work k),
    (work_last h.1 k).trans h.2.2⟩

/-- **Joining the threads.** It returns exactly if every worker gets the turns it needs, which are
three at most. Then nobody is left, and the queue has got no more than the message that a worker was
about to add when it was told to stop, one from each such worker. -/
theorem stopAll_exact (g : LoadGenerator) (turns : List ℕ) :
    ((g.stopAll turns).isSome ↔
      ∀ k w, g.workers[k]? = some w → w.stepsToStop ≤ turns.count k) ∧
    ∀ g' ∈ g.stopAll turns, g'.workers = [] ∧ g'.workerCount = 0 ∧
      ∃ last, g'.queue = g.queue ++ last ∧ last.Perm (g.workers.filterMap Worker.last) := by
  have hget : ∀ k, (g.askToStop turns).workers[k]? =
      g.workers[k]?.map (fun w => (Worker.step true · |>.1)^[turns.count k] w) :=
    LoadGenerator.getElem?_takeTurns { g with stopRequested := true } turns
  constructor
  · have hjoins : (g.stopAll turns).isSome = true ↔
        ∀ w ∈ (g.askToStop turns).workers, w.point = .finished := by
      simp only [LoadGenerator.stopAll]
      split_ifs with hall
      · exact iff_of_true rfl fun w hw => of_decide_eq_true (List.all_eq_true.1 hall w hw)
      · refine iff_of_false Bool.false_ne_true fun hfinished => hall ?_
        exact List.all_eq_true.2 fun w hw => decide_eq_true (hfinished w hw)
    have hiff : ∀ (w : Worker) (n : ℕ),
        ((Worker.step true · |>.1)^[n] w).point = .finished ↔ w.stepsToStop ≤ n := by
      intro w n
      rw [← Worker.stepsToStop_eq_zero, Worker.stepsToStop_iterate, Nat.sub_eq_zero_iff_le]
    rw [hjoins]
    constructor
    · intro h k w hw
      exact (hiff w _).1 (h _ (List.mem_of_getElem? (by rw [hget, hw]; rfl)))
    · intro h v hv
      obtain ⟨k, hk⟩ := List.mem_iff_getElem?.1 hv
      rw [hget] at hk
      obtain ⟨w, hw, rfl⟩ := Option.map_eq_some_iff.1 hk
      exact (hiff w _).2 (h k w hw)
  · intro g' hg'
    obtain ⟨hfinished, rfl⟩ := LoadGenerator.stopAll_some hg'
    obtain ⟨⟨last, hlast⟩, hperm⟩ := g.askToStop_queue turns
    have hnone : (g.askToStop turns).workers.filterMap Worker.last = [] := by
      rw [List.filterMap_eq_nil_iff]
      intro w hw
      simp [Worker.last, hfinished w hw]
    rw [hnone, List.append_nil, ← hlast] at hperm
    exact ⟨rfl, rfl, last, hlast.symm, (List.perm_append_left_iff _).1 hperm⟩

end Stop

/-! ## Finishing -/

/-- The steps that a worker takes until it has finished, if it has a bound and nobody stops it. -/
def Worker.stepsToFinish (w : Worker) : ℕ :=
  match w.point with
  | .looping => 2 * (w.messageCount.toNat - w.produced.toNat) + 2
  | .producing => 2 * (w.messageCount.toNat - w.produced.toNat) + 1
  | .leaving => 1
  | .finished => 0

section Finish

variable {w : Worker}

/-- A worker with a bound, that nobody stops. -/
structure Bounded (count : U32) (w : Worker) : Prop where
  messageCount : w.messageCount = count
  ne_zero : w.messageCount ≠ 0
  produced : w.produced ≤ w.messageCount
  room : w.point = .producing → w.produced < w.messageCount
  unstopped : w.Unstopped

theorem Produced.isBounded {stream : List QueuedSend} (h : Produced w stream) (hw : w.Unstopped)
    (hcount : w.messageCount ≠ 0) : Bounded w.messageCount w where
  messageCount := rfl
  ne_zero := hcount
  produced := by
    rw [BitVec.le_def, h.toNat_produced hcount]
    exact h.bounded hcount
  room := fun hpoint => by
    rw [BitVec.lt_def, h.toNat_produced hcount]
    exact h.room hpoint hcount
  unstopped := hw

theorem Bounded.step {count : U32} (h : Bounded count w) :
    Bounded count (w.step false).1 ∧ (w.step false).1.stepsToFinish = w.stepsToFinish - 1 := by
  have hunstopped := h.unstopped.step
  obtain ⟨rfl, hne, hproduced, hroom, -⟩ := h
  cases hpoint : w.point with
  | looping =>
    by_cases hleave : w.messageCount ≤ w.produced
    · have hstep : (w.step false).1 = { w with point := .leaving } := by
        simp only [Worker.step, hpoint]
        rw [if_pos (Or.inr ⟨hne, hleave⟩)]
      rw [hstep] at hunstopped ⊢
      refine ⟨⟨rfl, hne, hproduced, nofun, hunstopped⟩, ?_⟩
      rw [BitVec.le_def] at hleave
      simp only [Worker.stepsToFinish, hpoint]
      omega
    · have hstep : (w.step false).1 = { w with point := .producing } := by
        simp [Worker.step, hpoint, hleave]
      rw [hstep] at hunstopped ⊢
      refine ⟨⟨rfl, hne, hproduced, fun _ => BitVec.not_le.1 hleave, hunstopped⟩, ?_⟩
      simp [Worker.stepsToFinish, hpoint]
  | producing =>
    have hless := hroom hpoint
    rw [BitVec.lt_def] at hless
    have hcount := w.messageCount.isLt
    have hnext : (w.produced + 1).toNat = w.produced.toNat + 1 := by
      rw [BitVec.toNat_add_of_lt (by simp; omega)]
      rfl
    have hstep : (w.step false).1 = { w with produced := w.produced + 1, point := .looping } := by
      simp [Worker.step, hpoint]
    rw [hstep] at hunstopped ⊢
    refine ⟨⟨rfl, hne, ?_, nofun, hunstopped⟩, ?_⟩
    · rw [BitVec.le_def, hnext]
      exact hless
    · simp only [Worker.stepsToFinish, hpoint, hnext]
      omega
  | leaving =>
    have hstep : (w.step false).1 = { w with point := .finished } := by
      simp [Worker.step, hpoint]
    rw [hstep] at hunstopped ⊢
    refine ⟨⟨rfl, hne, hproduced, nofun, hunstopped⟩, ?_⟩
    simp [Worker.stepsToFinish, hpoint]
  | finished =>
    have hstep : (w.step false).1 = w := by simp [Worker.step, hpoint]
    rw [hstep] at hunstopped ⊢
    exact ⟨⟨rfl, hne, hproduced, hroom, hunstopped⟩, by simp [Worker.stepsToFinish, hpoint]⟩

theorem Bounded.iterate {count : U32} (h : Bounded count w) (n : ℕ) :
    Bounded count ((Worker.step false · |>.1)^[n] w) ∧
      ((Worker.step false · |>.1)^[n] w).stepsToFinish = w.stepsToFinish - n := by
  induction n with
  | zero => exact ⟨h, rfl⟩
  | succ n ih =>
    rw [Function.iterate_succ_apply']
    obtain ⟨hbounded, hsteps⟩ := ih.1.step
    exact ⟨hbounded, by rw [hsteps, ih.2]; omega⟩

theorem Worker.stepsToFinish_eq_zero : w.stepsToFinish = 0 ↔ w.point = .finished := by
  cases hpoint : w.point <;> simp [stepsToFinish, hpoint]

/-- A worker without a bound stays in its loop. -/
theorem Worker.endless_iterate (hcount : w.messageCount = 0) (hw : w.Unstopped) (n : ℕ) :
    ((Worker.step false · |>.1)^[n] w).point ≠ .finished := by
  have hloop : ((Worker.step false · |>.1)^[n] w).messageCount = 0 ∧
      ((Worker.step false · |>.1)^[n] w).Unstopped := by
    induction n with
    | zero => exact ⟨hcount, hw⟩
    | succ n ih =>
      rw [Function.iterate_succ_apply']
      exact ⟨(messageCount_step _ _).trans ih.1, ih.2.step⟩
  exact fun hfinished => (hloop.2 (Or.inr hfinished)).1 hloop.1

/-- **Finishing by itself.** In every run, a worker that is there finishes exactly if it has a bound
and gets the turns it needs, which are two for each of its messages and two more; it has produced
all of its messages then. -/
theorem worker_finishes_iff {ops : List LoadOp} {r : LoadRun}
    (hrun : Run.runM LoadRun.step {} ops = some r) (turns : List ℕ) {k : ℕ}
    (hw : r.generator.workers[k]? = some w) :
    ∃ w', (r.generator.takeTurns turns).workers[k]? = some w' ∧
      (w'.point = .finished ↔ w.messageCount ≠ 0 ∧ w.stepsToFinish ≤ turns.count k) ∧
      (w'.point = .finished → w'.produced = w.messageCount) := by
  have hmem : w ∈ r.generator.workers := List.mem_of_getElem? hw
  have hunstopped := LoadRun.unstopped hrun
  have hdown : r.generator.stopRequested = false := by
    rw [← Bool.not_eq_true]
    intro hup
    rw [hunstopped.idle hup] at hmem
    cases hmem
  obtain ⟨stream, hstream⟩ :=
    (LoadRun.accounted hrun).merges.exists_stream (List.mem_append_right _ hmem)
  have hstays := hunstopped.workers w hmem
  refine ⟨_, by rw [LoadGenerator.getElem?_takeTurns, hw, hdown, Option.map_some], ?_⟩
  by_cases hcount : w.messageCount = 0
  · have hloops := Worker.endless_iterate hcount hstays (turns.count k)
    exact ⟨iff_of_false hloops fun h => h.1 hcount, fun h => absurd h hloops⟩
  · obtain ⟨hbounded, hsteps⟩ := (hstream.isBounded hstays hcount).iterate (turns.count k)
    constructor
    · rw [← Worker.stepsToFinish_eq_zero, hsteps, Nat.sub_eq_zero_iff_le]
      exact (and_iff_right hcount).symm
    · intro hfinished
      have hall := (hbounded.unstopped (Or.inr hfinished)).2
      rw [← hbounded.messageCount]
      exact BitVec.le_antisymm hbounded.produced hall

theorem worker_finishes_twoMessages :
    ∃ r w', Run.runM LoadRun.step {}
        [.spawn { id := 4 } 1 2 0 "x".toList fun _ => [], .work 0] = some r ∧
      (r.generator.takeTurns [0, 0, 0, 0, 0]).workers[0]? = some w' ∧ w'.point = .finished ∧
      w'.produced = 2 := by
  have hvalue : ((Run.runM LoadRun.step {}
      [.spawn { id := 4 } 1 2 0 "x".toList fun _ => [], .work 0]).bind fun r =>
        r.generator.workers[0]?.map fun w => (w.messageCount, w.stepsToFinish)) = some (2, 5) := by
    decide +kernel
  obtain ⟨r, hr, hmap⟩ := Option.bind_eq_some_iff.1 hvalue
  obtain ⟨w, hw, hpair⟩ := Option.map_eq_some_iff.1 hmap
  obtain ⟨hcount, hsteps⟩ := Prod.mk.inj hpair
  obtain ⟨w', hw', hiff, hall⟩ := worker_finishes_iff hr [0, 0, 0, 0, 0] hw
  have hfinished := hiff.2 ⟨by rw [hcount]; decide, by rw [hsteps]; decide⟩
  exact ⟨r, w', hr, hw', hfinished, (hall hfinished).trans hcount⟩

end Finish

end Rudp
