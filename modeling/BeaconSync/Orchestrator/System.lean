import BeaconSync.Synchronizer.Run

/-!
# Beacon synchronizer - The goroutines around the synchronizer

{lit}`startSync` and {lit}`isEpochAhead` run on other goroutines than the
worker that {lit}`startSync` spawns.  They share {lit}`running` and
{lit}`currentEpoch` under {lit}`stateMutex`; {lit}`runMutex` is held by the
worker for the whole of {lit}`runSync` and taken by {lit}`startSync` to wait for
it; and {lit}`startSync` stops a running worker by a send on the unbuffered
{lit}`killChan`, made while it holds {lit}`stateMutex`, which only the
worker's {lit}`checkKillChan` receives.

This module is the system those goroutines form: the worker of
{lit}`Synchronizer.step`, a list of callers, the owners of the two mutexes, and
the rendezvous on {lit}`killChan`.  A chain-node or storage call, a sleep and
a cooldown wait can always complete; a goroutine blocks only on a mutex another
one holds, or on the send until the worker receives.

Main results:

- Function {lit}`Orchestrator.sysStep`: one step of one goroutine.
- Theorem {lit}`Orchestrator.sysStep_worker`: a step of the worker is a step
  of the worker model, so every result about runs of {lit}`runSync` holds of
  the worker inside the system.
- Theorems {lit}`Orchestrator.stuck_no_step` and
  {lit}`Orchestrator.stuck_of_no_step`: the checker {lit}`Orchestrator.Sys.stuck`
  accepts exactly the states where some goroutine has not returned and none can
  move.
- Structure {lit}`Orchestrator.SysInv` and theorem
  {lit}`Orchestrator.Reachable.inv`: in every reachable state a worker
  goroutine that exists has {lit}`running` set, the loop runs only while its
  goroutine holds {lit}`runMutex`, and a {lit}`startSync` about to start a
  worker holds {lit}`runMutex`.
- Theorem {lit}`Orchestrator.panic_keeps_running`: the converse of the first
  field fails.  A panic in the loop is recovered, but line 116 does not run:
  the worker is gone, {lit}`running` stays set, {lit}`isEpochAhead` keeps
  answering for it, and the next {lit}`startSync` sends to a receiver that no
  longer exists.
- Theorem {lit}`Orchestrator.spawn_only_idle`: {lit}`startSync` starts a
  worker only when no worker goroutine exists.
- Theorem {lit}`Orchestrator.Reachable.worker_run`: the worker of every
  reachable state is a run of {lit}`runSync`, so the results on such runs hold
  inside the system.
- Theorem {lit}`Orchestrator.stop_signal_swallowed`: a value that one of the
  checks inside {lit}`syncEpoch` receives from {lit}`killChan` makes it return
  {lit}`(false, nil)`, which {lit}`runSync` treats as a failed attempt: the
  loop goes on, syncs and commits, and moves the cursor.
- Theorem {lit}`Orchestrator.Reachable.worker_epochInv`: no caller moves the
  cursor under a call of {lit}`syncEpoch`.
- Theorem {lit}`Orchestrator.lockStart_exclusive`: one {lit}`startSync` at a
  time reaches line 57, and only after the previous loop has ended.
-/

namespace BeaconSync
namespace Orchestrator

open Synchronizer

/-- A call of one of the exported entry points. -/
inductive Call where
  /-- {lit}`startSync(startEpoch)`. -/
  | startSync (startEpoch : UInt64)
  /-- {lit}`isEpochAhead(epoch)`. -/
  | isEpochAhead (epoch : UInt64)
  deriving DecidableEq, Repr

/-- Where a caller is. -/
inductive CallerPc where
  /-- {lit}`sync.stateMutex.Lock()` on entry (lines 36 and 47), and the test of
  {lit}`running` under it. -/
  | lock
  /-- {lit}`sync.killChan <- true`, holding {lit}`stateMutex` (line 49). -/
  | send
  /-- {lit}`sync.stateMutex.Unlock()` after the send (line 51). -/
  | unlock
  /-- {lit}`sync.runMutex.Lock()`: wait for the worker to stop (line 53). -/
  | lockRun
  /-- {lit}`sync.stateMutex.Lock()` before the start (line 57). -/
  | lockStart
  /-- Returned: whether {lit}`startSync` spawned a worker, or what
  {lit}`isEpochAhead` answered. -/
  | done (result : Bool)
  deriving DecidableEq, Repr

/-- A caller goroutine: its call and where it is. -/
structure Caller where
  call : Call
  pc : CallerPc
  deriving DecidableEq, Repr

/-- A goroutine that can hold a mutex. -/
inductive Tid where
  | worker
  | caller (i : Nat)
  deriving DecidableEq, Repr

/-- The synchronizer's fields with its worker goroutine, the callers, and the
owners of {lit}`stateMutex` and {lit}`runMutex`. -/
structure Sys where
  worker : SyncState
  callers : List Caller
  stateMutex : Option Tid
  runMutex : Option Tid

/-- The next step of one goroutine: the worker's statement with the reply it
gets, or the statement of the caller at an index. -/
inductive Action where
  | worker (r : Reply)
  | caller (i : Nat)

/-- The system before any call: a new synchronizer and the callers at their
entry. -/
def Sys.init (calls : List Call) : Sys :=
  { worker := SyncState.new, callers := calls.map (⟨·, .lock⟩), stateMutex := none,
    runMutex := none }

/-- The caller blocked in the send on {lit}`killChan`, if any. -/
def Sys.sender (s : Sys) : Option Nat :=
  s.callers.findIdx? (·.pc == .send)

/-- The caller at index {lit}`i` moves to {lit}`pc`. -/
def Sys.setPc (s : Sys) (i : Nat) (pc : CallerPc) : Sys :=
  { s with callers := s.callers.modify (fun c => { c with pc := pc }) i }

variable (cfg : Config)

/-- A step of the worker: the statement of {lean}`step` with the reply it gets,
where the two mutexes and the rendezvous allow it.  {lit}`runMutex` is taken by
line 76 and given back by the deferred unlock when the goroutine returns,
normally or by a panic (the nil block of line 180 is one); the
increment of line 92 needs {lit}`stateMutex`; a value is received from
{lit}`killChan` only from a blocked sender, whom it releases; a non-blocking
check and a cooldown of no duration fall through only when no sender waits. -/
def workerStep (s : Sys) (r : Reply) : Option Sys :=
  match s.worker.pc, r with
  | .lockRun, .tick =>
    if s.runMutex = none then
      (step cfg s.worker r).map fun w => { s with worker := w, runMutex := some .worker }
    else none
  | .checkKill .., .kill true | .cooldown, .kill true =>
    match s.sender with
    | some i => (step cfg s.worker r).map fun w => { s.setPc i .unlock with worker := w }
    | none => none
  | .checkKill .., .kill false =>
    if s.sender = none then (step cfg s.worker r).map fun w => { s with worker := w } else none
  | .cooldown, .kill false =>
    if cfg.cooldownBlocks || s.sender.isNone then
      (step cfg s.worker r).map fun w => { s with worker := w }
    else none
  | .advance .., .tick =>
    if s.stateMutex = none then (step cfg s.worker r).map fun w => { s with worker := w }
    else none
  | .exit _, .tick | .fetchBody .., .body (.ok none) | _, .panic =>
    (step cfg s.worker r).map fun w => { s with worker := w, runMutex := none }
  | _, _ => (step cfg s.worker r).map fun w => { s with worker := w }

/-- A step of the caller at index {lit}`i`.  {lit}`startSync` sends on
{lit}`killChan` when it finds the worker running; otherwise it gives
{lit}`stateMutex` back at once.  Under both mutexes it starts a worker unless
one is still running. -/
def callerStep (s : Sys) (i : Nat) : Option Sys :=
  match s.callers[i]? with
  | none => none
  | some c =>
    match c.call, c.pc with
    | .startSync _, .lock =>
      if s.stateMutex = none then
        if s.worker.running then some { s.setPc i .send with stateMutex := some (.caller i) }
        else some (s.setPc i .lockRun)
      else none
    | .startSync _, .unlock => some { s.setPc i .lockRun with stateMutex := none }
    | .startSync _, .lockRun =>
      if s.runMutex = none then some { s.setPc i .lockStart with runMutex := some (.caller i) }
      else none
    | .startSync e, .lockStart =>
      if s.stateMutex = none then
        if s.worker.running then some { s.setPc i (.done false) with runMutex := none }
        else some { s.setPc i (.done true) with worker := s.worker.started e, runMutex := none }
      else none
    | .isEpochAhead e, .lock =>
      if s.stateMutex = none then
        some (s.setPc i (.done (s.worker.running && decide (s.worker.currentEpoch < e))))
      else none
    | _, _ => none

/-- One step of one goroutine. -/
def sysStep (s : Sys) : Action → Option Sys
  | .worker r => workerStep cfg s r
  | .caller i => callerStep s i

/-- The states reachable from {lit}`s₀`. -/
inductive Reachable (s₀ : Sys) : Sys → Prop where
  | init : Reachable s₀ s₀
  | step {s s' : Sys} {a : Action} : Reachable s₀ s → sysStep cfg s a = some s' → Reachable s₀ s'

/-- The executable run of a list of actions. -/
def sysRun : Sys → List Action → Option Sys
  | s, [] => some s
  | s, a :: as => (sysStep cfg s a).bind (sysRun · as)

variable {cfg}

/-- The end of an executable run from a reachable state is reachable. -/
theorem Reachable.of_sysRun {s₀ s s' : Sys} {as : List Action} (h : Reachable cfg s₀ s)
    (hr : sysRun cfg s as = some s') : Reachable cfg s₀ s' := by
  induction as generalizing s with
  | nil => cases hr; exact h
  | cons a as ih =>
    obtain ⟨s₁, h₁, hrest⟩ := Option.bind_eq_some.mp hr
    exact ih (h.step h₁) hrest

/-- A run of actions that ends where {lit}`p` holds. -/
theorem reach_of_sysRun {s₀ : Sys} {as : List Action} {p : Sys → Bool}
    (h : (sysRun cfg s₀ as).map p = some true) : ∃ s, Reachable cfg s₀ s ∧ p s = true := by
  obtain ⟨s, hr, hp⟩ := Option.map_eq_some'.mp h
  exact ⟨s, Reachable.init.of_sysRun hr, hp⟩

/-- The end of an executable run from the start is reachable. -/
theorem Reachable.of_actions (cfg : Config) (calls : List Call) (as : List Action) {s : Sys}
    (h : sysRun cfg (Sys.init calls) as = some s) : Reachable cfg (Sys.init calls) s :=
  Reachable.init.of_sysRun h

/-! ## The worker inside the system -/

/-- A system step built from a worker step has that step's state as its worker. -/
theorem step_of_map {σ : SyncState} {r : Reply} {f : SyncState → Sys} {s' : Sys}
    (hf : ∀ w, (f w).worker = w) (h : (step cfg σ r).map f = some s') :
    step cfg σ r = some s'.worker := by
  obtain ⟨w, hw, rfl⟩ := Option.map_eq_some'.mp h
  rw [hf]
  exact hw

/-- Everything one step of the worker goroutine does to the system: the
statement of the worker model; {lit}`stateMutex` untouched; a receive releases
the blocked sender to {lit}`unlock`; {lit}`runMutex` taken at line 76, given
back when the goroutine returns, and untouched otherwise. -/
theorem workerStep_cases {s s' : Sys} {r : Reply} (h : sysStep cfg s (.worker r) = some s') :
    step cfg s.worker r = some s'.worker ∧ s'.stateMutex = s.stateMutex ∧
      (s'.callers = s.callers ∨ ∃ i, s.sender = some i ∧ s'.callers = (s.setPc i .unlock).callers) ∧
      ((s.worker.pc = .lockRun ∧ s.runMutex = none ∧ s'.runMutex = some .worker) ∨
        (s'.worker.pc = .idle ∧ s'.runMutex = none) ∨
        (s.worker.pc ≠ .lockRun ∧ s'.worker.pc ≠ .idle ∧ s'.runMutex = s.runMutex)) := by
  simp only [sysStep, workerStep] at h
  repeat' split at h
  all_goals first
    | cases h
    | (obtain ⟨w, hw, rfl⟩ := Option.map_eq_some'.mp h
       have hs := step_sound cfg hw
       have hlock := hs.lockRun_tick
       refine ⟨hw, rfl, ?_, ?_⟩
       · first | exact .inl rfl | exact .inr ⟨_, ‹_›, rfl⟩
       · first
           | exact .inl ⟨‹_›, ‹_›, rfl⟩
           | exact .inr (.inl ⟨hs.idle_of_returns (by simp_all), rfl⟩)
           | exact .inr (.inr ⟨fun h => by simp_all, fun hi => by
               rcases hs.returns_of_idle hi with h' | ⟨e, a, slot, hr, h', h''⟩ | ⟨c, h', h''⟩ <;>
                 first | (simp_all; done) | (rename_i hx; exact hx _ _ _ _ h' (by simp_all)), rfl⟩))

/-- A step of the worker goroutine is a step of the worker model. -/
theorem sysStep_worker_eq {s s' : Sys} {r : Reply} (h : sysStep cfg s (.worker r) = some s') :
    step cfg s.worker r = some s'.worker :=
  (workerStep_cases h).1

/-- A step of the worker goroutine is a step of the relation {lean}`Step`. -/
theorem sysStep_worker {s s' : Sys} {r : Reply} (h : sysStep cfg s (.worker r) = some s') :
    Step cfg s.worker r s'.worker :=
  step_sound cfg (sysStep_worker_eq h)

/-- A caller leaves the worker as it is, or spawns one when none runs. -/
theorem callerStep_worker {s s' : Sys} {i : Nat} (h : sysStep cfg s (.caller i) = some s') :
    s'.worker = s.worker ∨ s.worker.running = false ∧ ∃ e, s'.worker = s.worker.started e := by
  simp only [sysStep, callerStep] at h
  repeat' split at h
  all_goals first
    | (cases h; exact .inl rfl)
    | (cases h; exact .inr ⟨by simp_all, _, rfl⟩)
    | cases h

/-! ## Blocked goroutines -/

/-- The worker can move: a goroutine exists, and it does not wait for a mutex
another goroutine holds.  Every other statement can complete. -/
def Sys.workerEnabled (s : Sys) : Bool :=
  match s.worker.pc with
  | .idle => false
  | .lockRun => s.runMutex.isNone
  | .advance .. => s.stateMutex.isNone
  | _ => true

/-- The caller at index {lit}`i` can move. -/
def Sys.callerEnabled (s : Sys) (i : Nat) : Bool :=
  match s.callers[i]? with
  | none => false
  | some c =>
    match c.call, c.pc with
    | .startSync _, .lock | .startSync _, .lockStart | .isEpochAhead _, .lock =>
      s.stateMutex.isNone
    | .startSync _, .unlock => true
    | .startSync _, .lockRun => s.runMutex.isNone
    | _, _ => false

/-- Some goroutine has not finished, and none can move. -/
def Sys.stuck (s : Sys) : Bool :=
  (s.worker.pc.alive || s.callers.any fun c => !c.pc matches .done _) && !s.workerEnabled &&
    (List.range s.callers.length).all fun i => !s.callerEnabled i

/-- A worker that takes a step is enabled. -/
theorem workerEnabled_of_step {s s' : Sys} {r : Reply} (h : sysStep cfg s (.worker r) = some s') :
    s.workerEnabled = true := by
  have hs := sysStep_worker h
  generalize s'.worker = w at hs
  unfold Sys.workerEnabled
  split
  · rename_i hpc
    cases hs <;> simp_all [SyncState.callsOut]
  · rename_i hpc
    obtain rfl : r = .tick := by cases hs <;> simp_all [SyncState.callsOut]
    simp only [sysStep, workerStep, hpc] at h
    split at h <;> simp_all
  · rename_i hpc
    obtain rfl : r = .tick := by cases hs <;> simp_all [SyncState.callsOut]
    simp only [sysStep, workerStep, hpc] at h
    split at h <;> simp_all
  · rfl

/-- A caller that takes a step is enabled. -/
theorem callerEnabled_of_step {s s' : Sys} {i : Nat} (h : sysStep cfg s (.caller i) = some s') :
    s.callerEnabled i = true := by
  simp only [sysStep, callerStep] at h
  unfold Sys.callerEnabled
  split at h
  · cases h
  · split at h <;> simp_all

/-- An enabled caller exists. -/
theorem Sys.callerEnabled_lt {s : Sys} {i : Nat} (h : s.callerEnabled i = true) :
    i < s.callers.length := by
  unfold Sys.callerEnabled at h
  split at h
  · cases h
  · rename_i c hc
    exact (List.getElem?_eq_some_iff.mp hc).1

/-- A state the checker accepts is a deadlock: no goroutine can take a step. -/
theorem stuck_no_step {s : Sys} (h : s.stuck = true) (a : Action) : sysStep cfg s a = none := by
  simp only [Sys.stuck, Bool.and_eq_true, Bool.not_eq_true', List.all_eq_true, List.mem_range,
    Bool.not_eq_eq_eq_not, Bool.not_true] at h
  cases hs : sysStep cfg s a with
  | none => rfl
  | some s' =>
    cases a with
    | worker r => simp [workerEnabled_of_step hs] at h
    | caller i =>
      have he := callerEnabled_of_step hs
      simp [h.2 i (Sys.callerEnabled_lt he)] at he

/-- An enabled worker has a reply that lets it move. -/
theorem Sys.worker_moves {s : Sys} (h : s.workerEnabled = true) :
    ∃ r s', sysStep cfg s (.worker r) = some s' := by
  unfold Sys.workerEnabled at h
  cases hpc : s.worker.pc <;> rw [hpc] at h
  case idle => cases h
  case lockRun => exact ⟨.tick, by simp_all [sysStep, workerStep, step]⟩
  case loop => exact ⟨.synced false, by simp [sysStep, workerStep, step, hpc]⟩
  case assignments => exact ⟨.assignments (.ok none), by simp [sysStep, workerStep, step, hpc]⟩
  case checkKill | cooldown =>
    cases hs : s.sender
    · exact ⟨.kill false, by simp [sysStep, workerStep, step, hpc, hs]⟩
    · exact ⟨.kill true, by simp [sysStep, workerStep, step, hpc, hs]⟩
  case fetchHeader e a slot =>
    by_cases hle : slot ≤ cfg.fetchLastSlot e
    · by_cases hc : slot ≤ s.worker.cachedSlot
      · exact ⟨.tick, by simp [sysStep, workerStep, step, hpc, hle, hc]⟩
      · exact ⟨.header (.ok none), by simp [sysStep, workerStep, step, hpc, hle, hc]⟩
    · exact ⟨.tick, by simp [sysStep, workerStep, step, hpc, hle]⟩
  case fetchBody => exact ⟨.body (.ok none), by simp [sysStep, workerStep, step, hpc]⟩
  case loadStats => exact ⟨.stats none, by simp [sysStep, workerStep, step, hpc]⟩
  case findFirst e st slot =>
    refine ⟨.tick, ?_⟩
    simp only [sysStep, workerStep, step, hpc]
    split <;> [split; skip] <;> simp
  case aggregate | epochFailed | exit =>
    exact ⟨.tick, by simp [sysStep, workerStep, step, hpc]⟩
  case beginTx | persist | setState | commit =>
    exact ⟨.db none, by simp [sysStep, workerStep, step, hpc]⟩
  case evict e slot =>
    refine ⟨.tick, ?_⟩
    simp only [sysStep, workerStep, step, hpc]
    split <;> simp
  case epochDone => exact ⟨.finalized 0, by simp [sysStep, workerStep, step, hpc]⟩
  case advance => exact ⟨.tick, by simp_all [sysStep, workerStep, step]⟩

/-- An enabled caller can move. -/
theorem Sys.caller_moves {s : Sys} {i : Nat} (h : s.callerEnabled i = true) :
    ∃ s', sysStep cfg s (.caller i) = some s' := by
  unfold Sys.callerEnabled at h
  simp only [sysStep, callerStep]
  split at h
  · cases h
  · rename_i c hc
    split at h <;> simp_all <;> split <;> simp

/-- The converse of {lean}`stuck_no_step`: a state in which some goroutine has
not finished and no goroutine can move is one the checker accepts. -/
theorem stuck_of_no_step {s : Sys}
    (hu : (s.worker.pc.alive || s.callers.any fun c => !c.pc matches .done _) = true)
    (h : ∀ a, sysStep cfg s a = none) : s.stuck = true := by
  have hw : s.workerEnabled = false := by
    cases he : s.workerEnabled
    · rfl
    · obtain ⟨r, s', hs⟩ : ∃ r s', sysStep cfg s (.worker r) = some s' := Sys.worker_moves he
      simp [h] at hs
  simp only [Sys.stuck, Bool.and_eq_true]
  refine ⟨⟨hu, by rw [hw]; rfl⟩, List.all_eq_true.mpr fun i _ => ?_⟩
  cases he : s.callerEnabled i
  · rfl
  · obtain ⟨s', hs⟩ : ∃ s', sysStep cfg s (.caller i) = some s' := Sys.caller_moves he
    simp [h] at hs

/-! ## What every reachable state keeps -/

/-- The callers after one of them moves. -/
theorem Sys.setPc_getElem? (s : Sys) (i j : Nat) (pc : CallerPc) :
    (s.setPc i pc).callers[j]? =
      if i = j then s.callers[j]?.map fun c => { c with pc := pc } else s.callers[j]? := by
  by_cases h : i = j <;> simp [Sys.setPc, List.getElem?_modify, h]

/-- A caller that another step leaves at {lit}`lockStart` was there before. -/
theorem Sys.lockStart_of_setPc {s : Sys} {i j : Nat} {pc : CallerPc} {c : Caller}
    (h : (s.setPc i pc).callers[j]? = some c) (hc : c.pc = .lockStart) (hpc : pc ≠ .lockStart) :
    i ≠ j ∧ s.callers[j]? = some c := by
  rw [Sys.setPc_getElem?] at h
  split at h
  · obtain ⟨c', -, rfl⟩ := Option.map_eq_some'.mp h
    exact absurd hc hpc
  · exact ⟨‹_›, h⟩

/-- A step of the worker moves at most the blocked sender, to {lit}`unlock`. -/
theorem workerStep_callers {s s' : Sys} {r : Reply} (h : sysStep cfg s (.worker r) = some s') :
    s'.callers = s.callers ∨ ∃ i, s'.callers = (s.setPc i .unlock).callers :=
  (workerStep_cases h).2.2.1.imp_right fun ⟨i, _, hc⟩ => ⟨i, hc⟩

/-- The worker takes {lit}`runMutex` at line 76 and gives it back when it
returns; no other step of the worker touches it. -/
theorem workerStep_runMutex {s s' : Sys} {r : Reply} (h : sysStep cfg s (.worker r) = some s') :
    (s.worker.pc = .lockRun ∧ s.runMutex = none ∧ s'.runMutex = some .worker) ∨
      (s'.worker.pc = .idle ∧ s'.runMutex = none) ∨
      (s.worker.pc ≠ .lockRun ∧ s'.runMutex = s.runMutex) :=
  (workerStep_cases h).2.2.2.imp_right (Or.imp_right fun ⟨h₁, _, h₃⟩ => ⟨h₁, h₃⟩)

/-- What every reachable state of the system keeps: a worker goroutine that
exists has {lit}`running` set, the loop of {lit}`runSync` runs only while its
goroutine holds {lit}`runMutex`, and a {lit}`startSync` about to start a worker
holds {lit}`runMutex` itself. -/
structure SysInv (s : Sys) : Prop where
  running : s.worker.pc.alive = true → s.worker.running = true
  runMutex : s.worker.pc.looping = true → s.runMutex = some .worker
  starter : ∀ i c, s.callers[i]? = some c → c.pc = .lockStart → s.runMutex = some (.caller i)

/-- Before any call the invariant holds. -/
theorem sysInv_init (calls : List Call) : SysInv (Sys.init calls) where
  running := by simp [Sys.init, SyncState.new, Pc.alive]
  runMutex := by simp [Sys.init, SyncState.new, Pc.looping]
  starter i c h hc := by
    simp only [Sys.init, List.getElem?_map, Option.map_eq_some'] at h
    obtain ⟨_, -, rfl⟩ := h
    cases hc

/-- A step of the worker keeps the invariant. -/
theorem SysInv.worker_step {s s' : Sys} {r : Reply} (hi : SysInv s)
    (h : sysStep cfg s (.worker r) = some s') : SysInv s' := by
  have hs := sysStep_worker h
  have hstart : ∀ (i : Nat) (c : Caller), s'.callers[i]? = some c → c.pc = .lockStart →
      s.callers[i]? = some c := by
    intro i c hc hpc
    rcases workerStep_callers h with heq | ⟨j, heq⟩
    · rwa [heq] at hc
    · exact (Sys.lockStart_of_setPc (heq ▸ hc) hpc (by simp)).2
  refine ⟨fun ha => ?_, fun hl => ?_, fun i c hc hpc => ?_⟩
  · obtain ⟨ha₀, hrun⟩ := hs.alive_running ha
    rw [hrun]
    exact hi.running ha₀
  · rcases workerStep_runMutex h with ⟨-, -, hm⟩ | ⟨hidle, -⟩ | ⟨hne, hm⟩
    · exact hm
    · simp [hidle, Pc.looping] at hl
    · rcases hs.looping_cases hl with hl₀ | hlr
      · rw [hm]
        exact hi.runMutex hl₀
      · exact absurd hlr hne
  · have hm₀ := hi.starter i c (hstart i c hc hpc) hpc
    rcases workerStep_runMutex h with ⟨-, hnone, -⟩ | ⟨hidle, -⟩ | ⟨-, hm⟩
    · simp [hnone] at hm₀
    · simp [hi.runMutex (hs.looping_of_idle hidle)] at hm₀
    · rw [hm]
      exact hm₀

/-- A step of a caller keeps the invariant. -/
theorem SysInv.caller_step {s s' : Sys} {i : Nat} (hi : SysInv s)
    (h : sysStep cfg s (.caller i) = some s') : SysInv s' := by
  have keep : ∀ pc, pc ≠ .lockStart → ∀ j c, (s.setPc i pc).callers[j]? = some c →
      c.pc = .lockStart → s.runMutex = some (.caller j) := fun pc hpc j c hc hl =>
    hi.starter j c (Sys.lockStart_of_setPc hc hl hpc).2 hl
  simp only [sysStep, callerStep] at h
  split at h
  · cases h
  rename_i c hc
  split at h
  · split at h
    · split at h
      · cases h
        exact ⟨hi.running, hi.runMutex, keep _ (by simp)⟩
      · cases h
        exact ⟨hi.running, hi.runMutex, keep _ (by simp)⟩
    · cases h
  · cases h
    exact ⟨hi.running, hi.runMutex, keep _ (by simp)⟩
  · split at h
    · cases h
      rename_i hnone
      refine ⟨hi.running, fun hl => by simp [hi.runMutex hl] at hnone, fun j c' hc' hl => ?_⟩
      simp only [Sys.setPc_getElem?] at hc' ⊢
      split at hc'
      · subst_vars
        rfl
      · simp [hi.starter j c' hc' hl] at hnone
    · cases h
  · rename_i hpc
    have hm := hi.starter i c hc hpc
    split at h
    · split at h
      · cases h
        refine ⟨hi.running, fun hl => by simp [hi.runMutex hl] at hm, fun j c' hc' hl => ?_⟩
        obtain ⟨hij, hc''⟩ := Sys.lockStart_of_setPc hc' hl (by simp)
        have hj := hi.starter j c' hc'' hl
        rw [hm] at hj
        exact absurd (Tid.caller.inj (Option.some.inj hj)) hij
      · cases h
        refine ⟨fun _ => rfl, fun hl => by simp [SyncState.started, Pc.looping] at hl,
          fun j c' hc' hl => ?_⟩
        obtain ⟨hij, hc''⟩ := Sys.lockStart_of_setPc hc' hl (by simp)
        have hj := hi.starter j c' hc'' hl
        rw [hm] at hj
        exact absurd (Tid.caller.inj (Option.some.inj hj)) hij
    · cases h
  · split at h
    · cases h
      exact ⟨hi.running, hi.runMutex, keep _ (by simp)⟩
    · cases h
  · cases h

/-- Every step keeps the invariant. -/
theorem SysInv.step {s s' : Sys} {a : Action} (hi : SysInv s) (h : sysStep cfg s a = some s') :
    SysInv s' := by
  cases a with
  | worker r => exact hi.worker_step h
  | caller i => exact hi.caller_step h

/-- The invariant holds in every state reachable from one where it holds. -/
theorem Reachable.inv {s₀ s : Sys} (h : Reachable cfg s₀ s) (h₀ : SysInv s₀) : SysInv s := by
  induction h with
  | init => exact h₀
  | step _ hs ih => exact ih.step hs

/-- {lit}`startSync(0)` and {lit}`startSync(5)` called: the first has passed
its {lit}`running` check and taken {lit}`runMutex`, and is at line 57. -/
def startingSys : Sys :=
  (sysRun tinyConfig (Sys.init [.startSync 0, .startSync 5]) [.caller 0, .caller 0]).getD
    (Sys.init [])

/-- Then the first {lit}`startSync` has spawned the worker, which has taken
{lit}`runMutex` and is at the synchronized check of epoch {lit}`0`. -/
def workingSys : Sys :=
  (sysRun tinyConfig (Sys.init [.startSync 0, .startSync 5])
    [.caller 0, .caller 0, .caller 0, .worker .tick, .worker (.synced false)]).getD (Sys.init [])

/-- {lit}`startSync(0)` runs and {lit}`IsEpochSynchronized` panics in the
worker; then {lit}`isEpochAhead(5)` and {lit}`startSync(7)` are called. -/
def panicActions : List Action :=
  [.caller 0, .caller 0, .caller 0, .worker .tick, .worker .panic, .caller 1, .caller 2]

/-- After a recovered panic no worker exists, yet {lit}`running` is set,
{lit}`isEpochAhead(5)` answers {lit}`true`, and {lit}`startSync(7)` sends on
{lit}`killChan` and never returns. -/
theorem panic_keeps_running :
    ∃ s, Reachable tinyConfig (Sys.init [.startSync 0, .isEpochAhead 5, .startSync 7]) s ∧
      s.worker.pc.alive = false ∧ s.worker.running = true ∧
      s.callers.map (·.pc) = [.done true, .done true, .send] ∧
      ∀ a, sysStep tinyConfig s a = none := by
  obtain ⟨s, hs, hp⟩ := reach_of_sysRun (p := fun s => s.stuck && !s.worker.pc.alive &&
    s.worker.running && s.callers.map (·.pc) == [.done true, .done true, .send]) (by decide :
      (sysRun tinyConfig (Sys.init [.startSync 0, .isEpochAhead 5, .startSync 7])
        panicActions).map _ = some true)
  simp only [Bool.and_eq_true, Bool.not_eq_true', beq_iff_eq] at hp
  obtain ⟨⟨⟨hstuck, ha⟩, hr⟩, hc⟩ := hp
  exact ⟨s, hs, ha, hr, hc, stuck_no_step hstuck⟩

/-- {lit}`startSync` starts a worker only when no worker goroutine exists: two
workers never run side by side. -/
theorem spawn_only_idle {calls : List Call} {s s' : Sys} {i : Nat}
    (h : Reachable cfg (Sys.init calls) s) (hs : sysStep cfg s (.caller i) = some s')
    (hne : s'.worker ≠ s.worker) : s.worker.pc.alive = false := by
  rcases callerStep_worker hs with heq | ⟨hrun, -⟩
  · exact absurd heq hne
  · cases ha : s.worker.pc.alive
    · rfl
    · simp [(h.inv (sysInv_init calls)).running ha] at hrun

/-- The first {lit}`startSync` spawns the worker where none exists. -/
theorem spawn_only_idle_first : startingSys.worker.pc.alive = false :=
  spawn_only_idle (i := 0)
    (Reachable.of_actions tinyConfig [.startSync 0, .startSync 5] [.caller 0, .caller 0] rfl)
    (rfl : sysStep tinyConfig startingSys (.caller 0) =
      some { startingSys.setPc 0 (.done true) with
        worker := SyncState.new.started 0, runMutex := none })
    fun h => absurd (congrArg (·.pc.alive) h) (by decide)

/-- Inside the system the worker is a run of {lit}`runSync`: in every reachable
state it is the new synchronizer, or the end of a run started by the last
{lit}`startSync` that spawned a worker. -/
theorem Reachable.worker_run {calls : List Call} {s : Sys} (h : Reachable cfg (Sys.init calls) s) :
    s.worker = SyncState.new ∨
      ∃ (σ₀ : SyncState) (e : UInt64) (tr : List (SyncState × Reply)),
        Run cfg (σ₀.started e) tr s.worker := by
  induction h with
  | init => exact .inl rfl
  | @step s s' a _ hs ih =>
    cases a with
    | worker r =>
      have hw := sysStep_worker_eq hs
      rcases ih with hnew | ⟨σ₀, e, tr, hr⟩
      · rw [hnew] at hw
        cases r <;> simp [Synchronizer.step, SyncState.new, SyncState.callsOut] at hw
      · exact .inr ⟨σ₀, e, _, hr.snoc hw⟩
    | caller i =>
      rcases callerStep_worker hs with heq | ⟨-, e, heq⟩
      · exact heq ▸ ih
      · exact .inr ⟨s.worker, e, [], heq ▸ .nil _⟩

/-- The worker of {lean}`workingSys` is a run of {lit}`startSync(0)`. -/
theorem worker_run_working :
    workingSys.worker = SyncState.new ∨
      ∃ (σ₀ : SyncState) (e : UInt64) (tr : List (SyncState × Reply)),
        Run tinyConfig (σ₀.started e) tr workingSys.worker :=
  Reachable.worker_run (Reachable.of_actions tinyConfig [.startSync 0, .startSync 5]
    [.caller 0, .caller 0, .caller 0, .worker .tick, .worker (.synced false)] rfl)

/-- {lit}`startSync(0)` runs; in epoch {lit}`0` the worker receives the send of
{lit}`startSync(5)` at the check after the assignments. -/
def stopActions : List Action :=
  [.caller 0, .caller 0, .caller 0, .worker .tick, .worker (.synced false),
    .worker (.assignments (.ok (some noDuties))), .caller 1, .worker (.kill true)]

/-- The rest of the run: the cooldown check finds no sender, and the loop
syncs and commits epoch {lit}`0` and moves the cursor. -/
def afterStopActions : List Action :=
  [.caller 1, .worker .tick, .worker (.kill false), .worker (.synced false),
    .worker (.assignments (.ok (some noDuties))), .worker (.kill false), .worker .tick,
    .worker (.header (.ok none)), .worker .tick, .worker (.kill false),
    .worker (.stats (some ⟨[]⟩)), .worker (.kill false), .worker .tick, .worker .tick,
    .worker .tick, .worker (.db none), .worker (.db none), .worker (.db none),
    .worker (.db none), .worker .tick, .worker .tick, .worker (.finalized maxFinalized),
    .worker .tick]

/-- After the worker received a value from {lit}`killChan` inside
{lit}`syncEpoch(0)`, which returned {lit}`(false, nil)`, it calls
{lit}`syncEpoch` again, commits a transaction and moves the cursor. -/
theorem stop_signal_swallowed :
    ∃ s₁, Reachable tinyConfig (Sys.init [.startSync 0, .startSync 5]) s₁ ∧
      s₁.callers.map (·.pc) = [.done true, .unlock] ∧ s₁.worker.pc.returned = some (0, false) ∧
      s₁.worker.db = [] ∧ s₁.worker.currentEpoch = 0 ∧
      ∃ s₂, Reachable tinyConfig s₁ s₂ ∧ s₂.worker.db.length = 1 ∧ s₂.worker.currentEpoch = 1 := by
  obtain ⟨s₁, hs₁, hp⟩ := reach_of_sysRun (p := fun s =>
    s.callers.map (·.pc) == [.done true, .unlock] && s.worker.pc.returned == some (0, false) &&
      s.worker.db.isEmpty && s.worker.currentEpoch == 0 &&
      (sysRun tinyConfig s afterStopActions).map (fun s₂ =>
        s₂.worker.db.length == 1 && s₂.worker.currentEpoch == 1) == some true) (by decide :
      (sysRun tinyConfig (Sys.init [.startSync 0, .startSync 5]) stopActions).map _ = some true)
  simp only [Bool.and_eq_true, beq_iff_eq, List.isEmpty_iff] at hp
  obtain ⟨⟨⟨⟨hc, hr⟩, hdb⟩, he⟩, hq⟩ := hp
  obtain ⟨s₂, hrun, hp₂⟩ := Option.map_eq_some'.mp hq
  simp only [Bool.and_eq_true, beq_iff_eq] at hp₂
  exact ⟨s₁, hs₁, hc, hr, hdb, he, s₂, Reachable.init.of_sysRun hrun, hp₂⟩

/-- No other goroutine moves the cursor under a call of {lit}`syncEpoch`: in
every reachable state each statement of a call works on the worker's
{lit}`currentEpoch`. -/
theorem Reachable.worker_epochInv {calls : List Call} {s : Sys}
    (h : Reachable cfg (Sys.init calls) s) : EpochInv s.worker := by
  induction h with
  | init =>
    intro e he
    simp [Sys.init, SyncState.new, Pc.epochOf] at he
  | @step s s' a _ hs ih =>
    cases a with
    | worker r => exact (sysStep_worker hs).epochInv ih
    | caller i =>
      rcases callerStep_worker hs with heq | ⟨-, e, heq⟩
      · exact heq ▸ ih
      · exact heq ▸ epochInv_started s.worker e

/-- In the worker of {lean}`workingSys` the call works on epoch {lit}`0`, the
cursor. -/
theorem worker_epochInv_working : EpochInv workingSys.worker :=
  Reachable.worker_epochInv (Reachable.of_actions tinyConfig [.startSync 0, .startSync 5]
    [.caller 0, .caller 0, .caller 0, .worker .tick, .worker (.synced false)] rfl)

example : workingSys.worker.pc.epochOf = some 0 := by decide

/-- A {lit}`startSync` about to start a worker at line 57 holds
{lit}`runMutex`, so the loop of the previous worker has ended, and no other
{lit}`startSync` is there. -/
theorem lockStart_exclusive {calls : List Call} {s : Sys} (h : Reachable cfg (Sys.init calls) s)
    {i : Nat} {c : Caller} (hc : s.callers[i]? = some c) (hpc : c.pc = .lockStart) :
    s.worker.pc.looping = false ∧
      ∀ j c', s.callers[j]? = some c' → c'.pc = .lockStart → j = i := by
  have hi := h.inv (sysInv_init calls)
  have hm := hi.starter i c hc hpc
  refine ⟨?_, fun j c' hc' hpc' => ?_⟩
  · cases hl : s.worker.pc.looping
    · rfl
    · rw [hi.runMutex hl] at hm
      cases hm
  · have hj := hi.starter j c' hc' hpc'
    rw [hm] at hj
    exact (Tid.caller.inj (Option.some.inj hj)).symm

/-- In {lean}`startingSys` the first {lit}`startSync` alone is at line 57. -/
theorem lockStart_exclusive_first :
    startingSys.worker.pc.looping = false ∧
      ∀ j c', startingSys.callers[j]? = some c' → c'.pc = .lockStart → j = 0 :=
  lockStart_exclusive
    (Reachable.of_actions tinyConfig [.startSync 0, .startSync 5] [.caller 0, .caller 0] rfl)
    (c := ⟨.startSync 0, .lockStart⟩) rfl rfl

end Orchestrator
end BeaconSync
