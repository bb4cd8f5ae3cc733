import BeaconSync.Orchestrator.System

/-!
# Beacon synchronizer - Who holds the mutexes, and what a deadlock is

{lit}`startSync` stops a running worker with a send on {lit}`killChan` made
while it holds {lit}`stateMutex`, and the worker takes {lit}`stateMutex` itself
to move the cursor (line 91).  This module shows that every deadlock has such
a sender.  In every reachable state {lit}`stateMutex` is
held only by a {lit}`startSync` in its send or right after it, and
{lit}`runMutex` only by the worker while its loop runs or by a
{lit}`startSync` at line 57.  So while nobody holds {lit}`stateMutex`, the
holder of {lit}`runMutex` can move, and without one every goroutine that has
not returned can.

Main results:

- Structure {lit}`Orchestrator.LockInv` and theorem
  {lit}`Orchestrator.Reachable.lockInv`: the owners of the two mutexes in every
  reachable state.
- Theorem {lit}`Orchestrator.stateMutex_holder`: mutual exclusion on
  {lit}`stateMutex` between the callers in lines 47-51.
- Theorem {lit}`Orchestrator.LockInv.not_stuck_of_free`: no deadlock while
  {lit}`stateMutex` is free.
- Theorem {lit}`Orchestrator.stuck_sender`: every deadlock has a
  {lit}`startSync` blocked in its send on {lit}`killChan` while it holds
  {lit}`stateMutex`; {lit}`Orchestrator.crossedSys` is one where the worker
  waits for {lit}`runMutex` held by another {lit}`startSync`.
- Theorem {lit}`Orchestrator.start_deadlock`: a {lit}`startSync` that locks
  {lit}`stateMutex` between a finished epoch and the worker's lock blocks in its
  send while the worker blocks on the mutex, and no goroutine can move again.
-/

namespace BeaconSync
namespace Orchestrator

open Synchronizer

variable {cfg : Config}

/-! ## One step of a caller -/

/-- The moved caller is at its new place. -/
theorem Sys.setPc_self {s : Sys} {i : Nat} {c : Caller} (hc : s.callers[i]? = some c)
    (pc : CallerPc) : (s.setPc i pc).callers[i]? = some { c with pc := pc } := by
  simp [Sys.setPc_getElem?, hc]

/-- Every other caller stays where it is. -/
theorem Sys.setPc_ne {s : Sys} {i j : Nat} (hij : i ≠ j) (pc : CallerPc) :
    (s.setPc i pc).callers[j]? = s.callers[j]? := by
  simp [Sys.setPc_getElem?, hij]

/-- The caller a worker's receive releases is the one in its send. -/
theorem Sys.sender_pc {s : Sys} {i : Nat} (h : s.sender = some i) :
    ∃ c, s.callers[i]? = some c ∧ c.pc = .send := by
  have hp := List.findIdx?_of_eq_some h
  split at hp
  · exact ⟨_, ‹_›, by simpa using hp⟩
  · cases hp

/-- Where the caller at {lit}`j` is after the caller at {lit}`i` moves. -/
theorem Sys.setPc_getElem?_eq_some {s : Sys} {i j : Nat} {pc : CallerPc} {c c' : Caller}
    (hc : s.callers[i]? = some c) (h : (s.setPc i pc).callers[j]? = some c') :
    j = i ∧ c' = { c with pc := pc } ∨ j ≠ i ∧ s.callers[j]? = some c' := by
  by_cases hij : j = i
  · subst hij
    rw [Sys.setPc_self hc] at h
    exact .inl ⟨rfl, (Option.some.inj h).symm⟩
  · rw [Sys.setPc_ne (Ne.symm hij)] at h
    exact .inr ⟨hij, h⟩

/-- Everything one step of a caller can do: the statements of
{lit}`startSync` and {lit}`isEpochAhead`, with the mutex each one needs. -/
theorem callerStep_cases {s s' : Sys} {i : Nat} (h : sysStep cfg s (.caller i) = some s') :
    ∃ c, s.callers[i]? = some c ∧
      ((∃ e, c.call = .startSync e ∧ c.pc = .lock ∧ s.stateMutex = none ∧
          s.worker.running = true ∧ s' = { s.setPc i .send with stateMutex := some (.caller i) }) ∨
        (∃ e, c.call = .startSync e ∧ c.pc = .lock ∧ s.stateMutex = none ∧
          s' = s.setPc i .lockRun) ∨
        (∃ e, c.call = .startSync e ∧ c.pc = .unlock ∧
          s' = { s.setPc i .lockRun with stateMutex := none }) ∨
        (∃ e, c.call = .startSync e ∧ c.pc = .lockRun ∧ s.runMutex = none ∧
          s' = { s.setPc i .lockStart with runMutex := some (.caller i) }) ∨
        (∃ e, c.call = .startSync e ∧ c.pc = .lockStart ∧ s.stateMutex = none ∧
          s' = { s.setPc i (.done !s.worker.running) with
            worker := if s.worker.running then s.worker else s.worker.started e
            runMutex := none }) ∨
        (∃ e, c.call = .isEpochAhead e ∧ c.pc = .lock ∧ s.stateMutex = none ∧
          s' = s.setPc i (.done (s.worker.running && decide (s.worker.currentEpoch < e))))) := by
  simp only [sysStep, callerStep] at h
  split at h
  · cases h
  rename_i c hc
  refine ⟨c, hc, ?_⟩
  split at h <;> (try split at h) <;> (try split at h) <;> cases h
  · exact .inl ⟨_, ‹_›, ‹_›, ‹_›, ‹_›, rfl⟩
  · exact .inr (.inl ⟨_, ‹_›, ‹_›, ‹_›, rfl⟩)
  · exact .inr (.inr (.inl ⟨_, ‹_›, ‹_›, rfl⟩))
  · exact .inr (.inr (.inr (.inl ⟨_, ‹_›, ‹_›, ‹_›, rfl⟩)))
  · refine .inr (.inr (.inr (.inr (.inl ⟨_, ‹_›, ‹_›, ‹_›, ?_⟩))))
    simp [‹s.worker.running = true›, Sys.setPc]
  · refine .inr (.inr (.inr (.inr (.inl ⟨_, ‹_›, ‹_›, ‹_›, ?_⟩))))
    simp [‹¬s.worker.running = true›, Sys.setPc]
  · exact .inr (.inr (.inr (.inr (.inr ⟨_, ‹_›, ‹_›, ‹_›, rfl⟩))))

/-! ## The owners of the mutexes -/

/-- The statements of {lit}`startSync` that hold {lit}`stateMutex`: from the
test of {lit}`running` to the unlock after the send (lines 47-51). -/
def CallerPc.holdsState : CallerPc → Bool
  | .send | .unlock => true
  | _ => false

/-- Who holds the two mutexes. -/
structure LockInv (s : Sys) : Prop where
  /-- Only a {lit}`startSync` goes past the lock of line 36 or 47 and does not
  return there. -/
  shape : ∀ (i : Nat) (c : Caller), s.callers[i]? = some c →
    c.pc = .lock ∨ (∃ b, c.pc = .done b) ∨ ∃ e, c.call = .startSync e
  /-- {lit}`stateMutex` is held only by a caller in its send or right after
  it. -/
  state : ∀ t : Tid, s.stateMutex = some t →
    ∃ i c, t = .caller i ∧ s.callers[i]? = some c ∧ c.pc.holdsState = true
  /-- A caller in its send, or right after it, holds {lit}`stateMutex`. -/
  holder : ∀ (i : Nat) (c : Caller), s.callers[i]? = some c → c.pc.holdsState = true →
    s.stateMutex = some (.caller i)
  /-- The worker holds {lit}`runMutex` only while its loop runs. -/
  runWorker : s.runMutex = some .worker → s.worker.pc.looping = true
  /-- A caller holds {lit}`runMutex` only at line 57. -/
  runCaller : ∀ i : Nat, s.runMutex = some (.caller i) →
    ∃ c, s.callers[i]? = some c ∧ c.pc = .lockStart

/-- Before any call nobody holds a mutex. -/
theorem lockInv_init (calls : List Call) : LockInv (Sys.init calls) where
  shape i c h := by
    simp only [Sys.init, List.getElem?_map, Option.map_eq_some'] at h
    obtain ⟨_, -, rfl⟩ := h
    exact .inl rfl
  state t h := by cases h
  holder i c h hpc := by
    simp only [Sys.init, List.getElem?_map, Option.map_eq_some'] at h
    obtain ⟨_, -, rfl⟩ := h
    cases hpc
  runWorker h := by cases h
  runCaller i h := by cases h

/-- A caller of the state after a step of the worker is the caller before, or
the sender released to {lit}`unlock`. -/
theorem workerStep_caller {s s' : Sys} {r : Reply} (h : sysStep cfg s (.worker r) = some s')
    {j : Nat} {c : Caller} (hc : s'.callers[j]? = some c) :
    ∃ c₀, s.callers[j]? = some c₀ ∧ c.call = c₀.call ∧
      (c.pc = c₀.pc ∨ c₀.pc = .send ∧ c.pc = .unlock) := by
  rcases (workerStep_cases h).2.2.1 with heq | ⟨i, hsend, heq⟩
  · exact ⟨c, heq ▸ hc, rfl, .inl rfl⟩
  · rw [heq, Sys.setPc_getElem?] at hc
    split at hc
    · subst_vars
      obtain ⟨c₀, hc₀, rfl⟩ := Option.map_eq_some'.mp hc
      obtain ⟨c₁, hc₁, hpc⟩ := Sys.sender_pc hsend
      rw [hc₁] at hc₀
      cases hc₀
      exact ⟨_, hc₁, rfl, .inr ⟨hpc, rfl⟩⟩
    · exact ⟨c, hc, rfl, .inl rfl⟩

/-- A caller that a step of the worker does not release stays where it is. -/
theorem workerStep_caller_of_ne {s s' : Sys} {r : Reply} (h : sysStep cfg s (.worker r) = some s')
    {j : Nat} {c : Caller} (hc : s.callers[j]? = some c) :
    s'.callers[j]? = some c ∨ c.pc = .send ∧ s'.callers[j]? = some { c with pc := .unlock } := by
  rcases (workerStep_cases h).2.2.1 with heq | ⟨i, hsend, heq⟩
  · exact .inl (heq ▸ hc)
  · rw [heq]
    by_cases hij : i = j
    · subst hij
      obtain ⟨c₁, hc₁, hpc⟩ := Sys.sender_pc hsend
      rw [hc₁] at hc
      cases hc
      exact .inr ⟨hpc, Sys.setPc_self hc₁ _⟩
    · exact .inl (by rw [Sys.setPc_ne hij]; exact hc)

/-- A step of the worker keeps the owners of the mutexes. -/
theorem LockInv.worker_step {s s' : Sys} {r : Reply} (hi : LockInv s)
    (h : sysStep cfg s (.worker r) = some s') : LockInv s' := by
  obtain ⟨hw, hsm, -, hrun⟩ := workerStep_cases h
  have hs := step_sound cfg hw
  refine ⟨fun j c hc => ?_, fun t ht => ?_, fun j c hc hpc => ?_, fun hr => ?_, fun j hr => ?_⟩
  · obtain ⟨c₀, hc₀, hcall, hpc | ⟨hpc₀, -⟩⟩ := workerStep_caller h hc
    · rw [hpc, hcall]
      exact hi.shape j c₀ hc₀
    · rcases hi.shape j c₀ hc₀ with h' | ⟨b, h'⟩ | ⟨e, h'⟩ <;> simp_all
  · obtain ⟨j, c₀, rfl, hc₀, hpc₀⟩ := hi.state t (hsm ▸ ht)
    rcases workerStep_caller_of_ne h hc₀ with hc' | ⟨-, hc'⟩
    · exact ⟨j, c₀, rfl, hc', hpc₀⟩
    · exact ⟨j, _, rfl, hc', rfl⟩
  · obtain ⟨c₀, hc₀, -, hpc' | ⟨hpc₀, -⟩⟩ := workerStep_caller h hc
    · rw [hsm]
      exact hi.holder j c₀ hc₀ (hpc' ▸ hpc)
    · rw [hsm]
      exact hi.holder j c₀ hc₀ (by simp [hpc₀, CallerPc.holdsState])
  · rcases hrun with ⟨hpc, -, -⟩ | ⟨-, hnone⟩ | ⟨-, hidle, heq⟩
    · exact hs.looping_of_lockRun hpc
    · simp [hnone] at hr
    · exact hs.looping_of_looping (hi.runWorker (heq ▸ hr)) hidle
  · rcases hrun with ⟨-, -, hsome⟩ | ⟨-, hnone⟩ | ⟨-, -, heq⟩
    · simp [hsome] at hr
    · simp [hnone] at hr
    · obtain ⟨c₀, hc₀, hpc₀⟩ := hi.runCaller j (heq ▸ hr)
      rcases workerStep_caller_of_ne h hc₀ with hc' | ⟨hsend, -⟩
      · exact ⟨c₀, hc', hpc₀⟩
      · simp [hpc₀] at hsend

/-- A caller's step keeps the invariant when it follows the discipline of
{lit}`startSync`: it takes {lit}`stateMutex` when it enters lines 47-51, only
if the mutex is free, and gives it back when it leaves them; it takes
{lit}`runMutex` when it reaches line 57 and gives it back when it leaves; it
touches the worker only when the worker does not hold {lit}`runMutex`. -/
theorem LockInv.move {s s' : Sys} {i : Nat} {c : Caller} {pc : CallerPc} (hi : LockInv s)
    (hc : s.callers[i]? = some c) (hcs : s'.callers = (s.setPc i pc).callers)
    (hshape : pc = .lock ∨ (∃ b, pc = .done b) ∨ ∃ e, c.call = .startSync e)
    (hstate : s'.stateMutex = if pc.holdsState then some (.caller i)
      else if c.pc.holdsState then none else s.stateMutex)
    (hfree : pc.holdsState = true → c.pc.holdsState = false → s.stateMutex = none)
    (hrun : s'.runMutex = if pc = .lockStart then some (.caller i)
      else if c.pc = .lockStart then none else s.runMutex)
    (hworker : s'.runMutex = some .worker → s'.worker = s.worker) : LockInv s' := by
  have self : s'.callers[i]? = some { c with pc := pc } := by rw [hcs, Sys.setPc_self hc]
  -- a caller at a place the moving caller is not at is another caller, and stays
  have keep {j : Nat} {c₀ : Caller} {p : CallerPc → Prop} (hc₀ : s.callers[j]? = some c₀)
      (h₀ : p c₀.pc) (hn : ¬p c.pc) : s'.callers[j]? = some c₀ := by
    have hj : j ≠ i := by
      rintro rfl
      rw [hc] at hc₀
      cases hc₀
      exact hn h₀
    rw [hcs, Sys.setPc_ne (Ne.symm hj), hc₀]
  refine ⟨fun j c' hc' => ?_, fun t ht => ?_, fun j c' hc' hh => ?_, fun hr => ?_, fun j hr => ?_⟩
  · rw [hcs] at hc'
    rcases Sys.setPc_getElem?_eq_some hc hc' with ⟨-, rfl⟩ | ⟨-, hc'⟩
    · exact hshape
    · exact hi.shape j c' hc'
  · rw [hstate] at ht
    by_cases h₁ : pc.holdsState = true
    · rw [if_pos h₁] at ht
      exact ⟨i, _, (Option.some.inj ht).symm, self, h₁⟩
    by_cases h₂ : c.pc.holdsState = true
    · simp [h₁, h₂] at ht
    rw [if_neg h₁, if_neg h₂] at ht
    obtain ⟨j, c₀, rfl, hc₀, hh⟩ := hi.state t ht
    exact ⟨j, c₀, rfl, keep (p := (·.holdsState = true)) hc₀ hh h₂, hh⟩
  · rw [hcs] at hc'
    rcases Sys.setPc_getElem?_eq_some hc hc' with ⟨rfl, rfl⟩ | ⟨hj, hc'⟩
    · rw [hstate, if_pos hh]
    · -- the holder is the other caller, so the moving one is outside lines 47-51
      -- and, the mutex being taken, does not enter them
      have h₀ := hi.holder j c' hc' hh
      have hs : c.pc.holdsState ≠ true := fun h =>
        hj (by simpa using h₀.symm.trans (hi.holder i c hc h))
      have hp : pc.holdsState ≠ true := fun h => by simp [hfree h (by simpa using hs)] at h₀
      rw [hstate, if_neg hp, if_neg hs, h₀]
  · rw [hworker hr]
    rw [hrun] at hr
    split_ifs at hr <;> first | cases hr | exact hi.runWorker hr
  · rw [hrun] at hr
    by_cases h₁ : pc = .lockStart
    · rw [if_pos h₁] at hr
      cases hr
      exact ⟨_, self, h₁⟩
    by_cases h₂ : c.pc = .lockStart
    · simp [h₁, h₂] at hr
    rw [if_neg h₁, if_neg h₂] at hr
    obtain ⟨c₀, hc₀, hl⟩ := hi.runCaller j hr
    exact ⟨c₀, keep (p := (· = .lockStart)) hc₀ hl h₂, hl⟩

/-- Every statement of {lit}`startSync` and {lit}`isEpochAhead` follows the
discipline of {lean}`LockInv.move`. -/
theorem LockInv.caller_step {s s' : Sys} {i : Nat} (hi : LockInv s)
    (h : sysStep cfg s (.caller i) = some s') : LockInv s' := by
  obtain ⟨c, hc, hcase⟩ := callerStep_cases h
  clear h
  rcases hcase with ⟨e, hcall, hpc, hsm, -, rfl⟩ | ⟨e, hcall, hpc, hsm, rfl⟩ |
      ⟨e, hcall, hpc, rfl⟩ | ⟨e, hcall, hpc, -, rfl⟩ | ⟨e, hcall, hpc, hsm, rfl⟩ |
      ⟨e, hcall, hpc, hsm, rfl⟩ <;>
    exact hi.move hc rfl (by simp [hcall]) (by simp [Sys.setPc, CallerPc.holdsState, hpc])
      (by simp [CallerPc.holdsState, hpc, *]) (by simp [Sys.setPc, hpc]) (by simp [Sys.setPc])

/-- The owners of the mutexes in every reachable state. -/
theorem Reachable.lockInv {calls : List Call} {s : Sys} (h : Reachable cfg (Sys.init calls) s) :
    LockInv s := by
  induction h with
  | init => exact lockInv_init calls
  | @step s s' a _ hs ih =>
    cases a with
    | worker r => exact ih.worker_step hs
    | caller i => exact ih.caller_step hs

/-- Two {lit}`startSync` calls pass the test of {lit}`running` before either
starts a worker.  The first starts one; the second takes {lit}`runMutex` at
line 53 before the new worker takes it at line 76; a third {lit}`startSync`
then takes {lit}`stateMutex` and sends. -/
def crossedActions : List Action :=
  [.caller 0, .caller 1, .caller 0, .caller 0, .caller 1, .caller 2]

/-- The end of {lean}`crossedActions`. -/
def crossedSys : Sys :=
  (sysRun tinyConfig (Sys.init [.startSync 0, .startSync 3, .startSync 5]) crossedActions).getD
    (Sys.init [])

/-- Mutual exclusion on {lit}`stateMutex`: a {lit}`startSync` in lines 47-51
holds it, and no other caller is there. -/
theorem stateMutex_holder {calls : List Call} {s : Sys} (h : Reachable cfg (Sys.init calls) s)
    {i : Nat} {c : Caller} (hc : s.callers[i]? = some c) (hh : c.pc.holdsState = true) :
    s.stateMutex = some (.caller i) ∧
      ∀ (j : Nat) (c' : Caller), s.callers[j]? = some c' → c'.pc.holdsState = true → j = i := by
  have hl := h.lockInv
  refine ⟨hl.holder i c hc hh, fun j c' hc' hh' => ?_⟩
  simpa using (hl.holder j c' hc' hh').symm.trans (hl.holder i c hc hh)

/-- At the end of {lean}`crossedActions` the third {lit}`startSync` is in its
send, alone. -/
theorem stateMutex_holder_crossed : crossedSys.stateMutex = some (.caller 2) ∧
    ∀ (j : Nat) (c' : Caller), crossedSys.callers[j]? = some c' → c'.pc.holdsState = true →
      j = 2 :=
  stateMutex_holder
    (Reachable.of_actions tinyConfig [.startSync 0, .startSync 3, .startSync 5] crossedActions rfl)
    (c := ⟨.startSync 5, .send⟩) (by decide) rfl

/-! ## Deadlocks -/

/-- A caller that cannot move waits in its send, has returned, waits for
{lit}`runMutex` at line 53, or waits for {lit}`stateMutex` at line 36, 47 or
57. -/
theorem LockInv.caller_blocked {s : Sys} {i : Nat} {c : Caller} (hl : LockInv s)
    (hc : s.callers[i]? = some c) (he : s.callerEnabled i = false) :
    c.pc = .send ∨ (∃ b, c.pc = .done b) ∨ (c.pc = .lockRun ∧ s.runMutex.isSome) ∨
      (s.stateMutex.isSome ∧ (c.pc = .lock ∨ c.pc = .lockStart)) := by
  simp only [Sys.callerEnabled, hc] at he
  rcases hl.shape i c hc with hpc | ⟨b, hpc⟩ | ⟨e, hcall⟩
  · cases hcall : c.call <;> simp_all
  · exact .inr (.inl ⟨b, hpc⟩)
  · cases hpc : c.pc <;> simp_all

/-- With {lit}`stateMutex` free, a caller that cannot move waits for
{lit}`runMutex` at line 53 or has returned. -/
theorem LockInv.caller_blocked_of_free {s : Sys} {i : Nat} {c : Caller} (hl : LockInv s)
    (hsm : s.stateMutex = none) (hc : s.callers[i]? = some c) (he : s.callerEnabled i = false) :
    c.pc = .lockRun ∧ s.runMutex.isSome ∨ ∃ b, c.pc = .done b := by
  rcases hl.caller_blocked hc he with h' | h' | h' | ⟨h', -⟩
  · simp [hl.holder i c hc (by simp [h', CallerPc.holdsState])] at hsm
  · exact .inr h'
  · exact .inl h'
  · simp [hsm] at h'

/-- With {lit}`stateMutex` free, a worker that cannot move has returned or
waits for {lit}`runMutex` at line 76. -/
theorem Sys.worker_blocked {s : Sys} (hsm : s.stateMutex = none) (hw : s.workerEnabled = false) :
    s.worker.pc = .idle ∨ s.worker.pc = .lockRun ∧ s.runMutex.isSome := by
  unfold Sys.workerEnabled at hw
  split at hw <;> simp_all

/-- A deadlock: a goroutine has not finished, the worker cannot move, and no
caller can. -/
theorem Sys.stuck_eq_true {s : Sys} (h : s.stuck = true) :
    (s.worker.pc.alive = true ∨ ∃ (i : Nat) (c : Caller), s.callers[i]? = some c ∧
        ∀ b, c.pc ≠ .done b) ∧
      s.workerEnabled = false ∧
      ∀ (i : Nat) (c : Caller), s.callers[i]? = some c → s.callerEnabled i = false := by
  simp only [Sys.stuck, Bool.and_eq_true, Bool.or_eq_true, Bool.not_eq_true', List.all_eq_true,
    List.mem_range, List.any_eq_true] at h
  obtain ⟨⟨hlive, hw⟩, hc⟩ := h
  refine ⟨hlive.imp_right fun ⟨c, hmem, hnd⟩ => ?_, hw,
    fun i c hci => hc i (List.getElem?_eq_some_iff.mp hci).1⟩
  obtain ⟨i, hci⟩ := List.mem_iff_getElem?.mp hmem
  exact ⟨i, c, hci, fun b hb => by simp [hb] at hnd⟩

/-- While nobody holds {lit}`stateMutex`, a goroutine that has not finished
can move: the holder of {lit}`runMutex` can, and without one the worker and
every caller have returned. -/
theorem LockInv.not_stuck_of_free {s : Sys} (hl : LockInv s) (hsm : s.stateMutex = none) :
    s.stuck = false := by
  cases hs : s.stuck
  · rfl
  obtain ⟨hlive, hw, hc⟩ := Sys.stuck_eq_true hs
  have hcaller := fun (i : Nat) (c : Caller) (hci : s.callers[i]? = some c) =>
    hl.caller_blocked_of_free hsm hci (hc i c hci)
  have hworker := Sys.worker_blocked hsm hw
  cases hrm : s.runMutex with
  | none =>
    rcases hlive with ha | ⟨i, c, hci, hnd⟩
    · simp_all [Pc.alive]
    · rcases hcaller i c hci with ⟨-, h'⟩ | ⟨b, h'⟩
      · simp [hrm] at h'
      · exact absurd h' (hnd b)
  | some t =>
    cases t with
    | worker =>
      have hloop := hl.runWorker hrm
      rcases hworker with h' | ⟨h', -⟩ <;> simp [h', Pc.looping] at hloop
    | caller k =>
      obtain ⟨c, hck, hpc⟩ := hl.runCaller k hrm
      rcases hcaller k c hck with ⟨h', -⟩ | ⟨b, h'⟩ <;> simp [h'] at hpc

/-- In every deadlock a {lit}`startSync` is blocked in its send on
{lit}`killChan` (line 49) and holds {lit}`stateMutex`. -/
theorem stuck_sender {calls : List Call} {s : Sys} (h : Reachable cfg (Sys.init calls) s)
    (hs : s.stuck = true) :
    ∃ i c, s.callers[i]? = some c ∧ c.pc = .send ∧ s.stateMutex = some (.caller i) := by
  have hl := h.lockInv
  cases hsm : s.stateMutex with
  | none => simp [hl.not_stuck_of_free hsm] at hs
  | some t =>
    obtain ⟨i, c, rfl, hci, hh⟩ := hl.state t hsm
    refine ⟨i, c, hci, ?_, rfl⟩
    -- the holder is in its send, or after it, where it could move
    rcases hl.caller_blocked hci ((Sys.stuck_eq_true hs).2.2 i c hci) with
      h' | ⟨b, h'⟩ | ⟨h', -⟩ | ⟨-, h' | h'⟩ <;> simp_all [CallerPc.holdsState]

/-- A deadlock of three goroutines: the sender waits for the worker, the worker
for {lit}`runMutex`, and its holder for {lit}`stateMutex`. -/
theorem stuck_sender_crossed : crossedSys.stuck = true ∧ crossedSys.runMutex = some (.caller 1) ∧
    ∃ i c, crossedSys.callers[i]? = some c ∧ c.pc = .send ∧
      crossedSys.stateMutex = some (.caller i) :=
  ⟨by decide, by decide, stuck_sender
    (Reachable.of_actions tinyConfig [.startSync 0, .startSync 3, .startSync 5] crossedActions rfl)
    (by decide)⟩

/-- {lit}`startSync(0)` runs and the worker finds epoch {lit}`0` synchronized
and reads the finalized head; then {lit}`startSync(5)` takes
{lit}`stateMutex` and sends. -/
def deadlockActions : List Action :=
  [.caller 0, .caller 0, .caller 0, .worker .tick, .worker (.synced true),
    .worker (.finalized maxFinalized), .caller 1]

/-- A reachable deadlock: the worker waits for {lit}`stateMutex` to move the
cursor past epoch {lit}`0`, the second {lit}`startSync` holds it and waits in
its send for a receive the worker never reaches. -/
theorem start_deadlock : ∃ s, Reachable tinyConfig (Sys.init [.startSync 0, .startSync 5]) s ∧
    s.worker.pc.settledEpoch = some 0 ∧ s.stateMutex = some (.caller 1) ∧
    s.callers.map (·.pc) = [.done true, .send] ∧ ∀ a, sysStep tinyConfig s a = none := by
  obtain ⟨s, hs, hp⟩ := reach_of_sysRun (p := fun s => s.stuck &&
    s.worker.pc.settledEpoch == some 0 && s.stateMutex == some (.caller 1) &&
    s.callers.map (·.pc) == [.done true, .send]) (by decide :
      (sysRun tinyConfig (Sys.init [.startSync 0, .startSync 5]) deadlockActions).map _ = some true)
  simp only [Bool.and_eq_true, beq_iff_eq] at hp
  obtain ⟨⟨⟨hstuck, he⟩, hm⟩, hc⟩ := hp
  exact ⟨s, hs, he, hm, hc, stuck_no_step hstuck⟩

end Orchestrator
end BeaconSync
