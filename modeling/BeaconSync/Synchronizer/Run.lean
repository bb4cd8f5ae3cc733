import BeaconSync.Synchronizer.State

/-!
# Beacon synchronizer - Runs of the goroutine and their traces

A run of {lit}`runSync` is a sequence of steps, each with the reply its
statement got.  The run keeps that trace, so that properties about what the
collaborators answered ("storage reported the epoch synchronized") and about
what the goroutine did ("it committed the epoch") can be read off it.  A run
starts in the state {lit}`startSync(startEpoch)` leaves for the new goroutine.

This module also says once, per field of the state, what a single step can do
to it; every invariant of the later modules is derived from these lemmas and
never unfolds {lit}`step`.

Main results:

- Inductive {lit}`Synchronizer.Run` and function {lit}`Synchronizer.run`, with
  {lit}`Synchronizer.run_sound` linking the executable run to the relation.
- Theorems {lit}`Synchronizer.Step.currentEpoch_cases`,
  {lit}`Synchronizer.Step.db_cases`, {lit}`Synchronizer.Step.cachedSlot_cases`
  and {lit}`Synchronizer.Step.cachedBlocks_cases`: the frame of one step.
-/

namespace BeaconSync
namespace Synchronizer

/-- {lit}`newSynchronizer`: every field at its zero value, over empty storage. -/
def SyncState.new : SyncState :=
  { pc := .idle, running := false, currentEpoch := 0, cachedSlot := 0,
    cachedBlocks := fun _ => none, db := [] }

/-- The state {lit}`startSync(startEpoch)` leaves for the goroutine it spawns
(lines 63-66): the loop has not started and {lit}`running` is set. -/
def SyncState.started (σ : SyncState) (startEpoch : UInt64) : SyncState :=
  { σ with pc := .lockRun, running := true, currentEpoch := startEpoch }

variable (cfg : Config)

/-- A run from {lit}`σ₀`: the state and the reply of every step, in order. -/
inductive Run : SyncState → List (SyncState × Reply) → SyncState → Prop where
  | nil (σ : SyncState) : Run σ [] σ
  | snoc {σ₀ σ σ' : SyncState} {tr : List (SyncState × Reply)} {r : Reply} :
    Run σ₀ tr σ → step cfg σ r = some σ' → Run σ₀ (tr ++ [(σ, r)]) σ'

/-- The executable run: feed the replies to {lean}`step` one after the other,
keeping the trace. -/
def run : SyncState → List Reply → Option (List (SyncState × Reply) × SyncState)
  | σ, [] => some ([], σ)
  | σ, r :: rs => (step cfg σ r).bind fun σ₁ => (run σ₁ rs).map fun p => ((σ, r) :: p.1, p.2)

variable {cfg} {σ σ' : SyncState} {r : Reply}

theorem Run.cons {σ₀ σ₁ σ : SyncState} {r : Reply} {tr : List (SyncState × Reply)}
    (h₀ : step cfg σ₀ r = some σ₁) (h : Run cfg σ₁ tr σ) : Run cfg σ₀ ((σ₀, r) :: tr) σ := by
  induction h with
  | nil => exact .snoc (.nil σ₀) h₀
  | snoc _ hs ih => exact .snoc ih hs

theorem Run.append {σ₀ σ₁ σ : SyncState} {tr₁ tr₂ : List (SyncState × Reply)}
    (h₁ : Run cfg σ₀ tr₁ σ₁) (h₂ : Run cfg σ₁ tr₂ σ) : Run cfg σ₀ (tr₁ ++ tr₂) σ := by
  induction h₂ with
  | nil => simpa using h₁
  | snoc _ hs ih => exact List.append_assoc .. ▸ .snoc ih hs

/-- Every run the executable function completes is a run of the relation. -/
theorem run_sound {σ₀ σ : SyncState} {rs : List Reply} {tr : List (SyncState × Reply)}
    (h : run cfg σ₀ rs = some (tr, σ)) : Run cfg σ₀ tr σ := by
  induction rs generalizing σ₀ tr with
  | nil => cases h; exact .nil _
  | cons r rs ih =>
    obtain ⟨σ₁, h₁, hrest⟩ := Option.bind_eq_some.mp h
    obtain ⟨⟨tr₁, σ'⟩, hr, heq⟩ := Option.map_eq_some'.mp hrest
    cases heq
    exact .cons h₁ (ih hr)

theorem Run.nil_inv {σ₀ σ : SyncState} (h : Run cfg σ₀ [] σ) : σ = σ₀ := by
  generalize hl : ([] : List (SyncState × Reply)) = l at h
  cases h with
  | nil => rfl
  | snoc => simp at hl

/-- A run read from its first step. -/
theorem Run.uncons {σ₀ σ σ₁ : SyncState} {r : Reply} {tr : List (SyncState × Reply)}
    (h : Run cfg σ₀ ((σ₁, r) :: tr) σ) :
    σ₁ = σ₀ ∧ ∃ σ', step cfg σ₀ r = some σ' ∧ Run cfg σ' tr σ := by
  generalize hl : (σ₁, r) :: tr = l at h
  induction h generalizing tr with
  | nil => cases hl
  | @snoc σ₂ σ₃ tr₁ r₁ h₁ hs ih =>
    cases tr₁ with
    | nil =>
      obtain rfl := h₁.nil_inv
      simp only [List.nil_append, List.cons.injEq, Prod.mk.injEq] at hl
      obtain ⟨⟨rfl, rfl⟩, rfl⟩ := hl
      exact ⟨rfl, _, hs, .nil _⟩
    | cons q tr₁ =>
      simp only [List.cons_append, List.cons.injEq] at hl
      obtain ⟨rfl, rfl⟩ := hl
      obtain ⟨rfl, σ', hs', h'⟩ := ih rfl
      exact ⟨rfl, σ', hs', .snoc h' hs⟩

/-- A run read as two runs, split at any point of its trace. -/
theorem Run.split {σ₀ σ : SyncState} {tr₁ tr₂ : List (SyncState × Reply)}
    (h : Run cfg σ₀ (tr₁ ++ tr₂) σ) : ∃ σ₁, Run cfg σ₀ tr₁ σ₁ ∧ Run cfg σ₁ tr₂ σ := by
  generalize hl : tr₁ ++ tr₂ = l at h
  induction h generalizing tr₂ with
  | nil =>
    obtain ⟨rfl, rfl⟩ := List.append_eq_nil.mp hl
    exact ⟨σ₀, .nil σ₀, .nil σ₀⟩
  | @snoc σ σ' tr r h' hs ih =>
    rcases List.eq_nil_or_concat tr₂ with rfl | ⟨tr₂', x, rfl⟩
    · rw [List.append_nil] at hl
      exact ⟨σ', hl ▸ h'.snoc hs, .nil σ'⟩
    · rw [List.concat_eq_append, ← List.append_assoc] at hl
      rw [List.concat_eq_append]
      obtain ⟨rfl, hx⟩ := List.append_inj' hl rfl
      obtain rfl := List.singleton_inj.mp hx
      obtain ⟨σ₁, h₁, h₂⟩ := ih rfl
      exact ⟨σ₁, h₁, h₂.snoc hs⟩

/-- Every step of a run is a step from a state the run reached. -/
theorem Run.mem_step {σ₀ σ : SyncState} {tr : List (SyncState × Reply)} (h : Run cfg σ₀ tr σ)
    {p : SyncState × Reply} (hp : p ∈ tr) :
    ∃ tr₁ σ', Run cfg σ₀ tr₁ p.1 ∧ step cfg p.1 p.2 = some σ' ∧ tr₁ ++ [p] <+: tr := by
  induction h with
  | nil => simp at hp
  | @snoc σ σ' tr r hr hs ih =>
    rcases List.mem_append.mp hp with hp | hp
    · obtain ⟨tr₁, σ₁, h₁, hs₁, hpre⟩ := ih hp
      exact ⟨tr₁, σ₁, h₁, hs₁, hpre.trans (List.prefix_append _ _)⟩
    · obtain rfl := List.mem_singleton.mp hp
      exact ⟨tr, σ', hr, hs, List.prefix_refl _⟩

/-- What a trace records through {lit}`f`, in order. -/
def records {α : Type} (f : SyncState × Reply → Option α) (tr : List (SyncState × Reply)) :
    List α :=
  tr.filterMap f

@[simp] theorem records_nil {α : Type} (f : SyncState × Reply → Option α) : records f [] = [] :=
  rfl

@[simp] theorem records_snoc {α : Type} (f : SyncState × Reply → Option α)
    (tr : List (SyncState × Reply)) (p : SyncState × Reply) :
    records f (tr ++ [p]) = records f tr ++ (f p).toList := by
  cases hp : f p <;> simp [records, hp]

/-! ## What one step does to each field -/

section Frame

/-- Only the increment of line 94 moves the cursor. -/
theorem Step.currentEpoch_cases (h : Step cfg σ r σ') :
    σ'.currentEpoch = σ.currentEpoch ∨
      ∃ e fin, σ.pc = .advance e fin ∧ r = .tick ∧ σ'.currentEpoch = e + 1 := by
  cases h
  case complete e fin hpc _ | incomplete e fin hpc _ => exact .inr ⟨e, fin, hpc, rfl, rfl⟩
  all_goals exact .inl rfl

/-- Only a successful {lit}`tx.Commit()` changes the committed storage, by
appending the transaction. -/
theorem Step.db_cases (h : Step cfg σ r σ') :
    σ'.db = σ.db ∨
      ∃ e tx, σ.pc = .commit e tx ∧ r = .db none ∧ σ'.db = σ.db ++ [tx] ∧
        σ'.pc = .evict e (cfg.firstSlot e) := by
  cases h
  case commitOk e tx hpc => exact .inr ⟨e, tx, hpc, rfl, rfl, rfl⟩
  all_goals exact .inl rfl

/-- The high-water mark is reset when the loop starts and set to the window's
last slot when a header loop completes. -/
theorem Step.cachedSlot_cases (h : Step cfg σ r σ') :
    σ'.cachedSlot = σ.cachedSlot ∨ (σ.pc = .lockRun ∧ σ'.cachedSlot = 0) ∨
      ∃ e a slot, σ.pc = .fetchHeader e a slot ∧ ¬slot ≤ cfg.fetchLastSlot e ∧
        σ'.cachedSlot = cfg.fetchLastSlot e ∧ σ'.pc = .checkKill e (.loadStats a) := by
  cases h
  case lockRun hpc => exact .inr (.inl ⟨hpc, rfl⟩)
  case headerLoopDone e a slot hpc hgt => exact .inr (.inr ⟨e, a, slot, hpc, hgt, rfl, rfl⟩)
  all_goals exact .inl rfl

/-- The cache is emptied when the loop starts, gains a block after a body
fetch, and loses a slot in the eviction loop. -/
theorem Step.cachedBlocks_cases (h : Step cfg σ r σ') :
    σ'.cachedBlocks = σ.cachedBlocks ∨ (σ.pc = .lockRun ∧ σ'.cachedBlocks = fun _ => none) ∨
      (∃ e a slot hr b, σ.pc = .fetchBody e a slot hr ∧ r = .body (.ok (some b)) ∧
        σ'.cachedBlocks = Function.update σ.cachedBlocks slot
          (some (CacheBlock.ofResponse slot hr b))) ∨
      ∃ e slot, σ.pc = .evict e slot ∧ slot ≤ cfg.epochLastSlot e ∧
        σ'.cachedBlocks = Function.update σ.cachedBlocks slot none := by
  cases h
  case lockRun hpc => exact .inr (.inl ⟨hpc, rfl⟩)
  case bodyOk e a slot hr b hpc => exact .inr (.inr (.inl ⟨e, a, slot, hr, b, hpc, rfl, rfl⟩))
  case evictSlot e slot hpc hle => exact .inr (.inr (.inr ⟨e, slot, hpc, hle, rfl⟩))
  all_goals exact .inl rfl

end Frame

/-! ## What a trace records -/

/-- The epoch the cursor moves past at this step (line 94), if it does. -/
def advanceOf (p : SyncState × Reply) : Option UInt64 :=
  match p.1.pc, p.2 with
  | .advance e _, .tick => some e
  | _, _ => none

/-- The epoch and the transaction committed at this step (line 245), if any. -/
def commitOf (p : SyncState × Reply) : Option (UInt64 × List Write) :=
  match p.1.pc, p.2 with
  | .commit e tx, .db none => some (e, tx)
  | _, _ => none

/-- The epoch storage reported synchronized at this step (line 138), if any. -/
def skipOf (p : SyncState × Reply) : Option UInt64 :=
  match p.1.pc, p.2 with
  | .loop, .synced true => some p.1.currentEpoch
  | _, _ => none

/-- The finalized epoch read at this step (line 91), if any. -/
def finalizedOf (p : SyncState × Reply) : Option (BitVec 64) :=
  match p.1.pc, p.2 with
  | .epochDone _, .finalized fin => some fin
  | _, _ => none

/-- The slot whose header this step requested with
{lit}`GetBlockHeaderBySlot` (line 161), if any. -/
def headerOf (p : SyncState × Reply) : Option UInt64 :=
  match p.1.pc, p.2 with
  | .fetchHeader _ _ slot, .header _ => some slot
  | _, _ => none

/-! ## The epoch a statement works on -/

/-- The epoch of the {lit}`syncEpoch` call the program counter is in, or of the
iteration that call ended. -/
def Pc.epochOf : Pc → Option UInt64
  | .assignments e | .checkKill e _ | .fetchHeader e _ _ | .fetchBody e _ _ _ => some e
  | .loadStats e _ | .findFirst e _ _ | .aggregate e _ _ | .beginTx e _ _ => some e
  | .persist e _ _ | .setState e _ | .commit e _ | .evict e _ => some e
  | .epochDone e | .epochFailed e _ | .advance e _ => some e
  | _ => none

/-- The epoch that the current iteration has settled: its call of
{lit}`syncEpoch` committed it or returns {lit}`done = true` for it. -/
def Pc.settledEpoch : Pc → Option UInt64
  | .evict e _ | .epochDone e | .advance e _ => some e
  | _ => none

/-- A worker goroutine exists: {lit}`startSync` spawned it and it has not
returned. -/
def Pc.alive : Pc → Bool
  | .idle => false
  | _ => true

/-- The loop of {lit}`runSync` is running: the goroutine has taken
{lit}`runMutex` and reset the cache, and has not returned. -/
def Pc.looping : Pc → Bool
  | .idle | .lockRun => false
  | _ => true

/-- The statements of a call of {lit}`syncEpoch`, from its synchronized check
to its eviction loop. -/
def Pc.inCall : Pc → Bool
  | .loop | .assignments _ | .checkKill .. | .fetchHeader .. | .fetchBody .. => true
  | .loadStats .. | .findFirst .. | .aggregate .. | .beginTx .. | .persist .. => true
  | .setState .. | .commit .. | .evict .. => true
  | _ => false

/-- The epoch a call of {lit}`syncEpoch` returned for and its {lit}`done`
result, once it has returned. -/
def Pc.returned : Pc → Option (UInt64 × Bool)
  | .epochDone e => some (e, true)
  | .epochFailed e _ => some (e, false)
  | _ => none

/-- The arguments of {lit}`aggregateEpochVotes` when the program counter is at
line 225. -/
def Pc.aggregateArgs : Pc → Option (UInt64 × EpochStats × Root)
  | .aggregate e st t => some (e, st, t)
  | _ => none

/-- The top of the loop is the one statement of a call with no epoch yet. -/
theorem Pc.eq_loop {p : Pc} (hc : p.inCall = true) (he : p.epochOf = none) : p = .loop := by
  cases p <;> first | rfl | (cases hc; done) | cases he

/-- Every statement of a call works on the epoch the cursor holds. -/
def EpochInv (σ : SyncState) : Prop :=
  ∀ e, σ.pc.epochOf = some e → e = σ.currentEpoch

theorem epochInv_started (σ : SyncState) (s : UInt64) : EpochInv (σ.started s) := by
  simp [EpochInv, SyncState.started, Pc.epochOf]

/-- A step keeps the epoch of its statement, enters a call at the cursor's
epoch, or leaves the calls; only the last moves the cursor. -/
theorem Step.epochOf_cases {σ σ' : SyncState} {r : Reply} (h : Step cfg σ r σ') :
    σ'.pc.epochOf = none ∨ (σ'.pc.epochOf = σ.pc.epochOf ∧ σ'.currentEpoch = σ.currentEpoch) ∨
      (σ'.pc.epochOf = some σ.currentEpoch ∧ σ'.currentEpoch = σ.currentEpoch) := by
  cases h
  case notKilled e next hpc => cases next <;> exact .inr (.inl ⟨by rw [hpc]; rfl, rfl⟩)
  all_goals first
    | exact .inl rfl
    | exact .inr (.inl ⟨by rw [‹σ.pc = _›]; rfl, rfl⟩)
    | exact .inr (.inr ⟨rfl, rfl⟩)

theorem Step.epochInv {σ σ' : SyncState} {r : Reply} (h : Step cfg σ r σ') (hi : EpochInv σ) :
    EpochInv σ' := by
  intro e he
  rcases h.epochOf_cases with h' | ⟨h', hc⟩ | ⟨h', hc⟩ <;> rw [h'] at he
  · cases he
  · exact hc ▸ hi e he
  · exact hc ▸ (Option.some.inj he).symm

theorem Run.epochInv {σ₀ σ : SyncState} {tr : List (SyncState × Reply)} (h : Run cfg σ₀ tr σ)
    (h₀ : EpochInv σ₀) : EpochInv σ := by
  induction h with
  | nil => exact h₀
  | snoc _ hs ih => exact (step_sound cfg hs).epochInv ih

/-! ## What one step records, and how a statement is entered -/

section Entry

/-- A step records an advance exactly when it runs line 94. -/
theorem Step.advanceOf_cases (h : Step cfg σ r σ') :
    (advanceOf (σ, r) = none ∧ σ'.currentEpoch = σ.currentEpoch) ∨
      ∃ e fin, σ.pc = .advance e fin ∧ advanceOf (σ, r) = some e ∧ σ'.currentEpoch = e + 1 := by
  cases h
  case complete e fin hpc _ | incomplete e fin hpc _ =>
    exact .inr ⟨e, fin, hpc, by simp [advanceOf, hpc], rfl⟩
  all_goals exact .inl ⟨by simp [advanceOf, *], rfl⟩

/-- A step records a commit exactly when it commits, and then appends the
transaction to storage. -/
theorem Step.commitOf_cases (h : Step cfg σ r σ') :
    (commitOf (σ, r) = none ∧ σ'.db = σ.db) ∨
      ∃ e tx, σ.pc = .commit e tx ∧ commitOf (σ, r) = some (e, tx) ∧ σ'.db = σ.db ++ [tx] ∧
        σ'.pc = .evict e (cfg.firstSlot e) := by
  cases h
  case commitOk e tx hpc => exact .inr ⟨e, tx, hpc, by simp [commitOf, hpc], rfl, rfl⟩
  all_goals exact .inl ⟨by simp [commitOf, *], rfl⟩

/-- A settled statement is entered from the synchronized check of line 138,
from the commit of line 245, or from another settled statement of its epoch. -/
theorem Step.enter_settled {e : UInt64} (h : Step cfg σ r σ') (h' : σ'.pc.settledEpoch = some e) :
    skipOf (σ, r) = some e ∨ (∃ tx, σ.pc = .commit e tx ∧ commitOf (σ, r) = some (e, tx)) ∨
      σ.pc.settledEpoch = some e := by
  cases h
  case notKilled e' next hpc => cases next <;> simp [Resume.pc, Pc.settledEpoch] at h'
  all_goals simp_all [Pc.settledEpoch, skipOf, commitOf]

/-- Outside the settled statements and the returned goroutine, a step comes
from such a statement or from the increment of line 94. -/
theorem Step.enter_pending (h : Step cfg σ r σ') (h' : σ'.pc.settledEpoch = none)
    (hi : σ'.pc ≠ .idle) :
    (σ.pc.settledEpoch = none ∧ σ.pc ≠ .idle) ∨
      ∃ e fin, σ.pc = .advance e fin ∧ advanceOf (σ, r) = some e := by
  cases h
  case notKilled e' next hpc => simp [hpc, Pc.settledEpoch]
  all_goals simp_all [Pc.settledEpoch, advanceOf]

/-- Line 91 is reached only after {lit}`syncEpoch(e)` returned {lit}`done`. -/
theorem Step.enter_advance {e : UInt64} {fin : BitVec 64} (h : Step cfg σ r σ')
    (h' : σ'.pc = .advance e fin) : σ.pc = .epochDone e ∧ finalizedOf (σ, r) = some fin := by
  cases h
  case notKilled e' next hpc => cases next <;> simp [Resume.pc] at h'
  all_goals simp_all [finalizedOf]

/-- The loop breaks as complete only from the test of line 96. -/
theorem Step.enter_exit_true (h : Step cfg σ r σ') (h' : σ'.pc = .exit true) :
    ∃ e fin, σ.pc = .advance e fin ∧ finalizedOf (σ, r) = none ∧
      BitVec.slt fin (e + 1).toBitVec = true ∧ σ'.currentEpoch = e + 1 := by
  cases h
  case notKilled e' next hpc => cases next <;> simp [Resume.pc] at h'
  case complete e fin hpc hc => exact ⟨e, fin, hpc, by simp [finalizedOf, hpc], hc, rfl⟩
  all_goals simp_all

/-- Only the end of {lit}`runSync` clears {lit}`running`, and it ends the
goroutine. -/
theorem Step.alive_running (h : Step cfg σ r σ') (ha : σ'.pc.alive = true) :
    σ.pc.alive = true ∧ σ'.running = σ.running := by
  cases h
  case notKilled e next hpc => simp [hpc, Pc.alive]
  all_goals simp_all [Pc.alive]

/-- The loop runs from line 76 on. -/
theorem Step.looping_cases (h : Step cfg σ r σ') (hl : σ'.pc.looping = true) :
    σ.pc.looping = true ∨ σ.pc = .lockRun := by
  cases h
  case lockRun hpc => exact .inr hpc
  case notKilled e next hpc => simp [hpc, Pc.looping]
  all_goals simp_all [Pc.looping]

/-- Line 76 is followed by the loop, with no input. -/
theorem Step.lockRun_tick (h : Step cfg σ r σ') (hpc : σ.pc = .lockRun) : r = .tick := by
  cases h <;> simp_all [SyncState.callsOut]

/-- The statement after line 76 is inside the loop. -/
theorem Step.looping_of_lockRun (h : Step cfg σ r σ') (hpc : σ.pc = .lockRun) :
    σ'.pc.looping = true := by
  cases h <;> simp_all [Pc.looping, SyncState.callsOut]

theorem SyncState.looping_of_callsOut (h : σ.callsOut cfg = true) : σ.pc.looping = true := by
  cases hpc : σ.pc <;> simp only [Pc.looping] <;> simp [SyncState.callsOut, hpc] at h

/-- The goroutine returns by a panic, at the nil block of line 180, or at the
end of {lit}`runSync`. -/
theorem Step.idle_of_returns (h : Step cfg σ r σ') (hr : r = .panic ∨ (∃ e a slot hr,
    σ.pc = .fetchBody e a slot hr ∧ r = .body (.ok none)) ∨ ∃ c, σ.pc = .exit c ∧ r = .tick) :
    σ'.pc = .idle := by
  rcases hr with rfl | ⟨e, a, slot, hr, hpc, rfl⟩ | ⟨c, hpc, rfl⟩
  · cases h; rfl
  · cases h; rfl
  · cases h
    case exit => rfl
    all_goals rw [hpc] at *; contradiction

/-- The goroutine reaches no statement by a panic, the nil block of line 180 or
the end of {lit}`runSync` only by returning. -/
theorem Step.returns_of_idle (h : Step cfg σ r σ') (hi : σ'.pc = .idle) :
    r = .panic ∨ (∃ e a slot hr, σ.pc = .fetchBody e a slot hr ∧ r = .body (.ok none)) ∨
      ∃ c, σ.pc = .exit c ∧ r = .tick := by
  cases h
  case panic => exact .inl rfl
  case bodyNil hpc => exact .inr (.inl ⟨_, _, _, _, hpc, rfl⟩)
  case exit c hpc => exact .inr (.inr ⟨c, hpc, rfl⟩)
  case notKilled e next hpc => cases next <;> simp [Resume.pc] at hi
  all_goals simp_all

/-- A step inside the loop stays in it unless the goroutine returns. -/
theorem Step.looping_of_looping (h : Step cfg σ r σ') (hl : σ.pc.looping = true)
    (hi : σ'.pc ≠ .idle) : σ'.pc.looping = true := by
  cases h
  case notKilled e next hpc => cases next <;> simp [Resume.pc, Pc.looping]
  all_goals simp_all [Pc.looping]

theorem Step.looping_of_idle (h : Step cfg σ r σ') (hi : σ'.pc = .idle) : σ.pc.looping = true := by
  cases h
  case panic hc => exact SyncState.looping_of_callsOut hc
  case notKilled e next hpc => cases next <;> simp [Resume.pc] at hi
  all_goals simp_all [Pc.looping]

end Entry

/-! ## The commit path -/

/-- The transaction of the commit path, as lines 231-243 build it. -/
def Pc.TxShape : Pc → Prop
  | .setState e tx => ∃ b st v, tx = [.epochData e b st v]
  | .commit e tx => ∃ b st v, tx = epochTx e b st v
  | _ => True

theorem Step.txShape (h : Step cfg σ r σ') (hi : σ.pc.TxShape) : σ'.pc.TxShape := by
  cases h
  case notKilled e next hpc => cases next <;> trivial
  case persistOk e st v hpc => exact ⟨_, st, v, rfl⟩
  case setStateOk e tx hpc =>
    obtain ⟨b, st, v, rfl⟩ : ∃ b st v, tx = [.epochData e b st v] := by simpa [hpc] using hi
    exact ⟨b, st, v, rfl⟩
  all_goals trivial

/-- Committed storage is the storage before the run followed by the
transactions the run committed. -/
theorem Run.db_eq {σ₀ σ : SyncState} {tr : List (SyncState × Reply)} (h : Run cfg σ₀ tr σ) :
    σ.db = σ₀.db ++ (records commitOf tr).map Prod.snd := by
  induction h with
  | nil => simp
  | snoc _ hs ih =>
    rcases (step_sound cfg hs).commitOf_cases with ⟨hc, hdb⟩ | ⟨e, tx, -, hc, hdb, -⟩ <;>
      simp [hc, hdb, ih]

/-! ## Sample collaborators -/

/-- A run the executable function completes, seen through {lit}`f`. -/
theorem run_exists {β : Type} {f : List (SyncState × Reply) × SyncState → β} {b : β}
    {σ₀ : SyncState} {rs : List Reply} (h : (run cfg σ₀ rs).map f = some b) :
    ∃ tr σ, Run cfg σ₀ tr σ ∧ f (tr, σ) = b := by
  obtain ⟨⟨tr, σ⟩, hr, hf⟩ := Option.map_eq_some'.mp h
  exact ⟨tr, σ, run_sound hr, hf⟩

/-- A block at a slot, with a one-byte root and the given parent root. -/
def sampleHeader (slot : UInt64) (parentRoot : Root) : HeaderResponse :=
  { root := [slot.toUInt8], header := { slot := slot, parentRoot := parentRoot } }

/-- An empty block body. -/
def sampleBody : BlockBody := ⟨[]⟩

/-- One slot per epoch, no cooldown and a constant vote aggregate. -/
def tinyConfig : Config where
  slotsPerEpoch := 1
  slotsPerEpoch_pos := by decide
  syncEpochCooldown := 0
  aggregateEpochVotes := fun _ _ _ _ => ⟨0, 0, 0⟩

/-- Duties with no assignments. -/
def noDuties : EpochAssignments := ⟨[], "", [], [], []⟩

/-- The largest finalized epoch: the loop never breaks as complete. -/
def maxFinalized : BitVec 64 := BitVec.ofNat 64 (2 ^ 63 - 1)

end Synchronizer
end BeaconSync
