import BeaconSync.Synchronizer.Run

/-!
# Beacon synchronizer - Storage writes of one epoch

{lit}`syncEpoch(epoch)` writes to storage only inside the transaction it opens
with {lit}`Beginx`: the epoch's data, then the {lit}`indexer.syncstate`
record, then {lit}`Commit`.  Every early return leaves the transaction to the
deferred {lit}`Rollback`.  This module follows one call, from its synchronized
check to its return, under every answer of the chain node and of storage, and
shows that committed storage changes by at most that one transaction.

Main results:

- Theorem {lit}`Synchronizer.Step.callPhase`: what one statement of a call can
  do to the commit and skip records.
- Theorem {lit}`Synchronizer.syncEpoch_storage`: a call that returns
  {lit}`done = false`, or returns through the synchronized check, leaves
  storage as it was; one that returns {lit}`done = true` otherwise has
  committed exactly the epoch's transaction.
-/

namespace BeaconSync
namespace Synchronizer

variable {cfg : Config} {σ₀ σ σ' : SyncState} {r : Reply} {tr : List (SyncState × Reply)}

theorem Pc.settledEpoch_of_returned_true {p : Pc} {e : UInt64} (h : p.returned = some (e, true)) :
    p.settledEpoch = some e := by
  cases p <;> simp_all [Pc.returned, Pc.settledEpoch]

theorem Pc.settledEpoch_of_returned_false {p : Pc} {e : UInt64}
    (h : p.returned = some (e, false)) : p.settledEpoch = none := by
  cases p <;> simp_all [Pc.returned, Pc.settledEpoch]

/-- Inside a call a step keeps the call's phase, commits the epoch (line 245),
or takes the synchronized return of line 138. -/
theorem Step.callPhase (h : Step cfg σ r σ') (hin : σ.pc.inCall = true) :
    (σ.pc.settledEpoch = none ∧ σ'.pc.settledEpoch = none ∧ commitOf (σ, r) = none ∧
        skipOf (σ, r) = none) ∨
      (∃ e tx, σ.pc = .commit e tx ∧ σ'.pc.settledEpoch = some e ∧
        commitOf (σ, r) = some (e, tx) ∧ skipOf (σ, r) = none) ∨
      (σ.pc = .loop ∧ σ'.pc.settledEpoch = some σ.currentEpoch ∧ commitOf (σ, r) = none ∧
        skipOf (σ, r) = some σ.currentEpoch) ∨
      ∃ e, σ.pc.settledEpoch = some e ∧ σ'.pc.settledEpoch = some e ∧
        commitOf (σ, r) = none ∧ skipOf (σ, r) = none := by
  cases h
  case commitOk e tx hpc =>
    exact .inr (.inl ⟨e, tx, hpc, rfl, by simp [commitOf, hpc], by simp [skipOf, hpc]⟩)
  case synced hpc => exact .inr (.inr (.inl ⟨hpc, rfl, by simp [commitOf, hpc], by simp [skipOf, hpc]⟩))
  case evictSlot e slot hpc _ | evictDone e slot hpc _ =>
    exact .inr (.inr (.inr ⟨e, by rw [hpc]; rfl, rfl, by simp [commitOf, hpc], by simp [skipOf, hpc]⟩))
  case panic hc =>
    obtain ⟨pc, _, _, _, _, _⟩ := σ
    cases pc <;> first | exact .inl ⟨rfl, rfl, rfl, rfl⟩ | (cases hin; done) | cases hc
  case notKilled e next hpc =>
    cases next <;> exact .inl ⟨by rw [hpc]; rfl, rfl, by simp [commitOf, hpc], by simp [skipOf, hpc]⟩
  all_goals first
    | exact .inl ⟨by rw [‹σ.pc = _›]; rfl, rfl, by simp [commitOf, ‹σ.pc = _›],
        by simp [skipOf, ‹σ.pc = _›]⟩
    | (rw [‹σ.pc = _›] at hin; cases hin)

/-- What a call has committed and seen so far: nothing before it settles its
epoch, then the synchronized return or exactly one commit of the epoch. -/
def CallProgress (tr : List (SyncState × Reply)) (σ : SyncState) : Prop :=
  match σ.pc.settledEpoch with
  | none => records commitOf tr = [] ∧ records skipOf tr = []
  | some e => records commitOf tr = [] ∧ records skipOf tr = [e] ∨
      records skipOf tr = [] ∧ ∃ b st v, records commitOf tr = [(e, epochTx e b st v)]

theorem CallProgress.step (hp : CallProgress tr σ) (htx : σ.pc.TxShape)
    (h : Step cfg σ r σ') (hin : σ.pc.inCall = true) : CallProgress (tr ++ [(σ, r)]) σ' := by
  unfold CallProgress at *
  rcases h.callPhase hin with ⟨hs, hs', hc, hk⟩ | ⟨e, tx, hpc, hs', hc, hk⟩ |
      ⟨hpc, hs', hc, hk⟩ | ⟨e, hs, hs', hc, hk⟩
  · rw [hs] at hp
    simpa [hs', hc, hk] using hp
  · obtain ⟨b, st, v, rfl⟩ : ∃ b st v, tx = epochTx e b st v := by simpa [hpc] using htx
    simp only [hpc, Pc.settledEpoch] at hp
    simp [hs', hc, hk, hp]
  · simp only [hpc, Pc.settledEpoch] at hp
    simp [hs', hc, hk, hp]
  · rw [hs] at hp
    simpa [hs', hc, hk] using hp

/-- A run that stays inside one call keeps its progress and its transaction
shape. -/
theorem Run.callProgress (h : Run cfg σ₀ tr σ) (h₀ : σ₀.pc = .loop)
    (hin : ∀ p ∈ tr, p.1.pc.inCall = true) : CallProgress tr σ ∧ σ.pc.TxShape := by
  induction h with
  | nil => simp [CallProgress, h₀, Pc.settledEpoch, Pc.TxShape]
  | snoc _ hs ih =>
    obtain ⟨hp, htx⟩ := ih fun p hp => hin p (List.mem_append_left _ hp)
    have hσ := hin _ (List.mem_append_right _ (List.mem_singleton_self _))
    exact ⟨hp.step htx (step_sound cfg hs) hσ, (step_sound cfg hs).txShape htx⟩

/-- One call of {lit}`syncEpoch`, from its synchronized check to its return,
under every answer of the chain node and of storage: storage gains the
transactions the call committed, at most one; a call that returned
{lit}`done = false` left it unchanged; one that returned {lit}`done = true`
either took the synchronized return and left it unchanged, or committed exactly
the epoch's data together with {lit}`indexer.syncstate = epoch`. -/
theorem syncEpoch_storage (h : Run cfg σ₀ tr σ) (h₀ : σ₀.pc = .loop)
    (hin : ∀ p ∈ tr, p.1.pc.inCall = true) :
    σ.db = σ₀.db ++ (records commitOf tr).map Prod.snd ∧ (records commitOf tr).length ≤ 1 ∧
    (∀ e, σ.pc.returned = some (e, false) → σ.db = σ₀.db) ∧
    (∀ e, σ.pc.returned = some (e, true) →
      records skipOf tr = [e] ∧ σ.db = σ₀.db ∨
      records skipOf tr = [] ∧ ∃ b st v, σ.db = σ₀.db ++ [epochTx e b st v]) := by
  have hdb := h.db_eq
  have hp := (h.callProgress h₀ hin).1
  unfold CallProgress at hp
  refine ⟨hdb, ?_, fun e he => ?_, fun e he => ?_⟩
  · split at hp
    · simp [hp.1]
    · rcases hp with ⟨hc, -⟩ | ⟨-, b, st, v, hc⟩ <;> simp [hc]
  · rw [Pc.settledEpoch_of_returned_false he] at hp
    simp [hdb, hp.1]
  · rw [Pc.settledEpoch_of_returned_true he] at hp
    rcases hp with ⟨hc, hk⟩ | ⟨hk, b, st, v, hc⟩
    · exact .inl ⟨hk, by simp [hdb, hc]⟩
    · exact .inr ⟨hk, b, st, v, by simp [hdb, hc, epochTx]⟩

/-- A call at line 137 over empty storage, epoch {lit}`0`. -/
def callStart : SyncState := { SyncState.new with pc := .loop }

/-- The commit path of epoch {lit}`0` with one slot per epoch: slot {lit}`0`
below the high-water mark, slot {lit}`1` empty. -/
def commitReplies : List Reply :=
  [.synced false, .assignments (.ok (some noDuties)), .kill false, .tick, .header (.ok none),
    .tick, .kill false, .stats (some ⟨[]⟩), .kill false, .tick, .tick, .tick, .db none,
    .db none, .db none, .db none, .tick, .tick]

/-- The commit path of {lean}`commitReplies` stays inside the call, returns
{lit}`done = true`, and commits epoch {lit}`0`'s transaction. -/
theorem syncEpoch_storage_commit : ∃ tr σ, Run tinyConfig callStart tr σ ∧
    (∀ p ∈ tr, p.1.pc.inCall = true) ∧ σ.pc.returned = some (0, true) ∧
      ∃ b st v, σ.db = [epochTx 0 b st v] := by
  have hc : (run tinyConfig callStart commitReplies).map
      (fun p => (p.1.all (·.1.pc.inCall), p.2.pc.returned, records skipOf p.1)) =
        some (true, some (0, true), []) := by decide
  obtain ⟨⟨tr, σ⟩, hrun, hp⟩ := Option.map_eq_some'.mp hc
  simp only [Prod.mk.injEq] at hp
  obtain ⟨hin, hret, hk⟩ := hp
  have hin' : ∀ p ∈ tr, p.1.pc.inCall = true := by simpa using hin
  refine ⟨tr, σ, run_sound hrun, hin', hret, ?_⟩
  rcases (syncEpoch_storage (run_sound hrun) rfl hin').2.2.2 0 hret with ⟨hk', -⟩ | ⟨-, hdb⟩
  · simp [hk] at hk'
  · simpa [callStart, SyncState.new] using hdb

end Synchronizer
end BeaconSync
