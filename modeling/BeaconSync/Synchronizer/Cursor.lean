import BeaconSync.Synchronizer.Run

/-!
# Beacon synchronizer - The sync cursor

{lit}`runSync` moves {lit}`currentEpoch` forward by one, under
{lit}`stateMutex`, after {lit}`syncEpoch` returned {lit}`done` for the epoch it
holds; {lit}`syncEpoch` returns {lit}`done` when storage reports the epoch
synchronized or after it committed the epoch's data together with the
{lit}`indexer.syncstate` record.  This module proves, over every run and every
behaviour of the collaborators, that the cursor moves exactly so, that every
epoch it moved past was settled in one of the two ways, and that the commits of
a run follow the cursor.

The cursor is a {lit}`uint64`.  Past {lit}`2^64 - 1` it wraps to {lit}`0`, and
nothing in the loop stops it there: a run started near the top commits an epoch
near {lit}`2^64` and then epoch {lit}`0`.  The commits are therefore a
subsequence of {lit}`s, s+1, s+2, …` counted modulo {lit}`2^64`, and strictly
increasing only while that count does not wrap.

Main results:

- Structure {lit}`Synchronizer.CursorInv` and theorem
  {lit}`Synchronizer.Run.cursorInv`: the invariant of every run started by
  {lit}`startSync(s)`.
- Theorem {lit}`Synchronizer.runSync_cursor`: the cursor, the settled epochs,
  the committed storage and the complete exit of every run.
- Theorem {lit}`Synchronizer.commits_wrap`: a run whose commits are not
  increasing.
-/

namespace BeaconSync
namespace Synchronizer

/-! ## Epoch sequences -/

/-- The epochs {lit}`s, s+1, …, s+(n-1)` in {lit}`uint64` arithmetic. -/
def epochsFrom (s : UInt64) (n : Nat) : List UInt64 :=
  (List.range n).map fun k => s + UInt64.ofNat k

theorem epochsFrom_succ (s : UInt64) (n : Nat) :
    epochsFrom s (n + 1) = epochsFrom s n ++ [s + UInt64.ofNat n] := by
  simp [epochsFrom, List.range_succ]

/-- Below the wrap-around the epochs increase strictly. -/
theorem epochsFrom_sorted {s : UInt64} {n : Nat} (h : s.toNat + n ≤ 2 ^ 64) :
    (epochsFrom s n).Pairwise (· < ·) := by
  refine List.pairwise_map.2 ((List.pairwise_lt_range n).imp_of_mem ?_)
  intro i j hi hj hij
  rw [List.mem_range] at hi hj
  simp only [u64_lt_iff, u64_toNat_add, u64_toNat_ofNat]
  omega

/-! ## Settled epochs and the commit path -/

variable {cfg : Config} {s : UInt64} {tr : List (SyncState × Reply)}
  {σ σ' : SyncState} {r : Reply}

/-- Storage reported the epoch synchronized during the run, or the run committed
it in a transaction that also set {lit}`indexer.syncstate` to it. -/
def Settled (tr : List (SyncState × Reply)) (e : UInt64) : Prop :=
  e ∈ records skipOf tr ∨ ∃ b st v, (e, epochTx e b st v) ∈ records commitOf tr

theorem Settled.snoc {e : UInt64} (h : Settled tr e) (p : SyncState × Reply) :
    Settled (tr ++ [p]) e := by
  rcases h with h | ⟨b, st, v, h⟩
  · exact .inl (by simp [h])
  · exact .inr ⟨b, st, v, by simp [h]⟩

/-! ## The invariant -/

/-- What holds after every prefix of a run started by {lit}`startSync(s)`. -/
structure CursorInv (s : UInt64) (tr : List (SyncState × Reply)) (σ : SyncState) : Prop where
  epoch : EpochInv σ
  tx : σ.pc.TxShape
  /-- The cursor moved past {lit}`s, s+1, …` in order, one epoch a step. -/
  cursor : ∃ n, records advanceOf tr = epochsFrom s n ∧ σ.currentEpoch = s + UInt64.ofNat n
  settled : ∀ e ∈ records advanceOf tr, Settled tr e
  settledPc : ∀ e, σ.pc.settledEpoch = some e → Settled tr e
  /-- The commits follow the cursor ... -/
  ordered : ((records commitOf tr).map Prod.fst).Sublist (records advanceOf tr ++ [σ.currentEpoch])
  /-- ... and the current epoch is not committed before its call settles it. -/
  orderedPending : σ.pc.settledEpoch = none → σ.pc ≠ .idle →
    ((records commitOf tr).map Prod.fst).Sublist (records advanceOf tr)
  finalizedAdvance : ∀ e fin, σ.pc = .advance e fin → (records finalizedOf tr).getLast? = some fin
  complete : σ.pc = .exit true → ∃ fin, (records finalizedOf tr).getLast? = some fin ∧
    BitVec.slt fin σ.currentEpoch.toBitVec = true

theorem cursorInv_started (σ₀ : SyncState) (s : UInt64) : CursorInv s [] (σ₀.started s) where
  epoch := epochInv_started σ₀ s
  tx := trivial
  cursor := ⟨0, rfl, (u64_add_ofNat_zero s).symm⟩
  settled := by simp
  settledPc := by simp [SyncState.started, Pc.settledEpoch]
  ordered := by simp
  orderedPending := by simp
  finalizedAdvance := by simp [SyncState.started]
  complete := by simp [SyncState.started]

theorem CursorInv.epoch_of_advance (hi : CursorInv s tr σ) {e : UInt64} {fin : BitVec 64}
    (hpc : σ.pc = .advance e fin) : e = σ.currentEpoch :=
  hi.epoch e (by simp [Pc.epochOf, hpc])

theorem Step.finalizedAdvance (h : Step cfg σ r σ') (e : UInt64) (fin : BitVec 64)
    (hpc : σ'.pc = .advance e fin) :
    (records finalizedOf (tr ++ [(σ, r)])).getLast? = some fin := by
  simp [(h.enter_advance hpc).2]

section Step

variable (hi : CursorInv s tr σ) (h : Step cfg σ r σ')
include hi h

theorem CursorInv.cursor_step :
    ∃ n, records advanceOf (tr ++ [(σ, r)]) = epochsFrom s n ∧
      σ'.currentEpoch = s + UInt64.ofNat n := by
  obtain ⟨n, hn, hcur⟩ := hi.cursor
  rcases h.advanceOf_cases with ⟨ha, hc⟩ | ⟨e, fin, hpc, ha, hc⟩
  · exact ⟨n, by simp [ha, hn], hc.trans hcur⟩
  · have he : e = s + UInt64.ofNat n := (hi.epoch_of_advance hpc).trans hcur
    exact ⟨n + 1, by simp [ha, hn, epochsFrom_succ, he],
      by rw [hc, he, u64_add_ofNat_succ]⟩

theorem CursorInv.settledPc_step (e : UInt64) (he : σ'.pc.settledEpoch = some e) :
    Settled (tr ++ [(σ, r)]) e := by
  rcases h.enter_settled he with hs | ⟨tx, hpc, hc⟩ | hs
  · exact .inl (by simp [hs])
  · obtain ⟨b, st, v, rfl⟩ : ∃ b st v, tx = epochTx e b st v := by simpa [hpc] using hi.tx
    exact .inr ⟨b, st, v, by simp [hc]⟩
  · exact (hi.settledPc e hs).snoc _

theorem CursorInv.settled_step : ∀ e ∈ records advanceOf (tr ++ [(σ, r)]),
    Settled (tr ++ [(σ, r)]) e := by
  rcases h.advanceOf_cases with ⟨ha, -⟩ | ⟨e, fin, hpc, ha, -⟩
  · simpa [ha] using fun e he => (hi.settled e he).snoc _
  · simp only [records_snoc, ha, Option.toList_some, List.mem_append, List.mem_singleton]
    rintro e' (he' | rfl)
    · exact (hi.settled e' he').snoc _
    · exact (hi.settledPc e' (by simp [Pc.settledEpoch, hpc])).snoc _

theorem CursorInv.ordered_step :
    ((records commitOf (tr ++ [(σ, r)])).map Prod.fst).Sublist
      (records advanceOf (tr ++ [(σ, r)]) ++ [σ'.currentEpoch]) := by
  rcases h.commitOf_cases with ⟨hc, -⟩ | ⟨e, tx, hpc, hc, -⟩
  · rcases h.advanceOf_cases with ⟨ha, hcur⟩ | ⟨e, fin, hpc, ha, -⟩
    · simpa [hc, ha, hcur] using hi.ordered
    · simpa [hc, ha, hi.epoch_of_advance hpc] using hi.ordered.trans (List.sublist_append_left _ _)
  · have ha : advanceOf (σ, r) = none := by simp [advanceOf, hpc]
    have hcur : σ'.currentEpoch = σ.currentEpoch := by
      rcases h.advanceOf_cases with ⟨-, hcur⟩ | ⟨_, _, hpc', _⟩
      · exact hcur
      · simp [hpc] at hpc'
    have he : e = σ.currentEpoch := hi.epoch e (by simp [Pc.epochOf, hpc])
    have hpend := hi.orderedPending (by simp [Pc.settledEpoch, hpc]) (by simp [hpc])
    simpa [hc, ha, hcur, he] using hpend

theorem CursorInv.orderedPending_step (hn : σ'.pc.settledEpoch = none) (hidle : σ'.pc ≠ .idle) :
    ((records commitOf (tr ++ [(σ, r)])).map Prod.fst).Sublist
      (records advanceOf (tr ++ [(σ, r)])) := by
  have hc : commitOf (σ, r) = none := by
    rcases h.commitOf_cases with ⟨hc, -⟩ | ⟨e, tx, -, -, -, hpc'⟩
    · exact hc
    · simp [hpc', Pc.settledEpoch] at hn
  rcases h.enter_pending hn hidle with ⟨hs, hne⟩ | ⟨e, fin, hpc, ha⟩
  · have ha : advanceOf (σ, r) = none := by
      rcases h.advanceOf_cases with ⟨ha, -⟩ | ⟨e, fin, hpc, -, -⟩
      · exact ha
      · simp [hpc, Pc.settledEpoch] at hs
    simpa [hc, ha] using hi.orderedPending hs hne
  · simpa [hc, ha, hi.epoch_of_advance hpc] using hi.ordered

theorem CursorInv.complete_step (hpc : σ'.pc = .exit true) :
    ∃ fin, (records finalizedOf (tr ++ [(σ, r)])).getLast? = some fin ∧
      BitVec.slt fin σ'.currentEpoch.toBitVec = true := by
  obtain ⟨e, fin, hadv, hf, hslt, hcur⟩ := h.enter_exit_true hpc
  exact ⟨fin, by simpa [hf] using hi.finalizedAdvance e fin hadv, by rw [hcur]; exact hslt⟩

theorem CursorInv.step : CursorInv s (tr ++ [(σ, r)]) σ' where
  epoch := h.epochInv hi.epoch
  tx := h.txShape hi.tx
  cursor := hi.cursor_step h
  settled := hi.settled_step h
  settledPc := hi.settledPc_step h
  ordered := hi.ordered_step h
  orderedPending := hi.orderedPending_step h
  finalizedAdvance := h.finalizedAdvance
  complete := hi.complete_step h

end Step

theorem Run.cursorInv {σ₀ : SyncState} (h : Run cfg (σ₀.started s) tr σ) : CursorInv s tr σ := by
  generalize hs : σ₀.started s = σs at h
  induction h with
  | nil => exact hs ▸ cursorInv_started σ₀ s
  | snoc _ hst ih => exact ih.step (step_sound cfg hst)

/-- The cursor of every run started by {lit}`startSync(s)`, for every behaviour
of the collaborators.  It has moved past {lit}`s, s+1, …, s+(n-1)` and holds
{lit}`s+n`; the run's commits are a subsequence of {lit}`s, …, s+n`, strictly
increasing while {lit}`s+n` does not wrap; every epoch moved past was settled;
the next step either keeps the cursor or moves it from a settled epoch to the
next one at line 94; storage holds exactly the committed transactions; and the
loop breaks as complete only above the finalized epoch it last read. -/
theorem runSync_cursor {σ₀ : SyncState} (h : Run cfg (σ₀.started s) tr σ) :
    (∃ n, records advanceOf tr = epochsFrom s n ∧ σ.currentEpoch = s + UInt64.ofNat n ∧
      ((records commitOf tr).map Prod.fst).Sublist (epochsFrom s (n + 1)) ∧
      (s.toNat + n < 2 ^ 64 → ((records commitOf tr).map Prod.fst).Pairwise (· < ·))) ∧
    (∀ e ∈ records advanceOf tr, Settled tr e) ∧
    (∀ r σ', step cfg σ r = some σ' → σ'.currentEpoch = σ.currentEpoch ∨
      σ'.currentEpoch = σ.currentEpoch + 1 ∧ (∃ fin, σ.pc = .advance σ.currentEpoch fin) ∧
        Settled tr σ.currentEpoch) ∧
    σ.db = σ₀.db ++ (records commitOf tr).map Prod.snd ∧
    (σ.pc = .exit true → ∃ fin, (records finalizedOf tr).getLast? = some fin ∧
      BitVec.slt fin σ.currentEpoch.toBitVec = true) := by
  have hi := h.cursorInv
  obtain ⟨n, hn, hcur⟩ := hi.cursor
  have hsub : ((records commitOf tr).map Prod.fst).Sublist (epochsFrom s (n + 1)) := by
    simpa [epochsFrom_succ, hn, hcur] using hi.ordered
  refine ⟨⟨n, hn, hcur, hsub, fun hw => (epochsFrom_sorted (by omega)).sublist hsub⟩,
    hi.settled, ?_, h.db_eq, hi.complete⟩
  intro r σ' hs
  rcases (step_sound cfg hs).advanceOf_cases with ⟨-, hc⟩ | ⟨e, fin, hpc, -, hc⟩
  · exact .inl hc
  · obtain rfl := hi.epoch_of_advance hpc
    exact .inr ⟨hc, ⟨fin, hpc⟩, hi.settledPc _ (by simp [Pc.settledEpoch, hpc])⟩

/-- From {lit}`startSync(2^64 - 3)` with one slot per epoch: epoch {lit}`2^64 - 3`
committed over two empty slots, {lit}`2^64 - 2` and {lit}`2^64 - 1` reported
synchronized, the cursor wraps, and epoch {lit}`0` is committed from the cache
high-water mark. -/
def wrapReplies : List Reply :=
  [.tick, .synced false, .assignments (.ok (some noDuties)), .kill false, .header (.ok none),
    .header (.ok none), .tick, .kill false, .stats (some ⟨[]⟩), .kill false, .tick, .tick, .tick,
    .db none, .db none, .db none, .db none, .tick, .tick, .finalized maxFinalized, .tick,
    .kill false] ++
  [.synced true, .finalized maxFinalized, .tick, .kill false] ++
  [.synced true, .finalized maxFinalized, .tick, .kill false] ++
  [.synced false, .assignments (.ok (some noDuties)), .kill false, .tick, .tick, .tick,
    .kill false, .stats (some ⟨[]⟩), .kill false, .tick, .tick, .tick, .db none, .db none,
    .db none, .db none]

/-- The run of {lean}`wrapReplies` wraps the cursor to {lit}`0`, and every
epoch it moved past is settled. -/
theorem runSync_cursor_wrap : ∃ tr σ,
    Run tinyConfig (SyncState.new.started 18446744073709551613) tr σ ∧ σ.currentEpoch = 0 ∧
      ∀ e ∈ records advanceOf tr, Settled tr e := by
  obtain ⟨⟨tr, σ⟩, hrun, hcur⟩ : ∃ p,
      run tinyConfig (SyncState.new.started 18446744073709551613) wrapReplies = some p ∧
        p.2.currentEpoch = 0 :=
    Option.map_eq_some'.mp (by decide)
  exact ⟨tr, σ, run_sound hrun, hcur, (runSync_cursor (run_sound hrun)).2.1⟩

/-- The commits of a run are not always increasing: after the cursor wraps, the
run commits epoch {lit}`0` after epoch {lit}`2^64 - 3`. -/
theorem commits_wrap :
    ¬ ∀ tr σ, Run tinyConfig (SyncState.new.started 18446744073709551613) tr σ →
      ((records commitOf tr).map Prod.fst).Pairwise (· < ·) := by
  intro hall
  obtain ⟨⟨tr, σ⟩, hrun, hc⟩ : ∃ p,
      run tinyConfig (SyncState.new.started 18446744073709551613) wrapReplies = some p ∧
        (records commitOf p.1).map Prod.fst = [18446744073709551613, 0] :=
    Option.map_eq_some'.mp (by decide)
  have := hall tr σ (run_sound hrun)
  rw [hc] at this
  exact absurd this (by decide)

end Synchronizer
end BeaconSync
