import BeaconSync.Synchronizer.Run

/-!
# Beacon synchronizer - The block cache and its high-water mark

{lit}`syncEpoch` fetches the headers and bodies of two epochs into
{lit}`cachedBlocks`, skipping every slot at or below the high-water mark
{lit}`cachedSlot`, and moves the mark to the window's last slot once the whole
header loop has run (line 184).  After a commit it evicts the epoch's own
slots; the next epoch's slots stay as lookahead.

The mark moves only when a header loop completes.  A loop left early (a header
or body error, or a stop signal between a header and its body) leaves blocks
above the mark, and the retry asks the chain node for their headers again.  The
invariant keeps the run's trace as its history: every cached slot lies at or
below the mark, or the loop in progress fetched it, or a loop of the trace,
left early under the same mark, had passed it.

Main results:

- Structure {lit}`Synchronizer.FetchInv` and theorem
  {lit}`Synchronizer.Run.fetchInv`: the high-water-mark invariant, over every
  run whose windows stay below the largest slot.
- Theorem {lit}`Synchronizer.runSync_no_refetch`: a header requested for a
  cached slot is one an earlier loop, left early under the same mark, had
  passed.
- Theorem {lit}`Synchronizer.cached_header_refetched`: a retry that requests
  the header of a cached slot, and a window ending at the largest slot whose
  loop wraps and requests a header it cached on its first pass.
- Theorem {lit}`Synchronizer.genesis_slot_skipped`: the initial mark
  {lit}`0` hides the genesis slot from a run started at epoch {lit}`0`.
- Theorem {lit}`Synchronizer.stale_lookahead`: the lookahead blocks of an epoch
  reported synchronized are never evicted.
-/

namespace BeaconSync
namespace Synchronizer

variable {cfg : Config} {σ σ' : SyncState} {r : Reply} {tr : List (SyncState × Reply)}

/-- A step leaves the header loop early: a header or a body error (lines 163
and 175), or a stop signal between a header and its body (line 169). -/
def abortsFetch (p : SyncState × Reply) : Bool :=
  match p.1.pc, p.2 with
  | .fetchHeader .., .header (.error _) => true
  | .fetchBody .., .body (.error _) => true
  | .checkKill _ (.fetchBody ..), .kill true => true
  | _, _ => false

/-- The epoch and the slot of a body fetch in progress. -/
def Pc.bodySlot : Pc → Option (UInt64 × UInt64)
  | .fetchBody e _ slot _ | .checkKill e (.fetchBody _ slot _) => some (e, slot)
  | _ => none

/-- The epoch and the slot of the header loop the program counter is in. -/
def Pc.fetchSlot : Pc → Option (UInt64 × UInt64)
  | .fetchHeader e _ slot => some (e, slot)
  | p => p.bodySlot

/-- The trace holds a step that left a header loop early, at a slot past
{lit}`k`, while the high-water mark was {lit}`m`. -/
def LeftEarly (tr : List (SyncState × Reply)) (m k : UInt64) : Prop :=
  ∃ q ∈ tr, abortsFetch q = true ∧ q.1.cachedSlot = m ∧
    ∃ e slot, q.1.pc.fetchSlot = some (e, slot) ∧ k < slot

/-- A cached slot that no header loop in progress accounts for: it lies at or
below the high-water mark, or a loop of the trace left early under the same
mark had passed it, inside the window of the cursor's epoch. -/
def KeySettled (cfg : Config) (tr : List (SyncState × Reply)) (σ : SyncState) (k : UInt64) : Prop :=
  k ≤ σ.cachedSlot ∨
    LeftEarly tr σ.cachedSlot k ∧ k.toNat < (σ.currentEpoch.toNat + 2) * cfg.slotsPerEpoch.toNat

/-- A cached slot is settled, or the header loop in progress fetched it. -/
def KeyBound (cfg : Config) (tr : List (SyncState × Reply)) (σ : SyncState) (k : UInt64) : Prop :=
  KeySettled cfg tr σ k ∨ ∃ e slot, σ.pc.fetchSlot = some (e, slot) ∧ k < slot ∧ k ≤ cfg.fetchLastSlot e

/-- The high-water mark while the loop runs, over a run with trace {lit}`tr`. -/
structure FetchInv (cfg : Config) (tr : List (SyncState × Reply)) (σ : SyncState) : Prop where
  epoch : EpochInv σ
  /-- The mark lies inside the window of the cursor's epoch. -/
  below : σ.pc.looping → σ.cachedSlot.toNat < (σ.currentEpoch.toNat + 2) * cfg.slotsPerEpoch.toNat
  /-- A body is fetched only for a slot of the window. -/
  body : ∀ e slot, σ.pc.bodySlot = some (e, slot) → slot ≤ cfg.fetchLastSlot e
  keys : σ.pc.looping → ∀ k, σ.cachedBlocks k ≠ none → KeyBound cfg tr σ k

theorem fetchInv_started (σ₀ : SyncState) (s : UInt64) : FetchInv cfg [] (σ₀.started s) where
  epoch := epochInv_started σ₀ s
  below := by simp [SyncState.started, Pc.looping]
  body := by simp [SyncState.started, Pc.bodySlot]
  keys := by simp [SyncState.started, Pc.looping]

theorem Pc.epochOf_of_fetchSlot {p : Pc} {e slot : UInt64} (h : p.fetchSlot = some (e, slot)) :
    p.epochOf = some e := by
  cases p <;> first | rfl | simp_all [Pc.fetchSlot, Pc.bodySlot, Pc.epochOf]
  case checkKill next => cases next <;> simp_all [Pc.bodySlot]

theorem Pc.eq_fetchHeader {p : Pc} {e slot : UInt64} (h : p.fetchSlot = some (e, slot))
    (hb : p.bodySlot = none) : ∃ a, p = .fetchHeader e a slot := by
  cases p <;> simp_all [Pc.fetchSlot]

/-- A settled slot stays settled while the mark and the cursor stay. -/
theorem KeySettled.frame {tr tr' : List (SyncState × Reply)} {k : UInt64} (hs : KeySettled cfg tr σ k)
    (hm : σ'.cachedSlot = σ.cachedSlot) (he : σ'.currentEpoch = σ.currentEpoch) :
    KeySettled cfg (tr ++ tr') σ' k := by
  rw [KeySettled, hm, he]
  exact hs.imp_right fun ⟨⟨q, hq, hrest⟩, hlt⟩ => ⟨⟨q, List.mem_append_left _ hq, hrest⟩, hlt⟩

theorem KeyBound.settled {k : UInt64} (hb : KeyBound cfg tr σ k) (hs : σ.pc.fetchSlot = none) :
    KeySettled cfg tr σ k :=
  hb.resolve_right fun ⟨_, _, hfs, _⟩ => by simp [hs] at hfs

/-- Leaving a header loop early settles the slots it had fetched. -/
theorem KeyBound.leftEarly {k : UInt64} (hb : KeyBound cfg tr σ k) (he : EpochInv σ)
    (hw : cfg.WindowFits σ.currentEpoch) (ha : abortsFetch (σ, r) = true)
    (hm : σ'.cachedSlot = σ.cachedSlot) (hc : σ'.currentEpoch = σ.currentEpoch) :
    KeySettled cfg (tr ++ [(σ, r)]) σ' k := by
  rcases hb with hs | ⟨e, slot, hfs, hlt, hle⟩
  · exact hs.frame hm hc
  · refine .inr ⟨⟨(σ, r), List.mem_append_right _ (List.mem_singleton_self _), ha, hm.symm, e, slot,
      hfs, hlt⟩, ?_⟩
    obtain rfl := he e (Pc.epochOf_of_fetchSlot hfs)
    have hS := cfg.slotsPerEpoch_toNat_pos
    rw [u64_le_iff, Config.fetchLastSlot_toNat hw] at hle
    rw [hc, Nat.add_mul]
    omega

/-- The next slot of the loop in progress keeps the slots it fetched. -/
theorem KeyBound.next {k e slot : UInt64} {tr' : List (SyncState × Reply)}
    (hb : KeyBound cfg tr σ k) (hpc : σ.pc.fetchSlot = some (e, slot))
    (hpc' : σ'.pc.fetchSlot = some (e, slot + 1)) (hsucc : (slot + 1).toNat = slot.toNat + 1)
    (hm : σ'.cachedSlot = σ.cachedSlot) (hc : σ'.currentEpoch = σ.currentEpoch) :
    KeyBound cfg (tr ++ tr') σ' k := by
  rcases hb with hs | ⟨e', slot', hfs, hlt, hle⟩
  · exact .inl (hs.frame hm hc)
  · rw [hpc, Option.some.injEq, Prod.mk.injEq] at hfs
    obtain ⟨rfl, rfl⟩ := hfs
    refine .inr ⟨e, slot + 1, hpc', ?_, hle⟩
    rw [u64_lt_iff, hsucc]
    exact Nat.lt_succ_of_lt hlt

section Step

variable (hi : FetchInv cfg tr σ) (h : Step cfg σ r σ') (hw : cfg.WindowFits σ.currentEpoch)
include hi h hw

theorem FetchInv.below_step (hl : σ'.pc.looping) :
    σ'.cachedSlot.toNat < (σ'.currentEpoch.toNat + 2) * cfg.slotsPerEpoch.toNat := by
  have hS := cfg.slotsPerEpoch_toNat_pos
  cases h
  case lockRun => exact Nat.mul_pos (Nat.succ_pos _) hS
  case headerLoopDone e a slot hpc _ =>
    obtain rfl := hi.epoch e (by simp [Pc.epochOf, hpc])
    show (cfg.fetchLastSlot σ.currentEpoch).toNat < (σ.currentEpoch.toNat + 2) * _
    rw [Config.fetchLastSlot_toNat hw, Nat.add_mul]
    omega
  case complete e fin hpc _ | incomplete e fin hpc _ =>
    obtain rfl := hi.epoch e (by simp [Pc.epochOf, hpc])
    have hb := hi.below (by simp [hpc, Pc.looping])
    have hmono := Nat.mul_le_mul_right cfg.slotsPerEpoch.toNat
      (show σ.currentEpoch.toNat + 2 ≤ σ.currentEpoch.toNat + 1 + 2 by omega)
    show σ.cachedSlot.toNat < ((σ.currentEpoch + 1).toNat + 2) * _
    rw [hw.epoch_succ_toNat]
    omega
  case panic => simp [Pc.looping] at hl
  all_goals exact hi.below (by simp [‹σ.pc = _›, Pc.looping])

omit hw in
theorem FetchInv.body_step (e slot : UInt64) (hs : σ'.pc.bodySlot = some (e, slot)) :
    slot ≤ cfg.fetchLastSlot e := by
  cases h
  case headerOk e' a slot' hr hpc hle _ =>
    simp only [Pc.bodySlot, Option.some.injEq, Prod.mk.injEq] at hs
    obtain ⟨rfl, rfl⟩ := hs
    exact hle
  case notKilled e' next hpc =>
    have := hi.body e slot
    cases next <;> simp_all [Resume.pc, Pc.bodySlot]
  all_goals simp [Pc.bodySlot] at hs

theorem FetchInv.keys_step (hl : σ'.pc.looping) (k : UInt64) (hk : σ'.cachedBlocks k ≠ none) :
    KeyBound cfg (tr ++ [(σ, r)]) σ' k := by
  have hb : σ.pc.looping → σ.cachedBlocks k ≠ none → KeyBound cfg tr σ k := fun hl => hi.keys hl k
  have hnone : σ.pc.looping → σ.cachedBlocks k ≠ none → σ.pc.fetchSlot = none →
      σ'.cachedSlot = σ.cachedSlot → σ'.currentEpoch = σ.currentEpoch →
      KeyBound cfg (tr ++ [(σ, r)]) σ' k := fun hl hk hs hm hc =>
    .inl (((hb hl hk).settled hs).frame hm hc)
  cases h
  case lockRun => simp at hk
  case notKilled e next hpc =>
    cases next
    case fetchBody a slot hr =>
      rcases hb (by simp [hpc, Pc.looping]) hk with hs | hin
      · exact .inl (hs.frame rfl rfl)
      · exact .inr (by simpa [hpc, Pc.fetchSlot, Pc.bodySlot, Resume.pc] using hin)
    all_goals exact hnone (by simp [hpc, Pc.looping]) hk (by simp [hpc, Pc.fetchSlot, Pc.bodySlot]) rfl rfl
  case headerCached e a slot hpc hle _ | headerEmpty e a slot hpc hle _ =>
    obtain rfl := hi.epoch e (by simp [Pc.epochOf, hpc])
    exact (hb (by simp [hpc, Pc.looping]) hk).next (by simp [hpc, Pc.fetchSlot]) rfl
      (hw.succ_toNat hle) rfl rfl
  case headerOk e a slot hr hpc _ _ =>
    rcases hb (by simp [hpc, Pc.looping]) hk with hs | hin
    · exact .inl (hs.frame rfl rfl)
    · exact .inr (by simpa [hpc, Pc.fetchSlot, Pc.bodySlot] using hin)
  case headerLoopDone e a slot hpc hgt =>
    obtain rfl := hi.epoch e (by simp [Pc.epochOf, hpc])
    have hbelow := hi.below (by simp [hpc, Pc.looping])
    have hfl := Config.fetchLastSlot_toNat hw
    refine .inl (.inl ?_)
    show k ≤ cfg.fetchLastSlot σ.currentEpoch
    rcases hb (by simp [hpc, Pc.looping]) hk with (hle' | ⟨-, hlt⟩) | ⟨e', slot', hfs, -, hle'⟩
    · rw [u64_le_iff] at hle'
      rw [u64_le_iff, hfl]
      rw [Nat.add_mul] at hbelow
      omega
    · rw [u64_le_iff, hfl]
      rw [Nat.add_mul] at hlt
      omega
    · simp only [hpc, Pc.fetchSlot, Option.some.injEq, Prod.mk.injEq] at hfs
      obtain ⟨rfl, rfl⟩ := hfs
      exact hle'
  case bodyOk e a slot hr bd hpc =>
    obtain rfl := hi.epoch e (by simp [Pc.epochOf, hpc])
    have hle := hi.body σ.currentEpoch slot (by simp [hpc, Pc.bodySlot])
    have hsucc := hw.succ_toNat hle
    by_cases hks : k = slot
    · subst hks
      refine .inr ⟨_, k + 1, rfl, ?_, hle⟩
      rw [u64_lt_iff, hsucc]
      exact Nat.lt_succ_self _
    · simp only [ne_eq, Function.update_noteq hks] at hk
      exact (hb (by simp [hpc, Pc.looping]) hk).next (by simp [hpc, Pc.fetchSlot, Pc.bodySlot]) rfl
        hsucc rfl rfl
  case evictSlot e slot hpc _ =>
    have hks : k ≠ slot := by rintro rfl; simp at hk
    simp only [ne_eq, Function.update_noteq hks] at hk
    exact hnone (by simp [hpc, Pc.looping]) hk (by simp [hpc, Pc.fetchSlot, Pc.bodySlot]) rfl rfl
  case headerError e a slot err hpc _ _ =>
    exact .inl ((hb (by simp [hpc, Pc.looping]) hk).leftEarly hi.epoch hw (by simp [abortsFetch, hpc])
      rfl rfl)
  case bodyError e a slot hr err hpc =>
    exact .inl ((hb (by simp [hpc, Pc.looping]) hk).leftEarly hi.epoch hw (by simp [abortsFetch, hpc])
      rfl rfl)
  case killed e next hpc =>
    cases next
    case fetchBody =>
      exact .inl ((hb (by simp [hpc, Pc.looping]) hk).leftEarly hi.epoch hw
        (by simp [abortsFetch, hpc]) rfl rfl)
    all_goals exact hnone (by simp [hpc, Pc.looping]) hk (by simp [hpc, Pc.fetchSlot, Pc.bodySlot]) rfl rfl
  case complete e fin hpc _ | incomplete e fin hpc _ =>
    obtain rfl := hi.epoch e (by simp [Pc.epochOf, hpc])
    rcases (hb (by simp [hpc, Pc.looping]) hk).settled (by simp [hpc, Pc.fetchSlot, Pc.bodySlot])
      with hle | ⟨⟨q, hq, hrest⟩, hlt⟩
    · exact .inl (.inl hle)
    · refine .inl (.inr ⟨⟨q, List.mem_append_left _ hq, hrest⟩, ?_⟩)
      show k.toNat < ((σ.currentEpoch + 1).toNat + 2) * _
      rw [hw.epoch_succ_toNat]
      have hmono := Nat.mul_le_mul_right cfg.slotsPerEpoch.toNat
        (show σ.currentEpoch.toNat + 2 ≤ σ.currentEpoch.toNat + 1 + 2 by omega)
      omega
  all_goals first
    | (simp [Pc.looping] at hl; done)
    | exact hnone (by simp [‹σ.pc = _›, Pc.looping]) hk (by simp [‹σ.pc = _›, Pc.fetchSlot, Pc.bodySlot])
        rfl rfl

theorem FetchInv.step : FetchInv cfg (tr ++ [(σ, r)]) σ' where
  epoch := h.epochInv hi.epoch
  below := hi.below_step h hw
  body := hi.body_step h
  keys := hi.keys_step h hw

end Step

/-- A header requested for a cached slot is one a loop of the trace, left early
under the same mark, had passed. -/
theorem FetchInv.refetch (hi : FetchInv cfg tr σ) (h : Step cfg σ r σ') {k : UInt64}
    (hk : headerOf (σ, r) = some k) (hc : σ.cachedBlocks k ≠ none) :
    LeftEarly tr σ.cachedSlot k := by
  cases h
  case headerError e a slot err hpc _ hnc | headerEmpty e a slot hpc _ hnc |
      headerOk e a slot _ hpc _ hnc =>
    simp only [headerOf, hpc, Option.some.injEq] at hk
    subst hk
    rcases hi.keys (by simp [hpc, Pc.looping]) _ hc with (hle | ⟨hlt, -⟩) | ⟨e', slot', hfs, hlt, -⟩
    · exact absurd hle hnc
    · exact hlt
    · simp only [hpc, Pc.fetchSlot, Option.some.injEq, Prod.mk.injEq] at hfs
      obtain ⟨-, rfl⟩ := hfs
      exact absurd ((u64_lt_iff _ _).mp hlt) (Nat.lt_irrefl _)
  all_goals simp [headerOf, *] at hk

theorem Run.fetchInv {σ₀ : SyncState} {s : UInt64} (h : Run cfg (σ₀.started s) tr σ)
    (hw : ∀ p ∈ tr, cfg.WindowFits p.1.currentEpoch) : FetchInv cfg tr σ := by
  generalize hs : σ₀.started s = σs at h
  induction h with
  | nil => exact hs ▸ fetchInv_started σ₀ s
  | snoc _ hst ih =>
    exact (ih fun p hp => hw p (List.mem_append_left _ hp)).step (step_sound cfg hst)
      (hw _ (List.mem_append_right _ (List.mem_singleton_self _)))

/-- On every run whose windows stay below the largest slot, a call of
{lit}`GetBlockHeaderBySlot(k)` while {lit}`k` is a key of {lit}`cachedBlocks`
comes after a step that left a header loop early at a slot past {lit}`k`
(a header or body error, or a stop signal between a header and its body),
with the high-water mark where it is now. -/
theorem runSync_no_refetch {σ₀ : SyncState} {s : UInt64} (h : Run cfg (σ₀.started s) tr σ)
    (hw : ∀ p ∈ tr, cfg.WindowFits p.1.currentEpoch) :
    ∀ tr₁ p tr₂, tr = tr₁ ++ p :: tr₂ → ∀ k, headerOf p = some k → p.1.cachedBlocks k ≠ none →
      ∃ q ∈ tr₁, abortsFetch q = true ∧ q.1.cachedSlot = p.1.cachedSlot ∧
        ∃ e slot, q.1.pc.fetchSlot = some (e, slot) ∧ k < slot := by
  rintro tr₁ ⟨σp, r⟩ tr₂ rfl k hk hc
  obtain ⟨σ₁, h₁, h₂⟩ := h.split
  obtain ⟨rfl, σ', hs, -⟩ := h₂.uncons
  exact (h₁.fetchInv fun q hq => hw q (List.mem_append_left _ hq)).refetch (step_sound cfg hs) hk hc

/-- Epoch {lit}`1`: slot {lit}`1` holds a block and is cached, the header of
slot {lit}`2` fails, and the retry asks for slot {lit}`1` again. -/
def retryReplies : List Reply :=
  [.tick, .synced false, .assignments (.ok (some noDuties)), .kill false,
    .header (.ok (some (sampleHeader 1 []))), .kill false, .body (.ok (some sampleBody)),
    .header (.error "timeout"), .tick, .kill false, .synced false,
    .assignments (.ok (some noDuties)), .kill false, .header (.ok (some (sampleHeader 1 [])))]

/-- The retry of {lean}`retryReplies` requests slot {lit}`1` again, after the
header error at slot {lit}`2` that left the loop. -/
theorem runSync_no_refetch_retry : ∃ tr σ,
    Run tinyConfig (SyncState.new.started 1) tr σ ∧
      (∀ p ∈ tr, tinyConfig.WindowFits p.1.currentEpoch) ∧ records headerOf tr = [1, 2, 1] ∧
      ∀ tr₁ p tr₂, tr = tr₁ ++ p :: tr₂ → ∀ k, headerOf p = some k → p.1.cachedBlocks k ≠ none →
        ∃ q ∈ tr₁, abortsFetch q = true ∧ q.1.cachedSlot = p.1.cachedSlot ∧
          ∃ e slot, q.1.pc.fetchSlot = some (e, slot) ∧ k < slot := by
  obtain ⟨tr, σ, hrun, hf⟩ := run_exists (by decide :
    (run tinyConfig (SyncState.new.started 1) retryReplies).map
      (fun p => (p.1.all (decide <| tinyConfig.WindowFits ·.1.currentEpoch), records headerOf p.1)) =
        some (true, [1, 2, 1]))
  simp only [Prod.mk.injEq, List.all_eq_true, decide_eq_true_eq] at hf
  exact ⟨tr, σ, hrun, hf.1, hf.2, runSync_no_refetch hrun hf.1⟩

/-- The header loop runs through empty slots above the mark, one header request
each, and none of them leaves it. -/
theorem Run.emptySlots {σ : SyncState} {e slot : UInt64} {a : EpochAssignments} (n : Nat)
    (hpc : σ.pc = .fetchHeader e a slot)
    (hgo : ∀ i < n, slot + UInt64.ofNat i ≤ cfg.fetchLastSlot e ∧
      ¬slot + UInt64.ofNat i ≤ σ.cachedSlot) :
    ∃ tr, Run cfg σ tr { σ with pc := .fetchHeader e a (slot + UInt64.ofNat n) } ∧
      ∀ p ∈ tr, abortsFetch p = false := by
  induction n with
  | zero => exact ⟨[], by rw [u64_add_ofNat_zero, ← hpc]; exact .nil σ, by simp⟩
  | succ n ih =>
    obtain ⟨tr, h, hab⟩ := ih fun i hi => hgo i (Nat.lt_succ_of_lt hi)
    obtain ⟨hle, hnc⟩ := hgo n (Nat.lt_succ_self n)
    refine ⟨_, h.snoc (r := .header (.ok none)) ?_, fun p hp => ?_⟩
    · simp [step, hle, hnc, u64_add_ofNat_succ]
    · rcases List.mem_append.mp hp with hp | hp
      · exact hab p hp
      · simp [List.mem_singleton.mp hp, abortsFetch]

/-- From {lit}`startSync(2^64-2)` with one slot per epoch, the window of the
first epoch ends at the largest slot: slot {lit}`2^64-2` holds a block and is
cached, slot {lit}`2^64-1` is empty, and the loop wraps round, passes slot
{lit}`0` at the mark and reaches slot {lit}`1`. -/
def lastSlotReplies : List Reply :=
  [.tick, .synced false, .assignments (.ok (some noDuties)), .kill false,
    .header (.ok (some (sampleHeader 18446744073709551614 []))), .kill false,
    .body (.ok (some sampleBody)), .header (.ok none), .tick]

/-- The claim fails twice over.  After a header error the retry calls
{lit}`GetBlockHeaderBySlot(1)` while slot {lit}`1` is cached.  And with no
loop left early, a window that ends at the largest slot wraps: the loop runs
through every slot again and requests the header of slot {lit}`2^64-2`, which
it cached on its first pass. -/
theorem cached_header_refetched :
    (¬ ∀ tr σ, Run tinyConfig (SyncState.new.started 1) tr σ →
      ∀ p ∈ tr, ∀ k, headerOf p = some k → p.1.cachedBlocks k = none) ∧
    ¬ ∀ tr σ, Run tinyConfig (SyncState.new.started 18446744073709551614) tr σ →
      (∀ p ∈ tr, abortsFetch p = false) →
      ∀ p ∈ tr, ∀ k, headerOf p = some k → p.1.cachedBlocks k = none := by
  constructor
  · intro hall
    obtain ⟨tr, σ, hrun, hf⟩ := run_exists (by decide :
      (run tinyConfig (SyncState.new.started 1) retryReplies).map
        (fun p => p.1.any fun q => (headerOf q).any fun k => (q.1.cachedBlocks k).isSome) = some true)
    obtain ⟨q, hq, hk⟩ := List.any_eq_true.mp hf
    cases hh : headerOf q with
    | none => simp [hh] at hk
    | some k => simp [hh, hall tr σ hrun q hq k hh] at hk
  · intro hall
    obtain ⟨tr₀, σ₁, h₀, hf⟩ := run_exists (by decide :
      (run tinyConfig (SyncState.new.started 18446744073709551614) lastSlotReplies).map
        (fun p => (p.1.all (abortsFetch · == false), p.2.pc.fetchSlot, p.2.pc.bodySlot,
          p.2.cachedSlot, (p.2.cachedBlocks 18446744073709551614).isSome)) =
        some (true, some (18446744073709551614, 1), none, 0, true))
    simp only [Prod.mk.injEq, List.all_eq_true, beq_iff_eq] at hf
    obtain ⟨hab₀, hfs, hbs, hm, hc⟩ := hf
    obtain ⟨a, hpc⟩ := Pc.eq_fetchHeader hfs hbs
    have hmax : tinyConfig.fetchLastSlot 18446744073709551614 = 18446744073709551615 := by decide
    obtain ⟨tr₁, h₁, hab₁⟩ := @Run.emptySlots tinyConfig _ _ _ _ 18446744073709551613 hpc
      fun i hi => ⟨by rw [hmax, u64_le_iff]; exact Nat.le_of_lt_succ (UInt64.toNat_lt_size _),
        by rw [hm, u64_le_iff, u64_toNat_add, u64_toNat_ofNat, u64_toNat_one, UInt64.toNat_zero]; omega⟩
    have hslot : (1 : UInt64) + UInt64.ofNat 18446744073709551613 = 18446744073709551614 := by decide
    rw [hslot] at h₁
    have hs : step tinyConfig { σ₁ with pc := .fetchHeader 18446744073709551614 a 18446744073709551614 }
        (.header (.ok none)) =
          some { σ₁ with pc := .fetchHeader 18446744073709551614 a (18446744073709551614 + 1) } := by
      simp [step, hm, hmax]
    have := hall _ _ ((h₀.append h₁).snoc hs) (fun p hp => by
      rcases List.mem_append.mp hp with hp | hp
      · rcases List.mem_append.mp hp with hp | hp
        · exact hab₀ p hp
        · exact hab₁ p hp
      · simp [List.mem_singleton.mp hp, abortsFetch])
      _ (List.mem_append_right _ (List.mem_singleton_self _)) 18446744073709551614 rfl
    exact Option.isSome_iff_ne_none.mp hc this

/-! ## The genesis slot and stale lookahead -/

/-- A chain with an empty-bodied block at each listed slot. -/
def chainOf (slots : List UInt64) (slot : UInt64) : Option (HeaderResponse × BlockBody) :=
  if slot ∈ slots then some (sampleHeader slot [], sampleBody) else none

/-- Every successful header or body answer of the step is the chain's. -/
def answersFrom (chain : UInt64 → Option (HeaderResponse × BlockBody))
    (p : SyncState × Reply) : Bool :=
  match p.1.pc, p.2 with
  | .fetchHeader _ _ slot, .header (.ok h) => h == (chain slot).map Prod.fst
  | .fetchBody _ _ slot _, .body (.ok b) => b == (chain slot).map Prod.snd
  | _, _ => true

/-- Epoch {lit}`0` with one slot per epoch, up to {lit}`aggregateEpochVotes`. -/
def genesisReplies : List Reply :=
  [.tick, .synced false, .assignments (.ok (some noDuties)), .kill false, .tick,
    .header (.ok none), .tick, .kill false, .stats (some ⟨[]⟩), .kill false, .tick, .tick]

/-- On a chain with a block at slot {lit}`0`, a run started at epoch {lit}`0`
reaches {lit}`aggregateEpochVotes` for epoch {lit}`0` without asking for slot
{lit}`0`'s header: the initial high-water mark {lit}`0` marks it as cached. -/
theorem genesis_slot_skipped : ∃ tr σ,
    Run tinyConfig (SyncState.new.started 0) tr σ ∧ (∀ p ∈ tr, answersFrom (chainOf [0]) p = true) ∧
      σ.pc.aggregateArgs.map Prod.fst = some 0 ∧ (chainOf [0] 0).isSome ∧
      0 ∉ records headerOf tr ∧ σ.cachedBlocks 0 = none := by
  obtain ⟨tr, σ, hrun, hf⟩ := run_exists (by decide :
    (run tinyConfig (SyncState.new.started 0) genesisReplies).map
      (fun p => (p.1.all (answersFrom (chainOf [0])), p.2.pc.aggregateArgs.map Prod.fst,
        records headerOf p.1, (p.2.cachedBlocks 0).isSome)) = some (true, some 0, [1], false))
  simp only [Prod.mk.injEq, List.all_eq_true, Option.not_isSome_iff_eq_none] at hf
  obtain ⟨hch, hagg, hk, hc⟩ := hf
  exact ⟨tr, σ, hrun, hch, hagg, by decide, by simp [hk], by simpa using hc⟩

/-- Epoch {lit}`1` with one slot per epoch: slot {lit}`1` is empty, slot
{lit}`2` holds a block, and the epoch is committed. -/
def lookaheadReplies : List Reply :=
  [.tick, .synced false, .assignments (.ok (some noDuties)), .kill false, .header (.ok none),
    .header (.ok (some (sampleHeader 2 []))), .kill false, .body (.ok (some sampleBody)), .tick,
    .kill false, .stats (some ⟨[]⟩), .kill false, .tick, .tick, .tick, .db none, .db none,
    .db none, .db none, .tick, .tick, .finalized maxFinalized, .tick, .kill false]

/-- Epoch {lit}`2` reported synchronized after the commit of
{lit}`lookaheadReplies`: the cursor moves to {lit}`3` and the next call runs up to
{lit}`aggregateEpochVotes`. -/
def staleReplies : List Reply :=
  lookaheadReplies ++ [.synced true, .finalized maxFinalized, .tick, .kill false]

/-- The lookahead block of slot {lit}`2` outlives its epoch: it is cached at
the top of the iteration of epoch {lit}`3`, and still cached when
{lit}`aggregateEpochVotes` runs for epoch {lit}`3`. -/
theorem stale_lookahead :
    (∃ tr σ, Run tinyConfig (SyncState.new.started 1) tr σ ∧ σ.pc = .loop ∧
      σ.currentEpoch = 3 ∧ σ.cachedBlocks 2 ≠ none ∧ 2 < tinyConfig.firstSlot 3) ∧
    ∃ tr σ, Run tinyConfig (SyncState.new.started 1) tr σ ∧
      σ.pc.aggregateArgs.map Prod.fst = some 3 ∧ σ.cachedBlocks 2 ≠ none := by
  constructor
  · obtain ⟨tr, σ, hrun, hf⟩ := run_exists (by decide :
      (run tinyConfig (SyncState.new.started 1) staleReplies).map
        (fun p => (p.2.pc.inCall, p.2.pc.epochOf, p.2.currentEpoch, (p.2.cachedBlocks 2).isSome)) =
          some (true, none, 3, true))
    simp only [Prod.mk.injEq] at hf
    obtain ⟨hc, he, hcur, hk⟩ := hf
    exact ⟨tr, σ, hrun, Pc.eq_loop hc he, hcur, by simpa [← Option.isSome_iff_ne_none] using hk,
      by decide⟩
  · obtain ⟨tr, σ, hrun, hf⟩ := run_exists (by decide :
      (run tinyConfig (SyncState.new.started 1) (staleReplies ++ [.synced false,
          .assignments (.ok (some noDuties)), .kill false, .header (.ok none), .header (.ok none),
          .tick, .kill false, .stats (some ⟨[]⟩), .kill false, .tick, .tick])).map
        (fun p => (p.2.pc.aggregateArgs.map Prod.fst, (p.2.cachedBlocks 2).isSome)) =
          some (some 3, true))
    simp only [Prod.mk.injEq] at hf
    exact ⟨tr, σ, hrun, hf.1, by simpa [← Option.isSome_iff_ne_none] using hf.2⟩

end Synchronizer
end BeaconSync
