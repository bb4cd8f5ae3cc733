import BeaconSync.Synchronizer.Run

/-!
# Beacon synchronizer - The target root of an epoch

Before it aggregates the votes of an epoch, {lit}`syncEpoch` looks for the
first cached block of the epoch (lines 207-214) and takes its root when it sits
at the epoch's first slot, its parent root otherwise (lines 216-223).  On a
canonical chain, whose blocks each name the latest earlier block as parent, that
is the root of the latest block at or before the epoch's first slot, the
checkpoint the epoch's votes target.

The search loop runs {lit}`for slot := firstSlot; slot <= lastSlot; slot++` on
{lit}`uint64`.  When the epoch's last slot is the largest one the loop test
never fails: the search wraps to slot {lit}`0` and can return a block of
another epoch.

Main results:

- Theorem {lit}`Synchronizer.Run.findFirst_result`: every run of the search
  ends with the first cached block of the epoch, or with none.
- Theorem {lit}`Synchronizer.syncEpoch_targetRoot`: on a canonical chain the
  search ends, with the root of the latest block at or before the epoch's first
  slot when the epoch has a block, and with the empty root otherwise.
- Theorem {lit}`Synchronizer.target_search_wraps`: the wrapped search of the
  last epoch of the slot range.
-/

namespace BeaconSync
namespace Synchronizer

variable {cfg : Config} {σ σ' : SyncState} {r : Reply} {tr : List (SyncState × Reply)}
  {e : UInt64} {st : EpochStats}

/-! ## The search loop -/

/-- What one iteration of the search of lines 209-214 does. -/
theorem Step.findFirst_cases {slot : UInt64} (h : Step cfg σ r σ')
    (hpc : σ.pc = .findFirst e st slot) :
    σ'.cachedBlocks = σ.cachedBlocks ∧
      ((slot ≤ cfg.epochLastSlot e ∧ ∃ b, σ.cachedBlocks slot = some b ∧
          σ'.pc = .aggregate e st (targetRootOf (cfg.firstSlot e) b)) ∨
        (slot ≤ cfg.epochLastSlot e ∧ σ.cachedBlocks slot = none ∧
          σ'.pc = .findFirst e st (slot + 1)) ∨
        (¬slot ≤ cfg.epochLastSlot e ∧ σ'.pc = .aggregate e st [])) := by
  cases h
  case findHit e' st' slot' b hpc' hle hb =>
    simp only [hpc, Pc.findFirst.injEq] at hpc'
    obtain ⟨rfl, rfl, rfl⟩ := hpc'
    exact ⟨rfl, .inl ⟨hle, b, hb, rfl⟩⟩
  case findMiss e' st' slot' hpc' hle hb =>
    simp only [hpc, Pc.findFirst.injEq] at hpc'
    obtain ⟨rfl, rfl, rfl⟩ := hpc'
    exact ⟨rfl, .inr (.inl ⟨hle, hb, rfl⟩)⟩
  case findDone e' st' slot' hpc' hgt =>
    simp only [hpc, Pc.findFirst.injEq] at hpc'
    obtain ⟨rfl, rfl, rfl⟩ := hpc'
    exact ⟨rfl, .inr (.inr ⟨hgt, rfl⟩)⟩
  case notKilled e' next hpc' => simp [hpc] at hpc'
  case panic hc => simp [SyncState.callsOut, hpc] at hc
  all_goals simp_all

/-- The first cached block from {lit}`slot` up to {lit}`last`, if
{lit}`b?` is a block, and no cached block there otherwise. -/
def FirstFrom (cache : BlockCache) (slot last : UInt64) : Option CacheBlock → Prop
  | some b => ∃ k, slot ≤ k ∧ k ≤ last ∧ cache k = some b ∧ ∀ j, slot ≤ j → j < k → cache j = none
  | none => ∀ k, slot ≤ k → k ≤ last → cache k = none

/-- An empty slot in front of the searched range does not change the answer. -/
theorem FirstFrom.of_succ {cache : BlockCache} {slot last : UInt64} {b? : Option CacheBlock}
    (h : FirstFrom cache (slot + 1) last b?) (hnone : cache slot = none)
    (hs : (slot + 1).toNat = slot.toNat + 1) : FirstFrom cache slot last b? := by
  have hsucc : ∀ k : UInt64, slot + 1 ≤ k ↔ slot < k := by
    intro k
    rw [u64_le_iff, u64_lt_iff, hs]
    omega
  have hcases : ∀ k : UInt64, slot ≤ k → k = slot ∨ slot + 1 ≤ k := by
    intro k hk
    rw [hsucc, u64_lt_iff]
    rw [u64_le_iff] at hk
    rcases Nat.lt_or_eq_of_le hk with hlt | heq
    · exact .inr hlt
    · exact .inl ((u64_eq_iff _ _).mpr heq.symm)
  cases b? with
  | none =>
    intro k hk hkl
    rcases hcases k hk with rfl | hk'
    · exact hnone
    · exact h k hk' hkl
  | some b =>
    obtain ⟨k, hk, hkl, hb, hfirst⟩ := h
    refine ⟨k, ?_, hkl, hb, fun j hj hjk => ?_⟩
    · rw [hsucc] at hk
      exact u64_le_iff _ _ |>.mpr (Nat.le_of_lt hk)
    · rcases hcases j hj with rfl | hj'
      · exact hnone
      · exact hfirst j hj' hjk

/-- A run that ends at a state with aggregate arguments, and that passed none
before, has none left to take once it is there. -/
theorem Run.eq_of_aggregate {σ₁ : SyncState} (h : Run cfg σ₁ tr σ')
    (hnot : ∀ p ∈ tr, p.1.pc.aggregateArgs = none) (hagg : σ₁.pc.aggregateArgs ≠ none) :
    σ' = σ₁ := by
  cases tr with
  | nil => exact h.nil_inv
  | cons p tr =>
    obtain ⟨rfl, -⟩ := h.uncons
    exact absurd (hnot p (List.mem_cons_self _ _)) hagg

/-- Every run of the search that stops at the first call of
{lit}`aggregateEpochVotes` passes the first cached block's target root, or the
empty root when the epoch's range holds no cached block. -/
theorem Run.findFirst_result {slot : UInt64} (h : Run cfg σ tr σ')
    (hpc : σ.pc = .findFirst e st slot) (hfit : cfg.EpochFits e)
    (hnot : ∀ p ∈ tr, p.1.pc.aggregateArgs = none) {a : UInt64 × EpochStats × Root}
    (hagg : σ'.pc.aggregateArgs = some a) :
    ∃ b?, FirstFrom σ.cachedBlocks slot (cfg.epochLastSlot e) b? ∧
      a = (e, st, (b?.map (targetRootOf (cfg.firstSlot e))).getD []) := by
  induction tr generalizing σ slot with
  | nil =>
    obtain rfl := h.nil_inv
    simp [hpc, Pc.aggregateArgs] at hagg
  | cons p tr ih =>
    obtain ⟨σ₁, r⟩ := p
    obtain ⟨rfl, σ₂, hs, h'⟩ := h.uncons
    have hnot' := fun q hq => hnot q (List.mem_cons_of_mem _ hq)
    obtain ⟨hcache, hhit | ⟨hle, hnone, hpc₂⟩ | ⟨hgt, hpc₂⟩⟩ :=
      (step_sound cfg hs).findFirst_cases hpc
    · obtain ⟨hle, b, hb, hpc₂⟩ := hhit
      obtain rfl := h'.eq_of_aggregate hnot' (by simp [hpc₂, Pc.aggregateArgs])
      simp only [hpc₂, Pc.aggregateArgs, Option.some.injEq] at hagg
      exact ⟨some b, ⟨slot, u64_le_iff _ _ |>.mpr (Nat.le_refl _), hle, hb,
        fun j hj hjk => absurd (u64_lt_iff _ _ |>.mp hjk) (by rw [u64_le_iff] at hj; omega)⟩,
        by simp [hagg]⟩
    · obtain ⟨b?, hfirst, ha⟩ := ih h' hpc₂ hnot'
      exact ⟨b?, (hcache ▸ hfirst).of_succ hnone (hfit.succ_toNat hle), ha⟩
    · obtain rfl := h'.eq_of_aggregate hnot' (by simp [hpc₂, Pc.aggregateArgs])
      simp only [hpc₂, Pc.aggregateArgs, Option.some.injEq] at hagg
      refine ⟨none, fun k hk hkl => ?_, by simp [hagg]⟩
      rw [u64_le_iff] at hk hkl hgt
      omega

/-- The search ends: from any slot of the epoch it reaches
{lit}`aggregateEpochVotes`. -/
theorem Run.findFirst_reaches {slot : UInt64} (hpc : σ.pc = .findFirst e st slot)
    (hfit : cfg.EpochFits e) :
    ∃ tr σ' a, Run cfg σ tr σ' ∧ (∀ p ∈ tr, p.1.pc.aggregateArgs = none) ∧
      σ'.pc.aggregateArgs = some a := by
  generalize hn : (cfg.epochLastSlot e).toNat + 1 - slot.toNat = n
  induction n generalizing σ slot with
  | zero =>
    have hgt : ¬slot ≤ cfg.epochLastSlot e := by rw [u64_le_iff]; omega
    refine ⟨[(σ, .tick)], { σ with pc := .aggregate e st [] }, _,
      .cons (by simp [step, hpc, hgt]) (.nil _), ?_, rfl⟩
    simp [hpc, Pc.aggregateArgs]
  | succ n ih =>
    by_cases hle : slot ≤ cfg.epochLastSlot e
    · cases hb : σ.cachedBlocks slot with
      | some b =>
        refine ⟨[(σ, .tick)], { σ with pc := .aggregate e st (targetRootOf (cfg.firstSlot e) b) },
          _, .cons (by simp [step, hpc, hle, hb]) (.nil _), ?_, rfl⟩
        simp [hpc, Pc.aggregateArgs]
      | none =>
        have hsucc := hfit.succ_toNat hle
        obtain ⟨tr, σ', a, h, hnot, hagg⟩ :=
          @ih { σ with pc := .findFirst e st (slot + 1) } (slot + 1) rfl
            (by rw [hsucc]; omega)
        refine ⟨(σ, .tick) :: tr, σ', a, .cons (by simp [step, hpc, hle, hb]) h, ?_, hagg⟩
        simpa [hpc, Pc.aggregateArgs] using hnot
    · refine ⟨[(σ, .tick)], { σ with pc := .aggregate e st [] }, _,
        .cons (by simp [step, hpc, hle]) (.nil _), ?_, rfl⟩
      simp [hpc, Pc.aggregateArgs]

/-! ## The canonical chain -/

/-- The latest block of {lit}`chain` at a slot at most {lit}`n`. -/
def latestAtOrBefore (chain : UInt64 → Option CacheBlock) : Nat → Option (UInt64 × CacheBlock)
  | 0 => (chain 0).map fun b => (0, b)
  | n + 1 =>
    match chain (UInt64.ofNat (n + 1)) with
    | some b => some (UInt64.ofNat (n + 1), b)
    | none => latestAtOrBefore chain n

/-- The latest block of {lit}`chain` at a slot below {lit}`slot`. -/
def latestBelow (chain : UInt64 → Option CacheBlock) (slot : UInt64) :
    Option (UInt64 × CacheBlock) :=
  if slot.toNat = 0 then none else latestAtOrBefore chain (slot.toNat - 1)

/-- A canonical chain: each block is keyed by its header's slot and names the
root of the latest earlier block as its parent. -/
structure Canonical (chain : UInt64 → Option CacheBlock) : Prop where
  slot : ∀ k b, chain k = some b → b.header.slot = k
  parent : ∀ k b j b', chain k = some b → latestBelow chain k = some (j, b') →
    b.header.parentRoot = b'.root

theorem latestAtOrBefore_of_some {chain : UInt64 → Option CacheBlock} {k : UInt64}
    {b : CacheBlock} (h : chain k = some b) : latestAtOrBefore chain k.toNat = some (k, b) := by
  rcases hk : k.toNat with _ | n
  · obtain rfl : k = 0 := (u64_eq_iff _ _).mpr hk
    simp [latestAtOrBefore, h]
  · have hk' : UInt64.ofNat (n + 1) = k := by rw [← hk, u64_ofNat_toNat]
    simp [latestAtOrBefore, hk', h]

/-- Slots without a block above {lit}`m` and up to {lit}`n` leave the latest
block as it was at {lit}`m`. -/
theorem latestAtOrBefore_skip {chain : UInt64 → Option CacheBlock} {m n : Nat} (hmn : m ≤ n)
    (h : ∀ j, m < j → j ≤ n → chain (UInt64.ofNat j) = none) :
    latestAtOrBefore chain n = latestAtOrBefore chain m := by
  induction n with
  | zero =>
    obtain rfl : m = 0 := by omega
    rfl
  | succ n ih =>
    rcases Nat.lt_or_eq_of_le hmn with hlt | rfl
    · simp only [latestAtOrBefore, h (n + 1) hlt (Nat.le_refl _)]
      exact ih (by omega) fun j h₁ h₂ => h j h₁ (by omega)
    · rfl

/-- The target root of the epoch, on a canonical chain whose blocks of the
epoch are exactly the cached ones: the search reaches
{lit}`aggregateEpochVotes`, and every run that does passes the root of the
latest block at or before the epoch's first slot when the epoch has a block,
and the empty root when it has none. -/
theorem syncEpoch_targetRoot {chain : UInt64 → Option CacheBlock} (hfit : cfg.EpochFits e)
    (hcan : Canonical chain)
    (hcache : ∀ k, cfg.firstSlot e ≤ k → k ≤ cfg.epochLastSlot e → σ.cachedBlocks k = chain k)
    (hpc : σ.pc = .findFirst e st (cfg.firstSlot e)) :
    (∃ tr σ' a, Run cfg σ tr σ' ∧ (∀ p ∈ tr, p.1.pc.aggregateArgs = none) ∧
      σ'.pc.aggregateArgs = some a) ∧
    ∀ tr σ' e' st' t, Run cfg σ tr σ' → (∀ p ∈ tr, p.1.pc.aggregateArgs = none) →
      σ'.pc.aggregateArgs = some (e', st', t) →
      e' = e ∧ st' = st ∧
      ((∃ k, cfg.firstSlot e ≤ k ∧ k ≤ cfg.epochLastSlot e ∧ chain k ≠ none) →
        ∀ j b, latestAtOrBefore chain (cfg.firstSlot e).toNat = some (j, b) → t = b.root) ∧
      ((∀ k, cfg.firstSlot e ≤ k → k ≤ cfg.epochLastSlot e → chain k = none) → t = []) := by
  refine ⟨Run.findFirst_reaches hpc hfit, fun tr σ' e' st' t h hnot hagg => ?_⟩
  obtain ⟨b?, hfirst, ha⟩ := h.findFirst_result hpc hfit hnot hagg
  simp only [Prod.mk.injEq] at ha
  obtain ⟨he, hst, rfl⟩ := ha
  refine ⟨he, hst, ?_⟩
  cases b? with
  | none =>
    refine ⟨fun ⟨k, hk, hkl, hne⟩ => absurd ((hcache k hk hkl).symm.trans (hfirst k hk hkl)) hne,
      fun _ => rfl⟩
  | some b =>
    obtain ⟨k, hk, hkl, hb, hbefore⟩ := hfirst
    have hchain : chain k = some b := (hcache k hk hkl).symm.trans hb
    have hslot := hcan.slot k b hchain
    refine ⟨fun _ j b' hlatest => ?_, fun hnone => by simp [hnone k hk hkl] at hchain⟩
    by_cases hkf : k = cfg.firstSlot e
    · subst hkf
      rw [latestAtOrBefore_of_some hchain] at hlatest
      cases hlatest
      simp [targetRootOf, hslot]
    · have hfirstNat := Config.firstSlot_toNat hfit
      have hlastNat := Config.epochLastSlot_toNat hfit
      have hlt : (cfg.firstSlot e).toNat < k.toNat := by
        rw [u64_le_iff] at hk
        exact Nat.lt_of_le_of_ne hk fun h => hkf ((u64_eq_iff _ _).mpr h).symm
      have hbelow : latestBelow chain k = some (j, b') := by
        rw [latestBelow, if_neg (by omega), ← hlatest]
        refine latestAtOrBefore_skip (by omega) fun i hi₁ hi₂ => ?_
        have hi : (UInt64.ofNat i).toNat = i := by
          rw [u64_toNat_ofNat, Nat.mod_eq_of_lt (by have : k.toNat < 2 ^ 64 := k.toNat_lt_size; omega)]
        have hlo : cfg.firstSlot e ≤ UInt64.ofNat i := by rw [u64_le_iff, hi]; omega
        rw [← hcache _ hlo (by rw [u64_le_iff, hi]; rw [u64_le_iff] at hkl; omega)]
        exact hbefore _ hlo (by rw [u64_lt_iff, hi]; omega)
      simp [targetRootOf, hslot, hkf, hcan.parent k b j b' hchain hbelow]

/-- Blocks at slots {lit}`0` and {lit}`1`, the second naming the first as parent. -/
def sampleChain (slot : UInt64) : Option CacheBlock :=
  if slot = 0 then some (CacheBlock.ofResponse 0 (sampleHeader 0 []) sampleBody)
  else if slot = 1 then some (CacheBlock.ofResponse 1 (sampleHeader 1 [0]) sampleBody)
  else none

theorem canonical_sampleChain : Canonical sampleChain where
  slot k b h := by
    unfold sampleChain at h
    split_ifs at h with h₀ h₁ <;> cases h <;> simp [CacheBlock.ofResponse, sampleHeader, *]
  parent k b j b' h hb := by
    unfold sampleChain at h
    split_ifs at h with h₀ h₁
    · subst h₀
      simp [latestBelow] at hb
    · subst h₁
      cases h
      simp [latestBelow, latestAtOrBefore, sampleChain] at hb
      obtain ⟨rfl, rfl⟩ := hb
      rfl

/-- The search of epoch {lit}`1` with one slot per epoch, over the cache of
{lean}`sampleChain`. -/
def searchStart : SyncState :=
  { SyncState.new with
    pc := .findFirst 1 (EpochStats.ofAssignments 1 noDuties ⟨[]⟩) (tinyConfig.firstSlot 1)
    cachedBlocks := sampleChain }

/-- The search of {lean}`searchStart` reaches {lit}`aggregateEpochVotes`. -/
theorem syncEpoch_targetRoot_sample : ∃ tr σ' a, Run tinyConfig searchStart tr σ' ∧
    (∀ p ∈ tr, p.1.pc.aggregateArgs = none) ∧ σ'.pc.aggregateArgs = some a :=
  (syncEpoch_targetRoot (by decide) canonical_sampleChain
    (fun _ _ _ => rfl) rfl).1

/-- Two slots per epoch: with epoch {lit}`2^63 - 1` the epoch's last slot is the
largest one. -/
def pairConfig : Config where
  slotsPerEpoch := 2
  slotsPerEpoch_pos := by decide
  syncEpochCooldown := 0
  aggregateEpochVotes := fun _ _ _ _ => ⟨0, 0, 0⟩

/-- A chain with a single block, at slot {lit}`0`. -/
def genesisChain (slot : UInt64) : Option CacheBlock :=
  if slot = 0 then some (CacheBlock.ofResponse 0 (sampleHeader 0 [7]) sampleBody) else none

theorem canonical_genesisChain : Canonical genesisChain where
  slot k b h := by
    unfold genesisChain at h
    split_ifs at h with h₀
    cases h
    simp [CacheBlock.ofResponse, sampleHeader, h₀]
  parent k b j b' h hb := by
    unfold genesisChain at h
    split_ifs at h with h₀
    subst h₀
    simp [latestBelow] at hb

/-- The search of the last epoch of the slot range, over the cache of
{lean}`genesisChain`. -/
def wrapSearchStart : SyncState :=
  { SyncState.new with
    pc := .findFirst 9223372036854775807 (EpochStats.ofAssignments 9223372036854775807 noDuties ⟨[]⟩)
      (pairConfig.firstSlot 9223372036854775807)
    cachedBlocks := genesisChain }

/-- In the last epoch of the slot range, which holds no block, the search wraps
to slot {lit}`0` and passes the genesis block's parent root, not the empty root. -/
theorem target_search_wraps :
    ¬ ∀ (chain : UInt64 → Option CacheBlock) (σ : SyncState) st tr σ' e' st' t,
      Canonical chain →
      (∀ k, pairConfig.firstSlot 9223372036854775807 ≤ k →
        k ≤ pairConfig.epochLastSlot 9223372036854775807 → σ.cachedBlocks k = chain k) →
      σ.pc = .findFirst 9223372036854775807 st (pairConfig.firstSlot 9223372036854775807) →
      Run pairConfig σ tr σ' → (∀ p ∈ tr, p.1.pc.aggregateArgs = none) →
      σ'.pc.aggregateArgs = some (e', st', t) →
      (∀ k, pairConfig.firstSlot 9223372036854775807 ≤ k →
        k ≤ pairConfig.epochLastSlot 9223372036854775807 → chain k = none) →
      t = [] := by
  intro hall
  obtain ⟨tr, σ', hrun, hf⟩ := run_exists (by decide :
    (run pairConfig wrapSearchStart [.tick, .tick, .tick]).map
      (fun p => (p.1.all (·.1.pc.aggregateArgs.isNone), p.2.pc.aggregateArgs.map (·.2.2))) =
        some (true, some [7]))
  simp only [Prod.mk.injEq, List.all_eq_true, Option.isNone_iff_eq_none] at hf
  obtain ⟨hnot, hagg⟩ := hf
  obtain ⟨⟨e', st', t⟩, hagg', rfl⟩ := Option.map_eq_some'.mp hagg
  have hempty : ∀ k, pairConfig.firstSlot 9223372036854775807 ≤ k → genesisChain k = none := by
    intro k hk
    have hk0 : k ≠ 0 := by rintro rfl; exact absurd hk (by decide)
    simp [genesisChain, hk0]
  exact absurd (hall genesisChain wrapSearchStart _ tr σ' e' st' _ canonical_genesisChain (fun _ _ _ => rfl) rfl hrun
    hnot hagg' fun k hk _ => hempty k hk) (by decide)

end Synchronizer
end BeaconSync
