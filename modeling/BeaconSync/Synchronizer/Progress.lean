import BeaconSync.Synchronizer.Agreement

/-!
# Beacon synchronizer - Progress when the collaborators answer

{lit}`runSync` retries an epoch after every failure, so its progress rests on
what happens once the chain node and storage answer.  This module runs the
goroutine with the reply {lean}`Synchronizer.Env.reply` gives each statement:
the answer of {lean}`Synchronizer.Env` for every call, no stop signal, and a
fixed finalized epoch.  Each loop of {lit}`syncEpoch` then runs to its end, the
call returns {lit}`(true, nil)` with the mark, the cache and the commit of the
undisturbed run, and the loop goes on until line 96 finds the cursor past the
finalized epoch.  The same holds from any point a run reaches at the top of the
loop, whatever failures it went through: what a failed attempt left in the
cache changes nothing once the answers come.

Main results:

- Definitions {lit}`Synchronizer.undisturbedTx` and
  {lit}`Synchronizer.undisturbedCommits`: the transactions of the undisturbed
  run, with the target root {lit}`Synchronizer.targetRoot` computed as the
  search computes it.
- Theorem {lit}`Synchronizer.Driven.syncEpoch_done`: one call of
  {lit}`syncEpoch` returns done with the undisturbed run's mark, cache and
  commit.
- Theorem {lit}`Synchronizer.runSync_catches_up`: from {lit}`startSync(s)` the
  goroutine syncs every epoch up to the finalized one and returns complete.
- Theorem {lit}`Synchronizer.Run.commit_undisturbed`: every transaction a run
  under the fixed answers commits is the undisturbed run's transaction for its
  iteration.
- Structure {lit}`Synchronizer.StorageAt` and theorem
  {lit}`Synchronizer.Run.storageAt`: the storage of every such run is the
  undisturbed run's, up to the iteration its cursor has reached.
- Theorem {lit}`Synchronizer.runSync_progress`: from any point of such a run
  at the top of the loop, the goroutine completes the undisturbed run's
  storage up to the finalized epoch and returns complete.
-/

namespace BeaconSync
namespace Synchronizer

/-! ## The undisturbed commits -/

/-- The search of lines 209-214 over {lit}`count` slots from {lit}`slot`: the
first cached block. -/
def firstCached (cache : BlockCache) (slot : UInt64) : Nat → Option CacheBlock
  | 0 => none
  | count + 1 => (cache slot).or (firstCached cache (slot + 1) count)

/-- The target root lines 207-223 compute for the epoch from the cache. -/
def targetRoot (cfg : Config) (cache : BlockCache) (epoch : UInt64) : Root :=
  ((firstCached cache (cfg.firstSlot epoch) cfg.slotsPerEpoch.toNat).map
    (targetRootOf (cfg.firstSlot epoch))).getD []

section Commits

variable (cfg : Config) (env : Env)

/-- The transaction iteration {lit}`n` of the undisturbed run commits: none
when storage reports its epoch synchronized. -/
def undisturbedTx (s : UInt64) (n : Nat) : List (List Write) :=
  let e := s + UInt64.ofNat n
  let F := fetched cfg env s n
  if env.synced e then []
  else [epochTx e F (env.epochStats e)
    (cfg.aggregateEpochVotes F e (env.epochStats e) (targetRoot cfg F e))]

/-- The transactions of iterations {lit}`n, n+1, …, n+count-1` of the
undisturbed run. -/
def undisturbedCommits (s : UInt64) : Nat → Nat → List (List Write)
  | _, 0 => []
  | n, count + 1 => undisturbedTx cfg env s n ++ undisturbedCommits s (n + 1) count

end Commits

/-- Over the {lit}`count` slots up to the epoch's last one, the search ends
with the target root of the first cached block. -/
theorem firstCached_search {cfg : Config} {cache : BlockCache} {e : UInt64}
    (hfit : cfg.EpochFits e) (count : Nat) {slot : UInt64}
    (hc : slot.toNat + count = (cfg.epochLastSlot e).toNat + 1) :
    SearchFrom cache (cfg.firstSlot e) (cfg.epochLastSlot e) slot
      (((firstCached cache slot count).map (targetRootOf (cfg.firstSlot e))).getD []) := by
  induction count generalizing slot with
  | zero => exact .done (by rw [u64_le_iff]; omega)
  | succ count ih =>
    have hle : slot ≤ cfg.epochLastSlot e := by rw [u64_le_iff]; omega
    cases hb : cache slot with
    | some b =>
      simp only [firstCached, hb, Option.or_some, Option.map_some', Option.getD_some]
      exact .hit hle hb
    | none =>
      simp only [firstCached, hb, Option.none_or]
      exact .miss hle hb (ih (by rw [hfit.succ_toNat hle]; omega))

/-- {lean}`targetRoot` is the target root the search finds. -/
theorem targetRoot_spec {cfg : Config} {cache : BlockCache} {e : UInt64} (hfit : cfg.EpochFits e) :
    TargetOf cfg cache e (targetRoot cfg cache e) := by
  have := Config.firstSlot_toNat hfit
  have := Config.epochLastSlot_toNat hfit
  have := cfg.slotsPerEpoch_toNat_pos
  exact firstCached_search hfit _ (by omega)

/-! ## Runs in which every call succeeds -/

/-- What the statement at the program counter gets when every call succeeds
with the answers of {lean}`env`, no stop signal is sent, and
{lit}`getFinalizedHead` reads {lit}`fin`. -/
def Env.reply (env : Env) (cfg : Config) (fin : BitVec 64) (σ : SyncState) : Reply :=
  match σ.pc with
  | .loop => .synced (env.synced σ.currentEpoch)
  | .assignments e => .assignments (.ok (some (env.assignments e)))
  | .checkKill .. | .cooldown => .kill false
  | .fetchHeader _ _ slot =>
    if σ.callsOut cfg then .header (.ok ((env.chain slot).map Prod.fst)) else .tick
  | .fetchBody _ _ slot _ => .body (.ok ((env.chain slot).map Prod.snd))
  | .loadStats e _ => .stats (some (env.stats e))
  | .beginTx .. | .persist .. | .setState .. | .commit .. => .db none
  | .epochDone _ => .finalized fin
  | _ => .tick

/-- These replies are the fixed answers: the runs of this module are runs of
{lean}`Synchronizer.Run.retryInv`. -/
theorem Env.answers_reply (env : Env) (cfg : Config) (fin : BitVec 64) (σ : SyncState) :
    env.answers (σ, env.reply cfg fin σ) = true := by
  rcases σ with ⟨pc, _, _, _, _, _⟩
  cases pc <;> simp only [Env.reply] <;> try split
  case fetchBody => cases hc : env.chain _ <;> simp [Env.answers, hc]
  all_goals simp [Env.answers]

/-- {lit}`σ'` is reached from {lit}`σ` by a run in which every statement gets
the reply of {lean}`Env.reply`. -/
def Driven (cfg : Config) (env : Env) (fin : BitVec 64) (σ σ' : SyncState) : Prop :=
  ∃ tr, Run cfg σ tr σ' ∧ ∀ p ∈ tr, p.2 = env.reply cfg fin p.1

section Driven

variable {cfg : Config} {env : Env} {fin : BitVec 64} {σ σ₁ σ₂ : SyncState}

/-- A run of no steps. -/
theorem Driven.refl (σ : SyncState) : Driven cfg env fin σ σ :=
  ⟨[], .nil σ, fun _ h => absurd h (List.not_mem_nil _)⟩

/-- Two runs under the fixed answers, one after the other. -/
theorem Driven.trans (h₁ : Driven cfg env fin σ σ₁) (h₂ : Driven cfg env fin σ₁ σ₂) :
    Driven cfg env fin σ σ₂ :=
  let ⟨tr₁, r₁, d₁⟩ := h₁
  let ⟨tr₂, r₂, d₂⟩ := h₂
  ⟨tr₁ ++ tr₂, r₁.append r₂, fun p hp => (List.mem_append.mp hp).elim (d₁ p) (d₂ p)⟩

/-- A step under the fixed answers, then a run. -/
theorem Driven.head (h : step cfg σ (env.reply cfg fin σ) = some σ₁)
    (h' : Driven cfg env fin σ₁ σ₂) : Driven cfg env fin σ σ₂ :=
  let ⟨_, r, d⟩ := h'
  ⟨_, .cons h r, List.forall_mem_cons.mpr ⟨rfl, d⟩⟩

/-- Every run of this module is a run under the fixed answers. -/
theorem Driven.answers {tr : List (SyncState × Reply)}
    (hd : ∀ p ∈ tr, p.2 = env.reply cfg fin p.1) : ∀ p ∈ tr, env.answers p = true := by
  rintro ⟨σ, r⟩ hp
  have hr : r = env.reply cfg fin σ := hd _ hp
  subst hr
  exact env.answers_reply cfg fin σ

end Driven

/-! ## The loops of syncEpoch -/

section Loops

variable {cfg : Config} {env : Env} {fin : BitVec 64} {s : UInt64} {n : Nat} {σ : SyncState}

/-- One slot of the header loop of lines 158-184: a slot at or below the mark
is skipped, an empty slot passes, and a fetched block is cached after the kill
check; the cache stays on its way to the undisturbed one. -/
theorem Driven.headerStep {slot : UInt64} {a : EpochAssignments}
    (hpc : σ.pc = .fetchHeader (s + UInt64.ofNat n) a slot)
    (hfs : cfg.firstSlot (s + UInt64.ofNat n) ≤ slot)
    (hle : slot ≤ cfg.fetchLastSlot (s + UInt64.ofNat n)) (hp : Pending cfg env s n slot σ) :
    ∃ cache, Pending cfg env s n (slot + 1)
        { σ with pc := .fetchHeader (s + UInt64.ofNat n) a (slot + 1), cachedBlocks := cache } ∧
      Driven cfg env fin σ
        { σ with pc := .fetchHeader (s + UInt64.ofNat n) a (slot + 1), cachedBlocks := cache } := by
  by_cases hc : slot ≤ σ.cachedSlot
  · refine ⟨σ.cachedBlocks, hp.next rfl (fun _ _ => rfl) ?_,
      Driven.head (by simp [Env.reply, step, hpc, SyncState.callsOut, hle, hc]) (.refl _)⟩
    rcases hp.at_slot with hf | ⟨-, hcs, hlt, -⟩
    · exact hf
    · exact absurd (Nat.lt_of_lt_of_le hlt (hcs ▸ hc)) (Nat.lt_irrefl _)
  have hcs : σ.cachedSlot = (undisturbed cfg env s n).1 :=
    hp.1.resolve_right fun h => hc (h ▸ hle)
  have hwin := fetched_of_window ⟨Nat.lt_of_not_le (hcs ▸ hc), hfs, hle⟩
  cases hch : env.chain slot with
  | none =>
    refine ⟨σ.cachedBlocks, hp.next rfl (fun _ _ => rfl) ?_,
      Driven.head (by simp [Env.reply, step, hpc, SyncState.callsOut, hle, hc, hch]) (.refl _)⟩
    rcases hp.at_slot with hf | ⟨hf, -, -, -⟩
    · exact hf
    · simp [hwin, Env.entry, hch, hf]
  | some hb =>
    obtain ⟨h, b⟩ := hb
    have h₁ : step cfg σ (env.reply cfg fin σ) =
        some { σ with pc := .checkKill (s + UInt64.ofNat n) (.fetchBody a slot h) } := by
      simp [Env.reply, step, hpc, SyncState.callsOut, hle, hc, hch]
    refine ⟨Function.update σ.cachedBlocks slot (some (CacheBlock.ofResponse slot h b)),
      hp.next rfl (fun k hk => Function.update_noteq hk _ _) (by simp [hwin, Env.entry, hch]),
      Driven.head h₁ (Driven.head rfl ?_)⟩
    exact Driven.head (by simp [Env.reply, step, hch, Resume.pc]) (.refl _)

/-- The header loop of lines 158-184 from {lit}`slot` to its end: the mark moves
to the window's last slot and the cache becomes the undisturbed one. -/
theorem Driven.headerLoop {e slot : UInt64} {a : EpochAssignments}
    (hpc : σ.pc = .fetchHeader e a slot) (he : e = s + UInt64.ofNat n) (hw : cfg.WindowFits e)
    (hfs : cfg.firstSlot e ≤ slot) (hp : Pending cfg env s n slot σ) :
    Driven cfg env fin σ
      { σ with pc := .checkKill e (.loadStats a), cachedSlot := cfg.fetchLastSlot e,
               cachedBlocks := fetched cfg env s n } := by
  subst he
  generalize hk : (cfg.fetchLastSlot (s + UInt64.ofNat n)).toNat + 1 - slot.toNat = k
  induction k generalizing σ slot with
  | zero =>
    have hgt : ¬slot ≤ cfg.fetchLastSlot (s + UInt64.ofNat n) := by rw [u64_le_iff]; omega
    obtain ⟨pc, running, cur, cs, cache, db⟩ := σ
    obtain rfl : cache = fetched cfg env s n := hp.complete hgt
    dsimp only at hpc
    subst hpc
    exact Driven.head (by simp [Env.reply, step, SyncState.callsOut, hgt]) (.refl _)
  | succ k ih =>
    have hle : slot ≤ cfg.fetchLastSlot (s + UInt64.ofNat n) := by rw [u64_le_iff]; omega
    have hsucc := hw.succ_toNat hle
    exact (Driven.headerStep hpc hfs hle hp).elim fun _ ⟨hp', hd⟩ =>
      hd.trans (ih hp' rfl (by rw [u64_le_iff, hsucc]; exact Nat.le_succ_of_le hfs)
        (by rw [hsucc]; omega))

/-- The search of lines 209-214 from {lit}`slot` reaches
{lit}`aggregateEpochVotes` with the target root of the first cached block. -/
theorem Driven.search {e slot : UInt64} {st : EpochStats} (hpc : σ.pc = .findFirst e st slot)
    (hfit : cfg.EpochFits e) (count : Nat)
    (hc : slot.toNat + count = (cfg.epochLastSlot e).toNat + 1) :
    Driven cfg env fin σ
      { σ with pc := .aggregate e st (((firstCached σ.cachedBlocks slot count).map
                                        (targetRootOf (cfg.firstSlot e))).getD []) } := by
  induction count generalizing σ slot with
  | zero =>
    have hgt : ¬slot ≤ cfg.epochLastSlot e := by rw [u64_le_iff]; omega
    exact Driven.head (by simp [Env.reply, step, hpc, hgt, firstCached]) (.refl _)
  | succ count ih =>
    have hle : slot ≤ cfg.epochLastSlot e := by rw [u64_le_iff]; omega
    cases hb : σ.cachedBlocks slot with
    | some b => exact Driven.head (by simp [Env.reply, step, hpc, hle, hb, firstCached]) (.refl _)
    | none =>
      have hrest := ih (σ := { σ with pc := .findFirst e st (slot + 1) }) rfl
        (by rw [hfit.succ_toNat hle]; omega)
      simp only [firstCached, hb, Option.none_or]
      exact Driven.head (by simp [Env.reply, step, hpc, hle, hb]) hrest

/-- The eviction loop of lines 250-254 from {lit}`slot` to its end. -/
theorem Driven.evictLoop {e slot : UInt64} (hpc : σ.pc = .evict e slot) (hfit : cfg.EpochFits e)
    (count : Nat) (hc : slot.toNat + count = (cfg.epochLastSlot e).toNat + 1) :
    Driven cfg env fin σ
      { σ with pc := .epochDone e,
               cachedBlocks := fun k =>
                 if slot ≤ k ∧ k ≤ cfg.epochLastSlot e then none else σ.cachedBlocks k } := by
  induction count generalizing σ slot with
  | zero =>
    have hgt : ¬slot ≤ cfg.epochLastSlot e := by rw [u64_le_iff]; omega
    have hcache : (fun k => if slot ≤ k ∧ k ≤ cfg.epochLastSlot e then none else σ.cachedBlocks k) =
        σ.cachedBlocks := funext fun k => if_neg fun h => hgt (Nat.le_trans h.1 h.2)
    rw [hcache]
    exact Driven.head (by simp [Env.reply, step, hpc, hgt]) (.refl _)
  | succ count ih =>
    have hle : slot ≤ cfg.epochLastSlot e := by rw [u64_le_iff]; omega
    have hsucc := hfit.succ_toNat hle
    have hrest := ih (σ := { σ with pc := .evict e (slot + 1),
                                    cachedBlocks := Function.update σ.cachedBlocks slot none })
      rfl (by rw [hsucc]; omega)
    have hcache : (fun k => if slot ≤ k ∧ k ≤ cfg.epochLastSlot e then none else σ.cachedBlocks k) =
        fun k => if slot + 1 ≤ k ∧ k ≤ cfg.epochLastSlot e then none
          else Function.update σ.cachedBlocks slot none k := by
      funext k
      by_cases hks : k = slot
      · subst hks
        simp only [Function.update_same, u64_le_iff, hsucc]
        split_ifs <;> first | rfl | omega
      · have hne : k.toNat ≠ slot.toNat := fun h => hks ((u64_eq_iff _ _).mpr h)
        rw [Function.update_noteq hks]
        simp only [u64_le_iff, hsucc]
        split_ifs <;> first | rfl | omega
    rw [hcache]
    exact Driven.head (by simp [Env.reply, step, hpc, hle]) hrest

end Loops

/-! ## One call, one iteration, and the whole loop -/

section Iterations

variable {cfg : Config} {env : Env} {fin : BitVec 64} {s : UInt64} {n : Nat} {σ : SyncState}

/-- One call of {lit}`syncEpoch` at the top of iteration {lit}`n`, whatever
earlier attempts left in the cache, returns {lit}`(true, nil)` with the mark
and the cache of the undisturbed run after the iteration, having committed its
transaction. -/
theorem Driven.syncEpoch_done (hpc : σ.pc = .loop) (hcur : σ.currentEpoch = s + UInt64.ofNat n)
    (ht : TopAt cfg env s n σ) (hw : cfg.WindowFits σ.currentEpoch) :
    Driven cfg env fin σ
      { σ with pc := .epochDone σ.currentEpoch, cachedSlot := (undisturbed cfg env s (n + 1)).1,
               cachedBlocks := (undisturbed cfg env s (n + 1)).2,
               db := σ.db ++ undisturbedTx cfg env s n } := by
  obtain ⟨pc, running, cur, cs, cache, db⟩ := σ
  dsimp only at hpc hcur hw ⊢
  subst hpc hcur
  unfold TopAt at ht
  cases hs : env.synced (s + UInt64.ofNat n)
  · rw [if_neg (by simp [hs])] at ht
    have hfit := hw.epochFits
    have := Config.firstSlot_toNat hfit
    have := Config.epochLastSlot_toNat hfit
    have := cfg.slotsPerEpoch_toNat_pos
    rw [undisturbed_succ_of_unsynced hs]
    simp only [undisturbedTx, hs, Bool.false_eq_true, if_false]
    -- the synchronized check, the assignments, and the check of line 151
    refine Driven.head (by simp only [Env.reply, hs]; rfl) ?_
    refine Driven.head rfl ?_
    refine Driven.head rfl ?_
    refine Driven.trans (Driven.headerLoop rfl rfl hw (Nat.le_refl _)
      (ht.resolve_left hw.not_endlessFetch)) ?_
    -- the check of line 185, the validator statistics, and the check of line 202
    refine Driven.head rfl ?_
    refine Driven.head rfl ?_
    refine Driven.head rfl ?_
    refine (Driven.search rfl hfit cfg.slotsPerEpoch.toNat (by dsimp only; omega)).trans ?_
    -- the aggregate and the four storage calls of lines 225-245
    refine Driven.head rfl ?_
    refine Driven.head rfl ?_
    refine Driven.head rfl ?_
    refine Driven.head rfl ?_
    refine Driven.head rfl ?_
    exact (Driven.evictLoop rfl hfit cfg.slotsPerEpoch.toNat (by omega)).trans (.refl _)
  · rw [if_pos hs] at ht
    obtain ⟨rfl, rfl⟩ := ht
    rw [undisturbed_succ_of_synced hs]
    simp only [undisturbedTx, hs, if_true, List.append_nil]
    exact Driven.head (by simp [Env.reply, step, hs]) (.refl _)

/-- After a call that returned done, line 96 finds the cursor not past the
finalized epoch and the cooldown check sees no signal: the goroutine is back at
the top of the loop, in iteration {lit}`n + 1` of the undisturbed run. -/
theorem Driven.iteration (hpc : σ.pc = .loop) (hcur : σ.currentEpoch = s + UInt64.ofNat n)
    (ht : TopAt cfg env s n σ) (hw : cfg.WindowFits σ.currentEpoch)
    (hfin : BitVec.slt fin (σ.currentEpoch + 1).toBitVec = false) :
    Driven cfg env fin σ
      { σ with currentEpoch := σ.currentEpoch + 1, cachedSlot := (undisturbed cfg env s (n + 1)).1,
               cachedBlocks := (undisturbed cfg env s (n + 1)).2,
               db := σ.db ++ undisturbedTx cfg env s n } := by
  refine (Driven.syncEpoch_done hpc hcur ht hw).trans (Driven.head rfl ?_)
  refine Driven.head (by simp only [Env.reply, step, hfin]; rfl) ?_
  refine Driven.head rfl ?_
  rw [← hpc]
  exact .refl _

/-- After a call that returned done, line 96 finds the cursor past the
finalized epoch: {lit}`runSync` leaves the loop complete and clears
{lit}`running`. -/
theorem Driven.iteration_last (hpc : σ.pc = .loop) (hcur : σ.currentEpoch = s + UInt64.ofNat n)
    (ht : TopAt cfg env s n σ) (hw : cfg.WindowFits σ.currentEpoch)
    (hfin : BitVec.slt fin (σ.currentEpoch + 1).toBitVec = true) :
    Driven cfg env fin σ
      { σ with pc := .idle, running := false, currentEpoch := σ.currentEpoch + 1,
               cachedSlot := (undisturbed cfg env s (n + 1)).1,
               cachedBlocks := (undisturbed cfg env s (n + 1)).2,
               db := σ.db ++ undisturbedTx cfg env s n } := by
  refine (Driven.syncEpoch_done hpc hcur ht hw).trans (Driven.head rfl ?_)
  refine Driven.head (by simp only [Env.reply, step, hfin]; rfl) ?_
  exact Driven.head rfl (.refl _)

/-- From the top of iteration {lit}`n`, when line 96 lets the loop go on for
{lit}`k` more iterations and stops after the next one, the goroutine runs all
{lit}`k + 1` iterations as the undisturbed run does and returns complete. -/
theorem Driven.catchUp (hpc : σ.pc = .loop) (hcur : σ.currentEpoch = s + UInt64.ofNat n)
    (ht : TopAt cfg env s n σ) (k : Nat)
    (hw : ∀ i ≤ k, cfg.WindowFits (σ.currentEpoch + UInt64.ofNat i))
    (hgo : ∀ i < k, BitVec.slt fin (σ.currentEpoch + UInt64.ofNat (i + 1)).toBitVec = false)
    (hstop : BitVec.slt fin (σ.currentEpoch + UInt64.ofNat (k + 1)).toBitVec = true) :
    Driven cfg env fin σ
      { σ with pc := .idle, running := false, currentEpoch := σ.currentEpoch + UInt64.ofNat (k + 1),
               cachedSlot := (undisturbed cfg env s (n + k + 1)).1,
               cachedBlocks := (undisturbed cfg env s (n + k + 1)).2,
               db := σ.db ++ undisturbedCommits cfg env s n (k + 1) } := by
  have hw₀ : cfg.WindowFits σ.currentEpoch :=
    u64_add_ofNat_zero σ.currentEpoch ▸ hw 0 (Nat.zero_le _)
  induction k generalizing σ n with
  | zero =>
    simp only [undisturbedCommits, List.append_nil]
    exact Driven.iteration_last hpc hcur ht hw₀ hstop
  | succ k ih =>
    have hrest := ih (σ := { σ with currentEpoch := σ.currentEpoch + 1,
                                    cachedSlot := (undisturbed cfg env s (n + 1)).1,
                                    cachedBlocks := (undisturbed cfg env s (n + 1)).2,
                                    db := σ.db ++ undisturbedTx cfg env s n }) (n := n + 1)
      hpc (by rw [hcur, u64_add_ofNat_succ]) (Fresh.top ⟨rfl, rfl⟩)
      (fun i hi => u64_add_one_add_ofNat σ.currentEpoch i ▸ hw (i + 1) (by omega))
      (fun i hi => u64_add_one_add_ofNat σ.currentEpoch (i + 1) ▸ hgo (i + 1) (by omega))
      (u64_add_one_add_ofNat σ.currentEpoch (k + 1) ▸ hstop)
      (hw 1 (by omega))
    rw [u64_add_one_add_ofNat, List.append_assoc, show n + 1 + k + 1 = n + (k + 1) + 1 by omega]
      at hrest
    exact (Driven.iteration hpc hcur ht hw₀ (hgo 0 (Nat.succ_pos k))).trans hrest

/-- {lean}`Driven.catchUp` with the finalized epoch {lit}`k` iterations ahead. -/
theorem Driven.toFinalized (hpc : σ.pc = .loop) (hcur : σ.currentEpoch = s + UInt64.ofNat n)
    (ht : TopAt cfg env s n σ) (k : Nat) (hlt : σ.currentEpoch.toNat + k + 1 < 2 ^ 63)
    (hw : ∀ i ≤ k, cfg.WindowFits (σ.currentEpoch + UInt64.ofNat i)) :
    Driven cfg env (σ.currentEpoch + UInt64.ofNat k).toBitVec σ
      { σ with pc := .idle, running := false, currentEpoch := σ.currentEpoch + UInt64.ofNat (k + 1),
               cachedSlot := (undisturbed cfg env s (n + k + 1)).1,
               cachedBlocks := (undisturbed cfg env s (n + k + 1)).2,
               db := σ.db ++ undisturbedCommits cfg env s n (k + 1) } := by
  have hat : ∀ i ≤ k + 1, (σ.currentEpoch + UInt64.ofNat i).toNat = σ.currentEpoch.toNat + i :=
    fun i hi => u64_toNat_add_ofNat (by omega)
  have hslt : ∀ i ≤ k + 1, BitVec.slt (σ.currentEpoch + UInt64.ofNat k).toBitVec
      (σ.currentEpoch + UInt64.ofNat i).toBitVec = decide (k < i) := by
    intro i hi
    rw [u64_slt_toBitVec (by rw [hat k (by omega)]; omega) (by rw [hat i hi]; omega),
      hat k (by omega), hat i hi]
    simp
  refine Driven.catchUp hpc hcur ht k hw (fun i hi => ?_) ?_
  · rw [hslt (i + 1) (by omega)]
    simp only [decide_eq_false_iff_not, Nat.not_lt]
    exact hi
  · rw [hslt (k + 1) (Nat.le_refl _)]
    simp

end Iterations

/-! ## Runs of startSync -/

section Runs

variable {cfg : Config} {env : Env} {s : UInt64}

/-- From {lit}`startSync(s)`, with every call answered, no stop signal, and
the finalized epoch {lit}`s + k` below the largest {lit}`int64`, the goroutine
syncs epochs {lit}`s, s+1, …, s+k` in order (each skipped when storage
reports it synchronized, committed with the undisturbed run's transaction
otherwise) and returns complete, with {lit}`running` cleared. -/
theorem runSync_catches_up (σ₀ : SyncState) (s : UInt64) (k : Nat)
    (hlt : s.toNat + k + 1 < 2 ^ 63) (hw : ∀ i ≤ k, cfg.WindowFits (s + UInt64.ofNat i)) :
    Driven cfg env (s + UInt64.ofNat k).toBitVec (σ₀.started s)
      { σ₀ with pc := .idle, running := false, currentEpoch := s + UInt64.ofNat (k + 1),
                cachedSlot := (undisturbed cfg env s (k + 1)).1,
                cachedBlocks := (undisturbed cfg env s (k + 1)).2,
                db := σ₀.db ++ undisturbedCommits cfg env s 0 (k + 1) } := by
  refine Driven.head rfl ?_
  have h : Driven cfg env _ _ _ := Driven.toFinalized (n := 0)
    (σ := { σ₀.started s with pc := .loop, cachedBlocks := fun _ => none, cachedSlot := 0 })
    rfl (u64_add_ofNat_zero s).symm (Fresh.top ⟨rfl, rfl⟩) k hlt hw
  rw [Nat.zero_add] at h
  exact h

/-- From {lit}`startSync(1)` with the answers of {lean}`retryEnv` and epoch
{lit}`1` finalized, the goroutine syncs epoch {lit}`1` and returns complete. -/
theorem runSync_catches_up_one :
    Driven tinyConfig retryEnv (1 + UInt64.ofNat 0).toBitVec (SyncState.new.started 1)
      { SyncState.new with
        pc := .idle, running := false, currentEpoch := 1 + UInt64.ofNat (0 + 1),
        cachedSlot := (undisturbed tinyConfig retryEnv 1 (0 + 1)).1,
        cachedBlocks := (undisturbed tinyConfig retryEnv 1 (0 + 1)).2,
        db := SyncState.new.db ++ undisturbedCommits tinyConfig retryEnv 1 0 (0 + 1) } :=
  runSync_catches_up SyncState.new 1 0 (by decide) fun i hi => by
    obtain rfl : i = 0 := by omega
    decide

/-- A commit of iteration {lit}`n` writes the undisturbed run's transaction. -/
theorem RetryInv.undisturbedTx_of_commit {n : Nat} {σ : SyncState} (hi : RetryInv cfg env s n σ)
    {e : UInt64} {tx : List Write} (hpc : σ.pc = .commit e tx)
    (hw : cfg.WindowFits σ.currentEpoch) : undisturbedTx cfg env s n = [tx] := by
  obtain rfl := hi.epoch_eq (show σ.pc.epochOf = some e by simp [Pc.epochOf, hpc])
  have hst := hi.stmt
  simp only [RetryAt, hpc] at hst
  obtain ⟨hs, -, t, ht, rfl⟩ := hst
  have hfit : cfg.EpochFits (s + UInt64.ofNat n) := hi.cursor ▸ hw.epochFits
  simp only [undisturbedTx, hs, Bool.false_eq_true, if_false, (targetRoot_spec hfit).unique ht]

/-- Every transaction a run of {lit}`startSync(s)` under the fixed answers
commits is the undisturbed run's transaction for its iteration. -/
theorem Run.commit_undisturbed {σ₀ σ : SyncState} {tr : List (SyncState × Reply)}
    (h : Run cfg (σ₀.started s) tr σ) (ha : ∀ p ∈ tr, env.answers p = true)
    (hw : ∀ p ∈ tr, cfg.WindowFits p.1.currentEpoch) {e : UInt64} {tx : List Write}
    (hc : (e, tx) ∈ records commitOf tr) :
    ∃ n, e = s + UInt64.ofNat n ∧ undisturbedTx cfg env s n = [tx] := by
  obtain ⟨p, hp, hq⟩ := List.mem_filterMap.mp hc
  obtain ⟨n, hi⟩ := h.retryInv_mem ha hp
  have hpc := commitOf_eq_some hq
  exact ⟨n, hi.epoch_eq (show p.1.pc.epochOf = some e by simp [Pc.epochOf, hpc]),
    hi.undisturbedTx_of_commit hpc (hw p hp)⟩

end Runs

/-! ## The storage of every run -/

section Storage

variable {cfg : Config} {env : Env} {s : UInt64} {n : Nat} {σ₀ σ σ' : SyncState} {r : Reply}

/-- The commits of {lit}`k + 1` iterations are those of the first {lit}`k`, then
the last one's transaction. -/
theorem undisturbedCommits_succ (m k : Nat) :
    undisturbedCommits cfg env s m (k + 1) =
      undisturbedCommits cfg env s m k ++ undisturbedTx cfg env s (m + k) := by
  induction k generalizing m with
  | zero => simp [undisturbedCommits]
  | succ k ih =>
    rw [undisturbedCommits, ih (m + 1), undisturbedCommits, List.append_assoc,
      Nat.add_right_comm m 1 k, Nat.add_assoc]

/-- A call that storage reports synchronized commits nothing in the undisturbed
run either. -/
theorem RetryInv.undisturbedTx_of_skip (hi : RetryInv cfg env s n σ) (hpc : σ.pc = .loop)
    (ha : env.answers (σ, .synced true) = true) : undisturbedTx cfg env s n = [] := by
  simp only [Env.answers, hpc, decide_eq_true_eq] at ha
  simp only [undisturbedTx, ← hi.cursor, ← ha, if_true]

/-- The storage of a run in iteration {lit}`n`: the undisturbed run's
transactions of the iterations before {lit}`n`, followed by that of iteration
{lit}`n` once its call has settled. -/
structure StorageAt (cfg : Config) (env : Env) (s : UInt64) (n : Nat) (σ₀ σ : SyncState) :
    Prop where
  settled : σ.pc.settledEpoch.isSome → σ.db = σ₀.db ++ undisturbedCommits cfg env s 0 (n + 1)
  pending : σ.pc.settledEpoch = none → σ.pc ≠ .idle →
    σ.db = σ₀.db ++ undisturbedCommits cfg env s 0 n
  committed : σ.db = σ₀.db ++ undisturbedCommits cfg env s 0 n ∨
    σ.db = σ₀.db ++ undisturbedCommits cfg env s 0 (n + 1)

/-- At the start nothing is committed and no iteration has passed. -/
theorem storageAt_started (σ₀ : SyncState) (s : UInt64) :
    StorageAt cfg env s 0 σ₀ (σ₀.started s) where
  settled h := by simp [SyncState.started, Pc.settledEpoch] at h
  pending _ _ := by simp [SyncState.started, undisturbedCommits]
  committed := .inl (by simp [SyncState.started, undisturbedCommits])

/-- A statement that does not move the cursor keeps the storage of iteration
{lit}`n`: a commit appends the undisturbed run's transaction. -/
theorem StorageAt.step (hst : StorageAt cfg env s n σ₀ σ) (hi : RetryInv cfg env s n σ)
    (h : Step cfg σ r σ') (ha : env.answers (σ, r) = true) (hw : cfg.WindowFits σ.currentEpoch)
    (hadv : advanceOf (σ, r) = none) : StorageAt cfg env s n σ₀ σ' := by
  have hcommit : ∀ e tx, σ.pc = .commit e tx → σ'.db = σ.db ++ [tx] →
      σ'.db = σ₀.db ++ undisturbedCommits cfg env s 0 (n + 1) := by
    intro e tx hpc hdb
    rw [hdb, hst.pending (by simp [hpc, Pc.settledEpoch]) (by simp [hpc]),
      undisturbedCommits_succ, Nat.zero_add, hi.undisturbedTx_of_commit hpc hw, List.append_assoc]
  rcases h.db_cases with hdb | ⟨e, tx, hpc, -, hdb, hpc'⟩
  · refine ⟨fun hs' => ?_, fun hs' hi' => ?_, hdb ▸ hst.committed⟩
    · obtain ⟨e, he⟩ := Option.isSome_iff_exists.mp hs'
      rcases h.enter_settled he with hskip | ⟨tx, hpc, hc⟩ | hs
      · have hpc : σ.pc = .loop ∧ r = .synced true := by
          unfold skipOf at hskip
          split at hskip <;> simp_all
        obtain ⟨hpc, rfl⟩ := hpc
        rw [hdb, hst.pending (by simp [hpc, Pc.settledEpoch]) (by simp [hpc]),
          undisturbedCommits_succ, Nat.zero_add, hi.undisturbedTx_of_skip hpc ha, List.append_nil]
      · rcases h.commitOf_cases with ⟨hc', -⟩ | ⟨e', tx', -, -, hdb', -⟩
        · rw [hc'] at hc
          cases hc
        · rw [hdb] at hdb'
          simp at hdb'
      · rw [hdb]
        exact hst.settled (by simp [hs])
    · rcases h.enter_pending hs' hi' with ⟨hs, hidle⟩ | ⟨e, fin, -, hadv'⟩
      · rw [hdb]
        exact hst.pending hs hidle
      · simp [hadv] at hadv'
  · have hdb' := hcommit e tx hpc hdb
    exact ⟨fun _ => hdb', fun hs' => absurd hs' (by simp [hpc', Pc.settledEpoch]), .inr hdb'⟩

/-- Line 94 moves the cursor: the storage is that of iteration {lit}`n + 1`,
whose call has not started. -/
theorem StorageAt.advance_step (hst : StorageAt cfg env s n σ₀ σ) (h : Step cfg σ r σ')
    {e : UInt64} {fin : BitVec 64} (hpc : σ.pc = .advance e fin) :
    StorageAt cfg env s (n + 1) σ₀ σ' := by
  have hdb : σ'.db = σ.db := by
    rcases h.db_cases with hdb | ⟨_, _, hpc', -⟩
    · exact hdb
    · rw [hpc] at hpc'
      cases hpc'
  have hs := hdb ▸ hst.settled (by simp [hpc, Pc.settledEpoch])
  have hs' : σ'.pc.settledEpoch = none := by
    cases h
    case panic hc => simp [SyncState.callsOut, hpc] at hc
    all_goals first | rfl | (rw [hpc] at *; contradiction)
  exact ⟨fun h' => by simp [hs'] at h', fun _ _ => hs, .inl hs⟩

/-- The storage of every run of {lit}`startSync(s)` under the fixed answers,
in the iteration its cursor has reached. -/
theorem Run.storageAt {tr : List (SyncState × Reply)} (h : Run cfg (σ₀.started s) tr σ)
    (ha : ∀ p ∈ tr, env.answers p = true) (hw : ∀ p ∈ tr, cfg.WindowFits p.1.currentEpoch) :
    StorageAt cfg env s (records advanceOf tr).length σ₀ σ := by
  generalize hs : σ₀.started s = σs at h
  induction h with
  | nil => exact hs ▸ storageAt_started σ₀ s
  | @snoc _ _ tr₁ _ hr hst ih =>
    have ha' : ∀ p ∈ tr₁, env.answers p = true := fun p hp => ha p (List.mem_append_left _ hp)
    have hw' : ∀ p ∈ tr₁, cfg.WindowFits p.1.currentEpoch :=
      fun p hp => hw p (List.mem_append_left _ hp)
    have hi := (hs ▸ hr).retryInv ha'
    have hstep := step_sound cfg hst
    rcases hstep.advanceOf_cases with ⟨hadv, -⟩ | ⟨e, fin, hpc, hadv, -⟩
    · simpa [hadv] using (ih ha' hw').step hi hstep
        (ha _ (List.mem_append_right _ (List.mem_singleton_self _)))
        (hw _ (List.mem_append_right _ (List.mem_singleton_self _))) hadv
    · simpa [hadv] using (ih ha' hw').advance_step hstep hpc

/-- Storage in every run of {lit}`startSync(s)` under the fixed answers is the
undisturbed run's storage after the iterations the cursor has passed, or after
one more: a failed attempt never leaves a partial or different commit. -/
theorem Run.db_undisturbed {tr : List (SyncState × Reply)} (h : Run cfg (σ₀.started s) tr σ)
    (ha : ∀ p ∈ tr, env.answers p = true) (hw : ∀ p ∈ tr, cfg.WindowFits p.1.currentEpoch) :
    σ.db = σ₀.db ++ undisturbedCommits cfg env s 0 (records advanceOf tr).length ∨
      σ.db = σ₀.db ++ undisturbedCommits cfg env s 0 ((records advanceOf tr).length + 1) :=
  (h.storageAt ha hw).committed

/-- The retried run of {lean}`errorReplies` ends with the undisturbed run's
storage. -/
theorem db_undisturbed_retried : ∃ tr σ, Run tinyConfig (SyncState.new.started 1) tr σ ∧
    (σ.db = SyncState.new.db ++
        undisturbedCommits tinyConfig retryEnv 1 0 (records advanceOf tr).length ∨
      σ.db = SyncState.new.db ++
        undisturbedCommits tinyConfig retryEnv 1 0 ((records advanceOf tr).length + 1)) := by
  obtain ⟨tr, σ, h, hf⟩ := run_exists (by decide :
    (run tinyConfig (SyncState.new.started 1) errorReplies).map
      (fun p => (p.1.all retryEnv.answers,
        p.1.all (decide <| tinyConfig.WindowFits ·.1.currentEpoch))) = some (true, true))
  simp only [Prod.mk.injEq, List.all_eq_true, decide_eq_true_eq] at hf
  exact ⟨tr, σ, h, Run.db_undisturbed h hf.1 hf.2⟩

/-- The commits of iterations from {lit}`m` split at any point. -/
theorem undisturbedCommits_add (m a b : Nat) :
    undisturbedCommits cfg env s m a ++ undisturbedCommits cfg env s (m + a) b =
      undisturbedCommits cfg env s m (a + b) := by
  induction a generalizing m with
  | zero => simp [undisturbedCommits]
  | succ a ih =>
    rw [Nat.add_right_comm a 1 b, undisturbedCommits, undisturbedCommits, List.append_assoc,
      ← ih (m + 1), Nat.add_right_comm m 1 a, Nat.add_assoc]

/-- Whatever failures a run of {lit}`startSync(s)` under the fixed answers
went through, once it is back at the top of the loop it completes the
undisturbed run: with every call answered from then on, the goroutine syncs
the epochs up to the finalized one, and returns complete with the storage of
the undisturbed run up to there. -/
theorem runSync_progress {tr : List (SyncState × Reply)} (h : Run cfg (σ₀.started s) tr σ)
    (ha : ∀ p ∈ tr, env.answers p = true) (hw : ∀ p ∈ tr, cfg.WindowFits p.1.currentEpoch)
    (hpc : σ.pc = .loop) (k : Nat) (hlt : σ.currentEpoch.toNat + k + 1 < 2 ^ 63)
    (hwk : ∀ i ≤ k, cfg.WindowFits (σ.currentEpoch + UInt64.ofNat i)) :
    Driven cfg env (σ.currentEpoch + UInt64.ofNat k).toBitVec σ
      { σ with
        pc := .idle, running := false, currentEpoch := σ.currentEpoch + UInt64.ofNat (k + 1),
        cachedSlot := (undisturbed cfg env s ((records advanceOf tr).length + k + 1)).1,
        cachedBlocks := (undisturbed cfg env s ((records advanceOf tr).length + k + 1)).2,
        db := σ₀.db ++
          undisturbedCommits cfg env s 0 ((records advanceOf tr).length + k + 1) } := by
  have hi := h.retryInv ha
  have ht := hi.stmt
  simp only [RetryAt, hpc] at ht
  have hdb := (h.storageAt ha hw).pending (by simp [hpc, Pc.settledEpoch]) (by simp [hpc])
  have hall : undisturbedCommits cfg env s 0 (records advanceOf tr).length ++
      undisturbedCommits cfg env s (records advanceOf tr).length (k + 1) =
      undisturbedCommits cfg env s 0 ((records advanceOf tr).length + k + 1) := by
    have := @undisturbedCommits_add cfg env s 0 (records advanceOf tr).length (k + 1)
    rwa [Nat.zero_add, ← Nat.add_assoc] at this
  have hrun := Driven.toFinalized hpc hi.cursor ht k hlt hwk
  rwa [hdb, List.append_assoc, hall] at hrun

/-- After the header failure of {lean}`errorReplies` the goroutine is back at
the top of the loop, and with every call answered it completes epoch
{lit}`1` as the undisturbed run does. -/
theorem runSync_progress_after_error : ∃ tr σ, Run tinyConfig (SyncState.new.started 1) tr σ ∧
    σ.pc = .loop ∧
    Driven tinyConfig retryEnv (σ.currentEpoch + UInt64.ofNat 0).toBitVec σ
      { σ with
        pc := .idle, running := false, currentEpoch := σ.currentEpoch + UInt64.ofNat (0 + 1),
        cachedSlot := (undisturbed tinyConfig retryEnv 1 ((records advanceOf tr).length + 0 + 1)).1,
        cachedBlocks :=
          (undisturbed tinyConfig retryEnv 1 ((records advanceOf tr).length + 0 + 1)).2,
        db := SyncState.new.db ++
          undisturbedCommits tinyConfig retryEnv 1 0 ((records advanceOf tr).length + 0 + 1) } := by
  obtain ⟨tr, σ, h, hf⟩ := run_exists (by decide :
    (run tinyConfig (SyncState.new.started 1) (errorReplies.take 10)).map
      (fun p => (p.1.all retryEnv.answers,
        p.1.all (decide <| tinyConfig.WindowFits ·.1.currentEpoch),
        p.2.pc.inCall, p.2.pc.epochOf, p.2.currentEpoch)) = some (true, true, true, none, 1))
  simp only [Prod.mk.injEq, List.all_eq_true, decide_eq_true_eq] at hf
  obtain ⟨ha, hw, hc, he, hcur⟩ := hf
  have hpc := Pc.eq_loop hc he
  refine ⟨tr, σ, h, hpc, runSync_progress h ha hw hpc 0 (by rw [hcur]; decide) fun i hi => ?_⟩
  obtain rfl : i = 0 := by omega
  rw [hcur]
  decide

end Storage

end Synchronizer
end BeaconSync
