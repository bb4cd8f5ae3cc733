import BeaconSync.Synchronizer.Cache

/-!
# Beacon synchronizer - Retries and the undisturbed run

{lit}`runSync` retries an epoch after every failed or abandoned call of
{lit}`syncEpoch`: a chain-node or storage error, a nil answer, or a stop signal
received by one of the checks inside the call.  A failed call leaves the cache
as it was when the call stopped: blocks fetched above the high-water mark stay,
and the mark moves only once a header loop completes.

This module fixes what the collaborators answer whenever a call succeeds, and
compares every run under those answers with the run in which every call
succeeds.  In the iteration the cursor reaches after moving {lit}`n` times,
{lit}`aggregateEpochVotes` and {lit}`persistEpochData` receive the cache of
that undisturbed run, the epoch's statistics, and the target root the search
finds in that cache: a retry fetches again, with the same answers, whatever a
failed attempt left above the mark.  Nothing here bounds the slot numbers.  A
window that ends at the largest slot makes its header loop (or its eviction
loop) run forever, as the Go loop does; such an iteration never reaches
{lit}`aggregateEpochVotes` (or never returns), and the search of lines 209-214
is followed through a wrap as it runs.

Main results:

- Definition {lit}`Synchronizer.undisturbed`: the mark and the cache at the
  top of each iteration of the undisturbed run.
- Inductive {lit}`Synchronizer.SearchFrom`: the search of lines 209-214 from a
  slot, and the target root it ends with.
- Structure {lit}`Synchronizer.RetryInv` and theorem
  {lit}`Synchronizer.Run.retryInv`: every run under the fixed answers stays in
  step with the undisturbed run.
- Theorems {lit}`Synchronizer.RetryInv.aggregate`,
  {lit}`Synchronizer.RetryInv.persist` and {lit}`Synchronizer.RetryInv.commit`:
  the inputs of the calls of iteration {lit}`n` are the undisturbed run's.
-/

namespace BeaconSync
namespace Synchronizer

/-! ## The answers of the collaborators -/

/-- What the chain node and storage answer whenever a call succeeds. -/
structure Env where
  /-- The header response and the body of the block at a slot; {lean}`none`
  for an empty slot. -/
  chain : UInt64 → Option (HeaderResponse × BlockBody)
  /-- {lit}`db.IsEpochSynchronized(epoch)`. -/
  synced : UInt64 → Bool
  /-- {lit}`GetEpochAssignments(epoch)`. -/
  assignments : UInt64 → EpochAssignments
  /-- {lit}`loadValidatorStats` for the epoch's dependent state. -/
  stats : UInt64 → ValidatorStats

namespace Env

variable (env : Env)

/-- The step got the collaborators' answer, or a failure: an error, a nil
result or a stop signal.  The finalized epoch is left free. -/
def answers (p : SyncState × Reply) : Bool :=
  match p.1.pc, p.2 with
  | .loop, .synced b => decide (b = env.synced p.1.currentEpoch)
  | .assignments e, .assignments (.ok (some a)) => decide (a = env.assignments e)
  | .fetchHeader _ _ slot, .header (.ok h) => decide (h = (env.chain slot).map Prod.fst)
  | .fetchBody _ _ slot _, .body (.ok (some b)) => decide (some b = (env.chain slot).map Prod.snd)
  | .loadStats e _, .stats (some v) => decide (v = env.stats e)
  | _, _ => true

/-- The cache entry of the block at a slot (lines 176-181). -/
def entry (slot : UInt64) : Option CacheBlock :=
  (env.chain slot).map fun p => CacheBlock.ofResponse slot p.1 p.2

/-- The statistics of an epoch (lines 190-197). -/
def epochStats (epoch : UInt64) : EpochStats :=
  EpochStats.ofAssignments epoch (env.assignments epoch) (env.stats epoch)

end Env

theorem Env.entry_eq {env : Env} {slot : UInt64} {h : HeaderResponse} {b : BlockBody}
    (hh : (env.chain slot).map Prod.fst = some h) (hb : some b = (env.chain slot).map Prod.snd) :
    env.entry slot = some (CacheBlock.ofResponse slot h b) := by
  cases hc : env.chain slot with
  | none => simp [hc] at hh
  | some p => simp_all [Env.entry]

/-! ## The undisturbed run -/

section Undisturbed

variable (cfg : Config) (env : Env)

/-- The header loop of {lit}`syncEpoch(epoch)` run to its end over the mark
{lit}`mark` (lines 158-184): each slot of the window above the mark that holds a
block gets its entry, and every other key keeps its entry. -/
def fillWindow (epoch mark : UInt64) (cache : BlockCache) : BlockCache := fun k =>
  if mark < k ∧ cfg.firstSlot epoch ≤ k ∧ k ≤ cfg.fetchLastSlot epoch then (env.entry k).or (cache k)
  else cache k

/-- The eviction loop of lines 250-254 run to its end. -/
def evictEpoch (epoch : UInt64) (cache : BlockCache) : BlockCache := fun k =>
  if cfg.firstSlot epoch ≤ k ∧ k ≤ cfg.epochLastSlot epoch then none else cache k

/-- The mark and the cache at the top of iteration {lit}`n` of the run of
{lit}`startSync(s)` in which every call succeeds: an epoch storage reports
synchronized leaves both as they are, any other epoch is fetched, committed and
evicted. -/
def undisturbed (s : UInt64) : Nat → UInt64 × BlockCache
  | 0 => (0, fun _ => none)
  | n + 1 =>
    let p := undisturbed s n
    let e := s + UInt64.ofNat n
    if env.synced e then p else (cfg.fetchLastSlot e, evictEpoch cfg e (fillWindow cfg env e p.1 p.2))

/-- The cache that iteration {lit}`n` of the undisturbed run aggregates and
persists. -/
def fetched (s : UInt64) (n : Nat) : BlockCache :=
  fillWindow cfg env (s + UInt64.ofNat n) (undisturbed cfg env s n).1 (undisturbed cfg env s n).2

variable {cfg env} {s : UInt64} {n : Nat}

theorem undisturbed_succ_of_synced (h : env.synced (s + UInt64.ofNat n) = true) :
    undisturbed cfg env s (n + 1) = undisturbed cfg env s n := by
  simp [undisturbed, h]

theorem undisturbed_succ_of_unsynced (h : env.synced (s + UInt64.ofNat n) = false) :
    undisturbed cfg env s (n + 1) =
      (cfg.fetchLastSlot (s + UInt64.ofNat n), evictEpoch cfg (s + UInt64.ofNat n) (fetched cfg env s n)) := by
  simp [undisturbed, fetched, h]

/-- Inside the window above the mark, the undisturbed header loop leaves the
slot's block, or the old entry of an empty slot. -/
theorem fetched_of_window {k : UInt64} (h : (undisturbed cfg env s n).1 < k ∧
    cfg.firstSlot (s + UInt64.ofNat n) ≤ k ∧ k ≤ cfg.fetchLastSlot (s + UInt64.ofNat n)) :
    fetched cfg env s n k = (env.entry k).or ((undisturbed cfg env s n).2 k) := by
  simp only [fetched, fillWindow, if_pos h]

end Undisturbed

/-! ## The target root of a cache -/

/-- The search of lines 209-214 over {lit}`cache` from {lit}`slot` up to
{lit}`last` ends with the target root {lit}`t` of lines 216-223: the first
cached block's root or parent root, or nil past {lit}`last`.  The step from a
slot to the next one wraps at {lit}`2^64` as the Go loop does. -/
inductive SearchFrom (cache : BlockCache) (first last : UInt64) : UInt64 → Root → Prop where
  | done {slot : UInt64} : ¬slot ≤ last → SearchFrom cache first last slot []
  | hit {slot : UInt64} {b : CacheBlock} : slot ≤ last → cache slot = some b →
    SearchFrom cache first last slot (targetRootOf first b)
  | miss {slot : UInt64} {t : Root} : slot ≤ last → cache slot = none →
    SearchFrom cache first last (slot + 1) t → SearchFrom cache first last slot t

/-- The search is deterministic: it ends with one target root, if any. -/
theorem SearchFrom.unique {cache : BlockCache} {first last slot : UInt64} {t₁ t₂ : Root}
    (h₁ : SearchFrom cache first last slot t₁) (h₂ : SearchFrom cache first last slot t₂) :
    t₁ = t₂ := by
  induction h₁ with
  | done hgt => cases h₂ <;> first | rfl | contradiction
  | hit hle hb =>
    cases h₂ with
    | done hgt => contradiction
    | hit _ hb' => rw [hb] at hb'; cases hb'; rfl
    | miss _ hn _ => rw [hb] at hn; cases hn
  | miss hle hn _ ih =>
    cases h₂ with
    | done hgt => contradiction
    | hit _ hb' => rw [hn] at hb'; cases hb'
    | miss _ _ h₂ => exact ih h₂

/-- The target root the search of the epoch finds in {lit}`cache`. -/
def TargetOf (cfg : Config) (cache : BlockCache) (epoch : UInt64) (t : Root) : Prop :=
  SearchFrom cache (cfg.firstSlot epoch) (cfg.epochLastSlot epoch) (cfg.firstSlot epoch) t

theorem TargetOf.unique {cfg : Config} {cache : BlockCache} {e : UInt64} {t₁ t₂ : Root}
    (h₁ : TargetOf cfg cache e t₁) (h₂ : TargetOf cfg cache e t₂) : t₁ = t₂ :=
  SearchFrom.unique h₁ h₂

/-! ## Runs against the undisturbed run -/

section Inv

variable (cfg : Config) (env : Env) (s : UInt64) (n : Nat)

/-- Iteration {lit}`n` before any attempt: the mark and the cache of the
undisturbed run. -/
def Fresh (σ : SyncState) : Prop :=
  σ.cachedSlot = (undisturbed cfg env s n).1 ∧ σ.cachedBlocks = (undisturbed cfg env s n).2

/-- Iteration {lit}`n` during and between attempts: the mark is the undisturbed
one or the window's last slot, and every key holds what the undisturbed header
loop leaves, except keys from {lit}`bound` on that the header loop in progress
has still to reach, which hold what they held before the iteration. -/
def Pending (bound : UInt64) (σ : SyncState) : Prop :=
  (σ.cachedSlot = (undisturbed cfg env s n).1 ∨
      σ.cachedSlot = cfg.fetchLastSlot (s + UInt64.ofNat n)) ∧
    ∀ k, σ.cachedBlocks k = fetched cfg env s n k ∨
      (σ.cachedBlocks k = (undisturbed cfg env s n).2 k ∧
        σ.cachedSlot = (undisturbed cfg env s n).1 ∧ (undisturbed cfg env s n).1 < k ∧
        bound ≤ k ∧ k ≤ cfg.fetchLastSlot (s + UInt64.ofNat n))

/-- Iteration {lit}`n` after a header loop completed: the mark at the window's
last slot and the undisturbed run's cache. -/
def Fetched (σ : SyncState) : Prop :=
  σ.cachedSlot = cfg.fetchLastSlot (s + UInt64.ofNat n) ∧ σ.cachedBlocks = fetched cfg env s n

/-- The top of iteration {lit}`n`: an epoch storage reports synchronized is
never attempted, and an epoch whose header loop never ends keeps nothing. -/
def TopAt (σ : SyncState) : Prop :=
  if env.synced (s + UInt64.ofNat n) then Fresh cfg env s n σ
  else cfg.EndlessFetch (s + UInt64.ofNat n) ∨
    Pending cfg env s n (cfg.firstSlot (s + UInt64.ofNat n)) σ

/-- What each statement of iteration {lit}`n` holds against the undisturbed
run: the epoch's duties, statistics, cache and target root, and the votes and
the transaction computed from them.  In an epoch whose header loop never ends
the statements of the loop hold nothing more, and none after it is reached. -/
def RetryAt (σ : SyncState) : Prop :=
  let e := s + UInt64.ofNat n
  let F := fetched cfg env s n
  let votes := fun t => cfg.aggregateEpochVotes F e (env.epochStats e) t
  match σ.pc with
  | .idle | .exit _ => True
  | .lockRun => n = 0
  | .loop | .cooldown => TopAt cfg env s n σ
  | .assignments _ | .epochFailed _ _ =>
    env.synced e = false ∧ (cfg.EndlessFetch e ∨ Pending cfg env s n (cfg.firstSlot e) σ)
  | .checkKill _ (.fetchHeader a slot) =>
    env.synced e = false ∧ a = env.assignments e ∧ slot = cfg.firstSlot e ∧
      (cfg.EndlessFetch e ∨ Pending cfg env s n (cfg.firstSlot e) σ)
  | .fetchHeader _ a slot =>
    env.synced e = false ∧ a = env.assignments e ∧
      (cfg.EndlessFetch e ∨ cfg.firstSlot e ≤ slot ∧ Pending cfg env s n slot σ)
  | .checkKill _ (.fetchBody a slot h) | .fetchBody _ a slot h =>
    env.synced e = false ∧ a = env.assignments e ∧
      (cfg.EndlessFetch e ∨ cfg.firstSlot e ≤ slot ∧ slot ≤ cfg.fetchLastSlot e ∧
        σ.cachedSlot = (undisturbed cfg env s n).1 ∧ (undisturbed cfg env s n).1 < slot ∧
        (env.chain slot).map Prod.fst = some h ∧ Pending cfg env s n slot σ)
  | .checkKill _ (.loadStats a) | .loadStats _ a =>
    env.synced e = false ∧ a = env.assignments e ∧ Fetched cfg env s n σ
  | .checkKill _ (.findFirst st slot) | .findFirst _ st slot =>
    env.synced e = false ∧ st = env.epochStats e ∧ Fetched cfg env s n σ ∧
      ∀ t, SearchFrom F (cfg.firstSlot e) (cfg.epochLastSlot e) slot t → TargetOf cfg F e t
  | .aggregate _ st t =>
    env.synced e = false ∧ st = env.epochStats e ∧ Fetched cfg env s n σ ∧ TargetOf cfg F e t
  | .beginTx _ st v | .persist _ st v =>
    env.synced e = false ∧ st = env.epochStats e ∧ Fetched cfg env s n σ ∧
      ∃ t, TargetOf cfg F e t ∧ v = votes t
  | .setState _ tx =>
    env.synced e = false ∧ Fetched cfg env s n σ ∧
      ∃ t, TargetOf cfg F e t ∧ tx = [.epochData e F (env.epochStats e) (votes t)]
  | .commit _ tx =>
    env.synced e = false ∧ Fetched cfg env s n σ ∧
      ∃ t, TargetOf cfg F e t ∧ tx = epochTx e F (env.epochStats e) (votes t)
  | .evict _ slot =>
    env.synced e = false ∧ σ.cachedSlot = cfg.fetchLastSlot e ∧
      (cfg.EndlessEvict e ∨ cfg.firstSlot e ≤ slot ∧
        (∀ k, cfg.firstSlot e ≤ k → k < slot → k ≤ cfg.epochLastSlot e) ∧
        ∀ k, σ.cachedBlocks k = if cfg.firstSlot e ≤ k ∧ k < slot then none else F k)
  | .epochDone _ | .advance _ _ =>
    σ.cachedSlot = (undisturbed cfg env s (n + 1)).1 ∧
      σ.cachedBlocks = (undisturbed cfg env s (n + 1)).2

/-- What holds after every prefix of a run of {lit}`startSync(s)` under the
fixed answers, with {lit}`n` the number of times the cursor has moved. -/
structure RetryInv (σ : SyncState) : Prop where
  epoch : EpochInv σ
  cursor : σ.currentEpoch = s + UInt64.ofNat n
  stmt : RetryAt cfg env s n σ

end Inv

section Pending

variable {cfg : Config} {env : Env} {s : UInt64} {n : Nat} {σ σ' : SyncState}

theorem Fresh.top (h : Fresh cfg env s n σ) : TopAt cfg env s n σ := by
  unfold TopAt
  split
  · exact h
  · refine .inr ⟨.inl h.1, fun k => ?_⟩
    by_cases hk : (undisturbed cfg env s n).1 < k ∧ cfg.firstSlot (s + UInt64.ofNat n) ≤ k ∧
        k ≤ cfg.fetchLastSlot (s + UInt64.ofNat n)
    · exact .inr ⟨by rw [h.2], h.1, hk⟩
    · exact .inl (by simp only [fetched, fillWindow, if_neg hk, h.2])

theorem Fetched.pending {b : UInt64} (h : Fetched cfg env s n σ) : Pending cfg env s n b σ :=
  ⟨.inr h.1, fun k => .inl (by rw [h.2])⟩

theorem Pending.mono {b b' : UInt64} (h : Pending cfg env s n b σ) (hb : b'.toNat ≤ b.toNat) :
    Pending cfg env s n b' σ :=
  ⟨h.1, fun k => (h.2 k).imp_right fun ⟨h₁, h₂, h₃, h₄, h₅⟩ =>
    ⟨h₁, h₂, h₃, Nat.le_trans hb h₄, h₅⟩⟩

/-- The header loop moves past {lit}`slot`, which now holds what the
undisturbed loop leaves there.  No other key waits at {lit}`slot` or above it
when {lit}`slot + 1` wraps, so the step needs no bound. -/
theorem Pending.next {slot : UInt64} (h : Pending cfg env s n slot σ)
    (hcs : σ'.cachedSlot = σ.cachedSlot)
    (hother : ∀ k, k ≠ slot → σ'.cachedBlocks k = σ.cachedBlocks k)
    (hslot : σ'.cachedBlocks slot = fetched cfg env s n slot) :
    Pending cfg env s n (slot + 1) σ' := by
  refine ⟨hcs ▸ h.1, fun k => ?_⟩
  by_cases hk : k = slot
  · subst hk
    exact .inl hslot
  · rw [hother k hk, hcs]
    refine (h.2 k).imp_right fun ⟨h₁, h₂, h₃, h₄, h₅⟩ => ⟨h₁, h₂, h₃, ?_, h₅⟩
    have hne : k.toNat ≠ slot.toNat := fun h => hk ((u64_eq_iff _ _).mpr h)
    have hlt : k.toNat < 2 ^ 64 := k.toNat_lt_size
    rw [u64_le_iff] at h₄ ⊢
    rw [u64_toNat_add, u64_toNat_one]
    omega

/-- Past the window's last slot no slot is left to fetch. -/
theorem Pending.complete {slot : UInt64} (h : Pending cfg env s n slot σ)
    (hgt : ¬slot ≤ cfg.fetchLastSlot (s + UInt64.ofNat n)) :
    σ.cachedBlocks = fetched cfg env s n :=
  funext fun k => (h.2 k).resolve_right fun ⟨_, _, _, h₄, h₅⟩ => hgt (Nat.le_trans h₄ h₅)

/-- A slot the header loop reaches holds what the undisturbed loop leaves
there, unless the loop is about to fetch it. -/
theorem Pending.at_slot {slot : UInt64} (h : Pending cfg env s n slot σ) :
    σ.cachedBlocks slot = fetched cfg env s n slot ∨
      (σ.cachedBlocks slot = (undisturbed cfg env s n).2 slot ∧
        σ.cachedSlot = (undisturbed cfg env s n).1 ∧ (undisturbed cfg env s n).1 < slot ∧
        slot ≤ cfg.fetchLastSlot (s + UInt64.ofNat n)) :=
  (h.2 slot).imp_right fun ⟨h₁, h₂, h₃, _, h₅⟩ => ⟨h₁, h₂, h₃, h₅⟩

/-- The header loop at a slot it runs: the next slot stays in the window, or
the loop never ends. -/
theorem Pending.advance {slot : UInt64} (hfs : cfg.firstSlot (s + UInt64.ofNat n) ≤ slot)
    (hle : slot ≤ cfg.fetchLastSlot (s + UInt64.ofNat n)) (hp : Pending cfg env s n (slot + 1) σ') :
    cfg.EndlessFetch (s + UInt64.ofNat n) ∨
      cfg.firstSlot (s + UInt64.ofNat n) ≤ slot + 1 ∧ Pending cfg env s n (slot + 1) σ' :=
  (u64_succ_or_top hle).imp_right fun hsucc =>
    ⟨by rw [u64_le_iff, hsucc]; exact Nat.le_succ_of_le hfs, hp⟩

end Pending

/-! ## One statement, and whole runs -/

section Step

variable {cfg : Config} {env : Env} {s : UInt64} {n : Nat} {σ σ' : SyncState} {r : Reply}

/-- A statement that does not move the cursor keeps iteration {lit}`n` in step
with the undisturbed run, under every answer the collaborators may give. -/
theorem RetryAt.step (hi : RetryAt cfg env s n σ) (hep : EpochInv σ)
    (hcur : σ.currentEpoch = s + UInt64.ofNat n) (h : Step cfg σ r σ')
    (ha : env.answers (σ, r) = true) (hadv : advanceOf (σ, r) = none) :
    RetryAt cfg env s n σ' := by
  have he : ∀ e, σ.pc.epochOf = some e → e = s + UInt64.ofNat n := fun e h => (hep e h).trans hcur
  cases h
  case lockRun hpc =>
    simp only [RetryAt, hpc] at hi
    subst hi
    exact Fresh.top ⟨rfl, rfl⟩
  case synced hpc =>
    have hs : env.synced (s + UInt64.ofNat n) = true := by
      simp only [Env.answers, hpc, decide_eq_true_eq] at ha
      exact hcur ▸ ha.symm
    simp only [RetryAt, hpc, TopAt, if_pos hs] at hi
    show σ.cachedSlot = _ ∧ σ.cachedBlocks = _
    rw [undisturbed_succ_of_synced hs]
    exact hi
  case unsynced hpc =>
    have hs : env.synced (s + UInt64.ofNat n) = false := by
      simp only [Env.answers, hpc, decide_eq_true_eq] at ha
      exact hcur ▸ ha.symm
    simp only [RetryAt, hpc, TopAt, if_neg (by simp [hs] : ¬env.synced (s + UInt64.ofNat n) = true)] at hi
    exact ⟨hs, hi⟩
  case assignmentsError _ _ hpc | assignmentsNil _ hpc =>
    simp only [RetryAt, hpc] at hi
    exact hi
  case assignmentsOk e a hpc =>
    obtain rfl := he e (by simp [Pc.epochOf, hpc])
    simp only [RetryAt, hpc] at hi
    exact ⟨hi.1, by simpa [Env.answers, hpc] using ha, rfl, hi.2⟩
  case killed e next hpc =>
    cases next with
    | fetchHeader a slot =>
      simp only [RetryAt, hpc] at hi
      exact ⟨hi.1, hi.2.2.2⟩
    | fetchBody a slot hr =>
      simp only [RetryAt, hpc] at hi
      exact ⟨hi.1, hi.2.2.imp_right fun ⟨hfs, _, _, _, _, hp⟩ => hp.mono hfs⟩
    | loadStats a =>
      simp only [RetryAt, hpc] at hi
      exact ⟨hi.1, .inr hi.2.2.pending⟩
    | findFirst st slot =>
      simp only [RetryAt, hpc] at hi
      exact ⟨hi.1, .inr hi.2.2.1.pending⟩
  case notKilled e next hpc =>
    cases next with
    | fetchHeader a slot =>
      simp only [RetryAt, hpc] at hi
      obtain ⟨hs, ha, rfl, hp⟩ := hi
      exact ⟨hs, ha, hp.imp_right fun hp => ⟨Nat.le_refl _, hp⟩⟩
    | _ =>
      simp only [RetryAt, hpc, Resume.pc] at hi ⊢
      exact hi
  case headerCached e a slot hpc hle hc =>
    obtain rfl := he e (by simp [Pc.epochOf, hpc])
    simp only [RetryAt, hpc] at hi
    refine ⟨hi.1, hi.2.1, hi.2.2.elim .inl fun ⟨hfs, hp⟩ => Pending.advance hfs hle ?_⟩
    refine hp.next rfl (fun _ _ => rfl) ?_
    rcases hp.at_slot with hf | ⟨-, hcs, hlt, -⟩
    · exact hf
    · exact absurd (Nat.lt_of_lt_of_le hlt (hcs ▸ hc)) (Nat.lt_irrefl _)
  case headerLoopDone e a slot hpc hgt =>
    obtain rfl := he e (by simp [Pc.epochOf, hpc])
    simp only [RetryAt, hpc] at hi
    obtain ⟨hs, ha, hend | ⟨-, hp⟩⟩ := hi
    · exact absurd (hend slot) hgt
    · exact ⟨hs, ha, rfl, hp.complete hgt⟩
  case headerError e a slot err hpc hle hc =>
    simp only [RetryAt, hpc] at hi
    exact ⟨hi.1, hi.2.2.imp_right fun ⟨hfs, hp⟩ => hp.mono hfs⟩
  case headerEmpty e a slot hpc hle hc =>
    obtain rfl := he e (by simp [Pc.epochOf, hpc])
    simp only [RetryAt, hpc] at hi
    have hnone : (env.chain slot).map Prod.fst = none := by
      simp only [Env.answers, hpc, decide_eq_true_eq] at ha
      exact ha.symm
    refine ⟨hi.1, hi.2.1, hi.2.2.elim .inl fun ⟨hfs, hp⟩ => Pending.advance hfs hle ?_⟩
    refine hp.next rfl (fun _ _ => rfl) ?_
    rcases hp.at_slot with hf | ⟨hf, -, hlt, hle'⟩
    · exact hf
    · simp [fetched_of_window ⟨hlt, hfs, hle'⟩, Env.entry, Option.map_eq_none'.mp hnone, hf]
  case headerOk e a slot hr hpc hle hc =>
    obtain rfl := he e (by simp [Pc.epochOf, hpc])
    simp only [RetryAt, hpc] at hi
    refine ⟨hi.1, hi.2.1, hi.2.2.imp_right fun ⟨hfs, hp⟩ => ?_⟩
    have hcs : σ.cachedSlot = (undisturbed cfg env s n).1 :=
      hp.1.resolve_right fun h => hc (h ▸ hle)
    exact ⟨hfs, hle, hcs, Nat.lt_of_not_le (hcs ▸ hc), by simpa [Env.answers, hpc, eq_comm] using ha,
      hp⟩
  case bodyError e a slot hr err hpc =>
    simp only [RetryAt, hpc] at hi
    exact ⟨hi.1, hi.2.2.imp_right fun ⟨hfs, _, _, _, _, hp⟩ => hp.mono hfs⟩
  case bodyNil => trivial
  case bodyOk e a slot hr b hpc =>
    obtain rfl := he e (by simp [Pc.epochOf, hpc])
    simp only [RetryAt, hpc] at hi
    have hb : some b = (env.chain slot).map Prod.snd := by simpa [Env.answers, hpc] using ha
    refine ⟨hi.1, hi.2.1, hi.2.2.elim .inl fun ⟨hfs, hle, _, hlt, hh, hp⟩ =>
      Pending.advance hfs hle ?_⟩
    refine hp.next rfl (fun k hk => Function.update_noteq hk _ _) ?_
    dsimp only
    rw [Function.update_same, fetched_of_window ⟨hlt, hfs, hle⟩, Env.entry_eq hh hb]
    rfl
  case statsNil e a hpc =>
    simp only [RetryAt, hpc] at hi
    exact ⟨hi.1, .inr hi.2.2.pending⟩
  case statsOk e a v hpc =>
    obtain rfl := he e (by simp [Pc.epochOf, hpc])
    simp only [RetryAt, hpc] at hi
    obtain ⟨hs, rfl, hf⟩ := hi
    obtain rfl : v = env.stats (s + UInt64.ofNat n) := by simpa [Env.answers, hpc] using ha
    exact ⟨hs, rfl, hf, fun _ ht => ht⟩
  case findHit e st slot b hpc hle hb =>
    obtain rfl := he e (by simp [Pc.epochOf, hpc])
    simp only [RetryAt, hpc] at hi
    obtain ⟨hs, hst, hf, hsearch⟩ := hi
    exact ⟨hs, hst, hf, hsearch _ (.hit hle (hf.2 ▸ hb))⟩
  case findMiss e st slot hpc hle hb =>
    obtain rfl := he e (by simp [Pc.epochOf, hpc])
    simp only [RetryAt, hpc] at hi
    obtain ⟨hs, hst, hf, hsearch⟩ := hi
    exact ⟨hs, hst, hf, fun t ht => hsearch t (.miss hle (hf.2 ▸ hb) ht)⟩
  case findDone e st slot hpc hgt =>
    obtain rfl := he e (by simp [Pc.epochOf, hpc])
    simp only [RetryAt, hpc] at hi
    obtain ⟨hs, hst, hf, hsearch⟩ := hi
    exact ⟨hs, hst, hf, hsearch _ (.done hgt)⟩
  case aggregate e st t hpc =>
    obtain rfl := he e (by simp [Pc.epochOf, hpc])
    simp only [RetryAt, hpc] at hi
    obtain ⟨hs, rfl, hf, ht⟩ := hi
    exact ⟨hs, rfl, hf, t, ht, by rw [hf.2]⟩
  case beginError _ _ _ _ hpc | persistError _ _ _ _ hpc =>
    simp only [RetryAt, hpc] at hi
    exact ⟨hi.1, .inr hi.2.2.1.pending⟩
  case setStateError _ _ _ hpc | commitError _ _ _ hpc =>
    simp only [RetryAt, hpc] at hi
    exact ⟨hi.1, .inr hi.2.1.pending⟩
  case beginOk _ _ _ hpc | finalized _ _ hpc | timedOut hpc =>
    simp only [RetryAt, hpc] at hi
    exact hi
  case persistOk e st v hpc =>
    obtain rfl := he e (by simp [Pc.epochOf, hpc])
    simp only [RetryAt, hpc] at hi
    obtain ⟨hs, rfl, hf, t, ht, rfl⟩ := hi
    exact ⟨hs, hf, t, ht, by rw [hf.2]⟩
  case setStateOk e tx hpc =>
    obtain rfl := he e (by simp [Pc.epochOf, hpc])
    simp only [RetryAt, hpc] at hi
    obtain ⟨hs, hf, t, ht, rfl⟩ := hi
    exact ⟨hs, hf, t, ht, rfl⟩
  case commitOk e tx hpc =>
    obtain rfl := he e (by simp [Pc.epochOf, hpc])
    simp only [RetryAt, hpc] at hi
    obtain ⟨hs, hf, -⟩ := hi
    refine ⟨hs, hf.1, .inr ⟨Nat.le_refl _, fun k hk hlt => absurd hlt (Nat.not_lt.mpr hk), fun k => ?_⟩⟩
    rw [if_neg fun h => absurd h.2 (Nat.not_lt.mpr h.1)]
    exact congrFun hf.2 k
  case evictSlot e slot hpc hle =>
    obtain rfl := he e (by simp [Pc.epochOf, hpc])
    simp only [RetryAt, hpc] at hi
    obtain ⟨hs, hcs, hrest⟩ := hi
    refine ⟨hs, hcs, ?_⟩
    rcases hrest with hend | ⟨hfs, hbelow, hcache⟩
    · exact .inl hend
    rcases u64_succ_or_top hle with hend | hsucc
    · exact .inl hend
    refine .inr ⟨?_, fun k hk hlt => ?_, fun k => ?_⟩
    · rw [u64_le_iff, hsucc]
      exact Nat.le_succ_of_le hfs
    · rw [u64_lt_iff, hsucc] at hlt
      rw [u64_le_iff] at hle ⊢
      omega
    · by_cases hks : k = slot
      · subst hks
        dsimp only
        rw [Function.update_same, if_pos ⟨hfs, by rw [u64_lt_iff, hsucc]; exact Nat.lt_succ_self _⟩]
      · have hne : k.toNat ≠ slot.toNat := fun h => hks ((u64_eq_iff _ _).mpr h)
        dsimp only
        rw [Function.update_noteq hks, hcache k]
        simp only [u64_le_iff, u64_lt_iff, hsucc]
        split_ifs <;> first | rfl | omega
  case evictDone e slot hpc hgt =>
    obtain rfl := he e (by simp [Pc.epochOf, hpc])
    simp only [RetryAt, hpc] at hi
    obtain ⟨hs, hcs, hend | ⟨hfs, hbelow, hcache⟩⟩ := hi
    · exact absurd (hend slot) hgt
    show σ.cachedSlot = _ ∧ σ.cachedBlocks = _
    rw [undisturbed_succ_of_unsynced hs]
    refine ⟨hcs, funext fun k => ?_⟩
    rw [hcache k]
    simp only [evictEpoch]
    by_cases hk : cfg.firstSlot (s + UInt64.ofNat n) ≤ k
    · by_cases hks : k < slot
      · rw [if_pos ⟨hk, hks⟩, if_pos ⟨hk, hbelow k hk hks⟩]
      · have : ¬k ≤ cfg.epochLastSlot (s + UInt64.ofNat n) := fun h =>
          hks (Nat.lt_of_le_of_lt h (Nat.lt_of_not_le hgt))
        rw [if_neg fun h => hks h.2, if_neg fun h => this h.2]
    · rw [if_neg fun h => hk h.1, if_neg fun h => hk h.1]
  case retry e err hpc =>
    simp only [RetryAt, hpc] at hi
    show TopAt cfg env s n _
    rw [TopAt, if_neg (by simp [hi.1])]
    exact hi.2
  case complete e fin hpc _ | incomplete e fin hpc _ => simp [advanceOf, hpc] at hadv
  case stopped | exit | panic => trivial

theorem RetryInv.step (hi : RetryInv cfg env s n σ) (h : Step cfg σ r σ')
    (ha : env.answers (σ, r) = true) (hadv : advanceOf (σ, r) = none) :
    RetryInv cfg env s n σ' := by
  have hcur : σ'.currentEpoch = σ.currentEpoch := by
    rcases h.advanceOf_cases with ⟨-, hc⟩ | ⟨_, _, _, ha', _⟩
    · exact hc
    · simp [hadv] at ha'
  exact ⟨h.epochInv hi.epoch, hcur.trans hi.cursor, hi.stmt.step hi.epoch hi.cursor h ha hadv⟩

/-- Line 94 moves the cursor to iteration {lit}`n + 1`, which starts from the
undisturbed run's mark and cache. -/
theorem RetryInv.advance_step (hi : RetryInv cfg env s n σ) (h : Step cfg σ r σ') {e : UInt64}
    {fin : BitVec 64} (hpc : σ.pc = .advance e fin) : RetryInv cfg env s (n + 1) σ' := by
  have hep := h.epochInv hi.epoch
  have hst := hi.stmt
  simp only [RetryAt, hpc] at hst
  have hcur : σ.currentEpoch + 1 = s + UInt64.ofNat (n + 1) := by
    rw [hi.cursor, u64_add_ofNat_succ]
  obtain rfl : e = σ.currentEpoch := hi.epoch e (by simp [Pc.epochOf, hpc])
  cases h
  case complete e' fin' hpc' _ =>
    obtain ⟨rfl, rfl⟩ := Pc.advance.inj (hpc'.symm.trans hpc)
    exact ⟨hep, hcur, trivial⟩
  case incomplete e' fin' hpc' _ =>
    obtain ⟨rfl, rfl⟩ := Pc.advance.inj (hpc'.symm.trans hpc)
    exact ⟨hep, hcur, Fresh.top hst⟩
  case notKilled e' next hpc' => cases next <;> simp [hpc] at hpc'
  case panic hc => simp [SyncState.callsOut, hpc] at hc
  all_goals simp_all

theorem retryInv_started (σ₀ : SyncState) (s : UInt64) : RetryInv cfg env s 0 (σ₀.started s) where
  epoch := epochInv_started σ₀ s
  cursor := (u64_add_ofNat_zero s).symm
  stmt := rfl

/-- One step of a run under the fixed answers, with {lit}`n` counting the
cursor moves. -/
theorem RetryInv.snoc (hi : RetryInv cfg env s n σ) (h : Step cfg σ r σ')
    (ha : env.answers (σ, r) = true) :
    RetryInv cfg env s (n + (advanceOf (σ, r)).toList.length) σ' := by
  rcases h.advanceOf_cases with ⟨hadv, -⟩ | ⟨e, fin, hpc, hadv, -⟩
  · simpa [hadv] using hi.step h ha hadv
  · simpa [hadv] using hi.advance_step h hpc

end Step

section Runs

variable {cfg : Config} {env : Env} {s : UInt64} {σ₀ σ : SyncState}
  {tr : List (SyncState × Reply)}

/-- Every run of {lit}`startSync(s)` under the fixed answers is in step with
the undisturbed run, at the iteration its cursor has reached. -/
theorem Run.retryInv (h : Run cfg (σ₀.started s) tr σ) (ha : ∀ p ∈ tr, env.answers p = true) :
    RetryInv cfg env s (records advanceOf tr).length σ := by
  generalize hs : σ₀.started s = σs at h
  induction h with
  | nil => exact hs ▸ retryInv_started σ₀ s
  | snoc _ hst ih =>
    simpa using (ih fun p hp => ha p (List.mem_append_left _ hp)).snoc (step_sound cfg hst)
      (ha _ (List.mem_append_right _ (List.mem_singleton_self _)))

/-- Every statement such a run executes is in step with the undisturbed run. -/
theorem Run.retryInv_mem (h : Run cfg (σ₀.started s) tr σ) (ha : ∀ p ∈ tr, env.answers p = true)
    {p : SyncState × Reply} (hp : p ∈ tr) : ∃ n, RetryInv cfg env s n p.1 := by
  obtain ⟨tr₁, -, h₁, -, hpre⟩ := h.mem_step hp
  exact ⟨_, h₁.retryInv fun q hq => ha q (hpre.subset (List.mem_append_left _ hq))⟩

end Runs

section Inputs

variable {cfg : Config} {env : Env} {s : UInt64} {n : Nat} {σ : SyncState} {e : UInt64}

theorem RetryInv.epoch_eq (hi : RetryInv cfg env s n σ) (he : σ.pc.epochOf = some e) :
    e = s + UInt64.ofNat n :=
  (hi.epoch e he).trans hi.cursor

/-- The inputs of {lit}`aggregateEpochVotes` in iteration {lit}`n`: the
undisturbed run's cache, the epoch's statistics, and the target root found in
that cache. -/
theorem RetryInv.aggregate {st : EpochStats} {t : Root} (hi : RetryInv cfg env s n σ)
    (hpc : σ.pc = .aggregate e st t) :
    e = s + UInt64.ofNat n ∧ σ.cachedBlocks = fetched cfg env s n ∧ st = env.epochStats e ∧
      TargetOf cfg (fetched cfg env s n) e t := by
  obtain rfl := hi.epoch_eq (show σ.pc.epochOf = some e by simp [Pc.epochOf, hpc])
  have hst := hi.stmt
  simp only [RetryAt, hpc] at hst
  exact ⟨rfl, hst.2.2.1.2, hst.2.1, hst.2.2.2⟩

/-- The inputs of {lit}`persistEpochData` in iteration {lit}`n`: the
undisturbed run's cache, the epoch's statistics, and the votes aggregated from
them. -/
theorem RetryInv.persist {st : EpochStats} {v : EpochVotes} (hi : RetryInv cfg env s n σ)
    (hpc : σ.pc = .persist e st v) :
    e = s + UInt64.ofNat n ∧ σ.cachedBlocks = fetched cfg env s n ∧ st = env.epochStats e ∧
      ∃ t, TargetOf cfg (fetched cfg env s n) e t ∧
        v = cfg.aggregateEpochVotes (fetched cfg env s n) e (env.epochStats e) t := by
  obtain rfl := hi.epoch_eq (show σ.pc.epochOf = some e by simp [Pc.epochOf, hpc])
  have hst := hi.stmt
  simp only [RetryAt, hpc] at hst
  exact ⟨rfl, hst.2.2.1.2, hst.2.1, hst.2.2.2⟩

/-- The transaction committed in iteration {lit}`n`. -/
theorem RetryInv.commit {tx : List Write} (hi : RetryInv cfg env s n σ)
    (hpc : σ.pc = .commit e tx) :
    e = s + UInt64.ofNat n ∧ env.synced e = false ∧ ∃ t, TargetOf cfg (fetched cfg env s n) e t ∧
      tx = epochTx e (fetched cfg env s n) (env.epochStats e)
        (cfg.aggregateEpochVotes (fetched cfg env s n) e (env.epochStats e) t) := by
  obtain rfl := hi.epoch_eq (show σ.pc.epochOf = some e by simp [Pc.epochOf, hpc])
  have hst := hi.stmt
  simp only [RetryAt, hpc] at hst
  exact ⟨rfl, hst.1, hst.2.2⟩

end Inputs

theorem commitOf_eq_some {p : SyncState × Reply} {e : UInt64} {tx : List Write}
    (h : commitOf p = some (e, tx)) : p.1.pc = .commit e tx := by
  unfold commitOf at h
  split at h <;> simp_all

end Synchronizer
end BeaconSync
