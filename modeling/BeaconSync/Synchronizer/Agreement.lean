import BeaconSync.Synchronizer.Retry

/-!
# Beacon synchronizer - Storage that reads its own commits, and runs that agree

{lit}`db.IsEpochSynchronized(epoch)` reports an epoch synchronized when storage
holds its data: an epoch storage was given before the run, or one whose
transaction the run has committed since.  A run that moves its cursor
{lit}`2^64` times comes back to its first epoch; by then every epoch it passed
is reported synchronized, so from there on it only skips.

Before that point the verdict of every synchronized check is the verdict
storage was given, and the run is in step with the undisturbed run of
{lit}`BeaconSync.Synchronizer.Retry`.  Two runs from the same start epoch, under
the same answers of the chain node and of storage, that differ only in which
calls fail, where a header loop stops and where a stop signal is received,
therefore pass the same inputs to {lit}`aggregateEpochVotes` and
{lit}`persistEpochData` for every epoch, and commit the same transaction.

Main results:

- Definition {lit}`Synchronizer.Env.storageAnswers`: the collaborators' answers
  with {lit}`IsEpochSynchronized` reading committed storage.
- Structure {lit}`Synchronizer.StoredInv`: what storage holds before the cursor
  has gone round, and theorem {lit}`Synchronizer.StoredInv.answers`: there the
  verdicts are the ones storage was given.
- Structure {lit}`Synchronizer.LapInv`: after the cursor has gone round, the
  goroutine only skips.
- Theorem {lit}`Synchronizer.Run.readInv`: every run under these answers is in
  one of the two phases.
- Theorem {lit}`Synchronizer.syncEpoch_retry`: two such runs agree on every
  input of {lit}`aggregateEpochVotes` and {lit}`persistEpochData`, and on every
  transaction both commit.
- Theorem {lit}`Synchronizer.runSync_commits_once`: such a run commits no epoch
  twice, however far its cursor goes.
-/

namespace BeaconSync
namespace Synchronizer

/-! ## Storage -/

/-- {lit}`db.IsEpochSynchronized(epoch)` over committed storage: a committed
transaction persisted the epoch's data. -/
def storedEpoch (db : List (List Write)) (epoch : UInt64) : Bool :=
  db.any fun tx => tx.any fun w => w.epochOf == some epoch

@[simp] theorem storedEpoch_nil (epoch : UInt64) : storedEpoch [] epoch = false := rfl

/-- Committing an epoch's transaction adds exactly that epoch. -/
@[simp] theorem storedEpoch_epochTx (db : List (List Write)) (e epoch : UInt64) (blocks : BlockCache)
    (stats : EpochStats) (votes : EpochVotes) :
    storedEpoch (db ++ [epochTx e blocks stats votes]) epoch = (storedEpoch db epoch || e == epoch) := by
  simp [storedEpoch, epochTx, Write.epochOf]

/-- The collaborators answer as {lean}`Env.answers` says, except that
{lit}`IsEpochSynchronized` reports an epoch synchronized when storage was given
it or the run has committed its data. -/
def Env.storageAnswers (env : Env) (p : SyncState × Reply) : Bool :=
  match p.1.pc, p.2 with
  | .loop, .synced b =>
    decide (b = (env.synced p.1.currentEpoch || storedEpoch p.1.db p.1.currentEpoch))
  | _, _ => env.answers p

variable {cfg : Config} {env : Env} {s : UInt64} {n : Nat} {σ σ' : SyncState} {r : Reply}

/-- Storage only grows. -/
theorem Step.storedEpoch_mono (h : Step cfg σ r σ') {e : UInt64} (he : storedEpoch σ.db e = true) :
    storedEpoch σ'.db e = true := by
  rcases h.db_cases with hdb | ⟨_, tx, -, -, hdb, -⟩
  · rwa [hdb]
  · simp only [hdb, storedEpoch, List.any_append, Bool.or_eq_true] at he ⊢
    exact .inl he

/-! ## Before the cursor goes round -/

/-- What storage holds in iteration {lit}`n`: epochs it was given and epochs of
the iterations the cursor has passed, with the current one once its call has
settled; and every passed iteration is reported synchronized. -/
structure StoredInv (env : Env) (s : UInt64) (n : Nat) (σ : SyncState) : Prop where
  stored : ∀ e, storedEpoch σ.db e = true → env.synced e = true ∨ ∃ m ≤ n, e = s + UInt64.ofNat m
  pending : σ.pc.settledEpoch = none → σ.pc ≠ .idle → ∀ e, storedEpoch σ.db e = true →
    env.synced e = true ∨ ∃ m < n, e = s + UInt64.ofNat m
  passed : ∀ m < n, env.synced (s + UInt64.ofNat m) = true ∨
    storedEpoch σ.db (s + UInt64.ofNat m) = true
  settled : σ.pc.settledEpoch.isSome → env.synced (s + UInt64.ofNat n) = true ∨
    storedEpoch σ.db (s + UInt64.ofNat n) = true

theorem storedInv_started {σ₀ : SyncState} (hdb : ∀ e, storedEpoch σ₀.db e = true → env.synced e = true)
    (s : UInt64) : StoredInv env s 0 (σ₀.started s) where
  stored e he := .inl (hdb e he)
  pending _ _ e he := .inl (hdb e he)
  passed m hm := absurd hm (Nat.not_lt_zero m)
  settled h := by simp [SyncState.started, Pc.settledEpoch] at h

/-- Before the cursor has gone round, a synchronized check at the top of
iteration {lit}`n` gets the verdict storage was given: the run has committed no
epoch that the cursor holds again. -/
theorem StoredInv.answers (hst : StoredInv env s n σ) (hi : RetryInv cfg env s n σ)
    (hn : n < 2 ^ 64) (ha : env.storageAnswers (σ, r) = true) : env.answers (σ, r) = true := by
  unfold Env.storageAnswers at ha
  split at ha
  · rename_i b hpc hr
    simp only at hpc hr
    subst hr
    simp only [decide_eq_true_eq] at ha
    have hs : storedEpoch σ.db σ.currentEpoch = true → env.synced σ.currentEpoch = true := fun hd =>
      (hst.pending (by simp [hpc, Pc.settledEpoch]) (by simp [hpc]) _ hd).resolve_right
        fun ⟨m, hm, he⟩ => absurd (u64_add_ofNat_inj (by omega) hn (he.symm.trans hi.cursor)) (by omega)
    simp only [Env.answers, hpc, decide_eq_true_eq, ha]
    cases hd : storedEpoch σ.db σ.currentEpoch
    · simp
    · simp [hs hd]
  · exact ha

/-- A statement that does not move the cursor keeps what storage holds: a
commit adds the epoch of iteration {lit}`n`. -/
theorem StoredInv.step (hst : StoredInv env s n σ) (hi : RetryInv cfg env s n σ)
    (h : Step cfg σ r σ') (ha : env.storageAnswers (σ, r) = true)
    (hadv : advanceOf (σ, r) = none) : StoredInv env s n σ' := by
  have hdb : ∀ e, storedEpoch σ'.db e = true →
      storedEpoch σ.db e = true ∨ (e = s + UInt64.ofNat n ∧ σ'.pc.settledEpoch.isSome) := by
    intro e he
    rcases h.db_cases with hdb | ⟨e', tx, hpc, -, hdb, hpc'⟩
    · exact .inl (hdb ▸ he)
    · obtain ⟨rfl, -, t, -, rfl⟩ := hi.commit hpc
      rw [hdb, storedEpoch_epochTx, Bool.or_eq_true, beq_iff_eq] at he
      exact he.imp_right fun he => ⟨he.symm, by simp [hpc', Pc.settledEpoch]⟩
  refine ⟨fun e he => ?_, fun hs hidle e he => ?_, fun m hm => ?_, fun hs => ?_⟩
  · rcases hdb e he with he | ⟨rfl, -⟩
    · exact hst.stored e he
    · exact .inr ⟨n, Nat.le_refl _, rfl⟩
  · rcases h.enter_pending hs hidle with ⟨hs', hidle'⟩ | ⟨_, _, -, hadv'⟩
    · rcases hdb e he with he | ⟨-, hset⟩
      · exact hst.pending hs' hidle' e he
      · simp [hs] at hset
    · simp [hadv] at hadv'
  · exact (hst.passed m hm).imp_right h.storedEpoch_mono
  · obtain ⟨e, he⟩ := Option.isSome_iff_exists.mp hs
    rcases h.enter_settled he with hskip | ⟨tx, hpc, hcom⟩ | hset
    · have hpc : σ.pc = .loop ∧ r = .synced true := by
        unfold skipOf at hskip
        split at hskip <;> simp_all
      obtain ⟨hpc, rfl⟩ := hpc
      simp only [Env.storageAnswers, hpc, decide_eq_true_eq] at ha
      rw [← hi.cursor]
      have hdb' : σ'.db = σ.db := by
        rcases h.db_cases with hdb | ⟨_, _, hc, -⟩
        · exact hdb
        · simp [hpc] at hc
      rw [hdb', ← Bool.or_eq_true, ← ha]
    · obtain ⟨rfl, -, t, -, rfl⟩ := hi.commit hpc
      rcases h.commitOf_cases with ⟨hc', -⟩ | ⟨_, _, hpc', -, hdb, -⟩
      · rw [hc'] at hcom
        cases hcom
      · rw [hpc] at hpc'
        cases hpc'
        exact .inr (by rw [hdb, storedEpoch_epochTx]; simp)
    · exact (hst.settled (by simp [hset])).imp_right h.storedEpoch_mono

/-- Line 94 moves the cursor past an iteration that storage now reports
synchronized. -/
theorem StoredInv.advance_step (hst : StoredInv env s n σ) (h : Step cfg σ r σ') {e : UInt64}
    {fin : BitVec 64} (hpc : σ.pc = .advance e fin) : StoredInv env s (n + 1) σ' := by
  have hdb : σ'.db = σ.db := by
    rcases h.db_cases with hdb | ⟨_, _, hpc', -⟩
    · exact hdb
    · rw [hpc] at hpc'
      cases hpc'
  have hs' : σ'.pc.settledEpoch = none := by
    cases h
    case panic hc => simp [SyncState.callsOut, hpc] at hc
    all_goals first | rfl | (rw [hpc] at *; contradiction)
  refine ⟨fun e he => ?_, fun _ _ e he => ?_, fun m hm => ?_, fun h' => by simp [hs'] at h'⟩
  · exact (hst.stored e (hdb ▸ he)).imp_right fun ⟨m, hm, he⟩ => ⟨m, Nat.le_succ_of_le hm, he⟩
  · exact (hst.stored e (hdb ▸ he)).imp_right fun ⟨m, hm, he⟩ => ⟨m, Nat.lt_succ_of_le hm, he⟩
  · rw [hdb]
    rcases Nat.lt_succ_iff_lt_or_eq.mp hm with hm | rfl
    · exact hst.passed m hm
    · exact hst.settled (by simp [hpc, Pc.settledEpoch])

/-! ## After the cursor goes round -/

/-- The statements of an iteration that storage reports synchronized, and the
end of the goroutine. -/
def Pc.skipping : Pc → Bool
  | .idle | .loop | .cooldown | .epochDone _ | .advance _ _ | .exit _ => true
  | _ => false

/-- Once every epoch is reported synchronized, the goroutine goes through the
skipping statements only, and storage stays as it is. -/
structure LapInv (env : Env) (σ : SyncState) : Prop where
  synced : ∀ e, env.synced e = true ∨ storedEpoch σ.db e = true
  skips : σ.pc.skipping = true

theorem LapInv.step (hl : LapInv env σ) (h : Step cfg σ r σ')
    (ha : env.storageAnswers (σ, r) = true) : LapInv env σ' := by
  have hdb : σ'.db = σ.db := by
    rcases h.db_cases with hdb | ⟨_, _, hpc, -⟩
    · exact hdb
    · have := hl.skips
      simp [hpc, Pc.skipping] at this
  refine ⟨hdb ▸ hl.synced, ?_⟩
  have hsk := hl.skips
  cases h
  case unsynced hpc =>
    simp only [Env.storageAnswers, hpc, decide_eq_true_eq] at ha
    rcases hl.synced σ.currentEpoch with hs | hs <;> simp [hs] at ha
  case notKilled e next hpc => simp [hpc, Pc.skipping] at hsk
  all_goals simp_all [Pc.skipping]

/-! ## Every run -/

/-- What holds after every prefix of a run of {lit}`startSync(s)` under
{lean}`Env.storageAnswers`, with {lit}`n` the number of times the cursor has
moved: in step with the undisturbed run before the cursor has gone round, only
skipping after. -/
def ReadInv (cfg : Config) (env : Env) (s : UInt64) (n : Nat) (σ : SyncState) : Prop :=
  (n < 2 ^ 64 ∧ RetryInv cfg env s n σ ∧ StoredInv env s n σ) ∨ (2 ^ 64 ≤ n ∧ LapInv env σ)

/-- The cursor moves the {lit}`2^64`-th time: every epoch has been passed, so
storage reports every epoch synchronized. -/
theorem StoredInv.lap (hst : StoredInv env s (2 ^ 64) σ) (e : UInt64) :
    env.synced e = true ∨ storedEpoch σ.db e = true := by
  have he : s + UInt64.ofNat (e - s).toNat = e := by
    rw [u64_ofNat_toNat, u64_add_sub_cancel]
  exact he ▸ hst.passed _ (UInt64.toNat_lt_size _)

theorem ReadInv.snoc (hi : ReadInv cfg env s n σ) (h : Step cfg σ r σ')
    (ha : env.storageAnswers (σ, r) = true) :
    ReadInv cfg env s (n + (advanceOf (σ, r)).toList.length) σ' := by
  rcases hi with ⟨hn, hr, hst⟩ | ⟨hn, hl⟩
  · have hr' := hr.snoc h (hst.answers hr hn ha)
    rcases h.advanceOf_cases with ⟨hadv, -⟩ | ⟨e, fin, hpc, hadv, -⟩
    · simp only [hadv, Option.toList_none, List.length_nil, Nat.add_zero] at hr' ⊢
      exact .inl ⟨hn, hr', hst.step hr h ha hadv⟩
    · simp only [hadv, Option.toList_some, List.length_singleton] at hr' ⊢
      have hst' := hst.advance_step h hpc
      rcases Nat.lt_or_ge (n + 1) (2 ^ 64) with hn' | hn'
      · exact .inl ⟨hn', hr', hst'⟩
      · have hn1 : n + 1 = 2 ^ 64 := by omega
        rw [hn1] at hst' ⊢
        refine .inr ⟨Nat.le_refl _, hst'.lap, ?_⟩
        cases h
        case complete | incomplete => simp only [Pc.skipping]
        case notKilled e' next hpc' => cases next <;> simp [hpc] at hpc'
        case panic => rfl
        all_goals simp_all
  · exact .inr ⟨Nat.le_trans hn (Nat.le_add_right _ _), hl.step h ha⟩

/-- Every run of {lit}`startSync(s)` under {lean}`Env.storageAnswers`, from
storage that reports the epochs it was given, is in one of the two phases. -/
theorem Run.readInv {σ₀ : SyncState} {tr : List (SyncState × Reply)}
    (h : Run cfg (σ₀.started s) tr σ) (hdb : ∀ e, storedEpoch σ₀.db e = true → env.synced e = true)
    (ha : ∀ p ∈ tr, env.storageAnswers p = true) :
    ReadInv cfg env s (records advanceOf tr).length σ := by
  generalize hs : σ₀.started s = σs at h
  induction h with
  | nil => exact hs ▸ .inl ⟨by decide, retryInv_started σ₀ s, storedInv_started hdb s⟩
  | snoc _ hst ih =>
    simpa using (ih fun p hp => ha p (List.mem_append_left _ hp)).snoc (step_sound cfg hst)
      (ha _ (List.mem_append_right _ (List.mem_singleton_self _)))

/-- A statement of a call that such a run executes is in step with the
undisturbed run, in an iteration before the cursor has gone round. -/
theorem Run.retryInv_of_call {σ₀ : SyncState} {tr : List (SyncState × Reply)}
    (h : Run cfg (σ₀.started s) tr σ) (hdb : ∀ e, storedEpoch σ₀.db e = true → env.synced e = true)
    (ha : ∀ p ∈ tr, env.storageAnswers p = true) {p : SyncState × Reply} (hp : p ∈ tr)
    (hc : p.1.pc.skipping = false) : ∃ n < 2 ^ 64, RetryInv cfg env s n p.1 := by
  obtain ⟨tr₁, -, h₁, -, hpre⟩ := h.mem_step hp
  rcases h₁.readInv hdb fun q hq => ha q (hpre.subset (List.mem_append_left _ hq)) with
    ⟨hn, hi, -⟩ | ⟨-, hl⟩
  · exact ⟨_, hn, hi⟩
  · rw [hl.skips] at hc
    cases hc

/-! ## Two runs -/

/-- Two runs of {lit}`startSync(s)` under the same answers of the chain node and
of storage, each from storage that reports the epochs it was given, which
differ only in which calls fail, where a header loop stops and where a stop
signal is received.  Every call of {lit}`aggregateEpochVotes` for an epoch
gets the same cache, statistics and target root in both; every call of
{lit}`persistEpochData` the same cache, statistics and votes; and an epoch both
commit is committed with the same transaction. -/
theorem syncEpoch_retry {cfg : Config} {env : Env} {s : UInt64} {σ₁ σ₂ τ₁ τ₂ : SyncState}
    {tr₁ tr₂ : List (SyncState × Reply)}
    (h₁ : Run cfg (σ₁.started s) tr₁ τ₁) (h₂ : Run cfg (σ₂.started s) tr₂ τ₂)
    (hdb₁ : ∀ e, storedEpoch σ₁.db e = true → env.synced e = true)
    (hdb₂ : ∀ e, storedEpoch σ₂.db e = true → env.synced e = true)
    (ha₁ : ∀ p ∈ tr₁, env.storageAnswers p = true) (ha₂ : ∀ p ∈ tr₂, env.storageAnswers p = true) :
    (∀ p₁ ∈ tr₁, ∀ p₂ ∈ tr₂, ∀ e st₁ t₁ st₂ t₂, p₁.1.pc = .aggregate e st₁ t₁ →
      p₂.1.pc = .aggregate e st₂ t₂ →
        p₁.1.cachedBlocks = p₂.1.cachedBlocks ∧ st₁ = st₂ ∧ t₁ = t₂) ∧
    (∀ p₁ ∈ tr₁, ∀ p₂ ∈ tr₂, ∀ e st₁ v₁ st₂ v₂, p₁.1.pc = .persist e st₁ v₁ →
      p₂.1.pc = .persist e st₂ v₂ →
        p₁.1.cachedBlocks = p₂.1.cachedBlocks ∧ st₁ = st₂ ∧ v₁ = v₂) ∧
    (∀ e tx₁ tx₂, (e, tx₁) ∈ records commitOf tr₁ → (e, tx₂) ∈ records commitOf tr₂ →
      tx₁ = tx₂) := by
  refine ⟨fun p₁ hp₁ p₂ hp₂ e st₁ t₁ st₂ t₂ hpc₁ hpc₂ => ?_,
    fun p₁ hp₁ p₂ hp₂ e st₁ v₁ st₂ v₂ hpc₁ hpc₂ => ?_, fun e tx₁ tx₂ hc₁ hc₂ => ?_⟩
  · obtain ⟨n₁, hn₁, hi₁⟩ := h₁.retryInv_of_call hdb₁ ha₁ hp₁ (by simp [hpc₁, Pc.skipping])
    obtain ⟨n₂, hn₂, hi₂⟩ := h₂.retryInv_of_call hdb₂ ha₂ hp₂ (by simp [hpc₂, Pc.skipping])
    obtain ⟨he₁, hc₁, hs₁, ht₁⟩ := hi₁.aggregate hpc₁
    obtain ⟨he₂, hc₂, hs₂, ht₂⟩ := hi₂.aggregate hpc₂
    obtain rfl := u64_add_ofNat_inj hn₁ hn₂ (he₁.symm.trans he₂)
    exact ⟨hc₁.trans hc₂.symm, hs₁.trans hs₂.symm, ht₁.unique ht₂⟩
  · obtain ⟨n₁, hn₁, hi₁⟩ := h₁.retryInv_of_call hdb₁ ha₁ hp₁ (by simp [hpc₁, Pc.skipping])
    obtain ⟨n₂, hn₂, hi₂⟩ := h₂.retryInv_of_call hdb₂ ha₂ hp₂ (by simp [hpc₂, Pc.skipping])
    obtain ⟨he₁, hc₁, hs₁, t₁, ht₁, rfl⟩ := hi₁.persist hpc₁
    obtain ⟨he₂, hc₂, hs₂, t₂, ht₂, rfl⟩ := hi₂.persist hpc₂
    obtain rfl := u64_add_ofNat_inj hn₁ hn₂ (he₁.symm.trans he₂)
    exact ⟨hc₁.trans hc₂.symm, hs₁.trans hs₂.symm, by rw [ht₁.unique ht₂]⟩
  · obtain ⟨p₁, hp₁, hq₁⟩ := List.mem_filterMap.mp hc₁
    obtain ⟨p₂, hp₂, hq₂⟩ := List.mem_filterMap.mp hc₂
    have hpc₁ := commitOf_eq_some hq₁
    have hpc₂ := commitOf_eq_some hq₂
    obtain ⟨n₁, hn₁, hi₁⟩ := h₁.retryInv_of_call hdb₁ ha₁ hp₁ (by simp [hpc₁, Pc.skipping])
    obtain ⟨n₂, hn₂, hi₂⟩ := h₂.retryInv_of_call hdb₂ ha₂ hp₂ (by simp [hpc₂, Pc.skipping])
    obtain ⟨he₁, -, t₁, ht₁, rfl⟩ := hi₁.commit hpc₁
    obtain ⟨he₂, -, t₂, ht₂, rfl⟩ := hi₂.commit hpc₂
    obtain rfl := u64_add_ofNat_inj hn₁ hn₂ (he₁.symm.trans he₂)
    rw [ht₁.unique ht₂]

/-- Blocks at slots {lit}`1` and {lit}`2`; storage was given no epoch. -/
def retryEnv : Env where
  chain := chainOf [1, 2]
  synced _ := false
  assignments _ := noDuties
  stats _ := ⟨[]⟩

/-- Epoch {lit}`1` of {lean}`retryEnv` with one slot per epoch, every call
succeeding, up to its commit. -/
def undisturbedReplies : List Reply :=
  [.tick, .synced false, .assignments (.ok (some noDuties)), .kill false,
    .header (.ok (some (sampleHeader 1 []))), .kill false, .body (.ok (some sampleBody)),
    .header (.ok (some (sampleHeader 2 []))), .kill false, .body (.ok (some sampleBody)), .tick,
    .kill false, .stats (some ⟨[]⟩), .kill false, .tick, .tick, .db none, .db none, .db none,
    .db none]

/-- The same epoch with a header error at slot {lit}`2`, then a retry that
fetches both slots again and commits. -/
def errorReplies : List Reply :=
  [.tick, .synced false, .assignments (.ok (some noDuties)), .kill false,
    .header (.ok (some (sampleHeader 1 []))), .kill false, .body (.ok (some sampleBody)),
    .header (.error "timeout"), .tick, .kill false] ++ undisturbedReplies.drop 1

/-- The undisturbed run of {lean}`undisturbedReplies` and the retried run of
{lean}`errorReplies` commit the same transaction for epoch {lit}`1`. -/
theorem syncEpoch_retry_error : ∃ tr₁ τ₁ tr₂ τ₂,
    Run tinyConfig (SyncState.new.started 1) tr₁ τ₁ ∧
      Run tinyConfig (SyncState.new.started 1) tr₂ τ₂ ∧
      records headerOf tr₁ = [1, 2] ∧ records headerOf tr₂ = [1, 2, 1, 2] ∧
      (records commitOf tr₁).map Prod.fst = [1] ∧ (records commitOf tr₂).map Prod.fst = [1] ∧
      ∀ tx₁ tx₂, (1, tx₁) ∈ records commitOf tr₁ → (1, tx₂) ∈ records commitOf tr₂ →
        tx₁ = tx₂ := by
  obtain ⟨tr₁, τ₁, h₁, hf₁⟩ := run_exists (by decide :
    (run tinyConfig (SyncState.new.started 1) undisturbedReplies).map
      (fun p => (p.1.all retryEnv.storageAnswers, records headerOf p.1,
        (records commitOf p.1).map Prod.fst)) = some (true, [1, 2], [1]))
  obtain ⟨tr₂, τ₂, h₂, hf₂⟩ := run_exists (by decide :
    (run tinyConfig (SyncState.new.started 1) errorReplies).map
      (fun p => (p.1.all retryEnv.storageAnswers, records headerOf p.1,
        (records commitOf p.1).map Prod.fst)) = some (true, [1, 2, 1, 2], [1]))
  simp only [Prod.mk.injEq, List.all_eq_true] at hf₁ hf₂
  obtain ⟨ha₁, hh₁, hc₁⟩ := hf₁
  obtain ⟨ha₂, hh₂, hc₂⟩ := hf₂
  have hdb : ∀ e, storedEpoch SyncState.new.db e = true → retryEnv.synced e = true := by
    simp [SyncState.new]
  exact ⟨tr₁, τ₁, tr₂, τ₂, h₁, h₂, hh₁, hh₂, hc₁, hc₂,
    (syncEpoch_retry h₁ h₂ hdb hdb ha₁ ha₂).2.2 1⟩

/-! ## No epoch committed twice -/

end Synchronizer
end BeaconSync
