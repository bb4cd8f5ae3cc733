import Mathlib.Algebra.Group.Nat.Basic
import Mathlib.Logic.Function.Basic
import Mathlib.Data.List.Basic

/-!
# Beacon synchronizer - Chain data, configuration and slot windows

The synchronizer of {lit}`indexer/synchronizer.go` moves four kinds of data:
block headers and bodies fetched per slot, the duty assignments and validator
statistics of an epoch, the vote aggregate computed from them, and the writes
of one storage transaction.  This module fixes those records, the chain
configuration the code reads, and the three slot windows of an epoch, with the
unsigned 64-bit arithmetic of the Go code (`uint64` is {lean}`UInt64`, wrapping
at {lit}`2^64`).

Main results:

- Definitions {lit}`Config.firstSlot`, {lit}`Config.fetchLastSlot` and
  {lit}`Config.epochLastSlot`: the slot bounds of {lit}`syncEpoch`'s loops,
  computed as the code computes them.
- Theorems {lit}`Config.firstSlot_toNat`, {lit}`Config.fetchLastSlot_toNat`
  and {lit}`Config.epochLastSlot_toNat`: below the wrap-around the bounds are
  the natural-number window of the epoch.
-/

namespace BeaconSync

/-! ## Unsigned 64-bit arithmetic

The core library states the arithmetic of {lit}`toNat` for {lean}`BitVec`
only; the first three lemmas read {lean}`BitVec.toNat_add`,
{lean}`BitVec.toNat_mul` and {lean}`BitVec.toNat_sub` through
{lean}`UInt64.toNat`, which is the value of the underlying bit vector. -/

theorem u64_toNat_add (a b : UInt64) : (a + b).toNat = (a.toNat + b.toNat) % 2 ^ 64 :=
  BitVec.toNat_add a.toBitVec b.toBitVec

theorem u64_toNat_mul (a b : UInt64) : (a * b).toNat = (a.toNat * b.toNat) % 2 ^ 64 :=
  BitVec.toNat_mul a.toBitVec b.toBitVec

theorem u64_toNat_sub (a b : UInt64) :
    (a - b).toNat = (2 ^ 64 - b.toNat + a.toNat) % 2 ^ 64 :=
  BitVec.toNat_sub a.toBitVec b.toBitVec

theorem u64_le_iff (a b : UInt64) : a ≤ b ↔ a.toNat ≤ b.toNat := Iff.rfl

theorem u64_lt_iff (a b : UInt64) : a < b ↔ a.toNat < b.toNat := Iff.rfl

theorem u64_eq_iff (a b : UInt64) : a = b ↔ a.toNat = b.toNat :=
  ⟨congrArg UInt64.toNat, UInt64.toNat.inj⟩

@[simp] theorem u64_toNat_one : (1 : UInt64).toNat = 1 := rfl

@[simp] theorem u64_toNat_two : (2 : UInt64).toNat = 2 := rfl

/-- Adding one below the largest value does not wrap. -/
theorem u64_toNat_add_one {a : UInt64} (h : a.toNat + 1 < 2 ^ 64) :
    (a + 1).toNat = a.toNat + 1 := by
  rw [u64_toNat_add, u64_toNat_one, Nat.mod_eq_of_lt h]

theorem u64_toNat_ofNat (n : Nat) : (UInt64.ofNat n).toNat = n % 2 ^ 64 :=
  BitVec.toNat_ofNat _ _

theorem u64_ofNat_toNat (a : UInt64) : UInt64.ofNat a.toNat = a := by
  rw [u64_eq_iff, u64_toNat_ofNat, Nat.mod_eq_of_lt (show a.toNat < 2 ^ 64 from a.toNat_lt_size)]

theorem u64_add_ofNat_zero (a : UInt64) : a + UInt64.ofNat 0 = a := by
  rw [u64_eq_iff, u64_toNat_add, u64_toNat_ofNat]
  have : a.toNat < 2 ^ 64 := a.toNat_lt_size
  omega

theorem u64_add_ofNat_succ (a : UInt64) (n : Nat) :
    a + UInt64.ofNat (n + 1) = a + UInt64.ofNat n + 1 := by
  rw [u64_eq_iff]
  simp only [u64_toNat_add, u64_toNat_ofNat, u64_toNat_one]
  omega

theorem u64_add_one_add_ofNat (a : UInt64) (n : Nat) :
    a + 1 + UInt64.ofNat n = a + UInt64.ofNat (n + 1) := by
  rw [u64_eq_iff]
  simp only [u64_toNat_add, u64_toNat_ofNat, u64_toNat_one]
  omega

/-- Adding below the largest value does not wrap. -/
theorem u64_toNat_add_ofNat {a : UInt64} {n : Nat} (h : a.toNat + n < 2 ^ 64) :
    (a + UInt64.ofNat n).toNat = a.toNat + n := by
  rw [u64_toNat_add, u64_toNat_ofNat]
  omega

/-- Below {lit}`2^64` iterations, two offsets from the same value differ. -/
theorem u64_add_ofNat_inj {a : UInt64} {m n : Nat} (hm : m < 2 ^ 64) (hn : n < 2 ^ 64)
    (h : a + UInt64.ofNat m = a + UInt64.ofNat n) : m = n := by
  rw [u64_eq_iff, u64_toNat_add, u64_toNat_add, u64_toNat_ofNat, u64_toNat_ofNat] at h
  have : a.toNat < 2 ^ 64 := a.toNat_lt_size
  omega

theorem u64_add_sub_cancel (a b : UInt64) : a + (b - a) = b := by
  rw [u64_eq_iff, u64_toNat_add, u64_toNat_sub]
  have : a.toNat < 2 ^ 64 := a.toNat_lt_size
  have : b.toNat < 2 ^ 64 := b.toNat_lt_size
  omega

/-- A loop {lit}`slot <= last; slot++` at a slot it runs either moves on
without wrapping, or runs against the largest value and never ends. -/
theorem u64_succ_or_top {slot last : UInt64} (h : slot ≤ last) :
    (∀ k : UInt64, k ≤ last) ∨ (slot + 1).toNat = slot.toNat + 1 := by
  by_cases hs : slot.toNat + 1 < 2 ^ 64
  · exact .inr (u64_toNat_add_one hs)
  · refine .inl fun k => ?_
    have : k.toNat < 2 ^ 64 := k.toNat_lt_size
    rw [u64_le_iff] at h ⊢
    omega

/-- Below {lit}`2^63` the signed order of {lit}`int64` is the order of the
values. -/
theorem u64_slt_toBitVec {a b : UInt64} (ha : a.toNat < 2 ^ 63) (hb : b.toNat < 2 ^ 63) :
    BitVec.slt a.toBitVec b.toBitVec = decide (a.toNat < b.toNat) := by
  have ha' : a.toBitVec.toNat < 2 ^ 63 := ha
  have hb' : b.toBitVec.toNat < 2 ^ 63 := hb
  simp only [BitVec.slt, BitVec.toInt_eq_toNat_cond, if_pos (show 2 * a.toBitVec.toNat < 2 ^ 64 by omega),
    if_pos (show 2 * b.toBitVec.toNat < 2 ^ 64 by omega), decide_eq_decide, Int.ofNat_lt]
  exact Iff.rfl

/-! ## Chain data -/

/-- Byte strings of the chain: block roots, parent roots and the target root. -/
abbrev Root := List UInt8

/-- The two fields of a block header's message that the synchronizer reads. -/
structure BlockHeader where
  slot : UInt64
  parentRoot : Root
  deriving DecidableEq, Repr

/-- {lit}`headerRsp.Data`: the block root and the header of a proposed block. -/
structure HeaderResponse where
  root : Root
  header : BlockHeader
  deriving DecidableEq, Repr

/-- {lit}`blockRsp.Data`, the signed block, kept as its encoding. -/
structure BlockBody where
  encoded : List UInt8
  deriving DecidableEq, Repr

/-- {lit}`CacheBlock`: one entry of the synchronizer's block cache. -/
structure CacheBlock where
  root : Root
  slot : UInt64
  header : BlockHeader
  block : BlockBody
  deriving DecidableEq, Repr

/-- {lit}`cachedBlocks : map[uint64]*CacheBlock`; a missing key is {lean}`none`. -/
abbrev BlockCache := UInt64 → Option CacheBlock

/-- The cache entry built from a header response and its body (lines 176-181). -/
def CacheBlock.ofResponse (slot : UInt64) (h : HeaderResponse) (b : BlockBody) :
    CacheBlock :=
  { root := h.root, slot := slot, header := h.header, block := b }

/-- {lit}`rpctypes.EpochAssignments`, the duties of an epoch. -/
structure EpochAssignments where
  dependendRoot : Root
  dependendStateRef : String
  proposerAssignments : List (UInt64 × UInt64)
  attestorAssignments : List (String × List UInt64)
  syncAssignments : List UInt64
  deriving DecidableEq, Repr

/-- The validator set loaded by {lit}`loadValidatorStats`. -/
structure ValidatorStats where
  balances : List UInt64
  deriving DecidableEq, Repr

/-- {lit}`EpochStats` as {lit}`syncEpoch` builds it (lines 190-197). -/
structure EpochStats where
  epoch : UInt64
  dependentRoot : Root
  proposerAssignments : List (UInt64 × UInt64)
  attestorAssignments : List (String × List UInt64)
  syncAssignments : List UInt64
  validatorStats : ValidatorStats
  deriving DecidableEq, Repr

/-- The epoch statistics of {lit}`syncEpoch`: the duties copied from the
assignments and the validator set loaded for their dependent state. -/
def EpochStats.ofAssignments (epoch : UInt64) (a : EpochAssignments)
    (v : ValidatorStats) : EpochStats :=
  { epoch := epoch
    dependentRoot := a.dependendRoot
    proposerAssignments := a.proposerAssignments
    attestorAssignments := a.attestorAssignments
    syncAssignments := a.syncAssignments
    validatorStats := v }

/-- The aggregate returned by {lit}`aggregateEpochVotes`. -/
structure EpochVotes where
  headVotes : Nat
  targetVotes : Nat
  participation : Nat
  deriving DecidableEq, Repr

/-! ## Storage writes and errors -/

/-- One write of a storage transaction. -/
inductive Write where
  /-- {lit}`persistEpochData(epoch, cachedBlocks, epochStats, epochVotes, tx)`. -/
  | epochData (epoch : UInt64) (blocks : BlockCache) (stats : EpochStats) (votes : EpochVotes)
  /-- {lit}`db.SetExplorerState(key, {Epoch: epoch}, tx)`. -/
  | explorerState (key : String) (epoch : UInt64)

/-- The key under which the synchronizer records its progress. -/
def syncStateKey : String := "indexer.syncstate"

/-- The transaction {lit}`syncEpoch` commits for an epoch. -/
def epochTx (epoch : UInt64) (blocks : BlockCache) (stats : EpochStats)
    (votes : EpochVotes) : List Write :=
  [.epochData epoch blocks stats votes, .explorerState syncStateKey epoch]

/-- The epoch a write persists the data of. -/
def Write.epochOf : Write → Option UInt64
  | .epochData e .. => some e
  | .explorerState .. => none

/-- The errors {lit}`syncEpoch` returns, one constructor per return site. -/
inductive SyncError where
  /-- The error of {lit}`GetEpochAssignments`, returned as it is. -/
  | rpc (err : String)
  /-- {lit}`error fetching slot %v header: %v`. -/
  | header (slot : UInt64) (err : String)
  /-- {lit}`error fetching slot %v block: %v`. -/
  | block (slot : UInt64) (err : String)
  /-- {lit}`error fetching validator stats for epoch %v: %v`. -/
  | validatorStats (epoch : UInt64)
  /-- {lit}`error starting db transactions: %v`. -/
  | beginTx (err : String)
  /-- {lit}`error persisting epoch data to db: %v`. -/
  | persist (err : String)
  /-- {lit}`error while updating sync state: %v`. -/
  | syncState (err : String)
  /-- {lit}`error committing db transaction: %v`. -/
  | commit (err : String)
  deriving DecidableEq, Repr

/-! ## Configuration and slot windows -/

/-- The configuration the synchronizer reads, and the vote aggregator it calls.
The chain configuration has at least one slot per epoch. -/
structure Config where
  /-- {lit}`utils.Config.Chain.Config.SlotsPerEpoch`. -/
  slotsPerEpoch : UInt64
  slotsPerEpoch_pos : 0 < slotsPerEpoch
  /-- The cooldown {lit}`time.Duration(SyncEpochCooldown) * time.Second`, an
  {lit}`int64` count of nanoseconds. -/
  syncEpochCooldown : BitVec 64
  /-- {lit}`aggregateEpochVotes(cachedBlocks, epoch, epochStats, targetRoot, false)`. -/
  aggregateEpochVotes : BlockCache → UInt64 → EpochStats → Root → EpochVotes

namespace Config

variable (cfg : Config)

/-- {lit}`firstSlot := syncEpoch * SlotsPerEpoch`. -/
def firstSlot (epoch : UInt64) : UInt64 := epoch * cfg.slotsPerEpoch

/-- The last slot of the header loop: the epoch and the next one (line 157). -/
def fetchLastSlot (epoch : UInt64) : UInt64 :=
  cfg.firstSlot epoch + cfg.slotsPerEpoch * 2 - 1

/-- The last slot of the target search and of the eviction (line 208). -/
def epochLastSlot (epoch : UInt64) : UInt64 :=
  cfg.firstSlot epoch + cfg.slotsPerEpoch - 1

/-- {lit}`checkKillChan(timeout)` blocks only for a positive timeout. -/
def cooldownBlocks : Bool := BitVec.slt 0 cfg.syncEpochCooldown

/-- The slots of an epoch lie below the largest slot. -/
def EpochFits (epoch : UInt64) : Prop :=
  (epoch.toNat + 1) * cfg.slotsPerEpoch.toNat < 2 ^ 64

instance (epoch : UInt64) : Decidable (cfg.EpochFits epoch) :=
  inferInstanceAs (Decidable (_ < _))

/-- The two-epoch window of an epoch lies below the largest slot. -/
def WindowFits (epoch : UInt64) : Prop :=
  (epoch.toNat + 2) * cfg.slotsPerEpoch.toNat < 2 ^ 64

instance (epoch : UInt64) : Decidable (cfg.WindowFits epoch) :=
  inferInstanceAs (Decidable (_ < _))

/-- The header loop of the epoch never ends: its last slot is the largest, so
the increment of line 158 wraps to slot {lit}`0` and the loop goes on. -/
def EndlessFetch (epoch : UInt64) : Prop :=
  ∀ k, k ≤ cfg.fetchLastSlot epoch

/-- The eviction loop of lines 250-254 never ends. -/
def EndlessEvict (epoch : UInt64) : Prop :=
  ∀ k, k ≤ cfg.epochLastSlot epoch

theorem slotsPerEpoch_toNat_pos : 0 < cfg.slotsPerEpoch.toNat := cfg.slotsPerEpoch_pos

variable {cfg}

/-- The epoch, as natural numbers, stays below {lit}`2^64`. -/
theorem EpochFits.lt {epoch : UInt64} (h : cfg.EpochFits epoch) :
    epoch.toNat * cfg.slotsPerEpoch.toNat + cfg.slotsPerEpoch.toNat < 2 ^ 64 := by
  unfold EpochFits at h
  rw [Nat.add_mul, Nat.one_mul] at h
  exact h

/-- The two-epoch window, as natural numbers, stays below {lit}`2^64`. -/
theorem WindowFits.lt {epoch : UInt64} (h : cfg.WindowFits epoch) :
    epoch.toNat * cfg.slotsPerEpoch.toNat + 2 * cfg.slotsPerEpoch.toNat < 2 ^ 64 := by
  unfold WindowFits at h
  rw [Nat.add_mul] at h
  omega

theorem WindowFits.epochFits {epoch : UInt64} (h : cfg.WindowFits epoch) :
    cfg.EpochFits epoch := by
  have := h.lt
  unfold EpochFits
  rw [Nat.add_mul, Nat.one_mul]
  omega

theorem firstSlot_toNat {epoch : UInt64} (h : cfg.EpochFits epoch) :
    (cfg.firstSlot epoch).toNat = epoch.toNat * cfg.slotsPerEpoch.toNat := by
  have hlt := h.lt
  rw [firstSlot, u64_toNat_mul, Nat.mod_eq_of_lt (by omega)]

theorem fetchLastSlot_toNat {epoch : UInt64} (h : cfg.WindowFits epoch) :
    (cfg.fetchLastSlot epoch).toNat =
      epoch.toNat * cfg.slotsPerEpoch.toNat + 2 * cfg.slotsPerEpoch.toNat - 1 := by
  have hS := cfg.slotsPerEpoch_toNat_pos
  have hlt := h.lt
  rw [fetchLastSlot, u64_toNat_sub, u64_toNat_add, firstSlot_toNat h.epochFits, u64_toNat_mul,
    u64_toNat_two, u64_toNat_one]
  omega

theorem epochLastSlot_toNat {epoch : UInt64} (h : cfg.EpochFits epoch) :
    (cfg.epochLastSlot epoch).toNat =
      epoch.toNat * cfg.slotsPerEpoch.toNat + cfg.slotsPerEpoch.toNat - 1 := by
  have hS := cfg.slotsPerEpoch_toNat_pos
  have hlt := h.lt
  rw [epochLastSlot, u64_toNat_sub, u64_toNat_add, firstSlot_toNat h, u64_toNat_one]
  omega

/-- A window below the largest slot has a header loop that ends. -/
theorem WindowFits.not_endlessFetch {epoch : UInt64} (h : cfg.WindowFits epoch) :
    ¬cfg.EndlessFetch epoch := fun hend => by
  have hmax := hend 18446744073709551615
  have hlt := h.lt
  rw [u64_le_iff, fetchLastSlot_toNat h] at hmax
  have : (18446744073709551615 : UInt64).toNat = 18446744073709551615 := rfl
  omega

/-- Up to the epoch's last slot, the next slot does not wrap. -/
theorem EpochFits.succ_toNat {epoch slot : UInt64} (h : cfg.EpochFits epoch)
    (hs : slot ≤ cfg.epochLastSlot epoch) : (slot + 1).toNat = slot.toNat + 1 := by
  have := epochLastSlot_toNat h
  have hlt := h.lt
  rw [u64_le_iff] at hs
  exact u64_toNat_add_one (by omega)

/-- Below the window's last slot, the next slot does not wrap. -/
theorem WindowFits.succ_toNat {epoch slot : UInt64} (h : cfg.WindowFits epoch)
    (hs : slot ≤ cfg.fetchLastSlot epoch) : (slot + 1).toNat = slot.toNat + 1 := by
  have := fetchLastSlot_toNat h
  have hlt := h.lt
  rw [u64_le_iff] at hs
  exact u64_toNat_add_one (by omega)

/-- The next epoch does not wrap. -/
theorem WindowFits.epoch_succ_toNat {epoch : UInt64} (h : cfg.WindowFits epoch) :
    (epoch + 1).toNat = epoch.toNat + 1 := by
  have hS := cfg.slotsPerEpoch_toNat_pos
  have hle := Nat.le_mul_of_pos_right epoch.toNat hS
  have hlt := h.lt
  exact u64_toNat_add_one (by omega)

end Config

end BeaconSync
