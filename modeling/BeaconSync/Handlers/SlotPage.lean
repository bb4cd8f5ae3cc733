import BeaconSync.Handlers.SlotRoute

/-!
# Slot page - The lookups and the page data

After the route of {lit}`BeaconSync.Handlers.SlotRoute`, the handler
{lit}`Slot` reads the finalized head, looks the block up by slot or by root,
falls back to an orphaned block (for a slot, by the root of the block storage
keeps for it, and not at all when that root is nil), and renders one of three templates: the error page with the first error, the
not-found page, or the slot page.  The slot page shows the block it found, as
Found or Orphaned, or a Missed slot with the proposer the epoch's duties name.
{lit}`getSlotPageBlockData` builds the block part: the operations of the body
with the names of their validators, and the sections of the forks the block's
epoch has reached.

The chain-node and storage calls of {lit}`services.GlobalBeaconService` are
outside this repository; {lean}`Handlers.SlotServices` gives their answers,
each call returning what the Go call returns.

Main results:

- Theorem {lit}`Handlers.slotPage_title`: every page is titled by the path
  variable with its {lit}`0x` removed.
- Theorem {lit}`Handlers.slotPage_missed`: a Missed slot is shown only for a
  slot the route read, when neither lookup found a block and no call failed.
- Theorem {lit}`Handlers.slotPage_block`: every other slot page shows the
  block a lookup returned, with its slot, proposer and status.
- Theorem {lit}`Handlers.slotPage_error`: the error page shows the error of
  the finalized head or of the block lookup.
- Theorems {lit}`Handlers.getSlotPageBlockData_forks`,
  {lit}`Handlers.getSlotPageBlockData_blobs` and
  {lit}`Handlers.getSlotPageBlockData_slashed`: the fork sections appear in
  fork order, every blob preview is its first 512 bytes, and the validators
  shown as slashed are those both attestations name.
-/

namespace BeaconSync
namespace Handlers

/-! ## The block the page reads -/

/-- The two fields of {lit}`attestation.Data` the page computes from. -/
structure Attestation where
  slot : UInt64
  index : UInt64
  deriving DecidableEq, Repr

/-- The attesting indices of the two attestations of an attester slashing. -/
structure AttesterSlashing where
  attestingIndices1 : List UInt64
  attestingIndices2 : List UInt64
  deriving DecidableEq, Repr

/-- {lit}`SignedHeader1.Message.ProposerIndex` of a proposer slashing. -/
structure ProposerSlashing where
  proposerIndex : UInt64
  deriving DecidableEq, Repr

/-- {lit}`exit.Message` of a voluntary exit. -/
structure VoluntaryExit where
  validatorIndex : UInt64
  epoch : UInt64
  deriving DecidableEq, Repr

/-- A withdrawal of the execution payload. -/
structure Withdrawal where
  index : UInt64
  validatorIndex : UInt64
  amount : UInt64
  deriving DecidableEq, Repr

/-- A blob sidecar: its index and its data. -/
structure Blob where
  index : UInt64
  blob : List UInt8
  deriving DecidableEq, Repr

/-- {lit}`rpctypes.CombinedBlockResponse`: the fields the handler and
{lit}`getSlotPageBlockData` read. -/
structure SlotBlock where
  /-- {lit}`Header.Data.Header.Message.Slot`. -/
  slot : UInt64
  /-- {lit}`Block.Data.Message.ProposerIndex`. -/
  proposerIndex : UInt64
  orphaned : Bool
  attestations : List Attestation
  /-- The amounts of the deposits. -/
  deposits : List UInt64
  voluntaryExits : List VoluntaryExit
  attesterSlashings : List AttesterSlashing
  proposerSlashings : List ProposerSlashing
  /-- {lit}`SyncAggregate.SyncCommitteeBits`. -/
  syncCommitteeBits : List UInt8
  /-- The encoded transactions of the execution payload. -/
  transactions : List (List UInt8)
  withdrawals : List Withdrawal
  /-- The validator indices of {lit}`SignedBLSToExecutionChange`. -/
  blsChanges : List UInt64
  /-- {lit}`Blobs.Data`, with {lean}`none` for a nil {lit}`Blobs`. -/
  blobs : Option (List Blob)
  deriving DecidableEq, Repr

/-- The fork epochs of {lit}`utils.Config.Chain.Config` that gate the sections
of the block page. -/
structure ForkEpochs where
  altair : UInt64
  bellatrix : UInt64
  capella : UInt64
  deneb : UInt64
  deriving DecidableEq, Repr

/-- The answers of the calls of {lit}`services.GlobalBeaconService`.  A lookup
answers a block and an error as the Go call does, and either may be nil. -/
structure SlotServices where
  /-- {lit}`GetFinalizedBlockHead()`: the slot of the finalized head, or the
  error. -/
  finalizedBlockHead : Except String UInt64
  /-- {lit}`GetSlotDetailsBySlot(slot, true)`. -/
  slotDetailsBySlot : UInt64 → Option SlotBlock × Option String
  /-- {lit}`GetSlotDetailsByBlockroot(root, true)`. -/
  slotDetailsByBlockroot : Root → Option SlotBlock × Option String
  /-- The {lit}`Root` fields of the blocks {lit}`GetDbBlocksForSlots(slot, 1, true)`
  returns, {lean}`none` for a nil one. -/
  dbBlocksForSlots : UInt64 → List (Option Root)
  /-- {lit}`GetOrphanedBlock(root)`. -/
  orphanedBlock : Root → Option SlotBlock
  /-- {lit}`GetEpochAssignments(epoch)`, {lean}`none` when it is nil. -/
  epochAssignments : UInt64 → Option EpochAssignments
  /-- {lit}`GetValidatorName(index)`. -/
  validatorName : UInt64 → String

/-! ## The page data -/

/-- {lit}`models.SlotPageValidator`. -/
structure SlotPageValidator where
  index : UInt64
  name : String
  deriving DecidableEq, Repr

structure SlotPageAttestation where
  slot : UInt64
  committeeIndex : UInt64
  validators : List SlotPageValidator
  deriving DecidableEq, Repr

structure SlotPageVoluntaryExit where
  validatorIndex : UInt64
  validatorName : String
  epoch : UInt64
  deriving DecidableEq, Repr

structure SlotPageAttesterSlashing where
  attestation1Indices : List UInt64
  attestation2Indices : List UInt64
  slashedValidators : List SlotPageValidator
  deriving DecidableEq, Repr

/-- The sync aggregate section: {lit}`SyncAggregateBits` and
{lit}`SyncAggCommittee`. -/
structure SlotPageSyncAggregate where
  bits : List UInt8
  committee : List UInt64
  deriving DecidableEq, Repr

/-- {lit}`models.SlotPageExecutionData`: its {lit}`TransactionsCount`. -/
structure SlotPageExecutionData where
  transactionsCount : UInt64
  deriving DecidableEq, Repr

structure SlotPageWithdrawal where
  index : UInt64
  validator : SlotPageValidator
  amount : UInt64
  deriving DecidableEq, Repr

structure SlotPageBlob where
  index : UInt64
  blob : List UInt8
  blobShort : List UInt8
  isShort : Bool
  deriving DecidableEq, Repr

/-- {lit}`models.SlotPageBlockData`; a section of a fork the block's epoch has
not reached is {lean}`none`. -/
structure SlotPageBlockData where
  attestationsCount : UInt64
  depositsCount : UInt64
  voluntaryExitsCount : UInt64
  proposerSlashingsCount : UInt64
  attesterSlashingsCount : UInt64
  slashingsCount : UInt64
  attestations : List SlotPageAttestation
  deposits : List UInt64
  voluntaryExits : List SlotPageVoluntaryExit
  attesterSlashings : List SlotPageAttesterSlashing
  proposerSlashings : List SlotPageValidator
  syncAggregate : Option SlotPageSyncAggregate
  executionData : Option SlotPageExecutionData
  blsChanges : Option (List SlotPageValidator)
  withdrawals : Option (List SlotPageWithdrawal)
  blobs : Option (List SlotPageBlob)
  deriving DecidableEq, Repr

/-- {lit}`models.SlotStatus`. -/
inductive SlotStatus where
  | missed
  | found
  | orphaned
  deriving DecidableEq, Repr

/-- {lit}`models.SlotPageData`. -/
structure SlotPageData where
  slot : UInt64
  epoch : UInt64
  epochFinalized : Bool
  nextSlot : UInt64
  previousSlot : UInt64
  status : SlotStatus
  proposer : UInt64
  proposerName : String
  block : Option SlotPageBlockData
  deriving DecidableEq, Repr

/-- The page the handler renders, with its title. -/
inductive SlotPage where
  /-- {lit}`slot/notfound.html`, with {lit}`data.Data`. -/
  | notFound (title : String) (data : Option String)
  /-- {lit}`slot/error.html`, with the error's text. -/
  | error (title : String) (message : String)
  /-- {lit}`slot/slot.html` and its parts. -/
  | page (title : String) (data : SlotPageData)
  deriving DecidableEq, Repr

/-- The title every template gets. -/
def SlotPage.title : SlotPage → String
  | .notFound t _ | .error t _ | .page t _ => t

/-! ## getSlotPageBlockData -/

section BlockData

variable (cfg : Config) (forks : ForkEpochs) (svc : SlotServices)

/-- {lit}`intersect.Simple(a, b)` of {lit}`go-intersect`: the elements of the
first slice that the second holds, in the first slice's order. -/
def intersectSimple (a b : List UInt64) : List UInt64 :=
  a.filter (b.contains ·)

/-- A validator with the name {lit}`GetValidatorName` gives it. -/
def SlotServices.validator (index : UInt64) : SlotPageValidator :=
  ⟨index, svc.validatorName index⟩

/-- The duties of an attestation's committee, looked up under
{lit}`fmt.Sprintf("%v-%v", slot, index)`; none without duties. -/
def attAssignments (assignments : Option EpochAssignments) (att : Attestation) : List UInt64 :=
  match assignments with
  | some a =>
    (a.attestorAssignments.lookup (toString att.slot ++ "-" ++ toString att.index)).getD []
  | none => []

/-- A blob with its preview: the first 512 bytes of a longer blob, flagged
short. -/
def slotPageBlob (blob : Blob) : SlotPageBlob :=
  if 512 < blob.blob.length then ⟨blob.index, blob.blob, blob.blob.take 512, true⟩
  else ⟨blob.index, blob.blob, blob.blob, false⟩

/-- {lit}`getSlotPageBlockData(blockData, assignments)`.  Each loop of
{lit}`i < count` with {lit}`count = uint64(len(list))` visits the list in
order, once per element. -/
def getSlotPageBlockData (b : SlotBlock) (assignments : Option EpochAssignments) :
    SlotPageBlockData :=
  let epoch := b.slot / cfg.slotsPerEpoch
  { attestationsCount := UInt64.ofNat b.attestations.length
    depositsCount := UInt64.ofNat b.deposits.length
    voluntaryExitsCount := UInt64.ofNat b.voluntaryExits.length
    proposerSlashingsCount := UInt64.ofNat b.proposerSlashings.length
    attesterSlashingsCount := UInt64.ofNat b.attesterSlashings.length
    slashingsCount :=
      UInt64.ofNat b.proposerSlashings.length + UInt64.ofNat b.attesterSlashings.length
    attestations := b.attestations.map fun att =>
      ⟨att.slot, att.index, (attAssignments assignments att).map svc.validator⟩
    deposits := b.deposits
    voluntaryExits := b.voluntaryExits.map fun e =>
      ⟨e.validatorIndex, svc.validatorName e.validatorIndex, e.epoch⟩
    attesterSlashings := b.attesterSlashings.map fun s =>
      ⟨s.attestingIndices1, s.attestingIndices2,
        (intersectSimple s.attestingIndices1 s.attestingIndices2).map svc.validator⟩
    proposerSlashings := b.proposerSlashings.map fun s => svc.validator s.proposerIndex
    syncAggregate :=
      if forks.altair ≤ epoch then
        some ⟨b.syncCommitteeBits, match assignments with
          | some a => a.syncAssignments
          | none => []⟩
      else none
    executionData :=
      if forks.bellatrix ≤ epoch then some ⟨UInt64.ofNat b.transactions.length⟩ else none
    blsChanges := if forks.capella ≤ epoch then some (b.blsChanges.map svc.validator) else none
    withdrawals :=
      if forks.capella ≤ epoch then
        some (b.withdrawals.map fun w => ⟨w.index, svc.validator w.validatorIndex, w.amount⟩)
      else none
    blobs := if forks.deneb ≤ epoch then b.blobs.map (·.map slotPageBlob) else none }

/-- Every count is the length of its list, and the slashings count adds the
two kinds, in {lit}`uint64`. -/
theorem getSlotPageBlockData_counts (b : SlotBlock) (assignments : Option EpochAssignments) :
    let d := getSlotPageBlockData cfg forks svc b assignments
    d.attestationsCount = UInt64.ofNat d.attestations.length ∧
      d.depositsCount = UInt64.ofNat d.deposits.length ∧
      d.voluntaryExitsCount = UInt64.ofNat d.voluntaryExits.length ∧
      d.proposerSlashingsCount = UInt64.ofNat d.proposerSlashings.length ∧
      d.attesterSlashingsCount = UInt64.ofNat d.attesterSlashings.length ∧
      d.slashingsCount = d.proposerSlashingsCount + d.attesterSlashingsCount := by
  simp [getSlotPageBlockData]

/-- With the forks in their order, a section of a later fork appears only with
every section of the earlier ones. -/
theorem getSlotPageBlockData_forks (b : SlotBlock) (assignments : Option EpochAssignments)
    (h₁ : forks.altair ≤ forks.bellatrix) (h₂ : forks.bellatrix ≤ forks.capella)
    (h₃ : forks.capella ≤ forks.deneb) :
    let d := getSlotPageBlockData cfg forks svc b assignments
    (d.blobs.isSome → d.withdrawals.isSome) ∧
      (d.withdrawals.isSome ↔ d.blsChanges.isSome) ∧
      (d.blsChanges.isSome → d.executionData.isSome) ∧
      (d.executionData.isSome → d.syncAggregate.isSome) := by
  rw [u64_le_iff] at h₁ h₂ h₃
  simp only [getSlotPageBlockData, u64_le_iff]
  refine ⟨fun h => ?_, by split <;> simp, fun h => ?_, fun h => ?_⟩ <;>
    · split at h <;> simp at h
      rw [if_pos (by omega)]
      rfl

/-- A chain of one slot an epoch. -/
def sampleConfig : Config where
  slotsPerEpoch := 1
  slotsPerEpoch_pos := by decide
  syncEpochCooldown := 0
  aggregateEpochVotes := fun _ _ _ _ => ⟨0, 0, 0⟩

/-- Every fork at the first epoch. -/
def genesisForks : ForkEpochs := ⟨0, 0, 0, 0⟩

/-- A block with no operations. -/
def emptyBlock (slot : UInt64) : SlotBlock :=
  { slot := slot, proposerIndex := 7, orphaned := false, attestations := [], deposits := [],
    voluntaryExits := [], attesterSlashings := [], proposerSlashings := [], syncCommitteeBits := [],
    transactions := [], withdrawals := [], blsChanges := [], blobs := none }

/-- Services that know one block, at slot {lit}`5`, and no duties. -/
def oneBlockServices : SlotServices where
  finalizedBlockHead := .ok 0
  slotDetailsBySlot slot := if slot = 5 then (some (emptyBlock 5), none) else (none, none)
  slotDetailsByBlockroot _ := (none, none)
  dbBlocksForSlots _ := []
  orphanedBlock _ := none
  epochAssignments _ := none
  validatorName _ := ""

/-- {lean}`emptyBlock` with one attester slashing and one short blob. -/
def slashingBlock : SlotBlock :=
  { emptyBlock 5 with attesterSlashings := [⟨[1, 2, 3], [3, 2, 4]⟩], blobs := some [⟨0, [1, 2]⟩] }

/-- Every blob preview is the blob's first 512 bytes, flagged short exactly
when the blob is longer. -/
theorem getSlotPageBlockData_blobs (b : SlotBlock) (assignments : Option EpochAssignments) :
    ∀ bs ∈ (getSlotPageBlockData cfg forks svc b assignments).blobs, ∀ p ∈ bs,
      p.blobShort = p.blob.take 512 ∧ (p.isShort ↔ 512 < p.blob.length) := by
  intro bs hbs p hp
  simp only [getSlotPageBlockData] at hbs
  split at hbs
  · obtain ⟨bl, -, rfl⟩ := Option.map_eq_some'.mp hbs
    obtain ⟨blob, -, rfl⟩ := List.mem_map.mp hp
    unfold slotPageBlob
    split
    · simp [*]
    · simp [List.take_of_length_le (Nat.le_of_not_lt ‹_›), *]
  · cases hbs

example : (getSlotPageBlockData sampleConfig genesisForks oneBlockServices slashingBlock none).blobs =
    some [⟨0, [1, 2], [1, 2], false⟩] := by decide

/-- The validators an attester slashing shows as slashed are the indices both
attestations name, in the first one's order, each with its name. -/
theorem getSlotPageBlockData_slashed (b : SlotBlock) (assignments : Option EpochAssignments) :
    ∀ s ∈ (getSlotPageBlockData cfg forks svc b assignments).attesterSlashings,
      s.slashedValidators.map (·.index) =
          s.attestation1Indices.filter (· ∈ s.attestation2Indices) ∧
        ∀ v ∈ s.slashedValidators, v.name = svc.validatorName v.index := by
  intro s hs
  simp only [getSlotPageBlockData, List.mem_map] at hs
  obtain ⟨sl, -, rfl⟩ := hs
  refine ⟨by simp [intersectSimple, SlotServices.validator, List.map_map, Function.comp_def], ?_⟩
  simp only [List.mem_map]
  rintro _ ⟨x, -, rfl⟩
  rfl

example : (getSlotPageBlockData sampleConfig genesisForks oneBlockServices slashingBlock
    none).attesterSlashings.map (·.slashedValidators.map (·.index)) = [[2, 3]] := by decide

end BlockData

/-! ## The handler -/

section Handler

variable (cfg : Config) (forks : ForkEpochs) (svc : SlotServices)

/-- {lit}`uint64(blockSlot)` for a slot the route read. -/
def SlotLookup.slot (l : SlotLookup) : UInt64 := UInt64.ofNat l.blockSlot.toNat

/-- Lines 61-65: the lookup by slot when {lit}`blockSlot > -1`, by root
otherwise. -/
def lookupBlock (l : SlotLookup) : Option SlotBlock × Option String :=
  if -1 < l.blockSlot then svc.slotDetailsBySlot l.slot
  else svc.slotDetailsByBlockroot l.blockRootHash

/-- Lines 69-75: {lit}`blockRootHash` after the check for an orphaned block.
For a slot it is the root of the first block storage keeps for the slot, which
may be nil, when there is one; otherwise it is what the route set, the decoded
root or the empty {lit}`[]byte{}`, neither of them nil. -/
def orphanRoot (l : SlotLookup) : Option Root :=
  if -1 < l.blockSlot then
    match svc.dbBlocksForSlots l.slot with
    | r :: _ => r
    | [] => some l.blockRootHash
  else some l.blockRootHash

/-- Lines 76-78: {lit}`GetOrphanedBlock(blockRootHash)`, called only when
{lit}`blockRootHash != nil`. -/
def orphanBlock (l : SlotLookup) : Option SlotBlock :=
  (orphanRoot svc l).bind svc.orphanedBlock

/-- Lines 123-129: the proposer of a Missed slot, from the epoch's duties
when there are any; without them the fields keep their zero values. -/
def missedProposer (slot : UInt64) : Option EpochAssignments → UInt64 × String
  | some a =>
    let proposer := (a.proposerAssignments.lookup slot).getD 0
    (proposer, svc.validatorName proposer)
  | none => (0, "")

/-- Lines 105-139: the page data of a slot, with the block found for it or
{lean}`none` for a Missed slot. -/
def slotPageData (fin slot : UInt64) (blockData : Option SlotBlock) : SlotPageData :=
  let epoch := slot / cfg.slotsPerEpoch
  let assignments := svc.epochAssignments epoch
  let proposer := match blockData with
    | none => missedProposer svc slot assignments
    | some b => (b.proposerIndex, svc.validatorName b.proposerIndex)
  { slot := slot, epoch := epoch, epochFinalized := decide (slot ≤ fin), nextSlot := slot + 1,
    previousSlot := slot - 1,
    status := match blockData with
      | none => .missed
      | some b => if b.orphaned then .orphaned else .found
    proposer := proposer.1, proposerName := proposer.2,
    block := blockData.map fun b => getSlotPageBlockData cfg forks svc b assignments }

/-- The handler {lit}`Slot` on the path variable {lit}`slotOrHash`. -/
def slotPage (slotOrHash : List Char) : SlotPage :=
  let title := "Slot " ++ String.mk (stringsReplace0x slotOrHash)
  match slotLookup slotOrHash with
  | none => .notFound title none
  | some l =>
    match svc.finalizedBlockHead with
    | .error err => .error title err
    | .ok fin =>
      match lookupBlock svc l with
      | (_, some err) => .error title err
      | (blockData, none) =>
        match blockData.or (orphanBlock svc l) with
        | some b => .page title (slotPageData cfg forks svc fin b.slot (some b))
        | none =>
          if -1 < l.blockSlot then .page title (slotPageData cfg forks svc fin l.slot none)
          else .notFound title (some "slot")

/-- Every page is titled by the path variable with every {lit}`0x` removed. -/
theorem slotPage_title (slotOrHash : List Char) :
    (slotPage cfg forks svc slotOrHash).title =
      "Slot " ++ String.mk (stringsReplace0x slotOrHash) := by
  unfold slotPage
  repeat' split
  all_goals rfl

/-- A slot page comes from a slot the route read and a finalized head, with no
error from the lookup: it shows the block found, or a Missed slot when there is
none and the lookup was by slot. -/
theorem slotPage_eq_page {slotOrHash : List Char} {t : String} {d : SlotPageData}
    (h : slotPage cfg forks svc slotOrHash = .page t d) :
    ∃ l fin, slotLookup slotOrHash = some l ∧ svc.finalizedBlockHead = .ok fin ∧
      (lookupBlock svc l).2 = none ∧
      ((∃ b, (lookupBlock svc l).1.or (orphanBlock svc l) = some b ∧
          d = slotPageData cfg forks svc fin b.slot (some b)) ∨
        ((lookupBlock svc l).1.or (orphanBlock svc l) = none ∧
          -1 < l.blockSlot ∧ d = slotPageData cfg forks svc fin l.slot none)) := by
  unfold slotPage at h
  split at h
  · cases h
  rename_i l hl
  split at h
  · cases h
  rename_i fin hfin
  split at h
  · cases h
  rename_i blockData hb
  refine ⟨l, fin, hl, hfin, by rw [hb], ?_⟩
  rw [hb]
  split at h
  · cases h
    exact .inl ⟨_, ‹_›, rfl⟩
  · split at h
    · cases h
      exact .inr ⟨‹_›, ‹_›, rfl⟩
    · cases h

/-- The error page shows the error of the finalized head, or, with the head
read, the error of the block lookup, also when the lookup returned a block with
it; no other call leads to it. -/
theorem slotPage_error (slotOrHash : List Char) (t m : String) :
    slotPage cfg forks svc slotOrHash = .error t m ↔
      t = "Slot " ++ String.mk (stringsReplace0x slotOrHash) ∧
        ∃ l, slotLookup slotOrHash = some l ∧
          (svc.finalizedBlockHead = .error m ∨
            (∃ fin, svc.finalizedBlockHead = .ok fin) ∧ (lookupBlock svc l).2 = some m) := by
  unfold slotPage
  split
  · rename_i hl
    simp [hl]
  rename_i l hl
  split
  · rename_i err herr
    simp [herr, hl, eq_comm]
  rename_i fin hfin
  split
  · rename_i err hb
    simp [hfin, hl, hb, eq_comm]
  rename_i blockData hb
  have hno : ¬(svc.finalizedBlockHead = .error m ∨
      (∃ fin, svc.finalizedBlockHead = .ok fin) ∧ (lookupBlock svc l).2 = some m) := by
    simp [hfin, hb]
  simp only [hl, Option.some.injEq, exists_eq_left', hno, and_false, iff_false]
  repeat' split
  all_goals simp

/-- A Missed slot is shown only for a slot {lit}`n ≥ 0` the route read, when
the lookup by slot and the orphaned lookup found no block and no call failed;
the page shows slot {lit}`n` and no block. -/
theorem slotPage_missed {slotOrHash : List Char} {t : String} {d : SlotPageData}
    (h : slotPage cfg forks svc slotOrHash = .page t d) (hm : d.status = .missed) :
    ∃ n : Nat, n < 2 ^ 31 ∧ slotLookup slotOrHash = some ⟨n, []⟩ ∧
      svc.slotDetailsBySlot (UInt64.ofNat n) = (none, none) ∧
      orphanBlock svc ⟨n, []⟩ = none ∧
      d.slot = UInt64.ofNat n ∧ d.block = none := by
  obtain ⟨⟨bs, root⟩, fin, hl, -, herr, ⟨b, -, rfl⟩ | ⟨hor, hpos, rfl⟩⟩ :=
    slotPage_eq_page cfg forks svc h
  · simp only [slotPageData] at hm
    split at hm <;> cases hm
  obtain ⟨rfl, hlt⟩ := slotLookup_slot hl hpos
  obtain ⟨n, rfl⟩ := Int.eq_ofNat_of_zero_le (show (0 : Int) ≤ bs by simp only at hpos; omega)
  obtain ⟨hbd, ho⟩ := Option.or_eq_none.mp hor
  have hslot : SlotLookup.slot ⟨(n : Int), []⟩ = UInt64.ofNat n := rfl
  simp only [lookupBlock, if_pos hpos, hslot] at hbd herr
  exact ⟨n, by simp only at hlt; omega, hl, Prod.ext hbd herr, ho, hslot, rfl⟩

example : slotPage sampleConfig genesisForks oneBlockServices ['3'] =
    .page "Slot 3" (slotPageData sampleConfig genesisForks oneBlockServices 0 3 none) := by decide

/-- Storage keeps a block for slot {lit}`3` whose root is nil, and the orphaned
lookup would find a block for any root. -/
def nilRootServices : SlotServices :=
  { oneBlockServices with
    dbBlocksForSlots := fun _ => [none]
    orphanedBlock := fun _ => some { emptyBlock 3 with orphaned := true } }

/- The nil root skips {lit}`GetOrphanedBlock` at line 76: the slot is Missed. -/
example : slotPage sampleConfig genesisForks nilRootServices ['3'] =
    .page "Slot 3" (slotPageData sampleConfig genesisForks nilRootServices 0 3 none) := by decide

/-- Every slot page that is not a Missed slot shows the block the lookup by
slot or by root returned without error, or else the orphaned block: its slot,
its proposer, its status (Orphaned exactly when the block is flagged so) and
the block data of its epoch's duties. -/
theorem slotPage_block {slotOrHash : List Char} {t : String} {d : SlotPageData}
    (h : slotPage cfg forks svc slotOrHash = .page t d) (hm : d.status ≠ .missed) :
    ∃ l b, slotLookup slotOrHash = some l ∧
      (lookupBlock svc l = (some b, none) ∨
        lookupBlock svc l = (none, none) ∧ orphanBlock svc l = some b) ∧
      d.slot = b.slot ∧ d.proposer = b.proposerIndex ∧ (d.status = .orphaned ↔ b.orphaned) ∧
      d.block = some (getSlotPageBlockData cfg forks svc b
        (svc.epochAssignments (b.slot / cfg.slotsPerEpoch))) := by
  obtain ⟨l, fin, hl, -, herr, ⟨b, hor, rfl⟩ | ⟨-, -, rfl⟩⟩ := slotPage_eq_page cfg forks svc h
  · refine ⟨l, b, hl, ?_, rfl, rfl, ?_, rfl⟩
    · cases hb : (lookupBlock svc l).1 with
      | some b' =>
        rw [hb] at hor
        exact .inl (Prod.ext (hb.trans hor) herr)
      | none =>
        rw [hb] at hor
        exact .inr ⟨Prod.ext hb herr, hor⟩
    · simp only [slotPageData]
      split <;> simp_all
  · exact absurd rfl hm

example : slotPage sampleConfig genesisForks oneBlockServices ['5'] =
    .page "Slot 5" (slotPageData sampleConfig genesisForks oneBlockServices 0 5 (some (emptyBlock 5))) := by
  decide

end Handler

end Handlers
end BeaconSync
