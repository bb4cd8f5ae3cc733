import BeaconSync.Basic

/-!
# Beacon synchronizer - The runSync goroutine, one statement at a time

The worker goroutine of {lit}`synchronizer.go` runs {lit}`runSync`, which calls
{lit}`syncEpoch` once per iteration and {lit}`checkKillChan` at five places.
This module translates the three functions into one step function over the
synchronizer's fields: the program counter {lean}`Synchronizer.Pc` names the
next statement and carries the locals live there, and a {lean}`Synchronizer.Reply`
is what that statement gets from outside (a collaborator's answer, the outcome
of a kill check, or nothing).  Each loop of the source takes one step per
iteration, so a loop whose bound wraps at {lit}`2^64` runs forever here as it
does in Go.

The mutexes, the kill channel and the callers of {lit}`startSync` are added in
the orchestrator layer; here a kill check may see a signal or not, and the
storage collaborator is the list of committed transactions.

Main results:

- Definition {lit}`Synchronizer.step`: the executable step function.
- Inductive {lit}`Synchronizer.Step` and theorem {lit}`Synchronizer.step_sound`:
  one constructor per branch of the source, the form every invariant proof uses.
-/

namespace BeaconSync
namespace Synchronizer

/-- Where {lit}`syncEpoch` resumes after a kill check that saw no signal. -/
inductive Resume where
  /-- The header loop, at its first slot (line 158). -/
  | fetchHeader (a : EpochAssignments) (slot : UInt64)
  /-- The body fetch of a present header (line 172). -/
  | fetchBody (a : EpochAssignments) (slot : UInt64) (h : HeaderResponse)
  /-- The validator statistics (line 197). -/
  | loadStats (a : EpochAssignments)
  /-- The search for the epoch's first block, at its first slot (line 209). -/
  | findFirst (stats : EpochStats) (slot : UInt64)

/-- Where the {lit}`runSync` goroutine is, with the locals live at that point. -/
inductive Pc where
  /-- No goroutine runs: not started yet, or {lit}`runSync` has returned. -/
  | idle
  /-- {lit}`sync.runMutex.Lock()`, then the cache reset of lines 79-80. -/
  | lockRun
  /-- Top of the loop: {lit}`syncEpoch := sync.currentEpoch` and the call
  {lit}`db.IsEpochSynchronized(syncEpoch)` that opens {lit}`syncEpoch`. -/
  | loop
  /-- {lit}`client.rpcClient.GetEpochAssignments(syncEpoch)` (line 145). -/
  | assignments (epoch : UInt64)
  /-- {lit}`if sync.checkKillChan(0) { return false, nil }` inside
  {lit}`syncEpoch(epoch)` (lines 151, 169, 185, 202), then {lit}`next`. -/
  | checkKill (epoch : UInt64) (next : Resume)
  /-- The header loop at {lit}`slot` (lines 158-168). -/
  | fetchHeader (epoch : UInt64) (a : EpochAssignments) (slot : UInt64)
  /-- {lit}`GetBlockBodyByBlockroot(headerRsp.Data.Root)` (line 172). -/
  | fetchBody (epoch : UInt64) (a : EpochAssignments) (slot : UInt64) (h : HeaderResponse)
  /-- {lit}`epochStats.loadValidatorStats(client, DependendStateRef)` (line 197). -/
  | loadStats (epoch : UInt64) (a : EpochAssignments)
  /-- The search for the epoch's first cached block at {lit}`slot` (lines 209-214). -/
  | findFirst (epoch : UInt64) (stats : EpochStats) (slot : UInt64)
  /-- {lit}`aggregateEpochVotes(sync.cachedBlocks, syncEpoch, epochStats, targetRoot, false)`. -/
  | aggregate (epoch : UInt64) (stats : EpochStats) (targetRoot : Root)
  /-- {lit}`db.WriterDb.Beginx()` (line 227). -/
  | beginTx (epoch : UInt64) (stats : EpochStats) (votes : EpochVotes)
  /-- {lit}`persistEpochData(syncEpoch, sync.cachedBlocks, epochStats, epochVotes, tx)`. -/
  | persist (epoch : UInt64) (stats : EpochStats) (votes : EpochVotes)
  /-- {lit}`db.SetExplorerState("indexer.syncstate", ...)`, with the writes so far. -/
  | setState (epoch : UInt64) (tx : List Write)
  /-- {lit}`tx.Commit()` (line 245). -/
  | commit (epoch : UInt64) (tx : List Write)
  /-- The eviction loop at {lit}`slot` (lines 250-254). -/
  | evict (epoch : UInt64) (slot : UInt64)
  /-- {lit}`syncEpoch` has returned {lit}`(true, nil)`. -/
  | epochDone (epoch : UInt64)
  /-- {lit}`syncEpoch` has returned {lit}`(false, err)`. -/
  | epochFailed (epoch : UInt64) (err : Option SyncError)
  /-- {lit}`sync.stateMutex.Lock(); syncEpoch++; sync.currentEpoch = syncEpoch`,
  with the finalized epoch just read (lines 91-99). -/
  | advance (epoch : UInt64) (finalized : BitVec 64)
  /-- {lit}`sync.checkKillChan(cooldown)` at the end of an iteration (line 105). -/
  | cooldown
  /-- After the loop, {lit}`sync.running = false` (line 116); the flag is
  {lit}`isComplete`. -/
  | exit (complete : Bool)

/-- The statement a kill check of {lit}`syncEpoch(epoch)` resumes at. -/
def Resume.pc (epoch : UInt64) : Resume → Pc
  | .fetchHeader a slot => .fetchHeader epoch a slot
  | .fetchBody a slot h => .fetchBody epoch a slot h
  | .loadStats a => .loadStats epoch a
  | .findFirst stats slot => .findFirst epoch stats slot

/-- The fields of {lit}`synchronizerState` the goroutine uses, its position,
and the committed storage: the transactions committed so far, in order. -/
structure SyncState where
  pc : Pc
  running : Bool
  currentEpoch : UInt64
  cachedSlot : UInt64
  cachedBlocks : BlockCache
  db : List (List Write)

/-- What the next statement gets from outside. -/
inductive Reply where
  /-- No input: a local statement, a loop test, {lit}`time.Sleep`. -/
  | tick
  /-- {lit}`db.IsEpochSynchronized`. -/
  | synced (b : Bool)
  /-- {lit}`GetEpochAssignments`: an error, or the (possibly nil) duties. -/
  | assignments (r : Except String (Option EpochAssignments))
  /-- {lit}`GetBlockHeaderBySlot`: an error, or the header; nil is an empty slot. -/
  | header (r : Except String (Option HeaderResponse))
  /-- {lit}`GetBlockBodyByBlockroot`: an error, or the (possibly nil) block. -/
  | body (r : Except String (Option BlockBody))
  /-- {lit}`loadValidatorStats`: the loaded validator set, nil on failure. -/
  | stats (r : Option ValidatorStats)
  /-- A storage call ({lit}`Beginx`, {lit}`persistEpochData`,
  {lit}`SetExplorerState`, {lit}`Commit`): its error, if any. -/
  | db (err : Option String)
  /-- {lit}`getFinalizedHead()`: the finalized epoch, an {lit}`int64`. -/
  | finalized (epoch : BitVec 64)
  /-- {lit}`checkKillChan`: whether a value was received from {lit}`killChan`. -/
  | kill (received : Bool)
  /-- The called code panicked. -/
  | panic

/-- Lines 216-223: the block's root when the block sits at the epoch's first
slot, its parent root otherwise. -/
def targetRootOf (firstSlot : UInt64) (b : CacheBlock) : Root :=
  if b.header.slot = firstSlot then b.root else b.header.parentRoot

variable (cfg : Config)

/-- The statement at the program counter calls code that may panic: a storage
or chain-node call, {lit}`loadValidatorStats`, {lit}`aggregateEpochVotes` or
{lit}`getFinalizedHead`. -/
def SyncState.callsOut (σ : SyncState) : Bool :=
  match σ.pc with
  | .loop | .assignments _ | .fetchBody .. | .loadStats .. | .aggregate .. => true
  | .beginTx .. | .persist .. | .setState .. | .commit .. => true
  | .fetchHeader e _ slot => decide (slot ≤ cfg.fetchLastSlot e ∧ ¬slot ≤ σ.cachedSlot)
  | .epochDone _ => true
  | _ => false

/-- One statement of {lit}`runSync`, {lit}`syncEpoch` or {lit}`checkKillChan`;
{lean}`none` when the reply does not fit the statement.  A panic ends the
goroutine and leaves {lit}`running` as it is: the deferred {lit}`recover` runs,
line 116 does not.  A nil block with a nil error panics at line 180.  The
eviction writes {lean}`none` to every slot of the epoch, which deletes exactly
the keys the source deletes. -/
def step (σ : SyncState) (r : Reply) : Option SyncState :=
  match r with
  | .panic => if σ.callsOut cfg then some { σ with pc := .idle } else none
  | r =>
    match σ.pc with
    | .idle => none
    | .lockRun =>
      match r with
      | .tick => some { σ with pc := .loop, cachedBlocks := fun _ => none, cachedSlot := 0 }
      | _ => none
    | .loop =>
      match r with
      | .synced b => some { σ with pc := if b then .epochDone σ.currentEpoch
                                          else .assignments σ.currentEpoch }
      | _ => none
    | .assignments e =>
      match r with
      | .assignments (.error err) => some { σ with pc := .epochFailed e (some (.rpc err)) }
      | .assignments (.ok none) => some { σ with pc := .epochFailed e none }
      | .assignments (.ok (some a)) =>
        some { σ with pc := .checkKill e (.fetchHeader a (cfg.firstSlot e)) }
      | _ => none
    | .checkKill e next =>
      match r with
      | .kill b => some { σ with pc := if b then .epochFailed e none else next.pc e }
      | _ => none
    | .fetchHeader e a slot =>
      match r with
      | .tick =>
        if slot ≤ cfg.fetchLastSlot e then
          if slot ≤ σ.cachedSlot then some { σ with pc := .fetchHeader e a (slot + 1) } else none
        else some { σ with pc := .checkKill e (.loadStats a), cachedSlot := cfg.fetchLastSlot e }
      | .header rsp =>
        if slot ≤ cfg.fetchLastSlot e ∧ ¬slot ≤ σ.cachedSlot then
          match rsp with
          | .error err => some { σ with pc := .epochFailed e (some (.header slot err)) }
          | .ok none => some { σ with pc := .fetchHeader e a (slot + 1) }
          | .ok (some h) => some { σ with pc := .checkKill e (.fetchBody a slot h) }
        else none
      | _ => none
    | .fetchBody e a slot h =>
      match r with
      | .body (.error err) => some { σ with pc := .epochFailed e (some (.block slot err)) }
      | .body (.ok none) => some { σ with pc := .idle }
      | .body (.ok (some b)) =>
        some { σ with pc := .fetchHeader e a (slot + 1),
                      cachedBlocks := Function.update σ.cachedBlocks slot
                        (some (CacheBlock.ofResponse slot h b)) }
      | _ => none
    | .loadStats e a =>
      match r with
      | .stats none => some { σ with pc := .epochFailed e (some (.validatorStats e)) }
      | .stats (some v) =>
        some { σ with pc := .checkKill e (.findFirst (EpochStats.ofAssignments e a v)
                                            (cfg.firstSlot e)) }
      | _ => none
    | .findFirst e st slot =>
      match r with
      | .tick =>
        if slot ≤ cfg.epochLastSlot e then
          match σ.cachedBlocks slot with
          | some blk => some { σ with pc := .aggregate e st (targetRootOf (cfg.firstSlot e) blk) }
          | none => some { σ with pc := .findFirst e st (slot + 1) }
        else some { σ with pc := .aggregate e st [] }
      | _ => none
    | .aggregate e st t =>
      match r with
      | .tick =>
        some { σ with pc := .beginTx e st (cfg.aggregateEpochVotes σ.cachedBlocks e st t) }
      | _ => none
    | .beginTx e st v =>
      match r with
      | .db (some err) => some { σ with pc := .epochFailed e (some (.beginTx err)) }
      | .db none => some { σ with pc := .persist e st v }
      | _ => none
    | .persist e st v =>
      match r with
      | .db (some err) => some { σ with pc := .epochFailed e (some (.persist err)) }
      | .db none => some { σ with pc := .setState e [.epochData e σ.cachedBlocks st v] }
      | _ => none
    | .setState e tx =>
      match r with
      | .db (some err) => some { σ with pc := .epochFailed e (some (.syncState err)) }
      | .db none => some { σ with pc := .commit e (tx ++ [.explorerState syncStateKey e]) }
      | _ => none
    | .commit e tx =>
      match r with
      | .db (some err) => some { σ with pc := .epochFailed e (some (.commit err)) }
      | .db none => some { σ with pc := .evict e (cfg.firstSlot e), db := σ.db ++ [tx] }
      | _ => none
    | .evict e slot =>
      match r with
      | .tick =>
        if slot ≤ cfg.epochLastSlot e then
          some { σ with pc := .evict e (slot + 1),
                        cachedBlocks := Function.update σ.cachedBlocks slot none }
        else some { σ with pc := .epochDone e }
      | _ => none
    | .epochDone e =>
      match r with
      | .finalized fin => some { σ with pc := .advance e fin }
      | _ => none
    | .epochFailed _ _ =>
      match r with
      | .tick => some { σ with pc := .cooldown }
      | _ => none
    | .advance e fin =>
      match r with
      | .tick =>
        some { σ with currentEpoch := e + 1,
                      pc := if BitVec.slt fin (e + 1).toBitVec then .exit true else .cooldown }
      | _ => none
    | .cooldown =>
      match r with
      | .kill b => some { σ with pc := if b then .exit false else .loop }
      | _ => none
    | .exit _ =>
      match r with
      | .tick => some { σ with pc := .idle, running := false }
      | _ => none

/-! ## The branches of the step function -/

/-- The transitions of {lean}`step`, one constructor per branch of the source. -/
inductive Step : SyncState → Reply → SyncState → Prop where
  | lockRun {σ} (h : σ.pc = .lockRun) :
    Step σ .tick { σ with pc := .loop, cachedBlocks := fun _ => none, cachedSlot := 0 }
  | synced {σ} (h : σ.pc = .loop) :
    Step σ (.synced true) { σ with pc := .epochDone σ.currentEpoch }
  | unsynced {σ} (h : σ.pc = .loop) :
    Step σ (.synced false) { σ with pc := .assignments σ.currentEpoch }
  | assignmentsError {σ e err} (h : σ.pc = .assignments e) :
    Step σ (.assignments (.error err)) { σ with pc := .epochFailed e (some (.rpc err)) }
  | assignmentsNil {σ e} (h : σ.pc = .assignments e) :
    Step σ (.assignments (.ok none)) { σ with pc := .epochFailed e none }
  | assignmentsOk {σ e a} (h : σ.pc = .assignments e) :
    Step σ (.assignments (.ok (some a)))
      { σ with pc := .checkKill e (.fetchHeader a (cfg.firstSlot e)) }
  | killed {σ e next} (h : σ.pc = .checkKill e next) :
    Step σ (.kill true) { σ with pc := .epochFailed e none }
  | notKilled {σ e next} (h : σ.pc = .checkKill e next) :
    Step σ (.kill false) { σ with pc := next.pc e }
  | headerCached {σ e a slot} (h : σ.pc = .fetchHeader e a slot)
      (hle : slot ≤ cfg.fetchLastSlot e) (hc : slot ≤ σ.cachedSlot) :
    Step σ .tick { σ with pc := .fetchHeader e a (slot + 1) }
  | headerLoopDone {σ e a slot} (h : σ.pc = .fetchHeader e a slot)
      (hgt : ¬slot ≤ cfg.fetchLastSlot e) :
    Step σ .tick { σ with pc := .checkKill e (.loadStats a), cachedSlot := cfg.fetchLastSlot e }
  | headerError {σ e a slot err} (h : σ.pc = .fetchHeader e a slot)
      (hle : slot ≤ cfg.fetchLastSlot e) (hc : ¬slot ≤ σ.cachedSlot) :
    Step σ (.header (.error err)) { σ with pc := .epochFailed e (some (.header slot err)) }
  | headerEmpty {σ e a slot} (h : σ.pc = .fetchHeader e a slot)
      (hle : slot ≤ cfg.fetchLastSlot e) (hc : ¬slot ≤ σ.cachedSlot) :
    Step σ (.header (.ok none)) { σ with pc := .fetchHeader e a (slot + 1) }
  | headerOk {σ e a slot hr} (h : σ.pc = .fetchHeader e a slot)
      (hle : slot ≤ cfg.fetchLastSlot e) (hc : ¬slot ≤ σ.cachedSlot) :
    Step σ (.header (.ok (some hr))) { σ with pc := .checkKill e (.fetchBody a slot hr) }
  | bodyError {σ e a slot hr err} (h : σ.pc = .fetchBody e a slot hr) :
    Step σ (.body (.error err)) { σ with pc := .epochFailed e (some (.block slot err)) }
  | bodyNil {σ e a slot hr} (h : σ.pc = .fetchBody e a slot hr) :
    Step σ (.body (.ok none)) { σ with pc := .idle }
  | bodyOk {σ e a slot hr b} (h : σ.pc = .fetchBody e a slot hr) :
    Step σ (.body (.ok (some b)))
      { σ with pc := .fetchHeader e a (slot + 1),
               cachedBlocks := Function.update σ.cachedBlocks slot
                 (some (CacheBlock.ofResponse slot hr b)) }
  | statsNil {σ e a} (h : σ.pc = .loadStats e a) :
    Step σ (.stats none) { σ with pc := .epochFailed e (some (.validatorStats e)) }
  | statsOk {σ e a v} (h : σ.pc = .loadStats e a) :
    Step σ (.stats (some v))
      { σ with pc := .checkKill e (.findFirst (EpochStats.ofAssignments e a v)
                                     (cfg.firstSlot e)) }
  | findHit {σ e st slot blk} (h : σ.pc = .findFirst e st slot)
      (hle : slot ≤ cfg.epochLastSlot e) (hb : σ.cachedBlocks slot = some blk) :
    Step σ .tick { σ with pc := .aggregate e st (targetRootOf (cfg.firstSlot e) blk) }
  | findMiss {σ e st slot} (h : σ.pc = .findFirst e st slot)
      (hle : slot ≤ cfg.epochLastSlot e) (hb : σ.cachedBlocks slot = none) :
    Step σ .tick { σ with pc := .findFirst e st (slot + 1) }
  | findDone {σ e st slot} (h : σ.pc = .findFirst e st slot)
      (hgt : ¬slot ≤ cfg.epochLastSlot e) :
    Step σ .tick { σ with pc := .aggregate e st [] }
  | aggregate {σ e st t} (h : σ.pc = .aggregate e st t) :
    Step σ .tick { σ with pc := .beginTx e st (cfg.aggregateEpochVotes σ.cachedBlocks e st t) }
  | beginError {σ e st v err} (h : σ.pc = .beginTx e st v) :
    Step σ (.db (some err)) { σ with pc := .epochFailed e (some (.beginTx err)) }
  | beginOk {σ e st v} (h : σ.pc = .beginTx e st v) :
    Step σ (.db none) { σ with pc := .persist e st v }
  | persistError {σ e st v err} (h : σ.pc = .persist e st v) :
    Step σ (.db (some err)) { σ with pc := .epochFailed e (some (.persist err)) }
  | persistOk {σ e st v} (h : σ.pc = .persist e st v) :
    Step σ (.db none) { σ with pc := .setState e [.epochData e σ.cachedBlocks st v] }
  | setStateError {σ e tx err} (h : σ.pc = .setState e tx) :
    Step σ (.db (some err)) { σ with pc := .epochFailed e (some (.syncState err)) }
  | setStateOk {σ e tx} (h : σ.pc = .setState e tx) :
    Step σ (.db none) { σ with pc := .commit e (tx ++ [.explorerState syncStateKey e]) }
  | commitError {σ e tx err} (h : σ.pc = .commit e tx) :
    Step σ (.db (some err)) { σ with pc := .epochFailed e (some (.commit err)) }
  | commitOk {σ e tx} (h : σ.pc = .commit e tx) :
    Step σ (.db none) { σ with pc := .evict e (cfg.firstSlot e), db := σ.db ++ [tx] }
  | evictSlot {σ e slot} (h : σ.pc = .evict e slot) (hle : slot ≤ cfg.epochLastSlot e) :
    Step σ .tick { σ with pc := .evict e (slot + 1),
                          cachedBlocks := Function.update σ.cachedBlocks slot none }
  | evictDone {σ e slot} (h : σ.pc = .evict e slot) (hgt : ¬slot ≤ cfg.epochLastSlot e) :
    Step σ .tick { σ with pc := .epochDone e }
  | finalized {σ e fin} (h : σ.pc = .epochDone e) :
    Step σ (.finalized fin) { σ with pc := .advance e fin }
  | retry {σ e err} (h : σ.pc = .epochFailed e err) :
    Step σ .tick { σ with pc := .cooldown }
  | complete {σ e fin} (h : σ.pc = .advance e fin) (hc : BitVec.slt fin (e + 1).toBitVec = true) :
    Step σ .tick { σ with currentEpoch := e + 1, pc := .exit true }
  | incomplete {σ e fin} (h : σ.pc = .advance e fin)
      (hc : BitVec.slt fin (e + 1).toBitVec = false) :
    Step σ .tick { σ with currentEpoch := e + 1, pc := .cooldown }
  | stopped {σ} (h : σ.pc = .cooldown) : Step σ (.kill true) { σ with pc := .exit false }
  | timedOut {σ} (h : σ.pc = .cooldown) : Step σ (.kill false) { σ with pc := .loop }
  | exit {σ c} (h : σ.pc = .exit c) : Step σ .tick { σ with pc := .idle, running := false }
  | panic {σ} (h : σ.callsOut cfg = true) : Step σ .panic { σ with pc := .idle }

/-- Every step the function takes is one of the branches of {lean}`Step`. -/
theorem step_sound {σ σ' : SyncState} {r : Reply} (h : step cfg σ r = some σ') :
    Step cfg σ r σ' := by
  rcases σ with ⟨pc, running, epoch, cs, cache, db⟩
  cases r
  case panic =>
    simp only [step] at h
    split at h
    · cases h; exact .panic ‹_›
    · cases h
  all_goals
    cases pc <;> simp only [step] at h <;> (repeat' split at h) <;>
      simp only [Option.some.injEq, reduceCtorEq] at h <;> subst h
  all_goals try simp only [Reply.assignments.injEq, Reply.header.injEq, Reply.body.injEq,
    Reply.stats.injEq, Reply.db.injEq, Bool.not_eq_true] at *
  all_goals try subst_vars
  case tick.lockRun => exact Step.lockRun rfl
  case tick.fetchHeader.isTrue.isTrue => exact Step.headerCached rfl ‹_› ‹_›
  case tick.fetchHeader.isFalse => exact Step.headerLoopDone rfl ‹_›
  case tick.findFirst.isTrue.h_1 => exact Step.findHit rfl ‹_› ‹_›
  case tick.findFirst.isTrue.h_2 => exact Step.findMiss rfl ‹_› ‹_›
  case tick.findFirst.isFalse => exact Step.findDone rfl ‹_›
  case tick.aggregate => exact Step.aggregate rfl
  case tick.evict.isTrue => exact Step.evictSlot rfl ‹_›
  case tick.evict.isFalse => exact Step.evictDone rfl ‹_›
  case tick.epochFailed => exact Step.retry rfl
  case finalized.epochDone => exact Step.finalized rfl
  case tick.advance.isTrue => exact Step.complete rfl ‹_›
  case tick.advance.isFalse => exact Step.incomplete rfl ‹_›
  case tick.exit => exact Step.exit rfl
  case synced.loop.isTrue => exact Step.synced rfl
  case synced.loop.isFalse => exact Step.unsynced rfl
  case assignments.assignments.h_1 => exact Step.assignmentsError rfl
  case assignments.assignments.h_2 => exact Step.assignmentsNil rfl
  case assignments.assignments.h_3 => exact Step.assignmentsOk rfl
  case header.fetchHeader.isTrue.h_1 => exact Step.headerError rfl ‹_ ∧ _›.1 ‹_ ∧ _›.2
  case header.fetchHeader.isTrue.h_2 => exact Step.headerEmpty rfl ‹_ ∧ _›.1 ‹_ ∧ _›.2
  case header.fetchHeader.isTrue.h_3 => exact Step.headerOk rfl ‹_ ∧ _›.1 ‹_ ∧ _›.2
  case body.fetchBody.h_1 => exact Step.bodyError rfl
  case body.fetchBody.h_2 => exact Step.bodyNil rfl
  case body.fetchBody.h_3 => exact Step.bodyOk rfl
  case stats.loadStats.h_1 => exact Step.statsNil rfl
  case stats.loadStats.h_2 => exact Step.statsOk rfl
  case db.beginTx.h_1 => exact Step.beginError rfl
  case db.beginTx.h_2 => exact Step.beginOk rfl
  case db.persist.h_1 => exact Step.persistError rfl
  case db.persist.h_2 => exact Step.persistOk rfl
  case db.setState.h_1 => exact Step.setStateError rfl
  case db.setState.h_2 => exact Step.setStateOk rfl
  case db.commit.h_1 => exact Step.commitError rfl
  case db.commit.h_2 => exact Step.commitOk rfl
  case kill.checkKill.isTrue => exact Step.killed rfl
  case kill.checkKill.isFalse => exact Step.notKilled rfl
  case kill.cooldown.isTrue => exact Step.stopped rfl
  case kill.cooldown.isFalse => exact Step.timedOut rfl

end Synchronizer
end BeaconSync
