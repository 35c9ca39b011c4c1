import BitProtector.Integrity

/-! Integrity runs: page after page of a pair's files, oldest check first, is checked
and recorded, until every pair is done or the run is told to stop. -/
namespace BitProtector

/-- `[checksum]` limits on files hashed at once. -/
structure ChecksumConfig where
  hddMaxParallel : Nat
  resolvedSsdParallel : Nat
  deriving DecidableEq, Repr

def poolSizeForPair (primaryMedia secondaryMedia : DriveMediaType) (cfg : ChecksumConfig) : Nat :=
  match primaryMedia,secondaryMedia with
  | .ssd,.ssd => cfg.resolvedSsdParallel
  | _,_ => cfg.hddMaxParallel

def ChecksumStrategy.forDrive (mmapThresholdBytes : Nat) (mediaType : DriveMediaType) (fileSize : Nat) :
    ChecksumStrategy :=
  if mediaType = .ssd ∧ fileSize ≤ mmapThresholdBytes then .mmapRayon else .streaming

def statusStr : IntegrityStatus → String
  | .ok => "ok"
  | .masterCorrupted => "master_corrupted"
  | .mirrorCorrupted => "mirror_corrupted"
  | .bothCorrupted => "both_corrupted"
  | .mirrorMissing => "mirror_missing"
  | .masterMissing => "master_missing"
  | .primaryDriveUnavailable => "primary_drive_unavailable"
  | .secondaryDriveUnavailable => "secondary_drive_unavailable"

/-- The readings of `datetime('now')`, in seconds. -/
structure Clock where
  now : Nat → Nat
  monotone : Monotone now

structure RunWorld where
  world : World
  /-- How many readings of the clock have gone into rows. -/
  readings : Nat
  /-- The pages listed so far, by all runs; only kept for what is said about runs. -/
  pages : List (List Nat)

abbrev RunAct := EStateM String RunWorld

/-- What a run meets outside the database; counters are of the pages listed so far. -/
structure RunEnv where
  io : Nat → Io
  mmapThresholdBytes : Nat
  cfg : ChecksumConfig
  /-- The order in which the query of a page returns files of one time, by pair and page. -/
  tieBreak : Nat → Nat → Nat → Nat
  deadlinePassed : Nat → Bool
  /-- Somebody asks the run to stop. -/
  stopRequested : Nat → Bool

def onWorld {α : Type} (x : Act α) : RunAct α := fun s =>
  match x s.world with
  | .ok value t => .ok value { s with world := t }
  | .error message t => .error message { s with world := t }

theorem onWorld_success {α : Type} {x : Act α} {s t : RunWorld} {a : α} (ok : onWorld x s = .ok a t) :
    ∃ w, x s.world = .ok a w ∧ t = { s with world := w } := by
  unfold onWorld at ok
  split at ok
  · rename_i value w ran
    cases ok
    exact ⟨w,ran,rfl⟩
  · cases ok

def pagesListed : RunAct Nat := fun s => .ok s.pages.length s

def readClock (clock : Clock) : RunAct Nat := fun s =>
  .ok (clock.now s.readings) { s with readings := s.readings + 1 }

/-- The request of another process, which lands between two statements of the run. -/
def outsideStop (env : RunEnv) (runId : Nat) : RunAct Unit := do
  if env.stopRequested (← pagesListed) then
    onWorld (Act.execute (fun db => db.requestIntegrityRunStop runId))

def checkShouldStop (env : RunEnv) (runId : Nat) : RunAct Bool := do
  let current ← onWorld (Act.query (fun db => db.getIntegrityRun runId))
  if current.stopRequested then
    onWorld (Act.execute (fun db => db.setIntegrityRunActiveWorkers runId 0))
    onWorld (Act.execute (fun db => db.finishIntegrityRun runId .stopped none))
    pure true
  else if env.deadlinePassed (← pagesListed) then
    onWorld (Act.execute (fun db => db.setIntegrityRunActiveWorkers runId 0))
    onWorld (Act.execute (fun db => db.finishIntegrityRun runId .stopped none))
    pure true
  else pure false

def perPage : Nat := 100

def listPage (env : RunEnv) (pairId page : Nat) : RunAct (List TrackedFile × Nat) := fun s =>
  let files := s.world.db.listTrackedFilesOldestIntegrityFirst (env.tieBreak pairId page) (some pairId) page perPage
  .ok (files,s.world.db.countTrackedFiles (some pairId))
    { s with pages := if files.isEmpty then s.pages else s.pages ++ [files.map TrackedFile.id] }

def appendIntegrityRunResult (runId : Nat) (file : TrackedFile) (status : String) (recovered needsAttention : Bool) :
    Act IntegrityRunResult := do
  let id ← Act.insertOrFail (fun db =>
    db.insertIntegrityRunResult runId file.id file.drivePairId file.relativePath status recovered needsAttention)
  Act.query (fun db => db.getIntegrityRunResult id)

/-- The three statements with which a checked file ends. -/
def recordResult (clock : Clock) (runId : Nat) (file : TrackedFile) (status : String)
    (recovered needsAttention : Bool) : RunAct Unit := do
  let now ← readClock clock
  onWorld (Act.execute (fun db => db.updateTrackedFileLastIntegrityCheckAt file.id now))
  let _ ← onWorld (appendIntegrityRunResult runId file status recovered needsAttention)
  onWorld (Act.execute (fun db => db.incrementIntegrityRunProgress runId needsAttention.toNat recovered.toNat))

section
variable [Blake3]

/-- The parallel part: every file of the page is checked before the first is recorded. -/
def checkFiles (io : Io) (mmapThresholdBytes : Nat) (pair : DrivePair) : List TrackedFile →
    Act (List (TrackedFile × Except String IntegrityCheckResult))
  | [] => pure []
  | file::files => do
    let masterStrategy := ChecksumStrategy.forDrive mmapThresholdBytes pair.primaryMediaType file.fileSize
    let mirrorStrategy := ChecksumStrategy.forDrive mmapThresholdBytes pair.secondaryMediaType file.fileSize
    let result ← Effect.attempt (checkFileIntegrity io pair file masterStrategy mirrorStrategy)
    let results ← checkFiles io mmapThresholdBytes pair files
    pure ((file,result)::results)

/-- `attempt_recovery_with_reconciliation(..).unwrap_or(false)`. -/
def recoverOrNot (io : Io) (pair : DrivePair) (file : TrackedFile) (result : IntegrityCheckResult) : Act Bool := do
  match ← Effect.attempt (attemptRecoveryWithReconciliation io pair file result) with
  | .ok recovered => pure recovered
  | .error _ => pure false

def recordFile (io : Io) (clock : Clock) (runId : Nat) (recover : Bool) (pair : DrivePair) (file : TrackedFile) :
    Except String IntegrityCheckResult → RunAct Unit
  | .error _ => recordResult clock runId file "internal_error" false true
  | .ok result => do
    let recovered ← onWorld
      (if recover && result.status != .ok then recoverOrNot io pair file result else pure false)
    recordResult clock runId file (statusStr result.status) recovered (result.status != .ok && !recovered)

def recordFiles (io : Io) (clock : Clock) (runId : Nat) (recover : Bool) (pair : DrivePair) :
    List (TrackedFile × Except String IntegrityCheckResult) → RunAct Unit
  | [] => pure ()
  | (file,result)::results => do
    recordFile io clock runId recover pair file result
    recordFiles io clock runId recover pair results

/-- The pages of a pair from one on; says whether the run was stopped. -/
def pageLoop (env : RunEnv) (clock : Clock) (runId : Nat) (recover : Bool) (pair : DrivePair) : Nat → Nat → RunAct Bool
  | 0, _ => throw "out of fuel"
  | fuel + 1, page => do
    outsideStop env runId
    if ← checkShouldStop env runId then
      onWorld (Act.execute (fun db => db.setIntegrityRunActiveWorkers runId 0))
      pure true
    else
      let (files,total) ← listPage env pair.id page
      if files.isEmpty then pure false
      else
        let io := env.io (← pagesListed)
        let results ← onWorld (checkFiles io env.mmapThresholdBytes pair files)
        recordFiles io clock runId recover pair results
        if total ≤ page * perPage then pure false
        else pageLoop env clock runId recover pair fuel (page + 1)

def processPairs (env : RunEnv) (clock : Clock) (runId : Nat) (recover : Bool) : List DrivePair → RunAct Bool
  | [] => pure false
  | pair::pairs => do
    let workers := max 1 (poolSizeForPair pair.primaryMediaType pair.secondaryMediaType env.cfg)
    onWorld (Act.execute (fun db => db.setIntegrityRunActiveWorkers runId workers))
    -- No more pages than files: the fuel is enough.
    let fuel ← onWorld (Act.query (fun db => .ok (db.countTrackedFiles (some pair.id) + 1)))
    if ← pageLoop env clock runId recover pair fuel 1 then pure true
    else
      onWorld (Act.execute (fun db => db.setIntegrityRunActiveWorkers runId 0))
      processPairs env clock runId recover pairs

def scopePairs (db : Db) : Option Nat → Except String (List DrivePair)
  | some pairId => (db.getDrivePair pairId).map (fun pair => [pair])
  | none => .ok db.listDrivePairs

omit [Blake3] in
theorem scopePairs_rows {db : Db} {scope : Option Nat} {pairs : List DrivePair} (found : scopePairs db scope = .ok pairs) :
    ∀ pair ∈ pairs, db.drivePairs.find? pair.id = some pair := by
  intro pair member
  cases scope with
  | none =>
    cases found
    exact db.drivePairs.find?_of_mem member
  | some pairId =>
    simp only [scopePairs,Db.getDrivePair] at found
    cases row : db.drivePairs.find? pairId with
    | none => simp [row,Except.map] at found
    | some there =>
      simp only [row,Except.map,Except.ok.injEq] at found
      subst found
      rw [List.mem_singleton.mp member,show there.id = pairId from Table.find?_key row,row]

def processRun (env : RunEnv) (clock : Clock) (runId : Nat) : RunAct Unit := do
  let run ← onWorld (Act.query (fun db => db.getIntegrityRun runId))
  let pairs ← onWorld (Act.query (fun db => scopePairs db run.scopeDrivePairId))
  if ← processPairs env clock runId run.recover pairs then pure ()
  else
    outsideStop env runId
    let finalState ← onWorld (Act.query (fun db => db.getIntegrityRun runId))
    onWorld (Act.execute (fun db =>
      db.finishIntegrityRun runId (if finalState.stopRequested then .stopped else .completed) none))

def runSync (env : RunEnv) (clock : Clock) (scopeDrivePairId : Option Nat) (recover : Bool) (trigger : String) :
    RunAct IntegrityRun := do
  let active ← onWorld (Act.query (fun db => .ok db.getActiveIntegrityRun))
  onWorld (Act.ensure active.isNone "Another integrity run is already active")
  let totalFiles ← onWorld (Act.query (fun db => .ok (db.countTrackedFiles scopeDrivePairId)))
  let run ← onWorld (Act.insertOrFail (fun db =>
    db.createIntegrityRun scopeDrivePairId recover trigger totalFiles))
  match ← Effect.attempt (processRun env clock run.id) with
  | .error message =>
    onWorld (Act.execute (fun db => db.finishIntegrityRun run.id .failed (some message)))
    throw message
  | .ok () => onWorld (Act.query (fun db => db.getIntegrityRun run.id))

end

end BitProtector
