import BitProtector.IntegrityRuns
import BitProtector.Foundation.Interleaving

/-! Starters of integrity runs, `process_run`, stop requests and the cleanup at service start, from any number of
threads and processes, with every statement on the tables a step of its own. -/
namespace BitProtector

/-- `cleanup_stale_integrity_runs`. -/
def Db.cleanupStaleIntegrityRuns (db : Db) : Db :=
  { db with
    integrityRuns := db.integrityRuns.updateWhere (fun run => run.status == .running || run.status == .stopping)
      (fun run => { run with
        status := .failed,activeWorkers := 0,errorMessage := some "Interrupted by service restart" }) (fun _ => rfl) }

namespace RunActors

/-- The tables, with the `ended_at` column of `integrity_runs` beside them. -/
structure Board where
  db : Db
  endedAt : Nat → Option Nat

structure Request where
  scopeDrivePairId : Option Nat
  recover : Bool
  trigger : String

/-- Where the loops of `process_run` are: the page of the pair, and the pairs after it. -/
structure Position where
  recover : Bool
  pair : DrivePair
  page : Nat
  pairs : List DrivePair

/-- What was found of a file, after its recovery if there was one. -/
structure Outcome where
  status : String
  recovered : Bool
  needsAttention : Bool

/-- The next statement of `process_run`. -/
inductive Task
  | opening
  | nextPair (recover : Bool) (pairs : List DrivePair)
  | checking (at_ : Position)
  | halting
  | listing (at_ : Position)
  | recording (at_ : Position) (last : Bool) (files : List TrackedFile)
  | appending (at_ : Position) (last : Bool) (file : TrackedFile) (outcome : Outcome) (files : List TrackedFile)
  | counting (at_ : Position) (last : Bool) (outcome : Outcome) (files : List TrackedFile)
  | leavingPair (recover : Bool) (pairs : List DrivePair)
  | concluding

/-- The next statement of a starter and of its run. -/
inductive Phase
  | idle
  | starting (request : Request)
  | creating (request : Request) (totalFiles : Nat)
  | working (runId : Nat) (task : Task)
  /-- `finish_integrity_run(.., "stopped")` by `check_should_stop`, after which its caller has one more statement. -/
  | halted (runId : Nat)
  | returning (runId : Nat)
  | finishing (runId : Nat) (stopRequested : Bool)
  /-- `process_run` has returned this error. -/
  | failing (runId : Nat) (message : String)

inductive Input
  | start (request : Request)
  | proceed
  | deadline (passed : Bool)
  | page (tieBreak : Nat → Nat)
  | record (outcome : Outcome) (now : Nat)
  | finish (now : Nat)
  | fail (message : String)
  | leave

inductive Event
  | requestStop (runId : Nat)
  | cleanup (now : Nat)
  /-- Whatever else changes the other tables. -/
  | elsewhere (db : Db)

def IsActive (run : IntegrityRun) : Prop := run.status = .running ∨ run.status = .stopping

instance (run : IntegrityRun) : Decidable (IsActive run) := inferInstanceAs (Decidable (_ ∨ _))

def ended (b : Board) (runId : Nat) (status : RunStatus) (errorMessage : Option String) (now : Nat) : Board where
  db := b.db.finishIntegrityRun runId status errorMessage
  endedAt := fun id => if id = runId ∧ (b.db.integrityRuns.find? runId).isSome then some now else b.endedAt id

/-- `process_run` opens its run, and the pairs that it is about. -/
def opened (db : Db) (runId : Nat) : Phase :=
  match db.getIntegrityRun runId with
  | .error message => .failing runId message
  | .ok run =>
    match scopePairs db run.scopeDrivePairId with
    | .error message => .failing runId message
    | .ok pairs => .working runId (.nextPair run.recover pairs)

/-- What `check_should_stop` sees. -/
def checked (db : Db) (runId : Nat) (at_ : Position) (deadlinePassed : Bool) : Phase :=
  match db.getIntegrityRun runId with
  | .error message => .failing runId message
  | .ok current => .working runId (if current.stopRequested || deadlinePassed then .halting else .listing at_)

def listed (db : Db) (at_ : Position) (tieBreak : Nat → Nat) : Task :=
  let files := db.listTrackedFilesOldestIntegrityFirst tieBreak (some at_.pair.id) at_.page perPage
  if files.isEmpty then .leavingPair at_.recover at_.pairs
  else .recording at_ (decide (db.countTrackedFiles (some at_.pair.id) ≤ at_.page * perPage)) files

def appended (b : Board) (runId : Nat) (at_ : Position) (last : Bool) (file : TrackedFile) (outcome : Outcome)
    (files : List TrackedFile) : Board × Phase :=
  match b.db.insertIntegrityRunResult runId file.id file.drivePairId file.relativePath outcome.status outcome.recovered
      outcome.needsAttention with
  | (.ok _,db) => ({ b with db },.working runId (.counting at_ last outcome files))
  | (.error message,_) => (b,.failing runId message)

def concluded (db : Db) (runId : Nat) : Phase :=
  match db.getIntegrityRun runId with
  | .error message => .failing runId message
  | .ok finalState => .finishing runId finalState.stopRequested

/-- One statement of `process_run`. -/
def work (cfg : ChecksumConfig) (runId : Nat) : Input → Board → Task → Option (Board × Phase)
  | .proceed,b,.opening => some (b,opened b.db runId)
  | .proceed,b,.nextPair _ [] => some (b,.working runId .concluding)
  | .proceed,b,.nextPair recover (pair::pairs) =>
    let workers := max 1 (poolSizeForPair pair.primaryMediaType pair.secondaryMediaType cfg)
    some ({ b with db := b.db.setIntegrityRunActiveWorkers runId workers },
      .working runId (.checking ⟨recover,pair,1,pairs⟩))
  | .deadline passed,b,.checking at_ => some (b,checked b.db runId at_ passed)
  | .proceed,b,.halting => some ({ b with db := b.db.setIntegrityRunActiveWorkers runId 0 },.halted runId)
  | .page tieBreak,b,.listing at_ => some (b,.working runId (listed b.db at_ tieBreak))
  | .record outcome now,b,.recording at_ last (file::files) =>
    some ({ b with db := b.db.updateTrackedFileLastIntegrityCheckAt file.id now },
      .working runId (.appending at_ last file outcome files))
  | .proceed,b,.recording at_ last [] =>
    some (b,.working runId (if last then .leavingPair at_.recover at_.pairs else
      .checking { at_ with page := at_.page + 1 }))
  | .proceed,b,.appending at_ last file outcome files => some (appended b runId at_ last file outcome files)
  | .proceed,b,.counting at_ last outcome files =>
    some ({ b with db := b.db.incrementIntegrityRunProgress runId outcome.needsAttention.toNat outcome.recovered.toNat },
      .working runId (.recording at_ last files))
  | .proceed,b,.leavingPair recover pairs =>
    some ({ b with db := b.db.setIntegrityRunActiveWorkers runId 0 },.working runId (.nextPair recover pairs))
  | .proceed,b,.concluding => some (b,concluded b.db runId)
  | _,_,_ => none

/-- The insert of a starter, which has found no active run. -/
def created (b : Board) (request : Request) (totalFiles : Nat) : Board × Phase :=
  match b.db.createIntegrityRun request.scopeDrivePairId request.recover request.trigger totalFiles with
  | (.ok run,db) => ({ b with db },.working run.id .opening)
  | (.error _,_) => (b,.idle)

/-- An operation can `leave` at any point, as when its process is killed. -/
def turn (cfg : ChecksumConfig) : Input → Board → Phase → Option (Board × Phase)
  | .leave,b,_ => some (b,.idle)
  | .start request,b,.idle => some (b,if b.db.getActiveIntegrityRun.isSome then .idle else .starting request)
  | .proceed,b,.starting request =>
    some (b,.creating request (b.db.countTrackedFiles request.scopeDrivePairId))
  | .proceed,b,.creating request totalFiles => some (created b request totalFiles)
  | .fail message,b,.working runId _ => some (b,.failing runId message)
  | .fail message,b,.halted runId => some (b,.failing runId message)
  | .fail message,b,.returning runId => some (b,.failing runId message)
  | .fail message,b,.finishing runId _ => some (b,.failing runId message)
  | .finish now,b,.halted runId => some (ended b runId .stopped none now,.returning runId)
  | .proceed,b,.returning runId => some ({ b with db := b.db.setIntegrityRunActiveWorkers runId 0 },.idle)
  | .finish now,b,.finishing runId stopRequested =>
    some (ended b runId (if stopRequested then .stopped else .completed) none now,.idle)
  | .finish now,b,.failing runId message => some (ended b runId .failed (some message) now,.idle)
  | input,b,.working runId task => work cfg runId input b task
  | _,_,_ => none

def outside : Event → Board → Board
  | .requestStop runId,b => { b with db := b.db.requestIntegrityRunStop runId }
  | .cleanup now,b =>
    { db := b.db.cleanupStaleIntegrityRuns
      endedAt := fun id => if (b.db.integrityRuns.find? id).any (fun run => decide (IsActive run)) then some now
        else b.endedAt id }
  | .elsewhere db,b =>
    { b with db := { db with integrityRuns := b.db.integrityRuns,integrityRunResults := b.db.integrityRunResults } }

abbrev Actors := Interleaved Board Phase

def machine (cfg : ChecksumConfig) : Machine Actors (Move Input Event) := Interleaved.machine (turn cfg) outside

theorem record_alone {cfg : ChecksumConfig} {clock : Clock} {runId : Nat} {at_ : Position} {last : Bool} {file : TrackedFile}
    {files : List TrackedFile} {outcome : Outcome} {b : Board} {s t : RunWorld} (tables : s.world.db = b.db)
    (ran : recordResult clock runId file outcome.status outcome.recovered outcome.needsAttention s = .ok () t) :
    Interleaved.alone (turn cfg) [.record outcome (clock.now s.readings),.proceed,.proceed]
        (b,.working runId (.recording at_ last (file::files))) =
      some ({ b with db := t.world.db },.working runId (.recording at_ last files)) := by
  obtain ⟨now,u,read,stamps⟩ := Effect.bind_success ran
  cases read
  obtain ⟨_,v,stamped,appends⟩ := Effect.bind_success stamps
  cases stamped
  obtain ⟨row,x,stored,counts⟩ := Effect.bind_success appends
  cases counts
  obtain ⟨w,append,rfl⟩ := onWorld_success stored
  obtain ⟨id,y,inserted,readBack⟩ := Effect.bind_success append
  obtain rfl := (Act.query_success readBack).2
  have written := Act.insertOrFail_value inserted
  simp only [tables] at written
  simp only [Interleaved.alone,turn,work,Option.bind_some,appended,written]

/-! Who works on which run. -/

def Phase.run? : Phase → Option Nat
  | .working runId _ => some runId
  | .halted runId => some runId
  | .returning runId => some runId
  | .finishing runId _ => some runId
  | .failing runId _ => some runId
  | _ => none

/-- `process_run` executes and has not yet marked the end of its run. -/
def Phase.open? : Phase → Option Nat
  | .working runId _ => some runId
  | .halted runId => some runId
  | .finishing runId _ => some runId
  | _ => none

/-- `process_run` executes. -/
def Phase.executing? : Phase → Option Nat
  | .returning runId => some runId
  | phase => phase.open?

/-- The end of the run is still to be marked. -/
def Phase.owing? : Phase → Option Nat
  | .failing runId _ => some runId
  | phase => phase.open?

/-! What one statement does to the rows. -/

/-- The rows of a run, with those of its results. -/
structure Same (id : Nat) (b c : Board) : Prop where
  row : c.db.integrityRuns.find? id = b.db.integrityRuns.find? id
  endedAt : c.endedAt id = b.endedAt id
  results : c.db.integrityRunResults.rows.filter (fun result => result.runId == id) =
    b.db.integrityRunResults.rows.filter (fun result => result.runId == id)

theorem Same.refl (id : Nat) (b : Board) : Same id b b := ⟨rfl,rfl,rfl⟩

theorem Same.trans {id : Nat} {a b c : Board} (first : Same id a b) (second : Same id b c) : Same id a c :=
  ⟨second.row.trans first.row,second.endedAt.trans first.endedAt,second.results.trans first.results⟩

theorem find?_updateIntegrityRun (db : Db) (runId id : Nat) (change : IntegrityRun → IntegrityRun) (keepsId) :
    (db.updateIntegrityRun runId change keepsId).integrityRuns.find? id =
      if id = runId then (db.integrityRuns.find? id).map change else db.integrityRuns.find? id := by
  rw [Db.updateIntegrityRun,Table.find?_updateWhere]
  cases found : db.integrityRuns.find? id with
  | none => rw [Option.map_none,Option.map_none,ite_self]
  | some run =>
    have key : run.id = id := Table.find?_key found
    by_cases same : id = runId
    · simp [key,same]
    · simp [key,same]

/-- A statement that changes the run's own row. -/
theorem same_updateIntegrityRun {b : Board} {runId id : Nat} (change : IntegrityRun → IntegrityRun) (keepsId)
    (other : id ≠ runId) : Same id b { b with db := b.db.updateIntegrityRun runId change keepsId } := by
  refine ⟨?_,rfl,rfl⟩
  exact (find?_updateIntegrityRun b.db runId id change keepsId).trans (if_neg other)

/-- Statements of a run: only its own rows change, and what they keep of its row. -/
structure Writes (runId : Nat) (P : IntegrityRun → IntegrityRun → Prop) (b c : Board) : Prop where
  others : ∀ id, id ≠ runId → Same id b c
  own : ∀ run, b.db.integrityRuns.find? runId = some run →
    ∃ now, c.db.integrityRuns.find? runId = some now ∧ P run now

theorem Writes.of_eq {runId : Nat} {P : IntegrityRun → IntegrityRun → Prop} {b c : Board} (refl : ∀ run, P run run)
    (runs : c.db.integrityRuns = b.db.integrityRuns) (ends : c.endedAt = b.endedAt)
    (results : c.db.integrityRunResults = b.db.integrityRunResults) : Writes runId P b c where
  others := fun id _ => ⟨by rw [runs],by rw [ends],by rw [results]⟩
  own := fun run found => ⟨run,runs ▸ found,refl run⟩

theorem writes_updateIntegrityRun {b : Board} {runId : Nat} {P : IntegrityRun → IntegrityRun → Prop}
    (change : IntegrityRun → IntegrityRun) (keepsId) (changed : ∀ run, P run (change run)) :
    Writes runId P b { b with db := b.db.updateIntegrityRun runId change keepsId } where
  others := fun id other => same_updateIntegrityRun change keepsId other
  own := by
    intro run found
    refine ⟨change run,?_,changed run⟩
    have row := find?_updateIntegrityRun b.db runId runId change keepsId
    rw [if_pos rfl,found] at row
    exact row

theorem writes_ended (b : Board) (runId : Nat) (status : RunStatus) (errorMessage : Option String) (now : Nat) :
    Writes runId (fun _ run => run.status = status ∧ run.activeWorkers = 0) b (ended b runId status errorMessage now) where
  others := by
    intro id other
    have row : Same id b { b with db := b.db.finishIntegrityRun runId status errorMessage } :=
      same_updateIntegrityRun _ _ other
    exact ⟨row.row,if_neg fun both => other both.1,row.results⟩
  own := by
    intro run found
    refine ⟨{ run with status,errorMessage,activeWorkers := 0 },?_,rfl,rfl⟩
    have row := find?_updateIntegrityRun b.db runId runId
      (fun run => { run with status,errorMessage,activeWorkers := 0 }) (fun _ => rfl)
    rw [if_pos rfl,found] at row
    exact row

/-- The process goes on with its run, or it has failed. -/
def GoesOn (runId : Nat) (phase : Phase) : Prop := phase.open? = some runId ∨ ∃ message, phase = .failing runId message

theorem opened_goesOn (db : Db) (runId : Nat) : GoesOn runId (opened db runId) := by
  unfold opened
  split
  · exact .inr ⟨_,rfl⟩
  · split
    · exact .inr ⟨_,rfl⟩
    · exact .inl rfl

theorem checked_goesOn (db : Db) (runId : Nat) (at_ : Position) (passed : Bool) :
    GoesOn runId (checked db runId at_ passed) := by
  unfold checked
  split
  · exact .inr ⟨_,rfl⟩
  · exact .inl rfl

theorem concluded_goesOn (db : Db) (runId : Nat) : GoesOn runId (concluded db runId) := by
  unfold concluded
  split
  · exact .inr ⟨_,rfl⟩
  · exact .inl rfl

theorem appended_writes (b : Board) (runId : Nat) (at_ : Position) (last : Bool) (file : TrackedFile)
    (outcome : Outcome) (files : List TrackedFile) :
    Writes runId (fun run now => now.status = run.status) b (appended b runId at_ last file outcome files).1 ∧
      GoesOn runId (appended b runId at_ last file outcome files).2 := by
  unfold appended Db.insertIntegrityRunResult
  split
  · rename_i id db inserted
    split at inserted
    · cases inserted
      refine ⟨⟨fun id other => ⟨rfl,rfl,?_⟩,fun run found => ⟨run,found,rfl⟩⟩,.inl rfl⟩
      have apart : (runId == id) = false := by simpa using Ne.symm other
      simp [apart]
    · cases inserted
  · exact ⟨.of_eq (fun _ => rfl) rfl rfl rfl,.inr ⟨_,rfl⟩⟩

theorem work_writes {cfg : ChecksumConfig} {runId : Nat} {input : Input} {b : Board} {task : Task}
    {next : Board × Phase} (worked : work cfg runId input b task = some next) :
    Writes runId (fun run now => now.status = run.status) b next.1 ∧ GoesOn runId next.2 := by
  have still : Writes runId (fun run now => now.status = run.status) b b := .of_eq (fun _ => rfl) rfl rfl rfl
  unfold work at worked
  split at worked
  · cases worked
    exact ⟨still,opened_goesOn b.db runId⟩
  · cases worked
    exact ⟨still,.inl rfl⟩
  · cases worked
    exact ⟨writes_updateIntegrityRun _ _ fun _ => rfl,.inl rfl⟩
  · cases worked
    exact ⟨still,checked_goesOn b.db runId _ _⟩
  · cases worked
    exact ⟨writes_updateIntegrityRun _ _ fun _ => rfl,.inl rfl⟩
  · cases worked
    exact ⟨still,.inl rfl⟩
  · cases worked
    exact ⟨.of_eq (fun _ => rfl) rfl rfl rfl,.inl rfl⟩
  · cases worked
    exact ⟨still,.inl rfl⟩
  · cases worked
    exact appended_writes b runId _ _ _ _ _
  · cases worked
    exact ⟨writes_updateIntegrityRun _ _ fun _ => rfl,.inl rfl⟩
  · cases worked
    exact ⟨writes_updateIntegrityRun _ _ fun _ => rfl,.inl rfl⟩
  · cases worked
    exact ⟨still,concluded_goesOn b.db runId⟩
  · cases worked

/-- Everything that a turn can do. -/
inductive Turned (b : Board) (phase : Phase) (next : Board × Phase) : Prop
  | still (same : next.1 = b) (idle : next.2.run? = none)
  | created (runs : ∀ id, id ≠ b.db.integrityRuns.lastId + 1 → Same id b next.1) (runId : Nat)
      (new : runId = b.db.integrityRuns.lastId + 1) (creating : ∃ request totalFiles, phase = .creating request totalFiles)
      (row : ∃ run, next.1.db.integrityRuns.find? runId = some run ∧ IsActive run) (opens : next.2.open? = some runId)
  | worked (runId : Nat) (own : phase.open? = some runId)
      (writes : Writes runId (fun run now => now.status = run.status) b next.1) (goes : GoesOn runId next.2)
  | gaveUp (runId : Nat) (same : next.1 = b) (returning : phase = .returning runId)
      (fails : ∃ message, next.2 = .failing runId message)
  | stopped (runId : Nat) (halted : phase = .halted runId)
      (writes : Writes runId (fun _ now => now.status = .stopped ∧ now.activeWorkers = 0) b next.1)
      (returns : next.2 = .returning runId)
  | returned (runId : Nat) (returning : phase = .returning runId)
      (board : next.1 = { b with db := b.db.setIntegrityRunActiveWorkers runId 0 }) (idle : next.2 = .idle)
  | finished (runId : Nat) (status : RunStatus) (own : phase.owing? = some runId)
      (writes : Writes runId (fun _ now => now.status = status ∧ now.activeWorkers = 0) b next.1) (idle : next.2 = .idle)

theorem created_turned (b : Board) (request : Request) (totalFiles : Nat) :
    Turned b (.creating request totalFiles) (created b request totalFiles) := by
  unfold created Db.createIntegrityRun
  split
  · rename_i run db inserted
    split at inserted
    · cases inserted
      have fresh (id : Nat) := Table.find?_insert b.db.integrityRuns (fun id =>
        { id,scopeDrivePairId := request.scopeDrivePairId,recover := request.recover,trigger := request.trigger,
          status := .running,totalFiles,processedFiles := 0,attentionFiles := 0,recoveredFiles := 0,activeWorkers := 0,
          stopRequested := false,errorMessage := none }) (fun _ => rfl) id
      have new := (fresh (b.db.integrityRuns.lastId + 1)).trans (if_pos rfl)
      refine .created (fun id other => ⟨?_,rfl,rfl⟩) _ rfl ⟨request,totalFiles,rfl⟩ ⟨_,new,.inl rfl⟩ rfl
      exact (fresh id).trans (if_neg other)
    · cases inserted
  · exact .still rfl rfl

theorem turn_turned {cfg : ChecksumConfig} {input : Input} {b : Board} {phase : Phase} {next : Board × Phase}
    (turned : turn cfg input b phase = some next) : Turned b phase next := by
  have still (runId : Nat) : Writes runId (fun run now => now.status = run.status) b b := .of_eq (fun _ => rfl) rfl rfl rfl
  unfold turn at turned
  split at turned
  · cases turned
    exact .still rfl rfl
  · cases turned
    refine .still rfl ?_
    split
    · rfl
    · rfl
  · cases turned
    exact .still rfl rfl
  · cases turned
    exact created_turned b _ _
  · cases turned
    exact .worked _ rfl (still _) (.inr ⟨_,rfl⟩)
  · cases turned
    exact .worked _ rfl (still _) (.inr ⟨_,rfl⟩)
  · cases turned
    exact .gaveUp _ rfl rfl ⟨_,rfl⟩
  · cases turned
    exact .worked _ rfl (still _) (.inr ⟨_,rfl⟩)
  · cases turned
    exact .stopped _ rfl (writes_ended b _ _ _ _) rfl
  · cases turned
    exact .returned _ rfl rfl rfl
  · cases turned
    exact .finished _ _ rfl (writes_ended b _ _ _ _) rfl
  · cases turned
    exact .finished _ _ rfl (writes_ended b _ _ _ _) rfl
  · obtain ⟨writes,goes⟩ := work_writes turned
    exact .worked _ rfl writes goes
  · cases turned

theorem run?_of_open? {phase : Phase} {runId : Nat} (own : phase.open? = some runId) : phase.run? = some runId := by
  cases phase <;> first | exact own | cases own

theorem run?_of_owing? {phase : Phase} {runId : Nat} (own : phase.owing? = some runId) : phase.run? = some runId := by
  cases phase <;> first | exact own | cases own

theorem owing?_of_open? {phase : Phase} {runId : Nat} (own : phase.open? = some runId) : phase.owing? = some runId := by
  cases phase <;> first | exact own | cases own

theorem owing?_of_run? {phase : Phase} {runId : Nat} (own : phase.run? = some runId)
    (other : phase ≠ .returning runId) : phase.owing? = some runId := by
  cases phase <;> first | exact own | (cases own; exact absurd rfl other)

theorem GoesOn.run? {runId : Nat} {phase : Phase} (goes : GoesOn runId phase) : phase.run? = some runId := by
  rcases goes with opens | ⟨message,rfl⟩
  · exact run?_of_open? opens
  · rfl

theorem unused_lastId (b : Board) : b.db.integrityRuns.find? (b.db.integrityRuns.lastId + 1) = none :=
  Table.find?_next b.db.integrityRuns

theorem Turned.same {b : Board} {phase : Phase} {next : Board × Phase} (turned : Turned b phase next) {id : Nat}
    {run : IntegrityRun} (found : b.db.integrityRuns.find? id = some run) (other : phase.run? ≠ some id) :
    Same id b next.1 := by
  cases turned with
  | still same _ => exact same ▸ Same.refl id b
  | created runs _ _ _ _ _ =>
    apply runs
    rintro rfl
    rw [unused_lastId] at found
    cases found
  | worked runId own writes _ => exact writes.others id fun same => other (same ▸ run?_of_open? own)
  | gaveUp _ same _ _ => exact same ▸ Same.refl id b
  | stopped runId halted writes _ => exact writes.others id fun same => other (by rw [halted,same]; rfl)
  | returned runId returning board _ =>
    rw [board]
    exact same_updateIntegrityRun _ _ fun same => other (by rw [returning,same]; rfl)
  | finished runId _ own writes _ => exact writes.others id fun same => other (same ▸ run?_of_owing? own)

theorem Turned.run {b : Board} {phase : Phase} {next : Board × Phase} (turned : Turned b phase next) {id : Nat}
    (own : next.2.run? = some id) : phase.run? = some id ∨ b.db.integrityRuns.find? id = none := by
  cases turned with
  | still _ idle =>
    rw [idle] at own
    cases own
  | created _ runId new _ _ opens =>
    rw [run?_of_open? opens] at own
    cases own
    exact .inr (new ▸ unused_lastId b)
  | worked runId before _ goes =>
    rw [goes.run?] at own
    exact .inl (own ▸ run?_of_open? before)
  | gaveUp runId _ returning fails =>
    obtain ⟨message,fails⟩ := fails
    rw [fails] at own
    rw [returning]
    exact .inl own
  | stopped runId halted _ returns =>
    rw [returns] at own
    rw [halted]
    exact .inl own
  | returned _ _ _ idle =>
    rw [idle] at own
    cases own
  | finished _ _ _ _ idle =>
    rw [idle] at own
    cases own

/-- No run has two operations, and each has its row. -/
structure Apart (s : Actors) : Prop where
  there : ∀ i id, (s.op i).run? = some id → ∃ run, s.shared.db.integrityRuns.find? id = some run
  single : ∀ i j id, (s.op i).run? = some id → (s.op j).run? = some id → i = j

theorem Apart.others {s : Actors} {i j id : Nat} {next : Board × Phase} (apart : Apart s)
    (turned : Turned s.shared (s.op i) next) (other : j ≠ i) (own : (s.op j).run? = some id) :
    Same id s.shared next.1 := by
  obtain ⟨run,found⟩ := apart.there j id own
  exact turned.same found fun mine => other (apart.single j i id own mine)

theorem Turned.there {b : Board} {phase : Phase} {next : Board × Phase} (turned : Turned b phase next) {id : Nat}
    (own : next.2.run? = some id)
    (before : phase.run? = some id → ∃ run, b.db.integrityRuns.find? id = some run) :
    ∃ run, next.1.db.integrityRuns.find? id = some run := by
  cases turned with
  | still _ idle =>
    rw [idle] at own
    cases own
  | created _ runId _ _ row opens =>
    rw [run?_of_open? opens] at own
    cases own
    obtain ⟨run,found,_⟩ := row
    exact ⟨run,found⟩
  | worked runId opened writes goes =>
    rw [goes.run?] at own
    cases own
    obtain ⟨run,found⟩ := before (run?_of_open? opened)
    obtain ⟨now,written,_⟩ := writes.own run found
    exact ⟨now,written⟩
  | gaveUp runId same returning fails =>
    obtain ⟨message,fails⟩ := fails
    rw [fails] at own
    rw [same]
    exact before (by rw [returning]; exact own)
  | stopped runId halted writes returns =>
    rw [returns] at own
    cases own
    obtain ⟨run,found⟩ := before (by rw [halted]; rfl)
    obtain ⟨now,written,_⟩ := writes.own run found
    exact ⟨now,written⟩
  | returned _ _ _ idle =>
    rw [idle] at own
    cases own
  | finished _ _ _ _ idle =>
    rw [idle] at own
    cases own

theorem Apart.moved {s : Actors} {i : Nat} {next : Board × Phase} (apart : Apart s)
    (turned : Turned s.shared (s.op i) next) : Apart (s.moved i next.1 next.2) where
  there := by
    intro j id own
    by_cases mine : j = i
    · subst mine
      rw [Interleaved.moved_same] at own
      exact turned.there own (apart.there j id)
    · rw [s.moved_other _ _ mine] at own
      obtain ⟨run,found⟩ := apart.there j id own
      exact ⟨run,(apart.others turned mine own).row.trans found⟩
  single := by
    have free {j id : Nat} (other : j ≠ i) (own : (s.op j).run? = some id) (new : next.2.run? = some id) : False := by
      rcases turned.run new with held | unused
      · exact other (apart.single j i id own held)
      · obtain ⟨run,found⟩ := apart.there j id own
        exact absurd (unused.symm.trans found) nofun
    intro j k id first second
    apply Interleaved.single_moved (R := fun a b : Phase => ∃ id, a.run? = some id ∧ b.run? = some id)
      (fun _ _ ⟨id,own,same⟩ => ⟨id,same,own⟩) _ _ ⟨id,first,second⟩
    · exact fun j k ⟨id,own,same⟩ => apart.single j k id own same
    · exact fun j other ⟨id,own,new⟩ => free other own new

/-! What the outside does. -/

theorem find?_cleanup (db : Db) (id : Nat) :
    db.cleanupStaleIntegrityRuns.integrityRuns.find? id = (db.integrityRuns.find? id).map (fun run =>
      if IsActive run then
        { run with status := .failed,activeWorkers := 0,errorMessage := some "Interrupted by service restart" }
      else run) := by
  rw [Db.cleanupStaleIntegrityRuns,Table.find?_updateWhere]
  congr 1
  funext run
  by_cases active : IsActive run
  · rw [if_pos active,if_pos (by simpa [IsActive] using active)]
  · rw [if_neg active,if_neg (by simpa [IsActive] using active)]

theorem find?_requestStop (db : Db) (runId id : Nat) :
    (db.requestIntegrityRunStop runId).integrityRuns.find? id = if id = runId then
      (db.integrityRuns.find? id).map (fun run => { run with
        stopRequested := true,status := if run.status = .running then .stopping else run.status })
    else db.integrityRuns.find? id :=
  find?_updateIntegrityRun db runId id _ _

theorem outside_run (event : Event) {b : Board} {id : Nat} {run : IntegrityRun}
    (found : b.db.integrityRuns.find? id = some run) :
    ∃ now, (outside event b).db.integrityRuns.find? id = some now ∧
      (¬IsActive run → now.status = run.status ∧ now.activeWorkers = run.activeWorkers) ∧
      ((∀ time, event ≠ .cleanup time) → (IsActive now ↔ IsActive run)) := by
  cases event with
  | requestStop runId =>
    rw [outside,find?_requestStop,found]
    by_cases same : id = runId
    · refine ⟨_,if_pos same,fun ended => ⟨if_neg fun running => ended (.inl running),rfl⟩,fun _ => ?_⟩
      by_cases running : run.status = .running
      · exact iff_of_true (by simp [IsActive,running]) (.inl running)
      · simp [IsActive,running]
    · exact ⟨run,if_neg same,fun _ => ⟨rfl,rfl⟩,fun _ => Iff.rfl⟩
  | cleanup now =>
    rw [outside,find?_cleanup,found]
    refine ⟨_,rfl,fun ended => ?_,fun none => absurd rfl (none now)⟩
    dsimp only
    rw [if_neg ended]
    exact ⟨rfl,rfl⟩
  | elsewhere db => exact ⟨run,found,fun _ => ⟨rfl,rfl⟩,fun _ => Iff.rfl⟩

theorem Apart.outside {s : Actors} (event : Event) (apart : Apart s) :
    Apart { s with shared := outside event s.shared } where
  there := by
    intro i id own
    obtain ⟨run,found⟩ := apart.there i id own
    obtain ⟨now,there,_⟩ := outside_run event found
    exact ⟨now,there⟩
  single := apart.single

/-! One run at a time. -/

/-- Never two at once, and nobody else fails the run of one that executes. -/
structure OneAtATime (s : Actors) : Prop where
  alone : ∀ i j id other, (s.op i).executing? = some id → (s.op j).executing? = some other → i = j
  unfailed : ∀ i id run, (s.op i).executing? = some id → s.shared.db.integrityRuns.find? id = some run →
    run.status ≠ .failed

/-- The check of a starter still holds at its insert, no `process_run` that has marked its end is yet to return,
and a service starts only while none executes. -/
def Guarded : Move Input Event → Actors → Prop
  | .turn i .proceed,s => (∃ request totalFiles, s.op i = .creating request totalFiles) →
    s.shared.db.getActiveIntegrityRun = none ∧ ∀ j id, s.op j ≠ .returning id
  | .outside (.cleanup _),s => ∀ j, (s.op j).open? = none
  | _,_ => True

structure Kept (s : Actors) : Prop where
  apart : Apart s
  active : ∀ i id, (s.op i).open? = some id → ∃ run, s.shared.db.integrityRuns.find? id = some run ∧ IsActive run
  returned : ∀ i id, s.op i = .returning id →
    ∃ run, s.shared.db.integrityRuns.find? id = some run ∧ run.status = .stopped
  alone : ∀ i j id other, (s.op i).executing? = some id → (s.op j).executing? = some other → i = j

theorem executing?_cases {phase : Phase} {id : Nat} (executes : phase.executing? = some id) :
    phase.open? = some id ∨ phase = .returning id := by
  cases phase <;> first | exact .inl executes | (cases executes; exact .inr rfl)

theorem getActiveIntegrityRun_none {db : Db} {run : IntegrityRun} (none : db.getActiveIntegrityRun = none)
    (present : run ∈ db.integrityRuns.rows) : ¬IsActive run := by
  have passed := List.find?_eq_none.mp none run (List.mem_reverse.mpr present)
  simpa [IsActive] using passed

theorem Kept.oneAtATime {s : Actors} (kept : Kept s) : OneAtATime s where
  alone := kept.alone
  unfailed := by
    intro i id run executes found failed
    rcases executing?_cases executes with opened | returning
    · obtain ⟨row,there,active⟩ := kept.active i id opened
      cases found.symm.trans there
      simp [IsActive,failed] at active
    · obtain ⟨row,there,stopped⟩ := kept.returned i id returning
      cases found.symm.trans there
      cases failed.symm.trans stopped

theorem isActive_of_status {run now : IntegrityRun} (same : now.status = run.status) (active : IsActive run) :
    IsActive now := by
  rw [IsActive,same]
  exact active

theorem Turned.active {b : Board} {phase : Phase} {next : Board × Phase} (turned : Turned b phase next) {id : Nat}
    (own : next.2.open? = some id)
    (before : phase.open? = some id → ∃ run, b.db.integrityRuns.find? id = some run ∧ IsActive run) :
    ∃ run, next.1.db.integrityRuns.find? id = some run ∧ IsActive run := by
  have held := run?_of_open? own
  cases turned with
  | still _ idle =>
    rw [idle] at held
    cases held
  | created _ runId _ _ row opens =>
    rw [opens] at own
    cases own
    exact row
  | worked runId opened writes goes =>
    rw [goes.run?] at held
    cases held
    obtain ⟨run,found,active⟩ := before opened
    obtain ⟨now,written,same⟩ := writes.own run found
    exact ⟨now,written,isActive_of_status same active⟩
  | gaveUp _ _ _ fails =>
    obtain ⟨message,fails⟩ := fails
    rw [fails] at own
    cases own
  | stopped _ _ _ returns =>
    rw [returns] at own
    cases own
  | returned _ _ _ idle =>
    rw [idle] at own
    cases own
  | finished _ _ _ _ idle =>
    rw [idle] at own
    cases own

theorem Turned.returning {b : Board} {phase : Phase} {next : Board × Phase} (turned : Turned b phase next) {id : Nat}
    (own : next.2 = .returning id) : phase = .halted id ∧
      Writes id (fun _ now => now.status = .stopped ∧ now.activeWorkers = 0) b next.1 := by
  cases turned with
  | still _ idle =>
    rw [own] at idle
    cases idle
  | created _ _ _ _ _ opens =>
    rw [own] at opens
    cases opens
  | worked _ _ _ goes =>
    rcases goes with opens | ⟨_,fails⟩
    · rw [own] at opens
      cases opens
    · cases own.symm.trans fails
  | gaveUp _ _ _ fails =>
    obtain ⟨message,fails⟩ := fails
    cases own.symm.trans fails
  | stopped runId halted writes returns =>
    cases own.symm.trans returns
    exact ⟨halted,writes⟩
  | returned _ _ _ idle => cases own.symm.trans idle
  | finished _ _ _ _ idle => cases own.symm.trans idle

theorem Turned.executing {b : Board} {phase : Phase} {next : Board × Phase} (turned : Turned b phase next) {id : Nat}
    (own : next.2.executing? = some id) :
    phase.executing? = some id ∨ ∃ request totalFiles, phase = .creating request totalFiles := by
  rcases executing?_cases own with opens | returns
  · cases turned with
    | still _ idle =>
      rw [run?_of_open? opens] at idle
      cases idle
    | created _ _ _ creating _ _ => exact .inr creating
    | worked runId opened _ goes =>
      have same := goes.run?.symm.trans (run?_of_open? opens)
      cases same
      refine .inl ?_
      cases phase <;> first | exact opened | cases opened
    | gaveUp _ _ _ fails =>
      obtain ⟨message,fails⟩ := fails
      rw [fails] at opens
      cases opens
    | stopped _ _ _ returns =>
      rw [returns] at opens
      cases opens
    | returned _ _ _ idle =>
      rw [idle] at opens
      cases opens
    | finished _ _ _ _ idle =>
      rw [idle] at opens
      cases opens
  · rw [(turned.returning returns).1]
    exact .inl rfl

theorem kept_turn {cfg : ChecksumConfig} {s : Actors} {i : Nat} {input : Input} {next : Board × Phase} (kept : Kept s)
    (guarded : Guarded (.turn i input) s) (taken : turn cfg input s.shared (s.op i) = some next) :
    Kept (s.moved i next.1 next.2) where
  apart := kept.apart.moved (turn_turned taken)
  active := by
    intro j id own
    by_cases mine : j = i
    · subst mine
      rw [Interleaved.moved_same] at own
      exact (turn_turned taken).active own (kept.active j id)
    · rw [s.moved_other _ _ mine] at own
      obtain ⟨run,found,active⟩ := kept.active j id own
      exact ⟨run,(kept.apart.others (turn_turned taken) mine (run?_of_open? own)).row.trans found,active⟩
  returned := by
    intro j id own
    by_cases mine : j = i
    · subst mine
      rw [Interleaved.moved_same] at own
      obtain ⟨halted,writes⟩ := (turn_turned taken).returning own
      obtain ⟨run,found,_⟩ := kept.active j id (by rw [halted]; rfl)
      obtain ⟨now,written,stopped,_⟩ := writes.own run found
      exact ⟨now,written,stopped⟩
    · rw [s.moved_other _ _ mine] at own
      obtain ⟨run,found,stopped⟩ := kept.returned j id own
      exact ⟨run,(kept.apart.others (turn_turned taken) mine (by rw [own]; rfl)).row.trans found,stopped⟩
  alone := by
    have free {j id other : Nat} (apart : j ≠ i) (own : (s.op j).executing? = some id)
        (new : next.2.executing? = some other) : False := by
      rcases (turn_turned taken).executing new with before | creating
      · exact apart (kept.alone j i id other own before)
      · have proceeds : input = .proceed ∨ input = .leave := by
          obtain ⟨request,totalFiles,at_⟩ := creating
          rw [at_] at taken
          cases input <;> first | exact .inl rfl | exact .inr rfl | cases taken
        rcases proceeds with rfl | rfl
        · obtain ⟨none,unreturned⟩ := guarded creating
          rcases executing?_cases own with opened | returning
          · obtain ⟨run,found,active⟩ := kept.active j id opened
            exact getActiveIntegrityRun_none none (Table.mem_of_find? found) active
          · exact unreturned j id returning
        · cases taken
          cases new
    intro j k id other first second
    apply Interleaved.single_moved (R := fun a b : Phase => ∃ id other, a.executing? = some id ∧ b.executing? = some other)
      (fun _ _ ⟨id,other,own,same⟩ => ⟨other,id,same,own⟩) _ _ ⟨id,other,first,second⟩
    · exact fun j k ⟨id,other,own,same⟩ => kept.alone j k id other own same
    · exact fun j apart ⟨id,other,own,new⟩ => free apart own new

theorem kept_outside {s : Actors} {event : Event} (kept : Kept s) (guarded : Guarded (.outside event) s) :
    Kept { s with shared := outside event s.shared } where
  apart := kept.apart.outside event
  active := by
    intro i id own
    obtain ⟨run,found,active⟩ := kept.active i id own
    obtain ⟨now,there,_,only⟩ := outside_run event found
    refine ⟨now,there,(only ?_).mpr active⟩
    rintro time rfl
    exact absurd ((guarded i).symm.trans own) nofun
  returned := by
    intro i id own
    obtain ⟨run,found,stopped⟩ := kept.returned i id own
    obtain ⟨now,there,ended,_⟩ := outside_run event found
    have inactive : ¬IsActive run := by simp [IsActive,stopped]
    exact ⟨now,there,(ended inactive).1.trans stopped⟩
  alone := kept.alone

/-- In a run whose steps all meet the condition there is one `process_run` at most, and no other actor fails its run. -/
theorem one_run_at_a_time {cfg : ChecksumConfig} {start s : Actors} (idle : ∀ i, start.op i = .idle)
    (reached : (machine cfg).Reaches Guarded start s) : OneAtATime s := by
  have free (i id : Nat) (phase : Phase → Option Nat) (none : phase .idle = none) :
      ¬ phase (start.op i) = some id := by
    rw [idle i,none]
    exact nofun
  have kept : Kept s := by
    apply Interleaved.invariant_of_turns reached
    · constructor
      · constructor
        · exact fun i id own => (free i id Phase.run? rfl own).elim
        · exact fun i j id own _ => (free i id Phase.run? rfl own).elim
      · exact fun i id own => (free i id Phase.open? rfl own).elim
      · intro i id own
        rw [idle i] at own
        cases own
      · exact fun i j id other own _ => (free i id Phase.executing? rfl own).elim
    · intro i input s next holds guarded taken
      exact kept_turn holds guarded taken
    · intro event s holds guarded
      exact kept_outside holds guarded
  exact kept.oneAtATime

/-! Two starters: the second one's check comes before the first one's insert. -/

def quiet : Actors := ⟨⟨Db.empty,fun _ => none⟩,fun _ => .idle⟩

def request : Request := ⟨none,false,"api"⟩

def limits : ChecksumConfig := ⟨1,1⟩

theorem guarded_turn {start s t : Actors} (i : Nat) (input : Input)
    (before : (machine limits).Reaches Guarded start s ∧ ∀ j id, s.op j ≠ .returning id)
    (free : (∃ request totalFiles, s.op i = .creating request totalFiles) → s.shared.db.getActiveIntegrityRun = none)
    (taken : (machine limits).step (.turn i input) s = some t) (mine : ∀ id, t.op i ≠ .returning id) :
    (machine limits).Reaches Guarded start t ∧ ∀ j id, t.op j ≠ .returning id := by
  obtain ⟨reached,others⟩ := before
  obtain ⟨next,_,rfl⟩ := Option.map_eq_some_iff.mp taken
  refine ⟨.step _ reached ?_ taken,?_⟩
  · cases input with
    | proceed => exact fun creating => ⟨free creating,others⟩
    | _ => trivial
  · rw [Interleaved.moved_same] at mine
    exact Interleaved.forall_moved (P := fun phase : Phase => ∀ id, phase ≠ .returning id) mine fun j _ => others j

/-- A second starter is refused while the first run goes on; the first is stopped, and then the second starts. -/
def refusedThenStarted : List (Move Input Event) :=
  [.turn 0 (.start request),.turn 0 .proceed,.turn 0 .proceed,.turn 1 (.start request),.outside (.requestStop 1),
    .turn 0 .proceed,.turn 0 .proceed,.turn 0 .proceed,.turn 0 (.finish 7),.turn 1 (.start request),.turn 1 .proceed,
    .turn 1 .proceed]

theorem one_run_at_a_time_refused : ∃ s, (machine limits).exec quiet refusedThenStarted = some s ∧
    (s.shared.db.integrityRuns.find? 1).map IntegrityRun.status = some .stopped ∧
      (s.op 0).executing? = none ∧ (s.op 1).executing? = some 2 ∧ OneAtATime s := by
  have idle : (machine limits).Reaches Guarded quiet quiet ∧ ∀ j id, quiet.op j ≠ .returning id := ⟨.start,fun _ _ => nofun⟩
  have starting := guarded_turn 0 (.start request) idle nofun rfl (fun _ => nofun)
  have creating := guarded_turn 0 .proceed starting nofun rfl (fun _ => nofun)
  have working := guarded_turn 0 .proceed creating (fun _ => rfl) rfl (fun _ => nofun)
  have refused := guarded_turn 1 (.start request) working nofun rfl (fun _ => nofun)
  have asked : (machine limits).Reaches Guarded quiet _ ∧ ∀ j id, _ :=
    ⟨.step (.outside (.requestStop 1)) refused.1 trivial rfl,refused.2⟩
  have opened := guarded_turn 0 .proceed asked nofun rfl (fun _ => nofun)
  have paired := guarded_turn 0 .proceed opened nofun rfl (fun _ => nofun)
  have concluding := guarded_turn 0 .proceed paired nofun rfl (fun _ => nofun)
  have finished := guarded_turn 0 (.finish 7) concluding nofun rfl (fun _ => nofun)
  have startingToo := guarded_turn 1 (.start request) finished nofun rfl (fun _ => nofun)
  have creatingToo := guarded_turn 1 .proceed startingToo nofun rfl (fun _ => nofun)
  have workingToo := guarded_turn 1 .proceed creatingToo (fun _ => rfl) rfl (fun _ => nofun)
  exact ⟨_,rfl,rfl,rfl,rfl,@one_run_at_a_time limits quiet _ (fun _ => rfl) workingToo.1⟩

theorem starters_race : ¬ ∀ (cfg : ChecksumConfig) (start s : Actors), (∀ i, start.op i = .idle) →
    (machine cfg).Reaches (fun _ _ => True) start s → OneAtATime s := by
  intro one
  obtain ⟨s,ran,first,second⟩ : ∃ s, (machine limits).exec quiet [.turn 0 (.start request),.turn 1 (.start request),
      .turn 0 .proceed,.turn 0 .proceed,.turn 1 .proceed,.turn 1 .proceed] = some s ∧
      (s.op 0).executing? = some 1 ∧ (s.op 1).executing? = some 2 := ⟨_,rfl,rfl,rfl⟩
  have same := (one limits quiet s (fun _ => rfl) (Machine.reaches_of_exec ran)).alone 0 1 1 2 first second
  cases same

/-! The end of a run is final. -/

/-- No statement of `process_run` fails after it has marked its end, a service starts only while no run is under way,
and nobody stops what has ended. -/
def Orderly : Move Input Event → Actors → Prop
  | .turn i (.fail _),s => ∀ id, s.op i ≠ .returning id
  | .outside (.cleanup _),s => ∀ j, (s.op j).owing? = none
  | .outside (.requestStop id),s => ∀ run, s.shared.db.integrityRuns.find? id = some run →
    IsActive run ∨ run.stopRequested = true
  | _,_ => True

structure Settled (s : Actors) : Prop where
  apart : Apart s
  active : ∀ i id, (s.op i).owing? = some id → ∃ run, s.shared.db.integrityRuns.find? id = some run ∧ IsActive run
  returned : ∀ i id, s.op i = .returning id →
    ∃ run, s.shared.db.integrityRuns.find? id = some run ∧ run.status = .stopped ∧ run.activeWorkers = 0

theorem Turned.owing {b : Board} {phase : Phase} {next : Board × Phase} (turned : Turned b phase next) {id : Nat}
    (own : next.2.owing? = some id) (marked : phase = .returning id → next.2.run? = none)
    (before : phase.owing? = some id → ∃ run, b.db.integrityRuns.find? id = some run ∧ IsActive run) :
    ∃ run, next.1.db.integrityRuns.find? id = some run ∧ IsActive run := by
  have held := run?_of_owing? own
  cases turned with
  | still _ idle =>
    rw [idle] at held
    cases held
  | created _ runId _ _ row opens =>
    rw [owing?_of_open? opens] at own
    cases own
    exact row
  | worked runId opened writes goes =>
    rw [goes.run?] at held
    cases held
    obtain ⟨run,found,active⟩ := before (owing?_of_open? opened)
    obtain ⟨now,written,same⟩ := writes.own run found
    exact ⟨now,written,isActive_of_status same active⟩
  | gaveUp runId _ returning fails =>
    obtain ⟨message,fails⟩ := fails
    rw [fails] at held
    cases held
    have none := marked returning
    rw [fails] at none
    cases none
  | stopped _ _ _ returns =>
    rw [returns] at own
    cases own
  | returned _ _ _ idle =>
    rw [idle] at own
    cases own
  | finished _ _ _ _ idle =>
    rw [idle] at own
    cases own

/-- The statement after the end of a run was marked writes what is there. -/
theorem Turned.same_returning {b : Board} {next : Board × Phase} {id : Nat} (turned : Turned b (.returning id) next)
    {run : IntegrityRun} (found : b.db.integrityRuns.find? id = some run) (workers : run.activeWorkers = 0) :
    Same id b next.1 := by
  cases turned with
  | still same _ => exact same ▸ Same.refl id b
  | created _ _ _ creating _ _ =>
    obtain ⟨request,totalFiles,creating⟩ := creating
    cases creating
  | worked _ opened _ _ => cases opened
  | gaveUp _ same _ _ => exact same ▸ Same.refl id b
  | stopped _ halted _ _ => cases halted
  | returned runId returning board _ =>
    cases returning
    rw [board]
    refine ⟨?_,rfl,rfl⟩
    refine (find?_updateIntegrityRun b.db id id _ _).trans ?_
    rw [if_pos rfl,found,Option.map_some,← workers]
  | finished _ _ owes _ _ => cases owes

theorem Settled.same_turn {cfg : ChecksumConfig} {s : Actors} {i id : Nat} {input : Input} {next : Board × Phase}
    {run : IntegrityRun} (settled : Settled s) (taken : turn cfg input s.shared (s.op i) = some next)
    (found : s.shared.db.integrityRuns.find? id = some run) (ended : ¬IsActive run) : Same id s.shared next.1 := by
  have turned := turn_turned taken
  by_cases mine : (s.op i).run? = some id
  · by_cases returning : s.op i = .returning id
    · obtain ⟨row,there,_,workers⟩ := settled.returned i id returning
      rw [returning] at turned
      exact turned.same_returning there workers
    · obtain ⟨row,there,active⟩ := settled.active i id (owing?_of_run? mine returning)
      cases found.symm.trans there
      exact absurd active ended
  · exact turned.same found mine

theorem same_outside {s : Actors} {event : Event} {id : Nat} {run : IntegrityRun}
    (orderly : Orderly (.outside event) s) (found : s.shared.db.integrityRuns.find? id = some run)
    (ended : ¬IsActive run) : Same id s.shared (outside event s.shared) := by
  cases event with
  | requestStop runId =>
    by_cases same : id = runId
    · subst same
      have asked := (orderly run found).resolve_left ended
      refine ⟨?_,rfl,rfl⟩
      rw [outside,find?_requestStop,if_pos rfl,found,Option.map_some,if_neg fun running => ended (.inl running),← asked]
    · exact same_updateIntegrityRun _ _ same
  | cleanup now =>
    refine ⟨?_,?_,rfl⟩
    · rw [outside,find?_cleanup,found,Option.map_some,if_neg ended]
    · exact if_neg (by simpa [found] using ended)
  | elsewhere db => exact ⟨rfl,rfl,rfl⟩

theorem settled_turn {cfg : ChecksumConfig} {s : Actors} {i : Nat} {input : Input} {next : Board × Phase}
    (settled : Settled s) (orderly : Orderly (.turn i input) s) (taken : turn cfg input s.shared (s.op i) = some next) :
    Settled (s.moved i next.1 next.2) where
  apart := settled.apart.moved (turn_turned taken)
  active := by
    intro j id own
    by_cases mine : j = i
    · subst mine
      rw [Interleaved.moved_same] at own
      refine (turn_turned taken).owing own (fun returning => ?_) (settled.active j id)
      rw [returning] at taken
      cases input with
      | leave =>
        cases taken
        rfl
      | fail message => exact absurd returning (orderly id)
      | proceed =>
        cases taken
        rfl
      | start _ => cases taken
      | deadline _ => cases taken
      | page _ => cases taken
      | record _ _ => cases taken
      | finish _ => cases taken
    · rw [s.moved_other _ _ mine] at own
      obtain ⟨run,found,active⟩ := settled.active j id own
      exact ⟨run,(settled.apart.others (turn_turned taken) mine (run?_of_owing? own)).row.trans found,active⟩
  returned := by
    intro j id own
    by_cases mine : j = i
    · subst mine
      rw [Interleaved.moved_same] at own
      obtain ⟨halted,writes⟩ := (turn_turned taken).returning own
      obtain ⟨run,found,_⟩ := settled.active j id (by rw [halted]; rfl)
      obtain ⟨now,written,stopped,workers⟩ := writes.own run found
      exact ⟨now,written,stopped,workers⟩
    · rw [s.moved_other _ _ mine] at own
      obtain ⟨run,found,stopped⟩ := settled.returned j id own
      exact ⟨run,(settled.apart.others (turn_turned taken) mine (by rw [own]; rfl)).row.trans found,stopped⟩

theorem settled_outside {s : Actors} {event : Event} (settled : Settled s) (orderly : Orderly (.outside event) s) :
    Settled { s with shared := outside event s.shared } where
  apart := settled.apart.outside event
  active := by
    intro i id own
    obtain ⟨run,found,active⟩ := settled.active i id own
    obtain ⟨now,there,_,only⟩ := outside_run event found
    refine ⟨now,there,(only ?_).mpr active⟩
    rintro time rfl
    exact absurd ((orderly i).symm.trans own) nofun
  returned := by
    intro i id own
    obtain ⟨run,found,stopped,workers⟩ := settled.returned i id own
    obtain ⟨now,there,ended,_⟩ := outside_run event found
    have inactive : ¬IsActive run := by simp [IsActive,stopped]
    obtain ⟨status,same⟩ := ended inactive
    exact ⟨now,there,status.trans stopped,same.trans workers⟩

theorem settled_reached {cfg : ChecksumConfig} {start s : Actors} (idle : ∀ i, start.op i = .idle)
    (reached : (machine cfg).Reaches Orderly start s) : Settled s := by
  apply Interleaved.invariant_of_turns reached
  · have nobody (i : Nat) : (start.op i).run? = none := by
      rw [idle i]
      rfl
    constructor
    · constructor
      · intro i id own
        cases (nobody i).symm.trans own
      · intro i j id own _
        cases (nobody i).symm.trans own
    · intro i id own
      cases (nobody i).symm.trans (run?_of_owing? own)
    · intro i id own
      cases (idle i).symm.trans own
  · intro i input s next holds orderly taken
    exact settled_turn holds orderly taken
  · intro event s holds orderly
    exact settled_outside holds orderly

/-- In a run whose steps all meet the condition the rows of an ended integrity run stay as they are. -/
theorem ended_run_kept {cfg : ChecksumConfig} {start s t : Actors} {id : Nat} {run : IntegrityRun}
    (idle : ∀ i, start.op i = .idle) (before : (machine cfg).Reaches Orderly start s)
    (found : s.shared.db.integrityRuns.find? id = some run) (past : ¬IsActive run)
    (later : (machine cfg).Reaches Orderly s t) : Same id s.shared t.shared := by
  induction later with
  | start => exact .refl id _
  | step l reached orderly taken ih =>
    have settled := settled_reached idle (before.trans reached)
    have there := ih.row.trans found
    apply ih.trans
    cases l with
    | turn i input =>
      obtain ⟨next,turned,rfl⟩ := Option.map_eq_some_iff.mp taken
      exact settled.same_turn turned there past
    | outside event =>
      cases taken
      exact same_outside orderly there past

/-! A run that ends beside a second one, and a service that starts during a run. -/

theorem ended_run_kept_quiet : ∃ s t, (machine limits).exec quiet [.turn 0 (.start request),.turn 0 .proceed,
      .turn 0 .proceed,.turn 0 .proceed,.turn 0 .proceed,.turn 0 .proceed,.turn 0 (.finish 7)] = some s ∧
    (machine limits).exec s [.turn 1 (.start request),.turn 1 .proceed,.turn 1 .proceed] = some t ∧
    s.shared.endedAt 1 = some 7 ∧ Same 1 s.shared t.shared := by
  refine ⟨_,_,rfl,rfl,rfl,@ended_run_kept limits quiet _ _ _ _ (fun _ => rfl) ?_ rfl (by decide) ?_⟩
  · exact .step (.turn 0 (.finish 7)) (.step (.turn 0 .proceed) (.step (.turn 0 .proceed) (.step (.turn 0 .proceed)
      (.step (.turn 0 .proceed) (.step (.turn 0 .proceed) (.step (.turn 0 (.start request)) .start trivial rfl)
        trivial rfl) trivial rfl) trivial rfl) trivial rfl) trivial rfl) trivial rfl
  · exact .step (.turn 1 .proceed) (.step (.turn 1 .proceed) (.step (.turn 1 (.start request)) .start trivial rfl)
      trivial rfl) trivial rfl

/-- The cleanup fails a run that a command line works on, which then completes it. -/
theorem cleanup_fails_live_run : ¬ ∀ (cfg : ChecksumConfig) (start s t : Actors) (id : Nat) (run : IntegrityRun),
    (∀ i, start.op i = .idle) → (machine cfg).Reaches (fun _ _ => True) start s →
    s.shared.db.integrityRuns.find? id = some run → ¬IsActive run →
    (machine cfg).Reaches (fun _ _ => True) s t → Same id s.shared t.shared := by
  intro kept
  obtain ⟨s,t,first,second,failed,completed⟩ : ∃ s t, (machine limits).exec quiet [.turn 0 (.start request),
      .turn 0 .proceed,.turn 0 .proceed,.outside (.cleanup 3)] = some s ∧
    (machine limits).exec s [.turn 0 .proceed,.turn 0 .proceed,.turn 0 .proceed,.turn 0 (.finish 5)] = some t ∧
    (s.shared.db.integrityRuns.find? 1).map IntegrityRun.status = some .failed ∧
    (t.shared.db.integrityRuns.find? 1).map IntegrityRun.status = some .completed := ⟨_,_,rfl,rfl,rfl,rfl⟩
  obtain ⟨run,found,status⟩ := Option.map_eq_some_iff.mp failed
  have same := kept limits quiet s t 1 run (fun _ => rfl) (Machine.reaches_of_exec first) found
    (by simp [IsActive,status]) (Machine.reaches_of_exec second)
  rw [same.row,failed] at completed
  cases completed

end RunActors

end BitProtector
