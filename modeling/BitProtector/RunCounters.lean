import BitProtector.RunActors
import BitProtector.IntegrityCoverage

/-! The counters of an integrity run against the rows of its results, among whatever else works on the tables. -/
namespace BitProtector.RunCounters
open RunActors

/-- What `process_run` records of a file; `attempted` is the answer of the recovery, where one is tried. -/
def outcomeOf (recover attempted : Bool) : Except String IntegrityCheckResult → Outcome
  | .error _ => ⟨"internal_error",false,true⟩
  | .ok result =>
    let recovered := recover && result.status != .ok && attempted
    ⟨statusStr result.status,recovered,result.status != .ok && !recovered⟩

def Produced (outcome : Outcome) : Prop := ∃ recover attempted result, outcome = outcomeOf recover attempted result

def resultsOf (db : Db) (id : Nat) : List IntegrityRunResult :=
  db.integrityRunResults.rows.filter (fun result => result.runId == id)

/-- What `check_all` reports as clean. -/
def clean (run : IntegrityRun) : Int := run.processedFiles - run.recoveredFiles - run.attentionFiles

def healthy (result : IntegrityRunResult) : Bool := result.status == "ok"

structure Counted (run : IntegrityRun) (results : List IntegrityRunResult) : Prop where
  processed : run.processedFiles = results.length
  attention : run.attentionFiles = results.countP IntegrityRunResult.needsAttention
  recovered : run.recoveredFiles = results.countP IntegrityRunResult.recovered

/-- A healthy result is of neither kind, and any other of exactly one. -/
def Sorted (result : IntegrityRunResult) : Prop :=
  if healthy result then result.recovered = false ∧ result.needsAttention = false
  else result.needsAttention = !result.recovered

theorem statusStr_ok {status : IntegrityStatus} : statusStr status = "ok" ↔ status = .ok := by
  cases status <;> simp [statusStr]

theorem sorted_of_produced {outcome : Outcome} (produced : Produced outcome) {result : IntegrityRunResult}
    (status : result.status = outcome.status) (recovered : result.recovered = outcome.recovered)
    (attention : result.needsAttention = outcome.needsAttention) : Sorted result := by
  obtain ⟨recover,attempted,found,rfl⟩ := produced
  rw [Sorted,healthy,status,recovered,attention]
  cases found with
  | error message => simp [outcomeOf]
  | ok found =>
    by_cases well : found.status = .ok
    · simp [outcomeOf,well,statusStr]
    · have ill : ¬ statusStr found.status = "ok" := fun same => well (statusStr_ok.mp same)
      simp [outcomeOf,well,ill]

theorem healthy_counts {results : List IntegrityRunResult} (sorted : ∀ result ∈ results, Sorted result) :
    results.countP healthy + results.countP IntegrityRunResult.recovered +
      results.countP IntegrityRunResult.needsAttention = results.length := by
  induction results with
  | nil => rfl
  | cons result rest ih =>
    have own := sorted result List.mem_cons_self
    have others := ih fun other member => sorted other (List.mem_cons_of_mem _ member)
    rw [Sorted] at own
    simp only [List.countP_cons,List.length_cons]
    split at own
    case isTrue well =>
      simp only [well,own.1,own.2]
      simp only [if_true,Bool.false_eq_true,if_false]
      omega
    case isFalse ill =>
      rw [own]
      cases result.recovered <;> simp [ill] <;> omega

/-- The rows of one run: what is on them for the counters, and the run's results. -/
structure Tally (db : Db) (id : Nat) (pending : List Outcome) : Prop where
  counted : ∀ run, db.integrityRuns.find? id = some run →
    run.processedFiles + pending.length = (resultsOf db id).length ∧
    run.attentionFiles + pending.countP Outcome.needsAttention = (resultsOf db id).countP IntegrityRunResult.needsAttention ∧
    run.recoveredFiles + pending.countP Outcome.recovered = (resultsOf db id).countP IntegrityRunResult.recovered
  sorted : ∀ result ∈ resultsOf db id, Sorted result

/-- The counters of the run and its results are those of before. -/
structure Steady (id : Nat) (db next : Db) : Prop where
  row : ∀ now, next.integrityRuns.find? id = some now → ∃ run, db.integrityRuns.find? id = some run ∧
    now.processedFiles = run.processedFiles ∧ now.attentionFiles = run.attentionFiles ∧
    now.recoveredFiles = run.recoveredFiles
  results : resultsOf next id = resultsOf db id

theorem Steady.refl (id : Nat) (db : Db) : Steady id db db := ⟨fun now found => ⟨now,found,rfl,rfl,rfl⟩,rfl⟩

theorem Tally.of_steady {db next : Db} {id : Nat} {pending : List Outcome} (tally : Tally db id pending)
    (steady : Steady id db next) : Tally next id pending where
  counted := by
    intro now found
    obtain ⟨run,before,processed,attention,recovered⟩ := steady.row now found
    rw [steady.results,processed,attention,recovered]
    exact tally.counted run before
  sorted := by
    rw [steady.results]
    exact tally.sorted

/-- A statement on a row of `integrity_runs` that leaves its counters alone. -/
theorem steady_updateIntegrityRun (id : Nat) (db : Db) (runId : Nat) (change : IntegrityRun → IntegrityRun) (keepsId)
    (keeps : ∀ run, (change run).processedFiles = run.processedFiles ∧ (change run).attentionFiles = run.attentionFiles ∧
      (change run).recoveredFiles = run.recoveredFiles) : Steady id db (db.updateIntegrityRun runId change keepsId) where
  row := by
    intro now found
    rw [find?_updateIntegrityRun] at found
    split at found
    case isTrue own =>
      obtain ⟨run,before,rfl⟩ := Option.map_eq_some_iff.mp found
      exact ⟨run,before,keeps run⟩
    case isFalse other => exact ⟨now,found,rfl,rfl,rfl⟩
  results := rfl

/-- The result that is still to be stored. -/
def due? : Phase → Option (Nat × Outcome)
  | .working runId (.appending _ _ _ outcome _) => some (runId,outcome)
  | _ => none

/-- The result that is stored and not yet counted. -/
def owed? : Phase → Option (Nat × Outcome)
  | .working runId (.counting _ _ outcome _) => some (runId,outcome)
  | _ => none

theorem run?_of_due? {phase : Phase} {runId : Nat} {outcome : Outcome} (due : due? phase = some (runId,outcome)) :
    phase.run? = some runId := by
  unfold due? at due
  split at due
  · cases due
    rfl
  · cases due

theorem run?_of_owed? {phase : Phase} {runId : Nat} {outcome : Outcome} (owed : owed? phase = some (runId,outcome)) :
    phase.run? = some runId := by
  unfold owed? at owed
  split at owed
  · cases owed
    rfl
  · cases owed

theorem owed?_of_due? {phase : Phase} {runId : Nat} {outcome : Outcome} (due : due? phase = some (runId,outcome)) :
    owed? phase = none := by
  unfold due? at due
  split at due
  · rfl
  · cases due

/-- What a turn does to the counters and the results. -/
inductive Progress (input : Input) (b : Board) (phase : Phase) (next : Board × Phase) : Prop
  | still (steady : ∀ id, Steady id b.db next.1.db) (runs : next.1.db.integrityRuns.lastId = b.db.integrityRuns.lastId)
      (rows : next.1.db.integrityRunResults = b.db.integrityRunResults)
      (before : owed? phase = none) (after : owed? next.2 = none)
      (due : ∀ runId outcome, due? next.2 = some (runId,outcome) → ∃ now, input = .record outcome now)
  | dropped (same : next.1 = b) (gone : input = .leave ∨ ∃ message, input = .fail message) (after : owed? next.2 = none)
      (due : due? next.2 = none)
  | created (steady : ∀ id, id ≠ b.db.integrityRuns.lastId + 1 → Steady id b.db next.1.db)
      (fresh : ∀ run, next.1.db.integrityRuns.find? (b.db.integrityRuns.lastId + 1) = some run →
        run.processedFiles = 0 ∧ run.attentionFiles = 0 ∧ run.recoveredFiles = 0)
      (runs : next.1.db.integrityRuns.lastId = b.db.integrityRuns.lastId + 1)
      (rows : next.1.db.integrityRunResults = b.db.integrityRunResults) (before : owed? phase = none)
      (after : owed? next.2 = none) (due : due? next.2 = none)
  | stored (runId : Nat) (outcome : Outcome) (result : IntegrityRunResult) (was : due? phase = some (runId,outcome))
      (owes : owed? next.2 = some (runId,outcome)) (due : due? next.2 = none)
      (runs : next.1.db.integrityRuns = b.db.integrityRuns) (there : (b.db.integrityRuns.find? runId).isSome)
      (rows : next.1.db.integrityRunResults.rows = b.db.integrityRunResults.rows ++ [result]) (own : result.runId = runId)
      (status : result.status = outcome.status) (recovered : result.recovered = outcome.recovered)
      (attention : result.needsAttention = outcome.needsAttention)
  | counted (runId : Nat) (outcome : Outcome) (owes : owed? phase = some (runId,outcome)) (after : owed? next.2 = none)
      (due : due? next.2 = none)
      (board : next.1.db = b.db.incrementIntegrityRunProgress runId outcome.needsAttention.toNat outcome.recovered.toNat)

theorem appended_progress (input : Input) (b : Board) (runId : Nat) (at_ : Position) (last : Bool) (file : TrackedFile)
    (outcome : Outcome) (files : List TrackedFile) :
    Progress input b (.working runId (.appending at_ last file outcome files))
      (appended b runId at_ last file outcome files) := by
  unfold appended Db.insertIntegrityRunResult
  split
  · rename_i id db inserted
    split at inserted
    · rename_i keys
      cases inserted
      exact .stored runId outcome _ rfl rfl rfl rfl (by simp_all) rfl rfl rfl rfl rfl
    · cases inserted
  · exact .still (fun id => .refl id _) rfl rfl rfl rfl (fun _ _ impossible => by cases impossible)

theorem created_progress (input : Input) (b : Board) (request : Request) (totalFiles : Nat) :
    Progress input b (.creating request totalFiles) (created b request totalFiles) := by
  unfold created Db.createIntegrityRun
  split
  · rename_i run db inserted
    split at inserted
    · cases inserted
      refine .created (fun id other => ⟨?_,rfl⟩) ?_ rfl rfl rfl rfl rfl
      · intro now found
        dsimp only at found
        rw [Table.find?_insert,if_neg other] at found
        exact ⟨now,found,rfl,rfl,rfl⟩
      · intro run found
        dsimp only at found
        rw [Table.find?_insert,if_pos rfl] at found
        cases found
        exact ⟨rfl,rfl,rfl⟩
    · cases inserted
  · exact .still (fun id => .refl id _) rfl rfl rfl rfl (fun _ _ impossible => by cases impossible)

/-- A statement on a row of `integrity_runs` that leaves its counters alone. -/
theorem updated_progress {input : Input} {b : Board} {phase after : Phase} {runId : Nat} {ends : Nat → Option Nat}
    (change : IntegrityRun → IntegrityRun) (keepsId) (keeps : ∀ run, (change run).processedFiles = run.processedFiles ∧
      (change run).attentionFiles = run.attentionFiles ∧ (change run).recoveredFiles = run.recoveredFiles)
    (before : owed? phase = none) (owed : owed? after = none) (due : due? after = none) :
    Progress input b phase (⟨b.db.updateIntegrityRun runId change keepsId,ends⟩,after) := by
  refine .still (fun id => steady_updateIntegrityRun id b.db runId change keepsId keeps) rfl rfl before owed ?_
  intro runId outcome some
  cases due.symm.trans some

/-- A statement that only reads. -/
theorem read_progress {input : Input} {b : Board} {phase after : Phase} (before : owed? phase = none)
    (owed : owed? after = none) (due : due? after = none) : Progress input b phase (b,after) := by
  refine .still (fun id => .refl id _) rfl rfl before owed ?_
  intro runId outcome some
  cases due.symm.trans some

theorem opened_quiet (db : Db) (runId : Nat) : owed? (opened db runId) = none ∧ due? (opened db runId) = none := by
  unfold opened
  split
  · exact ⟨rfl,rfl⟩
  · split <;> exact ⟨rfl,rfl⟩

theorem checked_quiet (db : Db) (runId : Nat) (at_ : Position) (passed : Bool) :
    owed? (checked db runId at_ passed) = none ∧ due? (checked db runId at_ passed) = none := by
  unfold checked
  split
  · exact ⟨rfl,rfl⟩
  · split <;> exact ⟨rfl,rfl⟩

theorem listed_quiet (db : Db) (runId : Nat) (at_ : Position) (tieBreak : Nat → Nat) :
    owed? (.working runId (listed db at_ tieBreak)) = none ∧ due? (.working runId (listed db at_ tieBreak)) = none := by
  unfold listed
  dsimp only
  split <;> exact ⟨rfl,rfl⟩

theorem concluded_quiet (db : Db) (runId : Nat) : owed? (concluded db runId) = none ∧ due? (concluded db runId) = none := by
  unfold concluded
  split <;> exact ⟨rfl,rfl⟩

theorem work_progress {cfg : ChecksumConfig} {runId : Nat} {input : Input} {b : Board} {task : Task}
    {next : Board × Phase} (worked : work cfg runId input b task = some next) :
    Progress input b (.working runId task) next := by
  unfold work at worked
  split at worked
  · cases worked
    exact read_progress rfl (opened_quiet b.db runId).1 (opened_quiet b.db runId).2
  · cases worked
    exact read_progress rfl rfl rfl
  · cases worked
    exact updated_progress _ _ (fun _ => ⟨rfl,rfl,rfl⟩) rfl rfl rfl
  · cases worked
    exact read_progress rfl (checked_quiet b.db runId _ _).1 (checked_quiet b.db runId _ _).2
  · cases worked
    exact updated_progress _ _ (fun _ => ⟨rfl,rfl,rfl⟩) rfl rfl rfl
  · cases worked
    exact read_progress rfl (listed_quiet b.db runId _ _).1 (listed_quiet b.db runId _ _).2
  · rename_i outcome now at_ last file files
    cases worked
    refine .still (fun id => ⟨fun row found => ⟨row,found,rfl,rfl,rfl⟩,rfl⟩) rfl rfl rfl rfl ?_
    intro runId other due
    cases due
    exact ⟨now,rfl⟩
  · cases worked
    refine read_progress rfl ?_ ?_ <;> split <;> rfl
  · cases worked
    exact appended_progress _ b runId _ _ _ _ _
  · cases worked
    exact .counted runId _ rfl rfl rfl rfl
  · cases worked
    exact updated_progress _ _ (fun _ => ⟨rfl,rfl,rfl⟩) rfl rfl rfl
  · cases worked
    exact read_progress rfl (concluded_quiet b.db runId).1 (concluded_quiet b.db runId).2
  · cases worked

theorem turn_progress {cfg : ChecksumConfig} {input : Input} {b : Board} {phase : Phase} {next : Board × Phase}
    (turned : turn cfg input b phase = some next) : Progress input b phase next := by
  unfold turn at turned
  split at turned
  · cases turned
    exact .dropped rfl (.inl rfl) rfl rfl
  · cases turned
    refine read_progress rfl ?_ ?_ <;> split <;> rfl
  · cases turned
    exact read_progress rfl rfl rfl
  · cases turned
    exact created_progress _ b _ _
  · cases turned
    exact .dropped rfl (.inr ⟨_,rfl⟩) rfl rfl
  · cases turned
    exact .dropped rfl (.inr ⟨_,rfl⟩) rfl rfl
  · cases turned
    exact .dropped rfl (.inr ⟨_,rfl⟩) rfl rfl
  · cases turned
    exact .dropped rfl (.inr ⟨_,rfl⟩) rfl rfl
  · cases turned
    exact updated_progress _ _ (fun _ => ⟨rfl,rfl,rfl⟩) rfl rfl rfl
  · cases turned
    exact updated_progress _ _ (fun _ => ⟨rfl,rfl,rfl⟩) rfl rfl rfl
  · cases turned
    exact updated_progress _ _ (fun _ => ⟨rfl,rfl,rfl⟩) rfl rfl rfl
  · cases turned
    exact updated_progress _ _ (fun _ => ⟨rfl,rfl,rfl⟩) rfl rfl rfl
  · exact work_progress turned
  · cases turned

theorem outside_steady (event : Event) (b : Board) (id : Nat) : Steady id b.db (outside event b).db := by
  cases event with
  | requestStop runId => exact steady_updateIntegrityRun id b.db runId _ _ fun _ => ⟨rfl,rfl,rfl⟩
  | cleanup now =>
    refine ⟨fun row found => ?_,rfl⟩
    rw [outside,find?_cleanup] at found
    obtain ⟨run,before,rfl⟩ := Option.map_eq_some_iff.mp found
    refine ⟨run,before,?_⟩
    split <;> exact ⟨rfl,rfl,rfl⟩
  | elsewhere db => exact ⟨fun row found => ⟨row,found,rfl,rfl,rfl⟩,rfl⟩

theorem outside_tables (event : Event) (b : Board) :
    (outside event b).db.integrityRuns.lastId = b.db.integrityRuns.lastId ∧
      (outside event b).db.integrityRunResults = b.db.integrityRunResults := by
  cases event <;> exact ⟨rfl,rfl⟩

/-! What two statements later leave as it should be. -/

theorem tally_stored {db next : Db} {runId : Nat} {outcome : Outcome} {result : IntegrityRunResult}
    (tally : Tally db runId []) (produced : Produced outcome) (runs : next.integrityRuns = db.integrityRuns)
    (rows : next.integrityRunResults.rows = db.integrityRunResults.rows ++ [result]) (own : result.runId = runId)
    (status : result.status = outcome.status) (recovered : result.recovered = outcome.recovered)
    (attention : result.needsAttention = outcome.needsAttention) : Tally next runId [outcome] := by
  have more : resultsOf next runId = resultsOf db runId ++ [result] := by
    rw [resultsOf,rows,List.filter_append,resultsOf,List.filter_singleton,own,beq_self_eq_true]
    rfl
  constructor
  · intro run found
    obtain ⟨processed,needing,mended⟩ := tally.counted run (runs ▸ found)
    rw [more]
    simp only [List.length_append,List.length_singleton,List.countP_append,List.countP_singleton,recovered,attention]
    simp only [List.length_nil,List.countP_nil,Nat.add_zero] at processed needing mended
    exact ⟨by rw [processed],by rw [needing],by rw [mended]⟩
  · intro other member
    rw [more] at member
    rcases List.mem_append.mp member with before | last
    · exact tally.sorted other before
    · cases List.mem_singleton.mp last
      exact sorted_of_produced produced status recovered attention

theorem tally_counted {db : Db} {runId : Nat} {outcome : Outcome} (tally : Tally db runId [outcome]) :
    Tally (db.incrementIntegrityRunProgress runId outcome.needsAttention.toNat outcome.recovered.toNat) runId [] := by
  constructor
  · intro now found
    rw [Db.incrementIntegrityRunProgress,find?_updateIntegrityRun,if_pos rfl] at found
    obtain ⟨run,before,rfl⟩ := Option.map_eq_some_iff.mp found
    obtain ⟨processed,needing,mended⟩ := tally.counted run before
    simp only [List.length_singleton,List.countP_singleton] at processed needing mended
    refine ⟨processed,?_,?_⟩
    · rw [← show resultsOf db runId = resultsOf (db.incrementIntegrityRunProgress runId _ _) runId from rfl,← needing]
      cases outcome.needsAttention <;> rfl
    · rw [← show resultsOf db runId = resultsOf (db.incrementIntegrityRunProgress runId _ _) runId from rfl,← mended]
      cases outcome.recovered <;> rfl
  · exact tally.sorted

/-! Runs. -/

/-- What is recorded of a file is what was found of it, and no write fails between the result of a file of the run
and its count. -/
def Completed (id : Nat) : Move Input Event → Actors → Prop
  | .turn _ (.record outcome _), _ => Produced outcome
  | .turn i (.fail _), s => ∀ outcome, owed? (s.op i) ≠ some (id,outcome)
  | .turn i .leave, s => ∀ outcome, owed? (s.op i) ≠ some (id,outcome)
  | _, _ => True

structure Tallied (id : Nat) (s : Actors) : Prop where
  apart : Apart s
  produced : ∀ i runId outcome, due? (s.op i) = some (runId,outcome) → Produced outcome
  known : ∀ result ∈ s.shared.db.integrityRunResults.rows, result.runId ≤ s.shared.db.integrityRuns.lastId
  owing : ∀ i outcome, owed? (s.op i) = some (id,outcome) → Tally s.shared.db id [outcome]
  settled : (∀ i outcome, owed? (s.op i) ≠ some (id,outcome)) → Tally s.shared.db id []

/-- Who owes a result of the run after a turn of `i`. -/
theorem owed?_moved {s : Actors} {i j : Nat} {next : Board × Phase} {id : Nat} {outcome : Outcome}
    (owes : owed? ((s.moved i next.1 next.2).op j) = some (id,outcome)) :
    (j = i ∧ owed? next.2 = some (id,outcome)) ∨ (j ≠ i ∧ owed? (s.op j) = some (id,outcome)) := by
  by_cases mine : j = i
  · subst mine
    rw [Interleaved.moved_same] at owes
    exact .inl ⟨rfl,owes⟩
  · rw [s.moved_other _ _ mine] at owes
    exact .inr ⟨mine,owes⟩

theorem Tallied.tally_turn {id : Nat} {s : Actors} {i : Nat} {next : Board × Phase} (tallied : Tallied id s)
    (steady : Steady id s.shared.db next.1.db) (before : ∀ outcome, owed? (s.op i) ≠ some (id,outcome))
    (after : ∀ outcome, owed? next.2 ≠ some (id,outcome)) :
    (∀ j outcome, owed? ((s.moved i next.1 next.2).op j) = some (id,outcome) → Tally next.1.db id [outcome]) ∧
    ((∀ j outcome, owed? ((s.moved i next.1 next.2).op j) ≠ some (id,outcome)) → Tally next.1.db id []) := by
  constructor
  · intro j outcome owes
    rcases owed?_moved owes with ⟨_,own⟩ | ⟨_,other⟩
    · exact absurd own (after outcome)
    · exact (tallied.owing j outcome other).of_steady steady
  · intro free
    refine (tallied.settled fun j outcome owes => ?_).of_steady steady
    by_cases mine : j = i
    · exact before outcome (mine ▸ owes)
    · exact free j outcome (by rw [s.moved_other _ _ mine]; exact owes)

theorem tally_turn {cfg : ChecksumConfig} {id i : Nat} {s : Actors} {input : Input} {next : Board × Phase}
    (tallied : Tallied id s) (completed : Completed id (.turn i input) s)
    (turned : turn cfg input s.shared (s.op i) = some next) :
    (∀ j outcome, owed? ((s.moved i next.1 next.2).op j) = some (id,outcome) → Tally next.1.db id [outcome]) ∧
    ((∀ j outcome, owed? ((s.moved i next.1 next.2).op j) ≠ some (id,outcome)) → Tally next.1.db id []) := by
  have nothing {phase : Phase} (none : owed? phase = none) (outcome : Outcome) : owed? phase ≠ some (id,outcome) := by
    rw [none]
    intro impossible
    cases impossible
  cases turn_progress turned with
  | still steady _ _ before after _ => exact tallied.tally_turn (steady id) (nothing before) (nothing after)
  | dropped same gone after _ =>
    have before : ∀ outcome, owed? (s.op i) ≠ some (id,outcome) := by
      rcases gone with rfl | ⟨message,rfl⟩
      · exact completed
      · exact completed
    exact tallied.tally_turn (same ▸ .refl id _) before (nothing after)
  | created steady fresh _ rows before after _ =>
    by_cases new : id = s.shared.db.integrityRuns.lastId + 1
    · -- A run that begins has no results yet, and nobody works on it.
      have empty : resultsOf next.1.db id = [] := by
        rw [resultsOf,rows,List.filter_eq_nil_iff]
        intro result member own
        have bound := tallied.known result member
        simp only [beq_iff_eq] at own
        omega
      constructor
      · intro j outcome owes
        rcases owed?_moved owes with ⟨_,own⟩ | ⟨_,other⟩
        · exact absurd own (nothing after outcome)
        · obtain ⟨run,found⟩ := tallied.apart.there j id (run?_of_owed? other)
          rw [new,unused_lastId] at found
          cases found
      · intro _
        constructor
        · intro run found
          obtain ⟨processed,attention,recovered⟩ := fresh run (new ▸ found)
          rw [empty,processed,attention,recovered]
          exact ⟨rfl,rfl,rfl⟩
        · rw [empty]
          exact fun result member => absurd member List.not_mem_nil
    · exact tallied.tally_turn (steady id new) (nothing before) (nothing after)
  | stored runId outcome result was owes _ runs _ rows own status recovered attention =>
    by_cases mine : runId = id
    · subst mine
      have alone : ∀ j other, owed? (s.op j) ≠ some (runId,other) := by
        intro j other also
        have same := tallied.apart.single j i runId (run?_of_owed? also) (run?_of_due? was)
        subst same
        cases (owed?_of_due? was).symm.trans also
      have stored := tally_stored (tallied.settled alone) (tallied.produced i runId outcome was) runs rows own status
        recovered attention
      constructor
      · intro j other also
        rcases owed?_moved also with ⟨_,here⟩ | ⟨_,there⟩
        · cases owes.symm.trans here
          exact stored
        · exact absurd there (alone j other)
      · intro free
        exact absurd owes (by simpa using free i outcome)
    · have steady : Steady id s.shared.db next.1.db := by
        refine ⟨fun run found => ⟨run,runs ▸ found,rfl,rfl,rfl⟩,?_⟩
        have other : (result.runId == id) = false := by simpa [own] using mine
        rw [resultsOf,rows,List.filter_append,resultsOf,List.filter_cons_of_neg (by simp [other]),List.filter_nil,
          List.append_nil]
      apply tallied.tally_turn steady
      · exact nothing (owed?_of_due? was)
      · intro other same
        cases owes.symm.trans same
        exact mine rfl
  | counted runId outcome owes after _ board =>
    by_cases mine : runId = id
    · subst mine
      have counted := tally_counted (tallied.owing i outcome owes)
      rw [← board] at counted
      constructor
      · intro j other also
        rcases owed?_moved also with ⟨_,here⟩ | ⟨apart,there⟩
        · exact absurd here (nothing after other)
        · exact absurd (tallied.apart.single j i runId (run?_of_owed? there) (run?_of_owed? owes)) apart
      · exact fun _ => counted
    · have steady : Steady id s.shared.db next.1.db := by
        rw [board]
        refine ⟨fun now found => ?_,rfl⟩
        rw [Db.incrementIntegrityRunProgress,find?_updateIntegrityRun,if_neg (Ne.symm mine)] at found
        exact ⟨now,found,rfl,rfl,rfl⟩
      apply tallied.tally_turn steady _ (nothing after)
      intro other same
      cases owes.symm.trans same
      exact mine rfl

theorem tallied_turn {cfg : ChecksumConfig} {id i : Nat} {s : Actors} {input : Input} {next : Board × Phase}
    (tallied : Tallied id s) (completed : Completed id (.turn i input) s)
    (turned : turn cfg input s.shared (s.op i) = some next) : Tallied id (s.moved i next.1 next.2) := by
  obtain ⟨owing,settled⟩ := tally_turn tallied completed turned
  refine ⟨tallied.apart.moved (turn_turned turned),?_,?_,owing,settled⟩
  · intro j runId outcome due
    by_cases mine : j = i
    · subst mine
      rw [Interleaved.moved_same] at due
      cases turn_progress turned with
      | still _ _ _ _ _ source =>
        obtain ⟨now,rfl⟩ := source runId outcome due
        exact completed
      | dropped _ _ _ none => cases none.symm.trans due
      | created _ _ _ _ _ _ none => cases none.symm.trans due
      | stored _ _ _ _ _ none => cases none.symm.trans due
      | counted _ _ _ _ none _ => cases none.symm.trans due
    · rw [s.moved_other _ _ mine] at due
      exact tallied.produced j runId outcome due
  · rw [Interleaved.moved_shared]
    cases turn_progress turned with
    | still _ runs rows _ _ _ =>
      rw [rows,runs]
      exact tallied.known
    | dropped same _ _ _ =>
      rw [same]
      exact tallied.known
    | created _ _ runs rows _ _ _ =>
      rw [rows,runs]
      exact fun result member => Nat.le_succ_of_le (tallied.known result member)
    | stored runId outcome result _ _ _ runs there rows own _ _ _ =>
      rw [rows,runs]
      intro other member
      rcases List.mem_append.mp member with before | last
      · exact tallied.known other before
      · cases List.mem_singleton.mp last
        obtain ⟨run,found⟩ := Option.isSome_iff_exists.mp there
        have bound := s.shared.db.integrityRuns.bounded run (Table.mem_of_find? found)
        rwa [Table.find?_key found,← own] at bound
    | counted _ _ _ _ _ board =>
      rw [board]
      exact tallied.known

theorem tallied_reached {cfg : ChecksumConfig} {start s : Actors} {id : Nat} (idle : ∀ i, start.op i = .idle)
    (known : ∀ result ∈ start.shared.db.integrityRunResults.rows, result.runId ≤ start.shared.db.integrityRuns.lastId)
    (new : start.shared.db.integrityRuns.lastId < id)
    (reached : (machine cfg).Reaches (Completed id) start s) : Tallied id s := by
  apply Interleaved.invariant_of_turns reached
  · have nobody (i : Nat) : (start.op i).run? = none := by
      rw [idle i]
      rfl
    constructor
    · constructor
      · intro i id own
        cases (nobody i).symm.trans own
      · intro i j id own _
        cases (nobody i).symm.trans own
    · intro i runId outcome due
      cases (nobody i).symm.trans (run?_of_due? due)
    · exact known
    · intro i outcome owes
      cases (nobody i).symm.trans (run?_of_owed? owes)
    · intro _
      have empty : resultsOf start.shared.db id = [] := by
        rw [resultsOf,List.filter_eq_nil_iff]
        intro result member own
        have bound := known result member
        simp only [beq_iff_eq] at own
        omega
      constructor
      · intro run found
        have bound := start.shared.db.integrityRuns.bounded run (Table.mem_of_find? found)
        rw [Table.find?_key found] at bound
        omega
      · rw [empty]
        exact fun result member => absurd member List.not_mem_nil
  · intro i input s next holds completed taken
    exact tallied_turn holds completed taken
  · intro event s holds _
    obtain ⟨runs,rows⟩ := outside_tables event s.shared
    refine ⟨holds.apart.outside event,holds.produced,?_,?_,?_⟩
    · rw [rows,runs]
      exact holds.known
    · exact fun i outcome owes => (holds.owing i outcome owes).of_steady (outside_steady event s.shared id)
    · exact fun free => (holds.settled free).of_steady (outside_steady event s.shared id)

/-- Between two files of a run its counters are those of its results. -/
theorem counters_match {cfg : ChecksumConfig} {start s : Actors} {id : Nat} {run : IntegrityRun}
    (idle : ∀ i, start.op i = .idle)
    (known : ∀ result ∈ start.shared.db.integrityRunResults.rows, result.runId ≤ start.shared.db.integrityRuns.lastId)
    (new : start.shared.db.integrityRuns.lastId < id)
    (reached : (machine cfg).Reaches (Completed id) start s)
    (between : ∀ i outcome, owed? (s.op i) ≠ some (id,outcome))
    (found : s.shared.db.integrityRuns.find? id = some run) :
    Counted run (resultsOf s.shared.db id) ∧
    (∀ result ∈ resultsOf s.shared.db id, ¬ (result.recovered = true ∧ result.needsAttention = true)) ∧
    0 ≤ clean run ∧ clean run = (resultsOf s.shared.db id).countP healthy := by
  have tally := (tallied_reached idle known new reached).settled between
  obtain ⟨processed,attention,recovered⟩ := tally.counted run found
  simp only [List.length_nil,List.countP_nil,Nat.add_zero] at processed attention recovered
  have whole := healthy_counts tally.sorted
  have reported : clean run = (resultsOf s.shared.db id).countP healthy := by
    rw [clean,processed,attention,recovered]
    omega
  refine ⟨⟨processed,attention,recovered⟩,?_,by omega,reported⟩
  rintro result member ⟨mended,needing⟩
  have own := tally.sorted result member
  rw [Sorted] at own
  split at own
  · cases own.1.symm.trans mended
  · rw [mended,needing] at own
    cases own

/-! The sequential program takes these steps. -/

section
variable [Blake3]

/-- What `process_run` records of a file is `outcomeOf` what the check has found. -/
theorem recordFile_outcome {io : Io} {clock : Clock} {runId : Nat} {recover : Bool} {pair : DrivePair} {file : TrackedFile}
    {result : Except String IntegrityCheckResult} {s t : RunWorld}
    (ran : recordFile io clock runId recover pair file result s = .ok () t) :
    ∃ attempted u, u.world.db.integrityRuns = s.world.db.integrityRuns ∧
      u.world.db.integrityRunResults = s.world.db.integrityRunResults ∧
      recordResult clock runId file (outcomeOf recover attempted result).status
        (outcomeOf recover attempted result).recovered (outcomeOf recover attempted result).needsAttention u = .ok () t := by
  cases result with
  | error message => exact ⟨false,s,rfl,rfl,ran⟩
  | ok result =>
    obtain ⟨recovered,u,answered,records⟩ := Effect.bind_success ran
    cases tries : recover && result.status != .ok with
    | false =>
      rw [tries] at answered
      cases answered
      refine ⟨false,s,rfl,rfl,?_⟩
      simpa only [outcomeOf,Bool.and_false] using records
    | true =>
      obtain ⟨w,answer,rfl⟩ := onWorld_success answered
      rw [tries,if_pos rfl] at answer
      obtain ⟨other,v,again,_,runs,results⟩ := recoverOrNot_steady io pair file result runId s.world
      cases again.symm.trans answer
      refine ⟨recovered,{ s with world := w },runs,results,?_⟩
      simpa only [outcomeOf,tries,Bool.true_and] using records

theorem recordFiles_reaches {cfg : ChecksumConfig} {io : Io} {clock : Clock} {runId i : Nat} {recover last : Bool}
    {pair : DrivePair} {at_ : Position} {results : List (TrackedFile × Except String IntegrityCheckResult)}
    {s t : RunWorld} (ran : recordFiles io clock runId recover pair results s = .ok () t) (id : Nat) (a : Actors)
    (tables : a.shared.db = s.world.db) (phase : a.op i = .working runId (.recording at_ last (results.map Prod.fst))) :
    ∃ c, (machine cfg).Reaches (Completed id) a c ∧ c.shared.db = t.world.db ∧
      c.op i = .working runId (.recording at_ last []) := by
  induction results generalizing s a with
  | nil =>
    cases ran
    exact ⟨a,.start,tables,phase⟩
  | cons row results ih =>
    obtain ⟨file,result⟩ := row
    obtain ⟨_,v,one,rest⟩ := Effect.bind_success ran
    obtain ⟨attempted,u,runs,rows,records⟩ := recordFile_outcome one
    -- The recovery changes other tables; then come the three statements.
    let recovering : Actors := { a with shared := outside (.elsewhere u.world.db) a.shared }
    have recovered : recovering.shared.db = u.world.db := by
      change ({ u.world.db with
        integrityRuns := a.shared.db.integrityRuns
        integrityRunResults := a.shared.db.integrityRunResults } : Db) = _
      rw [tables,← runs,← rows]
    have outward : (machine cfg).Reaches (Completed id) a recovering :=
      .step (.outside (.elsewhere u.world.db)) .start trivial rfl
    let outcome := outcomeOf recover attempted result
    have alone : Interleaved.alone (turn cfg) [.record outcome (clock.now u.readings),.proceed,.proceed]
        (recovering.shared,recovering.op i) =
          some ({ recovering.shared with db := v.world.db },.working runId (.recording at_ last (results.map Prod.fst))) := by
      rw [show recovering.op i = .working runId (.recording at_ last (file::results.map Prod.fst)) from phase]
      exact record_alone recovered.symm records
    have fits : ∀ input ∈ [.record outcome (clock.now u.readings),.proceed,.proceed], ∀ b, Completed id (.turn i input) b := by
      intro input member b
      simp only [List.mem_cons,List.not_mem_nil,or_false] at member
      rcases member with rfl | rfl | rfl
      · exact ⟨recover,attempted,result,rfl⟩
      · trivial
      · trivial
    let recorded := recovering.moved i { recovering.shared with db := v.world.db }
      (.working runId (.recording at_ last (results.map Prod.fst)))
    have turns : (machine cfg).Reaches (Completed id) recovering recorded := Interleaved.reaches_of_alone fits alone
    obtain ⟨c,later,same,ends⟩ := ih rest recorded rfl (Interleaved.moved_same _ _ _ _)
    exact ⟨c,(outward.trans turns).trans later,same,ends⟩

end

/-! A run with one file that has lost its mirror. -/

def lost : Outcome := ⟨"mirror_missing",false,true⟩

theorem produced_lost : Produced lost :=
  ⟨false,false,.ok ⟨1,"",none,none,true,false,.mirrorMissing⟩,rfl⟩

def oneFile : Actors := ⟨⟨uncheckedDb 1,fun _ => none⟩,fun _ => .idle⟩

def recordedOnce : List (Move Input Event) :=
  [.turn 0 (.start request),.turn 0 .proceed,.turn 0 .proceed,.turn 0 .proceed,.turn 0 .proceed,.turn 0 (.deadline false),
    .turn 0 (.page id),.turn 0 (.record lost 7),.turn 0 .proceed,.turn 0 .proceed]

theorem recordedOnce_fits : ∀ move ∈ recordedOnce, ∀ s, Completed 1 move s := by
  intro move member s
  simp only [recordedOnce,List.mem_cons,List.not_mem_nil,or_false] at member
  rcases member with rfl | rfl | rfl | rfl | rfl | rfl | rfl | rfl | rfl | rfl
  case inr.inr.inr.inr.inr.inr.inr.inl => exact produced_lost
  all_goals trivial

theorem counters_match_once : ∃ s run, (machine limits).exec oneFile recordedOnce = some s ∧
    s.shared.db.integrityRuns.find? 1 = some run ∧ run.processedFiles = 1 ∧ run.attentionFiles = 1 ∧ clean run = 0 ∧
    Counted run (resultsOf s.shared.db 1) := by
  refine ⟨_,_,rfl,rfl,rfl,rfl,rfl,?_⟩
  refine (@counters_match limits oneFile _ 1 _ (fun _ => rfl) (by decide) (by decide)
    (Machine.reaches_of_fitting recordedOnce_fits rfl) ?_ rfl).1
  intro i outcome owes
  by_cases own : i = 0
  · subst own
    cases owes
  · simp only [Interleaved.moved,own,if_false] at owes
    cases owes

end BitProtector.RunCounters
