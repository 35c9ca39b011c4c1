import BitProtector.Foundation.Migrations

/-! `initialize_schema`, which every start calls: databases of earlier versions get what they lack, and the rows that they
have stay. -/
namespace BitProtector.Schema
open Effect Migrations

/-- `name TEXT` or `name INTEGER`, which a row may lack. -/
def nullable (name : String) : Column := ⟨name,false,.value .null,none,none⟩

def required (name : String) : Column := ⟨name,true,.value .null,none,none⟩

/-- `name INTEGER NOT NULL DEFAULT n`. -/
def counter (name : String) (n : Int) : Column := ⟨name,true,.value (.integer n),none,none⟩

/-- `name TEXT NOT NULL DEFAULT text CHECK(name IN (..))`. -/
def choice (name text : String) (texts : List String) : Column := ⟨name,true,.value (.text text),some texts,none⟩

def rowId : Column := nullable "id"

/-- `name TEXT NOT NULL DEFAULT (datetime('now'))`. -/
def stamped (name : String) : Column := ⟨name,true,.datetimeNow,none,none⟩

def states : List String := ["active","quiescing","failed","rebuilding"]

def mediaTypes : List String := ["hdd","ssd"]

def drivePairs : List Column :=
  [rowId,required "name",required "primary_path",required "secondary_path",choice "primary_state" "active" states,
    choice "secondary_state" "active" states,choice "active_role" "primary" ["primary","secondary"],
    choice "primary_media_type" "hdd" mediaTypes,choice "secondary_media_type" "hdd" mediaTypes,
    stamped "created_at",stamped "updated_at"]

def trackedFiles : List Column :=
  [rowId,{ required "drive_pair_id" with parent := some "drive_pairs" },required "relative_path",required "checksum",
    required "file_size",nullable "virtual_path",counter "is_mirrored" 0,counter "tracked_direct" 1,
    counter "tracked_via_folder" 0,nullable "last_integrity_check_at",stamped "created_at",stamped "updated_at"]

def trackedFolders : List Column :=
  [rowId,{ required "drive_pair_id" with parent := some "drive_pairs" },required "folder_path",nullable "virtual_path",
    counter "include_checksum_sidecars" 0,counter "scanning" 0,counter "scan_scanned_files" 0,counter "scan_total_files" 0,
    counter "mirroring" 0,counter "deleting" 0,counter "mirror_mirrored_files" 0,counter "mirror_total_files" 0,
    nullable "last_scanned_at",nullable "last_mirrored_at",stamped "created_at"]

def integrityRuns : List Column :=
  [rowId,{ nullable "scope_drive_pair_id" with parent := some "drive_pairs" },counter "recover" 0,required "trigger",
    { required "status" with admits := some ["running","stopping","stopped","completed","failed"] },counter "total_files" 0,
    counter "processed_files" 0,counter "attention_files" 0,counter "recovered_files" 0,counter "active_workers" 0,
    counter "stop_requested" 0,stamped "started_at",nullable "ended_at",nullable "error_message"]

def integrityRunResults : List Column :=
  [rowId,{ required "run_id" with parent := some "integrity_runs" },{ required "file_id" with parent := some "tracked_files" },
    { required "drive_pair_id" with parent := some "drive_pairs" },required "relative_path",required "status",
    counter "recovered" 0,counter "needs_attention" 0,stamped "checked_at"]

def syncQueue : List Column :=
  [rowId,{ required "tracked_file_id" with parent := some "tracked_files" },
    { required "action" with
      admits := some ["mirror","restore_master","restore_mirror","verify","user_action_required","adopt_mirror"] },
    choice "status" "pending" ["pending","in_progress","completed","failed"],nullable "error_message",nullable "reason",
    stamped "created_at",nullable "completed_at"]

def eventTypes : List String :=
  ["file_created","file_edited","file_mirrored","file_untracked","integrity_pass","integrity_fail","recovery_success",
    "recovery_fail","both_corrupted","change_detected","sync_completed","sync_failed","folder_tracked","folder_untracked",
    "integrity_run_started","integrity_run_completed","drive_created","drive_updated","drive_deleted","drive_failover",
    "drive_quiescing","drive_quiesce_cancelled","drive_failure_confirmed","drive_replacement_assigned",
    "drive_rebuild_completed"]

def eventLog : List Column :=
  [rowId,{ required "event_type" with admits := some eventTypes },
    { nullable "tracked_file_id" with parent := some "tracked_files" },
    required "message",nullable "details",stamped "created_at"]

def scheduleConfig : List Column :=
  [rowId,{ required "task_type" with admits := some ["sync","integrity_check"] },nullable "cron_expr",nullable "interval_seconds",
    nullable "max_duration_seconds",counter "enabled" 1,nullable "last_run",nullable "next_run",stamped "created_at",
    stamped "updated_at"]

def syncSettings : List Column := [rowId,counter "queue_paused" 0]

def dbBackupConfig : List Column :=
  [rowId,required "backup_path",nullable "drive_label",counter "priority" 0,counter "enabled" 1,nullable "last_backup",
    nullable "last_integrity_check",nullable "last_integrity_status",nullable "last_error",stamped "created_at"]

def dbBackupSettings : List Column :=
  [rowId,counter "backup_enabled" 0,counter "backup_interval_seconds" 86400,counter "integrity_enabled" 0,
    counter "integrity_interval_seconds" 86400,nullable "last_backup_run",nullable "last_integrity_run",
    stamped "updated_at"]

/-- What is executed before the queue is looked at. -/
def script : List Statement :=
  [.createTable "drive_pairs" drivePairs,
    .createTrigger "prevent_duplicate_drive_paths_on_insert_primary" "drive_pairs",
    .createTrigger "prevent_duplicate_drive_paths_on_insert_secondary" "drive_pairs",
    .createTable "tracked_files" trackedFiles,
    .createTable "tracked_folders" trackedFolders,
    .createIndex "idx_tracked_files_virtual_path" "tracked_files" ["virtual_path"],
    .createIndex "idx_tracked_files_drive_relative" "tracked_files" ["drive_pair_id","relative_path"],
    .createIndex "idx_tracked_folders_drive_folder_path" "tracked_folders" ["drive_pair_id","folder_path"],
    .createTable "integrity_runs" integrityRuns,
    .createTable "integrity_run_results" integrityRunResults,
    .createIndex "idx_integrity_runs_active" "integrity_runs" ["status","started_at"],
    .createIndex "idx_integrity_run_results_issue" "integrity_run_results" ["run_id","needs_attention","id"],
    .createTable "sync_queue" syncQueue,
    .createTable "event_log" eventLog,
    .createTable "schedule_config" scheduleConfig,
    .createTable "sync_settings" syncSettings,
    .insertOrIgnore "sync_settings" 1 [("queue_paused",.integer 0)],
    -- The errors of these are dropped, where what they add is there.
    .tryAddColumn "schedule_config" (nullable "max_duration_seconds"),
    .tryAddColumn "drive_pairs" (choice "primary_media_type" "hdd" mediaTypes),
    .tryAddColumn "drive_pairs" (choice "secondary_media_type" "hdd" mediaTypes),
    .tryAddColumn "tracked_folders" (counter "include_checksum_sidecars" 0),
    .tryAddColumn "sync_settings" (nullable "processing_locked_at"),
    .tryAddColumn "sync_settings" (nullable "processing_locked_by_pid"),
    .tryAddColumn "tracked_folders" (counter "scanning" 0),
    .tryAddColumn "tracked_folders" (counter "scan_scanned_files" 0),
    .tryAddColumn "tracked_folders" (counter "scan_total_files" 0),
    .tryAddColumn "tracked_folders" (counter "mirroring" 0),
    .tryAddColumn "tracked_folders" (counter "deleting" 0),
    .tryAddColumn "tracked_folders" (counter "mirror_mirrored_files" 0),
    .tryAddColumn "tracked_folders" (counter "mirror_total_files" 0),
    .tryAddColumn "tracked_folders" (nullable "last_mirrored_at"),
    .tryAddColumn "sync_queue" (nullable "reason"),
    .tryCreateIndex "idx_tracked_files_integrity_check" "tracked_files" ["last_integrity_check_at"],
    .createTable "db_backup_config" dbBackupConfig,
    .createTable "db_backup_settings" dbBackupSettings,
    .insertOrIgnore "db_backup_settings" 1 [("backup_enabled",.integer 0),("backup_interval_seconds",.integer 86400),
      ("integrity_enabled",.integer 0),("integrity_interval_seconds",.integer 86400)],
    .tryAddColumn "integrity_runs" (counter "active_workers" 0),
    .tryAddColumn "db_backup_config" (counter "priority" 0),
    .tryAddColumn "db_backup_config" (nullable "last_integrity_check"),
    .tryAddColumn "db_backup_config" (nullable "last_integrity_status"),
    .tryAddColumn "db_backup_config" (nullable "last_error"),
    .createIndex "idx_db_backup_config_priority" "db_backup_config" ["priority","id"]]

/-- Texts of the column in the statement that made its table, which `sqlite_master` keeps. -/
def texts (column : Column) : List String :=
  column.name::column.parent.toList ++ column.admits.getD [] ++
    match column.default with
    | .value (.text text) => [text]
    | _ => []

/-- `instr(sql, 'adopt_mirror')`. -/
def namesAdoption (text : String) : Bool := text.toList.tails.any "adopt_mirror".toList.isPrefixOf

def mentionsAdoption (relation : Relation) : Bool := (relation.columns.flatMap texts).any namesAdoption

def needsMigration (db : Catalog) : Bool :=
  match db.relation "sync_queue" with
  | some relation => !mentionsAdoption relation
  | none => false

def copied : List String := ["id","tracked_file_id","action","status","error_message","created_at","completed_at"]

/-- A row of the old queue as the new one takes it: it has no reason. -/
def carried (row : Row) : Row := fun name => if name ∈ copied then row name else .null

def initializeSchema (now : String) : EStateM String Catalog Unit := do
  run now script
  if needsMigration (← get) then replaceTable "sync_queue" "sync_queue_old" syncQueue carried

/-- The rows of the queue are such that a queue which may adopt mirrors takes them. -/
def QueueFits (db : Catalog) : Prop :=
  db.relation "sync_queue_old" = none ∧
    ∀ relation, db.relation "sync_queue" = some relation → Fills db syncQueue (relation.rows.map carried)

/-- What an upgrade makes of a database. -/
structure Upgraded (db next : Catalog) : Prop where
  columns : ∀ table, ∀ name ∈ declared script table ++ altered script table,
    ∃ relation, next.relation table = some relation ∧ name ∈ relation.names
  /-- Rows stay, with the defaults of the columns they lack; only the settings get a row. -/
  rows : ∀ table relation, (table = "sync_queue" → needsMigration db = false) → db.relation table = some relation →
    ∃ wide added more, next.relation table = some wide ∧ Widened relation wide added more ∧
      (∀ column ∈ added, Statement.tryAddColumn table column ∈ script) ∧ (table ∉ seeded script → more = [])
  /-- A queue that is rebuilt has its rows in their order, with the columns that are copied. -/
  queue : needsMigration db → ∀ relation, db.relation "sync_queue" = some relation →
    next.relation "sync_queue" = some ⟨syncQueue,relation.rows.map carried⟩
  adopts : ∃ wide, next.relation "sync_queue" = some wide ∧ mentionsAdoption wide

/-- What the script says, above all of the queue. -/
structure ScriptFacts : Prop where
  checked : (checkAll (floor script) [] script).isSome
  queueColumns : ∀ statement ∈ script, (match statement with
    | .createTable table columns => decide (table = "sync_queue" → columns = syncQueue)
    | _ => true) = true
  queueAdditions : ∀ statement ∈ script, (match statement with
    | .tryAddColumn table column => decide (table = "sync_queue" → column = nullable "reason")
    | _ => true) = true
  queueDeclared : ∀ name ∈ declared script "sync_queue" ++ altered script "sync_queue", name ∈ syncQueue.map Column.name
  queueKeyed : "id" ∈ declared script "sync_queue" ++ altered script "sync_queue"
  queueParents : ∀ column ∈ syncQueue, ∀ parent ∈ column.parent, parent = "tracked_files"
  queueSeeded : "sync_queue" ∉ seeded script
  filesSeeded : "tracked_files" ∉ seeded script
  queueIndexed : ∀ entry ∈ made script, entry.2 ≠ "sync_queue"
  copiedOld : ∀ name ∈ copied, name ∈ floor script "sync_queue"
  filesKeyed : "id" ∈ floor script "tracked_files"
  adopts : (syncQueue.flatMap texts).any namesAdoption
  reason : (nullable "reason").name ∈ syncQueue.map Column.name
  silent : (texts (nullable "reason")).any namesAdoption = false
  aside : ∀ statement ∈ script, (match statement with
    | .createTable table _ => table != "sync_queue_old"
    | _ => true) = true

section
variable (facts : ScriptFacts)
include facts

theorem queue_columns {columns : List Column} (listed : Statement.createTable "sync_queue" columns ∈ script) :
    columns = syncQueue :=
  of_decide_eq_true (facts.queueColumns _ listed) rfl

theorem queue_additions {column : Column} (listed : Statement.tryAddColumn "sync_queue" column ∈ script) :
    column = nullable "reason" :=
  of_decide_eq_true (facts.queueAdditions _ listed) rfl

theorem queue_adopts (added : List Column) (rows : List Row) : mentionsAdoption ⟨syncQueue ++ added,rows⟩ := by
  simp [mentionsAdoption,facts.adopts]

theorem mentions_widened {relation wide : Relation} {added : List Column} {more : List Row}
    (widened : Widened relation wide added more)
    (scripted : ∀ column ∈ added, Statement.tryAddColumn "sync_queue" column ∈ script) :
    mentionsAdoption wide = mentionsAdoption relation := by
  have silent : (added.flatMap texts).any namesAdoption = false := by
    simp only [List.any_flatMap,List.any_eq_false]
    intro column member
    rw [queue_additions facts (scripted column member)]
    simpa using facts.silent
  simp [mentionsAdoption,widened.columns,silent]

theorem needsMigration_after {db middle : Catalog} (grown : Grows script db middle) :
    needsMigration middle = needsMigration db := by
  cases was : db.relation "sync_queue" with
  | some relation =>
    obtain ⟨wide,added,more,here,widened,scripted,-⟩ := grown.tables _ _ was
    simp [needsMigration,was,here,mentions_widened facts widened scripted]
  | none =>
    cases there : middle.relation "sync_queue" with
    | none => simp [needsMigration,was,there]
    | some relation =>
      obtain ⟨⟨columns,added,listed,eq⟩,-⟩ := grown.fresh _ _ was there
      rw [queue_columns facts listed] at eq
      have adopts := queue_adopts facts added relation.rows
      rw [← eq] at adopts
      simp [needsMigration,was,there,adopts]

theorem carried_extended {relation wide : Relation} {added : List Column} {more : List Row}
    (widened : Widened relation wide added more) (old : ∀ name ∈ floor script "sync_queue", name ∈ relation.names) (row : Row) :
    carried (extended added row) = carried row := by
  ext name : 1
  by_cases kept : name ∈ copied
  · have other : ∀ column ∈ added, column.name ≠ name := by
      intro column member same
      exact widened.fresh column member (same ▸ old name (facts.copiedOld name kept))
    simp [carried,kept,extended_other other]
  · simp [carried,kept]

theorem queue_accepts {db middle : Catalog} (older : Older (floor script) db) (grown : Grows script db middle) (row : Row) :
    middle.accepts syncQueue row = db.accepts syncQueue row := by
  apply grown.accepts
  intro column member parent refers
  rw [facts.queueParents column member parent refers]
  exact ⟨facts.filesSeeded,fun relation there => older _ _ there "id" facts.filesKeyed⟩

theorem aside_after {db middle : Catalog} (grown : Grows script db middle) :
    middle.relation "sync_queue_old" = none ↔ db.relation "sync_queue_old" = none := by
  constructor
  · intro missing
    cases was : db.relation "sync_queue_old" with
    | none => rfl
    | some relation =>
      obtain ⟨wide,added,more,here,-⟩ := grown.tables _ _ was
      rw [missing] at here
      cases here
  · intro missing
    cases there : middle.relation "sync_queue_old" with
    | none => rfl
    | some relation =>
      obtain ⟨⟨columns,added,listed,-⟩,-⟩ := grown.fresh _ _ missing there
      simpa using facts.aside _ listed

theorem replaces_iff {db middle : Catalog} (older : Older (floor script) db) (grown : Grows script db middle)
    (needed : needsMigration db) :
    (∃ next, replaceTable "sync_queue" "sync_queue_old" syncQueue carried middle = .ok () next) ↔ QueueFits db := by
  cases was : db.relation "sync_queue" with
  | none => simp [needsMigration,was] at needed
  | some relation =>
    obtain ⟨wide,added,more,here,widened,-,still⟩ := grown.tables _ _ was
    have rows : wide.rows.map carried = relation.rows.map carried := by
      simp [widened.rows,still facts.queueSeeded,Function.comp_def,carried_extended facts widened (older _ _ was)]
    rw [replaceTable_iff here,aside_after facts grown,rows]
    simp [QueueFits,was,Fills,queue_accepts facts older grown]

theorem upgraded_replaced {db middle next : Catalog} (older : Older (floor script) db) (grown : Grows script db middle)
    (needed : needsMigration db)
    (columns : ∀ table, ∀ name ∈ declared script table ++ altered script table,
      ∃ relation, middle.relation table = some relation ∧ name ∈ relation.names)
    (ok : replaceTable "sync_queue" "sync_queue_old" syncQueue carried middle = .ok () next) : Upgraded db next := by
  obtain ⟨wide,there,here,others,-⟩ := replaceTable_ok ok
  refine ⟨fun table name listed => ?_,fun table relation kept was => ?_,fun _ relation was => ?_,_,here,queue_adopts facts [] _⟩
  · by_cases same : table = "sync_queue"
    · subst same
      exact ⟨_,here,facts.queueDeclared name listed⟩
    · rw [others table same]
      exact columns table name listed
  · have apart : table ≠ "sync_queue" := by
      intro same
      rw [kept same] at needed
      cases needed
    rw [others table apart]
    exact grown.tables table relation was
  · obtain ⟨middleQueue,added,more,found,widened,-,still⟩ := grown.tables _ _ was
    cases found.symm.trans there
    rw [here,widened.rows,still facts.queueSeeded,List.append_nil,List.map_map]
    simp only [Function.comp_def,carried_extended facts widened (older _ _ was)]

theorem upgraded_after {db middle : Catalog} (grown : Grows script db middle)
    (columns : ∀ table, ∀ name ∈ declared script table ++ altered script table,
      ∃ relation, middle.relation table = some relation ∧ name ∈ relation.names)
    (current : needsMigration middle = false) : Upgraded db middle := by
  refine ⟨columns,fun table relation _ was => grown.tables table relation was,fun needed => ?_,?_⟩
  · rw [needsMigration_after facts grown,needed] at current
    cases current
  · obtain ⟨relation,here,-⟩ := columns "sync_queue" "id" facts.queueKeyed
    exact ⟨relation,here,by simpa [needsMigration,here] using current⟩

end

theorem initializeSchema_run {now : String} {db middle : Catalog} (ok : run now script db = .ok () middle) :
    initializeSchema now db =
      if needsMigration middle then replaceTable "sync_queue" "sync_queue_old" syncQueue carried middle else .ok () middle := by
  rw [initializeSchema,bind_of_ok ok]
  change (if needsMigration middle then replaceTable "sync_queue" "sync_queue_old" syncQueue carried else pure ()) middle = _
  split_ifs <;> rfl

theorem run_again {db : Catalog} (settled : ∀ statement ∈ script, Settled db statement) (current : needsMigration db = false)
    (later : String) : initializeSchema later db = .ok () db := by
  rw [initializeSchema_run (run_settled later settled),current]
  rfl

theorem script_facts : ScriptFacts := by
  constructor <;> decide +kernel

/-- A queue from before mirrors could be adopted, with one entry of the first file. -/
def oldQueue : Relation where
  columns := [rowId,{ required "tracked_file_id" with parent := some "tracked_files" },
    { required "action" with admits := some ["mirror","restore_master","restore_mirror","verify","user_action_required"] },
    choice "status" "pending" ["pending","in_progress","completed","failed"],nullable "error_message",stamped "created_at",
    nullable "completed_at"]
  rows := [fun name => ([("id",.integer 4),("tracked_file_id",.integer 1),("action",.text "mirror"),("status",.text "failed"),
    ("created_at",.moment "2024-05-01 08:00:00")].lookup name).getD .null]

def oldCatalog (files : List Row) : Catalog :=
  Catalog.put (Catalog.put ⟨fun _ => none,[],[]⟩ "tracked_files" ⟨trackedFiles,files⟩) "sync_queue" oldQueue

theorem oldCatalog_queue (files : List Row) : (oldCatalog files).relation "sync_queue" = some oldQueue := by
  simp [oldCatalog,Catalog.put]

theorem older_put {floor : String → List String} {db : Catalog} (older : Older floor db) {table : String} {relation : Relation}
    (has : ∀ name ∈ floor table, name ∈ relation.names) : Older floor (db.put table relation) := by
  intro other stored there
  by_cases same : other = table
  · subst same
    cases (if_pos rfl).symm.trans there
    exact has
  · exact older other stored ((if_neg same).symm.trans there)

theorem oldCatalog_older (files : List Row) : Older (floor script) (oldCatalog files) := by
  refine older_put (older_put ?_ ?_) ?_
  · simp [Older]
  · have has : ∀ name ∈ floor script "tracked_files", name ∈ trackedFiles.map Column.name := by decide +kernel
    exact has
  · decide +kernel

end BitProtector.Schema
