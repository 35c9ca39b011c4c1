import BitProtector.Tracker
import BitProtector.Foundation.Machine

/-! The operations on a tracked folder exclude each other. A start is two statements, the
compare-and-set and the read of the row that it returns, and any number of callers come in
between. A caller finishes or clears only what it has started, once. -/
namespace BitProtector

namespace Db

def startFolderDelete (db : Db) (id : Nat) : Except String TrackedFolder × Db :=
  if db.trackedFolders.rows.any (fun folder => folder.id == id && folderIdle folder) then
    let next := db.updateFolderWhere (fun folder => folder.id == id && folderIdle folder)
      (fun folder => { folder with deleting := true }) (fun _ => rfl)
    (next.getTrackedFolder id,next)
  else (.error "Folder operation already active",db)

def clearFolderDelete (db : Db) (id : Nat) : Db :=
  db.updateFolderWhere (fun folder => folder.id == id) (fun folder => { folder with deleting := false }) (fun _ => rfl)

/-- The rows that are not idle; how many they are is only logged. -/
def resetStaleFolderFlags (db : Db) : Db :=
  db.updateFolderWhere (fun folder => !folderIdle folder)
    (fun folder => { folder with scanning := false,mirroring := false,deleting := false }) (fun _ => rfl)

end Db

namespace FolderOperations

inductive Operation
  | scan
  | mirror
  | delete
  deriving DecidableEq

def flag (folder : TrackedFolder) : Operation → Bool
  | .scan => folder.scanning
  | .mirror => folder.mirroring
  | .delete => folder.deleting

def start (db : Db) (id totalFiles : Nat) : Operation → Except String TrackedFolder × Db
  | .scan => db.startFolderScan id totalFiles
  | .mirror => db.startFolderMirror id totalFiles
  | .delete => db.startFolderDelete id

/-- `finish_folder_scan`, `finish_folder_mirror` or `clear_folder_delete`. -/
def finish (db : Db) (id : Nat) : Operation → Db
  | .scan => db.finishFolderScan id
  | .mirror => db.finishFolderMirror id
  | .delete => db.clearFolderDelete id

/-- The compare-and-set of a start changes a row. -/
def takes (db : Db) (id : Nat) : Bool :=
  db.trackedFolders.rows.any (fun folder => folder.id == id && Db.folderIdle folder)

inductive Caller
  | idle
  /-- The flag is set, and the row is not read back yet. -/
  | marked (operation : Operation) (id : Nat)
  /-- The start has reported success. -/
  | running (operation : Operation) (id : Nat)
  deriving DecidableEq

structure Service where
  db : Db
  callers : Nat → Caller

/-- What else is done to the rows of the folders. -/
inductive Work
  | create (drivePairId : Nat) (folderPath : String) (virtualPath : Option String) (includeChecksumSidecars : Bool)
  | remove (id : Nat)
  | setVirtualPath (id : Nat) (virtualPath : Option String)
  | scanProgress (id scannedFiles : Nat)
  | mirrorProgress (id mirroredFiles : Nat)

def Work.apply (db : Db) : Work → Db
  | .create drivePairId folderPath virtualPath includeChecksumSidecars =>
    (db.createTrackedFolderWithSidecars drivePairId folderPath virtualPath includeChecksumSidecars).2
  | .remove id => db.deleteTrackedFolder id
  | .setVirtualPath id virtualPath => db.updateTrackedFolderVirtualPath id virtualPath
  | .scanProgress id scannedFiles => db.updateScanProgress id scannedFiles
  | .mirrorProgress id mirroredFiles => db.updateMirrorProgress id mirroredFiles

inductive Label
  | start (caller : Nat) (operation : Operation) (id totalFiles : Nat)
  | report (caller : Nat)
  | finish (caller : Nat)
  | work (work : Work)
  /-- The service dies with all its callers. -/
  | restart
  | reset

def step : Label → Service → Option Service
  | .start caller operation id totalFiles, s =>
    if s.callers caller = .idle then
      some { db := (start s.db id totalFiles operation).2,
             callers := Function.update s.callers caller (if takes s.db id then .marked operation id else .idle) }
    else none
  | .report caller, s =>
    match s.callers caller with
    | .marked operation id =>
      match s.db.getTrackedFolder id with
      | .ok _ => some { s with callers := Function.update s.callers caller (.running operation id) }
      | .error _ => some { s with callers := Function.update s.callers caller .idle }
    | _ => none
  | .finish caller, s =>
    match s.callers caller with
    | .running operation id =>
      some { db := finish s.db id operation, callers := Function.update s.callers caller .idle }
    | _ => none
  | .work work, s => some { s with db := work.apply s.db }
  | .restart, s => some { s with callers := fun _ => .idle }
  | .reset, s => some { s with db := s.db.resetStaleFolderFlags }

def machine : Machine Service Label := ⟨step⟩

/-- The flags are reset only at the start of the service, with no operation running. -/
def Permitted : Label → Service → Prop
  | .reset, s => ∀ caller, s.callers caller = .idle
  | _, _ => True

/-- From the caller's compare-and-set to its finish. -/
def InProgress (s : Service) (caller : Nat) (operation : Operation) (id : Nat) : Prop :=
  s.callers caller = .marked operation id ∨ s.callers caller = .running operation id

/-- No flag of the folder but the operation's is set. -/
def Only (operation : Operation) (folder : TrackedFolder) : Prop :=
  ∀ other, flag folder other = true ↔ other = operation

def AtMostOne (folder : TrackedFolder) : Prop :=
  ∀ first second, flag folder first = true → flag folder second = true → first = second

structure Exclusive (s : Service) : Prop where
  known : ∀ caller operation id, InProgress s caller operation id → id ≤ s.db.trackedFolders.lastId
  single : ∀ caller other operation another id, InProgress s caller operation id →
    InProgress s other another id → other = caller
  marked : ∀ caller operation id folder, InProgress s caller operation id →
    s.db.trackedFolders.find? id = some folder → Only operation folder
  flags : ∀ id folder, s.db.trackedFolders.find? id = some folder → AtMostOne folder

theorem idle_iff (folder : TrackedFolder) : Db.folderIdle folder = true ↔ ∀ operation, flag folder operation = false := by
  simp only [Db.folderIdle,Bool.and_eq_true,Bool.not_eq_true']
  constructor
  · rintro ⟨⟨scanning,mirroring⟩,deleting⟩ operation
    cases operation with
    | scan => exact scanning
    | mirror => exact mirroring
    | delete => exact deleting
  · intro down
    exact ⟨⟨down .scan,down .mirror⟩,down .delete⟩

theorem AtMostOne.of_only {operation : Operation} {folder : TrackedFolder} (only : Only operation folder) :
    AtMostOne folder :=
  fun first second one other => ((only first).mp one).trans ((only second).mp other).symm

theorem AtMostOne.of_lower {before folder : TrackedFolder} (holds : AtMostOne before)
    (lower : ∀ operation, flag folder operation = true → flag before operation = true) : AtMostOne folder :=
  fun first second one other => holds first second (lower first one) (lower second other)

theorem AtMostOne.of_idle {folder : TrackedFolder} (down : Db.folderIdle folder = true) : AtMostOne folder := by
  intro first second one
  rw [(idle_iff folder).mp down first] at one
  cases one

/-! What each statement does to the row of one folder. -/

theorem find?_updateFolderWhere (db : Db) (p change keepsId) (id : Nat) :
    (db.updateFolderWhere p change keepsId).trackedFolders.find? id =
      (db.trackedFolders.find? id).map (fun folder => if p folder then change folder else folder) :=
  db.trackedFolders.find?_updateWhere p change keepsId id

theorem takes_row {db : Db} {id : Nat} (taken : takes db id = true) :
    ∃ folder, db.trackedFolders.find? id = some folder ∧ Db.folderIdle folder = true := by
  obtain ⟨folder,member,free⟩ := List.any_eq_true.mp taken
  obtain ⟨own,down⟩ := Bool.and_eq_true_iff.mp free
  have key : folder.id = id := by simpa using own
  exact ⟨folder,Table.find?_eq_some.mpr ⟨member,key⟩,down⟩

theorem start_refused {db : Db} {id totalFiles : Nat} (operation : Operation) (refused : takes db id = false) :
    (start db id totalFiles operation).2 = db := by
  have closed : ¬ db.trackedFolders.rows.any (fun folder => folder.id == id && Db.folderIdle folder) = true := by
    rw [← takes,refused]
    exact Bool.false_ne_true
  cases operation <;> simp only [start,Db.startFolderScan,Db.startFolderMirror,Db.startFolderDelete,if_neg closed]

theorem start_lastId (db : Db) (id totalFiles : Nat) (operation : Operation) :
    (start db id totalFiles operation).2.trackedFolders.lastId = db.trackedFolders.lastId := by
  cases operation with
  | scan =>
    simp only [start,Db.startFolderScan]
    split <;> rfl
  | mirror =>
    simp only [start,Db.startFolderMirror]
    split <;> rfl
  | delete =>
    simp only [start,Db.startFolderDelete]
    split <;> rfl

theorem start_taken {db : Db} {id : Nat} (totalFiles : Nat) (operation : Operation) (taken : takes db id = true) :
    ∃ change keepsId, (∀ row, Db.folderIdle row = true → Only operation (change row)) ∧
      (start db id totalFiles operation).2 =
        db.updateFolderWhere (fun folder => folder.id == id && Db.folderIdle folder) change keepsId := by
  cases operation with
  | scan =>
    refine ⟨_,_,?_,congrArg Prod.snd (if_pos taken)⟩
    intro row down another
    have low := (idle_iff row).mp down
    cases another with
    | scan => simp [flag]
    | mirror => simpa [flag] using low .mirror
    | delete => simpa [flag] using low .delete
  | mirror =>
    refine ⟨_,_,?_,congrArg Prod.snd (if_pos taken)⟩
    intro row down another
    have low := (idle_iff row).mp down
    cases another with
    | scan => simpa [flag] using low .scan
    | mirror => simp [flag]
    | delete => simpa [flag] using low .delete
  | delete =>
    refine ⟨_,_,?_,congrArg Prod.snd (if_pos taken)⟩
    intro row down another
    have low := (idle_iff row).mp down
    cases another with
    | scan => simpa [flag] using low .scan
    | mirror => simpa [flag] using low .mirror
    | delete => simp [flag]

theorem start_marks {db : Db} {id totalFiles : Nat} {operation : Operation} (taken : takes db id = true)
    {other : Nat} {folder : TrackedFolder}
    (found : (start db id totalFiles operation).2.trackedFolders.find? other = some folder) :
    (other = id ∧ Only operation folder) ∨ (other ≠ id ∧ db.trackedFolders.find? other = some folder) := by
  obtain ⟨change,keepsId,only,marked⟩ := start_taken totalFiles operation taken
  rw [marked,find?_updateFolderWhere] at found
  obtain ⟨row,before,rfl⟩ := Option.map_eq_some_iff.mp found
  by_cases own : other = id
  · subst own
    obtain ⟨free,there,down⟩ := takes_row taken
    cases before.symm.trans there
    have key : row.id = other := Table.find?_key before
    rw [if_pos (by simp [key,down])]
    exact .inl ⟨rfl,only row down⟩
  · have key : row.id = other := Table.find?_key before
    rw [if_neg (by simp [key,own])]
    exact .inr ⟨own,before⟩

theorem finish_lastId (db : Db) (id : Nat) (operation : Operation) :
    (finish db id operation).trackedFolders.lastId = db.trackedFolders.lastId := by
  cases operation <;> rfl

theorem finish_lowers {db : Db} {id : Nat} {operation : Operation} {other : Nat} {folder : TrackedFolder}
    (found : (finish db id operation).trackedFolders.find? other = some folder) :
    ∃ row, db.trackedFolders.find? other = some row ∧
      (∀ another, flag folder another = true → flag row another = true) ∧ (other ≠ id → folder = row) := by
  have lowering : ∃ change : TrackedFolder → TrackedFolder,
      (∀ row another, flag (change row) another = true → flag row another = true) ∧
      (finish db id operation).trackedFolders.find? other =
        (db.trackedFolders.find? other).map (fun row => if row.id == id then change row else row) := by
    cases operation with
    | scan =>
      refine ⟨_,?_,find?_updateFolderWhere ..⟩
      intro row another high
      cases another <;> simp_all [flag]
    | mirror =>
      refine ⟨_,?_,find?_updateFolderWhere ..⟩
      intro row another high
      cases another <;> simp_all [flag]
    | delete =>
      refine ⟨_,?_,find?_updateFolderWhere ..⟩
      intro row another high
      cases another <;> simp_all [flag]
  obtain ⟨change,lower,reads⟩ := lowering
  rw [reads] at found
  obtain ⟨row,before,rfl⟩ := Option.map_eq_some_iff.mp found
  have key : row.id = other := Table.find?_key before
  refine ⟨row,before,?_,?_⟩
  · intro another
    split
    · exact lower row another
    · exact fun high => high
  · intro apart
    rw [if_neg (by simp [key,apart])]

theorem reset_lowers {db : Db} {id : Nat} {folder : TrackedFolder}
    (found : db.resetStaleFolderFlags.trackedFolders.find? id = some folder) : Db.folderIdle folder = true := by
  rw [Db.resetStaleFolderFlags,find?_updateFolderWhere] at found
  obtain ⟨row,before,rfl⟩ := Option.map_eq_some_iff.mp found
  cases down : Db.folderIdle row with
  | true => simpa using down
  | false => rfl

theorem work_keeps (db : Db) (work : Work) :
    db.trackedFolders.lastId ≤ (work.apply db).trackedFolders.lastId ∧
    ∀ id folder, (work.apply db).trackedFolders.find? id = some folder →
      (db.trackedFolders.lastId < id ∧ Db.folderIdle folder = true) ∨
      ∃ row, db.trackedFolders.find? id = some row ∧ flag folder = flag row := by
  have updated (p change keepsId) (keeps : ∀ row, flag (change row) = flag row) :
      ∀ id folder, (db.updateFolderWhere p change keepsId).trackedFolders.find? id = some folder →
      (db.trackedFolders.lastId < id ∧ Db.folderIdle folder = true) ∨
      ∃ row, db.trackedFolders.find? id = some row ∧ flag folder = flag row := by
    intro id folder found
    rw [find?_updateFolderWhere] at found
    obtain ⟨row,before,rfl⟩ := Option.map_eq_some_iff.mp found
    refine .inr ⟨row,before,?_⟩
    split
    · exact keeps row
    · rfl
  cases work with
  | create drivePairId folderPath virtualPath sidecars =>
    simp only [Work.apply,Db.createTrackedFolderWithSidecars]
    split
    · exact ⟨Nat.le_refl _,fun id folder found => .inr ⟨folder,found,rfl⟩⟩
    · split
      · refine ⟨Nat.le_succ _,fun id folder found => ?_⟩
        dsimp only at found
        rw [Table.find?_insert] at found
        split at found
        · rename_i new
          cases found
          exact .inl ⟨by omega,rfl⟩
        · exact .inr ⟨folder,found,rfl⟩
      · exact ⟨Nat.le_refl _,fun id folder found => .inr ⟨folder,found,rfl⟩⟩
  | remove id =>
    refine ⟨Nat.le_refl _,fun other folder found => ?_⟩
    have kept : (db.trackedFolders.find? other).filter (fun folder => !(folder.id == id)) = some folder :=
      (Table.find?_deleteWhere ..).symm.trans found
    exact .inr ⟨folder,(Option.filter_eq_some_iff.mp kept).1,rfl⟩
  | setVirtualPath id virtualPath => exact ⟨Nat.le_refl _,updated _ _ _ fun row => rfl⟩
  | scanProgress id scannedFiles => exact ⟨Nat.le_refl _,updated _ _ _ fun row => rfl⟩
  | mirrorProgress id mirroredFiles => exact ⟨Nat.le_refl _,updated _ _ _ fun row => rfl⟩

/-! The invariant. -/

theorem Exclusive.of_keeps {s t : Service} (exclusive : Exclusive s)
    (callers : ∀ caller operation id, InProgress t caller operation id → InProgress s caller operation id)
    (ids : s.db.trackedFolders.lastId ≤ t.db.trackedFolders.lastId)
    (rows : ∀ id folder, t.db.trackedFolders.find? id = some folder →
      ((∀ caller operation, ¬ InProgress t caller operation id) ∧ AtMostOne folder) ∨
      ∃ row, s.db.trackedFolders.find? id = some row ∧ flag folder = flag row) : Exclusive t where
  known caller operation id runs := Nat.le_trans (exclusive.known caller operation id (callers _ _ _ runs)) ids
  single caller other operation another id runs also :=
    exclusive.single caller other operation another id (callers _ _ _ runs) (callers _ _ _ also)
  marked caller operation id folder runs found := by
    rcases rows id folder found with ⟨nobody,_⟩ | ⟨row,before,same⟩
    · exact absurd runs (nobody caller operation)
    · rw [Only,same]
      exact exclusive.marked caller operation id row (callers _ _ _ runs) before
  flags id folder found := by
    rcases rows id folder found with ⟨_,one⟩ | ⟨row,before,same⟩
    · exact one
    · rw [AtMostOne,same]
      exact exclusive.flags id row before

theorem inProgress_other {s : Service} {db : Db} {caller other : Nat} {next : Caller} (apart : other ≠ caller)
    {operation : Operation} {id : Nat} :
    InProgress ⟨db,Function.update s.callers caller next⟩ other operation id ↔ InProgress s other operation id := by
  simp only [InProgress,Function.update_of_ne apart]

theorem inProgress_own {s : Service} {db : Db} {caller : Nat} {next : Caller} {operation : Operation} {id : Nat} :
    InProgress ⟨db,Function.update s.callers caller next⟩ caller operation id ↔
      next = .marked operation id ∨ next = .running operation id := by
  simp only [InProgress,Function.update_self]

theorem inProgress_kept {s : Service} {db : Db} {caller : Nat} {next : Caller}
    (own : ∀ operation id, next = .marked operation id ∨ next = .running operation id → InProgress s caller operation id)
    (other : Nat) (operation : Operation) (id : Nat)
    (runs : InProgress ⟨db,Function.update s.callers caller next⟩ other operation id) : InProgress s other operation id := by
  by_cases same : other = caller
  · subst same
    exact own operation id (inProgress_own.mp runs)
  · exact (inProgress_other same).mp runs

theorem not_inProgress_of_idle {s : Service} {caller : Nat} (idle : s.callers caller = .idle) (operation : Operation) (id : Nat) :
    ¬ InProgress s caller operation id := by
  simp [InProgress,idle]

theorem inProgress_idle {s : Service} {db : Db} {caller : Nat} (other : Nat) (operation : Operation) (id : Nat)
    (runs : InProgress ⟨db,Function.update s.callers caller .idle⟩ other operation id) :
    other ≠ caller ∧ InProgress s other operation id := by
  have apart : other ≠ caller := by
    rintro rfl
    exact not_inProgress_of_idle (Function.update_self ..) operation id runs
  exact ⟨apart,(inProgress_other apart).mp runs⟩

theorem Exclusive.of_callers {s t : Service} (exclusive : Exclusive s) (same : t.db = s.db)
    (callers : ∀ caller operation id, InProgress t caller operation id → InProgress s caller operation id) : Exclusive t :=
  exclusive.of_keeps callers (by rw [same]) fun _ folder found => .inr ⟨folder,by rwa [← same],rfl⟩

theorem nobody_of_idle {s : Service} (exclusive : Exclusive s) {id : Nat} (taken : takes s.db id = true)
    (caller : Nat) (operation : Operation) : ¬ InProgress s caller operation id := by
  intro runs
  obtain ⟨folder,found,down⟩ := takes_row taken
  have high := (exclusive.marked caller operation id folder runs found operation).mpr rfl
  rw [(idle_iff folder).mp down operation] at high
  cases high

theorem exclusive_started {s : Service} {caller id totalFiles : Nat} {operation : Operation} (exclusive : Exclusive s)
    (taken : takes s.db id = true) :
    Exclusive ⟨(start s.db id totalFiles operation).2,Function.update s.callers caller (.marked operation id)⟩ := by
  have free := nobody_of_idle exclusive taken
  -- Of this folder only the caller runs an operation, of the others whoever did before.
  have runs {c op other} : InProgress ⟨(start s.db id totalFiles operation).2,
      Function.update s.callers caller (.marked operation id)⟩ c op other →
      (c = caller ∧ op = operation ∧ other = id) ∨ (InProgress s c op other ∧ other ≠ id) := by
    intro holds
    by_cases own : c = caller
    · subst own
      rcases inProgress_own.mp holds with same | same
      · cases same
        exact .inl ⟨rfl,rfl,rfl⟩
      · cases same
    · have before := (inProgress_other own).mp holds
      exact .inr ⟨before,fun same => free c op (same ▸ before)⟩
  constructor
  · intro c op other holds
    rw [start_lastId]
    rcases runs holds with ⟨_,_,rfl⟩ | ⟨before,_⟩
    · obtain ⟨folder,found,_⟩ := takes_row taken
      have bound := s.db.trackedFolders.bounded folder (Table.mem_of_find? found)
      rwa [Table.find?_key found] at bound
    · exact exclusive.known c op other before
  · intro c d op another other first second
    rcases runs first with ⟨rfl,_,rfl⟩ | ⟨before,apart⟩
    · rcases runs second with ⟨same,_⟩ | ⟨_,apart⟩
      · exact same
      · exact absurd rfl apart
    · rcases runs second with ⟨_,_,same⟩ | ⟨also,_⟩
      · exact absurd same apart
      · exact exclusive.single c d op another other before also
  · intro c op other folder holds found
    rcases start_marks taken found with ⟨same,only⟩ | ⟨apart,before⟩
    · rcases runs holds with ⟨_,rfl,_⟩ | ⟨_,other⟩
      · exact only
      · exact absurd same other
    · rcases runs holds with ⟨_,_,same⟩ | ⟨also,_⟩
      · exact absurd same apart
      · exact exclusive.marked c op other folder also before
  · intro other folder found
    rcases start_marks taken found with ⟨_,only⟩ | ⟨_,before⟩
    · exact .of_only only
    · exact exclusive.flags other folder before

theorem exclusive_step {label : Label} {s t : Service} (exclusive : Exclusive s) (permitted : Permitted label s)
    (taken : step label s = some t) : Exclusive t := by
  cases label with
  | start caller operation id totalFiles =>
    simp only [step] at taken
    split at taken
    case isFalse => cases taken
    case isTrue free =>
      cases taken
      cases taking : takes s.db id with
      | true => exact exclusive_started exclusive taking
      | false =>
        rw [start_refused operation taking]
        exact exclusive.of_callers rfl fun c op other holds => (inProgress_idle c op other holds).2
  | report caller =>
    simp only [step] at taken
    split at taken
    · rename_i operation id marked
      split at taken
      · cases taken
        refine exclusive.of_callers rfl (inProgress_kept ?_)
        intro op other holds
        rcases holds with impossible | same
        · cases impossible
        · cases same
          exact .inl marked
      · cases taken
        exact exclusive.of_callers rfl fun c op other holds => (inProgress_idle c op other holds).2
    · cases taken
  | finish caller =>
    simp only [step] at taken
    split at taken
    · rename_i operation id running
      cases taken
      have ends {c op other} (holds : InProgress ⟨finish s.db id operation,Function.update s.callers caller .idle⟩ c op other) :
          c ≠ caller ∧ InProgress s c op other := inProgress_idle c op other holds
      refine exclusive.of_keeps (fun _ _ _ holds => (ends holds).2) (Nat.le_of_eq (finish_lastId s.db id operation).symm) ?_
      intro other folder found
      obtain ⟨row,before,lower,apart⟩ := finish_lowers found
      by_cases own : other = id
      · subst own
        refine .inl ⟨fun c op holds => ?_,(exclusive.flags other row before).of_lower lower⟩
        -- The caller was the only one on this folder, and it is done.
        exact (ends holds).1 (exclusive.single caller c operation op other (.inr running) (ends holds).2)
      · exact .inr ⟨row,before,by rw [apart own]⟩
    · cases taken
  | work work =>
    cases taken
    obtain ⟨ids,kept⟩ := work_keeps s.db work
    refine exclusive.of_keeps (fun _ _ _ holds => holds) ids ?_
    intro id folder found
    rcases kept id folder found with ⟨new,down⟩ | same
    · refine .inl ⟨fun caller operation holds => ?_,.of_idle down⟩
      exact absurd (exclusive.known caller operation id holds) (Nat.not_le_of_lt new)
    · exact .inr same
  | restart =>
    cases taken
    exact exclusive.of_callers rfl fun caller operation id holds => absurd holds (not_inProgress_of_idle rfl operation id)
  | reset =>
    cases taken
    refine exclusive.of_keeps (fun _ _ _ holds => holds) (Nat.le_refl _) ?_
    intro id folder found
    exact .inl ⟨fun caller operation => not_inProgress_of_idle (permitted caller) operation id,.of_idle (reset_lowers found)⟩

theorem exclusive_idle {s : Service} (idle : ∀ caller, s.callers caller = .idle)
    (flags : ∀ folder ∈ s.db.trackedFolders.rows, AtMostOne folder) : Exclusive s where
  known caller operation id runs := absurd runs (not_inProgress_of_idle (idle caller) operation id)
  single caller _ operation _ id runs := absurd runs (not_inProgress_of_idle (idle caller) operation id)
  marked caller operation id _ runs := absurd runs (not_inProgress_of_idle (idle caller) operation id)
  flags _ folder found := flags folder (Table.mem_of_find? found)

/-- The operations on a folder exclude each other in every state, and a start that has reported success is the
only one in progress until its caller finishes. -/
theorem operations_exclude {start s : Service} (initial : ∀ caller, start.callers caller = .idle)
    (flags : ∀ folder ∈ start.db.trackedFolders.rows, AtMostOne folder)
    (reached : machine.Reaches Permitted start s) (id : Nat) :
    (∀ folder, s.db.trackedFolders.find? id = some folder → AtMostOne folder) ∧
    (∀ caller operation, InProgress s caller operation id →
      (∀ other another, InProgress s other another id → other = caller ∧ another = operation) ∧
      ∀ folder, s.db.trackedFolders.find? id = some folder → Only operation folder) ∧
    ∀ caller operation t, s.callers caller = .marked operation id → step (.report caller) s = some t →
      t.callers caller = .running operation id →
      ∃ folder, t.db.getTrackedFolder id = .ok folder ∧ Only operation folder ∧
        ∀ other another, InProgress t other another id → other = caller := by
  have exclusive : ∀ t, machine.Reaches Permitted start t → Exclusive t := by
    intro t reached
    apply reached.invariant
    · exact exclusive_idle initial flags
    · intro label before after holds permitted taken
      exact exclusive_step holds permitted taken
  have now := exclusive s reached
  refine ⟨now.flags id,?alone,?reports⟩
  case alone =>
    intro caller operation runs
    refine ⟨fun other another also => ?_,fun folder found => now.marked caller operation id folder runs found⟩
    have same := now.single caller other operation another id runs also
    subst same
    refine ⟨rfl,?_⟩
    rcases runs with first | first
    · rcases also with second | second
      · cases first.symm.trans second
        rfl
      · cases first.symm.trans second
    · rcases also with second | second
      · cases first.symm.trans second
      · cases first.symm.trans second
        rfl
  case reports =>
    intro caller operation t marked taken running
    have after := exclusive t (.step (.report caller) reached trivial taken)
    simp only [step,marked] at taken
    split at taken
    · rename_i folder found
      cases taken
      have there : s.db.trackedFolders.find? id = some folder := by
        unfold Db.getTrackedFolder at found
        split at found
        · cases found
          assumption
        · cases found
      refine ⟨folder,found,now.marked caller operation id folder (.inl marked) there,fun other another also => ?_⟩
      exact after.single caller other operation another id (.inr running) also
    · cases taken
      simp at running

def docs (id : Nat) : TrackedFolder :=
  ⟨id,1,"docs",none,false,false,0,0,false,false,0,0⟩

theorem docs_key (id : Nat) : Keyed.key (docs id) = id := rfl

def docsService : Service := ⟨{ Db.empty with trackedFolders := Table.empty.insert docs docs_key },fun _ => .idle⟩

theorem docs_flags : ∀ folder ∈ docsService.db.trackedFolders.rows, AtMostOne folder := by
  intro folder member
  cases List.mem_singleton.mp member
  exact .of_idle rfl

/-- A mirror is refused while a scan runs. -/
theorem operations_exclude_docs : ∃ s,
    machine.exec docsService [.start 0 .scan 1 4,.start 1 .mirror 1 2,.report 0] = some s ∧
    s.callers 1 = .idle ∧ ∀ folder, s.db.trackedFolders.find? 1 = some folder → Only .scan folder := by
  refine ⟨_,rfl,by decide,?_⟩
  refine ((@operations_exclude docsService _ (fun _ => rfl) docs_flags ?_ 1).2.1 0 .scan (.inr rfl)).2
  exact .step (.report 0) (.step (.start 1 .mirror 1 2) (.step (.start 0 .scan 1 4) .start trivial rfl) trivial rfl)
    trivial rfl

end FolderOperations

end BitProtector
