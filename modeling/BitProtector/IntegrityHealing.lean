import BitProtector.IntegrityCoverage
import BitProtector.IntegrityRepairs
import BitProtector.ScannedDrains

/-! What an integrity run with recovery does to the files it records while both drives of every pair are there and
answer: one that can be repaired is good on both sides afterwards, one that cannot is left alone and called to attention. -/
namespace BitProtector.IntegrityHealing
open Effect AtomicRestores IntegrityRepairs QuietDrains RootMarkers

/-- A tracked file as a run goes by it. -/
structure Subject where
  pair : DrivePair
  relativePath : String
  checksum : String

def Subject.place (subject : Subject) (role : DriveRole) : Location := subject.pair.copyOn role subject.relativePath

/-- No two of the files share a place. -/
def Apart (scope : Set Subject) : Prop :=
  ∀ a ∈ scope, ∀ b ∈ scope, ∀ role side, a.place role = b.place side → a = b

/-- Both roots of a pair that is not degraded are there, with their markers. -/
structure Ready (pair : DrivePair) (disk : Disk) : Prop where
  sound : pair.isDegraded = false
  differ : pair.primaryPath ≠ pair.secondaryPath
  there : ∀ role, disk.available (pair.pathForRole role) = true
  marked : ∀ role, Marked disk (pair.pathForRole role)

theorem Ready.roots {pair : DrivePair} {disk : Disk} (ready : Ready pair disk) (role : DriveRole) :
    pair.pathForRole role.opposite ≠ pair.pathForRole role := by
  cases role with
  | primary => exact ready.differ.symm
  | secondary => exact ready.differ

theorem Ready.places (subject : Subject) {disk : Disk} (ready : Ready subject.pair disk) (role : DriveRole) :
    subject.place role.opposite ≠ subject.place role := fun same => ready.roots role (congrArg Location.root same)

section
variable [Blake3]

def Subject.GoodOn (subject : Subject) (disk : Disk) (role : DriveRole) : Prop :=
  GoodAt disk (subject.place role) subject.checksum

/-- The master is there, each copy that is there can be read to its end, and one has the recorded content. -/
structure Curable (disk : Disk) (subject : Subject) : Prop where
  master : disk.exists? (subject.place .primary) = true
  readable : ∀ role node, disk.node (subject.place role) = some node → node.whole = true
  good : ∃ role, subject.GoodOn disk role

/-- Only bad copies of a curable file have changed, and then both are good. -/
structure Cured (subject : Subject) (disk next : Disk) : Prop where
  available : next.available = disk.available
  changed : ∀ path, next.node path ≠ disk.node path → Curable disk subject ∧
    ∃ role, path = subject.place role ∧ ¬subject.GoodOn disk role
  good : Curable disk subject → ∀ role, subject.GoodOn next role

/-- The same for many files at once. -/
structure Healed (subjects : Set Subject) (start now : Disk) : Prop where
  available : now.available = start.available
  changed : ∀ path, now.node path ≠ start.node path → ∃ subject ∈ subjects, Curable start subject ∧
    ∃ role, path = subject.place role ∧ ¬subject.GoodOn start role ∧ subject.GoodOn now role
  good : ∀ subject ∈ subjects, Curable start subject → ∀ role, subject.GoodOn now role

theorem Cured.refl_of_good {subject : Subject} {disk : Disk} (both : ∀ role, subject.GoodOn disk role) :
    Cured subject disk disk := ⟨rfl,fun _ differs => absurd rfl differs,fun _ => both⟩

theorem Cured.refl_of_incurable {subject : Subject} {disk : Disk} (incurable : ¬Curable disk subject) :
    Cured subject disk disk := ⟨rfl,fun _ differs => absurd rfl differs,fun curable => absurd curable incurable⟩

theorem Healed.refl (start : Disk) : Healed ∅ start start :=
  ⟨rfl,fun _ differs => absurd rfl differs,fun _ none => absurd none (Set.notMem_empty _)⟩

/-! Files that share no place do not disturb each other. -/

section
variable {scope subjects : Set Subject} {start now next : Disk} {subject : Subject}

omit [Blake3] in
theorem exists_of_node {disk : Disk} {path : Location} {node : FileNode} (found : disk.node path = some node) :
    disk.exists? path = true := by
  rw [Disk.exists?,found]
  rfl

theorem goodOn_congr {role : DriveRole} (same : now.node (subject.place role) = start.node (subject.place role)) :
    subject.GoodOn now role ↔ subject.GoodOn start role := by
  simp only [Subject.GoodOn,GoodAt,same]

theorem Healed.place_cases (healed : Healed subjects start now) (apart : Apart scope) (inside : subjects ⊆ scope)
    (member : subject ∈ scope) (role : DriveRole) :
    now.node (subject.place role) = start.node (subject.place role) ∨
      (Curable start subject ∧ subject ∈ subjects ∧ ¬subject.GoodOn start role ∧ subject.GoodOn now role) := by
  by_cases same : now.node (subject.place role) = start.node (subject.place role)
  · exact .inl same
  · obtain ⟨other,listed,curable,side,place,bad,good⟩ := healed.changed _ same
    cases apart subject member other (inside listed) role side place
    rw [Subject.GoodOn,← place] at bad good
    exact .inr ⟨curable,listed,bad,good⟩

theorem Healed.keeps_good (healed : Healed subjects start now) (apart : Apart scope) (inside : subjects ⊆ scope)
    (member : subject ∈ scope) {role : DriveRole} (good : subject.GoodOn start role) : subject.GoodOn now role := by
  rcases healed.place_cases apart inside member role with same | ⟨_,_,bad,_⟩
  · exact (goodOn_congr same).mpr good
  · exact absurd good bad

theorem Healed.curable_iff (healed : Healed subjects start now) (apart : Apart scope) (inside : subjects ⊆ scope)
    (member : subject ∈ scope) : Curable now subject ↔ Curable start subject := by
  have places := healed.place_cases apart inside member
  constructor
  · intro curable
    by_cases touched : ∃ role, now.node (subject.place role) ≠ start.node (subject.place role)
    · obtain ⟨role,differs⟩ := touched
      exact ((places role).resolve_left differs).1
    · have same : ∀ role, now.node (subject.place role) = start.node (subject.place role) := by
        simpa only [not_exists,not_not] using touched
      obtain ⟨role,good⟩ := curable.good
      refine ⟨?_,fun side node found => curable.readable side node ((same side).trans found),
        role,(goodOn_congr (same role)).mp good⟩
      rw [Disk.exists?,← same]
      exact curable.master
  · intro curable
    obtain ⟨role,good⟩ := curable.good
    refine ⟨?_,fun side node found => ?_,role,healed.keeps_good apart inside member good⟩
    · rcases places .primary with same | ⟨_,_,_,node,found,_⟩
      · rw [Disk.exists?,same]
        exact curable.master
      · exact exists_of_node found
    · rcases places side with same | ⟨_,_,_,other,there,whole,_⟩
      · exact curable.readable side node (same.symm.trans found)
      · rw [found] at there
        cases there
        exact whole

theorem Healed.insert (healed : Healed subjects start now) (apart : Apart scope) (inside : subjects ⊆ scope)
    (member : subject ∈ scope) (cured : Cured subject now next) : Healed (insert subject subjects) start next where
  available := cured.available.trans healed.available
  changed := by
    intro path differs
    by_cases same : next.node path = now.node path
    · rw [same] at differs
      obtain ⟨other,listed,curable,role,place,bad,good⟩ := healed.changed path differs
      rw [place] at same
      exact ⟨other,Set.mem_insert_of_mem _ listed,curable,role,place,bad,(goodOn_congr same).mpr good⟩
    · obtain ⟨curable,role,place,bad⟩ := cured.changed path same
      have before := (healed.curable_iff apart inside member).mp curable
      refine ⟨subject,Set.mem_insert _ _,before,role,place,?_,cured.good curable role⟩
      exact fun good => bad (healed.keeps_good apart inside member good)
  good := by
    intro other listed curable role
    rcases Set.mem_insert_iff.mp listed with rfl | listed
    · exact cured.good ((healed.curable_iff apart inside member).mpr curable) role
    · have good := healed.good other listed curable role
      by_cases same : next.node (other.place role) = now.node (other.place role)
      · exact (goodOn_congr same).mpr good
      · obtain ⟨_,side,place,bad⟩ := cured.changed _ same
        cases apart other (inside listed) subject member role side place
        rw [Subject.GoodOn,← place] at bad
        exact absurd good bad

theorem Healed.ready {pair : DrivePair} (healed : Healed subjects start now) (ready : Ready pair start) : Ready pair now where
  sound := ready.sound
  differ := ready.differ
  there := by
    rw [healed.available]
    exact ready.there
  marked role := by
    have marked := ready.marked role
    by_cases same : now.node (driveRootMarkerPath (pair.pathForRole role)) =
        start.node (driveRootMarkerPath (pair.pathForRole role))
    · rwa [Marked,Disk.exists?,same]
    · obtain ⟨_,_,_,side,place,_,node,found,_⟩ := healed.changed _ same
      rw [Marked,place]
      exact exists_of_node found

end

/-! The rows that a run goes by, and those it writes. -/

section
omit [Blake3]

def subjectOf (pair : DrivePair) (file : TrackedFile) : Subject := ⟨pair,file.relativePath,file.checksum⟩

def subject (db : Db) (id : Nat) : Option Subject :=
  (db.trackedFiles.find? id).bind fun file =>
    (db.drivePairs.find? file.drivePairId).map fun pair => subjectOf pair file

/-- What the results of a run say of attention, file by file. -/
def attention (db : Db) (runId : Nat) : List (Nat × Bool) :=
  (db.integrityRunResults.rows.filter (fun result => result.runId == runId)).map
    (fun result => (result.fileId,result.needsAttention))

theorem attention_files (db : Db) (runId : Nat) : (attention db runId).map Prod.fst = db.recordedFiles runId := by
  rw [attention,List.map_map]
  rfl

theorem attention_congr {db next : Db} (same : next.integrityRunResults = db.integrityRunResults) (runId : Nat) :
    attention next runId = attention db runId := by
  rw [attention,same]
  rfl

/-- The rows are the same, but for what a run does not go by. -/
structure SameFiles (db next : Db) : Prop where
  pairs : next.drivePairs = db.drivePairs
  subjects : subject next = subject db

theorem SameFiles.trans {a b c : Db} (ab : SameFiles a b) (bc : SameFiles b c) : SameFiles a c :=
  ⟨bc.pairs.trans ab.pairs,bc.subjects.trans ab.subjects⟩

theorem sameFiles_updateTrackedFile (db : Db) (id : Nat) (change keepsId)
    (keeps : ∀ file : TrackedFile, (change file).drivePairId = file.drivePairId ∧
      (change file).relativePath = file.relativePath ∧ (change file).checksum = file.checksum) :
    SameFiles db (db.updateTrackedFile id change keepsId) := by
  refine ⟨rfl,?_⟩
  ext other : 1
  rw [subject,Db.find?_updateTrackedFile,Option.bind_map,subject]
  congr 1
  ext file : 1
  obtain ⟨pair,path,checksum⟩ := keeps file
  by_cases hit : other = id <;> simp [hit,subjectOf,pair,path,checksum,Db.updateTrackedFile]

/-- Files and rows are the same. -/
structure Still (s t : RunWorld) : Prop where
  disk : t.world.disk = s.world.disk
  files : SameFiles s.world.db t.world.db
  results : t.world.db.integrityRunResults = s.world.db.integrityRunResults

instance : IsPreorder RunWorld Still where
  refl _ := ⟨rfl,⟨rfl,rfl⟩,rfl⟩
  trans _ _ _ first second := ⟨second.disk.trans first.disk,first.files.trans second.files,second.results.trans first.results⟩

theorem still_query {α : Type} (read : Db → Except String α) : Keeps Still (onWorld (Act.query read)) := by
  intro s
  unfold after onWorld Act.query
  cases read s.world.db <;> exact ⟨rfl,⟨rfl,rfl⟩,rfl⟩

theorem still_updateIntegrityRun (id : Nat) (change keepsId) :
    Keeps Still (onWorld (Act.execute (fun db => db.updateIntegrityRun id change keepsId))) := fun _ => ⟨rfl,⟨rfl,rfl⟩,rfl⟩

theorem still_pagesListed : Keeps Still pagesListed := fun _ => ⟨rfl,⟨rfl,rfl⟩,rfl⟩

theorem still_outsideStop (env : RunEnv) (runId : Nat) : Keeps Still (outsideStop env runId) := by
  refine keeps_bind still_pagesListed fun listed => ?_
  split
  · exact still_updateIntegrityRun _ _ _
  · exact keeps_pure _

theorem still_checkShouldStop (env : RunEnv) (runId : Nat) : Keeps Still (checkShouldStop env runId) := by
  refine keeps_bind (still_query _) fun current => ?_
  have stops : Keeps Still (do
      onWorld (Act.execute (fun db => db.setIntegrityRunActiveWorkers runId 0))
      onWorld (Act.execute (fun db => db.finishIntegrityRun runId .stopped none))
      pure true) :=
    keeps_bind (still_updateIntegrityRun _ _ _) fun _ => keeps_bind (still_updateIntegrityRun _ _ _) fun _ => keeps_pure _
  split
  · exact stops
  · refine keeps_bind still_pagesListed fun listed => ?_
    split
    · exact stops
    · exact keeps_pure _

theorem still_success {α : Type} {x : RunAct α} {s t : RunWorld} {a : α} (keeps : Keeps Still x) (ran : x s = .ok a t) :
    Still s t := after_of_ok ran ▸ keeps s

end

/-! One recovery. -/

section
variable {io : Io} {pair : DrivePair} {file : TrackedFile} {result : IntegrityCheckResult} {w : World}

omit [Blake3] in
theorem prepared_of_marked (io : Io) {root : String} {disk : Disk} (there : disk.available root = true)
    (mark : Marked disk root) : prepared io root disk = disk := by
  have mounted : made io root disk = disk := by
    unfold made
    split
    · cases disk
      simp only [Disk.mount,Disk.mk.injEq,true_and]
      ext other
      by_cases same : other = root <;> simp_all
    · rfl
  rw [prepared,mounted,marked]
  exact if_pos mark

omit [Blake3] in
theorem remove_of_absent {disk : Disk} {path : Location} (absent : disk.node path = none) : disk.remove path = disk := by
  cases disk
  simp only [Disk.remove,Disk.mk.injEq,and_true]
  ext other : 1
  split
  · rename_i same
    rw [same]
    exact absent.symm
  · rfl

theorem restoreSide_cures {target : DriveRole} (serves : Serves pair io) (ready : Ready pair w.disk)
    (good : (subjectOf pair file).GoodOn w.disk target.opposite) (bad : ¬(subjectOf pair file).GoodOn w.disk target)
    (curable : Curable w.disk (subjectOf pair file)) :
    ∃ t, restoreSide io pair target file.relativePath file.checksum w = .ok () t ∧
      Cured (subjectOf pair file) w.disk t.disk := by
  have active := DrivePair.isDegraded_eq_false ready.sound target
  have source : GoodAt w.disk (pair.copyOn target.opposite file.relativePath) file.checksum := good
  obtain ⟨t,ran,arrived⟩ := restoreSide_delivers serves (ready.roots target) (by simp [active]) (ready.there target) source
  have run := restoreSide_run io pair target file.relativePath file.checksum w
  rw [ground_plain] at run
  have apart := Ready.places (subjectOf pair file) ready target
  split at run
  · rw [ran] at run
    cases run
    have other (path : Location) (elsewhere : path ≠ pair.copyOn target file.relativePath) :
        (({ w with disk := prepared io (pair.pathForRole target) w.disk } : World).withDelivered io
          (pair.copyOn target.opposite file.relativePath) (pair.copyOn target file.relativePath)).disk.node path =
            w.disk.node path := by
      rw [prepared_of_marked io (ready.there target) (ready.marked target)]
      exact Disk.write_other _ _ elsewhere
    refine ⟨_,ran,?_,fun path differs => ?_,fun _ role => ?_⟩
    · rw [prepared_of_marked io (ready.there target) (ready.marked target)]
      rfl
    · refine ⟨curable,target,?_,bad⟩
      by_contra elsewhere
      exact differs (other path elsewhere)
    · rcases target.eq_or_opposite role with rfl | rfl
      · exact arrived
      · exact (goodOn_congr (other _ apart)).mpr good
  · obtain ⟨message,u,failed,_⟩ := run
    cases ran.symm.trans failed

theorem restoreSide_leaves {node : FileNode} (serves : Serves pair io)
    (removes : io.removeFile (pair.copyOn .secondary file.relativePath) = true) (ready : Ready pair w.disk)
    (found : w.disk.node (pair.copyOn .primary file.relativePath) = some node) (whole : node.whole = true)
    (bad : ¬(subjectOf pair file).GoodOn w.disk .primary)
    (absent : w.disk.node (pair.copyOn .secondary file.relativePath) = none) :
    ∃ message, restoreSide io pair .secondary file.relativePath file.checksum w = .error message w := by
  have active := DrivePair.isDegraded_eq_false ready.sound .secondary
  have there := exists_of_node found
  have mark : w.disk.exists? (driveRootMarkerPath (pair.pathForRole .secondary)) = true := ready.marked .secondary
  have admitted : admits io pair .secondary file.relativePath w.disk = true := by
    simp [admits,copyOn_root,active,DriveRole.opposite,there,serves.createDirAll,ready.there,mark]
  have run := prepareRestore_run io pair .secondary file.relativePath w
  rw [if_pos admitted,ground_plain,prepared_of_marked io (ready.there .secondary) (ready.marked .secondary)] at run
  have enters : entersCopy io w.disk (pair.copyOn .primary file.relativePath)
      (pair.copyOn .secondary file.relativePath) = true := by
    rw [entersCopy,there,serves.openRead,serves.create]
    rfl
  have apart : pair.copyOn .primary file.relativePath ≠ pair.copyOn .secondary file.relativePath :=
    Ready.places (subjectOf pair file) ready .secondary
  have read : copySource w.disk (pair.copyOn .primary file.relativePath) (pair.copyOn .secondary file.relativePath) =
      node := by
    rw [copySource,Disk.write_other _ _ apart,found]
    rfl
  have all : delivered io w.disk (pair.copyOn .primary file.relativePath) (pair.copyOn .secondary file.relativePath) =
      node.bytes := by
    rw [delivered,serves.writeLimit,read,FileNode.readable_of_whole whole]
    rfl
  have differs : checksumBytes node.bytes ≠ file.checksum := fun same => bad ⟨node,found,whole,same⟩
  have rejected : rejects io w.disk (pair.copyOn .primary file.relativePath) (pair.copyOn .secondary file.relativePath)
      file.checksum = true := by
    simp [rejects,arrives,all,read,whole,FileNode.readable_of_whole whole,serves.flush,differs]
  have left : leftBehind io w.disk (pair.copyOn .primary file.relativePath) (pair.copyOn .secondary file.relativePath)
      file.checksum = w.disk := by
    rw [leftBehind,rejected,removes]
    exact remove_of_absent absent
  rcases copyAndVerifyChecksum_run file.checksum enters with ⟨_,same,_⟩ | ⟨_,message,failed⟩
  · rw [all] at same
    exact absurd same differs
  · rw [left] at failed
    exact ⟨_,(bind_of_ok run _).trans (Act.mapErr_of_error failed _)⟩

/-! What a check says, and what the recovery after it does. -/

theorem sideDigest_isSome_iff {path : Location} {disk : Disk} (there : disk.available path.root = true)
    (opens : io.openRead path = true) :
    (sideDigest io path disk).isSome = true ↔ ∀ node, disk.node path = some node → node.whole = true := by
  unfold sideDigest
  rw [there,opens,Disk.exists?]
  cases found : disk.node path with
  | none => simp
  | some node => cases whole : node.whole <;> simp [whole]

theorem checkedStatus_isSome_iff {disk : Disk} (serves : Serves pair io)
    (there : ∀ role, disk.available (pair.pathForRole role) = true) :
    (checkedStatus io pair file disk).isSome = true ↔
      ∀ role node, disk.node ((subjectOf pair file).place role) = some node → node.whole = true := by
  have primary : ¬(pair.roleState .primary = .active ∧ disk.available pair.primaryPath = false) := fun gone =>
    absurd (gone.2.symm.trans (there .primary)) Bool.false_ne_true
  have secondary : ¬(pair.roleState .secondary = .active ∧ disk.available pair.secondaryPath = false) := fun gone =>
    absurd (gone.2.symm.trans (there .secondary)) Bool.false_ne_true
  have side (role : DriveRole) : (sideDigest io (pair.copyOn role file.relativePath) disk).isSome = true ↔
      ∀ node, disk.node (pair.copyOn role file.relativePath) = some node → node.whole = true :=
    sideDigest_isSome_iff (there role) (serves.openRead role file.relativePath)
  have both : (checkedStatus io pair file disk).isSome = true ↔
      ∀ role, (sideDigest io (pair.copyOn role file.relativePath) disk).isSome = true := by
    rw [checkedStatus,if_neg primary,if_neg secondary]
    constructor
    · intro checked role
      obtain ⟨status,found⟩ := Option.isSome_iff_exists.mp checked
      obtain ⟨master,first,rest⟩ := Option.bind_eq_some_iff.mp found
      obtain ⟨mirror,second,_⟩ := Option.map_eq_some_iff.mp rest
      cases role with
      | primary => simp [first]
      | secondary => simp [second]
    · intro reads
      obtain ⟨master,first⟩ := Option.isSome_iff_exists.mp (reads .primary)
      obtain ⟨mirror,second⟩ := Option.isSome_iff_exists.mp (reads .secondary)
      simp [first,second]
  rw [both]
  exact forall_congr' side

/-- A good status is of two good copies, a recovery has a good source or finds no mirror beside a bad master, and
any other status is of a file that cannot be repaired. -/
theorem status_cases (serves : Serves pair io) (ready : Ready pair w.disk)
    (checked : checkedStatus io pair file w.disk = some result.status) :
    (result.status = .ok ∧ Curable w.disk (subjectOf pair file) ∧ ∀ role, (subjectOf pair file).GoodOn w.disk role) ∨
    (∃ target, recoveredRole pair result.status = some target ∧ result.status ≠ .ok ∧
      Curable w.disk (subjectOf pair file) ∧ (subjectOf pair file).GoodOn w.disk target.opposite ∧
      ¬(subjectOf pair file).GoodOn w.disk target) ∨
    (recoveredRole pair result.status = some .secondary ∧ result.status ≠ .ok ∧ ¬Curable w.disk (subjectOf pair file) ∧
      ¬(subjectOf pair file).GoodOn w.disk .primary ∧
      w.disk.exists? (pair.copyOn .primary file.relativePath) = true ∧
      w.disk.node (pair.copyOn .secondary file.relativePath) = none) ∨
    (recoveredRole pair result.status = none ∧ result.status ≠ .ok ∧ ¬Curable w.disk (subjectOf pair file)) := by
  have readable := (checkedStatus_isSome_iff serves ready.there).mp (Option.isSome_iff_exists.mpr ⟨_,checked⟩)
  obtain ⟨master,mirror,classified,copies⟩ := status_mounted checked ready.there
  have sound := ready.sound
  have primary := copies .primary
  have secondary := copies .secondary
  simp only [RecoveryRaces.digestOn] at primary secondary
  cases master with
  | none =>
    have missing : result.status = .masterMissing := by simp [classified,statusOfChecksums,sound]
    refine .inr (.inr (.inr ⟨by simp [recoveredRole,sound,missing],by simp [missing],fun curable => ?_⟩))
    exact Bool.false_ne_true ((primary.1.mp rfl).symm.trans curable.master)
  | some digest =>
    have there : w.disk.exists? (pair.copyOn .primary file.relativePath) = true := by simpa using primary.1
    cases mirror with
    | none =>
      have missing : result.status = .mirrorMissing := by simp [classified,statusOfChecksums,sound]
      have recovers : recoveredRole pair result.status = some .secondary := by simp [recoveredRole,sound,missing]
      have bad : ¬GoodAt w.disk (pair.copyOn .secondary file.relativePath) file.checksum := fun good =>
        (by cases secondary.2.mpr good)
      by_cases good : GoodAt w.disk (pair.copyOn .primary file.relativePath) file.checksum
      · exact .inr (.inl ⟨.secondary,recovers,by simp [missing],⟨there,readable,.primary,good⟩,good,bad⟩)
      · refine .inr (.inr (.inl ⟨recovers,by simp [missing],fun curable => ?_,good,there,?_⟩))
        · obtain ⟨role,whole⟩ := curable.good
          cases role with
          | primary => exact good whole
          | secondary => exact bad whole
        · simpa [Disk.exists?] using secondary.1
    | some copy =>
      simp only [Option.some.injEq] at primary secondary
      by_cases first : digest = file.checksum <;> by_cases second : copy = file.checksum
      · refine .inl ⟨by simp [classified,statusOfChecksums_read sound,first,second],
          ⟨there,readable,.primary,primary.2.mp first⟩,fun role => ?_⟩
        cases role with
        | primary => exact primary.2.mp first
        | secondary => exact secondary.2.mp second
      · have corrupted : result.status = .mirrorCorrupted := by
          simp [classified,statusOfChecksums_read sound,first,second]
        have good := primary.2.mp first
        exact .inr (.inl ⟨.secondary,by simp [recoveredRole,sound,corrupted],by simp [corrupted],
          ⟨there,readable,.primary,good⟩,good,mt secondary.2.mpr second⟩)
      · have corrupted : result.status = .masterCorrupted := by
          simp [classified,statusOfChecksums_read sound,first,second]
        have good := secondary.2.mp second
        exact .inr (.inl ⟨.primary,by simp [recoveredRole,sound,corrupted],by simp [corrupted],
          ⟨there,readable,.secondary,good⟩,good,mt primary.2.mpr first⟩)
      · have corrupted : result.status = .bothCorrupted := by
          simp [classified,statusOfChecksums_read sound,first,second]
        refine .inr (.inr (.inr ⟨by simp [recoveredRole,sound,corrupted],by simp [corrupted],fun curable => ?_⟩))
        obtain ⟨role,whole⟩ := curable.good
        cases role with
        | primary => exact first (primary.2.mpr whole)
        | secondary => exact second (secondary.2.mpr whole)

theorem recoverOrNot_of_ok {recovered : Bool} {t : World} (ran : attemptRecovery io pair file result w = .ok recovered t) :
    ∃ u, recoverOrNot io pair file result w = .ok recovered u ∧ u.disk = t.disk ∧ SameFiles w.db u.db ∧
      u.db.integrityRunResults = w.db.integrityRunResults := by
  have kept := attemptRecovery_db io pair file result w
  rw [after_of_ok ran] at kept
  rw [← kept]
  cases recovered with
  | false =>
    have skipped : attemptRecoveryWithReconciliation io pair file result w = .ok false t := bind_of_ok ran _
    exact ⟨t,bind_of_ok (attempt_of_ok skipped) _,rfl,⟨rfl,rfl⟩,rfl⟩
  | true =>
    have reconciled : attemptRecoveryWithReconciliation io pair file result w = .ok true
        { t with db := (t.db.updateTrackedFileMirrorStatus file.id true).completePendingMirrorQueueForFile file.id } :=
      bind_of_ok ran _
    have flag := sameFiles_updateTrackedFile t.db file.id (fun row => { row with isMirrored := true }) (fun _ => rfl)
      fun _ => ⟨rfl,rfl,rfl⟩
    exact ⟨_,bind_of_ok (attempt_of_ok reconciled) _,rfl,⟨rfl,flag.subjects⟩,rfl⟩

theorem recoverOrNot_of_error {message : String} {t : World}
    (failed : attemptRecovery io pair file result w = .error message t) :
    recoverOrNot io pair file result w = .ok false t := by
  have given : attemptRecoveryWithReconciliation io pair file result w = .error message t := bind_of_error failed _
  exact bind_of_ok (attempt_of_error given) _

theorem recovery_cures (serves : Serves pair io)
    (removes : io.removeFile (pair.copyOn .secondary file.relativePath) = true) (ready : Ready pair w.disk)
    (checked : checkedStatus io pair file w.disk = some result.status) :
    ∃ recovered t,
      (if true && result.status != .ok then recoverOrNot io pair file result else pure false) w = .ok recovered t ∧
      Cured (subjectOf pair file) w.disk t.disk ∧
      SameFiles w.db t.db ∧ t.db.integrityRunResults = w.db.integrityRunResults ∧
      ((result.status != .ok && !recovered) = true ↔ ¬Curable w.disk (subjectOf pair file)) := by
  have readable := (checkedStatus_isSome_iff serves ready.there).mp (Option.isSome_iff_exists.mpr ⟨_,checked⟩)
  rcases status_cases serves ready checked with ⟨fine,curable,both⟩ | ⟨target,recovers,wrong,curable,good,bad⟩ |
    ⟨recovers,wrong,incurable,bad,there,absent⟩ | ⟨stays,wrong,incurable⟩
  · exact ⟨false,w,by rw [fine]; rfl,.refl_of_good both,⟨rfl,rfl⟩,rfl,by simp [fine,curable]⟩
  · obtain ⟨t,ran,cured⟩ := restoreSide_cures serves ready good bad curable
    have recovered : attemptRecovery io pair file result w = .ok true t := by
      rw [attemptRecovery_eq,recovers]
      exact bind_of_ok ran _
    obtain ⟨u,done,same,files,results⟩ := recoverOrNot_of_ok recovered
    exact ⟨true,u,by simp [wrong,done],same ▸ cured,files,results,by simp [curable]⟩
  · obtain ⟨node,found⟩ := Option.isSome_iff_exists.mp there
    obtain ⟨message,failed⟩ := restoreSide_leaves serves removes ready found (readable .primary node found) bad absent
    have stopped : attemptRecovery io pair file result w = .error message w := by
      rw [attemptRecovery_eq,recovers]
      exact bind_of_error failed _
    exact ⟨false,w,by simp [wrong,recoverOrNot_of_error stopped],.refl_of_incurable incurable,⟨rfl,rfl⟩,rfl,
      by simp [wrong,incurable]⟩
  · have kept : attemptRecovery io pair file result w = .ok false w := attemptRecovery_stays stays
    obtain ⟨u,done,same,files,results⟩ := recoverOrNot_of_ok kept
    refine ⟨false,u,by simp [wrong,done],?_,files,results,by simp [wrong,incurable]⟩
    rw [same]
    exact .refl_of_incurable incurable

end

/-! From one record to the whole run. -/

def recordedSubjects (start db : Db) (runId : Nat) : Set Subject :=
  {x | ∃ entry ∈ attention db runId, subject start entry.1 = some x}

def scopeOf (db : Db) (pairs : List DrivePair) : Set Subject := {x | x.pair ∈ pairs ∧ ∃ id, subject db id = some x}

/-- No two tracked files of these pairs share a place. -/
def Placed (db : Db) (pairs : List DrivePair) : Prop :=
  ∀ id other x y, subject db id = some x → subject db other = some y → x.pair ∈ pairs → y.pair ∈ pairs →
    ∀ role side, x.place role = y.place side → id = other

/-- What a run that began in `start` has come to: the files it has recorded are healed, and its results say which could
not be. -/
structure Healing (start : World) (pairs : List DrivePair) (runId : Nat) (s : RunWorld) : Prop where
  files : SameFiles start.db s.world.db
  inside : recordedSubjects start.db s.world.db runId ⊆ scopeOf start.db pairs
  healed : Healed (recordedSubjects start.db s.world.db runId) start.disk s.world.disk
  attends : ∀ entry ∈ attention s.world.db runId, ∀ x, subject start.db entry.1 = some x →
    (entry.2 = true ↔ ¬Curable start.disk x)

section
variable {env : RunEnv} {clock : Clock} {runId : Nat} {start : World} {pairs : List DrivePair} {pair : DrivePair}
  {file : TrackedFile} {io : Io} {s t : RunWorld}

omit [Blake3] in
theorem Placed.apart {db : Db} (placed : Placed db pairs) : Apart (scopeOf db pairs) := by
  rintro a ⟨ofA,id,foundA⟩ b ⟨ofB,other,foundB⟩ role side same
  cases placed id other a b foundA foundB ofA ofB role side same
  exact Option.some.inj (foundA.symm.trans foundB)

theorem Healing.still (healing : Healing start pairs runId s) (still : Still s t) : Healing start pairs runId t := by
  have same := attention_congr still.results runId
  have recorded : recordedSubjects start.db t.world.db runId = recordedSubjects start.db s.world.db runId := by
    rw [recordedSubjects,same]
    rfl
  constructor
  · exact healing.files.trans still.files
  · rw [recorded]
    exact healing.inside
  · rw [recorded,still.disk]
    exact healing.healed
  · rw [same]
    exact healing.attends

omit [Blake3] in
theorem getIntegrityRun_id {db : Db} {id : Nat} {run : IntegrityRun} (found : db.getIntegrityRun id = .ok run) :
    run.id = id := by
  unfold Db.getIntegrityRun at found
  split at found
  · rename_i row
    cases found
    exact Table.find?_key row
  · cases found

omit [Blake3] in
theorem appendIntegrityRunResult_appends {w u : World} {status : String} {recovered needsAttention : Bool}
    {row : IntegrityRunResult} (ran : appendIntegrityRunResult runId file status recovered needsAttention w = .ok row u) :
    u.disk = w.disk ∧ SameFiles w.db u.db ∧
      attention u.db runId = attention w.db runId ++ [(file.id,needsAttention)] := by
  obtain ⟨id,v,inserted,read⟩ := bind_success ran
  obtain ⟨_,same⟩ := Act.query_success read
  subst same
  by_cases parents : ((w.db.integrityRuns.find? runId).isSome && (w.db.trackedFiles.find? file.id).isSome &&
      (w.db.drivePairs.find? file.drivePairId).isSome) = true
  · simp only [Act.insertOrFail,Db.insertIntegrityRunResult,parents,if_true] at inserted
    cases inserted
    exact ⟨rfl,⟨rfl,rfl⟩,by simp [attention,Table.insert_rows,List.filter_append]⟩
  · simp only [Act.insertOrFail,Db.insertIntegrityRunResult,parents,Bool.false_eq_true,if_false] at inserted
    cases inserted

omit [Blake3] in
theorem recordResult_appends {status : String} {recovered needsAttention : Bool}
    (ran : recordResult clock runId file status recovered needsAttention s = .ok () t) :
    t.world.disk = s.world.disk ∧ SameFiles s.world.db t.world.db ∧
      attention t.world.db runId = attention s.world.db runId ++ [(file.id,needsAttention)] := by
  obtain ⟨now,a,read,rest⟩ := bind_success ran
  cases read
  obtain ⟨_,b,stamped,rest⟩ := bind_success rest
  cases stamped
  obtain ⟨row,c,stored,counted⟩ := bind_success rest
  cases counted
  obtain ⟨w,appended,same⟩ := onWorld_success stored
  subst same
  obtain ⟨disk,files,entries⟩ := appendIntegrityRunResult_appends appended
  have stamps : SameFiles s.world.db (s.world.db.updateTrackedFileLastIntegrityCheckAt file.id (clock.now s.readings)) :=
    sameFiles_updateTrackedFile _ _ _ _ fun _ => ⟨rfl,rfl,rfl⟩
  exact ⟨disk,stamps.trans ⟨files.pairs,files.subjects⟩,entries⟩

/-- What a check has found of a file. -/
def Found (io : Io) (pair : DrivePair) (file : TrackedFile) (disk : Disk) : Except String IntegrityCheckResult → Prop
  | .ok result => checkedStatus io pair file disk = some result.status
  | .error _ => checkedStatus io pair file disk = none

theorem checkFiles_found {mmapThresholdBytes : Nat} {files : List TrackedFile} {w u : World}
    {results : List (TrackedFile × Except String IntegrityCheckResult)}
    (ran : checkFiles io mmapThresholdBytes pair files w = .ok results u) :
    u = w ∧ results.map Prod.fst = files ∧ ∀ row ∈ results, Found io pair row.1 w.disk row.2 := by
  induction files generalizing results w with
  | nil =>
    cases ran
    simp
  | cons file files ih =>
    have check := checkFileIntegrity_run io pair file
      (ChecksumStrategy.forDrive mmapThresholdBytes pair.primaryMediaType file.fileSize)
      (ChecksumStrategy.forDrive mmapThresholdBytes pair.secondaryMediaType file.fileSize) w
    have head : ∃ result, attempt (checkFileIntegrity io pair file
        (ChecksumStrategy.forDrive mmapThresholdBytes pair.primaryMediaType file.fileSize)
        (ChecksumStrategy.forDrive mmapThresholdBytes pair.secondaryMediaType file.fileSize)) w = .ok result w ∧
          Found io pair file w.disk result := by
      split at check
      · rename_i status found
        obtain ⟨result,same,checked⟩ := check
        exact ⟨.ok result,attempt_of_ok checked,found.trans (congrArg some same.symm)⟩
      · rename_i found
        exact ⟨.error osError,attempt_of_error check,found⟩
    obtain ⟨result,checked,found⟩ := head
    rw [checkFiles,bind_of_ok checked] at ran
    obtain ⟨others,v,rest,done⟩ := bind_success ran
    cases done
    obtain ⟨rfl,same,each⟩ := ih rest
    refine ⟨rfl,by rw [List.map_cons,same],fun row member => ?_⟩
    rcases List.mem_cons.mp member with rfl | later
    · exact found
    · exact each row later

theorem recordFile_cures {result : Except String IntegrityCheckResult} (serves : Serves pair io)
    (removes : io.removeFile (pair.copyOn .secondary file.relativePath) = true) (ready : Ready pair s.world.disk)
    (found : Found io pair file s.world.disk result)
    (ran : recordFile io clock runId true pair file result s = .ok () t) :
    ∃ needs, (needs = true ↔ ¬Curable s.world.disk (subjectOf pair file)) ∧
      Cured (subjectOf pair file) s.world.disk t.world.disk ∧ SameFiles s.world.db t.world.db ∧
      attention t.world.db runId = attention s.world.db runId ++ [(file.id,needs)] := by
  cases result with
  | error message =>
    have incurable : ¬Curable s.world.disk (subjectOf pair file) := by
      intro curable
      have checked : (checkedStatus io pair file s.world.disk).isSome = true :=
        (checkedStatus_isSome_iff serves ready.there).mpr curable.readable
      rw [show checkedStatus io pair file s.world.disk = none from found] at checked
      cases checked
    obtain ⟨disk,files,entries⟩ := recordResult_appends ran
    refine ⟨true,by simp [incurable],?_,files,entries⟩
    rw [disk]
    exact .refl_of_incurable incurable
  | ok result =>
    obtain ⟨recovered,w,recovery,cured,files,results,needs⟩ := recovery_cures serves removes ready found
    rw [recordFile,bind_of_ok (onWorld_of_ok recovery)] at ran
    obtain ⟨disk,same,entries⟩ := recordResult_appends ran
    refine ⟨_,needs,?_,files.trans same,entries.trans (by rw [← attention_congr results])⟩
    rw [disk]
    exact cured

theorem Healing.record {result : Except String IntegrityCheckResult} (healing : Healing start pairs runId s)
    (placed : Placed start.db pairs) (serves : Serves pair io)
    (removes : io.removeFile (pair.copyOn .secondary file.relativePath) = true) (ready : Ready pair start.disk)
    (listed : pair ∈ pairs) (row : subject start.db file.id = some (subjectOf pair file))
    (found : Found io pair file s.world.disk result)
    (ran : recordFile io clock runId true pair file result s = .ok () t) :
    Healing start pairs runId t ∧ Cured (subjectOf pair file) s.world.disk t.world.disk := by
  obtain ⟨needs,asked,cured,files,entries⟩ := recordFile_cures serves removes (healing.healed.ready ready) found ran
  have member : subjectOf pair file ∈ scopeOf start.db pairs := ⟨listed,file.id,row⟩
  have recorded : recordedSubjects start.db t.world.db runId =
      insert (subjectOf pair file) (recordedSubjects start.db s.world.db runId) := by
    ext x
    simp [recordedSubjects,entries,row,or_comm,eq_comm,or_and_right,exists_or]
  refine ⟨⟨healing.files.trans files,?_,?_,?_⟩,cured⟩
  · rw [recorded]
    exact Set.insert_subset member healing.inside
  · rw [recorded]
    exact healing.healed.insert placed.apart healing.inside member cured
  · intro entry there x found
    rw [entries] at there
    rcases List.mem_append.mp there with earlier | last
    · exact healing.attends entry earlier x found
    · cases List.mem_singleton.mp last
      cases Option.some.inj (row.symm.trans found)
      rw [← healing.healed.curable_iff placed.apart healing.inside member]
      exact asked

theorem checkedStatus_congr {disk next : Disk} (available : next.available = disk.available)
    (nodes : ∀ role, next.node (pair.copyOn role file.relativePath) = disk.node (pair.copyOn role file.relativePath)) :
    checkedStatus io pair file next = checkedStatus io pair file disk := by
  have digest (role : DriveRole) : sideDigest io (pair.copyOn role file.relativePath) next =
      sideDigest io (pair.copyOn role file.relativePath) disk := by
    unfold sideDigest Disk.exists?
    rw [available,nodes role]
  simp only [checkedStatus,available,digest]

theorem Found.after_cured {disk next : Disk} {outcome : Except String IntegrityCheckResult} {other : Subject}
    (found : Found io pair file disk outcome) (cured : Cured other disk next)
    (apart : ∀ role side, (subjectOf pair file).place role ≠ other.place side) : Found io pair file next outcome := by
  have same : checkedStatus io pair file next = checkedStatus io pair file disk := by
    refine checkedStatus_congr cured.available fun role => ?_
    by_contra differs
    obtain ⟨_,side,place,_⟩ := cured.changed _ differs
    exact apart role side place
  cases outcome with
  | error _ => exact same.trans found
  | ok _ => exact same.trans found

theorem Healing.records {results : List (TrackedFile × Except String IntegrityCheckResult)}
    (healing : Healing start pairs runId s) (placed : Placed start.db pairs) (serves : Serves pair io)
    (removes : ∀ path, io.removeFile (pair.copyOn .secondary path) = true) (ready : Ready pair start.disk)
    (listed : pair ∈ pairs) (rows : ∀ row ∈ results, subject start.db row.1.id = some (subjectOf pair row.1))
    (distinct : (results.map (fun row => row.1.id)).Nodup)
    (found : ∀ row ∈ results, Found io pair row.1 s.world.disk row.2)
    (ran : recordFiles io clock runId true pair results s = .ok () t) : Healing start pairs runId t := by
  induction results generalizing s with
  | nil =>
    cases ran
    exact healing
  | cons row results ih =>
    obtain ⟨_,u,first,rest⟩ := bind_success ran
    obtain ⟨head,tail⟩ := List.nodup_cons.mp distinct
    have own := rows row (by simp)
    obtain ⟨next,cured⟩ := healing.record placed serves (removes _) ready listed own (found row (by simp)) first
    refine ih next (fun other member => rows other (by simp [member])) tail (fun other member => ?_) rest
    refine (found other (by simp [member])).after_cured cured fun role side same => head ?_
    have equal := placed _ _ _ _ (rows other (by simp [member])) own listed listed role side same
    exact List.mem_map.mpr ⟨other,member,equal⟩

/-- The devices of the pairs answer every call of the run. -/
structure Answers (env : RunEnv) (pairs : List DrivePair) : Prop where
  serves : ∀ pair ∈ pairs, ∀ listed, Serves pair (env.io listed)
  removes : ∀ pair ∈ pairs, ∀ listed path, (env.io listed).removeFile (pair.copyOn .secondary path) = true

omit [Blake3] in
theorem page_rows {db : Db} {tieBreak : Nat → Nat} {page : Nat} (row : db.drivePairs.find? pair.id = some pair)
    (listed : file ∈ db.listTrackedFilesOldestIntegrityFirst tieBreak (some pair.id) page perPage) :
    subject db file.id = some (subjectOf pair file) := by
  obtain ⟨member,same⟩ := List.mem_filter.mp (Paging.page_subset listed)
  have ofPair : file.drivePairId = pair.id := by simpa using same
  rw [subject,show db.trackedFiles.find? file.id = some file from db.trackedFiles.find?_of_mem member,Option.bind_some,
    ofPair,row,Option.map_some]

omit [Blake3] in
theorem page_ids_nodup (db : Db) (tieBreak : Nat → Nat) (pairId page : Nat) :
    ((db.listTrackedFilesOldestIntegrityFirst tieBreak (some pairId) page perPage).map TrackedFile.id).Nodup := by
  rw [Db.listPage_ids]
  exact Paging.page_nodup (db.idsOfPair_nodup pairId)

theorem Healing.pages {fuel page : Nat} {stopped : Bool} (healing : Healing start pairs runId s)
    (placed : Placed start.db pairs) (answers : Answers env pairs) (ready : ∀ pair ∈ pairs, Ready pair start.disk)
    (listed : pair ∈ pairs) (there : start.db.drivePairs.find? pair.id = some pair)
    (ran : pageLoop env clock runId true pair fuel page s = .ok stopped t) : Healing start pairs runId t := by
  induction fuel generalizing page s with
  | zero => cases ran
  | succ fuel ih =>
    obtain ⟨_,a,asked,ran⟩ := bind_success ran
    obtain ⟨stops,b,checked,ran⟩ := bind_success ran
    have before := (healing.still (still_success (still_outsideStop _ _) asked)).still
      (still_success (still_checkShouldStop _ _) checked)
    cases stops with
    | true => exact before.still (still_success (keeps_bind (still_updateIntegrityRun _ _ _) fun _ => keeps_pure _) ran)
    | false =>
      obtain ⟨⟨files,total⟩,c,shown,ran⟩ := bind_success ran
      have page_of : files = b.world.db.listTrackedFilesOldestIntegrityFirst (env.tieBreak pair.id page) (some pair.id) page
          perPage ∧ c.world = b.world := by
        cases shown
        exact ⟨rfl,rfl⟩
      obtain ⟨isPage,same⟩ := page_of
      have healing : Healing start pairs runId c :=
        before.still ⟨congrArg World.disk same,⟨by rw [same],by rw [same]⟩,by rw [same]⟩
      cases empty : files.isEmpty with
      | true =>
        simp only [empty,if_true] at ran
        cases ran
        exact healing
      | false =>
        simp only [Bool.false_eq_true,empty,if_false] at ran
        obtain ⟨count,d,counted,ran⟩ := bind_success ran
        cases counted
        obtain ⟨results,e,checks,ran⟩ := bind_success ran
        obtain ⟨w,read,kept⟩ := onWorld_success checks
        subst kept
        obtain ⟨kept,rowsOf,found⟩ := checkFiles_found read
        subst kept
        obtain ⟨_,f,recorded,ran⟩ := bind_success ran
        have rows : ∀ row ∈ results, subject start.db row.1.id = some (subjectOf pair row.1) := by
          intro row member
          have inPage : row.1 ∈ files := rowsOf ▸ List.mem_map_of_mem member
          rw [isPage] at inPage
          rw [← healing.files.subjects,same]
          exact page_rows (by rw [before.files.pairs]; exact there) inPage
        have distinct : (results.map (fun row => row.1.id)).Nodup := by
          have nodup := page_ids_nodup b.world.db (env.tieBreak pair.id page) pair.id page
          rw [← isPage,← rowsOf,List.map_map] at nodup
          exact nodup
        have after := healing.records placed (answers.serves pair listed _) (answers.removes pair listed _)
          (ready pair listed) listed rows distinct found recorded
        split at ran
        · cases ran
          exact after
        · exact ih after ran

theorem Healing.eachPair {todo : List DrivePair} {stopped : Bool} (healing : Healing start pairs runId s)
    (placed : Placed start.db pairs) (answers : Answers env pairs) (ready : ∀ pair ∈ pairs, Ready pair start.disk)
    (rows : ∀ pair ∈ pairs, start.db.drivePairs.find? pair.id = some pair) (listed : todo ⊆ pairs)
    (ran : processPairs env clock runId true todo s = .ok stopped t) : Healing start pairs runId t := by
  induction todo generalizing s with
  | nil =>
    cases ran
    exact healing
  | cons pair todo ih =>
    obtain ⟨head,tail⟩ := List.cons_subset.mp listed
    obtain ⟨_,a,workers,ran⟩ := bind_success ran
    obtain ⟨fuel,b,counted,ran⟩ := bind_success ran
    obtain ⟨stops,c,paged,ran⟩ := bind_success ran
    have before := (healing.still (still_success (still_updateIntegrityRun _ _ _) workers)).still
      (still_success (still_query _) counted)
    have after := before.pages placed answers ready head (rows pair head) paged
    cases stops with
    | true =>
      cases ran
      exact after
    | false =>
      obtain ⟨_,d,idle,ran⟩ := bind_success ran
      exact ih (after.still (still_success (still_updateIntegrityRun _ _ _) idle)) tail ran

theorem Healing.run {run : IntegrityRun} (healing : Healing start pairs runId s) (placed : Placed start.db pairs)
    (answers : Answers env pairs) (ready : ∀ pair ∈ pairs, Ready pair start.disk)
    (rows : ∀ pair ∈ pairs, start.db.drivePairs.find? pair.id = some pair)
    (found : s.world.db.integrityRuns.find? runId = some run) (recovers : run.recover = true)
    (scope : scopePairs s.world.db run.scopeDrivePairId = .ok pairs)
    (ran : processRun env clock runId s = .ok () t) : Healing start pairs runId t := by
  have current : s.world.db.getIntegrityRun runId = .ok run := by rw [Db.getIntegrityRun,found]
  rw [processRun,bind_of_ok (onWorld_query current),bind_of_ok (onWorld_query scope),recovers] at ran
  obtain ⟨stopped,u,processed,ran⟩ := bind_success ran
  have after := healing.eachPair placed answers ready rows (List.Subset.refl _) processed
  cases stopped with
  | true =>
    cases ran
    exact after
  | false =>
    exact after.still (still_success (keeps_bind (still_outsideStop _ _) fun _ => keeps_bind (still_query _) fun _ =>
      still_updateIntegrityRun _ _ _) ran)

theorem healing_runSync {scope : Option Nat} {trigger : String} {run : IntegrityRun} (keys : s.world.db.ForeignKeys)
    (idle : s.world.db.getActiveIntegrityRun = none) (found : scopePairs s.world.db scope = .ok pairs)
    (placed : Placed s.world.db pairs) (answers : Answers env pairs) (ready : ∀ pair ∈ pairs, Ready pair s.world.disk)
    (ran : runSync env clock scope true trigger s = .ok run t) : Healing s.world pairs run.id t := by
  obtain ⟨_,_,row⟩ := createIntegrityRun_of_scope found true trigger
  let runId := s.world.db.integrityRuns.lastId + 1
  let started := startedRun scope true trigger s
  rw [runSync_created true trigger idle found] at ran
  have same : started.world.disk = s.world.disk ∧ SameFiles s.world.db started.world.db ∧
      started.world.db.integrityRunResults = s.world.db.integrityRunResults := by
    unfold started startedRun Db.createIntegrityRun
    split <;> exact ⟨rfl,⟨rfl,rfl⟩,rfl⟩
  obtain ⟨disk,files,results⟩ := same
  have fresh : attention started.world.db runId = [] := by
    -- No earlier result can carry the id of the new run.
    rw [attention_congr results]
    refine List.map_eq_nil_iff.mpr (List.filter_eq_nil_iff.mpr fun result member same => ?_)
    obtain ⟨parent,there⟩ := Option.isSome_iff_exists.mp (keys.resultRun result member)
    have bound := s.world.db.integrityRuns.bounded parent (Table.mem_of_find? there)
    rw [Table.find?_key there,beq_iff_eq.mp same] at bound
    exact absurd bound (Nat.not_succ_le_self _)
  have none_recorded : recordedSubjects s.world.db started.world.db runId = ∅ := by
    simp [recordedSubjects,fresh]
  have healing : Healing s.world pairs runId started := by
    refine ⟨files,?_,?_,?_⟩
    · simp [none_recorded]
    · rw [none_recorded,disk]
      exact .refl _
    · simp [fresh]
  have again : scopePairs started.world.db scope = .ok pairs := by
    rw [← found]
    cases scope with
    | none => exact congrArg (fun table => Except.ok (Table.rows table)) files.pairs
    | some pairId => simp only [scopePairs,Db.getDrivePair,files.pairs]
  obtain ⟨outcome,u,attempted,rest⟩ := bind_success ran
  cases outcome with
  | error message =>
    obtain ⟨_,v,_,thrown⟩ := bind_success rest
    cases thrown
  | ok _ =>
    have after := healing.run placed answers ready (fun pair member => scopePairs_rows found pair member) row rfl again
      (attempt_success attempted)
    obtain ⟨w,read,rfl⟩ := onWorld_success rest
    obtain ⟨given,rfl⟩ := Act.query_success read
    rw [getIntegrityRun_id given]
    exact after

end

/-- What the run has done for the files of its pairs, and said about them. -/
structure RunHeals (pairs : List DrivePair) (runId : Nat) (start now : World) : Prop where
  cured : ∀ pair ∈ pairs, ∀ file ∈ start.db.trackedFiles.rows, file.drivePairId = pair.id →
    file.id ∈ now.db.recordedFiles runId → Curable start.disk (subjectOf pair file) →
      ∀ role, GoodAt now.disk (pair.copyOn role file.relativePath) file.checksum
  changed : ∀ path, now.disk.node path ≠ start.disk.node path → ∃ pair ∈ pairs, ∃ file ∈ start.db.trackedFiles.rows,
    file.drivePairId = pair.id ∧ file.id ∈ now.db.recordedFiles runId ∧ Curable start.disk (subjectOf pair file) ∧
      ∃ role, path = pair.copyOn role file.relativePath ∧ ¬GoodAt start.disk path file.checksum
  attention : ∀ result ∈ now.db.integrityRunResults.rows, result.runId = runId → ∀ pair ∈ pairs,
    ∀ file ∈ start.db.trackedFiles.rows, file.drivePairId = pair.id → file.id = result.fileId →
      (result.needsAttention = true ↔ ¬Curable start.disk (subjectOf pair file))

/-- A recovery run that nothing disturbs completes. Each file it records that can be repaired has two good copies then,
no other file of the disk has changed, and a result calls for attention exactly if its file cannot be repaired. -/
theorem recovery_run_heals {env : RunEnv} (clock : Clock) (scope : Option Nat) (trigger : String) {s : RunWorld}
    {pairs : List DrivePair} (keys : s.world.db.ForeignKeys) (idle : s.world.db.getActiveIntegrityRun = none)
    (found : scopePairs s.world.db scope = .ok pairs) (undisturbed : env.Undisturbed) (answers : Answers env pairs)
    (ready : ∀ pair ∈ pairs, Ready pair s.world.disk)
    (roots : ∀ pair ∈ pairs, ∀ other ∈ pairs, ∀ role side, pair.pathForRole role = other.pathForRole side → pair.id = other.id)
    (paths : ∀ file ∈ s.world.db.trackedFiles.rows, ∀ other ∈ s.world.db.trackedFiles.rows,
      file.drivePairId = other.drivePairId → file.relativePath = other.relativePath → file.id = other.id) :
    ∃ run t, runSync env clock scope true trigger s = .ok run t ∧ run.status = .completed ∧
      RunHeals pairs run.id s.world t.world := by
  have rowOf {id : Nat} {x : Subject} (listed : subject s.world.db id = some x) :
      ∃ file ∈ s.world.db.trackedFiles.rows, file.id = id ∧ file.drivePairId = x.pair.id ∧ subjectOf x.pair file = x := by
    obtain ⟨file,row,rest⟩ := Option.bind_eq_some_iff.mp listed
    obtain ⟨pair,there,rfl⟩ := Option.map_eq_some_iff.mp rest
    exact ⟨file,Table.mem_of_find? row,Table.find?_key row,(Table.find?_key there).symm,rfl⟩
  have subjectAt {pair : DrivePair} (listed : pair ∈ pairs) {file : TrackedFile}
      (member : file ∈ s.world.db.trackedFiles.rows) (ofPair : file.drivePairId = pair.id) :
      subject s.world.db file.id = some (subjectOf pair file) := by
    have row := s.world.db.trackedFiles.find?_of_mem member
    rw [subject,show s.world.db.trackedFiles.find? file.id = some file from row,Option.bind_some,ofPair,
      scopePairs_rows found pair listed,Option.map_some]
  have placed : Placed s.world.db pairs := by
    intro id other x y foundX foundY ofX ofY role side same
    obtain ⟨file,member,rfl,pairX,isX⟩ := rowOf foundX
    obtain ⟨another,memberToo,rfl,pairY,isY⟩ := rowOf foundY
    have equal := roots _ ofX _ ofY role side (congrArg Location.root same)
    have path : file.relativePath = another.relativePath := (congrArg Subject.relativePath isX).trans
      ((congrArg Location.relativePath same).trans (congrArg Subject.relativePath isY).symm)
    exact paths file member another memberToo (pairX.trans (equal.trans pairY.symm)) path
  obtain ⟨run,t,ran,completed,_⟩ := runSync_undisturbed true trigger keys idle found undisturbed
  have healing := healing_runSync keys idle found placed answers ready ran
  refine ⟨run,t,ran,completed,?_,?_,?_⟩
  · intro pair listed file member ofPair recorded
    rw [← attention_files] at recorded
    obtain ⟨entry,there,same⟩ := List.mem_map.mp recorded
    exact healing.healed.good _ ⟨entry,there,same ▸ subjectAt listed member ofPair⟩
  · intro path differs
    obtain ⟨x,⟨entry,there,listed⟩,curable,role,place,bad,_⟩ := healing.healed.changed path differs
    obtain ⟨file,member,same,ofPair,is⟩ := rowOf listed
    have inside := (healing.inside ⟨entry,there,listed⟩).1
    refine ⟨x.pair,inside,file,member,ofPair,?_,is.symm ▸ curable,role,?_,?_⟩
    · rw [← attention_files,same]
      exact List.mem_map_of_mem there
    · rw [place,← is]
      rfl
    · rw [place]
      rw [← is] at bad ⊢
      exact bad
  · intro result member ofRun pair listed file row ofPair same
    refine healing.attends (result.fileId,result.needsAttention) ?_ _ (same ▸ subjectAt listed row ofPair)
    exact List.mem_map.mpr ⟨result,List.mem_filter.mpr ⟨member,by simp [ofRun]⟩,rfl⟩

end

/-! A corrupt master that the mirror repairs. -/

theorem recovery_run_heals_notes :
    letI := sampleBlake3
    ∃ run t, runSync (quietEnv fun _ _ id => id) steadyClock none true "scheduled" ⟨corruptedWorld,0,[]⟩ = .ok run t ∧
      run.status = .completed ∧ RunHeals [corruptedPair] run.id corruptedWorld t.world := by
  let _ := sampleBlake3
  have only : ∀ file ∈ corruptedWorld.db.trackedFiles.rows, file = corruptedFile := fun file member =>
    List.mem_singleton.mp member
  have keys : corruptedWorld.db.ForeignKeys := by
    refine ⟨fun result member => absurd member List.not_mem_nil,fun file member => ?_⟩
    rw [only file member]
    rfl
  refine recovery_run_heals steadyClock none "scheduled" (s := ⟨corruptedWorld,0,[]⟩) keys rfl rfl (fun _ => rfl) ?_ ?_ ?_ ?_
  · exact ⟨fun pair _ _ => ScannedDrains.serves_healthy pair,fun _ _ _ _ => rfl⟩
  · intro pair member
    cases List.mem_singleton.mp member
    refine ⟨rfl,by decide,fun role => ?_,fun role => ?_⟩ <;> cases role <;> exact rfl
  · intro pair listed other listedToo _ _ _
    rw [List.mem_singleton.mp listed,List.mem_singleton.mp listedToo]
  · intro file member other memberToo _ _
    rw [only file member,only other memberToo]

end BitProtector.IntegrityHealing
