import BitProtector.DriveLifecycle
import BitProtector.Foundation.Ownership

/-! The root paths of the drive pairs under the requests of the API and of the command
line. A create is compared with every registered path; an update and a replacement
write theirs without a look at the other pairs. -/
namespace BitProtector.DrivePaths
open Effect Ownership

/-- Who asks; only the texts of some errors differ. -/
inductive Front
  | api
  | cli
  deriving DecidableEq, Repr

/-- The database with the `name` column of `drive_pairs`. -/
structure Registry where
  world : World
  pairName : Nat → String

abbrev RegistryAct := EStateM String Registry

def inWorld {α : Type} (x : Act α) : RegistryAct α := fun s =>
  match x s.world with
  | .ok value t => .ok value { s with world := t }
  | .error message t => .error message { s with world := t }

/-- What `std::fs` says of a path that may not be a root yet. -/
structure PathFacts where
  exists? : String → Bool
  isDir : String → Bool
  canonicalize : String → Option String

def writeTest (root : String) : Location := ⟨root,".bitprotector_write_test"⟩

def probeWritable (io : Io) (root message : String) : Act Unit := do
  Act.ensure (io.create (writeTest root)) message
  Act.store (fun disk => disk.write (writeTest root) [])
  if io.removeFile (writeTest root) then Act.store (fun disk => disk.remove (writeTest root))

def canonicalized (facts : PathFacts) (path message : String) : Act String :=
  match facts.canonicalize path with
  | some canon => pure canon
  | none => Act.bail message

def validateDrivePair (facts : PathFacts) (io : Io) (primary secondary : String) : Act Unit := do
  Act.ensure (facts.exists? primary) s!"Primary path does not exist: {primary}"
  Act.ensure (facts.isDir primary) s!"Primary path is not a directory: {primary}"
  Act.ensure (facts.exists? secondary) s!"Secondary path does not exist: {secondary}"
  Act.ensure (facts.isDir secondary) s!"Secondary path is not a directory: {secondary}"
  let primaryCanon ← canonicalized facts primary "Failed to canonicalize primary path"
  let secondaryCanon ← canonicalized facts secondary "Failed to canonicalize secondary path"
  Act.ensure (primaryCanon != secondaryCanon) "Primary and secondary paths must be different directories"
  probeWritable io primary "Primary path is not writable"
  probeWritable io secondary "Secondary path is not writable"

/-- `skip_validation` and `--no-validate`. -/
def unlessSkipped (skipValidation : Bool) (validation : Act Unit) : Act Unit :=
  if skipValidation then pure () else validation

def mediaTypeMessage : Front → DriveRole → String
  | .api, _ => "media_type must be 'hdd' or 'ssd'"
  | .cli, .primary => "--primary-media-type must be 'hdd' or 'ssd'"
  | .cli, .secondary => "--secondary-media-type must be 'hdd' or 'ssd'"

def mediaType (front : Front) (role : DriveRole) (text : String) : RegistryAct DriveMediaType :=
  if text = "hdd" then pure .hdd
  else if text = "ssd" then pure .ssd
  else throw (mediaTypeMessage front role)

def mediaType? (front : Front) (role : DriveRole) : Option String → RegistryAct (Option DriveMediaType)
  | none => pure none
  | some text => do pure (some (← mediaType front role text))

/-- `WHERE primary_path = ? OR secondary_path = ?`. -/
def pathRegistered (db : Db) (path : String) : Bool :=
  db.drivePairs.rows.any (fun pair => pair.primaryPath == path || pair.secondaryPath == path)

def duplicateDrivePathError : Front → String
  | .api => "Drive path is already registered to another drive pair"
  | .cli => "Drive path is already registered: each physical path may belong to only one drive pair"

def uniqueNameFailed : String := "UNIQUE constraint failed: drive_pairs.name"

/-- Another row has the name. -/
def nameTaken (s : Registry) (id : Nat) (name : String) : Bool :=
  s.world.db.drivePairs.rows.any (fun pair => pair.id != id && s.pairName pair.id == name)

def createdPair (primary secondary : String) (primaryMedia secondaryMedia : DriveMediaType) (id : Nat) : DrivePair :=
  { id,primaryPath := primary,secondaryPath := secondary,primaryState := .active,secondaryState := .active,
    activeRole := .primary,primaryMediaType := primaryMedia,secondaryMediaType := secondaryMedia }

theorem key_createdPair (primary secondary : String) (primaryMedia secondaryMedia : DriveMediaType) (id : Nat) :
    Keyed.key (createdPair primary secondary primaryMedia secondaryMedia id) = id := rfl

/-- `INSERT INTO drive_pairs`: the two triggers look before the constraints do. -/
def createDrivePairWithMedia (front : Front) (name primary secondary : String)
    (primaryMedia secondaryMedia : DriveMediaType) : RegistryAct DrivePair := fun s =>
  let id := s.world.db.drivePairs.lastId + 1
  if pathRegistered s.world.db primary || pathRegistered s.world.db secondary then
    .error (duplicateDrivePathError front) s
  else if nameTaken s id name then .error uniqueNameFailed s
  else .ok (createdPair primary secondary primaryMedia secondaryMedia id)
    { world := { s.world with
        db := { s.world.db with
          drivePairs := s.world.db.drivePairs.insert (createdPair primary secondary primaryMedia secondaryMedia)
            (key_createdPair _ _ _ _) } }
      pairName := Function.update s.pairName id name }

def createDrivePair (front : Front) (facts : PathFacts) (io : Io) (name primary secondary primaryMediaType
    secondaryMediaType : String) (skipValidation : Bool) : RegistryAct DrivePair := do
  let primaryMedia ← mediaType front .primary primaryMediaType
  let secondaryMedia ← mediaType front .secondary secondaryMediaType
  inWorld (unlessSkipped skipValidation (validateDrivePair facts io primary secondary))
  createDrivePairWithMedia front name primary secondary primaryMedia secondaryMedia

def renameDrivePair (id : Nat) : Option String → RegistryAct Unit
  | none => pure ()
  | some name => fun s =>
    match s.world.db.drivePairs.find? id with
    | none => .ok () s
    | some _ =>
      if nameTaken s id name then .error uniqueNameFailed s
      else .ok () { s with pairName := Function.update s.pairName id name }

/-- The row after `update_drive_pair_with_media`; `none` leaves a column alone. -/
def updatedPair (primary secondary : Option String) (primaryMedia secondaryMedia : Option DriveMediaType)
    (pair : DrivePair) : DrivePair :=
  { pair with
    primaryPath := primary.getD pair.primaryPath
    secondaryPath := secondary.getD pair.secondaryPath
    primaryMediaType := primaryMedia.getD pair.primaryMediaType
    secondaryMediaType := secondaryMedia.getD pair.secondaryMediaType }

theorem key_updatedPair (primary secondary : Option String) (primaryMedia secondaryMedia : Option DriveMediaType)
    (pair : DrivePair) : Keyed.key (updatedPair primary secondary primaryMedia secondaryMedia pair) = Keyed.key pair := rfl

def writeDrivePair (db : Db) (id : Nat) (primary secondary : Option String)
    (primaryMedia secondaryMedia : Option DriveMediaType) : Db :=
  { db with
    drivePairs := db.drivePairs.updateWhere (fun pair => pair.id == id)
      (updatedPair primary secondary primaryMedia secondaryMedia) (key_updatedPair _ _ _ _) }

def updateDrivePairWithMedia (id : Nat) (name primary secondary : Option String)
    (primaryMedia secondaryMedia : Option DriveMediaType) : RegistryAct DrivePair := do
  renameDrivePair id name
  inWorld (Act.execute (fun db => writeDrivePair db id primary secondary primaryMedia secondaryMedia))
  inWorld (Act.query (fun db => db.getDrivePair id))

def updateDrivePair (front : Front) (id : Nat) (name primary secondary primaryMediaType
    secondaryMediaType : Option String) : RegistryAct DrivePair := do
  let primaryMedia ← mediaType? front .primary primaryMediaType
  let secondaryMedia ← mediaType? front .secondary secondaryMediaType
  updateDrivePairWithMedia id name primary secondary primaryMedia secondaryMedia

/-- A row of another table refers to the pair, and does not go with it. -/
def referenced (db : Db) (id : Nat) : Bool :=
  db.trackedFolders.rows.any (fun folder => folder.drivePairId == id) ||
    db.integrityRunResults.rows.any (fun result => result.drivePairId == id)

def deleteDrivePair (id : Nat) : Act Unit := do
  let count ← Act.query (fun db => .ok (db.countTrackedFiles (some id)))
  Act.ensure (count == 0) s!"Cannot delete drive pair: {count} files are still tracked"
  Act.ensure (!(← Act.query (fun db => .ok (referenced db id)))) Db.foreignKeyConstraintFailed
  Act.execute (fun db =>
    { db with
      drivePairs := db.drivePairs.deleteWhere (fun pair => pair.id == id)
      integrityRuns := db.integrityRuns.updateWhere (fun run => run.scopeDrivePairId == some id)
        (fun run => { run with scopeDrivePairId := none }) (fun _ => rfl) })

/-- The read before a route goes on, whose error the API replaces. -/
def getPairFor (front : Front) (id : Nat) : Act DrivePair :=
  match front with
  | .api => Act.mapErr (fun _ => s!"Drive pair {id} not found") (Act.query (fun db => db.getDrivePair id))
  | .cli => Act.query (fun db => db.getDrivePair id)

def assignReplacement (front : Front) (facts : PathFacts) (io : Io) (id : Nat) (role : DriveRole) (newPath : String)
    (skipValidation : Bool) : Act (DrivePair × Nat) := do
  let pair ← getPairFor front id
  unlessSkipped skipValidation (match role with
    | .primary => validateDrivePair facts io newPath pair.secondaryPath
    | .secondary => validateDrivePair facts io pair.primaryPath newPath)
  assignReplacementDrive io id role newPath

def emergencyFailover (id : Nat) : Act DrivePair := do
  let pair ← getPairFor .api id
  maybeEmergencyFailover pair

/-! What each pair holds. -/

/-- The paths of the two slots of each registered pair. -/
def held (db : Db) : Holding Nat DriveRole String := fun id => (db.drivePairs.find? id).map DrivePair.pathForRole

/-- No path belongs to two slots. -/
def PathsDistinct (s : Registry) : Prop := Exclusive (held s.world.db)

theorem pathRegistered_eq_false {db : Db} {path : String} (free : pathRegistered db path = false) {id : Nat}
    {paths : DriveRole → String} (holds : held db id = some paths) (role : DriveRole) : path ≠ paths role := by
  obtain ⟨pair,found,rfl⟩ := Option.map_eq_some_iff.mp holds
  have row : ¬(pair.primaryPath = path ∨ pair.secondaryPath = path) := by
    simpa using List.any_eq_false.mp free pair (Table.mem_of_find? found)
  cases role
  · exact fun same => row (.inl same.symm)
  · exact fun same => row (.inr same.symm)

theorem held_updateDrivePairRuntime {db : Db} {id : Nat} {pair : DrivePair}
    (found : db.drivePairs.find? id = some pair) (pp sp ps ss role) :
    held (db.updateDrivePairRuntime id pp sp ps ss role) =
      Function.update (held db) id (some (pair.withRuntime pp sp ps ss role).pathForRole) := by
  funext other
  by_cases same : other = id
  · subst same
    rw [Function.update_self,held,find?_updateDrivePairRuntime found]
    rfl
  · rw [Function.update_of_ne same,held,find?_updateDrivePairRuntime_other db same]
    rfl

/-- The paths stay where they are. -/
def PathsKept (w t : World) : Prop := held t.db = held w.db

instance : IsPreorder World PathsKept where
  refl _ := rfl
  trans _ _ _ first second := Eq.trans second first

theorem PathsKept.of_pairs {w t : World} (same : t.db.drivePairs = w.db.drivePairs) : PathsKept w t := by
  unfold PathsKept held
  rw [same]

theorem pathsKept_query {α : Type} (read : Db → Except String α) : Keeps PathsKept (Act.query read) := by
  intro w
  unfold after Act.query
  cases read w.db <;> rfl

theorem pathsKept_ensure (condition : Bool) (message : String) :
    Keeps PathsKept (Act.ensure condition message) := by
  intro w
  apply PathsKept.of_pairs
  rw [dbKept_ensure condition message w]

theorem pathsKept_look {α : Type} (view : Disk → α) : Keeps PathsKept (Act.look view) := fun _ => rfl

/-- A statement that leaves `drive_pairs` alone. -/
theorem pathsKept_execute {update : Db → Db} (same : ∀ db, (update db).drivePairs = db.drivePairs) :
    Keeps PathsKept (Act.execute update) := fun w => .of_pairs (same w.db)

theorem pathsKept_updateRuntime (id : Nat) (ps ss : Option DriveState) (role : Option DriveRole) :
    Keeps PathsKept (updateRuntime id none none ps ss role) := by
  refine keeps_bind (fun w => ?_) fun _ => pathsKept_query _
  change held (w.db.updateDrivePairRuntime id none none ps ss role) = held w.db
  funext other
  rw [held,held,Db.updateDrivePairRuntime,Table.find?_updateWhere,Option.map_map]
  congr 1
  funext pair side
  rw [Function.comp_apply]
  split <;> cases side <;> rfl

theorem pathsKept_markDriveQuiescing (id : Nat) (role : DriveRole) :
    Keeps PathsKept (markDriveQuiescing id role) :=
  keeps_bind (pathsKept_query _) fun _ => keeps_bind (pathsKept_ensure _ _) fun _ =>
    pathsKept_updateRuntime _ _ _ _

theorem pathsKept_cancelDriveQuiescing (id : Nat) (role : DriveRole) :
    Keeps PathsKept (cancelDriveQuiescing id role) :=
  keeps_bind (pathsKept_query _) fun _ => keeps_bind (pathsKept_ensure _ _) fun _ =>
    pathsKept_updateRuntime _ _ _ _

theorem pathsKept_confirmDriveFailure (id : Nat) (role : DriveRole) :
    Keeps PathsKept (confirmDriveFailure id role) := by
  refine keeps_bind (pathsKept_query _) fun pair => keeps_bind (pathsKept_ensure _ _) fun _ => ?_
  refine keeps_bind (pathsKept_look _) fun reachable => keeps_bind (pathsKept_ensure _ _) fun _ => ?_
  refine keeps_bind (pathsKept_updateRuntime _ _ _ _) fun updated => ?_
  refine keeps_bind (pathsKept_execute fun _ => rfl) fun _ => ?_
  exact keeps_bind (pathsKept_execute fun _ => rfl) fun _ => keeps_pure _

theorem pathsKept_maybeEmergencyFailover (pair : DrivePair) : Keeps PathsKept (maybeEmergencyFailover pair) := by
  refine keeps_bind (pathsKept_look _) fun due => ?_
  split
  · exact keeps_pure _
  · refine keeps_bind (pathsKept_updateRuntime _ _ _ _) fun _ => ?_
    refine keeps_bind (pathsKept_execute fun _ => rfl) fun _ => ?_
    exact keeps_bind (pathsKept_execute fun _ => rfl) fun _ => pathsKept_query _

theorem pathsKept_maybeFinalizeRebuildForAction (id : Nat) (action : SyncAction) :
    Keeps PathsKept (maybeFinalizeRebuildForAction id action) := by
  refine keeps_bind (pathsKept_query _) fun pair => ?_
  cases rebuiltRole action with
  | none => exact keeps_pure _
  | some role =>
    dsimp only
    split
    · exact keeps_pure _
    · refine keeps_bind (pathsKept_query _) fun complete => ?_
      split
      · exact keeps_pure _
      · refine keeps_bind (pathsKept_updateRuntime _ _ _ _) fun updated => ?_
        refine keeps_bind (pathsKept_execute fun _ => rfl) fun _ => ?_
        split
        · refine keeps_bind (pathsKept_execute fun db => ?_) fun _ => keeps_pure _
          exact (setsFlags_markAllMirrored db _).2
        · exact keeps_pure _

theorem pathsKept_getPairFor (front : Front) (id : Nat) : Keeps PathsKept (getPairFor front id) := by
  cases front with
  | cli => exact pathsKept_query (fun db => db.getDrivePair id)
  | api =>
    intro w
    rw [getPairFor,Act.after_mapErr]
    exact pathsKept_query _ w

theorem dbKept_canonicalized (facts : PathFacts) (path message : String) :
    Keeps DbKept (canonicalized facts path message) := by
  unfold canonicalized
  split
  · exact keeps_pure _
  · exact dbKept_bail _

theorem dbKept_probeWritable (io : Io) (root message : String) : Keeps DbKept (probeWritable io root message) := by
  refine keeps_bind (dbKept_ensure _ _) fun _ => keeps_bind (dbKept_store _) fun _ => ?_
  split
  · exact dbKept_store _
  · exact keeps_pure _

theorem dbKept_validateDrivePair (facts : PathFacts) (io : Io) (primary secondary : String) :
    Keeps DbKept (validateDrivePair facts io primary secondary) := by
  refine keeps_bind (dbKept_ensure _ _) fun _ => keeps_bind (dbKept_ensure _ _) fun _ => ?_
  refine keeps_bind (dbKept_ensure _ _) fun _ => keeps_bind (dbKept_ensure _ _) fun _ => ?_
  refine keeps_bind (dbKept_canonicalized _ _ _) fun _ => ?_
  refine keeps_bind (dbKept_canonicalized _ _ _) fun _ => keeps_bind (dbKept_ensure _ _) fun _ => ?_
  exact keeps_bind (dbKept_probeWritable _ _ _) fun _ => dbKept_probeWritable _ _ _

theorem canonicalized_success {facts : PathFacts} {path message canon : String} {w t : World}
    (ok : canonicalized facts path message w = .ok canon t) : facts.canonicalize path = some canon := by
  unfold canonicalized at ok
  cases resolved : facts.canonicalize path with
  | none =>
    rw [resolved] at ok
    cases ok
  | some other =>
    rw [resolved] at ok
    cases ok
    rfl

theorem validateDrivePair_ne {facts : PathFacts} {io : Io} {primary secondary : String} {w t : World}
    (ok : validateDrivePair facts io primary secondary w = .ok () t) : primary ≠ secondary := by
  obtain ⟨_,_,_,ok⟩ := bind_success ok
  obtain ⟨_,_,_,ok⟩ := bind_success ok
  obtain ⟨_,_,_,ok⟩ := bind_success ok
  obtain ⟨_,_,_,ok⟩ := bind_success ok
  obtain ⟨primaryCanon,_,first,ok⟩ := bind_success ok
  obtain ⟨secondaryCanon,_,second,ok⟩ := bind_success ok
  obtain ⟨_,_,compared,_⟩ := bind_success ok
  have apart : primaryCanon ≠ secondaryCanon := by simpa using (Act.ensure_success compared).1
  rintro rfl
  exact apart (Option.some.inj ((canonicalized_success first).symm.trans (canonicalized_success second)))

/-! What each accepted request writes. -/

theorem inWorld_success {α : Type} {x : Act α} {value : α} {s t : Registry} (ok : inWorld x s = .ok value t) :
    x s.world = .ok value t.world := by
  unfold inWorld at ok
  cases ran : x s.world with
  | ok other u =>
    rw [ran] at ok
    cases ok
    rfl
  | error message u =>
    rw [ran] at ok
    cases ok

theorem mediaType_success {front : Front} {role : DriveRole} {text : String} {media : DriveMediaType} {s t : Registry}
    (ok : mediaType front role text s = .ok media t) : t = s := by
  unfold mediaType at ok
  split at ok
  · cases ok
    rfl
  · split at ok
    · cases ok
      rfl
    · cases ok

theorem mediaType?_success {front : Front} {role : DriveRole} {text : Option String} {media : Option DriveMediaType}
    {s t : Registry} (ok : mediaType? front role text s = .ok media t) : t = s := by
  cases text with
  | none =>
    cases ok
    rfl
  | some text =>
    obtain ⟨value,u,parsed,ends⟩ := bind_success ok
    cases ends
    exact mediaType_success parsed

/-- The family of a new pair. -/
def slots (primary secondary : String) : DriveRole → String
  | .primary => primary
  | .secondary => secondary

theorem slots_injective {primary secondary : String} :
    Function.Injective (slots primary secondary) ↔ primary ≠ secondary := by
  constructor
  · rintro injective rfl
    have same : DriveRole.primary = DriveRole.secondary := injective rfl
    cases same
  · intro apart role other same
    cases role <;> cases other
    · rfl
    · exact absurd same apart
    · exact absurd same.symm apart
    · rfl

theorem createDrivePairWithMedia_success {front : Front} {name primary secondary : String}
    {primaryMedia secondaryMedia : DriveMediaType} {pair : DrivePair} {s t : Registry}
    (ok : createDrivePairWithMedia front name primary secondary primaryMedia secondaryMedia s = .ok pair t) :
    pathRegistered s.world.db primary = false ∧ pathRegistered s.world.db secondary = false ∧
      held t.world.db = Function.update (held s.world.db) (s.world.db.drivePairs.lastId + 1)
        (some (slots primary secondary)) := by
  unfold createDrivePairWithMedia at ok
  dsimp only at ok
  split at ok
  · cases ok
  · rename_i registered
    split at ok
    · cases ok
    · cases ok
      have free : pathRegistered s.world.db primary = false ∧ pathRegistered s.world.db secondary = false := by
        simpa using registered
      refine ⟨free.1,free.2,?_⟩
      funext id
      unfold held
      dsimp only
      rw [Table.find?_insert]
      by_cases new : id = s.world.db.drivePairs.lastId + 1
      · subst new
        rw [if_pos rfl,Function.update_self,Option.map_some]
        congr 1
      · rw [if_neg new,Function.update_of_ne new]

theorem createDrivePair_success {front : Front} {facts : PathFacts} {io : Io}
    {name primary secondary primaryMediaType secondaryMediaType : String} {skipValidation : Bool} {pair : DrivePair}
    {s t : Registry} (ok : createDrivePair front facts io name primary secondary primaryMediaType secondaryMediaType
      skipValidation s = .ok pair t) :
    (skipValidation = false → primary ≠ secondary) ∧
      FreeFor (held s.world.db) (s.world.db.drivePairs.lastId + 1) (slots primary secondary) ∧
      held t.world.db = Function.update (held s.world.db) (s.world.db.drivePairs.lastId + 1)
        (some (slots primary secondary)) := by
  obtain ⟨primaryMedia,u,first,parses⟩ := bind_success ok
  obtain ⟨secondaryMedia,v,second,checks⟩ := bind_success parses
  obtain ⟨_,x,validated,inserted⟩ := bind_success checks
  have still := mediaType_success first
  have unchanged := mediaType_success second
  subst unchanged still
  have checked : (skipValidation = false → primary ≠ secondary) ∧ x.world.db = v.world.db := by
    have valid := inWorld_success validated
    cases skipValidation with
    | true =>
      rw [unlessSkipped,if_pos rfl] at valid
      have same : v.world = x.world := (EStateM.Result.ok.injEq _ _ _ _ ▸ valid).2
      exact ⟨fun skipped => (by cases skipped),by rw [same]⟩
    | false =>
      rw [unlessSkipped,if_neg Bool.false_ne_true] at valid
      have kept := dbKept_validateDrivePair facts io primary secondary v.world
      rw [after_of_ok valid] at kept
      exact ⟨fun _ => validateDrivePair_ne valid,kept⟩
  obtain ⟨apart,same⟩ := checked
  obtain ⟨freePrimary,freeSecondary,after⟩ := createDrivePairWithMedia_success inserted
  rw [same] at freePrimary freeSecondary after
  refine ⟨apart,fun id _ paths holds role other => ?_,after⟩
  cases role
  · exact pathRegistered_eq_false freePrimary holds other
  · exact pathRegistered_eq_false freeSecondary holds other

theorem held_updateWhere {db next : Db} {id : Nat} {pair : DrivePair} (change : DrivePair → DrivePair)
    (keepsKey : ∀ row, Keyed.key (change row) = Keyed.key row) (found : db.drivePairs.find? id = some pair)
    (written : next.drivePairs = db.drivePairs.updateWhere (fun row => row.id == id) change keepsKey) :
    held next = Function.update (held db) id (some (change pair).pathForRole) := by
  funext other
  unfold held
  rw [written,Table.find?_updateWhere]
  by_cases same : other = id
  · subst same
    have key : pair.id = other := Table.find?_key found
    rw [Function.update_self,found,Option.map_some,if_pos (by simpa using key)]
    rfl
  · rw [Function.update_of_ne same]
    cases row : db.drivePairs.find? other with
    | none => rfl
    | some untouched =>
      have key : untouched.id = other := Table.find?_key row
      have differs : (untouched.id == id) = false := by simpa [key] using same
      rw [Option.map_some,differs]
      rfl

theorem renameDrivePair_success {id : Nat} {name : Option String} {s t : Registry}
    (ok : renameDrivePair id name s = .ok () t) : t.world = s.world := by
  cases name with
  | none =>
    cases ok
    rfl
  | some name =>
    unfold renameDrivePair at ok
    dsimp only at ok
    split at ok
    · cases ok
      rfl
    · split at ok
      · cases ok
      · cases ok
        rfl

theorem updateDrivePair_success {front : Front} {id : Nat}
    {name primary secondary primaryMediaType secondaryMediaType : Option String} {updated : DrivePair} {s t : Registry}
    (ok : updateDrivePair front id name primary secondary primaryMediaType secondaryMediaType s = .ok updated t) :
    ∃ pair, s.world.db.drivePairs.find? id = some pair ∧ held t.world.db = Function.update (held s.world.db) id
      (some (updatedPair primary secondary none none pair).pathForRole) := by
  obtain ⟨primaryMedia,u,first,parses⟩ := bind_success ok
  obtain ⟨secondaryMedia,v,second,writes⟩ := bind_success parses
  obtain ⟨_,x,renamed,changes⟩ := bind_success writes
  obtain ⟨_,y,changed,reads⟩ := bind_success changes
  have still := mediaType?_success first
  have unchanged := mediaType?_success second
  have kept := renameDrivePair_success renamed
  subst unchanged still
  have after := inWorld_success changed
  have read := Act.query_success (inWorld_success reads)
  have row := Db.getDrivePair_ok.mp read.1
  have written : y.world.db = writeDrivePair v.world.db id primary secondary primaryMedia secondaryMedia := by
    rw [Act.execute_apply,kept] at after
    injection after with _ same
    rw [← same]
  rw [read.2,written]
  cases found : v.world.db.drivePairs.find? id with
  | none =>
    rw [written,writeDrivePair,Table.find?_updateWhere,found] at row
    cases row
  | some pair =>
    refine ⟨pair,rfl,?_⟩
    have paths : (updatedPair primary secondary primaryMedia secondaryMedia pair).pathForRole =
        (updatedPair primary secondary none none pair).pathForRole := by
      funext role
      cases role <;> rfl
    rw [held_updateWhere _ (key_updatedPair primary secondary primaryMedia secondaryMedia) found rfl,paths]

theorem deleteDrivePair_success {id : Nat} {w t : World} (ok : deleteDrivePair id w = .ok () t) :
    held t.db = Function.update (held w.db) id none := by
  obtain ⟨count,u,counted,checks⟩ := bind_success ok
  obtain ⟨_,v,ensured,looks⟩ := bind_success checks
  obtain ⟨found,x,looked,ensures⟩ := bind_success looks
  obtain ⟨_,y,allowed,deletes⟩ := bind_success ensures
  have counting := (Act.query_success counted).2
  have ensuring := (Act.ensure_success ensured).2
  have looking := (Act.query_success looked).2
  have allowing := (Act.ensure_success allowed).2
  subst allowing looking ensuring counting
  cases deletes
  funext other
  unfold held
  dsimp only
  rw [Table.find?_deleteWhere]
  by_cases same : other = id
  · subst same
    rw [Function.update_self]
    cases row : y.db.drivePairs.find? other with
    | none => rfl
    | some pair =>
      have key : pair.id = other := Table.find?_key row
      simp [Option.filter,key]
  · rw [Function.update_of_ne same]
    cases row : y.db.drivePairs.find? other with
    | none => rfl
    | some pair =>
      have key : pair.id = other := Table.find?_key row
      simp [Option.filter,key,same]

theorem getPairFor_success {front : Front} {id : Nat} {pair : DrivePair} {w t : World}
    (ok : getPairFor front id w = .ok pair t) : w.db.drivePairs.find? id = some pair ∧ t = w := by
  cases front with
  | cli => exact query_getDrivePair ok
  | api =>
    apply query_getDrivePair
    unfold getPairFor Act.mapErr at ok
    dsimp only at ok
    split at ok
    · rename_i read
      cases ok
      exact read
    · cases ok

theorem held_assignReplacementDrive {io : Io} {id : Nat} {role : DriveRole} {newPath : String}
    {result : DrivePair × Nat} {w t : World} (ok : assignReplacementDrive io id role newPath w = .ok result t) :
    ∃ pair, w.db.drivePairs.find? id = some pair ∧ held t.db = Function.update (held w.db) id
      (some (pair.replaced role newPath).pathForRole) := by
  obtain ⟨pair,u,read,guarded⟩ := bind_success ok
  obtain ⟨found,same⟩ := query_getDrivePair read
  obtain ⟨_,v,ensured,marks⟩ := bind_success guarded
  obtain ⟨_,still⟩ := Act.ensure_success ensured
  obtain ⟨_,x,marked,writes⟩ := bind_success marks
  obtain ⟨updated,y,written,lists⟩ := bind_success writes
  subst still same
  have untouched : x.db = v.db := by
    have kept := dbKept_ensureDriveRootMarker io newPath v
    rwa [after_of_ok marked] at kept
  obtain ⟨_,_,after⟩ := updateRuntime_ok written
  have queues : Keeps PathsKept (do
      let files ← Act.query (fun db => .ok (db.listTrackedFilesOfPair id))
      let queued ← queueRebuild (rebuildActionForRole role) files
      pure (updated,queued)) := by
    refine keeps_bind (pathsKept_query _) fun files => keeps_bind (fun s => ?_) fun _ => keeps_pure _
    exact .of_pairs (pairsKept_queueRebuild _ _ s)
  have kept := queues y
  rw [after_of_ok lists] at kept
  refine ⟨pair,found,Eq.trans kept ?_⟩
  rw [after,untouched]
  exact held_updateDrivePairRuntime found _ _ _ _ _

theorem assignReplacement_success {front : Front} {facts : PathFacts} {io : Io} {id : Nat} {role : DriveRole}
    {newPath : String} {skipValidation : Bool} {result : DrivePair × Nat} {w t : World}
    (ok : assignReplacement front facts io id role newPath skipValidation w = .ok result t) :
    ∃ pair, w.db.drivePairs.find? id = some pair ∧ held t.db = Function.update (held w.db) id
      (some (pair.replaced role newPath).pathForRole) := by
  obtain ⟨pair,u,read,checks⟩ := bind_success ok
  obtain ⟨_,same⟩ := getPairFor_success read
  obtain ⟨_,v,checked,assigns⟩ := bind_success checks
  subst same
  have kept : v.db = u.db := by
    cases skipValidation with
    | true =>
      cases checked
      rfl
    | false =>
      rw [unlessSkipped,if_neg Bool.false_ne_true] at checked
      cases role with
      | primary =>
        have after := dbKept_validateDrivePair facts io newPath pair.secondaryPath u
        rwa [after_of_ok checked] at after
      | secondary =>
        have after := dbKept_validateDrivePair facts io pair.primaryPath newPath u
        rwa [after_of_ok checked] at after
  obtain ⟨row,found,after⟩ := held_assignReplacementDrive assigns
  rw [kept] at found after
  exact ⟨row,found,after⟩

/-! Runs of requests. -/

inductive Request
  | createDrivePair (front : Front) (facts : PathFacts) (io : Io)
      (name primary secondary primaryMediaType secondaryMediaType : String) (skipValidation : Bool)
  | updateDrivePair (front : Front) (id : Nat)
      (name primary secondary primaryMediaType secondaryMediaType : Option String)
  | deleteDrivePair (id : Nat)
  | assignReplacement (front : Front) (facts : PathFacts) (io : Io) (id : Nat) (role : DriveRole) (newPath : String)
      (skipValidation : Bool)
  | markReplacement (id : Nat) (role : DriveRole)
  | confirmReplacement (id : Nat) (role : DriveRole)
  | cancelReplacement (id : Nat) (role : DriveRole)
  | emergencyFailover (id : Nat)
  | loadOperationalPair (id : Nat)
  | maybeFinalizeRebuild (id : Nat) (action : SyncAction)
  /-- The rest of the program: the other tables may become anything. -/
  | elsewhere (change : Db → Db)

def Request.run : Request → RegistryAct Unit
  | .createDrivePair front facts io name primary secondary primaryMediaType secondaryMediaType skipValidation => do
    let _ ← DrivePaths.createDrivePair front facts io name primary secondary primaryMediaType secondaryMediaType
      skipValidation
  | .updateDrivePair front id name primary secondary primaryMediaType secondaryMediaType => do
    let _ ← DrivePaths.updateDrivePair front id name primary secondary primaryMediaType secondaryMediaType
  | .deleteDrivePair id => inWorld (DrivePaths.deleteDrivePair id)
  | .assignReplacement front facts io id role newPath skipValidation => do
    let _ ← inWorld (DrivePaths.assignReplacement front facts io id role newPath skipValidation)
  | .markReplacement id role => do let _ ← inWorld (markDriveQuiescing id role)
  | .confirmReplacement id role => do let _ ← inWorld (confirmDriveFailure id role)
  | .cancelReplacement id role => do let _ ← inWorld (cancelDriveQuiescing id role)
  | .emergencyFailover id => do let _ ← inWorld (DrivePaths.emergencyFailover id)
  | .loadOperationalPair id => do let _ ← inWorld (BitProtector.loadOperationalPair id)
  | .maybeFinalizeRebuild id action => do let _ ← inWorld (maybeFinalizeRebuildForAction id action)
  | .elsewhere change => inWorld (Act.execute (fun db => { change db with drivePairs := db.drivePairs }))

def Registry.onDisk (s : Registry) (disk : Disk) : Registry := { s with world := { s.world with disk } }

/-- A request on the disks as they are then; one that is refused is no step. -/
def step : Disk × Request → Registry → Option Registry
  | (disk,request), s =>
    match request.run (s.onDisk disk) with
    | .ok _ t => some t
    | .error _ _ => none

def machine : Machine Registry (Disk × Request) := ⟨step⟩

def freshRegistry (disk : Disk) : Registry := ⟨⟨Db.empty,disk⟩,fun _ => ""⟩

/-- The row, once changed, has two different paths, and no other pair holds one of them. -/
def Unclaimed (s : Registry) (id : Nat) (change : DrivePair → DrivePair) : Prop :=
  ∀ pair, s.world.db.drivePairs.find? id = some pair →
    Function.Injective (change pair).pathForRole ∧ FreeFor (held s.world.db) id (change pair).pathForRole

/-- An update or a replacement writes paths that nobody holds, and a create that skips the
validation names two different ones. -/
def Careful : Disk × Request → Registry → Prop
  | (_,.createDrivePair _ _ _ _ primary secondary _ _ skipValidation), _ =>
    skipValidation = true → primary ≠ secondary
  | (_,.updateDrivePair _ id _ primary secondary _ _), s => Unclaimed s id (updatedPair primary secondary none none)
  | (_,.assignReplacement _ _ _ id role newPath _), s => Unclaimed s id (fun pair => pair.replaced role newPath)
  | _, _ => True

theorem distinct_iff_unclaimed {s t : Registry} {id : Nat} {change : DrivePair → DrivePair} {pair : DrivePair}
    (distinct : PathsDistinct s) (found : s.world.db.drivePairs.find? id = some pair)
    (after : held t.world.db = Function.update (held s.world.db) id (some (change pair).pathForRole)) :
    PathsDistinct t ↔ Unclaimed s id change := by
  rw [PathsDistinct,after,exclusive_update_iff distinct]
  constructor
  · intro unclaimed other row
    obtain rfl : pair = other := Option.some.inj (found.symm.trans row)
    exact unclaimed
  · exact fun unclaimed => unclaimed pair found

theorem distinct_of_kept {α : Type} {x : Act α} (kept : Keeps PathsKept x) {s t : Registry}
    (distinct : PathsDistinct s) (ran : (do let _ ← inWorld x) s = .ok () t) : PathsDistinct t := by
  obtain ⟨value,u,ok,ends⟩ := bind_success ran
  cases ends
  have same := kept s.world
  rw [after_of_ok (inWorld_success ok)] at same
  unfold PathsDistinct
  rwa [show held t.world.db = held s.world.db from same]

theorem request_ran {disk : Disk} {request : Request} {s t : Registry} (taken : step (disk,request) s = some t) :
    request.run (s.onDisk disk) = .ok () t := by
  unfold step at taken
  dsimp only at taken
  cases ran : request.run (s.onDisk disk) with
  | ok value u =>
    rw [ran] at taken
    cases taken
    rfl
  | error message u =>
    rw [ran] at taken
    cases taken

theorem step_distinct {label : Disk × Request} {s t : Registry} (before : PathsDistinct s)
    (taken : step label s = some t) : PathsDistinct t ↔ Careful label s := by
  obtain ⟨disk,request⟩ := label
  have ran := request_ran taken
  have distinct : PathsDistinct (s.onDisk disk) := before
  cases request with
  | createDrivePair front facts io name primary secondary primaryMediaType secondaryMediaType skipValidation =>
    obtain ⟨pair,u,ok,ends⟩ := bind_success ran
    cases ends
    obtain ⟨validated,free,after⟩ := createDrivePair_success ok
    rw [PathsDistinct,after,exclusive_update_iff distinct,slots_injective]
    constructor
    · exact fun both _ => both.1
    · intro careful
      refine ⟨?_,free⟩
      cases skipValidation with
      | true => exact careful rfl
      | false => exact validated rfl
  | updateDrivePair front id name primary secondary primaryMediaType secondaryMediaType =>
    obtain ⟨updated,u,ok,ends⟩ := bind_success ran
    cases ends
    obtain ⟨pair,found,after⟩ := updateDrivePair_success ok
    exact distinct_iff_unclaimed distinct found after
  | deleteDrivePair id =>
    have after := deleteDrivePair_success (inWorld_success ran)
    refine iff_of_true ?_ trivial
    rw [PathsDistinct,after]
    exact distinct.release id
  | assignReplacement front facts io id role newPath skipValidation =>
    obtain ⟨result,u,ok,ends⟩ := bind_success ran
    cases ends
    obtain ⟨pair,found,after⟩ := assignReplacement_success (inWorld_success ok)
    exact distinct_iff_unclaimed distinct found after
  | markReplacement id role =>
    exact iff_of_true (distinct_of_kept (pathsKept_markDriveQuiescing id role) distinct ran) trivial
  | confirmReplacement id role =>
    exact iff_of_true (distinct_of_kept (pathsKept_confirmDriveFailure id role) distinct ran) trivial
  | cancelReplacement id role =>
    exact iff_of_true (distinct_of_kept (pathsKept_cancelDriveQuiescing id role) distinct ran) trivial
  | emergencyFailover id =>
    refine iff_of_true (distinct_of_kept ?_ distinct ran) trivial
    exact keeps_bind (pathsKept_getPairFor _ _) fun pair => pathsKept_maybeEmergencyFailover pair
  | loadOperationalPair id =>
    refine iff_of_true (distinct_of_kept ?_ distinct ran) trivial
    exact keeps_bind (pathsKept_query _) fun pair => pathsKept_maybeEmergencyFailover pair
  | maybeFinalizeRebuild id action =>
    exact iff_of_true (distinct_of_kept (pathsKept_maybeFinalizeRebuildForAction id action) distinct ran) trivial
  | elsewhere change =>
    refine iff_of_true ?_ trivial
    have kept : Keeps PathsKept (Act.execute fun db => { change db with drivePairs := db.drivePairs }) :=
      pathsKept_execute fun _ => rfl
    exact distinct_of_kept kept distinct ran

/-- From the empty database, as long as updates and replacements write unclaimed paths and no
unvalidated create names one path twice, each path belongs to one slot of one pair; the first
accepted request of the other kind ends this. -/
theorem paths_distinct {disk : Disk} {s : Registry} (reached : machine.Reaches Careful (freshRegistry disk) s) :
    PathsDistinct s ∧ ∀ label t, step label s = some t → (PathsDistinct t ↔ Careful label s) := by
  have distinct : PathsDistinct s := by
    apply reached.invariant
    · exact exclusive_empty
    · exact fun label s t before careful taken => (step_distinct before taken).mpr careful
  exact ⟨distinct,fun label t taken => step_distinct distinct taken⟩

/-! Two pairs, and an update of the second to the first one's path. -/

def noDisk : Disk := ⟨fun _ => none,fun _ => true⟩

def noFacts : PathFacts := ⟨fun _ => true,fun _ => true,some⟩

def createFirst : Disk × Request :=
  (noDisk,.createDrivePair .api noFacts .healthy "first" "/a" "/b" "hdd" "hdd" true)

def createSecond : Disk × Request :=
  (noDisk,.createDrivePair .api noFacts .healthy "second" "/c" "/d" "hdd" "hdd" false)

def updateSecond : Disk × Request := (noDisk,.updateDrivePair .api 2 none (some "/a") none none none)

theorem paths_distinct_two_pairs : ∃ s, machine.exec (freshRegistry noDisk) [createFirst,createSecond] = some s ∧
    PathsDistinct s := by
  obtain ⟨s,first⟩ : ∃ s, machine.step createFirst (freshRegistry noDisk) = some s := ⟨_,rfl⟩
  obtain ⟨t,second⟩ : ∃ t, machine.step createSecond s = some t := by
    cases first
    exact ⟨_,rfl⟩
  refine ⟨t,?_,?_⟩
  · rw [Machine.exec,first,Option.bind_some,Machine.exec,second]
    rfl
  · have apart : Careful createFirst (freshRegistry noDisk) := fun _ => by decide
    have validated : Careful createSecond s := fun skipped => by cases skipped
    exact (paths_distinct (.step createSecond (.step createFirst .start apart first) validated second)).1

theorem update_shares_path :
    ¬ ∀ (disk : Disk) (s : Registry), machine.Reaches (fun _ _ => True) (freshRegistry disk) s → PathsDistinct s := by
  intro distinct
  obtain ⟨s,ran,first,second⟩ : ∃ s,
      machine.exec (freshRegistry noDisk) [createFirst,createSecond,updateSecond] = some s ∧
      held s.world.db 1 = some (createdPair "/a" "/b" .hdd .hdd 1).pathForRole ∧
      held s.world.db 2 = some (createdPair "/a" "/d" .hdd .hdd 2).pathForRole := ⟨_,rfl,rfl,rfl⟩
  have same := distinct noDisk s (Machine.reaches_of_exec ran) 1 2 _ _ first second .primary .primary rfl
  exact absurd same.1 (by decide)

end BitProtector.DrivePaths
