import BitProtector.VirtualPath
import BitProtector.DriveLifecycle

/-! The symlinks of a pair when its active side changes. The refresh that follows the
change maps the rows of every pair with one pair in hand, and nobody sees it fail. -/
namespace BitProtector.VirtualRetarget
open Effect VirtualPath

/-- The program's world and the virtual tree beside it. -/
structure Linked where
  world : World
  links : VirtualTree

abbrev LinkedAct := EStateM String Linked

def inWorld {α : Type} (x : Act α) : LinkedAct α := fun s =>
  match x s.world with
  | .ok value world => .ok value { s with world }
  | .error message world => .error message { s with world }

/-- The map that holds one pair. -/
def onlyPair (pair : DrivePair) : Nat → Option DrivePair := fun id => if id = pair.id then some pair else none

def refreshPairVirtualPaths (calls : LinkCalls) (pair : DrivePair) : LinkedAct Unit := fun s =>
  match refreshAllVirtualPaths calls s.world.db (onlyPair pair) s.links with
  | .ok _ links => .ok () { s with links }
  | .error message links => .error message { s with links }

/-- `let _ = refresh_pair_virtual_paths(..)`. -/
def refreshIgnored (calls : LinkCalls) (pair : DrivePair) : LinkedAct Unit := do
  let _ ← attempt (refreshPairVirtualPaths calls pair)

/-! The calls that may change the active side, with their refresh. -/

def maybeEmergencyFailover (calls : LinkCalls) (pair : DrivePair) : LinkedAct DrivePair := do
  if !(← inWorld (Act.look (fun disk => emergencyFailoverDue disk pair))) then pure pair
  else
    let updated ← inWorld (updateRuntime pair.id none none (forRole pair.activeRole .primary .failed)
      (forRole pair.activeRole .secondary .failed) (some pair.standbyRole))
    inWorld (Act.execute (fun db => db.markDrivePairUnmirrored pair.id))
    inWorld (Act.execute (fun db =>
      db.failPendingSyncQueueForDrivePair pair.id "drive failover required after fatal root error"))
    refreshIgnored calls updated
    inWorld (Act.query (fun db => db.getDrivePair pair.id))

def loadOperationalPair (calls : LinkCalls) (pairId : Nat) : LinkedAct DrivePair := do
  let pair ← inWorld (Act.query (fun db => db.getDrivePair pairId))
  maybeEmergencyFailover calls pair

def confirmDriveFailure (calls : LinkCalls) (pairId : Nat) (role : DriveRole) : LinkedAct DrivePair := do
  let pair ← inWorld (Act.query (fun db => db.getDrivePair pairId))
  let state := (pair.roleState role).asStr
  let side := role.asStr
  inWorld (Act.ensure (pair.roleState role == .quiescing)
    s!"Cannot confirm {side} failure for pair #{pairId} while it is {state}")
  let next := (pair.nextActive role).asStr
  let reachable ← inWorld (Act.look (fun disk => disk.available (pair.pathForRole (pair.nextActive role))))
  inWorld (Act.ensure (!(role == pair.activeRole && !reachable))
    s!"Cannot fail over drive pair #{pairId} because the {next} path is unavailable")
  let updated ← inWorld (updateRuntime pairId none none (forRole role .primary .failed)
    (forRole role .secondary .failed) (some (pair.nextActive role)))
  inWorld (Act.execute (fun db => db.markDrivePairUnmirrored pairId))
  inWorld (Act.execute (fun db =>
    db.failPendingSyncQueueForDrivePair pairId "drive replacement confirmed; rebuild required"))
  refreshIgnored calls updated
  pure updated

def maybeFinalizeRebuildForAction (calls : LinkCalls) (pairId : Nat) (action : SyncAction) :
    LinkedAct (Option DrivePair) := do
  let pair ← inWorld (Act.query (fun db => db.getDrivePair pairId))
  match rebuiltRole action with
  | none => pure none
  | some role =>
    if pair.roleState role ≠ .rebuilding then pure none
    else if !(← inWorld (Act.query (fun db => .ok (rebuildComplete db pairId action)))) then pure none
    else
      let updated ← inWorld (updateRuntime pairId none none (forRole role .primary .active)
        (forRole role .secondary .active) (forRole role .primary .primary))
      inWorld (Act.execute (fun db => db.markDrivePairUnmirrored pairId))
      if updated.roleState .primary = .active ∧ updated.roleState .secondary = .active then
        inWorld (Act.execute (fun db => markAllMirrored db (db.listTrackedFilesOfPair pairId)))
      refreshIgnored calls updated
      pure (some updated)

/-! Without the links they are the calls of the other results. -/

theorem erases_inWorld {α : Type} (x : Act α) : Erases Linked.world (inWorld x) x := by
  intro s
  unfold inWorld
  cases x s.world <;> rfl

/-- What the refresh makes of the links. -/
def afterRefresh (calls : LinkCalls) (pair : DrivePair) (s : Linked) : VirtualTree :=
  after (refreshAllVirtualPaths calls s.world.db (onlyPair pair)) s.links

theorem refreshIgnored_run (calls : LinkCalls) (pair : DrivePair) (s : Linked) :
    refreshIgnored calls pair s = .ok () { s with links := afterRefresh calls pair s } := by
  unfold refreshIgnored afterRefresh after
  rw [bind_apply,attempt,refreshPairVirtualPaths]
  cases refreshAllVirtualPaths calls s.world.db (onlyPair pair) s.links <;> rfl

theorem erases_refresh {β : Type} (calls : LinkCalls) (pair : DrivePair) {f : Unit → LinkedAct β} {y : Act β}
    (rest : ∀ a, Erases Linked.world (f a) y) : Erases Linked.world (refreshIgnored calls pair >>= f) y :=
  erases_bind_silent (fun s => ⟨(),_,refreshIgnored_run calls pair s,rfl⟩) rest

theorem erases_maybeEmergencyFailover (calls : LinkCalls) (pair : DrivePair) :
    Erases Linked.world (maybeEmergencyFailover calls pair) (BitProtector.maybeEmergencyFailover pair) := by
  refine erases_bind (erases_inWorld _) fun due => ?_
  split
  · exact erases_pure _
  · refine erases_bind (erases_inWorld _) fun updated => erases_bind (erases_inWorld _) fun _ => ?_
    exact erases_bind (erases_inWorld _) fun _ => erases_refresh _ _ fun _ => erases_inWorld _

theorem erases_loadOperationalPair (calls : LinkCalls) (pairId : Nat) :
    Erases Linked.world (loadOperationalPair calls pairId) (BitProtector.loadOperationalPair pairId) :=
  erases_bind (erases_inWorld _) fun _ => erases_maybeEmergencyFailover _ _

theorem erases_confirmDriveFailure (calls : LinkCalls) (pairId : Nat) (role : DriveRole) :
    Erases Linked.world (confirmDriveFailure calls pairId role) (BitProtector.confirmDriveFailure pairId role) := by
  refine erases_bind (erases_inWorld _) fun pair => erases_bind (erases_inWorld _) fun _ => ?_
  refine erases_bind (erases_inWorld _) fun reachable => erases_bind (erases_inWorld _) fun _ => ?_
  refine erases_bind (erases_inWorld _) fun updated => erases_bind (erases_inWorld _) fun _ => ?_
  exact erases_bind (erases_inWorld _) fun _ => erases_refresh _ _ fun _ => erases_pure _

theorem erases_maybeFinalizeRebuildForAction (calls : LinkCalls) (pairId : Nat) (action : SyncAction) :
    Erases Linked.world (maybeFinalizeRebuildForAction calls pairId action)
      (BitProtector.maybeFinalizeRebuildForAction pairId action) := by
  refine erases_bind (erases_inWorld _) fun pair => ?_
  cases rebuiltRole action with
  | none => exact erases_pure _
  | some role =>
    dsimp only
    split
    · exact erases_pure _
    · refine erases_bind (erases_inWorld _) fun complete => ?_
      split
      · exact erases_pure _
      · refine erases_bind (erases_inWorld _) fun updated => erases_bind (erases_inWorld _) fun _ => ?_
        split
        · refine erases_bind (erases_inWorld _) fun _ => ?_
          exact erases_refresh _ _ fun _ => erases_pure _
        · exact erases_refresh _ _ fun _ => erases_pure _

/-! The refresh reads the virtual paths alone, and nothing before it changes them. -/

theorem collectVirtualReservations_congr {db other : Db} (same : virtualEntries db = virtualEntries other) :
    collectVirtualReservations db = collectVirtualReservations other := by
  unfold collectVirtualReservations
  rw [same]

theorem refreshMappings_congr {db other : Db} (same : virtualEntries db = virtualEntries other) (calls : LinkCalls)
    (mappings : List VirtualMapping) : refreshMappings calls db mappings = refreshMappings calls other mappings := by
  have validated : validateVirtualPath calls db = validateVirtualPath calls other := by
    funext owner virtualPath tree
    unfold validateVirtualPath
    rw [collectVirtualReservations_congr same]
  induction mappings with
  | nil => rfl
  | cons mapping mappings ih =>
    unfold refreshMappings
    rw [ih]
    unfold refreshMapping
    rw [validated]

theorem refreshAll_congr {db other : Db} (same : virtualEntries db = virtualEntries other) (calls : LinkCalls)
    (drivePairs : Nat → Option DrivePair) :
    refreshAllVirtualPaths calls db drivePairs = refreshAllVirtualPaths calls other drivePairs := by
  unfold refreshAllVirtualPaths collectVirtualMappings
  rw [same]
  simp only [refreshMappings_congr same]

theorem virtualEntries_updateTrackedFiles (db : Db) (p : TrackedFile → Bool) (flag : Bool) :
    virtualEntries { db with
      trackedFiles := db.trackedFiles.updateWhere p (fun file => { file with isMirrored := flag }) (fun _ => rfl) } =
      virtualEntries db := by
  unfold virtualEntries
  congr 1
  change (db.trackedFiles.rows.map _).filterMap fileEntry = _
  rw [List.filterMap_map]
  congr 1
  funext file
  change fileEntry (if p file then { file with isMirrored := flag } else file) = fileEntry file
  split <;> rfl

theorem virtualEntries_markAllMirrored (db : Db) (files : List TrackedFile) :
    virtualEntries (markAllMirrored db files) = virtualEntries db := by
  induction files generalizing db with
  | nil => rfl
  | cons file files ih => exact (ih _).trans (virtualEntries_updateTrackedFiles db _ true)

theorem inWorld_success {α : Type} {x : Act α} {value : α} {s t : Linked} (ok : inWorld x s = .ok value t) :
    x s.world = .ok value t.world ∧ t.links = s.links := by
  unfold inWorld at ok
  cases ran : x s.world with
  | ok other u =>
    rw [ran] at ok
    cases ok
    exact ⟨rfl,rfl⟩
  | error message u =>
    rw [ran] at ok
    cases ok

theorem inWorld_still {α : Type} {x : Act α} {value : α} {s t : Linked} (ok : inWorld x s = .ok value t)
    (still : t.world = s.world) : t = s := by
  have links := (inWorld_success ok).2
  cases s
  cases t
  simp only [Linked.mk.injEq] at *
  exact ⟨still,links⟩

theorem query_still {α : Type} {read : Db → Except String α} {value : α} {s t : Linked}
    (ok : inWorld (Act.query read) s = .ok value t) : t = s :=
  inWorld_still ok (Act.query_success (inWorld_success ok).1).2

/-- The row was written and the links refreshed from it. -/
def Refreshed (calls : LinkCalls) (pairId : Nat) (s t : Linked) : Prop :=
  ∃ updated, t.world.db.drivePairs.find? pairId = some updated ∧
    t.links = after (refreshAllVirtualPaths calls s.world.db (onlyPair updated)) s.links

/-- Statements that touch neither the rows of the pairs nor a virtual path, between the write and the refresh. -/
structure Between (s t : Linked) : Prop where
  pairs : t.world.db.drivePairs = s.world.db.drivePairs
  entries : virtualEntries t.world.db = virtualEntries s.world.db
  links : t.links = s.links

theorem Between.trans {s t u : Linked} (first : Between s t) (second : Between t u) : Between s u :=
  ⟨second.pairs.trans first.pairs,second.entries.trans first.entries,second.links.trans first.links⟩

theorem between_execute {update : Db → Db} {s t : Linked} (ok : inWorld (Act.execute update) s = .ok () t)
    (pairs : (update s.world.db).drivePairs = s.world.db.drivePairs)
    (entries : virtualEntries (update s.world.db) = virtualEntries s.world.db) : Between s t := by
  obtain ⟨ran,links⟩ := inWorld_success ok
  rw [Act.execute_apply] at ran
  injection ran with _ world
  exact ⟨by rw [← world,pairs],by rw [← world,entries],links⟩

theorem refreshed_of_parts {calls : LinkCalls} {pairId : Nat} {pp sp ps ss active} {updated : DrivePair}
    {s written before : Linked}
    (wrote : inWorld (updateRuntime pairId pp sp ps ss active) s = .ok updated written) (between : Between written before)
    (t : Linked) (world : t.world = before.world) (links : t.links = afterRefresh calls updated before) :
    Refreshed calls pairId s t := by
  obtain ⟨ran,kept⟩ := inWorld_success wrote
  obtain ⟨_,u,executed,read⟩ := bind_success ran
  obtain ⟨row,same⟩ := query_getDrivePair read
  injection executed with _ after
  have entries : virtualEntries before.world.db = virtualEntries s.world.db := by
    rw [between.entries,same,← after]
    rfl
  refine ⟨updated,?_,?_⟩
  · rw [world,between.pairs,same]
    exact row
  · rw [links,afterRefresh,refreshAll_congr entries,between.links,kept]

theorem loadOperationalPair_links {calls : LinkCalls} {pairId : Nat} {now : DrivePair} {s t : Linked}
    (ok : loadOperationalPair calls pairId s = .ok now t) : t = s ∨ Refreshed calls pairId s t := by
  obtain ⟨pair,u,read,fails⟩ := bind_success ok
  have found := (query_getDrivePair (inWorld_success read).1).1
  obtain rfl := query_still read
  have same : pair.id = pairId := Table.find?_key found
  subst same
  obtain ⟨due,v,looked,rest⟩ := bind_success fails
  obtain rfl := inWorld_still looked (Act.look_success (inWorld_success looked).1).2
  cases due with
  | false =>
    cases rest
    exact .inl rfl
  | true =>
    obtain ⟨updated,w,wrote,marks⟩ := bind_success rest
    obtain ⟨_,x,marked,clears⟩ := bind_success marks
    obtain ⟨_,y,failed,refreshes⟩ := bind_success clears
    rw [bind_of_ok (refreshIgnored_run calls updated y)] at refreshes
    obtain ⟨rereads,links⟩ := inWorld_success refreshes
    have world := (query_getDrivePair rereads).2
    have between := (between_execute marked rfl (virtualEntries_updateTrackedFiles _ _ false)).trans
      (between_execute failed rfl rfl)
    exact .inr (refreshed_of_parts wrote between t world links)

theorem confirmDriveFailure_links {calls : LinkCalls} {pairId : Nat} {role : DriveRole} {now : DrivePair} {s t : Linked}
    (ok : confirmDriveFailure calls pairId role s = .ok now t) : Refreshed calls pairId s t := by
  obtain ⟨pair,u,read,guarded⟩ := bind_success ok
  obtain ⟨_,v,ensured,looks⟩ := bind_success guarded
  obtain ⟨reachable,w,looked,reaches⟩ := bind_success looks
  obtain ⟨_,x,allowed,writes⟩ := bind_success reaches
  have reading := query_still read
  have ensuring := inWorld_still ensured (Act.ensure_success (inWorld_success ensured).1).2
  have looking := inWorld_still looked (Act.look_success (inWorld_success looked).1).2
  have allowing := inWorld_still allowed (Act.ensure_success (inWorld_success allowed).1).2
  subst allowing looking ensuring reading
  obtain ⟨updated,y,wrote,marks⟩ := bind_success writes
  obtain ⟨_,z,marked,clears⟩ := bind_success marks
  obtain ⟨_,q,failed,refreshes⟩ := bind_success clears
  rw [bind_of_ok (refreshIgnored_run calls updated q)] at refreshes
  cases refreshes
  have between := (between_execute marked rfl (virtualEntries_updateTrackedFiles _ _ false)).trans
    (between_execute failed rfl rfl)
  exact refreshed_of_parts wrote between _ rfl rfl

theorem maybeFinalizeRebuildForAction_links {calls : LinkCalls} {pairId : Nat} {action : SyncAction}
    {now : Option DrivePair} {s t : Linked} (ok : maybeFinalizeRebuildForAction calls pairId action s = .ok now t) :
    t = s ∨ Refreshed calls pairId s t := by
  obtain ⟨pair,u,read,rest⟩ := bind_success ok
  obtain rfl := query_still read
  cases role : rebuiltRole action with
  | none =>
    rw [role] at rest
    cases rest
    exact .inl rfl
  | some role =>
    rw [role] at rest
    dsimp only at rest
    split at rest
    · cases rest
      exact .inl rfl
    · obtain ⟨complete,v,counted,ends⟩ := bind_success rest
      obtain rfl := query_still counted
      split at ends
      · cases ends
        exact .inl rfl
      · obtain ⟨updated,w,wrote,marks⟩ := bind_success ends
        obtain ⟨_,x,marked,flags⟩ := bind_success marks
        have first := between_execute marked rfl (virtualEntries_updateTrackedFiles _ _ false)
        split at flags
        · obtain ⟨_,y,flagged,refreshes⟩ := bind_success flags
          rw [bind_of_ok (refreshIgnored_run calls updated y)] at refreshes
          cases refreshes
          have second := between_execute flagged (setsFlags_markAllMirrored _ _).2 (virtualEntries_markAllMirrored _ _)
          exact .inr (refreshed_of_parts wrote (first.trans second) _ rfl rfl)
        · rw [bind_of_ok (refreshIgnored_run calls updated x)] at flags
          cases flags
          exact .inr (refreshed_of_parts wrote first _ rfl rfl)

/-! Which links are retargeted. -/

inductive Switch
  | emergencyFailover
  | confirmDriveFailure (role : DriveRole)
  | maybeFinalizeRebuild (action : SyncAction)

def Switch.run (calls : LinkCalls) (pairId : Nat) : Switch → LinkedAct Unit
  | .emergencyFailover => do let _ ← loadOperationalPair calls pairId
  | .confirmDriveFailure role => do let _ ← VirtualRetarget.confirmDriveFailure calls pairId role
  | .maybeFinalizeRebuild action => do let _ ← maybeFinalizeRebuildForAction calls pairId action

/-- The program's symlink at the virtual path of a row. -/
structure Managed (s : Linked) (entry : VirtualEntry) (path : String) (target : Location) : Prop where
  listed : entry ∈ virtualEntries s.world.db
  normal : normalizeVirtualPath entry.virtualPath = .ok path
  link : s.links (linkKey path) = some (.symlink target)

/-- Every managed link of the pair points at its file or folder on the active side. -/
def Retargeted (s t : Linked) (pair : DrivePair) : Prop :=
  ∀ entry path target, Managed s entry path target → entry.drivePairId = pair.id →
    t.links (linkKey path) = some (.symlink (realPath pair entry))

def OthersKept (s t : Linked) (pairId : Nat) : Prop :=
  ∀ entry path target, Managed s entry path target → entry.drivePairId ≠ pairId →
    t.links (linkKey path) = s.links (linkKey path)

/-- No row of another pair has a virtual path, and every stored path has a normal form. -/
def Alone (db : Db) (pairId : Nat) : Prop :=
  ∀ entry ∈ virtualEntries db, entry.drivePairId = pairId ∧ ∃ path, normalizeVirtualPath entry.virtualPath = .ok path

/-- The refresh comes to the link, finds it in order and can take the old one away. -/
structure Reached (calls : LinkCalls) (s : Linked) (pairId : Nat) (entry : VirtualEntry) (path : String) : Prop where
  alone : Alone s.world.db pairId
  valid : ∃ normalized, validateVirtualPath calls s.world.db entry.owner path s.links = .ok normalized
  parents : calls.createDirAll path = true
  metadata : calls.symlinkMetadata path = true
  removes : calls.removeFile path = true

/-- Each link of the pair is reached and set anew; one that is not reached points at the other side already. -/
def Retargetable (calls : LinkCalls) (s : Linked) (pair : DrivePair) : Prop :=
  ∀ entry path target, Managed s entry path target → entry.drivePairId = pair.id →
    (Reached calls s pair.id entry path → calls.symlink path = true) ∧
      (¬Reached calls s pair.id entry path → target = pair.copyOn pair.standbyRole entry.relativePath)

theorem collects_onlyPair {db : Db} {pair : DrivePair} : Collects db (onlyPair pair) ↔ Alone db pair.id := by
  refine forall_congr' fun entry => forall_congr' fun _ => and_congr_left fun _ => ?_
  unfold onlyPair
  constructor
  · rintro ⟨found,known⟩
    split at known
    · assumption
    · cases known
  · intro same
    exact ⟨pair,if_pos same⟩

theorem link_refreshed {calls : LinkCalls} {s t : Linked} {pair : DrivePair} {entry : VirtualEntry} {path : String}
    {target : Location} (stored : Stored s.world.db)
    (links : t.links = after (refreshAllVirtualPaths calls s.world.db (onlyPair pair)) s.links)
    (managed : Managed s entry path target) (own : entry.drivePairId = pair.id) :
    (Reached calls s pair.id entry path →
      t.links (linkKey path) = if calls.symlink path then some (.symlink (realPath pair entry)) else none) ∧
    (¬Reached calls s pair.id entry path → t.links (linkKey path) = some (.symlink target)) := by
  have known : onlyPair pair entry.drivePairId = some pair := if_pos own
  have at_link (alone : Alone s.world.db pair.id) : t.links (linkKey path) =
      refreshed calls s.world.db ⟨entry.owner,path,realPath pair entry⟩ s.links (linkKey path) := by
    rw [links]
    exact refreshAll_at stored (collects_onlyPair.mpr alone) managed.listed known managed.normal s.links
  constructor
  · intro reached
    obtain ⟨normalized,valid⟩ := reached.valid
    rw [at_link reached.alone,refreshed]
    dsimp only
    rw [valid]
    dsimp only
    rw [createSymlink_at,managed.link,relinked,reached.parents,reached.metadata,reached.removes]
    rfl
  · intro missed
    by_cases alone : Alone s.world.db pair.id
    · rw [at_link alone,refreshed]
      dsimp only
      cases valid : validateVirtualPath calls s.world.db entry.owner path s.links with
      | error message => exact managed.link
      | ok normalized =>
        have fails : ¬(calls.createDirAll path && calls.symlinkMetadata path && calls.removeFile path) = true := by
          intro all
          simp only [Bool.and_eq_true] at all
          exact missed ⟨alone,⟨normalized,valid⟩,all.1.1,all.1.2,all.2⟩
        dsimp only
        rw [createSymlink_at,managed.link,relinked,if_neg fails]
    · rw [links,refreshAll_fails (mt collects_onlyPair.mp alone)]
      exact managed.link

theorem others_kept {calls : LinkCalls} {s t : Linked} {pair : DrivePair}
    (links : t.links = after (refreshAllVirtualPaths calls s.world.db (onlyPair pair)) s.links) :
    OthersKept s t pair.id := by
  intro entry path target managed other
  have fails : ¬Collects s.world.db (onlyPair pair) :=
    fun collects => other (collects_onlyPair.mp collects entry managed.listed).1
  rw [links,refreshAll_fails fails]

theorem switch_row {calls : LinkCalls} {pairId : Nat} {switch : Switch} {s t : Linked}
    (ran : switch.run calls pairId s = .ok () t) {old new : DrivePair}
    (before : s.world.db.drivePairs.find? pairId = some old) (after : t.world.db.drivePairs.find? pairId = some new) :
    new.id = old.id ∧ ∀ role, new.pathForRole role = old.pathForRole role := by
  have withRuntime (pair : DrivePair) (ps ss active) : (pair.withRuntime none none ps ss active).id = pair.id ∧
      ∀ role, (pair.withRuntime none none ps ss active).pathForRole role = pair.pathForRole role :=
    ⟨rfl,fun role => by cases role <;> rfl⟩
  cases switch with
  | emergencyFailover =>
    obtain ⟨now,u,ok,ends⟩ := bind_success ran
    cases ends
    obtain ⟨pair,read,_,world⟩ := loadOperationalPair_success ((erases_loadOperationalPair calls pairId).ok ok)
    obtain rfl : old = pair := Option.some.inj (before.symm.trans (Db.getDrivePair_ok.mp read))
    rw [world,find?_operational read] at after
    cases after
    unfold DrivePair.operational
    split
    · exact withRuntime old _ _ _
    · exact ⟨rfl,fun _ => rfl⟩
  | confirmDriveFailure role =>
    obtain ⟨now,u,ok,ends⟩ := bind_success ran
    cases ends
    obtain ⟨pair,_,found,changed⟩ := confirmDriveFailure_ok ((erases_confirmDriveFailure calls pairId role).ok ok)
    obtain rfl : old = pair := Option.some.inj (before.symm.trans found)
    rw [changed] at after
    cases after
    exact withRuntime old _ _ _
  | maybeFinalizeRebuild action =>
    obtain ⟨now,u,ok,ends⟩ := bind_success ran
    cases ends
    obtain ⟨pair,found,changed⟩ :=
      maybeFinalizeRebuildForAction_ok ((erases_maybeFinalizeRebuildForAction calls pairId action).ok ok)
    obtain rfl : old = pair := Option.some.inj (before.symm.trans found)
    rw [changed] at after
    cases after
    cases rebuildFinishes s.world.db old action with
    | none => exact ⟨rfl,fun _ => rfl⟩
    | some role => exact withRuntime old _ _ _

theorem switch_links {calls : LinkCalls} {pairId : Nat} {switch : Switch} {s t : Linked}
    (ran : switch.run calls pairId s = .ok () t) : t = s ∨ Refreshed calls pairId s t := by
  cases switch with
  | emergencyFailover =>
    obtain ⟨now,u,ok,ends⟩ := bind_success ran
    cases ends
    exact loadOperationalPair_links ok
  | confirmDriveFailure role =>
    obtain ⟨now,u,ok,ends⟩ := bind_success ran
    cases ends
    exact .inr (confirmDriveFailure_links ok)
  | maybeFinalizeRebuild action =>
    obtain ⟨now,u,ok,ends⟩ := bind_success ran
    cases ends
    exact maybeFinalizeRebuildForAction_links ok

/-- A change of the active side retargets the pair's links, and leaves those of other pairs, exactly
when every link of the pair is reached and set, or pointed at the new side before. -/
theorem retargeted_iff {calls : LinkCalls} {pairId : Nat} {switch : Switch} {s t : Linked}
    (stored : Stored s.world.db) (ran : switch.run calls pairId s = .ok () t) {old new : DrivePair}
    (before : s.world.db.drivePairs.find? pairId = some old) (after : t.world.db.drivePairs.find? pairId = some new)
    (changed : new.activeRole ≠ old.activeRole) :
    (Retargeted s t new ∧ OthersKept s t pairId) ↔ Retargetable calls s old := by
  obtain ⟨sameId,samePaths⟩ := switch_row ran before after
  have key : old.id = pairId := Table.find?_key before
  have real (entry : VirtualEntry) : realPath new entry = old.copyOn old.standbyRole entry.relativePath := by
    have role : new.activeRole = old.standbyRole := (old.activeRole.eq_or_opposite new.activeRole).resolve_left changed
    rw [realPath,DrivePair.copyOn,samePaths,role]
    rfl
  rcases switch_links ran with same | ⟨updated,row,links⟩
  · rw [same,before] at after
    cases after
    exact absurd rfl changed
  obtain rfl : new = updated := Option.some.inj (after.symm.trans row)
  constructor
  · rintro ⟨retargeted,_⟩ entry path target managed own
    have ownNew : entry.drivePairId = new.id := own.trans sameId.symm
    have link := link_refreshed stored links managed ownNew
    rw [retargeted entry path target managed ownNew,sameId,real] at link
    refine ⟨fun reached => ?_,fun missed => ?_⟩
    · by_contra fails
      have lost := link.1 reached
      rw [if_neg fails] at lost
      cases lost
    · exact (LinkNode.symlink.inj (Option.some.inj (link.2 missed))).symm
  · intro retargetable
    refine ⟨fun entry path target managed own => ?_,?_⟩
    · obtain ⟨reached,missed⟩ := retargetable entry path target managed (own.trans sameId)
      have link := link_refreshed stored links managed own
      rw [sameId] at link
      by_cases comes : Reached calls s old.id entry path
      · rw [link.1 comes,if_pos (reached comes)]
      · rw [link.2 comes,real,missed comes]
    · rw [← key,← sameId]
      exact others_kept links

/-! One pair with a link, and the same beside a second pair that has one too. -/

def firstPair (id : Nat) : DrivePair := ⟨id,"/p1","/p2",.active,.active,.primary,.hdd,.hdd⟩

def secondPair (id : Nat) : DrivePair := ⟨id,"/q1","/q2",.active,.active,.primary,.hdd,.hdd⟩

def firstFile (id : Nat) : TrackedFile := ⟨id,1,"a","",0,some "/v/a",true,true,false,none⟩

def secondFile (id : Nat) : TrackedFile := ⟨id,2,"b","",0,some "/v/b",true,true,false,none⟩

def onePairFiles : Table TrackedFile := Table.empty.insert firstFile (fun _ => rfl)

def twoPairFiles : Table TrackedFile := onePairFiles.insert secondFile (fun _ => rfl)

def linkTree : VirtualTree := fun key =>
  if key = linkKey "/v/a" then some (.symlink ⟨"/p1","a"⟩)
  else if key = linkKey "/v/b" then some (.symlink ⟨"/q1","b"⟩)
  else none

/-- The active root of the first pair is gone. -/
def lostRoot (files : Table TrackedFile) : Linked where
  world := ⟨{ Db.empty with
      drivePairs := (Table.empty.insert firstPair (fun _ => rfl)).insert secondPair (fun _ => rfl)
      trackedFiles := files },⟨fun _ => none,fun root => root != "/p1"⟩⟩
  links := linkTree

def failedOverPair : DrivePair := ⟨1,"/p1","/p2",.failed,.active,.secondary,.hdd,.hdd⟩

def firstEntry : VirtualEntry := ⟨.file 1,1,"/v/a","a"⟩

def secondEntry : VirtualEntry := ⟨.file 2,2,"/v/b","b"⟩

theorem oneLink_entries : virtualEntries (lostRoot onePairFiles).world.db = [firstEntry] := rfl

theorem oneLink_stored : Stored (lostRoot onePairFiles).world.db := by
  intro entry listed
  rw [oneLink_entries,List.mem_singleton] at listed
  subst listed
  exact ⟨"/v/a",rfl⟩

theorem oneLink_reached : Reached .healthy (lostRoot onePairFiles) 1 firstEntry "/v/a" := by
  refine ⟨fun entry listed => ?_,⟨"/v/a",rfl⟩,rfl,rfl,rfl⟩
  rw [oneLink_entries,List.mem_singleton] at listed
  subst listed
  exact ⟨rfl,"/v/a",rfl⟩

theorem retargeted_iff_oneLink : ∃ t, Switch.emergencyFailover.run .healthy 1 (lostRoot onePairFiles) = .ok () t ∧
    Retargeted (lostRoot onePairFiles) t failedOverPair := by
  obtain ⟨t,ran,row⟩ : ∃ t, Switch.emergencyFailover.run .healthy 1 (lostRoot onePairFiles) = .ok () t ∧
      t.world.db.drivePairs.find? 1 = some failedOverPair := ⟨_,rfl,rfl⟩
  have before : (lostRoot onePairFiles).world.db.drivePairs.find? 1 = some (firstPair 1) := rfl
  refine ⟨t,ran,((retargeted_iff oneLink_stored ran before row (by decide)).mpr ?_).1⟩
  intro entry path target managed _
  have listed := managed.listed
  rw [oneLink_entries,List.mem_singleton] at listed
  subst listed
  obtain rfl : "/v/a" = path := Except.ok.inj managed.normal
  exact ⟨fun _ => rfl,fun missed => absurd oneLink_reached missed⟩

theorem second_pair_blocks_refresh :
    ¬ ∀ (pairId : Nat) (switch : Switch) (s t : Linked) (old new : DrivePair), Stored s.world.db →
      switch.run .healthy pairId s = .ok () t → s.world.db.drivePairs.find? pairId = some old →
      t.world.db.drivePairs.find? pairId = some new → new.activeRole ≠ old.activeRole →
      Retargeted s t new ∧ OthersKept s t pairId := by
  intro retargets
  have stored : Stored (lostRoot twoPairFiles).world.db := by
    intro entry listed
    have cases : entry ∈ [firstEntry,secondEntry] := listed
    rcases List.mem_pair.mp cases with rfl | rfl
    · exact ⟨"/v/a",rfl⟩
    · exact ⟨"/v/b",rfl⟩
  obtain ⟨t,ran,row,link⟩ : ∃ t, Switch.emergencyFailover.run .healthy 1 (lostRoot twoPairFiles) = .ok () t ∧
      t.world.db.drivePairs.find? 1 = some failedOverPair ∧
      t.links (linkKey "/v/a") = some (.symlink ⟨"/p1","a"⟩) := ⟨_,rfl,rfl,rfl⟩
  have both := retargets 1 .emergencyFailover _ t (firstPair 1) failedOverPair stored ran rfl row (by decide)
  have moved := both.1 firstEntry "/v/a" ⟨"/p1","a"⟩ ⟨List.mem_cons_self,rfl,rfl⟩ rfl
  rw [link] at moved
  exact absurd moved (by decide)

end BitProtector.VirtualRetarget
