import BitProtector.Drive
import BitProtector.Foundation.Machine

/-! The life of one drive pair under any sequence of accepted calls, with any path
available at any time. The active role stays sound as long as nobody confirms the
failure of the active side while the other side is failed or rebuilding. -/
namespace BitProtector
open Effect

/-- What the row of a pair is after a state of one side was written. -/
def DrivePair.withState (pair : DrivePair) (role : DriveRole) (state : DriveState) (active : Option DriveRole) : DrivePair :=
  pair.withRuntime none none (forRole role .primary state) (forRole role .secondary state) active

namespace DrivePair

@[simp] theorem withState_same (pair : DrivePair) (role : DriveRole) (state : DriveState) (active : Option DriveRole) :
    (pair.withState role state active).roleState role = state := by
  cases role <;> rfl

@[simp] theorem withState_opposite (pair : DrivePair) (role : DriveRole) (state : DriveState)
    (active : Option DriveRole) : (pair.withState role state active).roleState role.opposite = pair.roleState role.opposite := by
  cases role <;> rfl

@[simp] theorem withState_activeRole (pair : DrivePair) (role : DriveRole) (state : DriveState)
    (active : Option DriveRole) : (pair.withState role state active).activeRole = active.getD pair.activeRole := rfl

end DrivePair

/-! One lemma a call: which row it found, what it checked and what it left. -/

/-- The row of the pair went from `pair` to `next`. -/
def RowChanged (pairId : Nat) (w t : World) (pair next : DrivePair) : Prop :=
  w.db.drivePairs.find? pairId = some pair ∧ t.db.drivePairs.find? pairId = some next

theorem updateRuntime_ok {id : Nat} {updated : DrivePair} {w t : World} {pp sp ps ss active}
    (ok : updateRuntime id pp sp ps ss active w = .ok updated t) :
    ∃ pair, RowChanged id w t pair (pair.withRuntime pp sp ps ss active) ∧
      t = { w with db := w.db.updateDrivePairRuntime id pp sp ps ss active } := by
  obtain ⟨_,u,executed,read⟩ := bind_success ok
  cases executed
  obtain ⟨there,rfl⟩ := Act.query_success read
  have row := Db.getDrivePair_ok.mp there
  cases found : w.db.drivePairs.find? id with
  | none =>
    simp [Db.updateDrivePairRuntime,Table.find?_updateWhere,found] at row
  | some pair => exact ⟨pair,⟨found,find?_updateDrivePairRuntime found _ _ _ _ _⟩,rfl⟩

theorem query_getDrivePair {pairId : Nat} {pair : DrivePair} {w t : World}
    (ok : Act.query (fun db => db.getDrivePair pairId) w = .ok pair t) :
    w.db.drivePairs.find? pairId = some pair ∧ t = w := by
  obtain ⟨read,same⟩ := Act.query_success ok
  exact ⟨Db.getDrivePair_ok.mp read,same⟩

theorem RowChanged.of_read {pairId : Nat} {updated pair : DrivePair} {w t : World} {pp sp ps ss active}
    (found : w.db.drivePairs.find? pairId = some pair) (ok : updateRuntime pairId pp sp ps ss active w = .ok updated t) :
    RowChanged pairId w t pair (pair.withRuntime pp sp ps ss active) := by
  obtain ⟨row,changed,_⟩ := updateRuntime_ok ok
  obtain rfl : row = pair := Option.some.inj (changed.1.symm.trans found)
  exact changed

theorem markDriveQuiescing_ok {pairId : Nat} {role : DriveRole} {updated : DrivePair} {w t : World}
    (ok : markDriveQuiescing pairId role w = .ok updated t) :
    ∃ pair, pair.roleState role = .active ∧ RowChanged pairId w t pair (pair.withState role .quiescing none) := by
  obtain ⟨pair,u,read,guarded⟩ := bind_success ok
  obtain ⟨found,same⟩ := query_getDrivePair read
  obtain ⟨_,v,ensured,written⟩ := bind_success guarded
  obtain ⟨state,still⟩ := Act.ensure_success ensured
  subst still same
  exact ⟨pair,by simpa using state,.of_read found written⟩

theorem cancelDriveQuiescing_ok {pairId : Nat} {role : DriveRole} {updated : DrivePair} {w t : World}
    (ok : cancelDriveQuiescing pairId role w = .ok updated t) :
    ∃ pair, pair.roleState role = .quiescing ∧ RowChanged pairId w t pair (pair.withState role .active none) := by
  obtain ⟨pair,u,read,guarded⟩ := bind_success ok
  obtain ⟨found,same⟩ := query_getDrivePair read
  obtain ⟨_,v,ensured,written⟩ := bind_success guarded
  obtain ⟨state,still⟩ := Act.ensure_success ensured
  subst still same
  exact ⟨pair,by simpa using state,.of_read found written⟩

theorem confirmDriveFailure_ok {pairId : Nat} {role : DriveRole} {updated : DrivePair} {w t : World}
    (ok : confirmDriveFailure pairId role w = .ok updated t) :
    ∃ pair, pair.roleState role = .quiescing ∧
      RowChanged pairId w t pair (pair.withState role .failed (some (pair.nextActive role))) := by
  obtain ⟨pair,u,read,guarded⟩ := bind_success ok
  obtain ⟨found,same⟩ := query_getDrivePair read
  obtain ⟨_,v,ensured,looks⟩ := bind_success guarded
  obtain ⟨state,still⟩ := Act.ensure_success ensured
  obtain ⟨reachable,x,looked,reaches⟩ := bind_success looks
  obtain ⟨_,looking⟩ := Act.look_success looked
  obtain ⟨_,y,ensured,writes⟩ := bind_success reaches
  obtain ⟨_,ensuring⟩ := Act.ensure_success ensured
  obtain ⟨row,z,written,clears⟩ := bind_success writes
  subst ensuring looking still same
  have changed := RowChanged.of_read found written
  -- The flags and the queue come after; the row is not touched again.
  cases clears
  exact ⟨pair,by simpa using state,changed⟩

/-- The rows of `drive_pairs` stay as they are. -/
def PairsKept (w t : World) : Prop := t.db.drivePairs = w.db.drivePairs

instance : IsPreorder World PairsKept where
  refl _ := rfl
  trans _ _ _ first second := Eq.trans second first

theorem pairsKept_queueRebuild (action : SyncAction) (files : List TrackedFile) :
    Keeps PairsKept (queueRebuild action files) := by
  induction files with
  | nil => exact keeps_pure _
  | cons file files ih =>
    refine keeps_bind (fun w => ?_) fun created => keeps_bind ih fun _ => keeps_pure _
    exact (w.db.createSyncQueueItemDedupWithCreated_frame file.id action none none).1

/-- The row of a pair whose failed side was replaced. -/
def DrivePair.replaced (pair : DrivePair) (role : DriveRole) (newPath : String) : DrivePair :=
  pair.withRuntime (forRole role .primary newPath) (forRole role .secondary newPath)
    (forRole role .primary .rebuilding) (forRole role .secondary .rebuilding) none

theorem assignReplacementDrive_ok {io : Io} {pairId : Nat} {role : DriveRole} {newPath : String}
    {result : DrivePair × Nat} {w t : World} (ok : assignReplacementDrive io pairId role newPath w = .ok result t) :
    ∃ pair, pair.roleState role = .failed ∧ RowChanged pairId w t pair (pair.replaced role newPath) := by
  obtain ⟨pair,u,read,guarded⟩ := bind_success ok
  obtain ⟨found,same⟩ := query_getDrivePair read
  obtain ⟨_,v,ensured,marks⟩ := bind_success guarded
  obtain ⟨state,still⟩ := Act.ensure_success ensured
  obtain ⟨_,x,marked,writes⟩ := bind_success marks
  obtain ⟨row,y,written,lists⟩ := bind_success writes
  obtain ⟨files,z,listed,queues⟩ := bind_success lists
  obtain ⟨queued,q,ran,ends⟩ := bind_success queues
  subst still same
  have untouched : x.db = v.db := by
    have kept := dbKept_ensureDriveRootMarker io newPath v
    rwa [after_of_ok marked] at kept
  have changed := RowChanged.of_read (by rw [untouched]; exact found) written
  have kept := pairsKept_queueRebuild (rebuildActionForRole role) files z
  rw [after_of_ok ran] at kept
  have listing := (Act.query_success listed).2
  subst listing
  cases ends
  refine ⟨pair,by simpa using state,found,?_⟩
  rw [show t.db.drivePairs = z.db.drivePairs from kept]
  exact changed.2

theorem find?_finalized {db : Db} {pair : DrivePair} (action : SyncAction)
    (found : db.drivePairs.find? pair.id = some pair) : (db.finalized pair action).drivePairs.find? pair.id =
      some (((rebuildFinishes db pair action).map pair.rebuilt).getD pair) := by
  unfold Db.finalized
  cases rebuildFinishes db pair action with
  | none => exact found
  | some role =>
    have row := find?_rebuilt found role
    dsimp only
    split
    · exact row
    · rw [(setsFlags_markAllMirrored _ _).2]
      exact row

theorem maybeFinalizeRebuildForAction_ok {pairId : Nat} {action : SyncAction} {result : Option DrivePair} {w t : World}
    (ok : maybeFinalizeRebuildForAction pairId action w = .ok result t) :
    ∃ pair, RowChanged pairId w t pair (((rebuildFinishes w.db pair action).map pair.rebuilt).getD pair) := by
  obtain ⟨pair,u,read,_⟩ := bind_success ok
  obtain ⟨found,_⟩ := query_getDrivePair read
  have same : pair.id = pairId := Table.find?_key found
  subst same
  have after := maybeFinalizeRebuildForAction_after action found
  rw [after_of_ok ok] at after
  rw [after]
  exact ⟨pair,found,find?_finalized action found⟩

/-! Runs of calls. -/

namespace DriveLifecycle

inductive Call
  | markDriveQuiescing (role : DriveRole)
  | cancelDriveQuiescing (role : DriveRole)
  | confirmDriveFailure (role : DriveRole)
  | assignReplacementDrive (io : Io) (role : DriveRole) (newPath : String)
  | maybeFinalizeRebuild (action : SyncAction)
  | maybeEmergencyFailover
  /-- The queue between the calls: its counts may be anything. -/
  | updateSyncQueueStatus (itemId : Nat) (status : SyncStatus) (errorMessage : Option String)

def Call.run (pairId : Nat) : Call → Act Unit
  | .markDriveQuiescing role => do let _ ← BitProtector.markDriveQuiescing pairId role
  | .cancelDriveQuiescing role => do let _ ← BitProtector.cancelDriveQuiescing pairId role
  | .confirmDriveFailure role => do let _ ← BitProtector.confirmDriveFailure pairId role
  | .assignReplacementDrive io role newPath => do let _ ← BitProtector.assignReplacementDrive io pairId role newPath
  | .maybeFinalizeRebuild action => do let _ ← maybeFinalizeRebuildForAction pairId action
  | .maybeEmergencyFailover => do let _ ← loadOperationalPair pairId
  | .updateSyncQueueStatus itemId status errorMessage =>
    Act.execute (fun db => db.updateSyncQueueStatus itemId status errorMessage)

/-- A call on the disk as it is then; one that the code refuses is no step. -/
def step (pairId : Nat) : Disk × Call → World → Option World
  | (disk,call), w =>
    match call.run pairId { w with disk } with
    | .ok _ t => some t
    | .error _ _ => none

def machine (pairId : Nat) : Machine World (Disk × Call) := ⟨step pairId⟩

def Usable (state : DriveState) : Prop := state = .active ∨ state = .quiescing

structure ActiveSound (pair : DrivePair) : Prop where
  usable : Usable (pair.roleState pair.activeRole)
  not_both : ¬(pair.roleState .primary = .failed ∧ pair.roleState .secondary = .failed)

def Sound (pairId : Nat) (w : World) : Prop :=
  ∀ pair, w.db.drivePairs.find? pairId = some pair → ActiveSound pair

/-- The active side is not confirmed as failed while the other one is of no use. -/
def Careful (pairId : Nat) : Disk × Call → World → Prop
  | (_,.confirmDriveFailure role), w => ∀ pair, w.db.drivePairs.find? pairId = some pair → pair.activeRole = role →
      Usable (pair.roleState role.opposite)
  | _, _ => True

theorem activeSound_of_usable {pair : DrivePair} (usable : Usable (pair.roleState pair.activeRole)) : ActiveSound pair := by
  refine ⟨usable,fun both => ?_⟩
  have failed : pair.roleState pair.activeRole = .failed := by
    cases pair.activeRole
    · exact both.1
    · exact both.2
  rw [failed] at usable
  rcases usable with active | quiescing
  · cases active
  · cases quiescing

theorem activeSound_withState {pair : DrivePair} {role : DriveRole} {state : DriveState} (sound : ActiveSound pair)
    (usable : Usable state) : ActiveSound (pair.withState role state none) := by
  apply activeSound_of_usable
  rw [DrivePair.withState_activeRole,Option.getD_none]
  rcases role.eq_or_opposite pair.activeRole with same | other
  · rw [same,DrivePair.withState_same]
    exact usable
  · rw [other,DrivePair.withState_opposite,← other]
    exact sound.usable

theorem activeSound_confirmed {pair : DrivePair} {role : DriveRole} (sound : ActiveSound pair) :
    ActiveSound (pair.withState role .failed (some (pair.nextActive role))) ↔
      (pair.activeRole = role → Usable (pair.roleState role.opposite)) := by
  have next : (pair.withState role .failed (some (pair.nextActive role))).activeRole = role.opposite := by
    rw [DrivePair.withState_activeRole,Option.getD_some,DrivePair.nextActive]
    split
    · rfl
    · rename_i other
      exact (role.eq_or_opposite pair.activeRole).resolve_left other
  constructor
  · intro after _
    have usable := after.usable
    rwa [next,DrivePair.withState_opposite] at usable
  · intro careful
    apply activeSound_of_usable
    rw [next,DrivePair.withState_opposite]
    rcases role.eq_or_opposite pair.activeRole with same | other
    · exact careful same
    · rw [← other]
      exact sound.usable

theorem activeSound_replaced {pair : DrivePair} {role : DriveRole} (sound : ActiveSound pair)
    (failed : pair.roleState role = .failed) (newPath : String) : ActiveSound (pair.replaced role newPath) := by
  apply activeSound_of_usable
  have usable := sound.usable
  change Usable ((pair.replaced role newPath).roleState pair.activeRole)
  rcases role.eq_or_opposite pair.activeRole with same | other
  · rw [same,failed] at usable
    rcases usable with active | quiescing
    · cases active
    · cases quiescing
  · rw [other] at usable ⊢
    cases role <;> exact usable

theorem activeSound_rebuilt {pair : DrivePair} {role : DriveRole} (sound : ActiveSound pair) :
    ActiveSound (pair.rebuilt role) := by
  apply activeSound_of_usable
  cases role with
  | primary => exact .inl rfl
  | secondary =>
    change Usable ((pair.rebuilt .secondary).roleState pair.activeRole)
    have usable := sound.usable
    cases active : pair.activeRole with
    | primary =>
      rw [active] at usable
      exact usable
    | secondary => exact .inl rfl

theorem activeSound_failedOver {pair : DrivePair} {disk : Disk} (due : emergencyFailoverDue disk pair = true) :
    ActiveSound pair.failedOver := by
  simp only [emergencyFailoverDue,Bool.and_eq_true,beq_iff_eq] at due
  obtain ⟨⟨_,standby⟩,_⟩ := due
  apply activeSound_of_usable
  change Usable ((pair.withState pair.activeRole .failed (some pair.activeRole.opposite)).roleState pair.activeRole.opposite)
  rw [DrivePair.withState_opposite]
  exact .inl standby

theorem step_sound {pairId : Nat} {call : Disk × Call} {w t : World} (sound : Sound pairId w)
    (taken : step pairId call w = some t) : Sound pairId t ↔ Careful pairId call w := by
  obtain ⟨disk,call⟩ := call
  obtain ⟨_,ran⟩ : ∃ r, call.run pairId { w with disk } = .ok r t := by
    cases ran : call.run pairId { w with disk } with
    | ok r u =>
      simp only [step,ran] at taken
      cases taken
      exact ⟨r,rfl⟩
    | error message u =>
      simp only [step,ran] at taken
      cases taken
  have of_change {pair next : DrivePair} (changed : RowChanged pairId { w with disk } t pair next)
      (after : ActiveSound pair → ActiveSound next) : Sound pairId t := by
    intro row found
    rw [changed.2,Option.some.injEq] at found
    rw [← found]
    exact after (sound pair changed.1)
  cases call with
  | markDriveQuiescing role =>
    obtain ⟨updated,u,ok,ends⟩ := bind_success ran
    cases ends
    obtain ⟨pair,_,changed⟩ := markDriveQuiescing_ok ok
    exact iff_of_true (of_change changed fun before => activeSound_withState before (.inr rfl)) trivial
  | cancelDriveQuiescing role =>
    obtain ⟨updated,u,ok,ends⟩ := bind_success ran
    cases ends
    obtain ⟨pair,_,changed⟩ := cancelDriveQuiescing_ok ok
    exact iff_of_true (of_change changed fun before => activeSound_withState before (.inl rfl)) trivial
  | confirmDriveFailure role =>
    obtain ⟨updated,u,ok,ends⟩ := bind_success ran
    cases ends
    obtain ⟨pair,_,changed⟩ := confirmDriveFailure_ok ok
    have confirmed : ActiveSound (pair.withState role .failed (some (pair.nextActive role))) ↔ _ :=
      activeSound_confirmed (sound pair changed.1)
    constructor
    · intro after row found
      obtain rfl : pair = row := Option.some.inj (changed.1.symm.trans found)
      exact confirmed.mp (after _ changed.2)
    · intro careful
      exact of_change changed fun _ => confirmed.mpr (careful pair changed.1)
  | assignReplacementDrive io role newPath =>
    obtain ⟨result,u,ok,ends⟩ := bind_success ran
    cases ends
    obtain ⟨pair,failed,changed⟩ := assignReplacementDrive_ok ok
    exact iff_of_true (of_change changed fun before => activeSound_replaced before failed newPath) trivial
  | maybeFinalizeRebuild action =>
    obtain ⟨result,u,ok,ends⟩ := bind_success ran
    cases ends
    obtain ⟨pair,changed⟩ := maybeFinalizeRebuildForAction_ok ok
    refine iff_of_true (of_change changed fun before => ?_) trivial
    cases rebuildFinishes w.db pair action with
    | none => exact before
    | some role => exact activeSound_rebuilt before
  | maybeEmergencyFailover =>
    obtain ⟨now,u,ok,ends⟩ := bind_success ran
    cases ends
    obtain ⟨pair,found,_,rfl⟩ := loadOperationalPair_success ok
    refine iff_of_true (of_change ⟨Db.getDrivePair_ok.mp found,find?_operational found disk⟩ fun before => ?_) trivial
    unfold DrivePair.operational
    split
    · rename_i due
      exact activeSound_failedOver due
    · exact before
  | updateSyncQueueStatus itemId status errorMessage =>
    cases ran
    exact iff_of_true sound trivial

/-- In every run from a pair with two active sides in which the active side's failure is
confirmed only over a usable other side, the active side stays usable and never are
both failed; the first confirmation of the other kind ends this. -/
theorem activeRole_sound {pairId : Nat} {start w : World}
    (both_active : ∀ pair, start.db.drivePairs.find? pairId = some pair → ∀ role, pair.roleState role = .active)
    (reached : (machine pairId).Reaches (Careful pairId) start w) :
    Sound pairId w ∧ ∀ call t, step pairId call w = some t → ¬Careful pairId call w → ¬Sound pairId t := by
  have sound : Sound pairId w := by
    apply reached.invariant
    · exact fun pair found => activeSound_of_usable (.inl (both_active pair found _))
    · exact fun call s t before careful taken => (step_sound before taken).mpr careful
  exact ⟨sound,fun call t taken careless after => careless ((step_sound sound taken).mp after)⟩

/-! One replacement, and two confirmations in a row. -/

def lifecyclePair : DrivePair := ⟨1,"/primary","/secondary",.active,.active,.primary,.hdd,.hdd⟩

def lifecycleWorld : World :=
  ⟨{ Db.empty with drivePairs := Table.empty.insert (fun id => { lifecyclePair with id }) (fun _ => rfl) },
    ⟨fun _ => none,fun _ => true⟩⟩

theorem lifecycleWorld_active : ∀ pair, lifecycleWorld.db.drivePairs.find? 1 = some pair →
    ∀ role, pair.roleState role = .active := by
  intro pair found role
  cases found
  cases role <;> rfl

def on (call : Call) : Disk × Call := (lifecycleWorld.disk,call)

/-- The active side is replaced and rebuilt. -/
def replacedOnce : List (Disk × Call) :=
  [on (.markDriveQuiescing .primary),on (.confirmDriveFailure .primary),
    on (.assignReplacementDrive .healthy .primary "/replacement"),on (.maybeFinalizeRebuild .restoreMaster)]

theorem activeRole_sound_replaced :
    ∃ w, (machine 1).exec lifecycleWorld replacedOnce = some w ∧
      w.db.drivePairs.find? 1 = some { lifecyclePair with primaryPath := "/replacement" } ∧ Sound 1 w := by
  have quiesced : (machine 1).Reaches (Careful 1) lifecycleWorld _ :=
    .step (on (.markDriveQuiescing .primary)) .start trivial rfl
  have confirmed : (machine 1).Reaches (Careful 1) lifecycleWorld _ :=
    .step (on (.confirmDriveFailure .primary)) quiesced (fun pair found _ => by cases found; exact .inl rfl) rfl
  have assigned : (machine 1).Reaches (Careful 1) lifecycleWorld _ :=
    .step (on (.assignReplacementDrive .healthy .primary "/replacement")) confirmed trivial rfl
  have rebuilt : (machine 1).Reaches (Careful 1) lifecycleWorld _ :=
    .step (on (.maybeFinalizeRebuild .restoreMaster)) assigned trivial rfl
  exact ⟨_,rfl,rfl,(activeRole_sound lifecycleWorld_active rebuilt).1⟩

/-- The standby fails, and then the active side as well. -/
def bothConfirmed : List (Disk × Call) :=
  [on (.markDriveQuiescing .secondary),on (.confirmDriveFailure .secondary),
    on (.markDriveQuiescing .primary),on (.confirmDriveFailure .primary)]

theorem active_side_failed :
    ¬ ∀ (pairId : Nat) (start w : World),
      (∀ pair, start.db.drivePairs.find? pairId = some pair → ∀ role, pair.roleState role = .active) →
      (machine pairId).Reaches (fun _ _ => True) start w → Sound pairId w := by
  intro sound
  obtain ⟨w,ran,found⟩ : ∃ w, (machine 1).exec lifecycleWorld bothConfirmed = some w ∧ w.db.drivePairs.find? 1 =
      some { lifecyclePair with primaryState := .failed,secondaryState := .failed,activeRole := .secondary } :=
    ⟨_,rfl,rfl⟩
  have after := sound 1 lifecycleWorld w lifecycleWorld_active (Machine.reaches_of_exec ran) _ found
  exact after.not_both ⟨rfl,rfl⟩

end DriveLifecycle

end BitProtector
