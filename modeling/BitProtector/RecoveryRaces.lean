import BitProtector.ItemStatus
import BitProtector.IntegrityRuns
import BitProtector.Tracker
import BitProtector.Foundation.Interleaving

/-! Integrity runs with recovery, file by file, while everything else goes on: a run works from the rows of a page and
of a pair as it once read them. -/
namespace BitProtector.RecoveryRaces

/-- What a run has found of a file of its page, with the drives as the check read them, which only the proofs use. -/
structure Finding where
  file : TrackedFile
  result : Except String IntegrityCheckResult
  disk : Disk

/-- The page of the pair that a run is at, and the pairs after it. -/
structure Position where
  pair : DrivePair
  later : List DrivePair
  page : Nat
  last : Bool

inductive Phase
  | idle
  | nextPair (pairs : List DrivePair)
  | listing (pair : DrivePair) (later : List DrivePair) (page : Nat)
  | checking (at_ : Position) (files : List (TrackedFile × Option Finding))
  | recovering (at_ : Position) (findings : List Finding)

structure Shared where
  world : World
  /-- The files of which a recovery has overwritten the current version. -/
  lost : List Nat

inductive Input
  | start (scope : Option Nat)
  | proceed
  | list (tieBreak : Nat → Nat)
  /-- Some thread of the pool checks the file at this place of the page. -/
  | check (io : Io) (mmapThresholdBytes place : Nat)
  | recover (io : Io)
  /-- The run is stopped or fails. -/
  | leave

/-- What else happens: any other operation, or a part of one, and edits on the drives. -/
inductive Event
  | act (other : Act Unit)
  | edit (disk : Disk)

section
variable [Blake3]

/-- The copy has the content that is recorded for the file now. -/
def isCurrent (w : World) (file : TrackedFile) (path : Location) : Bool :=
  match w.db.trackedFiles.find? file.id,w.disk.node path with
  | some row,some node => node.whole && checksumBytes node.bytes == row.checksum
  | _,_ => false

/-- The recovery of a checked file gets to overwrite the current version. -/
def overwrites (io : Io) (pair : DrivePair) (finding : Finding) (w : World) : Bool :=
  match finding.result with
  | .error _ => false
  | .ok result =>
    match recoveredRole pair result.status with
    | none => false
    | some target => (restoreEntry io pair target finding.file.relativePath w).isSome &&
      isCurrent w finding.file (pair.copyOn target finding.file.relativePath)

/-- `attempt_recovery_with_reconciliation` for what was not found in order. -/
def recovered (io : Io) (pair : DrivePair) (finding : Finding) (w : World) : World :=
  match finding.result with
  | .error _ => w
  | .ok result => if result.status = .ok then w else Effect.after (recoverOrNot io pair finding.file result) w

def checked (io : Io) (mmapThresholdBytes : Nat) (pair : DrivePair) (file : TrackedFile) (w : World) : Finding where
  file := file
  result :=
    match checkFileIntegrity io pair file (ChecksumStrategy.forDrive mmapThresholdBytes pair.primaryMediaType file.fileSize)
        (ChecksumStrategy.forDrive mmapThresholdBytes pair.secondaryMediaType file.fileSize) w with
    | .ok result _ => .ok result
    | .error message _ => .error message
  disk := w.disk

def turn : Input → Shared → Phase → Option (Shared × Phase)
  | .leave,s,_ => some (s,.idle)
  | .start scope,s,.idle =>
    match scopePairs s.world.db scope with
    | .ok pairs => some (s,.nextPair pairs)
    | .error _ => some (s,.idle)
  | .proceed,s,.nextPair [] => some (s,.idle)
  | .proceed,s,.nextPair (pair::later) => some (s,.listing pair later 1)
  | .list tieBreak,s,.listing pair later page =>
    let files := s.world.db.listTrackedFilesOldestIntegrityFirst tieBreak (some pair.id) page perPage
    let last := decide (s.world.db.countTrackedFiles (some pair.id) ≤ page * perPage)
    some (s,if files.isEmpty then .nextPair later else .checking ⟨pair,later,page,last⟩ (files.map (fun file => (file,none))))
  | .check io mmapThresholdBytes place,s,.checking at_ files =>
    match files[place]? with
    | some (file,none) =>
      some (s,.checking at_ (files.set place (file,some (checked io mmapThresholdBytes at_.pair file s.world))))
    | _ => none
  | .proceed,s,.checking at_ files =>
    if files.all (fun entry => entry.2.isSome) then some (s,.recovering at_ (files.filterMap Prod.snd)) else none
  | .recover io,s,.recovering at_ (finding::findings) =>
    some (⟨recovered io at_.pair finding s.world,
      if overwrites io at_.pair finding s.world then finding.file.id::s.lost else s.lost⟩,.recovering at_ findings)
  | .proceed,s,.recovering at_ [] =>
    some (s,if at_.last then .nextPair at_.later else .listing at_.pair at_.later (at_.page + 1))
  | _,_,_ => none

def outside : Event → Shared → Shared
  | .act other,s => { s with world := Effect.after other s.world }
  | .edit disk,s => { s with world := { s.world with disk } }

abbrev Runs := Interleaved Shared Phase

def machine : Machine Runs (Move Input Event) := Interleaved.machine turn outside

/-! A finding is true of the drives that it was made on. -/

theorem sideDigest_good {io : Io} {path : Location} {disk : Disk} {digest : Option String} {checksum : String}
    (read : sideDigest io path disk = some digest) (available : disk.available path.root = true)
    (good : GoodAt disk path checksum) : digest = some checksum := by
  obtain ⟨node,found,whole,same⟩ := good
  have there : (disk.available path.root && disk.exists? path) = true := by
    rw [available,Disk.exists?,found]
    rfl
  rw [sideDigest,if_pos there,found] at read
  dsimp only at read
  split at read
  · rw [← Option.some.inj read,same]
  · cases read

/-- The digest that was found on a side. -/
def digestOn (master mirror : Option String) : DriveRole → Option String
  | .primary => master
  | .secondary => mirror

omit [Blake3] in
theorem recoveredRole_digest {pair : DrivePair} {master mirror : Option String} {stored : String} {target : DriveRole}
    (recovers : recoveredRole pair (statusOfChecksums pair master mirror stored) = some target) :
    pair.isDegraded = false ∧ digestOn master mirror target ≠ some stored := by
  unfold recoveredRole statusOfChecksums at recovers
  cases degraded : pair.isDegraded with
  | true =>
    rw [degraded] at recovers
    cases recovers
  | false =>
    rw [degraded] at recovers
    refine ⟨rfl,fun valid => ?_⟩
    cases target with
    | primary =>
      obtain rfl : master = some stored := valid
      cases mirror with
      | none => simp at recovers
      | some digest =>
        cases agrees : digest == stored with
        | true => simp [agrees] at recovers
        | false => simp [agrees] at recovers
    | secondary =>
      obtain rfl : mirror = some stored := valid
      cases master with
      | none => simp at recovers
      | some digest =>
        cases agrees : digest == stored with
        | true => simp [agrees] at recovers
        | false => simp [agrees] at recovers

theorem checkedStatus_bad {io : Io} {pair : DrivePair} {file : TrackedFile} {disk : Disk} {status : IntegrityStatus}
    {target : DriveRole} (checked : checkedStatus io pair file disk = some status)
    (recovers : recoveredRole pair status = some target) :
    ¬GoodAt disk (pair.copyOn target file.relativePath) file.checksum := by
  intro good
  unfold checkedStatus at checked
  split at checked
  · cases checked
    simp [recoveredRole] at recovers
  · rename_i primary
    split at checked
    · cases checked
      simp [recoveredRole] at recovers
    · rename_i secondary
      obtain ⟨master,first,rest⟩ := Option.bind_eq_some_iff.mp checked
      obtain ⟨mirror,second,rfl⟩ := Option.map_eq_some_iff.mp rest
      obtain ⟨whole,bad⟩ := recoveredRole_digest recovers
      simp only [DrivePair.isDegraded,Bool.or_eq_false_iff,bne_eq_false_iff_eq] at whole
      -- neither side is failed, so that both roots were there
      cases target with
      | primary =>
        have available : disk.available pair.primaryPath = true := by simpa [whole.1] using primary
        exact bad (sideDigest_good first available good)
      | secondary =>
        have available : disk.available pair.secondaryPath = true := by simpa [whole.2] using secondary
        exact bad (sideDigest_good second available good)

/-- A finding that a recovery will act on is of a copy that was bad. -/
def Truthful (pair : DrivePair) (finding : Finding) : Prop :=
  ∀ result target, finding.result = .ok result → recoveredRole pair result.status = some target →
    ¬GoodAt finding.disk (pair.copyOn target finding.file.relativePath) finding.file.checksum

theorem checked_truthful (io : Io) (mmapThresholdBytes : Nat) (pair : DrivePair) (file : TrackedFile) (w : World) :
    Truthful pair (checked io mmapThresholdBytes pair file w) := by
  intro result target found recovers
  have run := checkFileIntegrity_run io pair file
    (ChecksumStrategy.forDrive mmapThresholdBytes pair.primaryMediaType file.fileSize)
    (ChecksumStrategy.forDrive mmapThresholdBytes pair.secondaryMediaType file.fileSize) w
  unfold checked at found
  dsimp only at found
  cases status : checkedStatus io pair file w.disk with
  | none =>
    simp only [status] at run
    simp only [run] at found
    cases found
  | some status =>
    simp only [status] at run
    obtain ⟨checked,same,ran⟩ := run
    simp only [ran] at found
    cases found
    exact checkedStatus_bad status (same ▸ recovers)

/-! Whole runs. -/

/-- When a run recovers a file, the checksum that is recorded for it is still the one of the listed row, and the copy
that is to be overwritten still is as the check read it. -/
def Fresh : Move Input Event → Runs → Prop
  | .turn i (.recover _),s => ∀ at_ finding findings result target, s.op i = .recovering at_ (finding::findings) →
    finding.result = .ok result → recoveredRole at_.pair result.status = some target →
    (∀ row, s.shared.world.db.trackedFiles.find? finding.file.id = some row → row.checksum = finding.file.checksum) ∧
      s.shared.world.disk.node (at_.pair.copyOn target finding.file.relativePath) =
        finding.disk.node (at_.pair.copyOn target finding.file.relativePath)
  | _,_ => True

/-- The findings of a phase are true. -/
def Phase.Truthful : Phase → Prop
  | .checking at_ files => ∀ entry ∈ files, ∀ finding, entry.2 = some finding → RecoveryRaces.Truthful at_.pair finding
  | .recovering at_ findings => ∀ finding ∈ findings, RecoveryRaces.Truthful at_.pair finding
  | _ => True

structure Kept (s : Runs) : Prop where
  truthful : ∀ i, (s.op i).Truthful
  lost : s.shared.lost = []

theorem not_isCurrent {w : World} {file : TrackedFile} {path : Location} {disk : Disk}
    (recorded : ∀ row, w.db.trackedFiles.find? file.id = some row → row.checksum = file.checksum)
    (same : w.disk.node path = disk.node path) (bad : ¬GoodAt disk path file.checksum) : isCurrent w file path = false := by
  unfold isCurrent
  split
  · rename_i row node found there
    rw [← Bool.not_eq_true,Bool.and_eq_true,beq_iff_eq]
    rintro ⟨whole,hash⟩
    exact bad ⟨node,same ▸ there,whole,hash.trans (recorded row found)⟩
  · rfl

theorem not_overwrites {s : Runs} {i : Nat} {io : Io} {at_ : Position} {finding : Finding} {findings : List Finding}
    (kept : Kept s) (fresh : Fresh (.turn i (.recover io)) s) (standing : s.op i = .recovering at_ (finding::findings)) :
    overwrites io at_.pair finding s.shared.world = false := by
  have truthful : Truthful at_.pair finding := by
    have all := kept.truthful i
    rw [standing] at all
    exact all finding List.mem_cons_self
  unfold overwrites
  split
  · rfl
  · rename_i result found
    split
    · rfl
    · rename_i target recovers
      obtain ⟨recorded,same⟩ := fresh at_ finding findings result target standing found recovers
      rw [not_isCurrent recorded same (truthful result target found recovers),Bool.and_false]

theorem kept_turn {s : Runs} {i : Nat} {input : Input} {next : Shared × Phase} (kept : Kept s)
    (fresh : Fresh (.turn i input) s) (taken : turn input s.shared (s.op i) = some next) :
    Kept (s.moved i next.1 next.2) := by
  have others : ∀ j, j ≠ i → (s.op j).Truthful := fun j _ => kept.truthful j
  suffices next.2.Truthful ∧ next.1.lost = [] from ⟨Interleaved.forall_moved this.1 others,this.2⟩
  generalize standing : s.op i = phase at taken
  have mine : phase.Truthful := standing ▸ kept.truthful i
  unfold turn at taken
  split at taken
  · cases taken
    exact ⟨trivial,kept.lost⟩
  · split at taken
    · cases taken
      exact ⟨trivial,kept.lost⟩
    · cases taken
      exact ⟨trivial,kept.lost⟩
  · cases taken
    exact ⟨trivial,kept.lost⟩
  · cases taken
    exact ⟨trivial,kept.lost⟩
  · cases taken
    refine ⟨?_,kept.lost⟩
    split
    · trivial
    · intro entry member finding found
      obtain ⟨file,_,rfl⟩ := List.mem_map.mp member
      cases found
  · split at taken
    · rename_i io mmapThresholdBytes place at_ files _ file _
      cases taken
      refine ⟨fun entry member finding found => ?_,kept.lost⟩
      rcases List.mem_or_eq_of_mem_set member with old | rfl
      · exact mine entry old finding found
      · cases found
        exact checked_truthful io mmapThresholdBytes at_.pair file s.shared.world
    · cases taken
  · split at taken
    · cases taken
      refine ⟨fun finding member => ?_,kept.lost⟩
      obtain ⟨entry,present,found⟩ := List.mem_filterMap.mp member
      exact mine entry present finding found
    · cases taken
  · cases taken
    have spared := not_overwrites kept fresh standing
    refine ⟨fun finding member => mine finding (List.mem_cons_of_mem _ member),?_⟩
    rw [spared,if_neg Bool.false_ne_true]
    exact kept.lost
  · cases taken
    refine ⟨?_,kept.lost⟩
    split
    · trivial
    · trivial
  · cases taken

/-- In a run whose recoveries all act on rows and copies that are as they were read, none overwrites a current version. -/
theorem recovery_spares_current {start s : Runs} (idle : ∀ i, start.op i = .idle) (none : start.shared.lost = [])
    (reached : machine.Reaches Fresh start s) : s.shared.lost = [] := by
  have kept : Kept s := by
    apply Interleaved.invariant_of_turns reached
    · refine ⟨fun i => ?_,none⟩
      rw [idle i]
      trivial
    · intro i input s next holds fresh taken
      exact kept_turn holds fresh taken
    · intro event s holds _
      cases event with
      | act other => exact ⟨holds.truthful,holds.lost⟩
      | edit disk => exact ⟨holds.truthful,holds.lost⟩
  exact kept.lost

end

/-! A run over a file whose active copy changes after the page was listed: by decay, and by an edit that change
detection records. -/

def notesFile : TrackedFile := ⟨1,1,"notes.txt",sampleBlake3.toHex [1],1,none,true,true,false,none⟩

theorem key_notesFile (id : Nat) : Keyed.key { notesFile with id } = id := rfl

def notesOn (primary : List UInt8) : Disk where
  node := fun path =>
    if path.relativePath = driveRootMarker then some ⟨[],none⟩
    else if path = ⟨"/primary","notes.txt"⟩ then some ⟨primary,none⟩
    else if path = ⟨"/secondary","notes.txt"⟩ then some ⟨[1],none⟩
    else none
  available := fun root => root == "/primary" || root == "/secondary"

def notesRuns : Runs :=
  ⟨⟨⟨{ Db.empty with
    drivePairs := Table.empty.insert (fun id => { corruptedPair with id }) key_corruptedPair
    trackedFiles := Table.empty.insert (fun id => { notesFile with id }) key_notesFile },notesOn [1]⟩,[]⟩,fun _ => .idle⟩

def listNotes : List (Move Input Event) := [.turn 0 (.start (some 1)),.turn 0 .proceed,.turn 0 (.list id)]

def detect [Blake3] : Act Unit := do
  let pair ← loadOperationalPair 1
  scanAndRecordChanges .healthy pair

theorem recovery_spares_current_decayed :
    letI := sampleBlake3
    ∃ s, machine.exec notesRuns (listNotes ++ [.outside (.edit (notesOn [2])),.turn 0 (.check .healthy 0 0),
        .turn 0 .proceed,.turn 0 (.recover .healthy)]) = some s ∧
      s.shared.world.disk.node ⟨"/primary","notes.txt"⟩ = some ⟨[1],none⟩ ∧ s.shared.lost = [] := by
  let _ := sampleBlake3
  refine ⟨_,rfl,rfl,@recovery_spares_current sampleBlake3 notesRuns _ (fun _ => rfl) rfl ?_⟩
  refine .step (.turn 0 (.recover .healthy)) (.step (.turn 0 .proceed) (.step (.turn 0 (.check .healthy 0 0))
    (.step (.outside (.edit (notesOn [2]))) (.step (.turn 0 (.list id)) (.step (.turn 0 .proceed)
      (.step (.turn 0 (.start (some 1))) .start trivial rfl) trivial rfl) trivial rfl) trivial rfl) trivial rfl)
        trivial rfl) ?_ rfl
  intro at_ finding findings result target standing found recovers
  obtain ⟨rfl,all⟩ := Phase.recovering.inj standing
  obtain ⟨rfl,_⟩ := List.cons.inj all
  refine ⟨fun row there => ?_,rfl⟩
  cases there
  rfl

theorem edit_overwritten : ¬ ∀ (_ : Blake3) (start s : Runs), (∀ i, start.op i = .idle) → start.shared.lost = [] →
    machine.Reaches (fun _ _ => True) start s → s.shared.lost = [] := by
  intro spares
  let _ := sampleBlake3
  obtain ⟨s,ran,lost⟩ : ∃ s, machine.exec notesRuns (listNotes ++ [.outside (.edit (notesOn [2])),.outside (.act detect),
      .turn 0 (.check .healthy 0 0),.turn 0 .proceed,.turn 0 (.recover .healthy)]) = some s ∧ s.shared.lost = [1] :=
    ⟨_,rfl,rfl⟩
  have none := spares sampleBlake3 notesRuns s (fun _ => rfl) rfl (Machine.reaches_of_exec ran)
  cases lost.symm.trans none

end BitProtector.RecoveryRaces
