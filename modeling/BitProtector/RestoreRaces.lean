import BitProtector.StagedRestore
import BitProtector.Foundation.Machine
import Mathlib.Logic.Function.Basic

/-! Processes that open the tracking database: the service, which applies a pending restore
before it creates its pool, whose creation applies one again, and the commands of the
command line, whose pools apply one as well. A file that is replaced or removed stays as it
is for those that have it open. -/
namespace BitProtector.RestoreRaces
open WriteAheadLog

/-- What a connection has open: a main file and the log that was beside it. -/
structure Handle where
  main : Nat
  wal : Nat
  deriving DecidableEq, Repr

/-- Where a process is: `later` counts the calls of `apply_pending_restore` that follow. -/
inductive Phase
  | out
  | check (later : Nat)
  | verify (later : Nat)
  | save (later : Nat)
  | removeWal (later : Nat)
  | removeShm (later : Nat)
  | install (later : Nat)
  | connect
  | live
  deriving DecidableEq, Repr

/-- Not running, or about to ask whether a restore is staged. -/
def Phase.Outside : Phase → Prop
  | .out | .check _ => True
  | _ => False

/-- A staged restore was found and is not applied yet. -/
def Phase.Applying : Phase → Prop
  | .verify _ | .save _ | .removeWal _ | .removeShm _ | .install _ => True
  | _ => False

/-- The log of the file to replace is gone. -/
def Phase.Stripped : Phase → Prop
  | .removeShm _ | .install _ => True
  | _ => False

structure State (α : Type) where
  mainFile : Nat → Image α
  walFile : Nat → List (Frame α)
  /-- The number of the next file that is created. -/
  fresh : Nat
  main : Option Nat
  wal : Option Nat
  shm : Bool
  pending : Option (Image α)
  safetyCopies : List (Image α)
  phase : Nat → Phase
  service : Nat → Bool
  opened : List (Nat × Handle)
  /-- A database file was replaced or its log removed while another process had it open. -/
  disturbed : Bool
  /-- The log was removed, and the staged file has not replaced the main file yet. -/
  restoring : Bool
  /-- What was committed since the last restore of a service start, over what that restore brought. -/
  expected : Image α

namespace State

variable {α : Type}

def mainImage (s : State α) : Image α :=
  match s.main with
  | some file => s.mainFile file
  | none => fun _ => none

def logFrames (s : State α) : List (Frame α) :=
  match s.wal with
  | some file => s.walFile file
  | none => []

/-- What a process reads that opens the database now. -/
def visible (s : State α) : Image α := shown s.mainImage s.logFrames

/-- What an open connection reads. -/
def seen (s : State α) (handle : Handle) : Image α := shown (s.mainFile handle.main) (s.walFile handle.wal)

def moved (s : State α) (pid : Nat) (phase : Phase) : State α := { s with phase := Function.update s.phase pid phase }

/-- Another process has the database open. -/
def sharedWith (s : State α) (pid : Nat) : Bool := s.opened.any (fun entry => entry.1 != pid)

end State

inductive Label (α : Type)
  | start (pid : Nat) (service : Bool)
  /-- The next thing that a starting process does. -/
  | turn (pid : Nat)
  /-- One more connection of a pool. -/
  | reconnect (pid : Nat)
  | close (pid : Nat) (handle : Handle)
  /-- Frames that a transaction writes before its last one. -/
  | spill (pid : Nat) (handle : Handle) (frames : List (Frame α))
  | commit (pid : Nat) (handle : Handle) (frames : List (Frame α)) (last : Frame α)
  | checkpoint (pid : Nat) (handle : Handle) (count : Nat)
  | restart (pid : Nat) (handle : Handle)
  /-- A write of `stage_restore` to the staged file. -/
  | stage (pid : Nat) (image : Image α)
  /-- The end of a process: an error of its start, its exit, a crash. -/
  | kill (pid : Nat)

variable {α : Type}

/-- After a call of `apply_pending_restore`. -/
def afterApply : Nat → Phase
  | 0 => .connect
  | later + 1 => .check later

/-- SQLite creates the files that are not there. -/
def openConnection (s : State α) (pid : Nat) : State α :=
  { s with
    mainFile := if s.main.isNone then Function.update s.mainFile s.fresh (fun _ => none) else s.mainFile
    walFile := if s.wal.isNone then Function.update s.walFile s.fresh [] else s.walFile
    fresh := s.fresh + 1
    main := some (s.main.getD s.fresh)
    wal := some (s.wal.getD s.fresh)
    shm := true
    opened := (pid,⟨s.main.getD s.fresh,s.wal.getD s.fresh⟩)::s.opened }

def removeLog (s : State α) (pid : Nat) : State α :=
  { s with wal := none,restoring := true,disturbed := s.disturbed || (s.wal.isSome && s.sharedWith pid) }

/-- `fs::rename` of the staged file over the main one. -/
def installed (s : State α) (pid : Nat) (image : Image α) : State α :=
  { s with
    mainFile := Function.update s.mainFile s.fresh image
    fresh := s.fresh + 1
    main := some s.fresh
    pending := none
    disturbed := s.disturbed || s.sharedWith pid
    restoring := false
    expected := if s.service pid then image else s.expected }

def turn (pid : Nat) (s : State α) : Option (State α) :=
  match s.phase pid with
  | .out => none
  | .check later => some (s.moved pid (if s.pending.isSome then .verify later else afterApply later))
  | .verify later => if s.pending.isSome then some (s.moved pid (.save later)) else none
  | .save later =>
    some (({ s with safetyCopies := s.safetyCopies ++ s.main.toList.map s.mainFile } : State α).moved pid (.removeWal later))
  | .removeWal later => some ((removeLog s pid).moved pid (.removeShm later))
  | .removeShm later => some (({ s with shm := false } : State α).moved pid (.install later))
  | .install later => s.pending.map (fun image => (installed s pid image).moved pid (afterApply later))
  | .connect => some ((openConnection s pid).moved pid .live)
  | .live => none

/-- The last connection to a database writes its log back and deletes what is at the path of the log. -/
def closed (s : State α) (pid : Nat) (handle : Handle) : State α :=
  let rest := s.opened.erase (pid,handle)
  if rest.any (fun entry => entry.2 == handle) then { s with opened := rest }
  else
    { s with
      opened := rest
      mainFile := Function.update s.mainFile handle.main (s.seen handle)
      wal := none
      shm := false }

def writtenBack (s : State α) (handle : Handle) (count : Nat) : State α :=
  { s with
    mainFile := Function.update s.mainFile handle.main
      (replay (s.mainFile handle.main) ((committed (s.walFile handle.wal)).take count)) }

def restarted (s : State α) (handle : Handle) : State α :=
  { s with
    mainFile := Function.update s.mainFile handle.main (s.seen handle)
    walFile := Function.update s.walFile handle.wal [] }

/-- The frames go behind the last one that commits. -/
def logged (s : State α) (handle : Handle) (frames : List (Frame α)) : State α :=
  { s with walFile := Function.update s.walFile handle.wal (committed (s.walFile handle.wal) ++ frames) }

def step : Label α → State α → Option (State α)
  | .start pid service, s =>
    if s.phase pid = .out then
      some (({ s with service := Function.update s.service pid service } : State α).moved pid
        (.check (if service then 1 else 0)))
    else none
  | .turn pid, s => turn pid s
  | .reconnect pid, s => if s.phase pid = .live then some (openConnection s pid) else none
  | .close pid handle, s => if (pid,handle) ∈ s.opened then some (closed s pid handle) else none
  | .spill pid handle frames, s =>
    if (pid,handle) ∈ s.opened ∧ ∀ frame ∈ frames, frame.commits = false then some (logged s handle frames) else none
  | .commit pid handle frames last, s =>
    if (pid,handle) ∈ s.opened ∧ last.commits = true then
      some { logged s handle (frames ++ [last]) with expected := replay s.expected (frames ++ [last]) }
    else none
  | .checkpoint pid handle count, s =>
    if (pid,handle) ∈ s.opened then some (writtenBack s handle count) else none
  | .restart pid handle, s => if (pid,handle) ∈ s.opened then some (restarted s handle) else none
  | .stage pid image, s =>
    if s.phase pid = .live then
      some { s with pending := some image,safetyCopies := s.safetyCopies ++ s.main.toList.map s.mainFile }
    else none
  | .kill pid, s =>
    some (({ s with opened := s.opened.filter (fun entry => entry.1 != pid) } : State α).moved pid .out)

def machine : Machine (State α) (Label α) := ⟨step⟩

/-- A restore is found staged only by the service as it starts, when no other process has
opened the database or is opening it. -/
def Orderly : Label α → State α → Prop
  | .turn pid, s => ∀ later, s.phase pid = .check later → s.pending.isSome = true →
      s.service pid = true ∧ ∀ other, other ≠ pid → (s.phase other).Outside
  | _, _ => True

/-- Nothing runs. -/
structure Quiet (s : State α) : Prop where
  out : ∀ pid, s.phase pid = .out
  opened : s.opened = []
  placed : s.main = none → s.wal = none
  disturbed : s.disturbed = false
  restoring : s.restoring = false
  expected : s.visible = s.expected

structure Invariant (s : State α) : Prop where
  undisturbed : s.disturbed = false
  owners : ∀ entry ∈ s.opened, s.phase entry.1 = .live
  current : ∀ entry ∈ s.opened, s.main = some entry.2.main ∧ s.wal = some entry.2.wal
  placed : s.main = none → s.wal = none
  alone : ∀ pid, (s.phase pid).Applying → s.pending.isSome = true ∧ s.service pid = true ∧
    ∀ other, other ≠ pid → (s.phase other).Outside
  stripped : ∀ pid, (s.phase pid).Stripped → s.restoring = true
  midway : s.restoring = true → s.pending.isSome = true ∧ s.wal = none ∧
    ∀ pid, (s.phase pid).Outside ∨ (s.phase pid).Applying
  holds : s.restoring = false → s.visible = s.expected

theorem invariant_of_quiet {s : State α} (quiet : Quiet s) : Invariant s where
  undisturbed := quiet.disturbed
  owners entry member := by
    rw [quiet.opened] at member
    cases member
  current entry member := by
    rw [quiet.opened] at member
    cases member
  placed := quiet.placed
  alone pid applying := by
    rw [quiet.out] at applying
    cases applying
  stripped pid gone := by
    rw [quiet.out] at gone
    cases gone
  midway restoring := by
    rw [quiet.restoring] at restoring
    cases restoring
  holds _ := quiet.expected

@[simp] theorem moved_phase (s : State α) (pid : Nat) (phase : Phase) :
    (s.moved pid phase).phase = Function.update s.phase pid phase := rfl

@[simp] theorem moved_visible (s : State α) (pid : Nat) (phase : Phase) : (s.moved pid phase).visible = s.visible := rfl

theorem applying_inside {phase : Phase} (applying : phase.Applying) : ¬phase.Outside := by
  cases phase <;> simp_all [Phase.Applying,Phase.Outside]

/-- What a process must bring to the phase it goes to. -/
structure Admitted (s : State α) (pid : Nat) (phase : Phase) : Prop where
  opened : (∃ entry ∈ s.opened, entry.1 = pid) → phase = .live
  applying : phase.Applying → s.pending.isSome = true ∧ s.service pid = true ∧
    ∀ other, other ≠ pid → (s.phase other).Outside
  others : ∀ other, other ≠ pid → (s.phase other).Applying → phase.Outside
  stripped : phase.Stripped → s.restoring = true
  midway : s.restoring = true → phase.Outside ∨ phase.Applying

theorem invariant_moved {s : State α} (inv : Invariant s) {pid : Nat} {phase : Phase} (admitted : Admitted s pid phase) :
    Invariant (s.moved pid phase) where
  undisturbed := inv.undisturbed
  owners entry member := by
    rw [moved_phase]
    by_cases mine : entry.1 = pid
    · rw [mine,Function.update_self]
      exact admitted.opened ⟨entry,member,mine⟩
    · rw [Function.update_of_ne mine]
      exact inv.owners entry member
  current := inv.current
  placed := inv.placed
  alone q applying := by
    rw [moved_phase] at applying ⊢
    by_cases mine : q = pid
    · subst mine
      rw [Function.update_self] at applying
      obtain ⟨staged,serves,others⟩ := admitted.applying applying
      refine ⟨staged,serves,fun other apart => ?_⟩
      rw [Function.update_of_ne apart]
      exact others other apart
    · rw [Function.update_of_ne mine] at applying
      obtain ⟨staged,serves,others⟩ := inv.alone q applying
      refine ⟨staged,serves,fun other apart => ?_⟩
      by_cases same : other = pid
      · rw [same,Function.update_self]
        exact admitted.others q mine applying
      · rw [Function.update_of_ne same]
        exact others other apart
  stripped q gone := by
    rw [moved_phase] at gone
    by_cases mine : q = pid
    · rw [mine,Function.update_self] at gone
      exact admitted.stripped gone
    · rw [Function.update_of_ne mine] at gone
      exact inv.stripped q gone
  midway restoring := by
    obtain ⟨staged,gone,each⟩ := inv.midway restoring
    refine ⟨staged,gone,fun q => ?_⟩
    rw [moved_phase]
    by_cases mine : q = pid
    · rw [mine,Function.update_self]
      exact admitted.midway restoring
    · rw [Function.update_of_ne mine]
      exact each q
  holds := inv.holds

namespace Invariant

variable {s : State α} (inv : Invariant s)
include inv

theorem solo {pid other : Nat} (inside : ¬(s.phase pid).Outside) (apart : other ≠ pid) : ¬(s.phase other).Applying :=
  fun applying => inside ((inv.alone other applying).2.2 pid apart.symm)

theorem not_restoring {pid : Nat} (inside : ¬(s.phase pid).Outside) (idle : ¬(s.phase pid).Applying) :
    s.restoring = false := by
  cases restoring : s.restoring with
  | false => rfl
  | true => exact absurd ((inv.midway restoring).2.2 pid) (not_or.mpr ⟨inside,idle⟩)

theorem live_of_opened {pid : Nat} {handle : Handle} (opened : (pid,handle) ∈ s.opened) :
    s.phase pid = .live ∧ s.restoring = false := by
  have live := inv.owners _ opened
  have inside : ¬(s.phase pid).Outside := by
    rw [live]
    exact id
  have idle : ¬(s.phase pid).Applying := by
    rw [live]
    exact id
  exact ⟨live,inv.not_restoring inside idle⟩

theorem opened_nil {pid : Nat} (applying : (s.phase pid).Applying) : s.opened = [] := by
  apply List.eq_nil_iff_forall_not_mem.mpr
  intro entry member
  have live := inv.owners entry member
  by_cases mine : entry.1 = pid
  · rw [← mine,live] at applying
    exact applying
  · have outside := (inv.alone pid applying).2.2 entry.1 mine
    rw [live] at outside
    exact outside

theorem seen_visible {entry : Nat × Handle} (opened : entry ∈ s.opened) : s.seen entry.2 = s.visible := by
  obtain ⟨main,wal⟩ := inv.current entry opened
  simp only [State.seen,State.visible,State.mainImage,State.logFrames,main,wal]

theorem admitted_applying {pid : Nat} {phase : Phase} (applying : (s.phase pid).Applying) (next : phase.Applying)
    (stripped : phase.Stripped → s.restoring = true) : Admitted s pid phase where
  opened := by
    rintro ⟨entry,member,_⟩
    rw [inv.opened_nil applying] at member
    cases member
  applying _ := inv.alone pid applying
  others other apart applies := absurd applies (inv.solo (applying_inside applying) apart)
  stripped := stripped
  midway _ := .inr next

theorem written (mainFile : Nat → Image α) (walFile : Nat → List (Frame α)) (expected : Image α)
    (holds : ({ s with mainFile := mainFile,walFile := walFile,expected := expected } : State α).visible = expected) :
    Invariant { s with mainFile := mainFile,walFile := walFile,expected := expected } where
  undisturbed := inv.undisturbed
  owners := inv.owners
  current := inv.current
  placed := inv.placed
  alone := inv.alone
  stripped := inv.stripped
  midway := inv.midway
  holds _ := holds

theorem beside (shm : Bool) (copies : List (Image α)) : Invariant { s with shm := shm,safetyCopies := copies } where
  undisturbed := inv.undisturbed
  owners := inv.owners
  current := inv.current
  placed := inv.placed
  alone := inv.alone
  stripped := inv.stripped
  midway := inv.midway
  holds := inv.holds

end Invariant

theorem visible_openConnection {s : State α} (placed : s.main = none → s.wal = none) (pid : Nat) :
    (openConnection s pid).visible = s.visible := by
  unfold State.visible State.mainImage State.logFrames openConnection
  cases main : s.main with
  | none => simp [placed main]
  | some file => cases wal : s.wal <;> simp

theorem invariant_openConnection {s : State α} (inv : Invariant s) {pid : Nat} (inside : ¬(s.phase pid).Outside)
    (idle : ¬(s.phase pid).Applying) : Invariant ((openConnection s pid).moved pid .live) where
  undisturbed := inv.undisturbed
  owners entry member := by
    rw [moved_phase]
    by_cases mine : entry.1 = pid
    · rw [mine,Function.update_self]
    · rw [Function.update_of_ne mine]
      rcases List.mem_cons.mp member with rfl | before
      · exact absurd rfl mine
      · exact inv.owners entry before
  current entry member := by
    rcases List.mem_cons.mp member with rfl | before
    · exact ⟨rfl,rfl⟩
    · obtain ⟨main,wal⟩ := inv.current entry before
      simp only [State.moved,openConnection,main,wal,Option.getD_some,and_self]
  placed missing := by cases missing
  alone q applying := by
    have never : ¬(Function.update s.phase pid .live q).Applying := by
      by_cases mine : q = pid
      · rw [mine,Function.update_self]
        exact id
      · rw [Function.update_of_ne mine]
        exact inv.solo inside mine
    exact absurd applying never
  stripped q gone := by
    rw [moved_phase] at gone
    by_cases mine : q = pid
    · rw [mine,Function.update_self] at gone
      cases gone
    · rw [Function.update_of_ne mine] at gone
      exact inv.stripped q gone
  midway restoring := by
    have not : s.restoring = false := inv.not_restoring inside idle
    cases not.symm.trans restoring
  holds restoring := by
    rw [moved_visible,visible_openConnection inv.placed]
    exact inv.holds restoring

theorem admitted_afterApply {s : State α} {pid : Nat} (closed : ∀ entry ∈ s.opened, entry.1 ≠ pid)
    (idle : ∀ other, other ≠ pid → ¬(s.phase other).Applying) (whole : s.restoring = false) (later : Nat) :
    Admitted s pid (afterApply later) where
  opened := by
    rintro ⟨entry,member,mine⟩
    exact absurd mine (closed entry member)
  applying applies := by cases later <;> cases applies
  others other apart applies := absurd applies (idle other apart)
  stripped gone := by cases later <;> cases gone
  midway restoring := by cases whole.symm.trans restoring

theorem invariant_start {s : State α} (inv : Invariant s) {pid : Nat} (out : s.phase pid = .out) (service : Bool)
    (later : Nat) :
    Invariant (({ s with service := Function.update s.service pid service } : State α).moved pid (.check later)) := by
  have registered : Invariant { s with service := Function.update s.service pid service } :=
    { inv with
      alone := fun q applying => by
        obtain ⟨staged,serves,others⟩ := inv.alone q applying
        refine ⟨staged,?_,others⟩
        have apart : q ≠ pid := by
          rintro rfl
          rw [out] at applying
          exact applying
        exact (Function.update_of_ne apart _ _).trans serves }
  apply invariant_moved registered
  constructor
  · rintro ⟨entry,member,mine⟩
    have live := inv.owners entry member
    rw [mine,out] at live
    cases live
  · exact fun applying => applying.elim
  · exact fun _ _ _ => trivial
  · exact fun gone => gone.elim
  · exact fun _ => .inl trivial

theorem invariant_kill {s : State α} (inv : Invariant s) (pid : Nat) :
    Invariant (({ s with opened := s.opened.filter (fun entry => entry.1 != pid) } : State α).moved pid .out) := by
  have kept {entry : Nat × Handle} (member : entry ∈ s.opened.filter (fun entry => entry.1 != pid)) :
      entry ∈ s.opened ∧ entry.1 ≠ pid := by simpa using member
  have dropped : Invariant { s with opened := s.opened.filter (fun entry => entry.1 != pid) } :=
    { inv with
      owners := fun entry member => inv.owners entry (kept member).1
      current := fun entry member => inv.current entry (kept member).1 }
  apply invariant_moved dropped
  constructor
  · rintro ⟨entry,member,mine⟩
    exact absurd mine (kept member).2
  · exact fun applying => applying.elim
  · exact fun _ _ _ => trivial
  · exact fun gone => gone.elim
  · exact fun _ => .inl trivial

theorem invariant_stage {s : State α} (inv : Invariant s) {pid : Nat} (live : s.phase pid = .live) (image : Image α)
    (copies : List (Image α)) : Invariant { s with pending := some image,safetyCopies := copies } := by
  have inside : ¬(s.phase pid).Outside := by
    rw [live]
    exact id
  have idle : ¬(s.phase pid).Applying := by
    rw [live]
    exact id
  have whole := inv.not_restoring inside idle
  exact
    { inv with
      alone := fun q applying => by
        obtain ⟨_,serves,others⟩ := inv.alone q applying
        exact ⟨rfl,serves,others⟩
      midway := fun restoring => by cases whole.symm.trans restoring }

theorem invariant_check {s : State α} (inv : Invariant s) {pid later : Nat} (here : s.phase pid = .check later)
    (orderly : s.pending.isSome = true → s.service pid = true ∧ ∀ other, other ≠ pid → (s.phase other).Outside) :
    Invariant (s.moved pid (if s.pending.isSome then .verify later else afterApply later)) := by
  have closed : ∀ entry ∈ s.opened, entry.1 ≠ pid := by
    intro entry member mine
    have live := inv.owners entry member
    rw [mine,here] at live
    cases live
  apply invariant_moved inv
  cases staged : s.pending.isSome with
  | true =>
    obtain ⟨serves,others⟩ := orderly staged
    rw [if_pos rfl]
    constructor
    · rintro ⟨entry,member,mine⟩
      exact absurd mine (closed entry member)
    · exact fun _ => ⟨staged,serves,others⟩
    · exact fun other apart applies => absurd (others other apart) (applying_inside applies)
    · exact fun gone => gone.elim
    · exact fun _ => .inr trivial
  | false =>
    rw [if_neg Bool.false_ne_true]
    apply admitted_afterApply closed
    · intro other _ applies
      cases staged.symm.trans (inv.alone other applies).1
    · cases restoring : s.restoring with
      | false => rfl
      | true => cases staged.symm.trans (inv.midway restoring).1

theorem invariant_removeLog {s : State α} (inv : Invariant s) {pid later : Nat} (here : s.phase pid = .removeWal later) :
    Invariant ((removeLog s pid).moved pid (.removeShm later)) := by
  have applying : (s.phase pid).Applying := by
    rw [here]
    trivial
  have nobody := inv.opened_nil applying
  obtain ⟨staged,serves,others⟩ := inv.alone pid applying
  have unshared : s.sharedWith pid = false := by rw [State.sharedWith,nobody]; rfl
  have removed : Invariant (removeLog s pid) :=
    { inv with
      undisturbed := by rw [removeLog,inv.undisturbed,unshared,Bool.and_false,Bool.or_false]
      current := fun entry member => by
        rw [removeLog,nobody] at member
        cases member
      placed := fun _ => rfl
      stripped := fun _ _ => rfl
      midway := fun _ => ⟨staged,rfl,fun q => by
        by_cases mine : q = pid
        · rw [mine]
          exact .inr applying
        · exact .inl (others q mine)⟩
      holds := fun restoring => by cases restoring }
  exact invariant_moved removed (removed.admitted_applying applying trivial fun _ => rfl)

theorem invariant_installed {s : State α} (inv : Invariant s) {pid later : Nat} (here : s.phase pid = .install later)
    (image : Image α) : Invariant ((installed s pid image).moved pid (afterApply later)) := by
  have applying : (s.phase pid).Applying := by
    rw [here]
    trivial
  have gone : (s.phase pid).Stripped := by
    rw [here]
    trivial
  have nobody := inv.opened_nil applying
  obtain ⟨_,serves,others⟩ := inv.alone pid applying
  obtain ⟨_,noLog,_⟩ := inv.midway (inv.stripped pid gone)
  have unshared : s.sharedWith pid = false := by rw [State.sharedWith,nobody]; rfl
  have shows : (installed s pid image).visible = image := by
    simp [State.visible,State.mainImage,State.logFrames,installed,noLog]
  -- no other process applies, and this one has ended
  constructor
  · exact (congrArg₂ or inv.undisturbed unshared).trans rfl
  · intro entry member
    have absent : entry ∈ s.opened := member
    rw [nobody] at absent
    cases absent
  · intro entry member
    have absent : entry ∈ s.opened := member
    rw [nobody] at absent
    cases absent
  · exact fun missing => by cases missing
  · intro q applies
    rw [moved_phase] at applies
    by_cases mine : q = pid
    · rw [mine,Function.update_self] at applies
      cases later <;> cases applies
    · rw [Function.update_of_ne mine] at applies
      exact absurd (others q mine) (applying_inside applies)
  · intro q strips
    rw [moved_phase] at strips
    by_cases mine : q = pid
    · rw [mine,Function.update_self] at strips
      cases later <;> cases strips
    · rw [Function.update_of_ne mine] at strips
      have outside := others q mine
      cases phase : s.phase q <;> simp_all [Phase.Stripped,Phase.Outside,installed]
  · exact fun restoring => by cases restoring
  · intro _
    rw [moved_visible,shows]
    change image = if s.service pid = true then image else s.expected
    rw [if_pos serves]

theorem invariant_turn {s t : State α} (inv : Invariant s) {pid : Nat} (orderly : Orderly (.turn pid) s)
    (taken : turn pid s = some t) : Invariant t := by
  unfold turn at taken
  cases here : s.phase pid with
  | out | live => simp [here] at taken
  | check later =>
    simp only [here,Option.some.injEq] at taken
    subst taken
    exact invariant_check inv here (orderly later here)
  | verify later =>
    have applying : (s.phase pid).Applying := here ▸ trivial
    simp only [here,Option.ite_none_right_eq_some,Option.some.injEq] at taken
    obtain ⟨_,rfl⟩ := taken
    exact invariant_moved inv (inv.admitted_applying applying trivial fun gone => gone.elim)
  | save later =>
    have applying : (s.phase pid).Applying := here ▸ trivial
    simp only [here,Option.some.injEq] at taken
    subst taken
    have copied := inv.beside s.shm (s.safetyCopies ++ s.main.toList.map s.mainFile)
    exact invariant_moved copied (copied.admitted_applying applying trivial fun gone => gone.elim)
  | removeWal later =>
    simp only [here,Option.some.injEq] at taken
    subst taken
    exact invariant_removeLog inv here
  | removeShm later =>
    have applying : (s.phase pid).Applying := here ▸ trivial
    have gone : (s.phase pid).Stripped := here ▸ trivial
    simp only [here,Option.some.injEq] at taken
    subst taken
    have cleared := inv.beside false s.safetyCopies
    exact invariant_moved cleared (cleared.admitted_applying applying trivial fun _ => inv.stripped pid gone)
  | install later =>
    simp only [here,Option.map_eq_some_iff] at taken
    obtain ⟨image,_,rfl⟩ := taken
    exact invariant_installed inv here image
  | connect =>
    simp only [here,Option.some.injEq] at taken
    subst taken
    exact invariant_openConnection inv (here ▸ id) (here ▸ id)

theorem visible_written {s : State α} {handle : Handle} (main : s.main = some handle.main) (wal : s.wal = some handle.wal)
    (mainFile : Nat → Image α) (walFile : Nat → List (Frame α)) (expected : Image α) :
    ({ s with mainFile := mainFile,walFile := walFile,expected := expected } : State α).visible =
      shown (mainFile handle.main) (walFile handle.wal) := by
  simp only [State.visible,State.mainImage,State.logFrames,main,wal]

theorem invariant_spill {s : State α} (inv : Invariant s) {pid : Nat} {handle : Handle} (opened : (pid,handle) ∈ s.opened)
    {frames : List (Frame α)} (uncommitted : ∀ frame ∈ frames, frame.commits = false) :
    Invariant (logged s handle frames) := by
  obtain ⟨main,wal⟩ := inv.current _ opened
  obtain ⟨_,whole⟩ := inv.live_of_opened opened
  apply inv.written s.mainFile _ s.expected
  rw [visible_written main wal,Function.update_self,shown_uncommitted _ _ uncommitted]
  exact (inv.seen_visible opened).trans (inv.holds whole)

theorem invariant_commit {s : State α} (inv : Invariant s) {pid : Nat} {handle : Handle} (opened : (pid,handle) ∈ s.opened)
    (frames : List (Frame α)) {last : Frame α} (commits : last.commits = true) :
    Invariant { logged s handle (frames ++ [last]) with expected := replay s.expected (frames ++ [last]) } := by
  obtain ⟨main,wal⟩ := inv.current _ opened
  obtain ⟨_,whole⟩ := inv.live_of_opened opened
  apply inv.written s.mainFile
  rw [visible_written main wal]
  simp only [logged,Function.update_self,shown_commit _ _ _ commits]
  exact congrArg (replay · (frames ++ [last])) ((inv.seen_visible opened).trans (inv.holds whole))

theorem invariant_writtenBack {s : State α} (inv : Invariant s) {pid : Nat} {handle : Handle}
    (opened : (pid,handle) ∈ s.opened) (count : Nat) : Invariant (writtenBack s handle count) := by
  obtain ⟨main,wal⟩ := inv.current _ opened
  obtain ⟨_,whole⟩ := inv.live_of_opened opened
  apply inv.written _ s.walFile s.expected
  rw [visible_written main wal,Function.update_self,shown_checkpoint _ (List.take_prefix _ _)]
  exact (inv.seen_visible opened).trans (inv.holds whole)

theorem invariant_restarted {s : State α} (inv : Invariant s) {pid : Nat} {handle : Handle}
    (opened : (pid,handle) ∈ s.opened) : Invariant (restarted s handle) := by
  obtain ⟨main,wal⟩ := inv.current _ opened
  obtain ⟨_,whole⟩ := inv.live_of_opened opened
  apply inv.written _ _ s.expected
  rw [visible_written main wal,Function.update_self,Function.update_self,shown_nil]
  exact (inv.seen_visible opened).trans (inv.holds whole)

theorem invariant_closed {s : State α} (inv : Invariant s) {pid : Nat} {handle : Handle}
    (opened : (pid,handle) ∈ s.opened) : Invariant (closed s pid handle) := by
  have kept {entry : Nat × Handle} (member : entry ∈ s.opened.erase (pid,handle)) : entry ∈ s.opened :=
    List.mem_of_mem_erase member
  have dropped : Invariant { s with opened := s.opened.erase (pid,handle) } :=
    { inv with
      owners := fun entry member => inv.owners entry (kept member)
      current := fun entry member => inv.current entry (kept member) }
  obtain ⟨main,wal⟩ := inv.current _ opened
  obtain ⟨_,whole⟩ := inv.live_of_opened opened
  cases shared : (s.opened.erase (pid,handle)).any (fun entry => entry.2 == handle) with
  | true =>
    simp only [closed,shared,if_true]
    exact dropped
  | false =>
    simp only [closed,shared,Bool.false_eq_true,if_false]
    -- every connection has the files of the path open, so that it was the last of all
    have last : ∀ entry, entry ∉ s.opened.erase (pid,handle) := by
      intro entry member
      obtain ⟨otherMain,otherWal⟩ := inv.current entry (kept member)
      have same : entry.2 = handle := by
        rw [main,Option.some.injEq] at otherMain
        rw [wal,Option.some.injEq] at otherWal
        cases handle
        exact (congrArg₂ Handle.mk otherMain otherWal).symm
      have differs := List.any_eq_false.mp shared entry member
      exact differs (beq_iff_eq.mpr same)
    exact
      { dropped with
        current := fun entry member => absurd member (last entry)
        placed := fun _ => rfl
        midway := fun restoring => by cases whole.symm.trans restoring
        holds := fun _ => by
          simp only [State.visible,State.mainImage,State.logFrames,main,Function.update_self,shown_nil]
          exact (inv.seen_visible opened).trans (inv.holds whole) }

theorem invariant_step {s t : State α} (label : Label α) (inv : Invariant s) (orderly : Orderly label s)
    (taken : step label s = some t) : Invariant t := by
  cases label with
  | start pid service =>
    simp only [step,Option.ite_none_right_eq_some,Option.some.injEq] at taken
    obtain ⟨out,rfl⟩ := taken
    exact invariant_start inv out service _
  | turn pid => exact invariant_turn inv orderly taken
  | reconnect pid =>
    simp only [step,Option.ite_none_right_eq_some,Option.some.injEq] at taken
    obtain ⟨live,rfl⟩ := taken
    have inside : ¬(s.phase pid).Outside := by
      rw [live]
      exact id
    have idle : ¬(s.phase pid).Applying := by
      rw [live]
      exact id
    have again := invariant_openConnection inv inside idle
    have same : (openConnection s pid).moved pid .live = openConnection s pid := by
      have phase : Function.update s.phase pid .live = s.phase := by rw [← live,Function.update_eq_self]
      exact congrArg (fun phase => ({ openConnection s pid with phase := phase } : State α)) phase
    rw [same] at again
    exact again
  | close pid handle =>
    simp only [step,Option.ite_none_right_eq_some,Option.some.injEq] at taken
    obtain ⟨opened,rfl⟩ := taken
    exact invariant_closed inv opened
  | spill pid handle frames =>
    simp only [step,Option.ite_none_right_eq_some,Option.some.injEq] at taken
    obtain ⟨⟨opened,uncommitted⟩,rfl⟩ := taken
    exact invariant_spill inv opened uncommitted
  | commit pid handle frames last =>
    simp only [step,Option.ite_none_right_eq_some,Option.some.injEq] at taken
    obtain ⟨⟨opened,commits⟩,rfl⟩ := taken
    exact invariant_commit inv opened frames commits
  | checkpoint pid handle count =>
    simp only [step,Option.ite_none_right_eq_some,Option.some.injEq] at taken
    obtain ⟨opened,rfl⟩ := taken
    exact invariant_writtenBack inv opened count
  | restart pid handle =>
    simp only [step,Option.ite_none_right_eq_some,Option.some.injEq] at taken
    obtain ⟨opened,rfl⟩ := taken
    exact invariant_restarted inv opened
  | stage pid image =>
    simp only [step,Option.ite_none_right_eq_some,Option.some.injEq] at taken
    obtain ⟨live,rfl⟩ := taken
    exact invariant_stage inv live image _
  | kill pid =>
    simp only [step,Option.some.injEq] at taken
    subst taken
    exact invariant_kill inv pid

/-- As long as only a service that is alone finds a restore staged, no file is replaced and no log removed under a process
that has it open, and whoever reads the database finds what was committed since the last restore of a service start. -/
theorem restore_quiescent {s t : State α} (quiet : Quiet s) (reached : machine.Reaches Orderly s t) :
    t.disturbed = false ∧ (t.restoring = true → t.pending.isSome = true ∧ t.opened = []) ∧
      (t.restoring = false → t.visible = t.expected ∧ ∀ entry ∈ t.opened, t.seen entry.2 = t.expected) := by
  have inv : Invariant t := reached.invariant (invariant_of_quiet quiet) fun label _ _ => invariant_step label
  refine ⟨inv.undisturbed,fun restoring => ⟨(inv.midway restoring).1,?_⟩,fun whole => ⟨inv.holds whole,?_⟩⟩
  · apply List.eq_nil_iff_forall_not_mem.mpr
    intro entry member
    cases (inv.live_of_opened member).2.symm.trans restoring
  · intro entry member
    exact (inv.seen_visible member).trans (inv.holds whole)

/-! The turns are what `apply_pending_restore` does: one after the other, they change the files as it does. -/

/-- What is at the paths of a database. -/
structure View (α : Type) where
  main : Option (Image α)
  log : Option (List (Frame α))
  shm : Bool
  pending : Option (Image α)

def State.view (s : State α) : View α := ⟨s.main.map s.mainFile,s.wal.map s.walFile,s.shm,s.pending⟩

def viewOf [SqliteFiles α] (disk : Disk) (db : Location) : View α where
  main := (disk.node db).map (fun node => SqliteFiles.pages node.bytes)
  log := (disk.node (StagedRestore.walPath db)).map (fun node => SqliteFiles.frames node.bytes)
  shm := disk.exists? (StagedRestore.shmPath db)
  pending := (disk.node (StagedRestore.pendingRestorePath db)).map (fun node => SqliteFiles.pages node.bytes)

/-- What the turns of one application leave when a restore is staged. -/
def applied (s : State α) (pid : Nat) (image : Image α) : State α :=
  installed (({ removeLog ({ s with safetyCopies := s.safetyCopies ++ s.main.toList.map s.mainFile } : State α) pid with
    shm := false } : State α)) pid image

theorem exec_turns {s : State α} {pid later : Nat} (here : s.phase pid = .check later) {image : Image α}
    (staged : s.pending = some image) :
    machine.exec s (List.replicate 6 (.turn pid)) = some ((applied s pid image).moved pid (afterApply later)) := by
  simp [List.replicate,Machine.exec,machine,step,turn,here,staged,State.moved,removeLog,installed,applied,
    State.sharedWith,Function.update_idem]

theorem turns_apply [Sqlite] [SqliteFiles α] {calls : BackupRepair.RepairCalls} {db : Location} {w t : World}
    {result : Option Location} (ok : StagedRestore.applyPendingRestore calls db w = .ok result t) {s : State α}
    {pid later : Nat} (here : s.phase pid = .check later) (same : s.view = viewOf w.disk db) :
    ∃ count u, machine.exec s (List.replicate count (.turn pid)) = some u ∧ u.phase pid = afterApply later ∧
      u.view = viewOf t.disk db := by
  have pending : s.pending = (viewOf w.disk db).pending := congrArg View.pending same
  rcases StagedRestore.applyPendingRestore_cases ok with ⟨absent,rfl⟩ | ⟨⟨staged,found⟩,main,wal,shm,moved⟩
  · have none : s.pending = none := by rw [pending,viewOf,absent]; rfl
    refine ⟨1,s.moved pid (afterApply later),?_,Function.update_self _ _ _,same⟩
    simp [Machine.exec,machine,step,turn,here,none]
  · have there : s.pending = some (SqliteFiles.pages staged.bytes) := by rw [pending,viewOf,found]; rfl
    refine ⟨6,_,exec_turns here there,Function.update_self _ _ _,?_⟩
    simp [State.view,State.moved,applied,installed,removeLog,viewOf,main,wal,shm,moved,found,Disk.exists?]

/-! A service that stays, a restore staged while it runs, and a status line at a login. -/

def oneByte (content : UInt8) : Image UInt8 := fun page => if page = 0 then some content else none

def idle (pending : Option (Image UInt8)) : State UInt8 where
  mainFile _ := oneByte 7
  walFile _ := []
  fresh := 1
  main := some 0
  wal := none
  shm := false
  pending := pending
  safetyCopies := []
  phase _ := .out
  service _ := false
  opened := []
  disturbed := false
  restoring := false
  expected := oneByte 7

theorem idle_quiet (pending : Option (Image UInt8)) : Quiet (idle pending) where
  out _ := rfl
  opened := rfl
  placed missing := by cases missing
  disturbed := rfl
  restoring := rfl
  expected := rfl

def loginRun : List (Label UInt8) :=
  .start 0 true::List.replicate 3 (.turn 0) ++
    [.stage 0 (oneByte 9),.commit 0 ⟨0,1⟩ [] ⟨0,8,some 1⟩,.start 1 false] ++ List.replicate 6 (.turn 1)

theorem restore_disturbs_the_service :
    ∃ t, Quiet (idle none) ∧ machine.Reaches (fun _ _ => True) (idle none) t ∧ t.phase 0 = .live ∧ t.service 1 = false ∧
      t.disturbed = true ∧ t.restoring = false ∧ t.visible 0 = some 9 ∧ t.expected 0 = some 8 := by
  obtain ⟨t,ran,facts⟩ : ∃ t, machine.exec (idle none) loginRun = some t ∧ t.phase 0 = .live ∧ t.service 1 = false ∧
      t.disturbed = true ∧ t.restoring = false ∧ t.visible 0 = some 9 ∧ t.expected 0 = some 8 :=
    ⟨_,rfl,rfl,rfl,rfl,rfl,rfl,rfl⟩
  exact ⟨t,idle_quiet none,Machine.reaches_of_exec ran,facts⟩

theorem orderly_past {s : State α} {pid : Nat} {phase : Phase} (here : s.phase pid = phase)
    (past : ∀ later, phase ≠ .check later) : Orderly (.turn pid) s :=
  fun later checks => absurd (here.symm.trans checks) (past later)

theorem orderly_alone {s : State α} {pid : Nat} (serves : s.service pid = true)
    (others : ∀ other, other ≠ pid → (s.phase other).Outside) : Orderly (.turn pid) s :=
  fun _ _ _ => ⟨serves,others⟩

theorem orderly_unstaged {s : State α} (pid : Nat) (none : s.pending.isSome = false) : Orderly (.turn pid) s :=
  fun _ _ staged => by cases none.symm.trans staged

/-- The service starts with a restore staged, and opens what it brought. -/
theorem restore_quiescent_restart :
    ∃ t : State UInt8, t.visible 0 = some 9 ∧ (∀ entry ∈ t.opened, t.seen entry.2 0 = some 9) ∧ t.opened ≠ [] ∧
      t.disturbed = false := by
  have started : machine.Reaches Orderly (idle (some (oneByte 9))) _ := .step (.start 0 true) .start trivial rfl
  have found := started.step (.turn 0) (orderly_alone rfl fun other apart => by
    rw [moved_phase,Function.update_of_ne apart]
    trivial) rfl
  have verified := found.step (.turn 0) (orderly_past rfl fun _ => Phase.noConfusion) rfl
  have saved := verified.step (.turn 0) (orderly_past rfl fun _ => Phase.noConfusion) rfl
  have stripped := saved.step (.turn 0) (orderly_past rfl fun _ => Phase.noConfusion) rfl
  have cleared := stripped.step (.turn 0) (orderly_past rfl fun _ => Phase.noConfusion) rfl
  have replaced := cleared.step (.turn 0) (orderly_past rfl fun _ => Phase.noConfusion) rfl
  have none := replaced.step (.turn 0) (orderly_unstaged 0 rfl) rfl
  have connected := none.step (.turn 0) (orderly_past rfl fun _ => Phase.noConfusion) rfl
  obtain ⟨undisturbed,_,reads⟩ := restore_quiescent (idle_quiet _) connected
  obtain ⟨visible,seen⟩ := reads rfl
  refine ⟨_,?_,fun entry member => ?_,?_,undisturbed⟩
  · rw [visible]
    rfl
  · rw [seen entry member]
    rfl
  · exact List.cons_ne_nil _ _

end BitProtector.RestoreRaces
