import BitProtector.LastGoodCopy
import BitProtector.Foundation.Interleaving

/-! The queue summaries that the event bus sends: each is read by several queries, gets its
revision and is sent at last, while other publishers and writers of the queue go on; the
streams of the clients, and what a client shows that takes the last summary it got. -/
namespace BitProtector.QueueSnapshots

structure SyncSummary where
  total : Nat
  activeItems : Nat
  pendingItems : Nat
  inProgressItems : Nat
  completedItems : Nat
  failedItems : Nat
  queuePaused : Bool
  processingActive : Bool
  scanning : Bool
  scanTotalFiles : Nat
  scanScannedFiles : Nat
  scanActiveFolders : Nat
  deleting : Bool
  deleteActiveFolders : Nat
  revision : Nat
  deriving DecidableEq, Repr

def countSyncQueueByStatus (db : Db) (status : SyncStatus) : Nat :=
  db.syncQueue.rows.countP (fun item => item.status == status)

def countActiveSyncQueue (db : Db) : Nat := db.syncQueue.rows.countP (fun item => item.status.isOpen)

def countInProgressSyncQueue (db : Db) : Nat := countSyncQueueByStatus db .inProgress

/-- What the queries of one snapshot have answered so far. -/
structure Reading where
  /-- The version of the database at the first of them. -/
  asOf : Nat
  counts : SyncStatus → Nat
  active : Nat
  inProgress : Nat
  paused : Bool
  folders : List TrackedFolder
  revision : Nat

def Reading.blank : Reading := ⟨0,fun _ => 0,0,0,false,[],0⟩

/-- The statement of `SyncEventBus::snapshot` that is next. -/
inductive Read
  | counts
  | active
  | inProgress
  | paused
  | folders
  | revision
  | processingActive
  deriving DecidableEq, Repr

/-- A summary with the version of the database that it was read from. -/
structure Snapshot where
  summary : SyncSummary
  asOf : Nat
  deriving DecidableEq, Repr

def Snapshot.revision (snapshot : Snapshot) : Nat := snapshot.summary.revision

def summarize (reading : Reading) (processingActive : Bool) : SyncSummary where
  total := reading.active + reading.counts .completed + reading.counts .failed
  activeItems := reading.active
  pendingItems := reading.counts .pending
  inProgressItems := reading.inProgress
  completedItems := reading.counts .completed
  failedItems := reading.counts .failed
  queuePaused := reading.paused
  processingActive := processingActive
  scanning := reading.folders.countP TrackedFolder.scanning != 0
  scanTotalFiles := ((reading.folders.filter TrackedFolder.scanning).map TrackedFolder.scanTotalFiles).foldr (· + ·) 0
  scanScannedFiles := ((reading.folders.filter TrackedFolder.scanning).map fun folder =>
    min folder.scanScannedFiles folder.scanTotalFiles).foldr (· + ·) 0
  scanActiveFolders := reading.folders.countP TrackedFolder.scanning
  deleting := reading.folders.countP TrackedFolder.deleting != 0
  deleteActiveFolders := reading.folders.countP TrackedFolder.deleting
  revision := reading.revision

/-- What a snapshot is for. -/
inductive Purpose
  | publish
  /-- The initial one of a stream, whose receiver is at this place of the channel. -/
  | initial (position : Nat)
  deriving DecidableEq, Repr

structure Stream where
  position : Nat
  initialRevision : Nat
  /-- What was delivered before. -/
  earlier : List Snapshot
  /-- What was delivered last, and what the client shows. -/
  shown : Snapshot

def Stream.delivered (stream : Stream) : List Snapshot := stream.earlier ++ [stream.shown]

inductive Phase
  | idle
  | reading (purpose : Purpose) (next : Read) (sofar : Reading)
  | ready (purpose : Purpose) (snapshot : Snapshot)
  | streaming (stream : Stream)

structure Bus where
  db : Db
  /-- How often the database was changed. -/
  version : Nat
  /-- The database at each version. -/
  past : Nat → Db
  processingActive : Bool
  revision : Nat
  /-- Everything that was ever sent. -/
  channel : List Snapshot
  /-- Everything that was sent or was the first of a stream, in order. -/
  made : List Snapshot

/-- The capacity of the channel. -/
def capacity : Nat := 64

inductive Input
  | publish
  | subscribe
  /-- The next statement of a snapshot; a query may fail. -/
  | read (succeeds : Bool)
  | handOver
  | receive

inductive Event
  /-- Any statement that writes the database. -/
  | change (update : Db → Db)
  | processing (active : Bool)

/-- `unwrap_or`. -/
def orElse {α : Type} (succeeds : Bool) (value default : α) : α := if succeeds then value else default

def readNext (succeeds : Bool) (bus : Bus) (purpose : Purpose) (sofar : Reading) : Read → Bus × Phase
  | .counts =>
    (bus,.reading purpose .active { sofar with
      asOf := bus.version,counts := orElse succeeds (countSyncQueueByStatus bus.db) fun _ => 0 })
  | .active => (bus,.reading purpose .inProgress { sofar with active := orElse succeeds (countActiveSyncQueue bus.db) 0 })
  | .inProgress =>
    (bus,.reading purpose .paused { sofar with inProgress := orElse succeeds (countInProgressSyncQueue bus.db) 0 })
  | .paused =>
    (bus,.reading purpose .folders { sofar with paused := orElse succeeds bus.db.syncSettings.queuePaused false })
  | .folders => (bus,.reading purpose .revision { sofar with folders := orElse succeeds bus.db.trackedFolders.rows [] })
  | .revision =>
    ({ bus with revision := bus.revision + 1 },.reading purpose .processingActive { sofar with revision := bus.revision + 1 })
  | .processingActive => (bus,.ready purpose ⟨summarize sofar bus.processingActive,sofar.asOf⟩)

/-- A receiver that lags skips what the channel no longer holds, and one that is not at the end takes the next message. -/
def received (channel : List Snapshot) (stream : Stream) : Option Stream :=
  if capacity < channel.length - stream.position then some { stream with position := channel.length - capacity }
  else
    channel[stream.position]?.map fun snapshot =>
      if snapshot.revision < stream.initialRevision then { stream with position := stream.position + 1 }
      else ⟨stream.position + 1,stream.initialRevision,stream.delivered,snapshot⟩

def turn (input : Input) (bus : Bus) : Phase → Option (Bus × Phase)
  | .idle =>
    match input with
    | .publish => some (bus,.reading .publish .counts .blank)
    | .subscribe => some (bus,.reading (.initial bus.channel.length) .counts .blank)
    | _ => none
  | .reading purpose next sofar =>
    match input with
    | .read succeeds => some (readNext succeeds bus purpose sofar next)
    | _ => none
  | .ready .publish snapshot =>
    match input with
    | .handOver => some ({ bus with channel := bus.channel ++ [snapshot],made := bus.made ++ [snapshot] },.idle)
    | _ => none
  | .ready (.initial position) snapshot =>
    match input with
    | .handOver => some ({ bus with made := bus.made ++ [snapshot] },.streaming ⟨position,snapshot.revision,[],snapshot⟩)
    | _ => none
  | .streaming stream =>
    match input with
    | .receive => (received bus.channel stream).map fun next => (bus,.streaming next)
    | _ => none

def outside : Event → Bus → Bus
  | .change update, bus =>
    { bus with
      db := update bus.db
      version := bus.version + 1
      past := fun version => if version = bus.version + 1 then update bus.db else bus.past version }
  | .processing active, bus => { bus with processingActive := active }

abbrev State := Interleaved Bus Phase

def machine : Machine State (Move Input Event) := Interleaved.machine turn outside

def begin (db : Db) : State := ⟨⟨db,0,fun _ => db,false,0,[],[]⟩,fun _ => .idle⟩

/-- From the first query on until the snapshot is handed over. -/
def Phase.busy : Phase → Bool
  | .reading _ next _ => next != .counts
  | .ready _ _ => true
  | _ => false

/-- Between the first and the last query of the counts. -/
def Phase.counting : Phase → Bool
  | .reading _ next _ => next == .active || next == .inProgress
  | _ => false

/-- One snapshot at a time, from its first query until it is handed over; none of its counts fails;
and no count changes while they are read. -/
def Serial : Move Input Event → State → Prop
  | .turn i (.read succeeds), s => ∀ purpose next sofar, s.op i = .reading purpose next sofar →
      (next = .counts → ∀ j, j ≠ i → (s.op j).busy = false) ∧
      (next = .counts ∨ next = .active ∨ next = .inProgress → succeeds = true)
  | .outside (.change update), s =>
      (∀ status, countSyncQueueByStatus (update s.shared.db) status = countSyncQueueByStatus s.shared.db status) ∨
      ∀ j, (s.op j).counting = false
  | _, _ => True

/-- The counters of a summary are those of one state of the queue. -/
structure Describes (summary : SyncSummary) (db : Db) : Prop where
  pending : summary.pendingItems = countSyncQueueByStatus db .pending
  inProgress : summary.inProgressItems = countSyncQueueByStatus db .inProgress
  completed : summary.completedItems = countSyncQueueByStatus db .completed
  failed : summary.failedItems = countSyncQueueByStatus db .failed
  active : summary.activeItems = summary.pendingItems + summary.inProgressItems
  total : summary.total = summary.activeItems + summary.completedItems + summary.failedItems

/-- Snapshots are coherent and ordered: each describes one state of the queue, and a higher revision never an older one;
every stream delivers by increasing revision; a client that has taken everything, once the last change is published,
shows the queue as it is. -/
structure Coherent (s : State) : Prop where
  describes : ∀ m ∈ s.shared.made, m.asOf ≤ s.shared.version ∧ Describes m.summary (s.shared.past m.asOf)
  ordered : ∀ m ∈ s.shared.made, ∀ n ∈ s.shared.made, m.revision < n.revision → m.asOf ≤ n.asOf
  increasing : ∀ i stream, s.op i = .streaming stream → (∀ m ∈ stream.delivered, m ∈ s.shared.made) ∧
    stream.delivered.Pairwise (fun a b => a.revision < b.revision)
  shows : ∀ i stream, s.op i = .streaming stream → stream.position = s.shared.channel.length →
    (∃ m ∈ s.shared.channel ++ stream.delivered, m.asOf = s.shared.version) → Describes stream.shown.summary s.shared.db

theorem countActive_eq (db : Db) :
    countActiveSyncQueue db = countSyncQueueByStatus db .pending + countSyncQueueByStatus db .inProgress := by
  unfold countActiveSyncQueue countSyncQueueByStatus
  induction db.syncQueue.rows with
  | nil => rfl
  | cons item rows ih =>
    simp only [List.countP_cons,ih]
    cases item.status <;> simp [SyncStatus.isOpen] <;> omega

/-! What holds of the bus, and of whoever reads a snapshot or follows a stream. -/

structure BusSound (bus : Bus) : Prop where
  current : bus.past bus.version = bus.db
  ordered : bus.made.Pairwise (fun a b => a.revision < b.revision ∧ a.asOf ≤ b.asOf)
  known : ∀ m ∈ bus.made, m.asOf ≤ bus.version ∧ m.revision ≤ bus.revision
  describes : ∀ m ∈ bus.made, Describes m.summary (bus.past m.asOf)
  channel : bus.channel.Sublist bus.made

/-- The receiver of a stream is somewhere in the channel. -/
def Placed (bus : Bus) : Purpose → Prop
  | .publish => True
  | .initial position => position ≤ bus.channel.length

/-- A snapshot after its first query. -/
structure ReadingSound (bus : Bus) (next : Read) (sofar : Reading) : Prop where
  past : sofar.asOf ≤ bus.version
  later : ∀ m ∈ bus.made, m.asOf ≤ sofar.asOf
  counts : ∀ status, sofar.counts status = countSyncQueueByStatus (bus.past sofar.asOf) status
  still : next = .active ∨ next = .inProgress → ∀ status, countSyncQueueByStatus bus.db status = sofar.counts status
  active : next ≠ .active → sofar.active = sofar.counts .pending + sofar.counts .inProgress
  inProgress : next ≠ .active → next ≠ .inProgress → sofar.inProgress = sofar.counts .inProgress
  revision : next = .processingActive → sofar.revision ≤ bus.revision ∧ ∀ m ∈ bus.made, m.revision < sofar.revision

/-- A snapshot that is to be handed over. -/
structure Fresh (bus : Bus) (snapshot : Snapshot) : Prop where
  known : snapshot.asOf ≤ bus.version ∧ snapshot.revision ≤ bus.revision
  later : ∀ m ∈ bus.made, m.revision < snapshot.revision ∧ m.asOf ≤ snapshot.asOf
  describes : Describes snapshot.summary (bus.past snapshot.asOf)

structure StreamSound (bus : Bus) (stream : Stream) : Prop where
  placed : stream.position ≤ bus.channel.length
  made : ∀ m ∈ stream.delivered, m ∈ bus.made
  increasing : stream.delivered.Pairwise (fun a b => a.revision < b.revision)
  least : stream.initialRevision ≤ stream.shown.revision
  ahead : ∀ m ∈ bus.channel.drop stream.position, stream.initialRevision ≤ m.revision →
    stream.shown.revision < m.revision
  skipped : ∀ m ∈ bus.channel, m.revision < stream.initialRevision → m.asOf ≤ stream.shown.asOf
  caughtUp : stream.position = bus.channel.length → ∀ m ∈ bus.channel, m.asOf ≤ stream.shown.asOf

def PhaseSound (bus : Bus) : Phase → Prop
  | .idle => True
  | .reading purpose next sofar => Placed bus purpose ∧ (next ≠ .counts → ReadingSound bus next sofar)
  | .ready purpose snapshot => Placed bus purpose ∧ Fresh bus snapshot
  | .streaming stream => StreamSound bus stream

structure Invariant (s : State) : Prop where
  bus : BusSound s.shared
  phases : ∀ i, PhaseSound s.shared (s.op i)
  single : ∀ i j, (s.op i).busy = true → (s.op j).busy = true → i = j

theorem shown_delivered (stream : Stream) : stream.shown ∈ stream.delivered :=
  List.mem_append_right _ (List.mem_singleton.mpr rfl)

namespace Invariant

variable {s : State} (inv : Invariant s)
include inv

theorem others_idle {i : Nat} (busy : (s.op i).busy = true) {j : Nat} (apart : j ≠ i) : (s.op j).busy = false := by
  cases other : (s.op j).busy with
  | false => rfl
  | true => exact absurd (inv.single j i other busy) apart

theorem moved {i : Nat} {phase : Phase} (sound : PhaseSound s.shared phase)
    (begins : phase.busy = true → ∀ j, j ≠ i → (s.op j).busy = false) : Invariant (s.moved i s.shared phase) where
  bus := inv.bus
  phases := Interleaved.forall_moved (P := PhaseSound s.shared) sound fun j _ => inv.phases j
  single j k first second := by
    apply Interleaved.single_moved (R := fun a b : Phase => a.busy = true ∧ b.busy = true) (fun _ _ both => both.symm) _ _
      ⟨first,second⟩
    · exact fun j k both => inv.single j k both.1 both.2
    · rintro j apart ⟨busy,starts⟩
      cases (begins starts j apart).symm.trans busy

theorem advanced {i : Nat} (busy : (s.op i).busy = true) {bus : Bus} {phase : Phase} (sound : BusSound bus)
    (mine : PhaseSound bus phase)
    (others : ∀ j, j ≠ i → (s.op j).busy = false → PhaseSound s.shared (s.op j) → PhaseSound bus (s.op j)) :
    Invariant (s.moved i bus phase) where
  bus := sound
  phases := Interleaved.forall_moved (P := PhaseSound bus) mine fun j apart =>
    others j apart (inv.others_idle busy apart) (inv.phases j)
  single j k first second := by
    have only {l : Nat} (holds : ((s.moved i bus phase).op l).busy = true) : l = i := by
      by_contra apart
      rw [Interleaved.moved_other s _ _ apart,inv.others_idle busy apart] at holds
      cases holds
    rw [only first,only second]

end Invariant

theorem summarize_describes {bus : Bus} {sofar : Reading} (sound : ReadingSound bus .processingActive sofar)
    (processingActive : Bool) : Describes (summarize sofar processingActive) (bus.past sofar.asOf) := by
  have inProgress := sound.inProgress Read.noConfusion Read.noConfusion
  constructor
  · exact sound.counts .pending
  · exact inProgress.trans (sound.counts .inProgress)
  · exact sound.counts .completed
  · exact sound.counts .failed
  · simp only [summarize,sound.active Read.noConfusion,inProgress]
  · rfl

theorem reading_begun {bus : Bus} (sound : BusSound bus) (sofar : Reading) :
    ReadingSound bus .active { sofar with asOf := bus.version,counts := countSyncQueueByStatus bus.db } where
  past := Nat.le_refl _
  later m made := (sound.known m made).1
  counts status := by rw [sound.current]
  still _ _ := rfl
  active other := absurd rfl other
  inProgress other := absurd rfl other
  revision other := by cases other

theorem invariant_read {s : State} (inv : Invariant s) {i : Nat} {purpose : Purpose} {next : Read} {sofar : Reading}
    (at_ : s.op i = .reading purpose next sofar) {succeeds : Bool}
    (alone : next = .counts → ∀ j, j ≠ i → (s.op j).busy = false)
    (answers : next = .counts ∨ next = .active ∨ next = .inProgress → succeeds = true) :
    Invariant (s.moved i (readNext succeeds s.shared purpose sofar next).1
      (readNext succeeds s.shared purpose sofar next).2) := by
  have phase := inv.phases i
  rw [at_] at phase
  obtain ⟨placed,reading⟩ := phase
  have goesOn (early : next ≠ .counts) (phase : Phase) : phase.busy = true → ∀ j, j ≠ i → (s.op j).busy = false := by
    intro _ j apart
    apply inv.others_idle _ apart
    rw [at_]
    simp [Phase.busy,early]
  cases next with
  | counts =>
    rw [answers (.inl rfl)]
    exact inv.moved ⟨placed,fun _ => reading_begun inv.bus sofar⟩ fun _ => alone rfl
  | active =>
    rw [answers (.inr (.inl rfl))]
    have sound := reading Read.noConfusion
    refine inv.moved ⟨placed,fun _ => ?_⟩ (goesOn Read.noConfusion _)
    exact
      { sound with
        still := fun _ => sound.still (.inl rfl)
        active := fun _ => by
          have counted := sound.still (.inl rfl)
          rw [← counted,← counted]
          exact countActive_eq s.shared.db
        inProgress := fun _ other => absurd rfl other
        revision := fun other => by cases other }
  | inProgress =>
    rw [answers (.inr (.inr rfl))]
    have sound := reading Read.noConfusion
    refine inv.moved ⟨placed,fun _ => ?_⟩ (goesOn Read.noConfusion _)
    exact
      { sound with
        still := fun other => by rcases other with other | other <;> cases other
        active := fun _ => sound.active Read.noConfusion
        inProgress := fun _ _ => sound.still (.inr rfl) .inProgress
        revision := fun other => by cases other }
  | paused | folders =>
    have sound := reading Read.noConfusion
    refine inv.moved ⟨placed,fun _ => ?_⟩ (goesOn Read.noConfusion _)
    exact
      { sound with
        still := fun other => by rcases other with other | other <;> cases other
        active := fun _ => sound.active Read.noConfusion
        inProgress := fun _ _ => sound.inProgress Read.noConfusion Read.noConfusion
        revision := fun other => by cases other }
  | revision =>
    have sound := reading Read.noConfusion
    have grown (m : Snapshot) (made : m ∈ s.shared.made) : m.revision ≤ s.shared.revision + 1 :=
      Nat.le_succ_of_le (inv.bus.known m made).2
    refine inv.advanced (by rw [at_]; rfl)
      { inv.bus with known := fun m made => ⟨(inv.bus.known m made).1,grown m made⟩ } ⟨placed,fun _ => ?_⟩ ?_
    · exact
        { sound with
          still := fun other => by rcases other with other | other <;> cases other
          active := fun _ => sound.active Read.noConfusion
          inProgress := fun _ _ => sound.inProgress Read.noConfusion Read.noConfusion
          revision := fun _ => ⟨Nat.le_refl _,fun m made => Nat.lt_succ_of_le (inv.bus.known m made).2⟩ }
    · intro j _ idle holds
      cases other : s.op j with
      | idle => trivial
      | reading purpose next sofar =>
        rw [other] at idle holds
        refine ⟨holds.1,fun begun => ?_⟩
        simp [Phase.busy,begun] at idle
      | ready purpose snapshot =>
        rw [other] at idle
        cases idle
      | streaming stream =>
        rw [other] at holds
        exact { holds with }
  | processingActive =>
    have sound := reading Read.noConfusion
    obtain ⟨known,above⟩ := sound.revision rfl
    refine inv.moved ⟨placed,?_⟩ (goesOn Read.noConfusion _)
    exact ⟨⟨sound.past,known⟩,fun m made => ⟨above m made,sound.later m made⟩,summarize_describes sound _⟩

theorem busSound_handOver {bus : Bus} (sound : BusSound bus) {snapshot : Snapshot} (fresh : Fresh bus snapshot)
    {channel : List Snapshot} (sent : channel.Sublist (bus.made ++ [snapshot])) :
    BusSound { bus with channel := channel,made := bus.made ++ [snapshot] } where
  current := sound.current
  ordered := by
    apply List.pairwise_append.mpr
    refine ⟨sound.ordered,List.pairwise_singleton _ _,?_⟩
    intro m made last same
    rw [List.mem_singleton.mp same]
    exact fresh.later m made
  known m member := by
    rcases List.mem_append.mp member with made | same
    · exact sound.known m made
    · rw [List.mem_singleton.mp same]
      exact fresh.known
  describes m member := by
    rcases List.mem_append.mp member with made | same
    · exact sound.describes m made
    · rw [List.mem_singleton.mp same]
      exact fresh.describes
  channel := sent

theorem streamSound_sent {bus : Bus} {stream : Stream} (sound : StreamSound bus stream) {snapshot : Snapshot}
    (fresh : Fresh bus snapshot) :
    StreamSound { bus with channel := bus.channel ++ [snapshot],made := bus.made ++ [snapshot] } stream := by
  have above := (fresh.later _ (sound.made _ (shown_delivered stream))).1
  constructor
  · rw [List.length_append]
    exact Nat.le_add_right_of_le sound.placed
  · exact fun m delivered => List.mem_append_left _ (sound.made m delivered)
  · exact sound.increasing
  · exact sound.least
  · intro m member least
    rw [List.drop_append_of_le_length sound.placed] at member
    rcases List.mem_append.mp member with before | same
    · exact sound.ahead m before least
    · rw [List.mem_singleton.mp same]
      exact above
  · intro m member below
    rcases List.mem_append.mp member with before | same
    · exact sound.skipped m before below
    · rw [List.mem_singleton.mp same] at below
      have least := sound.least
      omega
  · intro atEnd
    have placed := sound.placed
    rw [List.length_append,List.length_singleton] at atEnd
    omega

theorem streamSound_made {bus : Bus} {stream : Stream} (sound : StreamSound bus stream) (snapshot : Snapshot) :
    StreamSound { bus with made := bus.made ++ [snapshot] } stream :=
  { sound with made := fun m delivered => List.mem_append_left _ (sound.made m delivered) }

theorem streamSound_begun {bus : Bus} (sound : BusSound bus) {snapshot : Snapshot} (fresh : Fresh bus snapshot)
    {position : Nat} (placed : position ≤ bus.channel.length) :
    StreamSound { bus with made := bus.made ++ [snapshot] } ⟨position,snapshot.revision,[],snapshot⟩ := by
  have later (m : Snapshot) (member : m ∈ bus.channel) := fresh.later m (sound.channel.subset member)
  constructor
  · exact placed
  · intro m delivered
    rw [List.mem_singleton.mp delivered]
    exact List.mem_append_right _ (List.mem_singleton.mpr rfl)
  · exact List.pairwise_singleton _ _
  · exact Nat.le_refl _
  · intro m member least
    exact absurd least (Nat.not_le_of_lt (later m (List.mem_of_mem_drop member)).1)
  · exact fun m member _ => (later m member).2
  · exact fun _ m member => (later m member).2

theorem phaseSound_handOver {bus next : Bus} {phase : Phase} (idle : phase.busy = false) (sound : PhaseSound bus phase)
    (grown : bus.channel.length ≤ next.channel.length) (streams : ∀ stream, StreamSound bus stream → StreamSound next stream) :
    PhaseSound next phase := by
  cases phase with
  | idle => trivial
  | reading purpose read sofar =>
    refine ⟨?_,fun begun => ?_⟩
    · cases purpose with
      | publish => trivial
      | initial position => exact Nat.le_trans sound.1 grown
    · simp [Phase.busy,begun] at idle
  | ready purpose snapshot => cases idle
  | streaming stream => exact streams stream sound

theorem invariant_publish {s : State} (inv : Invariant s) {i : Nat} {snapshot : Snapshot}
    (at_ : s.op i = .ready .publish snapshot) :
    Invariant (s.moved i { s.shared with channel := s.shared.channel ++ [snapshot],made := s.shared.made ++ [snapshot] }
      .idle) := by
  have phase := inv.phases i
  rw [at_] at phase
  obtain ⟨_,fresh⟩ := phase
  refine inv.advanced (by rw [at_]; rfl) (busSound_handOver inv.bus fresh ?_) trivial fun j _ idle sound => ?_
  · exact inv.bus.channel.append (List.Sublist.refl _)
  · apply phaseSound_handOver idle sound
    · rw [List.length_append]
      exact Nat.le_add_right _ _
    · exact fun stream holds => streamSound_sent holds fresh

theorem invariant_initial {s : State} (inv : Invariant s) {i position : Nat} {snapshot : Snapshot}
    (at_ : s.op i = .ready (.initial position) snapshot) :
    Invariant (s.moved i { s.shared with made := s.shared.made ++ [snapshot] }
      (.streaming ⟨position,snapshot.revision,[],snapshot⟩)) := by
  have phase := inv.phases i
  rw [at_] at phase
  obtain ⟨placed,fresh⟩ := phase
  refine inv.advanced (by rw [at_]; rfl) (busSound_handOver inv.bus fresh ?_) (streamSound_begun inv.bus fresh placed)
    fun j _ idle sound => ?_
  · exact inv.bus.channel.trans (List.sublist_append_left _ _)
  · exact phaseSound_handOver idle sound (Nat.le_refl _) fun stream holds => streamSound_made holds snapshot

theorem asOf_of_revision {made : List Snapshot}
    (ordered : made.Pairwise (fun a b => a.revision < b.revision ∧ a.asOf ≤ b.asOf)) {m n : Snapshot} (first : m ∈ made)
    (second : n ∈ made) (less : m.revision < n.revision) : m.asOf ≤ n.asOf := by
  obtain ⟨i,inFirst,rfl⟩ := List.mem_iff_getElem.mp first
  obtain ⟨j,inSecond,rfl⟩ := List.mem_iff_getElem.mp second
  rcases Nat.lt_trichotomy i j with before | same | after
  · exact (List.pairwise_iff_getElem.mp ordered i j inFirst inSecond before).2
  · subst same
    exact absurd less (Nat.lt_irrefl _)
  · have greater := (List.pairwise_iff_getElem.mp ordered j i inSecond inFirst after).1
    omega

theorem channel_at {channel : List Snapshot}
    (ordered : channel.Pairwise (fun a b => a.revision < b.revision ∧ a.asOf ≤ b.asOf)) {position : Nat}
    {snapshot : Snapshot} (at_ : channel[position]? = some snapshot) :
    snapshot ∈ channel.drop position ∧ position < channel.length ∧
      (∀ m ∈ channel.drop (position + 1), snapshot.revision < m.revision) ∧
      (position + 1 = channel.length → ∀ m ∈ channel, m = snapshot ∨ m.revision < snapshot.revision ∧
        m.asOf ≤ snapshot.asOf) := by
  obtain ⟨inside,found⟩ := List.getElem?_eq_some_iff.mp at_
  have rest : channel.drop position = snapshot::channel.drop (position + 1) := by
    rw [List.drop_eq_getElem_cons inside,found]
  have split : channel = channel.take position ++ snapshot::channel.drop (position + 1) := by
    rw [← rest,List.take_append_drop]
  rw [split] at ordered
  obtain ⟨_,behind,across⟩ := List.pairwise_append.mp ordered
  refine ⟨by rw [rest]; exact List.mem_cons_self,inside,fun m member => (List.rel_of_pairwise_cons behind member).1,?_⟩
  intro atEnd m member
  rw [split,atEnd,List.drop_length] at member
  rcases List.mem_append.mp member with before | same
  · exact .inr (across m before snapshot List.mem_cons_self)
  · exact .inl (List.mem_singleton.mp same)

theorem delivered_le {stream : Stream} (increasing : stream.delivered.Pairwise (fun a b => a.revision < b.revision))
    {m : Snapshot} (delivered : m ∈ stream.delivered) : m.revision ≤ stream.shown.revision := by
  rcases List.mem_append.mp delivered with before | same
  · exact Nat.le_of_lt ((List.pairwise_append.mp increasing).2.2 m before _ (List.mem_singleton.mpr rfl))
  · rw [List.mem_singleton.mp same]

theorem streamSound_received {bus : Bus} (sound : BusSound bus) {stream next : Stream} (holds : StreamSound bus stream)
    (taken : received bus.channel stream = some next) : StreamSound bus next := by
  have ordered := sound.ordered.sublist sound.channel
  unfold received at taken
  split at taken
  · rename_i lags
    cases taken
    have positive : 0 < capacity := by decide
    have further : stream.position ≤ bus.channel.length - capacity := by omega
    exact
      { holds with
        placed := Nat.sub_le _ _
        ahead := fun m member => holds.ahead m (List.drop_subset_drop_left _ further member)
        caughtUp := fun atEnd => by
          change bus.channel.length - capacity = bus.channel.length at atEnd
          omega }
  · obtain ⟨snapshot,found,rfl⟩ := Option.map_eq_some_iff.mp taken
    obtain ⟨here,inside,behind,last⟩ := channel_at ordered found
    have sent : snapshot ∈ bus.channel := List.mem_of_mem_drop here
    split
    · rename_i early
      exact
        { holds with
          placed := inside
          ahead := fun m member => holds.ahead m (List.drop_subset_drop_left _ (Nat.le_succ _) member)
          caughtUp := fun atEnd m member => by
            apply holds.skipped m member
            rcases last atEnd m member with rfl | ⟨less,_⟩
            · exact early
            · exact Nat.lt_trans less early }
    · rename_i least
      have least := Nat.not_lt.mp least
      have above := holds.ahead snapshot here least
      constructor
      · exact inside
      · intro m member
        rcases List.mem_append.mp member with before | same
        · exact holds.made m before
        · rw [List.mem_singleton.mp same]
          exact sound.channel.subset sent
      · apply List.pairwise_append.mpr
        refine ⟨holds.increasing,List.pairwise_singleton _ _,?_⟩
        intro m before n same
        rw [List.mem_singleton.mp same]
        exact Nat.lt_of_le_of_lt (delivered_le holds.increasing before) above
      · exact least
      · exact fun m member _ => behind m member
      · intro m member below
        exact asOf_of_revision sound.ordered (sound.channel.subset member) (sound.channel.subset sent)
          (Nat.lt_of_lt_of_le below least)
      · intro atEnd m member
        rcases last atEnd m member with rfl | ⟨_,older⟩
        · exact Nat.le_refl _
        · exact older

theorem invariant_turn {s : State} (inv : Invariant s) (i : Nat) (input : Input) (serial : Serial (.turn i input) s)
    {next : Bus × Phase} (turned : turn input s.shared (s.op i) = some next) : Invariant (s.moved i next.1 next.2) := by
  cases at_ : s.op i with
  | idle =>
    rw [at_] at turned
    cases input with
    | publish =>
      cases turned
      exact inv.moved ⟨trivial,fun other => absurd rfl other⟩ fun busy => by cases busy
    | subscribe =>
      cases turned
      exact inv.moved ⟨Nat.le_refl _,fun other => absurd rfl other⟩ fun busy => by cases busy
    | read succeeds => cases turned
    | handOver => cases turned
    | receive => cases turned
  | reading purpose read sofar =>
    rw [at_] at turned
    cases input with
    | read succeeds =>
      cases turned
      obtain ⟨alone,answers⟩ := serial purpose read sofar at_
      exact invariant_read inv at_ alone answers
    | publish => cases turned
    | subscribe => cases turned
    | handOver => cases turned
    | receive => cases turned
  | ready purpose snapshot =>
    rw [at_] at turned
    cases purpose with
    | publish =>
      cases input with
      | handOver =>
        cases turned
        exact invariant_publish inv at_
      | publish => cases turned
      | subscribe => cases turned
      | read succeeds => cases turned
      | receive => cases turned
    | initial position =>
      cases input with
      | handOver =>
        cases turned
        exact invariant_initial inv at_
      | publish => cases turned
      | subscribe => cases turned
      | read succeeds => cases turned
      | receive => cases turned
  | streaming stream =>
    have sound := inv.phases i
    rw [at_] at turned sound
    cases input with
    | receive =>
      obtain ⟨later,taken,rfl⟩ := Option.map_eq_some_iff.mp turned
      exact inv.moved (streamSound_received inv.bus sound taken) fun busy => by cases busy
    | publish => cases turned
    | subscribe => cases turned
    | read succeeds => cases turned
    | handOver => cases turned

theorem past_changed (bus : Bus) (update : Db → Db) {version : Nat} (old : version ≤ bus.version) :
    (outside (.change update) bus).past version = bus.past version :=
  if_neg (by omega)

theorem invariant_change {s : State} (inv : Invariant s) (update : Db → Db) (serial : Serial (.outside (.change update)) s) :
    Invariant { s with shared := outside (.change update) s.shared } := by
  constructor
  · exact
      { inv.bus with
        current := if_pos rfl
        known := fun m made => ⟨Nat.le_succ_of_le (inv.bus.known m made).1,(inv.bus.known m made).2⟩
        describes := fun m made => by
          rw [past_changed s.shared update (inv.bus.known m made).1]
          exact inv.bus.describes m made }
  · intro i
    have sound := inv.phases i
    cases at_ : s.op i with
    | idle => trivial
    | streaming stream =>
      rw [at_] at sound
      exact { sound with }
    | ready purpose snapshot =>
      rw [at_] at sound
      obtain ⟨placed,fresh⟩ := sound
      refine ⟨by cases purpose <;> exact placed,?_⟩
      exact
        { fresh with
          known := ⟨Nat.le_succ_of_le fresh.known.1,fresh.known.2⟩
          describes := by
            rw [past_changed s.shared update fresh.known.1]
            exact fresh.describes }
    | reading purpose next sofar =>
      rw [at_] at sound
      obtain ⟨placed,reading⟩ := sound
      refine ⟨by cases purpose <;> exact placed,fun begun => ?_⟩
      have sound := reading begun
      exact
        { sound with
          past := Nat.le_succ_of_le sound.past
          counts := fun status => by
            rw [past_changed s.shared update sound.past]
            exact sound.counts status
          still := fun counting status => by
            rcases serial with same | quiet
            · exact (same status).trans (sound.still counting status)
            · have idle := quiet i
              rw [at_] at idle
              rcases counting with rfl | rfl <;> cases idle }
  · exact inv.single

theorem invariant_begin (db : Db) : Invariant (begin db) where
  bus :=
    { current := rfl
      ordered := .nil
      known := fun m member => by cases member
      describes := fun m member => by cases member
      channel := .slnil }
  phases _ := trivial
  single i j busy := by cases busy

theorem invariant_processing {s : State} (inv : Invariant s) (active : Bool) :
    Invariant { s with shared := outside (.processing active) s.shared } := by
  refine ⟨{ inv.bus with },fun i => ?_,inv.single⟩
  have sound := inv.phases i
  cases at_ : s.op i with
  | idle => trivial
  | reading purpose next sofar =>
    rw [at_] at sound
    exact ⟨by cases purpose <;> exact sound.1,fun begun => { sound.2 begun with }⟩
  | ready purpose snapshot =>
    rw [at_] at sound
    exact ⟨by cases purpose <;> exact sound.1,{ sound.2 with }⟩
  | streaming stream =>
    rw [at_] at sound
    exact { sound with }

theorem asOf_le_shown {bus : Bus} (sound : BusSound bus) {stream : Stream} (holds : StreamSound bus stream)
    (atEnd : stream.position = bus.channel.length) {m : Snapshot} (member : m ∈ bus.channel ++ stream.delivered) :
    m.asOf ≤ stream.shown.asOf := by
  have shown := shown_delivered stream
  rcases List.mem_append.mp member with sent | delivered
  · exact holds.caughtUp atEnd m sent
  · rcases List.mem_append.mp delivered with before | same
    · have less := (List.pairwise_append.mp holds.increasing).2.2 m before _ (List.mem_singleton.mpr rfl)
      exact asOf_of_revision sound.ordered (holds.made m delivered) (holds.made _ shown) less
    · rw [List.mem_singleton.mp same]

/-- With one snapshot at a time, and none over a change of the counts, the snapshots are coherent. -/
theorem snapshots_coherent {db : Db} {s : State} (reached : machine.Reaches Serial (begin db) s) : Coherent s := by
  have inv : Invariant s := by
    apply Interleaved.invariant_of_turns (I := Invariant) reached (invariant_begin db)
    · intro i input s next inv serial turned
      exact invariant_turn inv i input serial turned
    · intro event s inv serial
      cases event with
      | change update => exact invariant_change inv update serial
      | processing active => exact invariant_processing inv active
  have streams {i : Nat} {stream : Stream} (at_ : s.op i = .streaming stream) : StreamSound s.shared stream := by
    have sound := inv.phases i
    rw [at_] at sound
    exact sound
  constructor
  · exact fun m made => ⟨(inv.bus.known m made).1,inv.bus.describes m made⟩
  · exact fun m first n second => asOf_of_revision inv.bus.ordered first second
  · exact fun i stream at_ => ⟨(streams at_).made,(streams at_).increasing⟩
  · rintro i stream at_ atEnd ⟨m,member,latest⟩
    have shown := (streams at_).made _ (shown_delivered stream)
    have reaches := asOf_le_shown inv.bus (streams at_) atEnd member
    have current : stream.shown.asOf = s.shared.version :=
      Nat.le_antisymm (inv.bus.known _ shown).1 (latest ▸ reaches)
    have describes := inv.bus.describes _ shown
    rw [current,inv.bus.current] at describes
    exact describes

/-! A stream that has begun, a publisher that is held up before it sends, and one that overtakes it. -/

def completed (db : Db) : Db := db.updateSyncQueueStatus corruptedItem.id .completed none

def snapshotBy (i : Nat) : List (Move Input Event) := List.replicate 7 (.turn i (.read true))

def overtaken : List (Move Input Event) :=
  [.turn 2 .subscribe] ++ snapshotBy 2 ++ [.turn 2 .handOver,.turn 0 .publish] ++ snapshotBy 0 ++
    [.outside (.change completed),.turn 1 .publish] ++ snapshotBy 1 ++
    [.turn 1 .handOver,.turn 0 .handOver,.turn 2 .receive,.turn 2 .receive]

theorem overtaken_shows_the_old_queue : ¬ ∀ db s, machine.Reaches (fun _ _ => True) (begin db) s → Coherent s := by
  intro always
  obtain ⟨s,ran,stream,at_,position,latest,shown,now⟩ : ∃ s, machine.exec (begin corruptedWorld.db) overtaken = some s ∧
      ∃ stream, s.op 2 = .streaming stream ∧ stream.position = s.shared.channel.length ∧
        (∃ m ∈ s.shared.channel ++ stream.delivered, m.asOf = s.shared.version) ∧
        stream.shown.summary.pendingItems = 1 ∧ countSyncQueueByStatus s.shared.db .pending = 0 :=
    ⟨_,rfl,_,rfl,rfl,⟨_,List.mem_cons_self,rfl⟩,rfl,rfl⟩
  have shows := (always _ s (Machine.reaches_of_exec ran)).shows 2 stream at_ position latest
  have same := shows.pending
  rw [shown,now] at same
  cases same

/-- Nobody but one operation is at a snapshot. -/
def OnlyBusy (i : Nat) (s : State) : Prop := ∀ j, j ≠ i → (s.op j).busy = false

theorem serial_turns (i : Nat) (inputs : List Input) (succeed : ∀ input ∈ inputs, input ≠ .read false) {start s t : State}
    (before : machine.Reaches Serial start s) (alone : OnlyBusy i s)
    (ran : machine.exec s (inputs.map (Move.turn i)) = some t) : machine.Reaches Serial start t ∧ OnlyBusy i t := by
  induction inputs generalizing s with
  | nil =>
    cases ran
    exact ⟨before,alone⟩
  | cons input rest ih =>
    obtain ⟨middle,taken,ran⟩ := Option.bind_eq_some_iff.mp ran
    have serial : Serial (.turn i input) s := by
      cases input with
      | read succeeds =>
        intro purpose next sofar _
        refine ⟨fun _ => alone,fun _ => ?_⟩
        have read := succeed _ List.mem_cons_self
        cases succeeds with
        | true => rfl
        | false => exact absurd rfl read
      | _ => trivial
    have reached := before.step _ serial taken
    obtain ⟨next,_,rfl⟩ := Option.map_eq_some_iff.mp taken
    have others : OnlyBusy i (s.moved i next.1 next.2) := fun j apart => by
      rw [Interleaved.moved_other s _ _ apart]
      exact alone j apart
    exact ih (fun other member => succeed other (List.mem_cons_of_mem _ member)) reached others ran

theorem OnlyBusy.next {i : Nat} {s : State} (alone : OnlyBusy i s) (done : (s.op i).busy = false) (j : Nat) :
    OnlyBusy j s := by
  intro k _
  by_cases same : k = i
  · rw [same,done]
  · exact alone k same

theorem serial_change {i : Nat} (update : Db → Db) {start s : State} (before : machine.Reaches Serial start s)
    (alone : OnlyBusy i s) (done : (s.op i).busy = false) :
    let after : State := { s with shared := outside (.change update) s.shared }
    machine.Reaches Serial start after ∧ OnlyBusy i after := by
  refine ⟨before.step (.outside (.change update)) (.inr fun j => ?_) rfl,alone⟩
  have quiet : (s.op j).busy = false := by
    by_cases same : j = i
    · rw [same,done]
    · exact alone j same
  cases at_ : s.op j with
  | reading purpose next sofar =>
    rw [at_] at quiet
    cases next with
    | active => cases quiet
    | inProgress => cases quiet
    | _ => rfl
  | _ => rfl

def wholeSnapshot (first : Input) : List Input := first::List.replicate 7 (.read true) ++ [.handOver]

/-- A stream begins, the queue is published, it changes, it is published once more, and the client takes both. -/
theorem snapshots_coherent_published :
    ∃ (s : State) (stream : Stream), s.op 0 = .streaming stream ∧ stream.delivered.map Snapshot.revision = [1,2,3] ∧
      stream.delivered.map (fun sent => sent.summary.pendingItems) = [1,1,0] ∧ Describes stream.shown.summary s.shared.db := by
  have quiet : OnlyBusy 0 (begin corruptedWorld.db) := fun _ _ => rfl
  have succeed (first : Input) (begins : first ≠ .read false) : ∀ input ∈ wholeSnapshot first, input ≠ .read false := by
    intro input member
    simp [wholeSnapshot] at member
    rcases member with rfl | rfl | rfl <;> simp [begins]
  have streaming := serial_turns 0 _ (succeed .subscribe nofun) .start quiet rfl
  have published := serial_turns 1 _ (succeed .publish nofun) streaming.1 (streaming.2.next rfl 1) rfl
  have changed := serial_change completed published.1 published.2 rfl
  have publishedAgain := serial_turns 2 _ (succeed .publish nofun) changed.1 (changed.2.next rfl 2) rfl
  have taken := serial_turns 0 [.receive,.receive] (by simp) publishedAgain.1 (publishedAgain.2.next rfl 0) rfl
  exact ⟨_,_,rfl,rfl,rfl,(snapshots_coherent taken.1).shows 0 _ rfl rfl ⟨_,List.mem_append_left _ (.tail _ (.head _)),rfl⟩⟩

end BitProtector.QueueSnapshots
