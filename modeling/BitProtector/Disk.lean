import BitProtector.Repository
import BitProtector.Foundation.Effect

/-! The drives as the program sees them: for every root and relative path at
most one file node, whose reads may break off at some offset, and the faults of
one operation's system calls. Where nothing is said of the naming, different roots are
different directories, and different texts below them different files. -/
namespace BitProtector

/-- `PathBuf::from(root).join(relative_path)`. -/
structure Location where
  root : String
  relativePath : String
  deriving DecidableEq, Repr

def Location.display (path : Location) : String := path.root ++ "/" ++ path.relativePath

/-- The file that a text below a root leads to. An absolute text leaves the root, and `..` and links may. -/
class Naming where
  place : String → String → Location

/-- Every text leads to a file of its own. -/
instance plainNaming : Naming := ⟨Location.mk⟩

@[simp] theorem place_plain (root relativePath : String) : Naming.place root relativePath = ⟨root,relativePath⟩ := rfl

/-- A file. Reads at or after `brokenAt` fail; `some 0` is an unreadable file or a
directory that stands in the file's place. -/
structure FileNode where
  bytes : List UInt8
  brokenAt : Option Nat
  deriving DecidableEq, Repr

structure Disk where
  node : Location → Option FileNode
  /-- `path_is_available`: the root is a directory that can be listed. -/
  available : String → Bool

namespace Disk

def exists? (disk : Disk) (path : Location) : Bool := (disk.node path).isSome

def write (disk : Disk) (path : Location) (bytes : List UInt8) : Disk :=
  { disk with node := fun other => if other = path then some ⟨bytes,none⟩ else disk.node other }

def remove (disk : Disk) (path : Location) : Disk :=
  { disk with node := fun other => if other = path then none else disk.node other }

/-- A root directory that was not there is created. -/
def mount (disk : Disk) (root : String) : Disk :=
  { disk with available := fun other => other == root || disk.available other }

@[simp] theorem write_available (disk : Disk) (path bytes) : (disk.write path bytes).available = disk.available := rfl

@[simp] theorem write_same (disk : Disk) (path bytes) : (disk.write path bytes).node path = some ⟨bytes,none⟩ := by
  simp [write]

theorem write_other (disk : Disk) {path other : Location} (bytes) (ne : other ≠ path) :
    (disk.write path bytes).node other = disk.node other := by
  simp [write,ne]

@[simp] theorem remove_same (disk : Disk) (path) : (disk.remove path).node path = none := by
  simp [remove]

theorem remove_other (disk : Disk) {path other : Location} (ne : other ≠ path) :
    (disk.remove path).node other = disk.node other := by
  simp [remove,ne]

@[simp] theorem write_write (disk : Disk) (path first second) :
    (disk.write path first).write path second = disk.write path second := by
  simp only [write,Disk.mk.injEq,and_true]
  funext other
  split <;> rfl

@[simp] theorem write_remove (disk : Disk) (path bytes) : (disk.write path bytes).remove path = disk.remove path := by
  simp only [write,remove,Disk.mk.injEq,and_true]
  funext other
  split <;> rfl

theorem write_self {disk : Disk} {path : Location} {bytes : List UInt8}
    (holds : disk.node path = some ⟨bytes,none⟩) : disk.write path bytes = disk := by
  cases disk
  simp only [write,Disk.mk.injEq,and_true]
  funext other
  split
  · rename_i same
    rw [same]
    exact holds.symm
  · rfl

end Disk

/-- The text of an `io::Error`. -/
def osError : String := "input/output error"

/-- What the system calls of one operation answer, beyond the state of the disk. -/
structure Io where
  /-- `File::open` of an existing file succeeds. -/
  openRead : Location → Bool
  /-- `File::create` succeeds. -/
  create : Location → Bool
  /-- `create_dir_all` of the parent directory succeeds. -/
  createDirAll : Location → Bool
  /-- That `create_dir_all` had to create the root, which is a directory from then on. -/
  createsRoot : String → Bool
  /-- How many bytes a `read` at an offset asks the device for. -/
  readLen : Location → Nat → Nat
  /-- How many bytes the device takes at a path before a write fails. -/
  writeLimit : Location → Option Nat
  flush : Location → Bool
  copyPermissions : Location → Bool
  removeFile : Location → Bool
  writeMarker : String → Bool
  ensureWorldReadable : Location → Bool
  /-- The sidecar write of `accept_current`. -/
  writeFile : Location → Bool
  /-- The path is a regular file. -/
  isFile : Location → Bool

/-- The device answers every call. -/
def Io.healthy : Io where
  openRead _ := true
  create _ := true
  createDirAll _ := true
  createsRoot _ := false
  readLen _ _ := 65536
  writeLimit _ := none
  flush _ := true
  copyPermissions _ := true
  removeFile _ := true
  writeMarker _ := true
  ensureWorldReadable _ := true
  writeFile _ := true
  isFile _ := true

structure World where
  db : Db
  disk : Disk

/-- A step of the program: `?` keeps the writes made before the error. -/
abbrev Act := EStateM String World

namespace Act

def query {α : Type} (read : Db → Except String α) : Act α := fun w =>
  match read w.db with
  | .ok value => .ok value w
  | .error message => .error message w

def execute (update : Db → Db) : Act Unit := fun w => .ok () { w with db := update w.db }

def insert {α : Type} (update : Db → α × Db) : Act α := fun w =>
  .ok (update w.db).1 { w with db := (update w.db).2 }

def insertOrFail {α : Type} (update : Db → Except String α × Db) : Act α := fun w =>
  match (update w.db).1 with
  | .ok value => .ok value { w with db := (update w.db).2 }
  | .error message => .error message { w with db := (update w.db).2 }

def look {α : Type} (view : Disk → α) : Act α := fun w => .ok (view w.disk) w

def store (update : Disk → Disk) : Act Unit := fun w => .ok () { w with disk := update w.disk }

/-- `anyhow::bail!`. -/
def bail {α : Type} (message : String) : Act α := fun w => .error message w

/-- `.context(..)` and `.map_err(..)`: only the text of the error changes. -/
def mapErr {α : Type} (text : String → String) (x : Act α) : Act α := fun w =>
  match x w with
  | .ok value t => .ok value t
  | .error message t => .error (text message) t

/-- `anyhow::ensure!`. -/
def ensure (condition : Bool) (message : String) : Act Unit := fun w =>
  if condition then .ok () w else .error message w

@[simp] theorem execute_apply (update : Db → Db) (w : World) :
    execute update w = .ok () { w with db := update w.db } := rfl

@[simp] theorem look_apply {α : Type} (view : Disk → α) (w : World) : look view w = .ok (view w.disk) w := rfl

@[simp] theorem store_apply (update : Disk → Disk) (w : World) :
    store update w = .ok () { w with disk := update w.disk } := rfl

@[simp] theorem insert_apply {α : Type} (update : Db → α × Db) (w : World) :
    insert update w = .ok (update w.db).1 { w with db := (update w.db).2 } := rfl

@[simp] theorem ensure_true (message : String) (w : World) : ensure true message w = .ok () w := rfl

@[simp] theorem ensure_false (message : String) (w : World) : ensure false message w = .error message w := rfl

theorem query_success {α : Type} {read : Db → Except String α} {w t : World} {a : α}
    (ok : query read w = .ok a t) : read w.db = .ok a ∧ t = w := by
  unfold query at ok
  cases value : read w.db with
  | error message => simp [value] at ok
  | ok value =>
    simp only [value,EStateM.Result.ok.injEq] at ok
    exact ⟨by rw [ok.1],ok.2.symm⟩

theorem ensure_success {condition : Bool} {message : String} {w t : World}
    (ok : ensure condition message w = .ok () t) : condition = true ∧ t = w := by
  cases condition with
  | false => cases ok
  | true =>
    cases ok
    exact ⟨rfl,rfl⟩

theorem look_success {α : Type} {view : Disk → α} {w t : World} {a : α} (ok : look view w = .ok a t) :
    a = view w.disk ∧ t = w := by
  cases ok
  exact ⟨rfl,rfl⟩

theorem insertOrFail_success {α : Type} {update : Db → Except String α × Db} {w t : World} {a : α}
    (ok : insertOrFail update w = .ok a t) : t = { w with db := (update w.db).2 } := by
  unfold insertOrFail at ok
  split at ok
  · cases ok
    rfl
  · cases ok

theorem insertOrFail_value {α : Type} {update : Db → Except String α × Db} {w t : World} {a : α}
    (ok : insertOrFail update w = .ok a t) : update w.db = (.ok a,t.db) := by
  unfold insertOrFail at ok
  split at ok
  · rename_i value stored
    cases ok
    rw [← stored]
  · cases ok

theorem mapErr_success {α : Type} {text : String → String} {x : Act α} {w t : World} {a : α}
    (ok : mapErr text x w = .ok a t) : x w = .ok a t := by
  unfold mapErr at ok
  split at ok
  · rename_i ran
    cases ok
    exact ran
  · cases ok

theorem mapErr_of_ok {α : Type} {x : Act α} {w t : World} {a : α} (ok : x w = .ok a t) (text : String → String) :
    mapErr text x w = .ok a t := by
  simp only [mapErr,ok]

theorem mapErr_of_error {α : Type} {x : Act α} {w t : World} {message : String} (failed : x w = .error message t)
    (text : String → String) : mapErr text x w = .error (text message) t := by
  simp only [mapErr,failed]

@[simp] theorem after_mapErr {α : Type} (text : String → String) (x : Act α) (w : World) :
    Effect.after (mapErr text x) w = Effect.after x w := by
  unfold Effect.after mapErr
  cases x w <;> rfl

@[simp] theorem after_query {α : Type} (read : Db → Except String α) (w : World) :
    Effect.after (query read) w = w := by
  unfold Effect.after query
  cases read w.db <;> rfl

theorem after_insertOrFail {α : Type} (update : Db → Except String α × Db) (w : World) :
    Effect.after (insertOrFail update) w = { w with db := (update w.db).2 } := by
  unfold Effect.after insertOrFail
  cases (update w.db).1 <;> rfl

end Act

/-- The files stay as they are. -/
def DiskKept (w t : World) : Prop := t.disk = w.disk

instance : IsPreorder World DiskKept where
  refl _ := rfl
  trans _ _ _ first second := Eq.trans second first

theorem diskKept_query {α : Type} (read : Db → Except String α) : Effect.Keeps DiskKept (Act.query read) := by
  intro w
  unfold Effect.after Act.query
  cases read w.db <;> rfl

theorem diskKept_execute (update : Db → Db) : Effect.Keeps DiskKept (Act.execute update) := fun _ => rfl

/-- The tables stay as they are. -/
def DbKept (w t : World) : Prop := t.db = w.db

instance : IsPreorder World DbKept where
  refl _ := rfl
  trans _ _ _ first second := Eq.trans second first

theorem dbKept_look {α : Type} (view : Disk → α) : Effect.Keeps DbKept (Act.look view) := fun _ => rfl

theorem dbKept_store (update : Disk → Disk) : Effect.Keeps DbKept (Act.store update) := fun _ => rfl

theorem dbKept_bail {α : Type} (message : String) : Effect.Keeps DbKept (Act.bail message : Act α) := fun _ => rfl

theorem dbKept_ensure (condition : Bool) (message : String) : Effect.Keeps DbKept (Act.ensure condition message) := by
  intro w
  cases condition <;> rfl

theorem dbKept_mapErr {α : Type} {x : Act α} (text : String → String) (inner : Effect.Keeps DbKept x) :
    Effect.Keeps DbKept (Act.mapErr text x) := by
  intro w
  rw [Act.after_mapErr]
  exact inner w

end BitProtector
