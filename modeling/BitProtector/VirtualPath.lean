import BitProtector.Drive
import BitProtector.Foundation.Passes
import Mathlib.Data.List.DropRight

/-! Virtual paths: their normal form, the reservations that keep them apart, and the
symlinks that stand at them. A path text means the list of its components to the
operating system; a symlinked parent directory is not followed. -/
namespace BitProtector.VirtualPath
open Effect

/-! Normalisation. -/

/-- `char::is_whitespace`. -/
def isWhitespace (c : Char) : Bool :=
  (9 ≤ c.toNat && c.toNat ≤ 13) || c.toNat == 0x20 || c.toNat == 0x85 || c.toNat == 0xA0 || c.toNat == 0x1680 ||
    (0x2000 ≤ c.toNat && c.toNat ≤ 0x200A) || c.toNat == 0x2028 || c.toNat == 0x2029 || c.toNat == 0x202F ||
    c.toNat == 0x205F || c.toNat == 0x3000

/-- `str::trim`. -/
def trim (text : List Char) : List Char :=
  ((text.dropWhile isWhitespace).reverse.dropWhile isWhitespace).reverse

/-- The walk over `Path::components`, which skips empty and `.` components. -/
def normalizeSegments (virtualPath : String) : List (List Char) → Except String (List (List Char))
  | [] => .ok []
  | segment::rest =>
    if segment = [] ∨ segment = ['.'] then normalizeSegments virtualPath rest
    else if segment = ['.','.'] then .error "Parent-directory traversal is not allowed in virtual paths"
    else if trim segment = [] then
      .error s!"Virtual path segments may not be empty or whitespace-only: {virtualPath}"
    else do
      let segments ← normalizeSegments virtualPath rest
      pure (trim segment::segments)

/-- `format!("/{}", segments.join("/"))`. -/
def joinSegments (segments : List (List Char)) : List Char := '/'::['/'].intercalate segments

def normalizeVirtualPath (virtualPath : String) : Except String String :=
  let trimmed := trim virtualPath.toList
  if trimmed = [] then .error "Virtual path is required"
  else if trimmed.head? ≠ some '/' then
    .error s!"Virtual path must be absolute (start with /): {virtualPath}"
  else do
    let segments ← normalizeSegments virtualPath (trimmed.splitOn '/')
    if segments = [] then .error "Virtual paths may not use the filesystem root"
    else .ok (String.ofList (joinSegments segments))

/-! Owners, reservations and mappings. -/

inductive VirtualOwner
  | file (id : Nat)
  | folder (id : Nat)
  deriving DecidableEq, Repr

/-- A row of `tracked_files` or `tracked_folders` that has a virtual path. -/
structure VirtualEntry where
  owner : VirtualOwner
  drivePairId : Nat
  virtualPath : String
  relativePath : String
  deriving DecidableEq, Repr

def fileEntry (file : TrackedFile) : Option VirtualEntry :=
  file.virtualPath.map (fun virtualPath => ⟨.file file.id,file.drivePairId,virtualPath,file.relativePath⟩)

def folderEntry (folder : TrackedFolder) : Option VirtualEntry :=
  folder.virtualPath.map (fun virtualPath => ⟨.folder folder.id,folder.drivePairId,virtualPath,folder.folderPath⟩)

/-- The files first, then the folders; rows without a virtual path are passed over. -/
def virtualEntries (db : Db) : List VirtualEntry :=
  db.trackedFiles.rows.filterMap fileEntry ++ db.trackedFolders.rows.filterMap folderEntry

structure VirtualReservation where
  owner : VirtualOwner
  virtualPath : String
  deriving DecidableEq, Repr

def collectVirtualReservations (db : Db) : Except String (List VirtualReservation) :=
  (virtualEntries db).mapM (fun entry => do
    let virtualPath ← normalizeVirtualPath entry.virtualPath
    pure ⟨entry.owner,virtualPath⟩)

/-- `file_real_path` and `folder_real_path`. -/
def realPath (pair : DrivePair) (entry : VirtualEntry) : Location := pair.copyOn pair.activeRole entry.relativePath

structure VirtualMapping where
  owner : VirtualOwner
  virtualPath : String
  realPath : Location
  deriving DecidableEq, Repr

def mappingOf (drivePairs : Nat → Option DrivePair) (entry : VirtualEntry) : Except String VirtualMapping := do
  let pair ← match drivePairs entry.drivePairId with
    | some pair => pure pair
    | none => .error s!"Drive pair {entry.drivePairId} not found"
  let virtualPath ← normalizeVirtualPath entry.virtualPath
  pure ⟨entry.owner,virtualPath,realPath pair entry⟩

def collectVirtualMappings (db : Db) (drivePairs : Nat → Option DrivePair) : Except String (List VirtualMapping) :=
  (virtualEntries db).mapM (mappingOf drivePairs)

/-- One path continues the other after a `/`. -/
def pathsOverlap (left right : String) : Bool :=
  left == right || (right.toList ++ ['/']).isPrefixOf left.toList || (left.toList ++ ['/']).isPrefixOf right.toList

/-! The links on disk. -/

/-- What stands at a path: a symlink, or anything else. -/
inductive LinkNode
  | symlink (target : Location)
  | other
  deriving DecidableEq, Repr

/-- The components that the operating system makes of a path text. -/
def linkKey (path : String) : List (List Char) :=
  (path.toList.splitOn '/').filter (fun segment => segment ≠ [] ∧ segment ≠ ['.'])

abbrev VirtualTree := List (List Char) → Option LinkNode

/-- What the system calls on a virtual path answer, beyond what stands there. -/
structure LinkCalls where
  createDirAll : String → Bool
  symlinkMetadata : String → Bool
  removeFile : String → Bool
  symlink : String → Bool

def LinkCalls.healthy : LinkCalls := ⟨fun _ => true,fun _ => true,fun _ => true,fun _ => true⟩

abbrev LinkAct := EStateM String VirtualTree

def place (path : String) (node : Option LinkNode) : LinkAct Unit := fun tree =>
  .ok () (Function.update tree (linkKey path) node)

def ensured (condition : Bool) (message : String) : LinkAct Unit := if condition then pure () else throw message

/-- `None` is `NotFound`. -/
def inspect (calls : LinkCalls) (path : String) : LinkAct (Option LinkNode) := fun tree =>
  if calls.symlinkMetadata path then .ok (tree (linkKey path)) tree else .error "Failed to inspect virtual path" tree

def createSymlink (calls : LinkCalls) (virtualPath : String) (realPath : Location) (allowReplaceExistingSymlink : Bool) :
    LinkAct Unit := do
  ensured (calls.createDirAll virtualPath) "Failed to create virtual path directories"
  match ← inspect calls virtualPath with
  | none => pure ()
  | some .other =>
    throw s!"Virtual path already exists and is not a BitProtector-managed symlink: {virtualPath}"
  | some (.symlink _) => do
    ensured allowReplaceExistingSymlink s!"Virtual path is already in use: {virtualPath}"
    ensured (calls.removeFile virtualPath) "Failed to remove old symlink"
    place virtualPath none
  ensured (calls.symlink virtualPath) "Failed to create symlink"
  place virtualPath (some (.symlink realPath))

/-! Validation. -/

def checkReservations (owner : VirtualOwner) (normalized : String) : List VirtualReservation → Except String Unit
  | [] => .ok ()
  | reservation::rest =>
    if reservation.owner = owner then checkReservations owner normalized rest
    else if reservation.virtualPath = normalized then .error s!"Virtual path is already assigned: {normalized}"
    else if pathsOverlap reservation.virtualPath normalized then
      let existing := reservation.virtualPath
      .error s!"Virtual path overlaps an existing virtual path: {existing}"
    else checkReservations owner normalized rest

def checkExisting (owner : VirtualOwner) (normalized : String) (reservations : List VirtualReservation) :
    Option LinkNode → Except String String
  | none => .ok normalized
  | some .other =>
    .error s!"Virtual path already exists and is not a BitProtector-managed symlink: {normalized}"
  | some (.symlink _) =>
    if reservations.any (fun reservation => reservation.owner == owner && reservation.virtualPath == normalized) then
      .ok normalized
    else .error s!"Virtual path is already in use: {normalized}"

def validateVirtualPath (calls : LinkCalls) (db : Db) (owner : VirtualOwner) (virtualPath : String) (tree : VirtualTree) :
    Except String String := do
  let normalized ← normalizeVirtualPath virtualPath
  let reservations ← collectVirtualReservations db
  checkReservations owner normalized reservations
  if calls.symlinkMetadata normalized then
    checkExisting owner normalized reservations (tree (linkKey normalized))
  else .error "Failed to inspect virtual path"

/-! The refresh. -/

def ownerError : VirtualOwner → String → String
  | .file id, message => s!"File {id}: {message}"
  | .folder id, message => s!"Folder {id}: {message}"

structure SymlinkRefreshResult where
  created : Nat
  removed : Nat
  errors : List String
  deriving DecidableEq, Repr

/-- One mapping: its error, if it has one. -/
def refreshMapping (calls : LinkCalls) (db : Db) (mapping : VirtualMapping) : LinkAct (Option String) := do
  match validateVirtualPath calls db mapping.owner mapping.virtualPath (← get) with
  | .error message => pure (some (ownerError mapping.owner message))
  | .ok _ =>
    match ← attempt (createSymlink calls mapping.virtualPath mapping.realPath true) with
    | .ok () => pure none
    | .error message => pure (some (ownerError mapping.owner message))

def refreshMappings (calls : LinkCalls) (db : Db) : List VirtualMapping → LinkAct SymlinkRefreshResult
  | [] => pure ⟨0,0,[]⟩
  | mapping::rest => do
    let error ← refreshMapping calls db mapping
    let result ← refreshMappings calls db rest
    match error with
    | none => pure { result with created := result.created + 1 }
    | some message => pure { result with errors := message::result.errors }

def refreshAllVirtualPaths (calls : LinkCalls) (db : Db) (drivePairs : Nat → Option DrivePair) :
    LinkAct SymlinkRefreshResult := do
  match collectVirtualMappings db drivePairs with
  | .ok mappings => refreshMappings calls db mappings
  | .error message => throw message

/-! Normal forms. -/

theorem dropWhile_rdropWhile_dropWhile {α : Type} (p : α → Bool) (text : List α) :
    ((text.dropWhile p).rdropWhile p).dropWhile p = (text.dropWhile p).rdropWhile p := by
  obtain ⟨rest,whole⟩ := List.rdropWhile_prefix p (text.dropWhile p)
  cases kept : (text.dropWhile p).rdropWhile p with
  | nil => rfl
  | cons c cs =>
    rw [kept] at whole
    apply List.dropWhile_cons_of_neg
    have head := List.dropWhile_idempotent p text
    rw [← whole,List.cons_append,List.dropWhile_eq_self_iff] at head
    exact head (by simp)

theorem dropWhile_trim (text : List Char) : (trim text).dropWhile isWhitespace = trim text :=
  dropWhile_rdropWhile_dropWhile isWhitespace text

theorem rdropWhile_trim (text : List Char) : (trim text).rdropWhile isWhitespace = trim text :=
  List.rdropWhile_idempotent _ _

theorem trim_eq_self {text : List Char} (front : text.dropWhile isWhitespace = text)
    (back : text.rdropWhile isWhitespace = text) : trim text = text := by
  unfold trim
  rw [front]
  exact back

theorem mem_of_mem_trim {text : List Char} {c : Char} (member : c ∈ trim text) : c ∈ text :=
  (List.dropWhile_suffix _).subset ((List.rdropWhile_prefix _ _).subset member)

/-- A component as normalisation leaves it; `.` and `..` may be among them. -/
structure Plain (segment : List Char) : Prop where
  nonempty : segment ≠ []
  no_slash : '/' ∉ segment
  trimmed : trim segment = segment

theorem plain_trim {segment : List Char} (nonempty : trim segment ≠ []) (no_slash : '/' ∉ segment) :
    Plain (trim segment) :=
  ⟨nonempty,fun member => no_slash (mem_of_mem_trim member),trim_eq_self (dropWhile_trim _) (rdropWhile_trim _)⟩

theorem joinSegments_eq {segments : List (List Char)} (nonempty : segments ≠ []) :
    joinSegments segments = segments.flatMap (List.cons '/') := by
  unfold joinSegments
  induction segments with
  | nil => exact absurd rfl nonempty
  | cons first rest ih =>
    cases rest with
    | nil => simp
    | cons second rest =>
      have tail := ih (by simp)
      rw [List.flatMap_cons,← tail]
      simp [List.intercalate_cons_cons]

theorem trim_joinSegments {segments : List (List Char)} (nonempty : segments ≠ [])
    (plain : ∀ segment ∈ segments, Plain segment) : trim (joinSegments segments) = joinSegments segments := by
  apply trim_eq_self
  · exact List.dropWhile_cons_of_neg (by decide)
  · rw [joinSegments_eq nonempty,List.rdropWhile_eq_self_iff]
    obtain ⟨front,last,rfl⟩ := (List.eq_nil_or_concat segments).resolve_left nonempty
    have whole := plain last (by simp)
    have back : last.rdropWhile isWhitespace = last := by
      have kept := rdropWhile_trim last
      rwa [whole.trimmed] at kept
    intro present
    have ends := List.rdropWhile_eq_self_iff.mp back whole.nonempty
    simpa [List.getLast_append,whole.nonempty] using ends

theorem splitOn_joinSegments {segments : List (List Char)} (nonempty : segments ≠ [])
    (plain : ∀ segment ∈ segments, Plain segment) : (joinSegments segments).splitOn '/' = []::segments := by
  have split := List.splitOn_append_cons_self (a := '/') [] (['/'].intercalate segments)
  rw [List.splitOn_intercalate '/' (fun segment member => (plain segment member).no_slash) nonempty] at split
  exact split

theorem no_slash_of_mem_splitOn {text segment : List Char} (member : segment ∈ text.splitOn '/') : '/' ∉ segment := by
  induction text generalizing segment with
  | nil =>
    rw [List.splitOn_nil,List.mem_singleton] at member
    simp [member]
  | cons c text ih =>
    rw [List.splitOn_cons_eq_if_modifyHead] at member
    cases parts : text.splitOn '/' with
    | nil => exact absurd parts (List.splitOn_ne_nil _ _)
    | cons head tail =>
      rw [parts] at member ih
      by_cases slash : c = '/'
      · simp only [slash,beq_self_eq_true,if_true,List.mem_cons] at member
        rcases member with rfl | later
        · simp
        · exact ih (List.mem_cons.mpr later)
      · have other : (c == '/') = false := by simpa using slash
        simp only [other,Bool.false_eq_true,if_false,List.modifyHead_cons,List.mem_cons] at member
        rcases member with rfl | later
        · intro found
          rcases List.mem_cons.mp found with same | inside
          · exact slash same.symm
          · exact ih List.mem_cons_self inside
        · exact ih (List.mem_cons_of_mem _ later)

theorem plain_of_normalizeSegments {given : String} {parts segments : List (List Char)}
    (ok : normalizeSegments given parts = .ok segments) (no_slash : ∀ part ∈ parts, '/' ∉ part) :
    ∀ segment ∈ segments, Plain segment := by
  induction parts generalizing segments with
  | nil =>
    cases ok
    simp
  | cons part parts ih =>
    have later : ∀ other ∈ parts, '/' ∉ other := fun other member => no_slash other (List.mem_cons_of_mem _ member)
    unfold normalizeSegments at ok
    split at ok
    · exact ih ok later
    · split at ok
      · cases ok
      · split at ok
        · cases ok
        · rename_i whole
          cases rest : normalizeSegments given parts with
          | error message =>
            rw [rest] at ok
            cases ok
          | ok others =>
            rw [rest] at ok
            cases ok
            rw [List.forall_mem_cons]
            exact ⟨plain_trim whole (no_slash part List.mem_cons_self),ih rest later⟩

/-- Over plain components only `.` is dropped, and `..` refused. -/
theorem normalizeSegments_of_plain {given : String} {parts segments : List (List Char)}
    (plain : ∀ part ∈ parts, Plain part) (ok : normalizeSegments given parts = .ok segments) :
    ['.','.'] ∉ parts ∧ segments = parts.filter (fun part => part ≠ ['.']) := by
  induction parts generalizing segments with
  | nil =>
    cases ok
    simp
  | cons part parts ih =>
    obtain ⟨first,later⟩ := List.forall_mem_cons.mp plain
    unfold normalizeSegments at ok
    split at ok
    · rename_i dropped
      have dot : part = ['.'] := dropped.resolve_left first.nonempty
      obtain ⟨absent,same⟩ := ih later ok
      subst dot
      exact ⟨by simpa using absent,by simpa using same⟩
    · rename_i kept
      split at ok
      · cases ok
      · rename_i ascends
        split at ok
        · cases ok
        · cases rest : normalizeSegments given parts with
          | error message =>
            rw [rest] at ok
            cases ok
          | ok others =>
            rw [rest] at ok
            cases ok
            obtain ⟨absent,same⟩ := ih later rest
            have whole : part ≠ ['.'] := fun dot => kept (.inr dot)
            refine ⟨?_,?_⟩
            · rw [List.mem_cons]
              exact fun found => found.elim (fun dots => ascends dots.symm) absent
            · rw [first.trimmed,same]
              simp [whole]

theorem normalizeSegments_clean {given : String} {parts : List (List Char)}
    (clean : ∀ part ∈ parts, Plain part ∧ part ≠ ['.'] ∧ part ≠ ['.','.']) :
    normalizeSegments given parts = .ok parts := by
  induction parts with
  | nil => rfl
  | cons part parts ih =>
    obtain ⟨⟨plain,dot,dots⟩,later⟩ := List.forall_mem_cons.mp clean
    rw [normalizeSegments,if_neg (not_or.mpr ⟨plain.nonempty,dot⟩),if_neg dots,plain.trimmed,
      if_neg plain.nonempty,ih later]
    rfl

theorem normalizeVirtualPath_ok {given path : String} (ok : normalizeVirtualPath given = .ok path) :
    ∃ segments, normalizeSegments given ((trim given.toList).splitOn '/') = .ok segments ∧ segments ≠ [] ∧
      path = String.ofList (joinSegments segments) := by
  unfold normalizeVirtualPath at ok
  dsimp only at ok
  split at ok
  · cases ok
  · split at ok
    · cases ok
    · cases parsed : normalizeSegments given ((trim given.toList).splitOn '/') with
      | error message =>
        rw [parsed] at ok
        cases ok
      | ok segments =>
        rw [parsed] at ok
        by_cases none : segments = []
        · simp [bind,Except.bind,none] at ok
        · simp only [bind,Except.bind,none,if_false,Except.ok.injEq] at ok
          exact ⟨segments,rfl,none,ok.symm⟩

/-- A path that is its own normal form. -/
def Canonical (path : String) : Prop :=
  ∃ segments, segments ≠ [] ∧ path = String.ofList (joinSegments segments) ∧
    ∀ segment ∈ segments, Plain segment ∧ segment ≠ ['.'] ∧ segment ≠ ['.','.']

theorem Canonical.normalize {path : String} (canonical : Canonical path) : normalizeVirtualPath path = .ok path := by
  obtain ⟨segments,nonempty,rfl,clean⟩ := canonical
  have plain : ∀ segment ∈ segments, Plain segment := fun segment member => (clean segment member).1
  unfold normalizeVirtualPath
  simp only [String.toList_ofList,trim_joinSegments nonempty plain,splitOn_joinSegments nonempty plain]
  rw [if_neg (by simp [joinSegments]),if_neg (by simp [joinSegments]),normalizeSegments,if_pos (.inl rfl),
    normalizeSegments_clean clean]
  simp [bind,Except.bind,nonempty]

/-- Only `.` and `..` keep a normal form from being its own: a second pass drops or refuses them. -/
theorem canonical_of_normalize {given path again : String} (once : normalizeVirtualPath given = .ok path)
    (twice : normalizeVirtualPath path = .ok again) : Canonical again := by
  obtain ⟨segments,parsed,nonempty,rfl⟩ := normalizeVirtualPath_ok once
  have plain := plain_of_normalizeSegments parsed fun part member => no_slash_of_mem_splitOn member
  obtain ⟨kept,reparsed,left,rfl⟩ := normalizeVirtualPath_ok twice
  rw [String.toList_ofList,trim_joinSegments nonempty plain,splitOn_joinSegments nonempty plain,normalizeSegments,
    if_pos (.inl rfl)] at reparsed
  obtain ⟨absent,rfl⟩ := normalizeSegments_of_plain plain reparsed
  refine ⟨_,left,rfl,fun segment member => ?_⟩
  obtain ⟨present,dot⟩ := List.mem_filter.mp member
  exact ⟨plain segment present,by simpa using dot,fun dots => absent (dots ▸ present)⟩

theorem linkKey_joinSegments {segments : List (List Char)} (nonempty : segments ≠ [])
    (clean : ∀ segment ∈ segments, Plain segment ∧ segment ≠ ['.']) :
    linkKey (String.ofList (joinSegments segments)) = segments := by
  have plain : ∀ segment ∈ segments, Plain segment := fun segment member => (clean segment member).1
  rw [linkKey,String.toList_ofList,splitOn_joinSegments nonempty plain]
  simp only [ne_eq,not_true_eq_false,false_and,decide_false,Bool.false_eq_true,not_false_eq_true,
    List.filter_cons_of_neg,List.filter_eq_self,decide_eq_true_eq]
  exact fun segment member => ⟨(plain segment member).nonempty,(clean segment member).2⟩

theorem Canonical.linkKey_inj {path other : String} (canonical : Canonical path) (otherCanonical : Canonical other)
    (same : linkKey path = linkKey other) : path = other := by
  have key {path : String} (canonical : Canonical path) :
      path = String.ofList (joinSegments (linkKey path)) := by
    obtain ⟨segments,nonempty,rfl,clean⟩ := canonical
    rw [linkKey_joinSegments nonempty fun segment member => ⟨(clean segment member).1,(clean segment member).2.1⟩]
  rw [key canonical,key otherCanonical,same]

/-! What the refresh does to one link. -/

/-- The link of a key stays as it is. -/
def KeptAt (k : List (List Char)) (tree after : VirtualTree) : Prop := after k = tree k

instance (k : List (List Char)) : IsPreorder VirtualTree (KeptAt k) where
  refl _ := rfl
  trans _ _ _ first second := Eq.trans second first

theorem keptAt_ensured (k : List (List Char)) (condition : Bool) (message : String) :
    Keeps (KeptAt k) (ensured condition message) := by
  unfold ensured
  split
  · exact keeps_pure _
  · exact keeps_throw _

theorem keptAt_inspect (k : List (List Char)) (calls : LinkCalls) (path : String) :
    Keeps (KeptAt k) (inspect calls path) := by
  intro tree
  unfold after inspect
  split <;> split at * <;> simp_all [KeptAt]

theorem keptAt_place {k : List (List Char)} {path : String} (other : k ≠ linkKey path) (node : Option LinkNode) :
    Keeps (KeptAt k) (place path node) := by
  intro tree
  change Function.update tree (linkKey path) node k = tree k
  exact Function.update_of_ne other node tree

theorem keptAt_createSymlink {k : List (List Char)} {path : String} (other : k ≠ linkKey path) (calls : LinkCalls)
    (target : Location) (replace : Bool) : Keeps (KeptAt k) (createSymlink calls path target replace) := by
  refine keeps_bind (keptAt_ensured _ _ _) fun _ => keeps_bind (keptAt_inspect _ _ _) fun node => ?_
  have ends : Keeps (KeptAt k) (do
      ensured (calls.symlink path) "Failed to create symlink"
      place path (some (.symlink target))) :=
    keeps_bind (keptAt_ensured _ _ _) fun _ => keptAt_place other _
  cases node with
  | none => exact ends
  | some node =>
    cases node with
    | other => exact keeps_throw _
    | symlink old =>
      refine keeps_bind (keptAt_ensured _ _ _) fun _ => keeps_bind (keptAt_ensured _ _ _) fun _ => ?_
      exact keeps_bind (keptAt_place other _) fun _ => ends

/-- The link after `create_symlink`, over one that may be replaced. -/
def relinked (calls : LinkCalls) (path : String) (target : Location) : Option LinkNode → Option LinkNode
  | none =>
    if calls.createDirAll path && calls.symlinkMetadata path && calls.symlink path then some (.symlink target) else none
  | some .other => some .other
  | some (.symlink old) =>
    if calls.createDirAll path && calls.symlinkMetadata path && calls.removeFile path then
      if calls.symlink path then some (.symlink target) else none
    else some (.symlink old)

theorem ensured_bind {α : Type} (condition : Bool) (message : String) (next : Unit → LinkAct α) (tree : VirtualTree) :
    after (ensured condition message >>= next) tree =
      if condition then after (next ()) tree else tree := by
  cases condition <;> rfl

theorem place_bind {α : Type} (path : String) (node : Option LinkNode) (next : Unit → LinkAct α) (tree : VirtualTree) :
    after (place path node >>= next) tree = after (next ()) (Function.update tree (linkKey path) node) := rfl

theorem createSymlink_at (calls : LinkCalls) (path : String) (target : Location) (tree : VirtualTree) :
    after (createSymlink calls path target true) tree (linkKey path) =
      relinked calls path target (tree (linkKey path)) := by
  have ends (tree : VirtualTree) : after (do
      ensured (calls.symlink path) "Failed to create symlink"
      place path (some (.symlink target))) tree (linkKey path) =
      if calls.symlink path then some (.symlink target) else tree (linkKey path) := by
    rw [ensured_bind]
    split
    · exact Function.update_self (linkKey path) (some (LinkNode.symlink target)) tree
    · rfl
  have untouched (node : Option LinkNode)
      (fails : (calls.createDirAll path && calls.symlinkMetadata path) = false) : relinked calls path target node = node := by
    unfold relinked
    split <;> simp [fails]
  unfold createSymlink
  rw [ensured_bind]
  cases dirs : calls.createDirAll path with
  | false => exact (untouched _ (by rw [dirs,Bool.false_and])).symm
  | true =>
    cases answers : calls.symlinkMetadata path with
    | false =>
      have failed : inspect calls path tree = .error "Failed to inspect virtual path" tree := by
        rw [inspect,answers,if_neg Bool.false_ne_true]
      rw [if_pos rfl,after_bind_of_error failed]
      exact (untouched _ (by rw [answers,Bool.and_false])).symm
    | true =>
      have looked : inspect calls path tree = .ok (tree (linkKey path)) tree := by
        rw [inspect,answers,if_pos rfl]
      rw [if_pos rfl,after_bind_of_ok looked]
      cases node : tree (linkKey path) with
      | none =>
        refine Eq.trans (ends tree) ?_
        simp only [relinked,dirs,answers,node,Bool.true_and]
      | some standing =>
        cases standing with
        | other => exact node
        | symlink old =>
          simp only [relinked,dirs,answers,Bool.true_and]
          rw [ensured_bind,if_pos rfl,ensured_bind]
          cases calls.removeFile path with
          | false => exact node
          | true =>
            simp only [if_true]
            rw [place_bind]
            refine Eq.trans (ends _) ?_
            rw [Function.update_self]

/-! Validation reads the link of its path, and lets no two owners have one path. -/

theorem checkReservations_ok {owner : VirtualOwner} {normalized : String} {reservations : List VirtualReservation}
    (ok : checkReservations owner normalized reservations = .ok ()) :
    ∀ reservation ∈ reservations, reservation.owner ≠ owner → pathsOverlap reservation.virtualPath normalized = false := by
  induction reservations with
  | nil => simp
  | cons first rest ih =>
    unfold checkReservations at ok
    rw [List.forall_mem_cons]
    split at ok
    · rename_i same
      exact ⟨fun other => absurd same other,ih ok⟩
    · split at ok
      · cases ok
      · split at ok
        · cases ok
        · rename_i apart
          exact ⟨fun _ => Bool.eq_false_iff.mpr apart,ih ok⟩

theorem pathsOverlap_self (path : String) : pathsOverlap path path = true := by
  rw [pathsOverlap,beq_self_eq_true,Bool.true_or,Bool.true_or]

theorem validateVirtualPath_apart {calls : LinkCalls} {db : Db} {owner : VirtualOwner} {virtualPath normalized : String}
    {tree : VirtualTree} (ok : validateVirtualPath calls db owner virtualPath tree = .ok normalized)
    (canonical : Canonical virtualPath) {entry : VirtualEntry} (member : entry ∈ virtualEntries db)
    (other : entry.owner ≠ owner) : normalizeVirtualPath entry.virtualPath ≠ .ok virtualPath := by
  intro same
  unfold validateVirtualPath at ok
  rw [canonical.normalize] at ok
  cases collected : collectVirtualReservations db with
  | error message =>
    rw [collected] at ok
    cases ok
  | ok reservations =>
    rw [collected] at ok
    cases checked : checkReservations owner virtualPath reservations with
    | error message =>
      simp only [bind,Except.bind,checked] at ok
      cases ok
    | ok _ =>
      obtain ⟨reservation,present,reserved⟩ := Passes.mem_mapM collected member
      simp only [bind,Except.bind,same,pure,Except.pure,Except.ok.injEq] at reserved
      subst reserved
      have apart := checkReservations_ok checked _ present other
      rw [pathsOverlap_self] at apart
      cases apart

theorem validateVirtualPath_reads {virtualPath : String} (canonical : Canonical virtualPath) (calls : LinkCalls) (db : Db)
    (owner : VirtualOwner) {tree other : VirtualTree} (same : tree (linkKey virtualPath) = other (linkKey virtualPath)) :
    validateVirtualPath calls db owner virtualPath tree = validateVirtualPath calls db owner virtualPath other := by
  unfold validateVirtualPath
  simp only [canonical.normalize,bind,Except.bind]
  rw [same]

/-! The whole refresh. -/

/-- The rows as the program stores them: every virtual path went through the normalisation once. -/
def Stored (db : Db) : Prop := ∀ entry ∈ virtualEntries db, ∃ given, normalizeVirtualPath given = .ok entry.virtualPath

/-- The mappings of all rows can be collected: each pair is known and each path in order. -/
def Collects (db : Db) (drivePairs : Nat → Option DrivePair) : Prop :=
  ∀ entry ∈ virtualEntries db, (∃ pair, drivePairs entry.drivePairId = some pair) ∧
    ∃ path, normalizeVirtualPath entry.virtualPath = .ok path

theorem mappingOf_ok {drivePairs : Nat → Option DrivePair} {entry : VirtualEntry} {mapping : VirtualMapping} :
    mappingOf drivePairs entry = .ok mapping ↔ ∃ pair path, drivePairs entry.drivePairId = some pair ∧
      normalizeVirtualPath entry.virtualPath = .ok path ∧ mapping = ⟨entry.owner,path,realPath pair entry⟩ := by
  unfold mappingOf
  cases drivePairs entry.drivePairId with
  | none => simp [bind,Except.bind]
  | some pair =>
    cases normalizeVirtualPath entry.virtualPath with
    | error message => simp [bind,Except.bind,pure,Except.pure]
    | ok path => simp [bind,Except.bind,pure,Except.pure,eq_comm]

theorem collects_iff {db : Db} {drivePairs : Nat → Option DrivePair} :
    Collects db drivePairs ↔ ∃ mappings, collectVirtualMappings db drivePairs = .ok mappings := by
  unfold collectVirtualMappings
  rw [Passes.mapM_exists]
  refine forall_congr' fun entry => forall_congr' fun _ => ?_
  constructor
  · rintro ⟨⟨pair,known⟩,path,normal⟩
    exact ⟨_,mappingOf_ok.mpr ⟨pair,path,known,normal,rfl⟩⟩
  · rintro ⟨mapping,mapped⟩
    obtain ⟨pair,path,known,normal,_⟩ := mappingOf_ok.mp mapped
    exact ⟨⟨pair,known⟩,path,normal⟩

theorem virtualEntries_distinct (db : Db) : ((virtualEntries db).map VirtualEntry.owner).Nodup := by
  have files : (db.trackedFiles.rows.filterMap fileEntry).Pairwise (fun a b => a.owner ≠ b.owner) := by
    rw [List.pairwise_filterMap]
    refine db.trackedFiles.ascending.imp fun {file other} less a isFirst b isSecond same => ?_
    obtain ⟨_,_,rfl⟩ := Option.map_eq_some_iff.mp isFirst
    obtain ⟨_,_,rfl⟩ := Option.map_eq_some_iff.mp isSecond
    have key : file.id = other.id := VirtualOwner.file.inj same
    exact absurd key (Nat.ne_of_lt less)
  have folders : (db.trackedFolders.rows.filterMap folderEntry).Pairwise (fun a b => a.owner ≠ b.owner) := by
    rw [List.pairwise_filterMap]
    refine db.trackedFolders.ascending.imp fun {folder other} less a isFirst b isSecond same => ?_
    obtain ⟨_,_,rfl⟩ := Option.map_eq_some_iff.mp isFirst
    obtain ⟨_,_,rfl⟩ := Option.map_eq_some_iff.mp isSecond
    have key : folder.id = other.id := VirtualOwner.folder.inj same
    exact absurd key (Nat.ne_of_lt less)
  unfold virtualEntries List.Nodup
  rw [List.pairwise_map,List.pairwise_append]
  refine ⟨files,folders,fun a isFile b isFolder same => ?_⟩
  obtain ⟨file,_,entryOfFile⟩ := List.mem_filterMap.mp isFile
  obtain ⟨folder,_,entryOfFolder⟩ := List.mem_filterMap.mp isFolder
  obtain ⟨_,_,rfl⟩ := Option.map_eq_some_iff.mp entryOfFile
  obtain ⟨_,_,rfl⟩ := Option.map_eq_some_iff.mp entryOfFolder
  cases same

theorem entry_of_owner {db : Db} {entry other : VirtualEntry} (member : entry ∈ virtualEntries db)
    (present : other ∈ virtualEntries db) (same : entry.owner = other.owner) : entry = other :=
  List.inj_on_of_nodup_map (virtualEntries_distinct db) member present same

theorem mapM_mappingOf_owners {drivePairs : Nat → Option DrivePair} {entries : List VirtualEntry}
    {mappings : List VirtualMapping} (mapped : entries.mapM (mappingOf drivePairs) = .ok mappings) :
    mappings.map VirtualMapping.owner = entries.map VirtualEntry.owner := by
  have pairs := Passes.mapM_ok.mp mapped
  clear mapped
  induction pairs with
  | nil => rfl
  | cons first rest ih =>
    obtain ⟨_,_,_,_,rfl⟩ := mappingOf_ok.mp first
    rw [List.map_cons,List.map_cons,ih]

theorem mappings_distinct {db : Db} {drivePairs : Nat → Option DrivePair} {mappings : List VirtualMapping}
    (collected : collectVirtualMappings db drivePairs = .ok mappings) : mappings.Nodup := by
  apply List.Nodup.of_map VirtualMapping.owner
  rw [mapM_mappingOf_owners collected]
  exact virtualEntries_distinct db

/-- The tree after one mapping. -/
def refreshed (calls : LinkCalls) (db : Db) (mapping : VirtualMapping) (tree : VirtualTree) : VirtualTree :=
  match validateVirtualPath calls db mapping.owner mapping.virtualPath tree with
  | .ok _ => after (createSymlink calls mapping.virtualPath mapping.realPath true) tree
  | .error _ => tree

theorem refreshMapping_run (calls : LinkCalls) (db : Db) (mapping : VirtualMapping) (tree : VirtualTree) :
    ∃ error, refreshMapping calls db mapping tree = .ok error (refreshed calls db mapping tree) := by
  have read : (get : LinkAct VirtualTree) tree = .ok tree tree := rfl
  unfold refreshMapping refreshed
  rw [bind_of_ok read]
  cases validateVirtualPath calls db mapping.owner mapping.virtualPath tree with
  | error message => exact ⟨_,rfl⟩
  | ok normalized =>
    dsimp only
    cases ran : createSymlink calls mapping.virtualPath mapping.realPath true tree with
    | ok _ next =>
      rw [bind_of_ok (attempt_of_ok ran),after_of_ok ran]
      exact ⟨_,rfl⟩
    | error message next =>
      rw [bind_of_ok (attempt_of_error ran),after_of_error ran]
      exact ⟨_,rfl⟩

theorem refreshMappings_run (calls : LinkCalls) (db : Db) (mappings : List VirtualMapping) (tree : VirtualTree) :
    ∃ result, refreshMappings calls db mappings tree =
      .ok result (mappings.foldl (fun tree mapping => refreshed calls db mapping tree) tree) := by
  induction mappings generalizing tree with
  | nil => exact ⟨_,rfl⟩
  | cons mapping mappings ih =>
    obtain ⟨error,first⟩ := refreshMapping_run calls db mapping tree
    obtain ⟨result,rest⟩ := ih (refreshed calls db mapping tree)
    rw [refreshMappings,bind_of_ok first,bind_of_ok rest]
    cases error <;> exact ⟨_,rfl⟩

theorem refreshAll_fails {calls : LinkCalls} {db : Db} {drivePairs : Nat → Option DrivePair}
    (fails : ¬Collects db drivePairs) (tree : VirtualTree) :
    after (refreshAllVirtualPaths calls db drivePairs) tree = tree := by
  unfold refreshAllVirtualPaths
  cases collected : collectVirtualMappings db drivePairs with
  | error message => rfl
  | ok mappings => exact absurd (collects_iff.mpr ⟨mappings,collected⟩) fails

theorem canonical_of_stored {db : Db} (stored : Stored db) {entry : VirtualEntry} (member : entry ∈ virtualEntries db)
    {path : String} (normal : normalizeVirtualPath entry.virtualPath = .ok path) : Canonical path := by
  obtain ⟨given,once⟩ := stored entry member
  exact canonical_of_normalize once normal

theorem refreshAll_at {calls : LinkCalls} {db : Db} {drivePairs : Nat → Option DrivePair} (stored : Stored db)
    (collects : Collects db drivePairs) {entry : VirtualEntry} (member : entry ∈ virtualEntries db) {pair : DrivePair}
    (known : drivePairs entry.drivePairId = some pair) {path : String}
    (normal : normalizeVirtualPath entry.virtualPath = .ok path) (tree : VirtualTree) :
    after (refreshAllVirtualPaths calls db drivePairs) tree (linkKey path) =
      refreshed calls db ⟨entry.owner,path,realPath pair entry⟩ tree (linkKey path) := by
  obtain ⟨mappings,collected⟩ := collects_iff.mp collects
  obtain ⟨result,ran⟩ := refreshMappings_run calls db mappings tree
  have own : mappingOf drivePairs entry = .ok ⟨entry.owner,path,realPath pair entry⟩ :=
    mappingOf_ok.mpr ⟨pair,path,known,normal,rfl⟩
  obtain ⟨mapping,present,mapped⟩ := Passes.mem_mapM collected member
  rw [own] at mapped
  cases mapped
  have canonical := canonical_of_stored stored member normal
  unfold refreshAllVirtualPaths
  rw [collected,after_of_ok ran]
  refine Passes.foldl_at (refreshed calls db) (mappings_distinct collected) present ?_ ?_ tree
  · intro store other same
    unfold refreshed
    rw [validateVirtualPath_reads canonical calls db entry.owner same]
    cases validateVirtualPath calls db entry.owner path other with
    | error message => exact same
    | ok normalized =>
      dsimp only
      rw [createSymlink_at,createSymlink_at,same]
  -- Another mapping either stands at another link, or is refused because this path is taken.
  · intro mapping listed differs store
    unfold refreshed
    cases valid : validateVirtualPath calls db mapping.owner mapping.virtualPath store with
    | error message => rfl
    | ok normalized =>
      obtain ⟨row,isRow,mapped⟩ := Passes.mapM_mem collected listed
      obtain ⟨rowPair,rowPath,_,rowNormal,rfl⟩ := mappingOf_ok.mp mapped
      have rowCanonical := canonical_of_stored stored isRow rowNormal
      apply keptAt_createSymlink
      intro same
      obtain rfl := canonical.linkKey_inj rowCanonical same
      refine validateVirtualPath_apart valid rowCanonical member ?_ normal
      intro owners
      obtain rfl := entry_of_owner member isRow owners
      exact differs (Except.ok.inj (mapped.symm.trans own))

end BitProtector.VirtualPath
