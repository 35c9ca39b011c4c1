import BitProtector.TrackingItems

/-! The virtual path that a file has by its folders: the statement takes the longest folder
whose path, as an unescaped pattern without letter case, takes the file's; it should be the
deepest folder above the file, component by component. -/
namespace BitProtector.EffectivePaths
open VirtualPath FolderProvenance FolderPatterns

/-! What the virtual path should be. -/

/-- A folder that can give the file its virtual path. -/
structure Above (db : Db) (file : TrackedFile) (folder : TrackedFolder) : Prop where
  row : folder ∈ db.trackedFolders.rows
  pair : folder.drivePairId = file.drivePairId
  named : folder.virtualPath.isSome = true
  beneath : Beneath folder.folderPath file.relativePath

def depth (folder : TrackedFolder) : Nat := (linkKey folder.folderPath).length

/-- The longest of them, by components. -/
def Deepest (db : Db) (file : TrackedFile) (folder : TrackedFolder) : Prop :=
  Above db file folder ∧ ∀ other, Above db file other → depth other ≤ depth folder

/-- The components that the file has below the folder. -/
def remaining (folder : TrackedFolder) (file : TrackedFile) : List (List Char) :=
  (linkKey file.relativePath).drop (depth folder)

/-- The virtual path, a slash, and the end of the file's path that has the remaining
components; the virtual path alone where there are none. -/
def Continues (folder : TrackedFolder) (file : TrackedFile) (virtualPath result : String) : Prop :=
  (remaining folder file = [] ∧ result = virtualPath) ∨
    ∃ rest : String, rest.toList <:+ file.relativePath.toList ∧ linkKey rest = remaining folder file ∧
      result = virtualPath ++ "/" ++ rest

/-- Its own virtual path; otherwise that of the deepest folder above it, continued; otherwise none. -/
structure Resolves (db : Db) (file : TrackedFile) (result : Option String) : Prop where
  own : file.virtualPath.isSome = true → result = file.virtualPath
  inherited : file.virtualPath = none → ∀ path, result = some path →
    ∃ folder virtualPath, Deepest db file folder ∧ folder.virtualPath = some virtualPath ∧
      Continues folder file virtualPath path
  missing : file.virtualPath = none → result = none → ∀ folder, ¬Above db file folder

/-! The folders that the statement considers. -/

def length (folder : TrackedFolder) : Nat := (Db.stripFolderPath folder.folderPath).length

/-- A folder that the statement may put first. -/
def Longest (db : Db) (file : TrackedFile) (folder : TrackedFolder) : Prop :=
  folder ∈ db.virtualFolders file ∧ ∀ other ∈ db.virtualFolders file, length other ≤ length folder

/-- A folder of the file's pair with a virtual path. -/
structure Named (db : Db) (file : TrackedFile) (folder : TrackedFolder) : Prop where
  row : folder ∈ db.trackedFolders.rows
  pair : folder.drivePairId = file.drivePairId
  named : folder.virtualPath.isSome = true

theorem above_iff {db : Db} {file : TrackedFile} {folder : TrackedFolder} :
    Above db file folder ↔ Named db file folder ∧ Beneath folder.folderPath file.relativePath := by
  constructor
  · exact fun above => ⟨⟨above.row,above.pair,above.named⟩,above.beneath⟩
  · exact fun ⟨named,beneath⟩ => ⟨named.row,named.pair,named.named,beneath⟩

theorem mem_virtualFolders {db : Db} {file : TrackedFile} {folder : TrackedFolder} :
    folder ∈ db.virtualFolders file ↔ Named db file folder ∧ Reads folder.folderPath file.relativePath := by
  simp only [Db.virtualFolders,List.mem_filter,Bool.and_eq_true,beq_iff_eq,likeFolder_iff]
  constructor
  · exact fun ⟨row,⟨pair,named⟩,reads⟩ => ⟨⟨row,pair,named⟩,reads⟩
  · exact fun ⟨folder,reads⟩ => ⟨folder.row,⟨folder.pair,folder.named⟩,reads⟩

theorem longest_of_picked {db : Db} {tieBreak : Nat → Nat} {file : TrackedFile} {folder : TrackedFolder}
    (picked : db.longestVirtualFolder tieBreak file = some folder) : Longest db file folder := by
  obtain ⟨member,first⟩ := Paging.before_of_head? picked
  exact ⟨member,fun other listed => (first other listed).key_le⟩

theorem picked_of_longest {db : Db} {file : TrackedFile} {folder : TrackedFolder} (longest : Longest db file folder) :
    db.longestVirtualFolder (fun id => if id = folder.id then 0 else 1) file = some folder := by
  cases picked : db.longestVirtualFolder (fun id => if id = folder.id then 0 else 1) file with
  | none =>
    have empty := Paging.head?_ordered_eq_none.mp picked
    have member := longest.1
    rw [empty] at member
    cases member
  | some other =>
    obtain ⟨member,first⟩ := Paging.before_of_head? picked
    have own : other.id = folder.id := by
      rcases first folder longest.1 with longer | ⟨_,prio⟩
      · exact absurd (longest.2 other member) (Nat.not_le_of_lt longer)
      · by_contra apart
        simp [apart] at prio
    exact congrArg some (Table.key_injective _ (mem_virtualFolders.mp member).1.row (mem_virtualFolders.mp longest.1).1.row own)

theorem picked_none {db : Db} {tieBreak : Nat → Nat} {file : TrackedFile} :
    db.longestVirtualFolder tieBreak file = none ↔ db.virtualFolders file = [] := Paging.head?_ordered_eq_none

theorem effectiveVirtualPath_own {db : Db} {file : TrackedFile} (tieBreak : Nat → Nat)
    (own : file.virtualPath.isSome = true) : db.effectiveVirtualPath tieBreak file = file.virtualPath := by
  obtain ⟨path,has⟩ := Option.isSome_iff_exists.mp own
  rw [Db.effectiveVirtualPath,has]
  rfl

theorem effectiveVirtualPath_picked {db : Db} {tieBreak : Nat → Nat} {file : TrackedFile} {folder : TrackedFolder}
    {virtualPath : String} (free : file.virtualPath = none) (picked : db.longestVirtualFolder tieBreak file = some folder)
    (named : folder.virtualPath = some virtualPath) : db.effectiveVirtualPath tieBreak file =
      some (Db.inheritedPath folder.folderPath file.relativePath virtualPath) := by
  rw [Db.effectiveVirtualPath,free,Option.orElse_none,picked,Option.bind_some,named,Option.map_some]

theorem effectiveVirtualPath_none {db : Db} {tieBreak : Nat → Nat} {file : TrackedFile} (free : file.virtualPath = none) :
    db.effectiveVirtualPath tieBreak file = none ↔ db.virtualFolders file = [] := by
  have unpicked : db.longestVirtualFolder tieBreak file = none ↔ db.virtualFolders file = [] := picked_none
  rw [← unpicked]
  cases picked : db.longestVirtualFolder tieBreak file with
  | none =>
    rw [Db.effectiveVirtualPath,free,Option.orElse_none,picked]
    exact iff_of_true rfl rfl
  | some folder =>
    obtain ⟨virtualPath,named⟩ := Option.isSome_iff_exists.mp (mem_virtualFolders.mp (longest_of_picked picked).1).1.named
    rw [effectiveVirtualPath_picked free picked named]
    exact iff_of_false (Option.some_ne_none _) (Option.some_ne_none _)

theorem exists_longest {db : Db} {file : TrackedFile} {folder : TrackedFolder} (taken : folder ∈ db.virtualFolders file) :
    ∃ other, Longest db file other := by
  cases picked : db.longestVirtualFolder id file with
  | none =>
    rw [picked_none.mp picked] at taken
    cases taken
  | some other => exact ⟨other,longest_of_picked picked⟩

/-! When it is right. -/

/-- The paths' texts tell which folder is meant. -/
structure Clear (db : Db) (file : TrackedFile) : Prop where
  /-- A folder that takes the file in another letter case or as a pattern only has a shorter path than one whose
  path begins the file's. -/
  loose : ∀ folder, Named db file folder → Reads folder.folderPath file.relativePath →
    ¬Begins folder.folderPath file.relativePath →
    ∃ other, Named db file other ∧ Begins other.folderPath file.relativePath ∧ length folder < length other
  /-- A folder that holds the file and is spelled otherwise in its path is no deeper than one whose path begins
  the file's. -/
  otherwise : ∀ folder, Named db file folder → OtherwiseSpelled folder.folderPath file.relativePath →
    ∃ other, Named db file other ∧ Begins other.folderPath file.relativePath ∧ depth folder ≤ depth other

/-- No folder's virtual path is that of another folder of the pair, or goes on from it. -/
def NamesApart (db : Db) (file : TrackedFile) : Prop :=
  ∀ first second own other, Named db file first → Named db file second → first.virtualPath = some own →
    second.virtualPath = some other → own.toList ++ ['/'] <+: other.toList ++ ['/'] → first.id = second.id

/-- What the listing and the tree show of a file. -/
structure Resolved (db : Db) (file : TrackedFile) : Prop where
  computed : ∀ tieBreak, Resolves db file (db.effectiveVirtualPath tieBreak file)
  listed : ∀ tieBreak lastScannedAt request, ∀ item ∈ (db.listTrackingItems tieBreak lastScannedAt request).1,
    item.kind = .file → item.id = file.id → Resolves db file item.virtualPath

theorem remaining_of_same {folder : TrackedFolder} {file : TrackedFile}
    (same : file.relativePath.toList = Db.stripFolderPath folder.folderPath) : remaining folder file = [] := by
  have components : linkKey file.relativePath = linkKey folder.folderPath := by
    rw [← linkKey_stripFolderPath folder.folderPath,← same,String.ofList_toList]
  rw [remaining,depth,components,List.drop_length]

theorem begins_continues {folder : TrackedFolder} {file : TrackedFile}
    (begins : Begins folder.folderPath file.relativePath) (virtualPath : String) :
    Continues folder file virtualPath (Db.inheritedPath folder.folderPath file.relativePath virtualPath) := by
  unfold Db.inheritedPath
  split
  · rename_i same
    exact .inl ⟨remaining_of_same same,rfl⟩
  · rename_i apart
    obtain ⟨rest,text,components⟩ := begins.split.resolve_left apart
    have cut : file.relativePath.toList.drop ((Db.stripFolderPath folder.folderPath).length + 1) = rest := by
      rw [text,List.drop_append]
      simp
    refine .inr ⟨_,?_,?_,rfl⟩
    · rw [String.toList_ofList]
      exact List.drop_suffix _ _
    · rw [cut,remaining,components,depth,List.drop_left]

theorem Clear.begins {db : Db} {file : TrackedFile} {folder : TrackedFolder} (clear : Clear db file)
    (longest : Longest db file folder) : Begins folder.folderPath file.relativePath := by
  obtain ⟨named,reads⟩ := mem_virtualFolders.mp longest.1
  by_contra loose
  obtain ⟨other,also,begins,longer⟩ := clear.loose folder named reads loose
  exact absurd (longest.2 other (mem_virtualFolders.mpr ⟨also,begins.reads⟩)) (Nat.not_le_of_lt longer)

theorem Clear.deepest {db : Db} {file : TrackedFile} {folder : TrackedFolder} (clear : Clear db file)
    (longest : Longest db file folder) : Deepest db file folder := by
  have begins := clear.begins longest
  have shallower {other : TrackedFolder} (named : Named db file other) (also : Begins other.folderPath file.relativePath) :
      depth other ≤ depth folder :=
    (also.linear begins (longest.2 other (mem_virtualFolders.mpr ⟨named,also.reads⟩))).length_le
  refine ⟨above_iff.mpr ⟨(mem_virtualFolders.mp longest.1).1,begins.beneath⟩,fun other above => ?_⟩
  obtain ⟨named,beneath⟩ := above_iff.mp above
  by_cases own : Begins other.folderPath file.relativePath
  · exact shallower named own
  · obtain ⟨third,also,front,bound⟩ := clear.otherwise other named ⟨beneath,own⟩
    exact bound.trans (shallower also front)

theorem Clear.resolves {db : Db} {file : TrackedFile} (clear : Clear db file) (tieBreak : Nat → Nat) :
    Resolves db file (db.effectiveVirtualPath tieBreak file) := by
  constructor
  · exact effectiveVirtualPath_own tieBreak
  · intro free path has
    cases picked : db.longestVirtualFolder tieBreak file with
    | none =>
      rw [(effectiveVirtualPath_none free).mpr (picked_none.mp picked)] at has
      cases has
    | some folder =>
      have longest := longest_of_picked picked
      obtain ⟨virtualPath,named⟩ := Option.isSome_iff_exists.mp (mem_virtualFolders.mp longest.1).1.named
      rw [effectiveVirtualPath_picked free picked named] at has
      have continued := begins_continues (clear.begins longest) virtualPath
      rw [Option.some.inj has] at continued
      exact ⟨folder,virtualPath,clear.deepest longest,named,continued⟩
  · intro free none folder above
    obtain ⟨named,beneath⟩ := above_iff.mp above
    have untaken {other : TrackedFolder} (also : Named db file other) : ¬Begins other.folderPath file.relativePath := by
      intro begins
      have taken := mem_virtualFolders.mpr ⟨also,begins.reads⟩
      rw [(effectiveVirtualPath_none free).mp none] at taken
      cases taken
    obtain ⟨other,also,begins,_⟩ := clear.otherwise folder named ⟨beneath,untaken named⟩
    exact untaken also begins

/-! When the virtual paths tell the folders apart, only that is right. -/

theorem Continues.front {folder : TrackedFolder} {file : TrackedFile} {virtualPath result : String}
    (continues : Continues folder file virtualPath result) : virtualPath.toList ++ ['/'] <+: result.toList ++ ['/'] := by
  rcases continues with ⟨_,rfl⟩ | ⟨rest,_,_,rfl⟩
  · exact List.prefix_rfl
  · refine ⟨rest.toList ++ ['/'],?_⟩
    simp

theorem inheritedPath_front (folderPath relativePath virtualPath : String) :
    virtualPath.toList ++ ['/'] <+: (Db.inheritedPath folderPath relativePath virtualPath).toList ++ ['/'] := by
  unfold Db.inheritedPath
  split
  · exact List.prefix_rfl
  · exact ⟨relativePath.toList.drop ((Db.stripFolderPath folderPath).length + 1) ++ ['/'],by simp⟩

section
variable {db : Db} {file : TrackedFile} (free : file.virtualPath = none) (tidy : Tidy file.relativePath.toList)
  (apart : NamesApart db file) (resolves : ∀ tieBreak, Resolves db file (db.effectiveVirtualPath tieBreak file))
include free apart resolves

theorem longest_deepest {folder : TrackedFolder} (longest : Longest db file folder) : Deepest db file folder := by
  have named := (mem_virtualFolders.mp longest.1).1
  obtain ⟨virtualPath,own⟩ := Option.isSome_iff_exists.mp named.named
  have computed := effectiveVirtualPath_picked free (picked_of_longest longest) own
  obtain ⟨giver,given,deepest,has,continues⟩ := (resolves _).inherited free _ computed
  have gives := (above_iff.mp deepest.1).1
  have same : giver = folder := by
    refine Table.key_injective _ gives.row named.row ?_
    rcases List.prefix_or_prefix_of_prefix continues.front
      (inheritedPath_front folder.folderPath file.relativePath virtualPath) with inside | inside
    · exact apart giver folder given virtualPath gives named has own inside
    · exact (apart folder giver virtualPath given named gives own has inside).symm
  exact same ▸ deepest

include tidy

theorem longest_begins {folder : TrackedFolder} (longest : Longest db file folder) :
    Begins folder.folderPath file.relativePath :=
  (mem_virtualFolders.mp longest.1).2.begins tidy (longest_deepest free apart resolves longest).1.beneath

theorem clear_of_resolves : Clear db file := by
  constructor
  · intro folder named reads loose
    have taken := mem_virtualFolders.mpr ⟨named,reads⟩
    obtain ⟨other,longest⟩ := exists_longest taken
    have begins := longest_begins free tidy apart resolves longest
    refine ⟨other,(mem_virtualFolders.mp longest.1).1,begins,lt_of_le_of_ne (longest.2 folder taken) fun same => loose ?_⟩
    -- As long as the longest, the folder could have come first itself.
    exact longest_begins free tidy apart resolves ⟨taken,fun third listed => same ▸ longest.2 third listed⟩
  · intro folder named spelled
    have above := above_iff.mpr ⟨named,spelled.1⟩
    have taken : db.virtualFolders file ≠ [] := fun none =>
      (resolves id).missing free ((effectiveVirtualPath_none free).mpr none) folder above
    obtain ⟨first,listed⟩ := List.exists_mem_of_ne_nil _ taken
    obtain ⟨other,longest⟩ := exists_longest listed
    exact ⟨other,(mem_virtualFolders.mp longest.1).1,longest_begins free tidy apart resolves longest,
      (longest_deepest free apart resolves longest).2 folder above⟩

end

/-- A file is shown under the virtual path that it should have if the paths' texts tell the folder that is
meant; and, with a tidy path and folders whose virtual paths are told apart, only then. -/
theorem effectiveVirtualPath_resolved_iff (db : Db) (file : TrackedFile) (tracked : file ∈ db.trackedFiles.rows) :
    (file.virtualPath.isSome = true ∨ Clear db file → Resolved db file) ∧
      (Tidy file.relativePath.toList → NamesApart db file → Resolved db file →
        file.virtualPath.isSome = true ∨ Clear db file) := by
  constructor
  · intro condition
    have computed (tieBreak : Nat → Nat) : Resolves db file (db.effectiveVirtualPath tieBreak file) := by
      rcases condition with own | clear
      · rw [effectiveVirtualPath_own tieBreak own]
        constructor
        · exact fun _ => rfl
        · intro free
          simp [free] at own
        · intro free
          simp [free] at own
      · exact clear.resolves tieBreak
    refine ⟨computed,?_⟩
    intro tieBreak lastScannedAt request item listed kind own
    rcases Db.mem_trackingItems (Db.mem_listTrackingItems listed) with ⟨other,present,rfl⟩ | ⟨folder,_,rfl⟩
    · obtain rfl := Table.key_injective _ present tracked own
      exact computed tieBreak
    · cases kind
  · intro tidy apart resolved
    cases own : file.virtualPath with
    | some path => exact .inl rfl
    | none => exact .inr (clear_of_resolves own tidy apart resolved.computed)

/-! A folder with a virtual path, in the letter case of the file and in another one. -/

def namedFolder (folderPath : String) (id : Nat) : TrackedFolder := { folderRow folderPath id with virtualPath := some "/v" }

theorem key_namedFolder (folderPath : String) (id : Nat) : Keyed.key (namedFolder folderPath id) = id := rfl

def namedDb (folderPath : String) : Db :=
  foldersDb (Table.empty.insert (namedFolder folderPath) (key_namedFolder folderPath))

theorem effectiveVirtualPath_resolved_photos :
    Resolved (namedDb "photos") (scannedFile "photos/f" 1) ∧ Clear (namedDb "photos") (scannedFile "photos/f" 1) := by
  have only {folder : TrackedFolder} (named : Named (namedDb "photos") (scannedFile "photos/f" 1) folder) :
      folder = namedFolder "photos" 1 := List.mem_singleton.mp named.row
  have begins : Begins "photos" "photos/f" := .inr ⟨_,['f'],rfl,rfl⟩
  obtain ⟨right,back⟩ := effectiveVirtualPath_resolved_iff (namedDb "photos") (scannedFile "photos/f" 1) (by decide +kernel)
  have resolved : Resolved (namedDb "photos") (scannedFile "photos/f" 1) := by
    refine right (.inr ⟨fun folder named _ loose => ?_,fun folder named spelled => ?_⟩)
    · obtain rfl := only named
      exact absurd begins loose
    · obtain rfl := only named
      exact absurd begins spelled.2
  refine ⟨resolved,(back (by decide +kernel) ?_ resolved).resolve_left (by decide)⟩
  intro first second _ _ named also _ _ _
  rw [only named,only also]

theorem other_case_inherited : ¬ ∀ (db : Db) (file : TrackedFile), file ∈ db.trackedFiles.rows → Resolved db file := by
  intro resolved
  have computed := (resolved (namedDb "Photos") (scannedFile "photos/f" 1) (by decide +kernel)).computed id
  have shown : (namedDb "Photos").effectiveVirtualPath id (scannedFile "photos/f" 1) = some "/v/f" := by decide +kernel
  obtain ⟨folder,_,⟨above,_⟩,_⟩ := computed.inherited rfl _ shown
  obtain rfl := List.mem_singleton.mp (show folder ∈ [namedFolder "Photos" 1] from above.row)
  exact absurd above.beneath (by decide +kernel)

end BitProtector.EffectivePaths
