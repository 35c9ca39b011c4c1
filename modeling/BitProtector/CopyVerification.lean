import BitProtector.LastGoodCopy

/-! The copies of a file on a device that may hold something else than what was written to it, and report no error. -/
namespace BitProtector
open Effect

/-- What a file holds after a write that the device reports as done: by the path, the offset of the write, what the
file held before and the bytes given. -/
structure Device where
  store : Location → Nat → FileNode → List UInt8 → FileNode

def Device.faithful : Device := ⟨fun _ _ node chunk => ⟨node.bytes ++ chunk,none⟩⟩

def Disk.put (disk : Disk) (path : Location) (node : FileNode) : Disk :=
  { disk with node := fun other => if other = path then some node else disk.node other }

theorem Disk.put_same (disk : Disk) (path : Location) (node : FileNode) : (disk.put path node).node path = some node :=
  if_pos rfl

theorem Disk.put_other (disk : Disk) {path other : Location} (node : FileNode) (ne : other ≠ path) :
    (disk.put path node).node other = disk.node other := if_neg ne

/-! The copies, with every write through the device. -/

def writeAllOn (device : Device) (io : Io) (path : Location) (offset : Nat) (chunk : List UInt8) : Act Unit := fun w =>
  match w.disk.node path with
  | none => .error osError w
  | some node =>
    let taken := fitting (io.writeLimit path) offset chunk
    let next := { w with disk := w.disk.put path (device.store path offset node taken) }
    if taken = chunk then .ok () next else .error osError next

def copyLoopOn (device : Device) (io : Io) (src dst : Location) :
    Nat → Nat → List UInt8 → List UInt8 → Act (List UInt8 × List UInt8)
  | 0, _, _, _ => Act.bail osError
  | fuel + 1, offset, srcHashed, dstHashed => do
    let chunk ← readChunk io src offset
    if chunk = [] then pure (srcHashed,dstHashed)
    else
      writeAllOn device io dst offset chunk
      copyLoopOn device io src dst fuel (offset + chunk.length) (srcHashed ++ chunk) (dstHashed ++ chunk)

section
variable [Blake3]

def copyWithChecksumOn (device : Device) (io : Io) (src dst : Location) : Act (String × String) := do
  openFile io src
  createFile io dst
  let size ← Act.look (fileSize src)
  let (srcHashed,dstHashed) ← copyLoopOn device io src dst (size + 1) 0 [] []
  attemptCall (io.flush dst)
  attemptCall (io.copyPermissions dst)
  pure (checksumBytes srcHashed,checksumBytes dstHashed)

def copyAndVerifyChecksumOn (device : Device) (io : Io) (src dst : Location) (expectedChecksum : String) :
    Act Unit := do
  openFile io src
  createFile io dst
  let size ← Act.look (fileSize src)
  let (hashed,_) ← copyLoopOn device io src dst (size + 1) 0 [] []
  attemptCall (io.flush dst)
  let actual := checksumBytes hashed
  if actual ≠ expectedChecksum then
    if io.removeFile dst then Act.store (fun disk => disk.remove dst)
    Act.bail s!"checksum mismatch: expected={expectedChecksum} actual={actual}"
  attemptCall (io.copyPermissions dst)

def mirrorFileOn (device : Device) (io : Io) (pair : DrivePair) (relativePath : String) : Act String := do
  prepareMirror io pair relativePath
  let (srcChecksum,dstChecksum) ← Act.mapErr (fun _ => "Failed to copy file to mirror")
    (copyWithChecksumOn device io (pair.copyOn pair.activeRole relativePath) (pair.copyOn pair.standbyRole relativePath))
  Act.ensure (srcChecksum == dstChecksum) s!"Mirror verification failed: src={srcChecksum} dst={dstChecksum}"
  pure srcChecksum

def restoreSideOn (device : Device) (io : Io) (pair : DrivePair) (target : DriveRole)
    (relativePath expectedChecksum : String) : Act Unit := do
  prepareRestore io pair target relativePath
  let texts := restoreTexts target
  Act.mapErr (fun e => s!"{texts.mismatch} file checksum mismatch: stored={expectedChecksum} ({e})")
    (copyAndVerifyChecksumOn device io (pair.copyOn target.opposite relativePath) (pair.copyOn target relativePath)
      expectedChecksum)

end

/-! On a device that keeps what it is given these are the copies of the source. -/

theorem copyLoopOn_faithful (io : Io) (src dst : Location) (fuel offset : Nat) (srcHashed dstHashed : List UInt8)
    {w : World} {bytes : List UInt8} (into : w.disk.node dst = some ⟨bytes,none⟩) (length : bytes.length = offset) :
    copyLoopOn .faithful io src dst fuel offset srcHashed dstHashed w =
      copyLoop io src dst fuel offset srcHashed dstHashed w := by
  induction fuel generalizing offset srcHashed dstHashed w bytes with
  | zero => rfl
  | succ fuel ih =>
    unfold copyLoopOn copyLoop
    rw [bind_apply,bind_apply]
    unfold readChunk
    cases (w.disk.node src).bind (fun node => node.read offset (io.bufLen src offset)) with
    | none => rfl
    | some chunk =>
      by_cases ended : chunk = []
      · simp only [ended,if_true]
      · have stored : writeAllOn .faithful io dst offset chunk w = writeAll io dst chunk w := by
          subst length
          simp only [writeAllOn,writeAll,into,Device.faithful]
          rfl
        simp only [ended,if_false]
        rw [bind_apply,bind_apply,stored]
        by_cases taken : fitting (io.writeLimit dst) bytes.length chunk = chunk
        · simp only [writeAll,into,taken,if_true]
          exact ih _ _ _ (Disk.write_same _ _ _) (by rw [List.length_append,length])
        · simp only [writeAll,into,taken,if_false]

theorem opened_faithful {α : Type} (io : Io) (src dst : Location) (rest : List UInt8 × List UInt8 → Act α) :
    (do openFile io src
        createFile io dst
        let size ← Act.look (fileSize src)
        let hashed ← copyLoopOn .faithful io src dst (size + 1) 0 [] []
        rest hashed) =
      (do openFile io src
          createFile io dst
          let size ← Act.look (fileSize src)
          let hashed ← copyLoop io src dst (size + 1) 0 [] []
          rest hashed) := by
  funext w
  rw [bind_apply,bind_apply]
  cases openFile io src w with
  | error message t => rfl
  | ok _ t =>
    dsimp only
    rw [bind_apply,bind_apply]
    unfold createFile
    cases io.create dst with
    | false => rfl
    | true =>
      simp only [if_true]
      rw [bind_of_ok (Act.look_apply _ _),bind_of_ok (Act.look_apply _ _),bind_apply,
        bind_apply,copyLoopOn_faithful io src dst _ 0 [] [] (Disk.write_same _ _ _) rfl]

section
variable [Blake3]

theorem copyWithChecksumOn_faithful (io : Io) (src dst : Location) :
    copyWithChecksumOn .faithful io src dst = copyWithChecksum io src dst :=
  opened_faithful io src dst _

theorem copyAndVerifyChecksumOn_faithful (io : Io) (src dst : Location) (expectedChecksum : String) :
    copyAndVerifyChecksumOn .faithful io src dst expectedChecksum = copyAndVerifyChecksum io src dst expectedChecksum :=
  opened_faithful io src dst _

theorem mirrorFileOn_faithful (io : Io) (pair : DrivePair) (relativePath : String) :
    mirrorFileOn .faithful io pair relativePath = mirrorFile io pair relativePath := by
  rw [mirrorFileOn,copyWithChecksumOn_faithful]
  rfl

theorem restoreSideOn_faithful (io : Io) (pair : DrivePair) (target : DriveRole) (relativePath expectedChecksum : String) :
    restoreSideOn .faithful io pair target relativePath expectedChecksum =
      restoreSide io pair target relativePath expectedChecksum := by
  rw [restoreSideOn,copyAndVerifyChecksumOn_faithful]
  rfl

end

/-! What the device holds after the loop. -/

/-- The chunks that the loop reads, whatever the length of each read. -/
def chunksFrom (io : Io) (src : Location) (node : FileNode) : Nat → Nat → List (List UInt8)
  | 0, _ => []
  | fuel + 1, offset =>
    if offset < node.readable.length then
      let chunk := (node.readable.drop offset).take (io.bufLen src offset)
      chunk::chunksFrom io src node fuel (offset + chunk.length)
    else []

def chunks (io : Io) (src : Location) (node : FileNode) : List (List UInt8) :=
  chunksFrom io src node (node.bytes.length + 1) 0

/-- What a file holds after chunks were written to it one after the other. -/
def Device.holds (device : Device) (path : Location) : Nat → FileNode → List (List UInt8) → FileNode
  | _, node, [] => node
  | offset, node, chunk::rest => device.holds path (offset + chunk.length) (device.store path offset node chunk) rest

theorem faithful_holds (path : Location) (offset : Nat) (bytes : List UInt8) (written : List (List UInt8)) :
    Device.faithful.holds path offset ⟨bytes,none⟩ written = ⟨bytes ++ written.flatten,none⟩ := by
  induction written generalizing offset bytes with
  | nil => rw [Device.holds,List.flatten_nil,List.append_nil]
  | cons chunk written ih =>
    rw [Device.holds,List.flatten_cons,← List.append_assoc]
    exact ih _ _

theorem chunk_append_drop (bytes : List UInt8) (offset len : Nat) :
    (bytes.drop offset).take len ++ bytes.drop (offset + ((bytes.drop offset).take len).length) = bytes.drop offset := by
  rw [← List.drop_drop]
  generalize bytes.drop offset = rest
  conv_rhs => rw [← List.take_append_drop len rest]
  congr 1
  rw [List.length_take]
  by_cases short : len ≤ rest.length
  · rw [Nat.min_eq_left short]
  · rw [Nat.min_eq_right (by omega),List.drop_length,List.drop_eq_nil_of_le (by omega)]

/-- The chunks are the source, cut up. -/
theorem chunksFrom_flatten (io : Io) (src : Location) (node : FileNode) (fuel offset : Nat)
    (enough : node.readable.length - offset < fuel) :
    (chunksFrom io src node fuel offset).flatten = node.readable.drop offset := by
  induction fuel generalizing offset with
  | zero => omega
  | succ fuel ih =>
    unfold chunksFrom
    by_cases inside : offset < node.readable.length
    · have progress := List.length_pos_of_ne_nil (chunk_ne_nil inside (io.bufLen_pos src offset))
      rw [if_pos inside,List.flatten_cons,ih _ (by omega)]
      exact chunk_append_drop node.readable offset (io.bufLen src offset)
    · rw [if_neg inside,List.flatten_nil,List.drop_eq_nil_of_le (by omega)]

theorem chunks_flatten (io : Io) (src : Location) (node : FileNode) : (chunks io src node).flatten = node.readable := by
  have bound := node.readable_length_le
  rw [chunks,chunksFrom_flatten io src node _ 0 (by omega),List.drop_zero]

theorem writeAllOn_success {device : Device} {io : Io} {path : Location} {offset : Nat} {chunk : List UInt8} {w t : World}
    {held : FileNode} (into : w.disk.node path = some held) (ok : writeAllOn device io path offset chunk w = .ok () t) :
    t = { w with disk := w.disk.put path (device.store path offset held chunk) } := by
  simp only [writeAllOn,into] at ok
  split at ok
  · rename_i taken
    rw [taken] at ok
    cases ok
    rfl
  · cases ok

/-- A loop that ends well has hashed the source for both sides, and the device holds what it made of the chunks. -/
theorem copyLoopOn_success {device : Device} {io : Io} {src dst : Location} {fuel offset : Nat} {node held : FileNode}
    {srcHashed dstHashed a b : List UInt8} {w t : World} (found : w.disk.node src = some node)
    (apart : src ≠ dst ∨ node.readable.length ≤ offset) (bound : offset ≤ node.readable.length)
    (into : w.disk.node dst = some held)
    (ok : copyLoopOn device io src dst fuel offset srcHashed dstHashed w = .ok (a,b) t) :
    a = srcHashed ++ node.readable.drop offset ∧ b = dstHashed ++ node.readable.drop offset ∧
      t.disk.node dst = some (device.holds dst offset held (chunksFrom io src node fuel offset)) := by
  induction fuel generalizing offset srcHashed dstHashed w held with
  | zero => cases ok
  | succ fuel ih =>
    unfold copyLoopOn at ok
    unfold chunksFrom
    by_cases inside : offset < node.readable.length
    · have nonempty := chunk_ne_nil inside (io.bufLen_pos src offset)
      have other : src ≠ dst := apart.resolve_right (by omega)
      rw [bind_of_ok (readChunk_inside io found inside),if_neg nonempty] at ok
      obtain ⟨_,u,written,rest⟩ := bind_success ok
      obtain rfl := writeAllOn_success into written
      have still : (w.disk.put dst (device.store dst offset held
          ((node.readable.drop offset).take (io.bufLen src offset)))).node src = some node := by
        rw [Disk.put_other _ _ other,found]
      obtain ⟨first,second,holds⟩ := ih still (.inl other)
        (by simp only [List.length_take,List.length_drop]; omega) (Disk.put_same _ _ _) rest
      rw [if_pos inside,first,second,List.append_assoc,List.append_assoc,chunk_append_drop]
      exact ⟨rfl,rfl,holds⟩
    · have ended : offset = node.readable.length := by omega
      subst ended
      rw [bind_apply,readChunk_end io found] at ok
      rw [if_neg inside,List.drop_length,List.append_nil,List.append_nil]
      cases whole : node.whole with
      | false =>
        rw [whole] at ok
        cases ok
      | true =>
        rw [whole] at ok
        cases ok
        exact ⟨rfl,rfl,into⟩

/-! The three operations. -/

inductive Copying
  | mirrorFile
  | restoreFromMirror (expectedChecksum : String)
  | restoreMirrorFromMaster (expectedChecksum : String)

namespace Copying

/-- The side that the copy writes. -/
def target (pair : DrivePair) : Copying → DriveRole
  | .mirrorFile => pair.standbyRole
  | .restoreFromMirror _ => .primary
  | .restoreMirrorFromMaster _ => .secondary

/-- The world on which the copy creates its destination, if it gets there. -/
def entry (io : Io) (pair : DrivePair) (relativePath : String) (w : World) : Copying → Option World
  | .mirrorFile => mirrorEntry io pair relativePath w
  | .restoreFromMirror _ => restoreEntry io pair .primary relativePath w
  | .restoreMirrorFromMaster _ => restoreEntry io pair .secondary relativePath w

def source (pair : DrivePair) (relativePath : String) (copying : Copying) : Location :=
  pair.copyOn (copying.target pair).opposite relativePath

def destination (pair : DrivePair) (relativePath : String) (copying : Copying) : Location :=
  pair.copyOn (copying.target pair) relativePath

section
variable [Blake3]

/-- The operation with the checksum that it returns, or compares. -/
def run (device : Device) (io : Io) (pair : DrivePair) (relativePath : String) : Copying → Act String
  | .mirrorFile => mirrorFileOn device io pair relativePath
  | .restoreFromMirror expectedChecksum => do
    restoreSideOn device io pair .primary relativePath expectedChecksum
    pure expectedChecksum
  | .restoreMirrorFromMaster expectedChecksum => do
    restoreSideOn device io pair .secondary relativePath expectedChecksum
    pure expectedChecksum

/-- Of the chunks of the source the device makes a file that can be read and has the hash of the source. -/
def Retained (device : Device) (io : Io) (pair : DrivePair) (relativePath : String) (w : World) (copying : Copying) :
    Prop :=
  ∃ u, copying.entry io pair relativePath w = some u ∧
    let src := copying.source pair relativePath
    let dst := copying.destination pair relativePath
    let node := copySource u.disk src dst
    let held := device.holds dst 0 ⟨[],none⟩ (chunks io src node)
    held.whole = true ∧ checksumBytes held.bytes = checksumBytes node.readable

end

end Copying

/-- A copy that gets past its loop has entered, and holds for both sides what it read of the source. -/
theorem opened_success {α : Type} {device : Device} {io : Io} {src dst : Location} {w t : World} {r : α}
    {rest : List UInt8 × List UInt8 → Act α}
    (ok : (do openFile io src
              createFile io dst
              let size ← Act.look (fileSize src)
              let hashed ← copyLoopOn device io src dst (size + 1) 0 [] []
              rest hashed) w = .ok r t) :
    entersCopy io w.disk src dst = true ∧ ∃ u : World,
      u.disk.node dst = some (device.holds dst 0 ⟨[],none⟩ (chunks io src (copySource w.disk src dst))) ∧
      rest ((copySource w.disk src dst).readable,(copySource w.disk src dst).readable) u = .ok r t := by
  obtain ⟨_,x,opened,creates⟩ := bind_success ok
  obtain ⟨_,y,created,sizes⟩ := bind_success creates
  obtain ⟨size,z,sized,loops⟩ := bind_success sizes
  obtain ⟨⟨a,b⟩,u,looped,ends⟩ := bind_success loops
  obtain ⟨rfl,rfl⟩ := Act.look_success sized
  unfold openFile at opened
  unfold createFile at created
  split at opened
  · rename_i opens
    cases opened
    split at created
    · rename_i creating
      cases created
      obtain ⟨present,_⟩ := Bool.and_eq_true_iff.mp opens
      have source : (w.disk.write dst []).node src = some (copySource w.disk src dst) := by
        by_cases same : src = dst
        · rw [copySource,same,Disk.write_same]
          rfl
        · obtain ⟨node,found⟩ := Option.isSome_iff_exists.mp present
          rw [copySource,Disk.write_other _ _ same,found]
          rfl
      have apart : src ≠ dst ∨ (copySource w.disk src dst).readable.length ≤ 0 := by
        by_cases same : src = dst
        · right
          rw [copySource,same,Disk.write_same]
          exact Nat.le_refl 0
        · exact .inl same
      have length : fileSize src (w.disk.write dst []) = (copySource w.disk src dst).bytes.length := by
        rw [fileSize,source]
        rfl
      obtain ⟨first,second,holds⟩ := copyLoopOn_success source apart (Nat.zero_le _) (Disk.write_same _ _ _) looped
      refine ⟨Bool.and_eq_true_iff.mpr ⟨opens,creating⟩,u,?_,?_⟩
      · rw [holds,chunks,length]
      · rw [List.nil_append,List.drop_zero] at first second
        rw [first,second] at ends
        exact ends
    · cases created
  · cases opened

section
variable [Blake3]

theorem copyWithChecksumOn_success {device : Device} {io : Io} {src dst : Location} {w t : World} {a b : String}
    (ok : copyWithChecksumOn device io src dst w = .ok (a,b) t) :
    entersCopy io w.disk src dst = true ∧ a = checksumBytes (copySource w.disk src dst).readable ∧
      t.disk.node dst = some (device.holds dst 0 ⟨[],none⟩ (chunks io src (copySource w.disk src dst))) := by
  obtain ⟨enters,u,holds,rest⟩ := opened_success ok
  obtain ⟨_,x,flushed,permits⟩ := bind_success rest
  obtain ⟨_,y,permitted,ends⟩ := bind_success permits
  obtain ⟨_,rfl⟩ := Act.ensure_success flushed
  obtain ⟨_,rfl⟩ := Act.ensure_success permitted
  cases ends
  exact ⟨enters,rfl,holds⟩

theorem copyAndVerifyChecksumOn_success {device : Device} {io : Io} {src dst : Location} {expectedChecksum : String}
    {w t : World} (ok : copyAndVerifyChecksumOn device io src dst expectedChecksum w = .ok () t) :
    entersCopy io w.disk src dst = true ∧ checksumBytes (copySource w.disk src dst).readable = expectedChecksum ∧
      t.disk.node dst = some (device.holds dst 0 ⟨[],none⟩ (chunks io src (copySource w.disk src dst))) := by
  obtain ⟨enters,u,holds,rest⟩ := opened_success ok
  obtain ⟨_,x,flushed,compares⟩ := bind_success rest
  obtain ⟨_,rfl⟩ := Act.ensure_success flushed
  by_cases differs : checksumBytes (copySource w.disk src dst).readable ≠ expectedChecksum
  · rw [if_pos differs] at compares
    cases removes : io.removeFile dst with
    | true =>
      rw [removes,if_pos rfl] at compares
      cases compares
    | false =>
      rw [removes,if_neg Bool.false_ne_true] at compares
      cases compares
  · rw [if_neg differs] at compares
    obtain ⟨_,rfl⟩ := Act.ensure_success compares
    exact ⟨enters,not_not.mp differs,holds⟩

omit [Blake3] in
theorem copyEntry_of_ok {io : Io} {prepare : Act Unit} {src dst : Location} {w u : World} (prepared : prepare w = .ok () u)
    (enters : entersCopy io u.disk src dst = true) : copyEntry io prepare src dst w = some u := by
  rw [copyEntry,prepared]
  exact if_pos enters

/-- A copy that returns has the checksum of its source, and the device holds what it made of the chunks. -/
theorem Copying.run_success {device : Device} {io : Io} {pair : DrivePair} {relativePath checksum : String} {w t : World}
    {copying : Copying} (ok : copying.run device io pair relativePath w = .ok checksum t) :
    ∃ u, copying.entry io pair relativePath w = some u ∧
      checksum = checksumBytes (copySource u.disk (copying.source pair relativePath)
        (copying.destination pair relativePath)).readable ∧
      t.disk.node (copying.destination pair relativePath) = some (device.holds (copying.destination pair relativePath) 0
        ⟨[],none⟩ (chunks io (copying.source pair relativePath) (copySource u.disk (copying.source pair relativePath)
          (copying.destination pair relativePath)))) := by
  have restored {target : DriveRole} {expected : String}
      (ran : (do restoreSideOn device io pair target relativePath expected; pure expected : Act String) w = .ok checksum t) :
      ∃ u, restoreEntry io pair target relativePath w = some u ∧
        checksum = checksumBytes (copySource u.disk (pair.copyOn target.opposite relativePath)
          (pair.copyOn target relativePath)).readable ∧
        t.disk.node (pair.copyOn target relativePath) = some (device.holds (pair.copyOn target relativePath) 0 ⟨[],none⟩
          (chunks io (pair.copyOn target.opposite relativePath) (copySource u.disk
            (pair.copyOn target.opposite relativePath) (pair.copyOn target relativePath)))) := by
    obtain ⟨_,x,side,returns⟩ := bind_success ran
    cases returns
    obtain ⟨_,u,prepared,copies⟩ := bind_success side
    obtain ⟨enters,same,holds⟩ := copyAndVerifyChecksumOn_success (Act.mapErr_success copies)
    exact ⟨u,copyEntry_of_ok prepared enters,same.symm,holds⟩
  cases copying with
  | mirrorFile =>
    obtain ⟨_,u,prepared,copies⟩ := bind_success ok
    obtain ⟨⟨a,b⟩,x,copied,compares⟩ := bind_success copies
    obtain ⟨_,y,equal,returns⟩ := bind_success compares
    obtain ⟨_,rfl⟩ := Act.ensure_success equal
    cases returns
    obtain ⟨enters,same,holds⟩ := copyWithChecksumOn_success (Act.mapErr_success copied)
    have back : pair.standbyRole.opposite = pair.activeRole := DriveRole.opposite_opposite pair.activeRole
    refine ⟨u,copyEntry_of_ok prepared enters,?_,?_⟩
    · rw [Copying.source,Copying.destination,Copying.target,back]
      exact same
    · rw [Copying.source,Copying.destination,Copying.target,back]
      exact holds
  | restoreFromMirror expected => exact restored ok
  | restoreMirrorFromMaster expected => exact restored ok

/-- What can be read of the destination has the checksum that the copy returned or compared exactly if the device
makes a file with the hash of the source out of the chunks. Nothing reads the destination. -/
theorem copy_verified_iff {device : Device} {io : Io} {pair : DrivePair} {relativePath checksum : String} {w t : World}
    {copying : Copying} (ok : copying.run device io pair relativePath w = .ok checksum t) :
    GoodAt t.disk (copying.destination pair relativePath) checksum ↔ copying.Retained device io pair relativePath w := by
  obtain ⟨u,entered,returned,holds⟩ := Copying.run_success ok
  constructor
  · rintro ⟨node,found,whole,good⟩
    rw [holds] at found
    cases found
    exact ⟨u,entered,whole,good.trans returned⟩
  · rintro ⟨x,entry,whole,same⟩
    obtain rfl := Option.some.inj (entered.symm.trans entry)
    exact ⟨_,holds,whole,same.trans returned.symm⟩

end

/-! A device that keeps what it is given, and one that drops every write. -/

theorem copy_verified_iff_faithful :
    letI := sampleBlake3
    ∃ t, Copying.mirrorFile.run .faithful .healthy corruptedPair "notes.txt" corruptedWorld =
        .ok (sampleBlake3.toHex [1]) t ∧
      GoodAt t.disk (Copying.mirrorFile.destination corruptedPair "notes.txt") (sampleBlake3.toHex [1]) := by
  let _ := sampleBlake3
  obtain ⟨t,ran⟩ : ∃ t, Copying.mirrorFile.run .faithful .healthy corruptedPair "notes.txt" corruptedWorld =
      .ok (sampleBlake3.toHex [1]) t := ⟨_,rfl⟩
  refine ⟨t,ran,(copy_verified_iff ran).mpr ⟨corruptedWorld,rfl,?_⟩⟩
  dsimp only
  rw [faithful_holds,chunks_flatten]
  exact ⟨rfl,rfl⟩

def droppingDevice : Device := ⟨fun _ _ node _ => node⟩

/-- The hash of the source is compared with itself. -/
theorem dropped_write_passes :
    ¬ ∀ (_ : Blake3) (device : Device) (io : Io) (pair : DrivePair) (relativePath checksum : String) (w t : World)
      (copying : Copying), copying.run device io pair relativePath w = .ok checksum t →
        GoodAt t.disk (copying.destination pair relativePath) checksum := by
  intro verified
  let _ := sampleBlake3
  obtain ⟨t,ran,left⟩ : ∃ t, Copying.mirrorFile.run droppingDevice .healthy corruptedPair "notes.txt" corruptedWorld =
        .ok (sampleBlake3.toHex [1]) t ∧
      t.disk.node (Copying.mirrorFile.destination corruptedPair "notes.txt") = some ⟨[],none⟩ := ⟨_,rfl,rfl⟩
  obtain ⟨node,found,_,same⟩ := verified sampleBlake3 droppingDevice .healthy corruptedPair "notes.txt" _ corruptedWorld t
    .mirrorFile ran
  rw [left] at found
  cases found
  exact absurd same (by decide)

end BitProtector
