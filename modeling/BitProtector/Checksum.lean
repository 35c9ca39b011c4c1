import BitProtector.Disk

/-! Hashing a file and copying one, by the streaming loops of the source: what a
copy puts at its destination is the part of the source that could be read, up
to where the device stopped taking bytes, whatever the length of each read. -/
namespace BitProtector
open Effect

/-- The hash function of the `blake3` crate, in lowercase hex. -/
class Blake3 where
  toHex : List UInt8 → String

/-- BLAKE3 on the contents that the runs below use. -/
@[reducible] def sampleBlake3 : Blake3 where
  toHex
  | [] => "af1349b9f5f9a1a6a0404dea36dcc9499bcb25c9adc112b7cc9a93cae41f3262"
  | [1] => "48fc721fbbc172e0925fa27af1671de225ba927134802998b10a1568a188652b"
  | [2] => "ab13bedf42e84bae0f7c62c7dd6a8ada571e8829bed6ea558217f0361b5e25d0"
  | _ => ""

inductive ChecksumStrategy
  | streaming
  | mmapRayon
  deriving DecidableEq, Repr

namespace FileNode

/-- One `read` at an offset. -/
def read (node : FileNode) (offset len : Nat) : Option (List UInt8) :=
  match node.brokenAt with
  | none => some ((node.bytes.drop offset).take len)
  | some k =>
    if k ≤ offset then none else some ((node.bytes.drop offset).take (min len (k - offset)))

/-- What reads from the start on yield before the first that fails. -/
def readable (node : FileNode) : List UInt8 :=
  match node.brokenAt with
  | none => node.bytes
  | some k => node.bytes.take k

/-- Reading reaches the end of the file. -/
def whole (node : FileNode) : Bool :=
  match node.brokenAt with
  | none => true
  | some k => node.bytes.length < k

theorem readable_of_whole {node : FileNode} (whole : node.whole = true) : node.readable = node.bytes := by
  unfold FileNode.whole at whole
  unfold readable
  split
  · rfl
  · rename_i k broken
    rw [broken] at whole
    have short : node.bytes.length < k := by simpa using whole
    exact List.take_of_length_le (Nat.le_of_lt short)

theorem readable_length_le (node : FileNode) : node.readable.length ≤ node.bytes.length := by
  unfold readable
  split
  · exact Nat.le_refl _
  · exact List.length_take_le' _ _

theorem read_inside {node : FileNode} {offset : Nat} (len : Nat) (inside : offset < node.readable.length) :
    node.read offset len = some ((node.readable.drop offset).take len) := by
  unfold read readable at *
  split
  · rfl
  · rename_i k broken
    rw [broken] at inside
    have below : offset < k := by
      simp only [List.length_take] at inside
      omega
    simp only [Nat.not_le.mpr below,if_false,List.drop_take,List.take_take]

theorem read_end (node : FileNode) (len : Nat) :
    node.read node.readable.length len = if node.whole then some [] else none := by
  unfold read readable whole
  split
  · simp
  · rename_i k _
    by_cases short : node.bytes.length < k
    · have ended : min k node.bytes.length = node.bytes.length := by omega
      simp [ended,short]
    · have ended : min k node.bytes.length = k := by omega
      simp [ended,short]

end FileNode

/-- The length of one `read` into the 64 KiB buffer, never zero before the end. -/
def Io.bufLen (io : Io) (path : Location) (offset : Nat) : Nat :=
  max 1 (min 65536 (io.readLen path offset))

theorem Io.bufLen_pos (io : Io) (path : Location) (offset : Nat) : 0 < io.bufLen path offset := by
  unfold Io.bufLen
  omega

/-- `File::open`. -/
def openFile (io : Io) (path : Location) : Act Unit := fun w =>
  if w.disk.exists? path && io.openRead path then .ok () w else .error osError w

/-- `File::create`: an existing file is truncated. -/
def createFile (io : Io) (path : Location) : Act Unit := fun w =>
  if io.create path then .ok () { w with disk := w.disk.write path [] } else .error osError w

def readChunk (io : Io) (path : Location) (offset : Nat) : Act (List UInt8) := fun w =>
  match (w.disk.node path).bind (fun node => node.read offset (io.bufLen path offset)) with
  | some chunk => .ok chunk w
  | none => .error osError w

/-- The bytes of a list that a device takes which holds `taken` already. -/
def fitting (limit : Option Nat) (taken : Nat) (chunk : List UInt8) : List UInt8 :=
  match limit with
  | none => chunk
  | some most => chunk.take (most - taken)

/-- `write_all` at the end of an open file. -/
def writeAll (io : Io) (path : Location) (chunk : List UInt8) : Act Unit := fun w =>
  match w.disk.node path with
  | none => .error osError w
  | some node =>
    let taken := fitting (io.writeLimit path) node.bytes.length chunk
    let next := { w with disk := w.disk.write path (node.bytes ++ taken) }
    if taken = chunk then .ok () next else .error osError next

def fileSize (path : Location) (disk : Disk) : Nat :=
  ((disk.node path).map (fun node => node.bytes.length)).getD 0

/-- A system call that only may fail. -/
def attemptCall (succeeds : Bool) : Act Unit := Act.ensure succeeds osError

def hashLoop (io : Io) (path : Location) : Nat → Nat → List UInt8 → Act (List UInt8)
  | 0, _, _ => Act.bail osError
  | fuel + 1, offset, hashed => do
    let chunk ← readChunk io path offset
    if chunk = [] then pure hashed
    else hashLoop io path fuel (offset + chunk.length) (hashed ++ chunk)

/-- The copy loop, with what went into the hasher of each side. -/
def copyLoop (io : Io) (src dst : Location) :
    Nat → Nat → List UInt8 → List UInt8 → Act (List UInt8 × List UInt8)
  | 0, _, _, _ => Act.bail osError
  | fuel + 1, offset, srcHashed, dstHashed => do
    let chunk ← readChunk io src offset
    if chunk = [] then pure (srcHashed,dstHashed)
    else
      writeAll io dst chunk
      copyLoop io src dst fuel (offset + chunk.length) (srcHashed ++ chunk) (dstHashed ++ chunk)

section
variable [Blake3]

def checksumBytes (data : List UInt8) : String := Blake3.toHex data

def checksumFile (io : Io) (path : Location) (strategy : ChecksumStrategy) : Act String := do
  openFile io path
  match strategy with
  | .mmapRayon =>
    let mapped ← Act.look (fun disk => (disk.node path).bind (fun node =>
      if node.whole then some node.bytes else none))
    match mapped with
    | some bytes => pure (checksumBytes bytes)
    | none => Act.bail osError
  | .streaming =>
    let size ← Act.look (fileSize path)
    let hashed ← hashLoop io path (size + 1) 0 []
    pure (checksumBytes hashed)

def copyWithChecksum (io : Io) (src dst : Location) : Act (String × String) := do
  openFile io src
  createFile io dst
  let size ← Act.look (fileSize src)
  let (srcHashed,dstHashed) ← copyLoop io src dst (size + 1) 0 [] []
  attemptCall (io.flush dst)
  attemptCall (io.copyPermissions dst)
  pure (checksumBytes srcHashed,checksumBytes dstHashed)

def copyAndVerifyChecksum (io : Io) (src dst : Location) (expectedChecksum : String) : Act Unit := do
  openFile io src
  createFile io dst
  let size ← Act.look (fileSize src)
  let (hashed,_) ← copyLoop io src dst (size + 1) 0 [] []
  attemptCall (io.flush dst)
  let actual := checksumBytes hashed
  if actual ≠ expectedChecksum then
    if io.removeFile dst then Act.store (fun disk => disk.remove dst)
    Act.bail s!"checksum mismatch: expected={expectedChecksum} actual={actual}"
  attemptCall (io.copyPermissions dst)

end

/-! A copy writes files, never rows. -/

theorem dbKept_openFile (io : Io) (path : Location) : Keeps DbKept (openFile io path) := by
  intro w
  unfold after openFile
  cases w.disk.exists? path && io.openRead path <;> rfl

theorem dbKept_createFile (io : Io) (path : Location) : Keeps DbKept (createFile io path) := by
  intro w
  unfold after createFile
  cases io.create path <;> rfl

theorem dbKept_readChunk (io : Io) (path : Location) (offset : Nat) : Keeps DbKept (readChunk io path offset) := by
  intro w
  unfold after readChunk
  cases (w.disk.node path).bind (fun node => node.read offset (io.bufLen path offset)) <;> rfl

theorem dbKept_writeAll (io : Io) (path : Location) (chunk : List UInt8) :
    Keeps DbKept (writeAll io path chunk) := by
  intro w
  unfold after writeAll
  cases w.disk.node path with
  | none => rfl
  | some node =>
    dsimp only
    split
    · rename_i t ran
      split at ran <;> cases ran
      rfl
    · rename_i t failed
      split at failed <;> cases failed
      rfl

theorem dbKept_copyLoop (io : Io) (src dst : Location) (fuel offset : Nat) (srcHashed dstHashed : List UInt8) :
    Keeps DbKept (copyLoop io src dst fuel offset srcHashed dstHashed) := by
  induction fuel generalizing offset srcHashed dstHashed with
  | zero => exact dbKept_bail _
  | succ fuel ih =>
    refine keeps_bind (dbKept_readChunk io src offset) fun chunk => ?_
    split
    · exact keeps_pure _
    · exact keeps_bind (dbKept_writeAll io dst chunk) fun _ => ih _ _ _

theorem dbKept_copyWithChecksum [Blake3] (io : Io) (src dst : Location) :
    Keeps DbKept (copyWithChecksum io src dst) := by
  refine keeps_bind (dbKept_openFile io src) fun _ => keeps_bind (dbKept_createFile io dst) fun _ => ?_
  refine keeps_bind (dbKept_look _) fun _ => keeps_bind (dbKept_copyLoop _ _ _ _ _ _ _) fun _ => ?_
  refine keeps_bind (dbKept_ensure _ _) fun _ => keeps_bind (dbKept_ensure _ _) fun _ => ?_
  exact keeps_pure _

/-! What the loops do, for every length of the single reads. -/

theorem readChunk_inside (io : Io) {w : World} {path : Location} {node : FileNode} {offset : Nat}
    (found : w.disk.node path = some node) (inside : offset < node.readable.length) :
    readChunk io path offset w = .ok ((node.readable.drop offset).take (io.bufLen path offset)) w := by
  simp only [readChunk,found,Option.bind_some,FileNode.read_inside _ inside]

theorem readChunk_end (io : Io) {w : World} {path : Location} {node : FileNode}
    (found : w.disk.node path = some node) :
    readChunk io path node.readable.length w = if node.whole then .ok [] w else .error osError w := by
  simp only [readChunk,found,Option.bind_some,FileNode.read_end]
  cases node.whole <;> rfl

theorem chunk_ne_nil {bytes : List UInt8} {offset len : Nat} (inside : offset < bytes.length) (pos : 0 < len) :
    (bytes.drop offset).take len ≠ [] := by
  intro empty
  have length := congrArg List.length empty
  simp only [List.length_take,List.length_drop,List.length_nil] at length
  omega

theorem take_append_chunk (bytes : List UInt8) (offset len : Nat) :
    bytes.take offset ++ (bytes.drop offset).take len =
      bytes.take (offset + ((bytes.drop offset).take len).length) := by
  rw [List.take_add]
  congr 1
  rw [List.length_take,List.take_eq_take_iff]
  omega

theorem hashLoop_run (io : Io) {w : World} {path : Location} {node : FileNode}
    (found : w.disk.node path = some node) (fuel offset : Nat)
    (bound : offset ≤ node.readable.length) (enough : node.readable.length - offset < fuel) :
    hashLoop io path fuel offset (node.readable.take offset) w =
      if node.whole then .ok node.bytes w else .error osError w := by
  induction fuel generalizing offset with
  | zero => omega
  | succ fuel ih =>
    unfold hashLoop
    by_cases inside : offset < node.readable.length
    · have nonempty := chunk_ne_nil inside (io.bufLen_pos path offset)
      have length := congrArg List.length (take_append_chunk node.readable offset (io.bufLen path offset))
      have progress := List.length_pos_of_ne_nil nonempty
      rw [bind_of_ok (readChunk_inside io found inside),if_neg nonempty,take_append_chunk]
      apply ih
      · simp only [List.length_take,List.length_drop] at *
        omega
      · omega
    · have ended : offset = node.readable.length := by omega
      rw [ended,bind_apply,readChunk_end io found,List.take_length]
      cases whole : node.whole with
      | false => rfl
      | true => simp only [if_true,FileNode.readable_of_whole whole]; rfl

theorem fitting_held {limit : Option Nat} {taken : Nat} {chunk : List UInt8}
    (whole : fitting limit taken chunk = chunk) (held : ∀ most, limit = some most → taken ≤ most) :
    ∀ most, limit = some most → taken + chunk.length ≤ most := by
  intro most bounded
  have below := held most bounded
  have length := congrArg List.length whole
  simp only [fitting,bounded,List.length_take] at length
  omega

theorem fitting_stopped {limit : Option Nat} {bytes : List UInt8} {offset len : Nat}
    (inside : offset ≤ bytes.length) (held : ∀ most, limit = some most → offset ≤ most)
    (stopped : fitting limit offset ((bytes.drop offset).take len) ≠ (bytes.drop offset).take len) :
    bytes.take offset ++ fitting limit offset ((bytes.drop offset).take len) = fitting limit 0 bytes ∧
      fitting limit 0 bytes ≠ bytes := by
  cases limit with
  | none => exact absurd rfl stopped
  | some most =>
    have below := held most rfl
    simp only [fitting,Nat.sub_zero] at *
    have short : most - offset < ((bytes.drop offset).take len).length := by
      by_contra long
      exact stopped (List.take_of_length_le (Nat.not_lt.mp long))
    simp only [List.length_take,List.length_drop] at short
    constructor
    · have split : most = offset + (most - offset) := by omega
      rw [List.take_take,Nat.min_eq_left (by omega)]
      conv_rhs => rw [split,List.take_add]
    · intro same
      have length := congrArg List.length same
      simp only [List.length_take] at length
      omega

theorem fitting_all {limit : Option Nat} {bytes : List UInt8}
    (held : ∀ most, limit = some most → bytes.length ≤ most) : fitting limit 0 bytes = bytes := by
  cases limit with
  | none => rfl
  | some most => exact List.take_of_length_le (held most rfl)

theorem copyLoop_run (io : Io) {src dst : Location} (apart : src ≠ dst) {node : FileNode}
    (fuel offset : Nat) {w : World} (found : w.disk.node src = some node)
    (into : w.disk.node dst = some ⟨node.readable.take offset,none⟩)
    (bound : offset ≤ node.readable.length) (enough : node.readable.length - offset < fuel)
    (held : ∀ most, io.writeLimit dst = some most → offset ≤ most) :
    copyLoop io src dst fuel offset (node.readable.take offset) (node.readable.take offset) w =
      if node.whole ∧ fitting (io.writeLimit dst) 0 node.readable = node.readable then
        .ok (node.bytes,node.bytes) { w with disk := w.disk.write dst node.readable }
      else .error osError { w with disk := w.disk.write dst (fitting (io.writeLimit dst) 0 node.readable) } := by
  induction fuel generalizing offset w with
  | zero => omega
  | succ fuel ih =>
    unfold copyLoop
    by_cases inside : offset < node.readable.length
    · have nonempty := chunk_ne_nil inside (io.bufLen_pos src offset)
      have length := congrArg List.length (take_append_chunk node.readable offset (io.bufLen src offset))
      have progress := List.length_pos_of_ne_nil nonempty
      have before : (node.readable.take offset).length = offset := by
        rw [List.length_take]
        omega
      rw [bind_of_ok (readChunk_inside io found inside),if_neg nonempty]
      by_cases taken : fitting (io.writeLimit dst) offset ((node.readable.drop offset).take (io.bufLen src offset)) =
          (node.readable.drop offset).take (io.bufLen src offset)
      · -- The whole chunk is written: the destination holds the next prefix.
        have written : writeAll io dst ((node.readable.drop offset).take (io.bufLen src offset)) w =
            .ok () { w with disk := w.disk.write dst (node.readable.take
              (offset + ((node.readable.drop offset).take (io.bufLen src offset)).length)) } := by
          simp only [writeAll,into,before,taken,if_true,take_append_chunk]
        rw [bind_of_ok written,take_append_chunk]
        have later := ih (offset + ((node.readable.drop offset).take (io.bufLen src offset)).length)
          (w := { w with disk := w.disk.write dst (node.readable.take
            (offset + ((node.readable.drop offset).take (io.bufLen src offset)).length)) })
          (by rw [Disk.write_other _ _ apart,found]) (Disk.write_same _ _ _)
          (by simp only [List.length_take,List.length_drop]; omega) (by omega) (fitting_held taken held)
        simpa only [Disk.write_write] using later
      · have ⟨prefixed,short⟩ := fitting_stopped (Nat.le_of_lt inside) held taken
        have stopped : writeAll io dst ((node.readable.drop offset).take (io.bufLen src offset)) w =
            .error osError { w with disk := w.disk.write dst (fitting (io.writeLimit dst) 0 node.readable) } := by
          simp only [writeAll,into,before,taken,if_false,prefixed]
        rw [bind_of_error stopped,if_neg (fun both => short both.2)]
    · have ended : offset = node.readable.length := by omega
      subst ended
      rw [List.take_length] at into ⊢
      have fits := fitting_all held
      rw [bind_apply,readChunk_end io found,fits,Disk.write_self into]
      cases whole : node.whole with
      | false => simp
      | true => simp [FileNode.readable_of_whole whole]; rfl

/-- The source as the loop finds it, the destination being truncated by then. -/
def copySource (disk : Disk) (src dst : Location) : FileNode :=
  ((disk.write dst []).node src).getD ⟨[],none⟩

/-- What a copy leaves at its destination. -/
def delivered (io : Io) (disk : Disk) (src dst : Location) : List UInt8 :=
  fitting (io.writeLimit dst) 0 (copySource disk src dst).readable

/-- The loop reads its source to the end and the device takes all of it. -/
def arrives (io : Io) (disk : Disk) (src dst : Location) : Bool :=
  (copySource disk src dst).whole && (delivered io disk src dst == (copySource disk src dst).readable)

theorem delivered_of_arrives {io : Io} {disk : Disk} {src dst : Location}
    (arrived : arrives io disk src dst = true) :
    delivered io disk src dst = (copySource disk src dst).bytes := by
  obtain ⟨whole,all⟩ := Bool.and_eq_true_iff.mp arrived
  rw [eq_of_beq all,FileNode.readable_of_whole whole]

theorem copyLoop_created (io : Io) {src dst : Location} {w : World} (present : w.disk.exists? src = true) :
    copyLoop io src dst (fileSize src (w.disk.write dst []) + 1) 0 [] [] { w with disk := w.disk.write dst [] } =
      if arrives io w.disk src dst then
        .ok (delivered io w.disk src dst,delivered io w.disk src dst)
          { w with disk := w.disk.write dst (delivered io w.disk src dst) }
      else .error osError { w with disk := w.disk.write dst (delivered io w.disk src dst) } := by
  by_cases same : src = dst
  · subst same
    have empty : copySource w.disk src src = ⟨[],none⟩ := by simp [copySource]
    have none_left : delivered io w.disk src src = [] := by
      cases limit : io.writeLimit src <;> simp [delivered,fitting,empty,FileNode.readable,limit]
    have arrived : arrives io w.disk src src = true := by
      simp [arrives,none_left,empty,FileNode.whole,FileNode.readable]
    have truncated : (w.disk.write src []).node src = some ⟨[],none⟩ := Disk.write_same _ _ _
    have ended := readChunk_end io (w := { w with disk := w.disk.write src [] }) truncated
    simp only [arrived,none_left,if_true]
    unfold copyLoop
    rw [bind_apply]
    simp only [FileNode.readable,FileNode.whole,List.length_nil,if_true] at ended
    rw [ended]
    rfl
  · obtain ⟨node,found⟩ := Option.isSome_iff_exists.mp present
    have source : (w.disk.write dst []).node src = some node := by
      rw [Disk.write_other _ _ same,found]
    have opened : copySource w.disk src dst = node := by rw [copySource,source]; rfl
    have size : fileSize src (w.disk.write dst []) = node.bytes.length := by
      simp [fileSize,source]
    have ran := copyLoop_run io same (fileSize src (w.disk.write dst []) + 1) 0
      (w := { w with disk := w.disk.write dst [] }) source (by simp) (Nat.zero_le _)
      (by rw [size]; have := node.readable_length_le; omega) (fun _ _ => Nat.zero_le _)
    simp only [List.take_zero,Disk.write_write] at ran
    rw [ran]
    by_cases arrived : arrives io w.disk src dst = true
    · have all := delivered_of_arrives arrived
      simp only [arrives,opened,Bool.and_eq_true,beq_iff_eq,delivered] at arrived all ⊢
      simp only [arrived,and_self,if_true]
      rw [← all,arrived.2]
    · have short : ¬ (node.whole = true ∧ fitting (io.writeLimit dst) 0 node.readable = node.readable) := by
        simpa only [arrives,opened,Bool.and_eq_true,beq_iff_eq,delivered] using arrived
      rw [if_neg short,if_neg arrived]
      simp only [delivered,opened]

/-- Whether a copy gets as far as creating its destination. -/
def entersCopy (io : Io) (disk : Disk) (src dst : Location) : Bool :=
  disk.exists? src && io.openRead src && io.create dst

/-- A copy that enters and to which nothing happens. -/
def completesCopy (io : Io) (disk : Disk) (src dst : Location) : Bool :=
  arrives io disk src dst && io.flush dst && io.copyPermissions dst

theorem arrives_of_completes {io : Io} {disk : Disk} {src dst : Location}
    (completes : completesCopy io disk src dst = true) : arrives io disk src dst = true := by
  simp only [completesCopy,Bool.and_eq_true] at completes
  exact completes.1.1

theorem openFile_create_of_enters {io : Io} {w : World} {src dst : Location}
    (enters : entersCopy io w.disk src dst = true) :
    openFile io src w = .ok () w ∧ createFile io dst w = .ok () { w with disk := w.disk.write dst [] } ∧
      w.disk.exists? src = true := by
  simp only [entersCopy,Bool.and_eq_true] at enters
  obtain ⟨⟨present,opens⟩,creates⟩ := enters
  refine ⟨?_,?_,present⟩
  · simp [openFile,present,opens]
  · simp [createFile,creates]

theorem not_enters_error {io : Io} {w : World} {src dst : Location} {α : Type}
    (stays : entersCopy io w.disk src dst = false) (rest : Act α) :
    (do openFile io src; createFile io dst; rest) w = .error osError w := by
  simp only [entersCopy,Bool.and_eq_false_iff] at stays
  rw [bind_apply]
  by_cases opened : (w.disk.exists? src && io.openRead src) = true
  · have refused : io.create dst = false := by
      rcases stays with absent | refused
      · simp only [Bool.and_eq_true] at opened
        simp [opened] at absent
      · exact refused
    simp [openFile,opened,createFile,bind_apply,refused]
  · simp [openFile,opened]

section
variable [Blake3]

theorem copyWithChecksum_stays {io : Io} {w : World} {src dst : Location}
    (stays : entersCopy io w.disk src dst = false) : copyWithChecksum io src dst w = .error osError w :=
  not_enters_error stays _

theorem copyWithChecksum_enters {io : Io} {w : World} {src dst : Location}
    (enters : entersCopy io w.disk src dst = true) :
    (completesCopy io w.disk src dst = true ∧ copyWithChecksum io src dst w =
      .ok (checksumBytes (delivered io w.disk src dst),checksumBytes (delivered io w.disk src dst))
        { w with disk := w.disk.write dst (delivered io w.disk src dst) }) ∨
    (completesCopy io w.disk src dst = false ∧ ∃ message, copyWithChecksum io src dst w =
      .error message { w with disk := w.disk.write dst (delivered io w.disk src dst) }) := by
  obtain ⟨opened,created,present⟩ := openFile_create_of_enters enters
  unfold copyWithChecksum completesCopy
  rw [bind_of_ok opened,bind_of_ok created,bind_of_ok (Act.look_apply _ _),
    bind_apply,copyLoop_created io present]
  cases arrives io w.disk src dst with
  | false => exact .inr ⟨rfl,_,rfl⟩
  | true =>
    simp only [if_true,bind_apply,attemptCall]
    cases io.flush dst with
    | false => exact .inr ⟨rfl,osError,rfl⟩
    | true =>
      cases io.copyPermissions dst with
      | false => exact .inr ⟨rfl,osError,rfl⟩
      | true => exact .inl ⟨rfl,rfl⟩

theorem copyAndVerifyChecksum_stays {io : Io} {w : World} {src dst : Location} {expected : String}
    (stays : entersCopy io w.disk src dst = false) :
    copyAndVerifyChecksum io src dst expected w = .error osError w :=
  not_enters_error stays _

theorem copyAndVerifyChecksum_enters {io : Io} {w : World} {src dst : Location} (expected : String)
    (enters : entersCopy io w.disk src dst = true) :
    (completesCopy io w.disk src dst = true ∧ checksumBytes (delivered io w.disk src dst) = expected ∧
      copyAndVerifyChecksum io src dst expected w =
        .ok () { w with disk := w.disk.write dst (delivered io w.disk src dst) }) ∨
    (¬(completesCopy io w.disk src dst = true ∧ checksumBytes (delivered io w.disk src dst) = expected) ∧
      ∃ message, copyAndVerifyChecksum io src dst expected w =
        .error message { w with disk := w.disk.write dst (delivered io w.disk src dst) }) ∨
    (checksumBytes (delivered io w.disk src dst) ≠ expected ∧
      ∃ message, copyAndVerifyChecksum io src dst expected w =
        .error message { w with disk := w.disk.remove dst }) := by
  obtain ⟨opened,created,present⟩ := openFile_create_of_enters enters
  unfold copyAndVerifyChecksum completesCopy
  rw [bind_of_ok opened,bind_of_ok created,bind_of_ok (Act.look_apply _ _),
    bind_apply,copyLoop_created io present]
  cases arrives io w.disk src dst with
  | false => exact .inr (.inl ⟨by simp,_,rfl⟩)
  | true =>
    simp only [if_true,bind_apply,attemptCall]
    cases io.flush dst with
    | false => exact .inr (.inl ⟨by simp,osError,rfl⟩)
    | true =>
      by_cases same : checksumBytes (delivered io w.disk src dst) = expected
      · cases io.copyPermissions dst with
        | false => exact .inr (.inl ⟨by simp,osError,by simp [same]⟩)
        | true => exact .inl ⟨rfl,same,by simp [same]⟩
      · cases io.removeFile dst with
        | false => exact .inr (.inl ⟨by simp [same],_,by simp [same]; rfl⟩)
        | true => exact .inr (.inr ⟨same,_,by simp [same,bind_apply]; rfl⟩)

theorem checksumFile_run (io : Io) (w : World) (path : Location) (strategy : ChecksumStrategy) :
    checksumFile io path strategy w =
      match w.disk.node path with
      | some node =>
        if io.openRead path && node.whole then .ok (checksumBytes node.bytes) w else .error osError w
      | none => .error osError w := by
  unfold checksumFile
  cases found : w.disk.node path with
  | none => simp [bind_apply,openFile,Disk.exists?,found]
  | some node =>
    cases opens : io.openRead path with
    | false => simp [bind_apply,openFile,Disk.exists?,found,opens]
    | true =>
      have opened : openFile io path w = .ok () w := by simp [openFile,Disk.exists?,found,opens]
      rw [bind_of_ok opened]
      cases strategy with
      | mmapRayon =>
        simp only [bind_apply,Act.look_apply,found,Option.bind_some]
        cases node.whole <;> rfl
      | streaming =>
        have hashed := hashLoop_run io found (fileSize path w.disk + 1) 0 (Nat.zero_le _)
          (by simp [fileSize,found]; have := node.readable_length_le; omega)
        rw [List.take_zero] at hashed
        simp only [bind_apply,Act.look_apply,hashed]
        cases whole : node.whole <;> rfl

end

end BitProtector
