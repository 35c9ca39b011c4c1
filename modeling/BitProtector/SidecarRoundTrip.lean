import BitProtector.Resolutions
import BitProtector.ScanRoundTrip

/-! The sidecar that an accepted mismatch writes, and the one that tracking reads. The
text is a checksum, two blanks and the name of the file; the reader takes the first word of
the first line, whatever the name is. The writer goes to the primary side, the reader to
the active one. -/
namespace BitProtector.SidecarRoundTrip
open Effect Sidecar VirtualPath Resolutions SymlinkSync

/-! The text. -/

/-- What `blake3` writes: 64 digits in lower case. -/
def Recorded (checksum : String) : Prop :=
  checksum.toList.length = 64 ∧ ∀ c ∈ checksum.toList, c ∈ "0123456789abcdef".toList

theorem Recorded.all {checksum : String} (recorded : Recorded checksum) {p : Char → Bool}
    (digits : "0123456789abcdef".toList.all p = true) : ∀ c ∈ checksum.toList, p c = true :=
  fun c member => List.all_eq_true.mp digits c (recorded.2 c member)

theorem utf8ByteSize_of_ascii {text : List Char} (ascii : ∀ c ∈ text, c.utf8Size = 1) :
    (String.ofList text).utf8ByteSize = text.length := by
  induction text with
  | nil => rfl
  | cons c text ih =>
    obtain ⟨first,rest⟩ := List.forall_mem_cons.mp ascii
    rw [String.ofList_cons,String.utf8ByteSize_append,String.utf8ByteSize_singleton,first,ih rest,List.length_cons,
      Nat.add_comm]

theorem Recorded.utf8ByteSize {checksum : String} (recorded : Recorded checksum) : checksum.utf8ByteSize = 64 := by
  have one := recorded.all (p := fun c => c.utf8Size == 1) (by decide)
  have size := utf8ByteSize_of_ascii fun c member => eq_of_beq (one c member)
  rwa [String.ofList_toList,recorded.1] at size

theorem Recorded.nonempty {checksum : String} (recorded : Recorded checksum) : checksum.toList ≠ [] := by
  intro none
  have length := recorded.1
  rw [none] at length
  cases length

theorem Recorded.plain {checksum : String} (recorded : Recorded checksum) :
    ∀ c ∈ checksum.toList, isWhitespace c = false := by
  have printed := recorded.all (p := fun c => !isWhitespace c) (by decide)
  exact fun c member => by simpa using printed c member

theorem Recorded.normalize {checksum : String} (recorded : Recorded checksum) :
    normalizeB3Hex checksum.toList = .ok checksum := by
  have lower := recorded.all (p := fun c => c.toLower == c) (by decide)
  have same : checksum.toList.map Char.toLower = checksum.toList := by
    rw [List.map_congr_left fun c member => eq_of_beq (lower c member),List.map_id']
  unfold normalizeB3Hex
  dsimp only
  rw [same,String.ofList_toList,recorded.utf8ByteSize,if_neg (by decide),
    if_pos (List.all_eq_true.mpr (recorded.all (by decide)))]

theorem takeWhile_trim {word rest : List Char} (nonempty : word ≠ []) (plain : ∀ c ∈ word, isWhitespace c = false)
    (blank : ∀ c ∈ rest.head?, isWhitespace c = true) :
    (trim (word ++ rest)).takeWhile (fun c => !isWhitespace c) = word := by
  have printed : ∀ c ∈ word, (!isWhitespace c) = true := fun c member => by rw [plain c member]; rfl
  have front : (word ++ rest).dropWhile isWhitespace = word ++ rest := by
    obtain ⟨c,cs,rfl⟩ := List.exists_cons_of_ne_nil nonempty
    exact List.dropWhile_cons_of_neg (by rw [plain c List.mem_cons_self]; exact Bool.false_ne_true)
  have back : word.reverse.dropWhile isWhitespace = word.reverse := by
    obtain ⟨c,cs,reversed⟩ := List.exists_cons_of_ne_nil (List.reverse_ne_nil_iff.mpr nonempty)
    have member : c ∈ word := List.mem_reverse.mp (reversed ▸ List.mem_cons_self)
    rw [reversed]
    exact List.dropWhile_cons_of_neg (by rw [plain c member]; exact Bool.false_ne_true)
  unfold trim
  rw [front,List.reverse_append,List.dropWhile_append]
  split
  · rw [back,List.reverse_reverse]
    exact List.takeWhile_eq_self_iff.mpr printed
  · rename_i left
    rw [List.reverse_append,List.reverse_reverse,List.takeWhile_append_of_pos printed]
    -- What is left of the rest still begins with its first blank.
    obtain ⟨tail,whole⟩ := List.rdropWhile_prefix isWhitespace rest
    change rest.rdropWhile isWhitespace ++ tail = rest at whole
    change word ++ (rest.rdropWhile isWhitespace).takeWhile _ = word
    cases kept : rest.rdropWhile isWhitespace with
    | nil => rw [List.takeWhile_nil,List.append_nil]
    | cons c cs =>
      rw [kept] at whole
      have first : isWhitespace c = true := blank c (by rw [← whole]; rfl)
      rw [List.takeWhile_cons_of_neg (by rw [first]; exact Bool.false_ne_true),List.append_nil]

theorem splitOn_append_line {word : List Char} (inside : '\n' ∉ word) (rest : List Char) :
    (word ++ rest).splitOn '\n' = (rest.splitOn '\n').modifyHead (word ++ ·) := by
  induction word with
  | nil =>
    rw [List.nil_append]
    cases rest.splitOn '\n' <;> rfl
  | cons c word ih =>
    have other : (c == '\n') = false := by
      rw [beq_eq_false_iff_ne]
      rintro rfl
      exact inside List.mem_cons_self
    rw [List.cons_append,List.splitOn_cons_eq_if_modifyHead,other,if_neg Bool.false_ne_true,
      ih fun member => inside (List.mem_cons_of_mem _ member)]
    cases rest.splitOn '\n' <;> rfl

theorem firstToken_line {word : List Char} (nonempty : word ≠ []) (plain : ∀ c ∈ word, isWhitespace c = false)
    (rest : List Char) : firstToken (word ++ ' '::rest) = some word := by
  have line : '\n' ∉ word := fun member => by
    have blank := plain _ member
    revert blank
    decide
  have blank : ((' ' == '\n') : Bool) = false := by decide
  obtain ⟨first,others,split⟩ := List.exists_cons_of_ne_nil (List.splitOn_ne_nil '\n' rest)
  have token : (trim (word ++ ' '::first)).takeWhile (fun c => !isWhitespace c) = word := by
    apply takeWhile_trim nonempty plain
    intro c same
    cases same
    decide
  have kept : trim (word ++ ' '::first) ≠ [] := by
    intro none
    rw [none,List.takeWhile_nil] at token
    exact nonempty token.symm
  unfold firstToken
  rw [splitOn_append_line line,List.splitOn_cons_eq_if_modifyHead,blank,if_neg Bool.false_ne_true,split,
    List.modifyHead_cons,List.modifyHead_cons,List.map_cons,List.find?_cons_of_pos (by simpa using kept),Option.map_some,
    token]

/-! The reader. -/

/-- What a sidecar says. -/
def sidecarValue (io : Io) (sidecarPath : Location) : Option FileNode → Except String (Option String)
  | none => .ok none
  | some node =>
    let shown := sidecarPath.display
    let size := node.bytes.length
    if size ≤ maxSidecarBytes then
      match if io.openRead sidecarPath && node.whole then String.fromUTF8? ⟨node.bytes.toArray⟩ else none with
      | none => .error s!"Failed to read sidecar {shown}"
      | some content =>
        match firstToken content.toList with
        | none => .error s!"Sidecar is empty: {shown}"
        | some token => (normalizeB3Hex token).map some
    else .error s!"Sidecar is too large ({size} bytes, max {maxSidecarBytes}): {shown}"

theorem readB3Sidecar_run {io : Io} {filePath sidecarPath : Location} (named : sidecarPathFor filePath = .ok sidecarPath)
    (w : World) :
    readB3Sidecar io filePath w = Act.query (fun _ => sidecarValue io sidecarPath (w.disk.node sidecarPath)) w := by
  have path : Act.query (fun _ => sidecarPathFor filePath) w = .ok sidecarPath w := by simp only [Act.query,named]
  unfold readB3Sidecar sidecarValue
  rw [bind_of_ok path,bind_of_ok (Act.look_apply _ _)]
  cases found : w.disk.node sidecarPath with
  | none =>
    have absent : w.disk.exists? sidecarPath = false := by rw [Disk.exists?,found]; rfl
    rw [absent]
    rfl
  | some node =>
    have present : w.disk.exists? sidecarPath = true := by rw [Disk.exists?,found]; rfl
    have size : fileSize sidecarPath w.disk = node.bytes.length := by rw [fileSize,found]; rfl
    rw [present]
    simp only [Bool.not_true,Bool.false_eq_true,if_false]
    rw [bind_of_ok (Act.look_apply _ _),size]
    by_cases small : node.bytes.length ≤ maxSidecarBytes
    · rw [decide_eq_true small,bind_of_ok (Act.ensure_true _ _),if_pos small]
      unfold Act.query
      rw [bind_apply]
      unfold Act.mapErr readToString
      rw [found]
      cases reads : io.openRead sidecarPath && node.whole with
      | false => simp [reads]
      | true =>
        simp only [reads,if_true]
        cases String.fromUTF8? ⟨node.bytes.toArray⟩ with
        | none => rfl
        | some content =>
          dsimp only
          cases firstToken content.toList with
          | none => rfl
          | some token =>
            dsimp only
            cases normalizeB3Hex token <;> rfl
    · rw [decide_eq_false small,if_neg small]
      rfl

theorem toList_loop (bytes : ByteArray) (i : Nat) (read : List UInt8) :
    ByteArray.toList.loop bytes i read = read.reverse ++ bytes.data.toList.drop i := by
  fun_induction ByteArray.toList.loop bytes i read with
  | case1 i read inside ih =>
    have bound : i < bytes.data.toList.length := by simpa using inside
    have byte : bytes.get! i = bytes.data.toList[i] := getElem!_pos bytes.data i inside
    rw [ih,List.drop_eq_getElem_cons bound,byte,List.reverse_cons,List.append_assoc]
    rfl
  | case2 i read outside =>
    have bound : bytes.data.toList.length ≤ i := by simpa using outside
    rw [List.drop_eq_nil_of_le bound,List.append_nil]

theorem fromUTF8_written (text : String) : String.fromUTF8? ⟨text.toUTF8.toList.toArray⟩ = some text := by
  have bytes : (⟨text.toUTF8.toList.toArray⟩ : ByteArray) = text.toByteArray := by
    rw [ByteArray.toList,toList_loop]
    rfl
  rw [bytes,String.fromUTF8?,dif_pos text.isValidUTF8]
  rfl

theorem length_written (text : String) : text.toUTF8.toList.length = text.utf8ByteSize := by
  rw [ByteArray.toList,toList_loop,List.reverse_nil,List.nil_append,List.drop_zero]
  rfl

theorem sidecarValue_line {io : Io} {sidecarPath : Location} {checksum : String} (recorded : Recorded checksum)
    {name : List Char} (short : (String.ofList name).utf8ByteSize ≤ 255) (opens : io.openRead sidecarPath = true) :
    sidecarValue io sidecarPath (some ⟨s!"{checksum}  {String.ofList name}\n".toUTF8.toList,none⟩) = .ok (some checksum) := by
  have size : s!"{checksum}  {String.ofList name}\n".utf8ByteSize = 64 + 2 + (String.ofList name).utf8ByteSize + 1 := by
    change (checksum ++ "  " ++ String.ofList name ++ "\n").utf8ByteSize = _
    rw [String.utf8ByteSize_append,String.utf8ByteSize_append,String.utf8ByteSize_append,recorded.utf8ByteSize]
    rfl
  have text : s!"{checksum}  {String.ofList name}\n".toList = checksum.toList ++ ' '::(' '::name ++ ['\n']) := by
    change (checksum ++ "  " ++ String.ofList name ++ "\n").toList = _
    have shown : (String.ofList name).toList = name := String.toList_ofList
    rw [String.toList_append,String.toList_append,String.toList_append,shown,List.append_assoc,List.append_assoc]
    rfl
  have small : s!"{checksum}  {String.ofList name}\n".toUTF8.toList.length ≤ maxSidecarBytes := by
    rw [length_written,size,maxSidecarBytes]
    omega
  unfold sidecarValue
  dsimp only
  rw [if_pos small,opens,FileNode.whole,Bool.and_self,if_pos rfl,fromUTF8_written]
  dsimp only
  rw [text,firstToken_line recorded.nonempty recorded.plain]
  dsimp only
  rw [recorded.normalize]
  rfl

/-! The writer, and both together. -/

def sidecarOf (pair : DrivePair) (role : DriveRole) (relativePath : String) (name : List Char) : Location :=
  withFileName (pair.copyOn role relativePath) (name ++ ".b3".toList)

variable {io : Io} {item value : SyncQueueItem} {file : TrackedFile} {pair : DrivePair} {w t : World}

theorem acceptCurrent_success {name : List Char} (named : fileName file.relativePath = some name)
    (ok : acceptCurrent io item file pair w = .ok value t) :
    t.disk = w.disk.write (sidecarOf pair .primary file.relativePath name)
        (s!"{file.checksum}  {String.ofList name}\n".toUTF8.toList) ∧
      t.db.trackedFiles = w.db.trackedFiles ∧ t.db.drivePairs = w.db.drivePairs ∧
      t.db.syncQueue.find? item.id = some value := by
  unfold acceptCurrent at ok
  rw [named] at ok
  dsimp only at ok
  obtain ⟨_,_,called,afterCall⟩ := bind_success ok
  obtain ⟨_,rfl⟩ := Act.ensure_success called
  rw [bind_of_ok (Act.store_apply _ _),bind_of_ok (Act.execute_apply _ _),
    bind_of_ok (Act.insert_apply _ _)] at afterCall
  obtain ⟨read,rfl⟩ := Act.query_success afterCall
  obtain ⟨pairs,files⟩ := Db.createSyncQueueItemDedupWithCreated_frame
    (Db.updateSyncQueueStatus _ item.id .completed none) file.id .adoptMirror none none
  exact ⟨rfl,files,pairs,Db.getSyncQueueItem_ok.mp read⟩

/-- The active copy's sidecar says what is recorded for the file, and so no mismatch is found. -/
def RoundTrips (later : Io) (t : World) (trackedFileId : Nat) : Prop :=
  ∀ file pair, t.db.trackedFiles.find? trackedFileId = some file → t.db.drivePairs.find? file.drivePairId = some pair →
    readB3Sidecar later (pair.copyOn pair.activeRole file.relativePath) t = .ok (some file.checksum) t ∧
      ∃ result, attempt (readB3Sidecar later (pair.copyOn pair.activeRole file.relativePath)) t = .ok result t ∧
        sidecarMismatch file.checksum result = none

theorem sidecarPathFor_copy {name : List Char} (named : fileName file.relativePath = some name) (role : DriveRole) :
    sidecarPathFor (pair.copyOn role file.relativePath) = .ok (sidecarOf pair role file.relativePath name) := by
  have text : (pair.copyOn role file.relativePath).relativePath = file.relativePath := rfl
  unfold sidecarPathFor
  rw [text,named]
  rfl

theorem opens_of_value {sidecarPath : Location} {node : Option FileNode} {checksum : String}
    (reads : sidecarValue io sidecarPath node = .ok (some checksum)) : io.openRead sidecarPath = true := by
  unfold sidecarValue at reads
  cases node with
  | none => cases reads
  | some node =>
    dsimp only at reads
    split at reads
    · by_contra closed
      rw [Bool.eq_false_iff.mpr closed,Bool.false_and,if_neg Bool.false_ne_true] at reads
      cases reads
    · cases reads

theorem reads_iff {filePath sidecarPath : Location} (named : sidecarPathFor filePath = .ok sidecarPath)
    {checksum : String} : readB3Sidecar io filePath w = .ok (some checksum) w ↔
      sidecarValue io sidecarPath (w.disk.node sidecarPath) = .ok (some checksum) := by
  rw [readB3Sidecar_run named]
  unfold Act.query
  cases sidecarValue io sidecarPath (w.disk.node sidecarPath) <;> simp

theorem roundTrips_iff {later : Io} {name : List Char} (named : fileName file.relativePath = some name)
    (tracked : ∃ flag, t.db.trackedFiles.find? file.id = some { file with isMirrored := flag })
    (paired : t.db.drivePairs.find? file.drivePairId = some pair) :
    RoundTrips later t file.id ↔ sidecarValue later (sidecarOf pair pair.activeRole file.relativePath name)
      (t.disk.node (sidecarOf pair pair.activeRole file.relativePath name)) = .ok (some file.checksum) := by
  obtain ⟨flag,tracked⟩ := tracked
  have path : sidecarPathFor (pair.copyOn pair.activeRole file.relativePath) = _ := sidecarPathFor_copy named pair.activeRole
  rw [← reads_iff path]
  constructor
  · intro trips
    exact (trips _ pair tracked paired).1
  · intro reads other owner found known
    cases tracked.symm.trans found
    cases paired.symm.trans known
    exact ⟨reads,_,attempt_of_ok reads,if_neg (by simp)⟩

/-- Whatever name a file has and whatever its sidecars said before: after an accepted mismatch the sidecar of the
active copy reads as the recorded checksum if and only if the active side is the primary one and lets the sidecar be
opened, or that sidecar read so before. -/
theorem accepted_round_trips_iff [Blake3] {itemId : Nat} {newFilePath : Option Location} (later : Io)
    (resolved : resolveQueueItem io itemId "accept_current" newFilePath w = .ok value t)
    (listed : w.db.syncQueue.find? itemId = some item) (tracked : w.db.trackedFiles.find? item.trackedFileId = some file)
    (paired : w.db.drivePairs.find? file.drivePairId = some pair) (recorded : Recorded file.checksum)
    {name : List Char} (named : fileName file.relativePath = some name)
    (short : (String.ofList name).utf8ByteSize ≤ 255) :
    let now := pair.operational w.disk
    RoundTrips later t item.trackedFileId ↔
      (now.activePath = now.primaryPath ∧ later.openRead (sidecarOf now .primary file.relativePath name) = true) ∨
        readB3Sidecar later (now.copyOn now.activeRole file.relativePath) w = .ok (some file.checksum) w := by
  intro now
  obtain ⟨_,_,_,admitted,ok⟩ := resolveQueueItem_success resolved
  cases listed.symm.trans admitted.listed
  cases tracked.symm.trans admitted.tracked
  cases paired.symm.trans admitted.paired
  rw [resolveLoaded_fits (resolveLoaded_success ok),if_pos rfl] at ok
  obtain ⟨disk,files,pairs,_⟩ := acceptCurrent_success named ok
  obtain ⟨flag,flags,_⟩ := setsFlags_operational w.db w.disk pair
  have row : ∃ flag, t.db.trackedFiles.find? file.id = some { file with isMirrored := flag } := by
    have found := flags item.trackedFileId
    rw [tracked,Option.map_some,← admitted.fileId] at found
    rw [files]
    exact ⟨flag file,found⟩
  have owner : t.db.drivePairs.find? file.drivePairId = some now := by
    rw [pairs]
    exact find?_operational (Db.getDrivePair_ok.mpr paired) w.disk
  rw [← admitted.fileId,roundTrips_iff named row owner,reads_iff (sidecarPathFor_copy named now.activeRole),disk]
  by_cases primary : now.activePath = now.primaryPath
  · have same : sidecarOf now now.activeRole file.relativePath name = sidecarOf now .primary file.relativePath name := by
      unfold sidecarOf withFileName DrivePair.copyOn
      rw [← DrivePair.activePath,primary]
      rfl
    rw [same,Disk.write_same]
    constructor
    · intro reads
      exact .inl ⟨primary,opens_of_value reads⟩
    · rintro (⟨_,opens⟩ | before)
      · exact sidecarValue_line recorded short opens
      · exact sidecarValue_line recorded short (opens_of_value before)
  · have apart : sidecarOf now now.activeRole file.relativePath name ≠ sidecarOf now .primary file.relativePath name := by
      intro same
      exact primary (congrArg Location.root same)
    rw [Disk.write_other _ _ apart]
    constructor
    · exact .inr
    · rintro (⟨same,_⟩ | before)
      · exact absurd same primary
      · exact before

/-! An accepted mismatch of the file `a b.b3`, on a pair with either active side. -/

def zeros : String := "0000000000000000000000000000000000000000000000000000000000000000"

def sidePair (active : DriveRole) (id : Nat) : DrivePair := ⟨id,"/p1","/p2",.active,.active,active,.hdd,.hdd⟩

def spacedFile (id : Nat) : TrackedFile := ⟨id,1,"a b.b3",sampleBlake3.toHex [2],1,none,false,true,false,none⟩

def mismatchItem (id : Nat) : SyncQueueItem := ⟨id,1,.userActionRequired,.pending,none,some b3SidecarMismatchReason⟩

def mismatchWorld (active : DriveRole) : World where
  db := { Db.empty with
    drivePairs := Table.empty.insert (sidePair active) (fun _ => rfl)
    trackedFiles := Table.empty.insert spacedFile (fun _ => rfl)
    syncQueue := Table.empty.insert mismatchItem (fun _ => rfl) }
  disk :=
    { node := fun path =>
        if path.relativePath = driveRootMarker then some ⟨[],none⟩
        else if path.relativePath = "a b.b3" then some ⟨[2],none⟩
        else if path.relativePath = "a b.b3.b3" then some ⟨zeros.toUTF8.toList,none⟩
        else none
      available := fun root => root == "/p1" || root == "/p2" }

theorem recorded_sample : Recorded (sampleBlake3.toHex [2]) := by
  have digits : ((sampleBlake3.toHex [2]).toList.all fun c => "0123456789abcdef".toList.contains c) = true := by rfl
  exact ⟨by rfl,fun c member => List.contains_iff_mem.mp (List.all_eq_true.mp digits c member)⟩

theorem accepted_round_trips_spaced :
    letI := sampleBlake3
    ∃ value t, resolveQueueItem .healthy 1 "accept_current" none (mismatchWorld .primary) = .ok value t ∧
      RoundTrips .healthy t 1 := by
  let _ := sampleBlake3
  obtain ⟨value,ran,_⟩ := ScanRoundTrip.ok_of_returns (x := resolveQueueItem .healthy 1 "accept_current" none)
    (s := mismatchWorld .primary) (p := fun _ => true) (by decide +kernel)
  have listed : (mismatchWorld .primary).db.syncQueue.find? 1 = some (mismatchItem 1) := rfl
  have tracked : (mismatchWorld .primary).db.trackedFiles.find? 1 = some (spacedFile 1) := rfl
  have paired : (mismatchWorld .primary).db.drivePairs.find? 1 = some (sidePair .primary 1) := rfl
  have named : fileName (spacedFile 1).relativePath = some "a b.b3".toList := by decide +kernel
  refine ⟨value,_,ran,(accepted_round_trips_iff .healthy ran listed tracked paired recorded_sample named (by decide)).mpr ?_⟩
  exact .inl ⟨by decide +kernel,rfl⟩

/-- With the secondary side active, the sidecar that is read stays as it was. -/
theorem accepted_secondary_differs :
    ¬∀ (_ : Blake3) (io : Io) (w t : World) (itemId : Nat) (item value : SyncQueueItem) (file : TrackedFile)
      (name : List Char), resolveQueueItem io itemId "accept_current" none w = .ok value t →
      w.db.syncQueue.find? itemId = some item → w.db.trackedFiles.find? item.trackedFileId = some file →
      Recorded file.checksum → fileName file.relativePath = some name → (String.ofList name).utf8ByteSize ≤ 255 →
      RoundTrips .healthy t item.trackedFileId := by
  intro trips
  let _ := sampleBlake3
  obtain ⟨value,ran,_⟩ := ScanRoundTrip.ok_of_returns (x := resolveQueueItem .healthy 1 "accept_current" none)
    (s := mismatchWorld .secondary) (p := fun _ => true) (by decide +kernel)
  have named : fileName (spacedFile 1).relativePath = some "a b.b3".toList := by decide +kernel
  have reads := (trips sampleBlake3 .healthy (mismatchWorld .secondary) _ 1 (mismatchItem 1) value (spacedFile 1)
    "a b.b3".toList ran rfl rfl recorded_sample named (by decide) (spacedFile 1) (sidePair .secondary 1)
    (by decide +kernel) (by decide +kernel)).1
  have old : ScanRoundTrip.returns (fun hash => hash == some zeros) (readB3Sidecar .healthy ⟨"/p2","a b.b3"⟩
      (after (resolveQueueItem .healthy 1 "accept_current" none) (mismatchWorld .secondary))) = true := by
    decide +kernel
  have path : (sidePair .secondary 1).copyOn (sidePair .secondary 1).activeRole (spacedFile 1).relativePath =
      ⟨"/p2","a b.b3"⟩ := rfl
  rw [path] at reads
  rw [reads,ScanRoundTrip.returns] at old
  exact absurd (eq_of_beq old) (by decide)

end BitProtector.SidecarRoundTrip
