import BitProtector.Foundation.JsonWriting
import Mathlib.Data.List.Nodup

/-! The details of the events: what the logger writes of the values that it is given, and what the page of
the log reads of it. -/
namespace BitProtector.EventDetails
open Json

/-! Events. -/

/-- A value as the logger puts it into the details. -/
inductive Logged
  | text (value : String)
  | escaped (value : String)
  | optional (value : Option String)
  | number (value : Int)
  | flag (value : Bool)
  deriving DecidableEq

structure Event where
  eventType : String
  trackedFileId : Option Nat
  message : String
  fields : List (String × Logged)
  deriving DecidableEq

def logFileTracked (fileId : Nat) (path : String) : Event :=
  ⟨"file_created",some fileId,s!"Tracked: {path}",[("path",.text path)]⟩

def logFileUntracked (fileId : Nat) (path : String) : Event :=
  ⟨"file_untracked",some fileId,s!"Untracked: {path}",[("path",.text path)]⟩

def logFileMirrored (fileId : Nat) (path checksum : String) : Event :=
  ⟨"file_mirrored",some fileId,s!"Mirrored: {path}",[("path",.text path),("checksum",.text checksum)]⟩

def logIntegrityPass (fileId : Nat) (path : String) : Event :=
  ⟨"integrity_pass",some fileId,s!"Integrity OK: {path}",[("path",.text path)]⟩

def logIntegrityFail (fileId : Nat) (path status : String) : Event :=
  ⟨"integrity_fail",some fileId,s!"Integrity FAIL ({status}): {path}",[("path",.text path),("status",.text status)]⟩

def logBothCorrupted (fileId : Nat) (path : String) (masterChecksum mirrorChecksum : Option String)
    (storedChecksum : String) : Event :=
  ⟨"both_corrupted",some fileId,s!"Both copies corrupted: {path}",
    [("path",.text path),("stored_checksum",.text storedChecksum),("master_checksum",.optional masterChecksum),
      ("mirror_checksum",.optional mirrorChecksum)]⟩

def logRecovery (fileId : Nat) (action : String) (success : Bool) : Event :=
  let outcome := if success then "OK" else "FAILED"
  ⟨if success then "recovery_success" else "recovery_fail",some fileId,s!"Recovery {outcome}: {action}",
    [("action",.text action),("success",.flag success)]⟩

def logSyncCompleted (fileId : Nat) (action path : String) : Event :=
  ⟨"sync_completed",some fileId,s!"Sync completed ({action}): {path}",[("action",.text action),("path",.text path)]⟩

/-- The one that escapes, and quotes only. -/
def logSyncFailed (fileId : Nat) (action error path : String) : Event :=
  ⟨"sync_failed",some fileId,s!"Sync failed ({action}): {path}",
    [("action",.text action),("path",.text path),("error",.escaped error)]⟩

def logFolderTracked (folderId : Int) (folderPath : String) (drivePairId : Int) : Event :=
  ⟨"folder_tracked",none,s!"Folder tracked: {folderPath} (folder #{folderId})",
    [("folder_id",.number folderId),("path",.text folderPath),("drive_pair_id",.number drivePairId)]⟩

def logFolderUntracked (folderId : Int) (folderPath : String) : Event :=
  ⟨"folder_untracked",none,s!"Folder untracked: {folderPath} (folder #{folderId})",
    [("folder_id",.number folderId),("path",.text folderPath)]⟩

def logIntegrityRunStarted (runId totalFiles : Int) (trigger : String) : Event :=
  ⟨"integrity_run_started",none,s!"Integrity run #{runId} started ({totalFiles} files, trigger: {trigger})",
    [("run_id",.number runId),("total_files",.number totalFiles),("trigger",.text trigger)]⟩

def logIntegrityRunCompleted (runId : Int) (status : String) (issues recovered : Int) : Event :=
  ⟨"integrity_run_completed",none,s!"Integrity run #{runId} {status}: {issues} issues, {recovered} recovered",
    [("run_id",.number runId),("status",.text status),("issues",.number issues),("recovered",.number recovered)]⟩

def logDriveCreated (pairId : Int) (name primaryPath secondaryPath : String) : Event :=
  ⟨"drive_created",none,s!"Drive pair created: {name} (#{pairId})",
    [("pair_id",.number pairId),("name",.text name),("primary_path",.text primaryPath),
      ("secondary_path",.text secondaryPath)]⟩

def logDriveUpdated (pairId : Int) (name : String) : Event :=
  ⟨"drive_updated",none,s!"Drive pair updated: {name} (#{pairId})",[("pair_id",.number pairId),("name",.text name)]⟩

def logDriveDeleted (pairId : Int) (name : String) : Event :=
  ⟨"drive_deleted",none,s!"Drive pair deleted: {name} (#{pairId})",[("pair_id",.number pairId),("name",.text name)]⟩

def logDriveFailover (pairId : Int) (failedRole newActiveRole failedPath : String) : Event :=
  ⟨"drive_failover",none,
    s!"Emergency failover for drive pair #{pairId}: {failedRole} unavailable, active role now {newActiveRole}",
    [("pair_id",.number pairId),("failed_role",.text failedRole),("new_active_role",.text newActiveRole),
      ("failed_path",.text failedPath)]⟩

def logDriveQuiescing (pairId : Int) (role : String) : Event :=
  ⟨"drive_quiescing",none,s!"Drive pair #{pairId} entered quiescing state for {role} replacement",
    [("pair_id",.number pairId),("role",.text role)]⟩

def logDriveQuiesceCancelled (pairId : Int) (role : String) : Event :=
  ⟨"drive_quiesce_cancelled",none,s!"Drive pair #{pairId} cancelled {role} replacement quiesce",
    [("pair_id",.number pairId),("role",.text role)]⟩

def logDriveFailureConfirmed (pairId : Int) (role newActiveRole failedPath : String) : Event :=
  ⟨"drive_failure_confirmed",none,s!"Drive pair #{pairId} confirmed {role} failure; active role now {newActiveRole}",
    [("pair_id",.number pairId),("role",.text role),("new_active_role",.text newActiveRole),
      ("failed_path",.text failedPath)]⟩

def logDriveReplacementAssigned (pairId : Int) (role newPath : String) (queuedItems : Nat) : Event :=
  ⟨"drive_replacement_assigned",none,
    s!"Drive pair #{pairId} assigned replacement {role} path, queued {queuedItems} rebuild item(s)",
    [("pair_id",.number pairId),("role",.text role),("new_path",.text newPath),("queued_items",.number queuedItems)]⟩

def logDriveRebuildCompleted (pairId : Int) (role activeRole : String) : Event :=
  ⟨"drive_rebuild_completed",none,s!"Drive pair #{pairId} finished rebuilding {role}; active role is {activeRole}",
    [("pair_id",.number pairId),("role",.text role),("active_role",.text activeRole)]⟩

/-- The events that the logger makes, of whatever arguments. -/
inductive Emitted : Event → Prop
  | fileTracked (fileId path) : Emitted (logFileTracked fileId path)
  | fileUntracked (fileId path) : Emitted (logFileUntracked fileId path)
  | fileMirrored (fileId path checksum) : Emitted (logFileMirrored fileId path checksum)
  | integrityPass (fileId path) : Emitted (logIntegrityPass fileId path)
  | integrityFail (fileId path status) : Emitted (logIntegrityFail fileId path status)
  | bothCorrupted (fileId path masterChecksum mirrorChecksum storedChecksum) :
    Emitted (logBothCorrupted fileId path masterChecksum mirrorChecksum storedChecksum)
  | recovery (fileId action success) : Emitted (logRecovery fileId action success)
  | syncCompleted (fileId action path) : Emitted (logSyncCompleted fileId action path)
  | syncFailed (fileId action error path) : Emitted (logSyncFailed fileId action error path)
  | folderTracked (folderId folderPath drivePairId) : Emitted (logFolderTracked folderId folderPath drivePairId)
  | folderUntracked (folderId folderPath) : Emitted (logFolderUntracked folderId folderPath)
  | integrityRunStarted (runId totalFiles trigger) : Emitted (logIntegrityRunStarted runId totalFiles trigger)
  | integrityRunCompleted (runId status issues recovered) : Emitted (logIntegrityRunCompleted runId status issues recovered)
  | driveCreated (pairId name primaryPath secondaryPath) : Emitted (logDriveCreated pairId name primaryPath secondaryPath)
  | driveUpdated (pairId name) : Emitted (logDriveUpdated pairId name)
  | driveDeleted (pairId name) : Emitted (logDriveDeleted pairId name)
  | driveFailover (pairId failedRole newActiveRole failedPath) :
    Emitted (logDriveFailover pairId failedRole newActiveRole failedPath)
  | driveQuiescing (pairId role) : Emitted (logDriveQuiescing pairId role)
  | driveQuiesceCancelled (pairId role) : Emitted (logDriveQuiesceCancelled pairId role)
  | driveFailureConfirmed (pairId role newActiveRole failedPath) :
    Emitted (logDriveFailureConfirmed pairId role newActiveRole failedPath)
  | driveReplacementAssigned (pairId role newPath queuedItems) :
    Emitted (logDriveReplacementAssigned pairId role newPath queuedItems)
  | driveRebuildCompleted (pairId role activeRole) : Emitted (logDriveRebuildCompleted pairId role activeRole)

/-! The text of the details. -/

def quoted (text : List Char) : List Char := '"' :: (text ++ ['"'])

/-- `error.replace('"', "\\\"")`. -/
def escapeQuotes (text : List Char) : List Char := text.flatMap (fun c => if c = '"' then ['\\','"'] else [c])

def Logged.written : Logged → List Char
  | .text value => quoted value.toList
  | .escaped value => quoted (escapeQuotes value.toList)
  | .optional value => value.elim ['n','u','l','l'] (fun value => quoted value.toList)
  | .number value => showInt value
  | .flag value => if value then ['t','r','u','e'] else ['f','a','l','s','e']

def Event.details (event : Event) : String :=
  String.ofList (writeObject (event.fields.map (fun field => (field.1.toList,field.2.written))))

/-! What the page shows. -/

/-- `StructuredDetails`: the fields of an object, else the raw text. -/
def structuredDetails (details : String) : Option (List (List Nat × Value)) :=
  match parse details.toList with
  | some (.object fields) => some fields
  | _ => none

def Logged.value : Logged → Value
  | .text value => .string (encode value.toList)
  | .escaped value => .string (encode value.toList)
  | .optional value => value.elim .null (fun value => .string (encode value.toList))
  | .number value => .number (.finite (mkRat value 1))
  | .flag value => .bool value

/-- The fields that were logged. -/
def Event.logged (event : Event) : List (List Nat × Value) :=
  event.fields.map (fun field => (encode field.1.toList,field.2.value))

/-- The page shows an object of exactly the fields that were logged, in whatever order. -/
def Recovers (event : Event) : Prop := ∃ fields, structuredDetails event.details = some fields ∧ fields.Perm event.logged

/-! When it does. -/

/-- A text that needs no escaping. -/
def Verbatim (text : String) : Prop := ∀ c ∈ text.toList, ¬Special c.toNat

instance : DecidablePred Verbatim := fun text => List.decidableBAll (fun c : Char => ¬Special c.toNat) text.toList

/-- A string as it was logged can be read back. -/
def Logged.Readable : Logged → Prop
  | .text value => Verbatim value
  | .escaped value => ∀ c ∈ value.toList, Special c.toNat → c = '"'
  | .optional value => ∀ text ∈ value, Verbatim text
  | .number _ => True
  | .flag _ => True

/-- A number that is a double. -/
def IsDouble (n : Int) : Prop := nearest (decide (n < 0)) n.natAbs 1 = .finite (mkRat n 1)

/-- Only the message of a failed synchronisation may contain a quote, nothing may contain a backslash or a control
character, and the numbers are doubles. -/
def Logged.Plain : Logged → Prop
  | .number value => IsDouble value
  | logged => logged.Readable

def Event.Plain (event : Event) : Prop := ∀ field ∈ event.fields, field.2.Plain

/-- What is read of a readable value. -/
def Logged.read : Logged → Value
  | .number value => .number (nearest (decide (value < 0)) value.natAbs 1)
  | logged => logged.value

/-- The keys stand for themselves and are told apart. -/
structure KeysApart (names : List String) : Prop where
  nonempty : names ≠ []
  verbatim : ∀ name ∈ names, Verbatim name
  distinct : (names.map (fun name => encode name.toList)).Nodup

theorem keysApart_iff {names : List String} :
    KeysApart names ↔ names ≠ [] ∧ (∀ name ∈ names, Verbatim name) ∧
      (names.map (fun name => encode name.toList)).Nodup :=
  ⟨fun apart => ⟨apart.nonempty,apart.verbatim,apart.distinct⟩,fun all => ⟨all.1,all.2.1,all.2.2⟩⟩

instance (names : List String) : Decidable (KeysApart names) := decidable_of_iff' _ keysApart_iff

theorem emitted_keys {event : Event} (emitted : Emitted event) : KeysApart (event.fields.map Prod.fst) := by
  cases emitted <;>
    · simp only [logFileTracked,logFileUntracked,logFileMirrored,logIntegrityPass,logIntegrityFail,logBothCorrupted,
        logRecovery,logSyncCompleted,logSyncFailed,logFolderTracked,logFolderUntracked,logIntegrityRunStarted,
        logIntegrityRunCompleted,logDriveCreated,logDriveUpdated,logDriveDeleted,logDriveFailover,logDriveQuiescing,
        logDriveQuiesceCancelled,logDriveFailureConfirmed,logDriveReplacementAssigned,logDriveRebuildCompleted,
        List.map_cons,List.map_nil]
      decide +kernel

/-! Weights. -/

theorem unitsWeight_encode (text : List Char) :
    unitsWeight (encode text) = weight text + text.countP (fun c => decide (Special c.toNat)) := by
  induction text with
  | nil => rfl
  | cons c text ih =>
    rw [encode] at ih ⊢
    rw [List.flatMap_cons,unitsWeight_append,ih,unitsWeight_utf16,weight_cons,List.countP_cons]
    simp only [decide_eq_true_eq]
    omega

theorem unitsWeight_escapeQuotes (text : List Char) :
    unitsWeight (encode text) =
      weight (escapeQuotes text) + text.countP (fun c => decide (Special c.toNat ∧ c ≠ '"')) := by
  induction text with
  | nil => rfl
  | cons c text ih =>
    have backslash : weigh '\\'.toNat = 1 := rfl
    have quote : weigh '"'.toNat = 1 := rfl
    rw [encode] at ih ⊢
    rw [escapeQuotes] at ih ⊢
    rw [List.flatMap_cons,unitsWeight_append,ih,unitsWeight_utf16,List.flatMap_cons,weight_append,List.countP_cons]
    by_cases same : c = '"'
    · have special : Special c.toNat := .inr (.inl (by rw [same]; rfl))
      rw [if_pos special,if_pos same,if_neg (by simp [same]),weight_cons,weight_cons,weight_nil,same,backslash,quote]
      omega
    · rw [if_neg same,weight_cons,weight_nil]
      simp only [same,ne_eq,not_false_eq_true,and_true,decide_eq_true_eq]
      omega

/-- How many characters of a value are not read as they were written. -/
def Logged.lost : Logged → Nat
  | .text value => value.toList.countP (fun c => decide (Special c.toNat))
  | .escaped value => value.toList.countP (fun c => decide (Special c.toNat ∧ c ≠ '"'))
  | .optional value => value.elim 0 (fun value => value.toList.countP (fun c => decide (Special c.toNat)))
  | .number _ => 0
  | .flag _ => 0

theorem leastWeight_value (logged : Logged) : leastWeight logged.value = weight logged.written + logged.lost := by
  have quote : weigh '"'.toNat = 1 := rfl
  have quoted_weight (text : List Char) : weight (quoted text) = weight text + 2 := by
    simp only [quoted,weight_cons,weight_append,weight_nil,quote]
    omega
  cases logged with
  | text value =>
    rw [Logged.value,leastWeight,Logged.written,quoted_weight,unitsWeight_encode,Logged.lost]
    omega
  | escaped value =>
    rw [Logged.value,leastWeight,Logged.written,quoted_weight,unitsWeight_escapeQuotes,Logged.lost]
    omega
  | optional value =>
    cases value with
    | none => rfl
    | some value =>
      simp only [Logged.value,Option.elim_some,leastWeight,Logged.written,quoted_weight,unitsWeight_encode,Logged.lost]
      omega
  | number value => rw [Logged.value,leastWeight,Logged.written,Logged.lost,weight_showInt]
  | flag value => cases value <;> rfl

theorem readable_iff_lost {logged : Logged} : logged.Readable ↔ logged.lost = 0 := by
  cases logged with
  | text value => simp [Logged.Readable,Logged.lost,Verbatim,List.countP_eq_zero]
  | escaped value => simp [Logged.Readable,Logged.lost,List.countP_eq_zero]
  | optional value => cases value <;> simp [Logged.Readable,Logged.lost,Verbatim,List.countP_eq_zero]
  | number value => simp [Logged.Readable,Logged.lost]
  | flag value => simp [Logged.Readable,Logged.lost]

/-! What is recovered. -/

theorem structuredDetails_eq_some {details : String} {fields : List (List Nat × Value)} :
    structuredDetails details = some fields ↔ parse details.toList = some (.object fields) := by
  unfold structuredDetails
  split
  · rename_i found read
    simp [read]
  · rename_i other
    simpa using fun read => other fields read

theorem needed_weight (fields : List (String × Logged)) :
    (fields.map (fun field => weight field.1.toList + weight field.2.written + 4)).sum +
        (fields.map (fun field => field.2.lost)).sum ≤
      (fields.map (fun field => unitsWeight (encode field.1.toList) + leastWeight field.2.value + 4)).sum := by
  induction fields with
  | nil => exact Nat.le_refl _
  | cons field fields ih =>
    have key := unitsWeight_encode field.1.toList
    have value := leastWeight_value field.2
    simp only [List.map_cons,List.sum_cons] at ih ⊢
    omega

theorem readable_of_recovers {event : Event} (keys : KeysApart (event.fields.map Prod.fst)) (recovers : Recovers event) :
    ∀ field ∈ event.fields, field.2.Readable := by
  obtain ⟨fields,shown,same⟩ := recovers
  rw [structuredDetails_eq_some,Event.details,String.toList_ofList] at shown
  have nonempty : event.fields ≠ [] := by
    rintro none
    exact keys.nonempty (by rw [none]; rfl)
  have heavy := parse_object_weight shown
  have least : membersWeight fields = membersWeight event.logged := (same.map memberWeight).sum_eq
  rw [weight_writeObject (by simpa using nonempty),least] at heavy
  simp only [membersWeight,Event.logged,List.map_map,Function.comp_def,memberWeight] at heavy
  have needed := needed_weight event.fields
  intro field member
  have part : field.2.lost ≤ (event.fields.map (fun field => field.2.lost)).sum :=
    List.single_le_sum (fun _ _ => Nat.zero_le _) _ (List.mem_map_of_mem member)
  exact readable_iff_lost.mpr (by omega)

theorem reads_read {logged : Logged} (readable : logged.Readable) : Reads logged.written logged.read := by
  cases logged with
  | text value => exact reads_string (parseString_plain readable)
  | escaped value =>
    apply reads_string
    intro rest
    have each (text : List Char) (readable : ∀ c ∈ text, Special c.toNat → c = '"') :
        parseString .plain (escapeQuotes text ++ '"' :: rest) = some (encode text,rest) := by
      induction text with
      | nil => rfl
      | cons c text ih =>
        obtain ⟨first,others⟩ := List.forall_mem_cons.mp readable
        have later := ih others
        rw [escapeQuotes] at later ⊢
        rw [List.flatMap_cons]
        by_cases quote : c = '"'
        · rw [if_pos quote,quote]
          change parseString .plain ('\\' :: '"' :: (text.flatMap _ ++ '"' :: rest)) = _
          rw [parseString_escapedQuote,later]
          rfl
        · rw [if_neg quote,List.singleton_append,List.cons_append,parseString_raw (mt first quote),later]
          rfl
    exact each value.toList readable
  | optional value =>
    cases value with
    | none => exact reads_null
    | some value => exact reads_string (parseString_plain (readable value rfl))
  | number value => exact reads_int value
  | flag value =>
    cases value
    · exact reads_false
    · exact reads_true

theorem structuredDetails_details {event : Event} (keys : KeysApart (event.fields.map Prod.fst))
    (readable : ∀ field ∈ event.fields, field.2.Readable) :
    structuredDetails event.details = some (event.fields.map (fun field => (encode field.1.toList,field.2.read))) := by
  have nonempty : event.fields ≠ [] := by
    rintro none
    exact keys.nonempty (by rw [none]; rfl)
  rw [structuredDetails_eq_some,Event.details,String.toList_ofList]
  apply parse_writeObject
  · rw [List.forall₂_map_left_iff,List.forall₂_map_right_iff,List.forall₂_same]
    intro field member
    exact ⟨keys.verbatim _ (List.mem_map_of_mem member),rfl,reads_read (readable field member)⟩
  · simpa using nonempty
  · have distinct := keys.distinct
    rw [List.map_map] at distinct ⊢
    exact distinct

theorem plain_iff {logged : Logged} : logged.Plain ↔ logged.Readable ∧ logged.read = logged.value := by
  cases logged with
  | number value => simp [Logged.Plain,Logged.Readable,Logged.read,Logged.value,IsDouble]
  | text value => simp [Logged.Plain,Logged.read]
  | escaped value => simp [Logged.Plain,Logged.read]
  | optional value => simp [Logged.Plain,Logged.read]
  | flag value => simp [Logged.Plain,Logged.read]

/-- The page of the log recovers the fields of an event if and only if its strings are free of quotes, backslashes and
control characters, quotes in an error message apart, and its numbers are doubles. -/
theorem details_recovered {event : Event} (emitted : Emitted event) : Recovers event ↔ event.Plain := by
  have keys := emitted_keys emitted
  constructor
  · intro recovers
    have readable := readable_of_recovers keys recovers
    obtain ⟨fields,shown,same⟩ := recovers
    rw [structuredDetails_details keys readable] at shown
    cases shown
    intro field member
    refine plain_iff.mpr ⟨readable field member,?_⟩
    have listed : (encode field.1.toList,field.2.read) ∈ event.logged := same.subset (List.mem_map_of_mem member)
    obtain ⟨other,present,equal⟩ := List.mem_map.mp listed
    have distinct := keys.distinct
    rw [List.map_map] at distinct
    obtain rfl : other = field := List.inj_on_of_nodup_map distinct present member (congrArg Prod.fst equal)
    exact (congrArg Prod.snd equal).symm
  · intro plain
    have readable : ∀ field ∈ event.fields, field.2.Readable := fun field member => (plain_iff.mp (plain field member)).1
    refine ⟨_,structuredDetails_details keys readable,?_⟩
    rw [Event.logged,List.map_congr_left fun field member => ?_]
    rw [(plain_iff.mp (plain field member)).2]

theorem details_recovered_folder : Recovers (logFolderTracked 7 "docs/résumé" 2) := by
  refine (details_recovered (.folderTracked 7 "docs/résumé" 2)).mpr fun field member => ?_
  simp only [logFolderTracked,List.mem_cons,List.not_mem_nil,or_false] at member
  rcases member with rfl | rfl | rfl
  · exact nearest_small (by decide)
  · have verbatim : Verbatim "docs/résumé" := by decide +kernel
    exact verbatim
  · exact nearest_small (by decide)

/-- A path that forges a second `path`. -/
def forging : String := "a\",\"path\":\"b"

theorem forging_shown :
    structuredDetails (logFileTracked 1 forging).details = some [(encode "path".toList,.string (encode "b".toList))] := by
  have text : (logFileTracked 1 forging).details.toList =
      writeObject [("path".toList,quoted "a".toList),("path".toList,quoted "b".toList)] := by
    decide +kernel
  have key : Verbatim "path" := by decide +kernel
  have first : Verbatim "a" := by decide +kernel
  have second : Verbatim "b" := by decide +kernel
  have written : List.Forall₂ Written [("path".toList,quoted "a".toList),("path".toList,quoted "b".toList)]
      [(encode "path".toList,.string (encode "a".toList)),(encode "path".toList,.string (encode "b".toList))] :=
    .cons ⟨key,rfl,reads_string (parseString_plain first)⟩ (.cons ⟨key,rfl,reads_string (parseString_plain second)⟩ .nil)
  rw [structuredDetails_eq_some,text,parse_writeObject_last written (List.cons_ne_nil _ _)]
  simp [lastOfEach,setField]

/-- The second `path` replaces the one that was logged; and an error message that ends in a backslash leaves no JSON. -/
theorem details_forged :
    (logFileTracked 1 forging).details = "\x7b\"path\":\"a\",\"path\":\"b\"\x7d" ∧
      structuredDetails (logFileTracked 1 forging).details =
        some [(encode "path".toList,.string (encode "b".toList))] ∧
      (structuredDetails (logSyncFailed 1 "mirror" "bad name \\" "a").details).isNone = true ∧
      ¬∀ event, Emitted event → Recovers event := by
  refine ⟨by decide +kernel,forging_shown,by decide +kernel,fun all => ?_⟩
  obtain ⟨fields,read,same⟩ := all _ (.fileTracked 1 forging)
  rw [forging_shown] at read
  cases read
  have equal := List.perm_singleton.mp same.symm
  simp only [Event.logged,logFileTracked,List.map_cons,List.map_nil,Logged.value,List.cons.injEq,Prod.mk.injEq,
    Value.string.injEq] at equal
  have apart : encode forging.toList ≠ encode "b".toList := by decide +kernel
  exact apart equal.1.2

end BitProtector.EventDetails
