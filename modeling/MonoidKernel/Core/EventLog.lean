import MonoidKernel.Library.MarkedLines
import MonoidKernel.Postgres.Blobs

set_option autoImplicit false

-- Translated from core/_event_log.py.
namespace MonoidKernel.EventLog

open Library (firstLine lastMark firstLine_length_le)

variable {Digest Payload : Type} (sha256 : Bytes → Digest)

inductive EventLogError where
  | corruption
  | boundary
  | changed
  | invalid
deriving DecidableEq

def newline : UInt8 := 10

def isSpaceByte (byte : UInt8) : Bool :=
  byte = 32 || (9 ≤ byte && byte ≤ 13)

def isBlank (record : Bytes) : Bool :=
  record.all isSpaceByte

structure CommittedJsonlRecord (Digest : Type) where
  byteOffset : Nat
  nextByteOffset : Nat
  rawBytes : Bytes
  recordSha256 : Digest
deriving DecidableEq

def readline (endOffset : Option Nat) (offset : Nat) (rest : Bytes) : Bytes :=
  match endOffset with
  | none => firstLine newline rest
  | some stop => (firstLine newline rest).take (stop - offset)

theorem readline_length_le (endOffset : Option Nat) (offset : Nat) (rest : Bytes) :
    (readline endOffset offset rest).length ≤ rest.length := by
  have whole : (firstLine newline rest).length ≤ rest.length := firstLine_length_le rest
  unfold readline
  split
  · exact whole
  next stop =>
    rw [List.length_take]
    omega

-- The loop of `iter_open_committed_jsonl_records`, from `offset` on, where `rest` begins: the
-- records it yields, and the error it ends with.
def scanRecords (endOffset : Option Nat) (offset : Nat) (rest : Bytes) :
    List (CommittedJsonlRecord Digest) × Option EventLogError :=
  if endOffset.any fun stop => decide (stop ≤ offset) then ([], none)
  else
    let rawRecord := readline endOffset offset rest
    if _empty : rawRecord = [] then ([], endOffset.map fun _ => .changed)
    else if rawRecord.getLast? ≠ some newline then ([], endOffset.map fun _ => .changed)
    else
      let further := scanRecords endOffset (offset + rawRecord.length) (rest.drop rawRecord.length)
      (⟨offset, offset + rawRecord.length, rawRecord, sha256 rawRecord⟩ :: further.1, further.2)
termination_by rest.length
decreasing_by
  have read := List.length_pos_of_ne_nil _empty
  have within := readline_length_le endOffset offset rest
  rw [List.length_drop]
  exact Nat.sub_lt (Nat.lt_of_lt_of_le read within) read

def iterOpenCommittedJsonlRecords (content : Bytes) (startOffset : Nat := 0)
    (endOffset : Option Nat := none) :
    List (CommittedJsonlRecord Digest) × Option EventLogError :=
  if endOffset.any fun stop => decide (stop < startOffset) then ([], some .invalid)
  else if startOffset ≠ 0 ∧ content[startOffset - 1]? ≠ some newline then ([], some .boundary)
  else if endOffset.any fun stop => decide (stop ≠ 0) && content[stop - 1]? != some newline then
    ([], some .changed)
  else scanRecords sha256 endOffset startOffset (content.drop startOffset)

-- `_decode_event_record` and `_event_sequence`, which get the offset for their messages.
structure EventCodec (Payload : Type) where
  decode : Nat → Bytes → Except EventLogError Payload
  sequence : Nat → Payload → Except EventLogError Nat

structure EventLogRecord (Digest Payload : Type) where
  byteOffset : Nat
  nextByteOffset : Nat
  seq : Nat
  payload : Payload
  rawJson : Bytes
  recordSha256 : Digest

variable (codec : EventCodec Payload)

def decodeCommittedEventRecord (record : CommittedJsonlRecord Digest) :
    Except EventLogError (EventLogRecord Digest Payload) :=
  match codec.decode record.byteOffset record.rawBytes with
  | .error error => .error error
  | .ok payload =>
    match codec.sequence record.byteOffset payload with
    | .error error => .error error
    | .ok seq =>
      let line := record.rawBytes.dropLast
      let rawJson := if line.getLast? = some 13 then line.dropLast else line
      .ok ⟨record.byteOffset, record.nextByteOffset, seq, payload, rawJson, record.recordSha256⟩

def decodeRecords : List (CommittedJsonlRecord Digest) →
    List (EventLogRecord Digest Payload) × Option EventLogError
  | [] => ([], none)
  | record :: rest =>
    if isBlank record.rawBytes then decodeRecords rest
    else
      match decodeCommittedEventRecord codec record with
      | .error error => ([], some error)
      | .ok event => (event :: (decodeRecords rest).1, (decodeRecords rest).2)

def iterCommittedEventRecords (content : Option Bytes) :
    List (EventLogRecord Digest Payload) × Option EventLogError :=
  match content with
  | none => ([], none)
  | some content =>
    let records := iterOpenCommittedJsonlRecords sha256 content
    let events := decodeRecords codec records.1
    (events.1, events.2.or records.2)

structure BlockSize where
  size : Nat
  positive : 0 < size

-- `_find_previous_newline`, from `cursor` down; the second part is the number of bytes read.
def findPreviousNewline (block : BlockSize) (content : Bytes) (cursor inspected : Nat) :
    Option Nat × Nat :=
  if _more : 0 < cursor then
    let size := min block.size cursor
    let start := cursor - size
    let data := (content.drop start).take size
    match lastMark newline data with
    | some index => (some (start + index), inspected + data.length)
    | none => findPreviousNewline block content start (inspected + data.length)
  else (none, inspected)
termination_by cursor
decreasing_by
  have := block.positive
  omega

-- The inner loop of `_last_nonblank_committed_record`: a record it found, or the suffix to carry on
-- with.
def lastNonblankIn (cursor : Nat) (candidateData : Bytes) : (Nat × Bytes) ⊕ Bytes :=
  match _cut : lastMark newline candidateData with
  | none => .inr candidateData
  | some newlineIndex =>
    let record := candidateData.drop (newlineIndex + 1)
    if isBlank record = false then .inl (cursor + newlineIndex + 1, record)
    else lastNonblankIn cursor (candidateData.take newlineIndex)
termination_by candidateData.length
decreasing_by
  have := (Library.lastMark_some _cut).1
  simp only [List.length_take]
  omega

def lastNonblankFrom (block : BlockSize) (content : Bytes) (cursor : Nat) (suffix : Bytes)
    (inspected : Nat) : Nat × Option Bytes × Nat :=
  if _more : 0 < cursor then
    let size := min block.size cursor
    let start := cursor - size
    let data := (content.drop start).take size
    match lastNonblankIn start (data ++ suffix) with
    | .inl (offset, record) => (offset, some record, inspected + data.length)
    | .inr carried => lastNonblankFrom block content start carried (inspected + data.length)
  else if isBlank suffix = false then (0, some suffix, inspected)
  else (0, none, inspected)
termination_by cursor
decreasing_by
  have := block.positive
  omega

def lastNonblankCommittedRecord (block : BlockSize) (content : Bytes) (committedEnd : Nat) :
    Nat × Option Bytes × Nat :=
  if committedEnd = 0 then (0, none, 0)
  else lastNonblankFrom block content (committedEnd - 1) [] 0

structure FileView where
  content : Bytes
  device : Nat
  inode : Nat
  modifiedNs : Nat
deriving DecidableEq

structure CommittedJsonlTail (Digest : Type) where
  device : Nat
  inode : Nat
  modifiedNs : Nat
  fileSize : Nat
  committedEnd : Nat
  incompleteSize : Nat
  lastRecordOffset : Nat
  lastRecordSha256 : Option Digest
  inspectedBytes : Nat
deriving DecidableEq

def inspectOpenCommittedJsonlTail (block : BlockSize) (file : FileView) :
    CommittedJsonlTail Digest × Option Bytes :=
  let fileSize := file.content.length
  if fileSize = 0 then
    (⟨file.device, file.inode, file.modifiedNs, 0, 0, 0, 0, none, 0⟩, none)
  else
    let (committedEnd, searched) :=
      if file.content[fileSize - 1]? = some newline then (fileSize, 1)
      else
        match findPreviousNewline block file.content fileSize 1 with
        | (none, searched) => (0, searched)
        | (some newlineOffset, searched) => (newlineOffset + 1, searched)
    let (recordOffset, rawRecord, recordBytes) :=
      lastNonblankCommittedRecord block file.content committedEnd
    (⟨file.device, file.inode, file.modifiedNs, fileSize, committedEnd, fileSize - committedEnd,
      recordOffset, rawRecord.map fun record => sha256 (record ++ [newline]),
      searched + recordBytes⟩, rawRecord)

structure EventLogTail (Digest : Type) where
  fileExists : Bool
  device : Nat
  inode : Nat
  modifiedNs : Nat
  fileSize : Nat
  committedEnd : Nat
  incompleteSize : Nat
  lastRecordOffset : Nat
  lastSeq : Nat
  lastRecordSha256 : Option Digest
  inspectedBytes : Nat
deriving DecidableEq

def missingTail (Digest : Type) : EventLogTail Digest :=
  ⟨false, 0, 0, 0, 0, 0, 0, 0, 0, none, 0⟩

def inspectOpenEventLogTail (block : BlockSize) (file : FileView) :
    Except EventLogError (EventLogTail Digest) :=
  let (tail, rawRecord) := inspectOpenCommittedJsonlTail sha256 block file
  let lastSeq : Except EventLogError Nat :=
    match rawRecord with
    | none => .ok 0
    | some record =>
      match codec.decode tail.lastRecordOffset (record ++ [newline]) with
      | .error error => .error error
      | .ok payload => codec.sequence tail.lastRecordOffset payload
  match lastSeq with
  | .error error => .error error
  | .ok lastSeq =>
    .ok ⟨true, tail.device, tail.inode, tail.modifiedNs, tail.fileSize, tail.committedEnd,
      tail.incompleteSize, tail.lastRecordOffset, lastSeq, tail.lastRecordSha256,
      tail.inspectedBytes⟩

def inspectEventLogTail (block : BlockSize) : Option FileView →
    Except EventLogError (EventLogTail Digest)
  | none => .ok (missingTail Digest)
  | some file => inspectOpenEventLogTail sha256 codec block file

def sameEventLogTail [DecidableEq Digest] (left right : EventLogTail Digest) : Bool :=
  decide ({ left with inspectedBytes := 0 } = { right with inspectedBytes := 0 })

-- What one attempt finds at the path when it inspects it and when it opens it for writing, and the
-- time its truncation leaves on the file.
structure Attempt where
  inspected : Option FileView
  opened : Option FileView
  repairedNs : Nat

-- `repair_event_log_tail_for_append`: the tail it returns and the file as it leaves it.
def repairEventLogTailForAppend [DecidableEq Digest] (block : BlockSize)
    (advertisedLastSeq : Option Nat) :
    List Attempt → Except EventLogError (EventLogTail Digest × Option FileView)
  | [] => .error .changed
  | attempt :: rest =>
    match inspectEventLogTail sha256 codec block attempt.inspected with
    | .error error => .error error
    | .ok tail =>
      if advertisedLastSeq.any fun advertised => decide (tail.lastSeq < advertised) then
        .error .corruption
      else if tail.fileExists = false then .ok (tail, none)
      else
        match attempt.opened with
        | none => repairEventLogTailForAppend block advertisedLastSeq rest
        | some file =>
          match inspectOpenEventLogTail sha256 codec block file with
          | .error error => .error error
          | .ok current =>
            if sameEventLogTail tail current = false then
              repairEventLogTailForAppend block advertisedLastSeq rest
            else if current.incompleteSize = 0 then .ok (current, some file)
            else
              .ok ({ current with
                  modifiedNs := attempt.repairedNs
                  fileSize := current.committedEnd
                  incompleteSize := 0 },
                some { file with
                  content := file.content.take tail.committedEnd
                  modifiedNs := attempt.repairedNs })

end MonoidKernel.EventLog
