import MonoidKernel.Core.ModelPayloads
import Mathlib.Algebra.Ring.Nat

set_option autoImplicit false

-- Translated from core/payload_gc.py and write_once_temp_stem of core/_verified_file.py.
namespace MonoidKernel.PayloadGc

open Library Library.CanonicalJson MonoidKernel.ModelPayloads

def maxReportedDamagedLines : Nat := 100

inductive CorpusRead where
  | absent
  | unreadable
  | ok (records : List Record) (damaged : List Nat)

def CorpusRead.records : CorpusRead → List Record
  | .ok records _ => records
  | _ => []

def CorpusRead.damaged : CorpusRead → List Nat
  | .ok _ damaged => damaged
  | _ => []

def CorpusRead.isOk : CorpusRead → Bool
  | .ok _ _ => true
  | _ => false

structure FileStat where
  regular : Bool
  size : Nat
  mtime : Int
  links : Nat
deriving DecidableEq

structure FileIdentity where
  device : Nat
  inode : Nat
deriving DecidableEq

structure DirectoryStat where
  safe : Bool
  identity : FileIdentity

inductive Answer (α : Type) where
  | absent
  | refused
  | found (value : α)

structure FileSystem where
  chunkDir : Answer DirectoryStat
  listing : Answer (List (Text × Option FileStat))
  directoryNow : Text → Option FileIdentity
  entryNow : Text → Except Text FileStat
  unlink : Text → Except Text Unit

inductive Classification where
  | kept
  | orphan
  | temp
  | foreign
  | unjudged
deriving DecidableEq

inductive ChunkDirState where
  | absent
  | unsafeDirectory
  | unreadable
  | unprovable
  | swapped
  | ok
deriving DecidableEq

structure PayloadGcEntry where
  name : Text
  classification : Classification
  size : Nat
  age : Int
  deleted : Bool
  reclaimed : Nat
  error : Text

structure PayloadGcReport where
  runDir : Text
  sweptAt : Int
  chunkDirState : ChunkDirState
  corpus : CorpusRead
  applied : Bool
  minAge : Int
  entries : List PayloadGcEntry
  damagedLines : List Nat
  damagedLineCount : Nat
  candidateBytes : Nat
  reclaimedBytes : Nat

section Classifying

-- `(.+)\.[0-9]+\.[0-9a-f]{12}\.tmp`, read from the end: no part holds the dot before it.
def writeOnceTempStem (name : Text) : Option Text :=
  match name.reverse with
  | 'p' :: 'm' :: 't' :: '.' :: rest =>
    let mark := rest.take 12
    if mark.length = 12 ∧ mark.all isHexDigit then
      match rest.drop 12 with
      | '.' :: rest =>
        match rest.takeWhile Char.isDigit, rest.dropWhile Char.isDigit with
        | _ :: _, '.' :: stem => if stem ≠ [] ∧ '\n' ∉ stem then some stem.reverse else none
        | _, _ => none
      | _ => none
    else none
  | _ => none

def classification (name : Text) (metadata : Option FileStat) (keep : List Text) (corpusOk : Bool) :
    Classification :=
  if (metadata.any FileStat.regular) = false then .foreign
  else if isChunkSha256 name then
    if corpusOk then (if name ∈ keep then .kept else .orphan) else .unjudged
  else
    match writeOnceTempStem name with
    | some stem => if isChunkSha256 stem then .temp else .foreign
    | none => .foreign

end Classifying

section Sweeping

def directoryChanged : Text := "the chunk directory changed since the scan; left in place".toList

def entryChanged : Text := "this entry changed since the scan; left in place".toList

def couldNotStat : Text := "could not stat".toList

-- What became of a candidate: `deleted`, `reclaimed`, `error` and whether the directory was another
-- one.
structure Removal where
  deleted : Bool
  reclaimed : Nat
  error : Text
  swapped : Bool

def Removal.withheld (error : Text) : Removal := ⟨false, 0, error, false⟩

variable (files : FileSystem) (minAge moment : Int)

def removed (approved : FileIdentity) (name : Text) : Removal :=
  if files.directoryNow name ≠ some approved then ⟨false, 0, directoryChanged, true⟩
  else
    match files.entryNow name with
    | .error error => .withheld error
    | .ok current =>
      if current.regular = false ∨ moment - current.mtime < minAge then .withheld entryChanged
      else
        match files.unlink name with
        | .error error => .withheld error
        | .ok _ => ⟨true, if current.links ≤ 1 then current.size else 0, [], false⟩

structure Judged where
  entry : PayloadGcEntry
  candidateBytes : Nat
  swapped : Bool

def judged (apply : Bool) (keep : List Text) (corpusOk : Bool) (approved : FileIdentity)
    (scanned : Text × Option FileStat) : Judged :=
  let kind := classification scanned.1 scanned.2 keep corpusOk
  let size := (scanned.2.map FileStat.size).getD 0
  let age := (scanned.2.map fun metadata => moment - metadata.mtime).getD 0
  let error := if scanned.2.isSome then [] else couldNotStat
  if approved.inode ≠ 0 ∧ (kind = .orphan ∨ kind = .temp) ∧ minAge ≤ age then
    if apply then
      let removal := removed files minAge moment approved scanned.1
      ⟨⟨scanned.1, kind, size, age, removal.deleted, removal.reclaimed, removal.error⟩, size,
        removal.swapped⟩
    else ⟨⟨scanned.1, kind, size, age, false, 0, error⟩, size, false⟩
  else ⟨⟨scanned.1, kind, size, age, false, 0, error⟩, 0, false⟩

inductive Refused where
  | unusableAgeGate
deriving DecidableEq

-- `minAge` is `none` where it is not finite.
def collectPayloadGarbage (runDir : Text) (minAge : Option Int) (apply : Bool) (moment : Int)
    (corpus : CorpusRead) (files : FileSystem) : Except Refused PayloadGcReport :=
  match minAge with
  | none => .error .unusableAgeGate
  | some minAge =>
    if minAge < 0 then .error .unusableAgeGate
    else
      let report (state : ChunkDirState) (judgements : List Judged) : PayloadGcReport :=
        { runDir := runDir, sweptAt := moment, chunkDirState := state, corpus := corpus,
          applied := apply, minAge := minAge, entries := judgements.map Judged.entry,
          damagedLines := corpus.damaged.take maxReportedDamagedLines,
          damagedLineCount := corpus.damaged.length,
          candidateBytes := (judgements.map Judged.candidateBytes).sum,
          reclaimedBytes := (judgements.map fun judgement => judgement.entry.reclaimed).sum }
      match files.chunkDir with
      | .absent => .ok (report .absent [])
      | .refused => .ok (report .unreadable [])
      | .found approved =>
        if approved.safe = false then .ok (report .unsafeDirectory [])
        else
          match files.listing with
          | .absent => .ok (report .absent [])
          | .refused => .ok (report .unreadable [])
          | .found listing =>
            let keep := if corpus.isOk then corpusKeepSet corpus.records else []
            let judgements := (sorted listing).map
              (judged files minAge moment apply keep corpus.isOk approved.identity)
            let state :=
              if approved.identity.inode = 0 then ChunkDirState.unprovable
              else if judgements.any Judged.swapped then .swapped
              else .ok
            .ok (report state judgements)

def PayloadGcReport.removedNames (report : PayloadGcReport) : List Text :=
  (report.entries.filter PayloadGcEntry.deleted).map PayloadGcEntry.name

def PayloadGcReport.swept (report : PayloadGcReport) (stored : Text → Option Text) :
    Text → Option Text := fun name => if name ∈ report.removedNames then none else stored name

end Sweeping

end MonoidKernel.PayloadGc
