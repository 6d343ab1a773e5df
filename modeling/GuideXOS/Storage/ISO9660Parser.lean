import Mathlib.Data.UInt
import GuideXOS.Core.Text
import GuideXOS.Lib.Paths
import GuideXOS.Lib.Words

/-!
# `ISO9660Parser` — files of an ISO 9660 image

`findFile` looks the names of a path up, one after the other, with `searchDirectory`: a walk over the records of a
directory that goes into each subdirectory before the next record. It enters no directory twice and stops at 32 levels.

* The device is what its `readBytes` answers, which may be less than it was asked for; -1 is `none`.
* A parser here is one that found its volume descriptor. With a block size of zero every call divides by it.
* Of a record the fields are kept that a lookup reads.
-/

namespace GuideXOS.Storage.ISO
open Core Lib.Words

/-- The part of `IStorageDevice` that the parser uses. -/
structure Device where
  readBytes : UInt64 → UInt64 → Option (List UInt8)
  length_le : ∀ offset size data, readBytes offset size = some data → data.length ≤ size.toNat

/-- Where a file or a directory lies. -/
structure Extent where
  lba : UInt32
  size : UInt32
  deriving DecidableEq

/-! ## Directory records -/

structure ISO9660DirectoryRecord where
  extentLBA : UInt32
  dataLength : UInt32
  fileFlags : UInt8
  fileIdentifier : Text
  deriving DecidableEq

namespace ISO9660DirectoryRecord

/-- The length of a record without its identifier. -/
def size : Nat := 33

def fileIdentifierLength (data : List UInt8) : Nat := (data.getD 32 0).toNat

def ofBytes (data : List UInt8) : ISO9660DirectoryRecord where
  extentLBA := (wordAt data 2 4).toUInt32
  dataLength := (wordAt data 10 4).toUInt32
  fileFlags := data.getD 25 0
  fileIdentifier := (data.drop size).take (fileIdentifierLength data)

variable (record : ISO9660DirectoryRecord)

def extent : Extent := ⟨record.extentLBA, record.dataLength⟩

def isDirectory : Bool := record.fileFlags &&& 0x02 ≠ 0

/-- The name up to the version, without a trailing dot. -/
def cleanedRecordName : Text :=
  let name := record.fileIdentifier.takeWhile (· ≠ 0x3B)
  if name.getLast? = some 0x2E then name.dropLast else name

def answers (fileName : Text) : Bool := record.cleanedRecordName.map toupper = fileName.map toupper

/-- The search goes into a record. -/
def entered : Bool :=
  record.isDirectory ∧ record.fileIdentifier ≠ text "." ∧ record.fileIdentifier ≠ text ".." ∧
    record.extentLBA > 0 ∧ record.dataLength > 0

end ISO9660DirectoryRecord

/-- **The records that the loop goes through**: up to a length of zero, or one that is too short or passes the end of
the data. Records without an identifier, or with one that passes the end, are left out. -/
def recordsIn : Nat → Nat → List UInt8 → List ISO9660DirectoryRecord
  | 0, _, _ => []
  | fuel + 1, left, data =>
      let length := (data.getD 0 0).toNat
      if left = 0 ∨ data = [] ∨ length = 0 then []
      else if length < ISO9660DirectoryRecord.size ∨ data.length < length then []
      else
        let rest := recordsIn fuel (left - length) (data.drop length)
        let identifierLength := ISO9660DirectoryRecord.fileIdentifierLength data
        if identifierLength = 0 ∨ data.length < ISO9660DirectoryRecord.size + identifierLength then rest
        else .ofBytes data :: rest

/-! ## The search -/

structure ISO9660Parser where
  device : Device
  blockSize : UInt32
  rootDirectory : Extent
  blockSize_ne : blockSize ≠ 0

namespace ISO9660Parser

def maxDepth : Nat := 32

variable (parser : ISO9660Parser)

def sectorsNeeded (size : UInt32) : UInt32 := (size + parser.blockSize - 1) / parser.blockSize

def readFile (lba sectorCount : UInt32) : Option (List UInt8) :=
  parser.device.readBytes (lba.toUInt64 * parser.blockSize.toUInt64) (sectorCount.toUInt64 * parser.blockSize.toUInt64)

/-- The data of an extent, in whole sectors. No bytes are as good as an error. -/
def readExtent (extent : Extent) : Option (List UInt8) :=
  match parser.readFile extent.lba (parser.sectorsNeeded extent.size) with
  | none => none
  | some data => if data = [] then none else some data

/-- The records of a directory, where it can be read. -/
def directoryRecords (dir : Extent) : List ISO9660DirectoryRecord :=
  match parser.readExtent dir with
  | none => []
  | some dirData => recordsIn dirData.length dir.size.toNat dirData

/-- The loop over the records. The search below a directory answers what it found, and the directories that were
visited by then. -/
def searchRecords (below : Extent → List UInt32 → Option Extent × List UInt32) (fileName : Text) :
    List ISO9660DirectoryRecord → List UInt32 → Option Extent × List UInt32
  | [], visited => (none, visited)
  | record :: records, visited =>
      if record.answers fileName then (some record.extent, visited)
      else if record.entered then
        match below record.extent visited with
        | (some found, visited') => (some found, visited')
        | (none, visited') => searchRecords below fileName records visited'
      else searchRecords below fileName records visited

/-- **`searchDirectoryInternal`**, with the levels that are left. -/
def searchDirectoryInternal (fileName : Text) : Nat → Extent → List UInt32 → Option Extent × List UInt32
  | 0, _, visited => (none, visited)
  | levels + 1, dir, visited =>
      if dir.size = 0 ∨ dir.lba ∈ visited then (none, visited)
      else searchRecords (searchDirectoryInternal fileName levels) fileName (parser.directoryRecords dir)
        (dir.lba :: visited)

def searchDirectory (dir : Extent) (fileName : Text) : Option Extent :=
  (parser.searchDirectoryInternal fileName maxDepth dir []).1

/-! ## Paths -/

/-- The components of a path, between slashes of either kind. -/
def components (path : Text) : List Text :=
  Lib.Paths.names 0x2F ((if path.head? = some 0x2F then path.tail else path).map fun c => if c = 0x5C then 0x2F else c)

/-- The loop of `findFile`. -/
def follow : Extent → List Text → Option Extent
  | current, [] => some current
  | current, component :: rest =>
      match parser.searchDirectory current component with
      | none => none
      | some next => follow next rest

def findFile (path : Text) : Option Extent :=
  if components path = [] then none else parser.follow parser.rootDirectory (components path)

def extractFile (path : Text) : Option (List UInt8) :=
  match parser.findFile path with
  | none => none
  | some found => (parser.readExtent found).map fun fileData => fileData.take found.size.toNat

end ISO9660Parser

end GuideXOS.Storage.ISO
