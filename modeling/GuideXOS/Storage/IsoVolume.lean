import GuideXOS.Storage.ISO9660Parser

/-!
# `IsoVolume` — lookups in a volume that is laid out as the standard says

A volume is a tree of directories, each of which lists records (`contents`); on the device the records of a directory
fill sectors one after the other, and zeros stand behind the last record of a sector (`Laid`). `lookup` follows a path
through the volume, one level for each name.

The parser walks instead: it goes below each directory record that stands before the record it looks for, and it stops
at the first zero. `isoLookup_iff` says for which paths that makes no difference.
-/

namespace GuideXOS.Storage.ISO
open Core Lib.Words ISO9660DirectoryRecord ISO9660Parser

/-! ## Volumes -/

/-- The bytes of one record. -/
structure IsRecord (bytes : List UInt8) : Prop where
  length : bytes.head? = some (UInt8.ofNat bytes.length)
  length_lt : bytes.length < 256
  identifier : 0 < fileIdentifierLength bytes
  fits : ISO9660DirectoryRecord.size + fileIdentifierLength bytes ≤ bytes.length

/-- The size of a sector of a directory, whatever the size of a block is. -/
def sectorSize : Nat := 2048

/-- **The records of a directory in its sectors.** No record passes the end of a sector. -/
inductive Laid : List UInt8 → List ISO9660DirectoryRecord → Prop
  | done : Laid [] []
  | sector {encoded : List (List UInt8)} {padding : Nat} {rest : List UInt8} {records : List ISO9660DirectoryRecord}
      (hencoded : ∀ bytes ∈ encoded, IsRecord bytes)
      (hsize : (encoded.flatten ++ List.replicate padding 0).length = sectorSize) (hrest : Laid rest records) :
      Laid (encoded.flatten ++ List.replicate padding 0 ++ rest) (encoded.map ofBytes ++ records)

/-- What is recorded in a tree: its root, and what a recorded directory lists. -/
inductive Recorded (root : ISO9660DirectoryRecord) (contents : ISO9660DirectoryRecord → List ISO9660DirectoryRecord) :
    ISO9660DirectoryRecord → Prop
  | root : Recorded root contents root
  | entry {directory record : ISO9660DirectoryRecord} (hdirectory : Recorded root contents directory)
      (his : directory.isDirectory = true) (hmem : record ∈ contents directory) : Recorded root contents record

/-- **A well-formed image**: a parser on a device that holds the directories of a tree. -/
structure Volume where
  parser : ISO9660Parser
  root : ISO9660DirectoryRecord
  contents : ISO9660DirectoryRecord → List ISO9660DirectoryRecord
  root_extent : parser.rootDirectory = root.extent
  root_directory : root.isDirectory = true
  laid : ∀ directory, Recorded root contents directory → directory.isDirectory = true →
    ∃ data, parser.readFile directory.extentLBA (parser.sectorsNeeded directory.dataLength) = some data ∧
      directory.dataLength.toNat ≤ data.length ∧ Laid (data.take directory.dataLength.toNat) (contents directory)

namespace Volume
variable (volume : Volume)

/-- What a directory itself lists under a name. Of several versions the first is the latest. -/
def own (record : ISO9660DirectoryRecord) (name : Text) : Option ISO9660DirectoryRecord :=
  if record.isDirectory then (volume.contents record).find? (answers · name) else none

/-- **One level for each name.** -/
def lookup : ISO9660DirectoryRecord → List Text → Option ISO9660DirectoryRecord
  | record, [] => some record
  | record, name :: names => (volume.own record name).bind fun next => lookup next names

/-- The record that a path names. -/
def named (path : Text) : Option ISO9660DirectoryRecord :=
  if components path = [] then none else volume.lookup volume.root (components path)

end Volume

/-- The records that a walk meets: each is marked if it lies in another directory. -/
def walkRecords (below : Extent → List UInt32 → List ISO9660DirectoryRecord × List UInt32) :
    List ISO9660DirectoryRecord → List UInt32 → List (Bool × ISO9660DirectoryRecord) × List UInt32
  | [], visited => ([], visited)
  | record :: records, visited =>
      let (inner, visited') := if record.entered then below record.extent visited else ([], visited)
      let (outer, visited'') := walkRecords below records visited'
      ((false, record) :: inner.map (Prod.mk true) ++ outer, visited'')

/-- **A depth-first walk** that enters every directory once and leaves it at its first zero. -/
def walk (parser : ISO9660Parser) : Nat → Extent → List UInt32 → List (Bool × ISO9660DirectoryRecord) × List UInt32
  | 0, _, visited => ([], visited)
  | levels + 1, dir, visited =>
      if dir.size = 0 ∨ dir.lba ∈ visited then ([], visited)
      else walkRecords (fun extent visited => ((walk parser levels extent visited).1.map Prod.snd,
        (walk parser levels extent visited).2)) (parser.directoryRecords dir) (dir.lba :: visited)

/-- What a walk from a directory meets. -/
def met (parser : ISO9660Parser) (dir : Extent) : List (Bool × ISO9660DirectoryRecord) := (walk parser maxDepth dir []).1

namespace Volume
variable (volume : Volume)

/-- **A step of a path is sound**: it starts in a directory; no record of that name in another directory is met before
the directory's own, unless it has the very extent of that one; and a record of that name is met if the directory has
one, so that it is not hidden behind the first zero. -/
structure StepSound (record : ISO9660DirectoryRecord) (name : Text) : Prop where
  directory : record.isDirectory = false → ∀ e ∈ met volume.parser record.extent, ¬ e.2.answers name
  shallow : ∀ before other after, met volume.parser record.extent = before ++ (true, other) :: after →
    (∀ e ∈ before, ¬ e.2.answers name) → other.answers name →
    (volume.own record name).map extent = some other.extent
  complete : volume.own record name ≠ none → ∃ e ∈ met volume.parser record.extent, e.2.answers name

/-- Every step of a path through the volume is sound. -/
def Sound : ISO9660DirectoryRecord → List Text → Prop
  | _, [] => True
  | record, name :: names =>
      volume.StepSound record name ∧ ∀ next, volume.own record name = some next → Sound next names

/-- **A lookup follows the path**: it answers the extent of the record that is named, if there is one. -/
def FollowsPath (path : Text) : Prop := volume.parser.findFile path = (volume.named path).map extent

/-- A file that is extracted has its recorded length. -/
def ExtractsExactly (path : Text) : Prop :=
  ∀ data, volume.parser.extractFile path = some data →
    ∃ record, volume.named path = some record ∧ data.length = record.dataLength.toNat

/-- The device delivers all bytes of a file, or it fails. -/
def DeliversWhole (path : Text) : Prop :=
  ∀ record, volume.named path = some record → ∀ data, volume.parser.readExtent record.extent = some data →
    record.dataLength.toNat ≤ data.length

end Volume

/-! ## Searching is walking -/

section Walking
variable {parser : ISO9660Parser} {name : Text} {search : Extent → List UInt32 → Option Extent × List UInt32}
  {walked : Extent → List UInt32 → List ISO9660DirectoryRecord × List UInt32} {record : ISO9660DirectoryRecord}

/-- A search finds the first record of its name that a walk meets, and has visited as much if it finds none. -/
def Searches (name : Text) (search : Extent → List UInt32 → Option Extent × List UInt32)
    (walked : Extent → List UInt32 → List ISO9660DirectoryRecord × List UInt32) : Prop :=
  ∀ dir visited, (search dir visited).1 = ((walked dir visited).1.find? (answers · name)).map extent ∧
    ((search dir visited).1 = none → (search dir visited).2 = (walked dir visited).2)

theorem walkRecords_cons (record : ISO9660DirectoryRecord) (records : List ISO9660DirectoryRecord)
    (visited : List UInt32) : walkRecords walked (record :: records) visited =
    let inner := if record.entered then walked record.extent visited else ([], visited)
    let outer := walkRecords walked records inner.2
    ((false, record) :: inner.1.map (Prod.mk true) ++ outer.1, outer.2) := rfl

theorem find?_of_answers (h : record.answers name = true) (flag : Bool)
    (rest : List (Bool × ISO9660DirectoryRecord)) :
    ((flag, record) :: rest).find? (fun e => e.2.answers name) = some (flag, record) := List.find?_cons_of_pos h

theorem find?_of_not_answers (h : ¬ record.answers name = true) (flag : Bool)
    (rest : List (Bool × ISO9660DirectoryRecord)) :
    ((flag, record) :: rest).find? (fun e => e.2.answers name) = rest.find? fun e => e.2.answers name :=
  List.find?_cons_of_neg h

/-- The first record of a name among those below a directory and those after it. -/
theorem find?_inner_append (inner : List ISO9660DirectoryRecord) (outer : List (Bool × ISO9660DirectoryRecord)) :
    ((inner.map (Prod.mk true) ++ outer).find? fun e => e.2.answers name).map (fun e => e.2.extent) =
      ((inner.find? (answers · name)).map extent).or
        ((outer.find? fun e => e.2.answers name).map fun e => e.2.extent) := by
  rw [List.find?_append, List.find?_map, Option.map_or, Option.map_map]
  rfl

theorem searchRecords_eq (h : Searches name search walked) (records : List ISO9660DirectoryRecord)
    (visited : List UInt32) :
    (searchRecords search name records visited).1 =
      ((walkRecords walked records visited).1.find? fun e => e.2.answers name).map (fun e => e.2.extent) ∧
    ((searchRecords search name records visited).1 = none →
      (searchRecords search name records visited).2 = (walkRecords walked records visited).2) := by
  induction records generalizing visited with
  | nil => exact ⟨rfl, fun _ => rfl⟩
  | cons record records ih =>
      rw [walkRecords_cons]
      by_cases hanswers : record.answers name = true
      · rw [searchRecords, if_pos hanswers]
        refine ⟨?_, fun hnone => (nomatch hnone)⟩
        dsimp only
        rw [List.cons_append, find?_of_answers hanswers]
        rfl
      · rw [searchRecords, if_neg hanswers]
        by_cases hentered : record.entered = true
        · obtain ⟨hfound, hvisited⟩ := h record.extent visited
          rw [if_pos hentered, if_pos hentered]
          dsimp only
          rw [List.cons_append, find?_of_not_answers hanswers, find?_inner_append, ← hfound]
          -- what the search below answered decides if the loop goes on
          rcases hbelow : search record.extent visited with ⟨_ | found, visited'⟩
          · rw [hbelow] at hvisited
            rw [← hvisited rfl]
            simpa using ih visited'
          · exact ⟨rfl, fun hnone => (nomatch hnone)⟩
        · rw [if_neg hentered, if_neg hentered]
          dsimp only
          rw [List.cons_append, find?_of_not_answers hanswers]
          exact ih visited

theorem searches_walk (parser : ISO9660Parser) (name : Text) (levels : Nat) :
    Searches name (parser.searchDirectoryInternal name levels) fun dir visited =>
      ((walk parser levels dir visited).1.map Prod.snd, (walk parser levels dir visited).2) := by
  have hsnd : ∀ l : List (Bool × ISO9660DirectoryRecord), ((l.map Prod.snd).find? (answers · name)).map extent =
      (l.find? fun e => e.2.answers name).map fun e => e.2.extent := by
    intro l
    rw [List.find?_map, Option.map_map]
    rfl
  induction levels with
  | zero =>
      intro dir visited
      exact ⟨rfl, fun _ => rfl⟩
  | succ levels ih =>
      intro dir visited
      dsimp only
      rw [hsnd, searchDirectoryInternal, walk]
      by_cases hstop : dir.size = 0 ∨ dir.lba ∈ visited
      · rw [if_pos hstop, if_pos hstop]
        exact ⟨rfl, fun _ => rfl⟩
      · rw [if_neg hstop, if_neg hstop]
        exact searchRecords_eq ih (parser.directoryRecords dir) (dir.lba :: visited)

/-- **The search of a directory finds the first record of the name that the walk meets.** -/
theorem searchDirectory_eq (parser : ISO9660Parser) (dir : Extent) (name : Text) : parser.searchDirectory dir name =
    ((met parser dir).find? fun e => e.2.answers name).map fun e => e.2.extent := by
  have h := (searches_walk parser name maxDepth dir []).1
  rw [List.find?_map, Option.map_map] at h
  exact h

/-- The directory's own records, in their order. -/
theorem walkRecords_own (records : List ISO9660DirectoryRecord) (visited : List UInt32) :
    ((walkRecords walked records visited).1.filter fun e => !e.1).map Prod.snd = records := by
  induction records generalizing visited with
  | nil => rfl
  | cons record records ih =>
      rw [walkRecords_cons]
      dsimp only
      have hinner : ∀ inner : List ISO9660DirectoryRecord, (inner.map (Prod.mk true)).filter (fun e => !e.1) = [] := by
        intro inner
        simp
      rw [List.cons_append, List.filter_cons_of_pos rfl, List.filter_append, hinner, List.nil_append, List.map_cons, ih]

/-- If the first record met is the directory's own, it is the first of them. -/
theorem own_of_met {dir : Extent} (h : (met parser dir).find? (fun e => e.2.answers name) = some (false, record)) :
    (parser.directoryRecords dir).find? (answers · name) = some record := by
  have hfilter : ∀ l : List (Bool × ISO9660DirectoryRecord), l.find? (fun e => e.2.answers name) = some (false, record) →
      ((l.filter fun e => !e.1).map Prod.snd).find? (answers · name) = some record := by
    intro l hl
    induction l with
    | nil => cases hl
    | cons e l ih =>
        obtain ⟨flag, other⟩ := e
        by_cases hanswers : other.answers name = true
        · rw [find?_of_answers hanswers] at hl
          cases hl
          rw [List.filter_cons_of_pos rfl, List.map_cons]
          exact List.find?_cons_of_pos hanswers
        · rw [find?_of_not_answers hanswers] at hl
          cases flag with
          | true =>
              rw [List.filter_cons_of_neg (by simp)]
              exact ih hl
          | false =>
              have hskip : (other :: (l.filter fun e => !e.1).map Prod.snd).find? (answers · name) =
                  ((l.filter fun e => !e.1).map Prod.snd).find? (answers · name) := List.find?_cons_of_neg hanswers
              rw [List.filter_cons_of_pos rfl, List.map_cons, hskip]
              exact ih hl
  have hfound := hfilter _ h
  rw [met, maxDepth, walk] at hfound
  split at hfound
  · cases hfound
  · rwa [walkRecords_own] at hfound

end Walking

/-! ## What the parser reads of a directory -/

section Layout
variable {bytes rest : List UInt8}

theorem wordAt_append (rest : List UInt8) {offset n : Nat} (h : offset + n ≤ bytes.length) :
    wordAt (bytes ++ rest) offset n = wordAt bytes offset n := by
  rw [wordAt, wordAt, List.drop_append_of_le_length (by omega), List.take_append_of_le_length]
  rw [List.length_drop]
  omega

theorem getD_append (rest : List UInt8) {i : Nat} (h : i < bytes.length) :
    (bytes ++ rest).getD i 0 = bytes.getD i 0 := by
  rw [List.getD_eq_getElem?_getD, List.getD_eq_getElem?_getD, List.getElem?_append_left h]

namespace IsRecord

variable (h : IsRecord bytes)
include h

theorem size_lt : ISO9660DirectoryRecord.size < bytes.length :=
  Nat.lt_of_lt_of_le (Nat.lt_add_of_pos_right h.identifier) h.fits

theorem length_toNat (rest : List UInt8) : ((bytes ++ rest).getD 0 0).toNat = bytes.length := by
  have hsize := h.size_lt
  have hhead := h.length
  rw [getD_append rest (by omega), List.getD_eq_getElem?_getD, ← List.head?_eq_getElem?, hhead, Option.getD_some,
    UInt8.toNat_ofNat']
  exact Nat.mod_eq_of_lt h.length_lt

theorem identifierLength_append (rest : List UInt8) :
    fileIdentifierLength (bytes ++ rest) = fileIdentifierLength bytes := by
  have hsize : 33 < bytes.length := h.size_lt
  rw [fileIdentifierLength, getD_append rest (by omega)]
  rfl

theorem ofBytes_append (rest : List UInt8) : ofBytes (bytes ++ rest) = ofBytes bytes := by
  have hsize : 33 < bytes.length := h.size_lt
  have hfits := h.fits
  rw [ofBytes, ofBytes, wordAt_append rest (by omega), wordAt_append rest (by omega), getD_append rest (by omega),
    h.identifierLength_append, List.drop_append_of_le_length h.size_lt.le, List.take_append_of_le_length]
  rw [List.length_drop]
  omega

/-- The loop takes a record and goes on behind it. -/
theorem recordsIn_append (fuel left : Nat) (hleft : left ≠ 0) (rest : List UInt8) :
    recordsIn (fuel + 1) left (bytes ++ rest) = ofBytes bytes :: recordsIn fuel (left - bytes.length) rest := by
  have hsize := h.size_lt
  have hstop : ¬ (left = 0 ∨ bytes ++ rest = [] ∨ bytes.length = 0) := by
    rintro (hzero | hnil | hzero)
    · exact hleft hzero
    · rw [(List.append_eq_nil_iff.mp hnil).1, List.length_nil] at hsize
      omega
    · omega
  have hshort : ¬ (bytes.length < ISO9660DirectoryRecord.size ∨ (bytes ++ rest).length < bytes.length) := by
    rw [List.length_append]
    omega
  have hidentifier : ¬ (fileIdentifierLength bytes = 0 ∨
      (bytes ++ rest).length < ISO9660DirectoryRecord.size + fileIdentifierLength bytes) := by
    have hpos := h.identifier
    have hfits := h.fits
    rw [List.length_append]
    omega
  rw [recordsIn]
  dsimp only
  rw [h.length_toNat, h.identifierLength_append, h.ofBytes_append, if_neg hstop, if_neg hshort, if_neg hidentifier,
    List.drop_left]

end IsRecord

/-- **The parser sees the first records of a directory**, as many as stand before the first zero. -/
theorem recordsIn_prefix {records : List ISO9660DirectoryRecord} (h : Laid bytes records) (fuel : Nat)
    (tail : List UInt8) : recordsIn fuel bytes.length (bytes ++ tail) <+: records := by
  have hnil : ∀ fuel left data, left = 0 ∨ data = [] ∨ (data.getD 0 0).toNat = 0 → recordsIn fuel left data = [] := by
    intro fuel left data hstop
    cases fuel with
    | zero => rfl
    | succ fuel => exact if_pos hstop
  induction h generalizing fuel with
  | done =>
      rw [hnil fuel ([] : List UInt8).length _ (.inl rfl)]
  | @sector encoded padding rest records hencoded hsize hrest ih =>
      clear hsize
      -- through the records of the sector, and then over its end if no zero stands there
      induction encoded generalizing fuel with
      | nil =>
          cases padding with
          | zero => exact ih fuel
          | succ padding =>
              rw [hnil fuel _ _ (.inr (.inr rfl))]
              exact List.nil_prefix
      | cons bytes encoded ihe =>
          cases fuel with
          | zero => exact List.nil_prefix
          | succ fuel =>
              have hrecord := hencoded bytes List.mem_cons_self
              have hpos := hrecord.size_lt
              rw [List.flatten_cons, List.map_cons, List.append_assoc, List.append_assoc, List.append_assoc,
                hrecord.recordsIn_append fuel _ (by rw [List.length_append]; omega), List.cons_append,
                List.cons_prefix_cons]
              refine ⟨rfl, ?_⟩
              have hnext := ihe (fun other hmem => hencoded other (List.mem_cons_of_mem _ hmem)) fuel
              rw [List.length_append, Nat.add_sub_cancel_left]
              simpa only [List.append_assoc] using hnext

end Layout

namespace Volume

section Lookups
variable {volume : Volume} {record : ISO9660DirectoryRecord} {path : Text}

section
variable (hrecorded : Recorded volume.root volume.contents record)
include hrecorded

theorem directoryRecords_prefix (hdirectory : record.isDirectory = true) :
    volume.parser.directoryRecords record.extent <+: volume.contents record := by
  obtain ⟨data, hread, hle, hlaid⟩ := volume.laid record hrecorded hdirectory
  have hextent : volume.parser.readExtent record.extent = if data = [] then none else some data := by
    rw [readExtent, extent, hread]
  rw [directoryRecords, hextent]
  split
  · exact List.nil_prefix
  · next heq =>
      split at heq
      · cases heq
      · cases heq
        have hprefix := recordsIn_prefix hlaid data.length (data.drop record.dataLength.toNat)
        rw [List.take_append_drop, List.length_take, Nat.min_eq_left hle] at hprefix
        exact hprefix

/-- **One step of a lookup** answers what the directory itself lists, exactly if the step is sound. -/
theorem step_iff (name : Text) :
    volume.parser.searchDirectory record.extent name = (volume.own record name).map extent ↔
      volume.StepSound record name := by
  rw [searchDirectory_eq]
  constructor
  · intro h
    refine ⟨fun hfile e hmem hanswers => ?_, fun before other after hmet hbefore hanswers => ?_, fun hown => ?_⟩
    · have hnone : volume.own record name = none := if_neg (by rw [hfile]; exact Bool.false_ne_true)
      rw [hnone] at h
      exact List.find?_eq_none.mp (Option.map_eq_none_iff.mp h) e hmem hanswers
    · have hfound : (met volume.parser record.extent).find? (fun e => e.2.answers name) = some (true, other) :=
        List.find?_eq_some_iff_append.mpr ⟨hanswers, before, after, hmet, fun e hmem => by simpa using hbefore e hmem⟩
      rw [← h, hfound]
      rfl
    · by_contra hnone
      have hnotfound : (met volume.parser record.extent).find? (fun e => e.2.answers name) = none :=
        List.find?_eq_none.mpr fun e hmem hanswers => hnone ⟨e, hmem, hanswers⟩
      rw [hnotfound] at h
      exact hown (Option.map_eq_none_iff.mp h.symm)
  · intro h
    cases hfound : (met volume.parser record.extent).find? fun e => e.2.answers name with
    | none =>
        by_cases hown : volume.own record name = none
        · rw [hown]
          rfl
        · obtain ⟨e, hmem, hanswers⟩ := h.complete hown
          exact absurd hanswers (List.find?_eq_none.mp hfound e hmem)
    | some e =>
        obtain ⟨flag, other⟩ := e
        obtain ⟨hanswers, before, after, hmet, hbefore⟩ := List.find?_eq_some_iff_append.mp hfound
        cases flag with
        | true => exact (h.shallow before other after hmet (fun e hmem => by simpa using hbefore e hmem) hanswers).symm
        | false =>
            cases hdirectory : record.isDirectory with
            | false =>
                refine absurd hanswers (h.directory hdirectory (false, other) ?_)
                rw [hmet]
                exact List.mem_append_right _ List.mem_cons_self
            | true =>
                have hown : volume.own record name = some other := by
                  obtain ⟨rest, hrest⟩ := directoryRecords_prefix hrecorded hdirectory
                  rw [own, if_pos hdirectory, ← hrest, List.find?_append, own_of_met hfound]
                  rfl
                rw [hown]
                rfl

theorem recorded_of_own {name : Text} {next : ISO9660DirectoryRecord} (h : volume.own record name = some next) :
    Recorded volume.root volume.contents next := by
  rw [own] at h
  split at h
  · next hdirectory => exact .entry hrecorded hdirectory (List.mem_of_find?_eq_some h)
  · cases h

/-- **The lookups of a path and of all its beginnings**, by induction on the names. -/
theorem follow_iff (names : List Text) : (∀ before, before <+: names →
      volume.parser.follow record.extent before = (volume.lookup record before).map extent) ↔
    volume.Sound record names := by
  induction names generalizing record with
  | nil =>
      refine ⟨fun _ => trivial, fun _ before hbefore => ?_⟩
      rw [List.prefix_nil.mp hbefore]
      rfl
  | cons name names ih =>
      constructor
      · intro h
        have hstep : volume.parser.searchDirectory record.extent name = (volume.own record name).map extent := by
          have hone := h [name] (List.cons_prefix_cons.mpr ⟨rfl, List.nil_prefix⟩)
          rw [follow, lookup] at hone
          cases hsearch : volume.parser.searchDirectory record.extent name with
          | none =>
              rw [hsearch] at hone
              cases hown : volume.own record name with
              | none => rfl
              | some next =>
                  rw [hown] at hone
                  cases hone
          | some found =>
              rw [hsearch] at hone
              cases hown : volume.own record name with
              | none =>
                  rw [hown] at hone
                  cases hone
              | some next =>
                  rw [hown] at hone
                  exact hone
        refine ⟨(step_iff hrecorded name).mp hstep, fun next hown => (ih (recorded_of_own hrecorded hown)).mp ?_⟩
        intro before hbefore
        have hrest := h (name :: before) (List.cons_prefix_cons.mpr ⟨rfl, hbefore⟩)
        rw [follow, lookup, hstep, hown] at hrest
        exact hrest
      · rintro ⟨hstep, hrest⟩ before hbefore
        cases before with
        | nil => rfl
        | cons name' before =>
            obtain ⟨rfl, htail⟩ := List.cons_prefix_cons.mp hbefore
            rw [follow, lookup, (step_iff hrecorded name').mpr hstep]
            cases hown : volume.own record name' with
            | none => rfl
            | some next => exact (ih (recorded_of_own hrecorded hown)).mpr (hrest next hown) before htail

end

/-- A file that is found is extracted exactly if the device delivers all of it. -/
theorem extracts_iff (h : volume.FollowsPath path) : volume.ExtractsExactly path ↔ volume.DeliversWhole path := by
  unfold ExtractsExactly DeliversWhole extractFile
  rw [show volume.parser.findFile path = (volume.named path).map extent from h]
  cases hnamed : volume.named path with
  | none =>
      refine ⟨fun _ record heq => (nomatch heq), fun _ data heq => (nomatch heq)⟩
  | some record =>
      have hsize : record.extent.size = record.dataLength := rfl
      constructor
      · intro h record' heq data hdata
        cases heq
        obtain ⟨record', heq, hlength⟩ := h (data.take record.dataLength.toNat) (by
          dsimp only [Option.map_some]
          rw [hdata, Option.map_some, hsize])
        cases heq
        rw [List.length_take] at hlength
        omega
      · intro h data hdata
        dsimp only [Option.map_some] at hdata
        obtain ⟨fileData, hfile, rfl⟩ := Option.map_eq_some_iff.mp hdata
        refine ⟨record, rfl, ?_⟩
        rw [List.length_take, hsize]
        exact Nat.min_eq_left (h record rfl fileData hfile)

end Lookups

end Volume

/-! ## Paths as text -/

section Paths
open Lib.Paths

theorem mem_of_mem_namesAfter {c : UInt8} {name current rest : Text} (hname : name ∈ namesAfter 0x2F current rest)
    (hc : c ∈ name) : c ∈ current ∨ c ∈ rest := by
  have hfinished : ∀ current : Text, name ∈ finished current → c ∈ current := by
    intro current hmem
    rw [finished] at hmem
    split at hmem
    · cases hmem
    · rwa [← List.mem_singleton.mp hmem]
  induction rest generalizing current with
  | nil => exact .inl (hfinished current hname)
  | cons d rest ih =>
      rw [namesAfter] at hname
      split at hname
      · rcases List.mem_append.mp hname with hmem | hmem
        · exact .inl (hfinished current hmem)
        · rcases ih hmem with hnil | hrest
          · cases hnil
          · exact .inr (List.mem_cons_of_mem _ hrest)
      · rcases ih hname with hcurrent | hrest
        · rcases List.mem_append.mp hcurrent with hmem | hmem
          · exact .inl hmem
          · exact .inr (by rw [List.mem_singleton.mp hmem]; exact List.mem_cons_self)
        · exact .inr (List.mem_cons_of_mem _ hrest)

/-- A component holds no separator. -/
theorem component_clean {path name : Text} (h : name ∈ components path) : IsName 0x2F name ∧ (0x5C : UInt8) ∉ name := by
  refine ⟨isName_of_mem_names name h, fun hmem => ?_⟩
  rcases mem_of_mem_namesAfter h hmem with hnil | hrest
  · cases hnil
  · obtain ⟨c, -, hc⟩ := List.mem_map.mp hrest
    split at hc
    · cases hc
    · contradiction

/-- Every list of components is written as a path. -/
theorem components_absolute {names : List Text} (h : ∀ name ∈ names, IsName 0x2F name ∧ (0x5C : UInt8) ∉ name) :
    components (absolute 0x2F names) = names := by
  have hnames := names_absolute fun name hname => (h name hname).1
  have hclean : (0x5C : UInt8) ∉ absolute 0x2F names := by
    intro hmem
    rw [absolute] at hmem
    split at hmem
    · cases List.mem_singleton.mp hmem
    · obtain ⟨name, hname, hc⟩ := List.mem_flatMap.mp hmem
      rcases List.mem_cons.mp hc with hslash | hc
      · cases hslash
      · exact (h name hname).2 hc
  have hhead : ∃ rest, absolute 0x2F names = 0x2F :: rest := by
    rw [absolute]
    cases names with
    | nil => exact ⟨[], rfl⟩
    | cons name names => exact ⟨_, by rw [if_neg (List.cons_ne_nil _ _), written_cons]⟩
  obtain ⟨rest, hrest⟩ := hhead
  rw [hrest] at hclean hnames ⊢
  have hmap : rest.map (fun c => if c = 0x5C then 0x2F else c) = rest := by
    have hid : ∀ c ∈ rest, (if c = 0x5C then 0x2F else c) = c := by
      intro c hc
      rw [if_neg]
      rintro rfl
      exact hclean (List.mem_cons_of_mem _ hc)
    rw [List.map_congr_left hid, List.map_id']
  rw [components, if_pos List.head?_cons, List.tail_cons, hmap]
  rw [Lib.Paths.names, namesAfter_sep] at hnames
  exact hnames

/-- Every beginning of a path is a path. -/
theorem exists_path {path : Text} {before : List Text} (h : before <+: components path) :
    ∃ path', components path' = before :=
  ⟨_, components_absolute fun _ hname => component_clean (h.subset hname)⟩

end Paths

/-- **Lookups follow the path**, and files are extracted whole, for a path and all its beginnings: exactly if each of its
steps is sound and the device delivers each file whole. -/
theorem isoLookup_iff (volume : Volume) (path : Text) :
    (∀ path', components path' <+: components path → volume.FollowsPath path' ∧ volume.ExtractsExactly path') ↔
    volume.Sound volume.root (components path) ∧
      ∀ path', components path' <+: components path → volume.DeliversWhole path' := by
  have hfollows : (∀ path', components path' <+: components path → volume.FollowsPath path') ↔
      volume.Sound volume.root (components path) := by
    rw [← Volume.follow_iff .root]
    constructor
    · intro h before hbefore
      obtain ⟨path', rfl⟩ := exists_path hbefore
      by_cases hempty : components path' = []
      · rw [hempty]
        rfl
      · have hpath := h path' hbefore
        rw [Volume.FollowsPath, findFile, Volume.named, if_neg hempty, if_neg hempty, volume.root_extent] at hpath
        exact hpath
    · intro h path' hbefore
      rw [Volume.FollowsPath, findFile, Volume.named]
      split
      · rfl
      · rw [volume.root_extent]
        exact h _ hbefore
  rw [← hfollows]
  constructor
  · intro h
    exact ⟨fun path' hbefore => (h path' hbefore).1,
      fun path' hbefore => (Volume.extracts_iff (h path' hbefore).1).mp (h path' hbefore).2⟩
  · rintro ⟨hpaths, hwhole⟩ path' hbefore
    exact ⟨hpaths path' hbefore, (Volume.extracts_iff (hpaths path' hbefore)).mpr (hwhole path' hbefore)⟩

/-! ## A volume with a subdirectory and a directory of two sectors -/

namespace Sample

/-- A record of one block, with the low bytes of its numbers. -/
def recordBytes (block size page flags : UInt8) (name : Text) : List UInt8 :=
  [33 + UInt8.ofNat name.length, 0, block, 0, 0, 0, 0, 0, 0, 0, size, page, 0, 0] ++ List.replicate 11 0 ++
    [flags, 0, 0, 1, 0, 0, 1, UInt8.ofNat name.length] ++ name

/-- The root lists `A` in its first sector, and two files in its second. -/
def rootFirst : List (List UInt8) :=
  [recordBytes 1 0 16 2 [0], recordBytes 1 0 16 2 [1], recordBytes 3 0 8 2 (text "A")]

def rootSecond : List (List UInt8) :=
  [recordBytes 5 3 0 0 (text "README.;1"), recordBytes 6 3 0 0 (text "ZEBU.;1")]

/-- `A` lists two files. -/
def encodedA : List (List UInt8) :=
  [recordBytes 3 0 8 2 [0], recordBytes 1 0 16 2 [1], recordBytes 4 3 0 0 (text "BC.;1"),
    recordBytes 7 7 0 0 (text "README.;1")]

def rootData : List UInt8 :=
  rootFirst.flatten ++ List.replicate 1946 0 ++ (rootSecond.flatten ++ List.replicate 1966 0 ++ [])

def dataA : List UInt8 := encodedA.flatten ++ List.replicate 1900 0 ++ []

/-- The device ends in the middle of the file `A/BC`. -/
def bytes : List UInt8 := List.replicate 2048 0 ++ (rootData ++ (dataA ++ [0x68, 0x69]))

theorem length_rootData : rootData.length = 4096 := by
  have hfirst : rootFirst.flatten.length = 102 := by decide +kernel
  have hsecond : rootSecond.flatten.length = 82 := by decide +kernel
  simp only [rootData, List.length_append, List.length_replicate, hfirst, hsecond, List.length_nil]

theorem length_dataA : dataA.length = 2048 := by
  have hencoded : encodedA.flatten.length = 148 := by decide +kernel
  simp only [dataA, List.length_append, List.length_replicate, hencoded, List.length_nil]

def device : Device where
  readBytes offset size := some ((bytes.drop offset.toNat).take size.toNat)
  length_le offset size data h := by
    cases h
    rw [List.length_take]
    exact Nat.min_le_left _ _

def parser : ISO9660Parser where
  device := device
  blockSize := 2048
  rootDirectory := ⟨1, 4096⟩
  blockSize_ne := by decide

def root : ISO9660DirectoryRecord := ofBytes (recordBytes 1 0 16 2 [0])

def contents (record : ISO9660DirectoryRecord) : List ISO9660DirectoryRecord :=
  if record.extent = ⟨1, 4096⟩ then rootFirst.map ofBytes ++ (rootSecond.map ofBytes ++ [])
  else if record.extent = ⟨3, 2048⟩ then encodedA.map ofBytes ++ [] else []

/-- Every recorded directory is the root or `A`. -/
theorem directory_cases {record : ISO9660DirectoryRecord} (h : Recorded root contents record)
    (hdirectory : record.isDirectory = true) : record.extent = ⟨1, 4096⟩ ∨ record.extent = ⟨3, 2048⟩ := by
  induction h with
  | root => exact .inl (by decide)
  | entry _ _ hmem _ =>
      have hlisted : ∀ record ∈ (rootFirst ++ rootSecond ++ encodedA).map ofBytes, record.isDirectory = true →
          record.extent = ⟨1, 4096⟩ ∨ record.extent = ⟨3, 2048⟩ := by decide +kernel
      refine hlisted _ ?_ hdirectory
      rw [contents] at hmem
      rw [List.map_append, List.map_append]
      split at hmem
      · rw [List.append_nil] at hmem
        exact List.mem_append_left _ hmem
      · split at hmem
        · rw [List.append_nil] at hmem
          exact List.mem_append_right _ hmem
        · cases hmem

instance (bytes : List UInt8) : Decidable (IsRecord bytes) :=
  decidable_of_iff (bytes.head? = some (UInt8.ofNat bytes.length) ∧ bytes.length < 256 ∧
      0 < fileIdentifierLength bytes ∧ ISO9660DirectoryRecord.size + fileIdentifierLength bytes ≤ bytes.length)
    ⟨fun ⟨hlength, hlt, hidentifier, hfits⟩ => ⟨hlength, hlt, hidentifier, hfits⟩,
      fun ⟨hlength, hlt, hidentifier, hfits⟩ => ⟨hlength, hlt, hidentifier, hfits⟩⟩

/-- The directories of the device are the ones listed. -/
theorem laid (record : ISO9660DirectoryRecord) (h : Recorded root contents record)
    (hdirectory : record.isDirectory = true) : ∃ data,
    parser.readFile record.extentLBA (parser.sectorsNeeded record.dataLength) = some data ∧
      record.dataLength.toNat ≤ data.length ∧ Laid (data.take record.dataLength.toNat) (contents record) := by
  have hrecord : record.extent = ⟨record.extentLBA, record.dataLength⟩ := rfl
  rcases directory_cases h hdirectory with heq | heq
  · have hcontents : contents record = rootFirst.map ofBytes ++ (rootSecond.map ofBytes ++ []) := if_pos heq
    rw [hcontents]
    rw [hrecord] at heq
    obtain ⟨hlba, hsize⟩ := Extent.mk.inj heq
    rw [hlba, hsize]
    have hread : parser.readFile 1 (parser.sectorsNeeded 4096) = some rootData := by
      show some ((bytes.drop 2048).take 4096) = some rootData
      rw [bytes, List.drop_left' List.length_replicate, List.take_left' length_rootData]
    have hfirst : (rootFirst.flatten ++ List.replicate 1946 (0 : UInt8)).length = sectorSize := by
      rw [List.length_append, List.length_replicate]
      rfl
    have hsecond : (rootSecond.flatten ++ List.replicate 1966 (0 : UInt8)).length = sectorSize := by
      rw [List.length_append, List.length_replicate]
      rfl
    refine ⟨rootData, hread, length_rootData.ge, ?_⟩
    have htake : rootData.take (UInt32.toNat 4096) = rootData := List.take_of_length_le length_rootData.le
    rw [htake]
    exact .sector (by decide +kernel) hfirst (.sector (by decide +kernel) hsecond .done)
  · have hcontents : contents record = encodedA.map ofBytes ++ [] := by
      rw [contents, heq, if_neg (by decide), if_pos rfl]
    rw [hcontents]
    rw [hrecord] at heq
    obtain ⟨hlba, hsize⟩ := Extent.mk.inj heq
    rw [hlba, hsize]
    have hread : parser.readFile 3 (parser.sectorsNeeded 2048) = some dataA := by
      show some ((bytes.drop 6144).take 2048) = some dataA
      have hfront : (List.replicate 2048 (0 : UInt8) ++ rootData).length = 6144 := by
        rw [List.length_append, List.length_replicate, length_rootData]
      rw [bytes, ← List.append_assoc, List.drop_left' hfront, List.take_left' length_dataA]
    have hsector : (encodedA.flatten ++ List.replicate 1900 (0 : UInt8)).length = sectorSize := by
      rw [List.length_append, List.length_replicate]
      rfl
    refine ⟨dataA, hread, length_dataA.ge, ?_⟩
    have htake : dataA.take (UInt32.toNat 2048) = dataA := List.take_of_length_le length_dataA.le
    rw [htake]
    exact .sector (by decide +kernel) hsector .done

def volume : Volume where
  parser := parser
  root := root
  contents := contents
  root_extent := by decide
  root_directory := by decide
  laid := laid

end Sample

/-- **A deeper file, a second sector and a short read.** `README` is found in `A`; `ZEBU` is not found; `A/BC` is
extracted with two of its three bytes. -/
theorem isoLookup_fails :
    Sample.parser.findFile (text "README") = some ⟨7, 7⟩ ∧
    (Sample.volume.named (text "README")).map extent = some ⟨5, 3⟩ ∧
    Sample.parser.findFile (text "ZEBU") = none ∧ (Sample.volume.named (text "ZEBU")).map extent = some ⟨6, 3⟩ ∧
    Sample.parser.extractFile (text "A/BC") = some [0x68, 0x69] ∧
    (Sample.volume.named (text "A/BC")).map extent = some ⟨4, 3⟩ ∧
    ¬ ∀ (volume : Volume) (path : Text), volume.FollowsPath path ∧ volume.ExtractsExactly path := by
  have hfound : Sample.parser.findFile (text "README") = some ⟨7, 7⟩ := by decide +kernel
  have hnamed : (Sample.volume.named (text "README")).map extent = some ⟨5, 3⟩ := by decide +kernel
  refine ⟨hfound, hnamed, by decide +kernel, by decide +kernel, by decide +kernel, by decide +kernel, ?_⟩
  intro h
  have hfollows : Sample.parser.findFile (text "README") = (Sample.volume.named (text "README")).map extent :=
    (h Sample.volume (text "README")).1
  rw [hfound, hnamed] at hfollows
  exact absurd hfollows (by decide)

end GuideXOS.Storage.ISO
