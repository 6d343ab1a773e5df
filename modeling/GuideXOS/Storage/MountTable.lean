import GuideXOS.Lib.Runs
import GuideXOS.Storage.PathResolver

/-!
# `MountTable` — which mount resolves a guest path

A guest path belongs to the mount with the longest mount point whose names it goes on from (`ResolvesLongest`).
The code compares text instead, and for normalised text the two agree (`containsPath_iff`), except at the root:
its mount point ends in the separator that the comparison looks for behind it, so the root mount contains the
root alone (`containsPath_root`). `resolution_run` says when a run's table resolves a path as it should.
-/

namespace GuideXOS.Storage
open Lib.Paths Lib.Runs Core PathResolver

/-! ## Normalised paths -/

/-- Names that a normalised path is made of. -/
def Settled (path : List Text) : Prop := ∀ name ∈ path, IsName slash name ∧ name ≠ dot ∧ name ≠ dotDot

/-- The names of a mount point, normalised. -/
def pointNames (mountPoint : Text) : List Text := settle dot dotDot [] (split mountPoint)

/-- Text that is its own normalised path. -/
def Normal (path : Text) : Prop := absolute slash (pointNames path) = path

instance (path : Text) : Decidable (Normal path) := inferInstanceAs (Decidable (_ = _))

variable {path : List Text}

theorem Settled.isName (h : Settled path) : ∀ name ∈ path, IsName slash name :=
  fun name hname => (h name hname).1

theorem settled_pointNames (mountPoint : Text) : Settled (pointNames mountPoint) := by
  intro name hname
  rcases mem_settle hname with h | ⟨h, hdot, hdotDot⟩
  · cases h
  · exact ⟨isName_of_mem_names name h, hdot, hdotDot⟩

theorem pointNames_absolute (h : Settled path) : pointNames (absolute slash path) = path := by
  rw [pointNames, split, names_absolute h.isName, settle_of_settled fun name hname => (h name hname).2]
  rfl

theorem dropSlashes_of_ne {c : UInt8} (hc : c ≠ slash) (rest : Text) :
    FilesystemMount.dropSlashes (c :: rest) = c :: rest := by
  cases rest with
  | nil => rfl
  | cons d rest => exact if_neg hc

/-- The trimming leaves a path made of names alone. -/
theorem normalizePath_absolute (h : ∀ name ∈ path, IsName slash name) :
    FilesystemMount.normalizePath (absolute slash path) = absolute slash path := by
  rcases List.eq_nil_or_concat path with rfl | ⟨init, name, rfl⟩
  · rfl
  · have hne : init.concat name ≠ [] := by rw [List.concat_eq_append]; exact List.append_ne_nil_of_right_ne_nil _ nofun
    rw [absolute, if_neg hne]
    have hhead : ∃ rest, written slash (init.concat name) = slash :: rest := by
      cases init with
      | nil => exact ⟨_, written_cons _ _⟩
      | cons first init => exact ⟨_, written_cons _ _⟩
    obtain ⟨rest, hrest⟩ := hhead
    have hname := h name (by rw [List.concat_eq_append]; exact List.mem_append_right _ (List.mem_singleton_self _))
    obtain ⟨front, last, hlast⟩ := (List.eq_nil_or_concat name).resolve_left hname.1
    have hlast_ne : last ≠ slash := by
      rintro rfl
      exact hname.2 (by rw [hlast, List.concat_eq_append]; exact List.mem_append_right _ (List.mem_singleton_self _))
    have hreverse : ∃ tail, (written slash (init.concat name)).reverse = last :: tail := by
      rw [List.concat_eq_append, written_append, written_cons, hlast, List.concat_eq_append]
      exact ⟨_, by simp [written]; rfl⟩
    obtain ⟨tail, htail⟩ := hreverse
    rw [FilesystemMount.normalizePath, if_neg (by rw [hrest]; nofun), if_pos (by rw [hrest]; rfl),
      FilesystemMount.trimSlashes, htail, dropSlashes_of_ne hlast_ne, ← htail, List.reverse_reverse]

/-! ## What a mount contains -/

variable {mount : FilesystemMount} (order : MountSort) {filesystem : Option Filesystem} {device : Option StorageDevice}
  {manager : VirtualDiskManager}

/-- The comparison of text. -/
theorem containsPath_text {guest : Text} (hguest : FilesystemMount.normalizePath guest = guest) :
    mount.containsPath guest = true ↔
      guest = mount.mountPoint ∨ ∃ rest, guest = mount.mountPoint ++ slash :: rest := by
  rw [FilesystemMount.containsPath, hguest]
  split
  case isTrue hshort =>
    refine ⟨nofun, ?_⟩
    rintro (rfl | ⟨rest, rfl⟩)
    · exact absurd hshort (Nat.lt_irrefl _)
    · rw [List.length_append] at hshort
      omega
  case isFalse hlong =>
    split
    case isTrue heq => exact ⟨fun _ => .inl heq, fun _ => rfl⟩
    case isFalse hne =>
      split
      case isFalse htake =>
        refine ⟨nofun, ?_⟩
        rintro (heq | ⟨rest, rfl⟩)
        · exact absurd heq hne
        · exact absurd List.take_left htake
      case isTrue htake =>
        have hguest := List.take_append_drop mount.mountPoint.length guest
        rw [htake] at hguest
        constructor
        · intro hnext
          rcases Bool.or_eq_true_iff.mp hnext with hlength | hnext
          · refine absurd ?_ hne
            rw [← htake, List.take_of_length_le (Nat.le_of_eq (beq_iff_eq.mp hlength))]
          · obtain ⟨hlt, hslash⟩ := List.getElem?_eq_some_iff.mp (beq_iff_eq.mp hnext)
            rw [List.drop_eq_getElem_cons hlt, hslash] at hguest
            exact .inr ⟨_, hguest.symm⟩
        · rintro (heq | ⟨rest, hrest⟩)
          · exact absurd heq hne
          · rw [Bool.or_eq_true_iff]
            refine .inr (beq_iff_eq.mpr ?_)
            rw [hrest, List.getElem?_append_right (Nat.le_refl _), Nat.sub_self]
            rfl

/-- **Names.** Below the root, a mount contains the paths that go on from its names. -/
theorem containsPath_iff {point : List Text} (hpoint : ∀ name ∈ point, IsName slash name) (hne : point ≠ [])
    (hmount : mount.mountPoint = absolute slash point) (hpath : ∀ name ∈ path, IsName slash name) :
    mount.containsPath (absolute slash path) = true ↔ point <+: path := by
  rw [containsPath_text (normalizePath_absolute hpath), hmount]
  unfold absolute
  rw [if_neg hne]
  by_cases hroot : path = []
  · rw [if_pos hroot, hroot, List.prefix_nil]
    have hlong := one_lt_length_written hpoint hne
    refine ⟨?_, fun h => absurd h hne⟩
    rintro (h | ⟨rest, h⟩)
    · rw [← h] at hlong
      exact absurd hlong (by decide)
    · have hlength := congrArg List.length h
      rw [List.length_append, List.length_singleton] at hlength
      omega
  · rw [if_neg hroot]
    exact prefix_iff hpoint hpath

/-- **The root** contains itself alone. -/
theorem containsPath_root (hmount : mount.mountPoint = [slash]) (hpath : ∀ name ∈ path, IsName slash name) :
    mount.containsPath (absolute slash path) = true ↔ path = [] := by
  rw [containsPath_text (normalizePath_absolute hpath), hmount]
  cases path with
  | nil => exact ⟨fun _ => rfl, fun _ => .inl rfl⟩
  | cons name path =>
      refine ⟨?_, nofun⟩
      obtain ⟨hne, hslash⟩ := hpath name List.mem_cons_self
      obtain ⟨c, name, rfl⟩ := List.exists_cons_of_ne_nil hne
      rw [absolute, if_neg (List.cons_ne_nil _ _), written_cons]
      rintro (h | ⟨rest, h⟩)
      · exact absurd (List.cons.inj h).2 (List.cons_ne_nil _ _)
      · exact absurd (List.cons.inj (List.cons.inj h).2).1 (List.ne_and_not_mem_of_not_mem_cons hslash).1.symm

/-- **The translation** leaves the names that remain. -/
theorem translatePath_eq {point rest : List Text} (hmount : mount.mountPoint = absolute slash point)
    (hpath : ∀ name ∈ point ++ rest, IsName slash name)
    (hcontains : mount.containsPath (absolute slash (point ++ rest)) = true) :
    mount.translatePath (absolute slash (point ++ rest)) = absolute slash rest := by
  rw [FilesystemMount.translatePath, hcontains]
  dsimp only [Bool.not_true, Bool.false_eq_true]
  rw [if_neg nofun, normalizePath_absolute hpath, hmount]
  have hpoint : ∀ name ∈ point, IsName slash name := fun name h => hpath name (List.mem_append_left _ h)
  cases rest with
  | nil =>
      rw [List.append_nil, if_pos rfl]
      rfl
  | cons name rest =>
      by_cases hroot : point = []
      · subst hroot
        rw [List.nil_append] at hpath hcontains
        exact absurd ((containsPath_root hmount hpath).mp hcontains) (List.cons_ne_nil _ _)
      · have hwritten : absolute slash (point ++ name :: rest) = written slash point ++ absolute slash (name :: rest) := by
          rw [absolute, if_neg (List.append_ne_nil_of_left_ne_nil hroot _), written_append, absolute,
            if_neg (List.cons_ne_nil _ _)]
        have hpoint_eq : absolute slash point = written slash point := if_neg hroot
        have hstart : absolute slash (name :: rest) = slash :: (name ++ written slash rest) := by
          rw [absolute, if_neg (List.cons_ne_nil _ _), written_cons]
        rw [hwritten, hpoint_eq, if_neg, List.drop_left, if_neg]
        · rw [hstart]
          rintro (h | h)
          · cases h
          · exact h rfl
        · rw [hstart]
          exact fun h => absurd (List.append_right_eq_self.mp h) (List.cons_ne_nil _ _)

/-! ## The normalised guest path -/

/-- With parent references allowed, the loop settles the names, unless one of them cannot be a component. -/
theorem processComponents_some {options : ValidationOptions} (hoptions : options.allowParentRefs = true)
    {stack normalized : List Text} (hpath : ∀ name ∈ path, name ≠ [])
    (h : processComponents options stack path = some normalized) :
    normalized = settle dot dotDot stack path ∧
      ∀ name ∈ normalized, name ∈ stack ∨ isValidComponent name = true := by
  induction path generalizing stack with
  | nil =>
      obtain rfl := Option.some.inj h
      exact ⟨rfl, fun name hname => .inl hname⟩
  | cons name path ih =>
      obtain ⟨hname, hpath⟩ := List.forall_mem_cons.mp hpath
      rw [processComponents] at h
      rw [settle]
      split at h
      case isTrue hdot =>
        rw [if_pos (hdot.resolve_left hname)]
        exact ih hpath h
      case isFalse hdot =>
        rw [if_neg fun heq => hdot (.inr heq)]
        split at h
        case isTrue hdotDot =>
          rw [if_pos hdotDot]
          obtain ⟨heq, hvalid⟩ := ih hpath h
          exact ⟨heq, fun name hname => (hvalid name hname).imp_left (List.dropLast_subset stack ·)⟩
        case isFalse hdotDot =>
          rw [if_neg hdotDot]
          split at h
          case isFalse => cases h
          case isTrue hcomponent =>
            obtain ⟨heq, hvalid⟩ := ih hpath h
            refine ⟨heq, fun other hother => ?_⟩
            rcases hvalid other hother with hstack | hvalid
            · rcases List.mem_append.mp hstack with hstack | hsame
              · exact .inl hstack
              · rw [List.mem_singleton.mp hsame]
                exact .inr hcomponent
            · exact .inr hvalid

theorem build_eq (normalized : List Text) : build normalized = absolute slash normalized := by
  unfold build absolute
  split
  case isTrue => rfl
  case isFalse hne =>
    obtain ⟨name, rest, rfl⟩ := List.exists_cons_of_ne_nil hne
    clear hne
    induction rest generalizing name with
    | nil => simp [written, List.intercalate]
    | cons other rest ih =>
        rw [written_cons, ← ih other]
        simp [List.intercalate]

/-- **What `normalize` answers**: nothing, or a path of settled names that could each be a component. -/
theorem normalize_cases (guestPath currentDir : Text) :
    ({} : PathResolver).normalize guestPath currentDir = [] ∨
      ∃ path, ({} : PathResolver).normalize guestPath currentDir = absolute slash path ∧ Settled path ∧
        (∀ name ∈ path, isValidComponent name = true) ∧ path.length ≤ 128 := by
  unfold PathResolver.normalize
  split
  case isTrue => exact .inl rfl
  split
  case isTrue => exact .inl rfl
  split
  case isTrue => exact .inl rfl
  split
  case h_1 => exact .inl rfl
  case h_2 normalized hsome =>
    split
    case isTrue => exact .inl rfl
    case isFalse hdepth =>
      obtain ⟨heq, hvalid⟩ := processComponents_some rfl (fun name hname => (isName_of_mem_names name hname).1) hsome
      refine .inr ⟨normalized, build_eq normalized, ?_, fun name hname => ?_, Nat.not_lt.mp hdepth⟩
      · rw [heq]
        exact settled_pointNames _
      · exact (hvalid name hname).resolve_left List.not_mem_nil

/-- **What `validate` refuses** of such a path is its length alone. -/
theorem validate_absolute (hpath : Settled path) (hvalid : ∀ name ∈ path, isValidComponent name = true)
    (hdepth : path.length ≤ 128) :
    ({} : PathResolver).validate (absolute slash path) =
      if 4096 < (absolute slash path).length then .error (text "Path too long") else .ok () := by
  have hne : absolute slash path ≠ [] := absolute_ne_nil path
  have habsolute : isAbsolute (absolute slash path) = true := by
    cases path with
    | nil => rfl
    | cons name path => rfl
  have hclean : containsMaliciousChars (absolute slash path) = false := by
    rw [containsMaliciousChars, List.contains_eq_mem, decide_eq_false_iff_not]
    unfold absolute
    split
    case isTrue => decide
    case isFalse =>
      intro hmem
      obtain ⟨name, hname, hzero⟩ := List.mem_flatMap.mp hmem
      have hcomponent := hvalid name hname
      rcases List.mem_cons.mp hzero with h | h
      · exact absurd h (by decide)
      · rw [isValidComponent, List.contains_eq_mem, decide_eq_true h] at hcomponent
        simp at hcomponent
  have hsplit : split (absolute slash path) = path := names_absolute hpath.isName
  have hfind : (path.find? fun component => !isValidComponent component) = none := by
    refine List.find?_eq_none.mpr fun name hname => ?_
    rw [hvalid name hname]
    decide
  have hdeep : ¬ ({} : ValidationOptions).maxDepth.toNat < path.length := Nat.not_lt.mpr hdepth
  rw [validate, if_neg hne, habsolute, hclean, hsplit, hfind, if_neg hdeep]
  rfl

/-! ## A sound table -/

/-- The mounts are mounted, at normalised mount points of their own. -/
structure TableSound (mounts : List FilesystemMount) : Prop where
  mounted : ∀ mount ∈ mounts, mount.mounted = true
  normal : ∀ mount ∈ mounts, Normal mount.mountPoint
  distinct : (mounts.map (·.mountPoint)).Nodup

/-- The path goes on from the names of the mount point. -/
def Covers (mount : FilesystemMount) (normalizedPath : Text) : Prop :=
  pointNames mount.mountPoint <+: split normalizedPath

theorem containsPath_normal (hnormal : Normal mount.mountPoint) (hpath : ∀ name ∈ path, IsName slash name) :
    mount.containsPath (absolute slash path) = true ↔
      pointNames mount.mountPoint <+: path ∧ (mount.mountPoint = [slash] → path = []) := by
  have hpoint := settled_pointNames mount.mountPoint
  by_cases hroot : mount.mountPoint = [slash]
  · rw [containsPath_root hroot hpath, hroot]
    exact ⟨fun h => ⟨List.nil_prefix, fun _ => h⟩, fun h => h.2 rfl⟩
  · have hne : pointNames mount.mountPoint ≠ [] := by
      intro hnil
      rw [Normal, hnil] at hnormal
      exact hroot hnormal.symm
    rw [containsPath_iff hpoint.isName hne hnormal.symm hpath]
    exact ⟨fun h => ⟨h, fun heq => absurd heq hroot⟩, fun h => h.1⟩

/-- More names make a longer text. -/
theorem length_absolute_lt {point rest : List Text} (hrest : rest ≠ [])
    (h : ∀ name ∈ point ++ rest, IsName slash name) :
    (absolute slash point).length < (absolute slash (point ++ rest)).length := by
  have hne : point ++ rest ≠ [] := List.append_ne_nil_of_right_ne_nil _ hrest
  have hlong := one_lt_length_written h hne
  rw [absolute, absolute, if_neg hne]
  split
  case isTrue => exact hlong
  case isFalse =>
    have hrest := one_lt_length_written (fun name hname => h name (List.mem_append_right _ hname)) hrest
    rw [written_append, List.length_append]
    omega

/-- **The mount that is found** has the longest mount point that covers the path; only the root mount can be
    missed. -/
theorem TableSound.findMount {mounts : List FilesystemMount} (h : TableSound mounts)
    (hpath : ∀ name ∈ path, IsName slash name) :
    match PathResolver.findMount (absolute slash path) mounts with
    | none => ∀ mount ∈ mounts, pointNames mount.mountPoint <+: path → mount.mountPoint = [slash] ∧ path ≠ []
    | some mount => mount ∈ mounts ∧ mount.containsPath (absolute slash path) = true ∧
        LongestPrefix (mounts.map fun mount => pointNames mount.mountPoint) path (pointNames mount.mountPoint) := by
  have hcovers : ∀ mount ∈ mounts, (mount.mounted && mount.containsPath (absolute slash path)) = true ↔
      pointNames mount.mountPoint <+: path ∧ (mount.mountPoint = [slash] → path = []) := by
    intro mount hmount
    rw [h.mounted mount hmount, Bool.true_and]
    exact containsPath_normal (h.normal mount hmount) hpath
  have hspec := scanLongest_start (·.mountPoint.length)
    (fun mount => mount.mounted && mount.containsPath (absolute slash path)) mounts
  rw [show scanLongest _ _ none 0 mounts = PathResolver.findMount (absolute slash path) mounts from rfl] at hspec
  cases hscan : PathResolver.findMount (absolute slash path) mounts with
  | none =>
      rw [hscan] at hspec
      intro mount hmount hbegins
      by_contra hmissed
      have hzero := hspec mount hmount ((hcovers mount hmount).mpr ⟨hbegins, fun heq => by
        by_contra hne
        exact hmissed ⟨heq, hne⟩⟩)
      have hnormal := h.normal mount hmount
      rw [Normal, List.length_eq_zero_iff.mp hzero] at hnormal
      exact absurd hnormal (by decide)
  | some mount =>
      rw [hscan] at hspec
      obtain ⟨hmem, hcover, hmax⟩ := hspec
      obtain ⟨hbegins, hroot⟩ := (hcovers mount hmem).mp hcover
      refine ⟨hmem, (Bool.and_eq_true_iff.mp hcover).2, List.mem_map_of_mem hmem, hbegins, ?_⟩
      intro names hnames hother
      obtain ⟨other, hmem', rfl⟩ := List.mem_map.mp hnames
      refine Nat.not_lt.mp fun hlt => ?_
      -- a longer prefix goes on from the shorter one, so its text is longer as well
      obtain ⟨rest, hrest⟩ := List.prefix_of_prefix_length_le hbegins hother (Nat.le_of_lt hlt)
      have hne : rest ≠ [] := by
        rintro rfl
        rw [← hrest, List.append_nil] at hlt
        exact Nat.lt_irrefl _ hlt
      have hcover' : (other.mounted && other.containsPath (absolute slash path)) = true := by
        refine (hcovers other hmem').mpr ⟨hother, fun heq => ?_⟩
        have hnil : pointNames other.mountPoint = [] := by rw [heq]; rfl
        rw [hnil] at hlt
        exact absurd hlt (Nat.not_lt_zero _)
      have hle := hmax other hmem' hcover'
      have htext := length_absolute_lt hne (by rw [hrest]; exact (settled_pointNames _).isName)
      rw [hrest, (h.normal mount hmem : absolute slash _ = _), (h.normal other hmem' : absolute slash _ = _)] at htext
      omega

/-! ## Resolution -/

/-- What a resolved path has to be. -/
structure Selects (mounts : List FilesystemMount) (normalizedPath : Text) (result : ResolvedPath)
    (mount : FilesystemMount) : Prop where
  mount_eq : result.mount = some mount
  mem : mount ∈ mounts
  longest : LongestPrefix (mounts.map fun mount => pointNames mount.mountPoint) (split normalizedPath)
    (pointNames mount.mountPoint)
  remaining : ∃ rest, split normalizedPath = pointNames mount.mountPoint ++ rest ∧
    result.filesystemPath = absolute slash rest
  joined : absolute slash (split mount.mountPoint ++ split result.filesystemPath) = normalizedPath

/-- A result is valid exactly if a mount covers the path, and then selects one. -/
def ResolvesAs (mounts : List FilesystemMount) (normalizedPath : Text) (result : ResolvedPath) : Prop :=
  (result.valid = true ↔ normalizedPath ≠ [] ∧ ∃ mount ∈ mounts, Covers mount normalizedPath) ∧
    (result.valid = true → ∃ mount, Selects mounts normalizedPath result mount)

/-- **Resolution by the longest mount point.** -/
def ResolvesLongest (manager : VirtualDiskManager) (guestPath currentDir : Text) : Prop :=
  ResolvesAs manager.mounts (({} : PathResolver).normalize guestPath currentDir)
    (manager.resolvePath guestPath currentDir)

/-- A result that is not valid is right exactly if nothing covers the path. -/
theorem resolvesAs_invalid {mounts : List FilesystemMount} {normalizedPath : Text} {result : ResolvedPath}
    (h : result.valid = false) :
    ResolvesAs mounts normalizedPath result ↔
      (normalizedPath ≠ [] → ¬ ∃ mount ∈ mounts, Covers mount normalizedPath) := by
  rw [ResolvesAs, h]
  exact ⟨fun hiff hne hcovers => absurd (hiff.1.mpr ⟨hne, hcovers⟩) nofun,
    fun hnone => ⟨⟨nofun, fun hcovers => absurd hcovers.2 (hnone hcovers.1)⟩, nofun⟩⟩

/-- Where a mount covers the path, the path is short enough, and it is the root itself or a mount other than the
    root's covers it. -/
def Served (mounts : List FilesystemMount) (normalizedPath : Text) : Prop :=
  normalizedPath ≠ [] → (∃ mount ∈ mounts, Covers mount normalizedPath) →
    normalizedPath.length ≤ 4096 ∧
      (normalizedPath = [slash] ∨ ∃ mount ∈ mounts, mount.mountPoint ≠ [slash] ∧ Covers mount normalizedPath)

theorem absolute_eq_slash (h : ∀ name ∈ path, IsName slash name) : absolute slash path = [slash] ↔ path = [] := by
  refine ⟨fun heq => ?_, fun heq => if_pos heq⟩
  by_contra hne
  have hlong := one_lt_length_written h hne
  rw [absolute, if_neg hne] at heq
  rw [heq] at hlong
  exact absurd hlong (by decide)

/-- **Which paths a sound table resolves.** -/
theorem TableSound.resolvesLongest_iff (h : TableSound manager.mounts) (guestPath currentDir : Text) :
    ResolvesLongest manager guestPath currentDir ↔
      Served manager.mounts (({} : PathResolver).normalize guestPath currentDir) := by
  unfold ResolvesLongest VirtualDiskManager.resolvePath
  rcases normalize_cases guestPath currentDir with hnil | ⟨path, hnormal, hsettled, hvalid, hdepth⟩
  · rw [resolvesAs_invalid (by rw [resolve, if_pos hnil])]
    exact ⟨fun _ hne => absurd hnil hne, fun _ hne => absurd hnil hne⟩
  have hpath := hsettled.isName
  have hsplit : split (absolute slash path) = path := names_absolute hpath
  have hne : absolute slash path ≠ [] := absolute_ne_nil path
  have hvalidate := validate_absolute hsettled hvalid hdepth
  unfold resolve
  rw [hnormal, if_neg hne, hvalidate]
  by_cases hlong : 4096 < (absolute slash path).length
  · -- a path that is too long is refused even where a mount covers it
    rw [if_pos hlong]
    refine (resolvesAs_invalid rfl).trans ⟨fun hnone hne hcovers => absurd hcovers (hnone hne), fun hserved _ hcovers => ?_⟩
    exact absurd (hserved hne hcovers).1 (Nat.not_le.mpr hlong)
  rw [if_neg hlong]
  dsimp only
  have hfind := h.findMount hpath
  cases hmount : PathResolver.findMount (absolute slash path) manager.mounts with
  | none =>
      rw [hmount] at hfind
      refine (resolvesAs_invalid rfl).trans
        ⟨fun hnone hne hcovers => absurd hcovers (hnone hne), fun hserved _ hcovers => ?_⟩
      rcases (hserved hne hcovers).2 with hroot | ⟨mount, hmem, hother, hcover⟩
      · obtain ⟨mount, hmem, hcover⟩ := hcovers
        rw [Covers, hsplit] at hcover
        exact (hfind mount hmem hcover).2 ((absolute_eq_slash hpath).mp hroot)
      · rw [Covers, hsplit] at hcover
        exact hother (hfind mount hmem hcover).1
  | some mount =>
      rw [hmount] at hfind
      obtain ⟨hmem, hcontains, hlongest⟩ := hfind
      obtain ⟨hbegins, hroot⟩ := (containsPath_normal (h.normal mount hmem) hpath).mp hcontains
      obtain ⟨rest, hrest⟩ := hbegins
      have htranslate : mount.translatePath (absolute slash path) = absolute slash rest := by
        rw [← hrest] at hpath hcontains ⊢
        exact translatePath_eq (h.normal mount hmem).symm hpath hcontains
      have hrestNames : ∀ name ∈ rest, IsName slash name := by
        intro name hname
        exact hpath name (hrest ▸ List.mem_append_right _ hname)
      have hcovered : ∃ mount ∈ manager.mounts, Covers mount (absolute slash path) :=
        ⟨mount, hmem, by rw [Covers, hsplit, ← hrest]; exact List.prefix_append _ _⟩
      dsimp only
      rw [htranslate]
      constructor
      · intro _ _ _
        refine ⟨Nat.not_lt.mp hlong, ?_⟩
        by_cases hpoint : mount.mountPoint = [slash]
        · exact .inl ((absolute_eq_slash hpath).mpr (hroot hpoint))
        · exact .inr ⟨mount, hmem, hpoint, by rw [Covers, hsplit, ← hrest]; exact List.prefix_append _ _⟩
      · intro _
        refine ⟨⟨fun _ => ⟨hne, hcovered⟩, fun _ => decide_eq_true (absolute_ne_nil rest)⟩,
          fun _ => ⟨mount, rfl, hmem, ?_, ?_, ?_⟩⟩
        · rw [hsplit]
          exact hlongest
        · exact ⟨rest, by rw [hsplit, hrest], rfl⟩
        · have hpoint : split mount.mountPoint = pointNames mount.mountPoint := by
            rw [split, ← (h.normal mount hmem : absolute slash _ = _), names_absolute (settled_pointNames _).isName,
              pointNames_absolute (settled_pointNames _)]
          rw [hpoint, split, names_absolute hrestNames, hrest]

/-! ## Runs of mount calls -/

/-- A mount point that is normalised as it is kept, and that the table does not have under another spelling. -/
def PlainlySpelled (manager : VirtualDiskManager) (mountPoint : Text) : Prop :=
  Normal (FilesystemMount.normalizePath mountPoint) ∧
    (FilesystemMount.normalizePath mountPoint = mountPoint ∨
      ∀ mount ∈ manager.mounts, mount.mountPoint ≠ FilesystemMount.normalizePath mountPoint)

instance (manager : VirtualDiskManager) (mountPoint : Text) : Decidable (PlainlySpelled manager mountPoint) :=
  inferInstanceAs (Decidable (_ ∧ (_ ∨ ∀ mount ∈ manager.mounts, _)))

/-- A call that mounts a filesystem which can be mounted spells the mount point plainly. -/
def MountCall.Plain (manager : VirtualDiskManager) : MountCall → Prop
  | .mount mountPoint device filesystem =>
      (FilesystemMount.make mountPoint filesystem device).mount.1 = true → PlainlySpelled manager mountPoint
  | .mountById mountPoint deviceId filesystem =>
      (FilesystemMount.make mountPoint filesystem (manager.getDevice deviceId)).mount.1 = true →
        PlainlySpelled manager mountPoint
  | .unmount _ => True

theorem mounted_of_mount {mountPoint : Text}
    (h : (FilesystemMount.make mountPoint filesystem device).mount = (true, mount)) :
    mount.mountPoint = FilesystemMount.normalizePath mountPoint ∧ mount.mounted = true := by
  unfold FilesystemMount.mount FilesystemMount.make at h
  rw [if_neg nofun] at h
  split at h
  case h_1 =>
    split at h
    case isTrue => cases h
    case isFalse =>
      split at h
      case isTrue => cases h
      case isFalse =>
        cases h
        exact ⟨rfl, rfl⟩
  case h_2 => cases h

theorem TableSound.perm {mounts mounts' : List FilesystemMount} (h : TableSound mounts) (hperm : mounts'.Perm mounts) :
    TableSound mounts' where
  mounted mount hmem := h.mounted mount (hperm.mem_iff.mp hmem)
  normal mount hmem := h.normal mount (hperm.mem_iff.mp hmem)
  distinct := (hperm.map _).nodup_iff.mpr h.distinct

/-- **One mount.** -/
theorem TableSound.mountAt (h : TableSound manager.mounts) {mountPoint : Text}
    (hplain : (FilesystemMount.make mountPoint filesystem device).mount.1 = true → PlainlySpelled manager mountPoint) :
    TableSound (manager.mount order mountPoint device filesystem).2.mounts := by
  unfold VirtualDiskManager.mount
  split
  case isTrue => exact h
  split
  case isTrue => exact h
  case isFalse hfind =>
    split
    case h_1 => exact h
    case h_2 mount hmount =>
      obtain ⟨hpoint, hmounted⟩ := mounted_of_mount hmount
      obtain ⟨hnormal, hspelled⟩ := hplain (by rw [hmount])
      have hnew : ∀ other ∈ manager.mounts, other.mountPoint ≠ FilesystemMount.normalizePath mountPoint := by
        rcases hspelled with hsame | hnew
        · rw [hsame]
          rw [Option.not_isSome_iff_eq_none, VirtualDiskManager.findMount, List.find?_eq_none] at hfind
          exact fun other hother heq => hfind other hother (beq_iff_eq.mpr heq)
        · exact hnew
      refine TableSound.perm ⟨?_, ?_, ?_⟩ (order.perm _)
      · exact List.forall_mem_append.mpr ⟨h.mounted, List.forall_mem_singleton.mpr hmounted⟩
      · exact List.forall_mem_append.mpr ⟨h.normal, List.forall_mem_singleton.mpr (hpoint ▸ hnormal)⟩
      · rw [List.map_append, List.map_singleton, hpoint]
        refine List.nodup_append.mpr ⟨h.distinct, List.nodup_singleton _, ?_⟩
        intro other hother point hpoint heq
        obtain ⟨mount, hmem, rfl⟩ := List.mem_map.mp hother
        exact hnew mount hmem (heq.trans (List.mem_singleton.mp hpoint))

theorem TableSound.unmount (h : TableSound manager.mounts) (mountPoint : Text) :
    TableSound (manager.unmount mountPoint).2.mounts := by
  unfold VirtualDiskManager.unmount
  split
  case h_1 => exact h
  case h_2 =>
    have hsublist := manager.mounts.eraseP_sublist (p := fun mount => mount.mountPoint == mountPoint)
    exact ⟨fun mount hmem => h.mounted mount (hsublist.subset hmem), fun mount hmem => h.normal mount (hsublist.subset hmem),
      h.distinct.sublist (hsublist.map _)⟩

/-- **One call.** -/
theorem tableSound_step (manager : VirtualDiskManager) (call : MountCall) (h : TableSound manager.mounts)
    (hplain : call.Plain manager) : TableSound (call.step order manager).mounts := by
  cases call with
  | mount mountPoint device filesystem => exact h.mountAt order hplain
  | mountById mountPoint deviceId filesystem =>
      show TableSound (manager.mountById order mountPoint deviceId filesystem).2.mounts
      unfold VirtualDiskManager.mountById
      split
      case h_1 => exact h
      case h_2 device hdevice => exact h.mountAt order fun hmount => hplain (by rw [hdevice]; exact hmount)
  | unmount mountPoint => exact h.unmount mountPoint

theorem tableSound_nil : TableSound [] :=
  ⟨List.forall_mem_nil _, List.forall_mem_nil _, List.nodup_nil⟩

/-- **Resolution in a run.** Where every filesystem is mounted at a plainly spelled mount point, no two mounts have
    the same one, and a path is resolved by the longest exactly if it is served. -/
theorem resolution_run (devices : List (Text × StorageDevice)) {calls : List MountCall}
    (hcalls : EveryStep (MountCall.step order) MountCall.Plain { devices := devices } calls) :
    ((run (MountCall.step order) { devices := devices } calls).mounts.map fun mount =>
        pointNames mount.mountPoint).Nodup ∧
      ∀ guestPath currentDir, ResolvesLongest (run (MountCall.step order) { devices := devices } calls) guestPath
          currentDir ↔
        Served (run (MountCall.step order) { devices := devices } calls).mounts
          (({} : PathResolver).normalize guestPath currentDir) := by
  have h := run_invariant (fun manager => TableSound manager.mounts) (tableSound_step order)
    (tableSound_nil : TableSound ({ devices := devices } : VirtualDiskManager).mounts) hcalls
  refine ⟨List.Nodup.of_map (absolute slash) ?_, h.resolvesLongest_iff⟩
  have hpoints : ∀ mount ∈ (run (MountCall.step order) { devices := devices } calls).mounts,
      (absolute slash ∘ fun mount => pointNames mount.mountPoint) mount = mount.mountPoint := h.normal
  rw [List.map_map, List.map_congr_left hpoints]
  exact h.distinct

/-- A stable sort is one of the orders. -/
def stableSort : MountSort where
  sort mounts := mounts.insertionSort fun a b => b.mountPoint.length ≤ a.mountPoint.length
  perm mounts := List.perm_insertionSort _ mounts
  sorted mounts := by
    have htrans : IsTrans FilesystemMount fun a b => b.mountPoint.length ≤ a.mountPoint.length :=
      ⟨fun _ _ _ h h' => Nat.le_trans h' h⟩
    have htotal : Std.Total fun a b : FilesystemMount => b.mountPoint.length ≤ a.mountPoint.length :=
      ⟨fun _ _ => Nat.le_total _ _⟩
    exact List.pairwise_insertionSort _ mounts

def memoryDisk : StorageDevice := { deviceId := text "mem0", isConnected := true, connect := true }

def anyFilesystem : Filesystem := ⟨fun _ => true⟩

/-- A mount in a mount, one by the name of its device, and one that goes again. -/
def someMounts : List MountCall :=
  [.mount (text "/mnt") (some memoryDisk) (some anyFilesystem),
    .mountById (text "/mnt/disk0") (text "mem0") (some anyFilesystem),
    .mount (text "/data") (some memoryDisk) (some anyFilesystem), .unmount (text "/data")]

theorem resolution_run_someMounts :
    ((run (MountCall.step stableSort) { devices := [(text "mem0", memoryDisk)] } someMounts).mounts.map fun mount =>
        pointNames mount.mountPoint).Nodup ∧
      ∀ guestPath currentDir,
        ResolvesLongest (run (MountCall.step stableSort) { devices := [(text "mem0", memoryDisk)] } someMounts)
            guestPath currentDir ↔
          Served (run (MountCall.step stableSort) { devices := [(text "mem0", memoryDisk)] } someMounts).mounts
            (({} : PathResolver).normalize guestPath currentDir) :=
  resolution_run stableSort [(text "mem0", memoryDisk)] (by
    refine ⟨fun _ => ?_, fun _ => ?_, fun _ => ?_, trivial, trivial⟩ <;> decide +kernel)

/-- A manager with a root mount alone. -/
def rootMounted : VirtualDiskManager :=
  run (MountCall.step stableSort) {} [.mount (text "/") (some memoryDisk) (some anyFilesystem)]

/-- **A root mount** covers every path and resolves none but the root. -/
theorem root_unresolved : ¬ ∀ guestPath currentDir, ResolvesLongest rootMounted guestPath currentDir := by
  intro h
  obtain ⟨hvalid, -⟩ := h (text "/etc") (text "/")
  have hcovered : ∃ mount ∈ rootMounted.mounts, Covers mount (({} : PathResolver).normalize (text "/etc") (text "/")) :=
    ⟨_, List.mem_cons_self, List.nil_prefix⟩
  have hresolved := hvalid.mpr ⟨by decide +kernel, hcovered⟩
  exact absurd hresolved (by decide +kernel)

end GuideXOS.Storage
