import GuideXOS.Core.Text
import GuideXOS.Lib.Paths
import Mathlib.Data.List.Sort

/-!
# `PathResolver` — guest paths, mounts and the manager's mount table

Three pieces of code read a path. The resolver normalises the guest path and checks it; a mount keeps its mount
point with the slashes at its ends trimmed and nothing else, and tells by text whether it contains a path; the
manager compares the mount point it is given, as it is given, with those that are kept.

* A device and a filesystem are given by what they answer when they are connected and mounted.
* Of the options of a mount and its statistics nothing is read here.
-/

namespace GuideXOS.Storage
open Lib.Paths Core

def slash : UInt8 := 0x2F

/-! ## Mounts -/

structure StorageDevice where
  deviceId : Text
  isConnected : Bool
  connect : Bool
  deriving DecidableEq

structure Filesystem where
  mount : StorageDevice → Bool

structure FilesystemMount where
  mountPoint : Text
  filesystem : Option Filesystem
  device : Option StorageDevice
  mounted : Bool

namespace FilesystemMount

/-- Slashes at the front go, except for a last character. -/
def dropSlashes : Text → Text
  | c :: d :: rest => if c = slash then dropSlashes (d :: rest) else c :: d :: rest
  | short => short

/-- Trailing slashes go, except for the root's. -/
def trimSlashes (path : Text) : Text := (dropSlashes path.reverse).reverse

/-- **`normalizePath`**: a leading slash, and no trailing ones. -/
def normalizePath (path : Text) : Text :=
  if path = [] then [slash]
  else trimSlashes (if path.head? = some slash then path else slash :: path)

/-- The constructor. -/
def make (mountPoint : Text) (filesystem : Option Filesystem) (device : Option StorageDevice) : FilesystemMount where
  mountPoint := normalizePath mountPoint
  filesystem := filesystem
  device := device
  mounted := false

def mount (mount : FilesystemMount) : Bool × FilesystemMount :=
  if mount.mounted then (true, mount)
  else
    match mount.filesystem, mount.device with
    | some filesystem, some device =>
        if !device.isConnected && !device.connect then (false, mount)
        else if !filesystem.mount device then (false, mount)
        else (true, { mount with mounted := true })
    | _, _ => (false, mount)

/-- **`containsPath`**, by text. -/
def containsPath (mount : FilesystemMount) (guestPath : Text) : Bool :=
  let normalizedGuest := normalizePath guestPath
  if normalizedGuest.length < mount.mountPoint.length then false
  else if normalizedGuest = mount.mountPoint then true
  else if normalizedGuest.take mount.mountPoint.length = mount.mountPoint then
    normalizedGuest.length == mount.mountPoint.length || normalizedGuest[mount.mountPoint.length]? == some slash
  else false

def translatePath (mount : FilesystemMount) (guestPath : Text) : Text :=
  if !mount.containsPath guestPath then []
  else
    let normalizedGuest := normalizePath guestPath
    if normalizedGuest = mount.mountPoint then [slash]
    else
      let relative := normalizedGuest.drop mount.mountPoint.length
      if relative = [] ∨ relative.head? ≠ some slash then slash :: relative else relative

end FilesystemMount

/-! ## The resolver -/

structure ResolvedPath where
  valid : Bool := false
  normalizedPath : Text := []
  filesystemPath : Text := []
  mount : Option FilesystemMount := none
  errorMessage : Text := []

structure ValidationOptions where
  allowParentRefs : Bool := true
  maxPathLength : UInt32 := 4096
  maxDepth : UInt32 := 128

structure PathResolver where
  options : ValidationOptions := {}

namespace PathResolver

def isAbsolute (path : Text) : Bool := path.head? == some slash

def containsMaliciousChars (path : Text) : Bool := path.contains 0

def isValidComponent (component : Text) : Bool := !component.isEmpty && !component.contains 0

def join (base component : Text) : Text :=
  if base = [] then component
  else if component = [] then base
  else if isAbsolute component then component
  else if base.getLast? = some slash then base ++ component
  else base ++ [slash] ++ component

def split (path : Text) : List Text := names slash path

def dot : Text := text "."

def dotDot : Text := text ".."

/-- The loop over the components. -/
def processComponents (options : ValidationOptions) : List Text → List Text → Option (List Text)
  | normalized, [] => some normalized
  | normalized, component :: rest =>
      if component = [] ∨ component = dot then processComponents options normalized rest
      else if component = dotDot then
        if options.allowParentRefs then processComponents options normalized.dropLast rest else none
      else if isValidComponent component then processComponents options (normalized ++ [component]) rest
      else none

/-- The normalised path: the components after a slash each, or the root. -/
def build (normalized : List Text) : Text :=
  if normalized = [] then [slash] else slash :: List.intercalate [slash] normalized

variable (resolver : PathResolver)

/-- **`normalize`**: the absolute path, or nothing where it is refused. -/
def normalize (path currentDir : Text) : Text :=
  if path = [] then []
  else if containsMaliciousChars path then []
  else if resolver.options.maxPathLength.toNat < path.length then []
  else
    match processComponents resolver.options [] (split (if isAbsolute path then path else join currentDir path)) with
    | none => []
    | some normalized => if resolver.options.maxDepth.toNat < normalized.length then [] else build normalized

/-- **`escapesRoot`**, by text. -/
def escapesRoot (path root : Text) : Bool :=
  let normalizedPath := resolver.normalize path [slash]
  let normalizedRoot := resolver.normalize root [slash]
  if normalizedPath = [] ∨ normalizedRoot = [] then true
  else if normalizedPath.length < normalizedRoot.length then true
  else if normalizedPath.take normalizedRoot.length ≠ normalizedRoot then true
  else normalizedRoot.length < normalizedPath.length ∧ normalizedRoot ≠ [slash] ∧
    normalizedPath[normalizedRoot.length]? ≠ some slash

/-- **`validate`**, with the message where it refuses. -/
def validate (path : Text) : Except Text Unit :=
  if path = [] then .error (text "Empty path")
  else if !isAbsolute path then .error (text "Path must be absolute")
  else if resolver.options.maxPathLength.toNat < path.length then .error (text "Path too long")
  else if containsMaliciousChars path then .error (text "Path contains invalid characters")
  else if resolver.options.maxDepth.toNat < (split path).length then .error (text "Path depth exceeds maximum")
  else
    match (split path).find? fun component => !isValidComponent component with
    | some component => .error (text "Invalid path component: " ++ component)
    | none => .ok ()

/-- **`findMount`**: of the mounts that contain the path, the first with the longest mount point. -/
def findMount (path : Text) (mounts : List FilesystemMount) : Option FilesystemMount :=
  scanLongest (·.mountPoint.length) (fun mount => mount.mounted && mount.containsPath path) none 0 mounts

/-- **`resolve`**. -/
def resolve (guestPath : Text) (mounts : List FilesystemMount) (currentDir : Text) : ResolvedPath :=
  let normalizedPath := resolver.normalize guestPath currentDir
  if normalizedPath = [] then { errorMessage := text "Invalid path: normalization failed" }
  else
    match resolver.validate normalizedPath with
    | .error errorMessage => { normalizedPath := normalizedPath, errorMessage := errorMessage }
    | .ok () =>
        match findMount normalizedPath mounts with
        | none => { normalizedPath := normalizedPath, errorMessage := text "No filesystem mounted at path" }
        | some mount =>
            let filesystemPath := mount.translatePath normalizedPath
            { valid := filesystemPath ≠ []
              normalizedPath := normalizedPath
              filesystemPath := filesystemPath
              mount := some mount
              errorMessage := if filesystemPath = [] then text "Path translation failed" else [] }

end PathResolver

/-! ## The manager -/

/-- A sort of the mounts by the length of their mount points, longest first; the order of mount points of the same
    length is not specified. -/
structure MountSort where
  sort : List FilesystemMount → List FilesystemMount
  perm : ∀ mounts, (sort mounts).Perm mounts
  sorted : ∀ mounts, (sort mounts).Pairwise fun a b => b.mountPoint.length ≤ a.mountPoint.length

structure VirtualDiskManager where
  devices : List (Text × StorageDevice) := []
  mounts : List FilesystemMount := []

namespace VirtualDiskManager

variable (manager : VirtualDiskManager)

def getDevice (deviceId : Text) : Option StorageDevice :=
  manager.devices.lookup deviceId

def findMount (mountPoint : Text) : Option FilesystemMount :=
  manager.mounts.find? fun mount => mount.mountPoint == mountPoint

def mount (order : MountSort) (manager : VirtualDiskManager) (mountPoint : Text) (device : Option StorageDevice)
    (filesystem : Option Filesystem) : Bool × VirtualDiskManager :=
  if device.isNone || filesystem.isNone then (false, manager)
  else if (manager.findMount mountPoint).isSome then (false, manager)
  else
    match (FilesystemMount.make mountPoint filesystem device).mount with
    | (false, _) => (false, manager)
    | (true, mount) => (true, { manager with mounts := order.sort (manager.mounts ++ [mount]) })

def mountById (order : MountSort) (manager : VirtualDiskManager) (mountPoint deviceId : Text)
    (filesystem : Option Filesystem) : Bool × VirtualDiskManager :=
  match manager.getDevice deviceId with
  | none => (false, manager)
  | some device => manager.mount order mountPoint (some device) filesystem

def unmount (mountPoint : Text) : Bool × VirtualDiskManager :=
  match manager.findMount mountPoint with
  | none => (false, manager)
  | some _ => (true, { manager with mounts := manager.mounts.eraseP fun mount => mount.mountPoint == mountPoint })

def resolvePath (guestPath currentDir : Text) : ResolvedPath :=
  ({} : PathResolver).resolve guestPath manager.mounts currentDir

end VirtualDiskManager

inductive MountCall
  | mount (mountPoint : Text) (device : Option StorageDevice) (filesystem : Option Filesystem)
  | mountById (mountPoint deviceId : Text) (filesystem : Option Filesystem)
  | unmount (mountPoint : Text)

def MountCall.step (order : MountSort) (manager : VirtualDiskManager) : MountCall → VirtualDiskManager
  | .mount mountPoint device filesystem => (manager.mount order mountPoint device filesystem).2
  | .mountById mountPoint deviceId filesystem => (manager.mountById order mountPoint deviceId filesystem).2
  | .unmount mountPoint => (manager.unmount mountPoint).2

end GuideXOS.Storage
