import HarvesterCSI.Cluster
import Mathlib.Data.List.Infix

/-!
# The operating system of a guest node

What the node server asks of the node it runs on: the links to its disks, files and
directories, mounts, and the tools that grow a filesystem. Calls to the host go to
the same API server as those of the controller.

Paths are clean ones. What is on a device or an export is not kept track of, so a path
is looked up as if nothing were mounted above it. Nothing is refused for being a file
where a directory is expected: neither a directory whose parent is a file nor the mount
of one on the other. The namespaces of the node and of the driver have the same mounts.
-/

namespace HarvesterCSI

open Calls

/-- An error of the system or of a tool, with what the tool has printed. `corrupted`
says that it is one of those which a stale mount gives. -/
structure OsError where
  message : String
  notExist : Bool := false
  corrupted : Bool := false
  output : String := ""
  deriving DecidableEq, Repr

structure Mount where
  source : String
  target : String
  fsType : String := ""
  options : List String := []
  deriving DecidableEq, Repr

/-- The second path lies in the directory that the first one is. -/
def below (dir path : String) : Bool := dir.toList ++ ['/'] <+: path.toList

def ancestors (path : String) : List String :=
  (path.toList.inits.map String.ofList).filter fun dir => dir ≠ "" && below dir path

/-- `filepath.Dir` of a clean path. -/
def filepathDir (path : String) : String :=
  match path.toList.reverse.dropWhile (· ≠ '/') with
  | [] => "."
  | ['/'] => "/"
  | _ :: rest => String.ofList rest.reverse

theorem filepathDir_cases (path : String) :
    filepathDir path = "." ∨ (filepathDir path).toList <+: path.toList := by
  have hsuffix :=
    List.dropWhile_suffix (fun c : Char => decide (c ≠ '/')) (l := path.toList.reverse)
  unfold filepathDir
  split
  · exact .inl rfl
  · next h =>
    rw [h] at hsuffix
    exact .inr (by simpa using List.reverse_prefix.mpr hsuffix)
  · next slash rest _ h =>
    rw [h] at hsuffix
    have hrest : rest <:+ path.toList.reverse := (List.suffix_cons slash rest).trans hsuffix
    exact .inr (by simpa using List.reverse_prefix.mpr hrest)

theorem below_of_filepathDir {dir path : String} (h : below dir (filepathDir path) = true) :
    below dir path = true := by
  simp only [below, decide_eq_true_eq] at h ⊢
  rcases filepathDir_cases path with hdot | hprefix
  · rw [hdot] at h
    obtain ⟨rest, hrest⟩ := h
    have hslash : '/' ∈ (".").toList := hrest ▸ by simp
    simp at hslash
  · exact h.trans hprefix

theorem mem_ancestors {dir path : String} (h : dir ∈ ancestors path) : below dir path = true := by
  simp only [ancestors, List.mem_filter, Bool.and_eq_true] at h
  exact h.2.2

theorem below_trans {a b c : String} (hab : below a b = true) (hbc : below b c = true) :
    below a c = true := by
  simp only [below, decide_eq_true_eq] at hab hbc ⊢
  exact hab.trans ((List.prefix_append b.toList ['/']).trans hbc)

def deviceByIDDirectory : String := "/dev/disk/by-id/"

inductive HostCommand
  /-- `mount -t fsType -o options source target` -/
  | mount (fsType options source target : String)
  | mountpoint (path : String)
  | umount (path : String)
  deriving DecidableEq, Repr

def HostCommand.words : HostCommand → List String
  | .mount fsType options source target => ["mount", "-t", fsType, "-o", options, source, target]
  | .mountpoint path => ["mountpoint", path]
  | .umount path => ["umount", path]

inductive NodeOp
  | host (op : Op)
  | readDir (path : String)
  | evalSymlinks (path : String)
  | pathExists (path : String)
  | mkdirAll (path : String)
  | makeFile (path : String)
  | remove (path : String)
  /-- Whether the path is a directory. -/
  | stat (path : String)
  | isMountPoint (path : String)
  | isLikelyNotMountPoint (path : String)
  | mount (m : Mount)
  /-- Formats the source first if there is no filesystem on it. -/
  | formatAndMount (m : Mount)
  /-- `mount.New`, and what its `CanSafelySkipMountPointCheck` says. -/
  | newMounter
  | unmount (path : String)
  | command (name arg : String)
  /-- `NewExecutorWithNS`. -/
  | newExecutor
  /-- `Execute` of such an executor, with what the command prints. -/
  | execute (cmd : HostCommand)

@[reducible] def NodeOp.Res : NodeOp → Type
  | .host op => op.Res
  | .readDir _ => Except OsError (List String)
  | .evalSymlinks _ => Except OsError String
  | .pathExists _ | .stat _ | .isMountPoint _ | .isLikelyNotMountPoint _ => Except OsError Bool
  | .newMounter => Bool
  | .execute _ => Except OsError String
  | _ => Except OsError Unit

abbrev NodeApi := Prog NodeOp NodeOp.Res Err

abbrev sys (op : NodeOp) : NodeApi op.Res := Prog.request op

structure DeviceLink where
  name : String
  target : String
  deriving DecidableEq, Repr

theorem passesOver_of_checks {reports : Bool} (h : false = true) : reports = false :=
  absurd h Bool.false_ne_true

structure Tools where
  /-- A path that is mounted already does not take a filesystem again. -/
  refusesRemount : Bool := false
  /-- To unmount a path that is not mounted is an error. -/
  unmountReports : Bool := false
  /-- The mounter knows that it passes over this error. -/
  skipsCheck : Bool := false
  passesOver : skipsCheck = true → unmountReports = false := by exact passesOver_of_checks

/-- The links are those of `/dev/disk/by-id`, in the order in which `os.ReadDir` lists
them. The newest mount comes first. -/
structure Guest where
  links : List DeviceLink
  sorted : (links.map DeviceLink.name).Pairwise (· < ·)
  dirs : List String := []
  files : List String := []
  mounts : List Mount := []
  tools : Tools := {}

namespace Guest

def empty : Guest where
  links := []
  sorted := .nil

def noSuchFile (path : String) : OsError where
  message := path ++ ": no such file or directory"
  notExist := true

def mounted (g : Guest) (path : String) : Bool := g.mounts.any (·.target = path)

def present (g : Guest) (path : String) : Prop := path ∈ g.dirs ∨ path ∈ g.files

instance (g : Guest) (path : String) : Decidable (g.present path) :=
  inferInstanceAs (Decidable (_ ∨ _))

def unmounted (g : Guest) (path : String) : Guest :=
  { g with mounts := g.mounts.eraseP (·.target = path) }

/-- A mount of the path hides the others on it, and is in use by those that were made on
a path in it since. -/
def busy (g : Guest) (path : String) : Bool :=
  g.mounted path && (g.mounts.takeWhile (·.target ≠ path)).any (below path ·.target)

def occupied (g : Guest) (path : String) : Bool := (g.dirs ++ g.files).any (below path)

/-- What a mount can be made from: a path, or a disk. -/
def hasSource (g : Guest) (source : String) : Prop :=
  g.present source ∨ source ∈ g.links.map DeviceLink.target

instance (g : Guest) (source : String) : Decidable (g.hasSource source) :=
  inferInstanceAs (Decidable (_ ∨ _))

def madeDir (g : Guest) (path : String) : Guest :=
  { g with dirs := (path :: ancestors path) ∪ g.dirs }

def mountFailed (m : Mount) (reason : String) : OsError where
  message := "mount failed: exit status 32\nMounting command: mount\nMounting arguments: " ++
    " ".intercalate ((if m.fsType = "" then [] else ["-t", m.fsType]) ++
      (if m.options = [] then [] else ["-o", ",".intercalate m.options]) ++ [m.source, m.target]) ++
    "\nOutput: mount: " ++ m.target ++ ": " ++ reason ++ ".\n"

def attach (g : Guest) (m : Mount) : Except OsError Unit × Guest :=
  if ¬ g.present m.target then (.error (mountFailed m "mount point does not exist"), g)
  else if ¬ g.hasSource m.source then
    (.error (mountFailed m ("special device " ++ m.source ++ " does not exist")), g)
  else (.ok (), { g with mounts := m :: g.mounts })

def unmountFailed (path reason : String) : OsError where
  message := "unmount failed: exit status 32\nUnmounting arguments: " ++ path ++
    "\nOutput: umount: " ++ path ++ ": " ++ reason ++ ".\n"

def executeFailed (cmd : HostCommand) (status output stderr : String) : OsError where
  message := "failed to execute: nsenter [--mount=/proc/1/ns/mnt --net=/proc/1/ns/net " ++
    "--ipc=/proc/1/ns/ipc " ++ " ".intercalate cmd.words ++ "], output " ++ output ++
    ", stderr " ++ stderr ++ ": " ++ status

def execute (g : Guest) : HostCommand → Except OsError String × Guest
  | .mount fsType options source target =>
    if ¬ g.present target then
      (.error (executeFailed (.mount fsType options source target) "exit status 32" ""
        ("mount.nfs: mount point " ++ target ++ " does not exist\n")), g)
    else if g.mounted target ∧ g.tools.refusesRemount then
      (.error (executeFailed (.mount fsType options source target) "exit status 32" ""
        ("mount.nfs: " ++ target ++ " is busy or already mounted\n")), g)
    else (.ok "", { g with mounts := ⟨source, target, fsType, [options]⟩ :: g.mounts })
  | .mountpoint path =>
    if g.mounted path then (.ok (path ++ " is a mountpoint\n"), g)
    else if g.present path then
      (.error
        (executeFailed (.mountpoint path) "exit status 32" (path ++ " is not a mountpoint\n") ""),
        g)
    else
      (.error (executeFailed (.mountpoint path) "exit status 1" ""
        ("mountpoint: " ++ path ++ ": No such file or directory\n")), g)
  | .umount path =>
    if g.busy path then
      (.error (executeFailed (.umount path) "exit status 32" ""
        ("umount: " ++ path ++ ": target is busy.\n")), g)
    else if g.mounted path then (.ok "", g.unmounted path)
    else
      (.error (executeFailed (.umount path) "exit status 32" ""
        ("umount: " ++ path ++ ": not mounted.\n")), g)

/-- A node on which everything works. -/
def serve : (op : NodeOp) → Cluster × Guest → op.Res × (Cluster × Guest)
  | .host op, (c, g) => ((Cluster.serve op c).1, (Cluster.serve op c).2, g)
  | .readDir path, (c, g) =>
    (if path = deviceByIDDirectory then .ok (g.links.map DeviceLink.name)
      else .error (noSuchFile path), c, g)
  | .evalSymlinks path, (c, g) =>
    (match g.links.find? (deviceByIDDirectory ++ ·.name = path) with
      | some link => .ok link.target
      | none => .error (noSuchFile path), c, g)
  | .pathExists path, (c, g) => (.ok (path ∈ g.dirs ∨ path ∈ g.files : Bool), c, g)
  | .mkdirAll path, (c, g) => (.ok (), c, g.madeDir path)
  | .makeFile path, (c, g) =>
    -- `open` with O_CREATE fails on a directory, which `os.IsExist` does not pass over
    if path ∈ g.dirs then (.error { message := "open " ++ path ++ ": is a directory" }, c, g)
    else if filepathDir path ∉ g.dirs then (.error (noSuchFile ("open " ++ path)), c, g)
    else (.ok (), c, { g with files := g.files.insert path })
  | .remove path, (c, g) =>
    if ¬ g.present path then (.error (noSuchFile path), c, g)
    else if g.mounted path then
      (.error { message := "remove " ++ path ++ ": device or resource busy" }, c, g)
    else if g.occupied path then
      (.error { message := "remove " ++ path ++ ": directory not empty" }, c, g)
    else
      (.ok (), c,
        { g with dirs := g.dirs.filter (· ≠ path), files := g.files.filter (· ≠ path) })
  | .stat path, (c, g) =>
    (if path ∈ g.dirs then .ok true
      else if path ∈ g.files then .ok false
      else .error (noSuchFile path), c, g)
  | .isMountPoint path, (c, g) =>
    (if path ∈ g.dirs ∨ path ∈ g.files then .ok (g.mounted path) else .error (noSuchFile path),
      c, g)
  | .isLikelyNotMountPoint path, (c, g) =>
    (if path ∈ g.dirs ∨ path ∈ g.files then .ok (!g.mounted path) else .error (noSuchFile path),
      c, g)
  | .mount m, (c, g) | .formatAndMount m, (c, g) => ((g.attach m).1, c, (g.attach m).2)
  | .newMounter, (c, g) => (g.tools.skipsCheck, c, g)
  | .unmount path, (c, g) =>
    if g.busy path then (.error (unmountFailed path "target is busy"), c, g)
    else if g.mounted path then (.ok (), c, g.unmounted path)
    else if ¬ g.present path then (.error (unmountFailed path "no mount point specified"), c, g)
    else if g.tools.unmountReports then (.error (unmountFailed path "not mounted"), c, g)
    else (.ok (), c, g)
  | .command .., s | .newExecutor, s => (.ok (), s)
  | .execute cmd, (c, g) => ((g.execute cmd).1, c, (g.execute cmd).2)

end Guest

end HarvesterCSI
