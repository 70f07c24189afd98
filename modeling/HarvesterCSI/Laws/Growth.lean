import HarvesterCSI.Laws.Mounts

/-!
# Growing a filesystem when it is mounted

A publish mounts the filesystem of a disk and then grows it to the size of the disk.
Either may fail, and the call is made again. A call that finds the filesystem mounted
is done, whether or not it has been grown.
-/

namespace HarvesterCSI

open Calls Calls.Prog

-- ---------------------------------------------------------------------------
-- Attempts
-- ---------------------------------------------------------------------------

structure PublishFaults where
  mount : Option OsError := none
  resize : Option OsError := none
  deriving DecidableEq, Repr

structure PublishAttempt where
  req : NodePublishRequest
  faults : PublishFaults := {}
  deriving DecidableEq, Repr

def Guest.faulty (f : PublishFaults) : (op : NodeOp) → Cluster × Guest → op.Res × (Cluster × Guest)
  | .formatAndMount m, s => match f.mount with
    | some e => (.error e, s)
    | none => Guest.serve (.formatAndMount m) s
  | .command name arg, s => match f.resize with
    | some e => (.error e, s)
    | none => Guest.serve (.command name arg) s
  | op, s => Guest.serve op s

/-- What a node was asked and answered, the newest first. -/
abbrev NodeLog := List (Exchange NodeOp NodeOp.Res)

def mountsAt (path : String) : Exchange NodeOp NodeOp.Res → Bool
  | ⟨.mount m, .ok _⟩ | ⟨.formatAndMount m, .ok _⟩ => m.target = path
  | ⟨.execute (.mount _ _ _ target), .ok _⟩ => target = path
  | _ => false

def resizes (device : String) : Exchange NodeOp NodeOp.Res → Bool
  | ⟨.command cmd arg, .ok _⟩ => (cmd = resize2fsCmd ∨ cmd = xfsGrowfsCmd) ∧ arg = device
  | _ => false

/-- The mount that is now at the path was the last one made there, and its device has
been grown since. -/
def Grown (path : String) (s : (Cluster × Guest) × NodeLog) : Prop :=
  ∃ m, s.1.2.mounts.find? (·.target = path) = some m ∧
    s.2.find? (mountsAt path) = some ⟨.formatAndMount m, .ok ()⟩ ∧
    (s.2.takeWhile (!mountsAt path ·)).any (resizes m.source) = true

namespace PublishAttempt

def run (ns : NodeServer) (a : PublishAttempt) (s : (Cluster × Guest) × NodeLog) :
    Outcome Err Unit × ((Cluster × Guest) × NodeLog) :=
  Calls.run (recorded (Guest.faulty a.faults)) (ns.nodePublishVolume a.req) s

/-- An answer of OK means that the filesystem has been grown. -/
def GrownIfOk (target : String) (_ : PublishAttempt) (o : Outcome Err Unit)
    (s : (Cluster × Guest) × NodeLog) : Prop :=
  o = .ok () → Grown target s

/-- A request to mount the volume at the target, with one of the filesystems that can
be grown. -/
structure For (volume target : String) (a : PublishAttempt) : Prop where
  volume : a.req.volumeId = volume
  target : a.req.targetPath = target
  capability : ∃ cap, a.req.volumeCapability = some cap ∧ cap.mode = .singleNodeWriter ∧
    cap.mount = true ∧ cap.block = false ∧
    (cap.fsType = "" ∨ cap.fsType = fsTypeExt4 ∨ cap.fsType = fsTypeXFS)

end PublishAttempt

structure PluggedIn (ns : NodeServer) (volume device : String) (s : Cluster × Guest) : Prop where
  ready : ∃ vmi, s.1.vmis.get (ns.ns, ns.nodeID) = some vmi ∧
  NodeServer.hotPlugDiskReady vmi volume = true
  found : run Guest.serve (getDevicePathByVolumeID volume) s = (.ok device, s)

-- ---------------------------------------------------------------------------
-- The phases of a mount
-- ---------------------------------------------------------------------------

inductive MountPhase
  | unmounted
  | ungrown
  | grown
  deriving DecidableEq, Repr

/-- A mount that was made without being grown stays so. -/
def growth : Machine PublishAttempt MountPhase where
  allows _ phase := phase ≠ .ungrown
  next a phase := match phase with
    | .unmounted =>
      if a.faults.mount.isSome then .unmounted
      else if a.faults.resize.isSome then .ungrown
      else .grown
    | phase => phase

/-- The first call that mounts the filesystem also grows it, or it is the last call. -/
def FirstMountGrows (attempts : List PublishAttempt) : Prop :=
  match attempts.dropWhile (·.faults.mount.isSome) with
  | a :: _ :: _ => a.faults.resize = none
  | _ => True

theorem growth_accepts_grown (attempts : List PublishAttempt) : growth.Accepts attempts .grown := by
  induction attempts with
  | nil => trivial
  | cons a rest ih => exact ⟨by simp [growth], ih⟩

theorem growth_accepts_iff {attempts : List PublishAttempt} :
    growth.Accepts attempts .unmounted ↔ FirstMountGrows attempts := by
  induction attempts with
  | nil => simp [Machine.Accepts, FirstMountGrows]
  | cons a rest ih =>
    have hcons :
        growth.Accepts (a :: rest) .unmounted ↔ growth.Accepts rest (growth.next a .unmounted) :=
      and_iff_right (by simp [growth])
    rw [hcons]
    cases hmount : a.faults.mount with
    | some e =>
      have hnext : growth.next a .unmounted = .unmounted := by simp [growth, hmount]
      rw [hnext, ih]
      simp [FirstMountGrows, hmount]
    | none =>
      cases hresize : a.faults.resize with
      | none =>
        have hnext : growth.next a .unmounted = .grown := by simp [growth, hmount, hresize]
        rw [hnext]
        refine iff_of_true (growth_accepts_grown rest) ?_
        cases rest <;> simp [FirstMountGrows, hmount, hresize]
      | some e =>
        have hnext : growth.next a .unmounted = .ungrown := by simp [growth, hmount, hresize]
        rw [hnext]
        cases rest with
        | nil => simp [Machine.Accepts, FirstMountGrows, hmount]
        | cons b rest => simp [Machine.Accepts, growth, FirstMountGrows, hmount, hresize]

-- ---------------------------------------------------------------------------
-- The record
-- ---------------------------------------------------------------------------

/-- The call neither mounts nor unmounts nor grows anything. -/
def NodeOp.plain (op : NodeOp) : Bool := op.quiet && op.device.isNone

section
variable {path : String} {e : Exchange NodeOp NodeOp.Res} {c : Cluster} {g g' : Guest}

theorem mountsAt_plain (h : e.op.plain = true) : mountsAt path e = false := by
  obtain ⟨op, r⟩ := e
  cases op <;> first | rfl | cases h

theorem resizes_plain (h : e.op.plain = true) : resizes path e = false := by
  obtain ⟨op, r⟩ := e
  cases op <;> first | rfl | cases h

theorem grown_plain {calls log : NodeLog} (hcalls : ∀ e ∈ calls, e.op.plain = true)
    (hmounts : g'.mounts = g.mounts) :
    Grown path ((c, g'), calls ++ log) ↔ Grown path ((c, g), log) := by
  have hfind : calls.find? (mountsAt path) = none :=
    List.find?_eq_none.mpr fun e he => by simp [mountsAt_plain (hcalls e he)]
  have hwhile :
      (calls ++ log).takeWhile (!mountsAt path ·) = calls ++ log.takeWhile (!mountsAt path ·) :=
    List.takeWhile_append_of_pos fun e he => by simp [mountsAt_plain (hcalls e he)]
  have hany (device : String) : calls.any (resizes device) = false :=
    List.any_eq_false.mpr fun e he => by simp [resizes_plain (hcalls e he)]
  simp only [Grown, hmounts, List.find?_append, hfind, Option.none_or, hwhile, List.any_append,
    hany, Bool.false_or]

end

-- ---------------------------------------------------------------------------
-- One call
-- ---------------------------------------------------------------------------

def growCmd (fsType : String) : String := if fsType = fsTypeExt4 then resize2fsCmd else xfsGrowfsCmd

theorem growCmd_cases (fsType : String) :
    growCmd fsType = resize2fsCmd ∨ growCmd fsType = xfsGrowfsCmd := by
  unfold growCmd
  split
  · exact .inl rfl
  · exact .inr rfl

section
variable {ns : NodeServer} {volume device target : String} {a : PublishAttempt} {f : PublishFaults}
  {c : Cluster} {g : Guest} {log : NodeLog}

theorem nodePublishVolume_eq (ns : NodeServer) (ha : a.For volume target) (htarget : target ≠ "") :
    ∃ fsType flags, (fsType = fsTypeExt4 ∨ fsType = fsTypeXFS) ∧
      ns.nodePublishVolume a.req = ns.readyDevice volume >>= fun device =>
        ns.nodePublishMountVolume volume device target fsType flags := by
  obtain ⟨rfl, rfl, cap, hcap, hmode, hmount, hblock, hfs⟩ := ha
  refine ⟨if cap.mountFsType = "" then "ext4" else cap.mountFsType, cap.mountFlags, ?_, ?_⟩
  · rcases hfs with h | h | h <;> simp [NodeCapability.mountFsType, hmount, h, fsTypeExt4,
      fsTypeXFS]
  · simp [NodeServer.nodePublishVolume, htarget, hcap, hmode, NodeServer.nodePublishRWOVolume,
      NodeServer.publishDevice, hblock, hmount]

theorem run_readyDevice (h : PluggedIn ns volume device (c, g)) :
    run Guest.serve (ns.readyDevice volume) (c, g) = (.ok device, c, g) := by
  obtain ⟨⟨vmi, hvmi, hready⟩, hfound⟩ := h
  simp [NodeServer.readyDevice, Guest.serve, Cluster.serve, hvmi, hready, run_orElse, hfound]

theorem readyDevice_plain (ns : NodeServer) (volume : String) :
    (ns.readyDevice volume).Uses (·.plain = true) :=
  readyDevice_uses (P := (·.plain = true)) ns rfl (fun _ => rfl) (fun _ => rfl) volume

theorem faulty_plain {op : NodeOp} (h : op.plain = true) (s : Cluster × Guest) :
    Guest.faulty f op s = Guest.serve op s := by
  cases op <;> first | rfl | cases h

theorem run_faulty_plain (f : PublishFaults) {p : NodeApi α} (hp : p.Uses (·.plain = true))
    (s : Cluster × Guest) (log : NodeLog) :
    ∃ calls, (∀ e ∈ calls, e.op.plain = true) ∧ run (recorded (Guest.faulty f)) p (s, log) =
      ((run Guest.serve p s).1, (run Guest.serve p s).2, calls ++ log) := by
  obtain ⟨calls, hcalls, hrun⟩ := run_recorded (Guest.faulty f) hp s log
  rw [run_congr hp (fun op s hop => faulty_plain hop s)] at hrun
  exact ⟨calls, hcalls, hrun⟩

theorem run_isLikelyNotMountPointAttach (hsound : g.Sound target) :
    ∃ g' : Guest, g'.mounts = g.mounts ∧ g'.links = g.links ∧ g'.present target ∧
      run Guest.serve (isLikelyNotMountPointAttach target) (c, g) =
        (.ok (!g.mounted target), c, g') := by
  by_cases hpresent : g.present target
  · refine ⟨g, rfl, rfl, hpresent, ?_⟩
    simp [isLikelyNotMountPointAttach, serve_isLikelyNotMountPoint hpresent]
  · refine ⟨g.madeDir target, rfl, rfl, g.present_madeDir target, ?_⟩
    have hmissing : ¬ (target ∈ g.dirs ∨ target ∈ g.files) := hpresent
    simp [isLikelyNotMountPointAttach, Guest.serve, hmissing, Guest.noSuchFile,
      hsound.bare hpresent]

/-- A publish looks for the device and at the path, and is done if that is mounted. -/
theorem run_to_mount (log : NodeLog) (ha : a.For volume target) (htarget : target ≠ "")
    (hplugged : PluggedIn ns volume device (c, g)) (hsound : g.Sound target) :
    ∃ (calls : NodeLog) (g' : Guest) (m : Mount),
      (∀ e ∈ calls, e.op.plain = true) ∧ g'.mounts = g.mounts ∧ g'.links = g.links ∧
        g'.present target ∧
      m.source = device ∧ m.target = target ∧ (m.fsType = fsTypeExt4 ∨ m.fsType = fsTypeXFS) ∧
      a.run ns ((c, g), log) =
        if g.mounted target then (.ok (), (c, g'), calls ++ log)
        else
          run (recorded (Guest.faulty a.faults)) (mountAndGrow volume m)
            ((c, g'), calls ++ log) := by
  obtain ⟨fsType, flags, hfs, hprog⟩ := nodePublishVolume_eq ns ha htarget
  obtain ⟨lookups, hlookups, hdevice⟩ := run_faulty_plain a.faults (readyDevice_plain ns volume)
    (c, g) log
  have hplain : (isLikelyNotMountPointAttach target).Uses (·.plain = true) :=
    isLikelyNotMountPointAttach_uses rfl rfl
  obtain ⟨checks, hchecks, hcheck⟩ := run_faulty_plain a.faults hplain (c, g) (lookups ++ log)
  obtain ⟨g', hmounts, hlinks, hpresent, hattach⟩ := run_isLikelyNotMountPointAttach (c := c) hsound
  refine ⟨checks ++ lookups, g', ⟨device, target, fsType, flags⟩, ?_, hmounts, hlinks, hpresent,
    rfl, rfl, hfs, ?_⟩
  · intro e he
    exact (List.mem_append.mp he).elim (hchecks e) (hlookups e)
  · rw [run_readyDevice hplugged] at hdevice
    rw [hattach] at hcheck
    rw [PublishAttempt.run, hprog, run_bind, hdevice]
    simp only [NodeServer.nodePublishMountVolume, run_bind, run_orElse, hcheck, List.append_assoc]
    cases g.mounted target <;> rfl

theorem mountAndGrow_unmounted {m : Mount} (hmount : f.mount = some e) :
    run (recorded (Guest.faulty f)) (mountAndGrow volume m) ((c, g), log) =
      (.error (.status .internal e.message), (c, g), ⟨.formatAndMount m, .error e⟩ :: log) := by
  simp [mountAndGrow, recorded, Guest.faulty, hmount]

theorem resizeFilesystem_eq (h : fsType = fsTypeExt4 ∨ fsType = fsTypeXFS) (device : String) :
    resizeFilesystem device fsType = resizeFilesystem.grow device (growCmd fsType) := by
  rcases h with rfl | rfl <;> rfl

theorem PluggedIn.device_mem (h : PluggedIn ns volume device (c, g)) :
    device ∈ g.links.map DeviceLink.target := by
  have hfound := h.found
  simp only [getDevicePathByVolumeID, request_bind, run_call, Guest.serve, if_true] at hfound
  cases hfile : (g.links.map DeviceLink.name).find? (containsText · volume) with
  | none =>
    rw [hfile] at hfound
    cases hfound
  | some file =>
    simp only [hfile, run_call, Guest.serve] at hfound
    cases hlink : g.links.find? (deviceByIDDirectory ++ ·.name = deviceByIDDirectory ++ file) with
    | none =>
      rw [hlink] at hfound
      cases hfound
    | some link =>
      simp only [hlink] at hfound
      split at hfound
      · cases hfound
      · cases hfound
        exact List.mem_map_of_mem (List.mem_of_find?_eq_some hlink)

theorem PluggedIn.attach {m : Mount} (h : PluggedIn ns volume device (c, g))
    (hm : m.source = device) (hpresent : g.present m.target) :
    g.attach m = (.ok (), { g with mounts := m :: g.mounts }) :=
  Guest.attach_eq hpresent (.inr (hm ▸ h.device_mem))

theorem mountAndGrow_ungrown {m : Mount} (hfs : m.fsType = fsTypeExt4 ∨ m.fsType = fsTypeXFS)
    (hattach : g.attach m = (.ok (), { g with mounts := m :: g.mounts })) (hmount : f.mount = none)
    (hresize : f.resize = some e) :
    ∃ err, run (recorded (Guest.faulty f)) (mountAndGrow volume m) ((c, g), log) =
      (.error err, (c, { g with mounts := m :: g.mounts }),
        ⟨.command (growCmd m.fsType) m.source, .error e⟩ :: ⟨.formatAndMount m, .ok ()⟩ ::
          log) := by
  simp [mountAndGrow, resizeFilesystem_eq hfs, resizeFilesystem.grow, recorded, Guest.faulty,
    Guest.serve, hattach, hmount, hresize]

theorem mountAndGrow_grown {m : Mount} (hfs : m.fsType = fsTypeExt4 ∨ m.fsType = fsTypeXFS)
    (hattach : g.attach m = (.ok (), { g with mounts := m :: g.mounts })) (hmount : f.mount = none)
    (hresize : f.resize = none) :
    run (recorded (Guest.faulty f)) (mountAndGrow volume m) ((c, g), log) =
      (.ok (), (c, { g with mounts := m :: g.mounts }),
        ⟨.command (growCmd m.fsType) m.source, .ok ()⟩ :: ⟨.formatAndMount m, .ok ()⟩ :: log) := by
  simp [mountAndGrow, resizeFilesystem_eq hfs, resizeFilesystem.grow, recorded, Guest.faulty,
    Guest.serve, hattach, hmount, hresize]

end

-- ---------------------------------------------------------------------------
-- Every series
-- ---------------------------------------------------------------------------

structure InPhase (ns : NodeServer) (volume device target : String)
    (s : (Cluster × Guest) × NodeLog) (phase : MountPhase) : Prop where
  plugged : PluggedIn ns volume device s.1
  sound : s.1.2.Sound target
  mounted : s.1.2.mounted target = decide (phase ≠ .unmounted)
  grown : Grown target s ↔ phase = .grown

section
variable {ns : NodeServer} {volume device target : String} {c : Cluster} {g g' : Guest}
    {log : NodeLog}

theorem run_getDevicePathByVolumeID_of_links (c c' : Cluster) (hlinks : g'.links = g.links)
    (volume : String) :
    run Guest.serve (getDevicePathByVolumeID volume) (c', g') =
      ((run Guest.serve (getDevicePathByVolumeID volume) (c, g)).1, c', g') := by
  simp only [getDevicePathByVolumeID, request_bind, run_call, Guest.serve, if_true, hlinks]
  cases hfile : (g.links.map DeviceLink.name).find? (containsText · volume) with
  | none => rfl
  | some file =>
    simp only [run_call, Guest.serve, hlinks]
    cases hlink : g.links.find? (deviceByIDDirectory ++ ·.name = deviceByIDDirectory ++ file) with
    | none => rfl
    | some link =>
      dsimp only
      split <;> rfl

theorem PluggedIn.of_links (h : PluggedIn ns volume device (c, g)) (hlinks : g'.links = g.links) :
    PluggedIn ns volume device (c, g') :=
  ⟨h.ready, by rw [run_getDevicePathByVolumeID_of_links c c hlinks, h.found]⟩

theorem not_grown (hbare : g.mounted target = false) : ¬ Grown target ((c, g), log) := by
  rintro ⟨m, hm, -⟩
  have htarget := List.find?_some hm
  have hmem := List.mem_of_find?_eq_some hm
  simp only [Guest.mounted, List.any_eq_false] at hbare
  exact hbare m hmem htarget

theorem grown_after {m : Mount} (hm : m.target = target) {r : Except OsError Unit} :
    Grown target ((c, { g with mounts := m :: g.mounts }),
      ⟨.command (growCmd m.fsType) m.source, r⟩ :: ⟨.formatAndMount m, .ok ()⟩ :: log) ↔
      r = .ok () := by
  cases r with
  | ok _ => simp [Grown, mountsAt, resizes, hm, growCmd_cases]
  | error e => simp [Grown, mountsAt, resizes, hm]

theorem InPhase.start {s : Cluster × Guest} (hplugged : PluggedIn ns volume device s)
    (hbare : s.2.layers target = 0) : InPhase ns volume device target (s, []) .unmounted := by
  have hunmounted : s.2.mounted target = false := Guest.not_mounted_iff.mpr hbare
  exact ⟨hplugged, fun hlayers => absurd hbare hlayers, hunmounted,
    iff_of_false (not_grown hunmounted) (by simp)⟩

theorem mountAndGrow_phase {m : Mount} (hplugged : PluggedIn ns volume device (c, g))
    (hpresent : g.present target) (hbare : g.mounted target = false) (hsource : m.source = device)
    (hm : m.target = target) (hfs : m.fsType = fsTypeExt4 ∨ m.fsType = fsTypeXFS)
    (a : PublishAttempt) :
    InPhase ns volume device target
        (run (recorded (Guest.faulty a.faults)) (mountAndGrow volume m) ((c, g), log)).2
        (growth.next a .unmounted) ∧
      ((run (recorded (Guest.faulty a.faults)) (mountAndGrow volume m) ((c, g), log)).1 = .ok () ↔
        growth.next a .unmounted = .grown) := by
  have hnow : ({ g with mounts := m :: g.mounts } : Guest).mounted target = true := by
    simp [Guest.mounted, hm]
  have hattach := hplugged.attach hsource (hm ▸ hpresent)
  cases hmount : a.faults.mount with
  | some e =>
    have hnext : growth.next a .unmounted = .unmounted := by simp [growth, hmount]
    rw [mountAndGrow_unmounted hmount, hnext]
    exact ⟨⟨hplugged, fun _ => hpresent, hbare, iff_of_false (not_grown hbare) (by simp)⟩, by simp⟩
  | none =>
    cases hresize : a.faults.resize with
    | some e =>
      obtain ⟨err, hgrow⟩ := mountAndGrow_ungrown hfs hattach hmount hresize
      have hnext : growth.next a .unmounted = .ungrown := by simp [growth, hmount, hresize]
      rw [hgrow, hnext]
      exact ⟨⟨hplugged.of_links rfl, fun _ => hpresent, hnow, (grown_after hm).trans (by simp)⟩,
        by simp⟩
    | none =>
      have hnext : growth.next a .unmounted = .grown := by simp [growth, hmount, hresize]
      rw [mountAndGrow_grown hfs hattach hmount hresize, hnext]
      exact ⟨⟨hplugged.of_links rfl, fun _ => hpresent, hnow, (grown_after hm).trans (by simp)⟩,
        by simp⟩

/-- A call takes the mount to the next phase. On a mounted path it returns; from an
unmounted one it returns only if it has grown the filesystem. -/
theorem PublishAttempt.run_phase (htarget : target ≠ "") (a : PublishAttempt)
    (s : (Cluster × Guest) × NodeLog) (phase : MountPhase) (ha : a.For volume target)
    (h : InPhase ns volume device target s phase) :
    InPhase ns volume device target (a.run ns s).2 (growth.next a phase) ∧
      ((a.run ns s).1 = .ok () ↔ phase ≠ .unmounted ∨ growth.next a phase = .grown) := by
  obtain ⟨⟨c, g⟩, log⟩ := s
  obtain ⟨hplugged, hsound, hmounted, hgrown⟩ := h
  dsimp only at hmounted
  obtain ⟨calls, g', m, hcalls, hmounts, hlinks, hpresent, hsource, hm, hfs, hrun⟩ :=
    run_to_mount log ha htarget hplugged hsound
  have hsame : g'.mounted target = g.mounted target := by simp [Guest.mounted, hmounts]
  by_cases hphase : phase = .unmounted
  · subst hphase
    rw [hmounted] at hrun
    rw [hrun]
    simpa using
      mountAndGrow_phase (hplugged.of_links hlinks) hpresent (hsame.trans hmounted) hsource hm hfs a
  · have hnext : growth.next a phase = phase := by
      cases phase with
      | unmounted => exact absurd rfl hphase
      | ungrown | grown => rfl
    have hon : g.mounted target = true := by simpa [hphase] using hmounted
    rw [hon] at hrun
    rw [hrun, hnext]
    exact ⟨⟨hplugged.of_links hlinks, fun _ => hpresent, hsame.trans hmounted,
      (grown_plain hcalls hmounts).trans hgrown⟩, by simp [hphase]⟩

theorem PublishAttempt.ok_grown_iff (htarget : target ≠ "") (a : PublishAttempt)
    (s : (Cluster × Guest) × NodeLog) (phase : MountPhase) (ha : a.For volume target)
    (h : InPhase ns volume device target s phase) :
    a.GrownIfOk target (a.run ns s).1 (a.run ns s).2 ↔ growth.allows a phase := by
  obtain ⟨hnext, hok⟩ := a.run_phase htarget s phase ha h
  rw [GrownIfOk, hok, hnext.grown]
  cases phase <;> simp [growth]

end

/-- A publish that returns has grown the filesystem, in every series of calls in which the
first one that mounts the filesystem also grows it, or is the last one; and in no other. -/
theorem published_grown_iff (ns : NodeServer) (volume device target : String) (s : Cluster × Guest)
    (attempts : List PublishAttempt) (htarget : target ≠ "")
    (hfor : ∀ a ∈ attempts, a.For volume target) (hplugged : PluggedIn ns volume device s)
    (hbare : s.2.layers target = 0) :
    Along (PublishAttempt.run ns) (PublishAttempt.GrownIfOk target) attempts (s, []) ↔
      FirstMountGrows attempts := by
  have hstart := InPhase.start hplugged hbare
  have haccepts := along_iff_accepts growth (PublishAttempt.ok_grown_iff htarget)
    (fun a s phase ha h _ => (a.run_phase htarget s phase ha h).1) hfor hstart
  exact haccepts.trans growth_accepts_iff

theorem disk_plugged : PluggedIn ⟨"guest", "node"⟩ "vol" "/dev/sda" (diskHost, diskGuest) := by
  have hname : containsText "scsi-vol" "vol" = true := by decide +kernel
  refine ⟨⟨_, rfl, by decide +kernel⟩, ?_⟩
  simp [getDevicePathByVolumeID, Guest.serve, diskGuest, hname]

def grownInTheEnd : List PublishAttempt :=
  [⟨mountRequest, { mount := some { message := "exit status 32" } }⟩, ⟨mountRequest, {}⟩,
    ⟨mountRequest, {}⟩]

theorem mountRequest_for (f : PublishFaults) :
    PublishAttempt.For "vol" "/pods/vol" ⟨mountRequest, f⟩ :=
  ⟨rfl, rfl, _, rfl, rfl, rfl, rfl, .inl rfl⟩

theorem published_grown_in_the_end :
    Along (PublishAttempt.run ⟨"guest", "node"⟩) (PublishAttempt.GrownIfOk "/pods/vol")
      grownInTheEnd ((diskHost, diskGuest), []) :=
  (published_grown_iff ⟨"guest", "node"⟩ "vol" "/dev/sda" "/pods/vol" (diskHost, diskGuest)
    grownInTheEnd (by decide) (by simp [grownInTheEnd, mountRequest_for]) disk_plugged
    (by decide)).mpr rfl

def ungrownAttempt : PublishAttempt :=
  ⟨mountRequest, { resize := some { message := "exit status 1" } }⟩

/-- After a resize that failed the next call finds the mount and returns, and the filesystem
has not been grown. -/
theorem published_without_growing :
    let s := (ungrownAttempt.run ⟨"guest", "node"⟩ ((diskHost, diskGuest), [])).2
    let retried := PublishAttempt.run ⟨"guest", "node"⟩ ⟨mountRequest, {}⟩ s
    retried.1 = .ok () ∧ ¬ Grown "/pods/vol" retried.2 := by
  have htarget : "/pods/vol" ≠ "" := by decide
  have hbare : diskGuest.layers "/pods/vol" = 0 := by decide
  have hstart := InPhase.start disk_plugged hbare
  obtain ⟨hungrown, -⟩ := ungrownAttempt.run_phase htarget _ _ (mountRequest_for _) hstart
  obtain ⟨hstill, hok⟩ := PublishAttempt.run_phase htarget ⟨mountRequest, {}⟩ _ _
    (mountRequest_for _) hungrown
  exact ⟨hok.mpr (by decide), hstill.grown.not.mpr (by decide)⟩

end HarvesterCSI
