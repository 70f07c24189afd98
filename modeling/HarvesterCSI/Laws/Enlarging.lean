import HarvesterCSI.Laws.Expansion
import HarvesterCSI.Laws.NodePaths

/-!
# From the size in a claim to the filesystem

An expansion goes through three hands. The controller writes the size into the claim and
waits until the host reports it, the host enlarges the disk, and the node grows the
filesystem: at once, if the volume is in use, or when it is mounted the next time. All the
while other calls run on the controller and on the node, and any request may fail.
-/

namespace HarvesterCSI

open Calls Calls.Prog

-- ---------------------------------------------------------------------------
-- Disks
-- ---------------------------------------------------------------------------

structure Filesystem where
  kind : String
  size : Int64
  deriving DecidableEq, Repr

/-- The devices of a node. A filesystem is no larger than what it is on. -/
structure Disks where
  size : String → Int64
  fs : String → Option Filesystem
  fits : ∀ device f, fs device = some f → f.size ≤ size device

namespace Disks

def fill (d : Disks) (device kind : String) : Disks where
  size := d.size
  fs := Function.update d.fs device (some ⟨kind, d.size device⟩)
  fits other f hf := by
    by_cases h : other = device
    · subst h
      rw [Function.update_self] at hf
      cases hf
      exact Int64.le_refl _
    · rw [Function.update_of_ne h] at hf
      exact d.fits other f hf

/-- What is formatted already is not formatted again, and is mounted as what it is. -/
def format (d : Disks) (device kind : String) : Option Disks :=
  match d.fs device with
  | none => some (d.fill device kind)
  | some f => if f.kind = kind then some d else none

def grow (d : Disks) (cmd device : String) : Option Disks :=
  match d.fs device with
  | none => none
  | some f =>
    if (f.kind = fsTypeExt4 ∧ cmd = resize2fsCmd) ∨ (f.kind = fsTypeXFS ∧ cmd = xfsGrowfsCmd) then
      some (d.fill device f.kind)
    else none

structure Extends (device : String) (d d' : Disks) : Prop where
  size : d.size device ≤ d'.size device
  fs : ∀ f, d.fs device = some f → ∃ f', d'.fs device = some f' ∧ f.size ≤ f'.size

variable {d d' d'' : Disks} {device : String}

theorem Extends.refl (d : Disks) : d.Extends device d :=
  ⟨Int64.le_refl _, fun f hf => ⟨f, hf, Int64.le_refl _⟩⟩

theorem Extends.trans (h : d.Extends device d') (h' : d'.Extends device d'') :
    d.Extends device d'' := by
  refine ⟨Int64.le_trans h.size h'.size, fun f hf => ?_⟩
  obtain ⟨f', hf', hle⟩ := h.fs f hf
  obtain ⟨f'', hf'', hle'⟩ := h'.fs f' hf'
  exact ⟨f'', hf'', Int64.le_trans hle hle'⟩

theorem extends_fill (d : Disks) (other kind : String) : d.Extends device (d.fill other kind) := by
  refine ⟨Int64.le_refl _, fun f hf => ?_⟩
  by_cases h : device = other
  · subst h
    exact ⟨_, Function.update_self .., d.fits device f hf⟩
  · exact ⟨f, (Function.update_of_ne h ..).trans hf, Int64.le_refl _⟩

theorem extends_format (h : d.format other kind = some d') : d.Extends device d' := by
  unfold format at h
  split at h
  · cases h
    exact d.extends_fill other kind
  · split at h
    · cases h
      exact .refl d
    · cases h

theorem extends_grow (h : d.grow cmd other = some d') : d.Extends device d' := by
  unfold grow at h
  split at h
  · cases h
  · split at h
    · cases h
      exact d.extends_fill other _
    · cases h

theorem grow_fills (h : d.grow cmd device = some d') :
    ∃ f, d'.fs device = some f ∧ f.size = d.size device := by
  unfold grow at h
  split at h
  · cases h
  · split at h
    · cases h
      exact ⟨_, Function.update_self .., rfl⟩
    · cases h

end Disks

abbrev World := (Cluster × Guest) × Disks

/-- A node on which everything works that can. -/
def World.serve : (op : NodeOp) → World → op.Res × World
  | .command cmd device, (s, d) =>
    match d.grow cmd device with
    | some d' => (.ok (), s, d')
    | none => (.error { message := "exit status 1" }, s, d)
  | .formatAndMount m, (s, d) =>
    match d.format m.source m.fsType with
    | some d' => ((Guest.serve (.formatAndMount m) s).1, (Guest.serve (.formatAndMount m) s).2,
        if s.2.hasSource m.source then d' else d)
    | none => (.error { message := "exit status 32" }, s, d)
  | op, (s, d) => ((Guest.serve op s).1, (Guest.serve op s).2, d)

theorem World.serve_node (op : NodeOp) (w : World) :
    (World.serve op w).2.1 = w.1 ∨ (World.serve op w).2.1 = (Guest.serve op w.1).2 := by
  cases op with
  | command cmd device =>
    simp only [World.serve]
    split <;> exact .inl rfl
  | formatAndMount m =>
    simp only [World.serve]
    split
    · exact .inr rfl
    · exact .inl rfl
  | _ => exact .inr rfl

theorem World.serve_disks (op : NodeOp) (w : World) :
    w.2.Extends device (World.serve op w).2.2 := by
  cases op with
  | command cmd other =>
    simp only [World.serve]
    split
    · exact Disks.extends_grow ‹_›
    · exact .refl _
  | formatAndMount m =>
    simp only [World.serve]
    split
    · split
      · exact Disks.extends_format ‹_›
      · exact .refl _
    · exact .refl _
  | _ => exact .refl _

-- ---------------------------------------------------------------------------
-- What is counted on
-- ---------------------------------------------------------------------------

/-- The disk of a volume: the link it is found by, and the device that the link leads to. -/
structure VolumeDisk where
  volume : String
  link : String
  device : String

/-- Of the links that have the volume's ID in their names this one comes first. -/
structure VolumeDisk.On (k : VolumeDisk) (g : Guest) : Prop where
  first : (g.links.map DeviceLink.name).find? (containsText · k.volume) = some k.link
  leads : (g.links.find? (deviceByIDDirectory ++ ·.name = deviceByIDDirectory ++ k.link)).map
    DeviceLink.target = some k.device

structure VolumeDisk.Kept (k : VolumeDisk) (w w' : World) : Prop where
  on : k.On w.1.2 → k.On w'.1.2
  disks : w.2.Extends k.device w'.2

/-- Nothing is mounted at the path, and it is not removed. -/
structure PathKept (path : String) (w w' : World) : Prop where
  bare : w.1.2.mounted path = false → w'.1.2.mounted path = false
  dir : path ∈ w.1.2.dirs → path ∈ w'.1.2.dirs

def VolumeDisk.rely (k : VolumeDisk) : Rely World where
  moves := k.Kept
  refl _ := ⟨id, .refl _⟩
  trans h h' := ⟨h'.on ∘ h.on, h.disks.trans h'.disks⟩

def VolumeDisk.relyAt (k : VolumeDisk) (path : String) : Rely World where
  moves w w' := k.Kept w w' ∧ PathKept path w w'
  refl w := ⟨k.rely.refl w, id, id⟩
  trans h h' := ⟨k.rely.trans h.1 h'.1, h'.2.bare ∘ h.2.bare, h'.2.dir ∘ h.2.dir⟩

/-- An error. The host may answer anything. -/
def NodeOp.Errs : (op : NodeOp) → op.Res → Prop
  | .isMountPoint _, .error _ | .isLikelyNotMountPoint _, .error _ => True
  | op, r => op.Failed r

/-- A capacity of the claim is not reported before the disk has it. -/
def VolumeDisk.Reports (k : VolumeDisk) (ns : String) : (op : NodeOp) → World → op.Res → Prop
  | .host (.getPVC ns' name), w, .ok pvc =>
    ns' = ns → name = k.volume → pvc.capacity.storageValue ≤ w.2.size k.device
  | _, _, _ => True

/-- A request is served, or it fails, with or without its effect. -/
structure VolumeDisk.Answers (k : VolumeDisk) (ns : String) (op : NodeOp) (w : World) (r : op.Res)
    (w' : World) : Prop where
  served : World.serve op w = (r, w') ∨ (op.Errs r ∧ (w' = w ∨ w' = (World.serve op w).2))
  reports : k.Reports ns op w r

-- ---------------------------------------------------------------------------
-- What a node call attains
-- ---------------------------------------------------------------------------

def VolumeDisk.HasSize (k : VolumeDisk) (size : Int64) (w : World) : Prop :=
  ∃ f, w.2.fs k.device = some f ∧ size ≤ f.size

section
variable {k : VolumeDisk} {ns path : String} {size : Int64} {w : World}

theorem VolumeDisk.Answers.serve_eq {op : NodeOp} {r : op.Res} {w' : World}
    (h : k.Answers ns op w r w') (hr : ¬ op.Errs r) : World.serve op w = (r, w') :=
  h.served.resolve_right fun hfails => hr hfails.1

theorem VolumeDisk.HasSize.kept (h : k.HasSize size w) (hkept : k.Kept w w') :
    k.HasSize size w' := by
  obtain ⟨f, hf, hle⟩ := h
  obtain ⟨f', hf', hle'⟩ := hkept.disks.fs f hf
  exact ⟨f', hf', Int64.le_trans hle hle'⟩

structure VolumeDisk.Ready (k : VolumeDisk) (size : Int64) (w : World) : Prop where
  on : k.On w.1.2
  room : size ≤ w.2.size k.device

theorem VolumeDisk.Ready.kept (h : k.Ready size w) (hkept : k.Kept w w') : k.Ready size w' :=
  ⟨hkept.on h.on, Int64.le_trans h.room hkept.disks.size⟩

def NodeOp.Looks : NodeOp → Prop
  | .host op => op.Reads
  | .readDir _ | .evalSymlinks _ | .stat _ | .isLikelyNotMountPoint _ => True
  | _ => False

theorem VolumeDisk.Answers.unchanged {op : NodeOp} {r : op.Res} {w' : World}
    (h : k.Answers ns op w r w') (hop : op.Looks) : w' = w := by
  have hserve : (World.serve op w).2 = w := by
    cases op with
    | host op => cases op <;> first | rfl | exact hop.elim
    | readDir | evalSymlinks | stat | isLikelyNotMountPoint => rfl
    | _ => exact hop.elim
  rcases h.served with hserved | ⟨-, hsame | hsame⟩
  · rw [← hserve, hserved]
  · exact hsame
  · rw [hsame, hserve]

theorem VolumeDisk.Answers.kept {op : NodeOp} {r : op.Res} {w' : World} (h : k.Answers ns op w r w')
    (hop : op.Within path parent) : k.Kept w w' := by
  have hserve : k.Kept w (World.serve op w).2 := by
    refine ⟨fun hon => ?_, World.serve_disks op w⟩
    have hlinks : (World.serve op w).2.1.2.links = w.1.2.links := by
      rcases World.serve_node op w with hnode | hnode
      · rw [hnode]
      · rw [hnode]
        exact (hop.serve w.1).links
    exact ⟨hlinks ▸ hon.first, hlinks ▸ hon.leads⟩
  rcases h.served with hserved | ⟨-, rfl | rfl⟩
  · rw [hserved] at hserve
    exact hserve
  · exact k.rely.refl w'
  · exact hserve

theorem attains_ready (ns : String) {p : NodeApi α} (hp : p.Uses (NodeOp.Within path parent))
    (hready : k.Ready size w) :
    Attains (k.relyAt path) (k.Answers ns) (fun _ => k.Ready size) p w :=
  .of_kept (fun _ _ hmove hs => hs.kept hmove.1) (fun _ _ _ _ hop h hs => hs.kept (h.kept hop))
    hp hready

theorem attains_bare {p : NodeApi α} (hp : p.Uses NodeOp.Looks)
    (hbare : w.1.2.mounted path = false) :
    Attains (k.relyAt path) (k.Answers ns) (fun _ w' => w'.1.2.mounted path = false) p w := by
  have hmoves (s t : World) (h : (k.relyAt path).moves s t) :
      s.1.2.mounted path = false → t.1.2.mounted path = false :=
    h.2.bare
  refine Attains.of_kept hmoves (fun op s r t hop h hs => ?_) hp hbare
  rwa [h.unchanged hop]

theorem getDevicePathByVolumeID_attains (hon : k.On w.1.2) :
    Attains (k.relyAt path) (k.Answers ns) (fun device _ => device = k.device)
      (getDevicePathByVolumeID k.volume) w := by
  refine .request fun w₁ r w₂ hmove h => ?_
  have hon₁ := hmove.1.on hon
  cases r with
  | error e => trivial
  | ok files =>
    obtain ⟨hfiles, rfl⟩ := Prod.mk.inj (h.serve_eq (by simp [NodeOp.Errs, NodeOp.Failed]))
    obtain rfl : w₁.1.2.links.map DeviceLink.name = files := by simpa [Guest.serve] using hfiles
    simp only [hon₁.first]
    refine .request fun w₃ r w₄ hmove h => ?_
    have hon₃ := hmove.1.on hon₁
    cases r with
    | error e => trivial
    | ok target =>
      obtain ⟨htarget, -⟩ := Prod.mk.inj (h.serve_eq (by simp [NodeOp.Errs, NodeOp.Failed]))
      obtain ⟨link, hlink, hdevice⟩ := Option.map_eq_some_iff.mp hon₃.leads
      simp only [Guest.serve, hlink, Except.ok.injEq] at htarget
      dsimp only
      split
      · trivial
      · exact fun _ _ => htarget.symm.trans hdevice

/-- A tool that goes through brings the filesystem to the size that the disk has. -/
theorem resizeFilesystem_attains (hsize : size ≤ w.2.size k.device) (fsType : String) :
    Attains (k.relyAt path) (k.Answers ns) (fun _ => k.HasSize size)
      (resizeFilesystem k.device fsType) w := by
  have hgrow (cmd : String) : Attains (k.relyAt path) (k.Answers ns) (fun _ => k.HasSize size)
      (resizeFilesystem.grow k.device cmd) w := by
    refine .request fun w₁ r w₂ hmove h => ?_
    cases r with
    | error e => trivial
    | ok _ =>
      have hserve := h.serve_eq (by simp [NodeOp.Errs, NodeOp.Failed])
      simp only [World.serve] at hserve
      split at hserve
      · next d' hgrown =>
        obtain ⟨-, rfl⟩ := Prod.mk.inj hserve
        obtain ⟨f, hf, hfull⟩ := Disks.grow_fills hgrown
        have hnow : k.HasSize size (w₁.1, d') :=
          ⟨f, hf, hfull ▸ Int64.le_trans hsize hmove.1.disks.size⟩
        exact fun t ht => hnow.kept ht.1
      · cases hserve
  unfold resizeFilesystem
  split
  · exact hgrow _
  · split
    · exact hgrow _
    · trivial

theorem isLikelyNotMountPointAttach_attains (hbare : w.1.2.mounted path = false) :
    Attains (k.relyAt path) (k.Answers ns) (fun notMnt _ => notMnt = true)
      (isLikelyNotMountPointAttach path) w := by
  refine .request fun w₁ r w₂ hmove h => ?_
  cases r with
  | ok notMnt =>
    obtain ⟨hanswer, -⟩ := Prod.mk.inj (h.serve_eq (by simp [NodeOp.Errs, NodeOp.Failed]))
    simp only [Guest.serve, hmove.2.bare hbare, Bool.not_false] at hanswer
    refine fun _ _ => ?_
    split at hanswer
    · cases hanswer
      rfl
    · cases hanswer
  | error e =>
    dsimp only
    split
    · refine .request fun w₃ r w₄ _ _ => ?_
      cases r with
      | ok _ => exact fun _ _ => rfl
      | error e => trivial
    · trivial

theorem growVolume_attains {req : NodeExpandRequest} (hvolume : req.volumeId = k.volume)
    (hready : k.Ready size w) :
    Attains (k.relyAt path) (k.Answers ns) (fun _ => k.HasSize size)
      (NodeServer.nodeExpandVolume.growVolume req) w := by
  unfold NodeServer.nodeExpandVolume.growVolume
  rw [hvolume]
  have hdevice : (getDevicePathByVolumeID k.volume).Uses (NodeOp.Within path (LiesIn path)) :=
    getDevicePathByVolumeID_uses (fun _ => trivial) (fun _ => trivial) _
  have hfound := (getDevicePathByVolumeID_attains hready.on).and (attains_ready ns hdevice hready)
  refine (hfound.orElse fun _ _ => attains_error).bind fun device w₁ hmid => ?_
  obtain ⟨rfl, hready₁⟩ := hmid w₁ ((k.relyAt path).refl w₁)
  have hfsType : (NodeServer.getNodeFsType req).Uses (NodeOp.Within path (LiesIn path)) := by
    unfold NodeServer.getNodeFsType
    split
    · exact uses_error
    · split <;> exact uses_ok
  refine ((attains_ready ns hfsType hready₁).orElse fun _ _ => attains_error).bind
    fun fsType w₂ hmid => ?_
  have hready₂ := hmid w₂ ((k.relyAt path).refl w₂)
  exact ((resizeFilesystem_attains hready₂.room fsType).orElse fun _ _ => attains_error).bind
    fun _ _ hsize => hsize

/-- The disk is ready at the start, and the path is a directory: a block device has no
filesystem to grow. -/
theorem nodeExpandVolume_attains (server : NodeServer) {req : NodeExpandRequest}
    (hvolume : req.volumeId = k.volume) (hdir : req.volumePath ∈ w.1.2.dirs)
    (hready : k.Ready size w) :
    Attains (k.relyAt req.volumePath) (k.Answers ns) (fun _ => k.HasSize size)
      (server.nodeExpandVolume req) w := by
  unfold NodeServer.nodeExpandVolume NodeServer.validateNodeExpandReq
  split
  · trivial
  · rw [ok_bind]
    split
    · trivial
    · refine .request fun w₁ r w₂ hmove h => ?_
      obtain rfl := h.unchanged trivial
      cases r with
      | error e => trivial
      | ok _ =>
        refine .request fun w₃ r w₄ hmove' h => ?_
        obtain rfl := h.unchanged trivial
        rcases r with e | (_ | _)
        · trivial
        · have hanswer := congrArg Prod.fst (h.serve_eq (by simp [NodeOp.Errs, NodeOp.Failed]))
          simp [World.serve, Guest.serve, hmove'.2.dir (hmove.2.dir hdir)] at hanswer
        · have hready' := (hready.kept hmove.1).kept hmove'.1
          have hattach : (isLikelyNotMountPointAttach req.volumePath).Uses
              (NodeOp.Within req.volumePath (LiesIn req.volumePath)) :=
            isLikelyNotMountPointAttach_uses trivial (within_mkdirAll (fun _ => id) (.inl rfl))
          refine ((attains_ready ns hattach hready').orElse fun _ _ => attains_error).bind
            fun notMnt w₅ hmid => ?_
          split
          · trivial
          · exact growVolume_attains hvolume (hmid w₅ ((k.relyAt req.volumePath).refl w₅))

theorem nodePublishMountVolume_attains (server : NodeServer) (hbare : w.1.2.mounted path = false)
    (hready : k.Ready size w) (fsType : String) (flags : List String) :
    Attains (k.relyAt path) (k.Answers ns) (fun _ => k.HasSize size)
      (server.nodePublishMountVolume k.volume k.device path fsType flags) w := by
  have hattach : (isLikelyNotMountPointAttach path).Uses (NodeOp.Within path (LiesIn path)) :=
    isLikelyNotMountPointAttach_uses trivial (within_mkdirAll (fun _ => id) (.inl rfl))
  have hchecked := (isLikelyNotMountPointAttach_attains hbare).and (attains_ready ns hattach hready)
  refine (hchecked.orElse fun _ _ => attains_error).bind fun notMnt w₁ hmid => ?_
  obtain ⟨rfl, hready₁⟩ := hmid w₁ ((k.relyAt path).refl w₁)
  refine .request fun w₂ r w₃ hmove h => ?_
  have hwithin :
      NodeOp.Within path (LiesIn path) (.formatAndMount ⟨k.device, path, fsType, flags⟩) := rfl
  have hready₃ := (hready₁.kept hmove.1).kept (h.kept hwithin)
  cases r with
  | error e => trivial
  | ok _ => exact (resizeFilesystem_attains hready₃.room fsType).orElse fun _ _ => attains_error

/-- The device that a publish finds is that of the disk, which is still ready, and nothing
has been mounted at the path. -/
theorem readyDevice_attains (server : NodeServer) (hbare : w.1.2.mounted path = false)
    (hready : k.Ready size w) :
    Attains (k.relyAt path) (k.Answers ns)
      (fun device w' => (device = k.device ∧ k.Ready size w') ∧ w'.1.2.mounted path = false)
      (server.readyDevice k.volume) w := by
  refine .request fun w₁ r w₂ hmove h => ?_
  obtain rfl := h.unchanged trivial
  cases r with
  | error e => trivial
  | ok vmi =>
    dsimp only
    split
    · trivial
    · have hdevice : (getDevicePathByVolumeID k.volume).Uses (NodeOp.Within path (LiesIn path)) :=
        getDevicePathByVolumeID_uses (fun _ => trivial) (fun _ => trivial) _
      have hlooks : (getDevicePathByVolumeID k.volume).Uses NodeOp.Looks :=
        getDevicePathByVolumeID_uses (fun _ => trivial) (fun _ => trivial) _
      have hready₂ := hready.kept hmove.1
      have hfound :=
        ((getDevicePathByVolumeID_attains hready₂.on).and (attains_ready ns hdevice hready₂)).and
        (attains_bare hlooks (hmove.2.bare hbare))
      exact hfound.orElse fun _ _ => attains_error

theorem nodePublishVolume_attains (server : NodeServer) {req : NodePublishRequest}
    {cap : NodeCapability} (hvolume : req.volumeId = k.volume)
    (hcap : req.volumeCapability = some cap) (hmode : cap.mode = .singleNodeWriter)
    (hblock : cap.block = false) (hbare : w.1.2.mounted req.targetPath = false)
    (hready : k.Ready size w) :
    Attains (k.relyAt req.targetPath) (k.Answers ns) (fun _ => k.HasSize size)
      (server.nodePublishVolume req) w := by
  unfold NodeServer.nodePublishVolume
  split
  · trivial
  · simp only [hcap, hmode, reduceCtorEq, if_false, if_true, NodeServer.nodePublishRWOVolume,
      hvolume]
    refine (readyDevice_attains server hbare hready).bind fun device w₁ hmid => ?_
    obtain ⟨⟨rfl, hready₁⟩, hbare₁⟩ := hmid w₁ ((k.relyAt req.targetPath).refl w₁)
    simp only [NodeServer.publishDevice, hblock, Bool.false_eq_true, if_false]
    split
    · exact nodePublishMountVolume_attains server hbare₁ hready₁ _ _
    · trivial

-- ---------------------------------------------------------------------------
-- Side by side
-- ---------------------------------------------------------------------------

theorem VolumeDisk.Answers.within {op : NodeOp} {r : op.Res} {w' : World}
    (h : k.Answers ns op w r w') (hop : op.Within other parent) :
    KeepsOtherPaths other parent w.1 w'.1 := by
  have hserve : KeepsOtherPaths other parent w.1 (World.serve op w).2.1 := by
    rcases World.serve_node op w with hnode | hnode
    · rw [hnode]
      exact .refl _
    · rw [hnode]
      exact hop.serve w.1
  rcases h.served with hserved | ⟨-, rfl | rfl⟩
  · rw [hserved] at hserve
    exact hserve
  · exact .refl _
  · exact hserve

theorem VolumeDisk.Answers.of_host {op : Op} {r : op.Res} {w' : World}
    (h : k.Answers ns (.host op) w r w') :
    w'.1.2 = w.1.2 ∧ w'.2 = w.2 := by
  rcases h.served with hserved | ⟨-, rfl | rfl⟩
  · obtain ⟨-, rfl⟩ := Prod.mk.inj hserved
    exact ⟨rfl, rfl⟩
  · exact ⟨rfl, rfl⟩
  · exact ⟨rfl, rfl⟩

theorem KeepsOtherPaths.mounted_eq {s s' : Cluster × Guest} (h : KeepsOtherPaths other parent s s')
    (hpath : path ≠ other) : s'.2.mounted path = s.2.mounted path := by
  have hfilter (mounts : List Mount) : mounts.any (·.target = path) =
      (mounts.filter (·.target ≠ other)).any (·.target = path) := by
    rw [List.any_filter]
    refine List.any_congr rfl fun m => ?_
    by_cases hm : m.target = path
    · simp [hm, hpath]
    · simp [hm]
  rw [Guest.mounted, hfilter, h.mounts, ← hfilter]
  rfl

end

def SystemCall.Apart (path : String) : SystemCall → Prop
  | .controller _ => True
  | .node rpc => path ≠ rpc.path

theorem SystemCall.kept {k : VolumeDisk} {op : NodeOp} {r : op.Res} {w w' : World}
    (rpc : SystemCall) (h : k.Answers ns op w r w') (hop : rpc.Asks op) : k.Kept w w' := by
  cases rpc with
  | controller rpc =>
    obtain ⟨hostOp, rfl⟩ := hop
    obtain ⟨hguest, hdisks⟩ := h.of_host
    exact ⟨fun hon => hguest ▸ hon, hdisks ▸ .refl _⟩
  | node rpc => exact h.kept hop

theorem SystemCall.pathKept {k : VolumeDisk} {op : NodeOp} {r : op.Res} {w w' : World}
    (rpc : SystemCall) (h : k.Answers ns op w r w') (hop : rpc.Asks op) (hapart : rpc.Apart path) :
    PathKept path w w' := by
  cases rpc with
  | controller rpc =>
    obtain ⟨hostOp, rfl⟩ := hop
    obtain ⟨hguest, -⟩ := h.of_host
    exact ⟨fun hbare => hguest ▸ hbare, fun hdir => hguest ▸ hdir⟩
  | node rpc =>
    have hwithin := h.within hop
    exact ⟨fun hbare => (hwithin.mounted_eq hapart).trans hbare,
      fun hdir => (hwithin.dirs path hapart).mpr (.inl hdir)⟩

/-- A call of the node service after which the filesystem is as large as the disk: the
volume is expanded where it is mounted, or mounted where nothing is. -/
inductive VolumeDisk.Grown (k : VolumeDisk) (path : String) (g : Guest) : NodeCall → Prop
  | expand {req : NodeExpandRequest} (hvolume : req.volumeId = k.volume)
      (hpath : req.volumePath = path) (hdir : path ∈ g.dirs) :
      Grown k path g (.nodeExpandVolume req)
  | publish {req : NodePublishRequest} {cap : NodeCapability} (hvolume : req.volumeId = k.volume)
      (hpath : req.targetPath = path) (hcap : req.volumeCapability = some cap)
      (hmode : cap.mode = .singleNodeWriter) (hblock : cap.block = false)
      (hbare : g.mounted path = false) : Grown k path g (.nodePublishVolume req)

theorem VolumeDisk.Grown.attains {k : VolumeDisk} {rpc : NodeCall} {w : World}
    (h : k.Grown path w.1.2 rpc) (server : NodeServer) (hready : k.Ready size w) :
    Attains (k.relyAt path) (k.Answers ns) (fun _ => k.HasSize size) (rpc.prog server) w := by
  cases h with
  | expand hvolume hpath hdir =>
    subst hpath
    exact (nodeExpandVolume_attains server hvolume hdir hready).bind fun _ _ hsize => hsize
  | publish hvolume hpath hcap hmode hblock hbare =>
    subst hpath
    exact nodePublishVolume_attains server hvolume hcap hmode hblock hbare hready

def NodeOp.Observes (ns volume : String) (size : Int64) : (op : NodeOp) → op.Res → Prop
  | .host op, r => HarvesterCSI.Observes ns volume size op r
  | _, _ => False

theorem VolumeDisk.Answers.room {k : VolumeDisk} {op : NodeOp} {r : op.Res} {w w' : World}
    (h : k.Answers ns op w r w') (hseen : op.Observes ns k.volume size r) :
    size ≤ w.2.size k.device := by
  have hreports := h.reports
  cases op with
  | host op =>
    cases op with
    | getPVC ns' name =>
      cases r with
      | error e => exact hseen.elim
      | ok pvc => exact Int64.le_trans hseen.2.2 (hreports hseen.1 hseen.2.1)
    | _ => exact hseen.elim
  | _ => exact hseen.elim

theorem controllerExpand_attains {k : VolumeDisk} (cs : ControllerServer) {req : ExpandRequest}
    (hvolume : req.volumeId = k.volume) (hsize : req.requiredBytes = some size) (w : World) :
    Attains k.rely (k.Answers cs.ns) (fun _ w' => size ≤ w'.2.size k.device)
      (onHost (DriverCall.prog cs (.controllerExpandVolume ticks req))) w := by
  have hawaits : (DriverCall.prog cs (.controllerExpandVolume ticks req)).Awaits
      (Observes cs.ns k.volume size) fun _ => False :=
    (hvolume ▸ controllerExpandVolume_awaits hsize).bind fun _ => False.elim
  have hobserves : (onHost (DriverCall.prog cs (.controllerExpandVolume ticks req))).Awaits
      (NodeOp.Observes cs.ns k.volume size) fun _ => False :=
    hawaits.translate (f := NodeOp.host) fun _ _ hseen => hseen
  have hasks := SystemCall.asks cs ⟨"", ""⟩ (.controller (.controllerExpandVolume ticks req))
  have hmoves (s t : World) (h : k.rely.moves s t) (hs : size ≤ s.2.size k.device) :
      size ≤ t.2.size k.device :=
    Int64.le_trans hs h.disks.size
  refine Attains.of_awaits (fun op s r t h hseen => h.room hseen) hmoves ?_ hasks hobserves w
  exact fun op s r t hop h hs => hmoves s t (SystemCall.kept _ h hop) hs

/-- Once the controller has returned from an expansion, a call on the node that begins
after that and returns leaves a filesystem of the size that was asked for, and it stays
so, whatever else runs on the controller and on the node. The others leave the path to
this call, and the disk in its place. -/
theorem expansion_reaches_filesystem [DecidableEq ι] (cs : ControllerServer) (ns : NodeServer)
    (calls : ι → SystemCall) (w₀ : World) (k : VolumeDisk) (path : String) (hon : k.On w₀.1.2)
    {req : ExpandRequest} (hcontroller : calls m = .controller (.controllerExpandVolume ticks req))
    (hvolume : req.volumeId = k.volume) (hsize : req.requiredBytes = some size)
    (hapart : ∀ j, j ≠ i → (calls j).Apart path)
    (h₁ : Reach (k.relyAt path).moves (k.Answers cs.ns) anyStep (systemCalls cs ns calls w₀) c₁)
    (hexpanded : c₁.procs m = .ok ()) (hbegins : c₁.procs i = rpc.prog ns)
    (hgrown : k.Grown path c₁.state.1.2 rpc)
    (h₂ : Reach (k.relyAt path).moves (k.Answers cs.ns) anyStep c₁ c₂)
    (hreturned : c₂.procs i = .ok ()) :
    k.HasSize size c₂.state := by
  have henv (s t : World) (h : (k.relyAt path).moves s t) : k.rely.moves s t := h.1
  let step (j : ι) (s t : World) : Prop := (calls j).Apart path → PathKept path s t
  have hstart (j : ι) :
      Guarantees k.rely (k.Answers cs.ns) (step j) ((systemCalls cs ns calls w₀).procs j) w₀ := by
    refine Guarantees.of_uses ((calls j).asks cs ns) (fun op s r t hop h => ?_) w₀
    exact ⟨(calls j).kept h hop, (calls j).pathKept h hop⟩
  have hsteps (c) (hc : Reach (k.relyAt path).moves (k.Answers cs.ns) anyStep
    (systemCalls cs ns calls w₀) c) :=
    hc.guaranteed henv hstart rfl
  -- the controller has seen the size, and the disk has had it since
  have hroom : Attains k.rely (k.Answers cs.ns) (fun _ w => size ≤ w.2.size k.device) (c₁.procs m)
    c₁.state := by
    refine h₁.attains henv (fun c hc e he => ?_) ?_
    · have hstep := hsteps c hc e he
      cases e with
      | env => trivial
      | call => exact fun _ => hstep.1
    · simp only [systemCalls, hcontroller, SystemCall.prog]
      exact controllerExpand_attains cs hvolume hsize w₀
  rw [hexpanded] at hroom
  have hready : k.Ready size c₁.state :=
    ⟨(h₁.relies henv hstart rfl).on hon, hroom c₁.state (k.rely.refl _)⟩
  -- from there on the call on the node relies on the others
  have hattains : Attains (k.relyAt path) (k.Answers cs.ns) (fun _ => k.HasSize size) (c₂.procs i)
    c₂.state := by
    refine h₂.attains (fun _ _ h => h) (fun c hc e he => ?_) (hbegins ▸ hgrown.attains ns hready)
    have hstep := hsteps c (h₁.trans hc) e he
    cases e with
    | env => trivial
    | call j => exact fun hj => ⟨hstep.1, hstep.2 (hapart j hj)⟩
  rw [hreturned] at hattains
  exact hattains c₂.state ((k.relyAt path).refl _)

def VolumeDisk.reported (k : VolumeDisk) (ns : String) : NodeOp → World → Bool
  | .host (.getPVC ns' name), w => match (Cluster.serve (.getPVC ns' name) w.1.1).1 with
    | .ok pvc => decide (ns' = ns → name = k.volume → pvc.capacity.storageValue ≤ w.2.size k.device)
    | .error _ => true
  | _, _ => true

theorem VolumeDisk.answers_served {k : VolumeDisk} (op : NodeOp) (w : World)
    (h : k.reported ns op w = true) :
    k.Answers ns op w (World.serve op w).1 (World.serve op w).2 := by
  refine ⟨.inl rfl, ?_⟩
  cases op with
  | host op =>
    cases op with
    | getPVC ns' name =>
      simp only [VolumeDisk.reported] at h
      simp only [VolumeDisk.Reports, World.serve, Guest.serve]
      split at h
      · next pvc hpvc =>
        rw [hpvc]
        exact of_decide_eq_true h
      · next e hpvc =>
        rw [hpvc]
        trivial
    | _ => trivial
  | _ => trivial

def Disks.enlarge (d : Disks) (device : String) (size : Int64) : Disks where
  size := Function.update d.size device (if d.size device ≤ size then size else d.size device)
  fs := d.fs
  fits other f hf := by
    refine Int64.le_trans (d.fits other f hf) ?_
    by_cases h : other = device
    · subst h
      rw [Function.update_self]
      split
      · assumption
      · exact Int64.le_refl _
    · rw [Function.update_of_ne h]
      exact Int64.le_refl _

theorem Disks.extends_enlarge (d : Disks) (device : String) (size : Int64) :
    d.Extends device (d.enlarge device size) := by
  refine ⟨?_, fun f hf => ⟨f, hf, Int64.le_refl _⟩⟩
  simp only [enlarge, Function.update_self]
  split
  · assumption
  · exact Int64.le_refl _

def usedHost : Cluster :=
  { Cluster.empty.setPVC smallClaim with
    hostPods := [⟨"ns", "virt-launcher-n1", true, ["v"]⟩]
    settings := Store.empty.put { name := csiOnlineExpandValidation } }

def usedGuest : Guest where
  links := [⟨"scsi-v", "/dev/sda"⟩]
  sorted := List.pairwise_singleton ..
  dirs := ["/pods/v"]
  mounts := [{ source := "/dev/sda", target := "/pods/v", fsType := fsTypeExt4 }]

def usedDisks : Disks where
  size _ := 1073741824
  fs _ := some ⟨fsTypeExt4, 1073741824⟩
  fits _ _ hf := by
    cases hf
    exact Int64.le_refl _

def usedDisk : VolumeDisk := ⟨"v", "scsi-v", "/dev/sda"⟩

def expandInUse (i : Bool) : SystemCall :=
  if i then .controller (.controllerExpandVolume 1 (expandTo 2147483648))
  else .node (.nodeExpandVolume
    ⟨"v", "/pods/v", some { mount := true, accessMode := some .singleNodeWriter }, none⟩)

def claimWritten : SystemPool Bool World :=
  (systemCalls exampleServer ⟨"guest", "n1"⟩ expandInUse ((usedHost, usedGuest), usedDisks)).turns
    World.serve [true, true, true, true]

def diskEnlarged : World :=
  ((claimWritten.state.1.1.setPVC { smallClaim with capacity := { storage := some 2147483648 } },
    claimWritten.state.1.2), claimWritten.state.2.enlarge "/dev/sda" 2147483648)

def controllerReturned : SystemPool Bool World :=
  Pool.turns World.serve
    { claimWritten with
      state := diskEnlarged
      history := .env claimWritten.state diskEnlarged :: claimWritten.history }
    [true, true]

def nodeReturned : SystemPool Bool World :=
  controllerReturned.turns World.serve [false, false, false, false, false, false]

theorem usedDisk_on : usedDisk.On usedGuest := ⟨by decide +kernel, by decide +kernel⟩

theorem expansion_reaches_mounted_filesystem : usedDisk.HasSize 2147483648 nodeReturned.state := by
  let reach := Reach (usedDisk.relyAt "/pods/v").moves (usedDisk.Answers "ns")
    (anyStep (ι := Bool) (ε := Err) (α := Unit))
  have hserved (c : SystemPool Bool World) (i op k) (hp : c.procs i = .call op k)
      (h : c.next (usedDisk.reported "ns") i = true) :=
    And.intro (usedDisk.answers_served op c.state (Pool.next_call hp h)) trivial
  have hwritten : reach (systemCalls exampleServer ⟨"guest", "n1"⟩ expandInUse
      ((usedHost, usedGuest), usedDisks)) claimWritten :=
    Reach.start.turns_checked hserved (by decide +kernel)
  have henlarged := hwritten.env (s := diskEnlarged) ⟨⟨id, Disks.extends_enlarge ..⟩, id, id⟩
  have hcontroller : reach _ controllerReturned :=
    henlarged.turns_checked hserved (by decide +kernel)
  have hnode : reach controllerReturned nodeReturned :=
    Reach.start.turns_checked hserved (by decide +kernel)
  have hapart (j : Bool) (hj : j ≠ false) : (expandInUse j).Apart "/pods/v" := by
    rw [Bool.eq_true_of_not_eq_false hj]
    trivial
  exact expansion_reaches_filesystem (m := true) exampleServer ⟨"guest", "n1"⟩ expandInUse _
    usedDisk "/pods/v" usedDisk_on
    rfl rfl rfl hapart hcontroller rfl rfl (.expand rfl rfl (by decide +kernel)) hnode rfl

end HarvesterCSI
