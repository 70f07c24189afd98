import HarvesterCSI.Laws.NodePaths
import HarvesterCSI.Laws.Plugged

/-!
# A volume that was taken away

The controller takes a volume out of the machine of a node, and answers once it is out of
the status of the instance too. The node reads this status before it looks for a disk, and
so it does not put on a path what the controller has taken away, even if the link to an
old device is still there.
-/

namespace HarvesterCSI

open Calls Calls.Prog

def HonestHost : (op : NodeOp) → Cluster × Guest → op.Res → Cluster × Guest → Prop
  | .host op, s, r, t => Honest op s.1 r t.1 ∧ t.2 = s.2
  | op, s, r, t => Falters op s r t

def SystemCall.Effect (cs : ControllerServer) (s t : Cluster) : SystemCall → Prop
  | .controller rpc => HarvesterCSI.Effect cs .any rpc s t
  | .node _ => t = s

theorem Op.Reads.keeps (h : op.Reads) : Op.Keeps op := by
  cases op <;> trivial

section
variable {cs : ControllerServer} {ns : NodeServer} {s t : Cluster × Guest}

/-- A call of the node service writes nothing to the host. -/
theorem HonestHost.host_eq {op : NodeOp} {r : op.Res} (h : HonestHost op s r t)
    (hop : op.Within path parent) : t.1 = s.1 := by
  cases op with
  | host op => exact (Op.Reads.keeps hop).state h.1.1
  | _ => exact (Falters.within (r := r) h hop).host

theorem SystemCall.guarantees (rpc : SystemCall) (hs : Versioned s.1) :
    Guarantees (versions.comap Prod.fst) HonestHost (fun s t => rpc.Effect cs s.1 t.1)
      (rpc.prog cs ns) s := by
  cases rpc with
  | controller rpc => exact (rpc.acts_any cs hs).translate fun _ _ _ _ h => h.1.1
  | node rpc =>
    refine Guarantees.of_uses (rpc.within ns) (fun op s r t hop h => ?_) s
    have hhost := h.host_eq hop
    have hmove : VersionMoves s.1 t.1 := hhost ▸ versions.refl s.1
    exact ⟨hmove, hhost⟩

/-- The call does not move the volume into or out of the machine of the node. -/
def SystemCall.Leaves (node v : String) : SystemCall → Prop
  | .controller rpc => ¬ rpc.Plugs node v ∧ ¬ rpc.Unplugs node v ∧ ¬ rpc.Creates v
  | .node _ => True

theorem SystemCall.Effect.keepsOut {rpc : SystemCall} {node v : String}
    (h : rpc.Effect cs s.1 t.1) (hleaves : rpc.Leaves node v) (hmove : VersionMoves s.1 t.1) :
    ((unpluggedKept cs.ns node v).comap Prod.fst).moves s t := by
  cases rpc with
  | controller rpc =>
    exact HarvesterCSI.Effect.unpluggedKept h hleaves.1 hleaves.2.1 hleaves.2.2 hmove
  | node rpc =>
    have hsame : t.1 = s.1 := h
    have hmoves : (unpluggedKept cs.ns node v).moves s.1 t.1 :=
      hsame ▸ (unpluggedKept cs.ns node v).refl s.1
    exact hmoves

theorem hasVolume_of_ready {vmi : VirtualMachineInstance}
    (h : NodeServer.hotPlugDiskReady vmi v = true) :
    vmi.hasVolume v = true := by
  obtain ⟨st, hst, hready⟩ := List.any_eq_true.mp h
  have hready := of_decide_eq_true hready
  exact List.any_eq_true.mpr ⟨st, hst, decide_eq_true ⟨hready.1, hready.2.1⟩⟩

/-- The first request of a publish is for the instance, and the last if the volume is not
in its status. -/
theorem publish_refused {req : NodePublishRequest} {op : NodeOp} {r : op.Res}
    {k : op.Res → NodeApi Unit} (hcap : req.volumeCapability = some cap)
    (hmode : cap.mode = .singleNodeWriter) (hp : ns.nodePublishVolume req = .call op k)
    (h : HonestHost op s r t) (hout : s.1.inVMI ns.ns ns.nodeID req.volumeId = false) :
    ∃ e, k r = .error e := by
  unfold NodeServer.nodePublishVolume at hp
  split at hp
  · cases hp
  · simp only [hcap, hmode, reduceCtorEq, if_false, if_true, NodeServer.nodePublishRWOVolume,
      NodeServer.readyDevice, request_bind, call_bind] at hp
    cases hp
    cases r with
    | error e => exact ⟨_, rfl⟩
    | ok vmi =>
      have hread : s.1.vmis.get (ns.ns, ns.nodeID) = some vmi :=
        found_eq_ok.mp (congrArg Prod.fst h.1.1.served)
      have hready : NodeServer.hotPlugDiskReady vmi req.volumeId = false := by
        refine Bool.eq_false_iff.mpr fun hready => ?_
        rw [Cluster.inVMI, hread] at hout
        exact absurd (hasVolume_of_ready hready) (Bool.eq_false_iff.mp hout)
      simp only [hready, Bool.not_false, if_true]
      exact ⟨_, rfl⟩

end

/-- Once an unpublish of a block volume has returned, and as long as nobody plugs it in
again, a publish on the node that begins after that gets nowhere: it fails at its first
request, before it has touched a path, whatever else runs and whatever is left of the
device. -/
theorem detached_not_mounted [DecidableEq ι] (cs : ControllerServer) (ns : NodeServer)
    (calls : ι → SystemCall) (req : UnpublishRequest)
    (hcall : calls m = .controller (.controllerUnpublishVolume req)) (hns : ns.ns = cs.ns)
    (hnode : ns.nodeID = req.nodeId)
    (hleaves : ∀ j, j ≠ m → (calls j).Leaves req.nodeId req.volumeId) (s₀ : Cluster × Guest)
    (hs : Versioned s₀.1) (hblock : s₀.1.OnBlock cs.ns req.volumeId)
    (h₁ : Reach ((unpluggedKept cs.ns req.nodeId req.volumeId).comap Prod.fst).moves HonestHost
      anyStep (systemCalls cs ns calls s₀) c₁)
    (hreturned : c₁.procs m = .ok ()) {publish : NodePublishRequest}
    (hvolume : publish.volumeId = req.volumeId)
    (hcap : publish.volumeCapability = some cap) (hmode : cap.mode = .singleNodeWriter)
    (hbegins : c₁.procs i = ns.nodePublishVolume publish)
    (h₂ : Reach ((unpluggedKept cs.ns req.nodeId req.volumeId).comap Prod.fst).moves HonestHost
      anyStep c₁ c₂) :
    c₂.procs i = ns.nodePublishVolume publish ∨ ∃ e, c₂.procs i = .error e := by
  let R :=
    (unpluggedKept cs.ns req.nodeId req.volumeId).comap (Prod.fst : Cluster × Guest → Cluster)
  let out (s : Cluster × Guest) : Prop :=
    s.1.inVM cs.ns req.nodeId req.volumeId = false ∧ s.1.inVMI cs.ns req.nodeId req.volumeId = false
  have hmoves (c) (hc : Reach R.moves HonestHost anyStep (systemCalls cs ns calls s₀) c) (e)
      (he : e ∈ c.history) : e.All fun j _ s _ t _ => j ≠ m → R.moves s t := by
    have hstep :=
      hc.guaranteed (fun _ _ hmove => hmove.1) (fun j => (calls j).guarantees hs) rfl e he
    cases e with
    | env => trivial
    | call j => exact fun hj => SystemCall.Effect.keepsOut hstep.2 (hleaves j hj) hstep.1
  -- the unpublish has seen that the volume is out, and it is out since
  have hattains : Attains R HonestHost (fun _ => out) (c₁.procs m) c₁.state := by
    refine h₁.attains (fun _ _ hmove => hmove) hmoves ?_
    simp only [systemCalls, hcall, SystemCall.prog]
    exact Attains.translate (fun _ _ _ _ h => h.1)
      (ControllerServer.controllerUnpublishVolume_unplugged (s := s₀.1) req hblock)
  rw [hreturned] at hattains
  have hout : out c₁.state := hattains c₁.state (R.refl _)
  have hkept (s t) (hs : out s) (hmove : R.moves s t) : out t :=
    ⟨hmove.2.1.trans hs.1, hmove.2.2.1 hs.1 hs.2⟩
  -- and so the publish sees no disk
  let inv (c : SystemPool ι (Cluster × Guest)) : Prop :=
    c.procs m = .ok () ∧ out c.state ∧
      (c.procs i = ns.nodePublishVolume publish ∨ ∃ e, c.procs i = .error e)
  have hinv : inv c₂ := by
    refine h₂.invariant (fun c hc => hmoves c (h₁.trans hc)) ⟨hreturned, hout, .inl hbegins⟩ ?_ ?_
    · exact fun c s ⟨hm, hs, hi⟩ hmove => ⟨hm, hkept _ _ hs hmove, hi⟩
    · intro c j op k r t ⟨hm, hs, hi⟩ hp ha _ hmove
      have hjm : j ≠ m := by
        rintro rfl
        cases hm.symm.trans hp
      refine ⟨by simpa [Function.update_of_ne hjm.symm] using hm, hkept _ _ hs (hmove hjm), ?_⟩
      by_cases hji : i = j
      · subst hji
        rcases hi with hi | ⟨e, he⟩
        · have hout := hs.2
          rw [← hns, ← hnode, ← hvolume] at hout
          obtain ⟨e, he⟩ := publish_refused hcap hmode (hi.symm.trans hp) ha hout
          exact .inr ⟨e, by simpa using he⟩
        · cases he.symm.trans hp
      · simpa [Function.update_of_ne hji] using hi
  exact hinv.2.2

/-- The volume is out already, but the link to its device is left. -/
def detachedHost : Cluster :=
  (pluggedCluster.setVM { ns := "ns", name := "n", volumes := some [], disks := some [] }).setVMI
  (liveVolumes [])

def staleGuest : Guest where
  links := [⟨"scsi-w", "/dev/sda"⟩]
  sorted := List.pairwise_singleton ..

def publishStale : NodePublishRequest :=
  ⟨"w", "/pods/w", "", some { mount := true, accessMode := some .singleNodeWriter }⟩

def detachAndPublish (i : Bool) : SystemCall :=
  if i then .controller (.controllerUnpublishVolume ⟨"w", "n"⟩)
  else .node (.nodePublishVolume publishStale)

def volumeDetached : SystemPool Bool (Cluster × Guest) :=
  (systemCalls exampleServer ⟨"ns", "n"⟩ detachAndPublish (detachedHost, staleGuest)).turns
    Guest.serve [true, true, true]

theorem HonestHost.served (op : NodeOp) (s : Cluster × Guest) :
    HonestHost op s (Guest.serve op s).1 (Guest.serve op s).2 := by
  cases op with
  | host op => exact ⟨⟨.inl rfl, fun _ _ _ => rfl⟩, rfl⟩
  | _ => exact .inr rfl

theorem detached_not_mounted_by_stale_link :
    volumeDetached.procs true = .ok () ∧
      ((volumeDetached.turns Guest.serve [false]).procs false =
          NodeServer.nodePublishVolume ⟨"ns", "n"⟩ publishStale ∨
        ∃ e, (volumeDetached.turns Guest.serve [false]).procs false = .error e) := by
  have hreturned : volumeDetached.procs true = .ok () := rfl
  have hleaves (j : Bool) (hj : j ≠ true) : (detachAndPublish j).Leaves "n" "w" := by
    rw [Bool.eq_false_iff.mpr hj]
    trivial
  have hversioned : Versioned detachedHost :=
    (VersionMoves.setVMI _ _).versioned
      ((VersionMoves.setVM _ _).versioned pluggedCluster_versioned)
  have hblock : detachedHost.OnBlock "ns" "w" := by
    intro pvc hget
    cases hget
    decide
  exact ⟨hreturned, detached_not_mounted exampleServer ⟨"ns", "n"⟩ detachAndPublish ⟨"w", "n"⟩
    rfl rfl rfl hleaves (detachedHost, staleGuest) hversioned hblock
    (.turns HonestHost.served _ .start) hreturned rfl rfl rfl rfl
    (.turns HonestHost.served [false] .start)⟩

end HarvesterCSI
