import HarvesterCSI.Controller.Attach
import HarvesterCSI.Laws.Create

/-!
# Waiting for older attachments

Before a block volume is attached to a node, no attachment of it to another node may
be left, neither on the host nor in the guest. Both lists hold the attachments of
every driver in the cluster, and one of a volume given inline names no volume.
-/

namespace HarvesterCSI

open Calls Calls.Prog

def VolumeAttachment.Foreign (volume node : String) (va : VolumeAttachment) : Prop :=
  va.persistentVolumeName = some volume ∧ va.nodeName ≠ node

instance (volume node : String) (va : VolumeAttachment) : Decidable (va.Foreign volume node) :=
  inferInstanceAs (Decidable (_ ∧ _))

structure AttachmentsChecked (cs : ControllerServer) (pvc : PVC) (nodeID hostNode : String)
    (s : Cluster) : Prop where
  total : ∃ settled, run Cluster.serve (cs.waitForVASettled pvc nodeID) s = (.ok settled, s)
  exact : run Cluster.serve (cs.waitForVASettled pvc nodeID) s = (.ok true, s) ↔
    (∀ va ∈ s.hostVAs, ¬ va.Foreign pvc.volumeName hostNode) ∧
      ∀ va ∈ s.guestVAs, va.attached = true → ¬ va.Foreign pvc.name nodeID

/-- One without a name comes before any foreign one. -/
def InlineFirst (volume node : String) (vas : List VolumeAttachment) : Prop :=
  ∃ before va after, vas = before ++ va :: after ∧ va.persistentVolumeName = none ∧
    ∀ v ∈ before, ¬ v.Foreign volume node

section
variable {volume node : String} {va : VolumeAttachment} {vas : List VolumeAttachment}

theorem InlineFirst.head (h : va.persistentVolumeName = none) :
    InlineFirst volume node (va :: vas) :=
  ⟨[], va, vas, rfl, h, by simp⟩

theorem inlineFirst_nil : ¬ InlineFirst volume node [] := by
  rintro ⟨before, va, after, h, -⟩
  simp at h

theorem inlineFirst_cons (h : va.persistentVolumeName ≠ none) :
    InlineFirst volume node (va :: vas) ↔
      ¬ va.Foreign volume node ∧ InlineFirst volume node vas := by
  constructor
  · rintro ⟨before, v, after, heq, hname, hbefore⟩
    cases before with
    | nil =>
      cases heq
      exact absurd hname h
    | cons first before =>
      cases heq
      obtain ⟨hfirst, hbefore⟩ := List.forall_mem_cons.mp hbefore
      exact ⟨hfirst, before, v, after, rfl, hname, hbefore⟩
  · rintro ⟨hfirst, before, v, after, rfl, hname, hbefore⟩
    exact ⟨va :: before, v, after, rfl, hname, List.forall_mem_cons.mpr ⟨hfirst, hbefore⟩⟩

end

namespace ControllerServer

/-- The loop over the host's attachments stops at the first that has no name or is
foreign. -/
theorem checkHostVA_go_cases (pvc : PVC) (target : String) (vas : List VolumeAttachment) :
    InlineFirst pvc.volumeName target vas ∧ checkHostVA.go pvc target vas = .panic ∨
      ¬ InlineFirst pvc.volumeName target vas ∧
        ∃ settled, checkHostVA.go pvc target vas = .ok settled ∧
          (settled = true ↔ ∀ va ∈ vas, ¬ va.Foreign pvc.volumeName target) := by
  induction vas with
  | nil => exact .inr ⟨inlineFirst_nil, true, rfl, by simp⟩
  | cons va rest ih =>
    cases hname : va.persistentVolumeName with
    | none => exact .inl ⟨.head hname, by simp [checkHostVA.go, hname]⟩
    | some name =>
      have hforeign :
          va.Foreign pvc.volumeName target ↔ name = pvc.volumeName ∧ va.nodeName ≠ target := by
        simp [VolumeAttachment.Foreign, hname]
      have hnamed : va.persistentVolumeName ≠ none := by simp [hname]
      simp only [inlineFirst_cons hnamed, List.forall_mem_cons, hforeign, checkHostVA.go, hname]
      by_cases hother : name = pvc.volumeName ∧ va.nodeName ≠ target
      · exact .inr ⟨fun h => h.1 hother, false, if_pos hother, by simp [hother]⟩
      · rw [if_neg hother]
        simpa [hother] using ih

theorem checkGuestVA_go_eq (pvc : PVC) (nodeID : String) (vas : List VolumeAttachment) :
    checkGuestVA.go pvc nodeID vas =
      checkHostVA.go { pvc with volumeName := pvc.name } nodeID (vas.filter (·.attached)) := by
  induction vas with
  | nil => rfl
  | cons va rest ih =>
    cases hattached : va.attached with
    | false => simp [checkGuestVA.go, hattached, ih]
    | true => simp [checkGuestVA.go, checkHostVA.go, hattached, ih]

theorem checkGuestVA_go_cases (pvc : PVC) (nodeID : String) (vas : List VolumeAttachment) :
    InlineFirst pvc.name nodeID (vas.filter (·.attached)) ∧
      checkGuestVA.go pvc nodeID vas = .panic ∨
      ¬ InlineFirst pvc.name nodeID (vas.filter (·.attached)) ∧
        ∃ settled, checkGuestVA.go pvc nodeID vas = .ok settled ∧
          (settled = true ↔ ∀ va ∈ vas, va.attached = true → ¬ va.Foreign pvc.name nodeID) := by
  rw [checkGuestVA_go_eq]
  simpa using checkHostVA_go_cases { pvc with volumeName := pvc.name } nodeID
    (vas.filter (·.attached))

theorem waitForVASettled_run {cs : ControllerServer} (hmode : pvc.volumeMode = some .block)
    (hvmi : s.vmis.get (cs.ns, nodeID) = some vmi) :
    run Cluster.serve (cs.waitForVASettled pvc nodeID) s =
      run Cluster.serve (checkHostVA.go pvc vmi.nodeName s.hostVAs >>= fun settled =>
        if settled then checkGuestVA.go pvc nodeID s.guestVAs else .ok false) s := by
  rcases checkHostVA_go_cases pvc vmi.nodeName s.hostVAs with ⟨-, hgo⟩ | ⟨-, settled, hgo, -⟩
  · simp [waitForVASettled, checkHostVA, Cluster.serve, hmode, hvmi, hgo]
  · cases settled <;>
      simp [waitForVASettled, checkHostVA, checkGuestVA, Cluster.serve, hmode, hvmi, hgo]

end ControllerServer

/-- The check of a block volume is right exactly if on the host no attachment without a
name comes before the first foreign one and, unless there is such a foreign one, none
does among those attached in the guest. -/
theorem attachments_checked_iff {cs : ControllerServer} {pvc : PVC} {nodeID : String}
    {vmi : VirtualMachineInstance} {s : Cluster} (hmode : pvc.volumeMode = some .block)
    (hvmi : s.vmis.get (cs.ns, nodeID) = some vmi) :
    AttachmentsChecked cs pvc nodeID vmi.nodeName s ↔
      ¬ InlineFirst pvc.volumeName vmi.nodeName s.hostVAs ∧
        ((∀ va ∈ s.hostVAs, ¬ va.Foreign pvc.volumeName vmi.nodeName) →
          ¬ InlineFirst pvc.name nodeID (s.guestVAs.filter (·.attached))) := by
  have hrun := ControllerServer.waitForVASettled_run hmode hvmi
  rcases ControllerServer.checkHostVA_go_cases pvc vmi.nodeName s.hostVAs with
    ⟨hinline, hpanic⟩ | ⟨hinline, settled, hhost, hforeign⟩
  · rw [hpanic, panic_bind, run_panic] at hrun
    refine ⟨fun h => ?_, fun h => absurd hinline h.1⟩
    obtain ⟨settled, hok⟩ := h.total
    exact absurd (hrun.symm.trans hok) (by simp)
  · rw [hhost, ok_bind] at hrun
    cases settled with
    | false =>
      -- a foreign attachment on the host decides
      have hnot : ¬ ∀ va ∈ s.hostVAs, ¬ va.Foreign pvc.volumeName vmi.nodeName := by
        simpa using hforeign
      rw [if_neg Bool.false_ne_true, run_ok] at hrun
      exact ⟨fun _ => ⟨hinline, fun h => absurd h hnot⟩,
        fun _ => ⟨⟨false, hrun⟩, by simp [hrun], fun h => absurd h.1 hnot⟩⟩
    | true =>
      have hnone := hforeign.mp rfl
      rw [if_pos rfl] at hrun
      rcases ControllerServer.checkGuestVA_go_cases pvc nodeID s.guestVAs with
        ⟨hguest, hpanic⟩ | ⟨hguest, settled, hgo, hattached⟩
      · rw [hpanic, run_panic] at hrun
        refine ⟨fun h => ?_, fun h => absurd hguest (h.2 hnone)⟩
        obtain ⟨settled, hok⟩ := h.total
        exact absurd (hrun.symm.trans hok) (by simp)
      · rw [hgo, run_ok] at hrun
        refine ⟨fun _ => ⟨hinline, fun _ => hguest⟩, fun _ => ⟨⟨settled, hrun⟩, ?_⟩⟩
        rw [hrun, ← hattached]
        simp only [Prod.mk.injEq, Outcome.ok.injEq, and_true]
        exact ⟨fun h => ⟨hnone, h⟩, fun h => h.2⟩

def checkedClaim : PVC where
  ns := "ns"
  name := "pvc"
  volumeMode := some .block
  volumeName := "pv"

def checkedHost (hostVAs guestVAs : List VolumeAttachment) : Cluster :=
  { Cluster.empty with
    vmis := Cluster.empty.vmis.put { ns := "ns", name := "node", nodeName := "host" }
    hostVAs := hostVAs
    guestVAs := guestVAs }

theorem attachments_checked_foreign :
    AttachmentsChecked exampleServer checkedClaim "node" "host"
      (checkedHost [⟨some "pv", "other", true⟩, ⟨none, "host", true⟩] []) := by
  have hother : (⟨some "pv", "other", true⟩ : VolumeAttachment).Foreign "pv" "host" := by decide
  have hvmi : (checkedHost [⟨some "pv", "other", true⟩, ⟨none, "host", true⟩] []).vmis.get
      (exampleServer.ns, "node") = some { ns := "ns", name := "node", nodeName := "host" } := rfl
  refine (attachments_checked_iff rfl hvmi).mpr ?_
  refine ⟨?_, fun hnone => absurd hother (hnone _ List.mem_cons_self)⟩
  rw [checkedHost, inlineFirst_cons (by simp)]
  exact fun h => h.1 hother

/-- The attachment of a volume that was given inline. -/
theorem inline_attachment_breaks :
    run Cluster.serve (exampleServer.waitForVASettled checkedClaim "node")
        (checkedHost [⟨none, "host", true⟩] []) = (.panic, checkedHost [⟨none, "host", true⟩] []) ∧
      ¬ AttachmentsChecked exampleServer checkedClaim "node" "host"
        (checkedHost [⟨none, "host", true⟩] []) := by
  have hrun : run Cluster.serve (exampleServer.waitForVASettled checkedClaim "node")
      (checkedHost [⟨none, "host", true⟩] []) = (.panic, checkedHost [⟨none, "host", true⟩] []) :=
    rfl
  refine ⟨hrun, fun h => ?_⟩
  obtain ⟨settled, hok⟩ := h.total
  exact absurd (hrun.symm.trans hok) (by simp)

end HarvesterCSI
