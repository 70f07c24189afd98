import HarvesterCSI.Manager
import Mathlib.Data.List.Forall2

/-!
# Finding the machine of a node

A node and a machine instance are taken for the same when they share a MAC. Two
MACs do not count: all nodes have them.
-/

namespace HarvesterCSI

open Calls
open Net (HardwareAddr parseMAC)

-- ---------------------------------------------------------------------------
-- Shared MACs
-- ---------------------------------------------------------------------------

def calicoMac : HardwareAddr := ⟨List.replicate 6 0xee⟩
def zeroMac : HardwareAddr := ⟨List.replicate 6 0⟩

def Excluded (mac : HardwareAddr) : Prop := mac = calicoMac ∨ mac = zeroMac

instance : DecidablePred Excluded := fun _ => inferInstanceAs (Decidable (_ ∨ _))

def SharesMac (ifaces : List Interface) (vmi : VirtualMachineInstance) : Prop :=
  ∃ iface ∈ ifaces, ¬ Excluded iface.hardwareAddr ∧
    ∃ text ∈ vmi.interfaces, parseMAC text = some iface.hardwareAddr

instance (ifaces : List Interface) : DecidablePred (SharesMac ifaces) := fun vmi =>
  inferInstanceAs (Decidable (∃ iface ∈ ifaces, ¬ Excluded iface.hardwareAddr ∧
    ∃ text ∈ vmi.interfaces, parseMAC text = some iface.hardwareAddr))

theorem excluded_iff (mac : HardwareAddr) :
    (mac.text = calicoMacAddress || mac.text = loopBackMacAddress) = true ↔ Excluded mac := by
  have hcalico : calicoMac.text = calicoMacAddress := by decide +kernel
  have hzero : zeroMac.text = loopBackMacAddress := by decide +kernel
  rw [← hcalico, ← hzero, Bool.or_eq_true, decide_eq_true_iff, decide_eq_true_iff,
    HardwareAddr.text_injective.eq_iff, HardwareAddr.text_injective.eq_iff]
  rfl

theorem mem_nodeMacs {ifaces : List Interface} : mac ∈ nodeMacs ifaces ↔
    ∃ iface ∈ ifaces, ¬ Excluded iface.hardwareAddr ∧ iface.hardwareAddr.text = mac := by
  simp only [nodeMacs, List.mem_filter, List.mem_map]
  constructor
  · rintro ⟨⟨iface, hiface, rfl⟩, hnot⟩
    refine ⟨iface, hiface, ?_, rfl⟩
    rw [← excluded_iff]
    simpa using hnot
  · rintro ⟨iface, hiface, hnot, rfl⟩
    rw [← excluded_iff] at hnot
    exact ⟨⟨iface, hiface, rfl⟩, by simpa using hnot⟩

theorem matchesMacs_eq (ifaces : List Interface) (vmi : VirtualMachineInstance) :
    matchesMacs (nodeMacs ifaces) vmi.interfaces = decide (SharesMac ifaces vmi) := by
  rw [Bool.eq_iff_iff, decide_eq_true_iff, matchesMacs, List.any_eq_true]
  constructor
  · rintro ⟨text, htext, hmatch⟩
    split at hmatch
    · rename_i mac hparse
      obtain ⟨iface, hiface, hnot, hmac⟩ := mem_nodeMacs.mp (by simpa using hmatch)
      exact ⟨iface, hiface, hnot, text, htext, HardwareAddr.text_injective hmac ▸ hparse⟩
    · cases hmatch
  · rintro ⟨iface, hiface, hnot, text, htext, hparse⟩
    refine ⟨text, htext, ?_⟩
    rw [hparse]
    simpa using mem_nodeMacs.mpr ⟨iface, hiface, hnot, rfl⟩

-- ---------------------------------------------------------------------------
-- The search
-- ---------------------------------------------------------------------------

/-- A server that lists the instances, and fails to get one by `fault`, if any. -/
def listServer (fault : Option ApiError) : (op : Op) → Cluster → op.Res × Cluster
  | .getVMI ns name, s => match fault with
    | some e => (.error e, s)
    | none => Cluster.serve (.getVMI ns name) s
  | op, s => Cluster.serve op s

/-- The own instance if it shares a MAC, or else the first one listed that does. -/
def ownOrFirst (nodeID : String) (ifaces : List Interface) (own : Option VirtualMachineInstance)
    (vmis : List VirtualMachineInstance) : Outcome Err String :=
  if own.any (fun vmi => SharesMac ifaces vmi) then .ok nodeID
  else match vmis.find? fun vmi => SharesMac ifaces vmi with
    | some vmi => .ok vmi.name
    | none => .error errVMINotFound

theorem ownOrFirst_cases (nodeID : String) (ifaces : List Interface)
    (own : Option VirtualMachineInstance) (vmis : List VirtualMachineInstance) :
    (∃ name, ownOrFirst nodeID ifaces own vmis = .ok name) ∨
      ownOrFirst nodeID ifaces own vmis = .error errVMINotFound := by
  unfold ownOrFirst
  split
  · exact .inl ⟨_, rfl⟩
  · split
    · exact .inl ⟨_, rfl⟩
    · exact .inr rfl

def instancesIn (ns : String) (s : Cluster) : List VirtualMachineInstance :=
  s.vmis.items.filter (·.ns = ns)

def ownInstance (fault : Option ApiError) (ns nodeID : String) (s : Cluster) :
    Option VirtualMachineInstance :=
  match fault with
  | some _ => none
  | none => s.vmis.get (ns, nodeID)

theorem run_search (fault : Option ApiError) (ns nodeID : String) (ifaces : List Interface)
    (s : Cluster) :
    run (listServer fault) (discoverVMIName.search ns (nodeMacs ifaces)) s =
      (ownOrFirst nodeID ifaces none (instancesIn ns s), s) := by
  have hlist : listServer fault (.listVMIs ns) s = (.ok (instancesIn ns s), s) := rfl
  simp only [discoverVMIName.search, Prog.request_bind, run_call, hlist, matchesMacs_eq, ownOrFirst,
    Option.any_none, Bool.false_eq_true, if_false]
  cases (instancesIn ns s).find? fun vmi => SharesMac ifaces vmi <;> rfl

theorem run_discoverVMIName (fault : Option ApiError) (ns nodeID : String) (ifaces : List Interface)
    (s : Cluster) :
    run (listServer fault) (discoverVMIName ns nodeID ifaces) s =
      (ownOrFirst nodeID ifaces (ownInstance fault ns nodeID s) (instancesIn ns s), s) := by
  rw [discoverVMIName]
  split
  · -- nothing is asked for a node without interfaces
    rename_i hnone
    have hshares (vmi : VirtualMachineInstance) : decide (SharesMac ifaces vmi) = false := by
      simp [SharesMac, hnone]
    have hown : (ownInstance fault ns nodeID s).any (fun vmi => SharesMac ifaces vmi) = false := by
      cases ownInstance fault ns nodeID s <;> simp [hshares]
    have hfirst : (instancesIn ns s).find? (fun vmi => SharesMac ifaces vmi) = none :=
      List.find?_eq_none.mpr fun vmi _ => by simp [hshares]
    simp only [run_error, ownOrFirst, hown, hfirst, Bool.false_eq_true, if_false]
  · simp only [Prog.request_bind, run_call]
    have hget : listServer fault (.getVMI ns nodeID) s =
        (match ownInstance fault ns nodeID s with
          | some vmi => .ok vmi
          | none =>
            .error (fault.getD (missing "virtualmachineinstances.kubevirt.io" nodeID)), s) := by
      cases fault with
      | some e => rfl
      | none =>
        simp only [listServer, ownInstance, Cluster.serve]
        cases s.vmis.get (ns, nodeID) <;> rfl
    rw [hget]
    cases hown : ownInstance fault ns nodeID s with
    | none => exact run_search fault ns nodeID ifaces s
    | some vmi =>
      have hname : vmi.name = nodeID := by
        cases fault with
        | some e => cases hown
        | none => exact congrArg Prod.snd (Store.get_key hown)
      dsimp only
      rw [matchesMacs_eq]
      by_cases hshares : SharesMac ifaces vmi
      · simp [hshares, ownOrFirst, hname]
      · have hsame : ownOrFirst nodeID ifaces (some vmi) (instancesIn ns s) =
            ownOrFirst nodeID ifaces none (instancesIn ns s) := by simp [ownOrFirst, hshares]
        rw [if_neg (by simpa using hshares), run_search fault ns nodeID, hsame]

/-- When the instances can be listed the driver starts, under its configured name if
none of them shares a MAC with the node. -/
theorem run_resolveNodeID (fault : Option ApiError) (ns nodeID : String)
    (dents : Except OsError (List NetEntry)) (s : Cluster) :
    run (listServer fault) (resolveNodeID ns nodeID dents) s =
      (match ownOrFirst nodeID ((interfaces dents).toOption.getD []) (ownInstance fault ns nodeID s)
          (instancesIn ns s) with
        | .ok name => .ok name
        | _ => .ok nodeID, s) := by
  rw [resolveNodeID, run_orElse, run_discoverVMIName]
  rcases ownOrFirst_cases nodeID _ (ownInstance fault ns nodeID s) (instancesIn ns s) with
    ⟨name, h⟩ | h
  · rw [h]
  · simp [h]

-- ---------------------------------------------------------------------------
-- MACs that do not count
-- ---------------------------------------------------------------------------

def countedIfaces (ifaces : List Interface) : List Interface :=
  ifaces.filter fun iface => ¬ Excluded iface.hardwareAddr

/-- Those of an instance, the ones that cannot be read included. -/
def countedTexts (vmi : VirtualMachineInstance) : List String :=
  vmi.interfaces.filter fun text => !(parseMAC text).any fun mac => Excluded mac

/-- The same instance, but for interfaces whose MACs do not count. -/
def SameInstance (vmi vmi' : VirtualMachineInstance) : Prop :=
  vmi'.ns = vmi.ns ∧ vmi'.name = vmi.name ∧ countedTexts vmi' = countedTexts vmi

theorem sharesMac_iff_counted (ifaces : List Interface) (vmi : VirtualMachineInstance) :
    SharesMac ifaces vmi ↔ ∃ iface ∈ countedIfaces ifaces, ∃ text ∈ countedTexts vmi,
      parseMAC text = some iface.hardwareAddr := by
  simp only [countedIfaces, countedTexts, List.mem_filter]
  constructor
  · rintro ⟨iface, hiface, hnot, text, htext, hparse⟩
    exact ⟨iface, ⟨hiface, by simpa using hnot⟩, text, ⟨htext, by simp [hparse, hnot]⟩, hparse⟩
  · rintro ⟨iface, ⟨hiface, hnot⟩, text, ⟨htext, -⟩, hparse⟩
    exact ⟨iface, hiface, by simpa using hnot, text, htext, hparse⟩

theorem sharesMac_congr (hifaces : countedIfaces ifaces' = countedIfaces ifaces)
    (hvmi : SameInstance vmi vmi') : SharesMac ifaces' vmi' ↔ SharesMac ifaces vmi := by
  rw [sharesMac_iff_counted, sharesMac_iff_counted, hifaces, hvmi.2.2]

theorem rel_find? {R : α → β → Prop} {p : α → Bool} {q : β → Bool} (hpq : ∀ a b, R a b → p a = q b)
    (h : List.Forall₂ R l m) : Option.Rel R (l.find? p) (m.find? q) := by
  induction h with
  | nil => exact .none
  | @cons a b l m hab _ ih =>
    have hsame := hpq a b hab
    cases ha : p a with
    | true => simpa [ha, hsame ▸ ha] using Option.Rel.some hab
    | false => simpa [ha, hsame ▸ ha] using ih

theorem ownOrFirst_congr (hifaces : countedIfaces ifaces' = countedIfaces ifaces)
    (hown : Option.Rel SameInstance own own') (hvmis : List.Forall₂ SameInstance vmis vmis') :
    ownOrFirst nodeID ifaces' own' vmis' = ownOrFirst nodeID ifaces own vmis := by
  have hshares (vmi vmi' : VirtualMachineInstance) (h : SameInstance vmi vmi') :
      decide (SharesMac ifaces vmi) = decide (SharesMac ifaces' vmi') :=
    decide_eq_decide.mpr (sharesMac_congr hifaces h).symm
  have hany :
      own'.any (fun vmi => SharesMac ifaces' vmi) = own.any (fun vmi => SharesMac ifaces vmi) := by
    cases hown with
    | none => rfl
    | some h => exact (hshares _ _ h).symm
  have hfirst := rel_find? hshares hvmis
  rw [ownOrFirst, ownOrFirst, hany]
  congr 1
  generalize (vmis.find? fun vmi => SharesMac ifaces vmi) = first at hfirst
  generalize (vmis'.find? fun vmi => SharesMac ifaces' vmi) = first' at hfirst
  cases hfirst with
  | none => rfl
  | some h => exact congrArg Outcome.ok h.2.1

-- ---------------------------------------------------------------------------
-- Discovery
-- ---------------------------------------------------------------------------

/-- What holds of a discovery when the instances can be listed, whether or not the
own one can be got. -/
structure Discovers (fault : Option ApiError) (ns nodeID : String) (ifaces : List Interface)
    (s : Cluster) : Prop where
  result : run (listServer fault) (discoverVMIName ns nodeID ifaces) s =
    (ownOrFirst nodeID ifaces (ownInstance fault ns nodeID s) (instancesIn ns s), s)
  sound : ∀ name, (run (listServer fault) (discoverVMIName ns nodeID ifaces) s).1 = .ok name →
    ∃ vmi ∈ instancesIn ns s, vmi.name = name ∧ SharesMac ifaces vmi
  /-- Interfaces with MACs that do not count may come and go. -/
  blind : ∀ ifaces' s', countedIfaces ifaces' = countedIfaces ifaces →
    List.Forall₂ SameInstance s.vmis.items s'.vmis.items →
    (run (listServer fault) (discoverVMIName ns nodeID ifaces') s').1 =
      (run (listServer fault) (discoverVMIName ns nodeID ifaces) s).1

theorem ownInstance_mem (h : ownInstance fault ns nodeID s = some vmi) :
    vmi ∈ instancesIn ns s ∧ vmi.name = nodeID := by
  cases fault with
  | some e => cases h
  | none =>
    obtain ⟨hmem, hkey⟩ := Store.get_eq_some.mp h
    exact ⟨List.mem_filter.mpr ⟨hmem, by simpa using congrArg Prod.fst hkey⟩,
      congrArg Prod.snd hkey⟩

theorem discoverVMIName_discovers (fault : Option ApiError) (ns nodeID : String)
    (ifaces : List Interface) (s : Cluster) : Discovers fault ns nodeID ifaces s where
  result := run_discoverVMIName fault ns nodeID ifaces s
  sound := by
    intro name h
    rw [run_discoverVMIName, ownOrFirst] at h
    split at h
    · rename_i hown
      cases h
      cases hinst : ownInstance fault ns nodeID s with
      | none => simp [hinst] at hown
      | some vmi =>
        obtain ⟨hmem, hname⟩ := ownInstance_mem hinst
        exact ⟨vmi, hmem, hname, by simpa [hinst] using hown⟩
    · split at h
      · rename_i vmi hfirst
        cases h
        exact ⟨vmi, List.mem_of_find?_eq_some hfirst, rfl, by simpa using List.find?_some hfirst⟩
      · cases h
  blind := by
    intro ifaces' s' hifaces hvmis
    have hown : Option.Rel SameInstance (ownInstance fault ns nodeID s)
      (ownInstance fault ns nodeID s') := by
      cases fault with
      | some e => exact .none
      | none =>
        refine rel_find? (fun vmi vmi' h => ?_) hvmis
        simp [h.1, h.2.1]
    have hlisted : List.Forall₂ SameInstance (instancesIn ns s) (instancesIn ns s') :=
      List.rel_filter (fun vmi vmi' h => by simp [h.1]) hvmis
    rw [run_discoverVMIName, run_discoverVMIName, ownOrFirst_congr hifaces hown hlisted]

def bridgeMac : HardwareAddr := ⟨[0x02, 0x42, 0xac, 0x11, 0x00, 0x02]⟩

def bridgedInstance (name : String) : VirtualMachineInstance where
  ns := "ns"
  name := name
  interfaces := ["02:42:AC:11:00:02"]

def twoInstances : Cluster :=
  { Cluster.empty with
    vmis := (Cluster.empty.vmis.put (bridgedInstance "m")).put (bridgedInstance "n") }

/-- The own instance is there and shares a MAC, but could not be got. -/
theorem discovers_other_instance :
    twoInstances.vmis.get ("ns", "n") = some (bridgedInstance "n") ∧
      SharesMac [⟨bridgeMac⟩] (bridgedInstance "n") ∧
      (run (listServer (some ⟨.internalError, "etcdserver: request timed out"⟩))
        (discoverVMIName "ns" "n" [⟨bridgeMac⟩]) twoInstances).1 = .ok "m" := by
  refine ⟨rfl, by decide +kernel, by decide +kernel⟩

end HarvesterCSI
