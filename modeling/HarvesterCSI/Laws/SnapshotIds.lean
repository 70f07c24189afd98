import HarvesterCSI.Laws.Sources
import Mathlib.Data.List.TakeWhile

/-!
# Snapshot ids

One string stands for a VolumeSnapshot, by its name, or for a VolumeRemoteBackup,
by namespace and name behind a prefix. Three calls decode it.
-/

namespace HarvesterCSI

open Calls Calls.Prog
open Cluster (Answers)

-- ---------------------------------------------------------------------------
-- Format and parse
-- ---------------------------------------------------------------------------

theorem splitSlash_append (ns name : List Char) (h : '/' ∉ ns) :
    splitSlash (ns ++ '/' :: name) = some (ns, name) := by
  have hns : ∀ c ∈ ns, decide (c ≠ '/') = true := by
    intro c hc
    simp only [ne_eq, decide_eq_true_eq]
    rintro rfl
    exact h hc
  unfold splitSlash
  rw [List.dropWhile_append_of_pos hns, List.takeWhile_append_of_pos hns]
  simp

theorem splitSlash_eq_some (h : splitSlash s = some (ns, name)) :
    s = ns ++ '/' :: name ∧ '/' ∉ ns := by
  unfold splitSlash at h
  split at h
  · cases h
  · rename_i c rest hrest
    obtain ⟨rfl, rfl⟩ := Prod.mk.inj (Option.some.inj h)
    -- what the scan stops at is a slash
    have hslash : c = '/' := by
      have hstop :=
        List.head_dropWhile_not (fun c => decide (c ≠ '/')) (hrest ▸ List.cons_ne_nil c rest)
      simp only [hrest, List.head_cons] at hstop
      simpa using hstop
    refine ⟨?_, fun hmem => ?_⟩
    · rw [hslash] at hrest
      rw [← hrest, List.takeWhile_append_dropWhile]
    · simpa using List.mem_takeWhile_imp hmem

theorem toList_formatBackupSnapshotID (ns name : String) :
    (formatBackupSnapshotID ns name).toList =
      "backup:".toList ++ (ns.toList ++ '/' :: name.toList) := by
  simp [formatBackupSnapshotID]

theorem parse_format (h : '/' ∉ ns.toList) :
    parseSnapshotID (formatBackupSnapshotID ns name) = (true, ns, name) := by
  unfold parseSnapshotID
  rw [toList_formatBackupSnapshotID]
  have hprefix : ("backup:".toList.isPrefixOf ("backup:".toList ++
    (ns.toList ++ '/' :: name.toList))) = true := by
    simp
  have hdrop : ("backup:".toList ++ (ns.toList ++ '/' :: name.toList)).drop 7 =
      ns.toList ++ '/' :: name.toList := List.drop_left' rfl
  rw [if_pos hprefix, hdrop, splitSlash_append _ _ h]
  simp

theorem parse_cases (id : String) :
    (∃ ns name, parseSnapshotID id = (true, ns, name) ∧ formatBackupSnapshotID ns name = id ∧
      '/' ∉ ns.toList) ∨ parseSnapshotID id = (false, "", id) := by
  unfold parseSnapshotID
  split
  · rename_i hprefix
    obtain ⟨rest, hid⟩ := List.isPrefixOf_iff_prefix.mp hprefix
    have hdrop : id.toList.drop 7 = rest := by
      rw [← hid]
      exact List.drop_left' rfl
    rw [hdrop]
    split
    · rename_i ns name hsplit
      obtain ⟨hrest, hslash⟩ := splitSlash_eq_some hsplit
      refine .inl ⟨_, _, rfl, ?_, by simpa using hslash⟩
      apply String.toList_injective
      rw [toList_formatBackupSnapshotID, ← hid, hrest]
      simp
    · exact .inr rfl
  · exact .inr rfl

theorem parse_name (h : ':' ∉ name.toList) : parseSnapshotID name = (false, "", name) := by
  refine (parse_cases name).resolve_left ?_
  rintro ⟨ns, n, -, rfl, -⟩
  simp [toList_formatBackupSnapshotID] at h

-- ---------------------------------------------------------------------------
-- The objects behind the ids
-- ---------------------------------------------------------------------------

inductive SnapRef
  | snapshot (ns name : String)
  | backup (ns name : String)
  deriving DecidableEq, Repr

namespace SnapRef

def id : SnapRef → String
  | .snapshot _ name => name
  | .backup ns name => formatBackupSnapshotID ns name

/-- Named as Kubernetes has it: neither a colon nor a slash in the name of a
snapshot, no slash in a namespace. -/
def Named : SnapRef → Prop
  | .snapshot _ name => name ≠ "" ∧ ':' ∉ name.toList ∧ '/' ∉ name.toList
  | .backup ns _ => '/' ∉ ns.toList

def ofId (cs : ControllerServer) (id : String) : SnapRef :=
  match parseSnapshotID id with
  | (true, ns, name) => .backup ns name
  | (false, _, name) => .snapshot cs.ns name

/-- The server knows the snapshots of its namespace and the backups of all. -/
def Known (cs : ControllerServer) : SnapRef → Prop
  | .snapshot ns _ => ns = cs.ns
  | .backup _ _ => True

def Stored (s : Cluster) : SnapRef → Prop
  | .snapshot ns name => s.snapshots.get (ns, name) ≠ none
  | .backup ns name => s.backups.get (ns, name) ≠ none

def Same (s t : Cluster) : SnapRef → Prop
  | .snapshot ns name =>
    (t.snapshots.get (ns, name)).map (·.spec) = (s.snapshots.get (ns, name)).map (·.spec)
  | .backup ns name =>
    (t.backups.get (ns, name)).map (·.spec) = (s.backups.get (ns, name)).map (·.spec)

def Shown (s : Cluster) (entry : Snapshot) : SnapRef → Prop
  | .snapshot ns name => ∃ snap, s.snapshots.get (ns, name) = some snap ∧ entry = snap.entry
  | .backup ns name => ∃ vrb, s.backups.get (ns, name) = some vrb ∧ entry = vrb.entry

theorem id_injective {a b : SnapRef} (ha : a.Named) (hb : b.Named) (hka : a.Known cs)
    (hkb : b.Known cs) (h : a.id = b.id) : a = b := by
  cases a with
  | snapshot ns name =>
    cases b with
    | snapshot ns' name' =>
      obtain rfl : ns = cs.ns := hka
      obtain rfl : ns' = cs.ns := hkb
      obtain rfl : name = name' := h
      rfl
    | backup ns' name' =>
      have hparse := parse_name ha.2.1
      rw [show name = formatBackupSnapshotID ns' name' from h, parse_format hb] at hparse
      cases hparse
  | backup ns name =>
    cases b with
    | snapshot ns' name' =>
      have hparse := parse_name hb.2.1
      rw [show name' = formatBackupSnapshotID ns name from h.symm, parse_format ha] at hparse
      cases hparse
    | backup ns' name' =>
      have hparse : parseSnapshotID (formatBackupSnapshotID ns' name') = (true, ns, name) := by
        rw [← show formatBackupSnapshotID ns name = formatBackupSnapshotID ns' name' from h,
          parse_format ha]
      rw [parse_format hb] at hparse
      cases hparse
      rfl

theorem Same.of_moves (h : StatusMoves s t) (ref : SnapRef) : ref.Same s t := by
  cases ref with
  | snapshot ns name => exact h.snapshots (ns, name)
  | backup ns name => exact h.backups (ns, name)

theorem Same.trans {ref : SnapRef} (h₁ : ref.Same s t) (h₂ : ref.Same t u) : ref.Same s u := by
  cases ref <;> exact Eq.trans h₂ h₁

theorem Shown.id {ref : SnapRef} (h : ref.Shown s entry) : entry.snapshotId = ref.id := by
  cases ref with
  | snapshot ns name =>
    obtain ⟨snap, hget, rfl⟩ := h
    exact congrArg Prod.snd (Store.get_key hget)
  | backup ns name =>
    obtain ⟨vrb, hget, rfl⟩ := h
    have hkey := Store.get_key hget
    simp only [Prod.mk.injEq] at hkey
    simp only [VolumeRemoteBackup.entry, SnapRef.id, hkey]

end SnapRef

-- ---------------------------------------------------------------------------
-- The ids that are reported
-- ---------------------------------------------------------------------------

section
variable {cs : ControllerServer}

def CreateSnapshotRequest.ref (cs : ControllerServer) (req : CreateSnapshotRequest) : SnapRef :=
  if ControllerServer.isBackupSnapshot req then .backup cs.ns req.name else .snapshot cs.ns req.name

theorem createSnapshot_reports
    (h : Runs StatusMoves Answers (cs.createSnapshot req) s (.ok entry) t) :
    (req.ref cs).Stored t ∧ entry.snapshotId = (req.ref cs).id := by
  obtain ⟨hname, hvol⟩ := createSnapshot_named h
  rw [createSnapshot_eq hname hvol] at h
  unfold CreateSnapshotRequest.ref
  split at h
  · rename_i hbackup
    obtain ⟨vrb, hget, hid⟩ := handleBackupSnap_ok h
    rw [if_pos hbackup]
    exact ⟨by simp [SnapRef.Stored, hget], hid⟩
  · rename_i hlocal
    obtain ⟨snap, hget, -, hid⟩ := handleLocalSnap_reports h
    rw [if_neg hlocal]
    exact ⟨by simp [SnapRef.Stored, hget], hid⟩

theorem collect_returns {Q : α → Snapshot → Prop} {keep : α → Bool} {toEntry : α → Api Snapshot}
    (h : ∀ a, (toEntry a).Returns (Q a)) (l : List α) :
    (ControllerServer.collect keep toEntry l).Returns
      fun entries => ∀ e ∈ entries, ∃ a ∈ l, Q a e := by
  induction l with
  | nil => exact fun e he => absurd he (List.not_mem_nil)
  | cons a rest ih =>
    have hlater {entries : List Snapshot} (hentries : ∀ e ∈ entries, ∃ b ∈ rest, Q b e) :
        ∀ e ∈ entries, ∃ b ∈ a :: rest, Q b e := by
      intro e he
      obtain ⟨b, hb, hQ⟩ := hentries e he
      exact ⟨b, List.mem_cons_of_mem _ hb, hQ⟩
    unfold ControllerServer.collect
    split
    · exact ih.mono fun _ => hlater
    · have hentry : ((toEntry a >>= fun e => pure (some e)).orElse
          fun _ => (.ok none : Api (Option Snapshot))).Returns fun o => ∀ e,
          o = some e → Q a e := by
        refine Returns.orElse ((h a).bind fun e he => ?_) fun _ => ?_
        · rintro _ ⟨⟩
          exact he
        · rintro _ ⟨⟩
      refine hentry.bind fun o ho => ih.bind fun entries hentries => ?_
      cases o with
      | none => exact hlater hentries
      | some e =>
        rintro e' he'
        rcases List.mem_cons.mp he' with rfl | he'
        · exact ⟨a, List.mem_cons_self, ho _ rfl⟩
        · exact hlater hentries e' he'

theorem convertHostSnapshotToEntry_returns (cs : ControllerServer) (snap : VolumeSnapshot) :
    (cs.convertHostSnapshotToEntry snap).Returns (· = snap.entry) := by
  rcases convertHostSnapshotToEntry_cases cs snap with ⟨-, -, ⟨-, h⟩ | ⟨-, h⟩⟩ | ⟨-, e, h⟩
  all_goals rw [h]
  · exact rfl
  · trivial
  · trivial

theorem convertVolumeRemoteBackupToEntry_returns (cs : ControllerServer)
    (vrb : VolumeRemoteBackup) :
    (cs.convertVolumeRemoteBackupToEntry vrb).Returns (· = vrb.entry) := by
  rcases convertVolumeRemoteBackupToEntry_cases cs vrb with ⟨-, h⟩ | ⟨-, e, h⟩
  all_goals rw [h]
  · exact rfl
  · trivial

theorem page_mem (h : page pager items opts = .ok (l, next)) (hmem : a ∈ l) : a ∈ items := by
  unfold page at h
  split at h
  · cases h
  · split at h
    · cases h
      exact List.mem_of_mem_drop hmem
    · cases h
      exact List.mem_of_mem_drop (List.mem_of_mem_take hmem)

def ListOp : Op → Prop
  | .listSnapshots .. | .listBackups _ => True
  | _ => False

theorem ListOp.state (hop : ListOp op) (h : Answers op s r t) : t = s := by
  rcases h with h | ⟨rfl, -⟩
  · cases op <;> first | exact hop.elim | exact (congrArg Prod.snd h).symm
  · rfl

theorem collect_uses {keep : α → Bool} {toEntry : α → Api Snapshot} (h : ∀ a, (toEntry a).Uses P)
    (l : List α) : (ControllerServer.collect keep toEntry l).Uses P := by
  induction l with
  | nil => trivial
  | cons a rest ih =>
    unfold ControllerServer.collect
    split
    · exact ih
    · exact (Uses.orElse ((h a).bind fun _ => uses_ok) fun _ => uses_ok).bind fun _ =>
        ih.bind fun _ => uses_ok

theorem processHostSnapshots_uses (cs : ControllerServer) (snaps : List VolumeSnapshot)
    (req : ListSnapshotsRequest) : (cs.processHostSnapshots snaps req).Uses ListOp := by
  refine collect_uses (fun snap => ?_) snaps
  rcases convertHostSnapshotToEntry_cases cs snap with ⟨-, -, ⟨-, h⟩ | ⟨-, h⟩⟩ | ⟨-, e, h⟩
  all_goals simp [h]

theorem listLocalSnaps_uses (cs : ControllerServer) (opts : ListOptions)
    (req : ListSnapshotsRequest) :
    (cs.listLocalSnaps opts req).Uses ListOp := by
  refine .request trivial fun r => ?_
  cases r with
  | error e => trivial
  | ok answer => exact (processHostSnapshots_uses cs answer.1 req).bind fun _ => trivial

theorem convertVolumeRemoteBackupToEntry_pure (cs : ControllerServer) (vrb : VolumeRemoteBackup) :
    (cs.convertVolumeRemoteBackupToEntry vrb).Uses P := by
  rcases convertVolumeRemoteBackupToEntry_cases cs vrb with ⟨-, h⟩ | ⟨-, e, h⟩
  all_goals simp [h]

theorem listBackupSnaps_uses (cs : ControllerServer) (req : ListSnapshotsRequest) :
    (cs.listBackupSnaps req).Uses ListOp := by
  refine Uses.orElse (.request trivial fun r => ?_) fun _ => trivial
  cases r with
  | error e => trivial
  | ok vrbs => exact collect_uses (convertVolumeRemoteBackupToEntry_pure cs) vrbs

theorem moves_while_listing {p : Api α} (hp : p.Uses ListOp)
    (h : Runs StatusMoves Answers p s o t) :
    StatusMoves s t := by
  let inv (u : Cluster) : Prop := StatusMoves s u
  have hinv : inv t := by
    refine h.invariant hp ?_ ?_ (StatusMoves.refl s)
    · exact fun _ _ hs hmove => StatusMoves.trans _ _ _ hs hmove
    · exact fun _ _ _ _ hop hs hans => hop.state hans ▸ hs
  exact hinv

/-- The entry was that of an object which is there before and after. -/
def Reported (cs : ControllerServer) (s : Cluster) (entry : Snapshot) (t : Cluster) : Prop :=
  ∃ (ref : SnapRef) (u : Cluster), ref.Known cs ∧ StatusMoves s u ∧ ref.Shown u entry ∧
  StatusMoves u t

theorem Reported.move (h : Reported cs s entry t) (hs : StatusMoves r s) (ht : StatusMoves t u) :
    Reported cs r entry u := by
  obtain ⟨ref, v, hknown, hbefore, hshown, hafter⟩ := h
  exact ⟨ref, v, hknown, StatusMoves.trans _ _ _ hs hbefore, hshown,
    StatusMoves.trans _ _ _ hafter ht⟩

theorem listLocalSnaps_reports
    (h : Runs StatusMoves Answers (cs.listLocalSnaps opts req) s (.ok (entries, next)) t)
    (hmem : entry ∈ entries) : Reported cs s entry t := by
  obtain ⟨s₁, r, s₂, hbefore, hlist, h⟩ := Runs.request h
  cases r with
  | error e => cases h.1
  | ok answer =>
    obtain ⟨snaps, next'⟩ := answer
    have hserved := hlist.served
    simp only [Cluster.serve, Prod.mk.injEq] at hserved
    obtain ⟨hpage, rfl⟩ := hserved
    have huses : (cs.processHostSnapshots snaps req >>= fun entries =>
        (pure (entries, next') : Api _)).Uses ListOp :=
      (processHostSnapshots_uses cs snaps req).bind fun _ => trivial
    have hafter := moves_while_listing huses h
    obtain ⟨entries', u, hprocess, hentries, -⟩ := h.bind_ok StatusMoves.refl
    cases hentries
    obtain ⟨snap, hsnap, hentry⟩ :=
      hprocess.returns (collect_returns (convertHostSnapshotToEntry_returns cs) snaps) entry hmem
    have hitems := List.mem_filter.mp (page_mem hpage hsnap)
    have hns : snap.ns = cs.ns := by simpa using hitems.2
    refine ⟨.snapshot snap.ns snap.name, s₁, hns, hbefore, ⟨snap, ?_, hentry⟩, hafter⟩
    exact Store.get_eq_some.mpr ⟨hitems.1, rfl⟩

theorem listBackupSnaps_reports
    (h : Runs StatusMoves Answers (cs.listBackupSnaps req) s (.ok entries) t)
    (hmem : entry ∈ entries) :
    Reported cs s entry t := by
  rcases h.orElse_ok StatusMoves.refl with h | ⟨e, u, -, h⟩
  · obtain ⟨s₁, r, s₂, hbefore, hlist, h⟩ := Runs.request h
    cases r with
    | error e => cases h.1
    | ok vrbs =>
      have hserved := hlist.served
      simp only [Cluster.serve, Prod.mk.injEq, Except.ok.injEq] at hserved
      obtain ⟨rfl, rfl⟩ := hserved
      have hafter :=
        moves_while_listing (collect_uses (convertVolumeRemoteBackupToEntry_pure cs) _) h
      obtain ⟨vrb, hvrb, hentry⟩ :=
        h.returns (collect_returns (convertVolumeRemoteBackupToEntry_returns cs) _) entry hmem
      refine ⟨.backup vrb.ns vrb.name, s₁, trivial, hbefore, ⟨vrb, ?_, hentry⟩, hafter⟩
      exact Store.get_eq_some.mpr ⟨(List.mem_filter.mp hvrb).1, rfl⟩
  · cases h.1

theorem listSnapshots_reports
    (h : Runs StatusMoves Answers (cs.listSnapshots req) s (.ok resp) t)
    (hmem : entry ∈ resp.entries) :
    Reported cs s entry t := by
  obtain ⟨opts, u₀, hvalid, h⟩ := h.bind_ok StatusMoves.refl
  obtain ⟨⟨localSnaps, next⟩, u₁, hlocal, h⟩ := h.bind_ok StatusMoves.refl
  obtain ⟨backupSnaps, u₂, hbackups, hresp, hlast⟩ := h.bind_ok StatusMoves.refl
  cases hresp
  have hfirst : StatusMoves s u₀ := by
    refine moves_while_listing ?_ hvalid
    unfold ControllerServer.validateListSnapshotsRequest
    split <;> trivial
  have huses := (listBackupSnaps_uses cs req).orElse
    fun _ => (uses_ok : (.ok [] : Api (List Snapshot)).Uses ListOp)
  have hlater := moves_while_listing huses hbackups
  rcases List.mem_append.mp hmem with hmem | hmem
  · exact (listLocalSnaps_reports hlocal hmem).move hfirst (StatusMoves.trans _ _ _ hlater hlast)
  · have hearlier := moves_while_listing (listLocalSnaps_uses cs opts req) hlocal
    rcases hbackups.orElse_ok StatusMoves.refl with hbackups | ⟨e, u, -, hnone, -⟩
    · exact (listBackupSnaps_reports hbackups hmem).move (StatusMoves.trans _ _ _ hfirst hearlier)
        hlast
    · cases hnone
      cases hmem

-- ---------------------------------------------------------------------------
-- The ids that are decoded
-- ---------------------------------------------------------------------------

def DeletesId (cs : ControllerServer) (id : String) : Op → Prop
  | .deleteSnapshot ns name =>
    (SnapRef.snapshot ns name).id = id ∧ (SnapRef.snapshot ns name).Known cs
  | .deleteBackup ns name => (SnapRef.backup ns name).id = id ∧ (SnapRef.backup ns name).Known cs
  | _ => False

theorem deleteSnapshot_uses (cs : ControllerServer) (id : String) :
    (cs.deleteSnapshot id).Uses (DeletesId cs id) := by
  unfold ControllerServer.deleteSnapshot
  split
  · trivial
  · rcases parse_cases id with ⟨ns, name, hparse, hformat, -⟩ | hparse
    · rw [hparse]
      refine .request ⟨hformat, trivial⟩ fun r => ?_
      cases r with
      | ok => trivial
      | error e =>
        dsimp only
        split <;> trivial
    · rw [hparse]
      refine .request ⟨rfl, rfl⟩ fun r => ?_
      cases r with
      | ok => trivial
      | error e =>
        dsimp only
        split <;> trivial

theorem DeletesId.same {ref : SnapRef} (hop : DeletesId cs snapshotId op) (h : Answers op s r t)
    (hother : ¬ (ref.id = snapshotId ∧ ref.Known cs)) : ref.Same s t := by
  have hsame : ref.Same s s := .of_moves (StatusMoves.refl s) ref
  rcases h with h | ⟨rfl, -⟩
  · obtain rfl := (congrArg Prod.snd h).symm
    cases op <;> first | exact hop.elim | skip
    · rename_i ns name
      dsimp only [Cluster.serve]
      split
      · exact hsame
      · rename_i snap hfound
        cases ref with
        | backup => exact hsame
        | snapshot ns' name' =>
          have hne : (ns', name') ≠ (ns, name) := by
            rintro ⟨⟩
            exact hother hop
          rw [SnapRef.Same, Cluster.get_removeSnapshot hfound hne]
    · rename_i ns name
      dsimp only [Cluster.serve]
      split
      · exact hsame
      · cases ref with
        | snapshot => exact hsame
        | backup ns' name' =>
          have hne : (ns', name') ≠ (ns, name) := by
            rintro ⟨⟩
            exact hother hop
          simp [SnapRef.Same, hne]
  · exact hsame

theorem deleteSnapshot_deletes (h : Runs StatusMoves Answers (cs.deleteSnapshot snapshotId) s o t)
    (ref : SnapRef) : ref.id = snapshotId ∧ ref.Known cs ∨ ref.Same s t := by
  by_cases hown : ref.id = snapshotId ∧ ref.Known cs
  · exact .inl hown
  · let inv (u : Cluster) : Prop := ref.Same s u
    have hinv : inv t := by
      refine h.invariant (deleteSnapshot_uses cs snapshotId) ?_ ?_ (.of_moves (StatusMoves.refl s)
        ref)
      · exact fun _ _ hs hmove => hs.trans (.of_moves hmove ref)
      · exact fun _ _ _ _ hop hs hans => hs.trans (hop.same hans hown)
    exact .inr hinv

theorem isBackupSnapshotRestore_iff (cs : ControllerServer)
    (hsource : req.volumeContentSource = some (.snapshot snapshotId)) :
    cs.isBackupSnapshotRestore req = true ↔ ∃ ns name, (SnapRef.backup ns name).Named ∧
      (SnapRef.backup ns name).id = snapshotId := by
  have hid : req.snapshotId = snapshotId := by rw [CreateVolumeRequest.snapshotId, hsource]
  rw [cs.isBackupSnapshotRestore_eq, hid]
  constructor
  · intro h
    rcases parse_cases snapshotId with ⟨ns, name, -, hformat, hslash⟩ | hparse
    · exact ⟨ns, name, hslash, hformat⟩
    · rw [hparse] at h
      cases h
  · rintro ⟨ns, name, hslash, rfl⟩
    rw [SnapRef.id, parse_format hslash]

def RestoreOp : Op → Prop
  | .getBackup .. | .getRestore .. | .createRestore _ => True
  | _ => False

theorem createVolume_no_restore (haccepts : cs.Accepts req)
    (hbackup : cs.isBackupSnapshotRestore req = false) :
    (cs.createVolume ticks req).Uses fun op => ¬ RestoreOp op := by
  rw [ControllerServer.createVolume_eq haccepts, if_neg (by simp [hbackup])]
  refine ((ControllerServer.buildHostPVC_uses _ _ _).mono fun op hop => ?_).bind fun hostPVC =>
    ⟨id, fun r => ?_⟩
  · cases op <;> first | exact hop.elim | exact id
  · cases r with
    | error e => trivial
    | ok pvc =>
      refine ((ControllerServer.exportVolume_uses _).mono fun op hop => ?_).bind fun _ => trivial
      cases op <;> first | exact hop.elim | exact id

-- ---------------------------------------------------------------------------
-- All of it
-- ---------------------------------------------------------------------------

/-- An id stands for one object, in every call that reports or decodes it. -/
structure IdsIdentify (cs : ControllerServer) : Prop where
  injective : ∀ a b : SnapRef, a.Named → b.Named → a.Known cs → b.Known cs → a.id = b.id → a = b
  created : ∀ req s entry t, Runs StatusMoves Answers (cs.createSnapshot req) s (.ok entry) t →
    (req.ref cs).Stored t ∧ entry.snapshotId = (req.ref cs).id
  listed : ∀ req s resp t, Runs StatusMoves Answers (cs.listSnapshots req) s (.ok resp) t →
    ∀ entry ∈ resp.entries, ∃ (ref : SnapRef) (u : Cluster), ref.Known cs ∧ StatusMoves s u ∧
      ref.Shown u entry ∧ StatusMoves u t ∧ entry.snapshotId = ref.id
  format : ∀ ns name, '/' ∉ ns.toList →
    parseSnapshotID (formatBackupSnapshotID ns name) = (true, ns, name)
  parse : ∀ id, (∃ ns name, parseSnapshotID id = (true, ns, name) ∧
    formatBackupSnapshotID ns name = id ∧ '/' ∉ ns.toList) ∨ parseSnapshotID id = (false, "", id)
  deleted : ∀ id s o t, Runs StatusMoves Answers (cs.deleteSnapshot id) s o t →
    ∀ ref : SnapRef, ref.id = id ∧ ref.Known cs ∨ ref.Same s t
  restored : ∀ ticks req id, cs.Accepts req → req.volumeContentSource = some (.snapshot id) →
    ∀ ns name, (SnapRef.backup ns name).Named → (SnapRef.backup ns name).id = id →
      cs.createVolume ticks req = cs.buildHostVolumeRemoteRestore req (req.parameters.getD [])
  notRestored : ∀ ticks req id, cs.Accepts req → req.volumeContentSource = some (.snapshot id) →
    (∀ ns name, (SnapRef.backup ns name).Named → (SnapRef.backup ns name).id ≠ id) →
      (cs.createVolume ticks req).Uses fun op => ¬ RestoreOp op

theorem snapshot_ids_identify (cs : ControllerServer) : IdsIdentify cs where
  injective _ _ ha hb hka hkb h := SnapRef.id_injective ha hb hka hkb h
  created _ _ _ _ h := createSnapshot_reports h
  listed _ _ _ _ h _ hmem := by
    obtain ⟨ref, u, hknown, hbefore, hshown, hafter⟩ := listSnapshots_reports h hmem
    exact ⟨ref, u, hknown, hbefore, hshown, hafter, hshown.id⟩
  format _ _ h := parse_format h
  parse := parse_cases
  deleted _ _ _ _ h ref := deleteSnapshot_deletes h ref
  restored := by
    intro ticks req id haccepts hsource ns name hnamed hid
    have hbackup := (isBackupSnapshotRestore_iff cs hsource).mpr ⟨ns, name, hnamed, hid⟩
    rw [ControllerServer.createVolume_eq haccepts, if_pos hbackup]
  notRestored := by
    intro ticks req id haccepts hsource hnone
    refine createVolume_no_restore haccepts (Bool.eq_false_iff.mpr fun hbackup => ?_)
    obtain ⟨ns, name, hnamed, hid⟩ := (isBackupSnapshotRestore_iff cs hsource).mp hbackup
    exact hnone ns name hnamed hid

end

end HarvesterCSI
