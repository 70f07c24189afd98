import HarvesterCSI.Laws.Listing

/-!
# Following the pages

A client lists with a limit and asks again with each token it is given until
there is none. The host cuts the snapshots into consecutive pages; every page is
answered with the backups after it.
-/

namespace HarvesterCSI

open Calls Calls.Prog

/-- The entries of the pages from `token` on, in a cluster that does not change. -/
inductive Pages (cs : ControllerServer) (s : Cluster) (req : ListSnapshotsRequest) :
    String → List (List Snapshot) → Prop
  | last : (run Cluster.serve (cs.listSnapshots { req with startingToken := token }) s).1 =
        .ok ⟨entries, ""⟩ →
      Pages cs s req token [entries]
  | more : (run Cluster.serve (cs.listSnapshots { req with startingToken := token }) s).1 =
        .ok ⟨entries, next⟩ →
      next ≠ "" → Pages cs s req next pages → Pages cs s req token (entries :: pages)

section
variable {cs : ControllerServer} {s : Cluster} {req : ListSnapshotsRequest}

theorem Pages.unique (h : Pages cs s req token pages) (h' : Pages cs s req token pages') :
    pages' = pages := by
  induction h generalizing pages' with
  | last hrun =>
    cases h' with
    | last hrun' =>
      rw [hrun] at hrun'
      cases hrun'
      rfl
    | more hrun' hne _ =>
      rw [hrun] at hrun'
      cases hrun'
      exact absurd rfl hne
  | more hrun hne _ ih =>
    cases h' with
    | last hrun' =>
      rw [hrun] at hrun'
      cases hrun'
      exact absurd rfl hne
    | more hrun' _ hrest =>
      rw [hrun] at hrun'
      cases hrun'
      rw [ih hrest]

def listedBackups (s : Cluster) (req : ListSnapshotsRequest) : List Snapshot :=
  (backupEntries s).filter req.wantsSource

def pageEntries (s : Cluster) (req : ListSnapshotsRequest) (snaps : List VolumeSnapshot) :
    List Snapshot :=
  (snapshotEntries snaps).filter req.wants ++ listedBackups s req

-- ---------------------------------------------------------------------------
-- The pages of the host
-- ---------------------------------------------------------------------------

def Pager.start (pager : Pager) (token : String) : Option Nat :=
  if token = "" then some 0 else pager.offset token

theorem Pager.start_token (pager : Pager) (n : Nat) : pager.start (pager.token n) = some n := by
  rw [Pager.start, if_neg (pager.token_ne n), pager.offset_token]

theorem page_of_start {pager : Pager} (items : List α) (hlimit : 0 < limit)
    (hstart : pager.start token = some start) :
    page pager items ⟨limit, token⟩ = .ok ((items.drop start).take (pager.pageLen limit start),
      if start + pager.pageLen limit start < items.length
        then pager.token (start + pager.pageLen limit start) else "") := by
  rw [Pager.start] at hstart
  simp [page, hstart, Nat.pos_iff_ne_zero.mp hlimit]

theorem run_page (hmax : 0 < req.maxEntries) (hstatus : StatusesSet cs s req)
    (hpage : page s.pager (hostSnaps cs s) ⟨req.maxEntries.toNat, token⟩ = .ok (snaps, next))
    (hsub : ∀ snap ∈ snaps, snap ∈ hostSnaps cs s) :
    (run Cluster.serve (cs.listSnapshots { req with startingToken := token }) s).1 =
      .ok ⟨pageEntries s req snaps, next⟩ := by
  have hrun : run Cluster.serve (cs.listSnapshots { req with startingToken := token }) s =
      (.ok ⟨pageEntries s req snaps, next⟩, s) :=
    run_listSnapshots_ok (Int.le_of_lt hmax) hpage fun snap hmem => hstatus snap (hsub snap hmem)
  rw [hrun]

/-- From a token on the client gets consecutive chunks of the snapshots, each of
them answered with the backups. There is one chunk exactly if the first page
reaches the end. -/
theorem Pages.chunks (hmax : 0 < req.maxEntries) (hstatus : StatusesSet cs s req)
    (hstart : s.pager.start token = some start) :
    ∃ chunk chunks, Pages cs s req token ((chunk :: chunks).map (pageEntries s req)) ∧
      (chunk :: chunks).flatten = (hostSnaps cs s).drop start ∧
      (∀ c ∈ chunk :: chunks, c.length ≤ req.maxEntries.toNat) ∧
      (chunks = [] ↔
        (hostSnaps cs s).length ≤ start + s.pager.pageLen req.maxEntries.toNat start) := by
  -- induction on what is left of the list
  induction hleft : (hostSnaps cs s).length - start using Nat.strongRecOn
    generalizing token start with
  | _ left ih =>
    subst hleft
    have hlimit : 0 < req.maxEntries.toNat := by omega
    have hpos := s.pager.pageLen_pos _ start hlimit
    have hle := s.pager.pageLen_le req.maxEntries.toNat start
    have hpage := page_of_start (hostSnaps cs s) hlimit hstart
    have hrun := run_page hmax hstatus hpage fun snap hmem =>
      List.mem_of_mem_drop (List.mem_of_mem_take hmem)
    have hlen :
        (((hostSnaps cs s).drop start).take (s.pager.pageLen req.maxEntries.toNat start)).length
        ≤ req.maxEntries.toNat := Nat.le_trans (List.length_take_le _ _) hle
    by_cases hmore : start + s.pager.pageLen req.maxEntries.toNat start < (hostSnaps cs s).length
    · rw [if_pos hmore] at hrun
      obtain ⟨chunk, chunks, hpages, hflat, hlens, -⟩ :=
        ih _ (by omega) (s.pager.start_token (start + s.pager.pageLen req.maxEntries.toNat start))
        rfl
      refine ⟨_, chunk :: chunks, .more hrun (s.pager.token_ne _) hpages, ?_,
        List.forall_mem_cons.mpr ⟨hlen, hlens⟩, by simpa using hmore⟩
      rw [List.flatten_cons, hflat, ← List.drop_drop, List.take_append_drop]
    · rw [if_neg hmore] at hrun
      refine ⟨_, [], .last hrun, ?_, by simpa using hlen, by simpa using Nat.not_lt.mp hmore⟩
      rw [List.flatten_singleton]
      exact List.take_of_length_le (by rw [List.length_drop]; omega)

-- ---------------------------------------------------------------------------
-- All pages together
-- ---------------------------------------------------------------------------

theorem length_pages (chunks : List (List VolumeSnapshot)) :
    (chunks.map (pageEntries s req)).flatten.length =
      ((snapshotEntries chunks.flatten).filter req.wants).length +
        chunks.length * (listedBackups s req).length := by
  induction chunks with
  | nil => simp [snapshotEntries]
  | cons c chunks ih =>
    rw [List.map_cons, List.flatten_cons, List.length_append, ih]
    simp only [pageEntries, snapshotEntries, List.flatten_cons, List.filter_append, List.map_append,
      List.length_append, List.length_cons, Nat.succ_mul]
    omega

theorem flatten_pages_of_nil (hnil : listedBackups s req = [])
    (chunks : List (List VolumeSnapshot)) :
    (chunks.map (pageEntries s req)).flatten = pageEntries s req chunks.flatten := by
  induction chunks with
  | nil => simp [pageEntries, hnil, snapshotEntries]
  | cons c chunks ih =>
    rw [List.map_cons, List.flatten_cons, ih]
    simp [pageEntries, hnil, snapshotEntries]

theorem length_snapshotEntries_le (snaps : List VolumeSnapshot) :
    ((snapshotEntries snaps).filter req.wants).length ≤ snaps.length := by
  refine Nat.le_trans (List.length_filter_le _ _) ?_
  rw [snapshotEntries, List.length_map]
  exact List.length_filter_le _ _

/-- The pages taken together are the unpaged listing, and none is over the limit. -/
def PagedExactly (cs : ControllerServer) (s : Cluster) (req : ListSnapshotsRequest) : Prop :=
  ∃ unpaged pages,
    (run Cluster.serve (cs.listSnapshots { req with maxEntries := 0, startingToken := "" }) s).1 =
      .ok unpaged ∧
    Pages cs s req "" pages ∧ pages.flatten.Perm unpaged.entries ∧
    ∀ entries ∈ pages, entries.length ≤ req.maxEntries.toNat

theorem pagedExactly_iff_chunks
    (hunpaged : (run Cluster.serve
      (cs.listSnapshots { req with maxEntries := 0, startingToken := "" }) s).1 = .ok unpaged)
    (hpages : Pages cs s req "" pages) :
    PagedExactly cs s req ↔ pages.flatten.Perm unpaged.entries ∧
      ∀ entries ∈ pages, entries.length ≤ req.maxEntries.toNat := by
  constructor
  · rintro ⟨unpaged', pages', hunpaged', hpages', hexact⟩
    rw [hunpaged] at hunpaged'
    cases hunpaged'
    rwa [hpages.unique hpages'] at hexact
  · intro hexact
    exact ⟨unpaged, pages, hunpaged, hpages, hexact⟩

/-- Paging is exact exactly if no backup is listed or all snapshots fit on the
first page and leave room for the backups there; and if no snapshot that passes
the filters lacks a status, which crashes the listing. -/
theorem paging_exact_iff (hmax : 0 < req.maxEntries) :
    PagedExactly cs s req ↔ StatusesSet cs s req ∧
      (listedBackups s req = [] ∨
        (hostSnaps cs s).length ≤ s.pager.pageLen req.maxEntries.toNat 0 ∧
        (pageEntries s req (hostSnaps cs s)).length ≤ req.maxEntries.toNat) := by
  have hall : page s.pager (hostSnaps cs s) ⟨0, ""⟩ = .ok (hostSnaps cs s, "") := by simp [page]
  by_cases hstatus : StatusesSet cs s req
  · have hunpaged :
        run Cluster.serve (cs.listSnapshots { req with maxEntries := 0, startingToken := "" }) s =
          (.ok ⟨pageEntries s req (hostSnaps cs s), ""⟩, s) :=
      run_listSnapshots_ok (Int.le_refl 0) hall hstatus
    have hfirst : s.pager.start "" = some 0 := rfl
    obtain ⟨chunk, chunks, hpages, hflat, hlens, hone⟩ := Pages.chunks hmax hstatus hfirst
    rw [List.drop_zero] at hflat
    rw [pagedExactly_iff_chunks (by rw [hunpaged]) hpages, and_iff_right hstatus]
    rw [Nat.zero_add] at hone
    constructor
    · rintro ⟨hperm, hfit⟩
      by_cases hnil : listedBackups s req = []
      · exact .inl hnil
      · -- the backups come once for every page, so there is one page
        have hlen := hperm.length_eq
        rw [length_pages, hflat, pageEntries, List.length_append, List.length_cons,
          Nat.succ_mul] at hlen
        have hbackups := List.length_pos_iff.mpr hnil
        have hchunks : chunks = [] := by
          rcases Nat.eq_zero_or_pos chunks.length with hz | hp
          · exact List.length_eq_zero_iff.mp hz
          · have := Nat.mul_pos hp hbackups
            omega
        subst hchunks
        rw [List.flatten_singleton] at hflat
        subst hflat
        exact .inr ⟨hone.mp rfl, hfit _ (by simp)⟩
    · rintro (hnil | ⟨hfirst, hroom⟩)
      · refine ⟨by rw [flatten_pages_of_nil hnil, hflat], ?_⟩
        intro entries hmem
        obtain ⟨c, hc, rfl⟩ := List.mem_map.mp hmem
        rw [pageEntries, hnil, List.append_nil]
        exact Nat.le_trans (length_snapshotEntries_le c) (hlens c hc)
      · have hchunks := hone.mpr hfirst
        subst hchunks
        rw [List.flatten_singleton] at hflat
        subst hflat
        simpa using hroom
  · refine iff_of_false ?_ fun h => hstatus h.1
    rintro ⟨unpaged, pages, hunpaged, -⟩
    simp only [StatusesSet, not_forall, not_not] at hstatus
    obtain ⟨snap, hmem, howned, hwants, hnone⟩ := hstatus
    have hpanic :
        run Cluster.serve (cs.listSnapshots { req with maxEntries := 0, startingToken := "" }) s =
          (.panic, s) :=
      run_listSnapshots_panic (Int.le_refl 0) hall hmem howned hwants hnone
    rw [hpanic] at hunpaged
    cases hunpaged

end

/-- One backup and nothing else is one page, which has room for it. -/
theorem paging_one_backup_exact : PagedExactly exampleServer oneBackup { maxEntries := 1 } :=
  (paging_exact_iff (by decide)).mpr ⟨by unfold StatusesSet; decide, .inr ⟨by decide, by decide⟩⟩

def exampleSnapshot (name : String) : VolumeSnapshot where
  ns := "ns"
  name := name
  labels := some [(labelSnapHostSC, "longhorn"), (labelSnapHostVolumeMode, "Block")]
  persistentVolumeClaimName := some "v"
  status := some { readyToUse := some true }

def twoSnapshotsOneBackup : Cluster :=
  { oneBackup with snapshots :=
      (Cluster.empty.snapshots.put (exampleSnapshot "s1")).put (exampleSnapshot "s2") }

/-- With one entry a page, the backup comes twice and both pages hold two entries. -/
theorem paging_repeats_backup :
    let b := exampleBackup.entry
    Pages exampleServer twoSnapshotsOneBackup { maxEntries := 1 } ""
        [[(exampleSnapshot "s1").entry, b], [(exampleSnapshot "s2").entry, b]] ∧
      ¬ PagedExactly exampleServer twoSnapshotsOneBackup { maxEntries := 1 } := by
  intro b
  have hpages : Pages exampleServer twoSnapshotsOneBackup { maxEntries := 1 } ""
      [[(exampleSnapshot "s1").entry, b], [(exampleSnapshot "s2").entry, b]] :=
    .more rfl (by decide) (.last rfl)
  refine ⟨hpages, ?_⟩
  rintro ⟨unpaged, pages, -, hpages', -, hfit⟩
  rw [hpages.unique hpages'] at hfit
  exact absurd (hfit _ List.mem_cons_self) (by decide)

end HarvesterCSI
