import EntityCodegen.Proofs.Project.Storing
import Mathlib.Data.List.Forall2
import Mathlib.Data.List.Nodup

/-!
# Comparing before storing

`brought_of_storeAll`: what becomes of each of several files that are stored depends on what it held
before any was stored. So storing reports what comparing said before (`reported_of_storeAll`).

Storing compares a file in a tree that the files before it have changed. They are not at the place
of its path, but there may be directories on its way that were made for them. A path that only goes
down leads to nothing old by way of a new directory, so it leads to the same files in both trees
(`find_file_iff_of_grows`).
-/

namespace EntityCodegen

/-- The paths of the files that are missing or stale, in order. -/
def Comparison.outdatedPaths (comparison : Comparison) : List Path :=
  (comparison.statuses.filter fun file => file.2 != .upToDate).map Prod.fst

theorem Comparison.outdated_eq_length (comparison : Comparison) :
    comparison.outdated = comparison.outdatedPaths.length := by
  rw [outdated, outdatedPaths, List.length_map, List.countP_eq_length_filter]

/-- The paths of the files that were written, in order. -/
def Batch.writtenPaths (batch : Batch) : List Path :=
  (batch.results.filter WriteResult.wasWritten).map WriteResult.path

theorem Batch.not_mem_writtenPaths {batch : Batch} {path : Path}
    (hdistinct : (batch.results.map WriteResult.path).Nodup)
    (h : .unchanged path ∈ batch.results) : path ∉ batch.writtenPaths := by
  intro hwritten
  obtain ⟨result, hresult, hpath⟩ := List.mem_map.mp hwritten
  obtain ⟨hmem, hresult⟩ := List.mem_filter.mp hresult
  have hsame : result = .unchanged path := List.inj_on_of_nodup_map hdistinct hmem h hpath
  rw [hsame] at hresult
  cases hresult

/-- What becomes of a file that is stored: it is left alone if it held its text before, and
otherwise written. -/
inductive Brought (before : FileTree) : Path × String → WriteResult → Prop
  | unchanged {path : Path} {text : String} : before.find path = .ok (.file text.toUTF8) →
      Brought before (path, text) (.unchanged path)
  | written {path : Path} {text : String} {status : FileStatus} :
      before.find path ≠ .ok (.file text.toUTF8) → before.compare path text = .ok status →
      Brought before (path, text) (.written path text.utf8ByteSize)

/-- What is reported of a file that was stored, by how it stood to its text before. -/
inductive Reported : Path × FileStatus → WriteResult → Prop
  | unchanged (path : Path) : Reported (path, .upToDate) (.unchanged path)
  | written (path : Path) {status : FileStatus} (bytes : Nat) : status ≠ .upToDate →
      Reported (path, status) (.written path bytes)

namespace Reported

variable {statuses : List (Path × FileStatus)} {results : List WriteResult}

theorem map_path_eq (h : List.Forall₂ Reported statuses results) :
    results.map WriteResult.path = statuses.map Prod.fst := by
  induction h with
  | nil => rfl
  | cons hfirst _ ih =>
    rw [List.map_cons, List.map_cons, ih]
    cases hfirst <;> rfl

theorem writtenPaths_eq {batch : Batch} {comparison : Comparison}
    (h : List.Forall₂ Reported comparison.statuses batch.results) :
    batch.writtenPaths = comparison.outdatedPaths := by
  unfold Batch.writtenPaths Comparison.outdatedPaths
  generalize comparison.statuses = statuses, batch.results = results at h ⊢
  induction h with
  | nil => rfl
  | cons hfirst _ ih =>
    cases hfirst with
    | unchanged path => exact ih
    | written path bytes hstatus =>
      rw [List.filter_cons_of_pos rfl, List.filter_cons_of_pos (by simpa using hstatus)]
      exact congrArg (path :: ·) ih

end Reported

namespace FileTree

variable {written : Location → Prop} {tree changed before after : FileTree} {path : Path}
  {text : String} {content : ByteArray} {result : WriteResult} {files : List (Path × String)}

/-! ### One file -/

theorem compare_eq_of_find (h : ∀ content,
    after.find path = .ok (.file content) ↔ before.find path = .ok (.file content)) :
    after.compare path text = before.compare path text := by
  have hfile_iff (tree : FileTree) :
      tree.hasFile path ↔ ∃ content, tree.find path = .ok (.file content) := by
    simp only [hasFile_iff, find_eq_ok_iff]
    exact exists_comm
  by_cases hfile : before.hasFile path
  · obtain ⟨content, hfind⟩ := (hfile_iff before).mp hfile
    have hfind' := (h content).mpr hfind
    have hfile' := (hfile_iff after).mpr ⟨content, hfind'⟩
    rw [compare, compare, hfile, hfile', readText, readText, hfind, hfind']
  · have hfile' : ¬ after.hasFile path := by
      intro hfile'
      obtain ⟨content, hfind⟩ := (hfile_iff after).mp hfile'
      exact hfile ((hfile_iff before).mpr ⟨content, (h content).mp hfind⟩)
    rw [Bool.not_eq_true] at hfile hfile'
    rw [compare, compare, hfile, hfile']
    rfl

theorem missing_iff_of_compare {status : FileStatus} (h : tree.compare path text = .ok status) :
    status = .missing ↔ ¬ tree.hasFile path := by
  rw [compare] at h
  by_cases hfile : tree.hasFile path
  · rw [hfile] at h
    obtain ⟨existing, -, hstatus⟩ := bind_eq_ok_iff.mp h
    refine iff_of_false ?_ (not_not_intro hfile)
    rintro rfl
    split at hstatus <;> cases hstatus
  · rw [Bool.not_eq_true] at hfile
    rw [hfile] at h
    cases h
    exact iff_of_true rfl (by simpa using hfile)

theorem compare_of_upToDate (h : tree.UpToDate path text) (other : String) :
    tree.compare path other = .ok (if text = other then .upToDate else .stale) := by
  obtain ⟨location, content, hlocate, hentry, hdecoded⟩ := upToDate_iff.mp h
  have hfile := hasFile_iff.mpr ⟨location, content, hlocate, hentry⟩
  have hread : tree.readText path = .ok text :=
    readText_eq_ok_iff.mpr ⟨content, find_eq_ok_iff.mpr ⟨location, hlocate, hentry⟩, hdecoded⟩
  rw [compare, hfile, hread]
  rfl

/-- **What a path that only goes down leads to is the same in the grown tree**, if nothing was
written there. -/
theorem find_file_iff_of_grows (h : Grows written before after) (hdown : ".." ∉ path.names)
    (hkept : ∀ location, after.locate path = .ok location → ¬ written location)
    (content : ByteArray) :
    after.find path = .ok (.file content) ↔ before.find path = .ok (.file content) := by
  refine ⟨fun hfind => ?_, fun hfind => h.find_file hfind hkept⟩
  obtain ⟨location, hlocate, hentry⟩ := find_eq_ok_iff.mp hfind
  have hentry' := ((h.change location).file_iff (hkept location hlocate) content).mp hentry
  have hsome := Option.isSome_of_eq_some hentry'
  exact find_eq_ok_iff.mpr ⟨location, h.locate_of_isSome hdown hlocate hsome, hentry'⟩

theorem replaceFile_eq_ok (h : tree.replaceFile path text = (changed, .ok result)) :
    result = .written path text.utf8ByteSize := by
  rw [replaceFile] at h
  split at h
  · cases h
  · split at h
    · cases h
    · cases h
      rfl

theorem brought_of_store (h : tree.store path text = (changed, .ok result)) :
    Brought tree (path, text) result := by
  rw [store] at h
  split at h
  · cases h
  · next hstatus =>
    cases h
    exact .unchanged (upToDate_iff_find.mp hstatus)
  · next status houtdated hstatus =>
    cases hreplace : tree.replaceFile path text with
    | mk written replaced =>
      rw [hreplace] at h
      cases replaced with
      | error error => cases h
      | ok replaced =>
        cases h
        rw [replaceFile_eq_ok hreplace]
        refine .written (fun hfind => ?_) hstatus
        have hupToDate : tree.compare path text = .ok .upToDate := upToDate_iff_find.mpr hfind
        rw [hstatus] at hupToDate
        exact houtdated (Except.ok.inj hupToDate)

theorem brought_congr {file : Path × String} (h : Brought after file result)
    (hfind : ∀ content,
      after.find file.1 = .ok (.file content) ↔ before.find file.1 = .ok (.file content)) :
    Brought before file result := by
  cases h with
  | unchanged hheld => exact .unchanged ((hfind _).mp hheld)
  | written hother hstatus =>
    rw [compare_eq_of_find hfind] at hstatus
    exact .written (fun hheld => hother ((hfind _).mpr hheld)) hstatus

/-! ### All files -/

theorem paths_of_compareAll {files : List (Path × String)}
    (h : (tree.compareAll files).failure = none) :
    (tree.compareAll files).statuses.map Prod.fst = files.map Prod.fst := by
  induction files with
  | nil => rfl
  | cons file rest ih =>
    rw [compareAll] at h ⊢
    cases hstatus : tree.compare file.1 file.2 with
    | error fault => simp [hstatus] at h
    | ok status =>
      simp only [hstatus] at h ⊢
      rw [List.map_cons, List.map_cons, ih h]

theorem mem_statuses_iff {files : List (Path × String)} {status : FileStatus}
    (h : (tree.compareAll files).failure = none) :
    (path, status) ∈ (tree.compareAll files).statuses ↔
      ∃ text, (path, text) ∈ files ∧ tree.compare path text = .ok status := by
  induction files with
  | nil => simp [compareAll]
  | cons file rest ih =>
    obtain ⟨first, firstText⟩ := file
    rw [compareAll] at h ⊢
    cases hfirst : tree.compare first firstText with
    | error fault => simp [hfirst] at h
    | ok firstStatus =>
      simp only [hfirst] at h ⊢
      rw [List.mem_cons, ih h]
      constructor
      · rintro (heq | ⟨text, hmem, hstatus⟩)
        · cases heq
          exact ⟨firstText, List.mem_cons_self, hfirst⟩
        · exact ⟨text, List.mem_cons_of_mem _ hmem, hstatus⟩
      · rintro ⟨text, hmem, hstatus⟩
        rcases List.mem_cons.mp hmem with heq | hmem
        · cases heq
          rw [hfirst] at hstatus
          cases hstatus
          exact .inl rfl
        · exact .inr ⟨text, hmem, hstatus⟩

theorem missing_iff_of_mem_statuses (h : (tree.compareAll files).failure = none) :
    ∀ file ∈ (tree.compareAll files).statuses, file.2 = .missing ↔ ¬ tree.hasFile file.1 := by
  rintro ⟨path, status⟩ hmem
  obtain ⟨text, -, hstatus⟩ := (mem_statuses_iff h).mp hmem
  exact missing_iff_of_compare hstatus

/-- **What becomes of each file depends on what it held before any was stored.** The files are at
different places, and their paths only go down. -/
theorem brought_of_storeAll
    (hapart : files.Pairwise fun file other => tree.place file.1 ≠ tree.place other.1)
    (hdown : ∀ file ∈ files, ".." ∉ file.1.names) (h : (tree.storeAll files).failure = none) :
    List.Forall₂ (Brought tree) files (tree.storeAll files).results := by
  -- from any tree, since the later files are stored in the one that the first leaves
  induction files generalizing tree with
  | nil => exact .nil
  | cons file rest ih =>
    obtain ⟨path, text⟩ := file
    obtain ⟨-, hdown⟩ := List.forall_mem_cons.mp hdown
    obtain ⟨changed, result, hstore, hrest⟩ := storeAll_cons_eq.mp h
    have hgrows := grows_store tree path text
    rw [hstore] at hgrows
    simp only [← place_eq_of_current hgrows.current] at hapart
    obtain ⟨hfirst, hapart⟩ := List.pairwise_cons.mp hapart
    rw [storeAll, hstore]
    have hsame : ∀ other ∈ rest, ∀ content,
        changed.find other.1 = .ok (.file content) ↔ tree.find other.1 = .ok (.file content) := by
      intro other hother
      apply find_file_iff_of_grows hgrows (hdown other hother)
      intro location hlocation hwritten
      exact locate_ne_of_place_ne (hfirst other hother) hwritten hlocation
    refine .cons (brought_of_store hstore) ?_
    exact ((List.forall₂_and_left rest _).mpr ⟨hsame, ih hapart hdown hrest⟩).imp
      fun _ _ hother => brought_congr hother.2 hother.1

/-- **Storing reports what comparing said before.** -/
theorem reported_of_storeAll
    (hapart : files.Pairwise fun file other => tree.place file.1 ≠ tree.place other.1)
    (hdown : ∀ file ∈ files, ".." ∉ file.1.names) (h : (tree.storeAll files).failure = none) :
    (tree.compareAll files).failure = none ∧
      List.Forall₂ Reported (tree.compareAll files).statuses (tree.storeAll files).results := by
  have hbrought := brought_of_storeAll hapart hdown h
  generalize (tree.storeAll files).results = results at hbrought
  clear hapart hdown h
  induction hbrought with
  | nil => exact ⟨rfl, .nil⟩
  | cons hfirst _ ih =>
    obtain ⟨hfailure, hreported⟩ := ih
    cases hfirst with
    | unchanged hheld =>
      have hstatus : tree.compare _ _ = .ok .upToDate := upToDate_iff_find.mpr hheld
      rw [compareAll, hstatus]
      exact ⟨hfailure, .cons (.unchanged _) hreported⟩
    | @written path text status hother hstatus =>
      rw [compareAll, hstatus]
      refine ⟨hfailure, .cons (.written path _ ?_) hreported⟩
      rintro rfl
      exact hother (upToDate_iff_find.mp hstatus)

end FileTree

end EntityCodegen
