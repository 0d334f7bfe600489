import EntityCodegen.Proofs.Project.Comparing

/-!
# What a batch of writes leaves

`writeAll_stored`: files at different places whose paths only go down are brought to their texts one
after the other, in a tree that changes under way. Where none fails, every file holds its text, and
besides them there are only new directories above them. Where one fails, so it is of the files
before it; the others are left as they were.

All that a batch does is in `Builds`: it writes files of the list and makes directories above them
(`builds_storeAll`). A failing file adds directories and nothing else (`builds_of_store_error`), so
the two cases differ only in the files that are up to date in the end.
-/

namespace EntityCodegen

namespace FileTree

variable {tree before after : FileTree} {location : Location} {error : ProjectError}
  {files : List (Path × String)}

/-- What bringing files to their texts leaves: each of them holds its text, and nothing else has
changed but that directories were made above the listed files. -/
structure Stored (listed files : List (Path × String)) (before after : FileTree)
    (results : List WriteResult) : Prop where
  holds : ∀ file ∈ files, after.find file.1 = .ok (.file file.2.toUTF8)
  brought : List.Forall₂ (Brought before) files results
  current : after.current = before.current
  kept : ∀ location, (∀ file ∈ files, location ≠ before.place file.1) →
    after.get? location = before.get? location ∨
      before.get? location = none ∧ after.get? location = some .directory ∧
        ∃ file ∈ listed, Above location (before.place file.1)

/-- A batch that stopped at a file, of which the directory may have been made. -/
structure Stopped (before : FileTree) (front : List (Path × String)) (failing : Path × String)
    (back : List (Path × String)) (error : ProjectError) (batch : Batch) : Prop where
  reached : (before.writeAll false front).failure = none
  fails : ((before.writeAll false front).tree.store failing.1 failing.2).2 = .error error
  stored : Stored (front ++ [failing]) front before batch.tree batch.results
  untouched : ∀ file ∈ failing :: back, ∀ content,
    batch.tree.find file.1 = .ok (.file content) ↔ before.find file.1 = .ok (.file content)

/-! ### Where a batch stops -/

theorem exists_of_storeAll_failure (h : (tree.storeAll files).failure = some error) :
    ∃ front failing back, files = front ++ failing :: back ∧
      (tree.storeAll front).failure = none ∧
      (tree.storeAll front).tree.store failing.1 failing.2 =
        ((tree.storeAll files).tree, .error error) ∧
      (tree.storeAll files).results = (tree.storeAll front).results := by
  induction files generalizing tree with
  | nil => cases h
  | cons file rest ih =>
    obtain ⟨path, text⟩ := file
    rw [storeAll] at h ⊢
    cases hstore : tree.store path text with
    | mk changed stored =>
      rw [hstore] at h
      cases stored with
      | error failure =>
        cases h
        exact ⟨[], (path, text), rest, rfl, rfl, hstore, rfl⟩
      | ok result =>
        obtain ⟨front, failing, back, rfl, hreached, hfails, hresults⟩ := ih h
        refine ⟨(path, text) :: front, failing, back, rfl, ?_, ?_, ?_⟩
        · exact storeAll_cons_eq.mpr ⟨changed, result, hstore, hreached⟩
        · rw [tree_storeAll_cons hstore]
          exact hfails
        · rw [storeAll, hstore]
          exact congrArg (result :: ·) hresults

/-! ### What else changes -/

theorem builds_prepareParent_of_mem (tree : FileTree)
    (hdown : ∀ file ∈ files, ".." ∉ file.1.names) : ∀ file ∈ files, ∀ other : FileTree,
      other.current = tree.current → Builds (fun _ => False)
        (fun location => ∃ file ∈ files, Above location (tree.place file.1))
        other (other.prepareParent file.1).1 := by
  intro file hfile other hcurrent
  refine (builds_prepareParent (hdown file hfile)).imp (fun _ h => h) fun location habove => ?_
  rw [place_eq_of_current hcurrent] at habove
  exact ⟨file, hfile, habove⟩

theorem kept_of_builds {above : Location → Prop}
    (h : Builds (fun location => ∃ file ∈ files, after.locate file.1 = .ok location) above before
      after)
    (hother : ∀ file ∈ files, location ≠ before.place file.1) :
    after.get? location = before.get? location ∨
      before.get? location = none ∧ after.get? location = some .directory ∧ above location := by
  have hunwritten : ¬ ∃ file ∈ files, after.locate file.1 = .ok location := by
    rintro ⟨file, hfile, hlocate⟩
    refine hother file hfile ?_
    rw [eq_place_of_locate hlocate, place_eq_of_current h.current]
  have hmade := h.made location
  have hchange := h.change location
  generalize before.get? location = old, after.get? location = new at hmade hchange ⊢
  cases hchange with
  | same => exact .inl rfl
  | made => exact .inr ⟨rfl, rfl, hmade rfl rfl⟩
  | wrote content hwritten => exact absurd hwritten hunwritten

/-! ### The whole batch -/

section
variable (hdown : ∀ file ∈ files, ".." ∉ file.1.names)
  (hapart : files.Pairwise fun file other => tree.place file.1 ≠ tree.place other.1)
include hdown hapart

theorem stored_of_storeAll (h : (tree.storeAll files).failure = none) :
    Stored files files tree (tree.storeAll files).tree (tree.storeAll files).results := by
  have hbuilds := builds_storeAll (builds_prepareParent_of_mem tree hdown)
  exact {
    holds := fun file hfile =>
      upToDate_iff_find.mp ((upToDate_of_storeAll hapart h).1 file hfile)
    brought := brought_of_storeAll hapart hdown h
    current := hbuilds.current
    kept := fun _ hother => kept_of_builds hbuilds hother }

/-- **A batch that fails** leaves the files before the failing one with their texts. -/
theorem stopped_of_storeAll (h : (tree.storeAll files).failure = some error) :
    ∃ front failing back, files = front ++ failing :: back ∧
      Stopped tree front failing back error (tree.storeAll files) := by
  obtain ⟨front, failing, back, rfl, hreached, hfails, hresults⟩ :=
    exists_of_storeAll_failure h
  generalize tree.storeAll (front ++ failing :: back) = batch at hfails hresults ⊢
  obtain ⟨hfront, -, hother⟩ := List.pairwise_append.mp hapart
  have hstored := stored_of_storeAll
    (fun file hfile => hdown file (List.mem_append_left _ hfile)) hfront hreached
  have hlisted : front ++ [failing] ⊆ front ++ failing :: back := by simp
  -- the directories are those of the files before it and its own
  have hparents := builds_prepareParent_of_mem tree fun file hfile => hdown file (hlisted hfile)
  have hwrites := builds_storeAll fun file hfile => hparents file (List.mem_append_left _ hfile)
  have hfailed := builds_of_store_error
    (hparents failing (by simp) (tree.storeAll front).tree hstored.current) hfails
  have hbuilds : Builds (fun location => ∃ file ∈ front, batch.tree.locate file.1 = .ok location)
      (fun location => ∃ file ∈ front ++ [failing], Above location (tree.place file.1))
      tree batch.tree := by
    refine (hwrites.imp ?_ fun _ h => h).trans (hfailed.imp (fun _ h => h.elim) fun _ h => h)
    rintro location ⟨file, hfile, hlocate⟩
    exact ⟨file, hfile, hfailed.locate hlocate⟩
  have huntouched : ∀ file ∈ failing :: back, ∀ content,
      batch.tree.find file.1 = .ok (.file content) ↔ tree.find file.1 = .ok (.file content) := by
    intro file hfile
    apply find_file_iff_of_grows hbuilds.toGrows (hdown file (List.mem_append_right _ hfile))
    rintro location hlocate ⟨written, hwritten, hlocate'⟩
    have hne := hother written hwritten file hfile
    rw [← place_eq_of_current hbuilds.current, ← place_eq_of_current hbuilds.current] at hne
    exact locate_ne_of_place_ne hne hlocate' hlocate
  refine ⟨front, failing, back, rfl, hreached, ?_, ⟨?_, ?_, hbuilds.current, ?_⟩, huntouched⟩
  · rw [writeAll, if_neg Bool.false_ne_true, hfails]
  · intro file hfile
    exact hfailed.find_file (hstored.holds file hfile) fun _ _ h => h
  · rw [hresults]
    exact hstored.brought
  · exact fun _ hother => kept_of_builds hbuilds hother

end

/-- **A batch brings its files to their texts up to the first failure**, and touches nothing else,
if the files are at different places and their paths only go down. -/
theorem writeAll_stored (tree : FileTree) (files : List (Path × String))
    (hdown : ∀ file ∈ files, ".." ∉ file.1.names)
    (hapart : files.Pairwise fun file other => tree.place file.1 ≠ tree.place other.1) :
    ((tree.writeAll false files).failure = none →
      Stored files files tree (tree.writeAll false files).tree
        (tree.writeAll false files).results) ∧
    ∀ error, (tree.writeAll false files).failure = some error →
      ∃ front failing back, files = front ++ failing :: back ∧
        Stopped tree front failing back error (tree.writeAll false files) :=
  ⟨stored_of_storeAll hdown hapart, fun _ => stopped_of_storeAll hdown hapart⟩

/-! ### A directory in the place of a file -/

/-- The working directory with the file `old` and the directory `held`. -/
def heldTree : FileTree :=
  (((FileTree.empty.put [] "work" .directory).enter ["work"]).put ["work"] "held" .directory).put
    ["work"] "old" (.file "kept".toUTF8)

def heldFiles : List (Path × String) :=
  [(⟨"old"⟩, "kept"), (⟨"new/deep/file"⟩, "text"), (⟨"held"⟩, "text"), (⟨"last"⟩, "text")]

/-- The third file cannot be written, so the second is the last that is. -/
theorem writeAll_stored_held :
    (∀ file ∈ heldFiles, ".." ∉ file.1.names) ∧
    (heldFiles.Pairwise fun file other => heldTree.place file.1 ≠ heldTree.place other.1) ∧
    (heldTree.writeAll false heldFiles).results =
      [.unchanged ⟨"old"⟩, .written ⟨"new/deep/file"⟩ 4] ∧
    (∃ front failing back, heldFiles = front ++ failing :: back ∧
      Stopped heldTree front failing back (.write (.file ⟨"held"⟩ .isDirectory))
        (heldTree.writeAll false heldFiles)) ∧
    Stored (heldFiles.take 2) (heldFiles.take 2) heldTree
      (heldTree.writeAll false (heldFiles.take 2)).tree
      [.unchanged ⟨"old"⟩, .written ⟨"new/deep/file"⟩ 4] := by
  have hdown : ∀ file ∈ heldFiles, ".." ∉ file.1.names := by decide
  have hapart : heldFiles.Pairwise fun file other =>
      heldTree.place file.1 ≠ heldTree.place other.1 := by
    decide +kernel
  have hfailure : (heldTree.writeAll false heldFiles).failure =
      some (.write (.file ⟨"held"⟩ .isDirectory)) := by
    decide +kernel
  have hresults : (heldTree.writeAll false heldFiles).results =
      [.unchanged ⟨"old"⟩, .written ⟨"new/deep/file"⟩ 4] := by
    decide +kernel
  have hresults' : (heldTree.writeAll false (heldFiles.take 2)).results =
      [.unchanged ⟨"old"⟩, .written ⟨"new/deep/file"⟩ 4] := by
    decide +kernel
  have hfailure' : (heldTree.writeAll false (heldFiles.take 2)).failure = none := by
    decide +kernel
  obtain ⟨-, hstopped⟩ := writeAll_stored heldTree heldFiles hdown hapart
  obtain ⟨hstored, -⟩ := writeAll_stored heldTree (heldFiles.take 2)
    (fun file hfile => hdown file (List.mem_of_mem_take hfile))
    (hapart.sublist (List.take_sublist 2 heldFiles))
  exact ⟨hdown, hapart, hresults, hstopped _ hfailure, hresults' ▸ hstored hfailure'⟩

end FileTree

end EntityCodegen
