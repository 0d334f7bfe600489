import EntityCodegen.Project.Writing
import EntityCodegen.Proofs.Files.Making

/-!
# Storing generated files

`upToDate_of_storeAll`: when files at different places have been stored, every one of them is up to
date, not only right after it was written. A file that was stored is at the place of its path
(`upToDate_of_store`), and so are those stored later; so a later file changes no earlier one
(`upToDate_of_grows`). Files with different last names are at different places (`Apart.place_ne`).

A run that fails on the way has only made the tree grow, too (`grows_storeAll`): of the file at
which it failed at most the directory was made (`builds_of_store_error`). Storing files that are up
to date changes nothing (`storeAll_of_upToDate`).

Which directories storing makes is left open here. The lemmas speak of any locations `above` that
cover what is made for the files; a caller that asks for no more than `Grows` takes all of them.
-/

namespace EntityCodegen

open EntityCodegen.Path (IsFileName isName_iff)

/-- The path of a file with the name, in some directory. -/
def Path.EndsIn (path : Path) (name : String) : Prop :=
  IsFileName name ∧ ∃ directory : Path, path = directory.join ⟨name⟩

theorem Path.EndsIn.getLast?_names {path : Path} {name : String} (h : path.EndsIn name) :
    path.names.getLast? = some name := by
  obtain ⟨hname, directory, rfl⟩ := h
  rw [names_join hname.slash, List.filter_cons_of_pos (by simpa using hname.nonempty)]
  simp

namespace FileTree

variable {tree changed after : FileTree} {path : Path} {name text : String} {location : Location}
  {content : ByteArray} {result : WriteResult}

/-! ### Files that are up to date -/

/-- The file at the path holds the text. -/
def UpToDate (tree : FileTree) (path : Path) (text : String) : Prop :=
  tree.compare path text = .ok .upToDate

theorem upToDate_iff : tree.UpToDate path text ↔ ∃ location content,
    tree.locate path = .ok location ∧ tree.get? location = some (.file content) ∧
      String.fromUTF8? content = some text := by
  rw [UpToDate, compare]
  by_cases hfile : tree.hasFile path
  · rw [hfile, Bool.not_true, if_neg Bool.false_ne_true, bind_eq_ok_iff]
    constructor
    · rintro ⟨existing, hexisting, hstatus⟩
      obtain ⟨content, hfind, hdecoded⟩ := readText_eq_ok_iff.mp hexisting
      obtain ⟨location, hlocate, hentry⟩ := find_eq_ok_iff.mp hfind
      refine ⟨location, content, hlocate, hentry, ?_⟩
      by_cases hsame : existing = text
      · rw [hdecoded, hsame]
      · simp [hsame, pure, Except.pure] at hstatus
    · rintro ⟨location, content, hlocate, hentry, hdecoded⟩
      have hfind := find_eq_ok_iff.mpr ⟨location, hlocate, hentry⟩
      exact ⟨text, readText_eq_ok_iff.mpr ⟨content, hfind, hdecoded⟩, by simp [pure, Except.pure]⟩
  · rw [Bool.not_eq_true] at hfile
    rw [hfile, Bool.not_false, if_pos rfl]
    constructor
    · intro h
      cases h
    · rintro ⟨location, content, hlocate, hentry, -⟩
      have hfile' := hasFile_iff.mpr ⟨location, content, hlocate, hentry⟩
      rw [hfile] at hfile'
      cases hfile'

theorem fromUTF8?_toUTF8 (text : String) : String.fromUTF8? text.toUTF8 = some text := by
  rw [String.fromUTF8?, String.toUTF8_eq_toByteArray, dif_pos text.isValidUTF8]
  rfl

theorem fromUTF8?_eq_some_iff : String.fromUTF8? content = some text ↔ content = text.toUTF8 := by
  constructor
  · intro h
    rw [String.fromUTF8?] at h
    split at h
    · cases h
      rfl
    · cases h
  · rintro rfl
    exact fromUTF8?_toUTF8 text

theorem upToDate_iff_find : tree.UpToDate path text ↔ tree.find path = .ok (.file text.toUTF8) := by
  simp only [upToDate_iff, find_eq_ok_iff, fromUTF8?_eq_some_iff]
  refine exists_congr fun location => ?_
  constructor
  · rintro ⟨_, hlocate, hentry, rfl⟩
    exact ⟨hlocate, hentry⟩
  · rintro ⟨hlocate, hentry⟩
    exact ⟨_, hlocate, hentry, rfl⟩

theorem upToDate_of_grows {written : Location → Prop} (h : Grows written tree after)
    (hpath : tree.UpToDate path text)
    (hkept : ∀ location, after.locate path = .ok location → ¬ written location) :
    after.UpToDate path text :=
  upToDate_iff_find.mpr (h.find_file (upToDate_iff_find.mp hpath) hkept)

theorem place_of_endsIn (hpath : path.EndsIn name) (tree : FileTree) :
    ∃ directory, tree.place path = directory ++ [name] := by
  obtain ⟨front, hnames⟩ := List.getLast?_eq_some_iff.mp hpath.getLast?_names
  refine ⟨front.foldl step (tree.start path), ?_⟩
  rw [place, hnames, List.foldl_append, List.foldl_cons, List.foldl_nil, step,
    if_neg hpath.1.dot, if_neg hpath.1.up]

/-! ### One file -/

theorem upToDate_of_writeFile {above : Location → Prop}
    (h : tree.writeFile path text.toUTF8 = .ok changed) :
    changed.UpToDate path text ∧
      Builds (fun location => changed.locate path = .ok location) above tree changed := by
  obtain ⟨hlocate, hfile, -⟩ := written_of_writeFile h
  refine ⟨upToDate_iff_find.mpr (find_eq_ok_iff.mpr ⟨_, hlocate, hfile⟩), ?_⟩
  exact (builds_writeFile h).imp (fun location hlocation => hlocation ▸ hlocate) fun _ h => h

section
variable {above : Location → Prop} {error : WriteError} {failure : ProjectError}
  (hparent : Builds (fun _ => False) above tree (tree.prepareParent path).1)
include hparent

theorem upToDate_of_replaceFile (h : tree.replaceFile path text = (changed, .ok result)) :
    changed.UpToDate path text ∧
      Builds (fun location => changed.locate path = .ok location) above tree changed := by
  rw [replaceFile] at h
  split at h
  · cases h
  · next grown hgrown =>
    rw [hgrown] at hparent
    split at h
    · cases h
    · next written hwritten =>
      rw [Prod.mk.injEq] at h
      obtain ⟨rfl, -⟩ := h
      obtain ⟨hupToDate, hwrite⟩ := upToDate_of_writeFile hwritten
      exact ⟨hupToDate, (hparent.imp (fun _ h => h.elim) fun _ h => h).trans hwrite⟩

theorem builds_of_replaceFile_error (h : tree.replaceFile path text = (changed, .error error)) :
    Builds (fun _ => False) above tree changed := by
  rw [replaceFile] at h
  split at h
  · next hgrown =>
    cases h
    rwa [hgrown] at hparent
  · next hgrown =>
    rw [hgrown] at hparent
    split at h <;> cases h
    exact hparent

theorem upToDate_of_store (h : tree.store path text = (changed, .ok result)) :
    changed.UpToDate path text ∧
      Builds (fun location => changed.locate path = .ok location) above tree changed := by
  rw [store] at h
  split at h
  · cases h
  · next hstatus =>
    rw [Prod.mk.injEq] at h
    obtain ⟨rfl, -⟩ := h
    exact ⟨hstatus, .refl tree⟩
  · cases hreplace : tree.replaceFile path text with
    | mk written replaced =>
      rw [hreplace] at h
      cases replaced with
      | error error => cases h
      | ok replaced =>
        cases h
        exact upToDate_of_replaceFile hparent hreplace

theorem builds_of_store_error (h : tree.store path text = (changed, .error failure)) :
    Builds (fun _ => False) above tree changed := by
  rw [store] at h
  split at h
  · cases h
    exact .refl tree
  · cases h
  · cases hreplace : tree.replaceFile path text with
    | mk written replaced =>
      rw [hreplace] at h
      cases replaced with
      | ok replaced => cases h
      | error error =>
        cases h
        exact builds_of_replaceFile_error hparent hreplace

theorem builds_store (text : String) :
    Builds (fun location => (tree.store path text).1.locate path = .ok location) above tree
      (tree.store path text).1 := by
  cases hstore : tree.store path text with
  | mk changed stored =>
    cases stored with
    | ok result => exact (upToDate_of_store hparent hstore).2
    | error error =>
      exact (builds_of_store_error hparent hstore).imp (fun _ h => h.elim) fun _ h => h

end

theorem grows_store (tree : FileTree) (path : Path) (text : String) :
    Grows (fun location => (tree.store path text).1.locate path = .ok location) tree
      (tree.store path text).1 :=
  (builds_store (grows_prepareParent tree path).builds text).toGrows

/-! ### All files -/

/-- Two paths that never lead to the same file. -/
def Apart (path other : Path) : Prop :=
  ∃ name name', path.EndsIn name ∧ other.EndsIn name' ∧ name ≠ name'

theorem Apart.place_ne {other : Path} (h : Apart path other) (tree : FileTree) :
    tree.place path ≠ tree.place other := by
  obtain ⟨name, name', hname, hname', hne⟩ := h
  obtain ⟨directory, hplace⟩ := place_of_endsIn hname tree
  obtain ⟨directory', hplace'⟩ := place_of_endsIn hname' tree
  intro hsame
  rw [hplace, hplace'] at hsame
  exact hne (List.cons.inj (List.append_inj' hsame rfl).2).1

theorem locate_ne_of_place_ne {other : Path} (h : tree.place path ≠ tree.place other)
    (hpath : tree.locate path = .ok location) : tree.locate other ≠ .ok location :=
  fun hother => h ((eq_place_of_locate hpath).symm.trans (eq_place_of_locate hother))

theorem Apart.locate_ne {other : Path} (h : Apart path other)
    (hpath : tree.locate path = .ok location) : tree.locate other ≠ .ok location :=
  locate_ne_of_place_ne (h.place_ne tree) hpath

theorem Apart.ne {other : Path} (h : Apart path other) : path ≠ other := by
  rintro rfl
  obtain ⟨name, name', hname, hname', hne⟩ := h
  exact hne (Option.some.inj (hname.getLast?_names.symm.trans hname'.getLast?_names))

theorem storeAll_cons_eq {rest : List (Path × String)} :
    (tree.storeAll ((path, text) :: rest)).failure = none ↔ ∃ changed result,
      tree.store path text = (changed, .ok result) ∧ (changed.storeAll rest).failure = none := by
  rw [storeAll]
  cases tree.store path text with
  | mk changed stored => cases stored <;> simp

theorem tree_storeAll_cons {rest : List (Path × String)}
    (h : tree.store path text = (changed, .ok result)) :
    (tree.storeAll ((path, text) :: rest)).tree = (changed.storeAll rest).tree := by
  rw [storeAll, h]

theorem builds_storeAll {above : Location → Prop} {files : List (Path × String)}
    (hparents : ∀ file ∈ files, ∀ other : FileTree, other.current = tree.current →
      Builds (fun _ => False) above other (other.prepareParent file.1).1) :
    Builds (fun location => ∃ file ∈ files,
        (tree.storeAll files).tree.locate file.1 = .ok location) above
      tree (tree.storeAll files).tree := by
  induction files generalizing tree with
  | nil => exact .refl tree
  | cons file rest ih =>
    obtain ⟨path, text⟩ := file
    obtain ⟨hparent, hparents⟩ := List.forall_mem_cons.mp hparents
    have hbuilds := builds_store (hparent tree rfl) text
    cases hstore : tree.store path text with
    | mk changed stored =>
      rw [hstore] at hbuilds
      cases stored with
      | error error =>
        have htree : (tree.storeAll ((path, text) :: rest)).tree = changed := by
          rw [storeAll, hstore]
        rw [htree]
        exact hbuilds.imp (fun location hlocation => ⟨(path, text), by simp, hlocation⟩)
          fun _ h => h
      | ok result =>
        rw [tree_storeAll_cons hstore]
        have hbuilds' := ih fun file hfile other hcurrent =>
          hparents file hfile other (hcurrent.trans hbuilds.current)
        refine (hbuilds.imp (fun location hlocation => ?_) fun _ h => h).trans
          (hbuilds'.imp (fun location hlocation => ?_) fun _ h => h)
        · exact ⟨(path, text), by simp, hbuilds'.locate hlocation⟩
        · obtain ⟨other, hother, hlocation⟩ := hlocation
          exact ⟨other, List.mem_cons_of_mem _ hother, hlocation⟩

theorem grows_storeAll (tree : FileTree) (files : List (Path × String)) :
    Grows (fun location => ∃ file ∈ files,
        (tree.storeAll files).tree.locate file.1 = .ok location)
      tree (tree.storeAll files).tree :=
  (builds_storeAll fun file _ other _ => (grows_prepareParent other file.1).builds).toGrows

/-- **When files at different places were stored, all of them are up to date**, and nothing else
was written. -/
theorem upToDate_of_storeAll {files : List (Path × String)}
    (hapart : files.Pairwise fun file other => tree.place file.1 ≠ tree.place other.1)
    (h : (tree.storeAll files).failure = none) :
    (∀ file ∈ files, (tree.storeAll files).tree.UpToDate file.1 file.2) ∧
      Grows (fun location => ∃ file ∈ files,
          (tree.storeAll files).tree.locate file.1 = .ok location)
        tree (tree.storeAll files).tree := by
  refine ⟨?_, grows_storeAll tree files⟩
  induction files generalizing tree with
  | nil => simp
  | cons file rest ih =>
    obtain ⟨path, text⟩ := file
    obtain ⟨changed, result, hstore, hrest⟩ := storeAll_cons_eq.mp h
    have hbuilds := grows_store tree path text
    rw [hstore] at hbuilds
    have hgrows := grows_storeAll changed rest
    have hupToDate := (upToDate_of_store (grows_prepareParent tree path).builds hstore).1
    -- the places stay the same while the files are stored
    simp only [← place_eq_of_current hbuilds.current] at hapart
    obtain ⟨hfirst, hapart⟩ := List.pairwise_cons.mp hapart
    rw [tree_storeAll_cons hstore]
    refine List.forall_mem_cons.mpr
      ⟨upToDate_of_grows hgrows hupToDate ?_, ih hapart hrest⟩
    rintro location hlocation ⟨other, hother, hlocation'⟩
    have hne := hfirst other hother
    rw [← place_eq_of_current hgrows.current, ← place_eq_of_current hgrows.current] at hne
    exact locate_ne_of_place_ne hne hlocation hlocation'

theorem storeAll_of_upToDate {files : List (Path × String)}
    (h : ∀ file ∈ files, tree.UpToDate file.1 file.2) :
    tree.storeAll files = ⟨tree, files.map fun file => .unchanged file.1, none⟩ := by
  induction files with
  | nil => rfl
  | cons file rest ih =>
    obtain ⟨hfile, hrest⟩ := List.forall_mem_cons.mp h
    have hstore : tree.store file.1 file.2 = (tree, .ok (.unchanged file.1)) := by
      rw [store, hfile]
    rw [storeAll, hstore]
    simp only [ih hrest, List.map_cons]

theorem compareAll_of_upToDate {files : List (Path × String)}
    (h : ∀ file ∈ files, tree.UpToDate file.1 file.2) :
    tree.compareAll files = ⟨files.map fun file => (file.1, .upToDate), none⟩ := by
  induction files with
  | nil => rfl
  | cons file rest ih =>
    obtain ⟨hfile, hrest⟩ := List.forall_mem_cons.mp h
    rw [compareAll, hfile, ih hrest]
    rfl

theorem upToDate_of_compareAll {files : List (Path × String)}
    (hfailure : (tree.compareAll files).failure = none)
    (houtdated : (tree.compareAll files).outdated = 0) :
    ∀ file ∈ files, tree.UpToDate file.1 file.2 := by
  induction files with
  | nil => simp
  | cons file rest ih =>
    obtain ⟨path, text⟩ := file
    rw [compareAll] at hfailure houtdated
    cases hstatus : tree.compare path text with
    | error fault => simp [hstatus] at hfailure
    | ok status =>
      simp only [hstatus, Comparison.outdated, List.countP_cons] at hfailure houtdated
      have hrest : (tree.compareAll rest).outdated = 0 := by
        rw [Comparison.outdated]
        omega
      have hfirst : status = .upToDate := by
        by_contra hne
        simp [hne] at houtdated
      rw [hfirst] at hstatus
      exact List.forall_mem_cons.mpr ⟨hstatus, ih hfailure hrest⟩

theorem outdated_eq_zero_iff {files : List (Path × String)}
    (h : (tree.compareAll files).failure = none) :
    (tree.compareAll files).outdated = 0 ↔ ∀ file ∈ files, tree.UpToDate file.1 file.2 := by
  refine ⟨upToDate_of_compareAll h, fun hupToDate => ?_⟩
  rw [compareAll_of_upToDate hupToDate, Comparison.outdated, List.countP_map]
  simp

end FileTree

end EntityCodegen
