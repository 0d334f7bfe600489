import EntityCodegen.Proofs.Command.Changes
import EntityCodegen.Proofs.Project.Repairing

/-!
# What becomes of damaged files

`damaged_files`: a file whose bytes are those of a text, but not of its own, is out of date for a
check, and generating brings it to its text. A file whose bytes are those of no text is not even
compared: the check fails over it, and generating fails and leaves it as it is.

Both commands come to the file with all files of the project in hand (`filesFor`), so what they do is
what comparing (`failure_compareAll`) and storing (`storeAll_of_texts`, `storeAll_of_notText`) do
with these.
-/

namespace EntityCodegen

open FileTree (Grows IsText SameBut)

namespace Command

variable {options : ProjectOptions} {tree : FileTree} {files : List (Path × String)}
  {path : Path} {text : String} {content : ByteArray}

/-! ### Checking -/

theorem exists_printed_of_check (hfiles : filesFor tree options .all = .ok files)
    (hfailure : (tree.compareAll files).failure = none) :
    ∃ front back, ((check options).run tree).printed =
      front ++ (tree.compareAll files).statuses.flatMap statusLines ++ back := by
  obtain ⟨project, generated, hload, hgenerate, rfl⟩ := filesFor_eq_ok_iff.mp hfiles
  exact ⟨_, _, (run_check_eq hload hgenerate hfailure).2⟩

theorem check_damaged (hfiles : filesFor tree options .all = .ok files)
    (hreadable : tree.Readable files) (hmem : (path, text) ∈ files)
    (hfind : tree.find path = .ok (.file content)) (hdamaged : content ≠ text.toUTF8) :
    ((check options).run tree).ending.exitCode = 2 ∧
      "✗ " ++ path.text ++ " is out of date" ∈ ((check options).run tree).printed := by
  have hfailure := (FileTree.failure_compareAll tree files).1 hreadable
  have hstale := ((FileTree.handled_of_find hfind text).stale hdamaged
    (hreadable _ hmem content hfind)).1
  constructor
  · refine exitCode_of_run_check.mpr ⟨files, hfiles, hfailure, _, hmem, ?_⟩
    rw [FileTree.UpToDate, hstale]
    simp
  · obtain ⟨front, back, hprinted⟩ := exists_printed_of_check hfiles hfailure
    have hstatus := (FileTree.mem_statuses_iff hfailure).mpr ⟨text, hmem, hstale⟩
    rw [hprinted]
    refine List.mem_append_left _ (List.mem_append_right _ (List.mem_flatMap.mpr ⟨_, hstatus, ?_⟩))
    exact List.mem_singleton_self _

theorem check_notText (hfiles : filesFor tree options .all = .ok files)
    (hreadable : ¬ tree.Readable files) :
    ((check options).run tree).ending = .failure (.access .notText) := by
  rw [run_check_of_ok hfiles, checkGenerated,
    (FileTree.failure_compareAll tree files).2 hreadable]

/-! ### All commands -/

/-- What checking and generating make of the files of a project, by the bytes that they hold. -/
structure Mends (options : ProjectOptions) (tree : FileTree) (files : List (Path × String)) :
    Prop where
  /-- A damaged file is reported, where all files are texts. -/
  check_damaged : tree.Readable files → ∀ file ∈ files, ∀ content,
    tree.find file.1 = .ok (.file content) → content ≠ file.2.toUTF8 →
      ((check options).run tree).ending.exitCode = 2 ∧
        "✗ " ++ file.1.text ++ " is out of date" ∈ ((check options).run tree).printed
  /-- The check fails over a file that is no text. -/
  check_notText : ¬ tree.Readable files →
    ((check options).run tree).ending = .failure (.access .notText)
  /-- Files that are all texts are brought to their texts, and nothing else changes. -/
  generate_texts :
    (∀ file ∈ files, ∃ content, tree.find file.1 = .ok (.file content) ∧ IsText content) →
      ((generate options .all false).run tree).ending = .success ∧
      (∀ file ∈ files, ((generate options .all false).run tree).tree.find file.1 =
        .ok (.file file.2.toUTF8)) ∧
      SameBut (files.map Prod.fst) tree ((generate options .all false).run tree).tree
  /-- So is a damaged file among others, if these can be stored as far as they come before it. -/
  generate_reached : ∀ front file back content, files = front ++ file :: back →
    (tree.storeAll front).failure = none → tree.find file.1 = .ok (.file content) →
      IsText content → ((generate options .all false).run tree).tree.find file.1 =
        .ok (.file file.2.toUTF8)
  /-- Generating fails over a file that is no text and leaves it as it was. -/
  generate_notText : ∀ file ∈ files, ∀ content, tree.find file.1 = .ok (.file content) →
    ¬ IsText content →
      (∃ error, ((generate options .all false).run tree).ending = .failure error) ∧
      ((generate options .all false).run tree).tree.find file.1 = .ok (.file content)

theorem mends_of_filesFor (hfiles : filesFor tree options .all = .ok files) :
    Mends options tree files := by
  have hapart : files.Pairwise fun file other => FileTree.Apart file.1 other.1 := by
    obtain ⟨project, generated, -, hgenerate, rfl⟩ := filesFor_eq_ok_iff.mp hfiles
    exact Project.apart_of_mem_destinations hgenerate
  have hplaces : files.Pairwise fun file other => tree.place file.1 ≠ tree.place other.1 :=
    hapart.imp fun h => h.place_ne tree
  have hrun : ((generate options .all false).run tree).tree = (tree.storeAll files).tree ∧
      ((generate options .all false).run tree).ending =
        (tree.storeAll files).failure.elim .success .failure := run_generate_of_ok hfiles
  obtain ⟨htree, hending⟩ := hrun
  refine ⟨?_, check_notText hfiles, ?_, ?_, ?_⟩
  · rintro hreadable ⟨path, text⟩ hmem content hfind hdamaged
    exact check_damaged hfiles hreadable hmem hfind hdamaged
  · intro htexts
    obtain ⟨hfailure, hsame⟩ := FileTree.storeAll_of_texts hapart htexts
    rw [hending, htree, hfailure]
    refine ⟨rfl, fun file hmem => ?_, hsame⟩
    exact FileTree.upToDate_iff_find.mp
      ((FileTree.upToDate_of_storeAll hplaces hfailure).1 file hmem)
  · rintro front ⟨path, text⟩ back content hsplit hreached hfind hbytes
    rw [htree]
    exact FileTree.find_of_storeAll hapart hsplit hreached hfind hbytes
  · rintro ⟨path, text⟩ hmem content hfind hbytes
    obtain ⟨⟨error, hfailure⟩, hkept⟩ :=
      FileTree.storeAll_of_notText hapart hmem hfind hbytes
    rw [hending, htree, hfailure]
    exact ⟨⟨error, rfl⟩, hkept⟩

/-- **A damaged file is reported and repaired iff it is a text**: so it is for comparing and storing
any one file, and for checking and generating the files of a project. -/
theorem damaged_files (tree : FileTree) :
    (∀ path text content, tree.find path = .ok (.file content) →
      tree.Handled path text content) ∧
    ∀ options files, filesFor tree options .all = .ok files → Mends options tree files :=
  ⟨fun _ text _ hfind => FileTree.handled_of_find hfind text,
    fun _ _ hfiles => mends_of_filesFor hfiles⟩

/-! ### A project with one damaged file -/

def doorFiles : List (Path × String) :=
  doorProject.destinations (Project.filesOf doorSchema .all)

def damagedLocation : Location :=
  ["work", "src", "enums", "enums.cc"]

/-- The door's tree after the run, with other bytes in the last file. -/
def damagedTree (content : ByteArray) : FileTree :=
  (doorTree.storeAll doorFiles).tree.put ["work", "src", "enums"] "enums.cc" (.file content)

/-- The bytes of a text, and a byte that is not one of any text. -/
def damages : List ByteArray :=
  ["x".toUTF8, ⟨#[255]⟩]

theorem mem_doorFiles : (⟨"./src/enums/enums.cc"⟩, Output.enumSource []) ∈ doorFiles :=
  List.mem_of_getLast? rfl

theorem stored_damaged :
    (doorTree.storeAll doorFiles).tree.get? ["work", "src", "enums"] = some .directory ∧
    (doorTree.storeAll doorFiles).tree.get? damagedLocation ≠ some .directory ∧
    ∀ content ∈ damages,
      (Project.load (damagedTree content) ProjectOptions.standard.root
        ProjectOptions.standard.settingsFile ProjectOptions.standard.overrides).result =
          .ok doorProject ∧
      (∀ output ∈ [doorProject.settings.output.components, doorProject.settings.output.enums],
        ∀ input ∈ [doorProject.settings.input.components, doorProject.settings.input.enums],
          (damagedTree content).locateDirectory (doorProject.root.join output) ≠
            (damagedTree content).locateDirectory (doorProject.root.join input)) ∧
      (damagedTree content).locate ⟨"./src/enums/enums.cc"⟩ = .ok damagedLocation := by
  decide +kernel

theorem places_doorFiles :
    doorFiles.Pairwise fun file other => doorTree.place file.1 ≠ doorTree.place other.1 :=
  Project.place_ne_of_mem_destinations generate_door doorTree

theorem grows_damaged (content : ByteArray) :
    Grows (fun location => location = damagedLocation) (doorTree.storeAll doorFiles).tree
      (damagedTree content) :=
  FileTree.grows_put_file rfl

theorem get?_damaged (content : ByteArray) :
    (damagedTree content).get? damagedLocation = some (.file content) := by
  obtain ⟨hdirectory, hfree, -⟩ := stored_damaged
  rw [damagedTree, FileTree.get?_put hdirectory (by decide) hfree]
  exact if_pos rfl

theorem isText_of_find_damaged (hbytes : IsText content) : ∀ file ∈ doorFiles, ∃ content',
    (damagedTree content).find file.1 = .ok (.file content') ∧ IsText content' := by
  intro file hfile
  by_cases hlocate : (damagedTree content).locate file.1 = .ok damagedLocation
  · exact ⟨content, FileTree.find_eq_ok_iff.mpr ⟨_, hlocate, get?_damaged content⟩, hbytes⟩
  · have hupToDate := (FileTree.upToDate_of_storeAll places_doorFiles stored_door.2.1).1 file hfile
    refine ⟨_, (grows_damaged content).find_file (FileTree.upToDate_iff_find.mp hupToDate) ?_,
      file.2, rfl⟩
    rintro location hlocation rfl
    exact hlocate hlocation

section
variable (hcontent : content ∈ damages)
include hcontent

theorem filesFor_damaged :
    filesFor (damagedTree content) .standard .all = .ok doorFiles := by
  obtain ⟨-, -, hdamages⟩ := stored_damaged
  obtain ⟨hload, hdirectories, hlocate⟩ := hdamages content hcontent
  have hstored := FileTree.grows_storeAll doorTree doorFiles
  have hdamaged := grows_damaged content
  have hgrows : Grows (fun location => ∃ file ∈ doorFiles,
      (damagedTree content).locate file.1 = .ok location) doorTree (damagedTree content) := by
    refine (hstored.imp ?_).trans (hdamaged.imp ?_)
    · rintro location ⟨file, hfile, hlocation⟩
      exact ⟨file, hfile, hdamaged.locate hlocation⟩
    · rintro location rfl
      exact ⟨_, mem_doorFiles, hlocate⟩
  have hgenerate := generate_of_apart generate_door hgrows hdirectories
  exact filesFor_eq_ok_iff.mpr ⟨doorProject, _, hload, hgenerate, rfl⟩

theorem find_damaged :
    (damagedTree content).find ⟨"./src/enums/enums.cc"⟩ = .ok (.file content) :=
  FileTree.find_eq_ok_iff.mpr
    ⟨_, (stored_damaged.2.2 content hcontent).2.2, get?_damaged content⟩

end

/-- A damaged text is out of date and is repaired. -/
theorem damaged_files_door :
    (damagedTree "x".toUTF8).find ⟨"./src/enums/enums.cc"⟩ = .ok (.file "x".toUTF8) ∧
    filesFor (damagedTree "x".toUTF8) .standard .all = .ok doorFiles ∧
    (damagedTree "x".toUTF8).compare ⟨"./src/enums/enums.cc"⟩ (Output.enumSource []) = .ok .stale ∧
    ((check .standard).run (damagedTree "x".toUTF8)).ending.exitCode = 2 ∧
    ((generate .standard .all false).run (damagedTree "x".toUTF8)).ending = .success ∧
    ((generate .standard .all false).run (damagedTree "x".toUTF8)).tree.find
      ⟨"./src/enums/enums.cc"⟩ = .ok (.file (Output.enumSource []).toUTF8) := by
  have hcontent : "x".toUTF8 ∈ damages := by simp [damages]
  have hbytes : IsText "x".toUTF8 := ⟨"x", rfl⟩
  have hdamaged : "x".toUTF8 ≠ (Output.enumSource []).toUTF8 := by
    rw [Ne, String.toUTF8_eq_toByteArray, String.toUTF8_eq_toByteArray, String.toByteArray_inj]
    decide
  have hfind := find_damaged hcontent
  have hfiles := filesFor_damaged hcontent
  have htexts := isText_of_find_damaged hbytes
  have hreadable : (damagedTree "x".toUTF8).Readable doorFiles := by
    intro file hfile content hcontent
    obtain ⟨content', hcontent', hbytes⟩ := htexts file hfile
    cases hcontent.symm.trans hcontent'
    exact hbytes
  obtain ⟨hhandled, hmends⟩ := damaged_files (damagedTree "x".toUTF8)
  have hstale := ((hhandled _ (Output.enumSource []) _ hfind).stale hdamaged hbytes).1
  have hcheck := (hmends _ _ hfiles).check_damaged hreadable _ mem_doorFiles _ hfind hdamaged
  obtain ⟨hending, hrepaired, -⟩ := (hmends _ _ hfiles).generate_texts htexts
  have hlast := hrepaired _ mem_doorFiles
  exact ⟨hfind, hfiles, hstale, hcheck.1, hending, hlast⟩

/-- A byte that is not one of any text makes the check fail over the file, not over its being out of
date, and generating fails and leaves the byte there. -/
theorem damage_not_repaired :
    (damagedTree ⟨#[255]⟩).find ⟨"./src/enums/enums.cc"⟩ = .ok (.file ⟨#[255]⟩) ∧
    (damagedTree ⟨#[255]⟩).compare ⟨"./src/enums/enums.cc"⟩ (Output.enumSource []) =
      .error .notText ∧
    (damagedTree ⟨#[255]⟩).store ⟨"./src/enums/enums.cc"⟩ (Output.enumSource []) =
      (damagedTree ⟨#[255]⟩, .error (.access .notText)) ∧
    filesFor (damagedTree ⟨#[255]⟩) .standard .all = .ok doorFiles ∧
    ((check .standard).run (damagedTree ⟨#[255]⟩)).ending.exitCode = 1 ∧
    ((generate .standard .all false).run (damagedTree ⟨#[255]⟩)).ending ≠ .success ∧
    ((generate .standard .all false).run (damagedTree ⟨#[255]⟩)).tree.find
      ⟨"./src/enums/enums.cc"⟩ = .ok (.file ⟨#[255]⟩) := by
  have hcontent : ⟨#[255]⟩ ∈ damages := by simp [damages]
  have hbytes : ¬ IsText ⟨#[255]⟩ := FileTree.fromUTF8?_eq_none_iff.mp (by decide +kernel)
  have hfind := find_damaged hcontent
  have hfiles := filesFor_damaged hcontent
  have hunreadable : ¬ (damagedTree ⟨#[255]⟩).Readable doorFiles :=
    fun hreadable => hbytes (hreadable _ mem_doorFiles _ hfind)
  obtain ⟨hcompare, hstore⟩ :=
    (FileTree.handled_of_find hfind (Output.enumSource [])).notText hbytes
  obtain ⟨⟨error, hending⟩, hkept⟩ :=
    (mends_of_filesFor hfiles).generate_notText _ mem_doorFiles _ hfind hbytes
  refine ⟨hfind, hcompare, hstore, hfiles, ?_, ?_, hkept⟩
  · rw [check_notText hfiles hunreadable]
    rfl
  · rw [hending]
    simp

end Command

end EntityCodegen
