import EntityCodegen.Project.Generation
import EntityCodegen.Proofs.Files.Growth
import Mathlib.Data.List.Nodup

/-!
# Scanning a directory again

`scan_congr`: what a scan gives depends on the definitions in the directory alone. So it is the same
after writing as before, if nothing was written in the directory (`scanAny_eq_of_grows`). New
directories in it do not matter, since they are no definitions.

How the paths of the definitions are written is a matter of the directory's path alone (`reach_eq`),
since every segment of a path that leads to a directory leads somewhere. Which names are listed
depends on the directory's entries, and the listed files are those with a file at the name
(`definitionPaths_eq`); in trees with the same definitions these are the same files in the same
order (`definitionNames_congr`).
-/

namespace EntityCodegen

open EntityCodegen.Path (IsSegment isName_iff)

namespace FileTree

variable {tree before after : FileTree} {location target : Location} {directory : Path}
  {segment name : String} {written : Location → Prop}

/-! ### The names in a directory -/

theorem mem_namesIn :
    name ∈ tree.namesIn location ↔ (tree.get? (location ++ [name])).isSome := by
  rw [namesIn, List.mem_mergeSort, List.mem_filterMap, get?, entryIn?, if_neg (by simp),
    List.lookup_isSome_iff]
  constructor
  · rintro ⟨entry, hentry, hname⟩
    rw [Option.ite_none_right_eq_some] at hname
    obtain ⟨rfl, hlast⟩ := hname
    exact ⟨entry, hentry, by rw [List.dropLast_append_getLast? name hlast, beq_self_eq_true]⟩
  · rintro ⟨entry, hentry, hlocation⟩
    exact ⟨entry, hentry, by rw [← beq_iff_eq.mp hlocation]; simp⟩

theorem isName_of_mem_namesIn (h : name ∈ tree.namesIn location) : isName name :=
  names_of_get? (mem_namesIn.mp h) name (by simp)

theorem nodup_namesIn (tree : FileTree) (location : Location) :
    (tree.namesIn location).Nodup := by
  have hkeys : (tree.entries.filterMap fun entry =>
      if entry.1.dropLast = location then entry.1.getLast? else none) =
      (tree.entries.map Prod.fst).filterMap fun key =>
        if key.dropLast = location then key.getLast? else none := by
    rw [List.filterMap_map]
    rfl
  rw [namesIn, List.Perm.nodup_iff (List.mergeSort_perm _ _), hkeys]
  refine List.Nodup.filterMap (fun key other name hkey hother => ?_) tree.distinct
  rw [Option.mem_def, Option.ite_none_right_eq_some] at hkey hother
  rw [← List.dropLast_append_getLast? name hkey.2, ← List.dropLast_append_getLast? name hother.2,
    hkey.1, hother.1]

theorem pairwise_namesIn (tree : FileTree) (location : Location) :
    (tree.namesIn location).Pairwise (· ≤ ·) := by
  have htrans (a b c : String) (hab : decide (a ≤ b)) (hbc : decide (b ≤ c)) :
      decide (a ≤ c) := by
    simp only [decide_eq_true_eq] at hab hbc ⊢
    exact String.le_trans hab hbc
  have htotal (a b : String) : (decide (a ≤ b) || decide (b ≤ a)) := by
    simp only [Bool.or_eq_true, decide_eq_true_eq]
    exact String.le_total a b
  have h := List.pairwise_mergeSort htrans htotal (tree.entries.filterMap fun entry =>
    if entry.1.dropLast = location then entry.1.getLast? else none)
  simpa only [decide_eq_true_eq, namesIn] using h

theorem filter_namesIn_eq {other : FileTree} {p q : String → Bool}
    (h : ∀ name, name ∈ tree.namesIn location ∧ p name ↔ name ∈ other.namesIn target ∧ q name) :
    (tree.namesIn location).filter p = (other.namesIn target).filter q := by
  have hmem (name : String) : name ∈ (tree.namesIn location).filter p ↔
      name ∈ (other.namesIn target).filter q := by
    rw [List.mem_filter, List.mem_filter]
    exact h name
  have hperm := (List.perm_ext_iff_of_nodup ((nodup_namesIn tree location).filter p)
    ((nodup_namesIn other target).filter q)).mpr hmem
  exact hperm.eq_of_pairwise (fun _ _ _ _ => String.le_antisymm)
    ((pairwise_namesIn tree location).filter p) ((pairwise_namesIn other target).filter q)

/-! ### The path of an entry -/

theorem exists_pathIn_eq (h : tree.locate directory = .ok location) : ∃ base : Path,
    (∀ name, pathIn directory name = base.join ⟨name⟩) ∧ tree.descend base = .ok location := by
  have hdescend := (locate_eq_ok_iff.mp h).2.1
  by_cases hdot : directory = ⟨"."⟩
  · refine ⟨⟨""⟩, fun name => ?_, ?_⟩
    · rw [pathIn, if_pos hdot, Path.join]
      simp
    · -- from the working directory, the name of the same directory leads to itself
      subst hdot
      have hfollow : ["."].foldlM tree.follow tree.current = .ok location := hdescend
      rw [foldlM_cons_eq_ok_iff] at hfollow
      obtain ⟨next, hnext, hlast⟩ := hfollow
      cases hlast
      rw [← (follow_dot.mp hnext).2]
      rfl
  · exact ⟨directory, fun name => by rw [pathIn, if_neg hdot], hdescend⟩

theorem locate_pathIn (h : tree.locate directory = .ok location) (hname : IsSegment name) :
    tree.locate (pathIn directory name) = .ok target ↔ tree.follow location name = .ok target := by
  obtain ⟨base, hpath, hbase⟩ := exists_pathIn_eq h
  rw [hpath, locate_join hname, hbase]
  simp

/-! ### The way to a directory -/

/-- How the way goes on by a segment that leads somewhere. -/
def spellStep (directory : Path) (segment : String) : Option Path :=
  if segment = "" then if directory = ⟨"."⟩ then none else some (directory.join ⟨""⟩)
  else if isPattern segment && isHidden segment then none
  else some (pathIn directory segment)

/-- How the way to a directory is written, if all its segments lead somewhere. -/
def spell (directory : Path) : Option Path :=
  if directory.isAbsolute then directory.segments.tail.foldlM spellStep ⟨"/"⟩
  else directory.segments.foldlM spellStep ⟨"."⟩

theorem locate_spellStep {next : Path} (h : tree.locate directory = .ok location)
    (hname : IsSegment segment) (hfollow : tree.follow location segment = .ok target)
    (hstep : spellStep directory segment = some next) : tree.locate next = .ok target := by
  rw [spellStep, if_neg hname.nonempty, Option.ite_none_left_eq_some, Option.some.injEq] at hstep
  rw [← hstep.2, locate_pathIn h hname, hfollow]

theorem locate_spellStep_empty {next : Path} (h : tree.locate directory = .ok location)
    (hdirectory : tree.get? location = some .directory)
    (hstep : spellStep directory "" = some next) : tree.locate next = .ok location := by
  rw [spellStep, if_pos rfl, Option.ite_none_left_eq_some, Option.some.injEq] at hstep
  obtain ⟨htext, hdescend, -⟩ := locate_eq_ok_iff.mp h
  rw [← hstep.2, locate_eq_ok_iff, descend_join_empty]
  refine ⟨?_, hdescend, fun _ => hdirectory⟩
  rw [Path.join]
  split
  · next habsolute => simp [Path.isAbsolute, htext] at habsolute
  · split <;> simp [htext]

theorem advance_eq_spellStep (h : tree.locate directory = .ok location)
    (hname : IsSegment segment) (hfollow : tree.follow location segment = .ok target) :
    tree.advance directory segment = spellStep directory segment := by
  have hdirectory : tree.hasDirectory directory :=
    hasDirectory_iff.mpr ⟨location, h, get?_of_follow hfollow⟩
  rw [advance, spellStep, if_neg hname.nonempty]
  by_cases hpattern : isPattern segment
  · have hdot : segment ≠ "." := by
      rintro rfl
      exact absurd hpattern (by decide)
    have hup : segment ≠ ".." := by
      rintro rfl
      exact absurd hpattern (by decide)
    have hmem : segment ∈ tree.namesIn location :=
      mem_namesIn.mpr ((follow_eq_ok_iff hdot hup).mp hfollow).2.2.2
    have hvisible : (tree.visibleNames directory).contains segment = !isHidden segment := by
      rw [visibleNames, namesAt, h, List.contains_eq_mem]
      cases hhidden : isHidden segment <;> simp [hmem, hhidden]
    simp only [hpattern, if_true, hdirectory, hvisible, Bool.true_and]
    cases isHidden segment <;> simp
  · have hnext : tree.has (pathIn directory segment) ∨ segment = "." ∨ segment = ".." := by
      by_cases hdot : segment = "."
      · exact .inr (.inl hdot)
      by_cases hup : segment = ".."
      · exact .inr (.inr hup)
      obtain ⟨-, -, htarget, hsome⟩ := (follow_eq_ok_iff hdot hup).mp hfollow
      obtain ⟨entry, hentry⟩ := Option.isSome_iff_exists.mp hsome
      have hlocate := (locate_pathIn h hname).mpr hfollow
      exact .inl (has_iff.mpr ⟨entry, find_eq_ok_iff.mpr ⟨target, hlocate, htarget ▸ hentry⟩⟩)
    simp only [hpattern, Bool.false_eq_true, if_false, Bool.false_and, hdirectory, if_true]
    split
    · rfl
    · next hdots => rw [if_pos (hnext.resolve_right hdots)]

theorem advance_empty (h : tree.locate directory = .ok location)
    (hdirectory : tree.get? location = some .directory) :
    tree.advance directory "" = spellStep directory "" := by
  rw [advance, if_neg (by decide), if_neg (by decide), spellStep, if_pos rfl, pathIn]
  by_cases hdot : directory = ⟨"."⟩
  · have hempty : ¬ tree.has ⟨""⟩ := by
      intro hhas
      obtain ⟨_, hentry⟩ := has_iff.mp hhas
      obtain ⟨_, hlocate, -⟩ := find_eq_ok_iff.mp hentry
      exact (locate_eq_ok_iff.mp hlocate).1 rfl
    rw [if_pos hdot, if_pos hdot, if_neg hempty]
  · have hstep : spellStep directory "" = some (directory.join ⟨""⟩) := by
      rw [spellStep, if_pos rfl, if_neg hdot]
    have hhas : tree.has (directory.join ⟨""⟩) :=
      has_iff.mpr ⟨_, find_eq_ok_iff.mpr ⟨location, locate_spellStep_empty h hdirectory hstep,
        hdirectory⟩⟩
    rw [if_neg hdot, if_neg hdot, if_pos hhas]

theorem get?_of_foldlM_follow {names : List String}
    (h : names.foldlM tree.follow location = .ok target)
    (htarget : tree.get? target = some .directory) : tree.get? location = some .directory := by
  cases names with
  | nil =>
    cases h
    exact htarget
  | cons name names =>
    obtain ⟨next, hnext, -⟩ := foldlM_cons_eq_ok_iff.mp h
    exact get?_of_follow hnext

theorem foldlM_advance_eq {segments : List String} (h : tree.locate directory = .ok location)
    (hsegments : ∀ segment ∈ segments, segment ≠ "" → IsSegment segment)
    (hfollow : (segments.filter (· != "")).foldlM tree.follow location = .ok target)
    (htarget : tree.get? target = some .directory) :
    segments.foldlM tree.advance directory = segments.foldlM spellStep directory ∧
      ∀ reached, segments.foldlM spellStep directory = some reached →
        tree.locate reached = .ok target := by
  induction segments generalizing directory location with
  | nil =>
    cases hfollow
    refine ⟨rfl, fun reached hreached => ?_⟩
    cases hreached
    exact h
  | cons segment rest ih =>
    have hdirectory := get?_of_foldlM_follow hfollow htarget
    obtain ⟨hsegment, hrest⟩ := List.forall_mem_cons.mp hsegments
    rw [List.foldlM_cons, List.foldlM_cons]
    by_cases hempty : segment = ""
    · subst hempty
      rw [List.filter_cons_of_neg (by simp)] at hfollow
      rw [advance_empty h hdirectory]
      cases hstep : spellStep directory "" with
      | none => exact ⟨rfl, by simp⟩
      | some next => exact ih (locate_spellStep_empty h hdirectory hstep) hrest hfollow
    · rw [List.filter_cons_of_pos (by simpa using hempty), foldlM_cons_eq_ok_iff] at hfollow
      obtain ⟨middle, hmiddle, hfollow⟩ := hfollow
      rw [advance_eq_spellStep h (hsegment hempty) hmiddle]
      cases hstep : spellStep directory segment with
      | none => exact ⟨rfl, by simp⟩
      | some next => exact ih (locate_spellStep h (hsegment hempty) hmiddle hstep) hrest hfollow

/-- **The way to a directory is read off its path**, and leads there if there is one. -/
theorem reach_eq (h : tree.locate directory = .ok location)
    (hdirectory : tree.get? location = some .directory) :
    tree.reach directory = spell directory ∧
      ∀ reached, spell directory = some reached → tree.locate reached = .ok location := by
  obtain ⟨-, hdescend, -⟩ := locate_eq_ok_iff.mp h
  rw [descend] at hdescend
  split at hdescend
  · cases hdescend
  next hnul =>
  have hsegments : ∀ segment ∈ directory.segments, segment ≠ "" → IsSegment segment :=
    fun segment hmem => Path.isSegment_of_mem_segments (by simpa using hnul) hmem
  rw [reach, spell]
  by_cases habsolute : directory.isAbsolute
  · have hroot : tree.locate ⟨"/"⟩ = .ok [] :=
      locate_eq_ok_iff.mpr ⟨by decide, rfl, fun _ => rfl⟩
    obtain ⟨rest, htext⟩ : ∃ rest, directory.text.toList = '/' :: rest := by
      rw [Path.isAbsolute, beq_iff_eq] at habsolute
      exact List.head?_eq_some_iff.mp habsolute
    have hcut : directory.segments = "" :: directory.segments.tail := by
      rw [Path.segments, Text.fields, htext, List.splitOn_cons_eq_if_modifyHead]
      rfl
    have hnames : directory.names = directory.segments.tail.filter (· != "") := by
      rw [Path.names, hcut]
      rfl
    rw [hnames, start, if_pos habsolute] at hdescend
    rw [if_pos habsolute, if_pos habsolute]
    exact foldlM_advance_eq hroot
      (fun segment hmem => hsegments segment (List.mem_of_mem_tail hmem)) hdescend hdirectory
  · have hcurrent : tree.locate ⟨"."⟩ = .ok tree.current := by
      refine locate_eq_ok_iff.mpr ⟨by decide, ?_, fun hslash => absurd hslash (by decide)⟩
      show ["."].foldlM tree.follow tree.current = _
      exact foldlM_cons_eq_ok_iff.mpr
        ⟨tree.current, follow_dot.mpr ⟨tree.current_directory, rfl⟩, rfl⟩
    rw [start, if_neg habsolute] at hdescend
    rw [if_neg habsolute, if_neg habsolute]
    exact foldlM_advance_eq hcurrent hsegments hdescend hdirectory

/-! ### Definitions -/

def holdsFile (tree : FileTree) (location : Location) : Bool :=
  match tree.get? location with
  | some (.file _) => true
  | _ => false

theorem holdsFile_iff :
    tree.holdsFile location ↔ ∃ content, tree.get? location = some (.file content) := by
  rw [holdsFile]
  cases tree.get? location with
  | none => simp
  | some entry => cases entry <;> simp

/-- The names of the definitions in a directory. -/
def definitionNames (tree : FileTree) (location : Location) : List String :=
  (tree.namesIn location).filter fun name =>
    !isHidden name && tree.holdsFile (location ++ [name])

/-- The directory holds a file of the name, which does not start with a dot. -/
def IsDefinition (tree : FileTree) (location : Location) (name : String) (content : ByteArray) :
    Prop :=
  tree.get? (location ++ [name]) = some (.file content) ∧ isHidden name = false

theorem mem_definitionNames :
    name ∈ tree.definitionNames location ↔ ∃ content, tree.IsDefinition location name content := by
  rw [definitionNames, List.mem_filter, Bool.and_eq_true, holdsFile_iff, mem_namesIn]
  constructor
  · rintro ⟨-, hvisible, content, hcontent⟩
    exact ⟨content, hcontent, by simpa using hvisible⟩
  · rintro ⟨content, hcontent, hvisible⟩
    exact ⟨Option.isSome_of_eq_some hcontent, by simpa using hvisible, content, hcontent⟩

theorem hasFile_pathIn (h : tree.locate directory = .ok location)
    (hdirectory : tree.get? location = some .directory) (hname : isName name) :
    tree.hasFile (pathIn directory name) = tree.holdsFile (location ++ [name]) := by
  obtain ⟨hfileName, hsize⟩ := isName_iff.mp hname
  rw [Bool.eq_iff_iff, hasFile_iff, holdsFile_iff]
  simp only [locate_pathIn h hfileName.toIsSegment,
    follow_eq_ok_iff hfileName.dot hfileName.up]
  constructor
  · rintro ⟨_, content, ⟨-, -, rfl, -⟩, hcontent⟩
    exact ⟨content, hcontent⟩
  · rintro ⟨content, hcontent⟩
    exact ⟨_, content, ⟨hdirectory, hsize, rfl, by rw [hcontent]; rfl⟩, hcontent⟩

theorem definitionPaths_eq (h : tree.locate directory = .ok location)
    (hdirectory : tree.get? location = some .directory) :
    tree.definitionPaths directory = match spell directory with
      | none => []
      | some reached => (tree.definitionNames location).map fun name =>
          (name, pathIn reached name) := by
  obtain ⟨hreach, hlocate⟩ := reach_eq h hdirectory
  rw [definitionPaths, hreach]
  cases hspell : spell directory with
  | none => rfl
  | some reached =>
    have hreached := hlocate reached hspell
    simp only [visibleNames, namesAt, hreached]
    rw [List.filter_map, List.filter_filter, definitionNames]
    congr 1
    refine List.filter_congr fun name hname => ?_
    rw [Function.comp_apply, Bool.and_comm]
    exact congrArg (!isHidden name && ·)
      (hasFile_pathIn hreached hdirectory (isName_of_mem_namesIn hname))

theorem locate_definition {reached : Path} (hreached : tree.locate reached = .ok location)
    (hdirectory : tree.get? location = some .directory)
    (hname : name ∈ tree.definitionNames location) :
    tree.locate (pathIn reached name) = .ok (location ++ [name]) := by
  obtain ⟨hmem, -⟩ := List.mem_filter.mp hname
  obtain ⟨hfileName, hsize⟩ := isName_iff.mp (isName_of_mem_namesIn hmem)
  rw [locate_pathIn hreached hfileName.toIsSegment, follow_eq_ok_iff hfileName.dot hfileName.up]
  exact ⟨hdirectory, hsize, rfl, mem_namesIn.mp hmem⟩

theorem readText_of_isDefinition {path : Path} {content : ByteArray}
    (hpath : tree.locate path = .ok (location ++ [name]))
    (h : tree.IsDefinition location name content) :
    tree.readText path = match String.fromUTF8? content with
      | some text => .ok text
      | none => .error .notText := by
  have hfind := find_eq_ok_iff.mpr ⟨_, hpath, h.1⟩
  cases hdecoded : String.fromUTF8? content <;> simp only [readText, hfind, ok_bind, hdecoded]

/-! ### What a scan depends on -/

section
variable {other : FileTree} (hsame : ∀ name content,
  tree.IsDefinition location name content ↔ other.IsDefinition location name content)
include hsame

theorem definitionNames_congr : tree.definitionNames location = other.definitionNames location := by
  refine filter_namesIn_eq fun name => ?_
  have hmem : name ∈ tree.definitionNames location ↔ name ∈ other.definitionNames location := by
    rw [mem_definitionNames, mem_definitionNames]
    exact exists_congr (hsame name)
  rwa [definitionNames, definitionNames, List.mem_filter, List.mem_filter] at hmem

/-- **A scan depends on the definitions in the directory**, and on nothing else in the tree. -/
theorem scan_congr (h : tree.locate directory = .ok location)
    (hdirectory : tree.get? location = some .directory)
    (hother : other.locate directory = .ok location)
    (hotherDirectory : other.get? location = some .directory) :
    tree.scan directory = other.scan directory := by
  have hhas := hasDirectory_iff.mpr ⟨location, h, hdirectory⟩
  have hhas' := hasDirectory_iff.mpr ⟨location, hother, hotherDirectory⟩
  have hnames := definitionNames_congr hsame
  rw [scan, scan, hhas, hhas', definitionPaths_eq h hdirectory,
    definitionPaths_eq hother hotherDirectory, ← hnames]
  cases hspell : spell directory with
  | none => rfl
  | some reached =>
    have hreached := (reach_eq h hdirectory).2 reached hspell
    have hreached' := (reach_eq hother hotherDirectory).2 reached hspell
    simp only [Bool.not_true, Bool.false_eq_true, if_false]
    congr 1
    refine mapM_congr fun file hfile => ?_
    obtain ⟨name, hname, rfl⟩ := List.mem_map.mp hfile
    obtain ⟨content, hcontent⟩ := mem_definitionNames.mp hname
    have hpath := locate_definition hreached hdirectory hname
    have hpath' := locate_definition hreached' hotherDirectory (hnames ▸ hname)
    simp only [readText_of_isDefinition hpath hcontent,
      readText_of_isDefinition hpath' ((hsame name content).mp hcontent)]

end

theorem scanAny_eq_of_grows (h : Grows written before after)
    (hlocate : before.locate directory = .ok location)
    (hdirectory : before.get? location = some .directory)
    (hkept : ∀ name, ¬ written (location ++ [name])) :
    after.scanAny directory = before.scanAny directory := by
  have hsame (name : String) (content : ByteArray) :
      after.IsDefinition location name content ↔ before.IsDefinition location name content :=
    and_congr_left' ((h.change _).file_iff (hkept name) content)
  rw [scanAny, scanAny, scan_congr hsame (h.locate hlocate)
    ((h.change location).directory hdirectory) hlocate hdirectory]

theorem scanAny_of_namesIn_nil (hlocate : tree.locate directory = .ok location)
    (hdirectory : tree.get? location = some .directory) (hnames : tree.namesIn location = []) :
    tree.scanAny directory = .ok [] := by
  have hhas := hasDirectory_iff.mpr ⟨location, hlocate, hdirectory⟩
  have hpaths : tree.definitionPaths directory = [] := by
    rw [definitionPaths_eq hlocate hdirectory, definitionNames, hnames]
    cases spell directory <;> rfl
  rw [scanAny, scan, hhas, hpaths]
  rfl

theorem scanAny_of_namesIn_singleton {reached : Path} {content : ByteArray} {text : String}
    (hlocate : tree.locate directory = .ok location)
    (hdirectory : tree.get? location = some .directory) (hnames : tree.namesIn location = [name])
    (hspell : spell directory = some reached) (hfile : tree.IsDefinition location name content)
    (htext : String.fromUTF8? content = some text) :
    tree.scanAny directory = .ok [⟨name, pathIn reached name, text⟩] := by
  have hhas := hasDirectory_iff.mpr ⟨location, hlocate, hdirectory⟩
  have hname : name ∈ tree.definitionNames location := mem_definitionNames.mpr ⟨content, hfile⟩
  have hdefinitions : tree.definitionNames location = [name] := by
    rw [definitionNames, hnames] at hname ⊢
    exact List.filter_cons_of_pos (List.mem_filter.mp hname).2
  have hpaths : tree.definitionPaths directory = [(name, pathIn reached name)] := by
    rw [definitionPaths_eq hlocate hdirectory, hspell, hdefinitions]
    rfl
  have hreached := (reach_eq hlocate hdirectory).2 reached hspell
  have hread : tree.readText (pathIn reached name) = .ok text := by
    rw [readText_of_isDefinition (locate_definition hreached hdirectory hname) hfile, htext]
  rw [scanAny, scan, hhas, hpaths]
  simp [hread, pure, Except.pure, bind, Except.bind]

/-! ### What was scanned -/

theorem isName_of_scan {files : List DefinitionFile} (h : tree.scan directory = .ok files) :
    ∀ file ∈ files, isName file.name := by
  rw [scan] at h
  split at h
  · cases h
  · rw [bind_eq_ok_iff] at h
    obtain ⟨found, hfound, h⟩ := h
    split at h
    · cases h
    · cases h
      intro file hfile
      obtain ⟨⟨name, path⟩, hlisted, hread⟩ := exists_of_mapM hfound file hfile
      have hname : file.name = name := by
        simp only at hread
        cases htext : tree.readText path with
        | error => simp [htext] at hread
        | ok content =>
          rw [htext] at hread
          cases hread
          rfl
      rw [definitionPaths] at hlisted
      split at hlisted
      · cases hlisted
      · obtain ⟨listed, hvisible, heq⟩ := List.mem_map.mp (List.mem_filter.mp hlisted).1
        cases heq
        rw [visibleNames, namesAt] at hvisible
        have hmem := (List.mem_filter.mp hvisible).1
        split at hmem
        · exact hname ▸ isName_of_mem_namesIn hmem
        · cases hmem

theorem scan_of_missing (h : tree.hasDirectory directory = false) :
    tree.scan directory = .error (.directoryNotFound directory) := by
  rw [scan, h]
  rfl

theorem of_scanAny_eq_ok {files : List DefinitionFile} (h : tree.scanAny directory = .ok files) :
    tree.hasDirectory directory ∧ ∀ file ∈ files, isName file.name := by
  rw [scanAny] at h
  cases hdirectory : tree.hasDirectory directory with
  | false =>
    rw [scan_of_missing hdirectory] at h
    cases h
  | true =>
    refine ⟨rfl, ?_⟩
    split at h
    · cases h
      simp
    · exact isName_of_scan h

end FileTree

end EntityCodegen
