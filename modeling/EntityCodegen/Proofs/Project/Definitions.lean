import EntityCodegen.Proofs.Project.Destinations
import EntityCodegen.Proofs.Schema.Refusal

/-!
# What scanning finds

`scan_definitions`: a scan gives the definitions that stand in the directory, and nothing else in
the tree matters to it. It fails where the directory is not there or holds no definitions, and over
the least definition that is no text.

The directory is walked by a pattern (`walk`). Where the walk comes by all names that do not start
with a dot (`Walks`), the files that it comes by are the definitions in the directory, in the order
of their names (`exists_definitionPaths`). They are read one after the other, so the first that
cannot be read is the least (`mapM_readDefinition_eq_error`), and otherwise each is read as its text
(`mapM_readDefinition_eq_ok`).

However the walk went, no name is found twice (`pairwise_lt_of_scan`). A fault in one file is never
about the names of two, so no run is refused for a repeated name (`not_repeatsName_of_build`).
-/

namespace EntityCodegen

namespace FileTree

variable {tree : FileTree} {directory path : Path} {location : Location} {name : String}
  {content : ByteArray} {files : List DefinitionFile}

/-! ### Walking over a directory -/

/-- What the walk over the entries of a directory comes by: names with their paths. -/
def walk (tree : FileTree) (directory : Path) : List (String × Path) :=
  match tree.reach directory with
  | none => []
  | some reached => (tree.visibleNames reached).map fun name => (name, pathIn reached name)

/-- The walk comes by the names that do not start with a dot, in order. -/
def Walks (tree : FileTree) (directory : Path) : Prop :=
  (tree.walk directory).map Prod.fst = tree.visibleNames directory

theorem walks_of_spell {reached : Path} (h : tree.locate directory = .ok location)
    (hdirectory : tree.get? location = some .directory) (hspell : spell directory = some reached) :
    tree.Walks directory := by
  obtain ⟨hreach, hlocate⟩ := reach_eq h hdirectory
  rw [Walks, walk, hreach, hspell, List.map_map]
  simp only [visibleNames, namesAt, h, hlocate reached hspell]
  exact List.map_id _

/-! ### Definitions -/

theorem pairwise_lt_definitionNames (tree : FileTree) (location : Location) :
    (tree.definitionNames location).Pairwise (· < ·) := by
  have hle := (pairwise_namesIn tree location).and (nodup_namesIn tree location)
  refine (hle.filter _).imp ?_
  rintro a b ⟨hle, hne⟩
  exact String.not_le.mp fun hge => hne (String.le_antisymm hle hge)

theorem exists_definitionPaths (h : tree.locate directory = .ok location)
    (hdirectory : tree.get? location = some .directory) (hwalks : tree.Walks directory) :
    ∃ place : String → Path,
      tree.definitionPaths directory =
        (tree.definitionNames location).map (fun name => (name, place name)) ∧
      ∀ name ∈ tree.definitionNames location,
        tree.locate (place name) = .ok (location ++ [name]) := by
  obtain ⟨hreach, hlocate⟩ := reach_eq h hdirectory
  rw [definitionPaths_eq h hdirectory]
  cases hspell : spell directory with
  | some reached =>
    refine ⟨pathIn reached, rfl, fun name hname => ?_⟩
    exact locate_definition (hlocate reached hspell) hdirectory hname
  | none =>
    -- nothing was walked over, so there is nothing visible
    rw [Walks, walk, hreach, hspell, visibleNames, namesAt, h] at hwalks
    have hnone : tree.definitionNames location = [] := by
      rw [definitionNames, List.filter_eq_nil_iff]
      intro name hname hlisted
      rw [Bool.and_eq_true] at hlisted
      have hvisible : name ∈ (tree.namesIn location).filter fun name => !isHidden name :=
        List.mem_filter.mpr ⟨hname, hlisted.1⟩
      rw [← hwalks] at hvisible
      cases hvisible
    rw [hnone]
    exact ⟨pathIn directory, rfl, by simp⟩

/-! ### Reading the definitions -/

/-- Reads the definition of the name at its path. -/
def readDefinition (tree : FileTree) (place : String → Path) (name : String) :
    Except ScanError DefinitionFile :=
  match tree.readText (place name) with
  | .ok content => .ok ⟨name, place name, content⟩
  | .error fault => .error (.unreadable (place name) fault)

section
variable {place : String → Path}

theorem name_of_readDefinition {file : DefinitionFile}
    (h : tree.readDefinition place name = .ok file) : file.name = name := by
  rw [readDefinition] at h
  split at h
  · cases h
    rfl
  · cases h

theorem scan_eq_of_definitionPaths (hhas : tree.hasDirectory directory)
    (hpaths : tree.definitionPaths directory =
      (tree.definitionNames location).map fun name => (name, place name)) :
    tree.scan directory = (do
      let files ← (tree.definitionNames location).mapM (tree.readDefinition place)
      if files.isEmpty then .error (.noFiles directory) else .ok files) := by
  rw [scan, hhas, hpaths, List.mapM_map]
  rfl

theorem readDefinition_eq_ok_iff (hplace : tree.locate (place name) = .ok (location ++ [name]))
    (h : tree.IsDefinition location name content) {file : DefinitionFile} :
    tree.readDefinition place name = .ok file ↔
      ∃ text, String.fromUTF8? content = some text ∧ file = ⟨name, place name, text⟩ := by
  rw [readDefinition, readText_of_isDefinition hplace h]
  cases String.fromUTF8? content <;> simp [eq_comm]

theorem readDefinition_eq_error_iff (hplace : tree.locate (place name) = .ok (location ++ [name]))
    (h : tree.IsDefinition location name content) {error : ScanError} :
    tree.readDefinition place name = .error error ↔
      String.fromUTF8? content = none ∧ error = .unreadable (place name) .notText := by
  rw [readDefinition, readText_of_isDefinition hplace h]
  cases String.fromUTF8? content <;> simp [eq_comm]

end

/-- What a scan of the directory at the location gives. -/
structure Scanned (tree : FileTree) (directory : Path) (location : Location)
    (result : Except ScanError (List DefinitionFile)) : Prop where
  /-- There is nothing to find. -/
  noFiles : result = .error (.noFiles directory) ↔
    ∀ name content, ¬ tree.IsDefinition location name content
  /-- Some definition is no text. -/
  unreadable : (∃ path fault, result = .error (.unreadable path fault)) ↔
    ∃ name content, tree.IsDefinition location name content ∧ String.fromUTF8? content = none
  /-- The one that is reported has the least name. -/
  least : ∀ path fault, result = .error (.unreadable path fault) → fault = .notText ∧
    ∃ name content, tree.IsDefinition location name content ∧
      String.fromUTF8? content = none ∧ tree.locate path = .ok (location ++ [name]) ∧
      ∀ other content', tree.IsDefinition location other content' →
        String.fromUTF8? content' = none → name ≤ other
  /-- In all other cases the scan succeeds. -/
  success : (∃ files, result = .ok files) ↔
    (∃ name content, tree.IsDefinition location name content) ∧
      ∀ name content, tree.IsDefinition location name content →
        ∃ text, String.fromUTF8? content = some text
  /-- The files are the definitions, each once with its text, in the order of their names. -/
  files : ∀ files, result = .ok files → files.Pairwise (fun file other => file.name < other.name) ∧
    ∀ name text, (∃ file ∈ files, file.name = name ∧ file.content = text) ↔
      ∃ content, tree.IsDefinition location name content ∧ String.fromUTF8? content = some text

section
variable {place : String → Path}

theorem mapM_readDefinition_eq_ok
    (hplace : ∀ name ∈ tree.definitionNames location,
      tree.locate (place name) = .ok (location ++ [name]))
    (h : (tree.definitionNames location).mapM (tree.readDefinition place) = .ok files) :
    files.map DefinitionFile.name = tree.definitionNames location ∧
    (∀ name content, tree.IsDefinition location name content →
      ∃ text, String.fromUTF8? content = some text) ∧
    ∀ name text, (∃ file ∈ files, file.name = name ∧ file.content = text) ↔
      ∃ content, tree.IsDefinition location name content ∧
        String.fromUTF8? content = some text := by
  have hread (name content) (hcontent : tree.IsDefinition location name content) :
      ∃ text, String.fromUTF8? content = some text ∧ ⟨name, place name, text⟩ ∈ files := by
    have hname := mem_definitionNames.mpr ⟨content, hcontent⟩
    obtain ⟨file, hfile, hread⟩ := exists_of_forall₂ (mapM_eq_ok_iff.mp h) hname
    obtain ⟨text, hdecoded, rfl⟩ :=
      (readDefinition_eq_ok_iff (hplace name hname) hcontent).mp hread
    exact ⟨text, hdecoded, hfile⟩
  refine ⟨?_, fun name content hcontent => ?_, fun name text => ⟨?_, ?_⟩⟩
  · have hnames := map_eq_of_mapM (g := id) h fun _ _ hfile => name_of_readDefinition hfile
    rwa [List.map_id] at hnames
  · obtain ⟨text, hdecoded, -⟩ := hread name content hcontent
    exact ⟨text, hdecoded⟩
  · rintro ⟨file, hfile, rfl, rfl⟩
    obtain ⟨name, hname, hfile⟩ := exists_of_mapM h file hfile
    obtain ⟨content, hcontent⟩ := mem_definitionNames.mp hname
    obtain ⟨text, hdecoded, rfl⟩ :=
      (readDefinition_eq_ok_iff (hplace name hname) hcontent).mp hfile
    exact ⟨content, hcontent, hdecoded⟩
  · rintro ⟨content, hcontent, hdecoded⟩
    obtain ⟨text', hdecoded', hmem⟩ := hread name content hcontent
    rw [hdecoded, Option.some.injEq] at hdecoded'
    exact ⟨_, hmem, rfl, hdecoded'.symm⟩

theorem mapM_readDefinition_eq_error
    (hplace : ∀ name ∈ tree.definitionNames location,
      tree.locate (place name) = .ok (location ++ [name])) {error : ScanError}
    (h : (tree.definitionNames location).mapM (tree.readDefinition place) = .error error) :
    ∃ name content, error = .unreadable (place name) .notText ∧
      tree.IsDefinition location name content ∧ String.fromUTF8? content = none ∧
      tree.locate (place name) = .ok (location ++ [name]) ∧
      ∀ other content', tree.IsDefinition location other content' →
        String.fromUTF8? content' = none → name ≤ other := by
  obtain ⟨before, name, after, hsplit, hbefore, hfail⟩ := mapM_eq_error_iff.mp h
  have hsorted := pairwise_lt_definitionNames tree location
  rw [hsplit] at hsorted hplace
  have hname : name ∈ tree.definitionNames location := by simp [hsplit]
  have hleads := hplace name (by simp)
  obtain ⟨content, hcontent⟩ := mem_definitionNames.mp hname
  obtain ⟨hdecoded, rfl⟩ := (readDefinition_eq_error_iff hleads hcontent).mp hfail
  refine ⟨name, content, rfl, hcontent, hdecoded, hleads, ?_⟩
  intro other content' hother hdecoded'
  have hmem := mem_definitionNames.mpr ⟨content', hother⟩
  rw [hsplit] at hmem
  rcases List.mem_append.mp hmem with hmem | hmem
  · -- one before it would have failed first
    obtain ⟨file, hfile⟩ := hbefore other hmem
    have hfail' := (readDefinition_eq_error_iff (hplace other (by simp [hmem])) hother).mpr
      ⟨hdecoded', rfl⟩
    rw [hfile] at hfail'
    cases hfail'
  · rcases List.mem_cons.mp hmem with rfl | hmem
    · exact String.le_refl _
    · have hlt := List.rel_of_pairwise_cons (List.pairwise_append.mp hsorted).2.1 hmem
      exact String.not_lt.mp fun hgt => String.lt_irrefl _ (String.lt_trans hlt hgt)

end

theorem scanned_noFiles (directory : Path)
    (hnone : ∀ name content, ¬ tree.IsDefinition location name content) :
    Scanned tree directory location (.error (.noFiles directory)) where
  noFiles := iff_of_true rfl hnone
  unreadable := iff_of_false (fun ⟨_, _, hresult⟩ => by cases hresult)
    fun ⟨name, content, hdefinition, _⟩ => hnone name content hdefinition
  least path fault hresult := by cases hresult
  success := iff_of_false (fun ⟨_, hresult⟩ => by cases hresult)
    fun ⟨⟨name, content, hdefinition⟩, _⟩ => hnone name content hdefinition
  files files hresult := by cases hresult

theorem scanned_unreadable (directory : Path) (hcontent : tree.IsDefinition location name content)
    (hdecoded : String.fromUTF8? content = none)
    (hpath : tree.locate path = .ok (location ++ [name]))
    (hleast : ∀ other content', tree.IsDefinition location other content' →
      String.fromUTF8? content' = none → name ≤ other) :
    Scanned tree directory location (.error (.unreadable path .notText)) where
  noFiles := iff_of_false (fun hresult => by cases hresult) fun hnone => hnone _ _ hcontent
  unreadable := iff_of_true ⟨_, _, rfl⟩ ⟨name, content, hcontent, hdecoded⟩
  least path fault hresult := by
    cases hresult
    exact ⟨rfl, name, content, hcontent, hdecoded, hpath, hleast⟩
  success := by
    refine iff_of_false (fun ⟨_, hresult⟩ => by cases hresult) fun ⟨_, hall⟩ => ?_
    obtain ⟨text, htext⟩ := hall name content hcontent
    rw [hdecoded] at htext
    cases htext
  files files hresult := by cases hresult

theorem scanned_files (directory : Path)
    (hsome : ∃ name content, tree.IsDefinition location name content)
    (htext : ∀ name content, tree.IsDefinition location name content →
      ∃ text, String.fromUTF8? content = some text)
    (hsorted : files.Pairwise fun file other => file.name < other.name)
    (hfiles : ∀ name text, (∃ file ∈ files, file.name = name ∧ file.content = text) ↔
      ∃ content, tree.IsDefinition location name content ∧
        String.fromUTF8? content = some text) :
    Scanned tree directory location (.ok files) where
  noFiles := iff_of_false (fun hresult => by cases hresult)
    fun hnone => hsome.elim fun name ⟨content, hdefinition⟩ => hnone name content hdefinition
  unreadable := by
    refine iff_of_false (fun ⟨_, _, hresult⟩ => by cases hresult) ?_
    rintro ⟨name, content, hdefinition, hdecoded⟩
    obtain ⟨text, htext⟩ := htext name content hdefinition
    rw [hdecoded] at htext
    cases htext
  least path fault hresult := by cases hresult
  success := iff_of_true ⟨_, rfl⟩ ⟨hsome, htext⟩
  files files hresult := by
    cases hresult
    exact ⟨hsorted, hfiles⟩

theorem scanned_of_walks (h : tree.locate directory = .ok location)
    (hdirectory : tree.get? location = some .directory) (hwalks : tree.Walks directory) :
    Scanned tree directory location (tree.scan directory) := by
  obtain ⟨place, hpaths, hplace⟩ := exists_definitionPaths h hdirectory hwalks
  have hhas := hasDirectory_iff.mpr ⟨location, h, hdirectory⟩
  rw [scan_eq_of_definitionPaths hhas hpaths]
  cases hread : (tree.definitionNames location).mapM (tree.readDefinition place) with
  | error error =>
    obtain ⟨name, content, rfl, hcontent, hdecoded, hpath, hleast⟩ :=
      mapM_readDefinition_eq_error hplace hread
    exact scanned_unreadable directory hcontent hdecoded hpath hleast
  | ok files =>
    obtain ⟨hnames, htext, hfiles⟩ := mapM_readDefinition_eq_ok hplace hread
    have hsorted := pairwise_lt_definitionNames tree location
    rw [← hnames, List.pairwise_map] at hsorted
    cases files with
    | nil =>
      refine scanned_noFiles directory fun name content hdefinition => ?_
      have hname := mem_definitionNames.mpr ⟨content, hdefinition⟩
      rw [← hnames] at hname
      cases hname
    | cons first rest =>
      obtain ⟨content, hdefinition, -⟩ :=
        (hfiles first.name first.content).mp ⟨first, List.mem_cons_self, rfl, rfl⟩
      exact scanned_files directory ⟨_, content, hdefinition⟩ htext hsorted hfiles

theorem scan_eq_error {error : ScanError} (h : tree.scan directory = .error error) :
    (error = .directoryNotFound directory ∧ ¬ tree.hasDirectory directory) ∨
      error = .noFiles directory ∨ ∃ path fault, error = .unreadable path fault := by
  rw [scan] at h
  split at h
  · next hmissing =>
    cases h
    exact .inl ⟨rfl, by simpa using hmissing⟩
  · rcases bind_eq_error_iff.mp h with hread | ⟨files, -, hfiles⟩
    · obtain ⟨_, ⟨name, path⟩, _, -, -, hfail⟩ := mapM_eq_error_iff.mp hread
      simp only at hfail
      split at hfail
      · cases hfail
      · cases hfail
        exact .inr (.inr ⟨_, _, rfl⟩)
    · split at hfiles
      · cases hfiles
        exact .inr (.inl rfl)
      · cases hfiles

/-! ### No name twice -/

theorem pairwise_lt_of_scan (h : tree.scan directory = .ok files) :
    files.Pairwise fun file other => file.name < other.name := by
  have hhas : tree.hasDirectory directory := by
    cases hmissing : tree.hasDirectory directory with
    | true => rfl
    | false =>
      rw [scan_of_missing hmissing] at h
      cases h
  obtain ⟨location, hlocate, hdirectory⟩ := hasDirectory_iff.mp hhas
  have hpaths := definitionPaths_eq hlocate hdirectory
  cases hspell : spell directory with
  | none =>
    rw [hspell] at hpaths
    rw [scan, hhas, hpaths] at h
    cases h
  | some reached =>
    rw [hspell] at hpaths
    rw [scan_eq_of_definitionPaths hhas hpaths, bind_eq_ok_iff] at h
    obtain ⟨found, hread, hfound⟩ := h
    have hsorted := pairwise_lt_definitionNames tree location
    have hnames := map_eq_of_mapM (g := id) hread fun _ _ hfile => name_of_readDefinition hfile
    rw [List.map_id] at hnames
    rw [← hnames, List.pairwise_map] at hsorted
    split at hfound
    · cases hfound
    · cases hfound
      exact hsorted

theorem pairwise_lt_of_scanAny (h : tree.scanAny directory = .ok files) :
    files.Pairwise fun file other => file.name < other.name := by
  rw [scanAny] at h
  split at h
  · cases h
    exact List.Pairwise.nil
  · exact pairwise_lt_of_scan h

end FileTree

/-! ### Runs on a project -/

/-- Two files of one kind have one name. -/
def DefinitionError.RepeatsName (error : DefinitionError) : Prop :=
  ∃ name, error = .duplicateComponent name ∨ error = .duplicateEnum name

theorem not_repeatsName_of_component {options : ReadOptions} {source : Source}
    {error : DefinitionError} (h : source.component options = .error error) :
    ¬ error.RepeatsName := by
  rw [Source.component, Component.result_read, Component.readLines_eq_error_iff] at h
  obtain ⟨before, raw, after, -, -, -, hoffends⟩ := h
  rintro ⟨name, rfl | rfl⟩ <;> cases hoffends

theorem not_repeatsName_of_enumeration {source : Source} {error : DefinitionError}
    (h : source.enumeration = .error error) : ¬ error.RepeatsName := by
  rw [Source.enumeration, Enumeration.result_read, bind_eq_error_iff,
    Enumeration.readLines_eq_error_iff] at h
  rcases h with ⟨before, raw, after, -, -, declarations, -, -, hfault⟩ | ⟨state, -, hbuilt⟩
  · rintro ⟨name, rfl | rfl⟩ <;> cases hfault
  · cases hbuilt

theorem Source.Refused.not_repeatsName {α : Type} {duplicate : String → DefinitionError}
    {read : Source → Except DefinitionError α} {sources : List Source} {error : DefinitionError}
    (h : Refused duplicate read sources error) (hdistinct : ∀ name, ¬ Repeated sources name)
    (hread : ∀ source error, read source = .error error → ¬ error.RepeatsName) :
    ¬ error.RepeatsName := by
  cases h with
  | repeated name hrepeated => exact absurd hrepeated (hdistinct name)
  | faulty source _ _ _ hfail => exact hread source error hfail

theorem Schema.not_repeatsName_of_read {options : BuildOptions} {components enums : List Source}
    {error : DefinitionError} (hcomponents : ∀ name, ¬ Source.Repeated components name)
    (henums : ∀ name, ¬ Source.Repeated enums name)
    (h : (read options components enums).result = .error error) : ¬ error.RepeatsName := by
  rw [result_read, bind_eq_error_iff, readUnlinked, Source.readEach_eq_error_iff] at h
  rcases h with hrefused | ⟨_, -, h⟩
  · exact hrefused.not_repeatsName hcomponents fun _ _ => not_repeatsName_of_component
  · rw [bind_eq_error_iff, Source.readEach_eq_error_iff] at h
    rcases h with hrefused | ⟨_, -, hassembled⟩
    · exact hrefused.not_repeatsName henums fun _ _ => not_repeatsName_of_enumeration
    · cases hassembled

namespace Project

variable {project : Project} {tree : FileTree} {selection : Selection}

theorem not_repeated_of_sourcesIn {directory : Path} {wanted : Bool} {sources : List Source}
    (h : project.sourcesIn tree directory wanted = .ok sources) (name : String) :
    ¬ Source.Repeated sources name := by
  apply Source.not_repeated_of_pairwise_lt
  rw [sourcesIn] at h
  split at h
  · obtain ⟨files, hfiles, rfl⟩ := result_readDirectory_eq_ok_iff.mp h
    exact List.pairwise_map.mpr (FileTree.pairwise_lt_of_scanAny hfiles)
  · cases h
    exact List.Pairwise.nil

theorem exists_scanError_of_sourcesIn {directory : Path} {wanted : Bool} {error : ProjectError}
    (h : project.sourcesIn tree directory wanted = .error error) :
    ∃ cause, error = .scan cause := by
  rw [sourcesIn] at h
  split at h
  · rw [readDirectory, Traced.result_bind, bind_eq_error_iff] at h
    rcases h with hscan | ⟨_, -, hreported⟩
    · obtain ⟨cause, -, rfl⟩ := mapError_eq_error_iff.mp hscan
      exact ⟨cause, rfl⟩
    · cases hreported
  · cases h

/-- **No run is refused for a repeated name**, since a directory holds no name twice. -/
theorem not_repeatsName_of_build {error : DefinitionError}
    (h : (project.build tree selection).result = .error (.definition error)) :
    ¬ error.RepeatsName := by
  rw [result_build, bind_eq_error_iff] at h
  simp only [bind_eq_error_iff] at h
  rcases h with hsettings | ⟨options, -, hscan | ⟨components, hcomponents,
    hscan | ⟨enums, henums, hread⟩⟩⟩
  · obtain ⟨_, -, hcause⟩ := mapError_eq_error_iff.mp hsettings
    cases hcause
  · obtain ⟨_, hcause⟩ := exists_scanError_of_sourcesIn hscan
    cases hcause
  · obtain ⟨_, hcause⟩ := exists_scanError_of_sourcesIn hscan
    cases hcause
  · obtain ⟨_, hread, hcause⟩ := mapError_eq_error_iff.mp hread
    cases hcause
    exact Schema.not_repeatsName_of_read (not_repeated_of_sourcesIn hcomponents)
      (not_repeated_of_sourcesIn henums) hread

end Project

namespace FileTree

variable {tree : FileTree} {directory : Path}

/-- **What scanning finds.** A scan of what is no directory fails. In a directory that is walked
over as its pattern says, a scan gives the definitions; a scan that allows for none differs where
there are none. Trees with the same definitions there give the same scan. And no run on any project
is refused for a repeated name. -/
theorem scan_definitions (hwalks : tree.hasDirectory directory → tree.Walks directory) :
    (tree.scan directory = .error (.directoryNotFound directory) ↔
      ¬ tree.hasDirectory directory) ∧
    (∀ location, tree.locate directory = .ok location → tree.get? location = some .directory →
      Scanned tree directory location (tree.scan directory) ∧
      ((∀ name content, ¬ tree.IsDefinition location name content) →
        tree.scanAny directory = .ok []) ∧
      ((∃ name content, tree.IsDefinition location name content) →
        tree.scanAny directory = tree.scan directory) ∧
      ∀ other : FileTree, other.locate directory = .ok location →
        other.get? location = some .directory →
        (∀ name content,
          tree.IsDefinition location name content ↔ other.IsDefinition location name content) →
        other.scan directory = tree.scan directory) ∧
    ∀ (project : Project) (selection : Selection) (name : String),
      (project.build tree selection).result ≠ .error (.definition (.duplicateComponent name)) ∧
      (project.build tree selection).result ≠ .error (.definition (.duplicateEnum name)) := by
  refine ⟨⟨fun hscan hhas => ?_, fun hmissing => ?_⟩, fun location hlocate hdirectory => ?_,
    fun project selection name => ⟨fun hbuild => ?_, fun hbuild => ?_⟩⟩
  · rcases scan_eq_error hscan with ⟨-, hmissing⟩ | hnone | ⟨_, _, hunreadable⟩
    · exact hmissing hhas
    · cases hnone
    · cases hunreadable
  · exact scan_of_missing (by simpa using hmissing)
  · have hhas := hasDirectory_iff.mpr ⟨location, hlocate, hdirectory⟩
    have hscanned := scanned_of_walks hlocate hdirectory (hwalks hhas)
    refine ⟨hscanned, fun hnone => ?_, fun ⟨name, content, hdefinition⟩ => ?_,
      fun other hother hotherDirectory hsame => ?_⟩
    · rw [scanAny, hscanned.noFiles.mpr hnone]
    · rw [scanAny]
      split
      · next hscan =>
        -- it fails over a directory without definitions only where this is one
        have hnone : tree.scan directory = .error (.noFiles directory) := by
          rcases scan_eq_error hscan with ⟨hcause, -⟩ | hcause | ⟨_, _, hcause⟩
          · cases hcause
          · rw [hscan, hcause]
          · cases hcause
        exact absurd hdefinition (hscanned.noFiles.mp hnone name content)
      · rfl
    · exact (scan_congr hsame hlocate hdirectory hother hotherDirectory).symm
  · exact Project.not_repeatsName_of_build hbuild ⟨name, .inl rfl⟩
  · exact Project.not_repeatsName_of_build hbuild ⟨name, .inr rfl⟩

/-- A directory with a definition, a hidden file, and a file further down. Its name has characters
of file patterns. -/
def lampTree : FileTree :=
  ((((FileTree.empty.put [] "defs[1]" .directory).put ["defs[1]"] "lamp"
    (.file "ui_name,Lamp".toUTF8)).put ["defs[1]"] ".draft" (.file "".toUTF8)).put ["defs[1]"] "old"
    .directory).put ["defs[1]", "old"] "door" (.file "".toUTF8)

theorem isDefinition_lampTree {name : String} {content : ByteArray} :
    lampTree.IsDefinition ["defs[1]"] name content ↔
      name = "lamp" ∧ content = "ui_name,Lamp".toUTF8 := by
  have hlamp : lampTree.get? ["defs[1]", "lamp"] = some (.file "ui_name,Lamp".toUTF8) := by
    decide +kernel
  have hold : lampTree.get? ["defs[1]", "old"] = some .directory := by decide +kernel
  have hnames : lampTree.namesIn ["defs[1]"] = ["old", ".draft", "lamp"].mergeSort := rfl
  constructor
  · rintro ⟨hfile, hvisible⟩
    have hname := mem_namesIn.mpr (Option.isSome_of_eq_some hfile)
    simp only [hnames, List.mem_mergeSort, List.mem_cons, List.not_mem_nil, or_false] at hname
    rcases hname with rfl | rfl | rfl
    · cases hold.symm.trans hfile
    · exact absurd hvisible (by decide)
    · cases hlamp.symm.trans hfile
      exact ⟨rfl, rfl⟩
  · rintro ⟨rfl, rfl⟩
    exact ⟨hlamp, by decide⟩

/-- The scan finds the definition alone, and takes the directory's name as it stands. -/
theorem scan_definitions_lamp :
    (lampTree.hasDirectory ⟨"/defs[1]"⟩ → lampTree.Walks ⟨"/defs[1]"⟩) ∧
    ∃ files, lampTree.scan ⟨"/defs[1]"⟩ = .ok files ∧
      ∀ name text, (∃ file ∈ files, file.name = name ∧ file.content = text) ↔
        name = "lamp" ∧ text = "ui_name,Lamp" := by
  have hlocate : lampTree.locate ⟨"/defs[1]"⟩ = .ok ["defs[1]"] := by decide +kernel
  have hdirectory : lampTree.get? ["defs[1]"] = some .directory := by decide +kernel
  have hspell : spell ⟨"/defs[1]"⟩ = some ⟨"/defs[1]"⟩ := by decide +kernel
  have hwalks := walks_of_spell hlocate hdirectory hspell
  obtain ⟨-, hscan, -⟩ := scan_definitions fun _ => hwalks
  obtain ⟨hscanned, -⟩ := hscan _ hlocate hdirectory
  obtain ⟨files, hfiles⟩ := hscanned.success.mpr ⟨⟨_, _, isDefinition_lampTree.mpr ⟨rfl, rfl⟩⟩,
    fun name content hdefinition => ⟨"ui_name,Lamp", by
      rw [(isDefinition_lampTree.mp hdefinition).2, fromUTF8?_toUTF8]⟩⟩
  refine ⟨fun _ => hwalks, files, hfiles, fun name text => ?_⟩
  rw [(hscanned.files files hfiles).2]
  simp only [isDefinition_lampTree]
  constructor
  · rintro ⟨_, ⟨hname, rfl⟩, htext⟩
    rw [fromUTF8?_toUTF8, Option.some.injEq] at htext
    exact ⟨hname, htext.symm⟩
  · rintro ⟨hname, rfl⟩
    exact ⟨_, ⟨hname, rfl⟩, fromUTF8?_toUTF8 _⟩

end FileTree

end EntityCodegen
