import EntityCodegen.Proofs.Files.Ways
import EntityCodegen.Proofs.Project.Destinations
import EntityCodegen.Proofs.Schema.Reading

/-!
# Selected definitions

`generators_independent`: generating everything is generating the components and generating the
enumerations, and neither depends on the other's directory.

A run reads both kinds of files one after the other and joins them only at the end, so with one kind
left out it is the run of the other kind (`read_eq_ok_iff`). What it reads is what a scan of the
directory gives, which depends on the way to the directory and on the definitions in it
(`scanAny_congr`). Changes at a location and below leave both alone, unless the way comes by that
location or the location is in the directory, and then the directory is on the way to it.
-/

namespace EntityCodegen

/-! ### One scan in two trees -/

namespace FileTree

variable {tree other : FileTree} {target : Location} {path : Path}

theorem scanAny_congr (h : SameOutside target tree other) (hway : target ∉ tree.way path)
    (hinside : ∀ name, target ≠ tree.place path ++ [name]) :
    other.scanAny path = tree.scanAny path := by
  have hfind := find_congr h hway
  have hhas : other.hasDirectory path = tree.hasDirectory path := by
    rw [hasDirectory, hasDirectory, hfind]
  cases hdirectory : tree.hasDirectory path with
  | false =>
    rw [hdirectory] at hhas
    rw [scanAny, scanAny, scan_of_missing hdirectory, scan_of_missing hhas]
  | true =>
    obtain ⟨location, hlocate, hentry⟩ := hasDirectory_iff.mp hdirectory
    obtain ⟨location', hlocate', hentry'⟩ := hasDirectory_iff.mp (hhas.trans hdirectory)
    have hplace : location = tree.place path := eq_place_of_locate hlocate
    have hplace' : location' = tree.place path := (eq_place_of_locate hlocate').trans
      (place_congr h path)
    subst hplace hplace'
    have habove := not_prefix_of_mem_way hway (place_mem_way tree path)
    have hsame (name : String) (content : ByteArray) :
        other.IsDefinition (tree.place path) name content ↔
          tree.IsDefinition (tree.place path) name content := by
      have hname : ¬ target <+: tree.place path ++ [name] := by
        intro hprefix
        rcases List.prefix_concat_iff.mp hprefix with heq | hprefix
        · exact hinside name heq
        · exact habove hprefix
      rw [IsDefinition, IsDefinition, h.get? _ hname]
    rw [scanAny, scanAny, scan_congr hsame hlocate' hentry' hlocate hentry]

/-- Two directories stand apart: neither is on the way to the other, nor the same. -/
structure StandApart (tree : FileTree) (path path' : Path) : Prop where
  left : tree.place path' ∉ tree.way path
  right : tree.place path ∉ tree.way path'

theorem StandApart.symm {path' : Path} (h : StandApart tree path path') :
    StandApart tree path' path :=
  ⟨h.right, h.left⟩

theorem scanAny_of_standApart {path' : Path} (hapart : StandApart tree path path')
    (h : SameOutside (tree.place path') tree other) : other.scanAny path = tree.scanAny path := by
  refine scanAny_congr h hapart.left fun name heq => hapart.right ?_
  have habove : tree.place path <+: tree.place path' := heq ▸ List.prefix_append _ _
  exact mem_way_of_above (place_mem_way tree path') habove

end FileTree

/-! ### One kind of definitions -/

namespace Schema

variable {options : BuildOptions} {sources enums : List Source} {schema : Schema}

theorem readEach_nil {α : Type} (duplicate : String → DefinitionError)
    (read : Source → Except DefinitionError α) : Source.readEach duplicate read [] = .ok [] := by
  have hnil : Source.sorted [] = [] := List.mergeSort_nil
  rw [Source.readEach, Source.distinctSorted, hnil]
  rfl

theorem read_eq_ok_iff : (read options sources enums).result = .ok schema ↔
    (read options sources []).result = .ok ⟨schema.components, [], schema.wireIdCount⟩ ∧
      (read options [] enums).result = .ok ⟨[], schema.enumerations, 0⟩ := by
  simp only [result_read, readUnlinked, readEach_nil, ok_bind, bind_eq_ok_iff]
  constructor
  · rintro ⟨components, hcomponents, read, henums, hassembled⟩
    cases hassembled
    exact ⟨⟨components, hcomponents, rfl⟩, read, henums, rfl⟩
  · rintro ⟨⟨components, hcomponents, hassembled⟩, read, henums, hassembled'⟩
    obtain ⟨schemaComponents, schemaEnumerations, count⟩ := schema
    cases hassembled
    cases hassembled'
    exact ⟨components, hcomponents, _, henums, rfl⟩

end Schema

namespace Project

variable {project : Project} {tree other : FileTree} {selection : Selection}
  {generated components enums : Generated}

/-- What of a run is made from the component files. -/
def componentPart (generated : Generated) : Generated :=
  ⟨⟨generated.schema.components, [], generated.schema.wireIdCount⟩,
    generated.schema.componentFiles⟩

def enumPart (generated : Generated) : Generated :=
  ⟨⟨[], generated.schema.enumerations, 0⟩, generated.schema.enumerationFiles⟩

theorem build_all_eq_ok_iff {schema : Schema} : (project.build tree .all).result = .ok schema ↔
    (project.build tree .components).result =
        .ok ⟨schema.components, [], schema.wireIdCount⟩ ∧
      (project.build tree .enums).result = .ok ⟨[], schema.enumerations, 0⟩ := by
  simp only [result_build, sourcesIn, Selection.hasComponents, Selection.hasEnums, if_true,
    Bool.false_eq_true, if_false, ok_bind, bind_eq_ok_iff, mapError_eq_ok_iff]
  constructor
  · rintro ⟨options, hoptions, sources, hsources, enums, henums, hread⟩
    obtain ⟨hcomponents, henumerations⟩ := Schema.read_eq_ok_iff.mp hread
    exact ⟨⟨options, hoptions, sources, hsources, hcomponents⟩,
      options, hoptions, enums, henums, henumerations⟩
  · rintro ⟨⟨options, hoptions, sources, hsources, hcomponents⟩,
      options', hoptions', enums, henums, henumerations⟩
    obtain rfl : options = options' := Except.ok.inj (hoptions.symm.trans hoptions')
    exact ⟨options, hoptions, sources, hsources, enums, henums,
      Schema.read_eq_ok_iff.mpr ⟨hcomponents, henumerations⟩⟩

/-- **Generating everything is generating either kind.** -/
theorem generate_all_eq_ok_iff : (project.generate tree .all).result = .ok generated ↔
    (project.generate tree .components).result = .ok (componentPart generated) ∧
      (project.generate tree .enums).result = .ok (enumPart generated) ∧
      generated.files = (componentPart generated).files ++ (enumPart generated).files := by
  simp only [result_generate_eq_ok_iff, build_all_eq_ok_iff]
  have hcomponents : (componentPart generated).files =
      filesOf (componentPart generated).schema .components := (List.append_nil _).symm
  have henums : (enumPart generated).files = filesOf (enumPart generated).schema .enums := rfl
  constructor
  · rintro ⟨⟨hleft, hright⟩, hfiles⟩
    exact ⟨⟨hleft, hcomponents⟩, ⟨hright, henums⟩, hfiles⟩
  · rintro ⟨⟨hleft, -⟩, ⟨hright, -⟩, hfiles⟩
    exact ⟨⟨hleft, hright⟩, hfiles⟩

theorem componentPart_of_generate (h : (project.generate tree .components).result = .ok generated) :
    componentPart generated = generated := by
  obtain ⟨hbuilt, hfiles⟩ := result_generate_eq_ok_iff.mp h
  obtain ⟨schema, files⟩ := generated
  simp only [result_build, sourcesIn, Selection.hasEnums, Bool.false_eq_true, if_false, ok_bind,
    bind_eq_ok_iff, mapError_eq_ok_iff] at hbuilt
  obtain ⟨options, -, sources, -, hread⟩ := hbuilt
  have hschema : schema = ⟨schema.components, [], schema.wireIdCount⟩ :=
    Except.ok.inj (hread.symm.trans (Schema.read_eq_ok_iff.mp hread).1)
  have hfiles' : files = schema.componentFiles := hfiles.trans (List.append_nil _)
  rw [componentPart, hfiles', ← hschema]

theorem enumPart_of_generate (h : (project.generate tree .enums).result = .ok generated) :
    enumPart generated = generated := by
  obtain ⟨hbuilt, hfiles⟩ := result_generate_eq_ok_iff.mp h
  obtain ⟨schema, files⟩ := generated
  simp only [result_build, sourcesIn, Selection.hasComponents, Bool.false_eq_true, if_false,
    ok_bind, bind_eq_ok_iff, mapError_eq_ok_iff] at hbuilt
  obtain ⟨options, -, sources, -, hread⟩ := hbuilt
  have hschema : schema = ⟨[], schema.enumerations, 0⟩ :=
    Except.ok.inj (hread.symm.trans (Schema.read_eq_ok_iff.mp hread).2)
  have hfiles' : files = schema.enumerationFiles := hfiles
  rw [enumPart, hfiles', ← hschema]

/-! ### Independent generators -/

/-- The run for everything is the runs for both kinds put together. -/
structure Combines (all components enums : Except ProjectError Generated) : Prop where
  success : (∃ generated, all = .ok generated) ↔
    (∃ generated, components = .ok generated) ∧ ∃ generated, enums = .ok generated
  files : ∀ generated left right, all = .ok generated → components = .ok left →
    enums = .ok right → generated.files = left.files ++ right.files
  schema : ∀ generated left right, all = .ok generated → components = .ok left →
    enums = .ok right →
      generated.schema.components = left.schema.components ∧
      generated.schema.wireIdCount = left.schema.wireIdCount ∧
      generated.schema.enumerations = right.schema.enumerations

theorem combines (project : Project) (tree : FileTree) :
    Combines (project.generate tree .all).result (project.generate tree .components).result
      (project.generate tree .enums).result := by
  -- success gives the parts, and the parts are all that the other runs can give
  have hparts {generated left right : Generated}
      (h : (project.generate tree .all).result = .ok generated)
      (hleft : (project.generate tree .components).result = .ok left)
      (hright : (project.generate tree .enums).result = .ok right) :
      left = componentPart generated ∧ right = enumPart generated ∧
        generated.files = (componentPart generated).files ++ (enumPart generated).files := by
    obtain ⟨hcomponents, henums, hfiles⟩ := generate_all_eq_ok_iff.mp h
    exact ⟨Except.ok.inj (hleft.symm.trans hcomponents), Except.ok.inj (hright.symm.trans henums),
      hfiles⟩
  constructor
  · constructor
    · rintro ⟨generated, h⟩
      obtain ⟨hcomponents, henums, -⟩ := generate_all_eq_ok_iff.mp h
      exact ⟨⟨_, hcomponents⟩, _, henums⟩
    · rintro ⟨⟨left, hleft⟩, right, hright⟩
      refine ⟨⟨⟨left.schema.components, right.schema.enumerations, left.schema.wireIdCount⟩,
        left.files ++ right.files⟩, generate_all_eq_ok_iff.mpr ?_⟩
      have hcomponents := componentPart_of_generate hleft
      have henums := enumPart_of_generate hright
      refine ⟨hleft.trans (congrArg _ hcomponents.symm), hright.trans (congrArg _ henums.symm), ?_⟩
      exact congrArg₂ (·.files ++ ·.files) hcomponents.symm henums.symm
  · intro generated left right h hleft hright
    obtain ⟨rfl, rfl, hfiles⟩ := hparts h hleft hright
    exact hfiles
  · intro generated left right h hleft hright
    obtain ⟨rfl, rfl, -⟩ := hparts h hleft hright
    exact ⟨rfl, rfl, rfl⟩

theorem readDirectory_congr {directory : Path}
    (h : other.scanAny (project.root.join directory) = tree.scanAny (project.root.join directory)) :
    project.readDirectory other directory = project.readDirectory tree directory := by
  rw [readDirectory, readDirectory, h]

theorem generate_components_congr
    (h : other.scanAny (project.root.join project.settings.input.components) =
      tree.scanAny (project.root.join project.settings.input.components)) :
    project.generate other .components = project.generate tree .components := by
  simp only [generate, build, Selection.hasComponents, Selection.hasEnums, if_true,
    Bool.false_eq_true, if_false, readDirectory_congr h]

theorem generate_enums_congr
    (h : other.scanAny (project.root.join project.settings.input.enums) =
      tree.scanAny (project.root.join project.settings.input.enums)) :
    project.generate other .enums = project.generate tree .enums := by
  simp only [generate, build, Selection.hasComponents, Selection.hasEnums, if_true,
    Bool.false_eq_true, if_false, readDirectory_congr h]

/-- **The two generators are independent.** Generating everything succeeds iff either kind does,
and gives what they give. Where the two definition directories stand apart, no change to the one and
to what is in it, not even its removal, changes what generating the other kind gives and reports. -/
theorem generators_independent (project : Project) (tree : FileTree) :
    Combines (project.generate tree .all).result (project.generate tree .components).result
      (project.generate tree .enums).result ∧
    (tree.StandApart (project.root.join project.settings.input.components)
        (project.root.join project.settings.input.enums) →
      (∀ other, FileTree.SameOutside
          (tree.place (project.root.join project.settings.input.enums)) tree other →
        project.generate other .components = project.generate tree .components) ∧
      ∀ other, FileTree.SameOutside
          (tree.place (project.root.join project.settings.input.components)) tree other →
        project.generate other .enums = project.generate tree .enums) := by
  refine ⟨combines project tree, fun hapart => ⟨fun other h => ?_, fun other h => ?_⟩⟩
  · exact generate_components_congr (FileTree.scanAny_of_standApart hapart h)
  · exact generate_enums_congr (FileTree.scanAny_of_standApart hapart.symm h)

/-- A component in `/components`, and the empty directory `/enums`. -/
def pairTree : FileTree :=
  ((FileTree.empty.put [] "components" .directory).put [] "enums" .directory).put ["components"]
    "lamp" (.file "ui_name,Lamp".toUTF8)

def pairProject : Project :=
  ⟨⟨"/"⟩, { Settings.standard with input := ⟨⟨"components"⟩, ⟨"enums"⟩⟩ }⟩

/-- Components are made without `/enums`, and enumerations with any file in `/components`. -/
theorem generators_independent_pair :
    pairTree.StandApart (pairProject.root.join pairProject.settings.input.components)
      (pairProject.root.join pairProject.settings.input.enums) ∧
    (pairTree.remove ["enums"]).hasDirectory ⟨"/enums"⟩ = false ∧
    pairProject.generate (pairTree.remove ["enums"]) .components =
      pairProject.generate pairTree .components ∧
    ∀ name content,
      pairProject.generate (pairTree.put ["components"] name (.file content)) .enums =
        pairProject.generate pairTree .enums := by
  have hapart : pairTree.StandApart
      (pairProject.root.join pairProject.settings.input.components)
      (pairProject.root.join pairProject.settings.input.enums) :=
    ⟨by decide +kernel, by decide +kernel⟩
  have hcomponents : pairTree.place
      (pairProject.root.join pairProject.settings.input.components) = ["components"] := by
    decide +kernel
  have henums : pairTree.place (pairProject.root.join pairProject.settings.input.enums) =
      ["enums"] := by
    decide +kernel
  obtain ⟨-, hindependent⟩ := generators_independent pairProject pairTree
  obtain ⟨hleft, hright⟩ := hindependent hapart
  rw [henums] at hleft
  rw [hcomponents] at hright
  refine ⟨hapart, by decide +kernel, hleft _ (FileTree.sameOutside_remove pairTree _), ?_⟩
  intro name content
  exact hright _ (FileTree.sameOutside_put (List.prefix_append ["components"] [name]) _)

end Project

end EntityCodegen
