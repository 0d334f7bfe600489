import EntityCodegen.Proofs.Output.Sources

/-!
# How the files of a schema fit together

`files_fit`: the generated files have different names, also if all go to one directory, and there are
two for each component beside four fixed ones. What the files say of each other is right: the
registry includes the header of every component once and in order, and the source of a component
includes the component's own header.

The names of headers are made in three places, for the list of files, for the registry and for the
source. Here they are compared with the names in the list of files (`headerPaths`), whatever text
the components have for names: a fixed name has none of the two endings, and no name has both.
-/

namespace EntityCodegen

namespace Output

/-! ### The registry -/

/-- The lines of the registry up to the includes of the components. -/
def registryTop : List String :=
  ["#pragma once",
    "",
    "/* THIS FILE IS AUTOGENERATED BY schemagen; DO NOT HAND-MODIFY */",
    "",
    "#include <unordered_map>",
    "#include <memory>",
    "",
    "#include \"component_manager.h\"",
    ""]

/-- The lines of the registry behind the includes of the components. -/
def registryBody (components : List Component) : List String :=
  ["",
    "#define INITIAL_MAX_COMPONENTS " ++ toString initialCapacity,
    "",
    "struct component_managers \x7b",
    tab 1 "component_managers() \x7b"] ++
  components.map (fun component =>
    tab 2 (component.managerInstance ++
      ".create_component_instance_data(INITIAL_MAX_COMPONENTS);")) ++
  [tab 1 "\x7d",
    ""] ++
  components.map (fun component =>
    tab 1 (component.manager ++ " " ++ component.managerInstance ++ "\x7b\x7d;")) ++
  ["",
    tab 1 ("std::unique_ptr<component_stub> get_stub(const char *comp_name, " ++
      "const config_setting_t *config) \x7b")] ++
  components.flatMap stubLookup ++
  [tab 2 "assert(false);",
    tab 2 "return nullptr;",
    tab 1 "\x7d",
    "",
    tab 1 "void destroy_entity_instance(c_entity ce) \x7b"] ++
  components.map (fun component =>
    tab 2 (component.managerInstance ++ ".destroy_entity_instance(ce);")) ++
  [tab 1 "\x7d",
    "\x7d;"]

theorem registry_eq (components : List Component) : registry components =
    String.join ((registryTop ++ components.map headerInclude ++ registryBody components).map
      fun line => line ++ "\n") := by
  refine congrArg code ?_
  rw [registryBody]
  simp only [← List.append_assoc]
  rfl

theorem begins_include_tab (depth : Nat) (line : String) :
    begins "#include" (tab (depth + 1) line) = false := by
  have htab : (tab (depth + 1) line).toList =
      ' ' :: (List.replicate (4 * depth + 3) ' ' ++ line.toList) := by
    simp [tab, Nat.mul_add, List.replicate_succ]
  rw [begins, htab]
  rfl

theorem not_include_registryBody (components : List Component) :
    ∀ line ∈ registryBody components, begins "#include" line = false := by
  have hblank : begins "#include" "" = false := by decide
  have hdefine : begins "#include"
      ("#define INITIAL_MAX_COMPONENTS " ++ toString initialCapacity) = false := by
    rw [begins_append (by decide)]
    decide
  have hopen : begins "#include" "struct component_managers \x7b" = false := by decide
  have hclose : begins "#include" "\x7d;" = false := by decide
  have htab := begins_include_tab
  simp only [registryBody, stubLookup, List.forall_mem_append, List.forall_mem_map,
    List.forall_mem_flatMap, List.forall_mem_cons, htab, hblank, hdefine, hopen, hclose,
    List.not_mem_nil, false_implies, implies_true, and_true]

/-! ### The sources -/

theorem exists_componentSource_eq (component : Component) : ∃ rest, componentSource component =
    String.join ((sourceTop ++ [headerInclude component] ++ managerDeclaration ++ rest).map
      fun line => line ++ "\n") := by
  refine ⟨createLines component ++ destroyLines component ++ entityLines component ++
    assignLines component ++ configLines component ++ dependencyLines component, ?_⟩
  rw [componentSource_eq]
  refine congrArg code ?_
  simp only [List.append_assoc]

end Output

namespace Schema

open EntityCodegen.Output (begins headerInclude managerDeclaration registryTop sourceTop)
open EntityCodegen.Project (filesNamed filesOf)

variable {options : BuildOptions} {sources enums : List Source} {schema : Schema}

/-! ### The names of headers -/

def isHeaderName (name : String) : Bool :=
  "_component.h".toList.isSuffixOf name.toList

/-- The names of the component headers among the generated files. -/
def headerPaths (schema : Schema) : List String :=
  ((schema.componentFiles ++ schema.enumerationFiles).map OutputFile.name).filter isHeaderName

theorem isHeaderName_headerFile (component : Component) :
    isHeaderName component.headerFile = true := by
  rw [isHeaderName, List.isSuffixOf_iff_suffix, Component.headerFile, String.toList_append]
  exact List.suffix_append _ _

theorem isHeaderName_sourceFile (component : Component) :
    isHeaderName component.sourceFile = false := by
  rw [← Bool.not_eq_true, isHeaderName, List.isSuffixOf_iff_suffix, Component.sourceFile,
    String.toList_append]
  rintro ⟨front, heq⟩
  have hlast := congrArg List.getLast? heq
  simp at hlast

theorem names_of_files (schema : Schema) :
    (schema.componentFiles ++ schema.enumerationFiles).map OutputFile.name =
      ["component_managers.h", "component_ui_genned.cc"] ++
        (schema.components.flatMap fun component =>
          [component.name ++ "_component.h", component.name ++ "_component.cc"]) ++
        ["enums.h", "enums.cc"] := by
  simp only [componentFiles, enumerationFiles, List.map_append, List.map_flatMap]
  rfl

theorem headerPaths_eq (schema : Schema) :
    schema.headerPaths = schema.components.map Component.headerFile := by
  have hcomponent (component : Component) :
      [component.name ++ "_component.h", component.name ++ "_component.cc"].filter isHeaderName =
        [component.headerFile] := by
    have hheader := isHeaderName_headerFile component
    have hsource := isHeaderName_sourceFile component
    rw [Component.headerFile] at hheader
    rw [Component.sourceFile] at hsource
    simp only [List.filter_cons, hheader, hsource, List.filter_nil, if_true, Bool.false_eq_true,
      if_false]
    rfl
  have hfront : ["component_managers.h", "component_ui_genned.cc"].filter isHeaderName = [] := by
    decide
  have hback : ["enums.h", "enums.cc"].filter isHeaderName = [] := by decide
  rw [headerPaths, names_of_files, List.filter_append, List.filter_append, hfront, hback,
    List.filter_flatMap, List.nil_append, List.append_nil, List.map_eq_flatMap]
  exact congrArg (schema.components.flatMap ·) (funext hcomponent)

/-! ### Files that fit together -/

/-- The files of a schema fit together. -/
structure FilesFit (schema : Schema) : Prop where
  distinct : (schema.componentFiles ++ schema.enumerationFiles).Pairwise fun file other =>
    file.name ≠ other.name
  count : (schema.componentFiles ++ schema.enumerationFiles).length =
    2 * schema.components.length + 4
  names : (schema.componentFiles ++ schema.enumerationFiles).map OutputFile.name =
    ["component_managers.h", "component_ui_genned.cc"] ++
      (schema.components.flatMap fun component =>
        [component.name ++ "_component.h", component.name ++ "_component.cc"]) ++
      ["enums.h", "enums.cc"]
  headerPaths_nodup : schema.headerPaths.Nodup
  /-- The registry includes all headers of components, and behind them no file. -/
  registry : ∃ rest, filesNamed schema "component_managers.h" =
      [⟨.component, "component_managers.h",
        String.join ((registryTop ++
          schema.headerPaths.map (fun path => "#include \"" ++ path ++ "\"") ++ rest).map
            fun line => line ++ "\n")⟩] ∧
    ∀ line ∈ rest, begins "#include" line = false
  /-- The source of a component includes the header of the component. -/
  sources : ∀ component ∈ schema.components, ∃ header source rest,
    filesNamed schema (component.name ++ "_component.h") = [header] ∧
    filesNamed schema (component.name ++ "_component.cc") = [source] ∧
    header.content = Output.componentHeader component ∧
    source.content =
      String.join ((sourceTop ++ ["#include \"" ++ header.name ++ "\""] ++ managerDeclaration ++
        rest).map fun line => line ++ "\n")

theorem length_files (schema : Schema) :
    (schema.componentFiles ++ schema.enumerationFiles).length =
      2 * schema.components.length + 4 := by
  have hnames := congrArg List.length (names_of_files schema)
  rw [List.length_map] at hnames
  rw [hnames]
  have hpairs : (schema.components.flatMap fun component =>
      [component.name ++ "_component.h", component.name ++ "_component.cc"]).length =
        2 * schema.components.length := by
    simp [List.length_flatMap, Nat.mul_comm]
  simp only [List.length_append, hpairs, List.length_cons, List.length_nil]
  omega

/-- **The files of a schema fit together**, whatever the names of its components. -/
theorem files_fit (h : (read options sources enums).result = .ok schema) : FilesFit schema := by
  have hdistinct := Project.pairwise_filesOf (names_of_read h).1
  have hnamed : ∀ file ∈ filesOf schema .all, filesNamed schema file.name = [file] :=
    fun file hfile => Project.filter_name_eq hdistinct hfile
  refine ⟨hdistinct, length_files schema, names_of_files schema, ?_, ?_, ?_⟩
  · rw [headerPaths]
    exact (List.pairwise_map.mpr hdistinct).filter _
  · refine ⟨Output.registryBody schema.components, ?_, Output.not_include_registryBody _⟩
    have hregistry := hnamed ⟨.component, "component_managers.h",
      Output.registry schema.components⟩ List.mem_cons_self
    rw [Output.registry_eq] at hregistry
    rw [headerPaths_eq, List.map_map]
    exact hregistry
  · intro component hcomponent
    have hfiles := Project.filesOfComponent_subset hcomponent
    rw [Project.filesOfComponent, List.cons_subset, List.cons_subset] at hfiles
    obtain ⟨hheader, hsource, -⟩ := hfiles
    obtain ⟨rest, hcontent⟩ := Output.exists_componentSource_eq component
    refine ⟨_, _, rest, hnamed _ hheader, hnamed _ hsource, rfl, ?_⟩
    dsimp only
    exact hcontent

/-- A component has no name, and another has the name of the first one's header. -/
theorem files_fit_confusing : ∃ schema,
    (read .standard [⟨"", ""⟩, ⟨"_component.h", ""⟩] []).result = .ok schema ∧
    schema.headerPaths = ["_component.h", "_component.h_component.h"] ∧ FilesFit schema := by
  have hsorted : Source.sorted [⟨"", ""⟩, ⟨"_component.h", ""⟩] =
      [⟨"", ""⟩, ⟨"_component.h", ""⟩] := by
    simp [Source.sorted, List.mergeSort, List.MergeSort.Internal.splitInTwo]
  have hread : (read .standard [⟨"", ""⟩, ⟨"_component.h", ""⟩] []).result =
      .ok ⟨[.ofName "", .ofName "_component.h"], [], 0⟩ := by
    simp only [result_read, readUnlinked, Source.readEach, Source.distinctSorted, hsorted,
      Source.sorted_nil, Source.repeatedName?]
    decide +kernel
  have hfit := files_fit hread
  refine ⟨_, hread, ?_, hfit⟩
  rw [headerPaths_eq]
  decide

end Schema

end EntityCodegen
