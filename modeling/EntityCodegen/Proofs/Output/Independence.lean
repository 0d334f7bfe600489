import EntityCodegen.Proofs.Component.Linking
import EntityCodegen.Proofs.Project.Destinations
import EntityCodegen.Proofs.Schema.Refusal

/-!
# What the files of a component depend on

`componentFiles_agree`: two runs that read one component file make the same header and the same
source from it, whatever else they read.

What the other files change in a component are its wire ids, and with those changed the two files
stay as they are (`componentHeader_renumber`, `componentSource_renumber`): the header asks only
whether there is an id at all, and the source does not ask.
-/

namespace EntityCodegen

/-! ### What is written of a component -/

namespace Output

variable (f : Nat → Nat) (component : Component)

theorem isEmpty_wireFields_renumber :
    (component.renumber f).wireFields.isEmpty = component.wireFields.isEmpty := by
  have hfields : (component.renumber f).wireFields =
      component.wireFields.map fun entry => (entry.1.renumber f, f entry.2) := by
    unfold Component.wireFields Component.renumber
    rw [List.filterMap_map, List.map_filterMap]
    congr 1
    funext field
    simp only [Function.comp_apply, BodyField.renumber, Option.map_map]
    rfl
  rw [hfields, List.isEmpty_map]

theorem managerLines_renumber : managerLines (component.renumber f) = managerLines component := by
  unfold managerLines poolMembers
  simp only [Component.renumber, List.map_map, List.flatMap_map]
  rfl

theorem componentHeader_renumber :
    componentHeader (component.renumber f) = componentHeader component := by
  unfold componentHeader
  rw [isEmpty_wireFields_renumber, managerLines_renumber]
  rfl

theorem createLines_renumber : createLines (component.renumber f) = createLines component := by
  unfold createLines allocationLines
  simp only [Component.renumber, List.map_map]
  rfl

theorem destroyLines_renumber : destroyLines (component.renumber f) = destroyLines component := by
  unfold destroyLines
  simp only [Component.renumber, List.map_map]
  rfl

theorem assignLines_renumber : assignLines (component.renumber f) = assignLines component := by
  unfold assignLines assignmentLines
  simp only [Component.renumber, List.flatMap_map]
  rfl

theorem componentSource_renumber :
    componentSource (component.renumber f) = componentSource component := by
  unfold componentSource
  rw [createLines_renumber, destroyLines_renumber, assignLines_renumber]
  rfl

end Output

/-! ### The component of a file -/

namespace Schema

variable {options : BuildOptions} {sources enums : List Source} {source : Source} {schema : Schema}

theorem exists_link_mem_linkAll (wireType : String) (next : Nat) {component : Component}
    {components : List Component} (h : component ∈ components) :
    ∃ first, (component.link wireType first).1 ∈ (linkAll wireType next components).1 := by
  induction components generalizing next with
  | nil => cases h
  | cons other rest ih =>
    rcases List.mem_cons.mp h with rfl | hrest
    · exact ⟨next, List.mem_cons_self⟩
    · obtain ⟨first, hmem⟩ := ih (other.link wireType next).2 hrest
      exact ⟨first, List.mem_cons_of_mem _ hmem⟩

theorem exists_link_of_read (h : (read options sources enums).result = .ok schema)
    (hsource : source ∈ sources) :
    ∃ component first, source.component options.reading = .ok component ∧
      (component.link options.wireType first).1 ∈ schema.components := by
  rw [result_read] at h
  obtain ⟨components, hcomponents, h⟩ := bind_eq_ok_iff.mp h
  obtain ⟨enumerations, -, h⟩ := bind_eq_ok_iff.mp h
  cases h
  obtain ⟨component, hmem, hread⟩ := Source.exists_of_readEach hcomponents hsource
  obtain ⟨first, hlinked⟩ := exists_link_mem_linkAll options.wireType 0 hmem
  exact ⟨component, first, hread, hlinked⟩

end Schema

/-! ### Two runs -/

namespace Project

variable {options : BuildOptions} {sources enums : List Source} {source : Source} {schema : Schema}

/-- The generated files with the name. -/
def filesNamed (schema : Schema) (name : String) : List OutputFile :=
  (filesOf schema .all).filter fun file => file.name = name

theorem filter_name_eq {files : List OutputFile} {file : OutputFile}
    (h : files.Pairwise fun file other => file.name ≠ other.name) (hmem : file ∈ files) :
    (files.filter fun other => other.name = file.name) = [file] := by
  obtain ⟨before, after, rfl⟩ := List.append_of_mem hmem
  obtain ⟨-, hafter, hbefore⟩ := List.pairwise_append.mp h
  have hnone : (before.filter fun other => other.name = file.name) = [] := by
    rw [List.filter_eq_nil_iff]
    intro other hother
    simpa using hbefore other hother file List.mem_cons_self
  have hnone' : (after.filter fun other => other.name = file.name) = [] := by
    rw [List.filter_eq_nil_iff]
    intro other hother
    simpa using (List.rel_of_pairwise_cons hafter hother).symm
  rw [List.filter_append, hnone, List.nil_append, List.filter_cons_of_pos (by simp), hnone']

theorem filesNamed_of_read {component : Component}
    (h : (Schema.read options sources enums).result = .ok schema) (hsource : source ∈ sources)
    (hcomponent : source.component options.reading = .ok component) :
    ∀ file ∈ filesOfComponent (component.link options.wireType 0).1,
      filesNamed schema file.name = [file] := by
  obtain ⟨_, first, hread, hlinked⟩ := Schema.exists_link_of_read h hsource
  cases hread.symm.trans hcomponent
  have hdistinct := pairwise_filesOf (Schema.names_of_read h).1
  -- the first id shows in none of the two files
  have hsame : filesOfComponent (component.link options.wireType first).1 =
      filesOfComponent (component.link options.wireType 0).1 := by
    rw [Component.fst_link_eq_renumber options.wireType first
      (Component.wireId_of_read hcomponent)]
    unfold filesOfComponent
    rw [Output.componentHeader_renumber, Output.componentSource_renumber]
    rfl
  intro file hfile
  exact filter_name_eq hdistinct (filesOfComponent_subset hlinked (hsame ▸ hfile))

/-- **What is generated of a component depends on its own file only.** Each run makes one header and
one source with the component's name, and these have the same text in both. -/
theorem componentFiles_agree {others otherEnums : List Source} {schema' : Schema}
    (h : (Schema.read options sources enums).result = .ok schema)
    (h' : (Schema.read options others otherEnums).result = .ok schema')
    (hsource : source ∈ sources) (hsource' : source ∈ others) :
    ∃ header code : String, ∀ made ∈ [schema, schema'],
      filesNamed made (source.name ++ "_component.h") =
        [⟨.component, source.name ++ "_component.h", header⟩] ∧
      filesNamed made (source.name ++ "_component.cc") =
        [⟨.component, source.name ++ "_component.cc", code⟩] := by
  obtain ⟨component, -, hcomponent, -⟩ := Schema.exists_link_of_read h hsource
  have hfiles (made : Schema) (hmade : made ∈ [schema, schema']) :
      ∀ file ∈ filesOfComponent (component.link options.wireType 0).1,
        filesNamed made file.name = [file] := by
    rcases List.mem_cons.mp hmade with rfl | hmade
    · exact filesNamed_of_read h hsource hcomponent
    · rw [List.mem_singleton.mp hmade]
      exact filesNamed_of_read h' hsource' hcomponent
  have hname : (component.link options.wireType 0).1.name = source.name := by
    show component.name = _
    exact Component.name_of_read hcomponent
  refine ⟨Output.componentHeader (component.link options.wireType 0).1,
    Output.componentSource (component.link options.wireType 0).1, fun made hmade => ?_⟩
  obtain ⟨hheader, hrest⟩ := List.forall_mem_cons.mp (hfiles made hmade)
  have hcode := List.forall_mem_singleton.mp hrest
  simp only [Component.headerFile, Component.sourceFile, hname] at hheader hcode
  exact ⟨hheader, hcode⟩

/-- The second run has a file before the one they share and an enumeration, so the wire filter that
has the id 0 in the first run has the id 1 in the second. -/
theorem componentFiles_agree_renumbered :
    ∃ schema schema',
      (Schema.read ⟨.standard, "w"⟩ [⟨"b", "body,w,x,0"⟩] []).result = .ok schema ∧
      (Schema.read ⟨.standard, "w"⟩ [⟨"b", "body,w,x,0"⟩, ⟨"a", "body,w,v,"⟩]
        [⟨"e", ""⟩]).result = .ok schema' ∧
      schema.components.map (fun component => component.body.filterMap BodyField.wireId) = [[0]] ∧
      schema'.components.map (fun component => component.body.filterMap BodyField.wireId) =
        [[0], [1]] ∧
      ∃ header code : String, ∀ made ∈ [schema, schema'],
        filesNamed made ("b" ++ "_component.h") =
          [⟨.component, "b" ++ "_component.h", header⟩] ∧
        filesNamed made ("b" ++ "_component.cc") =
          [⟨.component, "b" ++ "_component.cc", code⟩] := by
  have hsorted : Source.sorted [⟨"b", "body,w,x,0"⟩, ⟨"a", "body,w,v,"⟩] =
      [⟨"a", "body,w,v,"⟩, ⟨"b", "body,w,x,0"⟩] := by
    simp [Source.sorted, List.mergeSort, List.MergeSort.Internal.splitInTwo]
  have hnil : Source.sorted [] = [] := by simp [Source.sorted]
  have hone (source : Source) : Source.sorted [source] = [source] := by simp [Source.sorted]
  have hread : (Schema.read ⟨.standard, "w"⟩ [⟨"b", "body,w,x,0"⟩] []).result =
      .ok ⟨[⟨"b", "Invalid Name", [⟨"w", "x", "0", "entity", "b", none, some 0⟩], [], []⟩], [],
        1⟩ := by
    simp only [Schema.result_read, Schema.readUnlinked, Source.readEach, Source.distinctSorted,
      hone, hnil, Source.repeatedName?]
    rfl
  have hread' : (Schema.read ⟨.standard, "w"⟩ [⟨"b", "body,w,x,0"⟩, ⟨"a", "body,w,v,"⟩]
      [⟨"e", ""⟩]).result =
      .ok ⟨[⟨"a", "Invalid Name", [⟨"w", "v", "", "entity", "a", none, some 0⟩], [], []⟩,
        ⟨"b", "Invalid Name", [⟨"w", "x", "0", "entity", "b", none, some 1⟩], [], []⟩],
        [Enumeration.empty "e"], 2⟩ := by
    simp only [Schema.result_read, Schema.readUnlinked, Source.readEach, Source.distinctSorted,
      hsorted, hone, Source.repeatedName?]
    rfl
  have hmem : (⟨"b", "body,w,x,0"⟩ : Source) ∈ [⟨"b", "body,w,x,0"⟩] := by simp
  exact ⟨_, _, hread, hread', rfl, rfl,
    componentFiles_agree hread hread' hmem List.mem_cons_self⟩

end Project

end EntityCodegen
