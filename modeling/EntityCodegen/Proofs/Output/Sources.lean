import EntityCodegen.Proofs.Component.Delimiters
import EntityCodegen.Proofs.Component.Relinking
import EntityCodegen.Proofs.Output.Independence

/-!
# From the lines of a component file to its source

`sources_follow`: what the source of a component places and sets follows the body lines of the
component's file, whatever lies between them. A pool member is placed for each body line, behind the
one of the body line before it; and each member is set to what the first stub line of its name says,
or to its default.

The two functions are described by their text (`HasBlock`): behind its opening a function has a block
of lines, and no other of its lines begins as those of the block do. What is in the blocks is taken
back from the rendered fields to the records of the lines: over linking (`map_linkFields`), over the
chain of fields (`BodyRecord.map_chain`), and from the position of a stub to the first stub of the
name (`initialValue_linked`).
-/

namespace EntityCodegen

namespace Line

/-- What the body lines of a file declare. -/
def bodyRecords (delimiter : Char) (content : String) : List BodyRecord :=
  (records delimiter (Text.lines content)).filterMap ComponentRecord.body?

/-- What the stub lines of a file declare. -/
def stubRecords (delimiter : Char) (content : String) : List StubRecord :=
  (records delimiter (Text.lines content)).filterMap ComponentRecord.stub?

end Line

namespace Output

/-! ### Blocks of lines -/

/-- Whether the line begins with the marker. -/
def begins (marker line : String) : Bool :=
  marker.toList.isPrefixOf line.toList

/-- A line inside a function. -/
def Inner (line : String) : Prop :=
  '\n' ∉ line.toList ∧ line ≠ "\x7d"

instance (line : String) : Decidable (Inner line) :=
  inferInstanceAs (Decidable (_ ∧ _))

/-- Among the lines of the text there is a function with the block behind the opening, and no other
line of the function begins with the marker. -/
def HasBlock (content : String) (opening : List String) (marker : String) (block : List String) :
    Prop :=
  ∃ front before after back,
    content = String.join ((front ++ opening ++ before ++ block ++ after ++ ["\x7d"] ++ back).map
      fun line => line ++ "\n") ∧
    (∀ line ∈ before ++ block ++ after, Inner line) ∧
    ∀ line ∈ before ++ after, begins marker line = false

theorem begins_append {marker line : String} (h : marker.toList.length ≤ line.toList.length)
    (rest : String) : begins marker (line ++ rest) = begins marker line := by
  rw [Bool.eq_iff_iff, begins, begins, List.isPrefixOf_iff_prefix, List.isPrefixOf_iff_prefix,
    String.toList_append]
  constructor
  · exact fun hprefix => List.prefix_of_prefix_length_le hprefix (List.prefix_append _ _) h
  · exact fun hprefix => hprefix.trans (List.prefix_append _ _)

theorem inner_tab {line : String} (h : '\n' ∉ line.toList) : Inner (tab 1 line) := by
  have htab : (tab 1 line).toList = [' ', ' ', ' ', ' '] ++ line.toList := by
    simp [tab]
  constructor
  · rw [htab]
    simpa using h
  · intro heq
    rw [heq] at htab
    cases htab

theorem quiet_tab {marker head rest : String}
    (hlength : marker.toList.length ≤ (tab 1 head).toList.length)
    (hhead : begins marker (tab 1 head) = false) (hrest : '\n' ∉ (head ++ rest).toList) :
    Inner (tab 1 (head ++ rest)) ∧ begins marker (tab 1 (head ++ rest)) = false := by
  refine ⟨inner_tab hrest, ?_⟩
  rw [tab_append, begins_append hlength]
  exact hhead

/-! ### The blocks of a component -/

/-- The line that places a record's pool member behind another. -/
def placementLine (previous : String) (record : BodyRecord) : String :=
  "    new_pool." ++ record.name ++ " = align_ptr((" ++ record.type ++ " *)(new_pool." ++
    previous ++ " + count));"

/-- The lines that place the pool members, each behind the one before it. -/
def placementLines (records : List BodyRecord) : List String :=
  "    new_pool.entity = align_ptr((c_entity *)new_buffer.buffer);" ::
    List.zipWith placementLine ("entity" :: records.map BodyRecord.name) records

/-- What a record's pool member is set to: the value of the first stub of its name, or its
default. -/
def assignedValue (stubs : List StubRecord) (record : BodyRecord) : String :=
  match stubs.find? fun stub => stub.name == record.name with
  | some stub => stub.lead ++ stub.name ++ stub.extra
  | none => record.defaultValue

/-- The line that sets a record's pool member. -/
def settingLine (stubs : List StubRecord) (record : BodyRecord) : String :=
  "    *data." ++ record.name ++ " = " ++ assignedValue stubs record ++ ";"

/-- The lines that set the pool members, each after a blank line. -/
def settingBlock (stubs : List StubRecord) (records : List BodyRecord) : List String :=
  records.flatMap fun record => ["", settingLine stubs record]

theorem placementLine_eq_tab (previous : String) (record : BodyRecord) :
    placementLine previous record = tab 1 ("new_pool." ++ record.name ++ " = align_ptr((" ++
      record.type ++ " *)(new_pool." ++ previous ++ " + count));") := by
  unfold placementLine
  simp only [tab_append]
  rfl

theorem settingLine_eq_tab (stubs : List StubRecord) (record : BodyRecord) :
    settingLine stubs record =
      tab 1 ("*data." ++ record.name ++ " = " ++ assignedValue stubs record ++ ";") := by
  simp only [settingLine, tab_append]
  rfl

/-- What stands before the pool members are placed. -/
def sizeLines (component : Component) : List String :=
  [tab 1 "if (count <= buffer.allocated)",
    tab 2 "return;",
    "",
    tab 1 "component_buffer new_buffer\x7b\x7d;",
    tab 1 "instance_data new_pool\x7b\x7d;",
    "",
    tab 1 "size_t size = sizeof(c_entity) * count;"] ++
  component.body.map (fun field =>
    tab 1 ("size = sizeof(" ++ field.type ++ ") * count + align_size<" ++ field.type ++
      ">(size);")) ++
  [tab 1 "size += 16;   // for worst-case misalignment of initial ptr",
    "",
    tab 1 "new_buffer.buffer = malloc(size);",
    tab 1 "new_buffer.num = buffer.num;",
    tab 1 "new_buffer.allocated = count;",
    tab 1 "memset(new_buffer.buffer, 0, size);",
    ""]

/-- What stands after the pool members are placed. -/
def copyLines (component : Component) : List String :=
  ["",
    tab 1 "memcpy(new_pool.entity, instance_pool.entity, buffer.num * sizeof(c_entity));"] ++
  component.body.map (fun field =>
    tab 1 ("memcpy(new_pool." ++ field.name ++ ", instance_pool." ++ field.name ++
      ", buffer.num * sizeof(" ++ field.type ++ "));")) ++
  ["",
    tab 1 "free(buffer.buffer);",
    tab 1 "buffer = new_buffer;",
    "",
    tab 1 "instance_pool = new_pool;"]

/-- What stands before the members are set. -/
def managerAccessLines : List String :=
  ["",
    tab 1 "man.assign_entity(entity);",
    "",
    tab 1 "auto data = man.get_instance_data(entity);"]

/-- The opening of the function that places the pool members. -/
def createOpening (name : String) : List String :=
  ["void",
    name ++ "_component_manager::create_component_instance_data(unsigned count) \x7b"]

/-- The opening of the function that sets them. -/
def assignOpening (name : String) : List String :=
  ["void",
    name ++ "_component_stub::assign_component_to_entity(c_entity entity) \x7b",
    "    auto &man = component_system_man.managers." ++ name ++ "_component_man;"]

theorem createLines_eq (component : Component) :
    createLines component =
      createOpening component.name ++
        (sizeLines component ++ allocationLines component ++ copyLines component ++ ["\x7d"]) ++
        [""] := by
  simp [createLines, createOpening, Component.manager, sizeLines, copyLines, String.append_assoc]

theorem assignLines_eq (component : Component) :
    assignLines component =
      assignOpening component.name ++
        (managerAccessLines ++ assignmentLines component ++ [] ++ ["\x7d"]) ++ [""] := by
  have hmanager : tab 1 ("auto &man = component_system_man.managers." ++
      component.managerInstance ++ ";") =
        "    auto &man = component_system_man.managers." ++ component.name ++ "_component_man;" := by
    simp only [Component.managerInstance, tab_append, String.append_assoc]
    rfl
  rw [assignLines, assignOpening, hmanager]
  simp [Component.stubClass, managerAccessLines, String.append_assoc]

/-- The lines at the top of a source, before the include of the component's header. -/
def sourceTop : List String :=
  ["/* THIS FILE IS AUTOGENERATED BY schemagen; DO NOT HAND-MODIFY */",
    "",
    "#include <algorithm>",
    "#include <string.h>",
    "#include <memory>",
    "",
    "#include \"../memory.h\""]

/-- The lines between the include of the component's header and the functions. -/
def managerDeclaration : List String :=
  ["#include \"component_system_manager.h\"",
    "",
    "extern component_system_manager component_system_man;",
    ""]

/-- The line that includes the header of a component. -/
def headerInclude (component : Component) : String :=
  "#include \"" ++ component.headerFile ++ "\""

theorem componentSource_eq (component : Component) :
    componentSource component =
      code (sourceTop ++ [headerInclude component] ++ managerDeclaration ++ createLines component ++
        destroyLines component ++ entityLines component ++ assignLines component ++
        configLines component ++ dependencyLines component) :=
  rfl

theorem hasBlock_allocation {component : Component}
    (hbody : ∀ field ∈ component.body, '\n' ∉ field.type.toList ∧ '\n' ∉ field.name.toList)
    (hblock : ∀ line ∈ allocationLines component, Inner line) :
    HasBlock (componentSource component) (createOpening component.name) "    new_pool."
      (allocationLines component) := by
  have hsize : ∀ line ∈ sizeLines component,
      Inner line ∧ begins "    new_pool." line = false := by
    simp only [sizeLines, List.forall_mem_append, List.forall_mem_map, String.append_assoc]
    refine ⟨⟨by decide +kernel, fun field hfield => ?_⟩, by decide +kernel⟩
    exact quiet_tab (by decide) (by decide) (by simp [hbody field hfield])
  have hcopy : ∀ line ∈ copyLines component,
      Inner line ∧ begins "    new_pool." line = false := by
    simp only [copyLines, List.forall_mem_append, List.forall_mem_map, String.append_assoc]
    refine ⟨⟨by decide +kernel, fun field hfield => ?_⟩, by decide +kernel⟩
    exact quiet_tab (by decide) (by decide) (by simp [hbody field hfield])
  refine ⟨sourceTop ++ [headerInclude component] ++ managerDeclaration,
    sizeLines component, copyLines component,
    [""] ++ destroyLines component ++ entityLines component ++ assignLines component ++
      configLines component ++ dependencyLines component, ?_, ?_, ?_⟩
  · rw [componentSource_eq, createLines_eq]
    refine congrArg code ?_
    simp only [List.append_assoc]
  · simp only [List.forall_mem_append]
    exact ⟨⟨fun line hline => (hsize line hline).1, hblock⟩, fun line hline => (hcopy line hline).1⟩
  · rw [List.forall_mem_append]
    exact ⟨fun line hline => (hsize line hline).2, fun line hline => (hcopy line hline).2⟩

theorem hasBlock_assignment {component : Component}
    (hblock : ∀ line ∈ assignmentLines component, Inner line) :
    HasBlock (componentSource component) (assignOpening component.name) "    *data."
      (assignmentLines component) := by
  refine ⟨sourceTop ++ [headerInclude component] ++ managerDeclaration ++
      createLines component ++ destroyLines component ++ entityLines component,
    managerAccessLines, [], [""] ++ configLines component ++ dependencyLines component,
    ?_, ?_, by decide⟩
  · rw [componentSource_eq, assignLines_eq]
    refine congrArg code ?_
    simp only [List.append_assoc]
  · simp only [List.forall_mem_append]
    exact ⟨⟨by decide, hblock⟩, by simp⟩

/-! ### What the lines of a file declare -/

theorem initialValue_linked {component : Component} {owner : String} {stubs : List StubRecord}
    (hstubs : component.stubs = stubs.map (StubRecord.field owner)) {field : BodyField}
    (hlinked : field.linkedStub = firstStub? component.stubs field.name) :
    initialValue component field =
      assignedValue stubs ⟨field.type, field.name, field.defaultValue⟩ := by
  have hstub : component.stubOf? field =
      (stubs.find? fun stub => stub.name == field.name).map (StubRecord.field owner) := by
    have hfind : component.stubOf? field =
        component.stubs.find? fun stub => stub.name == field.name := by
      rw [Component.stubOf?, hlinked, firstStub?, List.find?_eq_bind_findIdx?_getElem?]
    rw [hfind, hstubs, List.find?_map]
    rfl
  rw [initialValue, hstub, assignedValue]
  cases stubs.find? fun stub => stub.name == field.name <;> rfl

section
variable {options : ReadOptions} {wireType name content : String} {next : Nat}
  {component : Component}

theorem fields_of_linked
    (h : Component.LinkedFrom options wireType next name content component) :
    component.stubs =
        (Line.stubRecords options.delimiter content).map (StubRecord.field name) ∧
      component.body = (linkFields component.stubs wireType next
        (BodyRecord.chain name "entity" (Line.bodyRecords options.delimiter content))).1 := by
  obtain ⟨unlinked, hread, rfl⟩ := h
  rw [Component.result_read] at hread
  rw [Component.eq_declareAll_of_readLines hread, Component.declareAll_eq]
  exact ⟨rfl, rfl⟩

theorem allocationLines_of_linked
    (h : Component.LinkedFrom options wireType next name content component) :
    allocationLines component = placementLines (Line.bodyRecords options.delimiter content) := by
  rw [allocationLines, (fields_of_linked h).2, map_linkFields (fun _ _ => rfl)]
  exact congrArg (_ :: ·) (BodyRecord.map_chain (fun _ _ => (placementLine_eq_tab _ _).symm) _ _)

theorem assignmentLines_of_linked
    (h : Component.LinkedFrom options wireType next name content component) :
    assignmentLines component = settingBlock (Line.stubRecords options.delimiter content)
      (Line.bodyRecords options.delimiter content) := by
  obtain ⟨hstubs, hbody⟩ := fields_of_linked h
  rw [assignmentLines, settingBlock, List.flatMap_def, List.flatMap_def, hbody]
  refine congrArg List.flatten ?_
  rw [map_linkFields (fun _ _ => rfl)]
  refine BodyRecord.map_chain_eq_map (fun previous record => ?_) _ _
  rw [initialValue_linked hstubs rfl, settingLine_eq_tab]

theorem forall_body_of_linked {P : String → String → Prop}
    (h : Component.LinkedFrom options wireType next name content component)
    (hrecords : ∀ record ∈ Line.bodyRecords options.delimiter content,
      P record.type record.name) : ∀ field ∈ component.body, P field.type field.name := by
  have hmap : component.body.map (fun field => (field.type, field.name)) =
      (Line.bodyRecords options.delimiter content).map
        fun record => (record.type, record.name) := by
    rw [(fields_of_linked h).2, map_linkFields (fun _ _ => rfl)]
    exact BodyRecord.map_chain_eq_map (fun _ _ => rfl) _ _
  intro field hfield
  have hmem := List.mem_map_of_mem (f := fun field => (field.type, field.name)) hfield
  rw [hmap] at hmem
  obtain ⟨record, hrecord, heq⟩ := List.mem_map.mp hmem
  rw [Prod.mk.injEq] at heq
  rw [← heq.1, ← heq.2]
  exact hrecords record hrecord

end

theorem complete_of_read {options : ReadOptions} {name content : String} {component : Component}
    (h : (Component.read options name content).result = .ok component) :
    ∀ raw ∈ Text.lines content, ∀ kind, Line.kindOf? options.delimiter raw = some kind →
      ∃ record, Line.recordOf? options.delimiter raw = some record ∧ record.kind = kind := by
  rw [Component.result_read] at h
  intro raw hraw kind hkind
  obtain ⟨record, hrecord⟩ := Component.exists_recordOf?_of_readLines h hraw hkind
  refine ⟨record, hrecord, ?_⟩
  rw [Line.recordOf?_eq_bind, hkind, Option.bind_some] at hrecord
  exact (ComponentRecord.of_record? hrecord).1.symm

/-! ### One line for each record -/

section
variable {delimiter : Char} {content : String}

theorem newline_not_mem_record {record : ComponentRecord}
    (h : record ∈ Line.records delimiter (Text.lines content)) :
    ∀ text ∈ record.texts, '\n' ∉ text.toList := by
  obtain ⟨raw, hraw, hrecord⟩ := List.mem_filterMap.mp h
  exact newline_not_mem_texts (Text.newline_not_mem_of_mem_lines hraw) hrecord

theorem newline_not_mem_bodyRecord {record : BodyRecord}
    (h : record ∈ Line.bodyRecords delimiter content) :
    '\n' ∉ record.type.toList ∧ '\n' ∉ record.name.toList ∧
      '\n' ∉ record.defaultValue.toList := by
  obtain ⟨declared, hdeclared, hbody⟩ := List.mem_filterMap.mp h
  have htexts := newline_not_mem_record hdeclared
  cases declared <;> cases hbody
  simpa [ComponentRecord.texts] using htexts

theorem newline_not_mem_stubRecord {record : StubRecord}
    (h : record ∈ Line.stubRecords delimiter content) :
    '\n' ∉ record.lead.toList ∧ '\n' ∉ record.name.toList ∧ '\n' ∉ record.extra.toList := by
  obtain ⟨declared, hdeclared, hstub⟩ := List.mem_filterMap.mp h
  have htexts := newline_not_mem_record hdeclared
  cases declared <;> cases hstub
  simp only [ComponentRecord.texts, List.forall_mem_cons] at htexts
  obtain ⟨-, -, hlead, hname, hextra, -⟩ := htexts
  exact ⟨hlead, hname, hextra⟩

theorem inner_placementLines :
    ∀ line ∈ placementLines (Line.bodyRecords delimiter content), Inner line := by
  rw [placementLines, List.forall_mem_cons, ← List.map_uncurry_zip_eq_zipWith,
    List.forall_mem_map]
  refine ⟨by decide, ?_⟩
  rintro ⟨previous, record⟩ hmem
  obtain ⟨hprevious, hrecord⟩ := List.of_mem_zip hmem
  obtain ⟨htype, hname, -⟩ := newline_not_mem_bodyRecord hrecord
  have hbehind : '\n' ∉ previous.toList := by
    rcases List.mem_cons.mp hprevious with rfl | hprevious
    · decide
    · obtain ⟨other, hother, rfl⟩ := List.mem_map.mp hprevious
      exact (newline_not_mem_bodyRecord hother).2.1
  rw [Function.uncurry_apply_pair, placementLine_eq_tab]
  exact inner_tab (by simp [htype, hname, hbehind])

theorem newline_not_mem_assignedValue {record : BodyRecord}
    (h : record ∈ Line.bodyRecords delimiter content) :
    '\n' ∉ (assignedValue (Line.stubRecords delimiter content) record).toList := by
  rw [assignedValue]
  split
  · next stub hstub =>
    have hparts := newline_not_mem_stubRecord (List.mem_of_find?_eq_some hstub)
    simpa using hparts
  · exact (newline_not_mem_bodyRecord h).2.2

theorem inner_settingBlock : ∀ line ∈ settingBlock (Line.stubRecords delimiter content)
    (Line.bodyRecords delimiter content), Inner line := by
  intro line hline
  obtain ⟨record, hrecord, hline⟩ := List.mem_flatMap.mp hline
  have hname := (newline_not_mem_bodyRecord hrecord).2.1
  have hvalue := newline_not_mem_assignedValue hrecord
  rcases List.mem_cons.mp hline with rfl | hline
  · decide
  · rw [List.mem_singleton.mp hline, settingLine_eq_tab]
    exact inner_tab (by simp [hname, hvalue])

end

/-! ### The sources of a schema -/

/-- The source has what the lines of the component's file ask for. -/
structure FollowsFile (delimiter : Char) (source : Source) (content : String) : Prop where
  /-- Every line with a known tag is a record of its kind. -/
  complete : ∀ raw ∈ Text.lines source.content, ∀ kind, Line.kindOf? delimiter raw = some kind →
    ∃ record, Line.recordOf? delimiter raw = some record ∧ record.kind = kind
  placed : HasBlock content (createOpening source.name) "    new_pool."
    (placementLines (Line.bodyRecords delimiter source.content))
  set : HasBlock content (assignOpening source.name) "    *data."
    (settingBlock (Line.stubRecords delimiter source.content)
      (Line.bodyRecords delimiter source.content))

theorem followsFile_of_linked {options : ReadOptions} {wireType : String} {next : Nat}
    {source : Source} {component : Component}
    (h : Component.LinkedFrom options wireType next source.name source.content component) :
    FollowsFile options.delimiter source (componentSource component) := by
  have hname := h.name_eq
  have hbody := forall_body_of_linked
    (P := fun type name => '\n' ∉ type.toList ∧ '\n' ∉ name.toList) h fun record hrecord =>
      ⟨(newline_not_mem_bodyRecord hrecord).1, (newline_not_mem_bodyRecord hrecord).2.1⟩
  have hplaced := allocationLines_of_linked h
  have hset := assignmentLines_of_linked h
  refine ⟨?_, ?_, ?_⟩
  · obtain ⟨unlinked, hread, -⟩ := h
    exact complete_of_read hread
  · rw [← hplaced, ← hname]
    exact hasBlock_allocation hbody (hplaced ▸ inner_placementLines)
  · rw [← hset, ← hname]
    exact hasBlock_assignment (hset ▸ inner_settingBlock)

end Output

namespace Schema

open EntityCodegen.Project (filesNamed)
open EntityCodegen.Output (FollowsFile)

variable {options : BuildOptions} {sources enums : List Source} {schema : Schema}

/-- **The source of a component follows the component's file**, line by line, in every schema that
can be read. -/
theorem sources_follow (h : (read options sources enums).result = .ok schema) :
    ∀ component ∈ schema.components, ∃ source ∈ sources, source.name = component.name ∧
      (∀ other ∈ sources, other.name = component.name → other = source) ∧
      ∃ content, filesNamed schema (component.name ++ "_component.cc") =
          [⟨.component, component.name ++ "_component.cc", content⟩] ∧
        FollowsFile options.reading.delimiter source content := by
  intro component hcomponent
  obtain ⟨hsorted, hread⟩ := components_of_read h
  obtain ⟨-, -, -, hplaces⟩ := readComponentsFrom_eq_ok hread
  obtain ⟨before, after, hsplit⟩ := List.append_of_mem hcomponent
  obtain ⟨source, hsource, hlinked⟩ := hplaces before component after hsplit
  have hname : component.name = source.name := hlinked.name_eq
  have hmem : source ∈ sources := (Source.sorted_perm sources).mem_iff.mp hsource
  have hdistinct : (sources.map Source.name).Nodup :=
    ((Source.sorted_perm sources).map Source.name).nodup_iff.mp
      (Source.nodup_names_of_pairwise_lt hsorted)
  have hfile : ⟨.component, component.sourceFile, Output.componentSource component⟩ ∈
      Project.filesOf schema .all :=
    Project.filesOfComponent_subset hcomponent (List.mem_cons_of_mem _ List.mem_cons_self)
  refine ⟨source, hmem, hname.symm, fun other hother hsame => ?_, _, ?_,
    Output.followsFile_of_linked hlinked⟩
  · exact List.inj_on_of_nodup_map hdistinct hother hmem (hsame.trans hname)
  · exact Project.filter_name_eq (Project.pairwise_filesOf (names_of_read h).1) hfile

/-! ### Lines between lines -/

/-- A file with a repeated name, two stubs of one name, and a line that is none. -/
def mixedText : String :=
  "body,float,pos,1\nstub,a,b,*,mesh,.x\nnote\nbody,int,mesh,7\nstub,a,b,&,mesh,.y\nbody,bool,pos,2"

def mixedOptions : BuildOptions :=
  ⟨⟨',', .ignore, .allow⟩, "w"⟩

/-- Both repeated fields are there, and the first stub counts. -/
theorem sources_follow_mixed : ∃ schema content,
    (read mixedOptions [⟨"door", mixedText⟩] []).result = .ok schema ∧
    filesNamed schema ("door" ++ "_component.cc") =
      [⟨.component, "door" ++ "_component.cc", content⟩] ∧
    Output.HasBlock content
      ["void", "door_component_manager::create_component_instance_data(unsigned count) \x7b"]
      "    new_pool."
      ["    new_pool.entity = align_ptr((c_entity *)new_buffer.buffer);",
        "    new_pool.pos = align_ptr((float *)(new_pool.entity + count));",
        "    new_pool.mesh = align_ptr((int *)(new_pool.pos + count));",
        "    new_pool.pos = align_ptr((bool *)(new_pool.mesh + count));"] ∧
    Output.HasBlock content
      ["void", "door_component_stub::assign_component_to_entity(c_entity entity) \x7b",
        "    auto &man = component_system_man.managers.door_component_man;"]
      "    *data."
      ["", "    *data.pos = 1;", "", "    *data.mesh = *mesh.x;", "", "    *data.pos = 2;"] := by
  have hread : (read mixedOptions [⟨"door", mixedText⟩] []).result =
      .ok ⟨[⟨"door", "Invalid Name",
        [⟨"float", "pos", "1", "entity", "door", none, none⟩,
          ⟨"int", "mesh", "7", "pos", "door", some 0, none⟩,
          ⟨"bool", "pos", "2", "mesh", "door", none, none⟩],
        [⟨"a", "b", "*", "mesh", ".x", "door"⟩, ⟨"a", "b", "&", "mesh", ".y", "door"⟩], []⟩],
        [], 0⟩ := by
    simp only [result_read, readUnlinked, Source.readEach, Source.distinctSorted,
      Source.sorted_singleton, Source.sorted_nil, Source.repeatedName?]
    decide +kernel
  obtain ⟨source, hsource, -, -, content, hfile, hfollows⟩ :=
    sources_follow hread _ List.mem_cons_self
  obtain rfl := List.mem_singleton.mp hsource
  have hbodies : Line.bodyRecords ',' mixedText =
      [⟨"float", "pos", "1"⟩, ⟨"int", "mesh", "7"⟩, ⟨"bool", "pos", "2"⟩] := by
    decide +kernel
  have hstubs : Line.stubRecords ',' mixedText =
      [⟨"a", "b", "*", "mesh", ".x"⟩, ⟨"a", "b", "&", "mesh", ".y"⟩] := by
    decide +kernel
  have hplaced := hfollows.placed
  have hset := hfollows.set
  simp only [mixedOptions, hbodies, hstubs] at hplaced hset
  exact ⟨_, content, hread, hfile, hplaced, hset⟩

end Schema

end EntityCodegen
