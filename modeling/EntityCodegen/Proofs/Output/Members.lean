import EntityCodegen.Proofs.Output.Sources

/-!
# The members of a component's structs

`members_of_read`: the header of a component declares a pool member for the entities and one for
each body line of the component's file, and a stub member for each stub line, in the order of the
lines. Where field names may not be repeated the names of the body lines are distinct, so the pool
members are too, unless a body line takes the name of the entities. The names of stub lines may be
repeated, since the first stub of a name is the one that counts; so the stub members are distinct
iff the stub lines name distinct fields.

That body names are distinct is an invariant of reading: no line adds a name that is there
(`nodup_fieldNames_of_addLine`).
-/

namespace EntityCodegen

namespace Component

/-! ### Distinct field names -/

section
variable {options : ReadOptions} {component next : Component}

theorem nodup_fieldNames_of_addLine {line : Line} (hreject : options.duplicateFields = .reject)
    (hblank : line.isBlank → LineKind.ofTag? line.tag = none)
    (h : (addLine options component line).result = .ok next)
    (hnodup : component.fieldNames.Nodup) : next.fieldNames.Nodup := by
  obtain ⟨-, rfl⟩ | ⟨kind, record, htag, hrecord, rfl⟩ := addLine_eq_ok_cases hblank h
  · exact hnodup
  · rw [fieldNames_declare]
    cases hname : record.fieldName? with
    | none => simpa using hnodup
    | some name =>
      have hfresh : name ∉ component.fieldNames := by
        intro htaken
        -- otherwise the line would have been refused
        have hinked : line.isBlank = false := by
          rw [← Bool.not_eq_true]
          intro hempty
          rw [hblank hempty] at htag
          cases htag
        have hoffends : Offends options component.name component.fieldNames line
            (.duplicateField component.name line.number name) :=
          (offends_iff_of_record htag hrecord).mpr ⟨name, hname, htaken, hreject, rfl⟩
        have hfail := addLine_eq_error_iff.mpr ⟨hinked, hoffends⟩
        rw [h] at hfail
        cases hfail
      rw [Option.toList_some, List.nodup_append]
      refine ⟨hnodup, List.nodup_singleton name, fun other hother single hsingle => ?_⟩
      rw [List.mem_singleton.mp hsingle]
      rintro rfl
      exact hfresh hother

theorem nodup_fieldNames_of_foldlM_addLine {number : Nat} {raws : List String}
    {start : Component} (hreject : options.duplicateFields = .reject)
    (h : (Line.readFrom options.delimiter number raws).foldlM (fun component line =>
      (addLine options component line).result) start = .ok component)
    (hnodup : start.fieldNames.Nodup) : component.fieldNames.Nodup := by
  induction raws generalizing start number with
  | nil =>
    cases h
    exact hnodup
  | cons raw raws ih =>
    rw [Line.readFrom_cons, foldlM_cons_eq_ok_iff] at h
    obtain ⟨middle, hstep, hrest⟩ := h
    exact ih hrest (nodup_fieldNames_of_addLine hreject Line.ofTag?_read_of_isBlank hstep hnodup)

theorem nodup_fieldNames_of_read {name content : String}
    (hreject : options.duplicateFields = .reject)
    (h : (read options name content).result = .ok component) : component.fieldNames.Nodup := by
  rw [result_read] at h
  exact nodup_fieldNames_of_foldlM_addLine hreject h List.nodup_nil

end

end Component

namespace Output

/-! ### The structs of a header -/

/-- The lines are among those of the text, one below the other. -/
def HasLines (content : String) (lines : List String) : Prop :=
  ∃ front back, content = String.join ((front ++ lines ++ back).map fun line => line ++ "\n")

/-- The struct of the pool, with the members by type and name. -/
def poolStruct (name : String) (members : List (String × String)) : List String :=
  ["struct " ++ name ++ "_component_manager : component_manager \x7b",
    "    struct instance_data \x7b"] ++
  members.map (fun member => "        " ++ member.1 ++ " *" ++ member.2 ++ ";") ++
  ["    \x7d instance_pool;"]

/-- The struct of the stub, with the members by type and name. -/
def stubStruct (name : String) (members : List (String × String)) : List String :=
  ["struct " ++ name ++ "_component_stub : component_stub \x7b",
    "    " ++ name ++ "_component_stub() = default;",
    ""] ++
  members.flatMap (fun member => ["    " ++ member.1 ++ " " ++ member.2 ++ "\x7b\x7d;", ""]) ++
  ["    void",
    "    assign_component_to_entity(c_entity entity) override;",
    "",
    "    std::vector<std::string> get_dependencies() override;",
    "",
    "    static std::unique_ptr<component_stub> from_config(config_setting_t const *config);",
    "\x7d;"]

theorem exists_managerLines_eq (component : Component) : ∃ rest,
    managerLines component = poolStruct component.name (poolMembers component) ++ rest := by
  refine ⟨["",
    tab 1 "void create_component_instance_data(unsigned count) override;",
    "",
    tab 1 "void destroy_instance(instance i) override;",
    "",
    tab 1 "void entity(c_entity const &e) override;"] ++
    component.body.flatMap accessorLines ++ ["\x7d;"], ?_⟩
  unfold managerLines poolStruct
  simp only [Component.manager, tab_append, String.append_assoc, List.append_assoc]
  rfl

theorem stubLines_eq (component : Component) :
    stubLines component = stubStruct component.name (stubMembers component) := by
  unfold stubLines stubStruct
  simp only [Component.stubClass, tab_append, String.append_assoc]
  rfl

theorem HasLines.part {content : String} {lines : List String} (before after : List String)
    (h : HasLines content (before ++ lines ++ after)) : HasLines content lines := by
  obtain ⟨front, back, rfl⟩ := h
  refine ⟨front ++ before, after ++ back, ?_⟩
  simp only [List.append_assoc]

theorem hasLines_poolStruct (component : Component) :
    HasLines (componentHeader component) (poolStruct component.name (poolMembers component)) := by
  obtain ⟨rest, hrest⟩ := exists_managerLines_eq component
  have hmanager : HasLines (componentHeader component) (managerLines component) := by
    unfold HasLines componentHeader
    rw [List.append_assoc _ [""]]
    exact ⟨_, _, rfl⟩
  rw [hrest] at hmanager
  exact HasLines.part [] rest hmanager

theorem hasLines_stubStruct (component : Component) :
    HasLines (componentHeader component) (stubStruct component.name (stubMembers component)) := by
  rw [← stubLines_eq]
  exact ⟨_, [], congrArg code (List.append_nil _).symm⟩

/-! ### The members that a file asks for -/

/-- The members of the pool: the entities and what the body lines declare. -/
def poolMembersOf (records : List BodyRecord) : List (String × String) :=
  ("c_entity", "entity") :: records.map fun record => (record.type, record.name)

def stubMembersOf (records : List StubRecord) : List (String × String) :=
  records.map fun record => (record.outerType, record.name)

theorem stubMembers_of_stubs {component : Component} {owner : String} {stubs : List StubRecord}
    (h : component.stubs = stubs.map (StubRecord.field owner)) :
    stubMembers component = stubMembersOf stubs := by
  rw [stubMembers, h, List.map_map]
  rfl

/-- What a component is when its header is made: as it was read, or linked. -/
def Shown (unlinked component : Component) : Prop :=
  component = unlinked ∨ ∃ wireType next, component = (unlinked.link wireType next).1

theorem members_of_shown {options : ReadOptions} {name content : String}
    {unlinked component : Component}
    (h : (Component.read options name content).result = .ok unlinked)
    (hshown : Shown unlinked component) :
    component.name = name ∧
      poolMembers component = poolMembersOf (Line.bodyRecords options.delimiter content) ∧
      stubMembers component = stubMembersOf (Line.stubRecords options.delimiter content) := by
  have hname := Component.name_of_read h
  rw [Component.result_read] at h
  have hdeclared := Component.eq_declareAll_of_readLines h
  rw [Component.declareAll_eq] at hdeclared
  have hbody : unlinked.body = BodyRecord.chain name "entity"
      (Line.bodyRecords options.delimiter content) := by
    rw [hdeclared]
    rfl
  have hstubs : unlinked.stubs =
      (Line.stubRecords options.delimiter content).map (StubRecord.field name) := by
    rw [hdeclared]
    rfl
  have hchain : (BodyRecord.chain name "entity" (Line.bodyRecords options.delimiter content)).map
        (fun field => (field.type, field.name)) =
      (Line.bodyRecords options.delimiter content).map fun record => (record.type, record.name) :=
    BodyRecord.map_chain_eq_map (fun _ _ => rfl) _ _
  obtain rfl | ⟨wireType, next, rfl⟩ := hshown
  · refine ⟨hname, ?_, stubMembers_of_stubs hstubs⟩
    rw [poolMembers, hbody, hchain]
    rfl
  · refine ⟨hname, ?_, stubMembers_of_stubs hstubs⟩
    have hlinked : (unlinked.link wireType next).1.body.map
          (fun field => (field.type, field.name)) =
        unlinked.body.map fun field => (field.type, field.name) :=
      map_linkFields (fun _ _ => rfl) unlinked.body
    rw [poolMembers, hlinked, hbody, hchain]
    rfl

/-- What a header declares for the lines of a component's file. -/
structure DeclaresFor (delimiter : Char) (name content header : String) : Prop where
  /-- Every line with a known tag is a record of its kind. -/
  complete : ∀ raw ∈ Text.lines content, ∀ kind, Line.kindOf? delimiter raw = some kind →
    ∃ record, Line.recordOf? delimiter raw = some record ∧ record.kind = kind
  pool : HasLines header (poolStruct name (poolMembersOf (Line.bodyRecords delimiter content)))
  stub : HasLines header (stubStruct name (stubMembersOf (Line.stubRecords delimiter content)))
  /-- A member stands on one line. -/
  newline_not_mem : ∀ member ∈ poolMembersOf (Line.bodyRecords delimiter content) ++
    stubMembersOf (Line.stubRecords delimiter content),
    '\n' ∉ member.1.toList ∧ '\n' ∉ member.2.toList

theorem newline_not_mem_stubMember {delimiter : Char} {content : String} {record : StubRecord}
    (h : record ∈ Line.stubRecords delimiter content) :
    '\n' ∉ record.outerType.toList ∧ '\n' ∉ record.name.toList := by
  obtain ⟨declared, hdeclared, hstub⟩ := List.mem_filterMap.mp h
  have htexts := newline_not_mem_record hdeclared
  cases declared <;> cases hstub
  simp only [ComponentRecord.texts, List.forall_mem_cons] at htexts
  obtain ⟨houter, -, -, hname, -⟩ := htexts
  exact ⟨houter, hname⟩

theorem declaresFor_of_shown {options : ReadOptions} {name content : String}
    {unlinked component : Component}
    (h : (Component.read options name content).result = .ok unlinked)
    (hshown : Shown unlinked component) :
    DeclaresFor options.delimiter name content (componentHeader component) := by
  obtain ⟨hname, hpool, hstub⟩ := members_of_shown h hshown
  refine ⟨complete_of_read h, ?_, ?_, ?_⟩
  · rw [← hname, ← hpool]
    exact hasLines_poolStruct component
  · rw [← hname, ← hstub]
    exact hasLines_stubStruct component
  · simp only [poolMembersOf, stubMembersOf, List.forall_mem_append, List.forall_mem_cons,
      List.forall_mem_map]
    refine ⟨⟨by decide, fun record hrecord => ?_⟩, fun record hrecord => ?_⟩
    · exact ⟨(newline_not_mem_bodyRecord hrecord).1, (newline_not_mem_bodyRecord hrecord).2.1⟩
    · exact newline_not_mem_stubMember hrecord

/-- **Where field names may not be repeated, no pool member is declared twice**, if no body line
takes the name of the entities; and a stub member is declared twice iff two stub lines name it. -/
theorem members_of_read {options : ReadOptions} {name content : String} {unlinked : Component}
    (h : (Component.read options name content).result = .ok unlinked)
    (hreject : options.duplicateFields = .reject) :
    (∀ component, Shown unlinked component →
      DeclaresFor options.delimiter name content (componentHeader component)) ∧
    ((Line.bodyRecords options.delimiter content).map BodyRecord.name).Nodup ∧
    ("entity" ∉ (Line.bodyRecords options.delimiter content).map BodyRecord.name →
      ((poolMembersOf (Line.bodyRecords options.delimiter content)).map Prod.snd).Nodup) ∧
    (((stubMembersOf (Line.stubRecords options.delimiter content)).map Prod.snd).Nodup ↔
      (Line.stubRecords options.delimiter content).Pairwise fun stub other =>
        stub.name ≠ other.name) := by
  have hnames : unlinked.fieldNames =
      (Line.bodyRecords options.delimiter content).map BodyRecord.name := by
    have hpool := congrArg (List.map Prod.snd) (members_of_shown h (.inl rfl)).2.1
    simp only [poolMembers, poolMembersOf, List.map_cons, List.map_map] at hpool
    exact (List.cons.inj hpool).2
  have hdistinct := Component.nodup_fieldNames_of_read hreject h
  rw [hnames] at hdistinct
  have hpoolNames : (poolMembersOf (Line.bodyRecords options.delimiter content)).map Prod.snd =
      "entity" :: (Line.bodyRecords options.delimiter content).map BodyRecord.name := by
    simp [poolMembersOf, Function.comp_def]
  refine ⟨fun component => declaresFor_of_shown h, hdistinct, fun hentity => ?_, ?_⟩
  · rw [hpoolNames]
    exact List.nodup_cons.mpr ⟨hentity, hdistinct⟩
  · rw [stubMembersOf, List.map_map, List.Nodup, List.pairwise_map]
    rfl

/-- Two members in the pool beside the entities, and a stub member. -/
theorem members_of_read_mesh : ∃ unlinked,
    (Component.read .standard "door"
      "body,hw_mesh *,mesh,nullptr\nstub,a,b,,mesh,.x\nbody,float,pos,1").result =
        .ok unlinked ∧
    HasLines (componentHeader unlinked)
      ["struct door_component_manager : component_manager \x7b",
        "    struct instance_data \x7b",
        "        c_entity *entity;",
        "        hw_mesh * *mesh;",
        "        float *pos;",
        "    \x7d instance_pool;"] ∧
    ["entity", "mesh", "pos"].Nodup ∧ ["mesh"].Nodup := by
  have hread : (Component.read .standard "door"
      "body,hw_mesh *,mesh,nullptr\nstub,a,b,,mesh,.x\nbody,float,pos,1").result =
      .ok ⟨"door", "Invalid Name",
        [⟨"hw_mesh *", "mesh", "nullptr", "entity", "door", none, none⟩,
          ⟨"float", "pos", "1", "mesh", "door", none, none⟩],
        [⟨"a", "b", "", "mesh", ".x", "door"⟩], []⟩ := by
    decide +kernel
  have hbodies : Line.bodyRecords ','
      "body,hw_mesh *,mesh,nullptr\nstub,a,b,,mesh,.x\nbody,float,pos,1" =
        [⟨"hw_mesh *", "mesh", "nullptr"⟩, ⟨"float", "pos", "1"⟩] := by
    decide +kernel
  have hstubs : Line.stubRecords ','
      "body,hw_mesh *,mesh,nullptr\nstub,a,b,,mesh,.x\nbody,float,pos,1" =
        [⟨"a", "b", "", "mesh", ".x"⟩] := by
    decide +kernel
  obtain ⟨hdeclares, -, hpool, hstub⟩ := members_of_read hread rfl
  have hlines := (hdeclares _ (.inl rfl)).pool
  simp only [ReadOptions.standard, hbodies, hstubs] at hlines hpool hstub
  exact ⟨_, hread, hlines, hpool (by decide), hstub.mpr (by simp)⟩

/-- A file that names a stub member twice and one that names a pool member as the entities are
named: both are accepted where field names may not be repeated, and both headers declare a member
twice. -/
theorem members_declared_twice :
    (∃ component, (Component.read .standard "door"
        "stub,int,int,,mesh,\nstub,int,int,,mesh,").result = .ok component ∧
      ¬ ((stubMembers component).map Prod.snd).Nodup ∧
      HasLines (componentHeader component)
        ["    int mesh\x7b\x7d;", "", "    int mesh\x7b\x7d;"]) ∧
    (∃ component, (Component.read .standard "door" "body,float,entity,1").result = .ok component ∧
      ¬ ((poolMembers component).map Prod.snd).Nodup ∧
      HasLines (componentHeader component)
        ["        c_entity *entity;", "        float *entity;"]) := by
  refine ⟨⟨⟨"door", "Invalid Name", [], [⟨"int", "int", "", "mesh", "", "door"⟩,
      ⟨"int", "int", "", "mesh", "", "door"⟩], []⟩, by decide +kernel, by decide, ?_⟩,
    ⟨⟨"door", "Invalid Name", [⟨"float", "entity", "1", "entity", "door", none, none⟩], [], []⟩,
      by decide +kernel, by decide, ?_⟩⟩
  · exact HasLines.part ((stubStruct "door" []).take 3) ("" :: (stubStruct "door" []).drop 3)
      (hasLines_stubStruct _)
  · exact HasLines.part ((poolStruct "door" []).take 2) ((poolStruct "door" []).drop 2)
      (hasLines_poolStruct _)

end Output

end EntityCodegen
