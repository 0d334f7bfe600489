import EntityCodegen.Output.Filters
import EntityCodegen.Proofs.Schema.WireIds
import Mathlib.Data.List.Nodup

/-!
# The two halves of the filter source

`filters_agree`: the function that lists wire filters and the function that sets them are written
for the same filters. Both have every body field with an id once, under that id, the second in the
stable order of the ids; and for the components of a schema the two orders are the same and the ids
are the numbers from zero on, so setting a filter reaches the field that was listed under its id.

The source is taken apart into blocks, each with its lines written out (`filters_eq_join`): one for each filter that is listed or
set, the others frame them. What is listed and what can be set are read off the blocks, so the skip
of components without filters is accounted for (`shown_eq`). The orders agree where the ids are
sorted already, which the numbering of a run provides (`Schema.wireIds_of_read`).
-/

namespace EntityCodegen.Output

/-! ### Blocks -/

/-- A stretch of the filter source. -/
inductive Block
  /-- Everything before the first component. -/
  | opening
  | enter (component : Component)
  | lists (filter : Filter)
  | leave
  /-- From the end of the list to the first case. -/
  | between
  | sets (filter : Filter)
  | closing

namespace Block

def lines : Block → List String
  | opening =>
    ["/* THIS FILE IS AUTOGENERATED BY schemagen; DO NOT HAND-MODIFY */",
      "",
      "#include <vector>",
      "#include \"../component/component_system_manager.h\"",
      "",
      "extern component_system_manager component_system_man;",
      "",
      "static void add_filter(std::vector<filter_ui_state> &filters, int field_id, " ++
        "wire_filter_ptr const & w, char const *name) \x7b",
      "    filters.emplace_back();",
      "    auto & f = filters.back();",
      "    f.component_name = name;",
      "    f.field_id = field_id;",
      "    f.type = w.type;",
      "",
      "    if (w.wrapped) \x7b",
      "        strcpy(f.filter.data(), w.wrapped->c_str());",
      "    \x7d",
      "    else \x7b",
      "        f.filter[0] = '\\0';",
      "    \x7d",
      "\x7d",
      "",
      "std::vector<filter_ui_state> get_filters(c_entity entity) \x7b",
      "    std::vector<filter_ui_state> filters;",
      ""]
  | enter component =>
    ["    auto &" ++ component.name ++ "_man = component_system_man.managers." ++
        component.name ++ "_component_man;",
      "    if (" ++ component.name ++ "_man.exists(entity)) \x7b"]
  | lists filter =>
    ["        \x7b",
      "            auto " ++ filter.component.name ++ " = " ++ filter.component.name ++
        "_man.get_instance_data(entity);",
      "            add_filter(filters, " ++ toString filter.id ++ ", *(" ++
        filter.component.name ++ "." ++ filter.field.name ++ "),",
      "                \"" ++ Text.escape filter.component.displayName ++ "/" ++
        filter.field.name ++ "\");",
      "        \x7d"]
  | leave => ["    \x7d"]
  | between =>
    ["    return filters;",
      "\x7d",
      "",
      "void update_filter(c_entity entity, filter_ui_state const& filter) \x7b",
      "    switch (filter.field_id) \x7b"]
  | sets filter =>
    ["    case " ++ toString filter.id ++ ": \x7b",
      "        auto &" ++ filter.component.name ++ "_man = component_system_man.managers." ++
        filter.component.name ++ "_component_man;",
      "        if (" ++ filter.component.name ++ "_man.exists(entity)) \x7b",
      "            auto " ++ filter.component.name ++ " = " ++ filter.component.name ++
        "_man.get_instance_data(entity);",
      "            " ++ filter.component.name ++ "." ++ filter.field.name ++ "->set(filter);",
      "        \x7d",
      "    \x7d break;",
      ""]
  | closing => ["    \x7d", "\x7d"]

/-- The filter that the block adds to the list. -/
def listed? : Block → Option Filter
  | lists filter => some filter
  | _ => none

/-- The filter that the block is the case of. -/
def settable? : Block → Option Filter
  | sets filter => some filter
  | _ => none

end Block

/-- The blocks of a component; none if it has no wire filter. -/
def componentBlocks (component : Component) : List Block :=
  if component.wireFields.isEmpty then []
  else .enter component :: (Filter.ofComponent component).map .lists ++ [.leave]

def blocks (components : List Component) : List Block :=
  .opening :: components.flatMap componentBlocks ++
    .between :: (dispatchedFilters components).map .sets ++ [.closing]

/-- The filters that the first function lists, in the order of the source. -/
def shown (components : List Component) : List Filter :=
  (blocks components).filterMap Block.listed?

/-- The filters that the second function sets, in the order of its cases. -/
def settable (components : List Component) : List Filter :=
  (blocks components).filterMap Block.settable?

theorem lines_lists (filter : Filter) : (Block.lists filter).lines = listLines filter := by
  simp only [Block.lines, listLines, bindInstance, filterLabel, tab_append, String.append_assoc]
  rfl

theorem lines_sets (filter : Filter) : (Block.sets filter).lines = caseLines filter := by
  simp only [Block.lines, caseLines, bindManager, ifPresent, bindInstance,
    Component.managerInstance, tab_append, String.append_assoc]
  rfl

theorem lines_enter (component : Component) : (Block.enter component).lines =
    [tab 1 (bindManager component), tab 1 (ifPresent component)] := by
  simp only [Block.lines, bindManager, ifPresent, Component.managerInstance, tab_append,
    String.append_assoc]
  rfl

theorem lines_componentBlocks (component : Component) :
    (componentBlocks component).flatMap Block.lines = listComponentLines component := by
  rw [componentBlocks, listComponentLines]
  split
  · rfl
  · rw [List.cons_append, List.flatMap_cons, List.flatMap_append, List.flatMap_map, lines_enter,
      funext lines_lists, List.append_assoc]
    rfl

theorem filters_eq_join (components : List Component) : filters components =
    String.join (((blocks components).flatMap Block.lines).map fun line => line ++ "\n") := by
  have hcomponents : (components.flatMap componentBlocks).flatMap Block.lines =
      components.flatMap listComponentLines := by
    rw [List.flatMap_assoc]
    exact congrArg (components.flatMap ·) (funext lines_componentBlocks)
  have hcases : ((dispatchedFilters components).map Block.sets).flatMap Block.lines =
      (dispatchedFilters components).flatMap caseLines := by
    rw [List.flatMap_map]
    exact congrArg ((dispatchedFilters components).flatMap ·) (funext lines_sets)
  refine congrArg code ?_
  rw [blocks]
  simp only [List.flatMap_append, List.flatMap_cons, hcomponents, hcases, List.flatMap_nil,
    List.append_nil, ← List.append_assoc]
  rfl

/-! ### What is listed and what can be set -/

theorem listed_componentBlocks (component : Component) :
    (componentBlocks component).filterMap Block.listed? = Filter.ofComponent component := by
  rw [componentBlocks, Filter.ofComponent]
  split
  · next hempty => rw [List.isEmpty_iff.mp hempty, List.map_nil, List.filterMap_nil]
  · simp [List.filterMap_cons, List.filterMap_map, Function.comp_def, Block.listed?]

theorem settable_componentBlocks (component : Component) :
    (componentBlocks component).filterMap Block.settable? = [] := by
  rw [componentBlocks]
  split
  · rfl
  · simp [List.filterMap_cons, List.filterMap_map, Function.comp_def, Block.settable?]

theorem shown_eq (components : List Component) : shown components = listedFilters components := by
  simp [shown, blocks, listedFilters, List.filterMap_cons, List.filterMap_flatMap,
    List.filterMap_map, listed_componentBlocks, Function.comp_def, Block.listed?]

theorem settable_eq (components : List Component) :
    settable components = dispatchedFilters components := by
  simp [settable, blocks, List.filterMap_cons, List.filterMap_flatMap, List.filterMap_map,
    settable_componentBlocks, Function.comp_def, Block.settable?]

variable {components : List Component}

theorem ids_listedFilters (components : List Component) :
    (listedFilters components).map Filter.id =
      (Schema.fieldsOf components).filterMap BodyField.wireId := by
  have hcomponent (component : Component) :
      (Filter.ofComponent component).map Filter.id =
        component.body.filterMap BodyField.wireId := by
    simp [Filter.ofComponent, Component.wireFields, List.map_filterMap, Function.comp_def]
  simp [listedFilters, Schema.fieldsOf, List.map_flatMap, List.filterMap_flatMap, hcomponent]

theorem fields_ofComponent (component : Component) :
    (Filter.ofComponent component).map (fun filter => (filter.component, filter.field)) =
      (component.body.filter fun field => field.wireId.isSome).map fun field =>
        (component, field) := by
  rw [Filter.ofComponent, Component.wireFields, List.map_map, List.map_filterMap,
    ← List.filterMap_eq_filter, List.map_filterMap]
  congr 1
  funext field
  cases hid : field.wireId <;> simp [Option.guard, hid]

theorem wireId_of_mem_ofComponent {component : Component} {filter : Filter}
    (h : filter ∈ Filter.ofComponent component) : filter.field.wireId = some filter.id := by
  simp only [Filter.ofComponent, Component.wireFields, List.mem_map, List.mem_filterMap,
    Option.map_eq_some_iff] at h
  obtain ⟨_, ⟨field, -, id, hid, rfl⟩, rfl⟩ := h
  exact hid

/-! ### The order of the cases -/

theorem le_trans_id (a b c : Filter) (hab : decide (a.id ≤ b.id)) (hbc : decide (b.id ≤ c.id)) :
    decide (a.id ≤ c.id) := by
  simp only [decide_eq_true_eq] at hab hbc ⊢
  exact Nat.le_trans hab hbc

theorem le_total_id (a b : Filter) : (decide (a.id ≤ b.id) || decide (b.id ≤ a.id)) := by
  simp only [Bool.or_eq_true, decide_eq_true_eq]
  exact Nat.le_total a.id b.id

theorem pairwise_dispatchedFilters (components : List Component) :
    (dispatchedFilters components).Pairwise fun a b => a.id ≤ b.id := by
  have h := List.pairwise_mergeSort le_trans_id le_total_id (listedFilters components)
  simpa only [decide_eq_true_eq, dispatchedFilters] using h

theorem filter_dispatchedFilters (components : List Component) (id : Nat) :
    (dispatchedFilters components).filter (fun filter => filter.id = id) =
      (listedFilters components).filter fun filter => filter.id = id := by
  have hlevel : ((listedFilters components).filter fun filter => filter.id = id).Pairwise
      fun a b => decide (a.id ≤ b.id) := by
    refine List.pairwise_of_forall_mem_list fun a ha b hb => ?_
    simp only [List.mem_filter, decide_eq_true_eq] at ha hb ⊢
    omega
  have hsublist : ((listedFilters components).filter fun filter => filter.id = id).Sublist
      (dispatchedFilters components) :=
    List.sublist_mergeSort le_trans_id le_total_id hlevel List.filter_sublist
  have hfilter := hsublist.filter fun filter => filter.id = id
  rw [List.filter_filter] at hfilter
  simp only [Bool.and_self] at hfilter
  have hperm := (List.mergeSort_perm (listedFilters components)
    fun a b => decide (a.id ≤ b.id)).filter fun filter => filter.id = id
  exact (hfilter.eq_of_length hperm.length_eq.symm).symm

theorem dispatchedFilters_eq (h : (listedFilters components).Pairwise fun a b => a.id ≤ b.id) :
    dispatchedFilters components = listedFilters components :=
  List.mergeSort_of_pairwise (by simpa only [decide_eq_true_eq] using h)

/-! ### The two halves -/

/-- The two functions of the filter source are written for the same filters. -/
structure HalvesAgree (components : List Component) : Prop where
  /-- Every block is written with the id, the component and the field of its filter. -/
  text : filters components =
    String.join (((blocks components).flatMap Block.lines).map fun line => line ++ "\n")
  /-- What is listed are the fields with an id, by component and in declaration order. -/
  fields : (shown components).map (fun filter => (filter.component, filter.field)) =
    components.flatMap fun component =>
      (component.body.filter fun field => field.wireId.isSome).map fun field => (component, field)
  wireId : ∀ filter ∈ shown components, filter.field.wireId = some filter.id
  perm : (settable components).Perm (shown components)
  sorted : (settable components).Pairwise fun a b => a.id ≤ b.id
  stable : ∀ id, (settable components).filter (fun filter => filter.id = id) =
    (shown components).filter fun filter => filter.id = id

theorem halvesAgree (components : List Component) : HalvesAgree components where
  text := filters_eq_join components
  fields := by
    rw [shown_eq, listedFilters, List.map_flatMap]
    exact congrArg (components.flatMap ·) (funext fields_ofComponent)
  wireId := by
    rw [shown_eq]
    intro filter hfilter
    obtain ⟨component, -, hmem⟩ := List.mem_flatMap.mp hfilter
    exact wireId_of_mem_ofComponent hmem
  perm := by
    rw [shown_eq, settable_eq]
    exact List.mergeSort_perm _ _
  sorted := by
    rw [settable_eq]
    exact pairwise_dispatchedFilters components
  stable := by
    rw [shown_eq, settable_eq]
    exact filter_dispatchedFilters components

/-- The filters of a schema are set in the order in which they are listed, each under a number of
its own. -/
structure Dispatches (schema : Schema) : Prop where
  order : settable schema.components = shown schema.components
  ids : (shown schema.components).map Filter.id = List.range schema.wireIdCount
  /-- The case of an id sets the filter that is listed under the id. -/
  reaches : ∀ filter ∈ shown schema.components, ∀ other ∈ settable schema.components,
    other.id = filter.id → other = filter

theorem dispatches_of_read {options : BuildOptions} {sources enums : List Source} {schema : Schema}
    (h : (Schema.read options sources enums).result = .ok schema) : Dispatches schema := by
  have hids : (listedFilters schema.components).map Filter.id = List.range schema.wireIdCount := by
    rw [ids_listedFilters, Schema.wireIds_of_read h]
  have hsorted : (listedFilters schema.components).Pairwise fun a b => a.id ≤ b.id := by
    rw [← List.pairwise_map, hids]
    exact List.pairwise_le_range
  have hdistinct : ((listedFilters schema.components).map Filter.id).Nodup := by
    rw [hids]
    exact List.nodup_range
  have horder := dispatchedFilters_eq hsorted
  refine ⟨?_, ?_, fun filter hfilter other hother hid => ?_⟩
  · rw [settable_eq, shown_eq, horder]
  · rw [shown_eq, hids]
  · rw [shown_eq] at hfilter
    rw [settable_eq, horder] at hother
    exact List.inj_on_of_nodup_map hdistinct hother hfilter hid

/-- **The filter that is set is the filter that was listed**, whatever ids the components have, and
for the components of a schema the functions go through the same filters in the same order. -/
theorem filters_agree :
    (∀ components, HalvesAgree components) ∧
    ∀ (options : BuildOptions) (sources enums : List Source) (schema : Schema),
      (Schema.read options sources enums).result = .ok schema → Dispatches schema :=
  ⟨halvesAgree, fun _ _ _ _ => dispatches_of_read⟩

/-- Three filters in two files, found out of order. -/
theorem filters_agree_three :
    ∃ schema, (Schema.read ⟨.standard, "w"⟩
        [⟨"b", "body,w,x,0\nbody,i,n,0\nbody,w,y,0"⟩, ⟨"a", "body,w,z,"⟩] []).result = .ok schema ∧
      HalvesAgree schema.components ∧ Dispatches schema ∧
      (settable schema.components).map (fun filter => (filter.id, filter.field.name)) =
        [(0, "z"), (1, "x"), (2, "y")] := by
  have hsorted : Source.sorted [⟨"b", "body,w,x,0\nbody,i,n,0\nbody,w,y,0"⟩, ⟨"a", "body,w,z,"⟩] =
      [⟨"a", "body,w,z,"⟩, ⟨"b", "body,w,x,0\nbody,i,n,0\nbody,w,y,0"⟩] := by
    simp [Source.sorted, List.mergeSort, List.MergeSort.Internal.splitInTwo]
  have hnil : Source.sorted [] = [] := by simp [Source.sorted]
  have hread : (Schema.read ⟨.standard, "w"⟩
      [⟨"b", "body,w,x,0\nbody,i,n,0\nbody,w,y,0"⟩, ⟨"a", "body,w,z,"⟩] []).result =
      .ok ⟨[⟨"a", "Invalid Name", [⟨"w", "z", "", "entity", "a", none, some 0⟩], [], []⟩,
        ⟨"b", "Invalid Name", [⟨"w", "x", "0", "entity", "b", none, some 1⟩,
          ⟨"i", "n", "0", "x", "b", none, none⟩, ⟨"w", "y", "0", "n", "b", none, some 2⟩],
          [], []⟩], [], 3⟩ := by
    simp only [Schema.read, Schema.readComponents, Schema.readEnumerations,
      Source.distinctSorted, hsorted, hnil, Source.repeatedName?, Traced.result_bind]
    rfl
  have hdispatches := filters_agree.2 _ _ _ _ hread
  refine ⟨_, hread, filters_agree.1 _, hdispatches, ?_⟩
  rw [hdispatches.order, shown_eq]
  rfl

end EntityCodegen.Output
