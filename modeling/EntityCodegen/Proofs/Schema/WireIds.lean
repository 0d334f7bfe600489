import EntityCodegen.Proofs.Component.Linking
import EntityCodegen.Proofs.Schema.Order

/-!
# The wire ids of a run

`read_numbersThrough`: the components of a schema stand in the strictly increasing order of their
names, each is the linked component of its file, and its ids go on where those of the components
with smaller names end. So the ids of a run are the numbers from zero on, each given once.

The run over the files is taken first (`readComponentsFrom_eq_ok`): the first id of a component is
counted from the fields before it. With the names in order these are the fields of the components
with smaller names (`filter_name_lt`).
-/

namespace EntityCodegen

namespace Schema

variable {options : BuildOptions}

/-- All body fields of the components, in order. -/
def fieldsOf (components : List Component) : List BodyField :=
  components.flatMap Component.body

theorem readComponentsFrom_cons_eq_ok {next last : Nat} {source : Source} {rest : List Source}
    {components : List Component}
    (h : (readComponentsFrom options next (source :: rest)).result = .ok (components, last)) :
    ∃ component tail, components = component :: tail ∧
      Component.LinkedFrom options.reading options.wireType next source.name source.content
        component ∧
      (readComponentsFrom options (next + wireCount options.wireType component.body) rest).result =
        .ok (tail, last) := by
  rw [readComponentsFrom, Traced.result_bind, bind_eq_ok_iff] at h
  obtain ⟨unlinked, hread, h⟩ := h
  rw [Traced.result_reportAll_bind, Traced.result_bind, bind_eq_ok_iff] at h
  obtain ⟨⟨tail, _⟩, hrest, h⟩ := h
  cases h
  refine ⟨_, tail, rfl, ⟨unlinked, hread, rfl⟩, ?_⟩
  rw [← Component.snd_link]
  exact hrest

/-- What a run over files gives, from any first id: a component for each file in turn, linked from
the id that the fields before it leave free. -/
theorem readComponentsFrom_eq_ok {next last : Nat} {sources : List Source}
    {components : List Component}
    (h : (readComponentsFrom options next sources).result = .ok (components, last)) :
    last = next + wireCount options.wireType (fieldsOf components) ∧
      components.map Component.name = sources.map Source.name ∧
      (fieldsOf components).filterMap BodyField.wireId = List.range' next (last - next) ∧
      ∀ before component after, components = before ++ component :: after →
        ∃ source ∈ sources, Component.LinkedFrom options.reading options.wireType
          (next + wireCount options.wireType (fieldsOf before)) source.name source.content
          component := by
  -- for every first id, since the ids of the later files start where those of the first one end
  induction sources generalizing next components with
  | nil =>
    cases h
    refine ⟨rfl, rfl, ?_, ?_⟩
    · simp [fieldsOf]
    · intro before component after hsplit
      simp at hsplit
  | cons source rest ih =>
    obtain ⟨component, tail, rfl, hlinked, hrest⟩ := readComponentsFrom_cons_eq_ok h
    obtain ⟨hlast, hnames, hids, hplaces⟩ := ih hrest
    have hfields : fieldsOf (component :: tail) = component.body ++ fieldsOf tail := rfl
    rw [hfields, wireCount_append]
    refine ⟨by omega, ?_, ?_, ?_⟩
    · rw [List.map_cons, List.map_cons, hlinked.name_eq, hnames]
    · have hcount : last - next = wireCount options.wireType component.body +
          (last - (next + wireCount options.wireType component.body)) := by omega
      rw [List.filterMap_append, hlinked.wireIds_eq, hids, hcount, List.range'_append_1]
    · intro before other after hsplit
      cases before with
      | nil =>
        rw [List.nil_append, List.cons.injEq] at hsplit
        rw [← hsplit.1]
        exact ⟨source, by simp, hlinked⟩
      | cons first before =>
        rw [List.cons_append, List.cons.injEq] at hsplit
        obtain ⟨file, hfile, hother⟩ := hplaces before other after hsplit.2
        refine ⟨file, List.mem_cons_of_mem _ hfile, ?_⟩
        have hbefore : fieldsOf (first :: before) = component.body ++ fieldsOf before := by
          rw [hsplit.1]
          rfl
        rw [hbefore, wireCount_append, ← Nat.add_assoc]
        exact hother

theorem filter_name_lt {before after : List Component} {component : Component}
    (h : (before ++ component :: after).Pairwise fun a b => a.name < b.name) :
    ((before ++ component :: after).filter fun other => other.name < component.name) = before := by
  obtain ⟨-, hafter, hbefore⟩ := List.pairwise_append.mp h
  have hsmaller : before.filter (fun other => other.name < component.name) = before := by
    refine List.filter_eq_self.mpr fun other hother => ?_
    exact decide_eq_true (hbefore other hother component (by simp))
  have hlarger : (component :: after).filter (fun other => other.name < component.name) = [] := by
    refine List.filter_eq_nil_iff.mpr fun other hother => ?_
    rw [decide_eq_true_eq]
    rcases List.mem_cons.mp hother with rfl | hother
    · exact String.lt_irrefl _
    · have hlt := List.rel_of_pairwise_cons hafter hother
      exact fun hback => String.lt_irrefl _ (String.lt_trans hlt hback)
  rw [List.filter_append, hsmaller, hlarger, List.append_nil]

theorem sorted_of_distinctSorted {duplicate : String → DefinitionError}
    {sources ordered : List Source} (h : Source.distinctSorted duplicate sources = .ok ordered) :
    ordered = Source.sorted sources ∧ ordered.Pairwise fun a b => a.name < b.name := by
  rw [Source.distinctSorted] at h
  split at h
  · cases h
  · next hdistinct =>
    cases h
    exact ⟨rfl, Source.pairwise_lt_of_repeatedName? (Source.pairwise_sorted sources) hdistinct⟩

theorem readComponents_eq_ok {sources : List Source} {components : List Component} {count : Nat}
    (h : (readComponents options sources).result = .ok (components, count)) :
    (Source.sorted sources).Pairwise (fun a b => a.name < b.name) ∧
      (readComponentsFrom options 0 (Source.sorted sources)).result = .ok (components, count) := by
  rw [readComponents, Traced.result_bind, bind_eq_ok_iff] at h
  obtain ⟨ordered, hordered, h⟩ := h
  obtain ⟨rfl, hsorted⟩ := sorted_of_distinctSorted hordered
  rw [Traced.result_bind, bind_eq_ok_iff] at h
  obtain ⟨⟨_, _⟩, hread, h⟩ := h
  cases h
  exact ⟨hsorted, hread⟩

theorem components_of_read {sources enums : List Source} {schema : Schema}
    (h : (read options sources enums).result = .ok schema) :
    (Source.sorted sources).Pairwise (fun a b => a.name < b.name) ∧
      (readComponentsFrom options 0 (Source.sorted sources)).result =
        .ok (schema.components, schema.wireIdCount) := by
  rw [read, Traced.result_bind, bind_eq_ok_iff] at h
  obtain ⟨⟨components, count⟩, hcomponents, h⟩ := h
  rw [Traced.result_bind, bind_eq_ok_iff] at h
  obtain ⟨enumerations, -, h⟩ := h
  cases h
  exact readComponents_eq_ok hcomponents

theorem wireIds_of_read {sources enums : List Source} {schema : Schema}
    (h : (read options sources enums).result = .ok schema) :
    (fieldsOf schema.components).filterMap BodyField.wireId = List.range schema.wireIdCount := by
  obtain ⟨-, -, hids, -⟩ := readComponentsFrom_eq_ok (components_of_read h).2
  rw [List.range_eq_range']
  exact hids

theorem names_of_read {sources enums : List Source} {schema : Schema}
    (h : (read options sources enums).result = .ok schema) :
    (schema.components.map Component.name).Nodup ∧
      ∀ name ∈ schema.components.map Component.name, name ∈ sources.map Source.name := by
  obtain ⟨hsorted, hread⟩ := components_of_read h
  obtain ⟨-, hnames, -⟩ := readComponentsFrom_eq_ok hread
  rw [hnames]
  exact ⟨Source.nodup_names_of_pairwise_lt hsorted,
    fun name => ((Source.sorted_perm sources).map Source.name).mem_iff.mp⟩

/-- The components of a schema are the linked components of the files, in order and numbered
through. -/
structure NumbersThrough (options : BuildOptions) (sources : List Source) (schema : Schema) :
    Prop where
  increasing : schema.components.Pairwise fun a b => a.name < b.name
  names : (schema.components.map Component.name).Perm (sources.map Source.name)
  /-- A component is linked from the number of wire filters in the components with smaller names. -/
  linked : ∀ component ∈ schema.components, ∃ content, ⟨component.name, content⟩ ∈ sources ∧
    ∃ unlinked, (Component.read options.reading component.name content).result = .ok unlinked ∧
      component = (unlinked.link options.wireType (wireCount options.wireType (fieldsOf
        (schema.components.filter fun other => other.name < component.name)))).1
  isSome_wireId : ∀ component ∈ schema.components, ∀ field ∈ component.body,
    field.wireId.isSome ↔ field.type = options.wireType
  /-- The ids, over the components and their fields in order, are the numbers from zero on. -/
  wireIds : (fieldsOf schema.components).filterMap BodyField.wireId = List.range schema.wireIdCount

/-- **A run numbers its wire filters through**, whatever its files hold. -/
theorem read_numbersThrough {sources enums : List Source} {schema : Schema}
    (h : (read options sources enums).result = .ok schema) :
    NumbersThrough options sources schema := by
  rw [read, Traced.result_bind, bind_eq_ok_iff] at h
  obtain ⟨⟨components, count⟩, hcomponents, h⟩ := h
  rw [Traced.result_bind, bind_eq_ok_iff] at h
  obtain ⟨enumerations, -, h⟩ := h
  cases h
  obtain ⟨hsorted, hread⟩ := readComponents_eq_ok hcomponents
  obtain ⟨-, hnames, hids, hplaces⟩ := readComponentsFrom_eq_ok hread
  have hincreasing : components.Pairwise fun a b => a.name < b.name := by
    rw [← List.pairwise_map (f := Component.name) (R := (· < ·)), hnames]
    exact List.pairwise_map.mpr hsorted
  have hlinked (component : Component) (hmem : component ∈ components) :
      ∃ source ∈ sources, Component.LinkedFrom options.reading options.wireType
        (wireCount options.wireType (fieldsOf
          (components.filter fun other => other.name < component.name)))
        source.name source.content component := by
    obtain ⟨before, after, rfl⟩ := List.append_of_mem hmem
    obtain ⟨source, hsource, hplace⟩ := hplaces before component after rfl
    rw [Nat.zero_add] at hplace
    rw [filter_name_lt hincreasing]
    exact ⟨source, (Source.sorted_perm sources).mem_iff.mp hsource, hplace⟩
  refine ⟨hincreasing, ?_, fun component hmem => ?_, fun component hmem => ?_, ?_⟩
  · show (components.map Component.name).Perm _
    rw [hnames]
    exact (Source.sorted_perm sources).map Source.name
  · obtain ⟨⟨name, content⟩, hsource, hplace⟩ := hlinked component hmem
    have hname : component.name = name := hplace.name_eq
    subst hname
    exact ⟨content, hsource, hplace⟩
  · obtain ⟨source, -, hplace⟩ := hlinked component hmem
    exact hplace.isSome_wireId_iff
  · show (fieldsOf components).filterMap BodyField.wireId = List.range count
    rw [hids, Nat.sub_zero, List.range_eq_range']

/-- Two files out of order, each with a wire filter. -/
theorem read_numbersThrough_two :
    ∃ schema, (read ⟨.standard, "w"⟩ [⟨"b", "body,i,x,0\nbody,w,y,0"⟩, ⟨"a", "body,w,z,"⟩]
        []).result = .ok schema ∧ schema.wireIdCount = 2 ∧
      NumbersThrough ⟨.standard, "w"⟩ [⟨"b", "body,i,x,0\nbody,w,y,0"⟩, ⟨"a", "body,w,z,"⟩]
        schema := by
  have hsorted : Source.sorted [⟨"b", "body,i,x,0\nbody,w,y,0"⟩, ⟨"a", "body,w,z,"⟩] =
      [⟨"a", "body,w,z,"⟩, ⟨"b", "body,i,x,0\nbody,w,y,0"⟩] := by
    simp [Source.sorted, List.mergeSort, List.MergeSort.Internal.splitInTwo]
  have hnil : Source.sorted [] = [] := by simp [Source.sorted]
  have hread : (read ⟨.standard, "w"⟩ [⟨"b", "body,i,x,0\nbody,w,y,0"⟩, ⟨"a", "body,w,z,"⟩]
      []).result =
      .ok ⟨[⟨"a", "Invalid Name", [⟨"w", "z", "", "entity", "a", none, some 0⟩], [], []⟩,
        ⟨"b", "Invalid Name", [⟨"i", "x", "0", "entity", "b", none, none⟩,
          ⟨"w", "y", "0", "x", "b", none, some 1⟩], [], []⟩], [], 2⟩ := by
    simp only [read, readComponents, readEnumerations, Source.distinctSorted, hsorted, hnil,
      Source.repeatedName?, Traced.result_bind]
    rfl
  exact ⟨_, hread, rfl, read_numbersThrough hread⟩

end Schema

end EntityCodegen
