import EntityCodegen.Proofs.Component.Linking
import EntityCodegen.Proofs.Schema.Refusal
import EntityCodegen.Proofs.Schema.WireIds

/-!
# One more component file

`read_extended`: with one more component file the schema has one more component, in the place of its
name, and of what was there before only the ids of the components with greater names change: each
is larger by the number of wire filters in the new component.

In the sorted files the new one has a place of its own (`exists_sorted_split`), so both runs read
the same files before and after it. The components are linked last (`result_read`), those before
the new one from the same id, and those after it from an id that is larger by the ids of the new
one, which shifts their ids and changes nothing else (`linkAll_add`).
-/

namespace EntityCodegen

/-! ### The place of the new file -/

namespace Source

theorem exists_sorted_split {before after : List Source} {extra : Source}
    (hdistinct : ∀ name, ¬ Repeated (before ++ extra :: after) name) :
    ∃ smaller greater, sorted (before ++ extra :: after) = smaller ++ extra :: greater ∧
      sorted (before ++ after) = smaller ++ greater ∧
      (∀ source ∈ smaller, source.name < extra.name) ∧
      ∀ source ∈ greater, extra.name < source.name := by
  have hperm := sorted_perm (before ++ extra :: after)
  have hmem : extra ∈ sorted (before ++ extra :: after) := hperm.mem_iff.mpr (by simp)
  obtain ⟨smaller, greater, hsplit⟩ := List.append_of_mem hmem
  have hlt := pairwise_lt_of_repeatedName? (pairwise_sorted _)
    (repeatedName?_eq_none_iff.mpr hdistinct)
  rw [hsplit] at hperm hlt
  obtain ⟨-, hgreater, hsmaller⟩ := List.pairwise_append.mp hlt
  refine ⟨smaller, greater, hsplit, ?_, ?_, ?_⟩
  · -- without the new file, the others are still in order
    have hothers : (smaller ++ greater).Pairwise fun a b => a.name < b.name :=
      hlt.sublist ((List.sublist_cons_self extra greater).append_left smaller)
    have hsame : (smaller ++ greater).Perm (before ++ after) :=
      (List.perm_middle.symm.trans (hperm.trans List.perm_middle)).cons_inv
    have hsorted : sorted (smaller ++ greater) = smaller ++ greater := by
      apply List.mergeSort_of_pairwise
      apply hothers.imp
      intro a b hab
      exact decide_eq_true (String.not_lt.mp (String.lt_asymm hab))
    rw [← hsorted]
    apply (sorted_eq_of_perm hsame _).symm
    rw [repeatedName?_eq_none_iff]
    exact not_repeated_of_pairwise_lt hothers
  · intro source hsource
    exact hsmaller source hsource extra (by simp)
  · intro source hsource
    exact List.rel_of_pairwise_cons hgreater hsource

end Source

namespace Schema

/-! ### Linking several components -/

theorem linkAll_append (wireType : String) (next : Nat) (components others : List Component) :
    linkAll wireType next (components ++ others) =
      ((linkAll wireType next components).1 ++
          (linkAll wireType (linkAll wireType next components).2 others).1,
        (linkAll wireType (linkAll wireType next components).2 others).2) := by
  induction components generalizing next with
  | nil => rfl
  | cons component rest ih =>
    rw [List.cons_append]
    simp only [linkAll, ih, List.cons_append]

theorem linkAll_add (wireType : String) (next shift : Nat) {components : List Component}
    (hnone : ∀ component ∈ components, ∀ field ∈ component.body, field.wireId = none) :
    linkAll wireType (next + shift) components =
      ((linkAll wireType next components).1.map (Component.renumber (· + shift)),
        (linkAll wireType next components).2 + shift) := by
  induction components generalizing next with
  | nil => rfl
  | cons component rest ih =>
    obtain ⟨hcomponent, hrest⟩ := List.forall_mem_cons.mp hnone
    simp only [linkAll, Component.link_add wireType next shift hcomponent, ih _ hrest,
      List.map_cons]

theorem snd_linkAll (wireType : String) (next : Nat) (components : List Component) :
    (linkAll wireType next components).2 =
      next + wireCount wireType (fieldsOf (linkAll wireType next components).1) := by
  induction components generalizing next with
  | nil => rfl
  | cons component rest ih =>
    have hfields : fieldsOf (linkAll wireType next (component :: rest)).1 =
        (component.link wireType next).1.body ++
          fieldsOf (linkAll wireType (component.link wireType next).2 rest).1 := rfl
    have hfirst := component.snd_link wireType next
    have hrest := ih (component.link wireType next).2
    rw [hfields, wireCount_append]
    show (linkAll wireType (component.link wireType next).2 rest).2 = _
    omega

theorem exists_source_of_linkAll {options : ReadOptions} {sources : List Source}
    {components : List Component} {wireType : String} {next : Nat} {component : Component}
    (h : sources.mapM (Source.component options) = .ok components)
    (hmem : component ∈ (linkAll wireType next components).1) :
    ∃ source ∈ sources, source.name = component.name := by
  have hname := List.mem_map_of_mem (f := Component.name) hmem
  rw [names_linkAll] at hname
  obtain ⟨unlinked, hunlinked, hname⟩ := List.mem_map.mp hname
  obtain ⟨source, hsource, hread⟩ := exists_of_mapM h unlinked hunlinked
  exact ⟨source, hsource, (Component.name_of_read hread).symm.trans hname⟩

theorem wireId_of_readUnlinked {options : ReadOptions} {sources : List Source}
    {components : List Component}
    (h : sources.mapM (Source.component options) = .ok components) :
    ∀ component ∈ components, ∀ field ∈ component.body, field.wireId = none := by
  intro component hcomponent
  obtain ⟨source, -, hread⟩ := exists_of_mapM h component hcomponent
  exact Component.wireId_of_read hread

/-! ### Two runs -/

/-- The schema `larger` is `schema` with the component of one more file. -/
structure Extended (options : BuildOptions) (extra : Source) (schema larger : Schema)
    (smaller : List Component) (added : Component) (greater : List Component) : Prop where
  components : schema.components = smaller ++ greater
  /-- The components behind the new one have larger ids, and nothing else is changed. -/
  components_larger : larger.components = smaller ++ added ::
    greater.map (Component.renumber (· + wireCount options.wireType added.body))
  /-- The new component is the one of its file, and its ids go on behind the smaller names. -/
  linked : Component.LinkedFrom options.reading options.wireType
    (wireCount options.wireType (fieldsOf smaller)) extra.name extra.content added
  smaller_lt : ∀ component ∈ smaller, component.name < extra.name
  lt_greater : ∀ component ∈ greater, extra.name < component.name
  enumerations : larger.enumerations = schema.enumerations
  wireIdCount : larger.wireIdCount = schema.wireIdCount + wireCount options.wireType added.body

variable {options : BuildOptions} {before after enums : List Source} {extra : Source}
  {schema larger : Schema}

theorem exists_unlinked_of_read (h : (read options (before ++ after) enums).result = .ok schema)
    (hlarger : (read options (before ++ extra :: after) enums).result = .ok larger) :
    ∃ (smaller greater : List Source) (front back : List Component) (unlinked : Component)
      (enumerations : List Enumeration),
      smaller.mapM (Source.component options.reading) = .ok front ∧
      extra.component options.reading = .ok unlinked ∧
      greater.mapM (Source.component options.reading) = .ok back ∧
      (∀ source ∈ smaller, source.name < extra.name) ∧
      (∀ source ∈ greater, extra.name < source.name) ∧
      schema = assemble options.wireType (front ++ back) enumerations ∧
      larger = assemble options.wireType (front ++ unlinked :: back) enumerations := by
  rw [result_read] at h hlarger
  obtain ⟨old, hold, h⟩ := bind_eq_ok_iff.mp h
  obtain ⟨enumerations, henums, h⟩ := bind_eq_ok_iff.mp h
  obtain ⟨new, hnew, hlarger⟩ := bind_eq_ok_iff.mp hlarger
  obtain ⟨_, henums', hlarger⟩ := bind_eq_ok_iff.mp hlarger
  cases h
  cases hlarger
  cases henums.symm.trans henums'
  obtain ⟨hdistinct, hnew⟩ := Source.readEach_eq_ok_iff.mp hnew
  obtain ⟨-, hold⟩ := Source.readEach_eq_ok_iff.mp hold
  obtain ⟨smaller, greater, hsplit, hothers, hsmaller, hgreater⟩ :=
    Source.exists_sorted_split hdistinct
  rw [hsplit] at hnew
  rw [hothers] at hold
  obtain ⟨front, back, hfront, hback, rfl⟩ := mapM_append_eq_ok_iff.mp hold
  obtain ⟨_, rest, hfront', hrest, rfl⟩ := mapM_append_eq_ok_iff.mp hnew
  cases hfront.symm.trans hfront'
  obtain ⟨unlinked, _, hunlinked, hback', rfl⟩ := mapM_cons_eq_ok_iff.mp hrest
  cases hback.symm.trans hback'
  exact ⟨smaller, greater, front, back, unlinked, enumerations, hfront, hunlinked, hback, hsmaller,
    hgreater, rfl, rfl⟩

/-- **One more file adds one component and shifts the ids behind it**, wherever the file was found.
All else is as it was without the file. -/
theorem read_extended (h : (read options (before ++ after) enums).result = .ok schema)
    (hlarger : (read options (before ++ extra :: after) enums).result = .ok larger) :
    ∃ smaller added greater, Extended options extra schema larger smaller added greater := by
  obtain ⟨smaller, greater, front, back, unlinked, enumerations, hfront, hunlinked, hback, hsmaller,
    hgreater, rfl, rfl⟩ := exists_unlinked_of_read h hlarger
  obtain ⟨next, hnext⟩ : ∃ next, (linkAll options.wireType 0 front).2 = next := ⟨_, rfl⟩
  have hcount : next = wireCount options.wireType
      (fieldsOf (linkAll options.wireType 0 front).1) := by
    rw [← hnext, snd_linkAll, Nat.zero_add]
  -- the components behind the new one are linked from the id after its last
  have hshift := linkAll_add options.wireType next
    (wireCount options.wireType (unlinked.link options.wireType next).1.body)
    (wireId_of_readUnlinked hback)
  rw [← Component.snd_link] at hshift
  refine ⟨(linkAll options.wireType 0 front).1, (unlinked.link options.wireType next).1,
    (linkAll options.wireType next back).1, ?_⟩
  constructor
  · rw [assemble, linkAll_append, hnext]
  · simp only [assemble, linkAll_append, linkAll, hnext, hshift]
  · exact ⟨unlinked, hunlinked, by rw [← hcount]⟩
  · intro component hcomponent
    obtain ⟨source, hsource, hname⟩ := exists_source_of_linkAll hfront hcomponent
    exact hname ▸ hsmaller source hsource
  · intro component hcomponent
    obtain ⟨source, hsource, hname⟩ := exists_source_of_linkAll hback hcomponent
    exact hname ▸ hgreater source hsource
  · rfl
  · simp only [assemble, linkAll_append, linkAll, hnext, hshift]

/-- A file with two wire filters comes between two files with one each. -/
theorem read_extended_between :
    ∃ schema larger,
      (read ⟨.standard, "w"⟩ ([⟨"c", "body,w,z,0"⟩] ++ [⟨"a", "body,w,v,"⟩]) []).result =
        .ok schema ∧
      (read ⟨.standard, "w"⟩ ([⟨"c", "body,w,z,0"⟩] ++
        ⟨"b", "body,w,x,0\nbody,i,n,0\nbody,w,y,0"⟩ :: [⟨"a", "body,w,v,"⟩]) []).result =
        .ok larger ∧
      schema.wireIdCount = 2 ∧ larger.wireIdCount = 4 ∧
      ∃ smaller added greater, Extended ⟨.standard, "w"⟩
        ⟨"b", "body,w,x,0\nbody,i,n,0\nbody,w,y,0"⟩ schema larger smaller added greater := by
  have hsorted : Source.sorted ([⟨"c", "body,w,z,0"⟩] ++ [⟨"a", "body,w,v,"⟩]) =
      [⟨"a", "body,w,v,"⟩, ⟨"c", "body,w,z,0"⟩] := by
    simp [Source.sorted, List.mergeSort, List.MergeSort.Internal.splitInTwo]
  have hsorted' : Source.sorted ([⟨"c", "body,w,z,0"⟩] ++
      ⟨"b", "body,w,x,0\nbody,i,n,0\nbody,w,y,0"⟩ :: [⟨"a", "body,w,v,"⟩]) =
      [⟨"a", "body,w,v,"⟩, ⟨"b", "body,w,x,0\nbody,i,n,0\nbody,w,y,0"⟩, ⟨"c", "body,w,z,0"⟩] := by
    simp [Source.sorted, List.mergeSort, List.MergeSort.Internal.splitInTwo]
  have hnil : Source.sorted [] = [] := by simp [Source.sorted]
  have hread : (read ⟨.standard, "w"⟩
      ([⟨"c", "body,w,z,0"⟩] ++ [⟨"a", "body,w,v,"⟩]) []).result =
      .ok ⟨[⟨"a", "Invalid Name", [⟨"w", "v", "", "entity", "a", none, some 0⟩], [], []⟩,
        ⟨"c", "Invalid Name", [⟨"w", "z", "0", "entity", "c", none, some 1⟩], [], []⟩], [], 2⟩ := by
    simp only [result_read, readUnlinked, Source.readEach, Source.distinctSorted, hsorted, hnil,
      Source.repeatedName?]
    rfl
  have hread' : (read ⟨.standard, "w"⟩ ([⟨"c", "body,w,z,0"⟩] ++
      ⟨"b", "body,w,x,0\nbody,i,n,0\nbody,w,y,0"⟩ :: [⟨"a", "body,w,v,"⟩]) []).result =
      .ok ⟨[⟨"a", "Invalid Name", [⟨"w", "v", "", "entity", "a", none, some 0⟩], [], []⟩,
        ⟨"b", "Invalid Name", [⟨"w", "x", "0", "entity", "b", none, some 1⟩,
          ⟨"i", "n", "0", "x", "b", none, none⟩, ⟨"w", "y", "0", "n", "b", none, some 2⟩], [], []⟩,
        ⟨"c", "Invalid Name", [⟨"w", "z", "0", "entity", "c", none, some 3⟩], [], []⟩], [], 4⟩ := by
    simp only [result_read, readUnlinked, Source.readEach, Source.distinctSorted, hsorted', hnil,
      Source.repeatedName?]
    rfl
  exact ⟨_, _, hread, hread', rfl, rfl, read_extended hread hread'⟩

end Schema

end EntityCodegen
