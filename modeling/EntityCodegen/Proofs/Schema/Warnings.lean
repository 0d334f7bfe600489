import EntityCodegen.Proofs.Component.Warnings
import EntityCodegen.Proofs.Schema.WireIds

/-!
# The warnings of a run

`warned_of_readComponents`: a run that reads all component files warns of each file in the order of
the names, and then of the dependencies that name no component, in the order of the components and
of the lists they are left with. There is no other warning: linking reports ids only.

Dependencies come last because the files after a component may declare what it depends on. So the
warnings of the files are those of a run over them (`warnings_readComponentsFrom`), and the ones of
the dependencies are found when all names are known.
-/

namespace EntityCodegen

open Event (warnings)

theorem Component.warnings_linkEvents (component : Component) (wireType : String) :
    warnings (component.linkEvents wireType) = [] := by
  refine Event.warnings_eq_nil fun event hevent => ?_
  obtain ⟨⟨field, id⟩, -, hid⟩ := List.mem_filterMap.mp hevent
  obtain ⟨-, hassigned⟩ := Option.ite_none_right_eq_some.mp hid
  cases hassigned
  simp [Event.level]

namespace Schema

/-- The warnings of one file: those of its lines, and then the one that its component has no name.
-/
def sourceWarnings (options : ReadOptions) (source : Source) (component : Component) :
    List Event :=
  Line.fileWarnings options source.name (Text.lines source.content) ++ component.nameWarnings

/-- The warnings of the dependencies that a component is left with, one for each entry that names
none of the components. -/
def dependencyWarnings (components : List Component) (component : Component) : List Event :=
  component.dependencies.filterMap fun dependency =>
    if dependency ∈ components.map Component.name then none
    else some (.unknownDependency component.name dependency)

/-- The component is the one of the file, linked from some id. -/
def ComesFrom (options : BuildOptions) (source : Source) (component : Component) : Prop :=
  ∃ next, Component.LinkedFrom options.reading options.wireType next source.name source.content
    component

/-- The warnings of a run are those of its files and of its dependencies, in this order. -/
structure Warned (options : BuildOptions) (sources : List Source) (components : List Component)
    (events : List Event) : Prop where
  perm : (Source.sorted sources).Perm sources
  increasing : (Source.sorted sources).Pairwise fun a b => a.name < b.name
  /-- The components are those of the files in order. -/
  linked : List.Forall₂ (ComesFrom options) (Source.sorted sources) components
  warnings_eq : warnings events =
    (List.zipWith (sourceWarnings options.reading) (Source.sorted sources) components).flatten ++
      components.flatMap (dependencyWarnings components)

variable {options : BuildOptions}

/-! ### The run over the files -/

theorem warnings_readComponentsFrom_cons {next last : Nat} {source : Source} {rest : List Source}
    {unlinked : Component} {tail : List Component}
    (hread : (Component.read options.reading source.name source.content).result = .ok unlinked)
    (hrest : (readComponentsFrom options (unlinked.link options.wireType next).2 rest).result =
      .ok (tail, last)) :
    warnings (readComponentsFrom options next (source :: rest)).events =
      sourceWarnings options.reading source (unlinked.link options.wireType next).1 ++ warnings
        (readComponentsFrom options (unlinked.link options.wireType next).2 rest).events := by
  rw [readComponentsFrom, Traced.events_bind_of_ok hread, Event.warnings_append,
    Component.warnings_read hread, Traced.events_bind_of_ok (Traced.result_reportAll _),
    Event.warnings_append, Traced.events_reportAll, Component.warnings_linkEvents,
    List.nil_append, Traced.events_bind_of_ok hrest, Traced.events_pure, List.append_nil]
  rfl

theorem warnings_readComponentsFrom {next last : Nat} {sources : List Source}
    {components : List Component}
    (h : (readComponentsFrom options next sources).result = .ok (components, last)) :
    List.Forall₂ (ComesFrom options) sources components ∧
      warnings (readComponentsFrom options next sources).events =
        (List.zipWith (sourceWarnings options.reading) sources components).flatten := by
  induction sources generalizing next components with
  | nil =>
    cases h
    exact ⟨.nil, rfl⟩
  | cons source rest ih =>
    obtain ⟨component, tail, rfl, hlinked, hrest⟩ := readComponentsFrom_cons_eq_ok h
    obtain ⟨hothers, hlater⟩ := ih hrest
    refine ⟨.cons ⟨next, hlinked⟩ hothers, ?_⟩
    obtain ⟨unlinked, hread, rfl⟩ := hlinked
    rw [← Component.snd_link] at hrest hlater
    rw [warnings_readComponentsFrom_cons hread hrest, hlater, List.zipWith_cons_cons,
      List.flatten_cons]

/-! ### The dependencies -/

theorem warnings_unknownDependencies (components : List Component) :
    warnings (unknownDependencies components) =
      components.flatMap (dependencyWarnings components) := by
  have hsame : unknownDependencies components =
      components.flatMap (dependencyWarnings components) := by
    rw [unknownDependencies]
    congr 1
    funext component
    rw [dependencyWarnings]
    congr 1
    funext dependency
    have hknown : (components.any fun other => other.name == dependency) = true ↔
        dependency ∈ components.map Component.name := by
      simp
    simp only [hknown]
  rw [hsame]
  refine Event.warnings_eq_self fun event hevent => ?_
  obtain ⟨component, -, hevent⟩ := List.mem_flatMap.mp hevent
  obtain ⟨dependency, -, hdependency⟩ := List.mem_filterMap.mp hevent
  obtain ⟨-, hunknown⟩ := Option.ite_none_left_eq_some.mp hdependency
  cases hunknown
  rfl

/-- **A run warns of its files and then of its dependencies**, each in order, and of nothing else.
-/
theorem warned_of_readComponents {sources : List Source} {components : List Component}
    {count : Nat} (h : (readComponents options sources).result = .ok (components, count)) :
    Warned options sources components (readComponents options sources).events := by
  rw [readComponents] at h ⊢
  rw [Traced.result_bind, bind_eq_ok_iff] at h
  obtain ⟨ordered, hordered, h⟩ := h
  obtain ⟨rfl, hsorted⟩ := sorted_of_distinctSorted hordered
  rw [Traced.result_bind, bind_eq_ok_iff] at h
  obtain ⟨⟨_, _⟩, hread, h⟩ := h
  cases h
  obtain ⟨hlinked, hfiles⟩ := warnings_readComponentsFrom hread
  refine ⟨Source.sorted_perm sources, hsorted, hlinked, ?_⟩
  have hend : (Traced.reportAll (unknownDependencies components) >>= fun _ =>
      Traced.report (.componentsRead components.length count) >>= fun _ =>
        (pure (components, count) : Traced DefinitionError (List Component × Nat))).events =
      unknownDependencies components ++ [.componentsRead components.length count] := rfl
  have hlast : warnings [.componentsRead components.length count] = [] := rfl
  have hfirst : (Traced.ofExcept (Source.distinctSorted .duplicateComponent sources)).events = [] :=
    rfl
  rw [Traced.events_bind_of_ok hordered, hfirst, List.nil_append, Traced.events_bind_of_ok hread,
    Event.warnings_append, hfiles, hend, Event.warnings_append, warnings_unknownDependencies,
    hlast, List.append_nil]

/-- Two files out of order: one with lines to warn of and no name, one with an unknown dependency.
-/
def carelessFiles : List Source :=
  [⟨"b", "what,x\nbody,i,x,0\nbody,w,x,1"⟩, ⟨"a", "ui_name,A\ndepends,b,c"⟩]

theorem warned_of_readComponents_careless :
    ∃ components,
      (readComponents ⟨⟨',', .warn, .allow⟩, "w"⟩ carelessFiles).result = .ok (components, 1) ∧
      warnings (readComponents ⟨⟨',', .warn, .allow⟩, "w"⟩ carelessFiles).events =
        [.unknownLine "b" 1 "what", .aliasedField "b" "x" 3, .noDisplayName "b",
          .unknownDependency "a" "c"] ∧
      Warned ⟨⟨',', .warn, .allow⟩, "w"⟩ carelessFiles components
        (readComponents ⟨⟨',', .warn, .allow⟩, "w"⟩ carelessFiles).events := by
  have hsorted : Source.distinctSorted .duplicateComponent carelessFiles =
      .ok [⟨"a", "ui_name,A\ndepends,b,c"⟩, ⟨"b", "what,x\nbody,i,x,0\nbody,w,x,1"⟩] := by
    simp [carelessFiles, Source.distinctSorted, Source.sorted, List.mergeSort,
      List.MergeSort.Internal.splitInTwo, Source.repeatedName?]
  have hread : (readComponents ⟨⟨',', .warn, .allow⟩, "w"⟩ carelessFiles).result =
      .ok ([⟨"a", "A", [], [], ["b", "c"]⟩,
        ⟨"b", "Invalid Name", [⟨"i", "x", "0", "entity", "b", none, none⟩,
          ⟨"w", "x", "1", "x", "b", none, some 0⟩], [], []⟩], 1) := by
    rw [readComponents, hsorted]
    decide +kernel
  refine ⟨_, hread, ?_, warned_of_readComponents hread⟩
  rw [readComponents, hsorted]
  decide +kernel

end Schema

end EntityCodegen
