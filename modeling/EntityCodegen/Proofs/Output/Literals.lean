import EntityCodegen.Proofs.Output.Enums
import EntityCodegen.Proofs.Output.Filters
import EntityCodegen.Proofs.Text.Literals

/-!
# Literals made from definitions

The source of a component has a literal for each dependency and for the key of each stub, and the
filter source has one for the label of each filter. Of these only the display name in a label is
escaped. `literals_read_iff` says which literals denote the text that they were made from: those of a
dependency, a stub's name or a field's name that has nothing to escape. In `literals_misread` a quote
in each of them cuts its literal short.

The literals of the dependencies are all that stands in quotes at the end of the file, so they are
read off it one after the other. The other literals are read at their places, since a quote may stand
before them on their lines.
-/

namespace EntityCodegen.Output

open EntityCodegen.Text (Plain readLiteral? literals? listed)

/-- Behind the front of the line there is a literal that is read as the value. -/
def ReadsAs (line front value : String) : Prop :=
  ∃ inside rest, line.toList = front.toList ++ '"' :: inside ∧
    readLiteral? inside = some (value.toList, rest)

theorem readsAs_iff {front inside value : String} :
    ReadsAs (front ++ "\"" ++ inside) front value ↔
      ∃ rest, readLiteral? inside.toList = some (value.toList, rest) := by
  constructor
  · rintro ⟨_, rest, hline, hread⟩
    simp only [String.toList_append, List.append_assoc] at hline
    obtain ⟨-, rfl⟩ := List.cons.inj (List.append_cancel_left hline)
    exact ⟨rest, hread⟩
  · rintro ⟨rest, hread⟩
    exact ⟨_, rest, by simp, hread⟩

/-! ### Dependencies -/

/-- The lines that hold the dependencies, up to the end of the file. -/
def returnedLines (component : Component) : List String :=
  (if component.dependencies.isEmpty then []
    else [tab 2 (dependencyItems component.dependencies)]) ++
  [tab 1 "\x7d;",
    "\x7d"]

theorem toList_dependencyItems (dependencies : List String) :
    (dependencyItems dependencies).toList = listed dependencies := by
  simp [dependencyItems, listed, String.toList_join, List.flatMap_map]

theorem exists_chars_returnedLines (component : Component) : ∃ gap rest,
    '"' ∉ gap ∧ '"' ∉ rest ∧
      chars (returnedLines component) = gap ++ (listed component.dependencies ++ rest) := by
  have hrest : '"' ∉ chars [tab 1 "\x7d;", "\x7d"] := by decide
  rw [returnedLines, chars_append]
  by_cases hempty : component.dependencies = []
  · refine ⟨[], _, by simp, hrest, ?_⟩
    simp [hempty, chars_nil, listed]
  · refine ⟨List.replicate (4 * 2) ' ', '\n' :: chars [tab 1 "\x7d;", "\x7d"], by decide,
      by simp [hrest], ?_⟩
    simp [hempty, chars_cons, chars_nil, tab, toList_dependencyItems]

theorem literals?_returnedLines_eq_iff (component : Component) :
    literals? (chars (returnedLines component)) = some component.dependencies ↔
      ∀ text ∈ component.dependencies, Plain text.toList := by
  obtain ⟨gap, rest, hgap, hrest, hchars⟩ := exists_chars_returnedLines component
  rw [hchars, Text.literals?_append_of_not_mem hgap, Text.literals?_listed_eq_some_iff hrest]

/-! ### Keys and labels -/

/-- What stands before the key where a stub's field is read. -/
def loadFront (component : Component) (stub : StubField) : String :=
  tab 1 (component.name ++ "_stub->" ++ stub.name ++ " = load_value_from_config<" ++ stub.type ++
    ">(config, ")

/-- The line that reads a stub's field. -/
def loadLine (component : Component) (stub : StubField) : String :=
  loadFront component stub ++ "\"" ++ (stub.name ++ "\");")

theorem loadLines_eq (component : Component) :
    loadLines component = component.stubs.flatMap fun stub => [loadLine component stub, ""] := by
  rw [loadLines]
  refine congrArg (component.stubs.flatMap ·) (funext fun stub => ?_)
  refine congrArg (fun line => [line, ""]) (String.toList_inj.mp ?_)
  simp [loadLine, loadFront, tab]

theorem readsAs_loadLine_iff (component : Component) (stub : StubField) :
    ReadsAs (loadLine component stub) (loadFront component stub) stub.name ↔
      Plain stub.name.toList := by
  have hinside : (stub.name ++ "\");").toList = stub.name.toList ++ '"' :: [')', ';'] := by simp
  rw [loadLine, readsAs_iff, hinside]
  constructor
  · rintro ⟨rest, hread⟩
    exact (Text.plain_of_readLiteral? hread).1
  · intro hplain
    exact ⟨_, Text.readLiteral?_self_iff.mpr hplain⟩

/-- The line that gives the label of a filter. -/
def labelLine (filter : Filter) : String :=
  tab 4 (filterLabel filter ++ ");")

/-- The text that the label is made from. -/
def labelText (filter : Filter) : String :=
  filter.component.displayName ++ "/" ++ filter.field.name

theorem readsAs_labelLine_iff (filter : Filter) :
    ReadsAs (labelLine filter) (tab 4 "") (labelText filter) ↔
      Plain filter.field.name.toList := by
  have hline : labelLine filter = tab 4 "" ++ "\"" ++
      (Text.escape filter.component.displayName ++ ("/" ++ filter.field.name ++ "\");")) := by
    refine String.toList_inj.mp ?_
    simp [labelLine, filterLabel, tab]
  have hinside : (Text.escape filter.component.displayName ++
      ("/" ++ filter.field.name ++ "\");")).toList =
      Text.escapeChars filter.component.displayName.toList ++
        ('/' :: filter.field.name.toList ++ '"' :: [')', ';']) := by
    simp
  have hslash : Plain ('/' :: filter.field.name.toList) ↔ Plain filter.field.name.toList := by
    rw [Text.plain_cons]
    exact and_iff_right (by decide)
  rw [hline, readsAs_iff, hinside, Text.readLiteral?_escapeChars_append, ← hslash]
  -- the display name is read back, whatever it is, and then the field's name is left
  constructor
  · rintro ⟨rest, hread⟩
    obtain ⟨⟨text, after⟩, hread, heq⟩ := Option.map_eq_some_iff.mp hread
    have htext : text = '/' :: filter.field.name.toList := by
      have hboth := (Prod.mk.inj heq).1
      simpa [labelText] using hboth
    rw [htext] at hread
    exact (Text.plain_of_readLiteral? hread).1
  · intro hplain
    refine ⟨[')', ';'], ?_⟩
    rw [Text.readLiteral?_self_iff.mpr hplain]
    simp [labelText]

/-! ### Which literals are read back -/

/-- The literals in the source of a component. -/
structure SourceLiterals (component : Component) : Prop where
  /-- There is a line for each stub, and the dependencies end the file. -/
  text : ∃ front middle, componentSource component = code (front ++
    component.stubs.flatMap (fun stub => [loadLine component stub, ""]) ++ middle ++
    returnedLines component)
  dependencies : literals? (chars (returnedLines component)) = some component.dependencies ↔
    ∀ text ∈ component.dependencies, Plain text.toList
  keys : ∀ stub ∈ component.stubs,
    ReadsAs (loadLine component stub) (loadFront component stub) stub.name ↔ Plain stub.name.toList

theorem sourceLiterals (component : Component) : SourceLiterals component where
  text := by
    have hconfig : ∃ front back, configLines component = front ++ loadLines component ++ back :=
      ⟨_, _, rfl⟩
    have hdependencies : ∃ front, dependencyLines component = front ++ returnedLines component :=
      ⟨_, List.append_assoc ..⟩
    have hplaces (before front loads back front' returned : List String) :
        before ++ (front ++ loads ++ back) ++ (front' ++ returned) =
          (before ++ front) ++ loads ++ (back ++ front') ++ returned := by
      simp only [List.append_assoc]
    obtain ⟨front, back, hconfig⟩ := hconfig
    obtain ⟨front', hdependencies⟩ := hdependencies
    rw [componentSource, hconfig, hdependencies, hplaces, loadLines_eq]
    exact ⟨_, _, rfl⟩
  dependencies := literals?_returnedLines_eq_iff component
  keys stub _ := readsAs_loadLine_iff component stub

/-- **Which literals denote the text that they were made from**: of a dependency, a stub's name and a
field's name those that have nothing to escape, and any display name. -/
theorem literals_read_iff (components : List Component) :
    (∀ component ∈ components, SourceLiterals component) ∧
    filters components = code ((blocks components).flatMap Block.lines) ∧
    ∀ filter ∈ shown components, labelLine filter ∈ (Block.lists filter).lines ∧
      (ReadsAs (labelLine filter) (tab 4 "") (labelText filter) ↔
        Plain filter.field.name.toList) := by
  refine ⟨fun component _ => sourceLiterals component, filters_eq_join components,
    fun filter _ => ⟨?_, readsAs_labelLine_iff filter⟩⟩
  rw [lines_lists]
  simp [listLines, labelLine]

/-- A component with quotes in its display name alone. -/
def namedLamp : Component :=
  ⟨"lamp", "The \"big\" lamp",
    [⟨"wire_filter_ptr", "on", "", "entity", "lamp", some 0, some 0⟩],
    [⟨"int", "int", "", "on", "", "lamp"⟩], ["door"]⟩

theorem literals_read_named :
    literals? (chars (returnedLines namedLamp)) = some ["door"] ∧
      (∀ stub ∈ namedLamp.stubs,
        ReadsAs (loadLine namedLamp stub) (loadFront namedLamp stub) "on") ∧
      ∀ filter ∈ shown [namedLamp],
        ReadsAs (labelLine filter) (tab 4 "") "The \"big\" lamp/on" := by
  have hshown : shown [namedLamp] = [⟨0, namedLamp,
      ⟨"wire_filter_ptr", "on", "", "entity", "lamp", some 0, some 0⟩⟩] := shown_eq _
  obtain ⟨hsource, -, hlabels⟩ := literals_read_iff [namedLamp]
  have hlamp := hsource namedLamp (List.mem_singleton_self namedLamp)
  refine ⟨hlamp.dependencies.mpr (by decide), fun stub hstub => ?_, fun filter hfilter => ?_⟩
  · have hread := hlamp.keys stub hstub
    obtain rfl := List.mem_singleton.mp hstub
    exact hread.mpr (by decide)
  · have hread := (hlabels filter hfilter).2
    rw [hshown, List.mem_singleton] at hfilter
    subst hfilter
    exact hread.mpr (by decide)

/-- A component with a quote in its field, in its stub and in its dependency. -/
def quotedLamp : Component :=
  ⟨"lamp", "Invalid Name",
    [⟨"wire_filter_ptr", "on\"off", "", "entity", "lamp", some 0, some 0⟩],
    [⟨"int", "int", "", "on\"off", "", "lamp"⟩], ["do\"or"]⟩

/-- A quote in the definitions cuts short the literals that are made from them. -/
theorem literals_misread :
    (Schema.read .standard [⟨"lamp", "body,wire_filter_ptr,on\"off,\nstub,int,int,,on\"off,\n" ++
        "depends,do\"or"⟩] []).result = .ok ⟨[quotedLamp], [], 1⟩ ∧
      literals? (chars (returnedLines quotedLamp)) ≠ some quotedLamp.dependencies ∧
      (∃ stub ∈ quotedLamp.stubs,
        ¬ ReadsAs (loadLine quotedLamp stub) (loadFront quotedLamp stub) stub.name) ∧
      ∃ filter ∈ shown [quotedLamp],
        ¬ ReadsAs (labelLine filter) (tab 4 "") (labelText filter) := by
  have hnil : Source.sorted [] = [] := List.mergeSort_nil
  have hone (source : Source) : Source.sorted [source] = [source] := List.mergeSort_singleton source
  have hshown : shown [quotedLamp] = [⟨0, quotedLamp,
      ⟨"wire_filter_ptr", "on\"off", "", "entity", "lamp", some 0, some 0⟩⟩] := shown_eq _
  refine ⟨?_, ?_, ⟨_, List.mem_singleton_self _, ?_⟩, ⟨_, hshown ▸ List.mem_singleton_self _, ?_⟩⟩
  · simp only [Schema.read, Schema.readComponents, Schema.readEnumerations, Source.distinctSorted,
      hone, hnil, Source.repeatedName?, Traced.result_bind]
    decide +kernel
  · rw [Ne, literals?_returnedLines_eq_iff]
    decide
  · rw [readsAs_loadLine_iff]
    decide
  · rw [readsAs_labelLine_iff]
    decide

end EntityCodegen.Output
