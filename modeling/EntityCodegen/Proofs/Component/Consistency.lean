import EntityCodegen.Proofs.Component.Linking

/-!
# Components stay consistent

`consistent_edited`: however body fields and stubs are added to a new component and however often it
is linked in between, each body field knows the pool member before it, all fields know their
component, and a link leads to the first stub of the field's name.

Each of the three operations keeps this (`Consistent.pushBody`, `Consistent.pushStub`,
`Consistent.link`). A stub that is added later stands behind all others, so it takes the place of no
first one (`FirstStub.append`); linking again finds the first stub anew. The component of a file is
made by these operations alone, as far as its fields go (`LinkedFrom.consistent`).
-/

namespace EntityCodegen

/-! ### Stubs found by name -/

/-- The stub at the position has the name, and no stub before it does. -/
structure FirstStub (stubs : List StubField) (name : String) (position : Nat) : Prop where
  named : ∃ stub, stubs[position]? = some stub ∧ stub.name = name
  first : ∀ earlier < position, ∀ stub, stubs[earlier]? = some stub → stub.name ≠ name

theorem firstStub_of_firstStub? {stubs : List StubField} {name : String} {position : Nat}
    (h : firstStub? stubs name = some position) : FirstStub stubs name position := by
  obtain ⟨hrange, hname, hfirst⟩ := List.findIdx?_eq_some_iff_getElem.mp h
  refine ⟨⟨stubs.get ⟨position, hrange⟩, List.getElem?_eq_getElem hrange, by simpa using hname⟩, ?_⟩
  intro earlier hearlier stub hstub
  obtain ⟨hearlierRange, rfl⟩ := List.getElem?_eq_some_iff.mp hstub
  simpa using hfirst earlier hearlier

theorem FirstStub.lt_length {stubs : List StubField} {name : String} {position : Nat}
    (h : FirstStub stubs name position) : position < stubs.length := by
  obtain ⟨stub, hstub, -⟩ := h.named
  exact (List.getElem?_eq_some_iff.mp hstub).1

theorem FirstStub.append {stubs : List StubField} {name : String} {position : Nat}
    (h : FirstStub stubs name position) (added : StubField) :
    FirstStub (stubs ++ [added]) name position := by
  have hsame {place : Nat} (hplace : place ≤ position) :
      (stubs ++ [added])[place]? = stubs[place]? :=
    List.getElem?_append_left (Nat.lt_of_le_of_lt hplace h.lt_length)
  constructor
  · rw [hsame (Nat.le_refl position)]
    exact h.named
  · intro earlier hearlier stub hstub
    rw [hsame (Nat.le_of_lt hearlier)] at hstub
    exact h.first earlier hearlier stub hstub

/-! ### Predecessors -/

/-- Each field follows the one before it in the pool, and the first follows the given member. -/
def Chained : String → List BodyField → Prop
  | _, [] => True
  | previous, field :: rest => field.predecessor = previous ∧ Chained field.name rest

theorem chained_append_singleton {previous : String} {fields : List BodyField} {field : BodyField}
    (h : Chained previous fields)
    (hfield : field.predecessor = (fields.getLast?.map BodyField.name).getD previous) :
    Chained previous (fields ++ [field]) := by
  induction fields generalizing previous with
  | nil => exact ⟨hfield, trivial⟩
  | cons first rest ih =>
    refine ⟨h.1, ih h.2 ?_⟩
    rw [hfield, List.getLast?_cons]
    cases rest.getLast? <;> rfl

/-! ### What linking does to the fields -/

section
variable {stubs : List StubField} {wireType : String} {next : Nat}

theorem fst_linkFields_cons (field : BodyField) (fields : List BodyField) :
    (linkFields stubs wireType next (field :: fields)).1 =
      { field with
        linkedStub := firstStub? stubs field.name
        wireId := if field.type = wireType then some next else field.wireId } ::
      (linkFields stubs wireType (if field.type = wireType then next + 1 else next) fields).1 := by
  by_cases h : field.type = wireType <;> simp [linkFields, h]

/-- What is made of linked fields without their ids is made of the fields with the links alone. -/
theorem map_linkFields {α : Type} {f : BodyField → α}
    (hf : ∀ field id, f { field with wireId := id } = f field) (fields : List BodyField) :
    (linkFields stubs wireType next fields).1.map f =
      fields.map fun field => f { field with linkedStub := firstStub? stubs field.name } := by
  induction fields generalizing next with
  | nil => rfl
  | cons field fields ih =>
    rw [fst_linkFields_cons, List.map_cons, List.map_cons, ih]
    exact congrArg (· :: _) (hf { field with linkedStub := firstStub? stubs field.name } _)

theorem chained_linkFields {previous : String} {fields : List BodyField}
    (h : Chained previous fields) :
    Chained previous (linkFields stubs wireType next fields).1 := by
  induction fields generalizing previous next with
  | nil => exact h
  | cons field fields ih =>
    rw [fst_linkFields_cons]
    exact ⟨h.1, ih h.2⟩

theorem exists_of_mem_linkFields {fields : List BodyField} {linked : BodyField}
    (h : linked ∈ (linkFields stubs wireType next fields).1) :
    ∃ field ∈ fields, ∃ id,
      linked = { field with linkedStub := firstStub? stubs field.name, wireId := id } := by
  induction fields generalizing next with
  | nil => simp [linkFields] at h
  | cons first rest ih =>
    rw [fst_linkFields_cons] at h
    rcases List.mem_cons.mp h with rfl | h
    · exact ⟨first, by simp, _, rfl⟩
    · obtain ⟨field, hfield, id, hlinked⟩ := ih h
      exact ⟨field, List.mem_cons_of_mem _ hfield, id, hlinked⟩

end

namespace Component

/-! ### Consistent components -/

/-- The component of the name is in order: its fields are chained and owned by it, and every link
leads to the first stub of the field's name. -/
structure Consistent (name : String) (component : Component) : Prop where
  name_eq : component.name = name
  chained : Chained firstPredecessor component.body
  bodyOwner : ∀ field ∈ component.body, field.owner = name
  stubOwner : ∀ stub ∈ component.stubs, stub.owner = name
  linked : ∀ field ∈ component.body, ∀ position, field.linkedStub = some position →
    FirstStub component.stubs field.name position

namespace Consistent

variable {name : String} {component : Component}

theorem ofName (name : String) : Consistent name (Component.ofName name) :=
  ⟨rfl, trivial, by simp [Component.ofName], by simp [Component.ofName],
    by simp [Component.ofName]⟩

theorem pushBody (h : Consistent name component) (type fieldName defaultValue : String) :
    Consistent name (component.pushBody type fieldName defaultValue) := by
  have hlast : component.lastMember =
      (component.body.getLast?.map BodyField.name).getD firstPredecessor := by
    rw [lastMember]
    cases component.body.getLast? <;> rfl
  refine ⟨h.name_eq, chained_append_singleton h.chained hlast, ?_, h.stubOwner, ?_⟩
  · intro field hfield
    rcases List.mem_append.mp hfield with hfield | hfield
    · exact h.bodyOwner field hfield
    · rw [List.mem_singleton.mp hfield]
      exact h.name_eq
  · intro field hfield position hposition
    rcases List.mem_append.mp hfield with hfield | hfield
    · exact h.linked field hfield position hposition
    · -- the new field is not linked yet
      rw [List.mem_singleton.mp hfield] at hposition
      cases hposition

theorem pushStub (h : Consistent name component) (outerType type lead stubName extra : String) :
    Consistent name (component.pushStub outerType type lead stubName extra) := by
  refine ⟨h.name_eq, h.chained, h.bodyOwner, ?_, ?_⟩
  · intro stub hstub
    rcases List.mem_append.mp hstub with hstub | hstub
    · exact h.stubOwner stub hstub
    · rw [List.mem_singleton.mp hstub]
      exact h.name_eq
  · intro field hfield position hposition
    exact (h.linked field hfield position hposition).append _

theorem link (h : Consistent name component) (wireType : String) (next : Nat) :
    Consistent name (component.link wireType next).1 := by
  refine ⟨h.name_eq, chained_linkFields h.chained, ?_, h.stubOwner, ?_⟩
  · intro linked hlinked
    obtain ⟨field, hfield, id, rfl⟩ := exists_of_mem_linkFields hlinked
    exact h.bodyOwner field hfield
  · intro linked hlinked position hposition
    obtain ⟨field, hfield, id, rfl⟩ := exists_of_mem_linkFields hlinked
    exact firstStub_of_firstStub? hposition

theorem stubOf?_eq_some (h : Consistent name component) {field : BodyField}
    (hfield : field ∈ component.body) {position : Nat}
    (hposition : field.linkedStub = some position) :
    ∃ stub, component.stubOf? field = some stub ∧ stub.name = field.name := by
  obtain ⟨stub, hstub, hname⟩ := (h.linked field hfield position hposition).named
  refine ⟨stub, ?_, hname⟩
  rw [stubOf?, hposition, Option.bind_some, hstub]

theorem declare (h : Consistent name component) (record : ComponentRecord) :
    Consistent name (component.declare record) := by
  cases record with
  | body type fieldName defaultValue => exact h.pushBody type fieldName defaultValue
  | stub outerType type lead stubName extra => exact h.pushStub outerType type lead stubName extra
  | depends names => exact ⟨h.name_eq, h.chained, h.bodyOwner, h.stubOwner, h.linked⟩
  | displayName text => exact ⟨h.name_eq, h.chained, h.bodyOwner, h.stubOwner, h.linked⟩

theorem declareAll (h : Consistent name component) (records : List ComponentRecord) :
    Consistent name (component.declareAll records) := by
  induction records generalizing component with
  | nil => exact h
  | cons record records ih => exact ih (h.declare record)

end Consistent

theorem LinkedFrom.consistent {options : ReadOptions} {wireType name content : String} {next : Nat}
    {component : Component} (h : LinkedFrom options wireType next name content component) :
    Consistent name component := by
  obtain ⟨unlinked, hread, rfl⟩ := h
  rw [result_read] at hread
  rw [eq_declareAll_of_readLines hread]
  exact ((Consistent.ofName name).declareAll _).link wireType next

/-! ### Any order of operations -/

/-- An operation on a component. -/
inductive Edit where
  | pushBody (type name defaultValue : String)
  | pushStub (outerType type lead name extra : String)
  /-- Linking, for the first time or again, with any wire type and from any id. -/
  | link (wireType : String) (next : Nat)

def edit (component : Component) : Edit → Component
  | .pushBody type name defaultValue => component.pushBody type name defaultValue
  | .pushStub outerType type lead name extra => component.pushStub outerType type lead name extra
  | .link wireType next => (component.link wireType next).1

/-- The component after the operations, one after the other. -/
def edited (component : Component) (edits : List Edit) : Component :=
  edits.foldl edit component

theorem Consistent.edit {name : String} {component : Component} (h : Consistent name component)
    (operation : Edit) : Consistent name (component.edit operation) := by
  cases operation with
  | pushBody type fieldName defaultValue => exact h.pushBody type fieldName defaultValue
  | pushStub outerType type lead stubName extra =>
    exact h.pushStub outerType type lead stubName extra
  | link wireType next => exact h.link wireType next

theorem Consistent.edited {name : String} {component : Component} (h : Consistent name component)
    (edits : List Edit) : Consistent name (component.edited edits) := by
  induction edits generalizing component with
  | nil => exact h
  | cons operation edits ih => exact ih (h.edit operation)

/-- **A component is consistent after any operations**, in whatever order, and each of its links
leads to a stub. -/
theorem consistent_edited (name : String) (edits : List Edit) :
    Consistent name ((ofName name).edited edits) ∧
      ∀ field ∈ ((ofName name).edited edits).body, ∀ position, field.linkedStub = some position →
        position < ((ofName name).edited edits).stubs.length ∧
        ∃ stub, ((ofName name).edited edits).stubOf? field = some stub ∧
          stub.name = field.name := by
  have hconsistent := (Consistent.ofName name).edited edits
  refine ⟨hconsistent, fun field hfield position hposition => ?_⟩
  exact ⟨(hconsistent.linked field hfield position hposition).lt_length,
    hconsistent.stubOf?_eq_some hfield hposition⟩

/-- A light is linked, gets a second stub and a second field of one name, and is linked again. -/
def relinkedLight : Component :=
  (ofName "light").edited [.pushStub "t" "t" "" "glow" "first", .pushBody "float" "glow" "0",
    .link "w" 0, .pushStub "t" "t" "" "glow" "second", .pushBody "float" "glow" "1", .link "w" 0]

/-- Both fields of the light are linked to the first of the two stubs. -/
theorem consistent_edited_light :
    relinkedLight.body.map BodyField.linkedStub = [some 0, some 0] ∧
      ∃ field ∈ relinkedLight.body, field.linkedStub = some 0 ∧ 0 < relinkedLight.stubs.length ∧
        ∃ stub, relinkedLight.stubOf? field = some stub ∧ stub.name = field.name :=
  ⟨by decide, _, List.mem_cons_self, rfl,
    (consistent_edited "light" _).2 _ List.mem_cons_self 0 rfl⟩

end Component

end EntityCodegen
