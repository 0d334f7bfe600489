import EntityCodegen.Model.Component
import EntityCodegen.Proofs.Component.Reading

/-!
# Linking one component

Linking fields that have no ids yet gives ids to exactly the fields of the wire type
(`isSome_wireId_linkFields`), and these are the numbers from `next` on, in declaration order
(`wireIds_linkFields`). The id after the last is `next` plus the number of those fields
(`snd_linkFields`). A component that was just read has no ids (`wireId_of_read`), so all this holds
of the component of a file (`LinkedFrom`).
-/

namespace EntityCodegen

/-- The number of fields of the wire type. -/
def wireCount (wireType : String) (fields : List BodyField) : Nat :=
  fields.countP fun field => field.type = wireType

theorem wireCount_append (wireType : String) (fields others : List BodyField) :
    wireCount wireType (fields ++ others) = wireCount wireType fields + wireCount wireType others :=
  List.countP_append

theorem wireCount_cons (wireType : String) (field : BodyField) (fields : List BodyField) :
    wireCount wireType (field :: fields) =
      wireCount wireType fields + if field.type = wireType then 1 else 0 := by
  simp [wireCount, List.countP_cons]

section
variable {stubs : List StubField} {wireType : String} {next : Nat}

theorem snd_linkFields (fields : List BodyField) :
    (linkFields stubs wireType next fields).2 = next + wireCount wireType fields := by
  induction fields generalizing next with
  | nil => rfl
  | cons field fields ih =>
    rw [wireCount_cons]
    by_cases h : field.type = wireType
    · simp only [linkFields, h, if_true, ih]
      omega
    · simp only [linkFields, h, if_false, ih]
      omega

theorem wireCount_linkFields (fields : List BodyField) :
    wireCount wireType (linkFields stubs wireType next fields).1 = wireCount wireType fields := by
  induction fields generalizing next with
  | nil => rfl
  | cons field fields ih =>
    by_cases h : field.type = wireType
    · simp only [linkFields, h, if_true, wireCount_cons, ih]
    · simp only [linkFields, h, if_false, wireCount_cons, ih]

theorem wireIds_linkFields {fields : List BodyField}
    (hnone : ∀ field ∈ fields, field.wireId = none) :
    (linkFields stubs wireType next fields).1.filterMap BodyField.wireId =
      List.range' next (wireCount wireType fields) := by
  induction fields generalizing next with
  | nil => rfl
  | cons field fields ih =>
    obtain ⟨hfield, hfields⟩ := List.forall_mem_cons.mp hnone
    rw [wireCount_cons]
    by_cases h : field.type = wireType
    · simp [linkFields, h, ih hfields, List.range'_succ]
    · simp [linkFields, h, ih hfields, hfield]

theorem isSome_wireId_linkFields {fields : List BodyField}
    (hnone : ∀ field ∈ fields, field.wireId = none) :
    ∀ field ∈ (linkFields stubs wireType next fields).1,
      field.wireId.isSome ↔ field.type = wireType := by
  induction fields generalizing next with
  | nil => simp [linkFields]
  | cons field fields ih =>
    obtain ⟨hfield, hfields⟩ := List.forall_mem_cons.mp hnone
    by_cases h : field.type = wireType
    · simp only [linkFields, h, if_true, List.forall_mem_cons]
      exact ⟨by simp, ih hfields⟩
    · simp only [linkFields, h, if_false, List.forall_mem_cons]
      exact ⟨by simp [hfield], ih hfields⟩

end

theorem wireId_chain (owner previous : String) (records : List BodyRecord) :
    ∀ field ∈ BodyRecord.chain owner previous records, field.wireId = none := by
  induction records generalizing previous with
  | nil => simp [BodyRecord.chain]
  | cons record records ih => exact List.forall_mem_cons.mpr ⟨rfl, ih record.name⟩

namespace Component

theorem wireId_of_read {options : ReadOptions} {name content : String} {component : Component}
    (h : (read options name content).result = .ok component) :
    ∀ field ∈ component.body, field.wireId = none := by
  rw [result_read] at h
  rw [eq_declareAll_of_readLines h, declareAll_eq]
  exact wireId_chain _ _ _

theorem snd_link (component : Component) (wireType : String) (next : Nat) :
    (component.link wireType next).2 =
      next + wireCount wireType (component.link wireType next).1.body := by
  show (linkFields component.stubs wireType next component.body).2 = next +
    wireCount wireType (linkFields component.stubs wireType next component.body).1
  rw [snd_linkFields, wireCount_linkFields]

theorem name_of_read {options : ReadOptions} {name content : String} {component : Component}
    (h : (read options name content).result = .ok component) : component.name = name := by
  rw [result_read] at h
  exact name_of_readLines h

/-! ### The component of a file -/

/-- What a file gives in a run in which `next` is the first free id. -/
def LinkedFrom (options : ReadOptions) (wireType : String) (next : Nat) (name content : String)
    (component : Component) : Prop :=
  ∃ unlinked, (read options name content).result = .ok unlinked ∧
    component = (unlinked.link wireType next).1

namespace LinkedFrom

variable {options : ReadOptions} {wireType name content : String} {next : Nat}
  {component : Component}

theorem name_eq (h : LinkedFrom options wireType next name content component) :
    component.name = name := by
  obtain ⟨unlinked, hread, rfl⟩ := h
  show unlinked.name = name
  exact name_of_read hread

theorem wireIds_eq (h : LinkedFrom options wireType next name content component) :
    component.body.filterMap BodyField.wireId =
      List.range' next (wireCount wireType component.body) := by
  obtain ⟨unlinked, hread, rfl⟩ := h
  show (linkFields unlinked.stubs wireType next unlinked.body).1.filterMap BodyField.wireId =
    List.range' next (wireCount wireType (linkFields unlinked.stubs wireType next unlinked.body).1)
  rw [wireCount_linkFields]
  exact wireIds_linkFields (wireId_of_read hread)

theorem isSome_wireId_iff (h : LinkedFrom options wireType next name content component) :
    ∀ field ∈ component.body, field.wireId.isSome ↔ field.type = wireType := by
  obtain ⟨unlinked, hread, rfl⟩ := h
  exact isSome_wireId_linkFields (wireId_of_read hread)

end LinkedFrom

end Component

/-!
## Linking from another id

The first id that a component gets is the only thing that linking takes from the components before
it, and all it does is to shift the ids: linked from an id larger by some number, a component has
ids larger by that number and is the same in everything else (`link_add`). `Component.renumber`
says what it is to differ in nothing but the ids.
-/

/-- The field with its id changed, if it has one. -/
def BodyField.renumber (f : Nat → Nat) (field : BodyField) : BodyField :=
  { field with wireId := field.wireId.map f }

/-- The component with its wire ids changed. -/
def Component.renumber (f : Nat → Nat) (component : Component) : Component :=
  { component with body := component.body.map (BodyField.renumber f) }

theorem linkFields_add {stubs : List StubField} {wireType : String} (next shift : Nat)
    {fields : List BodyField} (hnone : ∀ field ∈ fields, field.wireId = none) :
    linkFields stubs wireType (next + shift) fields =
      ((linkFields stubs wireType next fields).1.map (BodyField.renumber (· + shift)),
        (linkFields stubs wireType next fields).2 + shift) := by
  induction fields generalizing next with
  | nil => rfl
  | cons field fields ih =>
    obtain ⟨hfield, hfields⟩ := List.forall_mem_cons.mp hnone
    by_cases h : field.type = wireType
    · have hrest := ih (next + 1) hfields
      rw [Nat.add_right_comm] at hrest
      simp only [linkFields, h, if_true, hrest]
      rfl
    · have hsame (stub : Option Nat) : BodyField.renumber (· + shift)
          { field with linkedStub := stub } = { field with linkedStub := stub } := by
        simp only [BodyField.renumber, hfield, Option.map_none]
      simp only [linkFields, h, if_false, ih next hfields, List.map_cons, hsame]

namespace Component

/-- **Linking from a larger id shifts the ids**, and the id after the last with them. -/
theorem link_add {component : Component} (wireType : String) (next shift : Nat)
    (hnone : ∀ field ∈ component.body, field.wireId = none) :
    component.link wireType (next + shift) =
      ((component.link wireType next).1.renumber (· + shift),
        (component.link wireType next).2 + shift) := by
  unfold link
  rw [linkFields_add next shift hnone]
  rfl

theorem fst_link_eq_renumber {component : Component} (wireType : String) (next : Nat)
    (hnone : ∀ field ∈ component.body, field.wireId = none) :
    (component.link wireType next).1 = (component.link wireType 0).1.renumber (· + next) := by
  have h := link_add wireType 0 next hnone
  rw [Nat.zero_add] at h
  exact congrArg Prod.fst h

end Component

end EntityCodegen
