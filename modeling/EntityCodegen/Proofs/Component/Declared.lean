import EntityCodegen.Definition.Component

/-!
# Declared components

The component that a list of records declares (`declareAll_eq`): its body fields and stub fields are
the declared ones in order, each body field behind the one before it, and its display name and its
dependencies are the last that were declared.
-/

namespace EntityCodegen

/-- What a body line declares. -/
structure BodyRecord where
  type : String
  name : String
  defaultValue : String
  deriving DecidableEq, Repr

/-- What a stub line declares. -/
structure StubRecord where
  outerType : String
  type : String
  lead : String
  name : String
  extra : String
  deriving DecidableEq, Repr

/-- The fields of the records, behind the pool member `previous`. -/
def BodyRecord.chain (owner : String) : String → List BodyRecord → List BodyField
  | _, [] => []
  | previous, record :: rest =>
    ⟨record.type, record.name, record.defaultValue, previous, owner, none, none⟩ ::
      chain owner record.name rest

theorem BodyRecord.map_chain {α : Type} {owner : String} {f : BodyField → α}
    {g : String → BodyRecord → α}
    (h : ∀ previous record,
      f ⟨record.type, record.name, record.defaultValue, previous, owner, none, none⟩ =
        g previous record) (previous : String) (records : List BodyRecord) :
    (chain owner previous records).map f =
      List.zipWith g (previous :: records.map BodyRecord.name) records := by
  induction records generalizing previous with
  | nil => rfl
  | cons record rest ih => rw [chain, List.map_cons, ih, h, List.map_cons, List.zipWith_cons_cons]

theorem BodyRecord.map_chain_eq_map {α : Type} {owner : String} {f : BodyField → α}
    {g : BodyRecord → α}
    (h : ∀ previous record,
      f ⟨record.type, record.name, record.defaultValue, previous, owner, none, none⟩ = g record)
    (previous : String) (records : List BodyRecord) :
    (chain owner previous records).map f = records.map g := by
  induction records generalizing previous with
  | nil => rfl
  | cons record rest ih => rw [chain, List.map_cons, ih, h, List.map_cons]

def StubRecord.field (owner : String) (record : StubRecord) : StubField :=
  ⟨record.outerType, record.type, record.lead, record.name, record.extra, owner⟩

namespace ComponentRecord

def body? : ComponentRecord → Option BodyRecord
  | body type name defaultValue => some ⟨type, name, defaultValue⟩
  | _ => none

def stub? : ComponentRecord → Option StubRecord
  | stub outerType type lead name extra => some ⟨outerType, type, lead, name, extra⟩
  | _ => none

def depends? : ComponentRecord → Option (List String)
  | depends names => some names
  | _ => none

def displayName? : ComponentRecord → Option String
  | displayName text => some text
  | _ => none

/-- The name of the declared body field. -/
def fieldName? (record : ComponentRecord) : Option String :=
  record.body?.map BodyRecord.name

end ComponentRecord

namespace Component

/-- The component with what a record declares. -/
def declare (component : Component) : ComponentRecord → Component
  | .body type name defaultValue => component.pushBody type name defaultValue
  | .stub outerType type lead name extra => component.pushStub outerType type lead name extra
  | .depends names => { component with dependencies := names }
  | .displayName text => { component with displayName := text }

/-- The component with what the records declare, one after the other. -/
def declareAll (component : Component) (records : List ComponentRecord) : Component :=
  records.foldl declare component

@[simp] theorem declareAll_nil (component : Component) : component.declareAll [] = component := rfl

@[simp] theorem declareAll_cons (component : Component) (record : ComponentRecord)
    (records : List ComponentRecord) :
    component.declareAll (record :: records) = (component.declare record).declareAll records := rfl

@[simp] theorem lastMember_pushBody (component : Component) (type name defaultValue : String) :
    (component.pushBody type name defaultValue).lastMember = name := by
  simp [lastMember, pushBody]

/-- **What records declare**, added to a component that is there before. -/
theorem declareAll_eq (component : Component) (records : List ComponentRecord) :
    component.declareAll records =
      { name := component.name
        displayName :=
          (records.filterMap ComponentRecord.displayName?).getLastD component.displayName
        body := component.body ++ BodyRecord.chain component.name component.lastMember
          (records.filterMap ComponentRecord.body?)
        stubs := component.stubs ++
          (records.filterMap ComponentRecord.stub?).map (StubRecord.field component.name)
        dependencies :=
          (records.filterMap ComponentRecord.depends?).getLastD component.dependencies } := by
  induction records generalizing component with
  | nil => simp [BodyRecord.chain]
  | cons record records ih =>
    rw [declareAll_cons, ih]
    cases record with
    | body type name defaultValue =>
      have hlast := lastMember_pushBody component type name defaultValue
      simp only [declare, hlast]
      simp only [pushBody, List.append_assoc, List.singleton_append]
      rfl
    | stub outerType type lead name extra =>
      simp only [declare, pushStub, List.append_assoc, List.singleton_append]
      rfl
    | depends names =>
      simp only [declare, List.filterMap_cons, ComponentRecord.depends?, List.getLastD_cons]
      rfl
    | displayName text =>
      simp only [declare, List.filterMap_cons, ComponentRecord.displayName?, List.getLastD_cons]
      rfl

def fieldNames (component : Component) : List String :=
  component.body.map BodyField.name

@[simp] theorem fieldNames_declare (component : Component) (record : ComponentRecord) :
    (component.declare record).fieldNames = component.fieldNames ++ record.fieldName?.toList := by
  cases record <;>
    simp [declare, fieldNames, pushBody, pushStub, ComponentRecord.fieldName?,
      ComponentRecord.body?]

theorem hasField_iff (component : Component) (name : String) :
    component.hasField name = true ↔ name ∈ component.fieldNames := by
  simp [hasField, fieldNames]

end Component

end EntityCodegen
