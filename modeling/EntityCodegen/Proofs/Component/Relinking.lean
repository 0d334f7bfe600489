import EntityCodegen.Proofs.Component.Consistency

/-!
# Linking again

`link_again`: what linking makes of a component, whatever links and ids it has from before. Links and
the ids of the wire filters are set anew (`getElem?_linkFields`). A field of another type keeps the
id that it has, so linking looks at the past of a component in this one place: it gives what linking
the component without links and ids would give iff no other field has an id.

After a number of linkings those fields have ids whose type was once the wire type
(`hasId_linkedBy`). So it is linking with another wire type that shows later.
-/

namespace EntityCodegen

/-! ### One list of fields -/

/-- The field as it was declared. -/
def BodyField.unlinked (field : BodyField) : BodyField :=
  { field with linkedStub := none, wireId := none }

/-- No field of another type than the wire type has an id. -/
def NoOtherIds (wireType : String) (fields : List BodyField) : Prop :=
  ∀ field ∈ fields, field.type ≠ wireType → field.wireId = none

/-- The ids of the fields of other types than the wire type. -/
def otherIds (wireType : String) (fields : List BodyField) : List Nat :=
  (fields.filter fun field => field.type ≠ wireType).filterMap BodyField.wireId

/-- A field of the type has an id. -/
def HasId (type : String) (fields : List BodyField) : Prop :=
  ∃ field ∈ fields, field.type = type ∧ field.wireId.isSome

@[simp] theorem hasId_nil (type : String) : ¬ HasId type [] := by
  simp [HasId]

theorem hasId_cons {type : String} {field : BodyField} {fields : List BodyField} :
    HasId type (field :: fields) ↔
      (field.type = type ∧ field.wireId.isSome) ∨ HasId type fields := by
  simp [HasId]

theorem otherIds_cons (wireType : String) (field : BodyField) (fields : List BodyField) :
    otherIds wireType (field :: fields) =
      (if field.type = wireType then [] else field.wireId.toList) ++ otherIds wireType fields := by
  by_cases h : field.type = wireType
  · simp [otherIds, h]
  · cases hid : field.wireId <;> simp [otherIds, h, hid]

theorem noOtherIds_iff {wireType : String} {fields : List BodyField} :
    NoOtherIds wireType fields ↔ ∀ type, type ≠ wireType → ¬ HasId type fields := by
  constructor
  · rintro h _ hne ⟨field, hfield, rfl, hid⟩
    rw [h field hfield hne] at hid
    cases hid
  · intro h field hfield hne
    by_contra hid
    exact h field.type hne ⟨field, hfield, rfl, Option.isSome_iff_ne_none.mpr hid⟩

section
variable {stubs : List StubField} {wireType type : String} {next position : Nat}

theorem getElem?_linkFields (fields : List BodyField) :
    (linkFields stubs wireType next fields).1[position]? =
      fields[position]?.map fun field =>
        { field with
          linkedStub := firstStub? stubs field.name
          wireId := if field.type = wireType then
            some (next + wireCount wireType (fields.take position)) else field.wireId } := by
  induction fields generalizing next position with
  | nil => simp [linkFields]
  | cons field fields ih =>
    rw [fst_linkFields_cons]
    cases position with
    | zero => simp [wireCount]
    | succ position =>
      have hnext : (if field.type = wireType then next + 1 else next) +
          wireCount wireType (fields.take position) =
          next + wireCount wireType (field :: fields.take position) := by
        rw [wireCount_cons]
        split <;> omega
      rw [List.getElem?_cons_succ, List.getElem?_cons_succ, ih, hnext, List.take_succ_cons]

theorem map_unlinked_linkFields (fields : List BodyField) :
    (linkFields stubs wireType next fields).1.map BodyField.unlinked =
      fields.map BodyField.unlinked :=
  map_linkFields (fun _ _ => rfl) fields

theorem wireCount_unlinked (fields : List BodyField) :
    wireCount wireType (fields.map BodyField.unlinked) = wireCount wireType fields := by
  rw [wireCount, List.countP_map]
  rfl

theorem wireIds_filter_linkFields (fields : List BodyField) :
    ((linkFields stubs wireType next fields).1.filter fun field => field.type = wireType).map
        BodyField.wireId =
      (List.range' next (wireCount wireType fields)).map some := by
  induction fields generalizing next with
  | nil => rfl
  | cons field fields ih =>
    rw [fst_linkFields_cons, wireCount_cons]
    by_cases h : field.type = wireType
    · simp [h, ih, List.range'_succ]
    · simp [h, ih]

theorem perm_wireIds_linkFields (fields : List BodyField) :
    ((linkFields stubs wireType next fields).1.filterMap BodyField.wireId).Perm
      (List.range' next (wireCount wireType fields) ++ otherIds wireType fields) := by
  induction fields generalizing next with
  | nil => exact .nil
  | cons field fields ih =>
    rw [fst_linkFields_cons, wireCount_cons, otherIds_cons]
    by_cases h : field.type = wireType
    · simp only [h, if_true, List.filterMap_cons, List.range'_succ, List.cons_append]
      exact ih.cons next
    · simp only [h, if_false, List.filterMap_cons, Nat.add_zero]
      cases field.wireId with
      | none => exact ih
      | some id => exact (ih.cons id).trans List.perm_middle.symm

theorem linkFields_unlinked_iff (fields : List BodyField) :
    (linkFields stubs wireType next fields).1 =
        (linkFields stubs wireType next (fields.map BodyField.unlinked)).1 ↔
      NoOtherIds wireType fields := by
  induction fields generalizing next with
  | nil => simp [linkFields, NoOtherIds]
  | cons field fields ih =>
    rw [List.map_cons, fst_linkFields_cons, fst_linkFields_cons, List.cons.injEq, NoOtherIds,
      List.forall_mem_cons]
    refine and_congr ?_ ih
    by_cases h : field.type = wireType <;> simp [BodyField.unlinked, h]

theorem hasId_linkFields (fields : List BodyField) :
    HasId type (linkFields stubs wireType next fields).1 ↔
      (wireType = type ∧ 0 < wireCount type fields) ∨ HasId type fields := by
  induction fields generalizing next with
  | nil => simp [linkFields, wireCount]
  | cons field fields ih =>
    rw [fst_linkFields_cons, hasId_cons, ih, hasId_cons, wireCount_cons]
    by_cases htype : field.type = type
    · subst htype
      by_cases hwire : field.type = wireType
      · simp [hwire]
      · simp [hwire, Ne.symm hwire]
    · simp [htype]

end

theorem firstStub?_eq_some_iff {stubs : List StubField} {name : String} {position : Nat} :
    firstStub? stubs name = some position ↔ FirstStub stubs name position := by
  refine ⟨firstStub_of_firstStub?, fun h => ?_⟩
  obtain ⟨⟨stub, hstub, hname⟩, hfirst⟩ := h
  obtain ⟨hrange, rfl⟩ := List.getElem?_eq_some_iff.mp hstub
  refine List.findIdx?_eq_some_iff_getElem.mpr ⟨hrange, by simpa using hname, fun earlier hlt => ?_⟩
  simpa using hfirst earlier hlt _ (List.getElem?_eq_getElem (Nat.lt_trans hlt hrange))

theorem firstStub?_eq_none_iff {stubs : List StubField} {name : String} :
    firstStub? stubs name = none ↔ ∀ stub ∈ stubs, stub.name ≠ name := by
  simp [firstStub?, List.findIdx?_eq_none_iff]

theorem otherIds_eq_nil {wireType : String} {fields : List BodyField}
    (h : NoOtherIds wireType fields) : otherIds wireType fields = [] := by
  refine List.filterMap_eq_nil_iff.mpr fun field hfield => ?_
  rw [List.mem_filter, decide_eq_true_eq] at hfield
  exact h field hfield.1 hfield.2

namespace Component

variable {component : Component} {wireType type : String} {next : Nat}

/-- The component as it was declared. -/
def unlinked (component : Component) : Component :=
  { component with body := component.body.map BodyField.unlinked }

theorem unlinked_link (component : Component) (wireType : String) (next : Nat) :
    (component.link wireType next).1.unlinked = component.unlinked := by
  show Component.mk _ _ ((linkFields component.stubs wireType next component.body).1.map
    BodyField.unlinked) _ _ = _
  rw [map_unlinked_linkFields]
  rfl

theorem noOtherIds_link :
    NoOtherIds wireType (component.link wireType next).1.body ↔
      NoOtherIds wireType component.body := by
  have hlink : (component.link wireType next).1.body =
      (linkFields component.stubs wireType next component.body).1 := rfl
  rw [hlink, noOtherIds_iff, noOtherIds_iff]
  refine forall₂_congr fun type hne => not_congr ?_
  rw [hasId_linkFields]
  exact or_iff_right fun h => hne h.1.symm

theorem link_eq_link_unlinked_iff :
    component.link wireType next = component.unlinked.link wireType next ↔
      NoOtherIds wireType component.body := by
  rw [← @linkFields_unlinked_iff component.stubs wireType next component.body]
  have hafter : (linkFields component.stubs wireType next component.body).2 =
      (linkFields component.stubs wireType next (component.body.map BodyField.unlinked)).2 := by
    rw [snd_linkFields, snd_linkFields, wireCount_unlinked]
  show (Component.mk _ _ (linkFields component.stubs wireType next component.body).1 _ _,
      (linkFields component.stubs wireType next component.body).2) =
    (Component.mk _ _ (linkFields component.stubs wireType next
      (component.body.map BodyField.unlinked)).1 _ _, _) ↔ _
  rw [hafter]
  simp [unlinked]

/-! ### Any number of linkings -/

/-- The component after it was linked once for each wire type and first id. -/
def linkedBy (component : Component) (links : List (String × Nat)) : Component :=
  links.foldl (fun component link => (component.link link.1 link.2).1) component

theorem unlinked_linkedBy (component : Component) (links : List (String × Nat)) :
    (component.linkedBy links).unlinked = component.unlinked := by
  induction links generalizing component with
  | nil => rfl
  | cons link links ih => exact (ih _).trans (unlinked_link component link.1 link.2)

theorem hasId_linkedBy (links : List (String × Nat)) :
    HasId type (component.linkedBy links).body ↔
      ((∃ link ∈ links, link.1 = type) ∧ 0 < wireCount type component.body) ∨
        HasId type component.body := by
  induction links generalizing component with
  | nil => simp [linkedBy]
  | cons link links ih =>
    have hbody : (component.link link.1 link.2).1.body =
        (linkFields component.stubs link.1 link.2 component.body).1 := rfl
    have hcount : wireCount type (component.link link.1 link.2).1.body =
        wireCount type component.body := by
      rw [← wireCount_unlinked, hbody, map_unlinked_linkFields, wireCount_unlinked]
    have hstep : HasId type (component.linkedBy (link :: links)).body ↔
        HasId type ((component.link link.1 link.2).1.linkedBy links).body := Iff.rfl
    rw [hstep, ih, hcount, hbody, hasId_linkFields, List.exists_mem_cons_iff]
    rw [or_and_right, or_assoc, or_left_comm]

/-- **Linking after other linkings is linking from the start** iff none of them gave ids to a field
that is no wire filter now. -/
theorem link_linkedBy_iff (links : List (String × Nat)) :
    (component.unlinked.linkedBy links).link wireType next =
        component.unlinked.link wireType next ↔
      ∀ link ∈ links, link.1 ≠ wireType → wireCount link.1 component.body = 0 := by
  have hunlinked : (component.unlinked.linkedBy links).unlinked = component.unlinked := by
    rw [unlinked_linkedBy]
    simp [unlinked, BodyField.unlinked]
  have hnone (type : String) : ¬ HasId type component.unlinked.body := by
    rintro ⟨field, hfield, -, hid⟩
    obtain ⟨declared, -, rfl⟩ := List.mem_map.mp hfield
    cases hid
  have hcount (type : String) :
      wireCount type component.unlinked.body = wireCount type component.body :=
    wireCount_unlinked component.body
  have hdirect := @link_eq_link_unlinked_iff (component.unlinked.linkedBy links) wireType next
  rw [hunlinked] at hdirect
  rw [hdirect, noOtherIds_iff]
  simp only [hasId_linkedBy, hnone, or_false, hcount, not_and, Nat.not_lt, Nat.le_zero]
  constructor
  · intro h link hlink hne
    exact h link.1 hne ⟨link, hlink, rfl⟩
  · rintro h _ hne ⟨link, hlink, rfl⟩
    exact h link hlink hne

/-! ### Linked components -/

theorem nodup_wireIds_link_iff :
    ((component.link wireType next).1.body.filterMap BodyField.wireId).Nodup ↔
      (otherIds wireType component.body).Nodup ∧ ∀ id ∈ otherIds wireType component.body,
        id < next ∨ next + wireCount wireType component.body ≤ id := by
  have hperm := @perm_wireIds_linkFields component.stubs wireType next component.body
  refine hperm.nodup_iff.trans ?_
  rw [List.nodup_append]
  constructor
  · rintro ⟨-, hnodup, hapart⟩
    refine ⟨hnodup, fun id hid => ?_⟩
    by_contra hbetween
    exact hapart id (List.mem_range'_1.mpr (by omega)) id hid rfl
  · rintro ⟨hnodup, hapart⟩
    refine ⟨List.nodup_range', hnodup, ?_⟩
    rintro id hnew _ hid rfl
    have hfree := hapart id hid
    rw [List.mem_range'_1] at hnew
    omega

/-- What linking makes of a component, whatever it was linked with before. -/
structure LinkedAnew (component : Component) (wireType : String) (next : Nat) : Prop where
  after : (component.link wireType next).2 = next + wireCount wireType component.body
  unchanged : (component.link wireType next).1.unlinked = component.unlinked
  /-- The wire filters have the ids from the first on, in order. -/
  wireIds :
    ((component.link wireType next).1.body.filter fun field => field.type = wireType).map
        BodyField.wireId =
      (List.range' next (wireCount wireType component.body)).map some
  /-- A field of another type has the id that it had. -/
  others : ∀ (position : Nat) (field : BodyField), component.body[position]? = some field →
    field.type ≠ wireType →
    (component.link wireType next).1.body[position]?.map BodyField.wireId = some field.wireId
  stubs : ∀ field ∈ (component.link wireType next).1.body,
    (∀ position, field.linkedStub = some position ↔
      FirstStub component.stubs field.name position) ∧
    (field.linkedStub = none ↔ ∀ stub ∈ component.stubs, stub.name ≠ field.name)
  /-- Only the wire filters have ids iff that was so before. -/
  noOtherIds : NoOtherIds wireType (component.link wireType next).1.body ↔
    NoOtherIds wireType component.body
  distinct : ((component.link wireType next).1.body.filterMap BodyField.wireId).Nodup ↔
    (otherIds wireType component.body).Nodup ∧ ∀ id ∈ otherIds wireType component.body,
      id < next ∨ next + wireCount wireType component.body ≤ id
  distinct_of_noOtherIds : NoOtherIds wireType component.body →
    ((component.link wireType next).1.body.filterMap BodyField.wireId).Nodup
  direct : component.link wireType next = component.unlinked.link wireType next ↔
    NoOtherIds wireType component.body
  history : ∀ links, (component.unlinked.linkedBy links).link wireType next =
      component.unlinked.link wireType next ↔
    ∀ link ∈ links, link.1 ≠ wireType → wireCount link.1 component.body = 0

/-- **What linking makes of a component**, linked before or not. -/
theorem link_again (component : Component) (wireType : String) (next : Nat) :
    LinkedAnew component wireType next where
  after := snd_linkFields component.body
  unchanged := unlinked_link component wireType next
  wireIds := wireIds_filter_linkFields component.body
  others position field hfield hne := by
    show (linkFields component.stubs wireType next component.body).1[position]?.map _ = _
    rw [getElem?_linkFields, hfield, Option.map_some, Option.map_some, if_neg hne]
  stubs linked hlinked := by
    obtain ⟨field, -, id, rfl⟩ := exists_of_mem_linkFields hlinked
    exact ⟨fun position => firstStub?_eq_some_iff, firstStub?_eq_none_iff⟩
  noOtherIds := noOtherIds_link
  distinct := nodup_wireIds_link_iff
  distinct_of_noOtherIds h := by
    rw [nodup_wireIds_link_iff, otherIds_eq_nil h]
    simp
  direct := link_eq_link_unlinked_iff
  history := link_linkedBy_iff

/-- A door with a field of each of two types. -/
def twoTypeDoor : Component :=
  ((ofName "door").pushBody "hinge_ptr" "hinge" "").pushBody "wire_filter_ptr" "filter" ""

/-- The door's first field keeps the id from being linked with its type, which the second field gets
too when the door is linked with the other. -/
theorem link_keeps_id :
    let again := ((twoTypeDoor.link "hinge_ptr" 0).1.link "wire_filter_ptr" 0).1
    again.body.map BodyField.wireId = [some 0, some 0] ∧
      ¬ NoOtherIds "wire_filter_ptr" again.body ∧
      ¬ (again.body.filterMap BodyField.wireId).Nodup ∧
      again ≠ (twoTypeDoor.link "wire_filter_ptr" 0).1 := by
  refine ⟨by decide, fun h => ?_, by decide, by decide⟩
  exact absurd (h _ List.mem_cons_self (by decide)) (by decide)

end Component

end EntityCodegen
