import EntityCodegen.Proofs.Component.Refusal

/-!
# What a component tells of its display name lines

`namedBy_of_read`: the display name of a component is the text in the last display name line of its
file, or the placeholder where there is no such line. So a component has a display name iff there is
a last display name line and its text is not the placeholder. Whether a file has display name lines
can be told from its component, unless the last of them gives the placeholder itself.
-/

namespace EntityCodegen

theorem exists_last_of_exists {α : Type} {p : α → Prop} {xs : List α} (h : ∃ x ∈ xs, p x) :
    ∃ before x after, xs = before ++ x :: after ∧ p x ∧ ∀ y ∈ after, ¬ p y := by
  induction xs with
  | nil => simp at h
  | cons x xs ih =>
    by_cases hlater : ∃ y ∈ xs, p y
    · obtain ⟨before, y, after, rfl, hy, hafter⟩ := ih hlater
      exact ⟨x :: before, y, after, rfl, hy, hafter⟩
    · obtain ⟨y, hy, hp⟩ := h
      rcases List.mem_cons.mp hy with rfl | hy
      · exact ⟨[], y, xs, rfl, hp, fun z hz hpz => hlater ⟨z, hz, hpz⟩⟩
      · exact absurd ⟨y, hy, hp⟩ hlater

namespace Line

/-- The line gives a display name. -/
def NamesDisplay (delimiter : Char) (raw : String) : Prop :=
  kindOf? delimiter raw = some .displayName

instance (delimiter : Char) (raw : String) : Decidable (NamesDisplay delimiter raw) :=
  inferInstanceAs (Decidable (_ = _))

/-- The text is the one in the last display name line. -/
def LastNamed (delimiter : Char) (raws : List String) (text : String) : Prop :=
  ∃ before raw after, raws = before ++ raw :: after ∧ NamesDisplay delimiter raw ∧
    (read delimiter 1 raw).fields[1]? = some text ∧ ∀ other ∈ after, ¬ NamesDisplay delimiter other

/-- The texts in the display name lines. -/
def displayTexts (delimiter : Char) (raws : List String) : List String :=
  (records delimiter raws).filterMap ComponentRecord.displayName?

section
variable {delimiter : Char} {raw text : String} {raws : List String}

theorem displayTexts_append (delimiter : Char) (raws others : List String) :
    displayTexts delimiter (raws ++ others) =
      displayTexts delimiter raws ++ displayTexts delimiter others := by
  simp [displayTexts, records]

theorem recordOf?_of_namesDisplay (h : NamesDisplay delimiter raw)
    (htext : (read delimiter 1 raw).fields[1]? = some text) :
    recordOf? delimiter raw = some (.displayName text) := by
  rw [recordOf?_eq_bind, h, Option.bind_some, LineKind.record?, htext]
  rfl

theorem namesDisplay_of_recordOf? (h : recordOf? delimiter raw = some (.displayName text)) :
    NamesDisplay delimiter raw := by
  rw [recordOf?_eq_bind, Option.bind_eq_some_iff] at h
  obtain ⟨kind, hkind, hrecord⟩ := h
  cases kind <;> simp [LineKind.record?, Option.bind_eq_some_iff] at hrecord
  exact hkind

theorem displayTexts_of_none (h : ∀ raw ∈ raws, ¬ NamesDisplay delimiter raw) :
    displayTexts delimiter raws = [] := by
  rw [displayTexts, List.filterMap_eq_nil_iff]
  intro record hrecord
  obtain ⟨raw, hraw, hdeclares⟩ := List.mem_filterMap.mp hrecord
  cases record with
  | displayName text => exact absurd (namesDisplay_of_recordOf? hdeclares) (h raw hraw)
  | body | stub | depends => rfl

theorem LastNamed.exists_displayTexts_eq (h : LastNamed delimiter raws text) :
    ∃ earlier, displayTexts delimiter raws = earlier ++ [text] := by
  obtain ⟨before, raw, after, rfl, hraw, htext, hafter⟩ := h
  have hline : displayTexts delimiter [raw] = [text] := by
    rw [displayTexts, records, List.filterMap_cons_some (recordOf?_of_namesDisplay hraw htext)]
    rfl
  have hsplit : before ++ raw :: after = before ++ [raw] ++ after := by simp
  refine ⟨displayTexts delimiter before, ?_⟩
  rw [hsplit, displayTexts_append, displayTexts_append, displayTexts_of_none hafter,
    List.append_nil, hline]

end

end Line

namespace Component

open Line (LastNamed NamesDisplay displayTexts)

variable {options : ReadOptions} {name : String} {raws : List String} {component : Component}

theorem displayName_of_readLines (h : readLines options name raws = .ok component) :
    component.displayName = (displayTexts options.delimiter raws).getLastD placeholderName := by
  rw [eq_declareAll_of_readLines h, declareAll_eq]
  rfl

theorem exists_lastNamed_of_readLines (h : readLines options name raws = .ok component)
    (hnamed : ∃ raw ∈ raws, NamesDisplay options.delimiter raw) :
    ∃ text, LastNamed options.delimiter raws text := by
  obtain ⟨before, raw, after, rfl, hraw, hafter⟩ := exists_last_of_exists hnamed
  obtain ⟨record, hrecord⟩ := exists_recordOf?_of_readLines h (by simp) hraw
  rw [Line.recordOf?_eq_bind, hraw, Option.bind_some, LineKind.record?, Option.bind_eq_bind,
    Option.bind_eq_some_iff] at hrecord
  obtain ⟨text, htext, -⟩ := hrecord
  exact ⟨text, before, raw, after, rfl, hraw, htext, hafter⟩

/-- What a component tells of the display name lines of its file. -/
structure NamedBy (delimiter : Char) (raws : List String) (component : Component) : Prop where
  /-- The last display name line gives the name, whatever the others give. -/
  named : ∀ text, LastNamed delimiter raws text → component.displayName = text
  unnamed : (∀ raw ∈ raws, ¬ NamesDisplay delimiter raw) → component.displayName = placeholderName
  /-- A display name line always gives a text. -/
  exists_iff : (∃ raw ∈ raws, NamesDisplay delimiter raw) ↔ ∃ text, LastNamed delimiter raws text
  hasDisplayName_iff : component.hasDisplayName = true ↔
    ∃ text, LastNamed delimiter raws text ∧ text ≠ placeholderName
  /-- Whether there are display name lines can be told, unless the last gives the placeholder. -/
  tells_iff : (component.hasDisplayName = true ↔ ∃ raw ∈ raws, NamesDisplay delimiter raw) ↔
    ¬ LastNamed delimiter raws placeholderName

/-- **A component has a display name iff the last display name line of its file gives one that is
not the placeholder.** -/
theorem namedBy_of_read {content : String}
    (h : (read options name content).result = .ok component) :
    NamedBy options.delimiter (Text.lines content) component := by
  rw [result_read] at h
  have hname := displayName_of_readLines h
  have hnamed (text : String) (htext : LastNamed options.delimiter (Text.lines content) text) :
      component.displayName = text := by
    obtain ⟨earlier, heq⟩ := htext.exists_displayTexts_eq
    rw [hname, heq, List.getLastD_concat]
  have hunnamed (hnone : ∀ raw ∈ Text.lines content, ¬ NamesDisplay options.delimiter raw) :
      component.displayName = placeholderName := by
    rw [hname, Line.displayTexts_of_none hnone]
    rfl
  have hexists : (∃ raw ∈ Text.lines content, NamesDisplay options.delimiter raw) ↔
      ∃ text, LastNamed options.delimiter (Text.lines content) text := by
    refine ⟨exists_lastNamed_of_readLines h, ?_⟩
    rintro ⟨text, before, raw, after, hsplit, hraw, -⟩
    exact ⟨raw, by simp [hsplit], hraw⟩
  have hhas : component.hasDisplayName = true ↔
      ∃ text, LastNamed options.delimiter (Text.lines content) text ∧ text ≠ placeholderName := by
    rw [hasDisplayName, bne_iff_ne]
    constructor
    · intro hne
      by_cases hsome : ∃ raw ∈ Text.lines content, NamesDisplay options.delimiter raw
      · obtain ⟨text, htext⟩ := hexists.mp hsome
        exact ⟨text, htext, hnamed text htext ▸ hne⟩
      · exact absurd (hunnamed fun raw hraw hnames => hsome ⟨raw, hraw, hnames⟩) hne
    · rintro ⟨text, htext, hne⟩
      rwa [hnamed text htext]
  refine ⟨hnamed, hunnamed, hexists, hhas, ?_⟩
  rw [hhas, hexists]
  constructor
  · intro htells hplaceholder
    obtain ⟨text, htext, hne⟩ := htells.mpr ⟨placeholderName, hplaceholder⟩
    exact hne ((hnamed text htext).symm.trans (hnamed _ hplaceholder))
  · intro hnot
    refine ⟨fun ⟨text, htext, _⟩ => ⟨text, htext⟩, fun ⟨text, htext⟩ => ⟨text, htext, ?_⟩⟩
    rintro rfl
    exact hnot htext

/-- The last line gives a text that is not the placeholder, since there is a blank before it. -/
theorem namedBy_of_read_blank : ∃ component,
    (read .standard "door" "ui_name,Invalid Name\nbody,int,pos,1\nui_name, Invalid Name").result =
      .ok component ∧
    NamedBy ',' (Text.lines "ui_name,Invalid Name\nbody,int,pos,1\nui_name, Invalid Name")
      component ∧
    component.hasDisplayName = true := by
  have hread : (read .standard "door"
      "ui_name,Invalid Name\nbody,int,pos,1\nui_name, Invalid Name").result =
        .ok ⟨"door", " Invalid Name", [⟨"int", "pos", "1", "entity", "door", none, none⟩], [],
          []⟩ := by
    decide +kernel
  exact ⟨_, hread, namedBy_of_read hread, by decide⟩

/-- A component that was given the placeholder for a name does not tell that it was given one. -/
theorem placeholder_not_told : ∃ component,
    (read .standard "door" "ui_name,Invalid Name").result = .ok component ∧
    ¬ (component.hasDisplayName = true ↔
      ∃ raw ∈ Text.lines "ui_name,Invalid Name", NamesDisplay ',' raw) := by
  refine ⟨⟨"door", "Invalid Name", [], [], []⟩, by decide +kernel, ?_⟩
  decide +kernel

end Component

end EntityCodegen
