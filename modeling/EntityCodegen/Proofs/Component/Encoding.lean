import EntityCodegen.Proofs.Component.Reading
import EntityCodegen.Proofs.Text.Lines

/-!
# Writing a line of a component file

A line is written as its tag and the texts behind it, joined by the delimiter. Where the texts can be
told apart in the line (`Writable`) and the delimiter carries them (`Carries`), the line is trimmed
already, for it begins with its tag and does not end in a blank, and it is read with the fields that
were joined (`read_line`). So it declares the record of its kind with these fields
(`recordOf?_line`). A delimiter that separates fields (`Separates`) carries all texts.
-/

namespace EntityCodegen

/-- The line of the kind with the texts behind its tag. -/
def LineKind.line (delimiter : Char) (kind : LineKind) (texts : List String) : String :=
  Text.ofFields delimiter (kind.tag :: texts)

def BodyRecord.texts (record : BodyRecord) : List String :=
  [record.type, record.name, record.defaultValue]

def StubRecord.texts (record : StubRecord) : List String :=
  [record.outerType, record.type, record.lead, record.name, record.extra]

/-- No text holds the delimiter or a line feed, and the last does not end in a blank. -/
structure Writable (delimiter : Char) (texts : List String) : Prop where
  delimiter : ∀ text ∈ texts, delimiter ∉ text.toList
  lineFeed : ∀ text ∈ texts, '\n' ∉ text.toList
  last : ∀ text, texts.getLast? = some text → ∀ c, text.toList.getLast? = some c →
    Text.isBlank c = false

instance (delimiter : Char) (texts : List String) : Decidable (Writable delimiter texts) :=
  decidable_of_iff
    ((∀ text ∈ texts, delimiter ∉ text.toList) ∧ (∀ text ∈ texts, '\n' ∉ text.toList) ∧
      texts.getLast?.all fun text => text.toList.getLast?.all fun c => !Text.isBlank c)
    ⟨fun h => ⟨h.1, h.2.1, by simpa [Option.all_eq_true] using h.2.2⟩,
      fun h => ⟨h.delimiter, h.lineFeed, by simpa [Option.all_eq_true] using h.last⟩⟩

/-- A character that can stand between the fields of every kind of line. -/
structure Separates (delimiter : Char) : Prop where
  nonblank : Text.isBlank delimiter = false
  tag : ∀ kind : LineKind, delimiter ∉ kind.tag.toList

/-- A character that can stand between the fields of a line of the kind with these texts. A line feed
would end the line, and a blank at the line's end is trimmed. -/
structure Carries (delimiter : Char) (kind : LineKind) (texts : List String) : Prop where
  tag : delimiter ∉ kind.tag.toList
  lineFeed : delimiter = '\n' → texts = []
  blank : Text.isBlank delimiter → texts.getLast? ≠ some ""

instance (delimiter : Char) (kind : LineKind) (texts : List String) :
    Decidable (Carries delimiter kind texts) :=
  decidable_of_iff
    (delimiter ∉ kind.tag.toList ∧ (delimiter = '\n' → texts = []) ∧
      (Text.isBlank delimiter → texts.getLast? ≠ some ""))
    ⟨fun h => ⟨h.1, h.2.1, h.2.2⟩, fun h => ⟨h.tag, h.lineFeed, h.blank⟩⟩

theorem Separates.carries {delimiter : Char} (h : Separates delimiter) (kind : LineKind)
    (texts : List String) : Carries delimiter kind texts where
  tag := h.tag kind
  lineFeed hfeed := absurd hfeed (Text.ne_newline_of_isBlank_eq_false h.nonblank)
  blank hblank := by
    rw [h.nonblank] at hblank
    cases hblank

namespace LineKind

theorem ofTag?_tag (kind : LineKind) : ofTag? kind.tag = some kind := by
  cases kind <;> decide

theorem toList_tag_ne_nil (kind : LineKind) : kind.tag.toList ≠ [] := by
  cases kind <;> decide

theorem nonblank_of_mem_tag (kind : LineKind) :
    ∀ c ∈ kind.tag.toList, Text.isBlank c = false := by
  have hall : kind.tag.toList.all fun c => !Text.isBlank c := by
    cases kind <;> decide
  simpa [List.all_eq_true] using hall

theorem newline_not_mem_tag (kind : LineKind) : '\n' ∉ kind.tag.toList := by
  intro hmem
  exact Text.ne_newline_of_isBlank_eq_false (kind.nonblank_of_mem_tag '\n' hmem) rfl

end LineKind

section
variable {delimiter : Char} {texts : List String}

theorem newline_not_mem_line (kind : LineKind) (hd : delimiter = '\n' → texts = [])
    (h : Writable delimiter texts) : '\n' ∉ (kind.line delimiter texts).toList := by
  intro hmem
  rcases Text.mem_ofFields hmem with hnewline | ⟨text, htext, hc⟩
  · -- without texts there is only the tag on the line
    rw [hd hnewline.symm] at hmem
    exact kind.newline_not_mem_tag (by simpa [LineKind.line] using hmem)
  · rcases List.mem_cons.mp htext with rfl | htext
    · exact kind.newline_not_mem_tag hc
    · exact h.lineFeed text htext hc

theorem trim_line (kind : LineKind)
    (hd : Text.isBlank delimiter → texts.getLast? ≠ some "") (h : Writable delimiter texts) :
    Text.trim (kind.line delimiter texts) = kind.line delimiter texts := by
  have hhead : ∀ c, (kind.line delimiter texts).toList.head? = some c →
      Text.isBlank c = false := by
    intro c hc
    rw [LineKind.line, Text.head?_ofFields _ kind.toList_tag_ne_nil] at hc
    exact kind.nonblank_of_mem_tag c (List.mem_of_head? hc)
  have hlast : ∀ c, (kind.line delimiter texts).toList.getLast? = some c →
      Text.isBlank c = false := by
    intro c hc
    rcases Text.getLast?_ofFields hc with ⟨rfl, hempty⟩ | ⟨text, htext, hlast⟩
    · rw [Bool.eq_false_iff]
      exact fun hblank => hd hblank hempty
    · cases texts with
      | nil =>
        rw [List.getLast?_singleton, Option.some.injEq] at htext
        rw [← htext] at hlast
        exact kind.nonblank_of_mem_tag c (List.mem_of_getLast? hlast)
      | cons first rest =>
        rw [List.getLast?_cons_cons] at htext
        exact h.last text htext c hlast
  rw [Text.trim, Text.trimChars_eq_self hhead hlast, String.ofList_toList]

theorem read_line (kind : LineKind) (hd : Carries delimiter kind texts)
    (h : Writable delimiter texts) (number : Nat) :
    Line.read delimiter number (kind.line delimiter texts) =
      ⟨number, kind.line delimiter texts, kind.tag :: texts⟩ := by
  have hfields : Text.fields delimiter (kind.line delimiter texts) = kind.tag :: texts := by
    refine Text.fields_ofFields (by simp) fun text htext => ?_
    rcases List.mem_cons.mp htext with rfl | htext
    · exact hd.tag
    · exact h.delimiter text htext
  rw [Line.read, trim_line kind hd.blank h, hfields]

theorem recordOf?_line (kind : LineKind) (hd : Carries delimiter kind texts)
    (h : Writable delimiter texts) :
    Line.recordOf? delimiter (kind.line delimiter texts) = kind.record? (kind.tag :: texts) := by
  rw [Line.recordOf?, read_line kind hd h, Line.record?, Line.tag, List.headD_cons,
    LineKind.ofTag?_tag, Option.bind_some]

end

end EntityCodegen
