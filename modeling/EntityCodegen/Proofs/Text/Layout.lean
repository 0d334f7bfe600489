import EntityCodegen.Proofs.Result
import EntityCodegen.Proofs.Text.Lines
import EntityCodegen.Proofs.Text.Runs
import Mathlib.Data.List.Induction

/-!
# Layout

What of a text does not depend on how it is laid out: its inked lines, which are those that are not
blank, trimmed and with their numbers. They stay the same when a carriage return is put before each
line feed (`inked_withReturns`), when there are other blanks at the ends of lines
(`inked_ofLines_respaced`), and when the text gets one more line feed at its end
(`inked_append_newline`). When blank lines are put between the lines, the inked lines move down by
the number of those put before them (`inked_ofLines_texts`).

All of this is about the pieces between the line feeds, since a text is those pieces one below the
other, and reading it gives their inked lines (`inked_eq`).
-/

namespace EntityCodegen.Text

/-! ### Blanks at the ends of a line -/

/-- A text of blanks on one line. -/
def IsSpace (text : String) : Prop :=
  ∀ c ∈ text.toList, isBlank c ∧ c ≠ '\n'

instance (text : String) : Decidable (IsSpace text) :=
  List.decidableBAll (fun c => isBlank c ∧ c ≠ '\n') text.toList

/-- The line with blanks added at its ends. -/
def Padded (raw padded : String) : Prop :=
  ∃ front back, IsSpace front ∧ IsSpace back ∧ padded = front ++ raw ++ back

/-- The lines are the same but for blanks at their ends. -/
def Respaced (raw other : String) : Prop :=
  ∃ core, Padded core raw ∧ Padded core other

theorem trimChars_append_blanks (cs : List Char) {back : List Char} (h : ∀ c ∈ back, isBlank c) :
    trimChars (cs ++ back) = trimChars cs := by
  induction back using List.reverseRecOn with
  | nil => rw [List.append_nil]
  | append_singleton back c ih =>
    rw [List.forall_mem_append] at h
    rw [← List.append_assoc, trimChars_append_blank _ (h.2 c (by simp)), ih h.1]

theorem trimChars_blanks_append {front : List Char} (cs : List Char) (h : ∀ c ∈ front, isBlank c) :
    trimChars (front ++ cs) = trimChars cs := by
  rw [trimChars, List.dropWhile_append_of_pos h, ← trimChars]

theorem trim_of_isSpace {raw : String} (h : IsSpace raw) : trim raw = "" := by
  have hchars := trimChars_blanks_append [] fun c hc => (h c hc).1
  rw [List.append_nil, trimChars_nil] at hchars
  rw [trim, hchars]

theorem trim_of_padded {raw padded : String} (h : Padded raw padded) : trim padded = trim raw := by
  obtain ⟨front, back, hfront, hback, rfl⟩ := h
  have hchars : trimChars (front.toList ++ raw.toList ++ back.toList) = trimChars raw.toList := by
    rw [trimChars_append_blanks _ fun c hc => (hback c hc).1,
      trimChars_blanks_append _ fun c hc => (hfront c hc).1]
  rw [trim, String.toList_append, String.toList_append, hchars, ← trim]

theorem newline_mem_of_padded {raw padded : String} (h : Padded raw padded) :
    '\n' ∈ padded.toList ↔ '\n' ∈ raw.toList := by
  obtain ⟨front, back, hfront, hback, rfl⟩ := h
  have hnone {text : String} (htext : IsSpace text) : '\n' ∉ text.toList :=
    fun hc => (htext _ hc).2 rfl
  simp [hnone hfront, hnone hback]

theorem padded_self (raw : String) : Padded raw raw :=
  ⟨"", "", by simp [IsSpace], by simp [IsSpace], by simp⟩

theorem padded_return (raw : String) : Padded raw (raw ++ "\r") := by
  refine ⟨"", "\r", by simp [IsSpace], ?_, by simp⟩
  intro c hc
  obtain rfl : c = '\r' := by simpa using hc
  decide

theorem Respaced.newline_mem {raw other : String} (h : Respaced raw other) :
    '\n' ∈ other.toList ↔ '\n' ∈ raw.toList := by
  obtain ⟨core, hraw, hother⟩ := h
  rw [newline_mem_of_padded hother, newline_mem_of_padded hraw]

theorem map_trim_of_respaced {raws others : List String} (h : List.Forall₂ Respaced raws others) :
    others.map trim = raws.map trim := by
  induction h with
  | nil => rfl
  | cons hfirst _ ih =>
    obtain ⟨core, hraw, hother⟩ := hfirst
    rw [List.map_cons, List.map_cons, trim_of_padded hother, trim_of_padded hraw, ih]

theorem trim_trim (text : String) : trim (trim text) = trim text := by
  rw [trim, toList_trim,
    trimChars_eq_self (stops_trimChars _) (not_isBlank_getLast?_trimChars _), ← trim]

/-! ### Inked lines -/

/-- The lines of a text that are not blank, trimmed, each with its number from one. -/
def inked (content : String) : List (String × Nat) :=
  inkedFrom 1 (lines content)

theorem inkedFrom_congr {number : Nat} {raws others : List String}
    (h : raws.map trim = others.map trim) : inkedFrom number raws = inkedFrom number others := by
  rw [inkedFrom, inkedFrom, h]

theorem inkedFrom_append_blank {raw : String} (number : Nat) (raws : List String)
    (h : trim raw = "") : inkedFrom number (raws ++ [raw]) = inkedFrom number raws := by
  simp [inkedFrom, List.zipIdx_append, h]

theorem newline_not_mem_fields {content raw : String} (h : raw ∈ fields '\n' content) :
    '\n' ∉ raw.toList :=
  (mem_fields h).1

theorem inked_eq (content : String) : inked content = inkedFrom 1 (fields '\n' content) := by
  have hlines : ofLines (fields '\n' content) = content := ofFields_fields '\n' content
  rw [← inkedFrom_lines_ofLines fun raw => newline_not_mem_fields, hlines, inked]

theorem inked_ofLines_respaced {content : String} {others : List String}
    (h : List.Forall₂ Respaced (fields '\n' content) others) :
    inked (ofLines others) = inked content := by
  have hnewline : ∀ raw ∈ others, '\n' ∉ raw.toList := by
    intro raw hraw
    obtain ⟨piece, hpiece, hrespaced⟩ := exists_of_forall₂ h.flip hraw
    exact fun hc => newline_not_mem_fields hpiece (Respaced.newline_mem hrespaced |>.mp hc)
  rw [inked_eq content, inked, inkedFrom_lines_ofLines hnewline,
    inkedFrom_congr (map_trim_of_respaced h)]

/-! ### Line feeds -/

/-- The text with a carriage return before each line feed. -/
def withReturns (content : String) : String :=
  String.ofList (content.toList.flatMap fun c => if c = '\n' then ['\r', '\n'] else [c])

theorem toList_withReturns (content : String) : (withReturns content).toList =
    content.toList.flatMap fun c => if c = '\n' then ['\r', '\n'] else [c] :=
  String.toList_ofList

theorem exists_withReturns_eq {raws : List String} (h : ∀ raw ∈ raws, '\n' ∉ raw.toList) :
    ∃ others, List.Forall₂ Respaced raws others ∧ withReturns (ofLines raws) = ofLines others := by
  have hkept {cs : List Char} (hcs : '\n' ∉ cs) :
      (cs.flatMap fun c => if c = '\n' then ['\r', '\n'] else [c]) = cs := by
    induction cs with
    | nil => rfl
    | cons c cs ih =>
      rw [List.mem_cons, not_or] at hcs
      rw [List.flatMap_cons, if_neg (Ne.symm hcs.1), ih hcs.2]
      rfl
  induction raws with
  | nil => exact ⟨[], .nil, rfl⟩
  | cons raw raws ih =>
    obtain ⟨hraw, hraws⟩ := List.forall_mem_cons.mp h
    obtain ⟨others, hothers, heq⟩ := ih hraws
    cases hothers with
    | nil =>
      refine ⟨[raw], .cons ⟨raw, padded_self raw, padded_self raw⟩ .nil, ?_⟩
      rw [← String.toList_inj, toList_withReturns]
      simp [ofLines, hkept hraw]
    | @cons second other raws others hsecond hrest =>
      refine ⟨_, .cons ⟨raw, padded_self raw, padded_return raw⟩ (.cons hsecond hrest), ?_⟩
      rw [← String.toList_inj, toList_withReturns] at heq ⊢
      rw [toList_ofLines_cons_cons, toList_ofLines_cons_cons, List.flatMap_append, hkept hraw,
        List.flatMap_cons, heq]
      simp

theorem inked_withReturns (content : String) : inked (withReturns content) = inked content := by
  obtain ⟨others, hothers, heq⟩ := exists_withReturns_eq (@newline_not_mem_fields content)
  have hcontent : ofLines (fields '\n' content) = content := ofFields_fields '\n' content
  rw [hcontent] at heq
  rw [heq, inked_ofLines_respaced hothers]

theorem ofLines_append_empty {raws : List String} (h : raws ≠ []) :
    ofLines (raws ++ [""]) = ofLines raws ++ "\n" :=
  ofFields_append_empty '\n' h

theorem fields_ne_nil (delimiter : Char) (text : String) : fields delimiter text ≠ [] := by
  rw [fields, Ne, List.map_eq_nil_iff]
  exact List.splitOn_ne_nil _ _

theorem inked_append_newline (content : String) : inked (content ++ "\n") = inked content := by
  have hcontent : ofLines (fields '\n' content) = content := ofFields_fields '\n' content
  have hlonger := ofLines_append_empty (fields_ne_nil '\n' content)
  rw [hcontent] at hlonger
  have hnewline : ∀ raw ∈ fields '\n' content ++ [""], '\n' ∉ raw.toList := by
    rw [List.forall_mem_append, List.forall_mem_singleton]
    exact ⟨fun raw => newline_not_mem_fields, by simp⟩
  have hblank : trim "" = "" := rfl
  rw [← hlonger, inked, inkedFrom_lines_ofLines hnewline, inkedFrom_append_blank 1 _ hblank,
    inked_eq]

/-! ### Blank lines -/

/-- A line of a text that lines were added to. -/
inductive Row where
  | kept (raw : String)
  | added (raw : String)

namespace Row

def text : Row → String
  | kept raw | added raw => raw

/-- The line, unless it was added. -/
def kept? : Row → Option String
  | kept raw => some raw
  | added _ => none

/-- The number of lines that were added before the kept line of the number. -/
def addedBefore : List Row → Nat → Nat
  | [], _ => 0
  | added _ :: rows, number => addedBefore rows number + 1
  | kept _ :: rows, number => if number ≤ 1 then 0 else addedBefore rows (number - 1)

end Row

theorem le_of_mem_inkedFrom {number : Nat} {raws : List String} {line : String × Nat}
    (h : line ∈ inkedFrom number raws) : number ≤ line.2 :=
  (List.mem_zipIdx (List.mem_filter.mp h).1).1

theorem inkedFrom_texts {rows : List Row} (hadded : ∀ raw, .added raw ∈ rows → trim raw = "")
    (number shift : Nat) : inkedFrom (number + shift) (rows.map Row.text) =
      (inkedFrom number (rows.filterMap Row.kept?)).map fun line =>
        (line.1, line.2 + shift + Row.addedBefore rows (line.2 + 1 - number)) := by
  -- an added line shifts all that follow, and a kept one is counted off
  induction rows generalizing number shift with
  | nil => rfl
  | cons row rows ih =>
    have hrest : ∀ raw, .added raw ∈ rows → trim raw = "" :=
      fun raw hraw => hadded raw (List.mem_cons_of_mem _ hraw)
    cases row with
    | added raw =>
      have hraw : trim raw = "" := hadded raw List.mem_cons_self
      rw [List.map_cons, Row.text, inkedFrom_cons_blank _ hraw, Nat.add_assoc,
        ih hrest number (shift + 1)]
      refine List.map_congr_left fun line _ => ?_
      rw [Row.addedBefore]
      congr 1
      omega
    | kept raw =>
      have htail : (inkedFrom (number + 1) (rows.filterMap Row.kept?)).map (fun line =>
            (line.1, line.2 + shift + Row.addedBefore rows (line.2 + 1 - (number + 1)))) =
          (inkedFrom (number + 1) (rows.filterMap Row.kept?)).map fun line =>
            (line.1, line.2 + shift +
              Row.addedBefore (.kept raw :: rows) (line.2 + 1 - number)) := by
        refine List.map_congr_left fun line hline => ?_
        have hnumber := le_of_mem_inkedFrom hline
        rw [Row.addedBefore, if_neg (by omega), Nat.sub_sub]
      rw [List.map_cons, Row.text, List.filterMap_cons, Row.kept?]
      simp only
      have hnext : number + shift + 1 = number + 1 + shift := by omega
      by_cases hblank : trim raw = ""
      · rw [inkedFrom_cons_blank _ hblank, inkedFrom_cons_blank _ hblank, hnext,
          ih hrest (number + 1) shift, htail]
      · rw [inkedFrom_cons_inked _ hblank, inkedFrom_cons_inked _ hblank, hnext,
          ih hrest (number + 1) shift, htail, List.map_cons]
        simp [Row.addedBefore]

theorem inked_ofLines_texts {content : String} {rows : List Row}
    (hkept : rows.filterMap Row.kept? = fields '\n' content)
    (hadded : ∀ raw, .added raw ∈ rows → IsSpace raw) :
    inked (ofLines (rows.map Row.text)) =
      (inked content).map fun line => (line.1, line.2 + Row.addedBefore rows line.2) := by
  have hnewline : ∀ raw ∈ rows.map Row.text, '\n' ∉ raw.toList := by
    intro raw hraw
    obtain ⟨row, hrow, rfl⟩ := List.mem_map.mp hraw
    cases row with
    | added raw => exact fun hc => (hadded raw hrow _ hc).2 rfl
    | kept raw =>
      have hpiece : raw ∈ fields '\n' content := by
        rw [← hkept]
        exact List.mem_filterMap.mpr ⟨_, hrow, rfl⟩
      exact newline_not_mem_fields hpiece
  have hmoved := inkedFrom_texts (fun raw hraw => trim_of_isSpace (hadded raw hraw)) 1 0
  rw [inked, inkedFrom_lines_ofLines hnewline, inked_eq, ← hkept]
  exact hmoved

end EntityCodegen.Text
