import EntityCodegen.Text.Blank

/-!
# Lines, trimming and fields

Writing lines one below the other and reading them again gives the same lines in the same places, up
to blanks at their ends and blank lines (`inkedFrom_lines_ofLines`): a carriage return at the end of
a line is taken as part of the line's end, and nothing stands after the last line feed. Trimming
keeps a text that begins and ends with no blank (`trimChars_eq_self`). Joining texts and cutting the
result at the delimiter gives the texts (`fields_ofFields`).
-/

namespace EntityCodegen.Text

/-! ### Trimming -/

theorem ne_newline_of_isBlank_eq_false {c : Char} (h : isBlank c = false) : c ≠ '\n' := by
  rintro rfl
  exact absurd h (by decide)

theorem dropWhile_eq_self {cs : List Char} (h : ∀ c, cs.head? = some c → isBlank c = false) :
    cs.dropWhile isBlank = cs := by
  cases cs with
  | nil => rfl
  | cons c cs => simp [h c rfl]

theorem trimChars_eq_self {cs : List Char} (hhead : ∀ c, cs.head? = some c → isBlank c = false)
    (hlast : ∀ c, cs.getLast? = some c → isBlank c = false) : trimChars cs = cs := by
  have hreverse : ∀ c, cs.reverse.head? = some c → isBlank c = false := by
    simpa only [List.head?_reverse] using hlast
  rw [trimChars, dropWhile_eq_self hhead, dropWhile_eq_self hreverse, List.reverse_reverse]

theorem trimChars_append_blank (cs : List Char) {c : Char} (h : isBlank c) :
    trimChars (cs ++ [c]) = trimChars cs := by
  rw [trimChars, trimChars, List.dropWhile_append]
  split
  · next hempty =>
    rw [List.isEmpty_iff.mp hempty]
    simp [h]
  · simp [h]

theorem trimChars_sublist (cs : List Char) : (trimChars cs).Sublist cs := by
  have hback : (trimChars cs).Sublist (cs.dropWhile isBlank) := by
    rw [trimChars, ← List.reverse_sublist, List.reverse_reverse]
    exact List.dropWhile_sublist isBlank
  exact hback.trans (List.dropWhile_sublist isBlank)

theorem mem_of_mem_trimChars {cs : List Char} {c : Char} (h : c ∈ trimChars cs) : c ∈ cs :=
  (trimChars_sublist cs).mem h

/-! ### Lines -/

theorem newline_not_mem_of_mem_linesChars {cs line : List Char} (h : line ∈ linesChars cs) :
    '\n' ∉ line := by
  fun_induction linesChars cs generalizing line with
  | case1 => simp at h
  | case2 rest ih =>
    rcases List.mem_cons.mp h with rfl | h
    · simp
    · exact ih h
  | case3 rest ih =>
    rcases List.mem_cons.mp h with rfl | h
    · simp
    · exact ih h
  | case4 c rest hc _ hrest ih =>
    rw [List.mem_singleton] at h
    rw [h, List.mem_singleton]
    exact fun hnewline => hc hnewline.symm
  | case5 c rest hc _ first others hrest ih =>
    rcases List.mem_cons.mp h with rfl | h
    · rw [List.mem_cons, not_or]
      exact ⟨fun hnewline => hc hnewline.symm, ih (by rw [hrest]; simp)⟩
    · exact ih (by rw [hrest]; exact List.mem_cons_of_mem _ h)

theorem newline_not_mem_of_mem_lines {content raw : String} (h : raw ∈ lines content) :
    '\n' ∉ raw.toList := by
  obtain ⟨line, hline, rfl⟩ := List.mem_map.mp h
  rw [String.toList_ofList]
  exact newline_not_mem_of_mem_linesChars hline

/-- The line without the carriage return at its end. -/
def dropReturn : List Char → List Char
  | [] => []
  | ['\r'] => []
  | c :: rest => c :: dropReturn rest

theorem dropReturn_cons {c : Char} {cs : List Char} (h : c = '\r' → cs ≠ []) :
    dropReturn (c :: cs) = c :: dropReturn cs := by
  rw [dropReturn]
  exact h

theorem trimChars_dropReturn (cs : List Char) : trimChars (dropReturn cs) = trimChars cs := by
  have hcut : cs = dropReturn cs ∨ cs = dropReturn cs ++ ['\r'] := by
    fun_induction dropReturn cs with
    | case1 => exact .inl rfl
    | case2 => exact .inr rfl
    | case3 c rest _ ih =>
      rcases ih with h | h
      · exact .inl (congrArg (c :: ·) h)
      · exact .inr (congrArg (c :: ·) h)
  rcases hcut with h | h
  · rw [← h]
  · exact ((congrArg trimChars h).trans (trimChars_append_blank _ (by decide))).symm

theorem linesChars_of_not_mem {cs : List Char} (h : '\n' ∉ cs) :
    linesChars cs = if cs = [] then [] else [cs] := by
  induction cs with
  | nil => rfl
  | cons c cs ih =>
    simp only [List.mem_cons, not_or] at h
    have hcs := ih h.2
    rw [linesChars]
    · rw [hcs]
      by_cases hnil : cs = [] <;> simp [hnil]
    · exact fun hc => h.1 hc.symm
    · rintro rest - rfl
      simp at h

theorem linesChars_append_newline {cs : List Char} (rest : List Char) (h : '\n' ∉ cs) :
    linesChars (cs ++ '\n' :: rest) = dropReturn cs :: linesChars rest := by
  induction cs with
  | nil => simp [linesChars, dropReturn]
  | cons c cs ih =>
    simp only [List.mem_cons, not_or] at h
    have hcs := ih h.2
    by_cases hreturn : c = '\r' ∧ cs = []
    · obtain ⟨rfl, rfl⟩ := hreturn
      simp [linesChars, dropReturn]
    · rw [dropReturn_cons fun hc hnil => hreturn ⟨hc, hnil⟩, List.cons_append, linesChars, hcs]
      · exact fun hc => h.1 hc.symm
      · -- a carriage return before a line feed would be the whole line
        rintro others hc hcut
        cases cs with
        | nil => exact hreturn ⟨hc, rfl⟩
        | cons next cs =>
          rw [List.cons_append, List.cons.injEq] at hcut
          exact h.2 (by simp [hcut.1])

/-- The text of the lines, with a line feed between two. Where the last line is empty the text ends
in a line feed. -/
def ofLines (lines : List String) : String :=
  ofFields '\n' lines

theorem toList_ofLines_cons_cons (line second : String) (lines : List String) :
    (ofLines (line :: second :: lines)).toList =
      line.toList ++ '\n' :: (ofLines (second :: lines)).toList := by
  simp [ofLines, ofFields, List.intercalate_cons_cons]

/-- The lines that are not blank, trimmed, each with its number. -/
def inkedFrom (number : Nat) (raws : List String) : List (String × Nat) :=
  ((raws.map trim).zipIdx number).filter fun line => line.1 ≠ ""

section
variable {number : Nat} {raw : String}

theorem inkedFrom_cons_blank (raws : List String) (h : trim raw = "") :
    inkedFrom number (raw :: raws) = inkedFrom (number + 1) raws := by
  simp [inkedFrom, h]

theorem inkedFrom_cons_inked (raws : List String) (h : trim raw ≠ "") :
    inkedFrom number (raw :: raws) = (trim raw, number) :: inkedFrom (number + 1) raws := by
  simp [inkedFrom, h]

theorem map_fst_inkedFrom (number : Nat) (raws : List String) :
    (inkedFrom number raws).map Prod.fst = (raws.map trim).filter (· ≠ "") := by
  have hfilter := List.filter_map (f := Prod.fst) (p := fun text => decide (text ≠ ""))
    (l := (raws.map trim).zipIdx number)
  rw [List.zipIdx_map_fst] at hfilter
  exact hfilter.symm

end

/-- **Lines written one below the other are read again** where they were written, up to blanks at
their ends and blank lines. -/
theorem inkedFrom_lines_ofLines {number : Nat} {raws : List String}
    (h : ∀ raw ∈ raws, '\n' ∉ raw.toList) :
    inkedFrom number (lines (ofLines raws)) = inkedFrom number raws := by
  -- from any number, since the later lines are numbered from the one after the first
  induction raws generalizing number with
  | nil => rfl
  | cons raw raws ih =>
    cases raws with
    | nil =>
      have hlines : lines (ofLines [raw]) = if raw = "" then [] else [raw] := by
        have htext : ofLines [raw] = raw := by simp [ofLines, ofFields]
        rw [htext, lines, linesChars_of_not_mem (h raw (by simp))]
        by_cases hempty : raw = "" <;> simp [hempty]
      rw [hlines]
      by_cases hempty : raw = ""
      · rw [if_pos hempty, hempty]
        rfl
      · rw [if_neg hempty]
    | cons second raws =>
      have htrim : trim (String.ofList (dropReturn raw.toList)) = trim raw := by
        simp only [trim, String.toList_ofList, trimChars_dropReturn]
      have hlines : lines (ofLines (raw :: second :: raws)) =
          String.ofList (dropReturn raw.toList) :: lines (ofLines (second :: raws)) := by
        rw [lines, toList_ofLines_cons_cons, linesChars_append_newline _ (h raw (by simp))]
        rfl
      have hrest : inkedFrom (number + 1) (lines (ofLines (second :: raws))) =
          inkedFrom (number + 1) (second :: raws) :=
        ih fun other hother => h other (List.mem_cons_of_mem _ hother)
      rw [hlines]
      by_cases hblank : trim raw = ""
      · rw [inkedFrom_cons_blank _ (htrim.trans hblank), inkedFrom_cons_blank _ hblank, hrest]
      · have hinked : trim (String.ofList (dropReturn raw.toList)) ≠ "" :=
          fun hempty => hblank (htrim.symm.trans hempty)
        rw [inkedFrom_cons_inked _ hinked, inkedFrom_cons_inked _ hblank, htrim, hrest]

theorem nonblank_lines_ofLines {raws : List String} (h : ∀ raw ∈ raws, '\n' ∉ raw.toList) :
    ((lines (ofLines raws)).map trim).filter (· ≠ "") = (raws.map trim).filter (· ≠ "") := by
  rw [← map_fst_inkedFrom 1, ← map_fst_inkedFrom 1, inkedFrom_lines_ofLines h]

theorem filterMap_lines_ofLines {β : Type} {f g : String → Option β} {raws : List String}
    (hf : ∀ raw, f raw = g (trim raw)) (hblank : g "" = none)
    (h : ∀ raw ∈ raws, '\n' ∉ raw.toList) :
    (lines (ofLines raws)).filterMap f = raws.filterMap f := by
  have hfilter (texts : List String) :
      texts.filterMap f = ((texts.map trim).filter (· ≠ "")).filterMap g := by
    rw [List.filterMap_filter, List.filterMap_map]
    congr 1
    funext raw
    by_cases hraw : trim raw = ""
    · simp [hf, hraw, hblank]
    · simp [hf, hraw]
  rw [hfilter, hfilter, nonblank_lines_ofLines h]

/-! ### Fields -/

theorem mem_splitOn {c : Char} {cs piece : List Char} (h : piece ∈ cs.splitOn c) :
    c ∉ piece ∧ ∀ other ∈ piece, other ∈ cs := by
  induction cs generalizing piece with
  | nil =>
    rw [List.splitOn_nil, List.mem_singleton] at h
    simp [h]
  | cons first rest ih =>
    rw [List.splitOn_cons_eq_if_modifyHead] at h
    split at h
    · rcases List.mem_cons.mp h with rfl | h
      · simp
      · exact ⟨(ih h).1, fun other hother => List.mem_cons_of_mem _ ((ih h).2 other hother)⟩
    · next hne =>
      cases hsplit : rest.splitOn c with
      | nil => exact absurd hsplit (List.splitOn_ne_nil c rest)
      | cons head tail =>
        have hhead := ih (hsplit ▸ List.mem_cons_self)
        rw [hsplit, List.modifyHead_cons, List.mem_cons] at h
        rcases h with rfl | h
        · refine ⟨?_, ?_⟩
          · rw [List.mem_cons, not_or]
            exact ⟨fun hc => hne (by simp [hc]), hhead.1⟩
          · intro other hother
            rcases List.mem_cons.mp hother with rfl | hother
            · exact List.mem_cons_self
            · exact List.mem_cons_of_mem _ (hhead.2 other hother)
        · have htail := ih (hsplit ▸ List.mem_cons_of_mem _ h)
          exact ⟨htail.1, fun other hother => List.mem_cons_of_mem _ (htail.2 other hother)⟩

theorem mem_fields {delimiter : Char} {text field : String} (h : field ∈ fields delimiter text) :
    delimiter ∉ field.toList ∧ ∀ c ∈ field.toList, c ∈ text.toList := by
  obtain ⟨piece, hpiece, rfl⟩ := List.mem_map.mp h
  rw [String.toList_ofList]
  exact mem_splitOn hpiece

theorem length_splitOn (c : Char) (cs : List Char) :
    (cs.splitOn c).length = cs.count c + 1 := by
  induction cs with
  | nil => simp
  | cons first rest ih =>
    rw [List.splitOn_cons_eq_if_modifyHead, List.count_cons]
    split
    · rw [List.length_cons, ih]
    · rw [List.length_modifyHead, ih, Nat.add_zero]

theorem length_fields (delimiter : Char) (text : String) :
    (fields delimiter text).length = text.toList.count delimiter + 1 := by
  rw [fields, List.length_map, length_splitOn]

@[simp] theorem toList_ofFields (delimiter : Char) (texts : List String) :
    (ofFields delimiter texts).toList = [delimiter].intercalate (texts.map String.toList) := by
  simp [ofFields]

theorem fields_ofFields {delimiter : Char} {texts : List String} (hne : texts ≠ [])
    (h : ∀ text ∈ texts, delimiter ∉ text.toList) :
    fields delimiter (ofFields delimiter texts) = texts := by
  have hsplit : ([delimiter].intercalate (texts.map String.toList)).splitOn delimiter =
      texts.map String.toList :=
    List.splitOn_intercalate delimiter (by simpa using h) (by simpa using hne)
  rw [fields, toList_ofFields, hsplit]
  simp [Function.comp_def]

theorem head?_ofFields {delimiter : Char} {first : String} (texts : List String)
    (h : first.toList ≠ []) :
    (ofFields delimiter (first :: texts)).toList.head? = first.toList.head? := by
  rw [toList_ofFields]
  cases texts with
  | nil => simp
  | cons second texts =>
    rw [List.map_cons, List.map_cons, List.intercalate_cons_cons, List.append_assoc,
      List.head?_append]
    cases hfirst : first.toList with
    | nil => exact absurd hfirst h
    | cons c cs => rfl

theorem mem_ofFields {delimiter c : Char} {texts : List String}
    (h : c ∈ (ofFields delimiter texts).toList) :
    c = delimiter ∨ ∃ text ∈ texts, c ∈ text.toList := by
  rw [toList_ofFields] at h
  induction texts with
  | nil => simp at h
  | cons text texts ih =>
    cases texts with
    | nil => exact .inr ⟨text, by simp, by simpa using h⟩
    | cons second texts =>
      rw [List.map_cons, List.map_cons, List.intercalate_cons_cons] at h
      simp only [List.append_assoc, List.singleton_append, List.mem_append, List.mem_cons] at h
      rcases h with h | h | h
      · exact .inr ⟨text, by simp, h⟩
      · exact .inl h
      · rcases ih h with h | ⟨other, hother, hc⟩
        · exact .inl h
        · exact .inr ⟨other, List.mem_cons_of_mem _ hother, hc⟩

theorem ofFields_append_empty (delimiter : Char) {texts : List String} (h : texts ≠ []) :
    ofFields delimiter (texts ++ [""]) = ofFields delimiter texts ++ String.singleton delimiter := by
  rw [← String.toList_inj, String.toList_append, toList_ofFields, toList_ofFields]
  induction texts with
  | nil => exact absurd rfl h
  | cons first texts ih =>
    cases texts with
    | nil => simp
    | cons second texts =>
      have hrest := ih (List.cons_ne_nil second texts)
      simp only [List.cons_append, List.map_cons] at hrest ⊢
      rw [List.intercalate_cons_cons, List.intercalate_cons_cons, hrest, List.append_assoc,
        List.append_assoc, List.append_assoc]

theorem prefix_ofFields (delimiter : Char) (first : String) (texts : List String) :
    first.toList <+: (ofFields delimiter (first :: texts)).toList := by
  rw [toList_ofFields]
  cases texts with
  | nil => simp
  | cons second texts =>
    rw [List.map_cons, List.map_cons, List.intercalate_cons_cons, List.append_assoc]
    exact List.prefix_append _ _

theorem getLast?_ofFields {delimiter c : Char} {first : String} {texts : List String}
    (h : (ofFields delimiter (first :: texts)).toList.getLast? = some c) :
    (c = delimiter ∧ texts.getLast? = some "") ∨
      ∃ text, (first :: texts).getLast? = some text ∧ text.toList.getLast? = some c := by
  rw [toList_ofFields] at h
  induction texts generalizing first with
  | nil => exact .inr ⟨first, rfl, by simpa using h⟩
  | cons second texts ih =>
    rw [List.map_cons, List.map_cons, List.intercalate_cons_cons, List.getLast?_append] at h
    rw [List.getLast?_cons_cons]
    cases hrest : ([delimiter].intercalate (second.toList :: texts.map String.toList)).getLast? with
    | none =>
      rw [hrest] at h
      refine .inl ⟨by simpa [eq_comm] using h, ?_⟩
      rw [List.getLast?_eq_none_iff] at hrest
      cases texts with
      | nil => simpa using hrest
      | cons third texts =>
        rw [List.map_cons, List.intercalate_cons_cons] at hrest
        simp at hrest
    | some last =>
      rw [hrest, Option.some_or, Option.some.injEq] at h
      rcases ih (by rw [List.map_cons, hrest, h]) with ⟨hc, hempty⟩ | hlast
      · refine .inl ⟨hc, ?_⟩
        rw [List.getLast?_cons, hempty]
        rfl
      · exact .inr hlast

end EntityCodegen.Text
