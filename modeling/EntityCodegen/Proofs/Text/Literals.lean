import EntityCodegen.Text.Quoted

/-!
# Reading string literals

A reader that has seen the quote at the front of a literal reads on to the first quote that is not
escaped (`LiteralReader`). One that allows no other escapes reads exactly what is escaped as it
should be (`readLiteral?_eq_some_iff`): the escaped text and a quote, whatever stands behind them.
So a text that was put between quotes without being escaped is read back only if it has nothing to
escape (`plain_of_readLiteral?`).

`literals?` reads all the literals of a text that has no other quotes. Of texts that were put between
quotes one after the other it gives the texts back if and only if all of them are plain
(`literals?_listed_eq_some_iff`).
-/

namespace EntityCodegen.Text

variable {cs rest after : List Char} {c : Char}

/-! ### One literal -/

/-- A reader that is inside a literal: it gives what it read and what is left behind the quote at
which it stopped. What it makes of a backslash before any other character is left open. -/
structure LiteralReader where
  read : List Char → Option (List Char × List Char)
  read_quote : ∀ rest, read ('"' :: rest) = some ([], rest)
  read_escaped : ∀ c rest, c = '\\' ∨ c = '"' →
    read ('\\' :: c :: rest) = (read rest).map fun (text, after) => (c :: text, after)
  read_plain : ∀ c rest, ¬ (c = '\\' ∨ c = '"') →
    read (c :: rest) = (read rest).map fun (text, after) => (c :: text, after)

theorem LiteralReader.read_escapeChars_append (reader : LiteralReader) (cs rest : List Char) :
    reader.read (escapeChars cs ++ rest) =
      (reader.read rest).map fun (text, after) => (cs ++ text, after) := by
  induction cs with
  | nil => simp [escapeChars]
  | cons c cs ih =>
    rw [escapeChars]
    by_cases h : c = '\\' ∨ c = '"'
    · rw [if_pos h, List.cons_append, List.cons_append, reader.read_escaped c _ h, ih,
        Option.map_map]
      rfl
    · rw [if_neg h, List.cons_append, reader.read_plain c _ h, ih, Option.map_map]
      rfl

/-- Reads the inside of a literal and gives what stands behind the quote that closes it. Behind a
backslash there can only be a backslash or a quote. -/
def readLiteral? : List Char → Option (List Char × List Char)
  | [] => none
  | '"' :: rest => some ([], rest)
  | ['\\'] => none
  | '\\' :: c :: rest =>
    if c = '\\' ∨ c = '"' then (readLiteral? rest).map fun (text, after) => (c :: text, after)
    else none
  | c :: rest => (readLiteral? rest).map fun (text, after) => (c :: text, after)

/-- The reader that refuses all other escapes. -/
def strictReader : LiteralReader where
  read := readLiteral?
  read_quote rest := by rw [readLiteral?]
  read_escaped c rest h := by rw [readLiteral?, if_pos h]
  read_plain c rest h := by
    rw [readLiteral?]
    all_goals grind

theorem readLiteral?_escapeChars_append (cs rest : List Char) :
    readLiteral? (escapeChars cs ++ rest) =
      (readLiteral? rest).map fun (text, after) => (cs ++ text, after) :=
  strictReader.read_escapeChars_append cs rest

theorem escapeChars_append (cs ds : List Char) :
    escapeChars (cs ++ ds) = escapeChars cs ++ escapeChars ds := by
  induction cs with
  | nil => rfl
  | cons c cs ih =>
    rw [List.cons_append, escapeChars, escapeChars, ih]
    split <;> rfl

/-- **A literal is read iff its inside is escaped**, and then it is read as the text that was
escaped. -/
theorem readLiteral?_eq_some_iff {text : List Char} :
    readLiteral? cs = some (text, rest) ↔ cs = escapeChars text ++ '"' :: rest := by
  refine ⟨fun h => ?_, fun h => ?mpr⟩
  case mpr => simp [h, readLiteral?_escapeChars_append, readLiteral?]
  fun_induction readLiteral? cs generalizing text with
  | case1 => cases h
  | case2 rest =>
    cases h
    rfl
  | case3 => cases h
  | case4 c others hspecial ih =>
    obtain ⟨⟨front, after⟩, hothers, heq⟩ := Option.map_eq_some_iff.mp h
    cases heq
    rw [escapeChars, if_pos hspecial, ih hothers]
    rfl
  | case5 => cases h
  | case6 c others hquote hend hescape ih =>
    obtain ⟨⟨front, after⟩, hothers, heq⟩ := Option.map_eq_some_iff.mp h
    cases heq
    have hplain : ¬ (c = '\\' ∨ c = '"') := by
      rintro (rfl | rfl)
      · cases others with
        | nil => exact hend rfl rfl
        | cons next others => exact hescape next others rfl rfl
      · exact hquote rfl
    rw [escapeChars, if_neg hplain, ih hothers]
    rfl

theorem escapeChars_append_quote_inj {ds rest' : List Char}
    (h : escapeChars cs ++ '"' :: rest = escapeChars ds ++ '"' :: rest') :
    cs = ds ∧ rest = rest' := by
  have hread : readLiteral? (escapeChars cs ++ '"' :: rest) = some (ds, rest') :=
    readLiteral?_eq_some_iff.mpr h
  rw [readLiteral?_eq_some_iff.mpr rfl, Option.some.injEq, Prod.mk.injEq] at hread
  exact hread

/-! ### Texts that need no escape -/

/-- The text holds nothing that is escaped in a literal. -/
def Plain (cs : List Char) : Prop :=
  '\\' ∉ cs ∧ '"' ∉ cs

instance (cs : List Char) : Decidable (Plain cs) :=
  inferInstanceAs (Decidable (_ ∧ _))

theorem plain_cons : Plain (c :: cs) ↔ ¬ (c = '\\' ∨ c = '"') ∧ Plain cs := by
  simp only [Plain, List.mem_cons]
  grind

theorem escapeChars_of_plain (h : Plain cs) : escapeChars cs = cs := by
  induction cs with
  | nil => rfl
  | cons c cs ih =>
    obtain ⟨hc, hcs⟩ := plain_cons.mp h
    rw [escapeChars, if_neg hc, ih hcs]

theorem append_quote_ne (count : Nat) :
    cs ++ '"' :: rest ≠ List.replicate (count + 1) '\\' ++ (escapeChars cs ++ after) := by
  induction cs generalizing count with
  | nil => simp [List.replicate_succ]
  | cons c cs ih =>
    intro h
    rw [List.replicate_succ, List.cons_append, List.cons_append, List.cons.injEq] at h
    obtain ⟨rfl, h⟩ := h
    -- the text has one backslash less to go, the escaped text one more
    refine ih (count + 1) ?_
    rw [h, escapeChars, if_pos (.inl rfl), List.replicate_succ', List.replicate_succ']
    simp

/-- **A text that was not escaped is read back only if it is plain**, wherever the reader stops. -/
theorem plain_of_readLiteral? (h : readLiteral? (cs ++ '"' :: rest) = some (cs, after)) :
    Plain cs ∧ after = rest := by
  rw [readLiteral?_eq_some_iff] at h
  induction cs with
  | nil =>
    cases h
    exact ⟨by simp [Plain], rfl⟩
  | cons c cs ih =>
    rw [escapeChars] at h
    by_cases hc : c = '\\' ∨ c = '"'
    · rw [if_pos hc, List.cons_append, List.cons_append, List.cons.injEq] at h
      obtain ⟨rfl, h⟩ := h
      exact absurd h (append_quote_ne 0)
    · rw [if_neg hc, List.cons_append, List.cons_append, List.cons.injEq] at h
      obtain ⟨hcs, hafter⟩ := ih h.2
      exact ⟨plain_cons.mpr ⟨hc, hcs⟩, hafter⟩

theorem readLiteral?_self_iff :
    readLiteral? (cs ++ '"' :: rest) = some (cs, rest) ↔ Plain cs := by
  refine ⟨fun h => (plain_of_readLiteral? h).1, fun h => ?_⟩
  rw [readLiteral?_eq_some_iff, escapeChars_of_plain h]

/-! ### All literals of a text -/

theorem length_of_readLiteral? {text : List Char} (h : readLiteral? cs = some (text, rest)) :
    rest.length < cs.length := by
  rw [readLiteral?_eq_some_iff.mp h, List.length_append, List.length_cons]
  omega

/-- Reads the literals of a text in which quotes only stand at the ends of literals. -/
def literals? (cs : List Char) : Option (List String) :=
  match cs with
  | [] => some []
  | '"' :: inside =>
    match _h : readLiteral? inside with
    | none => none
    | some (text, rest) => (literals? rest).map (String.ofList text :: ·)
  | _ :: rest => literals? rest
termination_by cs.length
decreasing_by
  · have hshorter := length_of_readLiteral? ‹_›
    simp only [List.length_cons]
    omega
  · simp only [List.length_cons]
    omega

theorem literals?_quote (inside : List Char) :
    literals? ('"' :: inside) = (readLiteral? inside).bind fun (text, rest) =>
      (literals? rest).map (String.ofList text :: ·) := by
  rw [literals?]
  split
  · next h => rw [h]; rfl
  · next text rest h => rw [h]; rfl

theorem literals?_append_of_not_mem (h : '"' ∉ cs) (rest : List Char) :
    literals? (cs ++ rest) = literals? rest := by
  induction cs with
  | nil => rfl
  | cons c cs ih =>
    rw [List.mem_cons, not_or] at h
    rw [List.cons_append, literals?, ih h.2]
    exact fun hc => h.1 hc.symm

/-- The texts between quotes, each with a comma and a blank behind it. -/
def listed (texts : List String) : List Char :=
  texts.flatMap fun text => '"' :: (text.toList ++ ['"', ',', ' '])

theorem literals?_listed_eq_some_iff {texts : List String} (h : '"' ∉ rest) :
    literals? (listed texts ++ rest) = some texts ↔ ∀ text ∈ texts, Plain text.toList := by
  have hnone : literals? rest = some [] := by
    have hrest := literals?_append_of_not_mem h []
    rwa [List.append_nil, literals?] at hrest
  induction texts with
  | nil => simp [listed, hnone]
  | cons text texts ih =>
    have hgap : literals? (',' :: ' ' :: (listed texts ++ rest)) = literals? (listed texts ++ rest) :=
      @literals?_append_of_not_mem [',', ' '] (by decide) _
    have hread : literals? (listed (text :: texts) ++ rest) =
        (readLiteral? (text.toList ++ '"' :: ',' :: ' ' :: (listed texts ++ rest))).bind
          fun (text, rest) => (literals? rest).map (String.ofList text :: ·) := by
      rw [← literals?_quote]
      simp [listed]
    rw [hread, List.forall_mem_cons]
    constructor
    · intro hall
      obtain ⟨⟨front, after⟩, hfront, hall⟩ := Option.bind_eq_some_iff.mp hall
      obtain ⟨others, hothers, heq⟩ := Option.map_eq_some_iff.mp hall
      obtain ⟨htext, rfl⟩ := List.cons.inj heq
      rw [← htext, String.toList_ofList] at hfront ⊢
      obtain ⟨hplain, rfl⟩ := plain_of_readLiteral? hfront
      exact ⟨hplain, ih.mp (hgap.symm.trans hothers)⟩
    · rintro ⟨hplain, hothers⟩
      simp only [readLiteral?_self_iff.mpr hplain, Option.bind_some, hgap, ih.mpr hothers,
        Option.map_some, String.ofList_toList]

end EntityCodegen.Text
