import EntityCodegen.Text.Blank
import Mathlib.Data.List.TakeWhile

/-!
# Runs of characters

A reader takes characters of one class as long as there are some. Where what follows a run does not
begin with the class (`Stops`), the reader takes the run and leaves what follows (`takeWhile_run`,
`dropWhile_run`), so two such texts are equal only part by part (`run_append_inj`). The classes of a
declaration exclude each other: no word character is a blank (`isBlank_of_isWord`) or a mark between
the parts.

Likewise, texts of items that can be told from each other and from what ends their list are equal
only item by item (`ToldApart.flatMap_inj`).
-/

namespace EntityCodegen.Text

/-! ### Runs -/

/-- The text does not begin with a character of the class. -/
def Stops (p : Char → Bool) (cs : List Char) : Prop :=
  ∀ c, cs.head? = some c → p c = false

section
variable {p : Char → Bool} {run rest : List Char} {c : Char}

theorem Stops.nil : Stops p [] := by
  simp [Stops]

theorem Stops.cons (h : p c = false) : Stops p (c :: rest) := by
  intro first hfirst
  rw [List.head?_cons, Option.some.injEq] at hfirst
  rw [← hfirst, h]

theorem Stops.append (hrun : ∀ c ∈ run, p c = false) (hrest : Stops p rest) :
    Stops p (run ++ rest) := by
  cases run with
  | nil => exact hrest
  | cons first run => exact Stops.cons (hrun first (by simp))

theorem takeWhile_of_stops (h : Stops p rest) : rest.takeWhile p = [] := by
  cases rest with
  | nil => rfl
  | cons first rest => simp [h first rfl]

theorem dropWhile_of_stops (h : Stops p rest) : rest.dropWhile p = rest := by
  cases rest with
  | nil => rfl
  | cons first rest => simp [h first rfl]

theorem takeWhile_run (hrun : ∀ c ∈ run, p c) (hrest : Stops p rest) :
    (run ++ rest).takeWhile p = run := by
  rw [List.takeWhile_append_of_pos hrun, takeWhile_of_stops hrest, List.append_nil]

theorem dropWhile_run (hrun : ∀ c ∈ run, p c) (hrest : Stops p rest) :
    (run ++ rest).dropWhile p = rest := by
  rw [List.dropWhile_append_of_pos hrun, dropWhile_of_stops hrest]

theorem run_append_inj {other rest' : List Char} (hrun : ∀ c ∈ run, p c) (hother : ∀ c ∈ other, p c)
    (hrest : Stops p rest) (hrest' : Stops p rest') (h : run ++ rest = other ++ rest') :
    run = other ∧ rest = rest' := by
  have htake := congrArg (List.takeWhile p) h
  have hdrop := congrArg (List.dropWhile p) h
  rw [takeWhile_run hrun hrest, takeWhile_run hother hrest'] at htake
  rw [dropWhile_run hrun hrest, dropWhile_run hother hrest'] at hdrop
  exact ⟨htake, hdrop⟩

theorem stops_dropWhile (cs : List Char) : Stops p (cs.dropWhile p) := by
  intro c hc
  have h := List.head?_dropWhile_not p cs
  rw [hc] at h
  exact h

end

/-! ### Items up to a stop -/

/-- Whatever stands behind the text of an item, it tells the item's content, and it is not the stop
that ends a list of items. -/
structure ToldApart {α β : Type} (valid : α → Prop) (text : α → List Char) (content : α → β)
    (stop : List Char) : Prop where
  item : ∀ {x y rest rest'}, valid x → valid y → text x ++ rest = text y ++ rest' →
    content x = content y ∧ rest = rest'
  stop : ∀ {x rest rest'}, valid x → text x ++ rest ≠ stop ++ rest'

theorem ToldApart.flatMap_inj {α β : Type} {valid : α → Prop} {text : α → List Char}
    {content : α → β} {stop rest rest' : List Char} (h : ToldApart valid text content stop)
    {xs ys : List α} (hxs : ∀ x ∈ xs, valid x) (hys : ∀ y ∈ ys, valid y)
    (heq : xs.flatMap text ++ (stop ++ rest) = ys.flatMap text ++ (stop ++ rest')) :
    xs.map content = ys.map content ∧ rest = rest' := by
  induction xs generalizing ys with
  | nil =>
    cases ys with
    | nil => exact ⟨rfl, List.append_cancel_left heq⟩
    | cons y ys =>
      rw [List.flatMap_nil, List.nil_append, List.flatMap_cons, List.append_assoc] at heq
      exact absurd heq.symm (h.stop (hys y List.mem_cons_self))
  | cons x xs ih =>
    obtain ⟨hx, hxs⟩ := List.forall_mem_cons.mp hxs
    cases ys with
    | nil =>
      rw [List.flatMap_nil, List.nil_append, List.flatMap_cons, List.append_assoc] at heq
      exact absurd heq (h.stop hx)
    | cons y ys =>
      obtain ⟨hy, hys⟩ := List.forall_mem_cons.mp hys
      rw [List.flatMap_cons, List.flatMap_cons, List.append_assoc, List.append_assoc] at heq
      obtain ⟨hcontent, heq⟩ := h.item hx hy heq
      obtain ⟨hcontents, hrest⟩ := ih hxs hys heq
      exact ⟨by rw [List.map_cons, List.map_cons, hcontent, hcontents], hrest⟩

theorem stops_trimChars (cs : List Char) : Stops isBlank (trimChars cs) := by
  have hprefix : trimChars cs <+: cs.dropWhile isBlank := by
    rw [trimChars, ← List.reverse_suffix, List.reverse_reverse]
    exact List.dropWhile_suffix isBlank
  obtain ⟨tail, htail⟩ := hprefix
  intro c hc
  refine stops_dropWhile cs c ?_
  rw [← htail, List.head?_append, hc]
  rfl

theorem not_isBlank_getLast?_trimChars (cs : List Char) :
    ∀ c, (trimChars cs).getLast? = some c → isBlank c = false := by
  rw [trimChars, List.getLast?_reverse]
  exact stops_dropWhile (cs.dropWhile isBlank).reverse

/-! ### Classes -/

/-- The code point ranges of the blanks, ends included. -/
def blankRanges : List (Nat × Nat) :=
  [(0x9, 0xD), (0x20, 0x20), (0x85, 0x85), (0xA0, 0xA0), (0x1680, 0x1680), (0x2000, 0x200A),
   (0x2028, 0x2029), (0x202F, 0x202F), (0x205F, 0x205F), (0x3000, 0x3000)]

theorem exists_blankRange {c : Char} (h : isBlank c) :
    ∃ range ∈ blankRanges, range.1 ≤ c.toNat ∧ c.toNat ≤ range.2 := by
  simp only [isBlank, Bool.or_eq_true, Bool.and_eq_true, decide_eq_true_eq, beq_iff_eq] at h
  simp only [blankRanges, List.mem_cons, List.not_mem_nil, or_false, exists_eq_or_imp,
    exists_eq_left]
  omega

theorem blankRanges_disjoint :
    ∀ word ∈ wordRanges, ∀ blank ∈ blankRanges, word.2 < blank.1 ∨ blank.2 < word.1 := by
  decide +kernel

theorem isBlank_of_isWord {c : Char} (h : isWord c) : isBlank c = false := by
  rw [Bool.eq_false_iff]
  intro hblank
  obtain ⟨blank, hmem, hlow, hhigh⟩ := exists_blankRange hblank
  rw [isWord, List.any_eq_true] at h
  obtain ⟨word, hword, hrange⟩ := h
  simp only [Bool.and_eq_true, decide_eq_true_eq] at hrange
  have hdisjoint := blankRanges_disjoint word hword blank hmem
  omega

theorem isWord_of_isBlank {c : Char} (h : isBlank c) : isWord c = false := by
  rw [Bool.eq_false_iff]
  intro hword
  rw [isBlank_of_isWord hword] at h
  cases h

theorem isDigit_of_isBlank {c : Char} (h : isBlank c) : c.isDigit = false := by
  obtain ⟨blank, hmem, hlow, hhigh⟩ := exists_blankRange h
  have hdisjoint : ∀ blank ∈ blankRanges, blank.2 < 0x30 ∨ 0x39 < blank.1 := by decide
  have hrange := hdisjoint blank hmem
  simp only [Char.isDigit, Bool.and_eq_false_iff, decide_eq_false_iff_not, ge_iff_le,
    UInt32.le_iff_toNat_le]
  show ¬ 48 ≤ c.toNat ∨ ¬ c.toNat ≤ 57
  omega

end EntityCodegen.Text
