import EntityCodegen.Proofs.Enumeration.Progression
import EntityCodegen.Proofs.Result
import Mathlib.Data.List.Forall2

/-!
# Reading enum files

`read_progression`: an enum file is accepted iff its lines that are not blank spell a progression of
declarations, and then it is read as the enumeration that these declare; otherwise it is refused
with the fault of the first line that does not spell a declaration that may follow the ones before.

A run over lines keeps what was declared so far and the value that would come next (`Reaches`). One
line either fails with its fault (`addLine_eq_error_iff`), or is blank, or adds the declaration that
it spells (`addLine_eq_ok_cases`). By induction on the lines from the end the run gets through iff
the lines spell a progression (`readLines_eq_ok_iff`).
-/

namespace EntityCodegen

namespace Enumeration

open Declaration (Spelled Progression Follows counter numberOf valueFrom)

/-! ### Faults -/

/-- What is wrong with a line behind lines that spell the declarations. The order of the checks is
in the conditions: a fault has that of all faults before it that the line is free of them. -/
inductive Fault (file : String) (number : Nat) (line : String) (before : List Declaration) :
    DefinitionError → Prop
  | malformed :
      (∀ declaration, ¬ Spelled line.toList declaration) →
      Fault file number line before (.badDeclaration file number line)
  | reserved {declaration : Declaration} :
      Spelled line.toList declaration → declaration.symbol = reservedSymbol →
      Fault file number line before (.reservedSymbol file number declaration.symbol)
  | duplicate {declaration : Declaration} :
      Spelled line.toList declaration → declaration.symbol ≠ reservedSymbol →
      declaration.symbol ∈ before.map Declaration.symbol →
      Fault file number line before (.duplicateSymbol file number declaration.symbol)
  /-- The number does not fit in 32 bits. -/
  | tooLarge {declaration : Declaration} {digits : String} :
      Spelled line.toList declaration → declaration.symbol ≠ reservedSymbol →
      declaration.symbol ∉ before.map Declaration.symbol →
      declaration.digits = some digits → UInt32.size ≤ numberOf digits →
      Fault file number line before (.valueOutOfRange file declaration.symbol digits)
  | decreasing {declaration : Declaration} {digits : String} {expected found : UInt32} :
      Spelled line.toList declaration → declaration.symbol ≠ reservedSymbol →
      declaration.symbol ∉ before.map Declaration.symbol →
      declaration.digits = some digits → found.toNat = numberOf digits →
      expected.toNat = counter before → found < expected →
      Fault file number line before (.decreasingValue file declaration.symbol expected found)
  /-- The symbol stands behind the greatest value. -/
  | exhausted {declaration : Declaration} :
      Spelled line.toList declaration → declaration.symbol ≠ reservedSymbol →
      declaration.symbol ∉ before.map Declaration.symbol →
      (∀ digits, declaration.digits = some digits → numberOf digits < UInt32.size) →
      counter before = UInt32.size →
      Fault file number line before
        (.valueOutOfRange file declaration.symbol (declaration.digits.getD "4294967296"))

/-! ### One line -/

/-- The least value of the next symbol, as a run keeps it. -/
def nextOf (counter : Nat) : Option UInt32 :=
  if counter < UInt32.size then some (UInt32.ofNat counter) else none

/-- What a run has after lines that spell the declarations. -/
structure Reaches (file : String) (declarations : List Declaration) (state : Partial) : Prop where
  progression : Progression declarations
  lists : Lists file declarations state.built
  next : state.next = nextOf (counter declarations)

/-- What a run has after one more declaration. -/
def extend (file : String) (before : List Declaration) (declaration : Declaration)
    (state : Partial) : Partial :=
  ⟨state.built.insert ⟨declaration.symbol, UInt32.ofNat (declaration.valueFrom (counter before)),
    declaration.description.getD file⟩, nextOf (declaration.valueFrom (counter before) + 1)⟩

section
variable {file : String} {number : Nat} {raw : String} {before : List Declaration}
  {declaration : Declaration} {enumeration : Enumeration} {state state' : Partial}
  {error : DefinitionError}

theorem Reaches.start (file : String) : Reaches file [] ⟨empty file, some 0⟩ :=
  ⟨Declaration.progression_nil, lists_empty file, rfl⟩

theorem Reaches.unique (h : Reaches file before state) (h' : Reaches file before state') :
    state = state' := by
  obtain ⟨built, next⟩ := state
  obtain ⟨built', next'⟩ := state'
  rw [Partial.mk.injEq]
  exact ⟨h.lists.unique h'.lists, h.next.trans h'.next.symm⟩

theorem Reaches.extend (h : Reaches file before state) (hfollows : Follows before declaration) :
    Reaches file (before ++ [declaration]) (extend file before declaration state) := by
  have hvalue := hfollows.valueFrom_lt (hfollows.counter_lt h.progression)
  refine ⟨Declaration.progression_append_iff.mpr ⟨h.progression, hfollows⟩,
    h.lists.insert hfollows.fresh (UInt32.toNat_ofNat_of_lt' hvalue), ?_⟩
  rw [Declaration.counter_append_singleton]
  rfl

theorem exists_reaches (file : String) {declarations : List Declaration}
    (h : Progression declarations) : ∃ state, Reaches file declarations state := by
  induction declarations using List.reverseRecOn with
  | nil => exact ⟨_, .start file⟩
  | append_singleton before declaration ih =>
    obtain ⟨hbefore, hfollows⟩ := Declaration.progression_append_iff.mp h
    obtain ⟨state, hstate⟩ := ih hbefore
    exact ⟨_, hstate.extend hfollows⟩

theorem nextOf_eq_none_iff {n : Nat} : nextOf n = none ↔ UInt32.size ≤ n := by
  simp [nextOf]

theorem nextOf_eq_some_iff {n : Nat} {value : UInt32} :
    nextOf n = some value ↔ value.toNat = n := by
  have hvalue : value.toNat < UInt32.size := value.toNat_lt
  rw [nextOf, Option.ite_none_right_eq_some, Option.some.injEq]
  constructor
  · rintro ⟨hn, rfl⟩
    exact UInt32.toNat_ofNat_of_lt' hn
  · rintro rfl
    exact ⟨hvalue, UInt32.ofNat_toNat⟩

theorem nextValue?_eq (value : UInt32) : nextValue? value = nextOf (value.toNat + 1) := by
  rw [nextValue?, nextOf]
  split
  · next hlt =>
    rw [Option.some.injEq, ← UInt32.toNat_inj, UInt32.toNat_ofNat_of_lt' hlt, UInt32.toNat_add,
      UInt32.toNat_one]
    exact Nat.mod_eq_of_lt hlt
  · rfl

theorem assign_of_follows (hfollows : Follows before declaration)
    (hbefore : Progression before) :
    assign file (nextOf (counter before)) declaration =
      .ok (UInt32.ofNat (declaration.valueFrom (counter before))) := by
  have hroom := hfollows.counter_lt hbefore
  unfold assign valueFrom
  cases hdigits : declaration.digits with
  | none => simp [nextOf, hroom]
  | some digits =>
    have hfits := hfollows.fits digits hdigits
    have hordered := hfollows.ordered digits hdigits
    have hle : ¬ UInt32.ofNat (numberOf digits) < UInt32.ofNat (counter before) := by
      rw [UInt32.lt_iff_toNat_lt, UInt32.toNat_ofNat_of_lt' hfits, UInt32.toNat_ofNat_of_lt' hroom]
      omega
    have hvalue : readValue? digits = some (UInt32.ofNat (numberOf digits)) :=
      nextOf_eq_some_iff.mpr (UInt32.toNat_ofNat_of_lt' hfits)
    simp [hvalue, nextOf, hroom, hle]

theorem assign_of_tooLarge {digits : String} {next : Option UInt32}
    (hdigits : declaration.digits = some digits) (hlarge : UInt32.size ≤ numberOf digits) :
    assign file next declaration = .error (.valueOutOfRange file declaration.symbol digits) := by
  have hvalue : readValue? digits = none := nextOf_eq_none_iff.mpr hlarge
  unfold assign
  simp only [hdigits, hvalue]

theorem assign_of_decreasing {digits : String} {expected found : UInt32}
    (hdigits : declaration.digits = some digits) (hfound : found.toNat = numberOf digits)
    (hexpected : expected.toNat = counter before) (hlt : found < expected) :
    assign file (nextOf (counter before)) declaration =
      .error (.decreasingValue file declaration.symbol expected found) := by
  have hvalue : readValue? digits = some found := nextOf_eq_some_iff.mpr hfound
  unfold assign
  simp only [hdigits, hvalue, nextOf_eq_some_iff.mpr hexpected, if_pos hlt]

theorem assign_of_exhausted (hcounter : counter before = UInt32.size) :
    assign file (nextOf (counter before)) declaration = .error
      (.valueOutOfRange file declaration.symbol (declaration.digits.getD "4294967296")) := by
  have hnext : nextOf (counter before) = none := nextOf_eq_none_iff.mpr (by omega)
  unfold assign
  rw [hnext]
  cases declaration.digits with
  | none => rfl
  | some digits =>
    simp only [Option.getD_some]
    cases readValue? digits <;> rfl

theorem addLine_of_spelled (hline : Text.trim raw ≠ "")
    (hspelled : Spelled (Text.trim raw).toList declaration) :
    addLine state raw number =
      if declaration.symbol = reservedSymbol then
        .error (.reservedSymbol state.built.name number declaration.symbol)
      else if state.built.contains declaration.symbol then
        .error (.duplicateSymbol state.built.name number declaration.symbol)
      else
        match assign state.built.name state.next declaration with
        | .error error => .error error
        | .ok value =>
          .ok ⟨state.built.insert ⟨declaration.symbol, value,
            declaration.description.getD state.built.name⟩, nextValue? value⟩ := by
  have hread := Declaration.ofLine?_trim_eq_some_iff.mpr hspelled
  cases hassign : assign state.built.name state.next declaration <;>
    simp only [addLine, if_neg hline, hread, hassign]

theorem contains_iff (h : Lists file before enumeration) (symbol : String) :
    enumeration.contains symbol ↔ symbol ∈ before.map Declaration.symbol := by
  rw [← h.symbols]
  simp [contains]

theorem addLine_of_fault (h : Reaches file before state) (hline : Text.trim raw ≠ "")
    (hfault : Fault file number (Text.trim raw) before error) :
    addLine state raw number = .error error := by
  have hcontains := contains_iff h.lists
  cases hfault with
  | malformed hnone =>
    have hread : Declaration.ofLine? (Text.trim raw) = none := by
      rw [Option.eq_none_iff_forall_ne_some]
      exact fun declaration hread =>
        hnone declaration (Declaration.ofLine?_trim_eq_some_iff.mp hread)
    rw [addLine, if_neg hline, hread, h.lists.name]
  | reserved hspelled hreserved =>
    rw [addLine_of_spelled hline hspelled, if_pos hreserved, h.lists.name]
  | duplicate hspelled hunreserved hrepeated =>
    rw [addLine_of_spelled hline hspelled, if_neg hunreserved, if_pos ((hcontains _).mpr hrepeated),
      h.lists.name]
  | tooLarge hspelled hunreserved hfresh hdigits hlarge =>
    rw [addLine_of_spelled hline hspelled, if_neg hunreserved,
      if_neg (fun hc => hfresh ((hcontains _).mp hc)), assign_of_tooLarge hdigits hlarge,
      h.lists.name]
  | decreasing hspelled hunreserved hfresh hdigits hfound hexpected hlt =>
    rw [addLine_of_spelled hline hspelled, if_neg hunreserved,
      if_neg (fun hc => hfresh ((hcontains _).mp hc)), h.next,
      assign_of_decreasing hdigits hfound hexpected hlt, h.lists.name]
  | exhausted hspelled hunreserved hfresh _ hcounter =>
    rw [addLine_of_spelled hline hspelled, if_neg hunreserved,
      if_neg (fun hc => hfresh ((hcontains _).mp hc)), h.next, assign_of_exhausted hcounter,
      h.lists.name]

theorem addLine_of_follows (h : Reaches file before state) (hline : Text.trim raw ≠ "")
    (hspelled : Spelled (Text.trim raw).toList declaration)
    (hfollows : Follows before declaration) :
    addLine state raw number = .ok (extend file before declaration state) := by
  have hfresh : ¬ state.built.contains declaration.symbol :=
    fun hc => hfollows.fresh ((contains_iff h.lists _).mp hc)
  have hvalue := hfollows.valueFrom_lt (hfollows.counter_lt h.progression)
  rw [addLine_of_spelled hline hspelled, if_neg hfollows.unreserved, if_neg hfresh, h.next,
    assign_of_follows hfollows h.progression, h.lists.name]
  simp only [nextValue?_eq, UInt32.toNat_ofNat_of_lt' hvalue, extend]

theorem fault_or_follows (hbefore : Progression before) (line : String) (file : String)
    (number : Nat) :
    (∃ error, Fault file number line before error) ∨
      ∃ declaration, Spelled line.toList declaration ∧ Follows before declaration := by
  by_cases hspelled : ∃ declaration, Spelled line.toList declaration
  case neg => exact .inl ⟨_, .malformed fun declaration h => hspelled ⟨declaration, h⟩⟩
  obtain ⟨declaration, hspelled⟩ := hspelled
  by_cases hreserved : declaration.symbol = reservedSymbol
  · exact .inl ⟨_, .reserved hspelled hreserved⟩
  by_cases hrepeated : declaration.symbol ∈ before.map Declaration.symbol
  · exact .inl ⟨_, .duplicate hspelled hreserved hrepeated⟩
  by_cases hlarge : ∃ digits, declaration.digits = some digits ∧ UInt32.size ≤ numberOf digits
  · obtain ⟨digits, hdigits, hlarge⟩ := hlarge
    exact .inl ⟨_, .tooLarge hspelled hreserved hrepeated hdigits hlarge⟩
  have hfits (digits : String) (hdigits : declaration.digits = some digits) :
      numberOf digits < UInt32.size :=
    Nat.lt_of_not_le fun hle => hlarge ⟨digits, hdigits, hle⟩
  obtain ⟨hle, hroom⟩ := hbefore.counter_le
  by_cases hcounter : counter before = UInt32.size
  · exact .inl ⟨_, .exhausted hspelled hreserved hrepeated hfits hcounter⟩
  have hlt : counter before < UInt32.size := by omega
  by_cases hordered : ∀ digits, declaration.digits = some digits → counter before ≤ numberOf digits
  · exact .inr ⟨declaration, hspelled, hreserved, hrepeated, hfits, hordered, hroom.mp hlt⟩
  · simp only [not_forall, Nat.not_le] at hordered
    obtain ⟨digits, hdigits, hbelow⟩ := hordered
    have hfound := UInt32.toNat_ofNat_of_lt' (hfits digits hdigits)
    have hexpected := UInt32.toNat_ofNat_of_lt' hlt
    exact .inl ⟨_, .decreasing hspelled hreserved hrepeated hdigits hfound hexpected
      (by rwa [UInt32.lt_iff_toNat_lt, hfound, hexpected])⟩

theorem addLine_eq_error_iff (h : Reaches file before state) :
    addLine state raw number = .error error ↔
      Text.trim raw ≠ "" ∧ Fault file number (Text.trim raw) before error := by
  constructor
  · intro hfail
    by_cases hline : Text.trim raw = ""
    · rw [addLine, if_pos hline] at hfail
      cases hfail
    refine ⟨hline, ?_⟩
    rcases fault_or_follows h.progression (Text.trim raw) file number with
      ⟨fault, hfault⟩ | ⟨declaration, hspelled, hfollows⟩
    · have heq := addLine_of_fault h hline hfault
      rw [hfail, Except.error.injEq] at heq
      rwa [heq]
    · rw [addLine_of_follows h hline hspelled hfollows] at hfail
      cases hfail
  · rintro ⟨hline, hfault⟩
    exact addLine_of_fault h hline hfault

theorem addLine_eq_ok_cases (h : Reaches file before state)
    (hok : addLine state raw number = .ok state') :
    (Text.trim raw = "" ∧ state' = state) ∨
      (Text.trim raw ≠ "" ∧ ∃ declaration, Spelled (Text.trim raw).toList declaration ∧
        Follows before declaration ∧ Reaches file (before ++ [declaration]) state') := by
  by_cases hline : Text.trim raw = ""
  · rw [addLine, if_pos hline, Except.ok.injEq] at hok
    exact .inl ⟨hline, hok.symm⟩
  rcases fault_or_follows h.progression (Text.trim raw) file number with
    ⟨fault, hfault⟩ | ⟨declaration, hspelled, hfollows⟩
  · rw [addLine_of_fault h hline hfault] at hok
    cases hok
  · rw [addLine_of_follows h hline hspelled hfollows, Except.ok.injEq] at hok
    exact .inr ⟨hline, declaration, hspelled, hfollows, hok ▸ h.extend hfollows⟩

/-! ### All lines -/

/-- The trimmed lines that are not blank. -/
def nonblank (raws : List String) : List String :=
  (raws.map Text.trim).filter (· ≠ "")

/-- The lines that are not blank spell the declarations, one each. -/
def Spell (raws : List String) (declarations : List Declaration) : Prop :=
  List.Forall₂ (fun line declaration => Spelled line.toList declaration) (nonblank raws)
    declarations

def readLines (file : String) (raws : List String) : Except DefinitionError Partial :=
  (raws.zipIdx 1).foldlM (fun state (raw, number) => addLine state raw number) ⟨empty file, some 0⟩

theorem readLines_append_singleton (raws : List String) :
    readLines file (raws ++ [raw]) =
      readLines file raws >>= fun state => addLine state raw (raws.length + 1) := by
  rw [readLines, List.zipIdx_append, List.foldlM_append, Nat.add_comm]
  congr 1
  funext state
  simp [List.zipIdx]

theorem nonblank_append_singleton (raws : List String) :
    nonblank (raws ++ [raw]) =
      nonblank raws ++ if Text.trim raw = "" then [] else [Text.trim raw] := by
  rw [nonblank, List.map_append, List.filter_append]
  by_cases hline : Text.trim raw = "" <;> simp [nonblank, hline]

theorem spell_append_blank {raws : List String} (hline : Text.trim raw = "") :
    Spell (raws ++ [raw]) before ↔ Spell raws before := by
  rw [Spell, nonblank_append_singleton, if_pos hline, List.append_nil, Spell]

theorem spell_append_line {raws : List String} {declarations : List Declaration}
    (hline : Text.trim raw ≠ "") :
    Spell (raws ++ [raw]) declarations ↔ ∃ before declaration,
      declarations = before ++ [declaration] ∧ Spell raws before ∧
        Spelled (Text.trim raw).toList declaration := by
  rw [Spell, nonblank_append_singleton, if_neg hline, ← List.forall₂_reverse_iff,
    List.reverse_append, List.reverse_singleton, List.singleton_append, List.forall₂_cons_left_iff]
  constructor
  · rintro ⟨declaration, before, hspelled, hbefore, hsplit⟩
    refine ⟨before.reverse, declaration, ?_, ?_, hspelled⟩
    · rw [← List.reverse_cons, ← hsplit, List.reverse_reverse]
    · rwa [Spell, ← List.forall₂_reverse_iff, List.reverse_reverse]
  · rintro ⟨before, declaration, rfl, hbefore, hspelled⟩
    refine ⟨declaration, before.reverse, hspelled, ?_, by simp⟩
    rwa [List.forall₂_reverse_iff]

/-- **A run gets through its lines iff they spell a progression**, and then it has what that
declares. -/
theorem readLines_eq_ok_iff {raws : List String} :
    readLines file raws = .ok state ↔ ∃ declarations, Spell raws declarations ∧
      Reaches file declarations state := by
  induction raws using List.reverseRecOn generalizing state with
  | nil =>
    constructor
    · intro h
      cases h
      exact ⟨[], .nil, .start file⟩
    · rintro ⟨declarations, hspell, hreaches⟩
      cases hspell
      rw [hreaches.unique (.start file)]
      rfl
  | append_singleton raws raw ih =>
    rw [readLines_append_singleton, bind_eq_ok_iff]
    constructor
    · rintro ⟨middle, hmiddle, hok⟩
      obtain ⟨before, hspell, hreaches⟩ := ih.mp hmiddle
      rcases addLine_eq_ok_cases hreaches hok with
        ⟨hline, rfl⟩ | ⟨hline, declaration, hspelled, -, hnext⟩
      · exact ⟨before, (spell_append_blank hline).mpr hspell, hreaches⟩
      · exact ⟨_, (spell_append_line hline).mpr ⟨before, declaration, rfl, hspell, hspelled⟩, hnext⟩
    · rintro ⟨declarations, hspell, hreaches⟩
      by_cases hline : Text.trim raw = ""
      · refine ⟨state, ih.mpr ⟨declarations, (spell_append_blank hline).mp hspell, hreaches⟩, ?_⟩
        rw [addLine, if_pos hline]
      · obtain ⟨before, declaration, rfl, hbefore, hspelled⟩ := (spell_append_line hline).mp hspell
        obtain ⟨hprogression, hfollows⟩ :=
          Declaration.progression_append_iff.mp hreaches.progression
        obtain ⟨middle, hmiddle⟩ := exists_reaches file hprogression
        refine ⟨middle, ih.mpr ⟨before, hbefore, hmiddle⟩, ?_⟩
        rw [addLine_of_follows hmiddle hline hspelled hfollows,
          (hmiddle.extend hfollows).unique hreaches]

/-- The line `raw`, behind the lines `before` of the file, is at fault. -/
def FaultAt (file : String) (before : List String) (raw : String) (error : DefinitionError) :
    Prop :=
  Text.trim raw ≠ "" ∧ ∃ declarations, Spell before declarations ∧ Progression declarations ∧
    Fault file (before.length + 1) (Text.trim raw) declarations error

theorem readLines_eq_error_iff {raws : List String} :
    readLines file raws = .error error ↔
      ∃ before raw after, raws = before ++ raw :: after ∧ FaultAt file before raw error := by
  have hstep {before : List String} {raw : String} :
      (∃ state, readLines file before = .ok state ∧
        addLine state raw (before.length + 1) = .error error) ↔ FaultAt file before raw error := by
    constructor
    · rintro ⟨state, hstate, hfail⟩
      obtain ⟨declarations, hspell, hreaches⟩ := readLines_eq_ok_iff.mp hstate
      obtain ⟨hline, hfault⟩ := (addLine_eq_error_iff hreaches).mp hfail
      exact ⟨hline, declarations, hspell, hreaches.progression, hfault⟩
    · rintro ⟨hline, declarations, hspell, hprogression, hfault⟩
      obtain ⟨state, hreaches⟩ := exists_reaches file hprogression
      exact ⟨state, readLines_eq_ok_iff.mpr ⟨declarations, hspell, hreaches⟩,
        addLine_of_fault hreaches hline hfault⟩
  rw [readLines, foldlM_eq_error_iff]
  constructor
  · rintro ⟨numbered, ⟨raw, number⟩, rest, state, hsplit, hstate, hfail⟩
    obtain ⟨before, others, rfl, rfl, hothers⟩ := List.zipIdx_eq_append_iff.mp hsplit
    obtain ⟨_, after, rfl, hraw, -⟩ := List.zipIdx_eq_cons_iff.mp hothers.symm
    obtain ⟨rfl, rfl⟩ := Prod.mk.inj hraw
    rw [Nat.add_comm] at hfail
    exact ⟨before, raw, after, rfl, hstep.mp ⟨state, hstate, hfail⟩⟩
  · rintro ⟨before, raw, after, rfl, hfault⟩
    obtain ⟨state, hstate, hfail⟩ := hstep.mpr hfault
    refine ⟨before.zipIdx 1, (raw, before.length + 1), after.zipIdx (before.length + 2), state, ?_,
      hstate, hfail⟩
    rw [List.zipIdx_append, List.zipIdx_cons, Nat.add_comm 1]

theorem result_read (name content : String) :
    (read name content).result =
      (readLines name (Text.lines content)) >>= fun state => .ok state.built := by
  rw [read, Traced.result_bind]
  show ofContent name content >>= _ = _
  rw [ofContent, readLines]
  cases List.foldlM (fun state (raw, number) => addLine state raw number) ⟨empty name, some 0⟩
    ((Text.lines content).zipIdx 1) <;> rfl

theorem result_read_eq_ok_iff {name content : String} :
    (read name content).result = .ok enumeration ↔
      ∃ declarations, Spell (Text.lines content) declarations ∧ Progression declarations ∧
        Lists name declarations enumeration := by
  rw [result_read, bind_eq_ok_iff]
  constructor
  · rintro ⟨state, hstate, hbuilt⟩
    obtain ⟨declarations, hspell, hreaches⟩ := readLines_eq_ok_iff.mp hstate
    cases hbuilt
    exact ⟨declarations, hspell, hreaches.progression, hreaches.lists⟩
  · rintro ⟨declarations, hspell, hprogression, hlists⟩
    refine ⟨⟨enumeration, nextOf (counter declarations)⟩, ?_, rfl⟩
    exact readLines_eq_ok_iff.mpr ⟨declarations, hspell, hprogression, hlists, rfl⟩

theorem result_read_eq_error_iff {name content : String} :
    (read name content).result = .error error ↔
      ∃ before raw after, Text.lines content = before ++ raw :: after ∧
        FaultAt name before raw error := by
  rw [result_read, bind_eq_error_iff, readLines_eq_error_iff]
  simp

theorem name_of_read {name content : String} (h : (read name content).result = .ok enumeration) :
    enumeration.name = name := by
  obtain ⟨declarations, -, -, hlists⟩ := result_read_eq_ok_iff.mp h
  exact hlists.name

theorem file_of_read {name content : String} (h : (read name content).result = .error error) :
    error.file = name := by
  rw [result_read_eq_error_iff] at h
  obtain ⟨before, raw, after, -, -, declarations, -, -, hfault⟩ := h
  cases hfault <;> rfl

/-- **An enum file is read as what its lines declare.** It is accepted iff its lines that are not
blank spell a progression of declarations; it is then the enumeration that these declare, and
otherwise it is refused with the fault of the first line that is at fault. -/
theorem read_progression (name content : String) :
    ((∃ enumeration, (read name content).result = .ok enumeration) ↔
      ∃ declarations, Spell (Text.lines content) declarations ∧ Progression declarations) ∧
    (∀ enumeration, (read name content).result = .ok enumeration ↔
      ∃ declarations, Spell (Text.lines content) declarations ∧ Progression declarations ∧
        Lists name declarations enumeration) ∧
    ∀ error, (read name content).result = .error error ↔
      ∃ before raw after, Text.lines content = before ++ raw :: after ∧
        FaultAt name before raw error := by
  refine ⟨?_, fun enumeration => result_read_eq_ok_iff, fun error => ?_⟩
  · constructor
    · rintro ⟨enumeration, hread⟩
      obtain ⟨declarations, hspell, hprogression, -⟩ := result_read_eq_ok_iff.mp hread
      exact ⟨declarations, hspell, hprogression⟩
    · rintro ⟨declarations, hspell, hprogression⟩
      obtain ⟨state, hreaches⟩ := exists_reaches name hprogression
      exact ⟨state.built,
        result_read_eq_ok_iff.mpr ⟨declarations, hspell, hprogression, hreaches.lists⟩⟩
  · rw [result_read, bind_eq_error_iff, readLines_eq_error_iff]
    simp

end

end Enumeration

end EntityCodegen
