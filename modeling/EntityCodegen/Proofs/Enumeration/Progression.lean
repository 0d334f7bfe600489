import EntityCodegen.Definition.Enumeration
import EntityCodegen.Proofs.Enumeration.Grammar
import Mathlib.Data.List.Induction

/-!
# Progressions of declarations

What the declarations of an enum file declare, said without a reader. The values of a list of
declarations (`values`) are its explicit numbers, and where a number is left out one more than the
value before. A list is a `Progression` where no symbol is reserved or repeated, every number fits
in 32 bits and is not below the value that would come next (`counter`), and nothing stands behind
the greatest value. An enumeration `Lists` declarations where it has their symbols, values and
descriptions in their order.

All of this grows declaration by declaration: a list is a progression iff the list without its last
declaration is one which that declaration may follow (`progression_append_iff`).
-/

namespace EntityCodegen

namespace Declaration

/-! ### Values -/

/-- The number that digits denote, leading zeros included. -/
def numberOf (digits : String) : Nat :=
  Nat.ofDigitChars 10 digits.toList 0

/-- The value of a symbol, `next` being the one that it has if none is written. -/
def valueFrom (next : Nat) (declaration : Declaration) : Nat :=
  (declaration.digits.map numberOf).getD next

/-- The values of declarations, `next` being that of the first if none is written. -/
def valuesFrom (next : Nat) : List Declaration → List Nat
  | [] => []
  | declaration :: rest =>
    declaration.valueFrom next :: valuesFrom (declaration.valueFrom next + 1) rest

def values (declarations : List Declaration) : List Nat :=
  valuesFrom 0 declarations

/-- The least value of a further symbol: zero at first, then one more than the last value. -/
def counterFrom (next : Nat) (declarations : List Declaration) : Nat :=
  ((valuesFrom next declarations).getLast?.map (· + 1)).getD next

def counter (declarations : List Declaration) : Nat :=
  counterFrom 0 declarations

theorem counterFrom_cons (next : Nat) (declaration : Declaration) (rest : List Declaration) :
    counterFrom next (declaration :: rest) = counterFrom (declaration.valueFrom next + 1) rest := by
  rw [counterFrom, counterFrom, valuesFrom, List.getLast?_cons]
  cases (valuesFrom (declaration.valueFrom next + 1) rest).getLast? <;> rfl

theorem valuesFrom_append (next : Nat) (declarations others : List Declaration) :
    valuesFrom next (declarations ++ others) =
      valuesFrom next declarations ++ valuesFrom (counterFrom next declarations) others := by
  induction declarations generalizing next with
  | nil => rfl
  | cons declaration rest ih =>
    rw [List.cons_append, valuesFrom, valuesFrom, ih, counterFrom_cons, List.cons_append]

theorem values_append_singleton (declarations : List Declaration) (declaration : Declaration) :
    values (declarations ++ [declaration]) =
      values declarations ++ [declaration.valueFrom (counter declarations)] :=
  valuesFrom_append 0 declarations [declaration]

theorem counter_append_singleton (declarations : List Declaration) (declaration : Declaration) :
    counter (declarations ++ [declaration]) =
      declaration.valueFrom (counter declarations) + 1 := by
  have h := values_append_singleton declarations declaration
  rw [values] at h
  rw [counter, counterFrom, h, List.getLast?_concat]
  rfl

/-! ### Progressions -/

/-- The declarations of an enum file that is accepted. -/
structure Progression (declarations : List Declaration) : Prop where
  distinct : (declarations.map Declaration.symbol).Nodup
  unreserved : ∀ declaration ∈ declarations, declaration.symbol ≠ Enumeration.reservedSymbol
  fits : ∀ declaration ∈ declarations, ∀ digits, declaration.digits = some digits →
    numberOf digits < UInt32.size
  ordered : ∀ before declaration after, declarations = before ++ declaration :: after →
    ∀ digits, declaration.digits = some digits → counter before ≤ numberOf digits
  /-- Nothing stands behind the greatest value. -/
  room : ∀ before declaration after, declarations = before ++ declaration :: after →
    (values before).getLast? ≠ some (UInt32.size - 1)

/-- The declaration may stand behind the others. -/
structure Follows (before : List Declaration) (declaration : Declaration) : Prop where
  unreserved : declaration.symbol ≠ Enumeration.reservedSymbol
  fresh : declaration.symbol ∉ before.map Declaration.symbol
  fits : ∀ digits, declaration.digits = some digits → numberOf digits < UInt32.size
  ordered : ∀ digits, declaration.digits = some digits → counter before ≤ numberOf digits
  room : (values before).getLast? ≠ some (UInt32.size - 1)

theorem cut_append_singleton {α : Type} {xs before after : List α} {x y : α}
    (h : xs ++ [x] = before ++ y :: after) :
    (xs = before ∧ x = y) ∨ ∃ rest, xs = before ++ y :: rest := by
  rcases List.eq_nil_or_concat after with rfl | ⟨rest, last, rfl⟩
  · obtain ⟨hxs, hx⟩ := List.append_inj' h rfl
    exact .inl ⟨hxs, by simpa using hx⟩
  · rw [List.concat_eq_append, ← List.cons_append, ← List.append_assoc] at h
    exact .inr ⟨rest, (List.append_inj' h rfl).1⟩

theorem progression_nil : Progression [] :=
  ⟨by simp, by simp, by simp, by simp, by simp⟩

theorem progression_append_iff {declarations : List Declaration} {declaration : Declaration} :
    Progression (declarations ++ [declaration]) ↔
      Progression declarations ∧ Follows declarations declaration := by
  constructor
  · rintro ⟨hdistinct, hunreserved, hfits, hordered, hroom⟩
    rw [List.map_append, List.nodup_append] at hdistinct
    refine ⟨⟨hdistinct.1, fun other hother => hunreserved other (by simp [hother]),
      fun other hother => hfits other (by simp [hother]), ?_, ?_⟩, ?_⟩
    · rintro before other after rfl
      exact hordered before other (after ++ [declaration]) (by simp)
    · rintro before other after rfl
      exact hroom before other (after ++ [declaration]) (by simp)
    · refine ⟨hunreserved declaration (by simp), fun hmem => ?_, hfits declaration (by simp),
        hordered declarations declaration [] rfl, hroom declarations declaration [] rfl⟩
      exact hdistinct.2.2 _ hmem declaration.symbol (by simp) rfl
  · rintro ⟨⟨hdistinct, hunreserved, hfits, hordered, hroom⟩, hfollows⟩
    refine ⟨?_, ?_, ?_, ?_, ?_⟩
    · rw [List.map_append, List.nodup_append]
      refine ⟨hdistinct, by simp, fun symbol hsymbol other hother heq => ?_⟩
      rw [List.map_singleton, List.mem_singleton] at hother
      exact hfollows.fresh (hother ▸ heq ▸ hsymbol)
    · intro other hother
      rcases List.mem_append.mp hother with hother | hother
      · exact hunreserved other hother
      · exact List.mem_singleton.mp hother ▸ hfollows.unreserved
    · intro other hother
      rcases List.mem_append.mp hother with hother | hother
      · exact hfits other hother
      · exact List.mem_singleton.mp hother ▸ hfollows.fits
    · intro before other after hcut
      rcases cut_append_singleton hcut with ⟨rfl, rfl⟩ | ⟨rest, hcut⟩
      · exact hfollows.ordered
      · exact hordered before other rest hcut
    · intro before other after hcut
      rcases cut_append_singleton hcut with ⟨rfl, rfl⟩ | ⟨rest, hcut⟩
      · exact hfollows.room
      · exact hroom before other rest hcut

theorem Follows.valueFrom_lt {before : List Declaration} {declaration : Declaration}
    (h : Follows before declaration) (hcounter : counter before < UInt32.size) :
    declaration.valueFrom (counter before) < UInt32.size := by
  rw [valueFrom]
  cases hdigits : declaration.digits with
  | none => exact hcounter
  | some digits => exact h.fits digits hdigits

theorem Follows.counter_le_valueFrom {before : List Declaration} {declaration : Declaration}
    (h : Follows before declaration) : counter before ≤ declaration.valueFrom (counter before) := by
  rw [valueFrom]
  cases hdigits : declaration.digits with
  | none => exact Nat.le_refl _
  | some digits => exact h.ordered digits hdigits

theorem Progression.counter_le {declarations : List Declaration} (h : Progression declarations) :
    counter declarations ≤ UInt32.size ∧
      (counter declarations < UInt32.size ↔
        (values declarations).getLast? ≠ some (UInt32.size - 1)) := by
  induction declarations using List.reverseRecOn with
  | nil => exact ⟨by decide, by decide⟩
  | append_singleton before declaration ih =>
    obtain ⟨hbefore, hfollows⟩ := progression_append_iff.mp h
    have hvalue := hfollows.valueFrom_lt ((ih hbefore).2.mpr hfollows.room)
    rw [counter_append_singleton, values_append_singleton, List.getLast?_concat, ne_eq,
      Option.some.injEq]
    omega

theorem counter_le_of_forall {declarations : List Declaration} {n : Nat}
    (h : ∀ value ∈ values declarations, value < n) : counter declarations ≤ n := by
  show ((values declarations).getLast?.map (· + 1)).getD 0 ≤ n
  cases hlast : (values declarations).getLast? with
  | none => exact Nat.zero_le n
  | some value => exact h value (List.mem_of_getLast? hlast)

theorem Progression.pairwise_values {declarations : List Declaration}
    (h : Progression declarations) : (values declarations).Pairwise (· < ·) ∧
      ∀ value ∈ values declarations, value < counter declarations := by
  induction declarations using List.reverseRecOn with
  | nil => exact ⟨.nil, by simp [values, valuesFrom]⟩
  | append_singleton before declaration ih =>
    obtain ⟨hbefore, hfollows⟩ := progression_append_iff.mp h
    obtain ⟨hpairwise, hbelow⟩ := ih hbefore
    have hnext := hfollows.counter_le_valueFrom
    have habove (value : Nat) (hvalue : value ∈ values before) :
        value < declaration.valueFrom (counter before) :=
      Nat.lt_of_lt_of_le (hbelow value hvalue) hnext
    rw [values_append_singleton, counter_append_singleton, List.pairwise_append]
    refine ⟨⟨hpairwise, by simp, by simpa using habove⟩, fun value hvalue => ?_⟩
    rcases List.mem_append.mp hvalue with hvalue | hvalue
    · exact Nat.lt_succ_of_lt (habove value hvalue)
    · rw [List.mem_singleton.mp hvalue]
      exact Nat.lt_succ_self _

theorem Follows.counter_lt {before : List Declaration} {declaration : Declaration}
    (h : Follows before declaration) (hbefore : Progression before) :
    counter before < UInt32.size :=
  hbefore.counter_le.2.mpr h.room

end Declaration

/-! ### What declarations declare -/

namespace Enumeration

open Declaration (values)

/-- The enumeration that the declarations of the file declare. -/
structure Lists (file : String) (declarations : List Declaration) (enumeration : Enumeration) :
    Prop where
  name : enumeration.name = file
  symbols : enumeration.symbols.map Symbol.name = declarations.map Declaration.symbol
  values : enumeration.symbols.map (fun symbol => symbol.value.toNat) = values declarations
  descriptions : enumeration.symbols.map Symbol.description =
    declarations.map fun declaration => declaration.description.getD file

theorem lists_empty (file : String) : Lists file [] (empty file) :=
  ⟨rfl, rfl, rfl, rfl⟩

theorem Lists.unique {file : String} {declarations : List Declaration} {e f : Enumeration}
    (he : Lists file declarations e) (hf : Lists file declarations f) : e = f := by
  have hname := he.symbols.trans hf.symbols.symm
  have hvalue := he.values.trans hf.values.symm
  have hdescription := he.descriptions.trans hf.descriptions.symm
  refine Enumeration.ext (he.name.trans hf.name.symm) (List.ext_getElem? fun i => ?_)
  have hname := congrArg (·[i]?) hname
  have hvalue := congrArg (·[i]?) hvalue
  have hdescription := congrArg (·[i]?) hdescription
  simp only [List.getElem?_map] at hname hvalue hdescription
  cases hes : e.symbols[i]? <;> cases hfs : f.symbols[i]?
  · rfl
  · simp [hes, hfs] at hname
  · simp [hes, hfs] at hname
  · next s t =>
    simp only [hes, hfs, Option.map_some, Option.some.injEq] at hname hvalue hdescription
    cases s; cases t
    simp only [Option.some.injEq, Symbol.mk.injEq]
    exact ⟨hname, UInt32.toNat_inj.mp hvalue, hdescription⟩

theorem Lists.insert {file : String} {before : List Declaration} {declaration : Declaration}
    {enumeration : Enumeration} {value : UInt32} (h : Lists file before enumeration)
    (hfresh : declaration.symbol ∉ before.map Declaration.symbol)
    (hvalue : value.toNat = declaration.valueFrom (Declaration.counter before)) :
    Lists file (before ++ [declaration])
      (enumeration.insert ⟨declaration.symbol, value, declaration.description.getD file⟩) := by
  have hnew : declaration.symbol ∉ enumeration.symbols.map Symbol.name := by
    rwa [h.symbols]
  rw [Enumeration.insert, dif_neg hnew]
  refine ⟨h.name, ?_, ?_, ?_⟩
  · simp [h.symbols]
  · simp [h.values, hvalue, Declaration.values_append_singleton]
  · simp [h.descriptions]

end Enumeration

end EntityCodegen
