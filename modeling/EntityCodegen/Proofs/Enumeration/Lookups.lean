import EntityCodegen.Proofs.Enumeration.Printing
import Mathlib.Data.List.Nodup

/-!
# Looking symbols up

`lookups_inverse`: by value an enumeration finds the earliest symbol of the value, in any enumeration,
and from that symbol's name the value is found again. In an enumeration that was read from a file
the two look-ups undo each other, since the values of its symbols increase strictly and so no two of
them are the same (`pairwise_value_of_read`).
-/

namespace EntityCodegen.Enumeration

variable {enumeration : Enumeration} {symbol : Symbol} {name : String} {value : UInt32}

/-! ### By name -/

theorem eq_of_name_eq {other : Symbol} (h : symbol ∈ enumeration.symbols)
    (h' : other ∈ enumeration.symbols) (hname : symbol.name = other.name) : symbol = other :=
  List.inj_on_of_nodup_map enumeration.distinct h h' hname

theorem valueOf?_eq_some_iff : enumeration.valueOf? name = some value ↔
    ∃ symbol ∈ enumeration.symbols, symbol.name = name ∧ symbol.value = value := by
  rw [valueOf?, Option.map_eq_some_iff]
  constructor
  · rintro ⟨symbol, hfind, hvalue⟩
    have hname := List.find?_some hfind
    exact ⟨symbol, List.mem_of_find?_eq_some hfind, by simpa using hname, hvalue⟩
  · rintro ⟨symbol, hsymbol, rfl, hvalue⟩
    have hfind : (enumeration.symbols.find? fun entry => entry.name == symbol.name).isSome :=
      List.find?_isSome.mpr ⟨symbol, hsymbol, by simp⟩
    obtain ⟨found, hfound⟩ := Option.isSome_iff_exists.mp hfind
    -- what is found has the name, and so it is the symbol
    have hname := List.find?_some hfound
    have hsame : found = symbol :=
      eq_of_name_eq (List.mem_of_find?_eq_some hfound) hsymbol (by simpa using hname)
    exact ⟨found, hfound, hsame ▸ hvalue⟩

/-! ### By value -/

/-- No symbol before this one has its value. -/
def Earliest (enumeration : Enumeration) (symbol : Symbol) : Prop :=
  ∃ before after, enumeration.symbols = before ++ symbol :: after ∧
    ∀ other ∈ before, other.value ≠ symbol.value

theorem Earliest.mem (h : enumeration.Earliest symbol) : symbol ∈ enumeration.symbols := by
  obtain ⟨before, after, hsymbols, -⟩ := h
  rw [hsymbols]
  exact List.mem_append_right before List.mem_cons_self

theorem find?_value_eq_some_iff :
    (enumeration.symbols.find? fun entry => entry.value == value) = some symbol ↔
      enumeration.Earliest symbol ∧ symbol.value = value := by
  rw [List.find?_eq_some_iff_append, beq_iff_eq, and_comm]
  refine and_congr_left fun hvalue => ?_
  subst hvalue
  simp [Earliest]

theorem nameOf?_eq_some_iff : enumeration.nameOf? value = some name ↔
    ∃ symbol, enumeration.Earliest symbol ∧ symbol.value = value ∧ symbol.name = name := by
  simp only [nameOf?, Option.map_eq_some_iff, find?_value_eq_some_iff, and_assoc]

theorem descriptionOf?_of_earliest (h : enumeration.Earliest symbol) :
    enumeration.descriptionOf? symbol.value = some symbol.description := by
  rw [descriptionOf?, find?_value_eq_some_iff.mpr ⟨h, rfl⟩, Option.map_some]

/-- What looking up finds, whether or not values are repeated. -/
structure FindsEarliest (enumeration : Enumeration) : Prop where
  value_iff : ∀ name value, enumeration.valueOf? name = some value ↔
    ∃ symbol ∈ enumeration.symbols, symbol.name = name ∧ symbol.value = value
  name_iff : ∀ value name, enumeration.nameOf? value = some name ↔
    ∃ symbol, enumeration.Earliest symbol ∧ symbol.value = value ∧ symbol.name = name
  found : ∀ symbol ∈ enumeration.symbols, (enumeration.nameOf? symbol.value).isSome
  value_of_name : ∀ value name, enumeration.nameOf? value = some name →
    enumeration.valueOf? name = some value
  /-- The description is that of the symbol whose name is found. -/
  description : ∀ value name, enumeration.nameOf? value = some name →
    ∃ symbol ∈ enumeration.symbols, symbol.name = name ∧
      enumeration.descriptionOf? value = some symbol.description
  absent : ∀ value, enumeration.nameOf? value = none → enumeration.descriptionOf? value = none

theorem findsEarliest (enumeration : Enumeration) : FindsEarliest enumeration where
  value_iff _ _ := valueOf?_eq_some_iff
  name_iff _ _ := nameOf?_eq_some_iff
  found symbol hsymbol := by
    rw [nameOf?, Option.isSome_map, List.find?_isSome]
    exact ⟨symbol, hsymbol, by simp⟩
  value_of_name value name h := by
    obtain ⟨symbol, hearliest, hvalue, hname⟩ := nameOf?_eq_some_iff.mp h
    exact valueOf?_eq_some_iff.mpr ⟨symbol, hearliest.mem, hname, hvalue⟩
  description value name h := by
    obtain ⟨symbol, hearliest, rfl, hname⟩ := nameOf?_eq_some_iff.mp h
    exact ⟨symbol, hearliest.mem, hname, descriptionOf?_of_earliest hearliest⟩
  absent value h := by
    rw [nameOf?, Option.map_eq_none_iff] at h
    rw [descriptionOf?, h, Option.map_none]

/-! ### Enumerations without repeated values -/

theorem earliest_of_nodup (hnodup : (enumeration.symbols.map Symbol.value).Nodup)
    (h : symbol ∈ enumeration.symbols) : enumeration.Earliest symbol := by
  obtain ⟨before, after, hsymbols⟩ := List.append_of_mem h
  refine ⟨before, after, hsymbols, fun other hother => ?_⟩
  rw [hsymbols, List.map_append, List.map_cons, List.nodup_append] at hnodup
  exact hnodup.2.2 _ (List.mem_map_of_mem hother) _ List.mem_cons_self

/-- The look-ups by name and by value undo each other. -/
structure Invertible (enumeration : Enumeration) : Prop where
  inverse : ∀ name value,
    enumeration.valueOf? name = some value ↔ enumeration.nameOf? value = some name
  description : ∀ name value, enumeration.valueOf? name = some value →
    ∃ symbol ∈ enumeration.symbols, symbol.name = name ∧
      enumeration.descriptionOf? value = some symbol.description
  values : (enumeration.symbols.map Symbol.value).Nodup

theorem invertible_of_nodup (h : (enumeration.symbols.map Symbol.value).Nodup) : Invertible enumeration := by
  have hfinds := findsEarliest enumeration
  have hinverse (name : String) (value : UInt32) :
      enumeration.valueOf? name = some value ↔ enumeration.nameOf? value = some name := by
    refine ⟨fun hvalue => ?_, hfinds.value_of_name value name⟩
    obtain ⟨symbol, hsymbol, hname, hvalue⟩ := valueOf?_eq_some_iff.mp hvalue
    exact nameOf?_eq_some_iff.mpr ⟨symbol, earliest_of_nodup h hsymbol, hvalue, hname⟩
  exact ⟨hinverse, fun name value hvalue =>
    hfinds.description value name ((hinverse name value).mp hvalue), h⟩

theorem pairwise_value_of_read {file content : String}
    (h : (read file content).result = .ok enumeration) :
    (enumeration.symbols.map Symbol.value).Pairwise (· < ·) := by
  obtain rfl := name_of_read h
  exact List.pairwise_map.mpr (expressible_of_read h).increasing

theorem valueOf?_reserved_of_read {file content : String}
    (h : (read file content).result = .ok enumeration) :
    enumeration.valueOf? reservedSymbol = none := by
  obtain rfl := name_of_read h
  rw [Option.eq_none_iff_forall_ne_some]
  intro value hvalue
  obtain ⟨symbol, hsymbol, hname, -⟩ := valueOf?_eq_some_iff.mp hvalue
  exact ((expressible_of_read h).symbols symbol hsymbol).unreserved hname

/-- **Looking up by value finds the earliest symbol**, and looking up its name gives the value back.
In an enumeration that was read from a file each of the two look-ups undoes the other, and the
reserved symbol has no value. -/
theorem lookups_inverse (enumeration : Enumeration) :
    FindsEarliest enumeration ∧ ∀ file content,
      (read file content).result = .ok enumeration →
        Invertible enumeration ∧ enumeration.valueOf? reservedSymbol = none := by
  refine ⟨findsEarliest enumeration, fun file content h => ⟨invertible_of_nodup ?_, ?_⟩⟩
  · exact (pairwise_value_of_read h).imp UInt32.ne_of_lt
  · exact valueOf?_reserved_of_read h

/-- Three symbols, two of them with one value. -/
def repeating : Enumeration :=
  ⟨"mode", [⟨"off", 0, "Off"⟩, ⟨"on", 1, "On"⟩, ⟨"lit", 1, "Lit"⟩], by decide⟩

/-- Explicit and implicit values up to the greatest, and an enumeration with a repeated value. -/
theorem lookups_inverse_mode :
    (∃ enumeration, (read "mode" "off\non = 007, \"On\"\nlast = 4294967295").result =
        .ok enumeration ∧ Invertible enumeration ∧ enumeration.valueOf? reservedSymbol = none ∧
      enumeration.valueOf? "last" = some 4294967295 ∧
      enumeration.nameOf? 4294967295 = some "last") ∧
    FindsEarliest repeating ∧ repeating.nameOf? 1 = some "on" ∧
      repeating.valueOf? "lit" = some 1 := by
  have hread : (read "mode" "off\non = 007, \"On\"\nlast = 4294967295").result =
      .ok ⟨"mode", [⟨"off", 0, "mode"⟩, ⟨"on", 7, "On"⟩, ⟨"last", 4294967295, "mode"⟩],
        by decide⟩ := by
    decide +kernel
  obtain ⟨hinvertible, hreserved⟩ := (lookups_inverse _).2 _ _ hread
  exact ⟨⟨_, hread, hinvertible, hreserved, by decide, by decide⟩, (lookups_inverse repeating).1,
    by decide, by decide⟩

end EntityCodegen.Enumeration
