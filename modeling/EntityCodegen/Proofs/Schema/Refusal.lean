import EntityCodegen.Proofs.Component.Refusal
import EntityCodegen.Proofs.Enumeration.Reading
import EntityCodegen.Proofs.Schema.Reading
import Mathlib.Data.List.Nodup

/-!
# Which sets of definition files are refused

`read_judged`: a run is refused for its component files or, where these are sound, for its enum
files. Files of one kind are refused for the least name that two of them have, and where there is no
such name, with the fault of the least file that cannot be read. All else makes a schema.

Both kinds are read by `Source.readEach`, so this is proved once. Sorting brings files of one name
side by side, so the first name that stands beside itself is the least repeated one
(`repeatedName?_eq_some_iff`), and where no name is repeated, the first file that fails is the least
one that does (`mapM_sorted_eq_error_iff`).
-/

namespace EntityCodegen

namespace Source

/-- Two of the files have the name. -/
def Repeated (sources : List Source) (name : String) : Prop :=
  2 ≤ (sources.map Source.name).count name

/-- No two files have one name, and each can be read by itself. -/
structure Sound {α : Type} (read : Source → Except DefinitionError α) (sources : List Source) :
    Prop where
  distinct : ∀ name, ¬ Repeated sources name
  readable : ∀ source ∈ sources, ∃ value, read source = .ok value

/-- Why files that are read one by one are refused. -/
inductive Refused {α : Type} (duplicate : String → DefinitionError)
    (read : Source → Except DefinitionError α) (sources : List Source) : DefinitionError → Prop
  /-- The least repeated name is reported, whatever the files hold. -/
  | repeated (name : String) : Repeated sources name →
      (∀ other, Repeated sources other → name ≤ other) →
      Refused duplicate read sources (duplicate name)
  /-- With no name repeated, the least file that cannot be read is reported. -/
  | faulty (source : Source) (error : DefinitionError) : (∀ name, ¬ Repeated sources name) →
      source ∈ sources → read source = .error error →
      (∀ other ∈ sources, (∃ fault, read other = .error fault) → source.name ≤ other.name) →
      Refused duplicate read sources error

variable {α : Type} {duplicate : String → DefinitionError}
  {read : Source → Except DefinitionError α} {sources : List Source} {error : DefinitionError}

/-! ### Repeated names -/

theorem Repeated.mem {name : String} (h : Repeated sources name) :
    name ∈ sources.map Source.name := by
  unfold Repeated at h
  apply List.count_pos_iff.mp
  omega

theorem nodup_names_of_not_repeated (h : ∀ name, ¬ Repeated sources name) :
    (sources.map Source.name).Nodup := by
  rw [List.nodup_iff_count_le_one]
  intro name
  have hname := h name
  unfold Repeated at hname
  omega

theorem repeated_sorted_iff {name : String} :
    Repeated (sorted sources) name ↔ Repeated sources name := by
  unfold Repeated
  rw [((sorted_perm sources).map Source.name).count_eq]

theorem repeated_cons_iff {first : Source} {rest : List Source} {name : String}
    (hfresh : first.name ∉ rest.map Source.name) :
    Repeated (first :: rest) name ↔ Repeated rest name := by
  unfold Repeated
  rw [List.map_cons, List.count_cons]
  by_cases hname : first.name = name
  · have hnone := List.count_eq_zero.mpr (hname ▸ hfresh)
    rw [hnone]
    simp [hname]
  · simp [hname]

theorem not_repeated_of_pairwise_lt (h : sources.Pairwise fun a b => a.name < b.name)
    (name : String) : ¬ Repeated sources name := by
  intro hrepeated
  have hcount := List.nodup_iff_count_le_one.mp (nodup_names_of_pairwise_lt h) name
  unfold Repeated at hrepeated
  omega

theorem least_of_repeatedName? {name : String}
    (hsorted : sources.Pairwise fun a b => a.name ≤ b.name)
    (h : repeatedName? sources = some name) :
    Repeated sources name ∧ ∀ other, Repeated sources other → name ≤ other := by
  induction sources with
  | nil => cases h
  | cons first rest ih =>
    obtain ⟨hfirst, hrest⟩ := List.pairwise_cons.mp hsorted
    cases rest with
    | nil => cases h
    | cons second rest =>
      rw [repeatedName?] at h
      split at h
      · next hsame =>
        cases h
        constructor
        · unfold Repeated
          rw [List.map_cons, List.map_cons, hsame]
          simp
        · intro other hother
          obtain ⟨file, hfile, rfl⟩ := List.mem_map.mp hother.mem
          rcases List.mem_cons.mp hfile with rfl | hfile
          · exact String.le_refl _
          · exact hfirst file hfile
      · next hne =>
        have hfresh : first.name ∉ (second :: rest).map Source.name := by
          intro hmem
          obtain ⟨file, hfile, hname⟩ := List.mem_map.mp hmem
          have hle : second.name ≤ file.name := by
            rcases List.mem_cons.mp hfile with rfl | hfile
            · exact String.le_refl _
            · exact List.rel_of_pairwise_cons hrest hfile
          rw [hname] at hle
          exact hne (String.le_antisymm (hfirst second (by simp)) hle)
        simp only [repeated_cons_iff hfresh]
        exact ih hrest h

theorem repeatedName?_eq_some_iff {name : String} :
    repeatedName? (sorted sources) = some name ↔
      Repeated sources name ∧ ∀ other, Repeated sources other → name ≤ other := by
  have hleast {found : String} (h : repeatedName? (sorted sources) = some found) :
      Repeated sources found ∧ ∀ other, Repeated sources other → found ≤ other := by
    have hfound := least_of_repeatedName? (pairwise_sorted sources) h
    simpa only [repeated_sorted_iff] using hfound
  constructor
  · exact hleast
  · rintro ⟨hrepeated, hle⟩
    cases h : repeatedName? (sorted sources) with
    | none =>
      have hlt := pairwise_lt_of_repeatedName? (pairwise_sorted sources) h
      exact absurd (repeated_sorted_iff.mpr hrepeated) (not_repeated_of_pairwise_lt hlt name)
    | some found =>
      obtain ⟨hfound, hfoundLe⟩ := hleast h
      rw [String.le_antisymm (hfoundLe name hrepeated) (hle found hfound)]

theorem repeatedName?_eq_none_iff :
    repeatedName? (sorted sources) = none ↔ ∀ name, ¬ Repeated sources name := by
  constructor
  · intro h name hrepeated
    have hlt := pairwise_lt_of_repeatedName? (pairwise_sorted sources) h
    exact not_repeated_of_pairwise_lt hlt name (repeated_sorted_iff.mpr hrepeated)
  · intro h
    cases hfound : repeatedName? (sorted sources) with
    | none => rfl
    | some name => exact absurd (repeatedName?_eq_some_iff.mp hfound).1 (h name)

theorem distinctSorted_eq_ok_iff {ordered : List Source} :
    distinctSorted duplicate sources = .ok ordered ↔
      (∀ name, ¬ Repeated sources name) ∧ ordered = sorted sources := by
  rw [← repeatedName?_eq_none_iff, distinctSorted]
  cases repeatedName? (sorted sources) with
  | none => simp [eq_comm]
  | some name => simp

theorem distinctSorted_eq_error_iff :
    distinctSorted duplicate sources = .error error ↔
      ∃ name, Repeated sources name ∧ (∀ other, Repeated sources other → name ≤ other) ∧
        error = duplicate name := by
  simp only [← and_assoc, ← repeatedName?_eq_some_iff]
  rw [distinctSorted]
  cases repeatedName? (sorted sources) with
  | none => simp
  | some name => simp [eq_comm]

/-! ### Files that cannot be read -/

theorem mapM_sorted_eq_error_iff (hdistinct : ∀ name, ¬ Repeated sources name) :
    (sorted sources).mapM read = .error error ↔
      ∃ source ∈ sources, read source = .error error ∧
        ∀ other ∈ sources, (∃ fault, read other = .error fault) → source.name ≤ other.name := by
  have hlt := pairwise_lt_of_repeatedName? (pairwise_sorted sources)
    (repeatedName?_eq_none_iff.mpr hdistinct)
  simp only [← (sorted_perm sources).mem_iff]
  rw [mapM_eq_error_iff]
  constructor
  · rintro ⟨before, source, after, hsplit, hbefore, hfail⟩
    have hsorted := pairwise_sorted sources
    rw [hsplit] at hsorted
    rw [hsplit]
    refine ⟨source, by simp, hfail, ?_⟩
    rintro other hother ⟨fault, hfault⟩
    rcases List.mem_append.mp hother with hother | hother
    · obtain ⟨value, hvalue⟩ := hbefore other hother
      rw [hfault] at hvalue
      cases hvalue
    · rcases List.mem_cons.mp hother with rfl | hother
      · exact String.le_refl _
      · exact List.rel_of_pairwise_cons (List.pairwise_append.mp hsorted).2.1 hother
  · rintro ⟨source, hsource, hfail, hleast⟩
    obtain ⟨before, after, hsplit⟩ := List.append_of_mem hsource
    rw [hsplit] at hlt hleast
    refine ⟨before, source, after, hsplit, ?_, hfail⟩
    intro other hother
    cases hread : read other with
    | ok value => exact ⟨value, rfl⟩
    | error fault =>
      -- a file before it that failed would have a smaller name
      have hsmaller := (List.pairwise_append.mp hlt).2.2 other hother source (by simp)
      have hle := hleast other (List.mem_append_left _ hother) ⟨fault, hread⟩
      exact absurd hsmaller (String.not_lt.mpr hle)

/-! ### Files of one kind -/

theorem readEach_eq_ok_iff {values : List α} :
    readEach duplicate read sources = .ok values ↔
      (∀ name, ¬ Repeated sources name) ∧ (sorted sources).mapM read = .ok values := by
  rw [readEach, bind_eq_ok_iff]
  simp only [distinctSorted_eq_ok_iff]
  constructor
  · rintro ⟨_, ⟨hdistinct, rfl⟩, hvalues⟩
    exact ⟨hdistinct, hvalues⟩
  · rintro ⟨hdistinct, hvalues⟩
    exact ⟨_, ⟨hdistinct, rfl⟩, hvalues⟩

theorem exists_of_readEach {values : List α} (h : readEach duplicate read sources = .ok values)
    {source : Source} (hsource : source ∈ sources) : ∃ value ∈ values, read source = .ok value := by
  have hvalues := mapM_eq_ok_iff.mp (readEach_eq_ok_iff.mp h).2
  exact exists_of_forall₂ hvalues ((sorted_perm sources).mem_iff.mpr hsource)

/-- **Files of one kind are refused for the least name that is repeated or at fault.** -/
theorem readEach_eq_error_iff :
    readEach duplicate read sources = .error error ↔ Refused duplicate read sources error := by
  rw [readEach, bind_eq_error_iff]
  simp only [distinctSorted_eq_error_iff, distinctSorted_eq_ok_iff]
  constructor
  · rintro (⟨name, hrepeated, hleast, rfl⟩ | ⟨_, ⟨hdistinct, rfl⟩, hfail⟩)
    · exact .repeated name hrepeated hleast
    · obtain ⟨source, hsource, hread, hleast⟩ := (mapM_sorted_eq_error_iff hdistinct).mp hfail
      exact .faulty source error hdistinct hsource hread hleast
  · intro h
    cases h with
    | repeated name hrepeated hleast => exact .inl ⟨name, hrepeated, hleast, rfl⟩
    | faulty source _ hdistinct hsource hread hleast =>
      refine .inr ⟨_, ⟨hdistinct, rfl⟩, (mapM_sorted_eq_error_iff hdistinct).mpr ?_⟩
      exact ⟨source, hsource, hread, hleast⟩

theorem exists_readEach_eq_ok_iff (duplicate : String → DefinitionError) :
    (∃ values, readEach duplicate read sources = .ok values) ↔ Sound read sources := by
  constructor
  · rintro ⟨values, h⟩
    refine ⟨(readEach_eq_ok_iff.mp h).1, ?_⟩
    intro source hsource
    obtain ⟨value, -, hvalue⟩ := exists_of_readEach h hsource
    exact ⟨value, hvalue⟩
  · rintro ⟨hdistinct, hreadable⟩
    cases h : readEach duplicate read sources with
    | ok values => exact ⟨values, rfl⟩
    | error error =>
      cases readEach_eq_error_iff.mp h with
      | repeated name hrepeated => exact absurd hrepeated (hdistinct name)
      | faulty source _ _ hsource hfail =>
        obtain ⟨value, hvalue⟩ := hreadable source hsource
        rw [hfail] at hvalue
        cases hvalue

theorem Refused.file_mem (hduplicate : ∀ name, (duplicate name).file = name)
    (hread : ∀ source error, read source = .error error → error.file = source.name)
    (h : Refused duplicate read sources error) : error.file ∈ sources.map Source.name := by
  cases h with
  | repeated name hrepeated =>
    rw [hduplicate]
    exact hrepeated.mem
  | faulty source _ _ hsource hfail =>
    rw [hread source error hfail]
    exact List.mem_map_of_mem hsource

theorem file_of_component {options : ReadOptions} {source : Source}
    (h : source.component options = .error error) : error.file = source.name :=
  Component.file_of_read h

theorem file_of_enumeration {source : Source} (h : source.enumeration = .error error) :
    error.file = source.name :=
  Enumeration.file_of_read h

theorem map_name_of_readEach {nameOf : α → String} {values : List α}
    (hname : ∀ source value, read source = .ok value → nameOf value = source.name)
    (h : readEach duplicate read sources = .ok values) :
    values.map nameOf = (sorted sources).map Source.name :=
  map_eq_of_mapM (readEach_eq_ok_iff.mp h).2 hname

theorem names_of_readEach {nameOf : α → String} {values : List α}
    (hname : ∀ source value, read source = .ok value → nameOf value = source.name)
    (h : readEach duplicate read sources = .ok values) :
    (values.map nameOf).Perm (sources.map Source.name) := by
  rw [map_name_of_readEach hname h]
  exact (sorted_perm sources).map Source.name

end Source

/-! ### Files of both kinds -/

namespace Schema

/-- The result is the one that the files call for. -/
structure Judged (options : BuildOptions) (components enums : List Source)
    (result : Except DefinitionError Schema) : Prop where
  /-- Enum files matter where the component files are sound. -/
  error_iff : ∀ error, result = .error error ↔
    Source.Refused .duplicateComponent (Source.component options.reading) components error ∨
      Source.Sound (Source.component options.reading) components ∧
        Source.Refused .duplicateEnum Source.enumeration enums error
  ok_iff : (∃ schema, result = .ok schema) ↔
    Source.Sound (Source.component options.reading) components ∧
      Source.Sound Source.enumeration enums
  /-- A schema has one component for each component file and one enumeration for each enum file. -/
  names : ∀ schema, result = .ok schema →
    (schema.components.map Component.name).Perm (components.map Source.name) ∧
      (schema.enumerations.map Enumeration.name).Perm (enums.map Source.name)
  componentFile : ∀ error,
    Source.Refused .duplicateComponent (Source.component options.reading) components error →
      error.file ∈ components.map Source.name
  enumFile : ∀ error, Source.Refused .duplicateEnum Source.enumeration enums error →
    error.file ∈ enums.map Source.name

/-- **A run reports the right failure**, or none where its files are sound. -/
theorem read_judged (options : BuildOptions) (components enums : List Source) :
    Judged options components enums (read options components enums).result := by
  rw [result_read]
  constructor
  · intro error
    rw [bind_eq_error_iff, readUnlinked, Source.readEach_eq_error_iff,
      ← Source.exists_readEach_eq_ok_iff .duplicateComponent]
    simp only [bind_eq_error_iff, Source.readEach_eq_error_iff]
    constructor
    · rintro (hrefused | ⟨read, hread, hrefused | ⟨_, -, hassembled⟩⟩)
      · exact .inl hrefused
      · exact .inr ⟨⟨read, hread⟩, hrefused⟩
      · cases hassembled
    · rintro (hrefused | ⟨⟨read, hread⟩, hrefused⟩)
      · exact .inl hrefused
      · exact .inr ⟨read, hread, .inl hrefused⟩
  · rw [← Source.exists_readEach_eq_ok_iff .duplicateComponent,
      ← Source.exists_readEach_eq_ok_iff .duplicateEnum]
    simp only [bind_eq_ok_iff, readUnlinked]
    constructor
    · rintro ⟨schema, read, hread, enumerations, henums, -⟩
      exact ⟨⟨read, hread⟩, ⟨enumerations, henums⟩⟩
    · rintro ⟨⟨read, hread⟩, ⟨enumerations, henums⟩⟩
      exact ⟨_, read, hread, enumerations, henums, rfl⟩
  · intro schema h
    obtain ⟨read, hread, h⟩ := bind_eq_ok_iff.mp h
    obtain ⟨enumerations, henums, h⟩ := bind_eq_ok_iff.mp h
    cases h
    constructor
    · show ((linkAll options.wireType 0 read).1.map Component.name).Perm _
      rw [names_linkAll]
      apply Source.names_of_readEach _ hread
      intro source component hcomponent
      exact Component.name_of_read hcomponent
    · apply Source.names_of_readEach _ henums
      intro source enumeration henumeration
      exact Enumeration.name_of_read henumeration
  · intro error h
    apply h.file_mem
    · intro name
      rfl
    · intro source fault hfault
      exact Source.file_of_component hfault
  · intro error h
    apply h.file_mem
    · intro name
      rfl
    · intro source fault hfault
      exact Source.file_of_enumeration hfault

/-- Two component files are at fault and two enum files have one name: the fault that is reported is
the one in the smaller of the component files, though it was found last. -/
theorem read_judged_two_faults :
    Judged .standard [⟨"light", "body,float"⟩, ⟨"door", "ui_name,A"⟩, ⟨"key", "\nstub,x"⟩]
        [⟨"mode", "on"⟩, ⟨"mode", "off"⟩]
        (read .standard [⟨"light", "body,float"⟩, ⟨"door", "ui_name,A"⟩, ⟨"key", "\nstub,x"⟩]
          [⟨"mode", "on"⟩, ⟨"mode", "off"⟩]).result ∧
      (read .standard [⟨"light", "body,float"⟩, ⟨"door", "ui_name,A"⟩, ⟨"key", "\nstub,x"⟩]
          [⟨"mode", "on"⟩, ⟨"mode", "off"⟩]).result =
        .error (.shortLine "key" 2 .stub 2 "stub,x") := by
  have hsorted : Source.sorted
      [⟨"light", "body,float"⟩, ⟨"door", "ui_name,A"⟩, ⟨"key", "\nstub,x"⟩] =
      [⟨"door", "ui_name,A"⟩, ⟨"key", "\nstub,x"⟩, ⟨"light", "body,float"⟩] := by
    simp [Source.sorted, List.mergeSort, List.MergeSort.Internal.splitInTwo]
  refine ⟨read_judged _ _ _, ?_⟩
  simp only [result_read, readUnlinked, Source.readEach, Source.distinctSorted, hsorted,
    Source.repeatedName?]
  rfl

end Schema

end EntityCodegen
