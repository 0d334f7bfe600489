import EntityCodegen.Definition.Schema

/-!
# The order in which definition files are found

`read_perm`: a run depends on its definition files only as two bags. Two permutations of the files
give one run: the same schema or the same fault, with the same events before it.

The names of the sorted files are the same list for both orders, since a sorted list is fixed by
its members; so a repeated name is found in both or in neither, and it is the same name
(`repeatedName?_congr`). Where no name is repeated the sorted names increase strictly, so no two
files stand at one name, and the sorted files are the same list as well (`sorted_eq_of_perm`). The
stable sort may leave files of one name in different orders, but then only the name is used.
-/

namespace EntityCodegen

namespace Source

/-! ### Sorting by name -/

@[simp] theorem sorted_nil : sorted [] = [] :=
  List.mergeSort_nil

@[simp] theorem sorted_singleton (source : Source) : sorted [source] = [source] :=
  List.mergeSort_singleton source

theorem sorted_perm (sources : List Source) : (sorted sources).Perm sources :=
  List.mergeSort_perm sources _

theorem pairwise_sorted (sources : List Source) :
    (sorted sources).Pairwise fun a b => a.name ≤ b.name := by
  have htrans (a b c : Source) (hab : decide (a.name ≤ b.name)) (hbc : decide (b.name ≤ c.name)) :
      decide (a.name ≤ c.name) := by
    simp only [decide_eq_true_eq] at hab hbc ⊢
    exact String.le_trans hab hbc
  have htotal (a b : Source) : (decide (a.name ≤ b.name) || decide (b.name ≤ a.name)) := by
    simp only [Bool.or_eq_true, decide_eq_true_eq]
    exact String.le_total a.name b.name
  have h := List.pairwise_mergeSort htrans htotal sources
  simpa only [decide_eq_true_eq, sorted] using h

theorem names_sorted_eq_of_names {sources others : List Source}
    (h : (sources.map Source.name).Perm (others.map Source.name)) :
    (sorted sources).map Source.name = (sorted others).map Source.name := by
  have sortedNames (files : List Source) : ((sorted files).map Source.name).Pairwise (· ≤ ·) :=
    List.pairwise_map.mpr (pairwise_sorted files)
  have hperm := ((sorted_perm sources).map Source.name).trans
    (h.trans ((sorted_perm others).map Source.name).symm)
  exact List.Perm.eq_of_pairwise (fun _ _ _ _ => String.le_antisymm) (sortedNames sources)
    (sortedNames others) hperm

theorem names_sorted_eq {sources others : List Source} (h : sources.Perm others) :
    (sorted sources).map Source.name = (sorted others).map Source.name :=
  names_sorted_eq_of_names (h.map Source.name)

/-! ### Repeated names -/

theorem repeatedName?_congr {sources others : List Source}
    (h : sources.map Source.name = others.map Source.name) :
    repeatedName? sources = repeatedName? others := by
  induction sources generalizing others with
  | nil =>
    have : others = [] := List.map_eq_nil_iff.mp h.symm
    rw [this]
  | cons first rest ih =>
    obtain ⟨first', rest', rfl, hname, hrest⟩ := List.map_eq_cons_iff.mp h.symm
    cases rest with
    | nil =>
      have : rest' = [] := List.map_eq_nil_iff.mp hrest
      rw [this, repeatedName?, repeatedName?]
      all_goals simp
    | cons second rest =>
      obtain ⟨second', rest'', rfl, hsecond, -⟩ := List.map_eq_cons_iff.mp hrest
      rw [repeatedName?, repeatedName?, hname, hsecond, ih hrest.symm]

theorem pairwise_lt_of_repeatedName? {sources : List Source}
    (hsorted : sources.Pairwise fun a b => a.name ≤ b.name) (h : repeatedName? sources = none) :
    sources.Pairwise fun a b => a.name < b.name := by
  induction sources with
  | nil => exact List.Pairwise.nil
  | cons first rest ih =>
    have ⟨hfirst, hrest⟩ := List.pairwise_cons.mp hsorted
    cases rest with
    | nil => exact List.pairwise_singleton _ _
    | cons second rest =>
      rw [repeatedName?] at h
      split at h
      · simp at h
      · rename_i hne
        have hlater := ih hrest h
        have hlt : first.name < second.name := by
          rcases Decidable.em (first.name < second.name) with hlt | hge
          · exact hlt
          · exact absurd (String.le_antisymm (hfirst second (by simp)) (String.not_lt.mp hge)) hne
        refine List.pairwise_cons.mpr ⟨fun file hfile => ?_, hlater⟩
        rcases List.mem_cons.mp hfile with rfl | hfile
        · exact hlt
        · exact String.lt_trans hlt (List.rel_of_pairwise_cons hlater hfile)

theorem nodup_names_of_pairwise_lt {sources : List Source}
    (h : sources.Pairwise fun a b => a.name < b.name) : (sources.map Source.name).Nodup := by
  apply List.pairwise_map.mpr
  apply h.imp
  intro a b hlt heq
  exact String.lt_irrefl _ (heq ▸ hlt)

theorem sorted_eq_of_perm {sources others : List Source} (h : sources.Perm others)
    (hdistinct : repeatedName? (sorted sources) = none) : sorted sources = sorted others := by
  have hdistinct' : repeatedName? (sorted others) = none := by
    rw [← repeatedName?_congr (names_sorted_eq h)]
    exact hdistinct
  refine List.Perm.eq_of_pairwise (fun a b _ _ hab hba => ?_)
    (pairwise_lt_of_repeatedName? (pairwise_sorted sources) hdistinct)
    (pairwise_lt_of_repeatedName? (pairwise_sorted others) hdistinct')
    ((sorted_perm sources).trans (h.trans (sorted_perm others).symm))
  -- two files cannot each have the smaller name
  exact absurd (String.lt_trans hab hba) (String.lt_irrefl a.name)

theorem distinctSorted_perm (duplicate : String → DefinitionError) {sources others : List Source}
    (h : sources.Perm others) :
    distinctSorted duplicate sources = distinctSorted duplicate others := by
  have hname : repeatedName? (sorted sources) = repeatedName? (sorted others) :=
    repeatedName?_congr (names_sorted_eq h)
  rw [distinctSorted, distinctSorted, ← hname]
  split
  · rfl
  · next hnone => rw [sorted_eq_of_perm h hnone]

end Source

namespace Schema

/-- **A run does not depend on the order in which its files were found.** Whatever the files hold,
both orders give the same schema or the same fault. -/
theorem read_perm (options : BuildOptions) {components components' enums enums' : List Source}
    (hcomponents : components.Perm components') (henums : enums.Perm enums') :
    read options components enums = read options components' enums' := by
  have hread : readComponents options components = readComponents options components' := by
    rw [readComponents, readComponents, Source.distinctSorted_perm _ hcomponents]
  have henum : readEnumerations enums = readEnumerations enums' := by
    rw [readEnumerations, readEnumerations, Source.distinctSorted_perm _ henums]
  rw [read, read, hread, henum]

/-- Two files of one name and a faulty third, found in two orders. -/
theorem read_perm_repeated :
    [Source.mk "light" "body,float", ⟨"door", "ui_name,A"⟩, ⟨"door", "ui_name,B"⟩].Perm
        [⟨"door", "ui_name,B"⟩, ⟨"light", "body,float"⟩, ⟨"door", "ui_name,A"⟩] ∧
      [Source.mk "mode" "on", ⟨"kind", "off"⟩].Perm [⟨"kind", "off"⟩, ⟨"mode", "on"⟩] ∧
      read .standard
          [⟨"light", "body,float"⟩, ⟨"door", "ui_name,A"⟩, ⟨"door", "ui_name,B"⟩]
          [⟨"mode", "on"⟩, ⟨"kind", "off"⟩] =
        read .standard
          [⟨"door", "ui_name,B"⟩, ⟨"light", "body,float"⟩, ⟨"door", "ui_name,A"⟩]
          [⟨"kind", "off"⟩, ⟨"mode", "on"⟩] :=
  ⟨by decide, by decide, read_perm _ (by decide) (by decide)⟩

end Schema

end EntityCodegen
