import EntityCodegen.Proofs.Files.Growth
import Mathlib.Data.List.Infix

/-!
# The way by a path

`find_congr`: what a path leads to depends on the entries on its way alone. So it is the same in two
trees that differ at a location and below it, if the way by the path does not come by that location.

A tree has no links, so the way can be read off the path (`way`): where the path leads, it leads to
the place where the way ends (`eq_place_of_locate`). The locations above one on the way are on the
way too (`mem_way_of_above`), so a way that does not come by a location does not come by anything
below it either.
-/

namespace EntityCodegen

namespace FileTree

variable {tree other : FileTree} {path : Path} {location target next : Location} {name : String}

/-! ### Ways and places -/

/-- Where a name leads from a location, if it leads anywhere. -/
def step (location : Location) (name : String) : Location :=
  if name = "." then location
  else if name = ".." then location.dropLast
  else location ++ [name]

/-- Where a path leads, if it leads anywhere. -/
def place (tree : FileTree) (path : Path) : Location :=
  path.names.foldl step (tree.start path)

/-- The locations that the way by a path comes by, from the root on. -/
def way (tree : FileTree) (path : Path) : List Location :=
  (tree.start path).inits ++ path.names.scanl step (tree.start path)

theorem step_eq_of_follow (h : tree.follow location name = .ok next) :
    step location name = next := by
  by_cases hdot : name = "."
  · subst hdot
    exact (follow_dot.mp h).2
  by_cases hup : name = ".."
  · subst hup
    rw [follow, get?_of_follow h] at h
    cases h
    rfl
  obtain ⟨-, -, hnext, -⟩ := (follow_eq_ok_iff hdot hup).mp h
  rw [step, if_neg hdot, if_neg hup, hnext]

theorem foldl_step_of_follow {names : List String}
    (h : names.foldlM tree.follow location = .ok next) : names.foldl step location = next := by
  induction names generalizing location with
  | nil =>
    cases h
    rfl
  | cons name names ih =>
    obtain ⟨middle, hmiddle, hrest⟩ := foldlM_cons_eq_ok_iff.mp h
    rw [List.foldl_cons, step_eq_of_follow hmiddle]
    exact ih hrest

/-- **A path leads to its place**, or nowhere. -/
theorem eq_place_of_locate (h : tree.locate path = .ok location) : location = tree.place path := by
  have hdescend := (locate_eq_ok_iff.mp h).2.1
  rw [descend] at hdescend
  split at hdescend
  · cases hdescend
  · exact (foldl_step_of_follow hdescend).symm

theorem foldl_mem_scanl (names : List String) (location : Location) :
    names.foldl step location ∈ names.scanl step location := by
  induction names generalizing location with
  | nil => simp
  | cons name names ih =>
    rw [List.foldl_cons, List.scanl_cons]
    exact List.mem_cons_of_mem _ (ih _)

theorem place_mem_way (tree : FileTree) (path : Path) : tree.place path ∈ tree.way path :=
  List.mem_append_right _ (foldl_mem_scanl _ _)

theorem prefix_step (h : target <+: step location name) :
    target <+: location ∨ target = step location name := by
  rw [step] at h ⊢
  split at h
  · exact .inl h
  · next hdot =>
    rw [if_neg hdot]
    split at h
    · exact .inl (h.trans (List.dropLast_prefix location))
    · next hup =>
      rw [if_neg hup]
      exact (List.prefix_concat_iff.mp h).symm

theorem prefix_of_mem_scanl {names : List String} (hnext : next ∈ names.scanl step location)
    (h : target <+: next) : target <+: location ∨ target ∈ names.scanl step location := by
  induction names generalizing location with
  | nil =>
    rw [List.scanl_nil, List.mem_singleton] at hnext
    exact .inl (hnext ▸ h)
  | cons name names ih =>
    rw [List.scanl_cons, List.mem_cons] at hnext ⊢
    rcases hnext with rfl | hnext
    · exact .inl h
    · rcases ih hnext with habove | hmem
      · rcases prefix_step habove with habove | rfl
        · exact .inl habove
        · exact .inr (.inr (by cases names <;> simp))
      · exact .inr (.inr hmem)

theorem mem_way_of_above (hnext : next ∈ tree.way path) (h : target <+: next) :
    target ∈ tree.way path := by
  rw [way, List.mem_append, List.mem_inits] at hnext ⊢
  rcases hnext with hnext | hnext
  · exact .inl (h.trans hnext)
  · exact prefix_of_mem_scanl hnext h

theorem not_prefix_of_mem_way (hway : target ∉ tree.way path) (hnext : next ∈ tree.way path) :
    ¬ target <+: next :=
  fun hprefix => hway (mem_way_of_above hnext hprefix)

/-! ### Trees that differ at a location and below -/

/-- The trees have the same entries but at the location and below it. -/
structure SameOutside (target : Location) (tree other : FileTree) : Prop where
  current : other.current = tree.current
  get? : ∀ location, ¬ target <+: location → other.get? location = tree.get? location

theorem sameOutside_remove (tree : FileTree) (target : Location) :
    SameOutside target tree (tree.remove target) := by
  by_cases hcurrent : target <+: tree.current
  · rw [remove, dif_pos (List.isPrefixOf_iff_prefix.mpr hcurrent)]
    exact ⟨rfl, fun _ _ => rfl⟩
  · refine ⟨?_, fun location hlocation => ?_⟩
    · rw [remove, dif_neg (by rwa [List.isPrefixOf_iff_prefix])]
    · rw [get?_remove hcurrent, if_neg hlocation]

theorem sameOutside_put {parent : Location} (h : target <+: parent ++ [name]) (entry : Entry) :
    SameOutside target tree (tree.put parent name entry) := by
  by_cases hput : tree.get? parent = some .directory ∧ isName name ∧
      tree.get? (parent ++ [name]) ≠ some .directory
  · obtain ⟨hparent, hname, hfree⟩ := hput
    refine ⟨current_put tree parent name entry, fun location hlocation => ?_⟩
    rw [get?_put hparent hname hfree, if_neg]
    rintro rfl
    exact hlocation h
  · rw [put, dif_neg hput]
    exact ⟨rfl, fun _ _ => rfl⟩

section
variable (h : SameOutside target tree other)
include h

theorem start_congr : other.start path = tree.start path := by
  rw [start, start, h.current]

theorem follow_congr (hlocation : ¬ target <+: location) (hnext : ¬ target <+: step location name) :
    other.follow location name = tree.follow location name := by
  rw [follow, follow, h.get? location hlocation]
  by_cases hdot : name = "."
  · simp only [hdot, if_true]
  by_cases hup : name = ".."
  · simp only [hup, if_true]
  rw [step, if_neg hdot, if_neg hup] at hnext
  rw [h.get? _ hnext]

theorem foldlM_follow_congr {names : List String}
    (hway : ∀ next ∈ names.scanl step location, ¬ target <+: next) :
    names.foldlM other.follow location = names.foldlM tree.follow location := by
  induction names generalizing location with
  | nil => rfl
  | cons name names ih =>
    rw [List.scanl_cons, List.forall_mem_cons] at hway
    obtain ⟨hlocation, hway⟩ := hway
    have hnext : ¬ target <+: step location name := hway _ (by cases names <;> simp)
    rw [List.foldlM_cons, List.foldlM_cons, follow_congr h hlocation hnext]
    cases hfollow : tree.follow location name with
    | error fault => rfl
    | ok next =>
      rw [step_eq_of_follow hfollow] at hway
      exact ih hway

theorem place_congr (path : Path) : other.place path = tree.place path := by
  rw [place, place, start_congr h]

variable (hway : target ∉ tree.way path)
include hway

theorem locate_congr : other.locate path = tree.locate path := by
  have hvisited : ∀ next ∈ path.names.scanl step (tree.start path), ¬ target <+: next :=
    fun next hnext => not_prefix_of_mem_way hway (List.mem_append_right _ hnext)
  have hplace := not_prefix_of_mem_way hway (place_mem_way tree path)
  rw [locate, locate, start_congr h, List.foldlM_append, List.foldlM_append,
    foldlM_follow_congr h hvisited]
  refine bind_congr fun _ => ?_
  cases hfollow : path.names.foldlM tree.follow (tree.start path) with
  | error fault => rfl
  | ok location =>
    rw [place, foldl_step_of_follow hfollow] at hplace
    -- a slash at the end asks once more for what the names lead to
    refine foldlM_follow_congr h ?_
    split <;> simpa [step] using hplace

/-- **What a path leads to depends on its way.** -/
theorem find_congr : other.find path = tree.find path := by
  rw [find, find, locate_congr h hway]
  cases hlocate : tree.locate path with
  | error fault => rfl
  | ok location =>
    have hplace := not_prefix_of_mem_way hway (place_mem_way tree path)
    rw [← eq_place_of_locate hlocate] at hplace
    rw [ok_bind, ok_bind, h.get? location hplace]

end

end FileTree

end EntityCodegen
