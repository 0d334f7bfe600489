import EntityCodegen.Project.Writing
import EntityCodegen.Proofs.Files.Following
import Mathlib.Data.List.Induction

/-!
# How writing changes a tree

Writing makes directories where nothing is, and makes or replaces files; it takes nothing away and
leaves all other entries alone. `Grows` says this of two trees, with the locations at which files
may have been written. Every writing operation makes a tree grow (`grows_prepareParent`,
`grows_put_file`), growing twice is growing (`Grows.trans`), and a path that led somewhere leads to
the same location in the grown tree (`Grows.locate`). The other way round this is so of a path
without `..` that leads to something old (`Grows.locate_of_isSome`).
-/

namespace EntityCodegen

namespace FileTree

/-- What may become of an entry. -/
inductive Change (written : Prop) : Option Entry → Option Entry → Prop
  | same (entry : Option Entry) : Change written entry entry
  | made : Change written none (some .directory)
  | wrote {entry : Option Entry} (content : ByteArray) : written → entry ≠ some .directory →
      Change written entry (some (.file content))

namespace Change

variable {written written' : Prop} {a b c : Option Entry}

theorem trans (hab : Change written a b) (hbc : Change written b c) : Change written a c := by
  cases hbc with
  | same => exact hab
  | made =>
    cases hab with
    | same => exact .made
  | wrote content hwritten hb =>
    cases hab with
    | same => exact .wrote content hwritten hb
    | made => exact absurd rfl hb
    | wrote _ _ ha => exact .wrote content hwritten ha

theorem imp (h : Change written a b) (himp : written → written') : Change written' a b := by
  cases h with
  | same => exact .same a
  | made => exact .made
  | wrote content hwritten ha => exact .wrote content (himp hwritten) ha

theorem directory (h : Change written a b) (ha : a = some .directory) : b = some .directory := by
  cases h with
  | same => exact ha
  | made => cases ha
  | wrote _ _ hne => exact absurd ha hne

theorem isSome (h : Change written a b) (ha : a.isSome) : b.isSome := by
  cases h with
  | same => exact ha
  | made => rfl
  | wrote => rfl

theorem directory_of_isSome (h : Change written a b) (ha : a.isSome)
    (hb : b = some .directory) : a = some .directory := by
  cases h with
  | same => exact hb
  | made => cases ha
  | wrote => cases hb

theorem file_iff (h : Change written a b) (hwritten : ¬ written) (content : ByteArray) :
    b = some (.file content) ↔ a = some (.file content) := by
  cases h with
  | same => rfl
  | made => simp
  | wrote _ hw => exact absurd hw hwritten

end Change

theorem isSome_above {tree : FileTree} {location target : Location} (h : location <+: target)
    (hsome : (tree.get? target).isSome) : (tree.get? location).isSome := by
  obtain ⟨rest, rfl⟩ := h
  induction rest using List.reverseRecOn with
  | nil => rwa [List.append_nil] at hsome
  | append_singleton rest name ih =>
    rw [← List.append_assoc] at hsome
    exact ih (Option.isSome_of_eq_some (tree.closed _ _ hsome))

/-- The second tree is the first after some writing. -/
structure Grows (written : Location → Prop) (before after : FileTree) : Prop where
  current : after.current = before.current
  change : ∀ location, Change (written location) (before.get? location) (after.get? location)

namespace Grows

variable {written written' : Location → Prop} {before middle after : FileTree} {path : Path}
  {location target : Location}

theorem refl (tree : FileTree) : Grows written tree tree :=
  ⟨rfl, fun _ => .same _⟩

theorem trans (h : Grows written before middle) (h' : Grows written middle after) :
    Grows written before after :=
  ⟨h'.current.trans h.current, fun location => (h.change location).trans (h'.change location)⟩

theorem imp (h : Grows written before after)
    (himp : ∀ location, written location → written' location) : Grows written' before after :=
  ⟨h.current, fun location => (h.change location).imp (himp location)⟩

/-! ### What a path leads to -/

theorem follow {name : String} (h : Grows written before after)
    (hfollow : before.follow location name = .ok target) :
    after.follow location name = .ok target := by
  have hdirectory := (h.change location).directory (get?_of_follow hfollow)
  by_cases hdot : name = "."
  · subst hdot
    rw [follow_dot] at hfollow ⊢
    exact ⟨hdirectory, hfollow.2⟩
  by_cases hup : name = ".."
  · subst hup
    rw [FileTree.follow, get?_of_follow hfollow] at hfollow
    rw [FileTree.follow, hdirectory]
    exact hfollow
  rw [follow_eq_ok_iff hdot hup] at hfollow ⊢
  obtain ⟨-, hsize, htarget, hsome⟩ := hfollow
  exact ⟨hdirectory, hsize, htarget, (h.change _).isSome hsome⟩

theorem foldlM_follow {names : List String} (h : Grows written before after)
    (hfollow : names.foldlM before.follow location = .ok target) :
    names.foldlM after.follow location = .ok target := by
  induction names generalizing location with
  | nil => exact hfollow
  | cons name names ih =>
    rw [foldlM_cons_eq_ok_iff] at hfollow ⊢
    obtain ⟨next, hnext, hrest⟩ := hfollow
    exact ⟨next, h.follow hnext, ih hrest⟩

theorem descend (h : Grows written before after) (hdescend : before.descend path = .ok location) :
    after.descend path = .ok location := by
  rw [FileTree.descend] at hdescend ⊢
  split at hdescend
  · cases hdescend
  · next hnul =>
    have hstart : after.start path = before.start path := by
      rw [FileTree.start, FileTree.start, h.current]
    rw [if_neg hnul, hstart]
    exact h.foldlM_follow hdescend

theorem locate (h : Grows written before after) (hlocate : before.locate path = .ok location) :
    after.locate path = .ok location := by
  rw [locate_eq_ok_iff] at hlocate ⊢
  obtain ⟨htext, hdescend, hslash⟩ := hlocate
  exact ⟨htext, h.descend hdescend, fun hends => (h.change location).directory (hslash hends)⟩

theorem has (h : Grows written before after) (hpath : before.has path) : after.has path := by
  obtain ⟨entry, hentry⟩ := has_iff.mp hpath
  obtain ⟨location, hlocation, hget⟩ := find_eq_ok_iff.mp hentry
  have hsome := (h.change location).isSome (Option.isSome_of_eq_some hget)
  obtain ⟨entry', hentry'⟩ := Option.isSome_iff_exists.mp hsome
  exact has_iff.mpr ⟨entry', find_eq_ok_iff.mpr ⟨location, h.locate hlocation, hentry'⟩⟩

theorem locate_eq {entry : Entry} (h : Grows written before after)
    (hfind : before.find path = .ok entry) : after.locate path = before.locate path := by
  obtain ⟨location, hlocate, -⟩ := find_eq_ok_iff.mp hfind
  rw [hlocate, h.locate hlocate]

theorem find_file {content : ByteArray} (h : Grows written before after)
    (hfind : before.find path = .ok (.file content))
    (hkept : ∀ location, after.locate path = .ok location → ¬ written location) :
    after.find path = .ok (.file content) := by
  obtain ⟨location, hlocate, hentry⟩ := find_eq_ok_iff.mp hfind
  have hlocate' := h.locate hlocate
  exact find_eq_ok_iff.mpr
    ⟨location, hlocate', ((h.change location).file_iff (hkept location hlocate') content).mpr hentry⟩

/-! ### What a path led to

A path without `..` only goes down, so where it leads to something that was there before, all
directories on its way were there too. -/

theorem foldlM_follow_of_isSome {names : List String} (h : Grows written before after)
    (hdown : ".." ∉ names) (hfollow : names.foldlM after.follow location = .ok target)
    (hsome : (before.get? target).isSome) :
    location <+: target ∧ names.foldlM before.follow location = .ok target := by
  induction names generalizing location with
  | nil =>
    cases hfollow
    exact ⟨List.prefix_rfl, rfl⟩
  | cons name names ih =>
    rw [List.mem_cons, not_or] at hdown
    obtain ⟨hup, hdown⟩ := hdown
    rw [foldlM_cons_eq_ok_iff] at hfollow ⊢
    obtain ⟨next, hnext, hrest⟩ := hfollow
    obtain ⟨hbelow, hrest⟩ := ih hdown hrest
    have hdirectory (habove : location <+: target) : before.get? location = some .directory :=
      (h.change location).directory_of_isSome (isSome_above habove hsome) (get?_of_follow hnext)
    by_cases hdot : name = "."
    · subst hdot
      obtain ⟨-, rfl⟩ := follow_dot.mp hnext
      exact ⟨hbelow, location, follow_dot.mpr ⟨hdirectory hbelow, rfl⟩, hrest⟩
    · obtain ⟨-, hsize, rfl, -⟩ := (follow_eq_ok_iff hdot (Ne.symm hup)).mp hnext
      have habove : location <+: target := (List.prefix_append location [name]).trans hbelow
      refine ⟨habove, _, (follow_eq_ok_iff hdot (Ne.symm hup)).mpr ?_, hrest⟩
      exact ⟨hdirectory habove, hsize, rfl, isSome_above hbelow hsome⟩

theorem descend_of_isSome (h : Grows written before after) (hdown : ".." ∉ path.names)
    (hdescend : after.descend path = .ok location) (hsome : (before.get? location).isSome) :
    before.descend path = .ok location := by
  rw [FileTree.descend] at hdescend ⊢
  split at hdescend
  · cases hdescend
  · next hnul =>
    have hstart : after.start path = before.start path := by
      rw [FileTree.start, FileTree.start, h.current]
    rw [hstart] at hdescend
    rw [if_neg hnul]
    exact (h.foldlM_follow_of_isSome hdown hdescend hsome).2

/-- **A path that only goes down led to what was there already.** -/
theorem locate_of_isSome (h : Grows written before after) (hdown : ".." ∉ path.names)
    (hlocate : after.locate path = .ok location) (hsome : (before.get? location).isSome) :
    before.locate path = .ok location := by
  rw [locate_eq_ok_iff] at hlocate ⊢
  obtain ⟨htext, hdescend, hslash⟩ := hlocate
  refine ⟨htext, h.descend_of_isSome hdown hdescend hsome, fun hends => ?_⟩
  exact (h.change location).directory_of_isSome hsome (hslash hends)

end Grows

/-! ### Writing makes a tree grow -/

variable {written : Location → Prop} {tree made : FileTree} {parent : Location} {name : String}

theorem current_put (tree : FileTree) (parent : Location) (name : String) (entry : Entry) :
    (tree.put parent name entry).current = tree.current := by
  rw [put]
  split <;> rfl

theorem grows_put {entry : Entry}
    (h : tree.get? (parent ++ [name]) ≠ some .directory →
      Change (written (parent ++ [name])) (tree.get? (parent ++ [name])) (some entry)) :
    Grows written tree (tree.put parent name entry) := by
  refine ⟨current_put tree parent name entry, fun location => ?_⟩
  by_cases hput : tree.get? parent = some .directory ∧ isName name ∧
      tree.get? (parent ++ [name]) ≠ some .directory
  · obtain ⟨hparent, hname, hfree⟩ := hput
    rw [get?_put hparent hname hfree]
    split
    · next hlocation =>
      rw [hlocation]
      exact h hfree
    · exact .same _
  · rw [put, dif_neg hput]
    exact .same _

theorem grows_put_directory (h : tree.get? (parent ++ [name]) = none) :
    Grows written tree (tree.put parent name .directory) :=
  grows_put fun _ => h ▸ .made

theorem grows_put_file {content : ByteArray} (h : written (parent ++ [name])) :
    Grows written tree (tree.put parent name (.file content)) :=
  grows_put fun hfree => .wrote content h hfree

theorem createDirectory_eq_ok {path : Path} (h : tree.createDirectory path = .ok made) :
    ∃ parent name, tree.locateNew path = .ok (parent, name) ∧ name ≠ "." ∧ name ≠ ".." ∧
      tree.get? (parent ++ [name]) = none ∧ made = tree.put parent name .directory := by
  rw [createDirectory, bind_eq_ok_iff] at h
  obtain ⟨⟨parent, name⟩, hnew, h⟩ := h
  simp only at h
  split at h
  · cases h
  · next hdots =>
    rw [not_or] at hdots
    split at h
    · cases h
    · split at h
      · cases h
      · next hfree =>
        cases h
        exact ⟨parent, name, hnew, hdots.1, hdots.2, by simpa using hfree, rfl⟩

theorem grows_createDirectory {path : Path} (h : tree.createDirectory path = .ok made) :
    Grows written tree made := by
  obtain ⟨parent, name, -, -, -, hfree, rfl⟩ := createDirectory_eq_ok h
  exact grows_put_directory hfree

theorem createUpward_induction {R : FileTree → FileTree → Prop} {paths : List Path}
    (refl : ∀ tree, R tree tree)
    (trans : ∀ before middle after, R before middle → R middle after → R before after)
    (step : ∀ path ∈ paths, ∀ tree made, tree.createDirectory path = .ok made → R tree made)
    (tree : FileTree) : R tree (tree.createUpward paths).1 := by
  induction paths with
  | nil => exact refl tree
  | cons path above ih =>
    obtain ⟨hpath, habove⟩ := List.forall_mem_cons.mp step
    have hgrown := ih habove
    rw [createUpward]
    split
    · next made hmade => exact hpath tree made hmade
    · split
      · next grown fault hupward =>
        rw [hupward] at hgrown
        exact hgrown
      · next grown hupward =>
        rw [hupward] at hgrown
        split
        · next made hmade => exact trans _ _ _ hgrown (hpath grown made hmade)
        · split <;> exact hgrown
    · split <;> exact refl tree

theorem grows_createUpward (tree : FileTree) (paths : List Path) :
    Grows written tree (tree.createUpward paths).1 :=
  createUpward_induction .refl (fun _ _ _ => .trans)
    (fun _ _ _ _ hmade => grows_createDirectory hmade) tree

theorem grows_prepareParent (tree : FileTree) (path : Path) :
    Grows written tree (tree.prepareParent path).1 := by
  rw [prepareParent]
  split
  · exact .refl tree
  · split
    · exact .refl tree
    · exact grows_createUpward tree _

end FileTree

end EntityCodegen
