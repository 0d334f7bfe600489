/-!
# File trees

The files and directories that a run can see, as a finite map from locations to entries, with the
directory in which the run works. What has a location is in a directory, so a tree has no loose
entries. The root is always there.

The only changes are `put`, which makes or replaces one entry of a directory, and `remove`, which
takes away an entry with all below it. `get?_put` and `get?_remove` say what they change.
-/

namespace EntityCodegen

/-- Where an entry is: the names on the way from the root. -/
abbrev Location := List String

inductive Entry where
  | directory
  | file (content : ByteArray)

instance : DecidableEq Entry
  | .directory, .directory => isTrue rfl
  | .directory, .file _ => isFalse Entry.noConfusion
  | .file _, .directory => isFalse Entry.noConfusion
  | .file a, .file b =>
    decidable_of_iff (a.data = b.data)
      ⟨fun h => congrArg Entry.file (ByteArray.ext h), fun h => congrArg ByteArray.data
        (Entry.file.inj h)⟩

def maxNameSize : Nat :=
  255

def isName (name : String) : Bool :=
  name != "" && name != "." && name != ".." && !name.toList.contains '/' &&
    !name.toList.contains '\x00' && name.utf8ByteSize ≤ maxNameSize

/-- The entry at a location in a list; the root is a directory. -/
def entryIn? (entries : List (Location × Entry)) (location : Location) : Option Entry :=
  if location = [] then some .directory else entries.lookup location

/-- A tree of files and directories, with a working directory. -/
structure FileTree where
  /-- The entries other than the root. -/
  entries : List (Location × Entry)
  current : Location
  distinct : (entries.map Prod.fst).Nodup
  named : ∀ entry ∈ entries, ∀ name ∈ entry.1, isName name
  closed : ∀ location name, (entryIn? entries (location ++ [name])).isSome →
    entryIn? entries location = some .directory
  current_directory : entryIn? entries current = some .directory

namespace FileTree

def get? (tree : FileTree) (location : Location) : Option Entry :=
  entryIn? tree.entries location

/-! ## Lists of entries -/

theorem lookup_filter (keep : Location → Bool) (entries : List (Location × Entry))
    (location : Location) :
    (entries.filter fun entry => keep entry.1).lookup location =
      if keep location then entries.lookup location else none := by
  induction entries with
  | nil => simp
  | cons entry entries ih =>
    obtain ⟨key, value⟩ := entry
    by_cases hk : location = key
    · subst hk
      by_cases hl : keep location <;> simp [hl, ih]
    · have hne : (location == key) = false := by simpa using hk
      by_cases hl : keep key <;> simp [hl, hne, List.lookup_cons, ih]

theorem entryIn?_filter {keep : Location → Bool} (hroot : keep [] = true)
    (entries : List (Location × Entry)) (location : Location) :
    entryIn? (entries.filter fun entry => keep entry.1) location =
      if keep location then entryIn? entries location else none := by
  unfold entryIn?
  by_cases h : location = []
  · simp [h, hroot]
  · simp [h, lookup_filter]

/-- The entries with one in the place of what was at its location. -/
def putIn (entries : List (Location × Entry)) (location : Location) (entry : Entry) :
    List (Location × Entry) :=
  (location, entry) :: entries.filter fun other => other.1 != location

theorem entryIn?_putIn {location : Location} (hl : location ≠ [])
    (entries : List (Location × Entry)) (entry : Entry) (other : Location) :
    entryIn? (putIn entries location entry) other =
      if other = location then some entry else entryIn? entries other := by
  unfold entryIn? putIn
  by_cases hr : other = []
  · have hne : other ≠ location := fun h => hl (h ▸ hr)
    simp [hr, hr ▸ hne]
  · by_cases ho : other = location
    · simp [ho, hl]
    · have hne : (other == location) = false := by simpa using ho
      simp [hr, ho, hne, List.lookup_cons, lookup_filter (fun other => other != location)]

theorem distinct_putIn {entries : List (Location × Entry)}
    (hd : (entries.map Prod.fst).Nodup) (location : Location) (entry : Entry) :
    ((putIn entries location entry).map Prod.fst).Nodup := by
  unfold putIn
  rw [List.map_cons, List.nodup_cons]
  refine ⟨?_, (List.filter_sublist.map Prod.fst).nodup hd⟩
  intro h
  obtain ⟨other, hm, hk⟩ := List.mem_map.1 h
  have := (List.mem_filter.1 hm).2
  simp [hk] at this

theorem mem_of_entryIn? {entries : List (Location × Entry)} {location : Location} {entry : Entry}
    (h : entryIn? entries location = some entry) (hl : location ≠ []) :
    (location, entry) ∈ entries := by
  unfold entryIn? at h
  rw [if_neg hl] at h
  induction entries with
  | nil => simp at h
  | cons first rest ih =>
    obtain ⟨key, value⟩ := first
    by_cases hk : location = key
    · subst hk
      simp at h
      simp [h]
    · have hne : (location == key) = false := by simpa using hk
      rw [List.lookup_cons, hne] at h
      exact List.mem_cons_of_mem _ (ih h)

/-! ## Changes -/

theorem names_of_get? {tree : FileTree} {location : Location}
    (h : (tree.get? location).isSome) : ∀ name ∈ location, isName name := by
  intro name hn
  obtain ⟨entry, he⟩ := Option.isSome_iff_exists.1 h
  have hl : location ≠ [] := fun h => by simp [h] at hn
  exact tree.named _ (mem_of_entryIn? he hl) name hn

theorem eq_of_append_singleton {a b : Location} {x y : String} (h : a ++ [x] = b ++ [y]) :
    a = b := (List.append_inj' h rfl).1

theorem closed_putIn (tree : FileTree) {parent : Location} {name : String} (entry : Entry)
    (hp : tree.get? parent = some .directory)
    (ht : tree.get? (parent ++ [name]) ≠ some .directory) (location : Location) (last : String)
    (h : (entryIn? (putIn tree.entries (parent ++ [name]) entry) (location ++ [last])).isSome) :
    entryIn? (putIn tree.entries (parent ++ [name]) entry) location = some .directory := by
  rw [entryIn?_putIn (by simp)] at h ⊢
  by_cases hl : location = parent ++ [name]
  · subst hl
    rw [if_neg (by intro hc; have := congrArg List.length hc; simp at this)] at h
    exact absurd (tree.closed _ _ h) ht
  · rw [if_neg hl]
    by_cases hc : location ++ [last] = parent ++ [name]
    · rw [eq_of_append_singleton hc]
      exact hp
    · rw [if_neg hc] at h
      exact tree.closed _ _ h

theorem named_putIn (tree : FileTree) {parent : Location} {name : String} (entry : Entry)
    (hp : tree.get? parent = some .directory) (hn : isName name) :
    ∀ other ∈ putIn tree.entries (parent ++ [name]) entry, ∀ name ∈ other.1, isName name := by
  intro other ho
  rcases List.mem_cons.1 ho with rfl | ho
  · intro n hm
    rcases List.mem_append.1 hm with hm | hm
    · exact names_of_get? (by rw [hp]; rfl) n hm
    · rw [List.mem_singleton.1 hm]
      exact hn
  · exact tree.named other (List.mem_filter.1 ho).1

theorem current_putIn (tree : FileTree) {location : Location} (hl : location ≠ []) (entry : Entry)
    (ht : tree.get? location ≠ some .directory) :
    entryIn? (putIn tree.entries location entry) tree.current = some .directory := by
  have hne : tree.current ≠ location := fun h => ht (h ▸ tree.current_directory)
  rw [entryIn?_putIn hl, if_neg hne]
  exact tree.current_directory

/-- The tree with an entry of the given name in a directory. Nothing changes where there is no such
directory, where the name is none, and where a directory has the name. -/
def put (tree : FileTree) (parent : Location) (name : String) (entry : Entry) : FileTree :=
  if h : tree.get? parent = some .directory ∧ isName name ∧
      tree.get? (parent ++ [name]) ≠ some .directory then
    { entries := putIn tree.entries (parent ++ [name]) entry
      current := tree.current
      distinct := distinct_putIn tree.distinct _ _
      named := named_putIn tree entry h.1 h.2.1
      closed := closed_putIn tree entry h.1 h.2.2
      current_directory := current_putIn tree (by simp) entry h.2.2 }
  else tree

theorem get?_put {tree : FileTree} {parent : Location} {name : String}
    (hp : tree.get? parent = some .directory) (hn : isName name)
    (ht : tree.get? (parent ++ [name]) ≠ some .directory) (entry : Entry) (location : Location) :
    (tree.put parent name entry).get? location =
      if location = parent ++ [name] then some entry else tree.get? location := by
  unfold put
  rw [dif_pos ⟨hp, hn, ht⟩]
  exact entryIn?_putIn (by simp) _ _ _

theorem closed_filter (tree : FileTree) {target : Location} (hr : target ≠ [])
    (location : Location) (name : String)
    (h : (entryIn? (tree.entries.filter fun entry => !target.isPrefixOf entry.1)
      (location ++ [name])).isSome) :
    entryIn? (tree.entries.filter fun entry => !target.isPrefixOf entry.1) location =
      some .directory := by
  have hroot : (!target.isPrefixOf ([] : Location)) = true := by
    cases target <;> simp_all
  rw [@entryIn?_filter (fun other => !target.isPrefixOf other) hroot] at h ⊢
  by_cases hp : target.isPrefixOf location
  · have : target.isPrefixOf (location ++ [name]) := by
      rw [List.isPrefixOf_iff_prefix] at hp ⊢
      exact hp.trans (List.prefix_append _ _)
    simp [this] at h
  · by_cases hq : target.isPrefixOf (location ++ [name])
    · simp [hq] at h
    · rw [if_pos (by simp [hq])] at h
      rw [if_pos (by simp [hp])]
      exact tree.closed _ _ h

/-- The tree without what is at the location and below. Nothing changes where that would take the
working directory away. -/
def remove (tree : FileTree) (target : Location) : FileTree :=
  if h : target.isPrefixOf tree.current = true then tree
  else
    { entries := tree.entries.filter fun entry => !target.isPrefixOf entry.1
      current := tree.current
      distinct := (List.filter_sublist.map Prod.fst).nodup tree.distinct
      named := fun entry he => tree.named entry (List.mem_filter.1 he).1
      closed := closed_filter tree (by rintro rfl; simp at h)
      current_directory := by
        have hroot : (!target.isPrefixOf ([] : Location)) = true := by
          cases target <;> simp_all
        rw [@entryIn?_filter (fun other => !target.isPrefixOf other) hroot,
          if_pos (by rw [Bool.not_eq_true] at h; rw [h]; rfl)]
        exact tree.current_directory }

theorem get?_remove {tree : FileTree} {target : Location} (h : ¬ target <+: tree.current)
    (location : Location) :
    (tree.remove target).get? location =
      if target <+: location then none else tree.get? location := by
  have hroot : (!target.isPrefixOf ([] : Location)) = true := by
    cases target <;> simp_all
  unfold remove
  rw [dif_neg (by rwa [List.isPrefixOf_iff_prefix])]
  refine (@entryIn?_filter (fun other => !target.isPrefixOf other) hroot _ _).trans ?_
  by_cases hp : target.isPrefixOf location = true
  · rw [if_pos (List.isPrefixOf_iff_prefix.1 hp), if_neg (by simp [hp])]
  · rw [if_neg (mt List.isPrefixOf_iff_prefix.2 hp), if_pos (by simp [hp])]
    rfl

def empty : FileTree where
  entries := []
  current := []
  distinct := List.nodup_nil
  named := by simp
  closed := by simp [entryIn?]
  current_directory := rfl

/-- The tree seen from another directory. -/
def enter (tree : FileTree) (location : Location) : FileTree :=
  if h : tree.get? location = some .directory then
    { tree with current := location, current_directory := h }
  else tree

/-- The names in the directory at the location, in order. -/
def namesIn (tree : FileTree) (location : Location) : List String :=
  (tree.entries.filterMap fun entry =>
    if entry.1.dropLast = location then entry.1.getLast? else none).mergeSort

end FileTree

end EntityCodegen
