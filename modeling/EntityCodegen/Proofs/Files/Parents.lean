import EntityCodegen.Project.Writing
import EntityCodegen.Proofs.Files.Following
import Mathlib.Data.List.DropRight

/-!
# Files in their directories

A path that leads to a file names it last and leads to its directory before that
(`exists_fileAt`). So the directory that is prepared for the file is there (`FileAt.prepareParent`),
though its path leaves out idle segments, and writing replaces the file (`FileAt.writeFile`).
-/

namespace EntityCodegen

namespace Path

variable {path : Path} {first : String} {rest : List String}

theorem names_ofSegments (h : ∀ segment ∈ first :: rest, '/' ∉ segment.toList) :
    (ofSegments first rest).names = (first :: rest).filter fun segment => segment != "" := by
  rw [ofSegments]
  split
  · next hroot =>
    obtain ⟨rfl, rfl⟩ := hroot
    decide
  · rw [names, segments, Text.fields_ofFields (by simp) h]

theorem head?_ofSegments (h : first ≠ "") :
    (ofSegments first rest).text.toList.head? = first.toList.head? := by
  rw [ofSegments, if_neg (by simp [h])]
  exact Text.head?_ofFields rest (by simpa using h)

theorem isAbsolute_ofSegments (h : '/' ∉ first.toList) :
    (ofSegments first rest).isAbsolute = (first == "") := by
  by_cases hfirst : first = ""
  · subst hfirst
    cases rest with
    | nil => rfl
    | cons second rest => simp [ofSegments, isAbsolute, List.intercalate_cons_cons]
  · rw [isAbsolute, head?_ofSegments hfirst, beq_false_of_ne hfirst, beq_eq_false_iff_ne]
    intro hhead
    exact h (List.mem_of_head? hhead)

theorem text_ofSegments_ne_empty : (ofSegments first rest).text ≠ "" := by
  by_cases hfirst : first = ""
  · subst hfirst
    cases rest with
    | nil => decide
    | cons second rest =>
      rw [Ne, ← String.toList_inj]
      simp [ofSegments, List.intercalate_cons_cons]
  · intro htext
    have hhead : (ofSegments first rest).text.toList.head? = first.toList.head? :=
      head?_ofSegments hfirst
    rw [htext, String.toList_empty, List.head?_nil, eq_comm, List.head?_eq_none_iff] at hhead
    exact hfirst (by simpa using hhead)

theorem mem_ofSegments {c : Char} (h : c ∈ (ofSegments first rest).text.toList) :
    c = '/' ∨ ∃ segment ∈ first :: rest, c ∈ segment.toList := by
  rw [ofSegments] at h
  split at h
  · exact .inl (by simpa using h)
  · exact Text.mem_ofFields h

theorem ofSegments_segments (h : path.segments = first :: rest) (hrest : rest ≠ []) :
    ofSegments first rest = path := by
  rw [ofSegments, if_neg (by simp [hrest]), ← h, segments, Text.ofFields_fields]

theorem exists_segments (htext : path.text ≠ "") (hslash : path.endsInSlash = false) :
    ∃ front name, path.segments = front ++ [name] ∧ name ≠ "" := by
  obtain ⟨front, name, hsegments⟩ := List.eq_nil_or_concat path.segments |>.resolve_left
    (List.length_pos_iff.mp (by rw [segments, Text.length_fields]; omega))
  rw [List.concat_eq_append] at hsegments
  refine ⟨front, name, hsegments, ?_⟩
  rintro rfl
  have hpath := Text.ofFields_fields '/' path.text
  rw [← segments, hsegments] at hpath
  by_cases hfront : front = []
  · exact htext (by rw [← hpath, hfront]; rfl)
  · rw [Text.ofFields_append_empty '/' hfront] at hpath
    simp [endsInSlash, ← hpath] at hslash

/-- The path of the directory that the segments lead to. Idle ones at the end are left out. -/
def ofFront : List String → Path
  | [] => ⟨""⟩
  | first :: rest => ofSegments first (rest.rdropWhile isIdle)

theorem parent?_eq {front : List String} {name : String} (h : path.segments = front ++ [name])
    (hidle : isIdle name = false) (hname : name ≠ "") : path.parent? = some (ofFront front) := by
  rw [parent?, h]
  cases front with
  | nil => simp [hname, ofFront]
  | cons first rest => simp [hidle, List.rdropWhile, ofFront]

end Path

namespace FileTree

open EntityCodegen.Path (isIdle)

variable {tree : FileTree} {path : Path} {location parent : Location} {content : ByteArray}
  {name : String} {front : List String}

theorem start_ofSegments {first : String} {rest : List String} (h : '/' ∉ first.toList) :
    tree.start (Path.ofSegments first rest) = if first = "" then [] else tree.current := by
  rw [start, Path.isAbsolute_ofSegments h]
  simp

theorem descend_ofSegments {first : String} {rest : List String}
    (h : ∀ segment ∈ first :: rest, '/' ∉ segment.toList ∧ '\x00' ∉ segment.toList) :
    tree.descend (Path.ofSegments first rest) =
      ((first :: rest).filter fun segment => segment != "").foldlM tree.follow
        (if first = "" then [] else tree.current) := by
  have hnul : '\x00' ∉ (Path.ofSegments first rest).text.toList := by
    intro hmem
    rcases Path.mem_ofSegments hmem with hslash | ⟨segment, hsegment, hmem⟩
    · cases hslash
    · exact (h segment hsegment).2 hmem
  rw [descend, if_neg (by simpa using hnul), start_ofSegments (h first List.mem_cons_self).1,
    Path.names_ofSegments fun segment hmem => (h segment hmem).1]

theorem get?_dropLast (h : (tree.get? location).isSome) :
    tree.get? location.dropLast = some .directory := by
  cases location using List.reverseRecOn with
  | nil => rfl
  | append_singleton parent name =>
    rw [List.dropLast_concat]
    exact tree.closed parent name h

theorem dots_of_follow (h : tree.follow parent name = .ok location)
    (hfile : tree.get? location = some (.file content)) : name ≠ "." ∧ name ≠ ".." := by
  have hdirectory := get?_of_follow h
  constructor
  · rintro rfl
    obtain ⟨-, rfl⟩ := follow_dot.mp h
    rw [hfile] at hdirectory
    cases hdirectory
  · rintro rfl
    rw [follow, hdirectory] at h
    cases h
    have habove := get?_dropLast (Option.isSome_of_eq_some hdirectory)
    rw [hfile] at habove
    cases habove

/-- The path leads to a file of the directory, by the segments before its last one and then by the
file's name. -/
structure FileAt (tree : FileTree) (path : Path) (front : List String) (parent : Location)
    (name : String) : Prop where
  segments : path.segments = front ++ [name]
  nul : '\x00' ∉ path.text.toList
  follow : (front.filter fun segment => segment != "").foldlM tree.follow (tree.start path) =
    .ok parent
  directory : tree.get? parent = some .directory
  isName : isName name
  not_directory : tree.get? (parent ++ [name]) ≠ some .directory
  locate : tree.locate path = .ok (parent ++ [name])

theorem exists_fileAt (hlocate : tree.locate path = .ok location)
    (hfile : tree.get? location = some (.file content)) :
    ∃ front parent name, FileAt tree path front parent name ∧ location = parent ++ [name] := by
  obtain ⟨htext, hdescend, hends⟩ := locate_eq_ok_iff.mp hlocate
  have hslash : path.endsInSlash = false := by
    rw [Bool.eq_false_iff]
    intro hslash
    have hdirectory := hends hslash
    rw [hfile] at hdirectory
    cases hdirectory
  obtain ⟨front, name, hsegments, hname⟩ := Path.exists_segments htext hslash
  rw [descend] at hdescend
  split at hdescend
  · cases hdescend
  next hnul =>
  have hnul : '\x00' ∉ path.text.toList := by simpa using hnul
  have hlast : ([name].filter fun segment => segment != "") = [name] := by simp [hname]
  rw [Path.names, hsegments, List.filter_append, hlast, foldlM_append_eq_ok_iff] at hdescend
  obtain ⟨parent, hparent, hfollow⟩ := hdescend
  rw [foldlM_cons_eq_ok_iff] at hfollow
  obtain ⟨_, hfollow, hend⟩ := hfollow
  cases hend
  obtain ⟨hdot, hup⟩ := dots_of_follow hfollow hfile
  have hdirectory := get?_of_follow hfollow
  obtain ⟨-, hsize, rfl, -⟩ := (follow_eq_ok_iff hdot hup).mp hfollow
  have hsegment : Path.IsSegment name :=
    Path.isSegment_of_mem_segments hnul (by simp [hsegments]) hname
  refine ⟨front, parent, name, ?_, rfl⟩
  exact {
    segments := hsegments
    nul := hnul
    follow := hparent
    directory := hdirectory
    isName := Path.isName_iff.mpr ⟨⟨hsegment, hdot, hup⟩, hsize⟩
    not_directory := by simp [hfile]
    locate := hlocate }

theorem foldlM_follow_rdropWhile {segments : List String}
    (h : (segments.filter fun segment => segment != "").foldlM tree.follow location = .ok parent)
    (hdirectory : tree.get? parent = some .directory) :
    ((segments.rdropWhile isIdle).filter fun segment => segment != "").foldlM tree.follow
      location = .ok parent := by
  induction segments using List.reverseRecOn with
  | nil => exact h
  | append_singleton segments segment ih =>
    by_cases hidle : isIdle segment
    · rw [List.rdropWhile_concat_pos _ _ _ hidle]
      apply ih
      rw [List.filter_append, foldlM_append_eq_ok_iff] at h
      obtain ⟨next, hnext, hlast⟩ := h
      by_cases hempty : segment = ""
      · subst hempty
        cases hlast
        exact hnext
      · have hdot : segment = "." := by simpa [isIdle, hempty] using hidle
        subst hdot
        obtain ⟨_, hfollow, hend⟩ := foldlM_cons_eq_ok_iff.mp hlast
        cases hend
        obtain ⟨-, rfl⟩ := follow_dot.mp hfollow
        exact hnext
    · rwa [List.rdropWhile_concat_neg _ _ _ hidle]

namespace FileAt

variable (h : FileAt tree path front parent name)
include h

theorem locate_ofFront (hfront : front ≠ []) : tree.locate (Path.ofFront front) = .ok parent := by
  obtain ⟨first, above, rfl⟩ := List.exists_cons_of_ne_nil hfront
  have hsegment : ∀ segment ∈ first :: above, '/' ∉ segment.toList ∧ '\x00' ∉ segment.toList := by
    intro segment hmem
    have hfield : segment ∈ path.segments := by
      rw [h.segments]
      exact List.mem_append_left _ hmem
    exact ⟨(Text.mem_fields hfield).1, fun hnul => h.nul ((Text.mem_fields hfield).2 _ hnul)⟩
  have hkept : first :: above.rdropWhile isIdle ⊆ first :: above :=
    List.cons_subset_cons first (List.rdropWhile_prefix isIdle above).subset
  have hpath : Path.ofSegments first (above ++ [name]) = path :=
    Path.ofSegments_segments h.segments (by simp)
  have hfollow := h.follow
  rw [← hpath, start_ofSegments (hsegment first List.mem_cons_self).1, ← List.singleton_append,
    List.filter_append, foldlM_append_eq_ok_iff] at hfollow
  obtain ⟨next, hnext, hrest⟩ := hfollow
  refine locate_eq_ok_iff.mpr ⟨Path.text_ofSegments_ne_empty, ?_, fun _ => h.directory⟩
  rw [Path.ofFront, descend_ofSegments fun segment hmem => hsegment segment (hkept hmem),
    ← List.singleton_append, List.filter_append, foldlM_append_eq_ok_iff]
  exact ⟨next, hnext, foldlM_follow_rdropWhile hrest h.directory⟩

theorem prepareParent : tree.prepareParent path = (tree, .ok ()) := by
  have hname := (Path.isName_iff.mp h.isName).1
  have hidle : isIdle name = false := by simp [isIdle, hname.nonempty, hname.dot]
  rw [FileTree.prepareParent, Path.parent?_eq h.segments hidle hname.nonempty]
  by_cases hfront : front = []
  · subst hfront
    rfl
  · have hhas : tree.has (Path.ofFront front) :=
      has_iff.mpr ⟨_, find_eq_ok_iff.mpr ⟨parent, h.locate_ofFront hfront, h.directory⟩⟩
    simp only [hhas, if_true]

theorem locateNew : tree.locateNew path = .ok (parent, name) := by
  have hname := (Path.isName_iff.mp h.isName).1
  have hnames : path.names.reverse =
      name :: (front.filter fun segment => segment != "").reverse := by
    rw [Path.names, h.segments, List.filter_append]
    simp [hname.nonempty]
  have hcheck : checkPath path = .ok () := by
    rw [checkPath, if_neg (locate_eq_ok_iff.mp h.locate).1, if_neg (by simpa using h.nul)]
  rw [FileTree.locateNew, hcheck, ok_bind, hnames]
  simp only [List.reverse_reverse, h.follow, ok_bind, h.directory]

theorem writeFile (content : ByteArray) :
    tree.writeFile path content = .ok (tree.put parent name (.file content)) := by
  obtain ⟨hname, hsize⟩ := Path.isName_iff.mp h.isName
  have hslash : path.endsInSlash = false := by
    rw [Bool.eq_false_iff]
    exact fun hslash => h.not_directory ((locate_eq_ok_iff.mp h.locate).2.2 hslash)
  rw [FileTree.writeFile, h.locateNew, ok_bind]
  simp only [hslash, hname.dot, hname.up, Nat.not_lt.mpr hsize, h.not_directory,
    Bool.false_eq_true, or_self, if_false]

end FileAt

end FileTree

end EntityCodegen
