import EntityCodegen.Proofs.Files.Parents
import EntityCodegen.Proofs.Files.Ways

/-!
# Where entries are made

A file is written at the place of its path and nowhere else (`written_of_writeFile`). A directory is
made at the place of its path too, so the directories that are made for a file are at the places of
the paths above its own. Where a path only goes down, these places are above the place of the file
(`builds_prepareParent`).

`Builds` says of two trees what `Grows` says of them and also where directories were made.
-/

namespace EntityCodegen

namespace FileTree

variable {tree made changed before middle after : FileTree} {path : Path} {content : ByteArray}
  {location parent target : Location} {name : String} {written above : Location → Prop}

/-! ### The place of a new entry -/

theorem locateNew_eq_ok (h : tree.locateNew path = .ok (parent, name)) (hdot : name ≠ ".") :
    path.text ≠ "" ∧ '\x00' ∉ path.text.toList ∧ tree.get? parent = some .directory ∧
      ∃ front, path.names = front ++ [name] ∧
        front.foldlM tree.follow (tree.start path) = .ok parent := by
  rw [locateNew, bind_eq_ok_iff] at h
  obtain ⟨_, hcheck, h⟩ := h
  rw [checkPath] at hcheck
  split at hcheck
  · cases hcheck
  · next htext =>
    split at hcheck
    · cases hcheck
    · next hnul =>
      refine ⟨htext, by simpa using hnul, ?_⟩
      cases hnames : path.names.reverse with
      | nil =>
        simp only [hnames] at h
        cases h
        exact absurd rfl hdot
      | cons last front =>
        simp only [hnames, bind_eq_ok_iff] at h
        obtain ⟨directory, hfollow, h⟩ := h
        split at h
        · next hdirectory =>
          cases h
          exact ⟨hdirectory, front.reverse, by rw [← List.reverse_reverse path.names, hnames,
            List.reverse_cons], hfollow⟩
        · cases h

theorem place_of_locateNew (h : tree.locateNew path = .ok (parent, name)) (hdot : name ≠ ".")
    (hup : name ≠ "..") : tree.place path = parent ++ [name] := by
  obtain ⟨-, -, -, front, hnames, hfollow⟩ := locateNew_eq_ok h hdot
  rw [place, hnames, List.foldl_append, foldl_step_of_follow hfollow]
  simp [step, hdot, hup]

theorem writeFile_eq_ok (h : tree.writeFile path content = .ok changed) :
    ∃ parent name, tree.locateNew path = .ok (parent, name) ∧ isName name ∧
      path.endsInSlash = false ∧ tree.get? (parent ++ [name]) ≠ some .directory ∧
      changed = tree.put parent name (.file content) := by
  rw [writeFile, bind_eq_ok_iff] at h
  obtain ⟨⟨parent, name⟩, hnew, h⟩ := h
  simp only at h
  split at h
  · cases h
  · next hplain =>
    rw [not_or, not_or, Bool.not_eq_true] at hplain
    obtain ⟨hslash, hdot, hup⟩ := hplain
    split at h
    · cases h
    · next hsize =>
      split at h
      · cases h
      · next hfree =>
        cases h
        obtain ⟨-, hnul, -, front, hnames, -⟩ := locateNew_eq_ok hnew hdot
        have hmem : name ∈ path.names := by simp [hnames]
        obtain ⟨hsegment, hempty⟩ := List.mem_filter.mp hmem
        have hname : Path.IsSegment name :=
          Path.isSegment_of_mem_segments hnul hsegment (by simpa using hempty)
        exact ⟨parent, name, hnew, Path.isName_iff.mpr ⟨⟨hname, hdot, hup⟩, Nat.not_lt.mp hsize⟩,
          hslash, hfree, rfl⟩

/-- **A file is written at the place of its path**, and nothing else is written. -/
theorem written_of_writeFile (h : tree.writeFile path content = .ok changed) :
    changed.locate path = .ok (tree.place path) ∧
      changed.get? (tree.place path) = some (.file content) ∧
      Grows (fun location => location = tree.place path) tree changed := by
  obtain ⟨parent, name, hnew, hvalid, hslash, hfree, rfl⟩ := writeFile_eq_ok h
  obtain ⟨hname, hsize⟩ := Path.isName_iff.mp hvalid
  obtain ⟨htext, hnul, hdirectory, front, hnames, hfollow⟩ := locateNew_eq_ok hnew hname.dot
  rw [place_of_locateNew hnew hname.dot hname.up]
  have hfile := get?_put hdirectory hvalid hfree (.file content) (parent ++ [name])
  rw [if_pos rfl] at hfile
  have hgrows : Grows (fun location => location = parent ++ [name]) tree
      (tree.put parent name (.file content)) := grows_put_file rfl
  refine ⟨locate_eq_ok_iff.mpr ⟨htext, ?_, by simp [hslash]⟩, hfile, hgrows⟩
  have hstart : (tree.put parent name (.file content)).start path = tree.start path := by
    rw [start, start, hgrows.current]
  rw [descend, if_neg (by simpa using hnul), hstart, hnames, foldlM_append_eq_ok_iff]
  refine ⟨parent, hgrows.foldlM_follow hfollow, foldlM_cons_eq_ok_iff.mpr ⟨_, ?_, rfl⟩⟩
  rw [follow_eq_ok_iff hname.dot hname.up]
  exact ⟨(hgrows.change parent).directory hdirectory, hsize, rfl, by rw [hfile]; rfl⟩

/-! ### Where directories are made -/

/-- The second tree is the first after some writing, for which directories were made. -/
structure Builds (written above : Location → Prop) (before after : FileTree) : Prop
    extends Grows written before after where
  made : ∀ location, before.get? location = none → after.get? location = some .directory →
    above location

namespace Builds

theorem refl (tree : FileTree) : Builds written above tree tree := by
  refine ⟨.refl tree, fun location hnone hdirectory => ?_⟩
  rw [hnone] at hdirectory
  cases hdirectory

theorem trans (h : Builds written above before middle) (h' : Builds written above middle after) :
    Builds written above before after := by
  refine ⟨h.toGrows.trans h'.toGrows, fun location hnone hdirectory => ?_⟩
  cases hmiddle : middle.get? location with
  | none => exact h'.made location hmiddle hdirectory
  | some entry =>
    have hold := (h'.change location).directory_of_isSome (by rw [hmiddle]; rfl) hdirectory
    exact h.made location hnone hold

theorem imp {written' above' : Location → Prop} (h : Builds written above before after)
    (hwritten : ∀ location, written location → written' location)
    (habove : ∀ location, above location → above' location) :
    Builds written' above' before after :=
  ⟨h.toGrows.imp hwritten, fun location hnone hdirectory =>
    habove location (h.made location hnone hdirectory)⟩

end Builds

theorem Grows.builds (h : Grows written before after) :
    Builds written (fun _ => True) before after :=
  ⟨h, fun _ _ _ => trivial⟩

theorem builds_put {entry : Entry} (h : Grows written tree (tree.put parent name entry))
    (hmade : entry = .directory → above (parent ++ [name])) :
    Builds written above tree (tree.put parent name entry) := by
  refine ⟨h, fun location hnone hdirectory => ?_⟩
  by_cases hput : tree.get? parent = some .directory ∧ isName name ∧
      tree.get? (parent ++ [name]) ≠ some .directory
  · obtain ⟨hparent, hname, hfree⟩ := hput
    rw [get?_put hparent hname hfree] at hdirectory
    split at hdirectory
    · next hlocation =>
      rw [hlocation]
      exact hmade (Option.some.inj hdirectory)
    · rw [hnone] at hdirectory
      cases hdirectory
  · rw [put, dif_neg hput, hnone] at hdirectory
    cases hdirectory

theorem builds_writeFile (h : tree.writeFile path content = .ok changed) :
    Builds (fun location => location = tree.place path) above tree changed := by
  obtain ⟨-, -, hgrows⟩ := written_of_writeFile h
  obtain ⟨parent, name, -, -, -, -, rfl⟩ := writeFile_eq_ok h
  exact builds_put hgrows (by simp)

theorem builds_createDirectory (h : tree.createDirectory path = .ok made) :
    Builds written (fun location => location = tree.place path) tree made := by
  have hgrows : Grows written tree made := grows_createDirectory h
  obtain ⟨parent, name, hnew, hdot, hup, -, rfl⟩ := createDirectory_eq_ok h
  exact builds_put hgrows fun _ => (place_of_locateNew hnew hdot hup).symm

theorem place_eq_of_current {other : FileTree} (h : other.current = tree.current) (path : Path) :
    other.place path = tree.place path := by
  rw [place, place, start, start, h]

theorem builds_createUpward (tree : FileTree) (paths : List Path) :
    Builds written (fun location => ∃ path ∈ paths, location = tree.place path) tree
      (tree.createUpward paths).1 := by
  -- the places are those in the first tree, so the working directory has to stay
  have hsteps : tree.current = tree.current → Builds written
      (fun location => ∃ path ∈ paths, location = tree.place path) tree
      (tree.createUpward paths).1 := by
    refine createUpward_induction (R := fun before after => before.current = tree.current →
      Builds written (fun location => ∃ path ∈ paths, location = tree.place path) before after)
      (fun _ _ => .refl _) ?_ ?_ tree
    · intro before middle after hfirst hsecond hcurrent
      have hbuilds := hfirst hcurrent
      exact hbuilds.trans (hsecond (hbuilds.current.trans hcurrent))
    · intro path hpath before made hmade hcurrent
      refine (builds_createDirectory hmade).imp (fun _ h => h) fun location hlocation => ?_
      exact ⟨path, hpath, by rw [hlocation, place_eq_of_current hcurrent]⟩
  exact hsteps rfl

end FileTree

/-! ### Paths that only go down -/

namespace Path

variable {path parent ancestor : Path} {first : String} {rest : List String}

theorem exists_of_mem_ascend {reversed : List String} (h : ancestor ∈ ascend first reversed) :
    ∃ rest, rest <+: reversed.reverse ∧ ancestor = ofSegments first rest := by
  induction reversed with
  | nil =>
    rw [ascend] at h
    split at h
    · cases h
    · next hfirst =>
      rw [List.mem_singleton] at h
      refine ⟨[], List.nil_prefix, ?_⟩
      rw [h, ofSegments, if_neg (by simp [hfirst])]
      simp [Text.ofFields]
  | cons segment reversed ih =>
    rw [List.reverse_cons]
    rw [ascend] at h
    have habove : ancestor ∈ ascend first reversed →
        ∃ rest, rest <+: reversed.reverse ++ [segment] ∧ ancestor = ofSegments first rest := by
      intro hmem
      obtain ⟨rest, hrest, hancestor⟩ := ih hmem
      exact ⟨rest, hrest.trans (List.prefix_append _ _), hancestor⟩
    split at h
    · exact habove h
    · rcases List.mem_cons.mp h with rfl | h
      · exact ⟨_, List.prefix_rfl, by rw [List.reverse_cons]⟩
      · exact habove h

theorem exists_of_mem_ancestors (hslash : ∀ segment ∈ first :: rest, '/' ∉ segment.toList)
    (h : ancestor ∈ (ofSegments first rest).ancestors) :
    ∃ front, front <+: rest ∧ ancestor = ofSegments first front := by
  by_cases hroot : first = "" ∧ rest = []
  · obtain ⟨rfl, rfl⟩ := hroot
    cases h
  · have hsegments : (ofSegments first rest).segments = first :: rest := by
      rw [ofSegments, if_neg hroot, segments, Text.fields_ofFields (by simp) hslash]
    rw [ancestors, hsegments] at h
    simpa using exists_of_mem_ascend h

theorem exists_of_parent? (h : path.parent? = some parent) : parent = ⟨""⟩ ∨
    ∃ first front name back, path.segments = first :: (front ++ name :: back) ∧
      isIdle name = false ∧ ∃ rest, rest <+: front ∧ parent = ofSegments first rest := by
  rw [parent?] at h
  split at h
  · cases h
  · next first rest hsegments =>
    split at h
    · next name reversed hreversed =>
      cases h
      have hrest : rest = reversed.reverse ++ name :: (rest.reverse.takeWhile isIdle).reverse := by
        have hsplit := congrArg List.reverse
          (List.takeWhile_append_dropWhile (p := isIdle) (l := rest.reverse))
        rw [hreversed] at hsplit
        simpa using hsplit.symm
      have hname : isIdle name = false := by
        have hhead := List.head?_dropWhile_not isIdle rest.reverse
        rw [hreversed] at hhead
        simpa using hhead
      exact .inr ⟨first, reversed.reverse, name, _, by rw [hsegments, ← hrest], hname, _,
        List.reverse_prefix.mpr (List.dropWhile_suffix isIdle), rfl⟩
    · split at h
      · cases h
      · cases h
        exact .inl rfl

theorem exists_of_mem_ancestors_parent (hparent : path.parent? = some parent)
    (h : ancestor ∈ parent.ancestors) :
    ∃ first front name back, path.segments = first :: (front ++ name :: back) ∧
      isIdle name = false ∧ ∃ rest, rest <+: front ∧ ancestor = ofSegments first rest := by
  rcases exists_of_parent? hparent with rfl | ⟨first, front, name, back, hsegments, hname, rest,
    hrest, rfl⟩
  · cases h
  · have hsub : first :: rest ⊆ path.segments := by
      have hfront : first :: rest <+: first :: (front ++ name :: back) := by
        simpa using hrest.trans (List.prefix_append front (name :: back))
      exact hsegments ▸ hfront.subset
    obtain ⟨shorter, hshorter, hancestor⟩ := exists_of_mem_ancestors
      (fun segment hsegment => (Text.mem_fields (hsub hsegment)).1) h
    exact ⟨first, front, name, back, hsegments, hname, shorter, hshorter.trans hrest, hancestor⟩

end Path

namespace FileTree

open EntityCodegen.Path (isIdle)

variable {tree : FileTree} {path : Path} {location target : Location}
  {written above : Location → Prop}

/-- The location is above the other one. -/
def Above (location target : Location) : Prop :=
  location <+: target ∧ location ≠ target

theorem foldl_step_of_down {names : List String} (h : ".." ∉ names) (location : Location) :
    names.foldl step location = location ++ names.filter (· != ".") := by
  induction names generalizing location with
  | nil => simp
  | cons name names ih =>
    rw [List.mem_cons, not_or] at h
    rw [List.foldl_cons, ih h.2]
    by_cases hdot : name = "."
    · simp [step, hdot]
    · simp [step, hdot, Ne.symm h.1]

theorem place_ofSegments {first : String} {rest : List String}
    (hslash : ∀ segment ∈ first :: rest, '/' ∉ segment.toList) (hdown : ".." ∉ first :: rest) :
    tree.place (Path.ofSegments first rest) =
      (if first = "" then [] else tree.current) ++
        (first :: rest).filter fun segment => !isIdle segment := by
  have hkept : ".." ∉ (first :: rest).filter fun segment => segment != "" :=
    fun hmem => hdown (List.mem_filter.mp hmem).1
  rw [place, Path.names_ofSegments hslash, start_ofSegments (hslash first List.mem_cons_self),
    foldl_step_of_down hkept, List.filter_filter]
  congr 2
  funext segment
  simp [isIdle, bne, Bool.and_comm]

theorem above_of_prefix {shorter front back : List String} {name : String}
    (h : shorter <+: front) (hname : isIdle name = false) (base : Location) :
    Above (base ++ shorter.filter fun segment => !isIdle segment)
      (base ++ (front ++ name :: back).filter fun segment => !isIdle segment) := by
  have hkept := h.filter fun segment => !isIdle segment
  rw [List.filter_append, List.filter_cons_of_pos (by simp [hname])]
  refine ⟨(List.prefix_append_right_inj _).mpr (hkept.trans (List.prefix_append _ _)), ?_⟩
  intro heq
  have hlength := congrArg List.length (List.append_cancel_left heq)
  have hle := hkept.length_le
  rw [List.length_append, List.length_cons] at hlength
  omega

theorem above_of_mem_ancestors {parent ancestor : Path} (hdown : ".." ∉ path.names)
    (hparent : path.parent? = some parent) (h : ancestor ∈ parent.ancestors) :
    Above (tree.place ancestor) (tree.place path) := by
  obtain ⟨first, front, name, back, hsegments, hname, rest, hrest, rfl⟩ :=
    Path.exists_of_mem_ancestors_parent hparent h
  have hslash : ∀ segment ∈ first :: (front ++ name :: back), '/' ∉ segment.toList := by
    rw [← hsegments]
    exact fun segment hmem => (Text.mem_fields hmem).1
  have hdots : ".." ∉ first :: (front ++ name :: back) := by
    rw [← hsegments]
    exact fun hmem => hdown (List.mem_filter.mpr ⟨hmem, by decide⟩)
  have hshort : first :: rest <+: first :: front := by simpa using hrest
  have hsub : first :: rest ⊆ first :: (front ++ name :: back) :=
    (hshort.trans (List.prefix_append _ _)).subset
  rw [← Path.ofSegments_segments hsegments (by simp), place_ofSegments hslash hdots,
    place_ofSegments (fun segment hmem => hslash segment (hsub hmem)) fun hmem => hdots (hsub hmem)]
  exact above_of_prefix hshort hname _

theorem builds_prepareParent (hdown : ".." ∉ path.names) :
    Builds written (fun location => Above location (tree.place path)) tree
      (tree.prepareParent path).1 := by
  rw [prepareParent]
  split
  · exact .refl tree
  · next parent hparent =>
    split
    · exact .refl tree
    · refine (builds_createUpward tree parent.ancestors).imp (fun _ h => h) ?_
      rintro _ ⟨ancestor, hancestor, rfl⟩
      exact above_of_mem_ancestors hdown hparent hancestor

end FileTree

end EntityCodegen
