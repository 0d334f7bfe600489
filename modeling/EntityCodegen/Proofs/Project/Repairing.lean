import EntityCodegen.Proofs.Files.Parents
import EntityCodegen.Proofs.Project.Comparing

/-!
# Repairing damaged files

`handled_of_find`: what becomes of a file that does not hold the text that it should depends on its
bytes alone. If they are those of another text, the file is stale, and storing brings it to its
text and changes nothing else. If they are no text, it can neither be compared nor stored.

A run over several files repairs each damaged one as it gets there (`find_of_storeAll`), and gets to
the end if all are texts (`storeAll_of_texts`). It does not get past a file that is no text, and
leaves it as it was (`storeAll_of_notText`).
-/

namespace EntityCodegen

namespace FileTree

variable {tree before after : FileTree} {path : Path} {text name : String} {location : Location}
  {content : ByteArray} {files : List (Path × String)}

/-! ### Bytes of texts -/

/-- The bytes are those of some text. -/
def IsText (content : ByteArray) : Prop :=
  ∃ text : String, content = text.toUTF8

theorem fromUTF8?_eq_none_iff : String.fromUTF8? content = none ↔ ¬ IsText content := by
  rw [IsText, not_exists, Option.eq_none_iff_forall_ne_some]
  exact forall_congr' fun text => not_congr fromUTF8?_eq_some_iff

/-! ### One file -/

/-- The trees have the same entries but where the paths lead. -/
structure SameBut (paths : List Path) (before after : FileTree) : Prop where
  current : after.current = before.current
  get? : ∀ location, (∀ path ∈ paths, before.locate path ≠ .ok location) →
    after.get? location = before.get? location

theorem SameBut.trans {middle : FileTree} {paths others : List Path}
    (h : SameBut paths before middle) (h' : SameBut others middle after)
    (hlocate : ∀ path ∈ others, middle.locate path = before.locate path) :
    SameBut (paths ++ others) before after := by
  refine ⟨h'.current.trans h.current, fun location hlocation => ?_⟩
  rw [List.forall_mem_append] at hlocation
  rw [h'.get? location fun path hpath => hlocate path hpath ▸ hlocation.2 path hpath,
    h.get? location hlocation.1]

/-- What comparing with a text and storing it make of a file with the bytes. -/
structure Handled (tree : FileTree) (path : Path) (text : String) (content : ByteArray) : Prop where
  same : content = text.toUTF8 →
    tree.compare path text = .ok .upToDate ∧ tree.store path text = (tree, .ok (.unchanged path))
  /-- A file with another text is repaired, and no other entry changes. -/
  stale : content ≠ text.toUTF8 → IsText content →
    tree.compare path text = .ok .stale ∧ ∃ repaired,
      tree.store path text = (repaired, .ok (.written path text.utf8ByteSize)) ∧
      repaired.find path = .ok (.file text.toUTF8) ∧ SameBut [path] tree repaired
  /-- A file that holds no text stops both. -/
  notText : ¬ IsText content →
    tree.compare path text = .error .notText ∧
      tree.store path text = (tree, .error (.access .notText))

theorem compare_of_notText (h : tree.find path = .ok (.file content)) (hbytes : ¬ IsText content)
    (text : String) : tree.compare path text = .error .notText := by
  have hfile : tree.hasFile path := by
    rw [hasFile, h]
  have hread : tree.readText path = .error .notText := by
    rw [readText, h, ok_bind]
    simp only [fromUTF8?_eq_none_iff.mpr hbytes]
  rw [compare, hfile, hread]
  rfl

theorem replaceFile_of_find (h : tree.find path = .ok (.file content)) (text : String) :
    ∃ repaired, tree.replaceFile path text = (repaired, .ok (.written path text.utf8ByteSize)) ∧
      repaired.find path = .ok (.file text.toUTF8) ∧ SameBut [path] tree repaired := by
  obtain ⟨location, hlocate, hfile⟩ := find_eq_ok_iff.mp h
  obtain ⟨front, parent, name, hat, rfl⟩ := exists_fileAt hlocate hfile
  have hentry (location : Location) :=
    get?_put hat.directory hat.isName hat.not_directory (.file text.toUTF8) location
  have hgrows : Grows (fun location => location = parent ++ [name]) tree
      (tree.put parent name (.file text.toUTF8)) := grows_put_file rfl
  refine ⟨tree.put parent name (.file text.toUTF8), ?_, ?_, hgrows.current, fun other hother => ?_⟩
  · rw [replaceFile, hat.prepareParent]
    simp only [hat.writeFile]
  · refine find_eq_ok_iff.mpr ⟨_, hgrows.locate hlocate, ?_⟩
    rw [hentry, if_pos rfl]
  · rw [hentry, if_neg]
    rintro rfl
    exact hother path (List.mem_singleton_self path) hlocate

/-- **What becomes of a file depends on its bytes.** -/
theorem handled_of_find (h : tree.find path = .ok (.file content)) (text : String) :
    Handled tree path text content := by
  constructor
  · rintro rfl
    have hupToDate : tree.compare path text = .ok .upToDate := upToDate_iff_find.mpr h
    exact ⟨hupToDate, by rw [store, hupToDate]⟩
  · rintro hdamaged ⟨existing, rfl⟩
    have hother : existing ≠ text := by
      rintro rfl
      exact hdamaged rfl
    have hstale := compare_of_upToDate (upToDate_iff_find.mpr h) text
    rw [if_neg hother] at hstale
    obtain ⟨repaired, hreplace, hfind, hkept⟩ := replaceFile_of_find h text
    refine ⟨hstale, repaired, ?_, hfind, hkept⟩
    rw [store, hstale]
    simp only [hreplace]
    rfl
  · intro hbytes
    have hfailed := compare_of_notText h hbytes text
    exact ⟨hfailed, by rw [store, hfailed]⟩

theorem compare_eq_error_iff {fault : Fault} : tree.compare path text = .error fault ↔
    fault = .notText ∧ ∃ content, tree.find path = .ok (.file content) ∧ ¬ IsText content := by
  constructor
  · intro h
    by_cases hfile : tree.hasFile path
    · obtain ⟨location, content, hlocate, hentry⟩ := hasFile_iff.mp hfile
      have hfind := find_eq_ok_iff.mpr ⟨location, hlocate, hentry⟩
      by_cases hbytes : IsText content
      · obtain ⟨existing, rfl⟩ := hbytes
        rw [compare_of_upToDate (upToDate_iff_find.mpr hfind)] at h
        cases h
      · rw [compare_of_notText hfind hbytes] at h
        cases h
        exact ⟨rfl, content, hfind, hbytes⟩
    · rw [Bool.not_eq_true] at hfile
      rw [compare, hfile] at h
      cases h
  · rintro ⟨rfl, content, hfind, hbytes⟩
    exact compare_of_notText hfind hbytes text

/-! ### All files -/

/-- Every file that is there holds a text. -/
def Readable (tree : FileTree) (files : List (Path × String)) : Prop :=
  ∀ file ∈ files, ∀ content, tree.find file.1 = .ok (.file content) → IsText content

theorem failure_compareAll (tree : FileTree) (files : List (Path × String)) :
    (tree.Readable files → (tree.compareAll files).failure = none) ∧
      (¬ tree.Readable files → (tree.compareAll files).failure = some .notText) := by
  rw [Readable]
  induction files with
  | nil => simp [compareAll]
  | cons file rest ih =>
    obtain ⟨path, text⟩ := file
    rw [List.forall_mem_cons, compareAll]
    cases hcompare : tree.compare path text with
    | error fault =>
      obtain ⟨rfl, content, hfind, hbytes⟩ := compare_eq_error_iff.mp hcompare
      exact ⟨fun h => absurd (h.1 content hfind) hbytes, fun _ => rfl⟩
    | ok status =>
      have hfirst : ∀ content, tree.find path = .ok (.file content) → IsText content := by
        intro content hfind
        by_contra hbytes
        rw [compare_of_notText hfind hbytes] at hcompare
        cases hcompare
      rw [and_iff_right hfirst]
      exact ih

theorem find_of_store {other : Path} (hapart : Apart path other)
    (hfind : tree.find other = .ok (.file content)) (text : String) :
    (tree.store path text).1.find other = .ok (.file content) :=
  (grows_store tree path text).find_file hfind
    fun _ hother hwritten => hapart.locate_ne hwritten hother

theorem store_of_isText (hfind : tree.find path = .ok (.file content)) (hbytes : IsText content)
    (text : String) : ∃ changed result, tree.store path text = (changed, .ok result) ∧
      changed.find path = .ok (.file text.toUTF8) ∧ SameBut [path] tree changed := by
  have hhandled := handled_of_find hfind text
  by_cases hsame : content = text.toUTF8
  · refine ⟨tree, _, (hhandled.same hsame).2, hsame ▸ hfind, rfl, fun _ _ => rfl⟩
  · obtain ⟨-, repaired, hstore, hkept⟩ := hhandled.stale hsame hbytes
    exact ⟨repaired, _, hstore, hkept⟩

section
variable (hapart : files.Pairwise fun file other => Apart file.1 other.1)
include hapart

theorem storeAll_of_texts
    (htexts : ∀ file ∈ files, ∃ content, tree.find file.1 = .ok (.file content) ∧ IsText content) :
    (tree.storeAll files).failure = none ∧
      SameBut (files.map Prod.fst) tree (tree.storeAll files).tree := by
  induction files generalizing tree with
  | nil => exact ⟨rfl, rfl, fun _ _ => rfl⟩
  | cons file rest ih =>
    obtain ⟨path, text⟩ := file
    obtain ⟨hfirst, hapart⟩ := List.pairwise_cons.mp hapart
    obtain ⟨⟨content, hfind, hbytes⟩, htexts⟩ := List.forall_mem_cons.mp htexts
    obtain ⟨changed, result, hstore, -, hsame⟩ := store_of_isText hfind hbytes text
    have hgrows := grows_store tree path text
    rw [hstore] at hgrows
    obtain ⟨hrest, hsame'⟩ := ih hapart fun other hother => by
      obtain ⟨content, hfind, hbytes⟩ := htexts other hother
      have hkept := find_of_store (hfirst other hother) hfind text
      rw [hstore] at hkept
      exact ⟨content, hkept, hbytes⟩
    rw [tree_storeAll_cons hstore]
    refine ⟨storeAll_cons_eq.mpr ⟨changed, result, hstore, hrest⟩, hsame.trans hsame' ?_⟩
    simp only [List.forall_mem_map]
    intro other hother
    obtain ⟨content, hfind, -⟩ := htexts other hother
    exact hgrows.locate_eq hfind

theorem find_of_storeAll {front back : List (Path × String)}
    (hsplit : files = front ++ (path, text) :: back) (hreached : (tree.storeAll front).failure = none)
    (hfind : tree.find path = .ok (.file content)) (hbytes : IsText content) :
    (tree.storeAll files).tree.find path = .ok (.file text.toUTF8) := by
  subst hsplit
  induction front generalizing tree with
  | nil =>
    obtain ⟨hfirst, -⟩ := List.pairwise_cons.mp hapart
    obtain ⟨changed, result, hstore, hrepaired, -⟩ := store_of_isText hfind hbytes text
    rw [List.nil_append, tree_storeAll_cons hstore]
    refine (grows_storeAll changed back).find_file hrepaired ?_
    rintro location hlocation ⟨other, hother, hwritten⟩
    exact (hfirst other hother).locate_ne hlocation hwritten
  | cons file front ih =>
    obtain ⟨first, firstText⟩ := file
    obtain ⟨hfirst, hapart⟩ := List.pairwise_cons.mp hapart
    obtain ⟨changed, result, hstore, hreached⟩ := storeAll_cons_eq.mp hreached
    have hother : Apart first path :=
      hfirst (path, text) (List.mem_append_right front List.mem_cons_self)
    have hkept := find_of_store hother hfind firstText
    rw [hstore] at hkept
    rw [List.cons_append, tree_storeAll_cons hstore]
    exact ih hreached hkept hapart

/-- **A file that is no text stops the run** and is left as it was. -/
theorem storeAll_of_notText (hmem : (path, text) ∈ files)
    (hfind : tree.find path = .ok (.file content)) (hbytes : ¬ IsText content) :
    (∃ error, (tree.storeAll files).failure = some error) ∧
      (tree.storeAll files).tree.find path = .ok (.file content) := by
  induction files generalizing tree with
  | nil => cases hmem
  | cons file rest ih =>
    obtain ⟨first, firstText⟩ := file
    obtain ⟨hfirst, hapart⟩ := List.pairwise_cons.mp hapart
    rcases List.mem_cons.mp hmem with heq | hmem
    · cases heq
      have hstore := ((handled_of_find hfind text).notText hbytes).2
      rw [storeAll, hstore]
      exact ⟨⟨_, rfl⟩, hfind⟩
    · have hkept := find_of_store (hfirst _ hmem) hfind firstText
      cases hstore : tree.store first firstText with
      | mk changed stored =>
        rw [hstore] at hkept
        rw [storeAll, hstore]
        cases stored with
        | error error => exact ⟨⟨error, rfl⟩, hkept⟩
        | ok result => exact ih hapart hmem hkept

end

end FileTree

end EntityCodegen
