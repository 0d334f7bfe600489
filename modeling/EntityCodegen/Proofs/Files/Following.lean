import EntityCodegen.Proofs.Files.Paths
import EntityCodegen.Proofs.Result

/-!
# Where paths lead

A path joined with one name leads where the name leads from the directory of the path
(`locate_join`). The path itself is then taken without the demands that are made of a whole path
(`descend`): it may be empty, for the working directory, and a slash at its end asks for nothing.
-/

namespace EntityCodegen

open EntityCodegen.Path (IsSegment)

theorem isSegment_dot : IsSegment "." :=
  ⟨by decide, by simp, by simp⟩

namespace FileTree

variable {tree : FileTree} {path : Path} {location target : Location} {name : String}

theorem follow_dot : tree.follow location "." = .ok target ↔
    tree.get? location = some .directory ∧ location = target := by
  rw [follow]
  cases hentry : tree.get? location with
  | none => simp
  | some entry => cases entry <;> simp

theorem get?_of_follow (h : tree.follow location name = .ok target) :
    tree.get? location = some .directory := by
  rw [follow] at h
  cases hentry : tree.get? location with
  | none => simp [hentry] at h
  | some entry =>
    cases entry with
    | directory => rfl
    | file => simp [hentry] at h

theorem follow_eq_ok_iff (hdot : name ≠ ".") (hup : name ≠ "..") :
    tree.follow location name = .ok target ↔ tree.get? location = some .directory ∧
      name.utf8ByteSize ≤ maxNameSize ∧ target = location ++ [name] ∧
      (tree.get? (location ++ [name])).isSome := by
  rw [follow]
  cases hentry : tree.get? location with
  | none => simp
  | some entry =>
    cases entry with
    | file => simp
    | directory =>
      by_cases hlong : maxNameSize < name.utf8ByteSize
      · simp [hdot, hup, hlong, Nat.not_le.mpr hlong]
      · by_cases hsome : (tree.get? (location ++ [name])).isSome
        · simp [hdot, hup, hlong, hsome, Nat.not_lt.mp hlong, eq_comm]
        · simp [hdot, hup, hlong, hsome]

/-- Where the names of a path lead. -/
def descend (tree : FileTree) (path : Path) : Except Fault Location :=
  if path.text.toList.contains '\x00' then .error .badPath
  else path.names.foldlM tree.follow (tree.start path)

theorem locate_eq_ok_iff : tree.locate path = .ok target ↔ path.text ≠ "" ∧
    tree.descend path = .ok target ∧
    (path.endsInSlash → tree.get? target = some .directory) := by
  rw [locate, checkPath, descend]
  by_cases hempty : path.text = ""
  · simp [hempty, bind, Except.bind]
  by_cases hnul : path.text.toList.contains '\x00'
  · rw [if_neg hempty, if_pos hnul, if_pos hnul]
    simp [bind, Except.bind]
  rw [if_neg hempty, if_neg hnul, if_neg hnul]
  show (path.names ++ if path.endsInSlash then ["."] else []).foldlM tree.follow
    (tree.start path) = .ok target ↔ _
  rw [foldlM_append_eq_ok_iff]
  by_cases hslash : path.endsInSlash
  · simp only [hslash, if_true, foldlM_cons_eq_ok_iff, follow_dot, List.foldlM_nil]
    constructor
    · rintro ⟨middle, hmiddle, last, ⟨hdirectory, rfl⟩, hlast⟩
      cases hlast
      exact ⟨hempty, hmiddle, fun _ => hdirectory⟩
    · rintro ⟨-, hmiddle, hdirectory⟩
      exact ⟨target, hmiddle, target, ⟨hdirectory trivial, rfl⟩, rfl⟩
  · rw [if_neg hslash]
    constructor
    · rintro ⟨middle, hmiddle, hlast⟩
      cases hlast
      exact ⟨hempty, hmiddle, fun h => absurd h hslash⟩
    · rintro ⟨-, hmiddle, -⟩
      exact ⟨target, hmiddle, rfl⟩

theorem descend_join (h : IsSegment name) : tree.descend (path.join ⟨name⟩) =
    tree.descend path >>= fun location => tree.follow location name := by
  have hstart : tree.start (path.join ⟨name⟩) = tree.start path := by
    rw [start, start, Path.isAbsolute_join h.slash]
  have hname : ([name].filter fun segment => segment != "") = [name] := by simp [h.nonempty]
  rw [descend, descend, Path.nul_mem_join h, Path.names_join h.slash, hstart, hname]
  split
  · rfl
  · rw [List.foldlM_append]
    simp

theorem descend_join_empty : tree.descend (path.join ⟨""⟩) = tree.descend path := by
  have hslash : '/' ∉ "".toList := by simp
  have hstart : tree.start (path.join ⟨""⟩) = tree.start path := by
    rw [start, start, Path.isAbsolute_join hslash]
  have hnul : (path.join ⟨""⟩).text.toList.contains '\x00' = path.text.toList.contains '\x00' := by
    rcases Path.join_cases path hslash with ⟨hempty, hjoin⟩ | ⟨front, hfront, hjoin⟩ | ⟨-, hjoin⟩
    · rw [hjoin, hempty]
    · rw [hjoin, hfront, String.append_empty]
    · rw [hjoin]
      simp
  rw [descend, descend, hnul, Path.names_join hslash, hstart]
  simp

theorem locate_join (h : IsSegment name) : tree.locate (path.join ⟨name⟩) = .ok target ↔
    ∃ location, tree.descend path = .ok location ∧ tree.follow location name = .ok target := by
  rw [locate_eq_ok_iff, descend_join h, bind_eq_ok_iff, Path.endsInSlash_join h]
  have htext : (path.join ⟨name⟩).text ≠ "" := Path.text_join_ne_empty h.nonempty
  simp [htext]

/-! ### What is asked of a path -/

theorem find_eq_ok_iff {entry : Entry} : tree.find path = .ok entry ↔
    ∃ location, tree.locate path = .ok location ∧ tree.get? location = some entry := by
  rw [find, bind_eq_ok_iff]
  refine exists_congr fun location => and_congr_right fun _ => ?_
  cases tree.get? location <;> simp

theorem has_iff : tree.has path ↔ ∃ entry, tree.find path = .ok entry := by
  rw [has]
  cases tree.find path <;> simp

theorem hasDirectory_iff : tree.hasDirectory path ↔ ∃ location,
    tree.locate path = .ok location ∧ tree.get? location = some .directory := by
  rw [← find_eq_ok_iff, hasDirectory]
  cases tree.find path with
  | error => simp
  | ok entry => cases entry <;> simp

theorem hasFile_iff : tree.hasFile path ↔ ∃ location content,
    tree.locate path = .ok location ∧ tree.get? location = some (.file content) := by
  rw [exists_comm]
  simp only [← find_eq_ok_iff]
  rw [hasFile]
  cases tree.find path with
  | error => simp
  | ok entry => cases entry <;> simp

theorem readText_eq_ok_iff {text : String} : tree.readText path = .ok text ↔
    ∃ content, tree.find path = .ok (.file content) ∧ String.fromUTF8? content = some text := by
  rw [readText, bind_eq_ok_iff]
  constructor
  · rintro ⟨entry, hentry, htext⟩
    cases entry with
    | directory => cases htext
    | file content =>
      refine ⟨content, hentry, ?_⟩
      cases hdecoded : String.fromUTF8? content <;> simp_all
  · rintro ⟨content, hcontent, htext⟩
    exact ⟨.file content, hcontent, by simp [htext]⟩

end FileTree

end EntityCodegen
