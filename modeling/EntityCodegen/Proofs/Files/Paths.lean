import EntityCodegen.Files.Access
import EntityCodegen.Proofs.Text.Lines
import Mathlib.Data.List.Basic

/-!
# Joined paths

A name that can stand between two slashes (`IsSegment`) is the last name of every path that is
joined with it (`names_join`), whether or not the path before it ends in a slash. The joined path
starts where the path starts, has a text, and asks for no directory.
-/

namespace EntityCodegen

namespace Path

/-- A text that can stand between two slashes. -/
structure IsSegment (name : String) : Prop where
  nonempty : name ≠ ""
  slash : '/' ∉ name.toList
  nul : '\x00' ∉ name.toList

/-- A segment that leads to an entry of the directory before it. -/
structure IsFileName (name : String) : Prop extends IsSegment name where
  dot : name ≠ "."
  up : name ≠ ".."

theorem isName_iff {name : String} :
    isName name ↔ IsFileName name ∧ name.utf8ByteSize ≤ maxNameSize := by
  constructor
  · intro h
    simp only [isName, Bool.and_eq_true, bne_iff_ne, Bool.not_eq_true', decide_eq_true_eq] at h
    obtain ⟨⟨⟨⟨⟨hempty, hdot⟩, hup⟩, hslash⟩, hnul⟩, hsize⟩ := h
    exact ⟨⟨⟨hempty, by simpa using hslash, by simpa using hnul⟩, hdot, hup⟩, hsize⟩
  · rintro ⟨⟨⟨hempty, hslash, hnul⟩, hdot, hup⟩, hsize⟩
    simp [isName, hempty, hslash, hnul, hdot, hup, hsize]

theorem isSegment_of_mem_segments {path : Path} {segment : String}
    (hnul : '\x00' ∉ path.text.toList) (h : segment ∈ path.segments) (hne : segment ≠ "") :
    IsSegment segment := by
  obtain ⟨hslash, hchars⟩ := Text.mem_fields h
  exact ⟨hne, hslash, fun hc => hnul (hchars _ hc)⟩

theorem fields_append_slash (front back : String) :
    Text.fields '/' (front ++ "/" ++ back) = Text.fields '/' front ++ Text.fields '/' back := by
  have hsplit : (front.toList ++ '/' :: back.toList).splitOn '/' =
      front.toList.splitOn '/' ++ back.toList.splitOn '/' :=
    List.splitOnP_append_cons _ _ (by simp)
  simp [Text.fields, hsplit]

theorem fields_of_slash_not_mem {name : String} (h : '/' ∉ name.toList) :
    Text.fields '/' name = [name] := by
  rw [Text.fields, List.splitOn_eq_singleton h, List.map_singleton, String.ofList_toList]

section
variable {path : Path} {name : String}

theorem names_append (front back : String) :
    (Path.mk (front ++ "/" ++ back)).names = (Path.mk front).names ++ (Path.mk back).names := by
  rw [names, segments, fields_append_slash, List.filter_append]
  rfl

theorem names_ofText_append (front : String) (h : '/' ∉ name.toList) :
    (Path.mk (front ++ "/" ++ name)).names =
      (Path.mk front).names ++ [name].filter fun segment => segment != "" := by
  have hname : (Path.mk name).names = [name].filter fun segment => segment != "" := by
    rw [names, segments, fields_of_slash_not_mem h]
  rw [names_append, hname]

theorem names_append_slash (front : String) :
    (Path.mk (front ++ "/")).names = (Path.mk front).names := by
  have h := names_ofText_append front (show '/' ∉ "".toList by simp)
  simpa using h

theorem eq_append_slash (h : path.endsInSlash) : ∃ front, path.text = front ++ "/" := by
  simp only [endsInSlash, beq_iff_eq] at h
  obtain ⟨front, hfront⟩ := List.getLast?_eq_some_iff.mp h
  refine ⟨String.ofList front, ?_⟩
  rw [← String.toList_inj, hfront]
  simp

theorem mem_names_of_join {base other : Path} (h : name ∈ (base.join other).names) :
    name ∈ base.names ∨ name ∈ other.names := by
  rw [join] at h
  split at h
  · exact .inr h
  · split at h
    · next hslash =>
      obtain ⟨front, hfront⟩ := eq_append_slash hslash
      have hbase : base.names = (Path.mk front).names := by
        rw [← names_append_slash front, ← hfront]
      rw [hfront, names_append, List.mem_append] at h
      rw [hbase]
      exact h
    · rw [names_append, List.mem_append] at h
      exact h

theorem isAbsolute_of_slash_not_mem (h : '/' ∉ name.toList) :
    (Path.mk name).isAbsolute = false := by
  rw [isAbsolute, Bool.eq_false_iff]
  intro habsolute
  exact h (List.mem_of_head? (by simpa using habsolute))

/-- The text of a path joined with a name: the two, with one slash between them if there is a path
and it does not end in one. -/
theorem join_cases (path : Path) (h : '/' ∉ name.toList) :
    (path.text = "" ∧ path.join ⟨name⟩ = ⟨name⟩) ∨
      (∃ front, path.text = front ++ "/" ∧ path.join ⟨name⟩ = ⟨front ++ "/" ++ name⟩) ∨
      path.text ≠ "" ∧ path.join ⟨name⟩ = ⟨path.text ++ "/" ++ name⟩ := by
  rw [join, isAbsolute_of_slash_not_mem h, Bool.false_or]
  by_cases hempty : path.text = ""
  · exact .inl ⟨hempty, by simp [hempty]⟩
  · by_cases hslash : path.endsInSlash
    · obtain ⟨front, hfront⟩ := eq_append_slash hslash
      refine .inr (.inl ⟨front, hfront, ?_⟩)
      rw [if_neg (by simpa using hempty), if_pos hslash, hfront]
    · refine .inr (.inr ⟨hempty, ?_⟩)
      rw [if_neg (by simpa using hempty), if_neg hslash]

theorem names_join (h : '/' ∉ name.toList) :
    (path.join ⟨name⟩).names = path.names ++ [name].filter fun segment => segment != "" := by
  rcases join_cases path h with ⟨hempty, hjoin⟩ | ⟨front, hfront, hjoin⟩ | ⟨-, hjoin⟩
  · have hpath : path.names = [] := by simp [names, segments, hempty, Text.fields]
    rw [hjoin, hpath, names, segments, fields_of_slash_not_mem h, List.nil_append]
  · have hpath : path.names = (Path.mk front).names := by
      rw [← names_append_slash front, ← hfront]
    rw [hjoin, names_ofText_append _ h, hpath]
  · rw [hjoin, names_ofText_append _ h]

theorem isAbsolute_join (h : '/' ∉ name.toList) :
    (path.join ⟨name⟩).isAbsolute = path.isAbsolute := by
  rcases join_cases path h with ⟨hempty, hjoin⟩ | ⟨front, hfront, hjoin⟩ | ⟨hne, hjoin⟩
  · rw [hjoin, isAbsolute_of_slash_not_mem h, isAbsolute, hempty]
    rfl
  · rw [hjoin, isAbsolute, isAbsolute, hfront]
    cases front.toList <;> simp
  · obtain ⟨first, rest, htext⟩ := List.exists_cons_of_ne_nil
      (show path.text.toList ≠ [] by simpa using hne)
    rw [hjoin, isAbsolute, isAbsolute]
    simp [htext]

theorem endsInSlash_join (h : IsSegment name) : (path.join ⟨name⟩).endsInSlash = false := by
  have hlast (front : String) : (Path.mk (front ++ name)).endsInSlash = false := by
    rw [endsInSlash, Bool.eq_false_iff]
    intro hslash
    have hne : name.toList ≠ [] := by simpa using h.nonempty
    rw [beq_iff_eq, String.toList_append, List.getLast?_append_of_ne_nil _ hne] at hslash
    exact h.slash (List.mem_of_getLast? hslash)
  rcases join_cases path h.slash with ⟨-, hjoin⟩ | ⟨front, -, hjoin⟩ | ⟨-, hjoin⟩
  · rw [hjoin]
    simpa using hlast ""
  · rw [hjoin]
    exact hlast _
  · rw [hjoin]
    exact hlast _

theorem text_join_ne_empty (h : name ≠ "") : (path.join ⟨name⟩).text ≠ "" := by
  rw [join]
  split
  · exact h
  · split
    · simp [h]
    · simp

theorem nul_mem_join (h : IsSegment name) :
    (path.join ⟨name⟩).text.toList.contains '\x00' = path.text.toList.contains '\x00' := by
  have hname : name.toList.contains '\x00' = false := by simpa using h.nul
  rcases join_cases path h.slash with ⟨hempty, hjoin⟩ | ⟨front, hfront, hjoin⟩ | ⟨-, hjoin⟩
  · rw [hjoin, hname, hempty]
    rfl
  · rw [hjoin, hfront]
    simp [h.nul]
  · rw [hjoin]
    simp [h.nul]

end

end Path

end EntityCodegen
