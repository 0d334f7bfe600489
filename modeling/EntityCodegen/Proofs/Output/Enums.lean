import EntityCodegen.Proofs.Enumeration.Printing
import EntityCodegen.Proofs.Project.Comparing
import EntityCodegen.Proofs.Project.Destinations
import EntityCodegen.Proofs.Schema.Refusal
import EntityCodegen.Proofs.Text.Literals

/-!
# What the files of the enumerations tell

`enumFiles_tell`: over the same names, the header tells the symbols of each enumeration with their
values, in order, and the source tells them with their descriptions; and neither file tells more.
So checking finds one of them stale exactly when an enumeration has changed.

A header is one block of lines after the other, and so is a source. Two blocks of one name agree up
to the first list of symbols in them. An item of the list ends where its characters say, since a
symbol is a word (`memberLine_inj`) and a literal is closed by the first quote that is not escaped
(`escapeChars_append_quote_inj`); and no item is the line that ends the list, since no symbol is the
reserved one. So the block tells its list, and where the list ends (`ToldApart.flatMap_inj`). What
follows in the block depends on nothing else.
-/

namespace EntityCodegen

open EntityCodegen.Text (Stops ToldApart isWord)

/-! ### What is told of an enumeration -/

namespace Enumeration

/-- The symbols with their values, in order. -/
def valued (enumeration : Enumeration) : List (String × UInt32) :=
  enumeration.symbols.map fun symbol => (symbol.name, symbol.value)

/-- The symbols with their descriptions, in order. -/
def described (enumeration : Enumeration) : List (String × String) :=
  enumeration.symbols.map fun symbol => (symbol.name, symbol.description)

theorem eq_of_valued_described {enumeration other : Enumeration}
    (hname : enumeration.name = other.name) (hvalued : enumeration.valued = other.valued)
    (hdescribed : enumeration.described = other.described) : enumeration = other := by
  have hpairs := congrArg₂ List.zip hvalued hdescribed
  rw [valued, valued, described, described, List.zip_map', List.zip_map'] at hpairs
  refine Enumeration.ext hname (List.map_injective_iff.mpr ?_ hpairs)
  rintro ⟨name, value, description⟩ ⟨name', value', description'⟩ h
  simp only [Prod.mk.injEq] at h
  obtain ⟨⟨rfl, rfl⟩, -, rfl⟩ := h
  rfl

end Enumeration

namespace Output

variable {enumeration other : Enumeration} {lines : List String} {rest rest' : List Char}

/-! ### Lines as characters -/

/-- The characters of the lines, each with its line feed. -/
def chars (lines : List String) : List Char :=
  (code lines).toList

theorem chars_append (lines others : List String) :
    chars (lines ++ others) = chars lines ++ chars others := by
  simp [chars]

theorem chars_nil : chars [] = [] := by
  simp [chars]

theorem chars_cons (line : String) (lines : List String) :
    chars (line :: lines) = line.toList ++ '\n' :: chars lines := by
  simp [chars, code, String.toList_join]

theorem chars_flatMap {α : Type} (xs : List α) (f : α → List String) :
    chars (xs.flatMap f) = xs.flatMap fun x => chars (f x) := by
  induction xs with
  | nil => rfl
  | cons x xs ih => rw [List.flatMap_cons, List.flatMap_cons, chars_append, ih]

theorem code_inj {others : List String} : code lines = code others ↔ chars lines = chars others :=
  String.toList_inj.symm

/-! ### The header -/

theorem chars_memberLine (name value : String) (rest : List Char) :
    chars [memberLine name value] ++ rest = [' ', ' ', ' ', ' '] ++
      (name.toList ++ ' ' :: '=' :: ' ' :: (value.toList ++ ',' :: '\n' :: rest)) := by
  simp [chars_cons, chars_nil, memberLine, tab]

theorem memberLine_inj {name name' value value' : String} (hname : ∀ c ∈ name.toList, isWord c)
    (hname' : ∀ c ∈ name'.toList, isWord c) (hvalue : ',' ∉ value.toList)
    (hvalue' : ',' ∉ value'.toList)
    (h : chars [memberLine name value] ++ rest = chars [memberLine name' value'] ++ rest') :
    name = name' ∧ value = value' ∧ rest = rest' := by
  have hblank : isWord ' ' = false := Text.isWord_of_isBlank (by decide)
  have hcomma {digits : String} (hdigits : ',' ∉ digits.toList) :
      ∀ c ∈ digits.toList, c != ',' := by
    intro c hc
    rw [bne_iff_ne]
    rintro rfl
    exact hdigits hc
  rw [chars_memberLine, chars_memberLine] at h
  obtain ⟨hsame, h⟩ := Text.run_append_inj hname hname' (Stops.cons hblank) (Stops.cons hblank)
    (List.append_cancel_left h)
  simp only [List.cons.injEq, true_and] at h
  obtain ⟨hsame', h⟩ := Text.run_append_inj (hcomma hvalue) (hcomma hvalue')
    (Stops.cons (by simp)) (Stops.cons (by simp)) h
  simp only [List.cons.injEq, true_and] at h
  exact ⟨String.toList_inj.mp hsame, String.toList_inj.mp hsame', h⟩

theorem toldApart_members : ToldApart
    (fun member : String × UInt32 =>
      (∀ c ∈ member.1.toList, isWord c) ∧ member.1 ≠ Enumeration.reservedSymbol)
    (fun member => chars [memberLine member.1 (toString member.2)]) id
    (chars [memberLine Enumeration.reservedSymbol (toString Enumeration.reservedValue)]) := by
  have hdigits (value : UInt32) : ',' ∉ (toString value).toList := fun hmem =>
    absurd (Symbol.isDigit_of_mem_value hmem) (by decide)
  have hreserved : ∀ c ∈ Enumeration.reservedSymbol.toList, isWord c :=
    List.all_eq_true.mp (by decide +kernel)
  constructor
  · rintro ⟨name, value⟩ ⟨name', value'⟩ rest rest' ⟨hword, -⟩ ⟨hword', -⟩ h
    obtain ⟨hname, hvalue, hrest⟩ :=
      memberLine_inj hword hword' (hdigits value) (hdigits value') h
    have hnumber := congrArg Declaration.numberOf hvalue
    rw [Symbol.numberOf_value, Symbol.numberOf_value, UInt32.toNat_inj] at hnumber
    exact ⟨Prod.ext hname hnumber, hrest⟩
  · rintro ⟨name, value⟩ rest rest' ⟨hword, hunreserved⟩ h
    obtain ⟨hname, -, -⟩ := memberLine_inj hword hreserved (hdigits value) (by decide) h
    exact hunreserved hname

theorem memberLines_eq (enumeration : Enumeration) : memberLines enumeration =
    (enumeration.valued.flatMap fun member => [memberLine member.1 (toString member.2)]) ++
      [memberLine Enumeration.reservedSymbol (toString Enumeration.reservedValue)] := by
  rw [memberLines, Enumeration.valued, List.flatMap_map, List.map_eq_flatMap]

/-- **A block of the header tells the values**, and where it ends. -/
theorem chars_enumHeaderLines_eq_iff (he : enumeration.Expressible) (ho : other.Expressible)
    (hname : enumeration.name = other.name) :
    chars (enumHeaderLines enumeration) ++ rest = chars (enumHeaderLines other) ++ rest' ↔
      enumeration.valued = other.valued ∧ rest = rest' := by
  have hvalid {e : Enumeration} (h : e.Expressible) : ∀ member ∈ e.valued,
      (∀ c ∈ member.1.toList, isWord c) ∧ member.1 ≠ Enumeration.reservedSymbol := by
    intro member hmember
    obtain ⟨symbol, hsymbol, rfl⟩ := List.mem_map.mp hmember
    exact ⟨(h.symbols symbol hsymbol).word, (h.symbols symbol hsymbol).unreserved⟩
  simp only [enumHeaderLines, hname, chars_append, List.append_assoc, List.append_cancel_left_eq,
    memberLines_eq, chars_flatMap]
  constructor
  · intro h
    obtain ⟨hvalued, hrest⟩ := toldApart_members.flatMap_inj (hvalid he) (hvalid ho) h
    rw [List.map_id, List.map_id] at hvalued
    exact ⟨hvalued, List.append_cancel_left hrest⟩
  · rintro ⟨hvalued, rfl⟩
    rw [hvalued]

/-! ### The source -/

/-- The lines of a case, for a symbol and the text that is returned for it. -/
def symbolCase (name : String) (entry : String × String) : List String :=
  [tab 1 ("case " ++ name ++ "::" ++ entry.1 ++ ":"),
    tab 2 ("return " ++ Text.literal entry.2 ++ ";")]

theorem chars_symbolCase (name : String) (entry : String × String) (rest : List Char) :
    chars (symbolCase name entry) ++ rest = (tab 1 ("case " ++ name ++ "::")).toList ++
      (entry.1.toList ++ ':' :: '\n' :: ((tab 2 "return \"").toList ++
        (Text.escapeChars entry.2.toList ++ '"' :: ';' :: '\n' :: rest))) := by
  simp [symbolCase, chars_cons, chars_nil, tab, Text.literal]

/-- The lines that end a switch. -/
def defaultLines : List String :=
  [tab 1 "default:", tab 2 "assert(false);", tab 2 "return nullptr;", tab 1 "\x7d", "\x7d"]

theorem toldApart_cases (name : String) : ToldApart
    (fun entry : String × String => ∀ c ∈ entry.1.toList, isWord c)
    (fun entry => chars (symbolCase name entry)) id (chars defaultLines) := by
  have hcolon : isWord ':' = false := by decide +kernel
  constructor
  · rintro ⟨symbol, text⟩ ⟨symbol', text'⟩ rest rest' hword hword' h
    rw [chars_symbolCase, chars_symbolCase] at h
    obtain ⟨hsymbol, h⟩ := Text.run_append_inj hword hword' (Stops.cons hcolon)
      (Stops.cons hcolon) (List.append_cancel_left h)
    simp only [List.cons.injEq, true_and] at h
    obtain ⟨htext, h⟩ := Text.escapeChars_append_quote_inj (List.append_cancel_left h)
    simp only [List.cons.injEq, true_and] at h
    exact ⟨Prod.ext (String.toList_inj.mp hsymbol) (String.toList_inj.mp htext), h⟩
  · intro entry rest rest' hword h
    rw [chars_symbolCase] at h
    simp [defaultLines, chars_cons, tab] at h

theorem switchLines_eq (enumeration : Enumeration) (function : String) (text : Symbol → String) :
    switchLines enumeration function text =
      ["const char* " ++ function ++ "(" ++ enumeration.name ++ " value) \x7b",
        tab 1 "switch(value)", tab 1 "\x7b"] ++
      (enumeration.symbols.map fun symbol => (symbol.name, text symbol)).flatMap
        (symbolCase enumeration.name) ++
      defaultLines := by
  rw [switchLines, List.flatMap_map]
  rfl

theorem switchLines_congr {function : String} {text : Symbol → String}
    (hname : enumeration.name = other.name)
    (h : (enumeration.symbols.map fun symbol => (symbol.name, text symbol)) =
      other.symbols.map fun symbol => (symbol.name, text symbol)) :
    switchLines enumeration function text = switchLines other function text := by
  rw [switchLines_eq, switchLines_eq, hname, h]

theorem flatMap_eq_of_map_eq {α β γ : Type} {f : α → β} {g : α → List γ} {xs ys : List α}
    (h : xs.map f = ys.map f) (hg : ∀ x y, f x = f y → g x = g y) :
    xs.flatMap g = ys.flatMap g := by
  induction xs generalizing ys with
  | nil => rw [List.map_eq_nil_iff.mp h.symm]
  | cons x xs ih =>
    obtain ⟨y, ys, rfl, hfirst, hrest⟩ := List.map_eq_cons_iff.mp h.symm
    rw [List.flatMap_cons, List.flatMap_cons, hg x y hfirst.symm, ih hrest.symm]

theorem lookupLines_congr (hname : enumeration.name = other.name)
    (h : enumeration.symbols.map Symbol.name = other.symbols.map Symbol.name) :
    lookupLines enumeration = lookupLines other := by
  rw [lookupLines, lookupLines, hname]
  congr 2
  exact flatMap_eq_of_map_eq h fun symbol symbol' hsame => by rw [hsame]

theorem settingLines_congr (hname : enumeration.name = other.name) :
    settingLines enumeration = settingLines other := by
  rw [settingLines, settingLines, hname]

theorem enumSourceLines_congr (hname : enumeration.name = other.name)
    (h : enumeration.described = other.described) :
    enumSourceLines enumeration = enumSourceLines other := by
  have hnames : enumeration.symbols.map Symbol.name = other.symbols.map Symbol.name := by
    have hfirst := congrArg (List.map Prod.fst) h
    rw [Enumeration.described, Enumeration.described, List.map_map, List.map_map] at hfirst
    exact hfirst
  have hpairs := congrArg (List.map fun name => (name, name)) hnames
  rw [List.map_map, List.map_map] at hpairs
  rw [enumSourceLines, enumSourceLines, switchLines_congr hname h, switchLines_congr hname hpairs,
    lookupLines_congr hname hnames, settingLines_congr hname]

theorem chars_enumSourceLines_eq_iff (he : enumeration.Expressible) (ho : other.Expressible)
    (hname : enumeration.name = other.name) :
    chars (enumSourceLines enumeration) ++ rest = chars (enumSourceLines other) ++ rest' ↔
      enumeration.described = other.described ∧ rest = rest' := by
  have hvalid {e : Enumeration} (h : e.Expressible) : ∀ entry ∈ e.described,
      ∀ c ∈ entry.1.toList, isWord c := by
    intro entry hentry
    obtain ⟨symbol, hsymbol, rfl⟩ := List.mem_map.mp hentry
    exact (h.symbols symbol hsymbol).word
  constructor
  · intro h
    have hdescribed : enumeration.described = other.described := by
      simp only [enumSourceLines, switchLines_eq enumeration "get_enum_description",
        switchLines_eq other "get_enum_description", hname, chars_append, List.append_assoc,
        List.append_cancel_left_eq, chars_flatMap] at h
      have htold := (toldApart_cases other.name).flatMap_inj (hvalid he) (hvalid ho) h
      rw [List.map_id, List.map_id] at htold
      exact htold.1
    rw [enumSourceLines_congr hname hdescribed] at h
    exact ⟨hdescribed, List.append_cancel_left h⟩
  · rintro ⟨hdescribed, rfl⟩
    rw [enumSourceLines_congr hname hdescribed]

/-! ### All enumerations -/

section
variable {β : Type} {content : Enumeration → β} {enums others : List Enumeration}

theorem flatMap_eq_iff_of_blocks {block : Enumeration → List Char}
    (hblock : ∀ {e o rest rest'}, e.Expressible → o.Expressible → e.name = o.name →
      (block e ++ rest = block o ++ rest' ↔ content e = content o ∧ rest = rest'))
    (he : ∀ e ∈ enums, e.Expressible) (ho : ∀ o ∈ others, o.Expressible)
    (hnames : enums.map Enumeration.name = others.map Enumeration.name) :
    enums.flatMap block = others.flatMap block ↔ enums.map content = others.map content := by
  induction enums generalizing others with
  | nil =>
    rw [List.map_eq_nil_iff.mp hnames.symm]
    exact iff_of_true rfl rfl
  | cons e enums ih =>
    obtain ⟨o, others, rfl, hname, hnames⟩ := List.map_eq_cons_iff.mp hnames.symm
    obtain ⟨hfirst, he⟩ := List.forall_mem_cons.mp he
    obtain ⟨hfirst', ho⟩ := List.forall_mem_cons.mp ho
    rw [List.flatMap_cons, List.flatMap_cons, hblock hfirst hfirst' hname.symm,
      ih he ho hnames.symm, List.map_cons, List.map_cons, List.cons.injEq]

/-- Whichever enumerations have one name agree in the content. -/
def Agree (content : Enumeration → β) (enums others : List Enumeration) : Prop :=
  ∀ e ∈ enums, ∀ o ∈ others, e.name = o.name → content e = content o

theorem agree_iff (hnames : enums.map Enumeration.name = others.map Enumeration.name)
    (hdistinct : (enums.map Enumeration.name).Nodup) :
    Agree content enums others ↔ enums.map content = others.map content := by
  induction enums generalizing others with
  | nil =>
    rw [List.map_eq_nil_iff.mp hnames.symm]
    simp [Agree]
  | cons e enums ih =>
    obtain ⟨o, others, rfl, hname, hnames⟩ := List.map_eq_cons_iff.mp hnames.symm
    rw [List.map_cons, List.nodup_cons] at hdistinct
    rw [List.map_cons, List.map_cons, List.cons.injEq, ← ih hnames.symm hdistinct.2]
    constructor
    · intro h
      exact ⟨h e List.mem_cons_self o List.mem_cons_self hname.symm, fun e' he' o' ho' =>
        h e' (List.mem_cons_of_mem _ he') o' (List.mem_cons_of_mem _ ho')⟩
    · -- the name that the first two share stands nowhere else
      have hfresh : ∀ o' ∈ others, o'.name ≠ e.name := by
        intro o' ho' hsame
        have hmem := List.mem_map_of_mem (f := Enumeration.name) ho'
        rw [hsame, hnames] at hmem
        exact hdistinct.1 hmem
      have hfresh' : ∀ e' ∈ enums, e'.name ≠ o.name := by
        intro e' he' hsame
        have hmem := List.mem_map_of_mem (f := Enumeration.name) he'
        rw [hsame, hname] at hmem
        exact hdistinct.1 hmem
      rintro ⟨hfirst, hrest⟩ e' he' o' ho' hsame
      rcases List.mem_cons.mp he' with rfl | he' <;> rcases List.mem_cons.mp ho' with rfl | ho'
      · exact hfirst
      · exact absurd hsame.symm (hfresh o' ho')
      · exact absurd hsame (hfresh' e' he')
      · exact hrest e' he' o' ho' hsame

theorem enumHeader_eq_iff (he : ∀ e ∈ enums, e.Expressible) (ho : ∀ o ∈ others, o.Expressible)
    (hnames : enums.map Enumeration.name = others.map Enumeration.name) :
    enumHeader enums = enumHeader others ↔
      enums.map Enumeration.valued = others.map Enumeration.valued := by
  rw [enumHeader, enumHeader, code_inj, chars_append, chars_append, List.append_cancel_left_eq,
    chars_flatMap, chars_flatMap]
  exact flatMap_eq_iff_of_blocks chars_enumHeaderLines_eq_iff he ho hnames

theorem enumSource_eq_iff (he : ∀ e ∈ enums, e.Expressible) (ho : ∀ o ∈ others, o.Expressible)
    (hnames : enums.map Enumeration.name = others.map Enumeration.name) :
    enumSource enums = enumSource others ↔
      enums.map Enumeration.described = others.map Enumeration.described := by
  rw [enumSource, enumSource, code_inj, chars_append, chars_append, List.append_cancel_left_eq,
    chars_flatMap, chars_flatMap]
  exact flatMap_eq_iff_of_blocks chars_enumSourceLines_eq_iff he ho hnames

theorem eq_iff_map_valued_described
    (hnames : enums.map Enumeration.name = others.map Enumeration.name) :
    enums = others ↔ enums.map Enumeration.valued = others.map Enumeration.valued ∧
      enums.map Enumeration.described = others.map Enumeration.described := by
  constructor
  · rintro rfl
    exact ⟨rfl, rfl⟩
  · rintro ⟨hvalued, hdescribed⟩
    have hall := congrArg₂ List.zip hnames (congrArg₂ List.zip hvalued hdescribed)
    simp only [List.zip_map'] at hall
    refine List.map_injective_iff.mpr (fun e o h => ?_) hall
    simp only [Prod.mk.injEq] at h
    exact Enumeration.eq_of_valued_described h.1 h.2.1 h.2.2

end

end Output

/-! ### Checking after an edit -/

namespace Schema

theorem enumerations_of_read {sources : List Source} {enums : List Enumeration}
    (h : (readEnumerations sources).result = .ok enums) :
    enums.map Enumeration.name = (Source.sorted sources).map Source.name ∧
      (enums.map Enumeration.name).Nodup ∧ ∀ e ∈ enums, e.Expressible := by
  rw [result_readEnumerations] at h
  obtain ⟨hdistinct, hvalues⟩ := Source.readEach_eq_ok_iff.mp h
  have hnames : enums.map Enumeration.name = (Source.sorted sources).map Source.name :=
    Source.map_name_of_readEach (fun _ _ hread => Enumeration.name_of_read hread) h
  refine ⟨hnames, ?_, fun e he => ?_⟩
  · rw [hnames, ((Source.sorted_perm sources).map Source.name).nodup_iff]
    exact Source.nodup_names_of_not_repeated hdistinct
  · obtain ⟨source, -, hread⟩ := exists_of_mapM hvalues e he
    rw [Source.enumeration, ← Enumeration.name_of_read hread] at hread
    exact Enumeration.expressible_of_read hread

end Schema

namespace Project

variable {project : Project} {tree : FileTree} {generated : Generated} {before : Schema}

theorem mem_statuses_destinations_iff
    (hgenerate : (project.generate tree .all).result = .ok generated)
    (hfailure : (tree.compareAll (project.destinations generated.files)).failure = none)
    {file : OutputFile} (hfile : file ∈ generated.files) {status : FileStatus} :
    (project.destination file, status) ∈
        (tree.compareAll (project.destinations generated.files)).statuses ↔
      tree.compare (project.destination file) file.content = .ok status := by
  rw [FileTree.mem_statuses_iff hfailure]
  have hmem : (project.destination file, file.content) ∈ project.destinations generated.files :=
    List.mem_map_of_mem hfile
  constructor
  · rintro ⟨text, htext, hstatus⟩
    -- no other file goes to the same place
    have hdistinct : ((project.destinations generated.files).map Prod.fst).Nodup :=
      List.pairwise_map.mpr ((apart_of_mem_destinations hgenerate).imp FileTree.Apart.ne)
    cases List.inj_on_of_nodup_map hdistinct hmem htext rfl
    exact hstatus
  · exact fun hstatus => ⟨_, hmem, hstatus⟩

theorem exists_stale_iff (after : Schema) (hupToDate : ∀ file ∈ before.enumerationFiles,
      tree.UpToDate (project.destination file) file.content) :
    (∃ file ∈ after.enumerationFiles,
        tree.compare (project.destination file) file.content = .ok .stale) ↔
      ¬ (Output.enumHeader before.enumerations = Output.enumHeader after.enumerations ∧
        Output.enumSource before.enumerations = Output.enumSource after.enumerations) := by
  have hstale {kind : OutputKind} {name text : String} (other : String)
      (h : tree.UpToDate (project.destination ⟨kind, name, text⟩) text) :
      tree.compare (project.destination ⟨kind, name, other⟩) other = .ok .stale ↔ text ≠ other := by
    -- where a file goes does not depend on its text
    have hplace : project.destination ⟨kind, name, other⟩ =
        project.destination ⟨kind, name, text⟩ := rfl
    rw [hplace, FileTree.compare_of_upToDate h]
    by_cases hsame : text = other <;> simp [hsame]
  simp only [Schema.enumerationFiles, List.forall_mem_cons] at hupToDate
  obtain ⟨hheader, hsource, -⟩ := hupToDate
  simp only [Schema.enumerationFiles, List.mem_cons, List.not_mem_nil, or_false, exists_eq_or_imp,
    exists_eq_left]
  rw [hstale _ hheader, hstale _ hsource]
  exact not_and_or.symm

end Project

namespace Output

variable {sources edited : List Source} {enums others : List Enumeration}

/-- **The files of the enumerations tell what was read, and nothing more.** Two sets of enum files
over the same names give one header iff each enumeration has the same values, and one source iff it
has the same descriptions. So with the files in the tree as they were made before the files were
edited, checking finds one of them stale iff an enumeration is another now. -/
theorem enumFiles_tell (hread : (Schema.readEnumerations sources).result = .ok enums)
    (hedited : (Schema.readEnumerations edited).result = .ok others)
    (hsources : (sources.map Source.name).Perm (edited.map Source.name)) :
    (enumHeader enums = enumHeader others ↔ Agree Enumeration.valued enums others) ∧
    (enumSource enums = enumSource others ↔ Agree Enumeration.described enums others) ∧
    ∀ (project : Project) (tree : FileTree) (before : Schema) (generated : Generated),
      before.enumerations = enums → generated.schema.enumerations = others →
      (project.generate tree .all).result = .ok generated →
      (∀ file ∈ before.enumerationFiles,
        tree.UpToDate (project.destination file) file.content) →
      ((∃ file ∈ generated.schema.enumerationFiles,
          tree.compare (project.destination file) file.content = .ok .stale) ↔ enums ≠ others) ∧
      ((tree.compareAll (project.destinations generated.files)).failure = none →
        ((∃ file ∈ generated.schema.enumerationFiles, (project.destination file, .stale) ∈
            (tree.compareAll (project.destinations generated.files)).statuses) ↔
          enums ≠ others)) := by
  obtain ⟨hsorted, hdistinct, he⟩ := Schema.enumerations_of_read hread
  obtain ⟨hsorted', -, ho⟩ := Schema.enumerations_of_read hedited
  have hnames : enums.map Enumeration.name = others.map Enumeration.name := by
    rw [hsorted, hsorted', Source.names_sorted_eq_of_names hsources]
  have hheader := enumHeader_eq_iff he ho hnames
  have hsource := enumSource_eq_iff he ho hnames
  rw [agree_iff hnames hdistinct, agree_iff hnames hdistinct]
  refine ⟨hheader, hsource, ?_⟩
  rintro project tree before generated rfl rfl hgenerate hupToDate
  have hstale := Project.exists_stale_iff generated.schema hupToDate
  rw [hheader, hsource, ← eq_iff_map_valued_described hnames] at hstale
  refine ⟨hstale, fun hfailure => Iff.trans ?_ hstale⟩
  refine exists_congr fun file => and_congr_right fun hfile => ?_
  obtain ⟨-, -, -, -, -, -, -, hfiles⟩ := Project.generate_eq_ok_iff.mp hgenerate
  have hmem : file ∈ generated.files := hfiles ▸ List.mem_append_right _ hfile
  exact Project.mem_statuses_destinations_iff hgenerate hfailure hmem

/-- The mode of a lamp, with a description of its one symbol. -/
def lampMode (description : String) : Enumeration :=
  ⟨"mode", [⟨"on", 0, description⟩], by simp⟩

/-- A new description shows in the source and not in the header. -/
theorem enumFiles_tell_described :
    (Schema.readEnumerations [⟨"mode", "on"⟩]).result = .ok [lampMode "mode"] ∧
    (Schema.readEnumerations [⟨"mode", "on, \"lit\""⟩]).result = .ok [lampMode "lit"] ∧
    ([Source.mk "mode" "on"].map Source.name).Perm
      ([Source.mk "mode" "on, \"lit\""].map Source.name) ∧
    enumHeader [lampMode "mode"] = enumHeader [lampMode "lit"] ∧
    enumSource [lampMode "mode"] ≠ enumSource [lampMode "lit"] := by
  have hread : (Schema.readEnumerations [⟨"mode", "on"⟩]).result = .ok [lampMode "mode"] := by
    simp only [Schema.result_readEnumerations, Source.readEach, Source.distinctSorted,
      Source.sorted, List.mergeSort_singleton]
    decide +kernel
  have hedited : (Schema.readEnumerations [⟨"mode", "on, \"lit\""⟩]).result =
      .ok [lampMode "lit"] := by
    simp only [Schema.result_readEnumerations, Source.readEach, Source.distinctSorted,
      Source.sorted, List.mergeSort_singleton]
    decide +kernel
  obtain ⟨hheader, hsource, -⟩ := enumFiles_tell hread hedited (.refl _)
  refine ⟨hread, hedited, .refl _, hheader.mpr (by simp [Agree, Enumeration.valued, lampMode]), ?_⟩
  intro hsame
  have hdescribed := hsource.mp hsame _ List.mem_cons_self _ List.mem_cons_self rfl
  simp [Enumeration.described, lampMode] at hdescribed

end Output

end EntityCodegen
