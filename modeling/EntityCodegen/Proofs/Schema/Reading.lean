import EntityCodegen.Proofs.Component.Linking
import EntityCodegen.Proofs.Schema.Order

/-!
# Reading first, linking last

A run links each component before it reads the next file, but reading a file takes nothing from the
linking before it. So the result of a run is the one of another order of work (`result_read`): all
component files are read, each by itself, then all enum files, and the components are linked at the
end. What is true of files that are read one after the other is then true of both kinds.
-/

namespace EntityCodegen

namespace Source

/-- Reads each of the files by itself, in the order of their names. -/
def readEach {α : Type} (duplicate : String → DefinitionError)
    (read : Source → Except DefinitionError α) (sources : List Source) :
    Except DefinitionError (List α) := do
  let ordered ← distinctSorted duplicate sources
  ordered.mapM read

/-- The component that the file declares, without links and ids. -/
def component (options : ReadOptions) (source : Source) : Except DefinitionError Component :=
  (Component.read options source.name source.content).result

def enumeration (source : Source) : Except DefinitionError Enumeration :=
  (Enumeration.read source.name source.content).result

end Source

namespace Schema

/-- The components with their fields linked, the first wire id being `next`, and the id after the
last. -/
def linkAll (wireType : String) (next : Nat) : List Component → List Component × Nat
  | [] => ([], next)
  | component :: rest =>
    let (linked, after) := component.link wireType next
    let (components, last) := linkAll wireType after rest
    (linked :: components, last)

theorem names_linkAll (wireType : String) (next : Nat) (components : List Component) :
    (linkAll wireType next components).1.map Component.name = components.map Component.name := by
  induction components generalizing next with
  | nil => rfl
  | cons component rest ih => exact congrArg (component.name :: ·) (ih _)

/-- The components of the files in the order of their names, not yet linked. -/
def readUnlinked (options : ReadOptions) : List Source → Except DefinitionError (List Component) :=
  Source.readEach .duplicateComponent (Source.component options)

/-- The schema of components that are not yet linked, and of enumerations. -/
def assemble (wireType : String) (components : List Component) (enumerations : List Enumeration) :
    Schema :=
  ⟨(linkAll wireType 0 components).1, enumerations, (linkAll wireType 0 components).2⟩

theorem result_readComponentsFrom (options : BuildOptions) (next : Nat) (sources : List Source) :
    (readComponentsFrom options next sources).result =
      (sources.mapM (Source.component options.reading)).map (linkAll options.wireType next) := by
  -- from any first id, since the later files are linked from the id that the first one leaves
  induction sources generalizing next with
  | nil => rfl
  | cons source rest ih =>
    rw [readComponentsFrom, List.mapM_cons, Traced.result_bind]
    show Source.component options.reading source >>= _ = _
    cases Source.component options.reading source with
    | error error => rfl
    | ok component =>
      rw [ok_bind, ok_bind, Traced.result_reportAll_bind, Traced.result_bind, ih]
      cases rest.mapM (Source.component options.reading) <;> rfl

theorem result_readComponents (options : BuildOptions) (sources : List Source) :
    (readComponents options sources).result =
      (readUnlinked options.reading sources).map (linkAll options.wireType 0) := by
  rw [readComponents, Traced.result_bind, readUnlinked, Source.readEach]
  show Source.distinctSorted .duplicateComponent sources >>= _ = _
  cases Source.distinctSorted .duplicateComponent sources with
  | error error => rfl
  | ok ordered =>
    rw [ok_bind, ok_bind, Traced.result_bind, result_readComponentsFrom]
    cases ordered.mapM (Source.component options.reading) <;> rfl

theorem result_readEnumerations (sources : List Source) :
    (readEnumerations sources).result =
      Source.readEach .duplicateEnum Source.enumeration sources := by
  rw [readEnumerations, Traced.result_bind, Source.readEach]
  show Source.distinctSorted .duplicateEnum sources >>= _ = _
  cases Source.distinctSorted .duplicateEnum sources with
  | error error => rfl
  | ok ordered =>
    rw [ok_bind, ok_bind, Traced.result_bind, Traced.result_mapM]
    show ordered.mapM Source.enumeration >>= _ = _
    cases ordered.mapM Source.enumeration <;> rfl

theorem result_read (options : BuildOptions) (sources enums : List Source) :
    (read options sources enums).result = (do
      let components ← readUnlinked options.reading sources
      let enumerations ← Source.readEach .duplicateEnum Source.enumeration enums
      pure (assemble options.wireType components enumerations)) := by
  rw [read, Traced.result_bind, result_readComponents]
  cases readUnlinked options.reading sources with
  | error error => rfl
  | ok components =>
    rw [Except.map, ok_bind, ok_bind, Traced.result_bind, result_readEnumerations]
    rfl

end Schema

end EntityCodegen
