import EntityCodegen.Event

/-!
# Computations that report events

A computation that may fail and reports events on its way. The events before a failure are kept, and
what follows a failure does not happen. The laws say how result and events of a sequence come from
those of its parts.
-/

namespace EntityCodegen

/-- The result of a computation, or its failure, with the events it reported in order. -/
structure Traced (ε α : Type) where
  /-- The events, in the order in which they happened. -/
  events : List Event
  /-- The result, or why there is none. -/
  result : Except ε α

namespace Traced

def ok {ε α : Type} (value : α) : Traced ε α :=
  ⟨[], .ok value⟩

def fail {ε α : Type} (error : ε) : Traced ε α :=
  ⟨[], .error error⟩

def report {ε : Type} (event : Event) : Traced ε Unit :=
  ⟨[event], .ok ()⟩

def reportAll {ε : Type} (events : List Event) : Traced ε Unit :=
  ⟨events, .ok ()⟩

/-- Runs one computation, and on success the next one on its result. -/
def andThen {ε α β : Type} (first : Traced ε α) (next : α → Traced ε β) : Traced ε β :=
  match first.result with
  | .error error => ⟨first.events, .error error⟩
  | .ok value =>
    let second := next value
    ⟨first.events ++ second.events, second.result⟩

instance {ε : Type} : Monad (Traced ε) where
  pure := ok
  bind := andThen

def ofExcept {ε α : Type} (result : Except ε α) : Traced ε α :=
  ⟨[], result⟩

/-- The same computation with its failure put in other terms. -/
def mapError {ε δ α : Type} (f : ε → δ) (computation : Traced ε α) : Traced δ α :=
  ⟨computation.events, computation.result.mapError f⟩

variable {ε α β : Type}

@[ext] theorem ext {x y : Traced ε α} (he : x.events = y.events) (hr : x.result = y.result) :
    x = y := by
  cases x; cases y; simp_all

@[simp] theorem events_pure (value : α) : (pure value : Traced ε α).events = [] := rfl

@[simp] theorem result_pure (value : α) : (pure value : Traced ε α).result = .ok value := rfl

@[simp] theorem events_fail (error : ε) : (fail error : Traced ε α).events = [] := rfl

@[simp] theorem result_fail (error : ε) : (fail error : Traced ε α).result = .error error := rfl

@[simp] theorem events_report (event : Event) : (report event : Traced ε Unit).events = [event] :=
  rfl

@[simp] theorem result_report (event : Event) : (report event : Traced ε Unit).result = .ok () :=
  rfl

@[simp] theorem events_reportAll (events : List Event) :
    (reportAll events : Traced ε Unit).events = events := rfl

@[simp] theorem result_reportAll (events : List Event) :
    (reportAll events : Traced ε Unit).result = .ok () := rfl

@[simp] theorem result_bind (x : Traced ε α) (f : α → Traced ε β) :
    (x >>= f).result = x.result >>= fun value => (f value).result := by
  show (andThen x f).result = _
  unfold andThen
  cases x.result <;> rfl

theorem events_bind_of_ok {x : Traced ε α} {value : α} (h : x.result = .ok value)
    (f : α → Traced ε β) : (x >>= f).events = x.events ++ (f value).events := by
  show (andThen x f).events = _
  simp [andThen, h]

theorem id_map_eq (x : Traced ε α) : id <$> x = x := by
  show andThen x ok = x
  unfold andThen
  cases h : x.result <;> ext : 1 <;> simp [ok, h]

theorem pure_bind_eq (value : α) (f : α → Traced ε β) : pure value >>= f = f value := by
  show andThen (ok value) f = f value
  simp [andThen, ok]

theorem bind_assoc_eq {γ : Type} (x : Traced ε α) (f : α → Traced ε β) (g : β → Traced ε γ) :
    x >>= f >>= g = x >>= fun value => f value >>= g := by
  show andThen (andThen x f) g = andThen x (fun value => andThen (f value) g)
  cases hx : x.result with
  | error e => simp [andThen, hx]
  | ok value => cases hf : (f value).result <;> simp [andThen, hx, hf]

instance : LawfulMonad (Traced ε) :=
  LawfulMonad.mk' (Traced ε) id_map_eq pure_bind_eq bind_assoc_eq

end Traced

end EntityCodegen
