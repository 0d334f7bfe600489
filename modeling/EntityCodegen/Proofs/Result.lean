import EntityCodegen.Traced
import Mathlib.Data.List.Forall2

/-!
# Results of sequences and folds

What the result of a computation in steps says about its steps. A file is read by a fold over its
lines that ends at the first line that fails: such a fold succeeds on a list iff it succeeds on the
first part and then on the second, and it fails iff it succeeds up to an element at which the step
fails (`foldlM_eq_error_iff`). Files are read one after the other: this succeeds with the results of
the files in turn (`mapM_eq_ok_iff`) and fails at the first file that fails (`mapM_eq_error_iff`).
Events do not matter for the result (`result_foldlM`, `result_mapM`).
-/

namespace EntityCodegen

/-! ### Results of sequences -/

theorem ok_bind {ε α β : Type} (value : α) (f : α → Except ε β) :
    (Except.ok value >>= f) = f value := rfl

theorem bind_eq_ok_iff {ε α β : Type} {x : Except ε α} {f : α → Except ε β} {value : β} :
    (x >>= f) = .ok value ↔ ∃ middle, x = .ok middle ∧ f middle = .ok value := by
  cases x <;> simp [bind, Except.bind]

theorem bind_eq_error_iff {ε α β : Type} {x : Except ε α} {f : α → Except ε β} {error : ε} :
    (x >>= f) = .error error ↔
      x = .error error ∨ ∃ middle, x = .ok middle ∧ f middle = .error error := by
  cases x <;> simp [bind, Except.bind]

/-! ### Folds -/

section
variable {ε α σ : Type} {step : σ → α → Except ε σ}

theorem foldlM_cons_eq_ok_iff {x : α} {xs : List α} {state final : σ} :
    (x :: xs).foldlM step state = .ok final ↔
      ∃ next, step state x = .ok next ∧ xs.foldlM step next = .ok final := by
  rw [List.foldlM_cons, bind_eq_ok_iff]

theorem foldlM_append_eq_ok_iff {xs ys : List α} {state final : σ} :
    (xs ++ ys).foldlM step state = .ok final ↔
      ∃ next, xs.foldlM step state = .ok next ∧ ys.foldlM step next = .ok final := by
  rw [List.foldlM_append, bind_eq_ok_iff]

theorem foldlM_eq_error_iff {xs : List α} {state : σ} {error : ε} :
    xs.foldlM step state = .error error ↔
      ∃ before x after next, xs = before ++ x :: after ∧ before.foldlM step state = .ok next ∧
        step next x = .error error := by
  constructor
  · intro h
    induction xs generalizing state with
    | nil => simp [pure, Except.pure] at h
    | cons x xs ih =>
      rw [List.foldlM_cons, bind_eq_error_iff] at h
      rcases h with hfail | ⟨next, hstep, hrest⟩
      · exact ⟨[], x, xs, state, rfl, rfl, hfail⟩
      · obtain ⟨before, y, after, last, rfl, hbefore, hfail⟩ := ih hrest
        exact ⟨x :: before, y, after, last, rfl,
          foldlM_cons_eq_ok_iff.mpr ⟨next, hstep, hbefore⟩, hfail⟩
  · rintro ⟨before, x, after, next, rfl, hbefore, hfail⟩
    rw [List.foldlM_append, bind_eq_error_iff]
    refine .inr ⟨next, hbefore, ?_⟩
    rw [List.foldlM_cons, bind_eq_error_iff]
    exact .inl hfail

end

/-! ### Lists of results -/

theorem mapM_congr {ε α β : Type} {f g : α → Except ε β} {xs : List α}
    (h : ∀ x ∈ xs, f x = g x) : xs.mapM f = xs.mapM g := by
  induction xs with
  | nil => rfl
  | cons x xs ih =>
    obtain ⟨hx, hxs⟩ := List.forall_mem_cons.mp h
    rw [List.mapM_cons, List.mapM_cons, hx, ih hxs]

theorem exists_of_forall₂ {α β : Type} {R : α → β → Prop} {xs : List α} {ys : List β}
    (h : List.Forall₂ R xs ys) {x : α} (hx : x ∈ xs) : ∃ y ∈ ys, R x y := by
  induction h with
  | nil => cases hx
  | @cons first other rest others hfirst _ ih =>
    rcases List.mem_cons.mp hx with rfl | hx
    · exact ⟨other, by simp, hfirst⟩
    · obtain ⟨y, hy, hxy⟩ := ih hx
      exact ⟨y, List.mem_cons_of_mem _ hy, hxy⟩

section
variable {ε α β : Type} {f : α → Except ε β}

theorem mapM_eq_ok_iff {xs : List α} {ys : List β} :
    xs.mapM f = .ok ys ↔ List.Forall₂ (fun x y => f x = .ok y) xs ys := by
  induction xs generalizing ys with
  | nil =>
    show Except.ok [] = Except.ok ys ↔ _
    rw [Except.ok.injEq, List.forall₂_nil_left_iff, eq_comm]
  | cons x xs ih =>
    rw [List.mapM_cons, bind_eq_ok_iff, List.forall₂_cons_left_iff]
    simp only [bind_eq_ok_iff, ih]
    constructor
    · rintro ⟨y, hy, rest, hrest, hcons⟩
      cases hcons
      exact ⟨y, rest, hy, hrest, rfl⟩
    · rintro ⟨y, rest, hy, hrest, rfl⟩
      exact ⟨y, hy, rest, hrest, rfl⟩

theorem mapM_append_eq_ok_iff {xs others : List α} {ys : List β} :
    (xs ++ others).mapM f = .ok ys ↔
      ∃ front back, xs.mapM f = .ok front ∧ others.mapM f = .ok back ∧ ys = front ++ back := by
  rw [List.mapM_append, bind_eq_ok_iff]
  simp only [bind_eq_ok_iff]
  constructor
  · rintro ⟨front, hfront, back, hback, hsplit⟩
    cases hsplit
    exact ⟨front, back, hfront, hback, rfl⟩
  · rintro ⟨front, back, hfront, hback, rfl⟩
    exact ⟨front, hfront, back, hback, rfl⟩

theorem mapM_cons_eq_ok_iff {x : α} {xs : List α} {ys : List β} :
    (x :: xs).mapM f = .ok ys ↔
      ∃ y rest, f x = .ok y ∧ xs.mapM f = .ok rest ∧ ys = y :: rest := by
  simp only [mapM_eq_ok_iff, List.forall₂_cons_left_iff]

theorem exists_of_mapM {xs : List α} {ys : List β} (h : xs.mapM f = .ok ys) :
    ∀ y ∈ ys, ∃ x ∈ xs, f x = .ok y := by
  have hresults : List.Forall₂ (flip fun x y => f x = .ok y) ys xs := (mapM_eq_ok_iff.mp h).flip
  intro y hy
  exact exists_of_forall₂ hresults hy

theorem map_eq_of_mapM {γ : Type} {g : α → γ} {k : β → γ} {xs : List α} {ys : List β}
    (h : xs.mapM f = .ok ys) (hf : ∀ x y, f x = .ok y → k y = g x) : ys.map k = xs.map g := by
  have hsame : List.Forall₂ (· = ·) (xs.map g) (ys.map k) := by
    rw [List.forall₂_map_left_iff, List.forall₂_map_right_iff]
    exact (mapM_eq_ok_iff.mp h).imp fun x y hxy => (hf x y hxy).symm
  rw [List.forall₂_eq_eq_eq] at hsame
  exact hsame.symm

theorem mapM_eq_error_iff {xs : List α} {error : ε} :
    xs.mapM f = .error error ↔
      ∃ before x after, xs = before ++ x :: after ∧ (∀ y ∈ before, ∃ value, f y = .ok value) ∧
        f x = .error error := by
  induction xs with
  | nil => simp [pure, Except.pure]
  | cons x xs ih =>
    rw [List.mapM_cons, bind_eq_error_iff]
    simp only [bind_eq_error_iff, ih]
    constructor
    · rintro (hfail | ⟨value, hvalue, ⟨before, y, after, rfl, hbefore, hfail⟩ | ⟨_, -, hpure⟩⟩)
      · exact ⟨[], x, xs, rfl, by simp, hfail⟩
      · refine ⟨x :: before, y, after, rfl, ?_, hfail⟩
        exact List.forall_mem_cons.mpr ⟨⟨value, hvalue⟩, hbefore⟩
      · cases hpure
    · rintro ⟨before, y, after, hsplit, hbefore, hfail⟩
      cases before with
      | nil =>
        rw [List.nil_append, List.cons.injEq] at hsplit
        exact .inl (hsplit.1 ▸ hfail)
      | cons first before =>
        rw [List.cons_append, List.cons.injEq] at hsplit
        obtain ⟨⟨value, hvalue⟩, hbefore⟩ := List.forall_mem_cons.mp hbefore
        exact .inr ⟨value, hsplit.1 ▸ hvalue, .inl ⟨before, y, after, hsplit.2, hbefore, hfail⟩⟩

end

/-! ### Two computations side by side -/

/-- The first computation does what the second does, or it fails with an excused error. -/
def SameUnless {ε α : Type} (excused : ε → Prop) (strict lax : Except ε α) : Prop :=
  strict = lax ∨ ∃ error, strict = .error error ∧ excused error

namespace SameUnless

section
variable {ε α β : Type} {excused : ε → Prop} {strict lax : Except ε α}

theorem refl (result : Except ε α) : SameUnless excused result result :=
  .inl rfl

theorem bind {f g : α → Except ε β} (h : SameUnless excused strict lax)
    (hnext : ∀ value, SameUnless excused (f value) (g value)) :
    SameUnless excused (strict >>= f) (lax >>= g) := by
  rcases h with rfl | ⟨error, rfl, hexcused⟩
  · cases strict with
    | error error => exact .refl _
    | ok value => exact hnext value
  · exact .inr ⟨error, rfl, hexcused⟩

theorem bind_same (h : SameUnless excused strict lax) (f : α → Except ε β) :
    SameUnless excused (strict >>= f) (lax >>= f) :=
  h.bind fun value => .refl (f value)

theorem mapError {δ : Type} {excused' : δ → Prop} {f : ε → δ} (h : SameUnless excused strict lax)
    (himp : ∀ error, excused error → excused' (f error)) :
    SameUnless excused' (strict.mapError f) (lax.mapError f) := by
  rcases h with rfl | ⟨error, rfl, hexcused⟩
  · exact .refl _
  · exact .inr ⟨f error, rfl, himp error hexcused⟩

theorem foldlM {σ : Type} {f g : σ → α → Except ε σ} (xs : List α)
    (h : ∀ state x, SameUnless excused (f state x) (g state x)) (state : σ) :
    SameUnless excused (xs.foldlM f state) (xs.foldlM g state) := by
  induction xs generalizing state with
  | nil => exact .refl _
  | cons x xs ih =>
    rw [List.foldlM_cons, List.foldlM_cons]
    exact (h state x).bind ih

theorem mapM {f g : α → Except ε β} (xs : List α)
    (h : ∀ x, SameUnless excused (f x) (g x)) : SameUnless excused (xs.mapM f) (xs.mapM g) := by
  induction xs with
  | nil => exact .refl _
  | cons x xs ih =>
    rw [List.mapM_cons, List.mapM_cons]
    exact (h x).bind fun value => ih.bind_same _

theorem ok {value : α} (h : SameUnless excused strict lax) (hok : strict = .ok value) :
    lax = .ok value := by
  rcases h with rfl | ⟨error, rfl, -⟩
  · exact hok
  · cases hok

theorem error {error : ε} (h : SameUnless excused strict lax) (herror : strict = .error error)
    (hexcused : ¬ excused error) : lax = .error error := by
  rcases h with rfl | ⟨other, rfl, hother⟩
  · exact herror
  · cases herror
    exact absurd hother hexcused

theorem exists_error {error : ε} (h : SameUnless excused strict lax) (hlax : lax = .error error) :
    ∃ error, strict = .error error := by
  rcases h with rfl | ⟨other, hother, -⟩
  · exact ⟨error, hlax⟩
  · exact ⟨other, hother⟩

theorem eq_of_not_excused (h : SameUnless excused strict lax) (hnone : ∀ error, ¬ excused error) :
    strict = lax := by
  rcases h with hsame | ⟨error, -, hexcused⟩
  · exact hsame
  · exact absurd hexcused (hnone error)

end

end SameUnless

namespace Traced

@[simp] theorem result_reportAll_bind {ε α : Type} (events : List Event) (f : Unit → Traced ε α) :
    (reportAll events >>= f).result = (f ()).result := rfl

theorem result_foldlM {ε α σ : Type} (step : σ → α → Traced ε σ) (xs : List α) (state : σ) :
    (xs.foldlM step state).result = xs.foldlM (fun s x => (step s x).result) state := by
  induction xs generalizing state with
  | nil => rfl
  | cons x xs ih =>
    rw [List.foldlM_cons, List.foldlM_cons, result_bind]
    simp only [ih]

theorem result_mapM {ε α β : Type} (f : α → Traced ε β) (xs : List α) :
    (xs.mapM f).result = xs.mapM fun x => (f x).result := by
  induction xs with
  | nil => rfl
  | cons x xs ih =>
    rw [List.mapM_cons, List.mapM_cons, result_bind]
    simp only [result_bind, ih]
    rfl

end Traced

end EntityCodegen
