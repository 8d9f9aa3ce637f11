import Mathlib.Data.List.Forall2
import Mathlib.Data.List.OfFn

/-!
# Computations that may be refused

Reading, declaring and checking are chains of steps of which the first refusal ends the chain. Such
a chain is accepted exactly when every step of it is, and then each step has its result.

## Main results

* `bind_eq_ok`, `map_eq_ok`: two steps, and a step with its result changed
* `check_bind_eq_ok`: a check before a step
* `mapM_eq_ok`, `forM_eq_ok`: the same step for every element of a list
* `forM_eq_error_iff`: the first element for which the step is refused
* `forM_append`, `forM_flatMap`, `mapM_map_unit`: checks of lists that are made of lists, and steps
  whose results do not count
* `mapM_append_eq_ok`, `mapM_mono`, `mapM_ofFn_eq_ok`: a list in two parts, two steps of which one
  accepts more, and a list that is given by its positions
-/

namespace Specloom

variable {ε α β γ : Type}

theorem bind_eq_ok {x : Except ε α} {f : α → Except ε β} {b : β} :
    x >>= f = .ok b ↔ ∃ a, x = .ok a ∧ f a = .ok b := by
  cases x with
  | error e =>
    constructor
    · intro h
      cases h
    · rintro ⟨a, h, -⟩
      cases h
  | ok a =>
    constructor
    · intro h
      exact ⟨a, rfl, h⟩
    · rintro ⟨_, ha, h⟩
      cases ha
      exact h

/-- A check before a step. -/
theorem check_bind_eq_ok {x : Except ε Unit} {f : Unit → Except ε β} {b : β} :
    x >>= f = .ok b ↔ x = .ok () ∧ f () = .ok b :=
  bind_eq_ok.trans ⟨fun ⟨_, h⟩ => h, fun h => ⟨(), h⟩⟩

theorem pure_eq_ok {a b : α} : (pure a : Except ε α) = .ok b ↔ a = b :=
  Except.ok.injEq a b ▸ Iff.rfl

/-- A check of one condition. -/
theorem ite_eq_error_iff {p : Prop} [Decidable p] {e e' : ε} :
    (if p then .error e else .ok () : Except ε Unit) = .error e' ↔ p ∧ e = e' := by
  by_cases hp : p
  · rw [if_pos hp, Except.error.injEq, and_iff_right hp]
  · simp [hp]

theorem map_eq_ok {x : Except ε α} {f : α → β} {b : β} :
    x.map f = .ok b ↔ ∃ a, x = .ok a ∧ f a = b := by
  cases x <;> simp [Except.map]

theorem map_toOption_eq_some {x : Except ε α} {f : α → β} {b : β} :
    x.toOption.map f = some b ↔ ∃ a, x = .ok a ∧ f a = b := by
  cases x <;> simp [Except.toOption]

/-- A step is accepted for every element of a list exactly if each element has its result. -/
theorem mapM_eq_ok {f : α → Except ε β} {xs : List α} {ys : List β} :
    xs.mapM f = .ok ys ↔ List.Forall₂ (fun x y => f x = .ok y) xs ys := by
  induction xs generalizing ys with
  | nil => cases ys <;> simp [pure_eq_ok]
  | cons x xs ih =>
    simp only [List.mapM_cons, bind_eq_ok, pure_eq_ok, List.forall₂_cons_left_iff, ih]
    constructor
    · rintro ⟨y, hy, zs, hzs, rfl⟩
      exact ⟨y, zs, hy, hzs, rfl⟩
    · rintro ⟨y, zs, hy, hzs, rfl⟩
      exact ⟨y, hy, zs, hzs, rfl⟩

/-- Where each element is accepted, all of them are. -/
theorem exists_mapM_eq_ok {f : α → Except ε β} {xs : List α} (h : ∀ x ∈ xs, ∃ y, f x = .ok y) :
    ∃ ys, xs.mapM f = .ok ys := by
  induction xs with
  | nil => exact ⟨[], rfl⟩
  | cons x xs ih =>
    obtain ⟨y, hy⟩ := h x List.mem_cons_self
    obtain ⟨ys, hys⟩ := ih fun z hz => h z (List.mem_cons_of_mem _ hz)
    refine ⟨y :: ys, ?_⟩
    rw [mapM_eq_ok] at hys ⊢
    exact .cons hy hys

/-- Every result is the result of an element. -/
theorem exists_mem_of_mapM {f : α → Except ε β} {xs : List α} {ys : List β}
    (h : xs.mapM f = .ok ys) {y : β} (hy : y ∈ ys) : ∃ x ∈ xs, f x = .ok y := by
  rw [mapM_eq_ok] at h
  induction h with
  | nil => cases hy
  | cons hxy _ ih =>
    rcases List.mem_cons.mp hy with rfl | hy
    · exact ⟨_, List.mem_cons_self, hxy⟩
    · obtain ⟨x, hx, hxy⟩ := ih hy
      exact ⟨x, List.mem_cons_of_mem _ hx, hxy⟩

/-- Every element has its result among the results. -/
theorem exists_mem_of_mem_mapM {f : α → Except ε β} {xs : List α} {ys : List β}
    (h : xs.mapM f = .ok ys) {x : α} (hx : x ∈ xs) : ∃ y ∈ ys, f x = .ok y := by
  rw [mapM_eq_ok] at h
  induction h with
  | nil => cases hx
  | cons hxy _ ih =>
    rcases List.mem_cons.mp hx with rfl | hx
    · exact ⟨_, List.mem_cons_self, hxy⟩
    · obtain ⟨y, hy, hxy⟩ := ih hx
      exact ⟨y, List.mem_cons_of_mem _ hy, hxy⟩

theorem mapM_append_eq_ok {f : α → Except ε β} {xs xs' : List α} {ys : List β} :
    (xs ++ xs').mapM f = .ok ys ↔
      ∃ zs zs', xs.mapM f = .ok zs ∧ xs'.mapM f = .ok zs' ∧ zs ++ zs' = ys := by
  simp only [List.mapM_append, bind_eq_ok, pure_eq_ok, exists_and_left]

/-- A step that accepts more, with the same results where the other accepts. -/
theorem mapM_mono {f g : α → Except ε β} (hfg : ∀ x y, f x = .ok y → g x = .ok y) {xs : List α}
    {ys : List β} (h : xs.mapM f = .ok ys) : xs.mapM g = .ok ys :=
  mapM_eq_ok.mpr ((mapM_eq_ok.mp h).imp hfg)

/-- For a list that is given by its positions: the results are given by the same positions. -/
theorem mapM_ofFn_eq_ok {n : Nat} {f : α → Except ε β} {x : Fin n → α} {ys : List β} :
    (List.ofFn x).mapM f = .ok ys ↔
      ∃ y : Fin n → β, ys = List.ofFn y ∧ ∀ i, f (x i) = .ok (y i) := by
  rw [mapM_eq_ok, List.forall₂_iff_get]
  constructor
  · rintro ⟨hlength, hget⟩
    rw [List.length_ofFn] at hlength
    subst hlength
    exact ⟨ys.get, (List.ofFn_get ys).symm, fun i => by simpa using hget i (by simp) i.isLt⟩
  · rintro ⟨y, rfl, hy⟩
    exact ⟨by simp, fun i h _ => by simpa using hy ⟨i, by simpa using h⟩⟩

theorem forM_eq_ok {f : α → Except ε Unit} {xs : List α} :
    xs.forM f = .ok () ↔ ∀ x ∈ xs, f x = .ok () := by
  induction xs with
  | nil => simp [pure_eq_ok]
  | cons x xs ih =>
    show (f x >>= fun _ => xs.forM f) = .ok () ↔ _
    rw [check_bind_eq_ok, List.forall_mem_cons, ih]

/-- The first element with one property, where those before it have another: it is the head, or it
comes later. -/
theorem exists_first_cons {p q : α → Prop} {x : α} {xs : List α} :
    (∃ before y after, x :: xs = before ++ y :: after ∧ p y ∧ ∀ z ∈ before, q z) ↔
      p x ∨ q x ∧ ∃ before y after, xs = before ++ y :: after ∧ p y ∧ ∀ z ∈ before, q z := by
  constructor
  · rintro ⟨before, y, after, heq, hy, hbefore⟩
    cases before with
    | nil =>
      cases heq
      exact Or.inl hy
    | cons z before =>
      cases heq
      rw [List.forall_mem_cons] at hbefore
      exact Or.inr ⟨hbefore.1, before, y, after, rfl, hy, hbefore.2⟩
  · rintro (hx | ⟨hx, before, y, after, rfl, hy, hbefore⟩)
    · exact ⟨[], x, xs, rfl, hx, List.forall_mem_nil _⟩
    · exact ⟨x :: before, y, after, rfl, hy, List.forall_mem_cons.mpr ⟨hx, hbefore⟩⟩

/-- The first element of an image. -/
theorem exists_first_map {p q : β → Prop} {f : α → β} {xs : List α} :
    (∃ before y after, xs.map f = before ++ y :: after ∧ p y ∧ ∀ z ∈ before, q z) ↔
      ∃ before x after, xs = before ++ x :: after ∧ p (f x) ∧ ∀ z ∈ before, q (f z) := by
  induction xs with
  | nil => simp
  | cons x xs ih => rw [List.map_cons, exists_first_cons, exists_first_cons, ih]

theorem exists_first_congr {p p' q q' : α → Prop} {xs : List α} (hp : ∀ x ∈ xs, p x ↔ p' x)
    (hq : ∀ x ∈ xs, q x ↔ q' x) :
    (∃ before y after, xs = before ++ y :: after ∧ p y ∧ ∀ z ∈ before, q z) ↔
      ∃ before y after, xs = before ++ y :: after ∧ p' y ∧ ∀ z ∈ before, q' z := by
  induction xs with
  | nil => simp
  | cons x xs ih =>
    rw [List.forall_mem_cons] at hp hq
    rw [exists_first_cons, exists_first_cons, hp.1, hq.1, ih hp.2 hq.2]

/-- A step is refused for a list as it is for the first element that it is refused for. -/
theorem forM_eq_error_iff {f : α → Except ε Unit} {xs : List α} {e : ε} :
    xs.forM f = .error e ↔ ∃ before x after, xs = before ++ x :: after ∧ f x = .error e ∧
      ∀ y ∈ before, f y = .ok () := by
  induction xs with
  | nil => simp [pure, Except.pure]
  | cons x xs ih =>
    rw [exists_first_cons, ← ih]
    change (f x >>= fun _ => xs.forM f) = .error e ↔ _
    -- an error ends the run; otherwise it goes on with the rest
    cases f x with
    | error e' => simp [bind, Except.bind]
    | ok u => simp [bind, Except.bind]

theorem forM_cons {f : α → Except ε Unit} (x : α) (xs : List α) :
    (x :: xs).forM f = f x >>= fun _ => xs.forM f :=
  rfl

theorem forM_append {f : α → Except ε Unit} (xs xs' : List α) :
    (xs ++ xs').forM f = xs.forM f >>= fun _ => xs'.forM f := by
  induction xs with
  | nil => rfl
  | cons x xs ih =>
    rw [List.cons_append, forM_cons, forM_cons, ih]
    cases f x <;> rfl

theorem forM_map {f : β → Except ε Unit} {g : α → β} (xs : List α) :
    (xs.map g).forM f = xs.forM fun x => f (g x) := by
  induction xs with
  | nil => rfl
  | cons x xs ih => rw [List.map_cons, forM_cons, forM_cons, ih]

theorem forM_flatMap {f : β → Except ε Unit} {g : α → List β} (xs : List α) :
    (xs.flatMap g).forM f = xs.forM fun x => (g x).forM f := by
  induction xs with
  | nil => rfl
  | cons x xs ih => rw [List.flatMap_cons, forM_append, forM_cons, ih]

theorem forM_congr {f g : α → Except ε Unit} {xs : List α} (h : ∀ x ∈ xs, f x = g x) :
    xs.forM f = xs.forM g := by
  induction xs with
  | nil => rfl
  | cons x xs ih =>
    rw [List.forall_mem_cons] at h
    rw [forM_cons, forM_cons, h.1, ih h.2]

theorem map_map_unit {f : α → β} (x : Except ε α) :
    (x.map f).map (fun _ => ()) = x.map fun _ => () := by
  cases x <;> rfl

/-- A step whose results do not count is a check. -/
theorem mapM_map_unit {f : α → Except ε β} (xs : List α) :
    (xs.mapM f).map (fun _ => ()) = xs.forM fun x => (f x).map fun _ => () := by
  induction xs with
  | nil => rfl
  | cons x xs ih =>
    rw [List.mapM_cons, forM_cons, ← ih]
    cases f x with
    | error e => rfl
    | ok y => cases xs.mapM f <;> rfl

/-- Where the elements come in the order of ranks and an error has the rank of its element, the error
of a list is the one of least rank. -/
theorem forM_eq_error_iff_of_pairwise {f : α → Except ε Unit} {xs : List α} {rank : α → Nat}
    {errorRank : ε → Nat} (hsorted : xs.Pairwise fun x y => rank x < rank y)
    (hrank : ∀ x ∈ xs, ∀ e, f x = .error e → errorRank e = rank x) {e : ε} :
    xs.forM f = .error e ↔ (∃ x ∈ xs, f x = .error e) ∧
      ∀ x ∈ xs, ∀ other, f x = .error other → errorRank e ≤ errorRank other := by
  rw [forM_eq_error_iff]
  constructor
  · rintro ⟨before, x, after, rfl, hx, hbefore⟩
    have hmem : x ∈ before ++ x :: after := List.mem_append_right _ List.mem_cons_self
    refine ⟨⟨x, hmem, hx⟩, fun y hy other hother => ?_⟩
    rw [hrank x hmem e hx, hrank y hy other hother]
    rcases List.mem_append.mp hy with hy | hy
    · rw [hbefore y hy] at hother
      cases hother
    · rcases List.mem_cons.mp hy with rfl | hy
      · exact Nat.le_refl _
      · exact Nat.le_of_lt ((List.pairwise_cons.mp (List.pairwise_append.mp hsorted).2.1).1 y hy)
  · rintro ⟨⟨x, hmem, hx⟩, hleast⟩
    obtain ⟨before, after, rfl⟩ := List.append_of_mem hmem
    refine ⟨before, x, after, rfl, hx, fun y hy => ?_⟩
    cases hother : f y with
    | ok u => rfl
    | error other =>
      -- an element before this one has a smaller rank, and so has its error
      have hlt := (List.pairwise_append.mp hsorted).2.2 y hy x List.mem_cons_self
      have hle := hleast y (List.mem_append_left _ hy) other hother
      rw [hrank x hmem e hx, hrank y (List.mem_append_left _ hy) other hother] at hle
      omega

end Specloom
