import TrustedPlatform.Engine.State

/-!
# How computations come to their end

The engine is written as chains of steps, each of which may stop the chain. The lemmas here take a
chain that came to its end apart into its links, for the two kinds of chains there are: `Except`,
which has no state, and `EStateM`, which keeps its state also when it stops.
-/

namespace Except

variable {ε α β : Type}

/-- A chain gives a value exactly if both of its links do. -/
theorem bind_eq_ok_iff {x : Except ε α} {f : α → Except ε β} {b : β} :
    x >>= f = .ok b ↔ ∃ a, x = .ok a ∧ f a = .ok b := by
  cases x with
  | error e =>
    constructor
    · intro h
      cases h
    · intro hconds
      obtain ⟨a, h, _⟩ := hconds
      cases h
  | ok a =>
    constructor
    · intro h
      exact ⟨a, rfl, h⟩
    · intro hconds
      obtain ⟨_, h, hf⟩ := hconds
      cases h
      exact hf

theorem pure_eq_ok_iff {a b : α} : (pure a : Except ε α) = .ok b ↔ a = b := by
  show Except.ok a = .ok b ↔ a = b
  rw [Except.ok.injEq]

theorem map_eq_ok_iff {x : Except ε α} {f : α → β} {b : β} :
    f <$> x = .ok b ↔ ∃ a, x = .ok a ∧ f a = b := by
  cases x with
  | error e =>
    show Except.error e = .ok b ↔ _
    simp
  | ok a =>
    show Except.ok (f a) = .ok b ↔ _
    simp

theorem throw_eq_ok_iff {e : ε} {a : α} : (throw e : Except ε α) = .ok a ↔ False := by
  show Except.error e = .ok a ↔ False
  simp

end Except

namespace EStateM

variable {ε σ α β : Type}

/-- A chain gives a value exactly if both of its links do, the second from the state the first
leaves. -/
theorem bind_eq_ok_iff {x : EStateM ε σ α} {f : α → EStateM ε σ β} {s t : σ} {b : β} :
    (x >>= f) s = .ok b t ↔ ∃ a m, x s = .ok a m ∧ f a m = .ok b t := by
  show EStateM.bind x f s = .ok b t ↔ _
  unfold EStateM.bind
  cases h : x s with
  | error e m =>
    constructor
    · intro hb
      cases hb
    · intro hconds
      obtain ⟨a, m', ha, _⟩ := hconds
      cases ha
  | ok a m =>
    constructor
    · intro hb
      exact ⟨a, m, rfl, hb⟩
    · intro hconds
      obtain ⟨a', m', ha, hb⟩ := hconds
      cases ha
      exact hb

/-- A chain goes on where its first link ends. -/
theorem bind_of_ok {x : EStateM ε σ α} {f : α → EStateM ε σ β} {s t : σ} {a : α}
    (h : x s = .ok a t) : (x >>= f) s = f a t := by
  show EStateM.bind x f s = _
  rw [EStateM.bind, h]

/-- A chain stops where its first link stops. -/
theorem bind_of_error {x : EStateM ε σ α} {f : α → EStateM ε σ β} {s t : σ} {e : ε}
    (h : x s = .error e t) : (x >>= f) s = .error e t := by
  show EStateM.bind x f s = _
  rw [EStateM.bind, h]

theorem pure_eq_ok_iff {a b : α} {s t : σ} :
    (pure a : EStateM ε σ α) s = .ok b t ↔ a = b ∧ s = t := by
  show EStateM.Result.ok a s = .ok b t ↔ _
  rw [EStateM.Result.ok.injEq]

theorem throw_eq_ok_iff {e : ε} {a : α} {s t : σ} :
    (throw e : EStateM ε σ α) s = .ok a t ↔ False := by
  show EStateM.Result.error e s = .ok a t ↔ False
  simp

/-- A chain goes on past a check exactly if the check passes. -/
theorem ite_throw_bind_eq_ok_iff {c : Prop} [Decidable c] {e : ε} {f : Unit → EStateM ε σ β}
    {s t : σ} {b : β} :
    (if c then throw e >>= f else f ()) s = .ok b t ↔ ¬c ∧ f () s = .ok b t := by
  by_cases h : c
  · rw [if_pos h, bind_eq_ok_iff]
    simp [h, throw_eq_ok_iff]
  · rw [if_neg h]
    simp [h]

/-- A chain whose first link is one of two. -/
theorem ite_bind_eq_ok_iff {c : Prop} [Decidable c] {x y : EStateM ε σ α}
    {f : α → EStateM ε σ β} {s t : σ} {b : β} :
    (if c then x >>= f else y >>= f) s = .ok b t ↔
      ∃ a m, (if c then x else y) s = .ok a m ∧ f a m = .ok b t := by
  by_cases h : c
  · rw [if_pos h, if_pos h, bind_eq_ok_iff]
  · rw [if_neg h, if_neg h, bind_eq_ok_iff]

/-- A chain over a list that comes to its end gives a value for each item. -/
theorem length_of_mapM_eq_ok {f : α → EStateM ε σ β} {items : List α} {results : List β}
    {s t : σ} (h : items.mapM f s = .ok results t) : results.length = items.length := by
  induction items generalizing s t results with
  | nil =>
    obtain ⟨rfl, _⟩ := pure_eq_ok_iff.mp h
    rfl
  | cons item items ih =>
    rw [List.mapM_cons] at h
    obtain ⟨first, _, _, hrest⟩ := bind_eq_ok_iff.mp h
    obtain ⟨others, _, hothers, hpure⟩ := bind_eq_ok_iff.mp hrest
    obtain ⟨rfl, _⟩ := pure_eq_ok_iff.mp hpure
    exact congrArg (· + 1) (ih hothers)

/-- A chain over a list comes to its end if no item stops it. -/
theorem exists_mapM_eq_ok {f : α → EStateM ε σ β} (h : ∀ item s, ∃ b t, f item s = .ok b t)
    (items : List α) (s : σ) : ∃ results t, items.mapM f s = .ok results t := by
  induction items generalizing s with
  | nil => exact ⟨[], s, rfl⟩
  | cons item items ih =>
    obtain ⟨first, middle, hfirst⟩ := h item s
    obtain ⟨others, last, hothers⟩ := ih middle
    refine ⟨first :: others, last, ?_⟩
    rw [List.mapM_cons, bind_of_ok hfirst, bind_of_ok hothers]
    rfl

end EStateM
