import Mathlib.Data.List.Forall2

/-!
# Computations that succeed

A computation that may fail succeeds exactly if all its parts do, and fails as the first part that
does. This takes computations in sequence apart and puts the success of a traversal together.
-/

namespace OrderOfGrowth

/-- What follows from an effect that succeeds. -/
theorem bind_eq_ok {α β ε : Type} {first : Except ε α} {next : α → Except ε β} {b : β} :
    first >>= next = .ok b ↔ ∃ a, first = .ok a ∧ next a = .ok b := by
  cases first <;> simp [bind, Except.bind]

/-- A result that is changed comes from a result. -/
theorem map_eq_ok {α β ε : Type} {f : α → β} {computed : Except ε α} {b : β} :
    computed.map f = .ok b ↔ ∃ a, computed = .ok a ∧ f a = b := by
  cases computed <;> simp [Except.map]

/-- What follows from an effect matters where the effect succeeds. -/
theorem bind_congr_of_ok {α β ε : Type} {computed : Except ε α} {f g : α → Except ε β}
    (h : ∀ a, computed = .ok a → f a = g a) : computed >>= f = computed >>= g := by
  cases computed with
  | error e => rfl
  | ok a => exact h a rfl

/-- The result of computations in sequence is that of the last one. -/
theorem map_bind_eq {α β γ ε : Type} (computed : Except ε α) (next : α → Except ε β) (f : β → γ) :
    (computed >>= next).map f = computed >>= fun a => (next a).map f := by
  cases computed <;> rfl

/-- A pair is known up to its second component. -/
theorem eq_mk_of_fst_eq {α β : Type} {pair : α × β} {a : α} (h : pair.1 = a) :
    pair = (a, pair.2) := by
  rw [← h]

/-- A computation that is known to succeed has a result. -/
theorem isOk_iff_exists {α ε : Type} {computed : Except ε α} :
    computed.isOk = true ↔ ∃ a, computed = .ok a := by
  cases computed <;> simp [Except.isOk, Except.toBool]

/-- What follows from an effect that fails: its first part or what comes after it has failed. -/
theorem bind_eq_error {α β ε : Type} {first : Except ε α} {next : α → Except ε β} {e : ε} :
    first >>= next = .error e ↔ first = .error e ∨ ∃ a, first = .ok a ∧ next a = .error e := by
  cases first <;> simp [bind, Except.bind]

/-- A traversal succeeds if and only if every step does, with these results. -/
theorem mapM_eq_ok {α β ε : Type} {f : α → Except ε β} {xs : List α} {ys : List β} :
    xs.mapM f = .ok ys ↔ List.Forall₂ (fun x y => f x = .ok y) xs ys := by
  induction xs generalizing ys with
  | nil => simp [pure, Except.pure, eq_comm]
  | cons x xs ih =>
    simp only [List.mapM_cons, bind_eq_ok, List.forall₂_cons_left_iff, ih]
    simp only [pure, Except.pure, Except.ok.injEq, ← exists_and_left, eq_comm]

/-- A traversal succeeds if every step does. -/
theorem exists_mapM {α β ε : Type} {f : α → Except ε β} {xs : List α}
    (h : ∀ x ∈ xs, ∃ y, f x = .ok y) : ∃ ys, xs.mapM f = .ok ys := by
  induction xs with
  | nil => exact ⟨[], rfl⟩
  | cons x xs ih =>
    obtain ⟨y, hy⟩ := h x List.mem_cons_self
    obtain ⟨ys, hys⟩ := ih fun x hx => h x (List.mem_cons_of_mem _ hx)
    exact ⟨y :: ys, mapM_eq_ok.mpr (.cons hy (mapM_eq_ok.mp hys))⟩

/-- What a traversal collects comes from its steps. -/
theorem exists_of_mem_mapM {α β ε : Type} {f : α → Except ε β} {xs : List α} {ys : List β}
    (h : xs.mapM f = .ok ys) {y : β} (hy : y ∈ ys) : ∃ x ∈ xs, f x = .ok y := by
  induction mapM_eq_ok.mp h with
  | nil => exact absurd hy List.not_mem_nil
  | cons hstep hrest ih =>
    rcases List.mem_cons.mp hy with rfl | hmem
    · exact ⟨_, List.mem_cons_self, hstep⟩
    · obtain ⟨x, hx, hfound⟩ := ih (mapM_eq_ok.mpr hrest) hmem
      exact ⟨x, List.mem_cons_of_mem _ hx, hfound⟩

/-- A traversal that fails has failed as one of its steps does. -/
theorem exists_of_mapM_eq_error {α β ε : Type} {f : α → Except ε β} {xs : List α} {e : ε}
    (h : xs.mapM f = .error e) : ∃ x ∈ xs, f x = .error e := by
  induction xs with
  | nil => cases h
  | cons x xs ih =>
    rw [List.mapM_cons, bind_eq_error] at h
    rcases h with hfirst | ⟨y, -, h⟩
    · exact ⟨x, List.mem_cons_self, hfirst⟩
    · rcases bind_eq_error.mp h with hrest | ⟨_, -, h⟩
      · obtain ⟨found, hmem, hfound⟩ := ih hrest
        exact ⟨found, List.mem_cons_of_mem _ hmem, hfound⟩
      · cases h

/-- What every step of a traversal keeps is kept along the list. -/
theorem map_eq_of_mapM {α β γ ε : Type} {f : α → Except ε β} {xs : List α} {ys : List β}
    (h : xs.mapM f = .ok ys) {before : α → γ} {after : β → γ}
    (hstep : ∀ x y, f x = .ok y → after y = before x) : ys.map after = xs.map before := by
  induction mapM_eq_ok.mp h with
  | nil => rfl
  | cons hfirst hrest ih =>
    rw [List.map_cons, List.map_cons, hstep _ _ hfirst, ih (mapM_eq_ok.mpr hrest)]

/-- Of two lists that belong together, every item of the first has its counterpart. -/
theorem exists_of_forall₂ {α β : Type} {R : α → β → Prop} {xs : List α} {ys : List β}
    (h : List.Forall₂ R xs ys) {x : α} (hx : x ∈ xs) : ∃ y, R x y := by
  induction h with
  | nil => cases hx
  | cons hfirst _ ih =>
    rcases List.mem_cons.mp hx with rfl | hmem
    · exact ⟨_, hfirst⟩
    · exact ih hmem

/-- Two relations along lists give one from the first list to the last. -/
theorem forall₂_trans {α β γ : Type} {R : α → β → Prop} {S : β → γ → Prop} {T : α → γ → Prop}
    {xs : List α} {ys : List β} {zs : List γ} (hfirst : List.Forall₂ R xs ys)
    (hsecond : List.Forall₂ S ys zs) (h : ∀ x y z, R x y → S y z → T x z) :
    List.Forall₂ T xs zs := by
  induction hfirst generalizing zs with
  | nil =>
    cases hsecond
    exact .nil
  | cons hx _ ih =>
    cases hsecond with
    | cons hy hrest => exact .cons (h _ _ _ hx hy) (ih hrest)

end OrderOfGrowth
