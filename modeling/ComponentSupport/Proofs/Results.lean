import Mathlib.Data.List.Forall2

/-!
# Results that may be failures

What it takes for a computation over `Except` to succeed: every part of it succeeds. What it takes
to fail: some part fails, and those before it succeed. The proofs of this library take computations
apart by these, and open none of their definitions.
-/

namespace ComponentSupport

variable {ε α β : Type}

@[simp] theorem pure_eq_ok_iff {a b : α} : (pure a : Except ε α) = .ok b ↔ a = b :=
  ⟨Except.ok.inj, fun h => h ▸ rfl⟩

@[simp] theorem pure_eq_error_iff {a : α} {e : ε} : (pure a : Except ε α) = .error e ↔ False :=
  ⟨fun h => (nomatch h), False.elim⟩

theorem ok_bind (a : α) (f : α → Except ε β) : (Except.ok a >>= f) = f a := rfl

@[simp] theorem throw_eq_ok_iff {e : ε} {b : α} : (throw e : Except ε α) = .ok b ↔ False :=
  ⟨fun h => (nomatch h), False.elim⟩

theorem map_eq_ok_iff {x : Except ε α} {f : α → β} {b : β} :
    x.map f = .ok b ↔ ∃ a, x = .ok a ∧ f a = b := by
  cases x with
  | error e => simp [Except.map]
  | ok a => simp [Except.map]

/-- A step that answers its state beside its failure, taken for the state alone. -/
theorem map_snd_eq_ok_iff {step : α × Except ε Unit} {after : α} :
    step.2.map (fun _ => step.1) = .ok after ↔ step = (after, .ok ()) := by
  rw [map_eq_ok_iff]
  constructor
  · rintro ⟨_, hok, hafter⟩
    exact Prod.ext hafter hok
  · rintro rfl
    exact ⟨(), rfl, rfl⟩

theorem mapError_eq_ok_iff {ε' : Type} {x : Except ε α} {f : ε → ε'} {a : α} :
    x.mapError f = .ok a ↔ x = .ok a := by
  cases x with
  | error e => exact ⟨nofun, nofun⟩
  | ok b => exact ⟨fun h => congrArg _ (Except.ok.inj h), fun h => congrArg _ (Except.ok.inj h)⟩

theorem bind_eq_ok_iff {x : Except ε α} {f : α → Except ε β} {b : β} :
    x >>= f = .ok b ↔ ∃ a, x = .ok a ∧ f a = .ok b := by
  cases x with
  | error e => simp [bind, Except.bind]
  | ok a => simp [bind, Except.bind]

theorem map_eq_error_iff {x : Except ε α} {f : α → β} {e : ε} :
    x.map f = .error e ↔ x = .error e := by
  cases x with
  | error e' => simp [Except.map]
  | ok a => simp [Except.map]

theorem bind_eq_error_iff {x : Except ε α} {f : α → Except ε β} {e : ε} :
    x >>= f = .error e ↔ x = .error e ∨ ∃ a, x = .ok a ∧ f a = .error e := by
  cases x with
  | error e' => simp [bind, Except.bind]
  | ok a => simp [bind, Except.bind]

/-- A check comes before the rest. -/
theorem check_bind_eq_ok_iff {check : Except ε Unit} {f : Unit → Except ε β} {b : β} :
    check >>= f = .ok b ↔ check = .ok () ∧ f () = .ok b := by
  rw [bind_eq_ok_iff]
  exact ⟨fun ⟨(), h⟩ => h, fun h => ⟨(), h⟩⟩

/-- A computation fails when it has no value. -/
theorem exists_eq_error_iff {x : Except ε α} : (∃ e, x = .error e) ↔ ¬ ∃ a, x = .ok a := by
  cases x with
  | error e => simp
  | ok a => simp

/-- Two computations of which something is made: when that is forgotten, both are done in order. -/
theorem map_unit_bind_bind {γ : Type} (x : Except ε α) (y : Except ε β) (f : α → β → γ) :
    (do return f (← x) (← y)).map (fun _ => ()) =
      (do x.map fun _ => (); y.map fun _ => ()) := by
  cases x <;> cases y <;> rfl

/-- A check after which nothing can fail. -/
theorem check_bind_ok (check : Except ε Unit) : (check >>= fun _ => .ok ()) = check := by
  cases check <;> rfl

/-- A check that fails in one case and goes on in the other. -/
theorem guard_eq_ok_iff {p : Prop} [Decidable p] {e : ε} {f : Unit → Except ε β}
    {x : Except ε β} {b : β} :
    (if p then (throw e : Except ε Unit) >>= f else x) = .ok b ↔ ¬ p ∧ x = .ok b := by
  split
  · next h => simp [check_bind_eq_ok_iff, h]
  · next h => simp [h]

/-- A check of every element passes when it passes for each. -/
theorem forM_eq_ok_iff {check : α → Except ε Unit} {l : List α} :
    l.forM check = .ok () ↔ ∀ x ∈ l, check x = .ok () := by
  induction l with
  | nil => simp
  | cons x rest ih =>
    rw [List.forM_eq_forM] at ih ⊢
    rw [List.forM_cons, check_bind_eq_ok_iff, List.forall_mem_cons, ih]

/-- A check of every element looks at the last one last. -/
theorem forM_concat (check : α → Except ε Unit) (l : List α) (x : α) :
    (l ++ [x]).forM check = (do l.forM check; check x) := by
  rw [List.forM_eq_forM, List.forM_append]
  simp

/-- A check of every element fails as it does for the first element that it fails for. -/
theorem forM_eq_error_iff {check : α → Except ε Unit} {l : List α} {e : ε} :
    l.forM check = .error e ↔ ∃ before x after, l = before ++ x :: after ∧
      (∀ y ∈ before, check y = .ok ()) ∧ check x = .error e := by
  induction l with
  | nil => simp
  | cons first rest ih =>
    rw [List.forM_eq_forM] at ih ⊢
    rw [List.forM_cons, bind_eq_error_iff]
    constructor
    · rintro (hfirst | ⟨⟨⟩, hfirst, hrest⟩)
      · exact ⟨[], first, rest, rfl, fun _ hy => absurd hy List.not_mem_nil, hfirst⟩
      · obtain ⟨before, x, after, rfl, hbefore, hx⟩ := ih.1 hrest
        exact ⟨first :: before, x, after, rfl, List.forall_mem_cons.2 ⟨hfirst, hbefore⟩, hx⟩
    · rintro ⟨before, x, after, hsplit, hbefore, hx⟩
      cases before with
      | nil =>
        obtain ⟨rfl, rfl⟩ := List.cons.inj hsplit
        exact Or.inl hx
      | cons y before =>
        obtain ⟨rfl, rfl⟩ := List.cons.inj hsplit
        rw [List.forall_mem_cons] at hbefore
        exact Or.inr ⟨(), hbefore.1, ih.2 ⟨before, x, after, rfl, hbefore.2, hx⟩⟩

/-- What is computed for every element is computed for each, in order. -/
theorem mapM_eq_ok_iff {f : α → Except ε β} {l : List α} {results : List β} :
    l.mapM f = .ok results ↔ List.Forall₂ (fun x y => f x = .ok y) l results := by
  induction l generalizing results with
  | nil =>
    rw [List.mapM_nil, pure_eq_ok_iff, List.forall₂_nil_left_iff]
    exact eq_comm
  | cons x rest ih =>
    simp only [List.mapM_cons, bind_eq_ok_iff, ih, pure_eq_ok_iff]
    constructor
    · rintro ⟨y, hy, ys, hys, rfl⟩
      exact .cons hy hys
    · rintro (_ | ⟨hy, hys⟩)
      exact ⟨_, hy, _, hys, rfl⟩

/-- What comes after a computation matters only for the values that it has. -/
theorem bind_congr_ok {x : Except ε α} {f g : α → Except ε β} (h : ∀ a, x = .ok a → f a = g a) :
    x >>= f = x >>= g := by
  cases x with
  | error e => rfl
  | ok a => exact h a rfl

theorem mapM_congr_left {f g : α → Except ε β} {l : List α} (h : ∀ x ∈ l, f x = g x) :
    l.mapM f = l.mapM g := by
  induction l with
  | nil => rfl
  | cons x rest ih =>
    rw [List.forall_mem_cons] at h
    rw [List.mapM_cons, List.mapM_cons, h.1, ih h.2]

end ComponentSupport
