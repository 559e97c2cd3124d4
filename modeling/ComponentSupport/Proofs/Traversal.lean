import ComponentSupport.Traversal
import Mathlib.Data.Set.Card
import Mathlib.Logic.Relation

/-!
# What a traversal visits

A traversal has a queue in which names may wait twice, references lead back to names that were
visited, and the limit may stop it on the way. This module proves that none of this shows in the
answer: a traversal that ends has visited exactly the names that the frontier reaches
(`Traversal.mem_visited_run`), and it ends exactly when those are no more than the limit allows
(`Traversal.run_eq_none_iff`).

Three facts hold all along the way (`Traversal.Inv`): the frontier is visited or waits, whatever is
visited or waits is reached, and the references of a visited name are visited or wait. Each of the
two steps keeps them. When the queue is empty, the last of them says that the visited names are
closed under references.
-/

namespace ComponentSupport

/-- A set has as many members as it says. -/
theorem NameSet.encard_mem (s : NameSet) : {x | x ∈ s}.encard = s.size := by
  have hset : {x | x ∈ s} = (s.toList.toFinset : Set String) := by
    ext x
    simp [NameSet.mem_def]
  rw [hset, Set.encard_coe_eq_coe_finsetCard, List.toFinset_card_of_nodup s.nodup_toList]
  rfl

namespace Traversal

variable (successors : String → NameSet) (frontier : List String)

/-- Some name of the frontier leads to the name, along any number of references. -/
def Reached (x : String) : Prop :=
  ∃ y ∈ frontier, Relation.ReflTransGen (fun a b => b ∈ successors a) y x

theorem Reached.next {x y : String} (h : Reached successors frontier x) (hy : y ∈ successors x) :
    Reached successors frontier y := by
  obtain ⟨z, hz, hzx⟩ := h
  exact ⟨z, hz, hzx.tail hy⟩

/-- What holds of a traversal on its way from the frontier. -/
structure Inv (t : Traversal) : Prop where
  /-- The frontier is visited or waits. -/
  covers : ∀ x ∈ frontier, x ∈ t.visited ∨ x ∈ t.queue
  /-- Whatever is visited or waits is reached. -/
  reached : ∀ x, x ∈ t.visited ∨ x ∈ t.queue → Reached successors frontier x
  /-- The references of a visited name are visited or wait. -/
  closed : ∀ x ∈ t.visited, ∀ y ∈ successors x, y ∈ t.visited ∨ y ∈ t.queue

variable {successors frontier}

theorem Inv.start : Inv successors frontier (start frontier) where
  covers x hx := Or.inr hx
  reached x hx := by
    rcases hx with hx | hx
    · exact absurd hx (NameSet.not_mem_empty x)
    · exact ⟨x, hx, .refl⟩
  closed x hx := absurd hx (NameSet.not_mem_empty x)

/-- A name that leaves the queue unseen is visited already, so nothing is lost. -/
theorem Inv.skip {t : Traversal} {name : String} {rest : List String}
    (h : Inv successors frontier t) (hq : t.queue = name :: rest) (hname : name ∈ t.visited) :
    Inv successors frontier (t.skip rest) := by
  have hkeep : ∀ x, x ∈ t.visited ∨ x ∈ t.queue → x ∈ t.visited ∨ x ∈ rest := by
    intro x hx
    rw [hq, List.mem_cons] at hx
    rcases hx with hx | rfl | hx
    · exact Or.inl hx
    · exact Or.inl hname
    · exact Or.inr hx
  refine ⟨fun x hx => hkeep x (h.covers x hx), fun x hx => h.reached x ?_,
    fun x hx y hy => hkeep y (h.closed x hx y hy)⟩
  rcases hx with hx | hx
  · exact Or.inl hx
  · exact Or.inr (by rw [hq]; exact List.mem_cons_of_mem name hx)

/-- A visit moves a name from the queue to the visited ones; the references that do not join the
queue were visited before. -/
theorem Inv.visit {t : Traversal} {name : String} {rest : List String}
    (h : Inv successors frontier t) (hq : t.queue = name :: rest) :
    Inv successors frontier (t.visit successors name rest) := by
  have hname : Reached successors frontier name :=
    h.reached name (Or.inr (by rw [hq]; exact List.mem_cons_self))
  have hqueue : ∀ x, x ∈ (t.visit successors name rest).queue ↔
      x ∈ rest ∨ (x ∈ successors name ∧ x ∉ t.visited) := by
    intro x
    simp [Traversal.visit, NameSet.mem_def]
  have hvisited : ∀ x, x ∈ (t.visit successors name rest).visited ↔ x = name ∨ x ∈ t.visited :=
    fun x => NameSet.mem_insert
  have hkeep : ∀ x, x ∈ t.visited ∨ x ∈ t.queue →
      x ∈ (t.visit successors name rest).visited ∨ x ∈ (t.visit successors name rest).queue := by
    intro x hx
    rw [hvisited, hqueue]
    rw [hq, List.mem_cons] at hx
    rcases hx with hx | hx | hx
    · exact Or.inl (Or.inr hx)
    · exact Or.inl (Or.inl hx)
    · exact Or.inr (Or.inl hx)
  refine ⟨fun x hx => hkeep x (h.covers x hx), fun x hx => ?_, fun x hx y hy => ?_⟩
  · rw [hvisited, hqueue] at hx
    rcases hx with (rfl | hx) | hx | ⟨hx, -⟩
    · exact hname
    · exact h.reached x (Or.inl hx)
    · exact h.reached x (Or.inr (by rw [hq]; exact List.mem_cons_of_mem name hx))
    · exact hname.next successors frontier hx
  · rw [hvisited] at hx
    rcases hx with rfl | hx
    · by_cases hold : y ∈ t.visited
      · exact hkeep y (Or.inl hold)
      · exact Or.inr ((hqueue y).2 (Or.inr ⟨hy, hold⟩))
    · exact hkeep y (h.closed x hx y hy)

/-! ### Whole runs -/

/-- A run that ends keeps the invariant, has emptied the queue and has kept to the limit. -/
theorem run_eq_some {limit : Nat} {t last : Traversal} (h : Inv successors frontier t)
    (hsize : t.visited.size ≤ limit) (hrun : run successors limit t = some last) :
    Inv successors frontier last ∧ last.queue = [] ∧ last.visited.size ≤ limit := by
  induction t using run.induct successors limit with
  | case1 t hq =>
    rw [run, hq] at hrun
    obtain rfl : t = last := Option.some.inj hrun
    exact ⟨h, hq, hsize⟩
  | case2 t name rest hq hname ih =>
    rw [run, hq] at hrun
    simp only [if_pos hname] at hrun
    exact ih (h.skip hq hname) hsize hrun
  | case3 t name rest hq hname hlimit =>
    rw [run, hq] at hrun
    simp only [if_neg hname, if_pos hlimit, reduceCtorEq] at hrun
  | case4 t name rest hq hname hlimit ih =>
    rw [run, hq] at hrun
    simp only [if_neg hname, if_neg hlimit] at hrun
    exact ih (h.visit hq) (Nat.le_of_not_lt hlimit) hrun

/-- A run that is stopped has come upon more names than the limit allows. -/
theorem run_eq_none {limit : Nat} {t : Traversal} (h : Inv successors frontier t)
    (hrun : run successors limit t = none) :
    ∃ s : NameSet, limit < s.size ∧ ∀ x ∈ s, Reached successors frontier x := by
  induction t using run.induct successors limit with
  | case1 t hq =>
    rw [run, hq] at hrun
    simp only [reduceCtorEq] at hrun
  | case2 t name rest hq hname ih =>
    rw [run, hq] at hrun
    simp only [if_pos hname] at hrun
    exact ih (h.skip hq hname) hrun
  | case3 t name rest hq hname hlimit =>
    exact ⟨_, hlimit, fun x hx => (h.visit hq).reached x (Or.inl hx)⟩
  | case4 t name rest hq hname hlimit ih =>
    rw [run, hq] at hrun
    simp only [if_neg hname, if_neg hlimit] at hrun
    exact ih (h.visit hq) hrun

/-- **What is visited**: a traversal that ends has visited what its frontier reaches, and no more. -/
theorem mem_visited_run {limit : Nat} {last : Traversal}
    (hrun : run successors limit (.start frontier) = some last) (x : String) :
    x ∈ last.visited ↔ Reached successors frontier x := by
  obtain ⟨hinv, hq, -⟩ := run_eq_some Inv.start (Nat.zero_le limit) hrun
  have hdone : ∀ y, y ∈ last.visited ∨ y ∈ last.queue → y ∈ last.visited := by
    intro y hy
    rw [hq] at hy
    exact hy.resolve_right List.not_mem_nil
  constructor
  · exact fun hx => hinv.reached x (Or.inl hx)
  · rintro ⟨y, hy, hyx⟩
    induction hyx with
    | refl => exact hdone y (hinv.covers y hy)
    | tail _ hz ih => exact hdone _ (hinv.closed _ ih _ hz)

/-- **When it ends**: a traversal is stopped exactly when its frontier reaches more names than the
limit allows. -/
theorem run_eq_none_iff (limit : Nat) :
    run successors limit (.start frontier) = none ↔
      limit < {x | Reached successors frontier x}.encard := by
  constructor
  · intro hrun
    obtain ⟨s, hs, hreached⟩ := run_eq_none Inv.start hrun
    calc (limit : ℕ∞) < s.size := by exact_mod_cast hs
      _ = {x | x ∈ s}.encard := s.encard_mem.symm
      _ ≤ {x | Reached successors frontier x}.encard := Set.encard_le_encard hreached
  · intro hlimit
    cases hrun : run successors limit (.start frontier) with
    | none => rfl
    | some last =>
      obtain ⟨-, -, hsize⟩ := run_eq_some Inv.start (Nat.zero_le limit) hrun
      have hset : {x | Reached successors frontier x} = {x | x ∈ last.visited} :=
        Set.ext fun x => (mem_visited_run hrun x).symm
      rw [hset, NameSet.encard_mem, Nat.cast_lt] at hlimit
      exact absurd hsize (Nat.not_le.2 hlimit)

end Traversal

end ComponentSupport
