import ComponentSupport.Proofs.RecordedFacts
import ComponentSupport.Proofs.Traversal
import Mathlib.Algebra.BigOperators.Group.Finset.Basic
import Mathlib.Algebra.Order.BigOperators.Group.Finset

/-!
# How long a traversal takes

A limit stops a traversal sooner or later, but it is not the reason why a traversal ends. The queue
may grow in a step and may hold a name many times, and references may lead round in circles; still a
name is asked for its references once at most, so no more can come into the queue than the frontier
and the references of the names that were asked.

`Traversal.Counted` is this account: what has left the queue and what waits in it come to no more. A
step that finds its name visited takes a name out, and a visit takes one out and puts in at most the
references that its name brings into the account. `Traversal.ends_within_references` is the main
theorem. Where finitely many names have references, the account has a bound that does not depend on
the way, so that no traversal goes on forever, whatever the limit, and also without one.
-/

namespace ComponentSupport

/-- In a type graph that was built, finitely many types refer to others. -/
theorem TypeGraph.finite_referring (convention : Convention) (facts : List Fact) :
    {s | ∃ t, t ∈ (ofFacts convention facts).referencedTypes s}.Finite := by
  refine (List.finite_toSet ((facts.flatMap Fact.pairs).map Prod.fst)).subset ?_
  rintro s ⟨t, ht⟩
  rw [mem_referencedTypes_ofFacts, ← mem_flatMap_pairs_iff] at ht
  exact List.mem_map.2 ⟨(s, t), ht, rfl⟩

namespace Traversal

/-! ### Steps -/

section steps

variable (successors : String → NameSet)

/-- One step of a traversal that no limit stops: a name leaves the queue, and it is visited if it was
not visited before. -/
inductive Step : Traversal → Traversal → Prop where
  | skip {t : Traversal} {name : String} {rest : List String} :
      t.queue = name :: rest → name ∈ t.visited → Step t (t.skip rest)
  | visit {t : Traversal} {name : String} {rest : List String} :
      t.queue = name :: rest → name ∉ t.visited → Step t (t.visit successors name rest)

/-- Any number of steps. -/
abbrev Steps : Traversal → Traversal → Prop := Relation.ReflTransGen (Step successors)

variable {successors} {limit : Nat} {t : Traversal}

theorem Step.taken {next : Traversal} (h : Step successors t next) : next.taken = t.taken + 1 := by
  cases h <;> rfl

theorem run_of_nil (hq : t.queue = []) : run successors limit t = some t := by
  rw [run, hq]

theorem run_of_visited (name : String) (rest : List String) (hq : t.queue = name :: rest)
    (hname : name ∈ t.visited) :
    run successors limit t = run successors limit (t.skip rest) := by
  rw [run, hq]
  simp only [if_pos hname]

theorem run_of_new (name : String) (rest : List String) (hq : t.queue = name :: rest)
    (hname : name ∉ t.visited) :
    run successors limit t =
      if limit < (t.visit successors name rest).visited.size then none
      else run successors limit (t.visit successors name rest) := by
  rw [run, hq]
  simp only [if_neg hname]

/-- A run makes steps up to where it ends: at an empty queue, or where the limit is passed. -/
theorem exists_steps_run (hsize : t.visited.size ≤ limit) :
    ∃ last, Steps successors t last ∧
      ((run successors limit t = some last ∧ last.queue = []) ∨
        (run successors limit t = none ∧ limit < last.visited.size)) := by
  induction t using run.induct successors limit with
  | case1 t hq => exact ⟨t, .refl, Or.inl ⟨run_of_nil hq, hq⟩⟩
  | case2 t name rest hq hname ih =>
    rw [run_of_visited name rest hq hname]
    obtain ⟨last, hsteps, hlast⟩ := ih hsize
    exact ⟨last, hsteps.head (.skip hq hname), hlast⟩
  | case3 t name rest hq hname hlimit =>
    rw [run_of_new name rest hq hname, if_pos hlimit]
    exact ⟨_, .single (.visit hq hname), Or.inr ⟨rfl, hlimit⟩⟩
  | case4 t name rest hq hname hlimit ih =>
    rw [run_of_new name rest hq hname, if_neg hlimit]
    obtain ⟨last, hsteps, hlast⟩ := ih (Nat.le_of_not_lt hlimit)
    exact ⟨last, hsteps.head (.visit hq hname), hlast⟩

end steps

/-! ### The account -/

/-- How many references the names have, taken together. -/
def outDegree (successors : String → NameSet) (names : List String) : Nat :=
  (names.map fun x => (successors x).size).sum

/-- What is counted of a traversal on its way from the frontier. -/
structure Counted (successors : String → NameSet) (frontier : List String) (t : Traversal) : Prop where
  /-- No name is asked twice. -/
  nodup_asked : t.asked.Nodup
  /-- The names that were asked are those that were visited. -/
  mem_asked : ∀ x, x ∈ t.asked ↔ x ∈ t.visited
  /-- What has left the queue, and what waits in it, came from the frontier or from a name asked. -/
  taken_add_waiting : t.taken + t.queue.length ≤ frontier.length + outDegree successors t.asked

variable {successors : String → NameSet} {frontier : List String}

theorem Counted.start : Counted successors frontier (start frontier) where
  nodup_asked := List.nodup_nil
  mem_asked x := iff_of_false List.not_mem_nil (NameSet.not_mem_empty x)
  taken_add_waiting := by simp [Traversal.start, outDegree]

theorem Counted.skip {t : Traversal} {name : String} {rest : List String}
    (h : Counted successors frontier t) (hq : t.queue = name :: rest) :
    Counted successors frontier (t.skip rest) where
  nodup_asked := h.nodup_asked
  mem_asked := h.mem_asked
  taken_add_waiting := by
    have hcount := h.taken_add_waiting
    rw [hq, List.length_cons] at hcount
    show t.taken + 1 + rest.length ≤ frontier.length + outDegree successors t.asked
    omega

/-- A visit asks a name that was not asked before, so that its references are not in the account
yet. -/
theorem Counted.visit {t : Traversal} {name : String} {rest : List String}
    (h : Counted successors frontier t) (hq : t.queue = name :: rest) (hname : name ∉ t.visited) :
    Counted successors frontier (t.visit successors name rest) where
  nodup_asked := List.nodup_cons.2 ⟨fun hasked => hname ((h.mem_asked name).1 hasked), h.nodup_asked⟩
  mem_asked x := by
    show x ∈ name :: t.asked ↔ x ∈ t.visited.insert name
    rw [List.mem_cons, NameSet.mem_insert, h.mem_asked]
  taken_add_waiting := by
    have hcount := h.taken_add_waiting
    rw [hq, List.length_cons] at hcount
    have hjoining : ((successors name).toList.filter fun s => decide (s ∉ t.visited)).length ≤
        (successors name).size := List.length_filter_le _ _
    have hdegree : outDegree successors (name :: t.asked) =
        (successors name).size + outDegree successors t.asked := List.sum_cons
    show t.taken + 1 +
        (rest ++ (successors name).toList.filter fun s => decide (s ∉ t.visited)).length ≤
      frontier.length + outDegree successors (name :: t.asked)
    rw [List.length_append, hdegree]
    omega

theorem Counted.step {t next : Traversal} (h : Counted successors frontier t)
    (hstep : Step successors t next) : Counted successors frontier next := by
  cases hstep with
  | skip hq _ => exact h.skip hq
  | visit hq hname => exact h.visit hq hname

theorem Counted.of_steps {t : Traversal} (h : Steps successors (.start frontier) t) :
    Counted successors frontier t := by
  induction h with
  | refl => exact .start
  | tail _ hstep ih => exact ih.step hstep

/-- No more names leave the queue than the frontier and the visited names put into it. -/
theorem Counted.taken_le {t : Traversal} (h : Counted successors frontier t) :
    t.taken ≤ frontier.length + outDegree successors t.visited.toList := by
  have hperm : t.asked.Perm t.visited.toList :=
    (List.perm_ext_iff_of_nodup h.nodup_asked t.visited.nodup_toList).2 h.mem_asked
  have hdegree : outDegree successors t.asked = outDegree successors t.visited.toList :=
    (hperm.map _).sum_eq
  have hcount := h.taken_add_waiting
  omega

/-! ### The end -/

/-- Distinct names have no more references than all names have together. -/
theorem outDegree_le (hfinite : {x | ∃ y, y ∈ successors x}.Finite) {names : List String}
    (hnames : names.Nodup) :
    outDegree successors names ≤ ∑ x ∈ hfinite.toFinset, (successors x).size := by
  rw [outDegree, ← List.sum_toFinset _ hnames]
  refine Finset.sum_le_sum_of_ne_zero fun x _ hx => ?_
  rw [Set.Finite.mem_toFinset]
  exact List.exists_mem_of_length_pos (Nat.pos_of_ne_zero hx)

/-- Steps from the frontier come to an end. -/
theorem exists_not_step (hfinite : {x | ∃ y, y ∈ successors x}.Finite) {states : Nat → Traversal}
    (hstart : states 0 = start frontier) : ∃ n, ¬ Step successors (states n) (states (n + 1)) := by
  by_contra hforever
  simp only [not_exists, not_not] at hforever
  have hsteps : ∀ n, Steps successors (start frontier) (states n) ∧ (states n).taken = n := by
    intro n
    induction n with
    | zero =>
      rw [hstart]
      exact ⟨.refl, rfl⟩
    | succ n ih => exact ⟨ih.1.tail (hforever n), by rw [(hforever n).taken, ih.2]⟩
  obtain ⟨hreached, htaken⟩ :=
    hsteps (frontier.length + ∑ x ∈ hfinite.toFinset, (successors x).size + 1)
  have hcount := (Counted.of_steps hreached).taken_add_waiting
  have hbound := outDegree_le hfinite (Counted.of_steps hreached).nodup_asked
  omega

/-- **How long a traversal takes**, where finitely many names have references. Steps from a frontier
come to an end, also if no limit stops them. All along the way no name is asked for its references
twice, and the names that have left the queue are no more than the frontier and the references of the
visited names. Whatever the limit, a run is some steps on this way. -/
theorem ends_within_references (hfinite : {x | ∃ y, y ∈ successors x}.Finite)
    (frontier : List String) :
    (∀ states : Nat → Traversal, states 0 = start frontier →
      ∃ n, ¬ Step successors (states n) (states (n + 1))) ∧
    (∀ t, Steps successors (start frontier) t →
      t.asked.Nodup ∧ (∀ x, x ∈ t.asked ↔ x ∈ t.visited) ∧
        t.taken ≤ frontier.length + outDegree successors t.visited.toList) ∧
    ∀ limit, ∃ last, Steps successors (start frontier) last ∧
      ((run successors limit (start frontier) = some last ∧ last.queue = []) ∨
        (run successors limit (start frontier) = none ∧ limit < last.visited.size)) := by
  refine ⟨fun states hstart => exists_not_step hfinite hstart, fun t ht => ?_, fun limit => ?_⟩
  · have hcounted := Counted.of_steps ht
    exact ⟨hcounted.nodup_asked, hcounted.mem_asked, hcounted.taken_le⟩
  · exact exists_steps_run (Nat.zero_le limit)

/-- All of three types refer to one of them, which also leads back to another: it joins the queue three
times, and is asked once. -/
theorem ends_within_references_circle :
    let g := TypeGraph.ofFacts .dot
      [.reference "p.A" "p.B", .reference "p.A" "p.C", .reference "p.B" "p.C",
        .reference "p.C" "p.C", .reference "p.C" "p.B"]
    let frontier := (g.referencedTypes "p.A").toList
    {x | ∃ y, y ∈ g.referencedTypes x}.Finite ∧
      ∃ last, run g.referencedTypes 2 (.start frontier) = some last ∧ last.asked.Nodup ∧
        last.taken ≤ frontier.length + outDegree g.referencedTypes last.visited.toList := by
  intro g frontier
  have hfinite : {x | ∃ y, y ∈ g.referencedTypes x}.Finite := TypeGraph.finite_referring _ _
  have hends : (run g.referencedTypes 2 (.start frontier)).isSome = true := by
    rw [run_of_new "p.B" ["p.C"] (by decide) (by decide), if_neg (by decide),
      run_of_new "p.C" ["p.C"] (by decide) (by decide), if_neg (by decide),
      run_of_visited "p.C" ["p.C"] (by decide) (by decide),
      run_of_visited "p.C" [] (by decide) (by decide), run_of_nil (by decide)]
    rfl
  obtain ⟨-, hcounts, hruns⟩ := ends_within_references hfinite frontier
  obtain ⟨last, hsteps, ⟨hlast, -⟩ | ⟨hnone, -⟩⟩ := hruns 2
  · obtain ⟨hasked, -, htaken⟩ := hcounts last hsteps
    exact ⟨hfinite, last, hlast, hasked, htaken⟩
  · rw [hnone] at hends
    cases hends

end Traversal

end ComponentSupport
