import Mathlib.Data.Finset.Sort
import Mathlib.Data.List.DropRight
import Mathlib.Data.List.Nodup
import Mathlib.Logic.Relation
import Mathlib.Order.Preorder.Finite
import Mathlib.Order.WellFoundedSet

/-!
# Kahn's algorithm

A relation says which elements of a finite set have to come before which others. The algorithm
keeps a stack of the elements whose prerequisites are all done, takes the top one, and pushes the
elements this makes ready. Among the elements that become ready at the same time the least one
comes first; among those that are ready at the start, the greatest.

## Main definitions

- `Kahn.Ready`, `Kahn.PrereqsFirst` — the elements that can come next, the orders that are valid
- `Kahn.order` — the order the algorithm finds
- `Kahn.Progress` — the invariant of a run
- `Kahn.Stable` — the valid orders that the algorithm finds

## Main results

- `Kahn.progress_order` — what the order contains, without repetitions and validly ordered
- `Kahn.length_order_iff_acyclic` — it is complete if and only if the relation has no cycle
- `Kahn.order_eq_iff` — which valid order it is
-/

namespace Kahn

variable {α : Type*} {V : Finset α} {E : α → α → Prop}

/-- All prerequisites of `v` are done. -/
def Ready (E : α → α → Prop) (done : List α) (v : α) : Prop := ∀ u, E u v → u ∈ done

/-- Every element comes after all its prerequisites. -/
def PrereqsFirst (E : α → α → Prop) (order : List α) : Prop :=
  ∀ pre v post, order = pre ++ v :: post → Ready E pre v

open scoped Classical in
/-- The elements that can come first. -/
noncomputable def sources (V : Finset α) (E : α → α → Prop) : Finset α :=
  V.filter fun v => Ready E [] v

open scoped Classical in
/-- The elements that become ready once `v` is done after `done`. -/
noncomputable def newlyReady (V : Finset α) (E : α → α → Prop) (done : List α) (v : α) :
    Finset α :=
  V.filter fun w => E v w ∧ Ready E (done ++ [v]) w

theorem mem_sources {v : α} : v ∈ sources V E ↔ v ∈ V ∧ Ready E [] v := by
  classical
  exact Finset.mem_filter

theorem mem_newlyReady {done : List α} {v w : α} :
    w ∈ newlyReady V E done v ↔ w ∈ V ∧ E v w ∧ Ready E (done ++ [v]) w := by
  classical
  exact Finset.mem_filter

theorem Ready.mono {done done' : List α} {v : α} (h : Ready E done v)
    (hsub : ∀ u ∈ done, u ∈ done') : Ready E done' v :=
  fun u hu => hsub u (h u hu)

theorem prereqsFirst_nil : PrereqsFirst E [] := by
  intro pre v post h
  simp at h

theorem PrereqsFirst.snoc {done : List α} {v : α} (h : PrereqsFirst E done)
    (hv : Ready E done v) : PrereqsFirst E (done ++ [v]) := by
  intro pre w post heq
  rcases List.eq_nil_or_concat post with rfl | ⟨post', x, rfl⟩
  · have hpw : done = pre ∧ v = w := by simpa using List.append_inj' heq rfl
    rw [← hpw.1, ← hpw.2]
    exact hv
  · have hd : done = pre ++ w :: post' ∧ v = x := by
      have hassoc : done ++ [v] = (pre ++ w :: post') ++ [x] := by simpa using heq
      simpa using List.append_inj' hassoc rfl
    exact h pre w post' hd.1

theorem PrereqsFirst.ready {done : List α} {v : α} (h : PrereqsFirst E done) (hv : v ∈ done) :
    Ready E done v := by
  obtain ⟨pre, post, heq⟩ := List.append_of_mem hv
  apply (h pre v post heq).mono
  intro u hu
  rw [heq]
  exact List.mem_append_left _ hu

/-- In a valid order without repetitions a prerequisite stands strictly before. -/
theorem PrereqsFirst.idxOf_lt [DecidableEq α] {l : List α} (h : PrereqsFirst E l) (hl : l.Nodup)
    {u v : α} (hv : v ∈ l) (hE : E u v) : l.idxOf u < l.idxOf v := by
  obtain ⟨pre, post, rfl⟩ := List.append_of_mem hv
  have hu : u ∈ pre := h pre v post rfl u hE
  have hvp : v ∉ pre := fun hp => (List.nodup_append.mp hl).2.2 v hp v List.mem_cons_self rfl
  rw [List.idxOf_append_of_mem hu, List.idxOf_append_of_notMem hvp, List.idxOf_cons_self]
  have hlt : pre.idxOf u < pre.length := List.idxOf_lt_length_of_mem hu
  omega

/-- A relation with a complete order has no cycle. -/
theorem PrereqsFirst.acyclic [DecidableEq α] {l : List α} (h : PrereqsFirst E l) (hl : l.Nodup)
    (hall : ∀ u v, E u v → v ∈ l) (v : α) : ¬ Relation.TransGen E v v := by
  have hlt : ∀ a b, Relation.TransGen E a b → l.idxOf a < l.idxOf b := by
    intro a b hab
    induction hab with
    | single hE => exact h.idxOf_lt hl (hall _ _ hE) hE
    | tail _ hE ih => exact ih.trans (h.idxOf_lt hl (hall _ _ hE) hE)
  intro hcycle
  exact lt_irrefl _ (hlt v v hcycle)

/-- In a finite set in which everything has a predecessor, there is a cycle. -/
theorem exists_cycle {S : Finset α} (hne : S.Nonempty) (hS : ∀ v ∈ S, ∃ u ∈ S, E u v) :
    ∃ v, Relation.TransGen E v v := by
  by_contra hno
  have hirr : ∀ v, ¬ Relation.TransGen E v v := fun v hv => hno ⟨v, hv⟩
  have : IsStrictOrder α (Relation.TransGen E) :=
    { irrefl := hirr, trans := fun _ _ _ => Relation.TransGen.trans }
  have hwf : (S : Set α).WellFoundedOn (Relation.TransGen E) := S.wellFoundedOn
  obtain ⟨v, hv⟩ := hne
  obtain ⟨m, -, hmin⟩ := hwf.has_min Set.univ ⟨⟨v, hv⟩, trivial⟩
  obtain ⟨u, hu, hE⟩ := hS m.1 m.2
  exact hmin ⟨u, hu⟩ trivial (.single hE)

/-- What holds between two rounds: the stack and the order hold the elements that are ready,
each of them once. -/
structure Progress (V : Finset α) (E : α → α → Prop) (stack done : List α) : Prop where
  nodup : (stack ++ done).Nodup
  mem_iff : ∀ v, v ∈ stack ∨ v ∈ done ↔ v ∈ V ∧ Ready E done v
  first : PrereqsFirst E done

namespace Progress

variable {stack done : List α} {v : α}

theorem ready_head (h : Progress V E (v :: stack) done) : v ∈ V ∧ Ready E done v :=
  (h.mem_iff v).mp (Or.inl List.mem_cons_self)

theorem head_notMem (h : Progress V E (v :: stack) done) : v ∉ done := by
  intro hv
  have hnd := h.nodup
  rw [List.cons_append, List.nodup_cons] at hnd
  exact hnd.1 (List.mem_append_right _ hv)

/-- What becomes ready with the top of the stack was not ready before. -/
theorem not_ready_of_newlyReady (h : Progress V E (v :: stack) done) {w : α}
    (hw : w ∈ newlyReady V E done v) : ¬ Ready E done w := by
  intro hr
  have hE : E v w := (mem_newlyReady.mp hw).2.1
  exact h.head_notMem (hr v hE)

theorem subset (h : Progress V E stack done) {w : α} (hw : w ∈ stack ++ done) : w ∈ V :=
  ((h.mem_iff w).mp (List.mem_append.mp hw)).1

end Progress

variable [LinearOrder α]

/-- The rounds of the algorithm. The stack has its top first. -/
noncomputable def run (V : Finset α) (E : α → α → Prop) : ℕ → List α → List α → List α
  | 0, _, done => done
  | _ + 1, [], done => done
  | fuel + 1, v :: stack, done =>
    run V E fuel ((newlyReady V E done v).sort (· ≤ ·) ++ stack) (done ++ [v])

/-- The order the algorithm finds. -/
noncomputable def order (V : Finset α) (E : α → α → Prop) : List α :=
  run V E V.card ((sources V E).sort (· ≥ ·)) []

namespace Progress

variable {stack done : List α} {v : α}

/-- The run starts with the elements that have no prerequisites. -/
theorem init : Progress V E ((sources V E).sort (· ≥ ·)) [] where
  nodup := by
    rw [List.append_nil]
    exact Finset.sort_nodup _ _
  mem_iff v := by simp [mem_sources]
  first := prereqsFirst_nil

/-- A round keeps the invariant. -/
theorem step (h : Progress V E (v :: stack) done) :
    Progress V E ((newlyReady V E done v).sort (· ≤ ·) ++ stack) (done ++ [v]) where
  nodup := by
    have hperm : (((newlyReady V E done v).sort (· ≤ ·) ++ stack) ++ (done ++ [v])).Perm
        ((newlyReady V E done v).sort (· ≤ ·) ++ (v :: stack ++ done)) := by
      rw [List.append_assoc, List.perm_append_left_iff, ← List.append_assoc]
      exact List.perm_append_comm
    rw [hperm.nodup_iff]
    apply List.Nodup.append (Finset.sort_nodup _ _) h.nodup
    intro w hw hw'
    have hr : Ready E done w := ((h.mem_iff w).mp (List.mem_append.mp hw')).2
    exact h.not_ready_of_newlyReady ((Finset.mem_sort _).mp hw) hr
  mem_iff w := by
    have hold := h.mem_iff w
    constructor
    · intro hw
      by_cases hnew : w ∈ newlyReady V E done v
      · have hmem := mem_newlyReady.mp hnew
        exact ⟨hmem.1, hmem.2.2⟩
      · have hw' : w ∈ v :: stack ∨ w ∈ done := by
          simp only [List.mem_append, Finset.mem_sort, List.mem_cons] at hw ⊢
          tauto
        exact ⟨(hold.mp hw').1, (hold.mp hw').2.mono fun u hu => List.mem_append_left _ hu⟩
    · rintro ⟨hV, hr⟩
      by_cases hrd : Ready E done w
      · have hw' := hold.mpr ⟨hV, hrd⟩
        simp only [List.mem_append, List.mem_cons] at hw' ⊢
        tauto
      · have hE : E v w := by
          by_contra hno
          apply hrd
          intro u hu
          rcases List.mem_append.mp (hr u hu) with hd | hd
          · exact hd
          · rw [List.mem_singleton.mp hd] at hu
            exact absurd hu hno
        have hnew : w ∈ newlyReady V E done v := mem_newlyReady.mpr ⟨hV, hE, hr⟩
        exact Or.inl (List.mem_append_left _ ((Finset.mem_sort _).mpr hnew))
  first := h.first.snoc h.ready_head.2

/-- There are never more elements on the stack and in the order than in the set. -/
theorem length_le (h : Progress V E stack done) : stack.length + done.length ≤ V.card := by
  rw [← List.length_append, ← List.toFinset_card_of_nodup h.nodup]
  apply Finset.card_le_card
  intro w hw
  exact h.subset (List.mem_toFinset.mp hw)

/-- With as many rounds as elements are missing the run ends with an empty stack. -/
theorem run (h : Progress V E stack done) {fuel : ℕ} (hf : V.card ≤ fuel + done.length) :
    Progress V E [] (run V E fuel stack done) := by
  induction fuel generalizing stack done with
  | zero =>
    have hlen := h.length_le
    have hstack : stack = [] := List.length_eq_zero_iff.mp (by omega)
    subst hstack
    exact h
  | succ fuel ih =>
    cases stack with
    | nil => exact h
    | cons v stack =>
      apply ih h.step
      rw [List.length_append, List.length_singleton]
      omega

end Progress

/-- The order contains an element exactly if it contains all its prerequisites. -/
theorem progress_order : Progress V E [] (order V E) :=
  Progress.init.run (Nat.le_add_right _ _)

theorem nodup_order : (order V E).Nodup := progress_order.nodup

theorem prereqsFirst_order : PrereqsFirst E (order V E) := progress_order.first

theorem mem_order_iff {v : α} : v ∈ order V E ↔ v ∈ V ∧ Ready E (order V E) v := by
  have h := progress_order.mem_iff (V := V) (E := E) v
  simpa using h

/-- The order is complete exactly if it has as many elements as the set. -/
theorem length_order_iff : (order V E).length = V.card ↔ ∀ v ∈ V, v ∈ order V E := by
  have hsub : (order V E).toFinset ⊆ V := fun w hw =>
    (mem_order_iff.mp (List.mem_toFinset.mp hw)).1
  rw [← List.toFinset_card_of_nodup nodup_order]
  constructor
  · intro hcard v hv
    rw [← Finset.eq_of_subset_of_card_le hsub hcard.ge] at hv
    exact List.mem_toFinset.mp hv
  · intro hall
    apply congrArg Finset.card
    exact hsub.antisymm fun v hv => List.mem_toFinset.mpr (hall v hv)

/-- The order is complete exactly if the relation has no cycle. -/
theorem length_order_iff_acyclic (hE : ∀ u v, E u v → u ∈ V ∧ v ∈ V) :
    (order V E).length = V.card ↔ ∀ v, ¬ Relation.TransGen E v v := by
  rw [length_order_iff]
  constructor
  · intro hall
    exact prereqsFirst_order.acyclic nodup_order fun u v h => hall v (hE u v h).2
  · intro hacyclic
    by_contra hno
    have hne : (V.filter fun v => v ∉ order V E).Nonempty := by
      push Not at hno
      obtain ⟨v, hv, hvo⟩ := hno
      exact ⟨v, Finset.mem_filter.mpr ⟨hv, hvo⟩⟩
    obtain ⟨v, hcycle⟩ := exists_cycle (E := E) hne (by
      intro v hv
      have hmem := Finset.mem_filter.mp hv
      have hnr : ¬ Ready E (order V E) v := fun hr => hmem.2 (mem_order_iff.mpr ⟨hmem.1, hr⟩)
      simp only [Ready, not_forall] at hnr
      obtain ⟨u, hu, huo⟩ := hnr
      exact ⟨u, Finset.mem_filter.mpr ⟨(hE u v hu).1, huo⟩, hu⟩)
    exact hacyclic v hcycle

section Stability

variable [DecidableRel E] {ds : List α}

/-- After how many elements of `ds` the element `v` is ready: up to its last prerequisite. -/
def readyAt (E : α → α → Prop) [DecidableRel E] (ds : List α) (v : α) : ℕ :=
  (ds.rdropWhile fun u => ¬ E u v).length

/-- Between two elements that are ready: the one that became ready later comes first. Among
elements that are ready at the start it is the greater one, else the smaller one. -/
def Outranks (E : α → α → Prop) [DecidableRel E] (ds : List α) (v w : α) : Prop :=
  readyAt E ds w < readyAt E ds v ∨
    readyAt E ds v = readyAt E ds w ∧ if readyAt E ds v = 0 then w < v else v < w

/-- Each element outranks the later ones that are ready when its turn comes. -/
def Stable (E : α → α → Prop) [DecidableRel E] (ds : List α) : Prop :=
  ∀ i j, (hij : i < j) → (hj : j < ds.length) → readyAt E ds ds[j] ≤ i →
    Outranks E ds ds[i] ds[j]

theorem Outranks.asymm {v w : α} (h : Outranks E ds v w) : ¬ Outranks E ds w v := by
  intro h'
  rcases h with hlt | ⟨heq, hname⟩
  · rcases h' with hlt' | ⟨heq', -⟩
    · exact lt_asymm hlt hlt'
    · omega
  · rcases h' with hlt' | ⟨-, hname'⟩
    · omega
    · rw [heq] at hname
      by_cases hz : readyAt E ds w = 0
      · rw [if_pos hz] at hname hname'
        exact lt_asymm hname hname'
      · rw [if_neg hz] at hname hname'
        exact lt_asymm hname hname'

omit [LinearOrder α] in
theorem readyAt_le_iff {v : α} {k : ℕ} : readyAt E ds v ≤ k ↔ ∀ u ∈ ds.drop k, ¬ E u v := by
  induction ds using List.reverseRecOn with
  | nil => simp [readyAt]
  | append_singleton ds x ih =>
    by_cases hx : E x v
    · rw [readyAt, List.rdropWhile_concat_neg _ _ _ (by simpa using hx), List.length_append,
        List.length_singleton]
      constructor
      · intro hk u hu
        rw [List.drop_eq_nil_of_le (by simpa using hk)] at hu
        exact absurd hu List.not_mem_nil
      · intro hall
        by_contra hk
        apply hall x _ hx
        rw [List.drop_append_of_le_length (by omega)]
        exact List.mem_append_right _ (List.mem_singleton_self x)
    · rw [readyAt, List.rdropWhile_concat_pos _ _ _ (by simpa using hx)]
      apply ih.trans
      rw [List.drop_append]
      constructor
      · intro hall u hu
        rcases List.mem_append.mp hu with hd | hd
        · exact hall u hd
        · rw [List.mem_singleton.mp (List.mem_of_mem_drop hd)]
          exact hx
      · intro hall u hu
        exact hall u (List.mem_append_left _ hu)

omit [LinearOrder α] in
theorem readyAt_le_iff_ready (hds : ds.Nodup) {v : α} (hv : ∀ u, E u v → u ∈ ds) {k : ℕ} :
    readyAt E ds v ≤ k ↔ Ready E (ds.take k) v := by
  rw [readyAt_le_iff]
  have hnd := hds
  rw [← List.take_append_drop k ds, List.nodup_append] at hnd
  constructor
  · intro hall u hu
    have hmem := hv u hu
    rw [← List.take_append_drop k ds, List.mem_append] at hmem
    exact hmem.resolve_right fun hd => hall u hd hu
  · intro hr u hd hu
    exact hnd.2.2 u (hr u hu) u hd rfl

omit [DecidableRel E] in
theorem prefix_run {fuel : ℕ} {stack done : List α} : done <+: run V E fuel stack done := by
  induction fuel generalizing stack done with
  | zero => exact List.prefix_rfl
  | succ fuel ih =>
    cases stack with
    | nil => exact List.prefix_rfl
    | cons v stack => exact (List.prefix_append done [v]).trans ih

/-- What becomes ready in a round outranks what was ready before, and is pushed in order. -/
theorem pairwise_step (hds : ds.Nodup) (hV : ∀ v ∈ V, ∀ u, E u v → u ∈ ds) {k : ℕ}
    (hk : k < ds.length) {stack : List α} (h : Progress V E (ds[k] :: stack) (ds.take k))
    (hs : stack.Pairwise (Outranks E ds)) :
    ((newlyReady V E (ds.take k) ds[k]).sort (· ≤ ·) ++ stack).Pairwise (Outranks E ds) := by
  have hnew : ∀ w ∈ (newlyReady V E (ds.take k) ds[k]).sort (· ≤ ·), readyAt E ds w = k + 1 := by
    intro w hw
    have hmem := (Finset.mem_sort _).mp hw
    have hpre := hV w (mem_newlyReady.mp hmem).1
    have hle : readyAt E ds w ≤ k + 1 := by
      rw [readyAt_le_iff_ready hds hpre, List.take_succ_eq_append_getElem hk]
      exact (mem_newlyReady.mp hmem).2.2
    have hgt : ¬ readyAt E ds w ≤ k := by
      rw [readyAt_le_iff_ready hds hpre]
      exact h.not_ready_of_newlyReady hmem
    omega
  have hold : ∀ w ∈ stack, readyAt E ds w ≤ k := by
    intro w hw
    have hw' := (h.mem_iff w).mp (Or.inl (List.mem_cons_of_mem _ hw))
    exact (readyAt_le_iff_ready hds (hV w hw'.1)).mpr hw'.2
  rw [List.pairwise_append]
  refine ⟨?_, hs, fun v hv w hw => Or.inl ?_⟩
  · have hsorted := Finset.sortedLT_sort (newlyReady V E (ds.take k) ds[k])
    apply hsorted.pairwise.imp_of_mem
    intro v w hv hw hlt
    refine Or.inr ⟨(hnew v hv).trans (hnew w hw).symm, ?_⟩
    rw [if_neg (by rw [hnew v hv]; omega)]
    exact hlt
  · rw [hnew v hv]
    exact Nat.lt_succ_of_le (hold w hw)

omit [LinearOrder α] in
/-- An element that is ready and does not stand among the first `k` is on the stack. -/
theorem mem_stack_of_readyAt (hds : ds.Nodup) (hV : ∀ v ∈ V, ∀ u, E u v → u ∈ ds) {k : ℕ}
    {stack : List α} (h : Progress V E stack (ds.take k)) {j : ℕ} (hj : j < ds.length)
    (hjV : ds[j] ∈ V) (hready : readyAt E ds ds[j] ≤ k) (hkj : k ≤ j) : ds[j] ∈ stack := by
  rw [readyAt_le_iff_ready hds (hV _ hjV)] at hready
  apply ((h.mem_iff ds[j]).mpr ⟨hjV, hready⟩).resolve_right
  intro htake
  obtain ⟨i, hi, heq⟩ := List.mem_take_iff_getElem.mp htake
  have hij : i = j := (List.Nodup.getElem_inj_iff hds).mp heq
  omega

/-- From a state that agrees with a valid order so far, the run ends in it exactly if each
element from there on outranks the later ones that are ready. -/
theorem run_eq_iff (hds : ds.Nodup) (hmem : ∀ v, v ∈ ds ↔ v ∈ V) (hfirst : PrereqsFirst E ds)
    {fuel k : ℕ} (hk : k + fuel = ds.length) {stack : List α}
    (h : Progress V E stack (ds.take k)) (hs : stack.Pairwise (Outranks E ds)) :
    run V E fuel stack (ds.take k) = ds ↔
      ∀ i j, k ≤ i → (hij : i < j) → (hj : j < ds.length) → readyAt E ds ds[j] ≤ i →
        Outranks E ds ds[i] ds[j] := by
  have hpre : ∀ v ∈ V, ∀ u, E u v → u ∈ ds := fun v hv u hu =>
    hfirst.ready ((hmem v).mpr hv) u hu
  induction fuel generalizing k stack with
  | zero =>
    rw [run, List.take_of_length_le (by omega)]
    exact ⟨fun _ i j hi hij hj => by omega, fun _ => rfl⟩
  | succ fuel ih =>
    have hkl : k < ds.length := by omega
    have hself : readyAt E ds ds[k] ≤ k := by
      rw [readyAt_le_iff_ready hds (hpre _ ((hmem _).mp (List.getElem_mem hkl)))]
      apply hfirst (ds.take k) ds[k] (ds.drop (k + 1))
      rw [List.getElem_cons_drop, List.take_append_drop]
    have hkin := mem_stack_of_readyAt hds hpre h hkl ((hmem _).mp (List.getElem_mem hkl)) hself
      le_rfl
    cases stack with
    | nil => exact absurd hkin List.not_mem_nil
    | cons v rest =>
      by_cases hv : v = ds[k]
      · subst hv
        have hrest := hs.of_cons
        have hstep := ih (show k + 1 + fuel = ds.length by omega)
          (by rw [List.take_succ_eq_append_getElem hkl]; exact h.step)
          (pairwise_step hds hpre hkl h hrest)
        rw [List.take_succ_eq_append_getElem hkl] at hstep
        rw [run]
        apply hstep.trans
        constructor
        · intro hall i j hi hij hj hrj
          by_cases hik : i = k
          · subst hik
            have hin := mem_stack_of_readyAt hds hpre h hj ((hmem _).mp (List.getElem_mem hj)) hrj
              hij.le
            rcases List.mem_cons.mp hin with heq | hin
            · have hji : j = i := (List.Nodup.getElem_inj_iff hds).mp heq
              omega
            · exact List.rel_of_pairwise_cons hs hin
          · exact hall i j (by omega) hij hj hrj
        · intro hall i j hi
          exact hall i j (by omega)
      · constructor
        · intro hrun
          have hprefix : ds.take k ++ [v] <+: ds := by
            conv_rhs => rw [← hrun, run]
            exact prefix_run
          obtain ⟨t, ht⟩ := hprefix
          apply absurd _ hv
          have hlen : (ds.take k).length = k := List.length_take_of_le hkl.le
          have hget : ds[k]? = some v := by
            rw [← ht, List.append_assoc, List.getElem?_append_right (by omega), hlen]
            simp
          exact (List.getElem?_eq_some_iff.mp hget).2.symm
        · intro hall
          have hv' := h.ready_head
          obtain ⟨j, hj, heq⟩ := List.mem_iff_getElem.mp ((hmem v).mpr hv'.1)
          have hkj : k < j := by
            by_contra hle
            have hjk : j ≠ k := fun hjk => hv (by subst hjk; exact heq.symm)
            apply h.head_notMem
            rw [← heq]
            exact List.mem_take_iff_getElem.mpr ⟨j, by omega, rfl⟩
          have hrj : readyAt E ds ds[j] ≤ k := by
            rw [heq, readyAt_le_iff_ready hds (hpre v hv'.1)]
            exact hv'.2
          have hout := hall k j le_rfl hkj hj hrj
          rw [heq] at hout
          have hin : ds[k] ∈ rest :=
            (List.mem_cons.mp hkin).resolve_left fun h => hv h.symm
          exact absurd (List.rel_of_pairwise_cons hs hin) hout.asymm

/-- The algorithm finds a valid order if and only if the order is stable in this sense. -/
theorem order_eq_iff (hds : ds.Nodup) (hmem : ∀ v, v ∈ ds ↔ v ∈ V)
    (hfirst : PrereqsFirst E ds) : order V E = ds ↔ Stable E ds := by
  have hcard : V.card = ds.length := by
    rw [← List.toFinset_card_of_nodup hds]
    apply congrArg Finset.card
    ext v
    rw [List.mem_toFinset, hmem]
  have hstart : ((sources V E).sort (· ≥ ·)).Pairwise (Outranks E ds) := by
    have hzero : ∀ v ∈ (sources V E).sort (· ≥ ·), readyAt E ds v = 0 := by
      intro v hv
      have hr := (mem_sources.mp ((Finset.mem_sort _).mp hv)).2
      apply Nat.le_zero.mp
      rw [readyAt_le_iff_ready hds fun u hu => absurd (hr u hu) List.not_mem_nil]
      exact hr
    apply (Finset.sortedGT_sort (sources V E)).pairwise.imp_of_mem
    intro v w hv hw hgt
    refine Or.inr ⟨(hzero v hv).trans (hzero w hw).symm, ?_⟩
    rw [if_pos (hzero v hv)]
    exact hgt
  have hrun := run_eq_iff hds hmem hfirst (show 0 + V.card = ds.length by omega)
    (by rw [List.take_zero]; exact Progress.init) hstart
  rw [List.take_zero] at hrun
  apply hrun.trans
  constructor
  · intro hall i j hij hj
    exact hall i j (Nat.zero_le i) hij hj
  · intro hall i j _ hij hj
    exact hall i j hij hj

end Stability

end Kahn
