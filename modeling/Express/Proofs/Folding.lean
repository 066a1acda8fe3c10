import Express.Caseless

/-!
# The order of names up to letter case

* `Caseless.compare_eq_iff`, `Caseless.same_iff` — names are the same when their folded forms are.
* `Caseless.inOrder_total`, `Caseless.inOrder_trans` — the order is total and transitive, so that
  names can be sorted.
* `Caseless.folded_eq_of_inOrder` — names that stand before each other are the same, and so are names
  between those that are the same; `Caseless.differs_of_sorted` — in a sorted list, a name that differs
  from the next differs from all that follow.
* `Caseless.compare_eq_lt` — names in order that are not the same are in strict order, which is
  transitive as well.
* `Caseless.filter_mergeSort` — sorting is stable, so that names that are the same keep their order;
  `Caseless.find?_mergeSort` — the first of them stays the first.
-/

set_option autoImplicit false

namespace Express.Caseless

variable {a b c : String}

theorem compare_eq_iff : compare a b = .eq ↔ folded a = folded b := Std.compare_eq_iff_eq

theorem same_iff : same a b ↔ folded a = folded b := by
  unfold same
  rw [beq_iff_eq, compare_eq_iff]

theorem inOrder_iff : inOrder a b ↔ (compare a b).isLE := by
  unfold inOrder
  rw [Ordering.isLE_iff_ne_gt, bne_iff_ne]

theorem inOrder_trans (ab : inOrder a b) (bc : inOrder b c) : inOrder a c := by
  rw [inOrder_iff] at *
  exact Std.TransOrd.isLE_trans ab bc

theorem inOrder_total (a b : String) : inOrder a b ∨ inOrder b a := by
  rw [inOrder_iff, inOrder_iff]
  unfold compare
  rw [Std.OrientedOrd.eq_swap (a := folded b)]
  cases Ord.compare (folded a) (folded b) <;> simp

theorem inOrder_of_folded (same : folded a = folded b) : inOrder a b := by
  rw [inOrder_iff, compare_eq_iff.2 same]
  rfl

theorem folded_eq_of_inOrder (ab : inOrder a b) (ba : inOrder b a) : folded a = folded b := by
  rw [inOrder_iff] at ab ba
  exact Std.LawfulEqOrd.eq_of_compare (Std.OrientedCmp.isLE_antisymm ab ba)

/-- Of names in order, the first is the same as all up to the last that is the same. -/
theorem folded_eq_of_between (ab : inOrder a b) (bc : inOrder b c) (same : folded a = folded c) :
    folded a = folded b := by
  refine folded_eq_of_inOrder ab ?_
  rw [inOrder_iff] at bc ⊢
  unfold compare at bc ⊢
  rwa [same]

theorem compare_eq_lt (ordered : inOrder a b) (different : folded a ≠ folded b) :
    compare a b = .lt := by
  cases order : compare a b with
  | lt => rfl
  | eq => exact absurd (compare_eq_iff.1 order) different
  | gt => simp [inOrder, order] at ordered

/-- In a sorted list, a name that differs from the one after it differs from all after it. -/
theorem differs_of_sorted {l : List String} (sorted : (a :: b :: l).Pairwise fun a b => inOrder a b)
    (other : same a b = false) : ∀ c ∈ b :: l, folded a ≠ folded c := by
  obtain ⟨first, tail⟩ := List.pairwise_cons.1 sorted
  have differ : folded a ≠ folded b := by
    rw [ne_eq, ← same_iff, other]
    exact Bool.noConfusion
  intro c mem folded
  rcases List.mem_cons.1 mem with rfl | later
  · exact differ folded
  · have bc := (List.pairwise_cons.1 tail).1 c later
    exact differ (folded_eq_of_between (first b List.mem_cons_self) bc folded)

theorem compare_lt_trans (ab : compare a b = .lt) (bc : compare b c = .lt) :
    compare a c = .lt := by
  unfold compare at *
  exact Std.TransCmp.lt_trans ab bc

theorem compare_eq_gt_iff : compare a b = .gt ↔ compare b a = .lt := by
  unfold compare
  exact Std.OrientedCmp.gt_iff_lt

theorem pairwise_mergeSort_on {α : Type} (name : α → String) (l : List α) :
    (l.mergeSort fun a b => inOrder (name a) (name b)).Pairwise fun a b =>
      inOrder (name a) (name b) := by
  refine List.pairwise_mergeSort (fun a b c ab bc => ?_) (fun a b => ?_) l
  · exact inOrder_trans ab bc
  · rw [Bool.or_eq_true]
    exact inOrder_total (name a) (name b)

theorem pairwise_mergeSort (names : List String) :
    (names.mergeSort inOrder).Pairwise fun a b => inOrder a b :=
  pairwise_mergeSort_on id names

/-- **Sorting keeps the order of names that are the same.** -/
theorem filter_mergeSort (names : List String) (x : String) :
    (names.mergeSort inOrder).filter (same · x) = names.filter (same · x) := by
  have alike : (names.filter (same · x)).Pairwise fun a b => inOrder a b := by
    refine List.pairwise_of_forall_mem_list fun a ma b mb => ?_
    have first := same_iff.1 (List.mem_filter.1 ma).2
    have second := same_iff.1 (List.mem_filter.1 mb).2
    exact inOrder_of_folded (first.trans second.symm)
  have kept : (names.filter (same · x)).Sublist (names.mergeSort inOrder) := by
    apply List.sublist_mergeSort
    · intro a b c ab bc
      exact inOrder_trans ab bc
    · intro a b
      rw [Bool.or_eq_true]
      exact inOrder_total a b
    · exact alike
    · exact List.filter_sublist
  have inside : (names.filter (same · x)).Sublist ((names.mergeSort inOrder).filter (same · x)) := by
    simpa using kept.filter (same · x)
  exact (inside.eq_of_length ((List.mergeSort_perm names inOrder).filter _).length_eq.symm).symm

theorem find?_mergeSort (names : List String) (x : String) :
    (names.mergeSort inOrder).find? (same · x) = names.find? (same · x) := by
  rw [← List.head?_filter, filter_mergeSort, List.head?_filter]

end Express.Caseless
