import Express.Basic
import Mathlib.Data.List.Nodup
import Mathlib.Data.List.Perm.Subperm

/-!
# Numbers and ranks

Handles and type codes stand for the natural numbers below 2^32, and nothing is lost in between.

* `Handle.index_ofIndex`, `Handle.ofIndex_index` — positions and handles correspond.
* `TypeCode.compare_eq` — codes are compared as numbers.
* `TypeCode.nodup_length_le` — no more than 2^32 codes are different.
* `idxOf_eq_countP_lt` — in an ascending list, the place of a member is the number of smaller ones.
* `ascending_mergeSort` — sorting by different numbers gives an ascending list.
* `eq_of_ascending` — two ascending lists with the same members are the same;
  `eq_range_of_ascending` — an ascending list of the numbers below `n` is `0, 1, …, n - 1`.
-/

set_option autoImplicit false

namespace Express

namespace Handle

@[simp] theorem ofIndex_index (h : Handle) : ofIndex h.index = h := by
  simp [ofIndex, index]

theorem index_ofIndex {i : Nat} (small : i < UInt32.size) : (ofIndex i).index = i :=
  UInt32.toNat_ofNat_of_lt' small

theorem ext_index {a b : Handle} (same : a.index = b.index) : a = b := by
  rw [← ofIndex_index a, same, ofIndex_index]

theorem inOrder_iff {a b : Handle} : a.inOrder b ↔ a.index ≤ b.index := by
  simp [inOrder, index, UInt32.le_iff_toNat_le]

end Handle

namespace TypeCode

theorem index_lt (c : TypeCode) : c.index < UInt32.size := c.value.toNat_lt_size

@[simp] theorem ofNat_index (c : TypeCode) : ofNat c.index = c := by
  simp [ofNat, index]

theorem index_ofNat {n : Nat} (small : n < UInt32.size) : (ofNat n).index = n :=
  UInt32.toNat_ofNat_of_lt' small

theorem ext_index {a b : TypeCode} (same : a.index = b.index) : a = b := by
  rw [← ofNat_index a, same, ofNat_index]

theorem index_injective : Function.Injective index := fun _ _ => ext_index

theorem inOrder_iff {a b : TypeCode} : a.inOrder b ↔ a.index ≤ b.index := by
  simp [inOrder, index, UInt32.le_iff_toNat_le]

theorem below_iff {a b : TypeCode} : a.below b ↔ a.index < b.index := by
  simp [below, index, UInt32.lt_iff_toNat_lt]

theorem compare_eq (a b : TypeCode) : a.compare b = Ord.compare a.index b.index :=
  UInt32.compare_eq_toNat_compare_toNat a.value b.value

/-- **Different codes are few**: there are no more than 2^32. -/
theorem nodup_length_le {codes : List TypeCode} (different : codes.Nodup) :
    codes.length ≤ UInt32.size := by
  have numbers : (codes.map index).Nodup := different.map index_injective
  have bounded : codes.map index ⊆ List.range UInt32.size := by
    intro n hn
    obtain ⟨c, -, rfl⟩ := List.mem_map.1 hn
    exact List.mem_range.2 c.index_lt
  have := (List.subperm_of_subset numbers bounded).length_le
  simpa only [List.length_map, List.length_range] using this

end TypeCode

/-! ## Ascending lists -/

theorem idxOf_eq_countP_lt {α : Type} [DecidableEq α] {key : α → Nat} :
    ∀ {l : List α} {x : α}, l.Pairwise (fun a b => key a < key b) → x ∈ l →
      l.idxOf x = l.countP fun y => decide (key y < key x)
  | [], _, _, mem => by cases mem
  | a :: l, x, ascending, mem => by
    obtain ⟨first, rest⟩ := List.pairwise_cons.1 ascending
    rcases List.mem_cons.1 mem with rfl | later
    · have none_below : l.countP (fun y => decide (key y < key x)) = 0 := by
        rw [List.countP_eq_zero]
        intro y hy
        have := first y hy
        simp only [decide_eq_true_eq]
        omega
      rw [List.idxOf_cons_self, List.countP_cons_of_neg (by simp), none_below]
    · have smaller := first x later
      have ne : a ≠ x := by
        rintro rfl
        omega
      rw [List.idxOf_cons_ne _ ne, idxOf_eq_countP_lt rest later,
        List.countP_cons_of_pos (by simpa using smaller)]

theorem ascending_mergeSort {α : Type} (key : α → Nat) {le : α → α → Bool}
    (le_iff : ∀ a b, le a b ↔ key a ≤ key b) {l : List α} (different : (l.map key).Nodup) :
    (l.mergeSort le).Pairwise fun a b => key a < key b := by
  have sorted : (l.mergeSort le).Pairwise fun a b => le a b := by
    refine List.pairwise_mergeSort (fun a b c ab bc => ?_) (fun a b => ?_) l
    · rw [le_iff] at *
      omega
    · rw [Bool.or_eq_true, le_iff, le_iff]
      omega
  have apart : ((l.mergeSort le).map key).Nodup :=
    ((List.mergeSort_perm l le).map key).nodup_iff.2 different
  unfold List.Nodup at apart
  rw [List.pairwise_map] at apart
  refine (sorted.and apart).imp fun {a b} ⟨before, ne⟩ => ?_
  have := (le_iff a b).1 before
  omega

/-- **Ascending lists with the same members are the same.** -/
theorem eq_of_ascending {α : Type} {key : α → Nat} {l m : List α}
    (ascending : l.Pairwise fun a b => key a < key b)
    (ascending' : m.Pairwise fun a b => key a < key b) (members : ∀ a, a ∈ l ↔ a ∈ m) : l = m := by
  have apart {a b : α} (less : key a < key b) : a ≠ b := by
    rintro rfl
    exact Nat.lt_irrefl _ less
  have perm : l.Perm m :=
    (List.perm_ext_iff_of_nodup (ascending.imp apart) (ascending'.imp apart)).2 members
  refine perm.eq_of_pairwise ?_ ascending ascending'
  intro a b _ _ ab ba
  omega

theorem eq_range_of_ascending {l : List Nat} {n : Nat} (ascending : l.Pairwise (· < ·))
    (members : ∀ k, k ∈ l ↔ k < n) : l = List.range n := by
  apply eq_of_ascending ascending List.pairwise_lt_range
  intro k
  rw [members, List.mem_range]

/-- A list whose members are numbered below `n` without repetition has, when it is sorted, each at
its number. -/
theorem getElem?_mergeSort {α : Type} (key : α → Nat) {le : α → α → Bool}
    (le_iff : ∀ a b, le a b ↔ key a ≤ key b) {l : List α} {n k : Nat} {x : α}
    (different : (l.map key).Nodup) (members : ∀ k, k ∈ l.map key ↔ k < n) :
    (l.mergeSort le)[k]? = some x ↔ x ∈ l ∧ key x = k := by
  have range : (l.mergeSort le).map key = List.range n := by
    refine eq_range_of_ascending ?_ fun k => ?_
    · rw [List.pairwise_map]
      exact ascending_mergeSort key le_iff different
    · rw [((List.mergeSort_perm l le).map key).mem_iff, members]
  have numbered {k : Nat} {x : α} (found : (l.mergeSort le)[k]? = some x) : key x = k := by
    have place : ((l.mergeSort le).map key)[k]? = some (key x) := by
      rw [List.getElem?_map, found]
      rfl
    rw [range, List.getElem?_eq_some_iff] at place
    obtain ⟨inside, same⟩ := place
    rw [← same, List.getElem_range]
  constructor
  · intro found
    exact ⟨List.mem_mergeSort.1 (List.mem_of_getElem? found), numbered found⟩
  · rintro ⟨mem, rfl⟩
    obtain ⟨j, found⟩ := List.mem_iff_getElem?.1 (List.mem_mergeSort.2 mem)
    rw [numbered found]
    exact found

end Express
