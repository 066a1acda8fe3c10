import Express.Basic

/-!
# Finding by bisection

* `Bisect.Parts` — an aim parts an array: of two elements, the first is before what is looked for or
  the second is after it. So no more than one element is what is looked for.
* `Bisect.parts_of_ascending` — comparing keys with a target parts an array of ascending keys.
* `Bisect.Parts.aim_eq_compare` — where what is looked for stands in the array, the aim compares
  positions; so each step of the search keeps it in the window.
* `Bisect.Parts.countP_before` — the place of what is looked for is the number of elements before it.
* `Bisect.find?_eq_some` — in an array that is parted, the search finds the place of what is looked
  for whenever it is there; `Bisect.found_eq_some` says so of the element.
-/

set_option autoImplicit false

namespace Express.Bisect

variable {α β : Type} {aim : α → Ordering} {keys : Array α} {x : α} {k : Nat}

/-- Of any two elements, the first is before what is looked for or the second is after it. -/
def Parts (aim : α → Ordering) (keys : Array α) : Prop :=
  keys.toList.Pairwise fun a b => aim a = .lt ∨ aim b = .gt

/-- **Comparing with a target parts ascending keys**: where one is not below the target, all that
follow are above it. -/
theorem parts_of_ascending [Ord β] [Std.TransOrd β] {key : α → β} (target : β)
    (ascending : keys.toList.Pairwise fun a b => compare (key a) (key b) = .lt) :
    Parts (fun a => compare (key a) target) keys := by
  refine ascending.imp fun {a b} less => ?_
  by_cases below : compare (key a) target = .lt
  · exact .inl below
  · right
    have reached : (compare target (key a)).isLE := by
      rw [Std.OrientedOrd.eq_swap (a := target), Ordering.isLE_swap, Ordering.isGE_iff_ne_lt]
      exact below
    exact Std.OrientedCmp.gt_of_lt (Std.TransCmp.lt_of_isLE_of_lt reached less)

/-- **What is looked for stands at one place**, and the aim tells on which side of it a place is. -/
theorem Parts.aim_eq_compare (parts : Parts aim keys) (found : keys[k]? = some x)
    (here : aim x = .eq) {i : Nat} (inside : i < keys.size) : aim keys[i] = compare i k := by
  obtain ⟨inside', rfl⟩ := Array.getElem?_eq_some_iff.1 found
  have apart (i j : Nat) (hi : i < keys.size) (hj : j < keys.size) (less : i < j) :
      aim keys[i] = .lt ∨ aim keys[j] = .gt := by
    have := List.pairwise_iff_getElem.1 parts i j (by simpa) (by simpa) less
    rwa [Array.getElem_toList, Array.getElem_toList] at this
  rcases Nat.lt_trichotomy i k with less | rfl | more
  · rw [Nat.compare_eq_lt.2 less]
    simpa [here] using apart i k inside inside' less
  · rw [Nat.compare_eq_eq.2 rfl, here]
  · rw [Nat.compare_eq_gt.2 more]
    simpa [here] using apart k i inside' inside more

/-- **The place of what is looked for is the number of elements before it.** -/
theorem Parts.countP_before (parts : Parts aim keys) (found : keys[k]? = some x)
    (here : aim x = .eq) : keys.toList.countP (fun a => aim a == .lt) = k := by
  have inside : k < keys.toList.length := (Array.getElem?_eq_some_iff.1 found).1
  have side {i : Nat} (low : i < keys.toList.length) : aim keys.toList[i] = compare i k :=
    parts.aim_eq_compare found here low
  have before : (keys.toList.take k).countP (fun a => aim a == .lt) = k := by
    rw [List.countP_eq_length.2, List.length_take_of_le (by omega)]
    intro a mem
    obtain ⟨i, low, rfl⟩ := List.mem_take_iff_getElem.1 mem
    rw [side (by omega), Nat.compare_eq_lt.2 (by omega)]
    rfl
  have behind : (keys.toList.drop k).countP (fun a => aim a == .lt) = 0 := by
    rw [List.countP_eq_zero]
    intro a mem
    obtain ⟨i, low, rfl⟩ := List.mem_drop_iff_getElem.1 mem
    rw [side (by omega), beq_iff_eq, Nat.compare_eq_lt]
    omega
  rw [← List.take_append_drop k keys.toList, List.countP_append, before, behind,
    Nat.add_zero]

/-! ## The search -/

/-- **The search of a window** finds what is looked for if it is in the window. -/
theorem between_eq_some (parts : Parts aim keys) {lo hi : Nat} {inside : hi ≤ keys.size} :
    between keys aim lo hi inside = some k ↔
      lo ≤ k ∧ k < hi ∧ ∃ x, keys[k]? = some x ∧ aim x = .eq := by
  fun_induction between keys aim lo hi inside with
  | case1 lo hi inside window middle middle_lt here =>
    have bounds : lo ≤ middle ∧ middle < hi := by omega
    rw [Option.some.injEq]
    constructor
    · rintro rfl
      exact ⟨bounds.1, bounds.2, _, Array.getElem?_eq_getElem middle_lt, here⟩
    · rintro ⟨-, -, x, found, eq⟩
      have side := parts.aim_eq_compare found eq middle_lt
      exact Nat.compare_eq_eq.1 (side.symm.trans here)
  | case2 lo hi inside window middle middle_lt before ih =>
    refine Iff.trans ih ⟨fun ⟨low, high, found⟩ => ⟨by omega, high, found⟩, ?_⟩
    rintro ⟨-, high, x, found, eq⟩
    have side := parts.aim_eq_compare found eq middle_lt
    have := Nat.compare_eq_lt.1 (side.symm.trans before)
    exact ⟨this, high, x, found, eq⟩
  | case3 lo hi inside window middle middle_lt after ih =>
    refine Iff.trans ih ⟨fun ⟨low, high, found⟩ => ⟨low, by omega, found⟩, ?_⟩
    rintro ⟨low, -, x, found, eq⟩
    have side := parts.aim_eq_compare found eq middle_lt
    have := Nat.compare_eq_gt.1 (side.symm.trans after)
    exact ⟨low, this, x, found, eq⟩
  | case4 lo hi inside window =>
    simp only [reduceCtorEq, false_iff]
    omega

/-- **The search is exact** in an array that is parted. -/
theorem find?_eq_some (parts : Parts aim keys) :
    find? keys aim = some k ↔ ∃ x, keys[k]? = some x ∧ aim x = .eq := by
  unfold find?
  rw [between_eq_some parts]
  constructor
  · rintro ⟨-, -, found⟩
    exact found
  · rintro ⟨x, found, here⟩
    exact ⟨Nat.zero_le k, (Array.getElem?_eq_some_iff.1 found).1, x, found, here⟩

theorem found_eq_some (parts : Parts aim keys) :
    (find? keys aim).bind (keys[·]?) = some x ↔ x ∈ keys ∧ aim x = .eq := by
  simp only [Option.bind_eq_some_iff, find?_eq_some parts, Array.mem_iff_getElem?]
  constructor
  · rintro ⟨k, ⟨y, found, here⟩, again⟩
    cases found.symm.trans again
    exact ⟨⟨k, found⟩, here⟩
  · rintro ⟨⟨k, found⟩, here⟩
    exact ⟨k, ⟨x, found, here⟩, found⟩

end Express.Bisect
