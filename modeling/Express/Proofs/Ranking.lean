import Express.Draft.Build
import Express.Proofs.Soundness
import Mathlib.Data.Set.Function
import Mathlib.Order.Interval.Set.Defs

/-!
# The places that declarations get

The place of a declaration in the schema is the rank of its code: the number of declarations with a
smaller code.

* `Draft.rank`, `Draft.place` — the rank, and the handle it is.
* `Draft.rank_bijOn` — ranking is a bijection from the handles of the draft to the numbers below
  its size. Ranks are places in the ascending list of codes, where each code stands once.
* `Draft.positions_eq_ok` — the table for renumbering is made, and holds the places.
-/

set_option autoImplicit false

namespace Express

namespace Draft

/-- The number of declarations with a smaller code than the declaration with a handle. -/
def rank (d : Draft) (h : Handle) : Nat :=
  d.declarations.toList.countP fun y => d.declarations[h.index]?.any fun x => y.code.below x.code

/-- The handle that the declaration with a handle gets. -/
def place (d : Draft) (h : Handle) : Handle := Handle.ofIndex (d.rank h)

/-- The codes in the order in which the declarations are to stand. -/
def codeOrder (d : Draft) : List TypeCode :=
  (d.declarations.toList.map (·.code)).mergeSort TypeCode.inOrder

variable {d : Draft} {g h : Handle} {x y : Declaration}

theorem codeOrder_perm (d : Draft) : d.codeOrder.Perm (d.declarations.toList.map (·.code)) :=
  List.mergeSort_perm _ _

theorem codeOrder_length (d : Draft) : d.codeOrder.length = d.size := by
  rw [(codeOrder_perm d).length_eq, List.length_map, Array.length_toList, size]

theorem codeOrder_nodup (sound : Sound d) : d.codeOrder.Nodup :=
  (codeOrder_perm d).nodup_iff.2 sound.different

theorem mem_codeOrder (found : d.declarations[h.index]? = some x) : x.code ∈ d.codeOrder := by
  rw [(codeOrder_perm d).mem_iff]
  exact List.mem_map_of_mem (Array.mem_toList_iff.2 (Array.mem_of_getElem? found))

theorem codeOrder_ascending (sound : Sound d) :
    d.codeOrder.Pairwise fun a b => a.index < b.index :=
  ascending_mergeSort TypeCode.index (fun _ _ => TypeCode.inOrder_iff)
    (sound.different.map TypeCode.index_injective)

/-! ## Ranks -/

/-- **The rank of a declaration is the place of its code** in the ascending list of codes. -/
theorem rank_eq_idxOf (sound : Sound d) (found : d.declarations[h.index]? = some x) :
    d.rank h = d.codeOrder.idxOf x.code := by
  rw [idxOf_eq_countP_lt (codeOrder_ascending sound) (mem_codeOrder found),
    (codeOrder_perm d).countP_eq, List.countP_map]
  unfold rank
  rw [found]
  refine List.countP_congr fun y _ => ?_
  simp [TypeCode.below_iff]

theorem rank_lt (sound : Sound d) (found : d.declarations[h.index]? = some x) :
    d.rank h < d.size := by
  rw [rank_eq_idxOf sound found, ← codeOrder_length]
  exact List.idxOf_lt_length_of_mem (mem_codeOrder found)

theorem index_place (sound : Sound d) (found : d.declarations[h.index]? = some x) :
    (d.place h).index = d.rank h := by
  have := rank_lt sound found
  have := sound.size_le
  exact Handle.index_ofIndex (by omega)

theorem eq_of_code (sound : Sound d) (at_g : d.declarations[g.index]? = some x)
    (at_h : d.declarations[h.index]? = some y) (same : x.code = y.code) : g = h := by
  have inside : g.index < (d.declarations.toList.map (·.code)).length := by
    rw [List.length_map, Array.length_toList]
    exact lt_size at_g
  refine Handle.ext_index ((List.getElem?_inj inside sound.different).1 ?_)
  simp [at_g, at_h, same]

theorem rank_injective (sound : Sound d) (at_g : d.declarations[g.index]? = some x)
    (at_h : d.declarations[h.index]? = some y) (same : d.rank g = d.rank h) : g = h := by
  rw [rank_eq_idxOf sound at_g, rank_eq_idxOf sound at_h] at same
  exact eq_of_code sound at_g at_h ((List.idxOf_inj (mem_codeOrder at_g)).1 same)

theorem place_injective (sound : Sound d) (at_g : d.declarations[g.index]? = some x)
    (at_h : d.declarations[h.index]? = some y) (same : d.place g = d.place h) : g = h := by
  refine rank_injective sound at_g at_h ?_
  rw [← index_place sound at_g, same, index_place sound at_h]

/-- **Ranking is a bijection** from the handles of a draft to the numbers below its size. -/
theorem rank_bijOn (sound : Sound d) :
    Set.BijOn d.rank {h | h.index < d.size} (Set.Iio d.size) := by
  refine ⟨fun h inside => ?_, fun g hg h hh same => ?_, fun k inside => ?_⟩
  · obtain ⟨x, found⟩ := found_of_lt inside
    exact rank_lt sound found
  · obtain ⟨x, at_g⟩ := found_of_lt hg
    obtain ⟨y, at_h⟩ := found_of_lt hh
    exact rank_injective sound at_g at_h same
  · have inside : k < d.codeOrder.length := by
      rw [codeOrder_length]
      exact inside
    have mem : d.codeOrder[k] ∈ d.declarations.toList.map (·.code) :=
      (codeOrder_perm d).mem_iff.1 (List.getElem_mem inside)
    obtain ⟨x, mem, code⟩ := List.mem_map.1 mem
    have found := sound.found (Array.mem_toList_iff.1 mem)
    refine ⟨x.handle, lt_size found, ?_⟩
    rw [rank_eq_idxOf sound found, code]
    exact (codeOrder_nodup sound).idxOf_getElem k inside

/-! ## The table for renumbering -/

/-- The code of the declaration at a position. -/
def codeAt (d : Draft) (i : Nat) : TypeCode := (d.declarations[i]?.map (·.code)).getD default

/-- The positions of the declarations, in the order of their codes. -/
def ordered (d : Draft) : List Nat :=
  (List.range d.size).mergeSort fun i j => (d.codeAt i).inOrder (d.codeAt j)

theorem codeAt_of_found {i : Nat} (found : d.declarations[i]? = some x) : d.codeAt i = x.code := by
  rw [codeAt, found]
  rfl

theorem order_eq_ok (d : Draft) : d.order = .ok d.ordered := by
  have coded : (List.range d.size).mapM (fun index => do
      return (index, (← elementAt d.declarations index).code)) =
        (.ok ((List.range d.size).map fun i => (i, d.codeAt i)) : Except Misuse _) := by
    refine mapM_eq_ok fun i mem => ?_
    obtain ⟨x, found⟩ := found_of_lt (List.mem_range.1 mem)
    rw [elementAt_eq_ok.2 found, codeAt_of_found found]
    rfl
  have sorted : d.ordered.map (fun i => (i, d.codeAt i)) =
      ((List.range d.size).map fun i => (i, d.codeAt i)).mergeSort fun a b => a.2.inOrder b.2 :=
    List.map_mergeSort (r := fun i j => (d.codeAt i).inOrder (d.codeAt j)) fun _ _ _ _ => rfl
  unfold order
  rw [coded]
  show Except.ok _ = _
  rw [← sorted, List.map_map]
  exact congrArg Except.ok (List.map_id _)

theorem mem_ordered {i : Nat} : i ∈ d.ordered ↔ i < d.size := by
  rw [ordered, List.mem_mergeSort, List.mem_range]

theorem map_codeAt_ordered (d : Draft) : d.ordered.map d.codeAt = d.codeOrder := by
  have codes : (List.range d.size).map d.codeAt = d.declarations.toList.map (·.code) := by
    refine List.ext_getElem (by simp [size]) fun i short _ => ?_
    have inside : i < d.declarations.size := by simpa [size] using short
    rw [List.getElem_map, List.getElem_range, codeAt_of_found (Array.getElem?_eq_getElem inside),
      List.getElem_map, Array.getElem_toList]
  rw [ordered, List.map_mergeSort (s := TypeCode.inOrder) (fun _ _ _ _ => rfl), codes]
  rfl

/-- In the order, a position stands at the rank of its declaration. -/
theorem ordered_rank (sound : Sound d) (found : d.declarations[h.index]? = some x) :
    d.ordered[d.rank h]? = some h.index := by
  have inside : d.rank h < d.codeOrder.length := by
    rw [codeOrder_length]
    exact rank_lt sound found
  have code : d.codeOrder[d.rank h] = x.code := by
    simp only [rank_eq_idxOf sound found, List.getElem_idxOf]
  have place : (d.ordered.map d.codeAt)[d.rank h]? = some x.code := by
    rw [map_codeAt_ordered, List.getElem?_eq_getElem inside, code]
  rw [List.getElem?_map, Option.map_eq_some_iff] at place
  obtain ⟨i, at_rank, same⟩ := place
  obtain ⟨y, at_i⟩ := found_of_lt (mem_ordered.1 (List.mem_of_getElem? at_rank))
  rw [codeAt_of_found at_i] at same
  have few := sound.size_le
  have low := lt_size at_i
  have index : (Handle.ofIndex i).index = i := Handle.index_ofIndex (by omega)
  rw [← index] at at_i
  rw [at_rank, ← eq_of_code sound at_i found same, index]

/-- **The table for renumbering** is made, and holds the places. -/
theorem positions_eq_ok (sound : Sound d) : ∃ positions, d.positions = .ok positions ∧
    ∀ {h : Handle} {x : Declaration}, d.declarations[h.index]? = some x →
      positions[h.index]? = some (d.place h) := by
  have once : d.ordered.Nodup := (List.mergeSort_perm _ _).nodup_iff.2 List.nodup_range
  have different : (d.ordered.zipIdx.map (·.1)).Nodup := by simpa using once
  have inside : ∀ p ∈ d.ordered.zipIdx,
      p.1 < (Array.replicate d.size (Handle.ofIndex 0)).size := by
    intro p mem
    rw [Array.size_replicate]
    exact mem_ordered.1 (List.fst_mem_of_mem_zipIdx mem)
  obtain ⟨positions, made, there, -⟩ := foldlM_replaceAt (f := Handle.ofIndex) different inside
  refine ⟨positions, ?_, fun {h x} found => ?_⟩
  · unfold Draft.positions
    rw [order_eq_ok]
    exact made
  · exact there (h.index, d.rank h) (List.mem_zipIdx_iff_getElem?.2 (ordered_rank sound found))

end Draft

end Express
