import Express.Proofs.Bisecting
import Express.Proofs.Indexing
import Express.TypeTable.Text

/-!
# What a type table knows

The names of a table are in strict order up to letter case, so that a code is the place of a name and
its rank at once.

* `TypeTable.ofNames_ascends` — sorting names and keeping the first of each stretch leaves them in
  strict order.
* `TypeTable.codeOf_eq_ok` — the code of a name is that of the spelling that is in the table.
* `TypeTable.compare_code` — codes are in the order of the names that they stand for.
-/

set_option autoImplicit false

namespace Express.TypeTable

variable {t : TypeTable} {a b c : TypeCode} {name x y : String}

/-- The names are in strict order. -/
def Ascends (t : TypeTable) : Prop :=
  t.names.toList.Pairwise fun a b => Caseless.compare a b = .lt

/-- Of names in order, those that differ from the last one kept are in strict order behind it. -/
theorem distinctAfter_ascends : ∀ {kept : String} {l : List String},
    (kept :: l).Pairwise (fun a b => Caseless.inOrder a b) →
      (kept :: distinctAfter kept l).Pairwise fun a b => Caseless.compare a b = .lt
  | _, [], _ => List.pairwise_singleton _ _
  | kept, name :: rest, sorted => by
    obtain ⟨first, tail⟩ := List.pairwise_cons.1 sorted
    rw [distinctAfter]
    split
    · exact distinctAfter_ascends (sorted.sublist (by simp))
    · rename_i other
      have behind := distinctAfter_ascends tail
      have less : Caseless.compare kept name = .lt :=
        Caseless.compare_eq_lt (first name List.mem_cons_self) fun same =>
          other (Caseless.same_iff.2 same)
      refine List.pairwise_cons.2 ⟨fun later mem => ?_, behind⟩
      rcases List.mem_cons.1 mem with rfl | more
      · exact less
      · exact Caseless.compare_lt_trans less ((List.pairwise_cons.1 behind).1 later more)

/-- **The names of a table are in strict order.** -/
theorem ofNames_ascends (names : List String) : (ofNames names).Ascends := by
  have sorted := Caseless.pairwise_mergeSort names
  unfold Ascends ofNames
  cases order : names.mergeSort Caseless.inOrder with
  | nil => exact List.Pairwise.nil
  | cons first rest =>
    rw [order] at sorted
    exact distinctAfter_ascends sorted

/-! ## Names and codes -/

theorem names_parts (ascends : t.Ascends) (name : String) :
    Bisect.Parts (Caseless.compare · name) t.names := by
  unfold Ascends at ascends
  unfold Caseless.compare at ascends ⊢
  exact Bisect.parts_of_ascending (Caseless.folded name) ascends

/-- **The code of a name is that of its spelling** in the table, and other names have none. -/
theorem codeOf_eq_ok (ascends : t.Ascends) (few : t.size ≤ UInt32.size) :
    t.codeOf name = .ok c ↔
      ∃ spelling, t.nameOf? c = some spelling ∧ Caseless.folded spelling = Caseless.folded name := by
  have searched {k : Nat} := Bisect.find?_eq_some (k := k) (names_parts ascends name)
  simp only [Caseless.compare_eq_iff] at searched
  unfold codeOf nameOf?
  constructor
  · intro answer
    split at answer
    · rename_i k found
      cases answer
      obtain ⟨spelling, at_k, same⟩ := searched.1 found
      have inside : k < t.size := (Array.getElem?_eq_some_iff.1 at_k).1
      rw [TypeCode.index_ofNat (by omega)]
      exact ⟨spelling, at_k, same⟩
    · cases answer
  · rintro ⟨spelling, at_c, same⟩
    rw [searched.2 ⟨spelling, at_c, same⟩]
    exact congrArg Except.ok c.ofNat_index

theorem codeOf_spelling (ascends : t.Ascends) (few : t.size ≤ UInt32.size)
    (spelt : t.nameOf? c = some x) : t.codeOf x = .ok c :=
  (codeOf_eq_ok ascends few).2 ⟨x, spelt, rfl⟩

/-- **Codes are in the order of names.** -/
theorem compare_code (ascends : t.Ascends) (at_a : t.nameOf? a = some x)
    (at_b : t.nameOf? b = some y) : a.compare b = Caseless.compare x y := by
  have less {i j : Nat} {x y : String} (at_i : t.names[i]? = some x) (at_j : t.names[j]? = some y)
      (before : i < j) : Caseless.compare x y = .lt := by
    obtain ⟨hi, rfl⟩ := Array.getElem?_eq_some_iff.1 at_i
    obtain ⟨hj, rfl⟩ := Array.getElem?_eq_some_iff.1 at_j
    exact List.pairwise_iff_getElem.1 ascends i j hi hj before
  rw [TypeCode.compare_eq]
  rcases Nat.lt_trichotomy a.index b.index with before | same | behind
  · rw [Nat.compare_eq_lt.2 before, less at_a at_b before]
  · unfold nameOf? at at_a at_b
    rw [same, at_b] at at_a
    cases at_a
    rw [Nat.compare_eq_eq.2 same, Caseless.compare_eq_iff.2 rfl]
  · rw [Nat.compare_eq_gt.2 behind, Caseless.compare_eq_gt_iff.2 (less at_b at_a behind)]

end Express.TypeTable
