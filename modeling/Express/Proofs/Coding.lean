import Express.Proofs.Tabulating
import Mathlib.Data.List.Dedup

/-!
# Codes are ranks

The code of a name in a table is the number of different names that are smaller, where names that
differ in case only are one. So a code depends on which names are listed, not on their order, their
case or how often they are listed; only the spelling is that of the first name in the list.

* `TypeTable.forms`, `TypeTable.countBefore` — the different names of a list, and how many of them
  stand before a name. Neither needs a table.
* `TypeTable.find?_ofNames` — a table has, of the names that are the same as a given one, the first in
  the list: sorting keeps their order, and the first of each stretch is kept.
* `TypeTable.forms_perm` — the names of a table are the different names of the list.
* `TypeTable.Ranks` — what it is for a table to rank the names of a list, and to have nothing else;
  `TypeTable.ofNames_ranks` says that the table of a list does.
-/

set_option autoImplicit false

namespace Express.TypeTable

variable {t : TypeTable} {names names' l : List String} {kept x name : String} {c : TypeCode} {k : Nat}

/-- The folded forms of the names in a list, each once. -/
def forms (names : List String) : List (List Char) := (names.map Caseless.folded).dedup

/-- The number of different names in a list that are smaller than a name. -/
def countBefore (names : List String) (x : String) : Nat :=
  (forms names).countP fun form => compare form (Caseless.folded x) == .lt

/-! ## First spellings -/

/-- Names that are left out are the same as the last one kept, so what differs from this one is found
as if they were there. -/
theorem find?_distinctAfter : ∀ {kept : String} {l : List String}, Caseless.same kept x = false →
    (distinctAfter kept l).find? (Caseless.same · x) = l.find? (Caseless.same · x)
  | _, [], _ => rfl
  | kept, name :: rest, other => by
    rw [distinctAfter]
    split
    · rename_i repeated
      have left_out : Caseless.same name x = false := by
        rw [← Bool.not_eq_true, Caseless.same_iff] at other ⊢
        rwa [← Caseless.same_iff.1 repeated]
      rw [List.find?_cons_of_neg (by simp [left_out])]
      exact find?_distinctAfter other
    · rw [List.find?_cons, List.find?_cons]
      cases first : Caseless.same name x with
      | true => rfl
      | false => exact find?_distinctAfter first

theorem find?_distinct (l : List String) :
    (distinct l).find? (Caseless.same · x) = l.find? (Caseless.same · x) := by
  cases l with
  | nil => rfl
  | cons name rest =>
    rw [distinct, List.find?_cons, List.find?_cons]
    cases first : Caseless.same name x with
    | true => rfl
    | false => exact find?_distinctAfter first

/-- **The first spelling stays**: a table has the first of the names in the list that are the same. -/
theorem find?_ofNames (names : List String) (x : String) :
    (ofNames names).names.toList.find? (Caseless.same · x) = names.find? (Caseless.same · x) := by
  unfold ofNames
  rw [find?_distinct, Caseless.find?_mergeSort]

/-! ## Different names -/

theorem forms_nodup : (forms names).Nodup := List.nodup_dedup _

theorem mem_forms {form : List Char} : form ∈ forms names ↔ form ∈ names.map Caseless.folded :=
  List.mem_dedup

theorem folded_mem_iff :
    Caseless.folded x ∈ l.map Caseless.folded ↔ (l.find? (Caseless.same · x)).isSome := by
  simp only [List.find?_isSome, Caseless.same_iff, List.mem_map]

/-- **The names of a table are the different names of the list.** -/
theorem forms_perm (names : List String) :
    ((ofNames names).names.toList.map Caseless.folded).Perm (forms names) := by
  have once : ((ofNames names).names.toList.map Caseless.folded).Nodup := by
    unfold List.Nodup
    rw [List.pairwise_map]
    refine (ofNames_ascends names).imp fun {a b} less same => ?_
    rw [Caseless.compare_eq_iff.2 same] at less
    cases less
  rw [List.perm_ext_iff_of_nodup once forms_nodup]
  intro form
  rw [mem_forms]
  constructor
  · intro mem
    obtain ⟨name, -, rfl⟩ := List.mem_map.1 mem
    rwa [folded_mem_iff, ← find?_ofNames, ← folded_mem_iff]
  · intro mem
    obtain ⟨name, -, rfl⟩ := List.mem_map.1 mem
    rwa [folded_mem_iff, find?_ofNames, ← folded_mem_iff]

theorem size_ofNames (names : List String) : (ofNames names).size = (forms names).length := by
  rw [← (forms_perm names).length_eq, List.length_map]
  rfl

theorem countBefore_eq (found : (ofNames names).names[k]? = some name)
    (same : Caseless.folded name = Caseless.folded x) : countBefore names x = k := by
  have parts := names_parts (ofNames_ascends names) x
  rw [countBefore, ← (forms_perm names).countP_eq, List.countP_map]
  exact parts.countP_before found (Caseless.compare_eq_iff.2 same)

theorem forms_congr
    (same : ∀ form, form ∈ names'.map Caseless.folded ↔ form ∈ names.map Caseless.folded) :
    (forms names').Perm (forms names) := by
  rw [List.perm_ext_iff_of_nodup forms_nodup forms_nodup]
  simpa only [mem_forms] using same

/-! ## Entries -/

theorem mem_entries (few : t.size ≤ UInt32.size) : (c, name) ∈ t.entries ↔ t.nameOf? c = some name := by
  unfold entries nameOf?
  simp only [List.mem_map, Prod.exists, List.mem_zipIdx_iff_getElem?, Array.getElem?_toList,
    Prod.mk.injEq]
  constructor
  · rintro ⟨spelling, k, found, rfl, rfl⟩
    have inside : k < t.size := (Array.getElem?_eq_some_iff.1 found).1
    rw [TypeCode.index_ofNat (by omega), found]
  · intro found
    exact ⟨name, c.index, found, c.ofNat_index, rfl⟩

theorem entries_ascending (few : t.size ≤ UInt32.size) :
    t.entries.Pairwise fun a b => a.1.index < b.1.index := by
  unfold entries
  rw [List.pairwise_map, List.pairwise_iff_getElem]
  intro i j hi hj less
  rw [List.length_zipIdx] at hi hj
  have inside : j < t.size := hj
  rw [List.getElem_zipIdx, List.getElem_zipIdx, TypeCode.index_ofNat (by omega),
    TypeCode.index_ofNat (by omega)]
  omega

/-! ## The table of a list -/

/-- A table ranks the names of a list. -/
structure Ranks (t : TypeTable) (names : List String) : Prop where
  /-- The names that have a code are those that are listed, in any case. -/
  known : ∀ x, (∃ c, t.codeOf x = .ok c) ↔ ∃ name ∈ names, Caseless.same name x
  rank : ∀ x c, t.codeOf x = .ok c → c.index = countBefore names x
  /-- A code is spelt as the first name in the list that has it. -/
  spelling : ∀ x c, t.codeOf x = .ok c → t.nameOf? c = names.find? (Caseless.same · x)
  unknown : ∀ x, (∀ name ∈ names, ¬ Caseless.same name x) → t.codeOf x = .error (.unknownTypeName x)
  size : t.size = (forms names).length
  spelt : ∀ c, (t.nameOf? c).isSome ↔ c.index < t.size
  ascending : t.entries.Pairwise fun a b => a.1.index < b.1.index
  /-- The entries are the codes with their spellings. -/
  entries : ∀ c name, (c, name) ∈ t.entries ↔ t.nameOf? c = some name

theorem codeOf_eq_error (refused : ∀ c, t.codeOf x ≠ .ok c) :
    t.codeOf x = .error (.unknownTypeName x) := by
  unfold codeOf at refused ⊢
  split
  · rename_i k found
    rw [found] at refused
    exact absurd rfl (refused _)
  · rfl

/-- **The code of a name is its rank**, and is spelt as the first name in the list that has it. -/
theorem codeOf_ofNames (few : (ofNames names).size ≤ UInt32.size)
    (known : (ofNames names).codeOf x = .ok c) :
    c.index = countBefore names x ∧
      (ofNames names).nameOf? c = names.find? (Caseless.same · x) := by
  obtain ⟨spelling, at_c, same⟩ := (codeOf_eq_ok (ofNames_ascends names) few).1 known
  refine ⟨(countBefore_eq at_c same).symm, ?_⟩
  -- The first name of the table that is the same has the code of the name, so it is the spelling.
  have mem : spelling ∈ (ofNames names).names.toList :=
    Array.mem_toList_iff.2 (Array.mem_of_getElem? at_c)
  rw [← find?_ofNames]
  cases first : (ofNames names).names.toList.find? (Caseless.same · x) with
  | none =>
    have different := List.find?_eq_none.1 first spelling mem
    exact absurd (Caseless.same_iff.2 same) different
  | some name =>
    obtain ⟨k, at_k⟩ := Array.mem_iff_getElem?.1
      (Array.mem_toList_iff.1 (List.mem_of_find?_eq_some first))
    have same' := Caseless.same_iff.1 (List.find?_some (p := (Caseless.same · x)) first)
    have place : k = c.index := (countBefore_eq at_k same').symm.trans (countBefore_eq at_c same)
    rw [nameOf?, ← place, at_k]

theorem exists_codeOf (few : (ofNames names).size ≤ UInt32.size) :
    (∃ c, (ofNames names).codeOf x = .ok c) ↔ ∃ name ∈ names, Caseless.same name x := by
  rw [← List.find?_isSome (p := (Caseless.same · x)), ← find?_ofNames, List.find?_isSome]
  simp only [codeOf_eq_ok (ofNames_ascends names) few, Caseless.same_iff]
  constructor
  · rintro ⟨c, spelling, at_c, same⟩
    exact ⟨spelling, Array.mem_toList_iff.2 (Array.mem_of_getElem? at_c), same⟩
  · rintro ⟨spelling, mem, same⟩
    obtain ⟨k, at_k⟩ := Array.mem_iff_getElem?.1 (Array.mem_toList_iff.1 mem)
    have inside : k < (ofNames names).size := (Array.getElem?_eq_some_iff.1 at_k).1
    refine ⟨TypeCode.ofNat k, spelling, ?_, same⟩
    rw [nameOf?, TypeCode.index_ofNat (by omega), at_k]

theorem ranks_ofNames (few : (ofNames names).size ≤ UInt32.size) : (ofNames names).Ranks names where
  known _ := exists_codeOf few
  rank _ _ known := (codeOf_ofNames few known).1
  spelling _ _ known := (codeOf_ofNames few known).2
  unknown x different := by
    refine codeOf_eq_error fun c known => ?_
    obtain ⟨name, mem, same⟩ := (exists_codeOf few).1 ⟨c, known⟩
    exact different name mem same
  size := size_ofNames names
  spelt c := by
    unfold nameOf? size
    simp
  ascending := entries_ascending few
  entries _ _ := mem_entries few

/-- Tables that rank lists with the same names give them the same codes. -/
theorem Ranks.codeOf_eq {t' : TypeTable} (ranks : t.Ranks names) (ranks' : t'.Ranks names')
    (same : ∀ form, form ∈ names'.map Caseless.folded ↔ form ∈ names.map Caseless.folded) :
    t'.codeOf = t.codeOf := by
  have listed (x : String) :
      (∃ name ∈ names', Caseless.same name x) ↔ ∃ name ∈ names, Caseless.same name x := by
    have := same (Caseless.folded x)
    simpa only [folded_mem_iff, List.find?_isSome] using this
  funext x
  by_cases known : ∃ name ∈ names, Caseless.same name x
  · obtain ⟨c, code⟩ := (ranks.known x).2 known
    obtain ⟨c', code'⟩ := (ranks'.known x).2 ((listed x).2 known)
    have equal : c' = c := by
      apply TypeCode.ext_index
      rw [ranks.rank x c code, ranks'.rank x c' code', countBefore, countBefore,
        (forms_congr same).countP_eq]
    rw [code, code', equal]
  · rw [ranks.unknown x fun name mem same => known ⟨name, mem, same⟩]
    apply ranks'.unknown
    intro name mem same
    exact known ((listed x).1 ⟨name, mem, same⟩)

/-- **A table ranks the names of its list**, as long as there are no more different ones than codes.
Any other list of the same names, in whatever order and case and however often they are listed, gives
each name the same code. -/
theorem ofNames_ranks (names : List String) (few : (forms names).length ≤ UInt32.size) :
    (ofNames names).Ranks names ∧
    ∀ names' : List String,
      (∀ form, form ∈ names'.map Caseless.folded ↔ form ∈ names.map Caseless.folded) →
      (ofNames names').codeOf = (ofNames names).codeOf := by
  have ranks : (ofNames names).Ranks names := ranks_ofNames ((size_ofNames names).trans_le few)
  refine ⟨ranks, fun names' same => ?_⟩
  have few' : (ofNames names').size ≤ UInt32.size := by
    rw [size_ofNames, (forms_congr same).length_eq]
    exact few
  exact ranks.codeOf_eq (ranks_ofNames few') same

/-- Names of which two are listed in several cases. -/
def toolNames : List String := ["Wrench", "saw", "SAW", "Hammer", "wrench", "Saw"]

/-- A wrench comes after hammers and saws, and is spelt as in the list; turned round, the list gives
another spelling and the same code. -/
theorem toolNames_ranks : ∃ c, (ofNames toolNames).codeOf "WRENCH" = .ok c ∧ c.index = 2 ∧
    (ofNames toolNames).nameOf? c = some "Wrench" ∧
    (ofNames toolNames.reverse).codeOf "WRENCH" = .ok c := by
  obtain ⟨ranks, same⟩ := ofNames_ranks toolNames (by decide +kernel)
  obtain ⟨c, code⟩ := (ranks.known "WRENCH").2 ⟨"Wrench", List.mem_cons_self, by decide +kernel⟩
  refine ⟨c, code, ?_, ?_, ?_⟩
  · rw [ranks.rank _ _ code]
    decide +kernel
  · rw [ranks.spelling _ _ code]
    decide +kernel
  · rw [same _ fun form => by rw [List.map_reverse, List.mem_reverse], code]

end Express.TypeTable
