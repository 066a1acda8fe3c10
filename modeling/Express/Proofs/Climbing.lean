import Express.Basic
import Mathlib.Data.List.Chain
import Mathlib.Data.List.Nodup
import Mathlib.Logic.Relation

/-!
# Chains that reach a root

`Chain.ascend` cuts a chain off after a number of nodes. A chain that is not cut off ends in a root.

* `Chain.Complete` — a list is the whole chain of a node: the derivation is finite and ends in a
  node without a parent, so that there is such a list only if the climb comes to an end.
* `Chain.ascend_complete` — where a measure falls from each node to its parent and is below the
  bound, `ascend` gives the whole chain; `Chain.Complete.ascend_eq` — any other bound that is large
  enough gives the same one.
* `Chain.Complete.of_append` — from each of its nodes on, the chain is that of the node;
  `Chain.Complete.nodup` — so no node is met twice.
* `Chain.Complete.mem_iff` — the chain consists of the nodes that parents lead to.
* `Chain.Complete.subset`, `Chain.Complete.antisymm`, `Chain.Complete.comparable` — meeting is an
  order, in which the nodes above a node are in a row; `Chain.Complete.map` — chains are carried over.
* `Chain.forall_ascend` — induction up a chain, wherever it is cut off.
-/

set_option autoImplicit false

namespace Express.Chain

variable {α : Type} {parent : α → Option α}

/-- A list is the whole chain of a node, from the node itself up to a root. -/
inductive Complete (parent : α → Option α) : α → List α → Prop
  | root {a : α} (top : parent a = none) : Complete parent a [a]
  | up {a b : α} {l : List α} (link : parent a = some b) (rest : Complete parent b l) :
    Complete parent a (a :: l)

namespace Complete

variable {a b : α} {l m : List α}

theorem unique (whole : Complete parent a l) (other : Complete parent a m) : l = m := by
  induction whole generalizing m with
  | root top =>
    cases other with
    | root => rfl
    | up link => exact absurd (top.symm.trans link) nofun
  | up link rest ih =>
    cases other with
    | root top => exact absurd (top.symm.trans link) nofun
    | up link' rest' =>
      cases link.symm.trans link'
      rw [ih rest']

/-- The chain depends on the parents of its nodes only. -/
theorem congr {parent' : α → Option α} (whole : Complete parent a l)
    (same : ∀ x ∈ l, parent' x = parent x) : Complete parent' a l := by
  induction whole with
  | root top => exact .root ((same _ List.mem_cons_self).trans top)
  | up link rest ih =>
    obtain ⟨first, others⟩ := List.forall_mem_cons.1 same
    exact .up (first.trans link) (ih others)

theorem head? (whole : Complete parent a l) : l.head? = some a := by
  cases whole <;> rfl

theorem isChain (whole : Complete parent a l) : l.IsChain fun x y => parent x = some y := by
  induction whole with
  | root => exact .singleton _
  | up link rest ih =>
    cases rest with
    | root => exact .cons_cons link (.singleton _)
    | up link' rest' => exact .cons_cons link ih

theorem last (whole : Complete parent a l) : ∀ z ∈ l.getLast?, parent z = none := by
  induction whole with
  | root top =>
    intro z mem
    cases mem
    exact top
  | up link rest ih =>
    cases rest with
    | root top => exact ih
    | up link' rest' => exact ih

/-- **The chain of a member is the part of the chain from it on.** -/
theorem of_append (whole : Complete parent a l) :
    ∀ {below above : List α} {x : α}, l = below ++ x :: above →
      Complete parent x (x :: above) := by
  induction whole with
  | root top =>
    intro below above x split
    rcases List.cons_eq_append_iff.1 split with ⟨-, same⟩ | ⟨below', -, empty⟩
    · cases same
      exact .root top
    · exact absurd empty (by simp)
  | up link rest ih =>
    intro below above x split
    rcases List.cons_eq_append_iff.1 split with ⟨-, same⟩ | ⟨below', -, split'⟩
    · cases same
      exact .up link rest
    · exact ih split'

/-- The chain of a member is shorter or the same. -/
theorem of_mem (whole : Complete parent a l) {x : α} (mem : x ∈ l) :
    ∃ m, Complete parent x m ∧ m.length ≤ l.length := by
  obtain ⟨below, above, rfl⟩ := List.append_of_mem mem
  refine ⟨x :: above, whole.of_append rfl, ?_⟩
  rw [List.length_append]
  omega

/-- **No node is met twice.** A node above itself would have two chains of different lengths. -/
theorem nodup (whole : Complete parent a l) : l.Nodup := by
  induction whole with
  | root => exact List.nodup_singleton _
  | @up a b l link rest ih =>
    refine List.nodup_cons.2 ⟨fun above => ?_, ih⟩
    obtain ⟨m, again, shorter⟩ := rest.of_mem above
    have same := (Complete.up link rest).unique again
    rw [← same, List.length_cons] at shorter
    omega

/-- **The chain has the nodes that parents lead to**, and no others. -/
theorem mem_iff (whole : Complete parent a l) {x : α} :
    x ∈ l ↔ Relation.ReflTransGen (fun y z => parent y = some z) a x := by
  induction whole with
  | root top =>
    rw [List.mem_singleton, Relation.ReflTransGen.cases_head_iff]
    constructor
    · rintro rfl
      exact .inl rfl
    · rintro (rfl | ⟨y, link, -⟩)
      · rfl
      · exact absurd (top.symm.trans link) nofun
  | @up a b l link rest ih =>
    rw [List.mem_cons, ih, Relation.ReflTransGen.cases_head_iff (a := a)]
    constructor
    · rintro (same | above)
      · exact .inl same.symm
      · exact .inr ⟨_, link, above⟩
    · rintro (same | ⟨y, link', above⟩)
      · exact .inl same.symm
      · cases link.symm.trans link'
        exact .inr above

theorem subset {b : α} (whole : Complete parent a l) (up : b ∈ l) (from_b : Complete parent b m) :
    m ⊆ l := by
  obtain ⟨below, above, rfl⟩ := List.append_of_mem up
  rw [from_b.unique (whole.of_append rfl)]
  exact List.subset_append_right _ _

theorem antisymm {b : α} (from_a : Complete parent a l) (from_b : Complete parent b m) (up : b ∈ l)
    (down : a ∈ m) : a = b := by
  obtain ⟨below, above, rfl⟩ := List.append_of_mem up
  obtain ⟨n, again, shorter⟩ := from_b.of_mem down
  rw [← from_a.unique again, from_b.unique (from_a.of_append rfl), List.length_append] at shorter
  have none_below : below = [] := List.eq_nil_of_length_eq_zero (by omega)
  have first := from_a.head?
  rw [none_below] at first
  exact (Option.some.inj first).symm

/-- **Of two nodes that a chain meets, one meets the other.** -/
theorem comparable {b c : α} {n : List α} (whole : Complete parent a l)
    (from_b : Complete parent b m) (from_c : Complete parent c n) (to_b : b ∈ l) (to_c : c ∈ l) :
    c ∈ m ∨ b ∈ n := by
  obtain ⟨below, above, rfl⟩ := List.append_of_mem to_b
  rcases List.mem_append.1 to_c with lower | higher
  · right
    obtain ⟨lowest, between, rfl⟩ := List.append_of_mem lower
    rw [List.append_assoc] at whole
    rw [from_c.unique (whole.of_append rfl)]
    exact List.mem_cons_of_mem _ (List.mem_append_right _ List.mem_cons_self)
  · left
    rwa [from_b.unique (whole.of_append rfl)]

/-- A chain is carried over by a function that takes parents to parents. -/
theorem map {β : Type} {parent' : β → Option β} (f : α → β) (whole : Complete parent a l)
    (carries : ∀ x ∈ l, parent' (f x) = (parent x).map f) : Complete parent' (f a) (l.map f) := by
  induction whole with
  | root top =>
    refine .root ?_
    rw [carries _ List.mem_cons_self, top, Option.map_none]
  | up link rest ih =>
    obtain ⟨first, others⟩ := List.forall_mem_cons.1 carries
    refine .up ?_ (ih others)
    rw [first, link, Option.map_some]

/-- A bound that the chain does not exceed cuts nothing off. -/
theorem ascend_eq (whole : Complete parent a l) :
    ∀ {steps : Nat}, l.length ≤ steps → ascend parent steps a = l := by
  induction whole with
  | root top =>
    intro steps enough
    obtain ⟨n, rfl⟩ : ∃ n, steps = n + 1 := ⟨steps - 1, by simp at enough; omega⟩
    rw [ascend, top]
  | up link rest ih =>
    intro steps enough
    obtain ⟨n, rfl⟩ : ∃ n, steps = n + 1 := ⟨steps - 1, by simp at enough; omega⟩
    rw [ascend, link]
    simp only [ih (Nat.le_of_succ_le_succ enough)]

end Complete

/-- What a node has, and each parent has of its child, all nodes of the chain have. -/
theorem forall_ascend {P : α → Prop} (up : ∀ {a b : α}, P a → parent a = some b → P b) :
    ∀ {steps : Nat} {a : α}, P a → ∀ x ∈ ascend parent steps a, P x
  | 0, _, _, _, mem => nomatch mem
  | steps + 1, a, first, x, mem => by
    rw [ascend] at mem
    rcases List.mem_cons.1 mem with rfl | above
    · exact first
    · cases link : parent a with
      | none => simp [link] at above
      | some b =>
        rw [link] at above
        exact forall_ascend up (up first link) x above

/-- **Where a measure falls on the way up, the climb reaches a root** within the measure. -/
theorem ascend_complete (rank : α → Nat)
    (falls : ∀ {a b : α}, parent a = some b → rank b < rank a) :
    ∀ {steps : Nat} {a : α}, rank a < steps → Complete parent a (ascend parent steps a)
  | 0, _, low => absurd low (Nat.not_lt_zero _)
  | steps + 1, a, low => by
    rw [ascend]
    cases link : parent a with
    | none => exact .root link
    | some b =>
      have := falls link
      exact .up link (ascend_complete rank falls (by omega))

end Express.Chain
