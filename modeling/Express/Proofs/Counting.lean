import Express.Proofs.Levels

/-!
# Counting off from the end

An attribute is found by its place without making the flattened list: the place becomes the number of
attributes behind it, and each level that is passed takes its own attributes off this number. The
numbers are natural ones, of which more could be taken than there is.

* `Lapse` — the ways in which counting off could go wrong.
* `EntityView.countOff?`, `EntityView.watchedAt?` — the search with every subtraction watched. A lapse
  ends it and is told.
* `EntityView.countOff?_eq` — where fewer attributes are behind than the levels have, there is no
  lapse: a level that is passed has no more attributes than are behind, and what remains is less
  than what the levels above have.
* `Draft.build_attributeAt` — so in every schema that is built every place is answered, without a lapse,
  with what stands there in the flattened list.
-/

set_option autoImplicit false

namespace Express

/-- How counting off could go wrong. -/
inductive Lapse where
  /-- More is taken from a number than there is. -/
  | belowZero (number taken : Nat)
  /-- No level is left, and the attribute has not been found. -/
  | pastRoot (behind : Nat)
  deriving DecidableEq

/-- The difference of two numbers, unless it is below zero. -/
def minus (number taken : Nat) : Except Lapse Nat :=
  if taken ≤ number then .ok (number - taken) else .error (.belowZero number taken)

theorem minus_eq_ok {number taken : Nat} (enough : taken ≤ number) :
    minus number taken = .ok (number - taken) := if_pos enough

namespace EntityView

/-- Counting off in some levels, as `fromEnd?` does, with every subtraction watched. -/
def countOff? : List EntityView → Nat → Except Lapse (Option Attribute)
  | [], behind => .error (.pastRoot behind)
  | level :: above, behind =>
    if behind < level.attributes.length then do
      let last ← minus level.attributes.length 1
      return level.attributes[← minus last behind]?
    else do
      countOff? above (← minus behind level.attributes.length)

/-- The attribute at a place, as `attributeAt?` finds it, with every subtraction watched. The place is
outside if as many attributes as come before it and the one that is there cannot be taken from all. -/
def watchedAt? (e : EntityView) (index : Nat) : Except Lapse (Option Attribute) :=
  match minus e.attributeCount index >>= (minus · 1) with
  | .ok behind => countOff? e.lineage behind
  | .error _ => .ok none

/-- **Counting off meets no lapse** where the levels have more attributes than are behind. -/
theorem countOff?_eq : ∀ {levels : List EntityView} {behind : Nat}, behind < countOf levels →
    countOff? levels behind = .ok (fromEnd? levels behind)
  | [], _, inside => absurd inside (Nat.not_lt_zero _)
  | level :: above, behind, inside => by
    rw [countOf] at inside
    rw [countOff?, fromEnd?]
    split
    · rename_i own
      rw [minus_eq_ok (by omega)]
      show (minus (level.attributes.length - 1) behind >>= _) = _
      rw [minus_eq_ok (by omega)]
      rfl
    · rename_i passed
      rw [minus_eq_ok (by omega)]
      exact countOff?_eq (by omega)

/-- **No place leads to a lapse**, whether it is inside or not. -/
theorem watchedAt?_eq (e : EntityView) (index : Nat) :
    e.watchedAt? index = .ok (e.attributeAt? index) := by
  unfold watchedAt? attributeAt?
  by_cases inside : index < e.attributeCount
  · have behind : minus e.attributeCount index >>= (minus · 1) =
        .ok (e.attributeCount - index - 1) := by
      rw [minus_eq_ok (by omega)]
      exact minus_eq_ok (by omega)
    rw [behind, if_pos inside]
    apply countOff?_eq
    rw [attributeCount] at inside ⊢
    omega
  · rw [if_neg inside]
    -- Either the place itself is too much, or nothing is left for the attribute that is there.
    by_cases last : index = e.attributeCount
    · rw [last, minus_eq_ok (Nat.le_refl _), Nat.sub_self]
      rfl
    · have beyond : minus e.attributeCount index = .error (.belowZero e.attributeCount index) :=
        if_neg (by omega)
      rw [beyond]
      rfl

end EntityView

namespace Draft

/-- **An attribute is found by its place** in every schema that is built. The levels are the whole climb
to a root; counting off in them meets no lapse, and finds what stands at the place in the flattened
list, for every number that is asked for, and nothing beyond the list. -/
theorem build_attributeAt (registry : Registry) (config : Config) (calls : List Call) {s : Schema}
    (built : (run registry config calls).build = .ok s) {h : Handle} {v : EntityView}
    (view : s.entity? h = some v) :
    Chain.Complete EntityView.supertype? v v.lineage ∧
    v.allAttributes.length = v.attributeCount ∧
    ∀ k, v.watchedAt? k = .ok (v.attributeAt? k) ∧
      (∀ inside : k < v.allAttributes.length, v.attributeAt? k = some v.allAttributes[k]) ∧
      (v.allAttributes.length ≤ k → v.attributeAt? k = none) := by
  have sound := run_sound registry config calls
  obtain ⟨-, rfl⟩ := (build_eq_ok sound).1 built
  refine ⟨(climbs_blueprint sound view).complete, v.length_allAttributes,
    fun k => ⟨v.watchedAt?_eq k, ?_, ?_⟩⟩
  · intro inside
    rw [v.attributeAt?_eq, List.getElem?_eq_getElem inside]
  · intro outside
    rw [v.attributeAt?_eq, List.getElem?_eq_none outside]

/-- Bolts declare no attribute; the first one that they have is that of parts, and there is no other. -/
theorem hardware_attributeAt : ∃ s v labels,
    (run hardwareCodes (.plain "hardware") hardware).build = .ok s ∧ s.entity? ⟨0⟩ = some v ∧
      v.attributes = [] ∧ labels.name = "labels" ∧ v.attributeAt? 0 = some labels ∧
      v.attributeAt? 1 = none ∧ v.watchedAt? 1 = .ok none := by
  have sound := run_sound hardwareCodes (.plain "hardware") hardware
  have bolt : (run hardwareCodes (.plain "hardware") hardware).place ⟨2⟩ = ⟨0⟩ := by decide +kernel
  obtain ⟨v, view⟩ := exists_view (h := ⟨2⟩) sound rfl rfl
  obtain ⟨-, w, above, up⟩ := exists_supertype (h := ⟨2⟩) (p := ⟨1⟩) sound rfl view rfl
  -- The lineage of bolts are bolts and parts.
  obtain ⟨climbs, handles⟩ := lineage_carried (b := ⟨2⟩) sound rfl view
  have two : v.lineage.length = 2 := by
    rw [← List.length_map, handles]
    decide +kernel
  obtain ⟨a, b, lineage⟩ := List.length_eq_two.1 two
  have first := climbs.first
  have links := climbs.links
  rw [lineage] at first links
  cases first
  cases (List.isChain_pair.1 links).symm.trans up
  have none_own : v.attributes = [] := by
    rw [EntityView.attributes, content_place (h := ⟨2⟩) sound rfl rfl view]
    rfl
  have labels : w.attributes.map (·.name) = ["labels"] := by
    rw [EntityView.attributes, content_place (h := ⟨1⟩) sound rfl rfl above]
    rfl
  obtain ⟨labels, own, name⟩ := List.map_eq_singleton_iff.1 labels
  have all : v.allAttributes = [labels] := by
    show v.lineage.reverse.flatMap EntityView.attributes = _
    simp [lineage, own, none_own]
  rw [bolt] at view
  obtain ⟨-, -, agrees⟩ :=
    build_attributeAt hardwareCodes (.plain "hardware") hardware hardware_built view
  obtain ⟨-, inside, -⟩ := agrees 0
  obtain ⟨watched, -, outside⟩ := agrees 1
  have beyond := outside (by rw [all]; exact Nat.le_refl 1)
  refine ⟨_, v, labels, hardware_built, view, none_own, name, ?_, beyond, watched.trans ?_⟩
  · rw [inside (by rw [all]; exact Nat.one_pos)]
    simp only [all, List.getElem_cons_zero]
  · rw [beyond]

end Draft

end Express
