import Express.Proofs.Closure
import Express.Proofs.Placing

/-!
# What is inherited comes first

The flattened lists of an entity are put together level by level. Each of them is also what the
supertype has, followed by what the entity declares; so what is inherited never moves, however many
entities are derived one from another.

* `EntityView.Layered.lineage_eq` — the lineage of an entity is the entity and the lineage of its
  supertype.
* `EntityView.flatten_eq`, `EntityView.flatten_ancestor` — a flattened list begins with that of the
  supertype, and with that of every ancestor.
* `EntityView.getElem?_allDerived` — the flag at a place is that of the attribute at this place.
* `EntityView.Accumulates` — what all this makes of the lists of an entity; `Draft.build_flatten` says
  that it holds in every schema that is built.
-/

set_option autoImplicit false

namespace Express

namespace EntityView

variable {α : Type} {v w level : EntityView} {k : Nat} {flag : Bool}

section Layered

variable (layered : v.Layered)

include layered

/-- **The lineage of an entity is the entity and the lineage of its supertype.** -/
theorem Layered.lineage_eq : v.lineage = v :: v.supertype?.elim [] lineage := by
  -- The climb goes on with a climb from the supertype, and there is only one.
  have whole := layered.climb
  have inner := layered.complete
  generalize v.lineage = l at whole inner ⊢
  cases whole with
  | root top => rw [top, Option.elim_none]
  | @up _ b rest link above =>
    have mem : b ∈ rest := List.mem_of_mem_head? above.head?
    have whole := inner b (List.mem_cons_of_mem _ mem)
    rw [link, Option.elim_some, whole.unique above]

/-- **A flattened list is that of the supertype, followed by what the entity declares.** -/
theorem flatten_eq (part : Entity → List α) :
    v.flatten part = v.supertype?.elim [] (flatten part) ++ part v.content := by
  show gather (fun level => part level.content) v.lineage = _
  rw [layered.lineage_eq, gather_cons]
  cases v.supertype? <;> rfl

/-- **A flattened list begins with that of every ancestor.** -/
theorem flatten_ancestor (part : Entity → List α) (mem : w ∈ v.lineage) :
    w.flatten part <+: v.flatten part := by
  obtain ⟨below, above, split⟩ := List.append_of_mem mem
  show gather (fun level => part level.content) w.lineage <+:
    gather (fun level => part level.content) v.lineage
  rw [split, gather_append, layered.lineage_level split]
  exact List.prefix_append _ _

theorem length_allDerived : v.allDerived.length = v.attributeCount :=
  length_gather layered.flags

/-- **The flag at a place is that of the attribute at this place**, as its entity declares it. -/
theorem getElem?_allDerived (found : v.allDerived[k]? = some flag) :
    ∃ id a level, v.Has id a k ∧ v.schema.entity? id.owner = some level ∧
      level.content.derived[id.position]? = some flag := by
  have inside : k < v.attributeCount :=
    length_allDerived layered ▸ (List.getElem?_eq_some_iff.1 found).1
  obtain ⟨below, level, above, own, split, declared, rfl⟩ := exists_level inside
  have mem : level ∈ v.lineage := split ▸ List.mem_append_cons_self
  refine ⟨⟨level.handle, own⟩, _, level,
    layered.has split (List.getElem?_eq_getElem declared), layered.seen level mem, ?_⟩
  have aligned := layered.flags
  rw [split] at aligned
  rw [← found]
  show _ = (gather (fun level => level.content.derived) v.lineage)[countOf above + own]?
  rw [split, getElem?_gather aligned declared]

end Layered

/-- The lists of an entity are those of its supertype with its own at their ends. -/
structure Accumulates (v : EntityView) : Prop where
  /-- The supertype is the entity that is named as such, and there is none only if none is named. -/
  direct : v.supertype?.map (·.handle) = v.content.supertype
  attributes : v.allAttributes = v.supertype?.elim [] allAttributes ++ v.attributes
  derived : v.allDerived = v.supertype?.elim [] allDerived ++ v.content.derived
  inverse : v.allInverse = v.supertype?.elim [] allInverse ++ v.content.inverse
  /-- What an ancestor has stands first, however far up the ancestor is. -/
  ancestors : ∀ w, Relation.ReflTransGen (fun a b => a.supertype? = some b) v w →
    w.allAttributes <+: v.allAttributes ∧ w.allDerived <+: v.allDerived ∧
      w.allInverse <+: v.allInverse
  count : v.attributeCount = v.allAttributes.length
  aligned : v.allDerived.length = v.allAttributes.length
  /-- The flag at a place is the one that goes with the attribute there, where it is declared. -/
  flag : ∀ k flag, v.allDerived[k]? = some flag → ∃ id a level, v.Has id a k ∧
    v.schema.entity? id.owner = some level ∧ level.content.derived[id.position]? = some flag

theorem Layered.accumulates (layered : v.Layered)
    (direct : v.supertype?.map (·.handle) = v.content.supertype) : v.Accumulates := by
  refine ⟨direct, flatten_eq layered _, flatten_eq layered _, flatten_eq layered _, fun w above => ?_,
    v.length_allAttributes.symm, ?_, fun k flag => getElem?_allDerived layered⟩
  · have mem := layered.climb.mem_iff.2 above
    exact ⟨flatten_ancestor layered _ mem, flatten_ancestor layered _ mem, flatten_ancestor layered _ mem⟩
  · rw [length_allDerived layered, v.length_allAttributes]

end EntityView

namespace Draft

/-- **What is inherited comes first** in every schema that is built, for every entity of it: in the
lists of attributes, of flags and of inverse attributes alike. -/
theorem build_flatten (registry : Registry) (config : Config) (calls : List Call) {s : Schema}
    (built : (run registry config calls).build = .ok s) {h : Handle} {v : EntityView}
    (view : s.entity? h = some v) : v.schema = s ∧ v.Accumulates := by
  have sound := run_sound registry config calls
  obtain ⟨formed, rfl⟩ := (build_eq_ok sound).1 built
  have direct := map_handle_supertype? sound formed view
  exact ⟨(Schema.entity?_eq_some.1 view).1, (layered_blueprint sound formed view).accumulates direct⟩

/-- Rings have what discs have, which is what shapes have, and then their own; the third flag is that of
their width. -/
theorem drawing_flatten : ∃ s v w,
    (run drawingCodes (.plain "drawing") drawing).build = .ok s ∧ s.entity? ⟨1⟩ = some v ∧
      v.supertype? = some w ∧ w.handle = ⟨0⟩ ∧ w.attributes = [] ∧
      v.allAttributes = w.allAttributes ++ v.attributes ∧ w.allDerived <+: v.allDerived ∧
      v.allDerived = [false, false, true, false, false] ∧
      ∃ id a level, v.Has id a 2 ∧ s.entity? id.owner = some level ∧
        level.content.derived[id.position]? = some true := by
  obtain ⟨v, w, shape, view, up, lineage, handles, -, none_own, -, derived⟩ := drawing_lineage
  simp only [List.map_cons, List.map_nil, List.cons.injEq] at handles derived
  have flags : v.allDerived = [false, false, true, false, false] := by
    simp [EntityView.allDerived, EntityView.flatten, lineage, derived]
  obtain ⟨schema, accumulates⟩ :=
    build_flatten drawingCodes (.plain "drawing") drawing drawing_built view
  have attributes := accumulates.attributes
  rw [up, Option.elim_some] at attributes
  obtain ⟨-, inherited, -⟩ := accumulates.ancestors w (.single up)
  have flag := accumulates.flag 2 true (by rw [flags]; rfl)
  rw [schema] at flag
  exact ⟨_, v, w, drawing_built, view, up, handles.2.1, none_own, attributes, inherited,
    flags, flag⟩

end Draft

end Express
