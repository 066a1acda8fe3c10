import Express.Proofs.Building
import Express.Schema.Inheritance

/-!
# Supertypes in a schema that was built

In a draft a supertype has a smaller handle than its subtypes. In the schema it may stand on either
side of them, so the climb along supertypes is followed from the draft, where it ends.

* `EntityView.Climbs` — the climb from an entity: it ends in an entity without a supertype and
  meets no entity twice.
* `Draft.climb_carried` — a whole chain of the draft becomes a whole chain of the schema.
* `Draft.lineage_carried` — so the bound of the lineage of an entity cuts nothing off.
* `Draft.build_lineage` — every entity of every schema that is built has a climb, and it meets
  the places of what the climb in the draft meets.
-/

set_option autoImplicit false

namespace Express

/-! ## Views of entities -/

theorem Schema.view?_eq_some {s : Schema} {x : Declaration} {v : EntityView} :
    s.view? x = some v ↔ v.schema = s ∧ v.declaration = x := by
  unfold view?
  constructor
  · intro seen
    split at seen
    · cases seen
      exact ⟨rfl, rfl⟩
    · cases seen
  · obtain ⟨schema, declaration, content, isEntity⟩ := v
    rintro ⟨rfl, rfl⟩
    split
    · rename_i other body
      cases isEntity.symm.trans body
      rfl
    · rename_i none_fits
      exact absurd isEntity (none_fits content)

theorem Schema.entity?_eq_some {s : Schema} {h : Handle} {v : EntityView} :
    s.entity? h = some v ↔ v.schema = s ∧ s.declarations[h.index]? = some v.declaration := by
  unfold entity?
  simp only [Option.bind_eq_some_iff, view?_eq_some]
  constructor
  · rintro ⟨x, found, schema, rfl⟩
    exact ⟨schema, found⟩
  · rintro ⟨schema, found⟩
    exact ⟨_, found, schema, rfl⟩

theorem EntityView.supertype?_declaration (v : EntityView) :
    v.declaration.supertype? = v.content.supertype := by
  simp [Declaration.supertype?, Declaration.asEntity?, v.isEntity]

theorem EntityView.kind_declaration (v : EntityView) : v.declaration.kind = .entity := by
  simp [Declaration.kind, Body.kind, v.isEntity]

/-- The climb from an entity along supertypes. -/
structure EntityView.Climbs (v : EntityView) : Prop where
  /-- The climb ends, and the lineage is all of it. -/
  complete : Chain.Complete supertype? v v.lineage
  first : v.lineage.head? = some v
  /-- Each entity is followed by its supertype. -/
  links : v.lineage.IsChain fun a b => a.supertype? = some b
  last : ∀ top ∈ v.lineage.getLast?, top.content.supertype = none
  /-- No entity is met twice. -/
  once : (v.lineage.map (·.handle)).Nodup
  few : v.lineage.length ≤ v.schema.entities.length

namespace Draft

variable {d : Draft} {b h : Handle} {x : Declaration} {v : EntityView}

theorem entity?_place (sound : Sound d) (found : d.declarations[h.index]? = some x) :
    d.blueprint.entity? (d.place h) = some v ↔
      v.schema = d.blueprint ∧ v.declaration = d.carried h x := by
  have at_place := (blueprint_found sound).2 ⟨h, x, found, rfl, rfl⟩
  rw [Schema.entity?_eq_some, index_place sound found, at_place, Option.some.injEq]
  exact and_congr_right fun _ => eq_comm

theorem supertype_place (sound : Sound d) (found : d.declarations[h.index]? = some x)
    (view : d.blueprint.entity? (d.place h) = some v) :
    v.content.supertype = (d.supertypeOf? h).map d.place := by
  obtain ⟨-, declaration⟩ := (entity?_place sound found).1 view
  rw [← v.supertype?_declaration, declaration, supertype?_carried, supertypeOf?, found,
    Option.bind_some]

theorem exists_view (sound : Sound d) (found : d.declarations[h.index]? = some x)
    (kind : x.kind = .entity) : ∃ v, d.blueprint.entity? (d.place h) = some v := by
  obtain ⟨e, body⟩ := Declaration.kind_eq_entity.1 ((kind_carried (h := h)).trans kind)
  exact ⟨⟨d.blueprint, d.carried h x, e, body⟩, (entity?_place sound found).2 ⟨rfl, rfl⟩⟩

theorem exists_supertype (sound : Sound d) (found : d.declarations[h.index]? = some x)
    (view : d.blueprint.entity? (d.place h) = some v) {p : Handle}
    (link : d.supertypeOf? h = some p) :
    (∃ y, d.declarations[p.index]? = some y) ∧
      ∃ w, d.blueprint.entity? (d.place p) = some w ∧ v.supertype? = some w := by
  obtain ⟨y, at_p, kind⟩ := supertype_found sound link
  obtain ⟨w, above⟩ := exists_view sound at_p kind
  refine ⟨⟨y, at_p⟩, w, above, ?_⟩
  rw [EntityView.supertype?, supertype_place sound found view, link,
    ((entity?_place sound found).1 view).1]
  exact above

theorem exists_place (sound : Sound d) (view : d.blueprint.entity? h = some v) :
    ∃ b x, d.declarations[b.index]? = some x ∧ d.place b = h ∧ v.handle = h := by
  obtain ⟨-, at_h⟩ := Schema.entity?_eq_some.1 view
  obtain ⟨b, x, found, rank, same⟩ := (blueprint_found sound).1 at_h
  have place : d.place b = h := Handle.ext_index ((index_place sound found).trans rank)
  refine ⟨b, x, found, place, ?_⟩
  rw [EntityView.handle, same, handle_carried sound found, place]

theorem no_supertype (sound : Sound d) (view : d.blueprint.entity? h = some v)
    (top : v.supertype? = none) : v.content.supertype = none := by
  obtain ⟨b, x, found, rfl, -⟩ := exists_place sound view
  rw [supertype_place sound found view, Option.map_eq_none_iff]
  cases link : d.supertypeOf? b with
  | none => rfl
  | some p =>
    obtain ⟨-, w, -, up⟩ := exists_supertype sound found view link
    exact absurd (top.symm.trans up) nofun

/-! ## From chains of handles to chains of entities -/

/-- **The climb is carried into the schema**: the whole chain of a handle becomes the whole chain of
the entity at its place. -/
theorem climb_carried (sound : Sound d) {l : List Handle}
    (whole : Chain.Complete d.supertypeOf? b l) :
    ∀ {x : Declaration} {v : EntityView}, d.declarations[b.index]? = some x →
      d.blueprint.entity? (d.place b) = some v →
      ∃ views, Chain.Complete EntityView.supertype? v views ∧
        views.map (·.handle) = l.map d.place ∧
        ∀ w ∈ views, d.blueprint.entity? w.handle = some w := by
  induction whole with
  | @root b top =>
    intro x v found view
    obtain ⟨-, -, -, -, handle⟩ := exists_place sound view
    have supertype := supertype_place sound found view
    rw [top] at supertype
    refine ⟨[v], .root ?_, by rw [List.map_singleton, handle, List.map_singleton], ?_⟩
    · rw [EntityView.supertype?, supertype]
      rfl
    · intro w mem
      cases List.mem_singleton.1 mem
      rw [handle, view]
  | @up b p l link rest ih =>
    intro x v found view
    obtain ⟨-, -, -, -, handle⟩ := exists_place sound view
    obtain ⟨⟨y, at_p⟩, w, above, up⟩ := exists_supertype sound found view link
    obtain ⟨views, whole, handles, seen⟩ := ih at_p above
    refine ⟨v :: views, .up up whole, by rw [List.map_cons, handle, handles, List.map_cons], ?_⟩
    refine List.forall_mem_cons.2 ⟨?_, seen⟩
    rw [handle, view]

theorem handle_mem_entities (sound : Sound d) (view : d.blueprint.entity? h = some v) :
    h ∈ d.blueprint.entities := by
  obtain ⟨-, -, -, -, handle⟩ := exists_place sound view
  obtain ⟨-, at_h⟩ := Schema.entity?_eq_some.1 view
  refine List.mem_map.2 ⟨v.declaration, List.mem_filter.2 ⟨?_, ?_⟩, handle⟩
  · exact Array.mem_toList_iff.2 (Array.mem_of_getElem? at_h)
  · exact decide_eq_true v.kind_declaration

/-- **The climb from an entity of the schema** ends, and meets the places of what the climb in the
draft meets. -/
theorem lineage_carried (sound : Sound d) (found : d.declarations[b.index]? = some x)
    (view : d.blueprint.entity? (d.place b) = some v) :
    v.Climbs ∧ v.lineage.map (·.handle) = (d.ancestry b).map d.place := by
  obtain ⟨schema, -⟩ := (entity?_place sound found).1 view
  obtain ⟨views, whole, handles, seen⟩ := climb_carried sound (ancestry_complete sound b) found view
  -- The handles are different, and those of entities, so the bound of the lineage is large enough.
  have once : (views.map (·.handle)).Nodup := by
    refine whole.nodup.map_on fun w mw u mu same => ?_
    have := seen w mw
    rw [same, seen u mu] at this
    exact (Option.some.inj this).symm
  have few : views.length ≤ d.blueprint.entities.length := by
    have inside : views.map (·.handle) ⊆ d.blueprint.entities := by
      intro k mem
      obtain ⟨w, member, rfl⟩ := List.mem_map.1 mem
      exact handle_mem_entities sound (seen w member)
    simpa using (List.subperm_of_subset once inside).length_le
  have bound : d.blueprint.entities.length ≤ d.blueprint.size := by
    refine (List.length_map _).trans_le ((List.length_filter_le _ _).trans ?_)
    rw [Array.length_toList]
    rfl
  have lineage : v.lineage = views := by
    refine whole.ascend_eq ?_
    rw [schema]
    omega
  refine ⟨⟨lineage ▸ whole, ?_, ?_, ?_, lineage ▸ once, ?_⟩, by rw [lineage, handles]⟩
  · rw [lineage, whole.head?]
  · rw [lineage]
    exact whole.isChain
  · intro top mem
    rw [lineage] at mem
    exact no_supertype sound (seen top (List.mem_of_getLast? mem)) (whole.last top mem)
  · rw [lineage, schema]
    exact few

theorem climbs_blueprint (sound : Sound d) (view : d.blueprint.entity? h = some v) :
    v.Climbs := by
  obtain ⟨b, x, found, rfl, -⟩ := exists_place sound view
  exact (lineage_carried sound found view).1

/-- **Supertypes form a forest in every schema that is built**, and the climb from an entity meets
the places of what the climb in the draft meets, which ends as well, from any handle. -/
theorem build_lineage (registry : Registry) (config : Config) (calls : List Call) :
    (∀ b, Chain.Complete (run registry config calls).supertypeOf? b
      ((run registry config calls).ancestry b)) ∧
    ∀ (s : Schema) (h : Handle) (v : EntityView), (run registry config calls).build = .ok s →
      s.entity? h = some v → v.Climbs ∧
        ∃ b, b.index < (run registry config calls).size ∧ (run registry config calls).place b = h ∧
          v.lineage.map (·.handle) =
            ((run registry config calls).ancestry b).map (run registry config calls).place := by
  have sound := run_sound registry config calls
  generalize run registry config calls = d at sound
  refine ⟨ancestry_complete sound, fun s h v built view => ?_⟩
  obtain ⟨-, rfl⟩ := (build_eq_ok sound).1 built
  obtain ⟨b, x, found, rfl, -⟩ := exists_place sound view
  obtain ⟨climbs, lineage⟩ := lineage_carried sound found view
  exact ⟨climbs, b, lt_size found, rfl, lineage⟩

/-- A bolt stands before the part that it is, although it was added after it. -/
theorem hardware_lineage : ∃ s v, (run hardwareCodes (.plain "hardware") hardware).build = .ok s ∧
    s.entity? ⟨0⟩ = some v ∧ v.Climbs ∧ v.lineage.map (·.handle) = [⟨0⟩, ⟨2⟩] := by
  have sound := run_sound hardwareCodes (.plain "hardware") hardware
  have place : (run hardwareCodes (.plain "hardware") hardware).place ⟨2⟩ = ⟨0⟩ := by decide +kernel
  obtain ⟨v, view⟩ := exists_view (h := ⟨2⟩) sound rfl rfl
  rw [place] at view
  obtain ⟨climbs, b, inside, same, lineage⟩ :=
    (build_lineage hardwareCodes (.plain "hardware") hardware).2 _ ⟨0⟩ v hardware_built view
  obtain ⟨x, found⟩ := found_of_lt inside
  cases place_injective (h := ⟨2⟩) sound found rfl (same.trans place.symm)
  refine ⟨_, v, hardware_built, view, climbs, lineage.trans ?_⟩
  decide +kernel

end Draft

end Express
