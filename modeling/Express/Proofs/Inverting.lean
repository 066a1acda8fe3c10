import Express.Proofs.Levels

/-!
# Inverse attributes of a schema that was built

An inverse attribute names an entity and a forward attribute, which that entity declares or inherits.
In a draft this is checked once, with handles of the draft and for the declaring entity alone; in the
schema it holds for every entity that has the inverse attribute, and for every way to the forward
attribute.

* `Draft.has_carried` — what resolves in the draft resolves in the schema.
* `Draft.mem_allInverse` — an entity of the schema has the inverse attributes of everything that the
  climb in the draft meets.
* `Draft.build_inverse` — so every own or inherited inverse attribute of every schema that is built
  leads to its forward attribute, and to its place among all attributes of the target.
-/

set_option autoImplicit false

namespace Express

namespace Draft

variable {d : Draft} {b g h : Handle} {x y : Declaration} {e : Entity} {v : EntityView}
  {i : InverseAttribute}

theorem content_carried (sound : Sound d) (view : d.blueprint.entity? h = some v) :
    ∃ b x e, d.declarations[b.index]? = some x ∧ x.body = .entity e ∧ d.place b = h ∧
      v.content = { e.rename d.place with subtypes := v.content.subtypes } := by
  obtain ⟨b, x, found, rfl, -⟩ := exists_place sound view
  obtain ⟨-, declaration⟩ := (entity?_place sound found).1 view
  obtain ⟨e, body, -⟩ := entity_carried (declaration ▸ v.isEntity)
  exact ⟨b, x, e, found, body, rfl, content_place sound found body view⟩

theorem level_content (sound : Sound d) (formed : d.WellFormed)
    (found : d.declarations[b.index]? = some x) (view : d.blueprint.entity? (d.place b) = some v)
    (climb : g ∈ d.ancestry b) (at_g : d.declarations[g.index]? = some y)
    (body : y.body = .entity e) :
    ∃ level ∈ v.lineage, d.blueprint.entity? (d.place g) = some level ∧
      level.content = { e.rename d.place with subtypes := level.content.subtypes } := by
  obtain ⟨level, mem, seen⟩ := level_carried sound formed found view climb
  obtain ⟨k, y', e', at_k, body', place, content⟩ := content_carried sound seen
  cases place_injective sound at_k at_g place
  cases at_k.symm.trans at_g
  cases body'.symm.trans body
  exact ⟨level, mem, seen, content⟩

/-- **What resolves in the draft resolves in the schema**: the climb to the owner of the forward
attribute is carried over, and the owner keeps its attributes. -/
theorem has_carried (sound : Sound d) (formed : d.WellFormed) (resolves : d.Resolves i) :
    ∃ target a k, d.blueprint.entity? (d.place i.target) = some target ∧
      target.Has (i.forward.rename d.place) a k := by
  obtain ⟨⟨x, at_target, kind⟩, climbs, y, e, at_owner, body, inside⟩ := resolves
  obtain ⟨target, view⟩ := exists_view sound at_target kind
  obtain ⟨level, mem, seen, content⟩ := level_content sound formed at_target view
    ((ancestry_complete sound _).mem_iff.2 climbs) at_owner body
  have own : i.forward.position < level.attributes.length := by
    rw [EntityView.attributes, content]
    exact inside.trans_eq (List.length_map _).symm
  have schema_sound := blueprint_sound sound formed
  have levels := schema_sound.lineage view
  rw [← (Schema.entity?_eq_some.1 view).1] at levels
  obtain ⟨k, has⟩ : ∃ k, target.Has (i.forward.rename d.place) _ k :=
    EntityView.exists_has levels mem (schema_sound.handle_view seen) (List.getElem?_eq_getElem own)
  exact ⟨target, _, k, view, has⟩

/-- **The inverse attributes of an entity** of the schema are those that the climb in the draft
meets. -/
theorem mem_allInverse (sound : Sound d) (formed : d.WellFormed)
    (found : d.declarations[b.index]? = some x)
    (view : d.blueprint.entity? (d.place b) = some v) :
    i ∈ v.allInverse ↔ ∃ g ∈ d.ancestry b, ∃ y e, d.declarations[g.index]? = some y ∧
      y.body = .entity e ∧ i ∈ e.inverse.map (·.rename d.place) := by
  obtain ⟨-, lineage⟩ := lineage_carried sound found view
  have seen := (blueprint_sound sound formed).lineage view
  refine EntityView.mem_gather.trans ⟨?_, ?_⟩
  · rintro ⟨level, mem, own⟩
    obtain ⟨g, y, e, at_g, body, place, content⟩ := content_carried sound (seen level mem)
    have above : level.handle ∈ (d.ancestry b).map d.place := lineage ▸ List.mem_map_of_mem mem
    obtain ⟨k, climb, same⟩ := List.mem_map.1 above
    obtain ⟨z, at_k⟩ := ancestry_found sound found k climb
    cases place_injective sound at_g at_k (place.trans same.symm)
    rw [content] at own
    exact ⟨g, climb, y, e, at_g, body, own⟩
  · rintro ⟨g, climb, y, e, at_g, body, own⟩
    obtain ⟨level, mem, -, content⟩ := level_content sound formed found view climb at_g body
    refine ⟨level, mem, ?_⟩
    rw [content]
    exact own

/-- **Every inverse attribute leads to its forward attribute** in every schema that is built, whether
the inverse attribute is inherited or not and whether the forward attribute is. -/
theorem build_inverse (registry : Registry) (config : Config) (calls : List Call) {s : Schema}
    (built : (run registry config calls).build = .ok s) {h : Handle} {v : EntityView}
    (view : s.entity? h = some v) {i : InverseAttribute} (mem : i ∈ v.allInverse) :
    ∃ target a k, s.entity? i.target = some target ∧ target.Has i.forward a k := by
  have sound := run_sound registry config calls
  generalize run registry config calls = d at built sound
  obtain ⟨formed, rfl⟩ := (build_eq_ok sound).1 built
  obtain ⟨b, x, at_b, rfl, -⟩ := exists_place sound view
  obtain ⟨g, -, x, e, found, body, own⟩ := (mem_allInverse sound formed at_b view).1 mem
  obtain ⟨i, given, rfl⟩ := List.mem_map.1 own
  exact has_carried sound formed (formed.inverse x (Array.mem_of_getElem? found) e body i given)

/-! ## A small draft -/

/-- The codes of the names in `fastening`. -/
def fasteningCodes : Registry :=
  .ofPairs [("relation", ⟨3⟩), ("fastening", ⟨0⟩), ("part", ⟨2⟩), ("bolt", ⟨1⟩)] []

/-- Relations may have a note and relate a part. A fastening is one of them. A part knows the
fastenings that hold it, and so does a bolt, which is a part. -/
def fastening : List Call :=
  [.add "relation" (.entity none), .add "fastening" (.entity (some ⟨0⟩)),
    .add "part" (.entity none), .add "bolt" (.entity (some ⟨2⟩)),
    .set ⟨0⟩ (.attributes [⟨"note", .simple .string, true⟩, ⟨"related", .named ⟨2⟩, false⟩]
      [false, false]),
    .set ⟨2⟩ (.inverse [⟨"heldBy", .set, 0, none, ⟨1⟩, ⟨0⟩, 1⟩])]

theorem fastening_wellFormed :
    (run fasteningCodes (.plain "fastening") fastening).WellFormed := by
  rw [← check_eq_ok (run_sound _ _ _)]
  simp only [check, seq_eq_ok, checkNames_eq_ok]
  exact ⟨rfl, by decide +kernel, rfl, rfl⟩

/-- A bolt inherits the inverse attribute, and a fastening the attribute that it inverts. -/
theorem fastening_inverse : ∃ s v target a k,
    (run fasteningCodes (.plain "fastening") fastening).build = .ok s ∧
      s.entity? ⟨1⟩ = some v ∧ ⟨"heldBy", .set, 0, none, ⟨0⟩, ⟨3⟩, 1⟩ ∈ v.allInverse ∧
      s.entity? ⟨0⟩ = some target ∧ target.Has ⟨⟨3⟩, 1⟩ a k := by
  have sound := run_sound fasteningCodes (.plain "fastening") fastening
  have built := (build_eq_ok sound).2 ⟨fastening_wellFormed, rfl⟩
  have places : [(0 : UInt32), 1, 2, 3].map
      (fun n => (run fasteningCodes (.plain "fastening") fastening).place ⟨n⟩) =
        [⟨3⟩, ⟨0⟩, ⟨2⟩, ⟨1⟩] := by decide +kernel
  simp only [List.map_cons, List.map_nil, List.cons.injEq] at places
  obtain ⟨relation, fasten, -, bolt, -⟩ := places
  obtain ⟨v, view⟩ := exists_view (h := ⟨3⟩) sound rfl rfl
  have mem : ⟨"heldBy", .set, 0, none, ⟨0⟩, ⟨3⟩, 1⟩ ∈ v.allInverse := by
    refine (mem_allInverse (b := ⟨3⟩) sound fastening_wellFormed rfl view).2
      ⟨⟨2⟩, by decide +kernel, _, _, rfl, rfl, ?_⟩
    rw [← relation, ← fasten]
    exact List.mem_singleton_self _
  rw [bolt] at view
  obtain ⟨target, a, k, led, has⟩ :=
    build_inverse fasteningCodes (.plain "fastening") fastening built view mem
  exact ⟨_, v, target, a, k, built, view, mem, led, has⟩

end Draft

end Express
