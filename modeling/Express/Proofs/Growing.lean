import Express.Proofs.Closure
import Express.Proofs.Extending
import Express.Proofs.Likeness

/-!
# Schemas of drafts that grow

A declaration that is added may come first in the order of codes, and then every handle of the schema
is another one. What was declared before reads as it did.

* `Draft.Shows` — an entity stands in the schema at the place of a handle; `Draft.shows_lineage` and
  `Draft.shows_listed` say which entities are above and below it.
* `Draft.mem_labels_heirs` — the subtypes that are made while building, with their codes and names.
* `Draft.GrowsInto.levelAlike` — an entity of a draft declares alike in the schemas of the draft and of
  one that it has grown into; `Draft.GrowsInto.inheritsAlike` — and so does every level above it.
* `Draft.GrowsInto.subtypes_listed_eq`, `Draft.GrowsInto.subtypes_unlisted_eq` — of the subtypes in the
  later schema, those that were there before are the ones before, in the same order.
* `Draft.build_extended` — what is read off a schema without handles is read off every schema that a
  longer run gives, where the run goes on by adding declarations and setting these.
-/

set_option autoImplicit false

namespace Express

/-- The code and the name of a declaration. -/
def Declaration.label (x : Declaration) : TypeCode × String := (x.code, x.name)

theorem Schema.eq_of_map_handle {s : Schema} (sound : s.Sound) {l m : List Declaration}
    (hl : ∀ x ∈ l, x ∈ s.declarations) (hm : ∀ x ∈ m, x ∈ s.declarations)
    (same : l.map (·.handle) = m.map (·.handle)) : l = m := by
  have left := declarationsOf_map_handle sound hl
  rw [same, declarationsOf_map_handle sound hm] at left
  exact (Except.ok.inj left).symm

namespace Draft

variable {d d' : Draft} {g h : Handle} {x y : Declaration} {v v' : EntityView}
  {views views' : List EntityView} {l : List Handle}

/-! ## Places -/

theorem declaration_place (sound : Sound d) (found : d.declarations[h.index]? = some x) :
    d.blueprint.declaration (d.place h) = .ok (d.carried h x) := by
  rw [Schema.declaration_eq_ok, index_place sound found, blueprint_found sound]
  exact ⟨h, x, found, rfl, rfl⟩

theorem body_carried (other : x.kind ≠ .entity) :
    (d.carried h x).body = x.body.rename d.place := by
  unfold carried
  split
  · rfl
  · obtain ⟨handle, code, name, body⟩ := x
    cases body with
    | entity e => exact absurd rfl other
    | _ => rfl

theorem inherits_carried (sound : Sound d) (found : d.declarations[h.index]? = some x)
    (at_g : d.declarations[g.index]? = some y) :
    (d.carried g y).supertype? = some (d.place h) ↔ y.supertype? = some h := by
  rw [supertype?_carried, supertype?_map_place sound found at_g]

/-- An entity is the one at the place of a handle, in the schema of the draft. -/
def Shows (d : Draft) (g : Handle) (w : EntityView) : Prop :=
  d.blueprint.entity? (d.place g) = some w

/-- Entities with the places of some handles are the entities at these places. -/
theorem shows_of_handles (handles : views.map (·.handle) = l.map d.place)
    (seen : ∀ w ∈ views, d.blueprint.entity? w.handle = some w) : List.Forall₂ d.Shows l views := by
  induction l generalizing views with
  | nil =>
    cases List.map_eq_nil_iff.1 handles
    exact .nil
  | cons g l ih =>
    obtain ⟨w, rest, rfl, handle, others⟩ := List.map_eq_cons_iff.1 handles
    obtain ⟨first, later⟩ := List.forall_mem_cons.1 seen
    refine .cons ?_ (ih others later)
    rwa [Shows, ← handle]

theorem shows_lineage (sound : Sound d) (formed : d.WellFormed)
    (found : d.declarations[h.index]? = some x) (view : d.Shows h v) :
    List.Forall₂ d.Shows (d.ancestry h) v.lineage := by
  obtain ⟨-, climb⟩ := lineage_carried sound found view
  exact shows_of_handles climb ((blueprint_sound sound formed).lineage view)

theorem shows_listed (sound : Sound d) (formed : d.WellFormed)
    (found : d.declarations[h.index]? = some x) (given : h ∈ d.explicit) {e : Entity}
    (body : x.body = .entity e) (view : d.Shows h v) :
    List.Forall₂ d.Shows e.subtypes v.subtypes := by
  obtain ⟨-, declaration⟩ := (entity?_place sound found).1 view
  obtain ⟨e', body', listed⟩ := subtypes_listed given (declaration ▸ v.isEntity)
  cases body.symm.trans body'
  exact shows_of_handles ((map_handle_subtypes sound formed view).trans listed)
    ((blueprint_sound sound formed).subtypes view)

/-! ## Subtypes that are made -/

/-- The subtypes that were not listed, in the order of their codes. -/
theorem declarations_subtypes (sound : Sound d) (formed : d.WellFormed)
    (found : d.declarations[h.index]? = some x) (absent : h ∉ d.explicit) (view : d.Shows h v) :
    v.subtypes.map (·.declaration) =
      d.blueprint.declarations.toList.filter (·.inheritsFrom (d.place h)) := by
  have schema := blueprint_sound sound formed
  obtain ⟨-, declaration⟩ := (entity?_place sound found).1 view
  apply Schema.eq_of_map_handle schema
  · intro y mem
    obtain ⟨w, sub, rfl⟩ := List.mem_map.1 mem
    exact Array.mem_of_getElem? (Schema.entity?_eq_some.1 (schema.subtypes view w sub)).2
  · intro y mem
    exact Array.mem_toList_iff.1 (List.mem_filter.1 mem).1
  · have made := subtypes_unlisted sound found absent (declaration ▸ v.isEntity)
    rw [← heirs_blueprint] at made
    rw [List.map_map]
    exact (map_handle_subtypes sound formed view).trans made

/-- **What inherits in the schema is what inherits in the draft**, by code and name. -/
theorem mem_labels_heirs (sound : Sound d) (found : d.declarations[h.index]? = some x)
    {label : TypeCode × String} :
    label ∈ (d.blueprint.declarations.toList.filter (·.inheritsFrom (d.place h))).map
        Declaration.label ↔
      ∃ (g : Handle) (y : Declaration), d.declarations[g.index]? = some y ∧
        y.supertype? = some h ∧ y.label = label := by
  have same (g : Handle) (y : Declaration) : (d.carried g y).label = y.label := by
    rw [Declaration.label, code_carried, name_carried, Declaration.label]
  simp only [List.mem_map, List.mem_filter, Array.mem_toList_iff, Declaration.inheritsFrom_iff,
    mem_blueprint sound]
  constructor
  · rintro ⟨_, ⟨⟨g, y, at_g, rfl⟩, link⟩, rfl⟩
    exact ⟨g, y, at_g, (inherits_carried sound found at_g).1 link, (same g y).symm⟩
  · rintro ⟨g, y, at_g, link, rfl⟩
    exact ⟨_, ⟨⟨g, y, at_g, rfl⟩, (inherits_carried sound found at_g).2 link⟩, same g y⟩

theorem labels_ascend (sound : Sound d) :
    ((d.blueprint.declarations.toList.filter (·.inheritsFrom (d.place h))).map
      Declaration.label).Pairwise fun a b => a.1.index < b.1.index := by
  rw [List.pairwise_map]
  exact (codes_ascend sound).filter _

/-! ## Before and after -/

namespace GrowsInto

section Steady

variable (grows : d.GrowsInto d') (sound : Sound d) (sound' : Sound d')

include grows sound sound'

theorem namesAlike (found : d.declarations[h.index]? = some x) :
    d.blueprint.NamesAlike d'.blueprint (d.place h) (d'.place h) :=
  ⟨_, _, declaration_place sound found, declaration_place sound' (grows.kept found),
    name_carried.trans name_carried.symm⟩

theorem namesAlike_of_holds (formed : d.WellFormed) (found : d.declarations[g.index]? = some x)
    (holds : x.Holds h) : d.blueprint.NamesAlike d'.blueprint (d.place h) (d'.place h) := by
  obtain ⟨y, at_h⟩ := found_of_lt (formed.closed x (Array.mem_of_getElem? found) h holds)
  exact grows.namesAlike sound sound' at_h

theorem bodyAlike (formed : d.WellFormed) (found : d.declarations[h.index]? = some x) :
    Body.Alike d.blueprint d'.blueprint (d.carried h x).body (d'.carried h x).body := by
  by_cases entity : x.kind = .entity
  · have kind {d : Draft} : (d.carried h x).kind = .entity := kind_carried.trans entity
    obtain ⟨e, before⟩ := Declaration.kind_eq_entity.1 (kind (d := d))
    obtain ⟨e', after⟩ := Declaration.kind_eq_entity.1 (kind (d := d'))
    rw [before, after]
    exact .entity e e'
  · have known {k : Handle} (holds : x.Holds k) :=
      grows.namesAlike_of_holds sound sound' formed found holds
    rw [body_carried entity, body_carried entity]
    cases body : x.body with
    | type t =>
      refine .type (DataType.alike_rename fun k mem => known ?_)
      exact .underlying body (DataType.mem_references_iff.1 mem)
    | select handles =>
      obtain ⟨members, members', before, after, names⟩ :=
        Schema.exists_members fun k mem => known (.member body mem)
      exact .select before after names
    | enumeration items => exact .enumeration items
    | entity e => exact absurd (Declaration.kind_eq_entity.2 ⟨e, body⟩) entity

/-- **An entity declares as it did before.** -/
theorem levelAlike (formed : d.WellFormed) (found : d.declarations[h.index]? = some x)
    (view : d.Shows h v) (view' : d'.Shows h v') :
    EntityView.LevelAlike d.blueprint d'.blueprint v v' := by
  have found' := grows.kept found
  obtain ⟨-, declaration⟩ := (entity?_place sound found).1 view
  obtain ⟨-, declaration'⟩ := (entity?_place sound' found').1 view'
  obtain ⟨e, body, -⟩ := entity_carried (declaration ▸ v.isEntity)
  have content := content_place sound found body view
  have content' := content_place sound' found' body view'
  refine ⟨?_, ?_, ?_, ?_, ?_⟩
  · rw [EntityView.code, EntityView.code, declaration, declaration', code_carried, code_carried]
  · rw [EntityView.name, EntityView.name, declaration, declaration', name_carried, name_carried]
  · rw [EntityView.attributes, EntityView.attributes, content, content']
    show List.Forall₂ _ (e.attributes.map _) (e.attributes.map _)
    rw [List.forall₂_map_left_iff, List.forall₂_map_right_iff, List.forall₂_same]
    intro a own
    refine Attribute.alike_rename fun k mem => ?_
    have holds : x.Holds k := .attributeType body own (DataType.mem_references_iff.1 mem)
    exact grows.namesAlike_of_holds sound sound' formed found holds
  · rw [content, content']
    rfl
  · rw [content, content']
    show (e.inverse.map _).map _ = (e.inverse.map _).map _
    rw [List.map_map, List.map_map]
    rfl

theorem forall₂_levelAlike (formed : d.WellFormed)
    (known : ∀ g ∈ l, ∃ x, d.declarations[g.index]? = some x)
    (before : List.Forall₂ d.Shows l views) (after : List.Forall₂ d'.Shows l views') :
    List.Forall₂ (EntityView.LevelAlike d.blueprint d'.blueprint) views views' := by
  induction before generalizing views' with
  | nil =>
    cases after
    exact .nil
  | cons view _ ih =>
    cases after with
    | cons view' rest =>
      obtain ⟨⟨x, found⟩, others⟩ := List.forall_mem_cons.1 known
      exact .cons (grows.levelAlike sound sound' formed found view view') (ih others rest)

/-- **An entity inherits as it did before.** -/
theorem inheritsAlike (formed : d.WellFormed) (formed' : d'.WellFormed)
    (found : d.declarations[h.index]? = some x) (view : d.Shows h v) (view' : d'.Shows h v') :
    EntityView.InheritsAlike d.blueprint d'.blueprint v v' := by
  have before := shows_lineage sound formed found view
  have after := shows_lineage sound' formed' (grows.kept found) view'
  rw [grows.ancestry_eq sound sound' found] at after
  apply EntityView.inheritsAlike
  exact grows.forall₂_levelAlike sound sound' formed (ancestry_found sound found) before after

theorem any_code_iff (at_g : d'.declarations[g.index]? = some y) :
    (d.blueprint.declarations.any (·.code = y.code)) = true ↔
      d.declarations[g.index]? = some y := by
  rw [Array.any_eq_true']
  simp only [decide_eq_true_eq, mem_blueprint sound]
  constructor
  · rintro ⟨_, ⟨k, z, at_k, rfl⟩, code⟩
    rw [code_carried] at code
    obtain ⟨rfl, rfl⟩ := grows.eq_of_code sound' at_k at_g code.symm
    exact at_k
  · intro before
    exact ⟨_, ⟨g, y, before, rfl⟩, code_carried⟩

/-- A list of subtypes that was given is the list that it was: none has come since. -/
theorem subtypes_listed_eq (formed : d.WellFormed) (formed' : d'.WellFormed)
    (found : d.declarations[h.index]? = some x) (given : h ∈ d.explicit) (view : d.Shows h v)
    (view' : d'.Shows h v') :
    v.subtypes.map (·.name) = (v'.subtypesIn d.blueprint).map (·.name) := by
  have found' := grows.kept found
  have given' := (grows.explicit (lt_size found)).2 given
  obtain ⟨-, declaration⟩ := (entity?_place sound found).1 view
  obtain ⟨e, body, -⟩ := entity_carried (declaration ▸ v.isEntity)
  obtain ⟨⟨inherit, -⟩, -⟩ := formed.inverts sound found given body
  have known : ∀ g ∈ e.subtypes, ∃ y, d.declarations[g.index]? = some y := by
    intro g mem
    obtain ⟨y, at_g, -⟩ := supertypeOf?_eq_some.1 (inherit g mem)
    exact ⟨y, at_g⟩
  have alike := grows.forall₂_levelAlike sound sound' formed known
    (shows_listed sound formed found given body view)
    (shows_listed sound' formed' found' given' body view')
  have names : v'.subtypes.map (·.name) = v.subtypes.map (·.name) :=
    map_eq_iff_forall₂.2 (alike.imp fun _ _ same => same.name)
  have codes : v'.subtypes.map (·.code) = v.subtypes.map (·.code) :=
    map_eq_iff_forall₂.2 (alike.imp fun _ _ same => same.code)
  rw [EntityView.subtypesIn, List.filter_eq_self.2, names]
  intro w' mem
  have listed : w'.code ∈ v.subtypes.map (·.code) := codes ▸ List.mem_map_of_mem mem
  obtain ⟨w, sub, code⟩ := List.mem_map.1 listed
  have seen := (blueprint_sound sound formed).subtypes view w sub
  rw [Array.any_eq_true']
  exact ⟨w.declaration, Array.mem_of_getElem? (Schema.entity?_eq_some.1 seen).2,
    decide_eq_true code⟩

/-- Subtypes that were made are made again, among those that have come since. -/
theorem subtypes_unlisted_eq (formed : d.WellFormed) (formed' : d'.WellFormed)
    (found : d.declarations[h.index]? = some x) (absent : h ∉ d.explicit) (view : d.Shows h v)
    (view' : d'.Shows h v') :
    v.subtypes.map (·.name) = (v'.subtypesIn d.blueprint).map (·.name) := by
  have found' := grows.kept found
  have absent' : h ∉ d'.explicit := fun given => absent ((grows.explicit (lt_size found)).1 given)
  have labels : (v.subtypes.map (·.declaration)).map Declaration.label =
      ((v'.subtypes.map (·.declaration)).map Declaration.label).filter fun label =>
        d.blueprint.declarations.any (·.code = label.1) := by
    rw [declarations_subtypes sound formed found absent view,
      declarations_subtypes sound' formed' found' absent' view']
    apply eq_of_ascending (labels_ascend sound) ((labels_ascend sound').filter _)
    intro label
    rw [List.mem_filter, mem_labels_heirs sound found, mem_labels_heirs sound' found']
    constructor
    · rintro ⟨g, y, at_g, link, rfl⟩
      have at_g' := grows.kept at_g
      exact ⟨⟨g, y, at_g', link, rfl⟩, (grows.any_code_iff sound sound' at_g').2 at_g⟩
    · rintro ⟨⟨g, y, at_g', link, rfl⟩, before⟩
      exact ⟨g, y, (grows.any_code_iff sound sound' at_g').1 before, link, rfl⟩
  have names := congrArg (List.map Prod.snd) labels
  rw [List.filter_map, List.filter_map, List.map_map, List.map_map, List.map_map,
    List.map_map] at names
  exact names

/-- **A declaration is as it was**: alike in the schemas before and after the draft grew. -/
theorem alike (formed : d.WellFormed) (formed' : d'.WellFormed)
    (found : d.declarations[h.index]? = some x) :
    Declaration.Alike d.blueprint d'.blueprint (d.carried h x) (d'.carried h x) := by
  have found' := grows.kept found
  refine ⟨code_carried.trans code_carried.symm, name_carried.trans name_carried.symm,
    kind_carried.trans kind_carried.symm, grows.bodyAlike sound sound' formed found, fun kind => ?_⟩
  rw [kind_carried] at kind
  obtain ⟨v, view⟩ := exists_view sound found kind
  obtain ⟨v', view'⟩ := exists_view sound' found' kind
  rw [handle_carried sound found, handle_carried sound' found']
  refine ⟨v, v', view, view', grows.inheritsAlike sound sound' formed formed' found view view', ?_⟩
  by_cases given : h ∈ d.explicit
  · exact grows.subtypes_listed_eq sound sound' formed formed' found given view view'
  · exact grows.subtypes_unlisted_eq sound sound' formed formed' found given view view'

end Steady

end GrowsInto

/-- **Adding declarations leaves those that are there as they were.** Where building succeeds after some
calls and after more of them, and what comes later only adds declarations or sets what was added by
then, every declaration of the first schema has one that is alike in the second, under any handle. -/
theorem build_extended (registry : Registry) (config : Config) (calls later : List Call)
    (spares : ∀ call ∈ later, call.Spares (run registry config calls).size) {s s' : Schema}
    (built : (run registry config calls).build = .ok s)
    (built' : (run registry config (calls ++ later)).build = .ok s') :
    ∀ x ∈ s.declarations, ∃ x' ∈ s'.declarations, Declaration.Alike s s' x x' := by
  have sound := run_sound registry config calls
  have sound' := run_sound registry config (calls ++ later)
  have grows := run_growsInto registry config calls later spares
  obtain ⟨formed, rfl⟩ := (build_eq_ok sound).1 built
  obtain ⟨formed', rfl⟩ := (build_eq_ok sound').1 built'
  intro y mem
  obtain ⟨h, x, found, rfl⟩ := (mem_blueprint sound).1 mem
  have there := (mem_blueprint sound').2 ⟨h, x, grows.kept found, rfl⟩
  exact ⟨_, there, grows.alike sound sound' formed formed' found⟩

/-! ## A small draft that grows -/

/-- Labels, and parts that have a set of them. -/
def parts : List Call :=
  [.add "label" (.type (.simple .string)), .add "part" (.entity none),
    .set ⟨1⟩ (.attributes [⟨"labels", .aggregate .set 0 none (.named ⟨0⟩), false⟩] [false])]

/-- Bolts, which are parts and have no subtypes. -/
def bolts : List Call := [.add "bolt" (.entity (some ⟨1⟩)), .set ⟨2⟩ (.subtypes [])]

theorem parts_wellFormed : (run hardwareCodes (.plain "hardware") parts).WellFormed := by
  rw [← check_eq_ok (run_sound _ _ _)]
  simp only [check, seq_eq_ok, checkNames_eq_ok]
  exact ⟨rfl, by decide +kernel, rfl, rfl⟩

theorem bolts_wellFormed : (run hardwareCodes (.plain "hardware") (parts ++ bolts)).WellFormed := by
  rw [← check_eq_ok (run_sound _ _ _)]
  simp only [check, seq_eq_ok, checkNames_eq_ok]
  exact ⟨rfl, by decide +kernel, rfl, rfl⟩

/-- Parts move from the second place to the third when bolts come in before, and are alike. -/
theorem parts_extended : ∃ s s' x x',
    (run hardwareCodes (.plain "hardware") parts).build = .ok s ∧
    (run hardwareCodes (.plain "hardware") (parts ++ bolts)).build = .ok s' ∧
      s.declarations[1]? = some x ∧ s'.declarations[2]? = some x' ∧ x.name = "part" ∧
      Declaration.Alike s s' x x' := by
  have sound := run_sound hardwareCodes (.plain "hardware") parts
  have sound' := run_sound hardwareCodes (.plain "hardware") (parts ++ bolts)
  have built := (build_eq_ok sound).2 ⟨parts_wellFormed, rfl⟩
  have built' := (build_eq_ok sound').2 ⟨bolts_wellFormed, rfl⟩
  have rank : (run hardwareCodes (.plain "hardware") parts).rank ⟨1⟩ = 1 := by decide +kernel
  have rank' : (run hardwareCodes (.plain "hardware") (parts ++ bolts)).rank ⟨1⟩ = 2 := by
    decide +kernel
  have second := (blueprint_found sound).2 ⟨⟨1⟩, _, rfl, rank, rfl⟩
  have third := (blueprint_found sound').2 ⟨⟨1⟩, _, rfl, rank', rfl⟩
  obtain ⟨x', mem, alike⟩ := build_extended hardwareCodes (.plain "hardware") parts bolts
    (by decide) built built' _ (Array.mem_of_getElem? second)
  -- There is one declaration with the code of parts.
  have there := Array.mem_of_getElem? third
  cases (blueprint_sound sound' bolts_wellFormed).eq_of_code mem there
    (alike.code.trans (code_carried.trans code_carried.symm))
  exact ⟨_, _, _, _, built, built', second, third, name_carried, alike⟩

end Draft

end Express
