import Express.Proofs.Placing

/-!
# Attributes by name

An entity may have several attributes with one name, on different levels or on the same one. Asked for
a name, it answers with the nearest: the levels are searched from the entity upwards, and each level
from its first attribute on. So the answer need be neither the first nor the last attribute with the
name in the flattened list.

* `EntityView.Nearest` — an attribute is the nearest one with a name.
* `EntityView.indexByName?_eq_none` — no answer is given only where no attribute has the name;
  `EntityView.indexByName?_eq_some` — the answer is the place of the nearest one.
* `EntityView.AnswersNames` — all that is answered to names, with and without the attribute itself;
  `Draft.build_attributeByName` says that every entity of every schema that is built answers so.
-/

set_option autoImplicit false

namespace Express

namespace EntityView

variable {v level : EntityView} {name : String} {own k : Nat} {a : Attribute}

/-- An attribute of a level is the nearest one with a name: no level below has such an attribute, and
none before it on its level has the name. -/
structure Nearest (v : EntityView) (name : String) (level : EntityView) (own : Nat) (a : Attribute) :
    Prop where
  lowest : ∃ below above, v.lineage = below ++ level :: above ∧
    ∀ l ∈ below, ∀ b ∈ l.attributes, b.name ≠ name
  declared : level.attributes[own]? = some a
  named : a.name = name
  first : ∀ b ∈ level.attributes.take own, b.name ≠ name

/-! ## The place of a name -/

theorem findIdx?_name_eq_none :
    level.attributes.findIdx? (·.name = name) = none ↔ ∀ b ∈ level.attributes, b.name ≠ name := by
  simp only [List.findIdx?_eq_none_iff, decide_eq_false_iff_not, ne_eq]

theorem findIdx?_name_eq_some :
    level.attributes.findIdx? (·.name = name) = some own ↔
      ∃ a, level.attributes[own]? = some a ∧ a.name = name ∧
        ∀ b ∈ level.attributes.take own, b.name ≠ name := by
  rw [List.findIdx?_eq_some_iff_getElem]
  simp only [decide_eq_true_eq, List.mem_take_iff_getElem]
  constructor
  · rintro ⟨inside, named, first⟩
    refine ⟨_, List.getElem?_eq_getElem inside, named, ?_⟩
    rintro b ⟨j, before, rfl⟩
    exact first j (by omega)
  · rintro ⟨a, declared, named, first⟩
    obtain ⟨inside, rfl⟩ := List.getElem?_eq_some_iff.1 declared
    exact ⟨inside, named, fun j before => first _ ⟨j, by omega, rfl⟩⟩

/-- **No place is given only where no attribute has the name.** -/
theorem indexByName?_eq_none :
    v.indexByName? name = none ↔ ∀ a ∈ v.allAttributes, a.name ≠ name := by
  unfold indexByName?
  simp only [resolve?_eq_none, findIdx?_name_eq_none]
  constructor
  · intro silent a mem
    obtain ⟨level, above, own⟩ := mem_gather.1 mem
    exact silent level above a own
  · intro silent level above a own
    exact silent a (mem_gather.2 ⟨level, above, own⟩)

/-- **The place that is given is that of the nearest attribute with the name.** -/
theorem indexByName?_eq_some (layered : v.Layered) :
    v.indexByName? name = some k ↔
      ∃ level own a, v.Nearest name level own a ∧ v.Has ⟨level.handle, own⟩ a k := by
  constructor
  · intro found
    obtain ⟨below, level, above, own, split, silent, answer, rfl⟩ := resolve?_eq_some.1 found
    obtain ⟨a, declared, named, first⟩ := findIdx?_name_eq_some.1 answer
    have lower : ∀ l ∈ below, ∀ b ∈ l.attributes, b.name ≠ name :=
      fun l mem => findIdx?_name_eq_none.1 (silent l mem)
    exact ⟨level, own, a, ⟨⟨below, above, split, lower⟩, declared, named, first⟩,
      layered.has split declared⟩
  · rintro ⟨level, own, a, ⟨⟨below, above, split, lower⟩, declared, named, first⟩, has⟩
    cases has.index.symm.trans (layered.has split declared).index
    exact resolve?_eq_some.2 ⟨below, level, above, own, split,
      fun l mem => findIdx?_name_eq_none.2 (lower l mem),
      findIdx?_name_eq_some.2 ⟨a, declared, named, first⟩, rfl⟩

/-! ## The attribute with a name -/

theorem byName?_eq_some (v : EntityView) : v.byName? name = some (k, a) ↔
    v.indexByName? name = some k ∧ v.allAttributes[k]? = some a := by
  unfold byName?
  simp only [Option.bind_eq_bind, Option.bind_eq_some_iff, Option.pure_def, Option.some.injEq,
    Prod.mk.injEq, attributeAt?_eq]
  constructor
  · rintro ⟨k, found, b, listed, rfl, rfl⟩
    exact ⟨found, listed⟩
  · rintro ⟨found, listed⟩
    exact ⟨k, found, a, listed, rfl, rfl⟩

/-- Where no two attributes have the same name, each is found by its own. -/
theorem indexByName?_of_nodup (layered : v.Layered)
    (different : (v.allAttributes.map (·.name)).Nodup) {id : AttributeId} (has : v.Has id a k) :
    v.indexByName? a.name = some k := by
  cases found : v.indexByName? a.name with
  | none => exact absurd rfl (indexByName?_eq_none.1 found a (List.mem_of_getElem? has.listed))
  | some j =>
    obtain ⟨level, own, b, nearest, other⟩ := (indexByName?_eq_some layered).1 found
    -- The name stands at the place found and at that of the attribute, and it stands once.
    have inside : k < (v.allAttributes.map (·.name)).length := by
      rw [List.length_map]
      exact (List.getElem?_eq_some_iff.1 has.listed).1
    have same : (v.allAttributes.map (·.name))[k]? = (v.allAttributes.map (·.name))[j]? := by
      rw [List.getElem?_map, List.getElem?_map, has.listed, other.listed, Option.map_some,
        Option.map_some, nearest.named]
    rw [(List.getElem?_inj inside different).1 same]

/-- What an entity answers when it is asked for attributes by name. -/
structure AnswersNames (v : EntityView) : Prop where
  absent : ∀ name, v.indexByName? name = none ↔ ∀ a ∈ v.allAttributes, a.name ≠ name
  /-- The place that is given is that of the nearest attribute with the name. -/
  nearest : ∀ name k, v.indexByName? name = some k ↔
    ∃ level own a, v.Nearest name level own a ∧ v.Has ⟨level.handle, own⟩ a k
  found : ∀ name k, v.indexByName? name = some k →
    ∃ a, v.allAttributes[k]? = some a ∧ a.name = name ∧ v.byName? name = some (k, a)
  missing : ∀ name, v.indexByName? name = none → v.byName? name = none
  /-- If all names are different, every attribute that the entity has is found by its name, at the
  place that its identity has and that it has where it is kept. -/
  unambiguous : (v.allAttributes.map (·.name)).Nodup →
    ∀ level ∈ v.lineage, ∀ own a, level.attributes[own]? = some a →
      ∃ k, v.indexByName? a.name = some k ∧ v.indexOf? ⟨level.handle, own⟩ = some k ∧
        ∀ number, ∃ site, Edition.site? ⟨number, v.schema⟩ ⟨level.handle, own⟩ = some site ∧
          Edition.indexOfSite? ⟨number, v.schema⟩ v site = some k

theorem Layered.answersNames (layered : v.Layered) : v.AnswersNames := by
  refine ⟨fun name => indexByName?_eq_none, fun name k => indexByName?_eq_some layered,
    fun name k given => ?_, fun name silent => ?_, fun different level mem own a declared => ?_⟩
  · obtain ⟨level, own, a, nearest, has⟩ := (indexByName?_eq_some layered).1 given
    exact ⟨a, has.listed, nearest.named, (byName?_eq_some v).2 ⟨given, has.listed⟩⟩
  · rw [Option.eq_none_iff_forall_ne_some]
    rintro ⟨k, a⟩ given
    exact absurd (silent.symm.trans ((byName?_eq_some v).1 given).1) nofun
  · obtain ⟨below, above, split⟩ := List.append_of_mem mem
    have has := layered.has split declared
    refine ⟨_, indexByName?_of_nodup layered different has, has.index, fun number => ?_⟩
    refine ⟨⟨number, level.handle, own⟩, ?_, Edition.indexOfSite?_eq.trans has.index⟩
    rw [Edition.site?, has.declared, Option.map_some]

end EntityView

namespace Draft

/-- **Names lead to the nearest attributes** in every schema that is built, for every entity of it and
every name, spelt exactly so. -/
theorem build_attributeByName (registry : Registry) (config : Config) (calls : List Call)
    {s : Schema} (built : (run registry config calls).build = .ok s) {h : Handle} {v : EntityView}
    (view : s.entity? h = some v) : v.schema = s ∧ v.AnswersNames := by
  obtain ⟨schema, layered⟩ := layered_of_built built view
  exact ⟨schema, layered.answersNames⟩

/-- Of the three names that rings have, the first of their own is found: shapes have another one, which
stands before it, and rings have one behind it. -/
theorem drawing_attributeByName : ∃ s v level own a,
    (run drawingCodes (.plain "drawing") drawing).build = .ok s ∧ s.entity? ⟨1⟩ = some v ∧
      v.allAttributes.map (·.name) = ["name", "layer", "width", "name", "name"] ∧
      v.Nearest "name" level own a ∧ v.Has ⟨level.handle, own⟩ a 3 ∧
      v.byName? "name" = some (3, a) ∧ v.byName? "Name" = none := by
  obtain ⟨v, disc, shape, view, -, lineage, -, own, none_own, above, -⟩ := drawing_lineage
  have names : v.allAttributes.map (·.name) = ["name", "layer", "width", "name", "name"] := by
    show (v.lineage.reverse.flatMap EntityView.attributes).map (·.name) = _
    simp [lineage, own, none_own, above]
  have place : v.indexByName? "name" = some 3 := by
    simp [EntityView.indexByName?, lineage, EntityView.resolve?, EntityView.countOf, own, none_own,
      above, List.findIdx?_cons]
  have absent : v.indexByName? "Name" = none := by
    simp [EntityView.indexByName?, lineage, EntityView.resolve?, own, none_own, above,
      List.findIdx?_cons]
  obtain ⟨-, answers⟩ :=
    build_attributeByName drawingCodes (.plain "drawing") drawing drawing_built view
  obtain ⟨level, position, a, nearest, has⟩ := (answers.nearest _ _).1 place
  obtain ⟨b, listed, -, found⟩ := answers.found _ _ place
  cases listed.symm.trans has.listed
  exact ⟨_, v, level, position, a, drawing_built, view, names, nearest, has, found,
    answers.missing _ absent⟩

end Draft

end Express
