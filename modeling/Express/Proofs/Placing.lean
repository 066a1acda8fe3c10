import Express.Proofs.Levels
import Mathlib.Algebra.GroupWithZero.Nat

/-!
# Attributes and their places

Each attribute of an entity, its own or an inherited one, has one place among all of them, and each
place is that of one attribute. An attribute is told by its identity, which is the entity that declares
it and its position there; or by where it is kept, and then it is known to one copy of the schema only.

* `EntityView.exists_level` — every place is that of an own attribute of a level.
* `EntityView.indexOf?_eq_some` — an identity leads to a level and to an own attribute of it; its place
  comes after the attributes of everything above.
* `Edition.indexOfSite?_eq` — in its own copy a kept attribute has the place that its identity has;
  `Edition.indexOfSite?_eq_none` — what another copy keeps has none.
* `EntityView.Numbered` — the attributes of an entity are numbered; `Draft.build_indexOf` says that
  they are in every schema that is built.
-/

set_option autoImplicit false

namespace Express

namespace EntityView

variable {v level : EntityView} {levels below above : List EntityView} {id : AttributeId}
  {a : Attribute} {k : Nat}

/-! ## Counting what the levels have -/

theorem countOf_eq_sum : countOf levels = (levels.map fun level => level.attributes.length).sum := by
  induction levels with
  | nil => rfl
  | cons level above ih => rw [countOf, ih, List.map_cons, List.sum_cons]

/-- **Every place is that of an own attribute of a level**, after everything above the level. -/
theorem exists_level : ∀ {levels : List EntityView} {k : Nat}, k < countOf levels →
    ∃ below level above own, levels = below ++ level :: above ∧ own < level.attributes.length ∧
      k = countOf above + own
  | [], _, inside => absurd inside (Nat.not_lt_zero _)
  | level :: above, k, inside => by
    rw [countOf] at inside
    -- The first level is the last part of the whole, so what is above it decides.
    by_cases higher : k < countOf above
    · obtain ⟨below, l, top, own, rfl, place⟩ := exists_level higher
      exact ⟨level :: below, l, top, own, rfl, place⟩
    · exact ⟨[], level, above, k - countOf above, rfl, by omega, by omega⟩

/-! ## From identities to places -/

section Layered

variable (layered : v.Layered)

include layered

/-- **An identity leads to a level and to an own attribute of it.** -/
theorem indexOf?_eq_some : v.indexOf? id = some k ↔
    ∃ below level above, v.lineage = below ++ level :: above ∧ level.handle = id.owner ∧
      id.position < level.attributes.length ∧ k = countOf above + id.position := by
  constructor
  · intro found
    obtain ⟨below, level, above, own, split, -, answer, rfl⟩ := resolve?_eq_some.1 found
    obtain ⟨⟨handle, inside⟩, same⟩ := Option.ite_none_right_eq_some.1 answer
    cases same
    exact ⟨below, level, above, split, handle, inside, rfl⟩
  · rintro ⟨below, level, above, split, handle, inside, rfl⟩
    obtain ⟨owner, position⟩ := id
    subst handle
    exact indexOf?_own layered.seen split (layered.notMem_below split) inside

theorem has_of_indexOf? (found : v.indexOf? id = some k) : ∃ a, v.Has id a k := by
  obtain ⟨below, level, above, split, handle, inside, rfl⟩ := (indexOf?_eq_some layered).1 found
  obtain ⟨owner, position⟩ := id
  subst handle
  exact ⟨_, layered.has split (List.getElem?_eq_getElem inside)⟩

/-- The proper supertypes of a level are those above it. -/
theorem indexOf?_eq_some_iff_mem : v.indexOf? id = some k ↔
    ∃ level ∈ v.lineage, level.handle = id.owner ∧ id.position < level.attributes.length ∧
      k = id.position + countOf level.lineage.tail := by
  rw [indexOf?_eq_some layered]
  constructor
  · rintro ⟨below, level, above, split, handle, inside, rfl⟩
    have mem : level ∈ v.lineage := split ▸ List.mem_append_cons_self
    refine ⟨level, mem, handle, inside, ?_⟩
    rw [layered.lineage_level split, List.tail_cons, Nat.add_comm]
  · rintro ⟨level, mem, handle, inside, rfl⟩
    obtain ⟨below, above, split⟩ := List.append_of_mem mem
    refine ⟨below, level, above, split, handle, inside, ?_⟩
    rw [layered.lineage_level split, List.tail_cons, Nat.add_comm]

end Layered

end EntityView

/-! ## Kept attributes -/

namespace Edition

variable {e : Edition} {v level : EntityView} {id : AttributeId} {site : Site}

/-- Among the sites of a level is that of each own attribute, at its position. -/
theorem idxOf?_sites : (e.sites level).idxOf? ⟨e.number, id⟩ =
    if level.handle = id.owner ∧ id.position < level.attributes.length then some id.position
    else none := by
  have own {j : Nat} (inside : j < (e.sites level).length) :
      (e.sites level)[j] = ⟨e.number, level.handle, j⟩ := by simp [sites]
  split
  · rename_i declared
    obtain ⟨owner, position⟩ := id
    obtain ⟨rfl, inside⟩ := declared
    have listed : position < (e.sites level).length := by simpa [sites] using inside
    refine List.idxOf?_eq_some_iff.2 ⟨listed, own listed, fun j before same => ?_⟩
    rw [own (before.trans listed)] at same
    cases same
    exact Nat.lt_irrefl _ before
  · rename_i undeclared
    refine List.idxOf?_eq_none_iff.2 fun mem => undeclared ?_
    obtain ⟨position, inside, same⟩ := List.mem_map.1 mem
    cases same
    exact ⟨rfl, List.mem_range.1 inside⟩

/-- **In its own copy a kept attribute has the place that its identity has.** -/
theorem indexOfSite?_eq : e.indexOfSite? v ⟨e.number, id⟩ = v.indexOf? id := by
  unfold indexOfSite? EntityView.indexOf?
  simp only [idxOf?_sites]

/-- **What another copy keeps has no place here.** -/
theorem indexOfSite?_eq_none (elsewhere : site.edition ≠ e.number) : e.indexOfSite? v site = none := by
  refine EntityView.resolve?_eq_none.2 fun level _ => ?_
  rw [List.idxOf?_eq_none_iff]
  intro mem
  obtain ⟨position, -, rfl⟩ := List.mem_map.1 mem
  exact elsewhere rfl

end Edition

/-! ## The numbering -/

namespace EntityView

variable {v : EntityView}

/-- The attributes of an entity are numbered: identities of attributes that it has and places among
all of them correspond. -/
structure Numbered (v : EntityView) : Prop where
  /-- An attribute has a place if it is declared by a level. What the proper supertypes of the level
  have comes before it. -/
  place : ∀ id k, v.indexOf? id = some k ↔
    ∃ level ∈ v.lineage, level.handle = id.owner ∧ id.position < level.attributes.length ∧
      k = id.position + (level.lineage.tail.map fun above => above.attributes.length).sum
  /-- It is this attribute that stands at the place. -/
  has : ∀ id k, v.indexOf? id = some k → ∃ a, v.Has id a k
  different : ∀ id id' k, v.indexOf? id = some k → v.indexOf? id' = some k → id = id'
  onto : ∀ k, k < v.attributeCount → ∃ id, v.indexOf? id = some k
  /-- A kept attribute of the copy that the entity belongs to has the same place. -/
  kept : ∀ number id, ∀ site ∈ Edition.site? ⟨number, v.schema⟩ id,
    Edition.indexOfSite? ⟨number, v.schema⟩ v site = v.indexOf? id
  /-- A kept attribute of another copy has none, even if that copy holds the same. -/
  foreign : ∀ number (other : Edition) id, other.number ≠ number → ∀ site ∈ other.site? id,
    Edition.indexOfSite? ⟨number, v.schema⟩ v site = none

theorem Layered.numbered (layered : v.Layered) : v.Numbered := by
  refine ⟨fun id k => ?_, fun id k => has_of_indexOf? layered, fun id id' k first second => ?_,
    fun k inside => ?_, fun number id site kept => ?_, fun number other id apart site kept => ?_⟩
  · rw [indexOf?_eq_some_iff_mem layered]
    simp only [countOf_eq_sum]
  · -- Attributes at two places may be equal; where they are kept tells them apart.
    obtain ⟨a, has⟩ := has_of_indexOf? layered first
    obtain ⟨a', has'⟩ := has_of_indexOf? layered second
    cases (has.site 0).symm.trans (has'.site 0)
    rfl
  · obtain ⟨below, level, above, own, split, declared, rfl⟩ := exists_level inside
    exact ⟨⟨level.handle, own⟩,
      (indexOf?_eq_some layered).2 ⟨below, level, above, split, rfl, declared, rfl⟩⟩
  · obtain ⟨a, -, rfl⟩ := Option.map_eq_some_iff.1 kept
    exact Edition.indexOfSite?_eq
  · obtain ⟨a, -, rfl⟩ := Option.map_eq_some_iff.1 kept
    exact Edition.indexOfSite?_eq_none apart

end EntityView

namespace Draft

/-- **Attributes and places correspond** in every schema that is built, for every entity of it: the
identities of the attributes that the entity has are led to all places, each to its own, and what is
kept in a copy of the schema has its place in this copy only. -/
theorem build_indexOf (registry : Registry) (config : Config) (calls : List Call) {s : Schema}
    (built : (run registry config calls).build = .ok s) {h : Handle} {v : EntityView}
    (view : s.entity? h = some v) : v.schema = s ∧ v.Numbered := by
  obtain ⟨schema, layered⟩ := layered_of_built built view
  exact ⟨schema, layered.numbered⟩

/-! ## A small draft -/

/-- The codes of the names in `drawing`. -/
def drawingCodes : Registry := .ofPairs [("shape", ⟨5⟩), ("disc", ⟨1⟩), ("ring", ⟨3⟩)] []

/-- Shapes have a name and may have a layer. Discs are shapes and declare nothing. Rings are discs and
declare a width and two more names. -/
def drawing : List Call :=
  [.add "shape" (.entity none), .add "disc" (.entity (some ⟨0⟩)), .add "ring" (.entity (some ⟨1⟩)),
    .set ⟨0⟩ (.attributes [⟨"name", .simple .string, false⟩, ⟨"layer", .simple .integer, true⟩]
      [false, false]),
    .set ⟨2⟩ (.attributes [⟨"width", .simple .real, false⟩, ⟨"name", .simple .string, false⟩,
      ⟨"name", .simple .binary, true⟩] [true, false, false])]

theorem drawing_built : (run drawingCodes (.plain "drawing") drawing).build =
    .ok (run drawingCodes (.plain "drawing") drawing).blueprint := by
  have sound := run_sound drawingCodes (.plain "drawing") drawing
  refine (build_eq_ok sound).2 ⟨?_, rfl⟩
  rw [← check_eq_ok sound]
  simp only [check, seq_eq_ok, checkNames_eq_ok]
  exact ⟨rfl, by decide +kernel, rfl, rfl⟩

/-- In the schema, discs stand first, rings next and shapes last; their attributes and flags are those
that were set. -/
theorem drawing_lineage : ∃ ring disc shape : EntityView,
    (run drawingCodes (.plain "drawing") drawing).blueprint.entity? ⟨1⟩ = some ring ∧
      ring.supertype? = some disc ∧ ring.lineage = [ring, disc, shape] ∧
      [ring, disc, shape].map (·.handle) = [⟨1⟩, ⟨0⟩, ⟨2⟩] ∧
      ring.attributes = [⟨"width", .simple .real, false⟩, ⟨"name", .simple .string, false⟩,
        ⟨"name", .simple .binary, true⟩] ∧
      disc.attributes = [] ∧
      shape.attributes = [⟨"name", .simple .string, false⟩, ⟨"layer", .simple .integer, true⟩] ∧
      [ring, disc, shape].map (·.content.derived) =
        [[true, false, false], [], [false, false]] := by
  have sound := run_sound drawingCodes (.plain "drawing") drawing
  have places : [(0 : UInt32), 1, 2].map
      (fun n => (run drawingCodes (.plain "drawing") drawing).place ⟨n⟩) =
        [⟨2⟩, ⟨0⟩, ⟨1⟩] := by decide +kernel
  simp only [List.map_cons, List.map_nil, List.cons.injEq] at places
  obtain ⟨shapes, discs, rings, -⟩ := places
  obtain ⟨ring, at_ring⟩ := exists_view (h := ⟨2⟩) sound rfl rfl
  obtain ⟨-, disc, at_disc, up⟩ := exists_supertype (h := ⟨2⟩) (p := ⟨1⟩) sound rfl at_ring rfl
  obtain ⟨-, shape, at_shape, top⟩ := exists_supertype (h := ⟨1⟩) (p := ⟨0⟩) sound rfl at_disc rfl
  obtain ⟨climbs, handles⟩ := lineage_carried (b := ⟨2⟩) sound rfl at_ring
  have climb : (run drawingCodes (.plain "drawing") drawing).ancestry ⟨2⟩ = [⟨2⟩, ⟨1⟩, ⟨0⟩] := by
    decide +kernel
  simp only [climb, List.map_cons, List.map_nil, rings, discs, shapes] at handles
  have three : ring.lineage.length = 3 := by
    rw [← List.length_map, handles]
    rfl
  obtain ⟨a, b, c, lineage⟩ := List.length_eq_three.1 three
  have first := climbs.first
  have links := climbs.links
  rw [lineage] at first links handles
  cases first
  rw [List.isChain_cons_cons, List.isChain_pair] at links
  cases links.1.symm.trans up
  cases links.2.symm.trans top
  have ring_content := content_place (h := ⟨2⟩) sound rfl rfl at_ring
  have disc_content := content_place (h := ⟨1⟩) sound rfl rfl at_disc
  have shape_content := content_place (h := ⟨0⟩) sound rfl rfl at_shape
  rw [rings] at at_ring
  refine ⟨ring, disc, shape, at_ring, up, lineage, handles, ?_, ?_, ?_, ?_⟩
  · rw [EntityView.attributes, ring_content]
    rfl
  · rw [EntityView.attributes, disc_content]
    rfl
  · rw [EntityView.attributes, shape_content]
    rfl
  · rw [List.map_cons, List.map_cons, List.map_singleton, ring_content, disc_content, shape_content]
    rfl

/-- The last attribute of rings stands after two of their own and two of shapes, in the copy that keeps
it and not in another one. -/
theorem drawing_indexOf : ∃ s v a, (run drawingCodes (.plain "drawing") drawing).build = .ok s ∧
    s.entity? ⟨1⟩ = some v ∧ v.indexOf? ⟨⟨1⟩, 2⟩ = some 4 ∧ v.Has ⟨⟨1⟩, 2⟩ a 4 ∧
    Edition.indexOfSite? ⟨0, s⟩ v ⟨0, ⟨1⟩, 2⟩ = some 4 ∧
    Edition.site? ⟨1, s⟩ ⟨⟨1⟩, 2⟩ = some ⟨1, ⟨1⟩, 2⟩ ∧
    Edition.indexOfSite? ⟨0, s⟩ v ⟨1, ⟨1⟩, 2⟩ = none := by
  obtain ⟨v, disc, shape, view, -, lineage, handles, own, none_own, above, -⟩ := drawing_lineage
  simp only [List.map_cons, List.map_nil, List.cons.injEq] at handles
  have index : v.indexOf? ⟨⟨1⟩, 2⟩ = some 4 := by
    simp [EntityView.indexOf?, lineage, EntityView.resolve?, EntityView.countOf, handles, own,
      none_own, above]
  obtain ⟨schema, numbered⟩ :=
    build_indexOf drawingCodes (.plain "drawing") drawing drawing_built view
  obtain ⟨a, has⟩ := numbered.has _ _ index
  have kept (number : Nat) :
      Edition.site? ⟨number, v.schema⟩ ⟨⟨1⟩, 2⟩ = some ⟨number, ⟨1⟩, 2⟩ := by
    rw [Edition.site?, has.declared]
    rfl
  have native := (numbered.kept 0 _ _ (kept 0)).trans index
  have foreign := numbered.foreign 0 ⟨1, v.schema⟩ _ Nat.one_ne_zero _ (kept 1)
  refine ⟨_, v, a, drawing_built, view, index, has, ?_⟩
  rw [← schema]
  exact ⟨native, kept 1, foreign⟩

end Draft

end Express
