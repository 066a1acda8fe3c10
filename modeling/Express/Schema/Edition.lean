import Express.Schema.Inheritance

/-!
# Editions

Two copies of a schema hold the same, and are still two. What belongs to one of them does not belong
to the other.

* `Edition` is a copy of a schema with a number of its own.
* `Edition.Site` is the place where an attribute is kept: the number of the copy and the identity of
  the attribute there. `Edition.site?` is the site of an attribute of a copy.
* `Edition.indexOfSite?` is the place of a kept attribute among all attributes of an entity.
* `Edition.sameEntity` compares two entities of two copies.
-/

set_option autoImplicit false

namespace Express

/-- A copy of a schema. Different copies have different numbers. -/
structure Edition where
  number : Nat
  schema : Schema

namespace Edition

/-- The place where an attribute is kept. -/
structure Site where
  edition : Nat
  id : AttributeId
  deriving DecidableEq

/-- The site of an own attribute of a copy, if there is such an attribute. -/
def site? (e : Edition) (id : AttributeId) : Option Site :=
  (e.schema.attribute? id).map fun _ => ⟨e.number, id⟩

/-- The sites of the own attributes of an entity. -/
def sites (e : Edition) (level : EntityView) : List Site :=
  (List.range level.attributes.length).map fun position => ⟨e.number, level.handle, position⟩

/-- The sites of the inherited and own attributes of an entity. -/
def allSites (e : Edition) (entity : EntityView) : List Site :=
  entity.lineage.reverse.flatMap e.sites

/-- The place of a kept attribute in the flattened list of an entity of a copy. An attribute that
is kept in another copy has none. -/
def indexOfSite? (e : Edition) (entity : EntityView) (site : Site) : Option Nat :=
  EntityView.resolve? (fun level => (e.sites level).idxOf? site) entity.lineage

/-- Are an entity of one copy and an entity of another the same one? -/
def sameEntity (e₁ : Edition) (a : EntityView) (e₂ : Edition) (b : EntityView) : Bool :=
  e₁.number = e₂.number && a.handle = b.handle

end Edition

end Express
