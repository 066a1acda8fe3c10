import Express.DataType

/-!
# Entities

An entity declares attributes, may inherit from one supertype, and may give names to the relations
in which other entities hold it.

* `Attribute` is an explicit attribute, `AttributeId` its identity: the entity that declares it and
  its position there.
* `InverseAttribute` is a relation seen from the other side: it inverts a forward attribute.
* `Entity` holds what an entity declares itself; what it inherits is found along its supertypes.
-/

set_option autoImplicit false

namespace Express

/-- An explicit attribute; the value of an optional one may be left out. -/
structure Attribute where
  name : String
  type : DataType
  optional : Bool := false
  deriving DecidableEq

/-- An own attribute of an entity, by its position among the attributes declared there. -/
structure AttributeId where
  owner : Handle
  position : Nat
  deriving DecidableEq

/-- What holds the instances on the other side of an inverse attribute. -/
inductive InverseAggregation where
  | bag
  | set
  /-- No aggregate: one instance. -/
  | single
  deriving DecidableEq

/-- A relation that another entity declares by its forward attribute. -/
structure InverseAttribute where
  name : String
  aggregation : InverseAggregation
  lower : Int := 0
  upper : Option Int := none
  target : Handle
  /-- The attribute that is inverted. -/
  forward : AttributeId
  deriving DecidableEq

structure Entity where
  supertype : Option Handle := none
  subtypes : List Handle := []
  attributes : List Attribute := []
  /-- For each own attribute, whether its value is derived. -/
  derived : List Bool := []
  inverse : List InverseAttribute := []
  deriving DecidableEq

/-- The identity with its owner replaced; the position stays. -/
def AttributeId.rename (f : Handle → Handle) (id : AttributeId) : AttributeId :=
  { id with owner := f id.owner }

/-- The attribute with every handle of its type replaced. -/
def Attribute.rename (f : Handle → Handle) (a : Attribute) : Attribute :=
  { a with type := a.type.rename f }

/-- The handles in an inverse attribute: its target, then the owner of its forward attribute. -/
def InverseAttribute.references (i : InverseAttribute) : List Handle := [i.target, i.forward.owner]

/-- The inverse attribute with both handles replaced. -/
def InverseAttribute.rename (f : Handle → Handle) (i : InverseAttribute) : InverseAttribute :=
  { i with target := f i.target, forward := i.forward.rename f }

namespace Entity

/-- The handles in an entity: its supertype, its subtypes, those in the types of its attributes and
those in its inverse attributes, in this order. -/
def references (e : Entity) : List Handle :=
  e.supertype.toList ++ e.subtypes ++ e.attributes.flatMap (·.type.references)
    ++ e.inverse.flatMap (·.references)

def rename (f : Handle → Handle) (e : Entity) : Entity :=
  { e with
    supertype := e.supertype.map f
    subtypes := e.subtypes.map f
    attributes := e.attributes.map (·.rename f)
    inverse := e.inverse.map (·.rename f) }

end Entity

section Fallible

variable {m : Type → Type} [Monad m] (f : Handle → m Handle)

/-- The identity with its owner replaced, by a replacement that may fail. -/
def AttributeId.renameM (id : AttributeId) : m AttributeId := do
  return { id with owner := ← f id.owner }

/-- The attribute with every handle replaced, by a replacement that may fail. -/
def Attribute.renameM (a : Attribute) : m Attribute := do
  return { a with type := ← a.type.renameM f }

/-- The inverse attribute with both handles replaced, by a replacement that may fail. -/
def InverseAttribute.renameM (i : InverseAttribute) : m InverseAttribute := do
  return { i with target := ← f i.target, forward := ← i.forward.renameM f }

/-- The entity with every handle replaced, by a replacement that may fail. -/
def Entity.renameM (e : Entity) : m Entity := do
  return { e with
    supertype := ← e.supertype.mapM f
    subtypes := ← e.subtypes.mapM f
    attributes := ← e.attributes.mapM (·.renameM f)
    inverse := ← e.inverse.mapM (·.renameM f) }

end Fallible

end Express
