import Express.Schema.Basic

/-!
# Inheritance

An entity has the attributes that its supertypes declare and those that it declares itself.

* `EntityView.lineage` is an entity followed by its supertypes up to the root.
* `EntityView.allAttributes`, `EntityView.allDerived` and `EntityView.allInverse` are the inherited
  and own attributes, flags and inverse attributes in one list, those of the root first.
* `EntityView.attributeAt?` finds an attribute by its place in this list. `EntityView.indexOf?` and
  `EntityView.indexByName?` find the place of an attribute by its identity or name.
* `Schema.isA` and `Schema.isNamed` tell whether a declaration is another one or inherits from it.
-/

set_option autoImplicit false

namespace Express

namespace EntityView

def handle (e : EntityView) : Handle := e.declaration.handle

def code (e : EntityView) : TypeCode := e.declaration.code

def name (e : EntityView) : String := e.declaration.name

def attributes (e : EntityView) : List Attribute := e.content.attributes

def supertype? (e : EntityView) : Option EntityView := e.content.supertype.bind e.schema.entity?

def subtypes (e : EntityView) : List EntityView := e.content.subtypes.filterMap e.schema.entity?

/-- The entity followed by each of its supertypes, up to the root. -/
def lineage (e : EntityView) : List EntityView :=
  Chain.ascend supertype? (e.schema.size + 1) e

/-! ## Flattened lists -/

/-- What the levels of the lineage hold, from the root down to the entity itself. -/
def flatten {α : Type} (part : Entity → List α) (e : EntityView) : List α :=
  e.lineage.reverse.flatMap fun level => part level.content

def allAttributes (e : EntityView) : List Attribute := e.flatten (·.attributes)

/-- For each of the inherited and own attributes, whether its value is derived. -/
def allDerived (e : EntityView) : List Bool := e.flatten (·.derived)

def allInverse (e : EntityView) : List InverseAttribute := e.flatten (·.inverse)

/-- The number of own attributes of some levels. -/
def countOf : List EntityView → Nat
  | [] => 0
  | level :: above => level.attributes.length + countOf above

def attributeCount (e : EntityView) : Nat := countOf e.lineage

/-! ## From a place to an attribute -/

/-- The attribute that has `behind` others behind it in the flattened list of some levels. The first
level is the last part of the list. -/
def fromEnd? : List EntityView → Nat → Option Attribute
  | [], _ => none
  | level :: above, behind =>
    if behind < level.attributes.length then
      level.attributes[level.attributes.length - 1 - behind]?
    else fromEnd? above (behind - level.attributes.length)

def attributeAt? (e : EntityView) (index : Nat) : Option Attribute :=
  if index < e.attributeCount then fromEnd? e.lineage (e.attributeCount - index - 1) else none

/-! ## From an attribute to its place -/

/-- The place of what the first of some levels finds among its own attributes: the attributes of
all levels above come before it. -/
def resolve? (find : EntityView → Option Nat) : List EntityView → Option Nat
  | [] => none
  | level :: above =>
    match find level with
    | some position => some (countOf above + position)
    | none => resolve? find above

/-- The place of the own attribute of a level. -/
def indexOf? (e : EntityView) (id : AttributeId) : Option Nat :=
  resolve? (fun level =>
    if level.handle = id.owner ∧ id.position < level.attributes.length then some id.position
    else none) e.lineage

/-- The place of the first attribute spelt exactly so, on the nearest level that has one. -/
def indexByName? (e : EntityView) (name : String) : Option Nat :=
  resolve? (fun level => level.attributes.findIdx? (·.name = name)) e.lineage

def byName? (e : EntityView) (name : String) : Option (Nat × Attribute) := do
  let index ← e.indexByName? name
  return (index, ← e.attributeAt? index)

/-! ## Derivation -/

/-- Is the entity the one with this code, or does it inherit from it? -/
def isA (e : EntityView) (code : TypeCode) : Bool := e.lineage.any (·.code = code)

/-- Is the entity the one with this name, or does it inherit from it? -/
def isNamed (e : EntityView) (name : String) : Bool :=
  e.lineage.any fun level => Caseless.same level.name name

end EntityView

namespace Schema

/-- Is the declaration with a handle the one with this code, or does it inherit from it? -/
def isA (s : Schema) (h : Handle) (code : TypeCode) : Except Misuse Bool :=
  match s.entity? h with
  | some e => .ok (e.isA code)
  | none => do return decide ((← s.declaration h).code = code)

/-- Is the declaration with a handle the one with this name, or does it inherit from it? -/
def isNamed (s : Schema) (h : Handle) (name : String) : Except Misuse Bool :=
  match s.entity? h with
  | some e => .ok (e.isNamed name)
  | none => do return Caseless.same (← s.declaration h).name name

def attribute? (s : Schema) (id : AttributeId) : Option Attribute :=
  (s.entity? id.owner).bind (·.attributes[id.position]?)

def declarationsOf (s : Schema) (handles : List Handle) : Except Misuse (List Declaration) :=
  handles.mapM s.declaration

def entityViews (s : Schema) : List EntityView := s.entities.filterMap s.entity?

end Schema

end Express
