import Express.Caseless
import Express.Draft.Basic

/-!
# What makes a draft complete

A draft can be built when nothing is wrong with it as a whole. The checks are made in this order,
and the first fault that one of them meets is the one reported.

* `Draft.checkCodes`: the codes of a built-in schema are dense.
* `Draft.checkNames`: no two names differ in case only.
* `Draft.checkHandles`: every handle refers to a declaration.
* `Draft.checkEntity`: where subtypes are listed, they are listed all, once each, and nothing else;
  and inverse attributes invert attributes that are there.
-/

set_option autoImplicit false

namespace Express

/-- Is the declaration an entity whose supertype is the one with this handle? -/
def Declaration.inheritsFrom (d : Declaration) (h : Handle) : Bool := d.supertype? = some h

/-- The number of own attributes; only entities have any. -/
def Declaration.ownCount (d : Declaration) : Nat :=
  match d.asEntity? with
  | some content => content.attributes.length
  | none => 0

namespace Draft

/-! ## Codes -/

def sortedCodes (d : Draft) : List TypeCode := (d.codes.map (·.1)).mergeSort TypeCode.inOrder

/-- The first code in a list that is not its position there, with the code that is. -/
def firstGap? (codes : List TypeCode) : Option (TypeCode × TypeCode) :=
  codes.zipIdx.findSome? fun (found, position) =>
    if found = TypeCode.ofNat position then none else some (TypeCode.ofNat position, found)

/-- The codes of a built-in schema are the numbers from 0 on. -/
def checkCodes (d : Draft) : Except Failure Unit :=
  if d.config.builtIn then
    match firstGap? d.sortedCodes with
    | some (expected, found) => .error (.refused (.sparseBuiltInCodes expected found))
    | none => .ok ()
  else .ok ()

/-! ## Names -/

/-- The names of the declarations in the order of adding. -/
def names (d : Draft) : List String := d.declarations.toList.map (·.name)

/-- The first name in a list that is the same as the one before it. -/
def firstRepeat? : List String → Option String
  | first :: second :: rest =>
    if Caseless.same first second then some second else firstRepeat? (second :: rest)
  | _ => none

def checkNames (d : Draft) : Except Failure Unit :=
  match firstRepeat? (d.names.mergeSort Caseless.inOrder) with
  | some name => .error (.refused (.duplicateName name))
  | none => .ok ()

/-! ## Handles -/

/-- The first handle in a declaration that refers to none of the first `size` declarations. -/
def dangling? (size : Nat) (declaration : Declaration) : Option Handle :=
  declaration.references.find? fun h => size ≤ h.index

/-- Every handle in a declaration refers to one of the draft. -/
def checkHandles (d : Draft) (declaration : Declaration) : Except Failure Unit :=
  match dangling? d.size declaration with
  | some h => .error (.refused (.unknownDeclaration h))
  | none => .ok ()

/-! ## Subtypes -/

/-- Every handle in a list of subtypes is that of an entity that inherits from the owner of the
list, and none is among those before it. -/
def checkListed (d : Draft) (owner : Declaration) (before : List Handle) :
    List Handle → Except Failure Unit
  | [] => .ok ()
  | h :: rest => do
    let candidate ← elementAt d.declarations h.index
    refuseIf (!candidate.inheritsFrom owner.handle) (.inconsistentSubtype owner.name candidate.name)
    refuseIf (before.contains h) (.duplicateSubtype owner.name candidate.name)
    d.checkListed owner (h :: before) rest

/-- Every declaration that inherits from the owner of a list of subtypes is in the list. -/
def checkMissing (d : Draft) (owner : Declaration) (listed : List Handle) : Except Failure Unit :=
  d.declarations.toList.forM fun candidate =>
    refuseIf (candidate.inheritsFrom owner.handle && !listed.contains candidate.handle)
      (.missingSubtype owner.name candidate.name)

/-- A list of subtypes that was given holds the subtypes that there are. -/
def checkSubtypes (d : Draft) (owner : Declaration) (content : Entity) : Except Failure Unit :=
  if d.explicit.contains owner.handle then do
    d.checkListed owner [] content.subtypes
    d.checkMissing owner content.subtypes
  else .ok ()

/-! ## Inverse attributes -/

/-- The supertype of the declaration with a handle, if it is an entity that has one. -/
def supertypeOf? (d : Draft) (h : Handle) : Option Handle :=
  d.declarations[h.index]?.bind (·.supertype?)

/-- A handle followed by those of the supertypes above it. -/
def ancestry (d : Draft) (h : Handle) : List Handle :=
  Chain.ascend d.supertypeOf? (d.size + 1) h

/-- The target of an inverse attribute is an entity, the owner of the forward attribute is the
target or above it, and has an own attribute at the position. -/
def checkInverse (d : Draft) (owner : Declaration) (i : InverseAttribute) :
    Except Failure Unit := do
  let refuse := SchemaError.invalidInverseAttribute owner.name i.name
  let target ← elementAt d.declarations i.target.index
  refuseIf target.asEntity?.isNone (refuse (.notEntity target.name))
  refuseIf (!(d.ancestry target.handle).contains i.forward.owner)
    (refuse (.notInherited target.name))
  let declarer ← elementAt d.declarations i.forward.owner.index
  refuseIf (declarer.ownCount ≤ i.forward.position)
    (refuse (.noAttribute declarer.name i.forward.position))

/-! ## Everything -/

/-- The subtypes and the inverse attributes of an entity. -/
def checkEntity (d : Draft) (declaration : Declaration) : Except Failure Unit :=
  match declaration.asEntity? with
  | some content => do
    d.checkSubtypes declaration content
    content.inverse.forM (d.checkInverse declaration)
  | none => .ok ()

def check (d : Draft) : Except Failure Unit := do
  d.checkCodes
  d.checkNames
  d.declarations.toList.forM d.checkHandles
  d.declarations.toList.forM d.checkEntity

end Draft

end Express
