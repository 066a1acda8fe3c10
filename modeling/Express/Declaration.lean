import Express.Entity

/-!
# Declarations

A declaration gives a name and a type code to a type, a select, an enumeration or an entity.

* `Body` is what a declaration declares, of one of four kinds; the `as…?` queries narrow it.
* `Declaration.references` lists the handles that a declaration refers to. `Declaration.rename`
  replaces these and its own handle, `Declaration.renameM` does so with a replacement that may fail.
-/

set_option autoImplicit false

namespace Express

inductive Body where
  | type (underlying : DataType)
  | select (members : List Handle)
  | enumeration (items : List String)
  | entity (content : Entity)
  deriving DecidableEq

/-- A declaration with its handle, type code and name. -/
structure Declaration where
  handle : Handle
  code : TypeCode
  name : String
  body : Body
  deriving DecidableEq

namespace Body

def kind : Body → Kind
  | .type _ => .type
  | .select _ => .select
  | .enumeration _ => .enumeration
  | .entity _ => .entity

/-- The handles in a body, in the order in which it holds them. -/
def references : Body → List Handle
  | .type underlying => underlying.references
  | .select members => members
  | .enumeration _ => []
  | .entity content => content.references

/-- The body with every handle replaced. -/
def rename (f : Handle → Handle) : Body → Body
  | .type underlying => .type (underlying.rename f)
  | .select members => .select (members.map f)
  | .enumeration items => .enumeration items
  | .entity content => .entity (content.rename f)

/-- The body with every handle replaced, by a replacement that may fail. -/
def renameM {m : Type → Type} [Monad m] (f : Handle → m Handle) : Body → m Body
  | .type underlying => do return .type (← underlying.renameM f)
  | .select members => do return .select (← members.mapM f)
  | .enumeration items => pure (.enumeration items)
  | .entity content => do return .entity (← content.renameM f)

/-- The body with the content of an entity changed; a body of another kind stays as it is. -/
def mapEntity (f : Entity → Entity) : Body → Body
  | .entity content => .entity (f content)
  | body => body

end Body

namespace Declaration

def kind (d : Declaration) : Kind := d.body.kind

def asType? (d : Declaration) : Option DataType :=
  match d.body with
  | .type underlying => some underlying
  | _ => none

def asSelect? (d : Declaration) : Option (List Handle) :=
  match d.body with
  | .select members => some members
  | _ => none

def asEnumeration? (d : Declaration) : Option (List String) :=
  match d.body with
  | .enumeration items => some items
  | _ => none

def asEntity? (d : Declaration) : Option Entity :=
  match d.body with
  | .entity content => some content
  | _ => none

/-- The supertype of an entity that has one. -/
def supertype? (d : Declaration) : Option Handle := d.asEntity?.bind (·.supertype)

/-- The handles that a declaration refers to, in the order in which it holds them. -/
def references (d : Declaration) : List Handle := d.body.references

/-- The declaration with its own handle and every handle in it replaced. -/
def rename (f : Handle → Handle) (d : Declaration) : Declaration :=
  { d with handle := f d.handle, body := d.body.rename f }

/-- The declaration with its own handle and every handle in it replaced, by a replacement that may
fail. -/
def renameM {m : Type → Type} [Monad m] (f : Handle → m Handle) (d : Declaration) :
    m Declaration := do
  return { d with handle := ← f d.handle, body := ← d.body.renameM f }

/-- May the first declaration stand before the second in the order of handles? -/
def handleInOrder (a b : Declaration) : Bool := a.handle.inOrder b.handle

end Declaration

/-- The position of the first item of an enumeration that is spelt exactly so. -/
def Enumeration.indexOf? (items : List String) (name : String) : Option Nat := items.idxOf? name

def Enumeration.item? (items : List String) (index : Nat) : Option String := items[index]?

def Select.contains (members : List Handle) (h : Handle) : Bool := members.contains h

end Express
