import Express.Caseless
import Express.Declaration

/-!
# Schemas

A schema holds declarations in the order of their type codes; the handle of each is its position.

* `Schema.ofSorted` makes a schema of declarations that are in order, with a view of the handles of
  each kind and an index of names.
* `Schema.declaration` is the declaration with a handle. `Schema.byName` and `Schema.entityByName`
  look names up in any case; `Schema.byCode` and `Schema.byCode?` look codes up.
* `EntityView` is an entity together with the schema it belongs to, `Schema.entity?` the view of the
  entity with a handle.
-/

set_option autoImplicit false

namespace Express

structure Schema where
  name : String
  /-- Is the code of every declaration its position? -/
  builtIn : Bool
  /-- In ascending order of codes. -/
  declarations : Array Declaration
  types : List Handle
  selects : List Handle
  enumerations : List Handle
  entities : List Handle
  /-- The names with the handles of their declarations, in ascending order up to letter case. -/
  nameIndex : Array (String × Handle)
  deriving DecidableEq

structure EntityView where
  schema : Schema
  declaration : Declaration
  content : Entity
  isEntity : declaration.body = .entity content

namespace Schema

/-- The handles of the declarations of one kind. -/
def viewOf (kind : Kind) (declarations : Array Declaration) : List Handle :=
  (declarations.toList.filter (·.kind = kind)).map (·.handle)

/-- The schema of declarations that stand in the order of their codes and have their positions as
handles. -/
def ofSorted (config : Config) (declarations : Array Declaration) : Except Misuse Schema := do
  let named ← declarations.toList.mapM fun declaration => do
    return ((← elementAt declarations declaration.handle.index).name, declaration.handle)
  return {
    name := config.name
    builtIn := config.builtIn
    declarations
    types := viewOf .type declarations
    selects := viewOf .select declarations
    enumerations := viewOf .enumeration declarations
    entities := viewOf .entity declarations
    nameIndex := (named.mergeSort fun a b => Caseless.inOrder a.1 b.1).toArray }

def size (s : Schema) : Nat := s.declarations.size

def isEmpty (s : Schema) : Bool := s.declarations.isEmpty

def declaration (s : Schema) (h : Handle) : Except Misuse Declaration :=
  elementAt s.declarations h.index

/-! ## Entities -/

/-- A declaration of a schema as an entity, if it is one. -/
def view? (s : Schema) (declaration : Declaration) : Option EntityView :=
  match h : declaration.body with
  | .entity content => some ⟨s, declaration, content, h⟩
  | _ => none

/-- The entity with a handle, if the handle is that of an entity. -/
def entity? (s : Schema) (h : Handle) : Option EntityView :=
  s.declarations[h.index]?.bind s.view?

/-! ## Names -/

/-- The declaration with a name, in whatever case it is spelt. -/
def byName (s : Schema) (name : String) : Except Failure Declaration :=
  match (Bisect.find? s.nameIndex fun entry => Caseless.compare entry.1 name).bind
      (s.nameIndex[·]?) with
  | some entry => liftM (s.declaration entry.2)
  | none => .error (.refused (.declarationNotFound name))

def entityByName (s : Schema) (name : String) : Except Failure EntityView := do
  let declaration ← s.byName name
  match s.view? declaration with
  | some view => return view
  | none => .error (.refused (.kindMismatch declaration.name .entity declaration.kind))

/-! ## Codes -/

/-- The declaration of a built-in schema with a code, which is its position. -/
def byCode (s : Schema) (code : TypeCode) : Except Misuse Declaration :=
  if s.builtIn then elementAt s.declarations code.index else .error (.notBuiltIn s.name)

/-- The declaration with a code, if there is one. -/
def byCode? (s : Schema) (code : TypeCode) : Option Declaration :=
  if s.builtIn then s.declarations[code.index]?
  else (Bisect.find? s.declarations fun d => d.code.compare code).bind (s.declarations[·]?)

end Schema

end Express
