import Express.Declaration

/-!
# Drafts

A schema is drafted by calls that add declarations and calls that set the contents of declarations
added before. Declarations may refer to each other in any order, as contents can be set late; only
a supertype has to be there when its subtype is added, so that no chain of supertypes closes.

* `Draft` is what has been drafted so far.
* `Draft.add` adds a declaration under a name that a registry knows, and gives its handle.
* `Draft.set` replaces one part of the content of a declaration of the right kind.
* `Call` is a call as a value; `Draft.perform` makes it and `Draft.run` makes several in a row, where
  a call that fails changes nothing.
-/

set_option autoImplicit false

namespace Express

structure Draft where
  config : Config
  /-- The declarations in the order of adding; the handle of each is its position. -/
  declarations : Array Declaration := #[]
  /-- The code of each declaration with its handle, the last one added first. -/
  codes : List (TypeCode × Handle) := []
  /-- The entities whose subtypes have been listed. -/
  explicit : List Handle := []
  deriving DecidableEq

/-- What is given when a declaration is added. Of an entity this is its supertype alone. -/
inductive Content where
  | type (underlying : DataType)
  | select (members : List Handle)
  | enumeration (items : List String)
  | entity (supertype : Option Handle)
  deriving DecidableEq

def Content.body : Content → Body
  | .type underlying => .type underlying
  | .select members => .select members
  | .enumeration items => .enumeration items
  | .entity supertype => .entity { supertype }

/-- A part of the content of a declaration, to replace the one that is there. -/
inductive Change where
  | type (underlying : DataType)
  | members (handles : List Handle)
  /-- The own attributes of an entity and, for each, whether it is derived. -/
  | attributes (own : List Attribute) (flags : List Bool)
  | inverse (own : List InverseAttribute)
  | subtypes (handles : List Handle)
  deriving DecidableEq

namespace Change

/-- The kind of declarations that have such a part. -/
def kind : Change → Kind
  | .type _ => .type
  | .members _ => .select
  | .attributes _ _ => .entity
  | .inverse _ => .entity
  | .subtypes _ => .entity

def apply : Change → Body → Body
  | .type underlying, _ => .type underlying
  | .members handles, _ => .select handles
  | .attributes own flags, body =>
    body.mapEntity fun e => { e with attributes := own, derived := flags }
  | .inverse own, body => body.mapEntity fun e => { e with inverse := own }
  | .subtypes handles, body => body.mapEntity fun e => { e with subtypes := handles }

def listsSubtypes : Change → Bool
  | .subtypes _ => true
  | _ => false

/-- Attributes and derived flags that differ in number are refused. -/
def check (owner : String) : Change → Except Failure Unit
  | .attributes own flags =>
    refuseIf (own.length != flags.length) (.derivedFlagMismatch owner own.length flags.length)
  | _ => .ok ()

end Change

inductive Call where
  | add (name : String) (content : Content)
  | set (handle : Handle) (change : Change)
  deriving DecidableEq

namespace Draft

def empty (config : Config) : Draft := { config }

def size (d : Draft) : Nat := d.declarations.size

def isEmpty (d : Draft) : Bool := d.declarations.isEmpty

/-- The declaration with a handle, if there is one and it is of the kind. -/
def expect (d : Draft) (h : Handle) (kind : Kind) : Except SchemaError Declaration :=
  match d.declarations[h.index]? with
  | none => .error (.unknownDeclaration h)
  | some declaration =>
    if declaration.kind = kind then .ok declaration
    else .error (.kindMismatch declaration.name kind declaration.kind)

/-- The supertype of a new declaration has to be an entity of the draft. -/
def checkSupertype (d : Draft) : Content → Except SchemaError Unit
  | .entity (some supertype) => (d.expect supertype .entity).map fun _ => ()
  | _ => .ok ()

/-- The draft with a declaration added, and its handle. The declaration gets the code of its name
and the spelling that goes with the code, or else the name as it is given. -/
def add (registry : Registry) (d : Draft) (name : String) (content : Content) :
    Except SchemaError (Handle × Draft) := do
  d.checkSupertype content
  let code ← registry.codeOf name
  let spelling := (registry.nameOf? code).getD name
  if (d.codes.lookup code).isSome then .error (.duplicateTypeCode code spelling)
  else
    let handle := Handle.ofIndex d.size
    .ok (handle, { d with
      declarations := d.declarations.push ⟨handle, code, spelling, content.body⟩
      codes := (code, handle) :: d.codes })

/-- The draft with the body of a declaration changed. -/
def changeBody (d : Draft) (h : Handle) (f : Body → Body) : Except Misuse Draft := do
  let declaration ← elementAt d.declarations h.index
  return { d with
    declarations :=
      d.declarations.setIfInBounds h.index { declaration with body := f declaration.body } }

/-- The draft with one part of a declaration replaced. -/
def set (d : Draft) (h : Handle) (change : Change) : Except Failure Draft := do
  let declaration ← d.expect h change.kind
  change.check declaration.name
  let changed ← d.changeBody h change.apply
  return if change.listsSubtypes then { changed with explicit := changed.explicit.insert h }
    else changed

/-- The draft after a call, and the handle of the declaration if one was added. -/
def perform (registry : Registry) (d : Draft) : Call → Except Failure (Option Handle × Draft)
  | .add name content => do
    let (handle, d) ← d.add registry name content
    return (some handle, d)
  | .set handle change => do return (none, ← d.set handle change)

/-- The draft after a call that may fail. -/
def after (registry : Registry) (d : Draft) (call : Call) : Draft :=
  match d.perform registry call with
  | .ok (_, changed) => changed
  | .error _ => d

/-- The draft after some calls, of which any may fail. -/
def run (registry : Registry) (config : Config) (calls : List Call) : Draft :=
  calls.foldl (after registry) (empty config)

end Draft

end Express
