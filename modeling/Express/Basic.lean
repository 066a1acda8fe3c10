/-!
# Basic notions

What drafts and schemas rest on: the numbers by which declarations are referred to, what an operation
can fail with, what a schema is made with, and two ways to search.

* `Handle` is the position of a declaration: its place in the order of adding while a schema is
  drafted, its place in the order of type codes once the schema is built. `TypeCode` is the number that
  a registry gives to a type name. Both are 32-bit numbers, made from natural numbers modulo 2^32 and
  read back as natural numbers.
* `Kind` tells the four kinds of declarations apart.
* `SchemaError` lists what a request can be refused for, each cause with the data its message
  names; `SchemaError.message` is the wording. `Misuse` lists the broken preconditions: a position
  outside a list, and a question that only a built-in schema answers. `Failure` is either. An operation
  that fails has no other effect.
* `refuseIf`, `elementAt` and `replaceAt` are the places where failures arise.
* `Registry` gives codes to type names and knows how the name behind a code is spelt: a name may be
  refused, a code may have no spelling. `Registry.ofPairs` is the registry given by two lists; in each
  the first fitting pair counts.
* `Config` is the name of a schema together with the choice whether it is built-in. The type codes
  of a built-in schema are the positions of its declarations.
* `Bisect.find? keys aim` is the position of an element of `keys` that `aim` answers with `.eq`. `aim`
  places an element before (`.lt`), at (`.eq`) or after (`.gt`) what is looked for, and the answers
  are supposed to rise along the array. `Bisect.between` is the search in the positions from `lo` to
  just below `hi`.
* `Chain.ascend parent steps node` is the chain of `node`: the node, its parent, the parent of that,
  and so on, cut off after `steps` nodes. Any bound at least as large as the forest is deep gives the
  whole chain, and the number of nodes is such a bound.
-/

set_option autoImplicit false

namespace Express

/-! ## Handles and type codes -/

/-- The position of a declaration, as a 32-bit number. -/
structure Handle where
  value : UInt32
  deriving DecidableEq, Inhabited

structure TypeCode where
  value : UInt32
  deriving DecidableEq, Inhabited

namespace Handle

/-- The handle of a position; positions from 2^32 on are taken modulo 2^32. -/
def ofIndex (index : Nat) : Handle := ⟨UInt32.ofNat index⟩

/-- The position that a handle stands for. -/
def index (h : Handle) : Nat := h.value.toNat

/-- A handle is written as a number sign and its position. -/
def text (h : Handle) : String := "#" ++ toString h.index

/-- May handle `a` stand before handle `b` in ascending order? -/
def inOrder (a b : Handle) : Bool := a.value ≤ b.value

end Handle

namespace TypeCode

/-- The code with this number; numbers from 2^32 on are taken modulo 2^32. -/
def ofNat (number : Nat) : TypeCode := ⟨UInt32.ofNat number⟩

/-- The code as a position in a table that is dense in codes. -/
def index (c : TypeCode) : Nat := c.value.toNat

/-- A code is written as its number. -/
def text (c : TypeCode) : String := toString c.index

def compare (a b : TypeCode) : Ordering := Ord.compare a.value b.value

/-- May code `a` stand before code `b` in ascending order? -/
def inOrder (a b : TypeCode) : Bool := a.value ≤ b.value

/-- Is code `a` smaller than code `b`? -/
def below (a b : TypeCode) : Bool := a.value < b.value

end TypeCode

/-! ## Errors -/

inductive Kind where
  | type
  | select
  | enumeration
  | entity
  deriving DecidableEq

/-- The EXPRESS keyword that introduces a declaration of the kind. -/
def Kind.keyword : Kind → String
  | .type => "TYPE"
  | .select => "SELECT"
  | .enumeration => "ENUMERATION"
  | .entity => "ENTITY"

/-- Why an inverse attribute inverts no forward attribute. -/
inductive InverseFault where
  /-- The declaration on the other side is no entity. -/
  | notEntity (target : String)
  /-- The forward attribute belongs to no entity on the other side's line of supertypes. -/
  | notInherited (target : String)
  /-- The owner of the forward attribute has no attribute at the position. -/
  | noAttribute (owner : String) (position : Nat)
  deriving DecidableEq

def InverseFault.message : InverseFault → String
  | .notEntity target => "'" ++ target ++ "' is not an entity"
  | .notInherited target =>
    "forward attribute is not declared on '" ++ target ++ "' or its supertypes"
  | .noAttribute owner position =>
    "'" ++ owner ++ "' has no attribute at position " ++ toString position

/-- What a request can be refused for. -/
inductive SchemaError where
  | declarationNotFound (name : String)
  /-- The registry has no code for the name. -/
  | unknownTypeName (name : String)
  | duplicateTypeCode (code : TypeCode) (name : String)
  | duplicateName (name : String)
  | kindMismatch (name : String) (expected found : Kind)
  | unknownDeclaration (handle : Handle)
  /-- The attributes of an entity and their derived flags differ in number. -/
  | derivedFlagMismatch (entity : String) (attributes derived : Nat)
  | sparseBuiltInCodes (expected found : TypeCode)
  | invalidInverseAttribute (entity inverse : String) (reason : InverseFault)
  /-- A listed subtype has another supertype or none. -/
  | inconsistentSubtype (entity subtype : String)
  | duplicateSubtype (entity subtype : String)
  | missingSubtype (entity subtype : String)
  deriving DecidableEq

def SchemaError.message : SchemaError → String
  | .declarationNotFound name => "declaration '" ++ name ++ "' not found"
  | .unknownTypeName name => "unknown type name '" ++ name ++ "'"
  | .duplicateTypeCode code name =>
    "duplicate type code " ++ code.text ++ " for '" ++ name ++ "'"
  | .duplicateName name => "duplicate declaration name '" ++ name ++ "'"
  | .kindMismatch name expected found =>
    "declaration '" ++ name ++ "' is " ++ found.keyword ++ ", expected " ++ expected.keyword
  | .unknownDeclaration handle => "unknown declaration handle " ++ handle.text
  | .derivedFlagMismatch entity attributes derived =>
    "entity '" ++ entity ++ "' has " ++ toString attributes ++ " attributes but "
      ++ toString derived ++ " derived flags"
  | .sparseBuiltInCodes expected found =>
    "built-in schema codes must be dense: expected " ++ expected.text ++ ", found " ++ found.text
  | .invalidInverseAttribute entity inverse reason =>
    "invalid inverse attribute '" ++ inverse ++ "' on '" ++ entity ++ "': " ++ reason.message
  | .inconsistentSubtype entity subtype =>
    "'" ++ subtype ++ "' is listed as a subtype of '" ++ entity ++ "' but does not inherit from it"
  | .duplicateSubtype entity subtype =>
    "'" ++ subtype ++ "' is listed more than once as a subtype of '" ++ entity ++ "'"
  | .missingSubtype entity subtype =>
    "'" ++ subtype ++ "' inherits from '" ++ entity ++ "' but is missing from its subtype list"

/-- A broken precondition. -/
inductive Misuse where
  /-- A list of `size` elements was asked for the one at `index`. -/
  | outOfRange (size index : Nat)
  /-- A schema that is not built-in was asked for a declaration by its code. -/
  | notBuiltIn (schema : String)
  deriving DecidableEq

def Misuse.message : Misuse → String
  | .outOfRange size index =>
    "index out of bounds: the len is " ++ toString size ++ " but the index is " ++ toString index
  | .notBuiltIn schema =>
    "lookup by type code requires a built-in schema, '" ++ schema ++ "' is not"

/-- Why an operation gave no answer. -/
inductive Failure where
  | refused (error : SchemaError)
  | misused (misuse : Misuse)
  deriving DecidableEq

instance : MonadLift (Except SchemaError) (Except Failure) := ⟨Except.mapError .refused⟩

instance : MonadLift (Except Misuse) (Except Failure) := ⟨Except.mapError .misused⟩

/-- A request is refused when a condition holds. -/
def refuseIf (condition : Bool) (error : SchemaError) : Except Failure Unit :=
  if condition then .error (.refused error) else .ok ()

/-- The element at a position; a position past the end is a misuse. -/
def elementAt {α : Type} (elements : Array α) (index : Nat) : Except Misuse α :=
  match elements[index]? with
  | some element => .ok element
  | none => .error (.outOfRange elements.size index)

/-- The elements with another one at a position; a position past the end is a misuse. -/
def replaceAt {α : Type} (elements : Array α) (index : Nat) (element : α) :
    Except Misuse (Array α) :=
  if index < elements.size then .ok (elements.setIfInBounds index element)
  else .error (.outOfRange elements.size index)

/-! ## Registries -/

/-- The codes of type names and the spellings of codes. -/
structure Registry where
  /-- The code of a name, or the reason why the name is refused. -/
  codeOf : String → Except SchemaError TypeCode
  /-- The spelling of the name behind a code. -/
  nameOf? : TypeCode → Option String

/-- The registry that looks names and codes up in lists of pairs. Names are compared exactly. -/
def Registry.ofPairs (codes : List (String × TypeCode)) (spellings : List (TypeCode × String)) :
    Registry where
  codeOf name :=
    match codes.lookup name with
    | some code => .ok code
    | none => .error (.unknownTypeName name)
  nameOf? code := spellings.lookup code

/-! ## Configurations -/

/-- The name of a schema, and whether it is built-in. -/
structure Config where
  name : String
  builtIn : Bool := false
  deriving DecidableEq

namespace Config

def plain (name : String) : Config := ⟨name, false⟩

def builtInNamed (name : String) : Config := ⟨name, true⟩

def withBuiltIn (c : Config) (builtIn : Bool) : Config := { c with builtIn := builtIn }

end Config

/-! ## Searching -/

namespace Bisect

variable {α : Type}

/-- The search in the half-open window of positions from `lo` to `hi`. -/
def between (keys : Array α) (aim : α → Ordering) (lo hi : Nat) (inside : hi ≤ keys.size) :
    Option Nat :=
  if window : lo < hi then
    let middle := lo + (hi - lo) / 2
    have middle_lt : middle < keys.size := by omega
    match aim keys[middle] with
    | .eq => some middle
    | .lt => between keys aim (middle + 1) hi inside
    | .gt => between keys aim lo middle (by omega)
  else none
termination_by hi - lo

/-- The position of an element that is neither before nor after the one looked for. -/
def find? (keys : Array α) (aim : α → Ordering) : Option Nat :=
  between keys aim 0 keys.size (Nat.le_refl _)

end Bisect

namespace Chain

variable {α : Type}

/-- A node followed by its ancestors, nearest first, `steps` nodes at most. -/
def ascend (parent : α → Option α) : Nat → α → List α
  | 0, _ => []
  | steps + 1, node =>
    node :: match parent node with
      | none => []
      | some above => ascend parent steps above

end Chain

end Express
