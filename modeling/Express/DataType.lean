import Express.Basic

/-!
# Data types

The types of attribute values, as EXPRESS has them.

* `SimpleType` are the seven built-in types, `AggregateKind` the four kinds of collections.
* `DataType` is a simple type, the type that a declaration names, or an aggregate of elements of a
  data type with a lower bound and an optional upper bound.
* `DataType.references` lists the handles in a data type, `DataType.rename` replaces each of them,
  and `DataType.renameM` does the same with a replacement that may fail.
-/

set_option autoImplicit false

namespace Express

inductive SimpleType where
  | binary
  | boolean
  | integer
  | logical
  | number
  | real
  | string
  deriving DecidableEq

namespace SimpleType

/-- The simple types in alphabetical order. -/
def all : List SimpleType := [binary, boolean, integer, logical, number, real, string]

def keyword : SimpleType → String
  | binary => "BINARY"
  | boolean => "BOOLEAN"
  | integer => "INTEGER"
  | logical => "LOGICAL"
  | number => "NUMBER"
  | real => "REAL"
  | string => "STRING"

def isNumeric : SimpleType → Bool
  | integer | number | real => true
  | _ => false

end SimpleType

inductive AggregateKind where
  | array
  /-- Elements without order, possibly repeated. -/
  | bag
  | list
  /-- Elements without order, none repeated. -/
  | set
  deriving DecidableEq

def AggregateKind.keyword : AggregateKind → String
  | array => "ARRAY"
  | bag => "BAG"
  | list => "LIST"
  | set => "SET"

/-- The type of a value. An aggregate without an upper bound is unbounded. -/
inductive DataType where
  | simple (type : SimpleType)
  | named (declaration : Handle)
  | aggregate (kind : AggregateKind) (lower : Int) (upper : Option Int) (element : DataType)
  deriving DecidableEq

namespace DataType

/-- An aggregate whose upper bound is given as a number, where -1 stands for no upper bound. -/
def aggregateUpTo (kind : AggregateKind) (lower upper : Int) (element : DataType) : DataType :=
  .aggregate kind lower (if upper = -1 then none else some upper) element

/-- The number of aggregates around the innermost type. -/
def depth : DataType → Nat
  | .aggregate _ _ _ element => 1 + element.depth
  | _ => 0

def innermost : DataType → DataType
  | .aggregate _ _ _ element => element.innermost
  | type => type

def references : DataType → List Handle
  | .simple _ => []
  | .named declaration => [declaration]
  | .aggregate _ _ _ element => element.references

/-- The data type with every handle replaced. -/
def rename (f : Handle → Handle) : DataType → DataType
  | .simple type => .simple type
  | .named declaration => .named (f declaration)
  | .aggregate kind lower upper element => .aggregate kind lower upper (element.rename f)

/-- The data type with every handle replaced, by a replacement that may fail. -/
def renameM {m : Type → Type} [Monad m] (f : Handle → m Handle) : DataType → m DataType
  | .simple type => pure (.simple type)
  | .named declaration => do return .named (← f declaration)
  | .aggregate kind lower upper element => do
    return .aggregate kind lower upper (← element.renameM f)

end DataType

end Express
