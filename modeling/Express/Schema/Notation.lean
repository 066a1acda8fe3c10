import Express.Schema.Inheritance

/-!
# Data types in a schema

The handles in a data type mean something only together with a schema.

* `DataType.text` writes a data type in EXPRESS notation, for instance `LIST [1:?] OF Point`.
* `DataType.isA` and `DataType.isNamed` tell whether a data type is the name of a declaration that
  is, or inherits from, another one.
-/

set_option autoImplicit false

namespace Express

/-- The bounds of an aggregate; a question mark stands for no upper bound. -/
def boundsText (lower : Int) (upper : Option Int) : String :=
  "[" ++ toString lower ++ ":" ++
    (match upper with
      | some bound => toString bound
      | none => "?") ++ "]"

namespace DataType

/-- The EXPRESS notation of a data type. -/
def text (s : Schema) : DataType → Except Misuse String
  | .simple type => .ok type.keyword
  | .named h => do return (← s.declaration h).name
  | .aggregate kind lower upper element => do
    return kind.keyword ++ " " ++ boundsText lower upper ++ " OF " ++ (← element.text s)

/-- Does a data type name a declaration that has this code, or inherits from the one that has it? -/
def isA (s : Schema) (type : DataType) (code : TypeCode) : Except Misuse Bool :=
  match type with
  | .named h => s.isA h code
  | _ => .ok false

/-- Does a data type name a declaration that has this name, or inherits from the one that has it? -/
def isNamed (s : Schema) (type : DataType) (name : String) : Except Misuse Bool :=
  match type with
  | .named h => s.isNamed h name
  | _ => .ok false

end DataType

end Express
