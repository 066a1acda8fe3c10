import Express.Basic
import Express.Json.Value

/-!
# Texts of configurations

A configuration is written as a record with the fields `name` and `built_in`, in this order. When it
is read, `built_in` may be left out. Records are written and read as JSON by a library of the user's
choice, to which a record is a list of fields.

* `Json.Field` is a field of a record as it is declared, `Json.Datum` is what a field holds.
* `Json.Records` is what a library does. `Json.Records.plain` goes through `Json.Value`, from an object
  or from an array of the fields in their order.
* `Config.fields` declares the fields of a configuration.
* `Config.write` and `Config.read?` write and read one by a library, `Config.text` and `Config.ofText?`
  by the plain library.
-/

set_option autoImplicit false

namespace Express

namespace Json

/-! ## Records -/

inductive FieldType where
  | string
  | bool
  deriving DecidableEq

/-- What a field holds. -/
inductive Datum where
  | string (value : String)
  | bool (value : Bool)
  deriving DecidableEq

/-- The JSON value as which a datum is written. -/
def Datum.value : Datum → Value
  | .string value => .ofString value
  | .bool value => .bool value

/-- The datum of a type that a JSON value is. -/
def FieldType.read? : FieldType → Value → Option Datum
  | .string, value => value.asString?.map .string
  | .bool, .bool value => some (.bool value)
  | .bool, _ => none

/-- A field of a record. -/
structure Field where
  key : String
  type : FieldType
  /-- What the field holds when it is left out; without a default it must not be. -/
  default? : Option Datum := none

/-- The field, with a datum as default if it has the key. -/
def Field.filled (key : String) (datum : Datum) (f : Field) : Field :=
  if f.key = key then { f with default? := some datum } else f

/-- A library that writes and reads records as texts. -/
structure Records where
  /-- The text of a record, from the keys of its fields and what they hold. -/
  write : List (String × Datum) → String
  /-- What the fields hold in an object with these members, unless the object is refused. -/
  members? : List Field → List (String × Value) → Option (List Datum)
  /-- What the fields hold in a text, unless the text is refused. -/
  read? : List Field → String → Option (List Datum)

/-! ## A plain library -/

/-- What the fields hold in an object. A member that has been read stays as the default of its field. -/
def visit? : List Field → List (String × Value) → Option (List Datum)
  | fields, [] => fields.mapM (·.default?)
  | fields, (key, value) :: rest =>
    match fields.find? (·.key = key) with
    | none => visit? fields rest
    | some field =>
      if key ∈ rest.map (·.1) then none
      else (field.type.read? value).bind fun datum => visit? (fields.map (·.filled key datum)) rest

/-- What the fields hold in an array, which has their values in their order. -/
def inOrder? : List Field → List Value → Option (List Datum)
  | [], [] => some []
  | [], _ :: _ => none
  | field :: fields, [] => do return (← field.default?) :: (← inOrder? fields [])
  | field :: fields, value :: rest => do
    return (← field.type.read? value) :: (← inOrder? fields rest)

/-- The members of an object, if every key stands for characters. -/
def decodeKeys? (members : List (List Piece × Value)) : Option (List (String × Value)) :=
  members.mapM fun (key, value) => return (String.ofList (← Piece.decode? key), value)

/-- What the fields hold in a value. -/
def Value.record? (fields : List Field) : Value → Option (List Datum)
  | .object members => (decodeKeys? members).bind (visit? fields)
  | .array items => inOrder? fields items
  | _ => none

/-- The library that reads a text as a JSON value first, and writes one last. -/
def Records.plain : Records where
  write data := (Value.object (data.map fun (key, datum) => (Piece.ofString key, datum.value))).text
  members? := visit?
  read? fields text := (Value.ofText? text).bind (Value.record? fields)

end Json

/-! ## Configurations -/

namespace Config

open Json (Datum Field Records)

/-- The key of the name. -/
def nameKey : String := "name"

/-- The key of the choice. -/
def builtInKey : String := "built_in"

/-- The fields of a configuration. -/
def fields : List Field :=
  [{ key := nameKey, type := .string },
    { key := builtInKey, type := .bool, default? := some (.bool false) }]

def data (c : Config) : List (String × Datum) :=
  [(nameKey, .string c.name), (builtInKey, .bool c.builtIn)]

/-- The configuration whose fields hold these data. -/
def ofData? : List Datum → Option Config
  | [.string name, .bool builtIn] => some ⟨name, builtIn⟩
  | _ => none

def write (library : Records) (c : Config) : String := library.write c.data

def read? (library : Records) (text : String) : Option Config :=
  (library.read? fields text).bind ofData?

def text (c : Config) : String := c.write .plain

def ofText? (text : String) : Option Config := read? .plain text

end Config

end Express
