import Express.Basic
import Express.Caseless
import Express.Json.Value

/-!
# Type tables and their texts

A type table is a registry made from a list of names: the code of a name is its rank in the order
of names up to letter case. It is written as its list of names, and made of the names when it is read.
The lists are written and read as JSON by a library of the user's choice.

* `TypeTable.ofNames` sorts the names and keeps, of several that differ in case only, the one that
  comes first in the list.
* `TypeTable.codeOf` finds the code of a name in any case, `TypeTable.nameOf?` the name of a code.
* `TypeTable.entries` lists the codes with their names, and `TypeTable.registry` is the table as a
  registry.
* `Json.StringLists` is what a library does. `Json.StringLists.plain` goes through `Json.Value`.
* `TypeTable.write` and `TypeTable.read?` write and read a table by a library; the names that are read
  are sorted like any other list of names. `TypeTable.text` and `TypeTable.ofText?` do so by the plain
  library.
-/

set_option autoImplicit false

namespace Express

/-- Names in ascending order up to letter case. -/
structure TypeTable where
  names : Array String
  deriving DecidableEq

namespace TypeTable

/-- The names of a list that differ in more than case from the last name kept before them. -/
def distinctAfter (kept : String) : List String → List String
  | [] => []
  | name :: rest =>
    if Caseless.same kept name then distinctAfter kept rest else name :: distinctAfter name rest

/-- The first name of each stretch of names that differ in case only. -/
def distinct : List String → List String
  | [] => []
  | name :: rest => name :: distinctAfter name rest

/-- The table of the names in a list. The sort keeps the order of names that differ in case only,
so the first of them is the one that stays. -/
def ofNames (names : List String) : TypeTable where
  names := (distinct (names.mergeSort Caseless.inOrder)).toArray

def size (t : TypeTable) : Nat := t.names.size

def isEmpty (t : TypeTable) : Bool := t.names.isEmpty

/-- The names of a table with their codes, in the order of codes. -/
def entries (t : TypeTable) : List (TypeCode × String) :=
  t.names.toList.zipIdx.map fun (name, index) => (TypeCode.ofNat index, name)

/-- The code of a name, in whatever case it is spelt. -/
def codeOf (t : TypeTable) (name : String) : Except SchemaError TypeCode :=
  match Bisect.find? t.names (Caseless.compare · name) with
  | some index => .ok (TypeCode.ofNat index)
  | none => .error (.unknownTypeName name)

def nameOf? (t : TypeTable) (code : TypeCode) : Option String := t.names[code.index]?

def registry (t : TypeTable) : Registry := ⟨t.codeOf, t.nameOf?⟩

end TypeTable

/-! ## Texts -/

namespace Json

/-- A library that writes and reads lists of strings as texts. -/
structure StringLists where
  write : List String → String
  /-- The list in a text, unless the text is refused. -/
  read? : String → Option (List String)

/-- The strings that are the items of an array. -/
def Value.asStrings? : Value → Option (List String)
  | .array items => items.mapM asString?
  | _ => none

/-- The library that reads a text as a JSON value first, and writes one last. -/
def StringLists.plain : StringLists where
  write strings := (Value.array (strings.map .ofString)).text
  read? text := (Value.ofText? text).bind Value.asStrings?

end Json

namespace TypeTable

open Json (StringLists)

def write (library : StringLists) (t : TypeTable) : String := library.write t.names.toList

/-- The table of the names in a text. -/
def read? (library : StringLists) (text : String) : Option TypeTable :=
  (library.read? text).map ofNames

def text (t : TypeTable) : String := t.write .plain

def ofText? (text : String) : Option TypeTable := read? .plain text

end TypeTable

end Express
