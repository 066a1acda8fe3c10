import Express.Draft.Check
import Express.Schema.Basic

/-!
# Building a schema

A draft without faults is built by moving its declarations into the order of their codes.

* `Draft.order` lists the positions of the declarations in the order of their codes.
* `Draft.positions` gives, for each declaration in the order of adding, its handle in the schema: its
  place in that order. `Draft.renumber` looks a handle up there.
* `adopt` and `adoptAll` complete the lists of subtypes of entities whose subtypes were not listed.
* `Draft.assemble` moves everything to its place, and `Draft.build` checks the draft before.
-/

set_option autoImplicit false

namespace Express

/-! ## Subtypes that were not listed -/

/-- A subtype is added at the end of its supertype's list. -/
def adopt (declarations : Array Declaration) (subtype supertype : Handle) :
    Except Misuse (Array Declaration) := do
  let parent ← elementAt declarations supertype.index
  let body := parent.body.mapEntity fun e => { e with subtypes := e.subtypes ++ [subtype] }
  replaceAt declarations supertype.index { parent with body }

/-- The declaration at a position is added to the list of its supertype, if it has one whose list was
not given. -/
def adoptAt (listed : List Handle) (declarations : Array Declaration) (position : Nat) :
    Except Misuse (Array Declaration) := do
  let declaration ← elementAt declarations position
  match declaration.supertype? with
  | some supertype =>
    if listed.contains supertype then return declarations
    else adopt declarations (Handle.ofIndex position) supertype
  | none => return declarations

/-- Every subtype is added to the list of its supertype, in the order of the declarations, unless
the supertype's list was given. -/
def adoptAll (listed : List Handle) (declarations : Array Declaration) :
    Except Misuse (Array Declaration) :=
  (List.range declarations.size).foldlM (adoptAt listed) declarations

namespace Draft

/-! ## Positions -/

/-- The positions of the declarations, in the order of their codes. -/
def order (d : Draft) : Except Misuse (List Nat) := do
  let coded ← (List.range d.size).mapM fun index => do
    return (index, (← elementAt d.declarations index).code)
  return (coded.mergeSort fun a b => a.2.inOrder b.2).map (·.1)

/-- The handles that the declarations get: each is the place of a position in the order. -/
def positions (d : Draft) : Except Misuse (Array Handle) := do
  (← d.order).zipIdx.foldlM
    (fun positions (index, place) => replaceAt positions index (Handle.ofIndex place))
    (Array.replicate d.size (Handle.ofIndex 0))

/-- The handle that a declaration of the draft gets. -/
def renumber (positions : Array Handle) (h : Handle) : Except Misuse Handle :=
  elementAt positions h.index

/-! ## The schema -/

/-- The schema of a draft that has no faults. -/
def assemble (d : Draft) : Except Misuse Schema := do
  let renumber := renumber (← d.positions)
  let renumbered ← d.declarations.toList.mapM (·.renameM renumber)
  let listed ← d.explicit.mapM renumber
  let sorted := (renumbered.mergeSort Declaration.handleInOrder).toArray
  let complete ← adoptAll listed sorted
  Schema.ofSorted d.config complete

/-- The schema of a draft, or the first fault of the draft. -/
def build (d : Draft) : Except Failure Schema := do
  d.check
  liftM d.assemble

end Draft

end Express
