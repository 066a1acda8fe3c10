import Express.Proofs.Reading
import Express.Proofs.Tabulating
import Express.TypeTable.Text

/-!
# Type tables that are read again

By every library of which no more is known than its standard, a text is read as a table if it is a
JSON array of strings, whatever spelling and blanks it has. The names are sorted once more when a table
is read, which changes nothing in what a table wrote.

* `Json.Lists` — the text is an array of strings that stand for these names.
* `Json.StringLists.Standard` — what is known of a library for lists of strings.
  `Json.StringLists.plain_standard` says that the plain library is as others are.
* `TypeTable.ofNames_of_ascends` — the table of names that are in strict order already has just these
  names.
* `TypeTable.read?_eq_some` — a text is read as the table of the names that it lists.
* `TypeTable.table_survives` — a table is read from the text that it writes, and what is read from
  any other text writes a text that is read and written without a change.
-/

set_option autoImplicit false

namespace Express

open Json (StringLists Value)

namespace Json

/-- The text is an array of strings that stand for these names, in this order. -/
def Lists (text : String) (names : List String) : Prop :=
  ∃ items, (Value.array items).IsText text ∧ List.Forall₂ Value.IsString items names

/-- What is known of a library for lists of strings. -/
structure StringLists.Standard (library : StringLists) : Prop where
  /-- A list is written as an array without blanks, with the standard escapes. -/
  compact : ∀ strings : List String,
    library.write strings = (Value.array (strings.map Value.ofString)).text
  /-- Arrays of strings are read, and everything else is refused. -/
  arrays : ∀ {text : String} {strings : List String},
    library.read? text = some strings ↔ Lists text strings

/-- **A list that is written** is listed by its text. -/
theorem StringLists.Standard.lists_write {library : StringLists} (standard : library.Standard)
    (strings : List String) : Lists (library.write strings) strings := by
  rw [standard.compact]
  refine ⟨_, (Value.writable_array ?_).isText, ?_⟩
  · simp only [List.forall_mem_map]
    exact fun s _ => Value.writable_ofString s
  · rw [List.forall₂_map_left_iff, List.forall₂_same]
    exact fun s _ => Value.isString_ofString s

theorem Value.asStrings?_eq_some {v : Value} {strings : List String} : v.asStrings? = some strings ↔
    ∃ items, v = .array items ∧ List.Forall₂ IsString items strings := by
  cases v with
  | array items =>
    show items.mapM asString? = some strings ↔ _
    rw [mapM_asString?_eq_some]
    constructor
    · intro each
      exact ⟨items, rfl, each⟩
    · rintro ⟨_, ⟨⟩, each⟩
      exact each
  | null | bool | number | string | object => simp [asStrings?]

/-- **The plain library** does what is known of libraries. -/
theorem StringLists.plain_standard : StringLists.plain.Standard where
  compact _ := rfl
  arrays {text strings} := by
    show (Value.ofText? text).bind Value.asStrings? = some strings ↔ _
    simp only [Option.bind_eq_some_iff, Value.ofText?_eq_some, Value.asStrings?_eq_some]
    constructor
    · rintro ⟨_, holds, items, rfl, each⟩
      exact ⟨items, holds, each⟩
    · rintro ⟨items, holds, each⟩
      exact ⟨_, holds, items, rfl, each⟩

end Json

namespace TypeTable

variable {library : StringLists} {t : TypeTable} {text : String}

/-! ## Sorting once more -/

theorem distinctAfter_of_ascending : ∀ {kept : String} {names : List String},
    (kept :: names).Pairwise (fun a b => Caseless.compare a b = .lt) → distinctAfter kept names = names
  | _, [], _ => rfl
  | kept, name :: rest, ascending => by
    obtain ⟨first, tail⟩ := List.pairwise_cons.1 ascending
    have other : Caseless.same kept name = false := by
      rw [Caseless.same, first name List.mem_cons_self]
      rfl
    rw [distinctAfter, other, if_neg Bool.false_ne_true, distinctAfter_of_ascending tail]

/-- **Names in strict order** are the names of their table. -/
theorem ofNames_of_ascends (ascends : t.Ascends) : ofNames t.names.toList = t := by
  have sorted : t.names.toList.mergeSort Caseless.inOrder = t.names.toList := by
    apply List.mergeSort_of_pairwise
    refine List.Pairwise.imp (fun less => ?_) ascends
    rw [Caseless.inOrder, less]
    rfl
  have kept : distinct t.names.toList = t.names.toList := by
    unfold Ascends at ascends
    cases listed : t.names.toList with
    | nil => rfl
    | cons name rest =>
      rw [listed] at ascends
      rw [distinct, distinctAfter_of_ascending ascends]
  rw [ofNames, sorted, kept]

/-! ## Reading -/

/-- **A text is read** as the table of the names that it lists. -/
theorem read?_eq_some (standard : library.Standard) :
    read? library text = some t ↔ ∃ names, Json.Lists text names ∧ t = ofNames names := by
  unfold read?
  simp only [Option.map_eq_some_iff, standard.arrays]
  exact exists_congr fun names => and_congr_right fun _ => eq_comm

theorem read?_write (standard : library.Standard) (names : List String) :
    read? library ((ofNames names).write library) = some (ofNames names) :=
  (read?_eq_some standard).2
    ⟨_, standard.lists_write _, (ofNames_of_ascends (ofNames_ascends names)).symm⟩

/-- **Tables survive their texts**, whichever library writes and reads them. The text of the table of
some names lists the names of the table, and the same table is read from it. A text is read as a table
exactly if it is an array of strings, and then as the table of these strings, whose text is written
again when it has been read. -/
theorem table_survives (standard : library.Standard) (names : List String) :
    Json.Lists ((ofNames names).write library) (ofNames names).names.toList ∧
      read? library ((ofNames names).write library) = some (ofNames names) ∧
      ∀ (text : String) (t : TypeTable),
        (read? library text = some t ↔ ∃ listed, Json.Lists text listed ∧ t = ofNames listed) ∧
          (read? library text = some t →
            (read? library (t.write library)).map (write library) = some (t.write library)) := by
  refine ⟨standard.lists_write _, read?_write standard names, fun text t => ?_⟩
  refine ⟨read?_eq_some standard, fun read => ?_⟩
  obtain ⟨listed, -, rfl⟩ := (read?_eq_some standard).1 read
  rw [read?_write standard, Option.map_some]

/-! ## A small text -/

/-- Two spellings of one name, with a letter that has two characters in lower case. -/
def dotted : String := "[ \"\\u0130x\",\n \"i\\u0307X\"]"

theorem lists_dotted : Json.Lists dotted ["\u0130x", "i\u0307X"] := by
  refine ⟨[.string [.unit 0x130, .char 'x'], .string [.char 'i', .unit 0x307, .char 'X']],
    Json.Token.laid_of_ofText? (by decide +kernel), .cons ?_ (.cons ?_ .nil)⟩ <;>
    exact Value.asString?_eq_some.1 (by decide +kernel)

theorem ofNames_dotted : ofNames ["\u0130x", "i\u0307X"] = ⟨#["\u0130x"]⟩ := by
  unfold ofNames
  rw [List.mergeSort_of_pairwise (by decide +kernel)]
  decide +kernel

/-- The plain library keeps the first spelling, and writes it without blanks and escapes. -/
theorem dotted_survives : StringLists.plain.Standard ∧
    ∃ t, read? .plain dotted = some t ∧ t.write .plain = "[\"\u0130x\"]" ∧
      (read? .plain (t.write .plain)).map (write .plain) = some "[\"\u0130x\"]" := by
  refine ⟨StringLists.plain_standard, ?_⟩
  obtain ⟨-, -, survives⟩ := table_survives StringLists.plain_standard []
  obtain ⟨accepted, settles⟩ := survives dotted ⟨#["\u0130x"]⟩
  have read := accepted.2 ⟨_, lists_dotted, ofNames_dotted.symm⟩
  have written : TypeTable.write .plain ⟨#["\u0130x"]⟩ = "[\"\u0130x\"]" := by decide +kernel
  exact ⟨_, read, written, (settles read).trans (congrArg some written)⟩

end TypeTable

end Express
