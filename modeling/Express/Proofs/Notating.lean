import Express.Proofs.Closure

/-!
# What a data type can be told from

The EXPRESS notation of a data type tells the data type, as long as names are as EXPRESS has them: they
have no spaces and are none of the keywords of simple types. A first space then ends the word that
opens an aggregate, and bounds end at the first colon and the first bracket.

* `mem_toString_int` — a number is written in digits, with a sign or without.
* `boundsText_inj` — bounds can be told from their notation, wherever the text goes on.
* `DataType.eq_of_text` — data types with the same notation are the same, in a schema in which names
  tell declarations apart (`Schema.NamesWords`).
* `Draft.build_text` — so in every schema that is built with such names.
-/

set_option autoImplicit false

namespace Express

/-- Lists that go on behind the first of a separator can be told apart there. -/
theorem eq_of_append_cons {α : Type} {c : α} : ∀ {a b x y : List α}, c ∉ a → c ∉ b →
    a ++ c :: x = b ++ c :: y → a = b ∧ x = y
  | [], [], _, _, _, _, same => ⟨rfl, (List.cons.inj same).2⟩
  | [], _ :: _, _, _, _, absent, same =>
    absurd ((List.cons.inj same).1 ▸ List.mem_cons_self) absent
  | _ :: _, [], _, _, absent, _, same =>
    absurd ((List.cons.inj same).1 ▸ List.mem_cons_self) absent
  | _ :: _, _ :: _, _, _, absent, absent', same => by
    obtain ⟨first, rest⟩ := List.cons.inj same
    obtain ⟨before, behind⟩ := eq_of_append_cons (fun mem => absent (List.mem_cons_of_mem _ mem))
      (fun mem => absent' (List.mem_cons_of_mem _ mem)) rest
    exact ⟨by rw [first, before], behind⟩

/-! ## Bounds -/

theorem isDigit_of_mem_repr {n : Nat} {c : Char} (mem : c ∈ n.repr.toList) : c.isDigit := by
  rw [Nat.toList_repr] at mem
  exact Nat.isDigit_of_mem_toDigits (by decide) (by decide) mem

theorem mem_toString_int {n : Int} {c : Char} (mem : c ∈ (toString n).toList) :
    c.isDigit ∨ c = '-' := by
  rw [Int.toString_eq_repr, Int.repr_eq_if] at mem
  split at mem
  · exact .inl (isDigit_of_mem_repr mem)
  · rw [String.toList_append, List.mem_append] at mem
    rcases mem with sign | number
    · exact .inr (List.mem_singleton.1 sign)
    · exact .inl (isDigit_of_mem_repr number)

/-- A number is told by its digits and its sign. -/
theorem eq_of_toString_int {a b : Int} (same : toString a = toString b) : a = b := by
  have digits {m n : Nat} (same : m.repr = n.repr) : m = n := by
    rw [← Nat.ofDigitChars_ten_toDigits (n := m), ← Nat.toList_repr, same, Nat.toList_repr,
      Nat.ofDigitChars_ten_toDigits]
  have unsigned (n : Nat) (text : String) : n.repr ≠ "-" ++ text := by
    intro same
    have sign : '-' ∈ n.repr.toList := by simp [same]
    exact absurd (isDigit_of_mem_repr sign) (by decide)
  rw [Int.toString_eq_repr, Int.toString_eq_repr, Int.repr_eq_if, Int.repr_eq_if] at same
  split at same <;> split at same
  · have := digits same
    omega
  · exact absurd same (unsigned _ _)
  · exact absurd same.symm (unsigned _ _)
  · have := digits ((String.append_right_inj _).1 same)
    omega

/-- What stands behind the colon: the upper bound, or a question mark. -/
def upperText : Option Int → String
  | some bound => toString bound
  | none => "?"

theorem bracket_notMem_upperText (upper : Option Int) : ']' ∉ (upperText upper).toList := by
  cases upper with
  | none => decide
  | some bound =>
    intro mem
    exact absurd (mem_toString_int mem) (by decide)

theorem upperText_injective : Function.Injective upperText := by
  have marked {bound : Int} : toString bound ≠ "?" := by
    intro same
    have mem : '?' ∈ (toString bound).toList := by simp [same]
    exact absurd (mem_toString_int mem) (by decide)
  intro a b same
  cases a with
  | none =>
    cases b with
    | none => rfl
    | some bound => exact absurd same.symm marked
  | some bound =>
    cases b with
    | none => exact absurd same marked
    | some bound' =>
      exact congrArg some (eq_of_toString_int same)

theorem toList_boundsText (lower : Int) (upper : Option Int) : (boundsText lower upper).toList =
    '[' :: (toString lower).toList ++ ':' :: (upperText upper).toList ++ [']'] := by
  unfold boundsText
  cases upper <;> simp [upperText]

/-- **Bounds can be told from their notation**, wherever the text goes on. -/
theorem boundsText_inj {lower lower' : Int} {upper upper' : Option Int} {rest rest' : List Char}
    (same : (boundsText lower upper).toList ++ rest = (boundsText lower' upper').toList ++ rest') :
    lower = lower' ∧ upper = upper' ∧ rest = rest' := by
  have colon (n : Int) : ':' ∉ (toString n).toList := by
    intro mem
    exact absurd (mem_toString_int mem) (by decide)
  simp only [toList_boundsText, List.cons_append, List.append_assoc, List.cons.injEq, true_and,
    List.nil_append] at same
  obtain ⟨number, behind⟩ := eq_of_append_cons (colon lower) (colon lower') same
  obtain ⟨text, after⟩ := eq_of_append_cons (bracket_notMem_upperText upper)
    (bracket_notMem_upperText upper') behind
  exact ⟨eq_of_toString_int (String.toList_injective number),
    upperText_injective (String.toList_injective text), after⟩

/-! ## Data types -/

/-- The names of a schema are as EXPRESS has them. -/
structure Schema.NamesWords (s : Schema) : Prop where
  spaceless : ∀ x ∈ s.declarations, ' ' ∉ x.name.toList
  /-- No declaration is called like a simple type. -/
  apart : ∀ x ∈ s.declarations, ∀ type : SimpleType, x.name ≠ type.keyword

theorem SimpleType.keyword_injective : Function.Injective SimpleType.keyword := by
  intro a b
  cases a <;> cases b <;> decide

theorem AggregateKind.keyword_injective : Function.Injective AggregateKind.keyword := by
  intro a b
  cases a <;> cases b <;> decide

namespace Schema

variable {s : Schema} {x y : Declaration}

theorem Sound.eq_of_name (sound : s.Sound) (mx : x ∈ s.declarations) (my : y ∈ s.declarations)
    (same : x.name = y.name) : x = y := by
  have first := (byName_eq_ok sound).2 ⟨mx, congrArg Caseless.folded same⟩
  have second := (byName_eq_ok sound).2 ⟨my, rfl⟩
  exact Except.ok.inj (first.symm.trans second)

end Schema

namespace DataType

variable {s : Schema} {h : Handle} {kind : AggregateKind} {lower : Int} {upper : Option Int}
  {element : DataType} {text : String}

theorem text_named : (DataType.named h).text s = .ok text ↔
    ∃ x, s.declarations[h.index]? = some x ∧ text = x.name := by
  rw [DataType.text, bind_eq_ok]
  simp only [Schema.declaration_eq_ok, pure, Except.pure, Except.ok.injEq]
  exact exists_congr fun x => and_congr_right fun _ => eq_comm

theorem text_aggregate : (DataType.aggregate kind lower upper element).text s = .ok text ↔
    ∃ inner, element.text s = .ok inner ∧
      text = kind.keyword ++ " " ++ boundsText lower upper ++ " OF " ++ inner := by
  rw [DataType.text, bind_eq_ok]
  simp only [pure, Except.pure, Except.ok.injEq]
  exact exists_congr fun inner => and_congr_right fun _ => eq_comm

theorem space_notMem_keyword (kind : AggregateKind) : ' ' ∉ kind.keyword.toList := by
  cases kind <;> decide

/-- **The notation of an aggregate has a space**, and no other notation has one. -/
theorem space_mem_text (words : s.NamesWords) : ∀ {t : DataType}, t.text s = .ok text →
    (' ' ∈ text.toList ↔ 0 < t.depth)
  | .simple type, written => by
    cases written
    have spaceless : ' ' ∉ type.keyword.toList := by cases type <;> decide
    exact iff_of_false spaceless (Nat.lt_irrefl 0)
  | .named h, written => by
    obtain ⟨x, found, rfl⟩ := text_named.1 written
    exact iff_of_false (words.spaceless x (Array.mem_of_getElem? found)) (Nat.lt_irrefl 0)
  | .aggregate kind lower upper element, written => by
    obtain ⟨inner, -, rfl⟩ := text_aggregate.1 written
    refine iff_of_true ?_ (by rw [depth]; omega)
    simp

theorem aggregate_ne (words : s.NamesWords) {t : DataType} (plain : t.depth = 0)
    (first : (aggregate kind lower upper element).text s = .ok text) (second : t.text s = .ok text) :
    False := by
  have spaced := (space_mem_text words first).2 (by rw [depth]; omega)
  have deep := (space_mem_text words second).1 spaced
  omega

theorem named_inj (sound : s.Sound) {g h : Handle} (first : (DataType.named g).text s = .ok text)
    (second : (DataType.named h).text s = .ok text) : g = h := by
  obtain ⟨x, at_g, rfl⟩ := text_named.1 first
  obtain ⟨y, at_h, same⟩ := text_named.1 second
  cases sound.eq_of_name (Array.mem_of_getElem? at_g) (Array.mem_of_getElem? at_h) same
  exact Handle.ext_index ((sound.handle at_g).symm.trans (sound.handle at_h))

theorem simple_ne_named (words : s.NamesWords) {type : SimpleType}
    (first : (DataType.simple type).text s = .ok text)
    (second : (DataType.named h).text s = .ok text) : False := by
  cases first
  obtain ⟨x, found, same⟩ := text_named.1 second
  exact words.apart x (Array.mem_of_getElem? found) type same.symm

theorem aggregate_inj {kind' : AggregateKind} {lower' : Int} {upper' : Option Int}
    {element' : DataType} (first : (aggregate kind lower upper element).text s = .ok text)
    (second : (aggregate kind' lower' upper' element').text s = .ok text) :
    kind = kind' ∧ lower = lower' ∧ upper = upper' ∧
      ∃ inner, element.text s = .ok inner ∧ element'.text s = .ok inner := by
  obtain ⟨inner, written, rfl⟩ := text_aggregate.1 first
  obtain ⟨inner', written', same⟩ := text_aggregate.1 second
  have chars := congrArg String.toList same
  simp only [String.toList_append, List.append_assoc] at chars
  obtain ⟨word, behind⟩ := eq_of_append_cons (space_notMem_keyword kind)
    (space_notMem_keyword kind') chars
  obtain ⟨low, up, rest⟩ := boundsText_inj behind
  refine ⟨AggregateKind.keyword_injective (String.toList_injective word), low, up, inner, written, ?_⟩
  rw [String.toList_injective (List.append_cancel_left rest), written']

/-- **Data types with the same notation are the same**, where names tell declarations apart. -/
theorem eq_of_text (sound : s.Sound) (words : s.NamesWords) : ∀ {t u : DataType} {text : String},
    t.text s = .ok text → u.text s = .ok text → t = u
  | .simple a, .simple b, text, first, second => by
    rw [SimpleType.keyword_injective (Except.ok.inj (first.trans second.symm))]
  | .simple a, .named h, text, first, second => (simple_ne_named words first second).elim
  | .named g, .simple b, text, first, second => (simple_ne_named words second first).elim
  | .named g, .named h, text, first, second => by rw [named_inj sound first second]
  | .aggregate kind lower upper element, .aggregate kind' lower' upper' element', text, first,
      second => by
    obtain ⟨rfl, rfl, rfl, inner, written, written'⟩ := aggregate_inj first second
    rw [eq_of_text sound words written written']
  | .aggregate .., .simple _, text, first, second => (aggregate_ne words rfl first second).elim
  | .aggregate .., .named _, text, first, second => (aggregate_ne words rfl first second).elim
  | .simple _, .aggregate .., text, first, second => (aggregate_ne words rfl second first).elim
  | .named _, .aggregate .., text, first, second => (aggregate_ne words rfl second first).elim

end DataType

namespace Draft

/-- **The notation of a data type tells the data type**, in every schema that is built and has names
as EXPRESS has them. All data types with handles of the schema have one. -/
theorem build_text (registry : Registry) (config : Config) (calls : List Call) {s : Schema}
    (built : (run registry config calls).build = .ok s) (words : s.NamesWords) (t u : DataType)
    (known : ∀ h ∈ t.references, h.index < s.size) (known' : ∀ h ∈ u.references, h.index < s.size) :
    ∃ first second, t.text s = .ok first ∧ u.text s = .ok second ∧ (first = second ↔ t = u) := by
  have sound := build_sound registry config calls built
  obtain ⟨first, written⟩ := DataType.exists_text known
  obtain ⟨second, written'⟩ := DataType.exists_text known'
  refine ⟨first, second, written, written', ?_, ?_⟩
  · rintro rfl
    exact DataType.eq_of_text sound words written written'
  · rintro rfl
    exact Except.ok.inj (written.symm.trans written')

/-- Lists up to -1 bolts are not written like lists of any number of bolts. -/
theorem hardware_text : ∃ s bounded unbounded,
    (run hardwareCodes (.plain "hardware") hardware).build = .ok s ∧
    (DataType.aggregate .list 1 (some (-1)) (.named ⟨0⟩)).text s = .ok bounded ∧
    (DataType.aggregate .list 1 none (.named ⟨0⟩)).text s = .ok unbounded ∧
    bounded ≠ unbounded := by
  have sound := run_sound hardwareCodes (.plain "hardware") hardware
  have spelt {x : Declaration}
      (mem : x ∈ (run hardwareCodes (.plain "hardware") hardware).blueprint.declarations) :
      x.name ∈ ["label", "part", "bolt"] := by
    obtain ⟨h, y, found, rfl⟩ := (mem_blueprint sound).1 mem
    rw [name_carried]
    exact List.mem_map_of_mem (Array.mem_toList_iff.2 (Array.mem_of_getElem? found))
  have words : (run hardwareCodes (.plain "hardware") hardware).blueprint.NamesWords :=
    ⟨fun x mem => (by decide : ∀ name ∈ ["label", "part", "bolt"], ' ' ∉ name.toList) _ (spelt mem),
      fun x mem type same => by
        have apart : ∀ name ∈ ["label", "part", "bolt"], name ≠ type.keyword := by
          cases type <;> decide
        exact apart _ (spelt mem) same⟩
  have known (upper : Option Int) :
      ∀ h ∈ (DataType.aggregate .list 1 upper (.named ⟨0⟩)).references,
        h.index < (run hardwareCodes (.plain "hardware") hardware).blueprint.size := by
    intro h mem
    cases List.mem_singleton.1 mem
    exact (blueprint_size _).symm ▸ (by decide)
  obtain ⟨bounded, unbounded, written, written', same⟩ :=
    build_text hardwareCodes (.plain "hardware") hardware hardware_built words _ _
      (known (some (-1))) (known none)
  exact ⟨_, bounded, unbounded, hardware_built, written, written', fun equal => by
    cases same.1 equal⟩

end Draft

end Express
