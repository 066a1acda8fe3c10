import Express.Proofs.Bisecting
import Express.Proofs.Indexing
import Express.Proofs.Lineage

/-!
# Looking declarations up

In a sound schema a name, in whatever case, and a code find the declaration that has them, and find
nothing else.

* `Schema.mem_nameIndex` — the index has the name and the handle of each declaration.
* `Schema.byName_eq_ok` — the declaration with a name is found by halving the index;
  `Schema.byName_eq_error` — where there is none, the name is handed back as it was asked for.
* `Schema.AnswersName` — what is answered to a name, by the search for declarations and by that for
  entities; `Draft.build_byName` says that every schema that is built answers so.
* `Schema.byCode?_eq_some` — the declaration with a code is found, by position where the schema is
  built-in and by halving the declarations otherwise.
* `Schema.AnswersCode` — what is answered to a code, by the search that may find nothing and by the
  one that counts on finding something; `Draft.build_byCode` says that every schema that is built
  answers so.
-/

set_option autoImplicit false

namespace Express

namespace Schema

variable {s : Schema} {x y : Declaration} {h : Handle} {name : String} {c : TypeCode}

theorem declaration_eq_ok : s.declaration h = .ok x ↔ s.declarations[h.index]? = some x :=
  elementAt_eq_ok

theorem Sound.found (sound : s.Sound) (mem : x ∈ s.declarations) :
    s.declarations[x.handle.index]? = some x := by
  obtain ⟨i, at_i⟩ := Array.mem_iff_getElem?.1 mem
  rw [sound.handle at_i]
  exact at_i

theorem Sound.handle_lt (sound : s.Sound) (mx : x ∈ s.declarations) (my : y ∈ s.declarations)
    (less : x.code.index < y.code.index) : x.handle.index < y.handle.index := by
  obtain ⟨hx, at_x⟩ := Array.getElem?_eq_some_iff.1 (sound.found mx)
  obtain ⟨hy, at_y⟩ := Array.getElem?_eq_some_iff.1 (sound.found my)
  by_contra behind
  rcases Nat.eq_or_lt_of_not_lt behind with same | before
  · have : x = y := by
      rw [← at_x, ← at_y]
      simp only [same]
    rw [this] at less
    exact Nat.lt_irrefl _ less
  · have more := List.pairwise_iff_getElem.1 sound.codes _ _ hy hx before
    rw [Array.getElem_toList, Array.getElem_toList, at_x, at_y] at more
    exact Nat.lt_asymm less more

/-! ## Names -/

/-- **The index has the name and the handle of each declaration**, and nothing else. -/
theorem mem_nameIndex (sound : s.Sound) {entry : String × Handle} :
    entry ∈ s.nameIndex ↔ ∃ x ∈ s.declarations, entry = (x.name, x.handle) := by
  obtain ⟨name, h⟩ := entry
  constructor
  · intro mem
    obtain ⟨x, found, rfl⟩ := sound.named _ mem
    refine ⟨x, Array.mem_of_getElem? found, ?_⟩
    rw [Handle.ext_index (sound.handle found)]
  · rintro ⟨x, mem, same⟩
    cases same
    have listed : x.handle ∈ s.nameIndex.toList.map (·.2) := by
      rw [sound.complete.mem_iff]
      exact List.mem_map_of_mem (Array.mem_toList_iff.2 mem)
    obtain ⟨⟨name, h⟩, member, rfl⟩ := List.mem_map.1 listed
    obtain ⟨y, found, rfl⟩ := sound.named _ (Array.mem_toList_iff.1 member)
    cases found.symm.trans (sound.found mem)
    exact Array.mem_toList_iff.1 member

theorem mem_indexed (sound : s.Sound) {i : Nat} :
    i ∈ s.nameIndex.toList.map (·.2.index) ↔ i < s.size := by
  have positions := (sound.complete.map Handle.index).mem_iff (a := i)
  simp only [List.map_map, Function.comp_def] at positions
  rw [positions, List.mem_map]
  constructor
  · rintro ⟨x, mem, rfl⟩
    exact (Array.getElem?_eq_some_iff.1 (sound.found (Array.mem_toList_iff.1 mem))).1
  · intro inside
    have found := Array.getElem?_eq_getElem inside
    exact ⟨_, Array.mem_toList_iff.2 (Array.mem_of_getElem? found), sound.handle found⟩

theorem nameIndex_parts (sound : s.Sound) (name : String) :
    Bisect.Parts (fun entry => Caseless.compare entry.1 name) s.nameIndex := by
  have ascending := sound.names
  unfold Caseless.compare at ascending ⊢
  exact Bisect.parts_of_ascending (Caseless.folded name) ascending

/-- **A name finds the declaration that has it**, in whatever case, and no other. -/
theorem byName_eq_ok (sound : s.Sound) : s.byName name = .ok x ↔
    x ∈ s.declarations ∧ Caseless.folded x.name = Caseless.folded name := by
  have searched {entry : String × Handle} := Bisect.found_eq_some (x := entry)
    (nameIndex_parts sound name)
  unfold byName
  constructor
  · intro answer
    split at answer
    · rename_i entry found
      obtain ⟨mem, same⟩ := searched.1 found
      obtain ⟨y, member, rfl⟩ := (mem_nameIndex sound).1 mem
      rw [lift_misuse_eq_ok, declaration_eq_ok, sound.found member] at answer
      cases answer
      exact ⟨member, Caseless.compare_eq_iff.1 same⟩
    · cases answer
  · rintro ⟨mem, same⟩
    have entry := (mem_nameIndex sound).2 ⟨x, mem, rfl⟩
    rw [searched.2 ⟨entry, Caseless.compare_eq_iff.2 same⟩]
    exact lift_misuse_eq_ok.2 (declaration_eq_ok.2 (sound.found mem))

/-- **A name that no declaration has is not found**, and is handed back as it was asked for. -/
theorem byName_eq_error (sound : s.Sound)
    (unknown : ∀ x ∈ s.declarations, Caseless.folded x.name ≠ Caseless.folded name) :
    s.byName name = .error (.refused (.declarationNotFound name)) := by
  unfold byName
  split
  · rename_i entry found
    obtain ⟨mem, same⟩ := (Bisect.found_eq_some (nameIndex_parts sound name)).1 found
    obtain ⟨x, member, rfl⟩ := (mem_nameIndex sound).1 mem
    exact absurd (Caseless.compare_eq_iff.1 same) (unknown x member)
  · rfl

/-- The search for an entity looks at what the search for a declaration finds. -/
theorem entityByName_of_found (found : s.byName name = .ok x) : s.entityByName name =
    match s.view? x with
    | some v => .ok v
    | none => .error (.refused (.kindMismatch x.name .entity x.kind)) := by
  unfold entityByName
  rw [found]
  rfl

theorem entityByName_of_error {failure : Failure} (absent : s.byName name = .error failure) :
    s.entityByName name = .error failure := by
  unfold entityByName
  rw [absent]
  rfl

/-- What is answered when a name is asked for. -/
structure AnswersName (s : Schema) (name : String) : Prop where
  /-- A declaration is found if it has the name, in whatever case. -/
  found : ∀ x, s.byName name = .ok x ↔
    x ∈ s.declarations ∧ Caseless.folded x.name = Caseless.folded name
  /-- No more than one has it. -/
  unique : ∀ x ∈ s.declarations, ∀ y ∈ s.declarations, Caseless.folded x.name = Caseless.folded name →
    Caseless.folded y.name = Caseless.folded name → x = y
  unknown : (∀ x ∈ s.declarations, Caseless.folded x.name ≠ Caseless.folded name) →
    s.byName name = .error (.refused (.declarationNotFound name)) ∧
    s.entityByName name = .error (.refused (.declarationNotFound name))
  /-- An entity is found as the same declaration. -/
  entity : ∀ x, s.byName name = .ok x → x.kind = .entity →
    ∃ v, s.entityByName name = .ok v ∧ v.schema = s ∧ v.declaration = x
  /-- A declaration of another kind is told by its own name. -/
  other : ∀ x, s.byName name = .ok x → x.kind ≠ .entity →
    s.entityByName name = .error (.refused (.kindMismatch x.name .entity x.kind))

theorem Sound.answersName (sound : s.Sound) (name : String) : s.AnswersName name := by
  refine ⟨fun x => byName_eq_ok sound, fun x mx y my hx hy => ?_, fun unknown => ?_,
    fun x found kind => ?_, fun x found kind => ?_⟩
  · have first := (byName_eq_ok sound).2 ⟨mx, hx⟩
    have second := (byName_eq_ok sound).2 ⟨my, hy⟩
    exact Except.ok.inj (first.symm.trans second)
  · have absent := byName_eq_error sound unknown
    exact ⟨absent, entityByName_of_error absent⟩
  · obtain ⟨e, body⟩ := Declaration.kind_eq_entity.1 kind
    have view : s.view? x = some ⟨s, x, e, body⟩ := view?_eq_some.2 ⟨rfl, rfl⟩
    exact ⟨⟨s, x, e, body⟩, by rw [entityByName_of_found found, view], rfl, rfl⟩
  · cases view : s.view? x with
    | none => rw [entityByName_of_found found, view]
    | some v =>
      obtain ⟨-, rfl⟩ := view?_eq_some.1 view
      exact absurd v.kind_declaration kind

/-! ## Codes -/

theorem codes_parts (sound : s.Sound) (c : TypeCode) :
    Bisect.Parts (fun x => x.code.compare c) s.declarations := by
  simp only [TypeCode.compare_eq]
  exact Bisect.parts_of_ascending c.index (sound.codes.imp Nat.compare_eq_lt.2)

/-- **A code finds the declaration that has it**, and no other. -/
theorem byCode?_eq_some (sound : s.Sound) :
    s.byCode? c = some x ↔ x ∈ s.declarations ∧ x.code = c := by
  unfold byCode?
  split
  · rename_i builtIn
    constructor
    · intro found
      exact ⟨Array.mem_of_getElem? found, TypeCode.ext_index (sound.dense builtIn found)⟩
    · rintro ⟨mem, rfl⟩
      obtain ⟨i, at_i⟩ := Array.mem_iff_getElem?.1 mem
      rw [sound.dense builtIn at_i]
      exact at_i
  · rw [Bisect.found_eq_some (codes_parts sound c)]
    rw [TypeCode.compare_eq, Nat.compare_eq_eq]
    exact and_congr_right fun _ => TypeCode.index_injective.eq_iff

theorem Sound.eq_of_code (sound : s.Sound) (mx : x ∈ s.declarations) (my : y ∈ s.declarations)
    (same : x.code = y.code) : x = y := by
  have first := (byCode?_eq_some sound).2 ⟨mx, same⟩
  have second := (byCode?_eq_some sound).2 ⟨my, rfl⟩
  exact Option.some.inj (first.symm.trans second)

/-- **Either way of looking a code up finds what going through all declarations finds.** -/
theorem byCode?_eq_find? (sound : s.Sound) :
    s.byCode? c = s.declarations.toList.find? (·.code = c) := by
  refine Option.ext fun x => ?_
  rw [byCode?_eq_some sound]
  constructor
  · rintro ⟨mem, rfl⟩
    cases scan : s.declarations.toList.find? (·.code = x.code) with
    | none =>
      have absent := List.find?_eq_none.1 scan x (Array.mem_toList_iff.2 mem)
      simp at absent
    | some y =>
      have my := Array.mem_toList_iff.1 (List.mem_of_find?_eq_some scan)
      have same := List.find?_some scan
      rw [decide_eq_true_eq] at same
      rw [sound.eq_of_code my mem same]
  · intro scan
    have same := List.find?_some scan
    rw [decide_eq_true_eq] at same
    exact ⟨Array.mem_toList_iff.1 (List.mem_of_find?_eq_some scan), same⟩

theorem byCode_eq_error {misuse : Misuse} : s.byCode c = .error misuse ↔
    (s.builtIn = false ∧ misuse = .notBuiltIn s.name) ∨
      (s.builtIn = true ∧ s.size ≤ c.index ∧ misuse = .outOfRange s.size c.index) := by
  unfold byCode
  cases s.builtIn with
  | false => simp [eq_comm]
  | true => simp [elementAt_eq_error, size]

theorem byCode_eq_ok : s.byCode c = .ok x ↔ s.builtIn = true ∧ s.byCode? c = some x := by
  unfold byCode byCode?
  cases s.builtIn with
  | false => simp
  | true => simp [elementAt_eq_ok]

/-- What is answered when a code is asked for. -/
structure AnswersCode (s : Schema) (c : TypeCode) : Prop where
  /-- A declaration is found if it has the code. -/
  found : ∀ x, s.byCode? c = some x ↔ x ∈ s.declarations ∧ x.code = c
  /-- Going through all declarations would find the same. -/
  scanned : s.byCode? c = s.declarations.toList.find? (·.code = c)
  /-- A declaration can be counted on in a built-in schema, for the codes below its size. -/
  misused : (∃ misuse, s.byCode c = .error misuse) ↔ s.builtIn = false ∨ s.size ≤ c.index
  general : s.builtIn = false → s.byCode c = .error (.notBuiltIn s.name)
  outside : s.builtIn = true → s.size ≤ c.index → s.byCode c = .error (.outOfRange s.size c.index)
  /-- It is the one that a search finds. -/
  counted : s.builtIn = true → c.index < s.size →
    ∃ x, s.byCode c = .ok x ∧ s.byCode? c = some x

theorem Sound.answersCode (sound : s.Sound) (c : TypeCode) : s.AnswersCode c where
  found _ := byCode?_eq_some sound
  scanned := byCode?_eq_find? sound
  misused := by
    simp only [byCode_eq_error]
    cases s.builtIn <;> simp
  general builtIn := byCode_eq_error.2 (.inl ⟨builtIn, rfl⟩)
  outside builtIn beyond := byCode_eq_error.2 (.inr ⟨builtIn, beyond, rfl⟩)
  counted builtIn inside := by
    have placed : s.byCode? c = s.declarations[c.index]? := by
      unfold byCode?
      rw [if_pos builtIn]
    have found := placed.trans (Array.getElem?_eq_getElem inside)
    exact ⟨_, byCode_eq_ok.2 ⟨builtIn, found⟩, found⟩

end Schema

namespace Draft

/-- **Names are looked up exactly** in every schema that is built: the declaration that has the name is
found and no other, in whatever case both are spelt, and what is not there is told. -/
theorem build_byName (registry : Registry) (config : Config) (calls : List Call) {s : Schema}
    (built : (run registry config calls).build = .ok s) (name : String) : s.AnswersName name := by
  have sound := run_sound registry config calls
  obtain ⟨formed, rfl⟩ := (build_eq_ok sound).1 built
  exact (blueprint_sound sound formed).answersName name

/-- Labels are found in capitals, but are no entity; nuts are not found, and are told in capitals. -/
theorem hardware_byName : ∃ s x, (run hardwareCodes (.plain "hardware") hardware).build = .ok s ∧
    s.byName "LABEL" = .ok x ∧ x.name = "label" ∧
    s.entityByName "LABEL" = .error (.refused (.kindMismatch "label" .entity .type)) ∧
    s.entityByName "NUT" = .error (.refused (.declarationNotFound "NUT")) := by
  have answers := build_byName hardwareCodes (.plain "hardware") hardware hardware_built
  have label := (mem_blueprint (run_sound hardwareCodes (.plain "hardware") hardware)).2
    ⟨⟨0⟩, _, rfl, rfl⟩
  have found := ((answers "LABEL").found _).2 ⟨label, by rw [name_carried]; decide +kernel⟩
  have other := (answers "LABEL").other _ found (by rw [kind_carried]; decide)
  rw [name_carried, kind_carried] at other
  have apart : ∀ y ∈ (run hardwareCodes (.plain "hardware") hardware).declarations.toList,
      Caseless.folded y.name ≠ Caseless.folded "NUT" := by decide +kernel
  have unknown := (answers "NUT").unknown fun x mem => by
    obtain ⟨h, y, given, rfl⟩ := (mem_blueprint (run_sound _ _ _)).1 mem
    rw [name_carried]
    exact apart y (Array.mem_toList_iff.2 (Array.mem_of_getElem? given))
  exact ⟨_, _, hardware_built, found, name_carried, other, unknown.2⟩

/-- **Codes are looked up exactly** in every schema that is built, by position or by halving: the
declaration that has the code is found and no other. It can be counted on in a built-in schema for the
codes below its size, and nowhere else. -/
theorem build_byCode (registry : Registry) (config : Config) (calls : List Call) {s : Schema}
    (built : (run registry config calls).build = .ok s) (c : TypeCode) : s.AnswersCode c := by
  have sound := run_sound registry config calls
  obtain ⟨formed, rfl⟩ := (build_eq_ok sound).1 built
  exact (blueprint_sound sound formed).answersCode c

/-- The codes of the names in `metals`. -/
def metalCodes : Registry := .ofPairs [("metal", ⟨1⟩), ("steel", ⟨2⟩), ("alloy", ⟨0⟩)] []

/-- Metals, steel, which is one, and what may be an alloy, not added in the order of codes. -/
def metals : List Call :=
  [.add "metal" (.entity none), .add "steel" (.entity (some ⟨0⟩)), .add "alloy" (.select [⟨1⟩, ⟨0⟩])]

theorem metals_wellFormed : (run metalCodes (.builtInNamed "metals") metals).WellFormed := by
  have codes : (run metalCodes (.builtInNamed "metals") metals).declarations.toList.map
      (·.code.index) = [1, 2, 0] := by decide +kernel
  rw [← check_eq_ok (run_sound _ _ _)]
  simp only [check, seq_eq_ok, checkCodes_eq_ok (run_sound _ _ _), checkNames_eq_ok]
  refine ⟨fun _ n => ?_, by decide +kernel, rfl, rfl⟩
  have below : n ∈ [1, 2, 0] ↔ n < 3 := by
    simp only [List.mem_cons, List.not_mem_nil, or_false]
    omega
  rw [show (run metalCodes (.builtInNamed "metals") metals).size = 3 from rfl, ← below, ← codes]
  simp

/-- Steel has the last code, and can be counted on to be there; the code after it cannot. -/
theorem metals_byCode : ∃ s x, (run metalCodes (.builtInNamed "metals") metals).build = .ok s ∧
    s.byCode ⟨2⟩ = .ok x ∧ s.byCode? ⟨2⟩ = some x ∧ x.name = "steel" ∧
    s.byCode ⟨3⟩ = .error (.outOfRange 3 3) := by
  have sound := run_sound metalCodes (.builtInNamed "metals") metals
  have built := (build_eq_ok sound).2 ⟨metals_wellFormed, rfl⟩
  have answers := build_byCode metalCodes (.builtInNamed "metals") metals built
  have size : (run metalCodes (.builtInNamed "metals") metals).blueprint.size = 3 :=
    blueprint_size _
  have steel := (mem_blueprint sound).2 ⟨⟨1⟩, _, rfl, rfl⟩
  have searched := ((answers ⟨2⟩).found _).2 ⟨steel, code_carried⟩
  obtain ⟨x, counted, same⟩ := (answers ⟨2⟩).counted rfl (by rw [size]; decide)
  cases same.symm.trans searched
  have beyond := (answers ⟨3⟩).outside rfl (by rw [size]; decide)
  rw [size] at beyond
  exact ⟨_, _, built, counted, searched, name_carried, beyond⟩

end Draft

end Express
