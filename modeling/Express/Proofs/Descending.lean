import Express.Proofs.Deriving

/-!
# The order of declarations

Whether a declaration is another one is asked for the code of the other. The answers order the
declarations like a forest: entities stand below the entities that they inherit from, and everything
else stands alone.

* `Schema.Below` — the answer is yes; `Schema.below_iff` says that it is yes for what the declaration
  is.
* `Schema.parent?` — the forest; `Draft.bases_complete` says that what a declaration is, in a schema
  that is built, is all that is met on the way up from it.
* `Schema.OrdersForest` — what it is for the answers to be such an order; `Draft.build_forest` says
  that they are one in every schema that is built.
-/

set_option autoImplicit false

namespace Express

namespace Schema

variable {s : Schema} {a b : Declaration} {v : EntityView}

/-- Is the first declaration the second, or does it inherit from it? -/
def Below (s : Schema) (a b : Declaration) : Prop := s.isA a.handle b.code = .ok true

/-- The declaration of the supertype, if a declaration is an entity that has one. -/
def parent? (s : Schema) (x : Declaration) : Option Declaration :=
  (x.supertype?.bind s.entity?).map (·.declaration)

/-- The answers to the question whether a declaration is another one make an order. -/
structure OrdersForest (s : Schema) : Prop where
  answered : ∀ a ∈ s.declarations, ∀ c, ∃ answer, s.isA a.handle c = .ok answer
  /-- An entity stands below the entities of its lineage. -/
  entity : ∀ a ∈ s.declarations, ∀ v, s.view? a = some v → ∀ b ∈ s.declarations,
    s.Below a b ↔ ∃ w ∈ v.lineage, s.view? b = some w
  /-- Any other declaration stands below itself alone. -/
  other : ∀ a ∈ s.declarations, a.kind ≠ .entity → ∀ b ∈ s.declarations, s.Below a b ↔ b = a
  unknown : ∀ a ∈ s.declarations, ∀ c, (∀ b ∈ s.declarations, b.code ≠ c) →
    s.isA a.handle c = .ok false
  /-- What stands above is what supertypes lead to, in any number of steps. -/
  reached : ∀ a ∈ s.declarations, ∀ b ∈ s.declarations,
    s.Below a b ↔ Relation.ReflTransGen (fun x y => s.parent? x = some y) a b
  refl : ∀ a ∈ s.declarations, s.Below a a
  trans : ∀ a ∈ s.declarations, ∀ b ∈ s.declarations, ∀ c ∈ s.declarations,
    s.Below a b → s.Below b c → s.Below a c
  antisymm : ∀ a ∈ s.declarations, ∀ b ∈ s.declarations, s.Below a b → s.Below b a → a = b
  /-- Of two declarations above a third one, one is above the other. -/
  comparable : ∀ a ∈ s.declarations, ∀ b ∈ s.declarations, ∀ c ∈ s.declarations,
    s.Below a b → s.Below a c → s.Below b c ∨ s.Below c b

/-! ## What stands above a declaration -/

theorem Sound.handle_inside (sound : s.Sound) (mem : a ∈ s.declarations) :
    a.handle.index < s.size :=
  (Array.getElem?_eq_some_iff.1 (sound.found mem)).1

theorem below_iff (sound : s.Sound) (ma : a ∈ s.declarations) (mb : b ∈ s.declarations) :
    s.Below a b ↔ b ∈ s.bases a.handle := by
  rw [Below, isA_eq (sound.handle_inside ma), Except.ok.injEq, List.any_eq_true]
  simp only [decide_eq_true_eq]
  constructor
  · rintro ⟨x, mem, code⟩
    rwa [← sound.eq_of_code (bases_subset sound x mem) mb code]
  · intro mem
    exact ⟨b, mem, rfl⟩

theorem isA_unknown (sound : s.Sound) (mem : a ∈ s.declarations) {c : TypeCode}
    (absent : ∀ b ∈ s.declarations, b.code ≠ c) : s.isA a.handle c = .ok false := by
  rw [isA_eq (sound.handle_inside mem), Except.ok.injEq, List.any_eq_false]
  intro x above code
  exact absent x (bases_subset sound x above) (of_decide_eq_true code)

theorem Sound.entity?_handle (sound : s.Sound) (mem : a ∈ s.declarations) :
    s.entity? a.handle = s.view? a := by
  rw [entity?, sound.found mem, Option.bind_some]

theorem view?_eq_none : s.view? a = none ↔ a.kind ≠ .entity := by
  rw [ne_eq, Declaration.kind_eq_entity, Option.eq_none_iff_forall_ne_some]
  simp only [ne_eq, view?_eq_some]
  constructor
  · rintro none_fits ⟨e, body⟩
    exact none_fits ⟨s, a, e, body⟩ ⟨rfl, rfl⟩
  · rintro no_entity v ⟨-, rfl⟩
    exact no_entity ⟨v.content, v.isEntity⟩

theorem bases_entity (sound : s.Sound) (mem : a ∈ s.declarations) (view : s.view? a = some v) :
    s.bases a.handle = v.lineage.map (·.declaration) := by
  rw [bases, sound.entity?_handle mem, view]

theorem bases_other (sound : s.Sound) (mem : a ∈ s.declarations) (kind : a.kind ≠ .entity) :
    s.bases a.handle = [a] := by
  rw [bases, sound.entity?_handle mem, view?_eq_none.2 kind, sound.found mem]
  rfl

theorem parent?_declaration (v : EntityView) :
    v.schema.parent? v.declaration = v.supertype?.map (·.declaration) := by
  rw [parent?, v.supertype?_declaration, EntityView.supertype?]

theorem parent?_other (kind : a.kind ≠ .entity) : s.parent? a = none := by
  cases link : a.supertype? with
  | none => rw [parent?, link, Option.bind_none, Option.map_none]
  | some p =>
    obtain ⟨e, body, -⟩ := Declaration.supertype?_eq_some.1 link
    exact absurd (Declaration.kind_eq_entity.2 ⟨e, body⟩) kind

end Schema

namespace Draft

variable {d : Draft} {a b : Declaration} {registry : Registry} {config : Config}
  {calls : List Call} {s : Schema}

/-- **What a declaration is** are all declarations that are met on the way up from it. -/
theorem bases_complete (built : (run registry config calls).build = .ok s)
    (mem : a ∈ s.declarations) : Chain.Complete s.parent? a (s.bases a.handle) := by
  have sound := build_sound registry config calls built
  cases view : s.view? a with
  | none =>
    have kind := Schema.view?_eq_none.1 view
    rw [Schema.bases_other sound mem kind]
    exact .root (Schema.parent?_other kind)
  | some v =>
    rw [Schema.bases_entity sound mem view]
    obtain ⟨-, layered⟩ := layered_of_built built ((sound.entity?_handle mem).trans view)
    obtain ⟨schema, rfl⟩ := Schema.view?_eq_some.1 view
    refine layered.climb.map (·.declaration) fun w above => ?_
    have own := (Schema.entity?_eq_some.1 (layered.seen w above)).1
    rw [← schema, ← own, Schema.parent?_declaration]

theorem below_entity (built : (run registry config calls).build = .ok s) {v : EntityView}
    (ma : a ∈ s.declarations) (view : s.view? a = some v) (mb : b ∈ s.declarations) :
    s.Below a b ↔ ∃ w ∈ v.lineage, s.view? b = some w := by
  have sound := build_sound registry config calls built
  obtain ⟨-, layered⟩ := layered_of_built built ((sound.entity?_handle ma).trans view)
  rw [Schema.below_iff sound ma mb, Schema.bases_entity sound ma view, List.mem_map]
  simp only [Schema.view?_eq_some]
  refine exists_congr fun w => and_congr_right fun above => ?_
  have own := (Schema.entity?_eq_some.1 (layered.seen w above)).1
  rw [own, (Schema.view?_eq_some.1 view).1]
  exact (and_iff_right rfl).symm

/-- **The question whether a declaration is another one orders the declarations like a forest**, in
every schema that is built. -/
theorem build_forest (registry : Registry) (config : Config) (calls : List Call) {s : Schema}
    (built : (run registry config calls).build = .ok s) : s.OrdersForest := by
  have sound := build_sound registry config calls built
  have whole {x : Declaration} (mem : x ∈ s.declarations) := bases_complete built mem
  have below {x y : Declaration} (mx : x ∈ s.declarations) (my : y ∈ s.declarations) :=
    Schema.below_iff sound mx my
  refine
    { answered := fun a ma c => ⟨_, Schema.isA_eq (sound.handle_inside ma) c⟩
      entity := fun a ma v view b mb => below_entity built ma view mb
      other := fun a ma kind b mb => ?other
      unknown := fun a ma c absent => Schema.isA_unknown sound ma absent
      reached := fun a ma b mb => (below ma mb).trans (whole ma).mem_iff
      refl := fun a ma => (below ma ma).2 (List.mem_of_mem_head? (whole ma).head?)
      trans := fun a ma b mb c mc ab bc => ?trans
      antisymm := fun a ma b mb ab ba => ?antisymm
      comparable := fun a ma b mb c mc ab ac => ?comparable }
  case other => rw [below ma mb, Schema.bases_other sound ma kind, List.mem_singleton]
  case trans =>
    rw [below ma mb] at ab
    rw [below mb mc] at bc
    exact (below ma mc).2 ((whole ma).subset ab (whole mb) bc)
  case antisymm =>
    rw [below ma mb] at ab
    rw [below mb ma] at ba
    exact (whole ma).antisymm (whole mb) ab ba
  case comparable =>
    rw [below ma mb] at ab
    rw [below ma mc] at ac
    rw [below mb mc, below mc mb]
    exact (whole ma).comparable (whole mb) (whole mc) ab ac

/-- Bolts stand below parts, parts do not stand below bolts, and labels do not stand below either. -/
theorem hardware_forest : ∃ s bolt part label,
    (run hardwareCodes (.plain "hardware") hardware).build = .ok s ∧
    s.byName "bolt" = .ok bolt ∧ s.byName "part" = .ok part ∧ s.byName "label" = .ok label ∧
    s.Below bolt part ∧ ¬ s.Below part bolt ∧ ¬ s.Below label part := by
  have sound := run_sound hardwareCodes (.plain "hardware") hardware
  have schema := build_sound hardwareCodes (.plain "hardware") hardware hardware_built
  have forest := build_forest hardwareCodes (.plain "hardware") hardware hardware_built
  have declared {h : Handle} {x : Declaration}
      (found : (run hardwareCodes (.plain "hardware") hardware).declarations[h.index]? = some x) :=
    (mem_blueprint sound).2 ⟨h, x, found, rfl⟩
  have label := declared (h := ⟨0⟩) rfl
  have part := declared (h := ⟨1⟩) rfl
  have bolt := declared (h := ⟨2⟩) rfl
  have below := mem_bases_carried (b := ⟨2⟩) (g := ⟨1⟩) sound hardware_wellFormed rfl rfl
    (by decide +kernel) rfl
  rw [← handle_carried sound (h := ⟨2⟩) rfl, ← Schema.below_iff schema bolt part] at below
  have named {x : Declaration} {name : String} (mem : x ∈ _) (spelt : x.name = name) :=
    (Schema.byName_eq_ok schema).2 ⟨mem, congrArg Caseless.folded spelt⟩
  refine ⟨_, _, _, _, hardware_built, named bolt name_carried, named part name_carried,
    named label name_carried, below, fun above => ?_, fun above => ?_⟩
  · have same := congrArg Declaration.name (forest.antisymm _ bolt _ part below above)
    rw [name_carried, name_carried] at same
    exact absurd same (by decide)
  · have alone := (forest.other _ label (by rw [kind_carried]; decide) _ part).1 above
    have same := congrArg Declaration.name alone
    rw [name_carried, name_carried] at same
    exact absurd same (by decide)

end Draft

end Express
