import Express.Proofs.Levels
import Express.Proofs.Searching
import Express.Proofs.Subtyping
import Express.Schema.Notation

/-!
# Schemas that are closed under their handles

A schema is left to itself once it is built: whatever handle is met in it leads to one of its
declarations, and where an entity is expected there is one. The questions about a schema that skip
what they do not find skip nothing.

* `Schema.Holds`, `Schema.Stores` — the handles and the data types that are anywhere in a schema.
* `Draft.holds_carried`, `Draft.closed_blueprint` — what a declaration of the schema refers to is the
  place of something that it refers to in the draft, or of one of its subtypes.
* `DataType.exists_text` — a data type can be written where its handles are known.
* `Schema.map_handle_filterMap` — looking entities up drops none where all of them are there.
* `Schema.Closed` — what it is for a schema to be closed; `Draft.build_closed` says that every schema
  that is built is.
-/

set_option autoImplicit false

namespace Express

/-! ## What a schema holds -/

namespace Schema

/-- A handle is met in a schema: with a declaration, in one, in a view or in the index. -/
inductive Holds (s : Schema) (h : Handle) : Prop
  | own {x : Declaration} (mem : x ∈ s.declarations) (handle : x.handle = h)
  | reference {x : Declaration} (mem : x ∈ s.declarations) (held : x.Holds h)
  | view (kind : Kind) (mem : h ∈ s.view kind)
  | index {entry : String × Handle} (mem : entry ∈ s.nameIndex) (handle : entry.2 = h)

/-- A data type is met in a schema: a declaration gives it a name, or an attribute has it. -/
inductive Stores (s : Schema) (t : DataType) : Prop
  | underlying {x : Declaration} (mem : x ∈ s.declarations) (body : x.body = .type t)
  | inAttribute {x : Declaration} {e : Entity} {a : Attribute} (mem : x ∈ s.declarations)
    (body : x.body = .entity e) (own : a ∈ e.attributes) (type : a.type = t)

/-- What is looked for in a schema is there. -/
structure Closed (s : Schema) : Prop where
  /-- A handle that is met leads to the declaration that has it. -/
  handles : ∀ h, s.Holds h → ∃ x, s.declaration h = .ok x ∧ x.handle = h
  texts : ∀ t, s.Stores t → ∃ text, t.text s = .ok text
  /-- An entity has the supertype that it names, and so none only where it names none. -/
  supertype : ∀ h v, s.entity? h = some v → v.supertype?.map (·.handle) = v.content.supertype
  subtypes : ∀ h v, s.entity? h = some v → v.subtypes.map (·.handle) = v.content.subtypes
  entities : s.entityViews.map (·.handle) = s.entities
  /-- A view gives the declarations of its kind, all of them and in the order of their codes. -/
  views : ∀ kind, ∃ members, s.declarationsOf (s.view kind) = .ok members ∧
    members.Pairwise (fun x y => x.code.index < y.code.index) ∧
    ∀ x, x ∈ members ↔ x ∈ s.declarations ∧ x.kind = kind

variable {s : Schema} {h : Handle} {x : Declaration} {v : EntityView} {handles : List Handle}

/-! ## Looking entities up -/

theorem exists_entity (found : s.declarations[h.index]? = some x) (kind : x.kind = .entity) :
    ∃ v, s.entity? h = some v := by
  obtain ⟨e, body⟩ := Declaration.kind_eq_entity.1 kind
  exact ⟨⟨s, x, e, body⟩, entity?_eq_some.2 ⟨rfl, found⟩⟩

/-- **Looking entities up drops none** where all of them are there. -/
theorem map_handle_filterMap (sound : s.Sound)
    (known : ∀ k ∈ handles, ∃ w, s.entity? k = some w) :
    (handles.filterMap s.entity?).map (·.handle) = handles := by
  induction handles with
  | nil => rfl
  | cons k rest ih =>
    obtain ⟨⟨w, seen⟩, others⟩ := List.forall_mem_cons.1 known
    rw [List.filterMap_cons_some seen, List.map_cons, sound.handle_view seen, ih others]

theorem Sound.subtypes (sound : s.Sound) (view : s.entity? h = some v) :
    ∀ w ∈ v.subtypes, s.entity? w.handle = some w := by
  intro w mem
  obtain ⟨k, -, seen⟩ := List.mem_filterMap.1 mem
  rw [(entity?_eq_some.1 view).1] at seen
  rwa [sound.handle_view seen]

theorem map_handle_entityViews (sound : s.Sound) : s.entityViews.map (·.handle) = s.entities := by
  refine map_handle_filterMap sound fun k mem => ?_
  obtain ⟨x, found, kind⟩ := (@sound.viewed .entity k).1 mem
  exact exists_entity found kind

theorem declarationsOf_map_handle (sound : s.Sound) :
    ∀ {l : List Declaration}, (∀ x ∈ l, x ∈ s.declarations) →
      s.declarationsOf (l.map (·.handle)) = .ok l
  | [], _ => rfl
  | x :: l, declared => by
    obtain ⟨mem, others⟩ := List.forall_mem_cons.1 declared
    have rest := declarationsOf_map_handle sound others
    unfold declarationsOf at rest ⊢
    rw [List.map_cons, List.mapM_cons, declaration_eq_ok.2 (sound.found mem), rest]
    rfl

/-- The handles of a view are those of the declarations of its kind. -/
theorem view_eq (sound : s.Sound) (kind : Kind) :
    s.view kind = (s.declarations.toList.filter (·.kind = kind)).map (·.handle) := by
  apply eq_of_ascending (sound.ascending kind)
  · rw [List.pairwise_map]
    refine List.Pairwise.imp_of_mem (fun {x y} mx my less => ?_) (sound.codes.filter _)
    have inside {x : Declaration} (mem : x ∈ s.declarations.toList.filter (·.kind = kind)) :
        x ∈ s.declarations := Array.mem_toList_iff.1 (List.mem_filter.1 mem).1
    exact sound.handle_lt (inside mx) (inside my) less
  · intro h
    rw [sound.viewed]
    simp only [List.mem_map, List.mem_filter, Array.mem_toList_iff, decide_eq_true_eq]
    constructor
    · rintro ⟨x, found, kind⟩
      exact ⟨x, ⟨Array.mem_of_getElem? found, kind⟩, Handle.ext_index (sound.handle found)⟩
    · rintro ⟨x, ⟨mem, kind⟩, rfl⟩
      exact ⟨x, sound.found mem, kind⟩

/-- **A view gives the declarations of its kind**, in the order in which they stand. -/
theorem declarationsOf_view (sound : s.Sound) (kind : Kind) :
    s.declarationsOf (s.view kind) = .ok (s.declarations.toList.filter (·.kind = kind)) := by
  rw [view_eq sound]
  apply declarationsOf_map_handle sound
  intro x mem
  exact Array.mem_toList_iff.1 (List.mem_filter.1 mem).1

end Schema

/-- **A data type can be written** where its handles are known. -/
theorem DataType.exists_text {s : Schema} :
    ∀ {t : DataType}, (∀ h ∈ t.references, h.index < s.size) → ∃ text, t.text s = .ok text
  | .simple type, _ => ⟨type.keyword, rfl⟩
  | .named h, known => by
    have inside := known h List.mem_cons_self
    have found : s.declaration h = .ok s.declarations[h.index] :=
      Schema.declaration_eq_ok.2 (Array.getElem?_eq_getElem inside)
    refine ⟨s.declarations[h.index].name, ?_⟩
    rw [DataType.text, found]
    rfl
  | .aggregate kind lower upper element, known => by
    obtain ⟨inner, text⟩ := DataType.exists_text (t := element) known
    refine ⟨kind.keyword ++ " " ++ boundsText lower upper ++ " OF " ++ inner, ?_⟩
    rw [DataType.text, text]
    rfl

namespace Draft

variable {d : Draft} {b h k : Handle} {x y : Declaration} {v : EntityView}

/-- A declaration of the schema refers to what it refers to in the draft, and to its subtypes. -/
theorem holds_carried (holds : (d.carried h x).Holds k) :
    (x.rename d.place).Holds k ∨ ∃ e, (d.carried h x).body = .entity e ∧ k ∈ e.subtypes := by
  by_cases given : h ∈ d.explicit
  · rw [carried, if_pos given] at holds
    exact .inl holds
  · rw [carried, if_neg given] at holds ⊢
    obtain ⟨handle, code, name, body⟩ := x
    -- Subtypes are added to entities only, and nothing else is.
    cases holds with
    | underlying same held => cases body <;> cases same; exact .inl (.underlying rfl held)
    | member same held => cases body <;> cases same; exact .inl (.member rfl held)
    | supertype same held => cases body <;> cases same; exact .inl (.supertype rfl held)
    | subtype same held => exact .inr ⟨_, same, held⟩
    | attributeType same own held =>
      cases body <;> cases same
      exact .inl (.attributeType rfl own held)
    | target same own held => cases body <;> cases same; exact .inl (.target rfl own held)
    | owner same own held => cases body <;> cases same; exact .inl (.owner rfl own held)

theorem place_lt (sound : Sound d) (inside : h.index < d.size) :
    (d.place h).index < d.blueprint.size := by
  obtain ⟨x, found⟩ := found_of_lt inside
  rw [blueprint_size, index_place sound found]
  exact rank_lt sound found

/-- **What a declaration of the schema refers to is in the schema.** -/
theorem closed_blueprint (sound : Sound d) (formed : d.WellFormed)
    (mem : y ∈ d.blueprint.declarations) (holds : y.Holds k) : k.index < d.blueprint.size := by
  obtain ⟨h, x, found, rfl⟩ := (mem_blueprint sound).1 mem
  rcases holds_carried holds with renamed | ⟨e, body, sub⟩
  · obtain ⟨g, held, rfl⟩ := Declaration.holds_rename.1 renamed
    exact place_lt sound (formed.closed x (Array.mem_of_getElem? found) g held)
  · obtain ⟨g, link, rfl⟩ := (mem_subtypes_iff sound formed found body).1 sub
    obtain ⟨z, at_g, -⟩ := supertypeOf?_eq_some.1 link
    exact place_lt sound (lt_size at_g)

theorem holds_blueprint (sound : Sound d) (formed : d.WellFormed) (holds : d.blueprint.Holds k) :
    k.index < d.blueprint.size := by
  have schema := blueprint_sound sound formed
  have standing {x : Declaration} (found : d.blueprint.declarations[k.index]? = some x) :
      k.index < d.blueprint.size := (Array.getElem?_eq_some_iff.1 found).1
  cases holds with
  | own mem handle => exact standing (handle ▸ schema.found mem)
  | reference mem held => exact closed_blueprint sound formed mem held
  | view kind mem =>
    obtain ⟨x, found, -⟩ := schema.viewed.1 mem
    exact standing found
  | index mem handle =>
    obtain ⟨x, found, -⟩ := schema.named _ mem
    exact standing (handle ▸ found)

theorem stores_blueprint (sound : Sound d) (formed : d.WellFormed) {t : DataType}
    (stores : d.blueprint.Stores t) : ∀ k ∈ t.references, k.index < d.blueprint.size := by
  intro k mem
  have held := DataType.mem_references_iff.1 mem
  cases stores with
  | underlying declared body => exact closed_blueprint sound formed declared (.underlying body held)
  | inAttribute declared body own type =>
    exact closed_blueprint sound formed declared (.attributeType body own (type ▸ held))

theorem exists_subtype (sound : Sound d) (formed : d.WellFormed)
    (view : d.blueprint.entity? h = some v) :
    ∀ k ∈ v.content.subtypes, ∃ w, d.blueprint.entity? k = some w := by
  intro k mem
  obtain ⟨b, x, found, rfl, -⟩ := exists_place sound view
  obtain ⟨-, declaration⟩ := (entity?_place sound found).1 view
  obtain ⟨g, link, rfl⟩ := (mem_subtypes_iff sound formed found (declaration ▸ v.isEntity)).1 mem
  obtain ⟨z, at_g, supertype⟩ := supertypeOf?_eq_some.1 link
  obtain ⟨e, body, -⟩ := Declaration.supertype?_eq_some.1 supertype
  exact exists_view sound at_g (Declaration.kind_eq_entity.2 ⟨e, body⟩)

theorem map_handle_supertype? (sound : Sound d) (formed : d.WellFormed)
    (view : d.blueprint.entity? h = some v) :
    v.supertype?.map (·.handle) = v.content.supertype := by
  cases up : v.supertype? with
  | none => rw [no_supertype sound view up, Option.map_none]
  | some w =>
    obtain ⟨k, named, above⟩ := Option.bind_eq_some_iff.1 up
    rw [(Schema.entity?_eq_some.1 view).1] at above
    rw [named, Option.map_some, (blueprint_sound sound formed).handle_view above]

theorem map_handle_subtypes (sound : Sound d) (formed : d.WellFormed)
    (view : d.blueprint.entity? h = some v) :
    v.subtypes.map (·.handle) = v.content.subtypes := by
  rw [EntityView.subtypes, (Schema.entity?_eq_some.1 view).1]
  exact Schema.map_handle_filterMap (blueprint_sound sound formed)
    (exists_subtype sound formed view)

theorem blueprint_closed (sound : Sound d) (formed : d.WellFormed) : d.blueprint.Closed := by
  have schema := blueprint_sound sound formed
  refine ⟨fun h holds => ?_, fun t stores => ?_, fun h v => map_handle_supertype? sound formed,
    fun h v => map_handle_subtypes sound formed, Schema.map_handle_entityViews schema, fun kind => ?_⟩
  · have inside := holds_blueprint sound formed holds
    have found := Array.getElem?_eq_getElem inside
    exact ⟨_, Schema.declaration_eq_ok.2 found, Handle.ext_index (schema.handle found)⟩
  · exact DataType.exists_text (stores_blueprint sound formed stores)
  · refine ⟨_, Schema.declarationsOf_view schema kind, schema.codes.filter _, fun x => ?_⟩
    simp

/-- **Every schema that is built is closed under its handles**: each one that is met in it leads to a
declaration, each data type in it can be written, and the views, supertypes and subtypes give all that
is listed, in the same order. -/
theorem build_closed (registry : Registry) (config : Config) (calls : List Call) {s : Schema}
    (built : (run registry config calls).build = .ok s) : s.Closed := by
  have sound := run_sound registry config calls
  obtain ⟨formed, rfl⟩ := (build_eq_ok sound).1 built
  exact blueprint_closed sound formed

/-- Bolts, which stand first, have parts as their supertype, which stand last. -/
theorem hardware_closed : ∃ s v, (run hardwareCodes (.plain "hardware") hardware).build = .ok s ∧
    s.entity? ⟨0⟩ = some v ∧ v.supertype?.map (·.handle) = some ⟨2⟩ ∧ s.Closed := by
  have sound := run_sound hardwareCodes (.plain "hardware") hardware
  have places : (run hardwareCodes (.plain "hardware") hardware).place ⟨2⟩ = ⟨0⟩ ∧
      (run hardwareCodes (.plain "hardware") hardware).place ⟨1⟩ = ⟨2⟩ := by decide +kernel
  obtain ⟨bolt, part⟩ := places
  obtain ⟨v, view⟩ := exists_view (h := ⟨2⟩) sound rfl rfl
  have named : v.content.supertype =
      some ((run hardwareCodes (.plain "hardware") hardware).place ⟨1⟩) := by
    rw [content_place (h := ⟨2⟩) sound rfl rfl view]
    rfl
  have closed := build_closed hardwareCodes (.plain "hardware") hardware hardware_built
  rw [part] at named
  rw [bolt] at view
  exact ⟨_, v, hardware_built, view, (closed.supertype _ v view).trans named, closed⟩

end Draft

end Express
