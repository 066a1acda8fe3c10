import Express.Proofs.Levels
import Express.Schema.Notation
import Mathlib.Data.List.Forall2

/-!
# Schemas that read alike

Two schemas may give different handles to the same declarations. What is read without handles, names
and codes, texts, answers and places in flattened lists, can be the same all the same.

* `DataType.Alike`, `Attribute.Alike`, `Body.Alike`, `EntityView.Alike`, `Declaration.Alike` — something
  of one schema reads like something of another.
* `DataType.alike_rename`, `Schema.exists_members` — data types and selects read alike with handles
  that lead to the same names.
* `EntityView.LevelAlike` — two levels declare alike; `EntityView.inheritsAlike` — where the levels of
  two entities do, one by one, everything that is put together from them is alike.
-/

set_option autoImplicit false

namespace Express

section Reading

variable (s s' : Schema)

/-- Two handles lead to declarations with the same name. -/
def Schema.NamesAlike (h h' : Handle) : Prop :=
  ∃ x x', s.declaration h = .ok x ∧ s'.declaration h' = .ok x' ∧ x'.name = x.name

/-- Two data types can be written, with the same text. -/
def DataType.Alike (t t' : DataType) : Prop :=
  ∃ text, t.text s = .ok text ∧ t'.text s' = .ok text

structure Attribute.Alike (a a' : Attribute) : Prop where
  name : a'.name = a.name
  optional : a'.optional = a.optional
  type : DataType.Alike s s' a.type a'.type

/-- Two declarations are of one kind and declare the same. Entities are compared through views. -/
inductive Body.Alike : Body → Body → Prop
  | type {t t' : DataType} (text : DataType.Alike s s' t t') : Alike (.type t) (.type t')
  | select {handles handles' : List Handle} {members members' : List Declaration}
    (found : s.declarationsOf handles = .ok members)
    (found' : s'.declarationsOf handles' = .ok members')
    (names : members'.map (·.name) = members.map (·.name)) :
    Alike (.select handles) (.select handles')
  | enumeration (items : List String) : Alike (.enumeration items) (.enumeration items)
  | entity (e e' : Entity) : Alike (.entity e) (.entity e')

namespace EntityView

/-- Two levels declare alike. -/
structure LevelAlike (level level' : EntityView) : Prop where
  code : level'.code = level.code
  name : level'.name = level.name
  attributes : List.Forall₂ (Attribute.Alike s s') level.attributes level'.attributes
  derived : level'.content.derived = level.content.derived
  inverse : level'.content.inverse.map (·.name) = level.content.inverse.map (·.name)

/-- Two entities have alike what they inherit and what they declare. -/
structure InheritsAlike (v v' : EntityView) : Prop where
  lineage : v'.lineage.map (·.name) = v.lineage.map (·.name)
  /-- Attributes are alike place by place, and as many. -/
  attributes : List.Forall₂ (Attribute.Alike s s') v.allAttributes v'.allAttributes
  derived : v'.allDerived = v.allDerived
  inverse : v'.allInverse.map (·.name) = v.allInverse.map (·.name)
  indexByName? : ∀ name, v'.indexByName? name = v.indexByName? name
  isNamed : ∀ name, v'.isNamed name = v.isNamed name
  isA : ∀ code, v'.isA code = v.isA code

/-- The subtypes of an entity with codes that there are in a schema, which may be another one. -/
def subtypesIn (v : EntityView) : List EntityView :=
  v.subtypes.filter fun w => s.declarations.any (·.code = w.code)

/-- Two entities are alike, other than that the second may have subtypes which the schema of the first
does not have. -/
structure Alike (v v' : EntityView) : Prop extends InheritsAlike s s' v v' where
  subtypes : v.subtypes.map (·.name) = (v'.subtypesIn s).map (·.name)

end EntityView

/-- Two declarations are alike, whatever their handles. -/
structure Declaration.Alike (x x' : Declaration) : Prop where
  code : x'.code = x.code
  name : x'.name = x.name
  kind : x'.kind = x.kind
  body : Body.Alike s s' x.body x'.body
  entity : x.kind = .entity → ∃ v v', s.entity? x.handle = some v ∧
    s'.entity? x'.handle = some v' ∧ EntityView.Alike s s' v v'

end Reading

variable {s s' : Schema}

/-! ## Names through handles -/

section Handles

variable {f f' : Handle → Handle}

/-- **Data types read alike** where the names in them do. -/
theorem DataType.alike_rename :
    ∀ {t : DataType}, (∀ h ∈ t.references, s.NamesAlike s' (f h) (f' h)) →
      DataType.Alike s s' (t.rename f) (t.rename f')
  | .simple type, _ => ⟨type.keyword, rfl, rfl⟩
  | .named h, known => by
    obtain ⟨x, x', found, found', name⟩ := known h List.mem_cons_self
    refine ⟨x.name, ?_, ?_⟩
    · rw [rename, text, found]
      rfl
    · rw [rename, text, found', ← name]
      rfl
  | .aggregate kind lower upper element, known => by
    obtain ⟨inner, text, text'⟩ := DataType.alike_rename (t := element) known
    refine ⟨kind.keyword ++ " " ++ boundsText lower upper ++ " OF " ++ inner, ?_, ?_⟩
    · rw [rename, DataType.text, text]
      rfl
    · rw [rename, DataType.text, text']
      rfl

/-- **Selects read alike** where the names of their members do. -/
theorem Schema.exists_members :
    ∀ {handles : List Handle}, (∀ h ∈ handles, s.NamesAlike s' (f h) (f' h)) →
      ∃ members members', s.declarationsOf (handles.map f) = .ok members ∧
        s'.declarationsOf (handles.map f') = .ok members' ∧
        members'.map (·.name) = members.map (·.name)
  | [], _ => ⟨[], [], rfl, rfl, rfl⟩
  | h :: handles, known => by
    obtain ⟨⟨x, x', found, found', name⟩, others⟩ := List.forall_mem_cons.1 known
    obtain ⟨members, members', rest, rest', names⟩ := Schema.exists_members others
    unfold declarationsOf at rest rest'
    refine ⟨x :: members, x' :: members', ?_, ?_, by rw [List.map_cons, name, names, List.map_cons]⟩
    · rw [declarationsOf, List.map_cons, List.mapM_cons, found, rest]
      rfl
    · rw [declarationsOf, List.map_cons, List.mapM_cons, found', rest']
      rfl

theorem Attribute.alike_rename {a : Attribute}
    (known : ∀ h ∈ a.type.references, s.NamesAlike s' (f h) (f' h)) :
    Attribute.Alike s s' (a.rename f) (a.rename f') :=
  ⟨rfl, rfl, DataType.alike_rename known⟩

end Handles

/-! ## Entities level by level -/

theorem map_eq_iff_forall₂ {α β γ : Type} {f : α → γ} {g : β → γ} {l : List α} {m : List β} :
    m.map g = l.map f ↔ List.Forall₂ (fun a b => g b = f a) l m := by
  rw [eq_comm, ← List.forall₂_eq_eq_eq, List.forall₂_map_left_iff, List.forall₂_map_right_iff]
  constructor
  · intro same
    exact same.imp fun _ _ => Eq.symm
  · intro same
    exact same.imp fun _ _ => Eq.symm

namespace EntityView

variable {v v' level level' : EntityView} {levels levels' : List EntityView}

theorem forall₂_flatten {α : Type} {part : Entity → List α} {P : EntityView → EntityView → Prop}
    {R : α → α → Prop} (corresponding : List.Forall₂ P v.lineage v'.lineage)
    (each : ∀ {level level'}, P level level' →
      List.Forall₂ R (part level.content) (part level'.content)) :
    List.Forall₂ R (v.flatten part) (v'.flatten part) := by
  have reversed := List.forall₂_reverse_iff.2 corresponding
  exact List.rel_flatMap reversed fun _ _ => each

theorem LevelAlike.names (alike : LevelAlike s s' level level') :
    level'.attributes.map (·.name) = level.attributes.map (·.name) :=
  map_eq_iff_forall₂.2 (alike.attributes.imp fun _ _ same => same.name)

theorem LevelAlike.findIdx?_eq (alike : LevelAlike s s' level level') (name : String) :
    level'.attributes.findIdx? (·.name = name) = level.attributes.findIdx? (·.name = name) := by
  have found := congrArg (List.findIdx? fun n => decide (n = name)) alike.names
  rwa [List.findIdx?_map, List.findIdx?_map] at found

theorem countOf_alike (alike : List.Forall₂ (LevelAlike s s') levels levels') :
    countOf levels' = countOf levels := by
  induction alike with
  | nil => rfl
  | cons first _ ih => rw [countOf, countOf, ih, first.attributes.length_eq]

/-- **A search of levels that are alike** ends at the same place. -/
theorem resolve?_alike {find : EntityView → Option Nat}
    (same : ∀ {level level'}, LevelAlike s s' level level' → find level' = find level)
    (alike : List.Forall₂ (LevelAlike s s') levels levels') :
    resolve? find levels' = resolve? find levels := by
  induction alike with
  | nil => rfl
  | cons first rest ih => rw [resolve?, resolve?, same first, countOf_alike rest, ih]

/-- **Entities with levels that are alike inherit alike.** -/
theorem inheritsAlike (alike : List.Forall₂ (LevelAlike s s') v.lineage v'.lineage) :
    InheritsAlike s s' v v' := by
  have names : v'.lineage.map (·.name) = v.lineage.map (·.name) :=
    map_eq_iff_forall₂.2 (alike.imp fun _ _ same => same.name)
  have codes : v'.lineage.map (·.code) = v.lineage.map (·.code) :=
    map_eq_iff_forall₂.2 (alike.imp fun _ _ same => same.code)
  refine ⟨names, forall₂_flatten alike LevelAlike.attributes, ?_, ?_, fun name => ?_, fun name => ?_,
    fun code => ?_⟩
  · have flags : List.Forall₂ Eq v.allDerived v'.allDerived :=
      forall₂_flatten alike fun same => List.forall₂_eq_eq_eq ▸ same.derived.symm
    rw [List.forall₂_eq_eq_eq] at flags
    exact flags.symm
  · apply map_eq_iff_forall₂.2
    exact forall₂_flatten alike fun same => map_eq_iff_forall₂.1 same.inverse
  · exact resolve?_alike (fun same => same.findIdx?_eq name) alike
  · have asked := congrArg (List.any · fun n => Caseless.same n name) names
    rwa [List.any_map, List.any_map] at asked
  · have asked := congrArg (List.any · fun c => decide (c = code)) codes
    rwa [List.any_map, List.any_map] at asked

end EntityView

end Express
