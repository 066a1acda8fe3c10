import Express.Proofs.Indexing
import Express.Proofs.Lineage
import Express.Schema.Edition

/-!
# The levels of a lineage

What an entity has is spread over the levels of its lineage, and put together from the root down. An
attribute is found from either end: a place is counted off from the last level upwards, and the place
of an own attribute of a level comes after everything above.

* `EntityView.gather` — what some levels hold, the last of them first. All flattened lists are of
  this form, the lists of sites included.
* `EntityView.getElem?_gather` — where what stands beside an own attribute stands in the whole.
* `EntityView.fromEnd?_eq`, `EntityView.attributeAt?_eq` — counting off from the end finds what
  stands at a place of the flattened list, for every place.
* `EntityView.resolve?_eq_some` — a search of the levels ends at the first that answers, and counts
  everything above it.
* `EntityView.Has`, `EntityView.has_own` — an own attribute of a level has a place, and all ways lead
  from one to the other.
* `EntityView.Layered` — what the levels of an entity of a schema that is built are: entities of that
  schema, each with its handle and a whole lineage of its own (`Draft.layered_of_built`).
* `Schema.Sound.lineage` — the levels of an entity of a sound schema are entities of that schema,
  each the one with its handle; `Draft.level_carried` — what the climb in a draft meets is among
  them.
-/

set_option autoImplicit false

namespace Express

namespace EntityView

variable {α : Type} {part : EntityView → List α} {levels below above : List EntityView}
  {level e : EntityView} {k : Nat}

/-! ## Flattened lists -/

/-- What some levels hold, the last of them first. -/
def gather (part : EntityView → List α) (levels : List EntityView) : List α :=
  levels.reverse.flatMap part

theorem gather_cons : gather part (level :: above) = gather part above ++ part level := by
  simp [gather]

theorem gather_append :
    gather part (below ++ above) = gather part above ++ gather part below := by
  simp [gather]

theorem mem_gather {a : α} : a ∈ gather part levels ↔ ∃ level ∈ levels, a ∈ part level := by
  simp [gather]

/-- Where the levels hold as many things as attributes, all of them are counted by `countOf`. -/
theorem length_gather
    (aligned : ∀ level ∈ levels, (part level).length = level.attributes.length) :
    (gather part levels).length = countOf levels := by
  induction levels with
  | nil => rfl
  | cons level above ih =>
    obtain ⟨own, others⟩ := List.forall_mem_cons.1 aligned
    rw [gather_cons, List.length_append, ih others, own, countOf, Nat.add_comm]

/-- What stands beside an own attribute of a level stands after everything above the level. -/
theorem getElem?_gather
    (aligned : ∀ l ∈ below ++ level :: above, (part l).length = l.attributes.length)
    (inside : k < level.attributes.length) :
    (gather part (below ++ level :: above))[countOf above + k]? = (part level)[k]? := by
  obtain ⟨own, others⟩ := List.forall_mem_cons.1 (List.forall_mem_append.1 aligned).2
  rw [← own] at inside
  rw [← length_gather others, gather_append, gather_cons, List.append_assoc,
    List.getElem?_append_right (by omega), Nat.add_sub_cancel_left,
    List.getElem?_append_left inside]

theorem length_allAttributes (e : EntityView) : e.allAttributes.length = e.attributeCount :=
  length_gather fun _ _ => rfl

/-! ## From a place to an attribute -/

/-- **Counting off from the end** finds what stands there in the flattened list. -/
theorem fromEnd?_eq : ∀ {levels : List EntityView} {behind : Nat}, behind < countOf levels →
    fromEnd? levels behind = (gather attributes levels)[countOf levels - behind - 1]?
  | [], _, inside => absurd inside (Nat.not_lt_zero _)
  | level :: above, behind, inside => by
    have length : (gather attributes above).length = countOf above :=
      length_gather fun _ _ => rfl
    rw [fromEnd?, gather_cons]
    rw [countOf] at inside ⊢
    split
    · rename_i own
      rw [List.getElem?_append_right (by omega), length]
      congr 1
      omega
    · rename_i inherited
      rw [fromEnd?_eq (by omega), List.getElem?_append_left (by omega)]
      congr 1
      omega

/-- **An attribute is found by its place** in the flattened list, and none is beyond the list. -/
theorem attributeAt?_eq (e : EntityView) (k : Nat) : e.attributeAt? k = e.allAttributes[k]? := by
  unfold attributeAt?
  split
  · rename_i inside
    rw [attributeCount] at inside ⊢
    rw [fromEnd?_eq (by omega)]
    show _ = (gather attributes e.lineage)[k]?
    congr 1
    omega
  · rename_i outside
    rw [List.getElem?_eq_none (by rw [length_allAttributes]; omega)]

/-! ## From an attribute to its place -/

/-- **A search of the levels ends at the first that answers**, and counts everything above it. -/
theorem resolve?_eq_some {find : EntityView → Option Nat} :
    ∀ {levels : List EntityView}, resolve? find levels = some k ↔
      ∃ below level above own, levels = below ++ level :: above ∧ (∀ l ∈ below, find l = none) ∧
        find level = some own ∧ k = countOf above + own
  | [] => by simp [resolve?]
  | first :: rest => by
    rw [resolve?]
    cases found : find first with
    | some own =>
      constructor
      · rintro ⟨⟩
        exact ⟨[], first, rest, own, rfl, nofun, found, rfl⟩
      · rintro ⟨below, level, above, own', split, silent, answer, rfl⟩
        rcases List.cons_eq_append_iff.1 split with ⟨rfl, same⟩ | ⟨below', rfl, -⟩
        · cases same
          cases found.symm.trans answer
          rfl
        · have := silent first List.mem_cons_self
          exact absurd (found.symm.trans this) nofun
    | none =>
      refine resolve?_eq_some.trans ⟨?_, ?_⟩
      · rintro ⟨below, level, above, own, rfl, silent, answer, rfl⟩
        exact ⟨first :: below, level, above, own, rfl, List.forall_mem_cons.2 ⟨found, silent⟩,
          answer, rfl⟩
      · rintro ⟨below, level, above, own, split, silent, answer, rfl⟩
        rcases List.cons_eq_append_iff.1 split with ⟨rfl, same⟩ | ⟨below', rfl, rfl⟩
        · cases same
          exact absurd (found.symm.trans answer) nofun
        · exact ⟨below', level, above, own, rfl, (List.forall_mem_cons.1 silent).2, answer, rfl⟩

theorem resolve?_eq_none {find : EntityView → Option Nat} :
    resolve? find levels = none ↔ ∀ level ∈ levels, find level = none := by
  induction levels with
  | nil => simp [resolve?]
  | cons level above ih =>
    rw [resolve?, List.forall_mem_cons, ← ih]
    cases find level <;> simp

/-! ## Attributes with their places -/

/-- An entity has an attribute, by its identity and at its place, and all ways to it agree. -/
structure Has (e : EntityView) (id : AttributeId) (a : Attribute) (k : Nat) : Prop where
  /-- The attribute is declared by the entity or by one above it. -/
  inherited : id.owner ∈ e.lineage.map (·.handle)
  declared : e.schema.attribute? id = some a
  index : e.indexOf? id = some k
  inside : k < e.attributeCount
  listed : e.allAttributes[k]? = some a
  found : e.attributeAt? k = some a
  /-- It is the attribute with this identity that is kept there, not another one that is equal. -/
  site : ∀ number, (Edition.allSites ⟨number, e.schema⟩ e)[k]? = some ⟨number, id⟩

section Level

variable (seen : ∀ level ∈ e.lineage, e.schema.entity? level.handle = some level)

include seen

/-- An identity is found on the level that it belongs to: no level below has the same handle. -/
theorem indexOf?_own (lineage : e.lineage = below ++ level :: above) (apart : level ∉ below)
    (inside : k < level.attributes.length) :
    e.indexOf? ⟨level.handle, k⟩ = some (countOf above + k) := by
  refine resolve?_eq_some.2 ⟨below, level, above, k, lineage, fun l lower => ?_,
    if_pos ⟨rfl, inside⟩, rfl⟩
  rw [if_neg]
  rintro ⟨same, -⟩
  have again := seen l (lineage ▸ List.mem_append_left _ lower)
  have own := seen level (lineage ▸ List.mem_append_right _ List.mem_cons_self)
  rw [same, own] at again
  cases again
  exact apart lower

/-- **An own attribute of a level has a place**, where levels are told apart by their handles. It comes
after everything above the level. -/
theorem has_own (lineage : e.lineage = below ++ level :: above) (apart : level ∉ below)
    {a : Attribute} (own : level.attributes[k]? = some a) :
    e.Has ⟨level.handle, k⟩ a (countOf above + k) := by
  obtain ⟨inside, -⟩ := List.getElem?_eq_some_iff.1 own
  have mem : level ∈ e.lineage := lineage ▸ List.mem_append_cons_self
  have listed : e.allAttributes[countOf above + k]? = some a := by
    show (gather attributes e.lineage)[_]? = _
    rw [lineage, getElem?_gather (fun _ _ => rfl) inside, own]
  refine ⟨List.mem_map_of_mem mem, ?_, indexOf?_own seen lineage apart inside, ?_, listed, ?_,
    fun number => ?_⟩
  · show (e.schema.entity? level.handle).bind _ = _
    rw [seen level mem]
    exact own
  · rw [← length_allAttributes]
    exact (List.getElem?_eq_some_iff.1 listed).1
  · rw [attributeAt?_eq, listed]
  · show (gather (Edition.sites ⟨number, e.schema⟩) e.lineage)[_]? = _
    rw [lineage, getElem?_gather (fun l _ => by simp [Edition.sites]) inside]
    simp [Edition.sites, inside]

theorem exists_has {id : AttributeId} {a : Attribute} (mem : level ∈ e.lineage)
    (handle : level.handle = id.owner) (own : level.attributes[id.position]? = some a) :
    ∃ k, e.Has id a k := by
  obtain ⟨owner, position⟩ := id
  subst handle
  obtain ⟨below, above, lineage, apart⟩ := List.eq_append_cons_of_mem mem
  exact ⟨_, has_own seen lineage apart own⟩

end Level

/-! ## Levels that have lineages of their own -/

theorem self_mem_lineage (v : EntityView) : v ∈ v.lineage := List.mem_cons_self

/-- What holds of the levels of every entity of a schema that is built. -/
structure Layered (v : EntityView) : Prop where
  /-- A level is the entity with its handle. -/
  seen : ∀ level ∈ v.lineage, v.schema.entity? level.handle = some level
  /-- The lineage of a level is the whole climb from it. -/
  complete : ∀ level ∈ v.lineage, Chain.Complete supertype? level level.lineage
  flags : ∀ level ∈ v.lineage, level.content.derived.length = level.attributes.length

namespace Layered

variable {v w : EntityView} (layered : v.Layered)

include layered

theorem climb : Chain.Complete supertype? v v.lineage := layered.complete v v.self_mem_lineage

/-- **What stands from a level on is the lineage of the level.** -/
theorem lineage_level (split : v.lineage = below ++ level :: above) :
    level.lineage = level :: above := by
  have mem : level ∈ v.lineage := split ▸ List.mem_append_cons_self
  exact (layered.complete level mem).unique (layered.climb.of_append split)

theorem notMem_below (split : v.lineage = below ++ level :: above) : level ∉ below := by
  have once := layered.climb.nodup
  rw [split, List.nodup_append] at once
  intro lower
  exact once.2.2 level lower level List.mem_cons_self rfl

theorem has (split : v.lineage = below ++ level :: above) {a : Attribute}
    (own : level.attributes[k]? = some a) : v.Has ⟨level.handle, k⟩ a (countOf above + k) :=
  has_own layered.seen split (layered.notMem_below split) own

end Layered

end EntityView

/-! ## Levels in a sound schema -/

namespace Schema

variable {s : Schema} {h : Handle} {v : EntityView}

theorem Sound.handle_view (sound : s.Sound) (view : s.entity? h = some v) : v.handle = h :=
  Handle.ext_index (sound.handle (entity?_eq_some.1 view).2)

/-- **The levels of an entity are entities of the schema**, each the one with its handle. -/
theorem Sound.lineage (sound : s.Sound) (view : s.entity? h = some v) :
    ∀ level ∈ v.lineage, s.entity? level.handle = some level := by
  have own {h : Handle} {v : EntityView} (view : s.entity? h = some v) :
      s.entity? v.handle = some v := by
    rwa [sound.handle_view view]
  refine Chain.forall_ascend (fun {a b} seen link => ?_) (own view)
  obtain ⟨g, -, above⟩ := Option.bind_eq_some_iff.1 link
  rw [(entity?_eq_some.1 seen).1] at above
  exact own above

end Schema

namespace Draft

variable {d : Draft} {b g h : Handle} {x : Declaration} {e : Entity} {v : EntityView}

theorem content_place (sound : Sound d) (found : d.declarations[h.index]? = some x)
    (body : x.body = .entity e) (view : d.blueprint.entity? (d.place h) = some v) :
    v.content = { e.rename d.place with subtypes := v.content.subtypes } := by
  obtain ⟨-, declaration⟩ := (entity?_place sound found).1 view
  obtain ⟨e₀, body₀, content⟩ := entity_carried (declaration ▸ v.isEntity)
  cases body.symm.trans body₀
  exact content

theorem level_carried (sound : Sound d) (formed : d.WellFormed)
    (found : d.declarations[b.index]? = some x) (view : d.blueprint.entity? (d.place b) = some v)
    (climb : g ∈ d.ancestry b) :
    ∃ level ∈ v.lineage, d.blueprint.entity? (d.place g) = some level := by
  obtain ⟨-, lineage⟩ := lineage_carried sound found view
  have above : d.place g ∈ v.lineage.map (·.handle) := lineage ▸ List.mem_map_of_mem climb
  obtain ⟨level, mem, handle⟩ := List.mem_map.1 above
  have seen := (blueprint_sound sound formed).lineage view level mem
  exact ⟨level, mem, handle ▸ seen⟩

theorem layered_blueprint (sound : Sound d) (formed : d.WellFormed)
    (view : d.blueprint.entity? h = some v) : v.Layered := by
  have schema := blueprint_sound sound formed
  have seen := schema.lineage view
  refine ⟨?_, fun level mem => ?_, fun level mem => ?_⟩
  · rw [(Schema.entity?_eq_some.1 view).1]
    exact seen
  · exact (climbs_blueprint sound (seen level mem)).complete
  · have declared := (Schema.entity?_eq_some.1 (seen level mem)).2
    exact schema.flags _ (Array.mem_of_getElem? declared) _ level.isEntity

/-- **The levels of an entity** of a schema that is built are entities with lineages of their own. -/
theorem layered_of_built {registry : Registry} {config : Config} {calls : List Call} {s : Schema}
    (built : (run registry config calls).build = .ok s) (view : s.entity? h = some v) :
    v.schema = s ∧ v.Layered := by
  have sound := run_sound registry config calls
  obtain ⟨formed, rfl⟩ := (build_eq_ok sound).1 built
  exact ⟨(Schema.entity?_eq_some.1 view).1, layered_blueprint sound formed view⟩

end Draft

end Express
