import Express.Proofs.Building

/-!
# What holds of every schema

Everything that is looked up in a schema is found by a position: a handle is one, a code is found by
halving an ascending list, a name by halving an ascending index.

* `Schema.Sound` — the invariant all this rests on: declarations have their positions as handles,
  codes ascend, each handle is in the view of one kind, and the index has all names in order.
* `Schema.indexed_sound` — declarations that stand in order make a sound schema; the views and the
  index are made to fit.
* `Draft.codes_blueprint` — the codes of a schema are those of the draft in ascending order, which
  are all numbers from 0 on where the draft is dense.
* `Draft.build_sound` — every schema that is built is sound.
-/

set_option autoImplicit false

namespace Express

namespace Schema

/-- The handles of one kind. -/
def view (s : Schema) : Kind → List Handle
  | .type => s.types
  | .select => s.selects
  | .enumeration => s.enumerations
  | .entity => s.entities

/-- What holds of every schema that is built. -/
structure Sound (s : Schema) : Prop where
  handle : ∀ {i : Nat} {x : Declaration}, s.declarations[i]? = some x → x.handle.index = i
  codes : s.declarations.toList.Pairwise fun x y => x.code.index < y.code.index
  ascending : ∀ kind, (s.view kind).Pairwise fun g h => g.index < h.index
  /-- A handle is in the view of the kind of its declaration, and in no other. -/
  viewed : ∀ {kind : Kind} {h : Handle},
    h ∈ s.view kind ↔ ∃ x, s.declarations[h.index]? = some x ∧ x.kind = kind
  /-- Every handle is in the index once. -/
  complete : (s.nameIndex.toList.map (·.2)).Perm (s.declarations.toList.map (·.handle))
  /-- A handle stands in the index with the name of its declaration. -/
  named : ∀ entry ∈ s.nameIndex, ∃ x, s.declarations[entry.2.index]? = some x ∧ x.name = entry.1
  names : s.nameIndex.toList.Pairwise fun a b => Caseless.compare a.1 b.1 = .lt
  flags : ∀ x ∈ s.declarations, ∀ e, x.body = .entity e → e.derived.length = e.attributes.length
  dense : s.builtIn = true → ∀ {i : Nat} {x : Declaration}, s.declarations[i]? = some x →
    x.code.index = i

/-! ## Views and index -/

section Positions

variable {declarations : Array Declaration}
  (places : ∀ {k : Nat} {x : Declaration}, declarations[k]? = some x → x.handle.index = k)

include places

theorem mem_viewOf {kind : Kind} {h : Handle} :
    h ∈ viewOf kind declarations ↔ ∃ x, declarations[h.index]? = some x ∧ x.kind = kind := by
  unfold viewOf
  simp only [List.mem_map, List.mem_filter, Array.mem_toList_iff, decide_eq_true_eq]
  constructor
  · rintro ⟨x, ⟨mem, kind⟩, rfl⟩
    obtain ⟨k, found⟩ := Array.mem_iff_getElem?.1 mem
    rw [places found]
    exact ⟨x, found, kind⟩
  · rintro ⟨x, found, kind⟩
    exact ⟨x, ⟨Array.mem_of_getElem? found, kind⟩, Handle.ext_index (places found)⟩

/-- **Declarations in order make a sound schema**: handles are positions, codes ascend and names are
different. -/
theorem indexed_sound {config : Config}
    (codes : declarations.toList.Pairwise fun x y => x.code.index < y.code.index)
    (distinct : declarations.toList.Pairwise fun x y =>
      Caseless.folded x.name ≠ Caseless.folded y.name)
    (flags : ∀ x ∈ declarations, ∀ e, x.body = .entity e → e.derived.length = e.attributes.length)
    (dense : config.builtIn = true → ∀ {i : Nat} {x : Declaration}, declarations[i]? = some x →
      x.code.index = i) :
    (indexed config declarations).Sound := by
  have perm : (indexed config declarations).nameIndex.toList.Perm
      (declarations.toList.map fun x => (x.name, x.handle)) := List.mergeSort_perm _ _
  have view (kind : Kind) : (indexed config declarations).view kind = viewOf kind declarations := by
    cases kind <;> rfl
  refine ⟨places, codes, fun kind => ?_, fun {kind h} => ?_, ?_, fun entry mem => ?_, ?_, flags,
    dense⟩
  · rw [view, viewOf, List.pairwise_map]
    exact (ascending_of_places places).filter _
  · rw [view]
    exact mem_viewOf places
  · have handles := perm.map (·.2)
    rwa [List.map_map] at handles
  · obtain ⟨x, member, rfl⟩ := List.mem_map.1 (perm.mem_iff.1 (Array.mem_toList_iff.2 mem))
    obtain ⟨k, found⟩ := Array.mem_iff_getElem?.1 (Array.mem_toList_iff.1 member)
    refine ⟨x, ?_, rfl⟩
    show declarations[x.handle.index]? = _
    rw [places found, found]
  · have ordered : (indexed config declarations).nameIndex.toList.Pairwise fun a b =>
        Caseless.inOrder a.1 b.1 := Caseless.pairwise_mergeSort_on Prod.fst _
    have different : (indexed config declarations).nameIndex.toList.Pairwise fun a b =>
        Caseless.folded a.1 ≠ Caseless.folded b.1 := by
      rw [perm.pairwise_iff fun ne => Ne.symm ne, List.pairwise_map]
      exact distinct
    exact (ordered.and different).imp fun ⟨before, ne⟩ => Caseless.compare_eq_lt before ne

end Positions

end Schema

namespace Draft

variable {d : Draft} {h : Handle} {x : Declaration}

/-! ## Declarations of the schema -/

theorem code_carried : (d.carried h x).code = x.code := by
  unfold carried
  split <;> rfl

theorem name_carried : (d.carried h x).name = x.name := by
  unfold carried
  split <;> rfl

/-- An entity of the schema is one of the draft with its handles replaced, subtypes apart. -/
theorem entity_carried {e : Entity} (body : (d.carried h x).body = .entity e) :
    ∃ e₀, x.body = .entity e₀ ∧ e = { e₀.rename d.place with subtypes := e.subtypes } := by
  obtain ⟨handle, code, name, given⟩ := x
  unfold carried at body
  split at body
  all_goals
    cases given <;> cases body
    exact ⟨_, rfl, rfl⟩

theorem blueprint_places (sound : Sound d) {i : Nat} {y : Declaration}
    (found : d.blueprint.declarations[i]? = some y) : y.handle.index = i := by
  obtain ⟨h, x, at_h, rfl, rfl⟩ := (blueprint_found sound).1 found
  rw [handle_carried sound at_h, index_place sound at_h]

/-- **The codes of the schema are those of the draft in ascending order.** -/
theorem codes_blueprint (sound : Sound d) :
    d.blueprint.declarations.toList.map (·.code) = d.codeOrder := by
  have length : d.blueprint.declarations.size = d.codeOrder.length := by
    rw [codeOrder_length]
    exact blueprint_size d
  refine List.ext_getElem (by simpa using length) fun i inside inside' => ?_
  have low : i < d.blueprint.declarations.size := by simpa using inside
  obtain ⟨h, x, found, rank, same⟩ := (blueprint_found sound).1 (Array.getElem?_eq_getElem low)
  rw [List.getElem_map, Array.getElem_toList, same, code_carried]
  rw [rank_eq_idxOf sound found] at rank
  subst rank
  rw [List.getElem_idxOf]

theorem codes_ascend (sound : Sound d) :
    d.blueprint.declarations.toList.Pairwise fun x y => x.code.index < y.code.index := by
  have ascending := codeOrder_ascending sound
  rwa [← codes_blueprint sound, List.pairwise_map] at ascending

theorem index_code_blueprint (sound : Sound d)
    (dense : ∀ n, (∃ x ∈ d.declarations, x.code.index = n) ↔ n < d.size) {i : Nat}
    {y : Declaration} (found : d.blueprint.declarations[i]? = some y) : y.code.index = i := by
  have range : d.codeOrder.map TypeCode.index = List.range d.size := by
    refine eq_range_of_ascending (List.pairwise_map.2 (codeOrder_ascending sound)) fun n => ?_
    rw [← dense, ((codeOrder_perm d).map _).mem_iff]
    simp
  have numbers : (d.codeOrder.map TypeCode.index)[i]? = some y.code.index := by
    rw [← codes_blueprint sound]
    simp [found]
  rw [range, List.getElem?_eq_some_iff] at numbers
  obtain ⟨inside, same⟩ := numbers
  rw [← same, List.getElem_range]

theorem names_blueprint (sound : Sound d) (formed : d.WellFormed) :
    d.blueprint.declarations.toList.Pairwise fun x y =>
      Caseless.folded x.name ≠ Caseless.folded y.name := by
  rw [List.pairwise_iff_getElem]
  intro i j hi hj less same
  rw [Array.length_toList] at hi hj
  rw [Array.getElem_toList, Array.getElem_toList] at same
  obtain ⟨g, x, at_g, rfl, left⟩ := (blueprint_found sound).1 (Array.getElem?_eq_getElem hi)
  obtain ⟨h, y, at_h, rfl, right⟩ := (blueprint_found sound).1 (Array.getElem?_eq_getElem hj)
  rw [left, right, name_carried, name_carried] at same
  cases Handle.ext_index (formed.distinct at_g at_h same)
  omega

theorem flags_blueprint (sound : Sound d) {y : Declaration} (mem : y ∈ d.blueprint.declarations)
    {e : Entity} (body : y.body = .entity e) : e.derived.length = e.attributes.length := by
  obtain ⟨h, x, found, rfl⟩ := (mem_blueprint sound).1 mem
  obtain ⟨e₀, given, same⟩ := entity_carried body
  rw [same]
  exact (sound.flags found given).trans (List.length_map _).symm

/-! ## The schema -/

theorem blueprint_sound (sound : Sound d) (formed : d.WellFormed) : d.blueprint.Sound :=
  Schema.indexed_sound (blueprint_places sound) (codes_ascend sound)
    (names_blueprint sound formed) (fun _ mem _ body => flags_blueprint sound mem body)
    fun builtIn _ _ found => index_code_blueprint sound (formed.dense builtIn) found

/-- **Every schema that is built is sound**: its views and its index hold every declaration where it
is looked for. -/
theorem build_sound (registry : Registry) (config : Config) (calls : List Call) {s : Schema}
    (built : (run registry config calls).build = .ok s) : s.Sound := by
  have sound := run_sound registry config calls
  generalize run registry config calls = d at built sound
  obtain ⟨formed, rfl⟩ := (build_eq_ok sound).1 built
  exact blueprint_sound sound formed

/-- Bolts come first, and are in the view of the entities. -/
theorem hardware_sound : ∃ s, (run hardwareCodes (.plain "hardware") hardware).build = .ok s ∧
    s.Sound ∧ ⟨0⟩ ∈ s.entities := by
  have indexed := build_sound hardwareCodes (.plain "hardware") hardware hardware_built
  refine ⟨_, hardware_built, indexed, (@indexed.viewed .entity ⟨0⟩).2 ?_⟩
  have rank : (run hardwareCodes (.plain "hardware") hardware).rank ⟨2⟩ = 0 := by decide +kernel
  exact ⟨_, (blueprint_found (run_sound _ _ _)).2 ⟨⟨2⟩, _, rfl, rank, rfl⟩, kind_carried⟩

end Draft

end Express
