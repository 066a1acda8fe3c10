import Express.Proofs.Assembly

/-!
# What building gives

A draft that can be built is carried over into the schema: each declaration goes to the rank of its
code, and each handle becomes the place of what it refers to.

* `Draft.build_accepts` — building succeeds on the well-formed drafts, and on no others.
* `Draft.CarriedInto` — what a schema has of a draft, with everything that is kept and everything
  that is added; `Draft.build_carries` — the schema that is built has exactly this.
* `Draft.heirs_relocated` — the subtypes that are added are those that name the declaration as their
  supertype, in the order of their codes.
-/

set_option autoImplicit false

namespace Express

theorem ascending_of_places {declarations : Array Declaration}
    (places : ∀ {k : Nat} {x : Declaration}, declarations[k]? = some x → x.handle.index = k) :
    declarations.toList.Pairwise fun x y => x.handle.index < y.handle.index := by
  rw [List.pairwise_iff_getElem]
  intro i j hi hj less
  rw [Array.length_toList] at hi hj
  rw [Array.getElem_toList, Array.getElem_toList, places (Array.getElem?_eq_getElem hi),
    places (Array.getElem?_eq_getElem hj)]
  exact less

namespace Draft

variable {d : Draft} {g h k : Handle} {x y : Declaration}

/-- **Building succeeds on the well-formed drafts**, whatever calls made them, and on no others. -/
theorem build_accepts (registry : Registry) (config : Config) (calls : List Call) :
    (∃ s, (run registry config calls).build = .ok s) ↔ (run registry config calls).WellFormed := by
  simp only [build_eq_ok (run_sound registry config calls)]
  constructor
  · rintro ⟨s, formed, -⟩
    exact formed
  · intro formed
    exact ⟨_, formed, rfl⟩

/-! ## Subtypes that are added -/

theorem heirs_ascending (sound : Sound d) :
    (heirs d.relocated k).Pairwise fun a b => a.index < b.index := by
  unfold heirs
  rw [List.pairwise_map]
  exact (ascending_of_places (relocated_places sound)).filter _

theorem supertype?_map_place (sound : Sound d) (found : d.declarations[h.index]? = some x)
    (at_g : d.declarations[g.index]? = some y) :
    y.supertype?.map d.place = some (d.place h) ↔ y.supertype? = some h := by
  rw [Option.map_eq_some_iff]
  constructor
  · rintro ⟨p, link, same⟩
    obtain ⟨-, z, at_p, -⟩ := sound.supertype at_g link
    rwa [← place_injective sound at_p found same]
  · intro link
    exact ⟨h, link, rfl⟩

/-- **The heirs of a declaration** are at the places of those that have it as supertype. -/
theorem heirs_relocated (sound : Sound d) (found : d.declarations[h.index]? = some x) :
    k ∈ heirs d.relocated (d.place h) ↔ ∃ g, d.supertypeOf? g = some h ∧ k = d.place g := by
  unfold heirs
  simp only [List.mem_map, List.mem_filter, Array.mem_toList_iff, Declaration.inheritsFrom_iff]
  constructor
  · rintro ⟨y, ⟨mem, link⟩, rfl⟩
    obtain ⟨i, at_i⟩ := Array.mem_iff_getElem?.1 mem
    obtain ⟨g, z, at_g, -, rfl⟩ := (relocated_found sound).1 at_i
    rw [Declaration.supertype?_rename, supertype?_map_place sound found at_g] at link
    refine ⟨g, supertypeOf?_eq_some.2 ⟨z, at_g, link⟩, ?_⟩
    rw [Declaration.handle_rename, sound.handle_eq at_g]
  · rintro ⟨g, link, rfl⟩
    obtain ⟨z, at_g, link⟩ := supertypeOf?_eq_some.1 link
    have at_place := (relocated_found sound).2 ⟨g, z, at_g, rfl, rfl⟩
    refine ⟨_, ⟨Array.mem_of_getElem? at_place, ?_⟩, ?_⟩
    · rw [Declaration.supertype?_rename, supertype?_map_place sound found at_g, link]
    · rw [Declaration.handle_rename, sound.handle_eq at_g]

/-! ## Declarations of the schema -/

/-- The declaration of the schema that a declaration of the draft becomes. -/
def carried (d : Draft) (h : Handle) (x : Declaration) : Declaration :=
  if h ∈ d.explicit then x.rename d.place
  else (x.rename d.place).addSubtypes (heirs d.relocated (d.place h))

theorem kind_carried : (d.carried h x).kind = x.kind := by
  unfold carried
  split <;> simp

theorem supertype?_carried : (d.carried h x).supertype? = x.supertype?.map d.place := by
  unfold carried
  split <;> simp [Declaration.supertype?_rename]

theorem handle_carried (sound : Sound d) (found : d.declarations[h.index]? = some x) :
    (d.carried h x).handle = d.place h := by
  unfold carried
  split <;> simp [sound.handle_eq found]

theorem mem_map_place (sound : Sound d) (found : d.declarations[h.index]? = some x) :
    d.place h ∈ d.explicit.map d.place ↔ h ∈ d.explicit := by
  rw [List.mem_map]
  constructor
  · rintro ⟨g, mem, same⟩
    obtain ⟨p, at_g, -⟩ := sound.explicit g mem
    rwa [← place_injective sound at_g found same]
  · intro mem
    exact ⟨h, mem, rfl⟩

/-- **What stands in the schema**: the declarations of the draft, each at its rank. -/
theorem blueprint_found (sound : Sound d) {i : Nat} {y : Declaration} :
    d.blueprint.declarations[i]? = some y ↔
      ∃ h x, d.declarations[h.index]? = some x ∧ d.rank h = i ∧ y = d.carried h x := by
  have becomes {h : Handle} {x : Declaration} (found : d.declarations[h.index]? = some x) :
      (if (d.explicit.map d.place).contains (x.rename d.place).handle then x.rename d.place
        else (x.rename d.place).addSubtypes (heirs d.relocated (x.rename d.place).handle)) =
      d.carried h x := by
    unfold carried
    simp only [Declaration.handle_rename, sound.handle_eq found, List.contains_eq_mem,
      mem_map_place sound found, decide_eq_true_eq]
  show (completed (d.explicit.map d.place) d.relocated)[i]? = some y ↔ _
  unfold completed
  rw [Array.getElem?_map, Option.map_eq_some_iff]
  constructor
  · rintro ⟨z, at_i, rfl⟩
    obtain ⟨h, x, found, rank, rfl⟩ := (relocated_found sound).1 at_i
    exact ⟨h, x, found, rank, becomes found⟩
  · rintro ⟨h, x, found, rank, rfl⟩
    exact ⟨_, (relocated_found sound).2 ⟨h, x, found, rank, rfl⟩, becomes found⟩

theorem mem_blueprint (sound : Sound d) {y : Declaration} : y ∈ d.blueprint.declarations ↔
    ∃ h x, d.declarations[h.index]? = some x ∧ y = d.carried h x := by
  rw [Array.mem_iff_getElem?]
  simp only [blueprint_found sound]
  constructor
  · rintro ⟨_, h, x, found, -, same⟩
    exact ⟨h, x, found, same⟩
  · rintro ⟨h, x, found, same⟩
    exact ⟨_, h, x, found, rfl, same⟩

theorem blueprint_size (d : Draft) : d.blueprint.size = d.size := by
  simp [Schema.size, blueprint, Schema.indexed, completed, relocated_size]

/-! ## The schema -/

/-- What a schema has of a draft. -/
structure CarriedInto (d : Draft) (s : Schema) : Prop where
  name : s.name = d.config.name
  builtIn : s.builtIn = d.config.builtIn
  size : s.size = d.size
  /-- Each number below the size is the rank of one handle. -/
  bijection : Set.BijOn d.rank {h | h.index < d.size} (Set.Iio d.size)
  /-- Places are ranks. -/
  places : ∀ h, h.index < d.size → (d.place h).index = d.rank h
  /-- What a declaration holds has a place. -/
  closed : ∀ x ∈ d.declarations, ∀ h, x.Holds h → h.index < d.size
  /-- A declaration stands at its rank under the handle that is its place. -/
  handle : ∀ {h : Handle} {x : Declaration}, d.declarations[h.index]? = some x →
    x.handle = h ∧ ∃ y, s.declarations[d.rank h]? = some y ∧ y.handle = d.place h
  /-- A declaration is at its place, with every handle replaced and nothing else changed, where its
  subtypes were listed. -/
  listed : ∀ {h : Handle} {x : Declaration}, d.declarations[h.index]? = some x → h ∈ d.explicit →
    s.declarations[d.rank h]? = some (x.rename d.place)
  /-- Where they were not, there are none; those that inherit are added, if it is an entity. -/
  unlisted : ∀ {h : Handle} {x : Declaration}, d.declarations[h.index]? = some x → h ∉ d.explicit →
    (∀ e, x.body = .entity e → e.subtypes = []) ∧
    ∃ added : List Handle, s.declarations[d.rank h]? = some ((x.rename d.place).addSubtypes added) ∧
      added.Pairwise (fun a b => a.index < b.index) ∧
      ∀ k, k ∈ added ↔ ∃ g, d.supertypeOf? g = some h ∧ k = d.place g

/-- **Building carries a draft into its schema.** Every declaration keeps its meaning, and the only
additions are subtypes of entities for which none were listed. -/
theorem build_carries (registry : Registry) (config : Config) (calls : List Call) {s : Schema}
    (built : (run registry config calls).build = .ok s) :
    (run registry config calls).CarriedInto s := by
  have sound := run_sound registry config calls
  generalize run registry config calls = d at built sound
  obtain ⟨formed, rfl⟩ := (build_eq_ok sound).1 built
  refine ⟨rfl, rfl, blueprint_size d, rank_bijOn sound, fun h inside => ?_, formed.closed, ?_, ?_, ?_⟩
  · obtain ⟨x, found⟩ := found_of_lt inside
    exact index_place sound found
  · intro h x found
    refine ⟨sound.handle_eq found, d.carried h x, ?_, handle_carried sound found⟩
    rw [blueprint_found sound]
    exact ⟨h, x, found, rfl, rfl⟩
  · intro h x found given
    rw [blueprint_found sound]
    exact ⟨h, x, found, rfl, (if_pos given).symm⟩
  · intro h x found absent
    refine ⟨fun e body => ?_, heirs d.relocated (d.place h), ?_, heirs_ascending sound, fun k => ?_⟩
    · refine sound.unlisted found body ?_
      rwa [sound.handle_eq found]
    · rw [blueprint_found sound]
      exact ⟨h, x, found, rfl, (if_neg absent).symm⟩
    · exact heirs_relocated sound found

/-! ## A small draft -/

/-- The codes of the names in `hardware`. -/
def hardwareCodes : Registry := .ofPairs [("label", ⟨4⟩), ("part", ⟨7⟩), ("bolt", ⟨2⟩)] []

/-- Labels, parts that have a set of them, and bolts, which are parts and have no subtypes. -/
def hardware : List Call :=
  [.add "label" (.type (.simple .string)), .add "part" (.entity none),
    .add "bolt" (.entity (some ⟨1⟩)),
    .set ⟨1⟩ (.attributes [⟨"labels", .aggregate .set 0 none (.named ⟨0⟩), false⟩] [false]),
    .set ⟨2⟩ (.subtypes [])]

theorem hardware_wellFormed : (run hardwareCodes (.plain "hardware") hardware).WellFormed := by
  rw [← check_eq_ok (run_sound _ _ _)]
  simp only [check, seq_eq_ok, checkNames_eq_ok]
  exact ⟨rfl, by decide +kernel, rfl, rfl⟩

theorem hardware_built : (run hardwareCodes (.plain "hardware") hardware).build =
    .ok (run hardwareCodes (.plain "hardware") hardware).blueprint :=
  (build_eq_ok (run_sound _ _ _)).2 ⟨hardware_wellFormed, rfl⟩

/-- Bolts are added last and come first, parts come last. -/
theorem hardware_carried : ∃ s, (run hardwareCodes (.plain "hardware") hardware).build = .ok s ∧
    s.size = 3 ∧
    s.declarations[0]? = some ⟨⟨0⟩, ⟨2⟩, "bolt", .entity { supertype := some ⟨2⟩ }⟩ := by
  have carried := build_carries hardwareCodes (.plain "hardware") hardware hardware_built
  refine ⟨_, hardware_built, carried.size.trans (by decide), ?_⟩
  have rank : (run hardwareCodes (.plain "hardware") hardware).rank ⟨2⟩ = 0 := by decide +kernel
  have := carried.listed (h := ⟨2⟩) rfl (by decide)
  rw [rank] at this
  rw [this]
  decide +kernel

end Draft

end Express
