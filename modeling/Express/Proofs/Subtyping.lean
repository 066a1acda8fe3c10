import Express.Proofs.Indexing
import Express.Proofs.Settling

/-!
# Subtypes in a schema that was built

Entities name their supertype, and list their subtypes. A list is given by calls, with handles of
the draft, or it is made while building, with handles of the schema; both invert the links to
supertypes.

* `Schema.AreSubtypes` — what a list of subtypes should be: the entities that name the owner as
  their supertype, once each, and nothing else.
* `Draft.listings` — the lists that calls give for one entity, in turn; `Draft.settled_subtypes` says
  that the last one stands.
* `Draft.mem_subtypes` — given or made, the subtypes of an entity are those that inherit from it.
* `Draft.build_subtypes` — so the lists of every schema that is built are right. Those that were given
  keep their order, the others are in the order of codes.
-/

set_option autoImplicit false

namespace Express

namespace Schema

/-- The handles are those of the entities that have a declaration as their supertype. -/
structure AreSubtypes (s : Schema) (owner : Declaration) (handles : List Handle) : Prop where
  inverse : ∀ x ∈ s.declarations, x.handle ∈ handles ↔
    ∃ e, x.body = .entity e ∧ e.supertype = some owner.handle
  once : handles.Nodup
  declared : ∀ h ∈ handles, ∃ x ∈ s.declarations, x.handle = h

/-- The handles are those of declarations with ascending codes. -/
def Ascends (s : Schema) (handles : List Handle) : Prop :=
  ∃ members : List Declaration, members.map (·.handle) = handles ∧
    (∀ x ∈ members, x ∈ s.declarations) ∧ members.Pairwise fun x y => x.code.index < y.code.index

end Schema

namespace Draft

variable {d : Draft} {h k : Handle} {x : Declaration} {e : Entity} {s : Setting} {l : List Setting}
  {declarations : Array Declaration} {handles : List Handle}

/-! ## Lists that are given -/

/-- The subtypes that a setting lists for a declaration. -/
def Setting.lists? (h : Handle) (s : Setting) : Option (List Handle) :=
  match s.change with
  | .subtypes handles => if s.handle = h then some handles else none
  | _ => none

/-- What some settings list as the subtypes of a declaration, in turn. -/
def listings (h : Handle) (l : List Setting) : List (List Handle) := l.filterMap (·.lists? h)

theorem Setting.lists?_eq_some : s.lists? h = some handles ↔ s = ⟨h, .subtypes handles⟩ := by
  obtain ⟨owner, change⟩ := s
  cases change <;> simp [lists?]

theorem mem_listings : handles ∈ listings h l ↔ ⟨h, .subtypes handles⟩ ∈ l := by
  unfold listings
  simp only [List.mem_filterMap, Setting.lists?_eq_some, exists_eq_right]

theorem revise_eq_entity (revised : (x.revise s.change).body = .entity e) :
    ∃ e₀, x.body = .entity e₀ ∧ e.subtypes = (s.lists? s.handle).getD e₀.subtypes := by
  obtain ⟨owner, change⟩ := s
  by_cases kind : x.kind = change.kind
  · rw [Declaration.revise_eq kind] at revised
    obtain ⟨handle, code, name, body⟩ := x
    cases change <;> cases body <;> cases kind <;> cases revised
    all_goals exact ⟨_, rfl, by simp [Setting.lists?]⟩
  · rw [Declaration.revise_of_ne kind] at revised
    cases change with
    | subtypes handles => exact absurd (Declaration.kind_eq_entity.2 ⟨e, revised⟩) kind
    | _ => exact ⟨e, revised, rfl⟩

theorem settle_subtypes (found : (settle declarations s)[h.index]? = some x)
    (body : x.body = .entity e) : ∃ x₀ e₀, declarations[h.index]? = some x₀ ∧
      x₀.body = .entity e₀ ∧ e.subtypes = (s.lists? h).getD e₀.subtypes := by
  rw [settle_found, Option.map_eq_some_iff] at found
  obtain ⟨x₀, found, rfl⟩ := found
  by_cases here : s.handle = h
  · subst here
    rw [if_pos rfl] at body
    obtain ⟨e₀, body₀, subtypes⟩ := revise_eq_entity body
    exact ⟨x₀, e₀, found, body₀, subtypes⟩
  · have elsewhere : s.handle.index ≠ h.index := fun same => here (Handle.ext_index same)
    have silent : s.lists? h = none := by
      refine Option.eq_none_iff_forall_ne_some.2 fun handles lists => here ?_
      rw [Setting.lists?_eq_some.1 lists]
    rw [if_neg elsewhere] at body
    exact ⟨x₀, e, found, body, by rw [silent, Option.getD_none]⟩

/-- **The last list stands**: after some settings, the subtypes of an entity are those that were
listed last, or those that it had before. -/
theorem settled_subtypes (body : x.body = .entity e) :
    ∀ {l : List Setting} {declarations : Array Declaration},
      (l.foldl settle declarations)[h.index]? = some x →
        ∃ x₀ e₀, declarations[h.index]? = some x₀ ∧ x₀.body = .entity e₀ ∧
          e.subtypes = (listings h l).getLast?.getD e₀.subtypes
  | [], _, found => ⟨x, e, found, body, rfl⟩
  | s :: l, _, found => by
    obtain ⟨x₁, e₁, found₁, body₁, later⟩ := settled_subtypes body (l := l) found
    obtain ⟨x₀, e₀, found₀, body₀, first⟩ := settle_subtypes found₁ body₁
    refine ⟨x₀, e₀, found₀, body₀, ?_⟩
    -- The first setting counts only where no later one lists subtypes.
    rw [later, first]
    unfold listings
    cases lists : s.lists? h with
    | none => rw [List.filterMap_cons_none lists, Option.getD_none]
    | some handles =>
      rw [List.filterMap_cons_some lists, List.getLast?_cons, Option.getD_some, Option.getD_some]

theorem run_explicit_iff (registry : Registry) (config : Config) (calls : List Call) :
    h ∈ (run registry config calls).explicit ↔
      ∃ handles, handles ∈ listings h (settings ((empty config).history registry calls)) := by
  simp only [(leads_run registry config calls).mem_explicit_iff, mem_listings]
  exact or_iff_right List.not_mem_nil

theorem run_subtypes (registry : Registry) (config : Config) (calls : List Call)
    (found : (run registry config calls).declarations[h.index]? = some x)
    (body : x.body = .entity e)
    (last : (listings h (settings ((empty config).history registry calls))).getLast? =
      some handles) : e.subtypes = handles := by
  obtain ⟨base, -, settled⟩ := run_settled registry config calls
  rw [settled.declarations] at found
  obtain ⟨x₀, e₀, -, -, stands⟩ := settled_subtypes body found
  rw [stands, last, Option.getD_some]

/-! ## Lists in the schema -/

theorem subtypes_listed (given : h ∈ d.explicit) (body : (d.carried h x).body = .entity e) :
    ∃ e₀, x.body = .entity e₀ ∧ e.subtypes = e₀.subtypes.map d.place := by
  rw [carried, if_pos given] at body
  obtain ⟨e₀, body₀, rfl⟩ := Body.rename_eq_entity.1 body
  exact ⟨e₀, body₀, rfl⟩

theorem subtypes_unlisted (sound : Sound d) (found : d.declarations[h.index]? = some x)
    (absent : h ∉ d.explicit) (body : (d.carried h x).body = .entity e) :
    e.subtypes = heirs d.relocated (d.place h) := by
  have own := sound.handle_eq found
  rw [carried, if_neg absent] at body
  obtain ⟨handle, code, name, body₀⟩ := x
  cases body₀ with
  | entity e₀ =>
    cases body
    have none_given : e₀.subtypes = [] := sound.unlisted found rfl (own ▸ absent)
    simp [Entity.rename, none_given]
  | _ => cases body

theorem heirs_blueprint : heirs d.blueprint.declarations k = heirs d.relocated k := heirs_completed

/-- **Given or made, the subtypes of an entity are its heirs.** -/
theorem mem_subtypes (sound : Sound d) (formed : d.WellFormed)
    (found : d.declarations[h.index]? = some x) (body : (d.carried h x).body = .entity e) :
    k ∈ e.subtypes ↔ k ∈ heirs d.relocated (d.place h) := by
  by_cases given : h ∈ d.explicit
  · obtain ⟨e₀, body₀, subtypes⟩ := subtypes_listed given body
    obtain ⟨⟨inherit, -⟩, all⟩ := formed.inverts sound found given body₀
    rw [subtypes, List.mem_map, heirs_relocated sound found]
    constructor
    · rintro ⟨g, mem, rfl⟩
      exact ⟨g, inherit g mem, rfl⟩
    · rintro ⟨g, link, rfl⟩
      exact ⟨g, all g link, rfl⟩
  · rw [subtypes_unlisted sound found given body]

theorem mem_subtypes_iff (sound : Sound d) (formed : d.WellFormed)
    (found : d.declarations[h.index]? = some x) (body : (d.carried h x).body = .entity e) :
    k ∈ e.subtypes ↔ ∃ g, d.supertypeOf? g = some h ∧ k = d.place g :=
  (mem_subtypes sound formed found body).trans (heirs_relocated sound found)

theorem subtypes_nodup (sound : Sound d) (formed : d.WellFormed)
    (found : d.declarations[h.index]? = some x) (body : (d.carried h x).body = .entity e) :
    e.subtypes.Nodup := by
  by_cases given : h ∈ d.explicit
  · obtain ⟨e₀, body₀, subtypes⟩ := subtypes_listed given body
    obtain ⟨⟨inherit, once⟩, -⟩ := formed.inverts sound found given body₀
    rw [subtypes]
    refine once.map_on fun a ma b mb same => ?_
    obtain ⟨y, at_a, -⟩ := supertypeOf?_eq_some.1 (inherit a ma)
    obtain ⟨z, at_b, -⟩ := supertypeOf?_eq_some.1 (inherit b mb)
    exact place_injective sound at_a at_b same
  · rw [subtypes_unlisted sound found given body]
    refine (heirs_ascending sound).imp fun less same => ?_
    rw [same] at less
    omega

theorem areSubtypes_carried (sound : Sound d) (formed : d.WellFormed)
    (found : d.declarations[h.index]? = some x) (body : (d.carried h x).body = .entity e) :
    d.blueprint.AreSubtypes (d.carried h x) e.subtypes where
  inverse y mem := by
    rw [handle_carried sound found, ← Declaration.supertype?_eq_some,
      ← handle_mem_heirs (blueprint_places sound) mem, heirs_blueprint,
      mem_subtypes sound formed found body]
  once := subtypes_nodup sound formed found body
  declared k mem := by
    rw [mem_subtypes sound formed found body, ← heirs_blueprint] at mem
    obtain ⟨y, inherits, rfl⟩ := List.mem_map.1 mem
    exact ⟨y, Array.mem_toList_iff.1 (List.mem_filter.1 inherits).1, rfl⟩

theorem ascends_heirs (sound : Sound d) : d.blueprint.Ascends (heirs d.relocated k) := by
  refine ⟨d.blueprint.declarations.toList.filter (·.inheritsFrom k), heirs_blueprint, ?_, ?_⟩
  · intro x mem
    exact Array.mem_toList_iff.1 (List.mem_filter.1 mem).1
  · exact (codes_ascend sound).filter _

/-- **Lists of subtypes and links to supertypes are inverse** in every schema that is built. The
list of an entity is the last one that a call has given for it, with the handles replaced, and in the
order of codes where no call has given one. -/
theorem build_subtypes (registry : Registry) (config : Config) (calls : List Call) {s : Schema}
    (built : (run registry config calls).build = .ok s) {owner : Declaration}
    (mem : owner ∈ s.declarations) {e : Entity} (body : owner.body = .entity e) :
    s.AreSubtypes owner e.subtypes ∧
    ∃ h x, (run registry config calls).declarations[h.index]? = some x ∧ x.code = owner.code ∧
      (run registry config calls).place h = owner.handle ∧
      match (listings h (settings ((empty config).history registry calls))).getLast? with
      | none => s.Ascends e.subtypes
      | some handles => e.subtypes = handles.map (run registry config calls).place := by
  have sound := run_sound registry config calls
  obtain ⟨formed, rfl⟩ := (build_eq_ok sound).1 built
  obtain ⟨i, at_i⟩ := Array.mem_iff_getElem?.1 mem
  obtain ⟨h, x, found, -, rfl⟩ := (blueprint_found sound).1 at_i
  refine ⟨areSubtypes_carried sound formed found body, h, x, found, code_carried.symm,
    (handle_carried sound found).symm, ?_⟩
  split
  · rename_i never
    have absent : h ∉ (run registry config calls).explicit := by
      rw [run_explicit_iff, List.getLast?_eq_none_iff.1 never]
      exact nofun
    rw [subtypes_unlisted sound found absent body]
    exact ascends_heirs sound
  · rename_i handles last
    have given : h ∈ (run registry config calls).explicit :=
      (run_explicit_iff registry config calls).2 ⟨handles, List.mem_of_getLast? last⟩
    obtain ⟨e₀, body₀, subtypes⟩ := subtypes_listed given body
    rw [subtypes, run_subtypes registry config calls found body₀ last]

/-- Bolts become a subtype of parts, for which none are listed. -/
theorem hardware_subtypes : ∃ s owner e,
    (run hardwareCodes (.plain "hardware") hardware).build = .ok s ∧ owner ∈ s.declarations ∧
      owner.name = "part" ∧ owner.body = .entity e ∧ s.AreSubtypes owner e.subtypes ∧
      s.Ascends e.subtypes ∧ ⟨0⟩ ∈ e.subtypes := by
  have sound := run_sound hardwareCodes (.plain "hardware") hardware
  have unlisted : (listings ⟨1⟩ (settings ((empty (.plain "hardware")).history hardwareCodes
      hardware))).getLast? = none := by decide +kernel
  obtain ⟨x, found, kind, name⟩ : ∃ x, (run hardwareCodes (.plain "hardware")
      hardware).declarations[(⟨1⟩ : Handle).index]? = some x ∧ x.kind = .entity ∧ x.name = "part" :=
    ⟨_, rfl, rfl, rfl⟩
  have mem := Array.mem_of_getElem? ((blueprint_found sound).2 ⟨_, x, found, rfl, rfl⟩)
  obtain ⟨e, body⟩ := Declaration.kind_eq_entity.1 (kind_carried.trans kind)
  obtain ⟨right, h, y, at_h, -, place, order⟩ := build_subtypes _ _ _ hardware_built mem body
  cases place_injective sound at_h found (place.trans (handle_carried sound found))
  rw [unlisted] at order
  refine ⟨_, _, e, hardware_built, mem, name_carried.trans name, body, right, order, ?_⟩
  rw [mem_subtypes sound hardware_wellFormed found body, heirs_relocated sound found]
  exact ⟨⟨2⟩, rfl, by decide +kernel⟩

end Draft

end Express
