import Express.Proofs.Answering
import Express.Proofs.Building

/-!
# The order of adding

Two drafts that hold the same declarations in different orders have different handles everywhere.
What building gives does not depend on this.

* `Draft.SameUpTo` — the drafts are the same up to a bijection of their handles. Handles that refer
  to nothing may be any.
* `Draft.SameUpTo.symm` — this can be turned round.
* `Draft.Image` — where all handles refer to something, one draft is the other with its handles
  replaced.
* `Draft.Image.blueprint_eq` — the schemas are equal: ranks depend on codes only, so the places of
  declarations that answer each other are the same.
* `Draft.Image.wellFormed` — what makes one draft well-formed makes the other so.
* `Draft.build_reordered` — building succeeds on both or on none, and gives the same schema.
-/

set_option autoImplicit false

namespace Express

namespace Draft

/-- Handles of two drafts that answer each other. Inside of the drafts it is the image that answers
a handle; outside, any handle answers any. -/
def Corresponds (σ : Handle → Handle) (d e : Draft) (h g : Handle) : Prop :=
  (h.index < d.size ∧ g = σ h) ∨ (d.size ≤ h.index ∧ e.size ≤ g.index)

/-- Two drafts hold the same declarations up to a bijection of handles. -/
structure SameUpTo (σ : Handle → Handle) (d e : Draft) : Prop where
  bijection : Set.BijOn σ {h | h.index < d.size} {g | g.index < e.size}
  declarations : ∀ {h : Handle} {x : Declaration}, d.declarations[h.index]? = some x →
    ∃ y, e.declarations[(σ h).index]? = some y ∧ y.code = x.code ∧ y.name = x.name ∧
      x.body.Answers (Corresponds σ d e) y.body
  /-- The same entities have had their subtypes listed. -/
  explicit : ∀ h, h.index < d.size → (σ h ∈ e.explicit ↔ h ∈ d.explicit)

/-- The second draft is the first with its handles replaced, and in another order. -/
structure Image (σ : Handle → Handle) (d e : Draft) : Prop where
  source : Sound d
  target : Sound e
  closed : ∀ x ∈ d.declarations, ∀ h, x.Holds h → h.index < d.size
  bijection : Set.BijOn σ {h | h.index < d.size} {g | g.index < e.size}
  found : ∀ {h : Handle} {x : Declaration}, d.declarations[h.index]? = some x →
    e.declarations[(σ h).index]? = some (x.rename σ)
  explicit : ∀ h, h.index < d.size → (σ h ∈ e.explicit ↔ h ∈ d.explicit)

variable {σ : Handle → Handle} {d e : Draft} {g h : Handle} {x y : Declaration}

/-- **Being the same up to a bijection can be turned round.** -/
theorem SameUpTo.symm (same : SameUpTo σ d e) : ∃ τ, SameUpTo τ e d := by
  have inverse := same.bijection.invOn_invFunOn
  generalize Function.invFunOn σ {h | h.index < d.size} = τ at inverse
  have back := same.bijection.symm inverse.symm
  refine ⟨τ, back, fun {g y} at_g => ?_, fun g inside => ?_⟩
  · obtain ⟨x, found⟩ := found_of_lt (back.mapsTo (lt_size at_g))
    obtain ⟨z, at_z, code, name, answers⟩ := same.declarations found
    rw [inverse.2 (lt_size at_g), at_g] at at_z
    cases at_z
    refine ⟨x, found, code.symm, name.symm, answers.flip fun a b related => ?_⟩
    rcases related with ⟨inside, rfl⟩ | ⟨outside, outside'⟩
    · exact .inl ⟨same.bijection.mapsTo inside, (inverse.1 inside).symm⟩
    · exact .inr ⟨outside', outside⟩
  · have := same.explicit (τ g) (back.mapsTo inside)
    rw [inverse.2 inside] at this
    exact this.symm

/-- Where all handles refer to something, what answers a declaration is its image. -/
theorem SameUpTo.image (same : SameUpTo σ d e) (sound : Sound d) (sound' : Sound e)
    (closed : ∀ x ∈ d.declarations, ∀ h, x.Holds h → h.index < d.size) : Image σ d e where
  source := sound
  target := sound'
  closed := closed
  bijection := same.bijection
  explicit := same.explicit
  found {h x} found := by
    obtain ⟨y, at_g, code, name, answers⟩ := same.declarations found
    have handle : y.handle = σ x.handle := by
      rw [sound'.handle_eq at_g, sound.handle_eq found]
    have body : y.body = x.body.rename σ := by
      refine answers.eq_rename fun k mem g related => ?_
      have inside := closed x (Array.mem_of_getElem? found) k (Declaration.mem_references_iff.1 mem)
      rcases related with ⟨-, image⟩ | ⟨outside, -⟩
      · exact image
      · omega
    rw [at_g]
    obtain ⟨_, _, _, _⟩ := y
    cases handle
    cases code
    cases name
    cases body
    rfl

namespace Image

/-! ## Declarations -/

theorem found_iff (image : Image σ d e) : e.declarations[g.index]? = some y ↔
    ∃ h x, d.declarations[h.index]? = some x ∧ σ h = g ∧ y = x.rename σ := by
  constructor
  · intro at_g
    obtain ⟨h, inside, rfl⟩ := image.bijection.surjOn (lt_size at_g)
    obtain ⟨x, found⟩ := found_of_lt inside
    rw [image.found found] at at_g
    exact ⟨h, x, found, rfl, (Option.some.inj at_g).symm⟩
  · rintro ⟨h, x, found, rfl, rfl⟩
    exact image.found found

theorem mem_iff (image : Image σ d e) :
    y ∈ e.declarations ↔ ∃ x ∈ d.declarations, y = x.rename σ := by
  constructor
  · intro mem
    obtain ⟨h, x, found, -, rfl⟩ := image.found_iff.1 (image.target.found mem)
    exact ⟨x, Array.mem_of_getElem? found, rfl⟩
  · rintro ⟨x, mem, rfl⟩
    exact Array.mem_of_getElem? (image.found (image.source.found mem))

theorem perm (image : Image σ d e) :
    e.declarations.toList.Perm (d.declarations.toList.map (·.rename σ)) := by
  have codes : ((d.declarations.toList.map (·.rename σ)).map (·.code)).Nodup := by
    rw [List.map_map]
    exact image.source.different
  rw [List.perm_ext_iff_of_nodup (image.target.different.of_map _) (codes.of_map _)]
  intro y
  rw [Array.mem_toList_iff, image.mem_iff, List.mem_map]
  simp only [Array.mem_toList_iff, eq_comm]

theorem size_eq (image : Image σ d e) : e.size = d.size := by
  simpa [size] using image.perm.length_eq

/-! ## The schema -/

/-- **Declarations that answer each other have one rank**, as ranks depend on codes only. -/
theorem rank_eq (image : Image σ d e) (found : d.declarations[h.index]? = some x) :
    e.rank (σ h) = d.rank h := by
  unfold rank
  rw [image.found found, found, image.perm.countP_eq, List.countP_map]
  rfl

theorem place_eq (image : Image σ d e) (inside : h.index < d.size) :
    e.place (σ h) = d.place h := by
  obtain ⟨x, found⟩ := found_of_lt inside
  rw [place, place, image.rank_eq found]

/-- A declaration and its image become the same in their schemas. -/
theorem rename_eq (image : Image σ d e) (found : d.declarations[h.index]? = some x) :
    (x.rename σ).rename e.place = x.rename d.place := by
  rw [Declaration.rename_rename]
  refine Declaration.rename_congr ?_ fun k mem => ?_
  · rw [image.source.handle_eq found]
    exact image.place_eq (lt_size found)
  · have held := Declaration.mem_references_iff.1 mem
    exact image.place_eq (image.closed x (Array.mem_of_getElem? found) k held)

theorem relocated_eq (image : Image σ d e) : e.relocated = d.relocated := by
  refine Array.ext_getElem? fun k => Option.ext fun y => ?_
  rw [relocated_found image.target, relocated_found image.source]
  constructor
  · rintro ⟨g, z, at_g, rfl, rfl⟩
    obtain ⟨h, x, found, rfl, rfl⟩ := image.found_iff.1 at_g
    exact ⟨h, x, found, (image.rank_eq found).symm, image.rename_eq found⟩
  · rintro ⟨h, x, found, rfl, rfl⟩
    exact ⟨σ h, _, image.found found, image.rank_eq found, (image.rename_eq found).symm⟩

/-- **The schemas are equal.** -/
theorem blueprint_eq (image : Image σ d e) (config : e.config = d.config) :
    e.blueprint = d.blueprint := by
  unfold blueprint
  rw [config, image.relocated_eq]
  refine congrArg _ (completed_congr fun y mem => ?_)
  obtain ⟨k, at_k⟩ := Array.mem_iff_getElem?.1 mem
  obtain ⟨h, x, found, -, rfl⟩ := (relocated_found image.source).1 at_k
  rw [Declaration.handle_rename, image.source.handle_eq found, mem_map_place image.source found,
    ← image.place_eq (lt_size found), mem_map_place image.target (image.found found)]
  exact image.explicit h (lt_size found)

/-! ## The checks -/

theorem link_iff (image : Image σ d e) {k : Handle} (inside : k.index < d.size) :
    e.supertypeOf? g = some (σ k) ↔ ∃ h, σ h = g ∧ d.supertypeOf? h = some k := by
  simp only [supertypeOf?_eq_some]
  constructor
  · rintro ⟨y, at_g, link⟩
    obtain ⟨h, x, found, rfl, rfl⟩ := image.found_iff.1 at_g
    rw [Declaration.supertype?_rename, Option.map_eq_some_iff] at link
    obtain ⟨s, link, same⟩ := link
    obtain ⟨-, p, at_s, -⟩ := image.source.supertype found link
    cases image.bijection.injOn (lt_size at_s) inside same
    exact ⟨h, rfl, x, found, link⟩
  · rintro ⟨h, rfl, x, found, link⟩
    refine ⟨_, image.found found, ?_⟩
    rw [Declaration.supertype?_rename, link, Option.map_some]

theorem resolves (image : Image σ d e) {i : InverseAttribute} (resolves : d.Resolves i) :
    e.Resolves (i.rename σ) where
  target := by
    obtain ⟨x, found, kind⟩ := resolves.target
    exact ⟨_, image.found found, (x.kind_rename).trans kind⟩
  inherited := by
    refine resolves.inherited.lift σ fun a b link => ?_
    obtain ⟨p, at_b, -⟩ := supertype_found image.source link
    exact (image.link_iff (lt_size at_b)).2 ⟨a, rfl, link⟩
  declared := by
    obtain ⟨x, e₀, found, body, inside⟩ := resolves.declared
    refine ⟨_, _, image.found found, Body.rename_eq_entity.2 ⟨e₀, body, rfl⟩, ?_⟩
    rw [Entity.rename, List.length_map]
    exact inside

/-- **An image of a well-formed draft is well-formed.** -/
theorem wellFormed (image : Image σ d e) (config : e.config = d.config) (formed : d.WellFormed) :
    e.WellFormed where
  dense builtIn n := by
    rw [config] at builtIn
    rw [image.size_eq, ← formed.dense builtIn n]
    simp only [image.mem_iff]
    constructor
    · rintro ⟨_, ⟨x, mem, rfl⟩, code⟩
      exact ⟨x, mem, code⟩
    · rintro ⟨x, mem, code⟩
      exact ⟨_, ⟨x, mem, rfl⟩, code⟩
  distinct := by
    have names : e.names.Perm d.names := by
      have := image.perm.map (·.name)
      rwa [List.map_map] at this
    rw [← distinct_iff, names.pairwise_iff fun ne => Ne.symm ne]
    exact distinct_iff.2 formed.distinct
  closed y member g holds := by
    obtain ⟨x, mem, rfl⟩ := image.mem_iff.1 member
    obtain ⟨h, held, rfl⟩ := Declaration.holds_rename.1 holds
    exact image.bijection.mapsTo (formed.closed x mem h held)
  listed y member e' entity listed := by
    obtain ⟨x, mem, rfl⟩ := image.mem_iff.1 member
    obtain ⟨e₀, body, rfl⟩ := Body.rename_eq_entity.1 entity
    have inside := lt_size (image.source.found mem)
    have given := (image.explicit x.handle inside).1 listed
    obtain ⟨⟨inherit, once⟩, all⟩ := count_iff.2 (formed.listed x mem e₀ body given)
    have low (h : Handle) (sub : h ∈ e₀.subtypes) : h.index < d.size :=
      formed.closed x mem h (.subtype body sub)
    refine count_iff.1 ⟨⟨fun g renamed => ?_, ?_⟩, fun g link => ?_⟩
    · obtain ⟨h, sub, rfl⟩ := List.mem_map.1 renamed
      exact (image.link_iff inside).2 ⟨h, rfl, inherit h sub⟩
    · exact once.map_on fun a sub b sub' same => image.bijection.injOn (low a sub) (low b sub') same
    · obtain ⟨h, rfl, inherits⟩ := (image.link_iff inside).1 link
      exact List.mem_map_of_mem (all h inherits)
  inverse y member e' entity i renamed := by
    obtain ⟨x, mem, rfl⟩ := image.mem_iff.1 member
    obtain ⟨e₀, body, rfl⟩ := Body.rename_eq_entity.1 entity
    obtain ⟨j, own, rfl⟩ := List.mem_map.1 renamed
    exact image.resolves (formed.inverse x mem e₀ body j own)

end Image

/-! ## Building -/

theorem SameUpTo.built (same : SameUpTo σ d e) (sound : Sound d) (sound' : Sound e)
    (config : e.config = d.config) {s : Schema} (built : d.build = .ok s) : e.build = .ok s := by
  obtain ⟨formed, rfl⟩ := (build_eq_ok sound).1 built
  have image := same.image sound sound' formed.closed
  exact (build_eq_ok sound').2 ⟨image.wellFormed config formed, (image.blueprint_eq config).symm⟩

/-- **The order of adding does not matter.** Of two runs that end in the same declarations up to a
bijection of handles, both can be built or none can, and the schema is the same. -/
theorem build_reordered (registry : Registry) (config : Config) (calls calls' : List Call)
    {σ : Handle → Handle}
    (same : SameUpTo σ (run registry config calls) (run registry config calls')) (s : Schema) :
    (run registry config calls).build = .ok s ↔ (run registry config calls').build = .ok s := by
  have sound := run_sound registry config calls
  have sound' := run_sound registry config calls'
  have configs : (run registry config calls').config = (run registry config calls).config := by simp
  obtain ⟨τ, back⟩ := same.symm
  exact ⟨same.built sound sound' configs, back.built sound' sound configs.symm⟩

/-- The same as `hardware`, with labels added last. -/
def hardwareLabelsLast : List Call :=
  [.add "part" (.entity none), .add "bolt" (.entity (some ⟨0⟩)), .set ⟨1⟩ (.subtypes []),
    .add "label" (.type (.simple .string)),
    .set ⟨0⟩ (.attributes [⟨"labels", .aggregate .set 0 none (.named ⟨2⟩), false⟩] [false])]

/-- Labels go from the first place to the last. -/
def labelsLast (h : Handle) : Handle :=
  if h = ⟨0⟩ then ⟨2⟩ else if h = ⟨1⟩ then ⟨0⟩ else ⟨1⟩

theorem hardware_sameUpTo : SameUpTo labelsLast (run hardwareCodes (.plain "hardware") hardware)
    (run hardwareCodes (.plain "hardware") hardwareLabelsLast) := by
  have few {h : Handle} (inside : h.index < 3) : h = ⟨0⟩ ∨ h = ⟨1⟩ ∨ h = ⟨2⟩ := by
    rcases (by omega : h.index = 0 ∨ h.index = 1 ∨ h.index = 2) with index | index | index
    · exact .inl (Handle.ext_index index)
    · exact .inr (.inl (Handle.ext_index index))
    · exact .inr (.inr (Handle.ext_index index))
  refine ⟨⟨fun h inside => ?_, fun g low h inside => ?_, fun g inside => ?_⟩,
    fun {h x} found => ?_, fun h inside => ?_⟩
  · rcases few inside with rfl | rfl | rfl <;> decide
  · rcases few low with rfl | rfl | rfl <;> rcases few inside with rfl | rfl | rfl <;> decide
  · rcases few inside with rfl | rfl | rfl
    · exact ⟨⟨1⟩, by decide, by decide⟩
    · exact ⟨⟨2⟩, by decide, by decide⟩
    · exact ⟨⟨0⟩, by decide, by decide⟩
  · rcases few (lt_size found) with rfl | rfl | rfl
    · obtain rfl := Option.some.inj found
      exact ⟨_, rfl, rfl, rfl, .type (.simple _)⟩
    · obtain rfl := Option.some.inj found
      have label : Corresponds labelsLast (run hardwareCodes (.plain "hardware") hardware)
          (run hardwareCodes (.plain "hardware") hardwareLabelsLast) ⟨0⟩ ⟨2⟩ := .inl (by decide)
      exact ⟨_, rfl, rfl, rfl, .entity ⟨.none, .nil,
        .cons ⟨rfl, .aggregate _ _ _ (.named label), rfl⟩ .nil, rfl, .nil⟩⟩
    · obtain rfl := Option.some.inj found
      have part : Corresponds labelsLast (run hardwareCodes (.plain "hardware") hardware)
          (run hardwareCodes (.plain "hardware") hardwareLabelsLast) ⟨1⟩ ⟨0⟩ := .inl (by decide)
      exact ⟨_, rfl, rfl, rfl, .entity ⟨.some part, .nil, .nil, rfl, .nil⟩⟩
  · rcases few inside with rfl | rfl | rfl <;> decide

/-- The two orders give one schema. -/
theorem hardware_reordered :
    ∃ s, (run hardwareCodes (.plain "hardware") hardware).build = .ok s ∧
      (run hardwareCodes (.plain "hardware") hardwareLabelsLast).build = .ok s := by
  have reordered := build_reordered _ _ _ _ hardware_sameUpTo
  exact ⟨_, hardware_built, (reordered _).1 hardware_built⟩

end Draft

end Express
