import Express.Proofs.Levels
import Express.Proofs.Searching
import Express.Schema.Notation

/-!
# What a declaration is

A declaration is itself, and an entity is each of its supertypes as well. Whether it is the one with
a code, and whether it is the one with a name, are questions about these.

* `Schema.bases` — what a declaration is; `Schema.isA_eq` and `Schema.isNamed_eq` say that both
  questions are asked of this list, and answered for every handle of the schema.
* `Schema.any_same_iff` — among declarations of a sound schema, looking for a name is looking for the
  code of the declaration with that name.
* `Draft.build_isNamed` — so in every schema that is built the two questions agree, for declarations
  and for data types.
-/

set_option autoImplicit false

namespace Express

namespace Schema

variable {s : Schema} {h : Handle} {x : Declaration}

/-- The declarations that the one with a handle is: itself, and its supertypes if it is an entity. -/
def bases (s : Schema) (h : Handle) : List Declaration :=
  match s.entity? h with
  | some v => v.lineage.map (·.declaration)
  | none => s.declarations[h.index]?.toList

theorem declaration_of_lt (inside : h.index < s.size) : ∃ x, s.declarations[h.index]? = some x :=
  ⟨_, Array.getElem?_eq_getElem inside⟩

/-- **The question for a code** is asked of the bases. -/
theorem isA_eq (inside : h.index < s.size) (c : TypeCode) :
    s.isA h c = .ok ((s.bases h).any (·.code = c)) := by
  obtain ⟨x, found⟩ := declaration_of_lt inside
  unfold isA bases
  cases view : s.entity? h with
  | some v =>
    dsimp only
    rw [List.any_map]
    rfl
  | none =>
    dsimp only
    rw [declaration_eq_ok.2 found, found]
    simp [bind, Except.bind, pure, Except.pure]

/-- **The question for a name** is asked of the bases. -/
theorem isNamed_eq (inside : h.index < s.size) (name : String) :
    s.isNamed h name = .ok ((s.bases h).any fun x => Caseless.same x.name name) := by
  obtain ⟨x, found⟩ := declaration_of_lt inside
  unfold isNamed bases
  cases view : s.entity? h with
  | some v =>
    dsimp only
    rw [List.any_map]
    rfl
  | none =>
    dsimp only
    rw [declaration_eq_ok.2 found, found]
    simp [bind, Except.bind, pure, Except.pure]

theorem bases_subset (sound : s.Sound) : ∀ x ∈ s.bases h, x ∈ s.declarations := by
  intro x mem
  unfold bases at mem
  split at mem
  · rename_i v view
    obtain ⟨level, above, rfl⟩ := List.mem_map.1 mem
    exact Array.mem_of_getElem? (entity?_eq_some.1 (sound.lineage view level above)).2
  · exact Array.mem_of_getElem? (Option.mem_toList.1 mem)

/-- **Looking for a name is looking for a code**: the one of the declaration with that name. -/
theorem any_same_iff (sound : s.Sound) {l : List Declaration} (declared : ∀ x ∈ l, x ∈ s.declarations)
    (name : String) : (l.any fun x => Caseless.same x.name name) = true ↔
      ∃ x, s.byName name = .ok x ∧ (l.any fun y => y.code = x.code) = true := by
  simp only [List.any_eq_true, decide_eq_true_eq, Caseless.same_iff, byName_eq_ok sound]
  constructor
  · rintro ⟨x, mem, same⟩
    exact ⟨x, ⟨declared x mem, same⟩, x, mem, rfl⟩
  · rintro ⟨x, ⟨known, same⟩, y, mem, code⟩
    cases sound.eq_of_code (declared y mem) known code
    exact ⟨_, mem, same⟩

end Schema

namespace Draft

variable {d : Draft} {b g : Handle} {x y : Declaration}

theorem mem_bases_carried (sound : Sound d) (formed : d.WellFormed)
    (found : d.declarations[b.index]? = some x) (entity : x.kind = .entity)
    (climb : g ∈ d.ancestry b) (at_g : d.declarations[g.index]? = some y) :
    d.carried g y ∈ d.blueprint.bases (d.place b) := by
  obtain ⟨v, view⟩ := exists_view sound found entity
  obtain ⟨level, mem, seen⟩ := level_carried sound formed found view climb
  rw [Schema.bases, view, ← ((entity?_place sound at_g).1 seen).2]
  exact List.mem_map_of_mem mem

/-- **Names and codes agree on what a declaration is**, in every schema that is built, and so they do
for data types that name declarations. Both are answered for all handles of the schema. -/
theorem build_isNamed (registry : Registry) (config : Config) (calls : List Call) {s : Schema}
    (built : (run registry config calls).build = .ok s) (name : String) :
    (∀ h, h.index < s.size → ∃ answer, s.isNamed h name = .ok answer ∧
      (answer = true ↔ ∃ x, s.byName name = .ok x ∧ s.isA h x.code = .ok true)) ∧
    ∀ t : DataType, (∀ h ∈ t.references, h.index < s.size) →
      ∃ answer, t.isNamed s name = .ok answer ∧
        (answer = true ↔ ∃ x, s.byName name = .ok x ∧ t.isA s x.code = .ok true) := by
  have sound : s.Sound := by
    obtain ⟨formed, rfl⟩ := (build_eq_ok (run_sound registry config calls)).1 built
    exact blueprint_sound (run_sound registry config calls) formed
  have handles (h : Handle) (inside : h.index < s.size) : ∃ answer, s.isNamed h name = .ok answer ∧
      (answer = true ↔ ∃ x, s.byName name = .ok x ∧ s.isA h x.code = .ok true) := by
    refine ⟨_, Schema.isNamed_eq inside name, ?_⟩
    rw [Schema.any_same_iff sound (Schema.bases_subset sound)]
    simp only [Schema.isA_eq inside, Except.ok.injEq]
  refine ⟨handles, fun t known => ?_⟩
  cases t with
  | named h => exact handles h (known h List.mem_cons_self)
  | simple type => exact ⟨false, rfl, by simp [DataType.isA]⟩
  | aggregate kind lower upper element => exact ⟨false, rfl, by simp [DataType.isA]⟩

/-- Bolts are parts, also by the code of what is found under the name in capitals. -/
theorem hardware_isNamed : ∃ s x, (run hardwareCodes (.plain "hardware") hardware).build = .ok s ∧
    s.isNamed ⟨0⟩ "PART" = .ok true ∧ s.byName "PART" = .ok x ∧ s.isA ⟨0⟩ x.code = .ok true := by
  have sound := run_sound hardwareCodes (.plain "hardware") hardware
  have place : (run hardwareCodes (.plain "hardware") hardware).place ⟨2⟩ = ⟨0⟩ := by decide +kernel
  have inside : (⟨0⟩ : Handle).index <
      (run hardwareCodes (.plain "hardware") hardware).blueprint.size :=
    (blueprint_size _).symm ▸ (by decide)
  have part := mem_bases_carried (b := ⟨2⟩) (g := ⟨1⟩) sound hardware_wellFormed rfl rfl
    (by decide +kernel) rfl
  rw [place] at part
  have named : (run hardwareCodes (.plain "hardware") hardware).blueprint.isNamed ⟨0⟩ "PART" =
      .ok true := by
    rw [Schema.isNamed_eq inside, List.any_eq_true.2 ⟨_, part, ?_⟩]
    rw [name_carried]
    decide +kernel
  obtain ⟨handles, -⟩ :=
    build_isNamed hardwareCodes (.plain "hardware") hardware hardware_built "PART"
  obtain ⟨answer, asked, agrees⟩ := handles ⟨0⟩ inside
  cases named.symm.trans asked
  obtain ⟨x, found, derives⟩ := agrees.1 rfl
  exact ⟨_, x, hardware_built, named, found, derives⟩

end Draft

end Express
