import Express.Proofs.Faults
import Express.Proofs.History
import Express.Proofs.Searching
import Express.Proofs.Tabulating

/-!
# Schemas over a type table

A declaration has its code and its spelling from the registry. Where this is a table, codes are in the
order of names: the names of a draft are different because its codes are, and a schema can be searched
for the code of a name as well as for the name.

* `Draft.Leads.spelt` — declarations have codes and spellings that the registry gave.
* `Draft.Leads.added` — what a call added stands at the handle that the call gave, with the code of
  the name that the call was made with.
* `TypeTable.Agrees` — what it is for a table and a schema to agree; `TypeTable.agrees` says that they
  do, if the table spells each code of the schema as the schema does.
* `Draft.run_agrees` — so every schema that is drafted over a table agrees with it, and no draft is
  refused for its names.
-/

set_option autoImplicit false

namespace Express

/-- The registry gave the declaration its code for a name, and its spelling where it has one. -/
def Declaration.SpeltBy (registry : Registry) (x : Declaration) : Prop :=
  ∃ given, registry.codeOf given = .ok x.code ∧ x.name = (registry.nameOf? x.code).getD given

/-! ## Calls and the registry -/

namespace Draft.Leads

variable {registry : Registry} {d d' : Draft} {entries : List Entry} {name : String}
  {content : Content} {h : Handle}

/-- **Calls keep to the registry**: codes and names are those it gives. -/
theorem spelt (leads : Leads registry d entries d')
    (given : ∀ x ∈ d.declarations, x.SpeltBy registry) :
    ∀ x ∈ d'.declarations, x.SpeltBy registry := by
  induction leads with
  | nil => exact given
  | @cons d d₁ d₂ entry entries performed rest ih =>
    refine ih fun x mem => ?_
    obtain ⟨i, at_i⟩ := Array.mem_iff_getElem?.1 mem
    obtain ⟨call, answer⟩ := entry
    cases call with
    | add name content =>
      obtain ⟨g, added, -⟩ := perform_add_eq_ok.1 performed
      obtain ⟨-, code, known, -, same⟩ := add_eq_ok.1 added
      cases same
      rcases extended_found.1 at_i with ⟨-, rfl⟩ | old
      · exact ⟨name, known, rfl⟩
      · exact given x (Array.mem_of_getElem? old)
    | set h change =>
      obtain ⟨owner, found, -, -, rfl⟩ := set_eq_ok.1 (perform_set_eq_ok.1 performed).1
      rcases (revised_found found).1 at_i with ⟨-, rfl⟩ | ⟨-, old⟩
      · exact given owner (Array.mem_of_getElem? found)
      · exact given x (Array.mem_of_getElem? old)

/-- **What a call added stays** at the handle that the call gave, whatever is called later. -/
theorem added (leads : Leads registry d entries d') (sound : Sound d)
    (mem : ⟨.add name content, some h⟩ ∈ entries) :
    ∃ code x, registry.codeOf name = .ok code ∧ d'.declarations[h.index]? = some x ∧
      Declaration.SameHead ⟨h, code, (registry.nameOf? code).getD name, content.body⟩ x := by
  induction leads with
  | nil => cases mem
  | @cons d d₁ d₂ entry entries performed rest ih =>
    rcases List.mem_cons.1 mem with rfl | later
    · obtain ⟨g, added, answer⟩ := perform_add_eq_ok.1 performed
      obtain ⟨grounded, code, known, fresh, same⟩ := add_eq_ok.1 added
      cases answer
      cases same
      have created : (d.extended code ((registry.nameOf? code).getD name) content).declarations[d.size]?
          = some _ := extended_found.2 (.inl ⟨rfl, rfl⟩)
      obtain ⟨x, found, head⟩ := rest.lasts created
      refine ⟨code, x, known, ?_, head⟩
      rwa [(sound.extended fresh grounded).index_handle created]
    · exact ih (sound.step (step_of_perform performed)) later

end Draft.Leads

/-! ## Tables and schemas -/

namespace TypeTable

variable {t : TypeTable} {d : Draft} {s : Schema} {x : Declaration}

/-- A table and a schema tell the same about names and codes. -/
structure Agrees (t : TypeTable) (s : Schema) : Prop where
  listed : ∀ x ∈ s.declarations, t.codeOf x.name = .ok x.code ∧ t.nameOf? x.code = some x.name
  compared : ∀ x ∈ s.declarations, ∀ y ∈ s.declarations,
    x.code.compare y.code = Caseless.compare x.name y.name
  /-- The index has the handles in the order of positions. -/
  indexed : s.nameIndex.toList.map (·.2.index) = List.range s.size
  /-- A name finds what its code finds. -/
  found : ∀ name x, s.byName name = .ok x ↔ ∃ c, t.codeOf name = .ok c ∧ s.byCode? c = some x

theorem nameOf?_of_spelt (ascends : t.Ascends) (few : t.size ≤ UInt32.size)
    (spelt : x.SpeltBy t.registry) : t.nameOf? x.code = some x.name := by
  obtain ⟨given, known, name⟩ := spelt
  obtain ⟨spelling, at_code, -⟩ := (codeOf_eq_ok ascends few).1 known
  change x.name = (t.nameOf? x.code).getD given at name
  rw [name, at_code]
  rfl

/-- **Different codes have different names**, so that a draft over a table has no name twice. -/
theorem names_different (ascends : t.Ascends) (sound : d.Sound)
    (spelt : ∀ x ∈ d.declarations, t.nameOf? x.code = some x.name) :
    d.names.Pairwise fun a b => Caseless.folded a ≠ Caseless.folded b := by
  have different := sound.different
  unfold List.Nodup at different
  unfold Draft.names
  rw [List.pairwise_map] at different ⊢
  refine different.imp_of_mem fun {x y} mx my apart same => apart ?_
  have equal := compare_code ascends (spelt x (Array.mem_toList_iff.1 mx))
    (spelt y (Array.mem_toList_iff.1 my))
  rw [Caseless.compare_eq_iff.2 same, TypeCode.compare_eq, Nat.compare_eq_eq] at equal
  exact TypeCode.ext_index equal

section Schema

variable (ascends : t.Ascends) (few : t.size ≤ UInt32.size) (sound : s.Sound)
  (spelt : ∀ x ∈ s.declarations, t.nameOf? x.code = some x.name)

include ascends sound spelt

theorem indexed_eq_range : s.nameIndex.toList.map (·.2.index) = List.range s.size := by
  refine eq_range_of_ascending ?_ fun _ => Schema.mem_indexed sound
  rw [List.pairwise_map]
  refine sound.names.imp_of_mem fun {a b} ma mb less => ?_
  obtain ⟨x, mx, rfl⟩ := (Schema.mem_nameIndex sound).1 (Array.mem_toList_iff.1 ma)
  obtain ⟨y, my, rfl⟩ := (Schema.mem_nameIndex sound).1 (Array.mem_toList_iff.1 mb)
  rw [← compare_code ascends (spelt x mx) (spelt y my), TypeCode.compare_eq,
    Nat.compare_eq_lt] at less
  exact sound.handle_lt mx my less

include few

/-- **To look for a name is to look for its code.** -/
theorem byName_iff_byCode {name : String} :
    s.byName name = .ok x ↔ ∃ c, t.codeOf name = .ok c ∧ s.byCode? c = some x := by
  rw [Schema.byName_eq_ok sound]
  simp only [Schema.byCode?_eq_some sound, codeOf_eq_ok ascends few]
  constructor
  · rintro ⟨mem, same⟩
    exact ⟨x.code, ⟨x.name, spelt x mem, same⟩, mem, rfl⟩
  · rintro ⟨c, ⟨spelling, at_c, same⟩, mem, rfl⟩
    cases at_c.symm.trans (spelt x mem)
    exact ⟨mem, same⟩

/-- **A table agrees with the schemas that have its spellings.** -/
theorem agrees : t.Agrees s where
  listed x mem := ⟨codeOf_spelling ascends few (spelt x mem), spelt x mem⟩
  compared x mx y my := compare_code ascends (spelt x mx) (spelt y my)
  indexed := indexed_eq_range ascends sound spelt
  found _ _ := byName_iff_byCode ascends few sound spelt

end Schema

end TypeTable

/-! ## Runs over a table -/

namespace Draft

variable {t : TypeTable} {d : Draft}

theorem build_ne_duplicateName (sound : Sound d)
    (different : d.names.Pairwise fun a b => Caseless.folded a ≠ Caseless.folded b) (name : String) :
    d.build ≠ .error (.refused (.duplicateName name)) := by
  intro refused
  obtain ⟨error, same, fault⟩ := build_onlyRefuses sound _ refused
  cases same
  cases fault with
  | names _ repeated => exact repeated different
  | entity _ _ about => cases about

theorem spelt_blueprint (sound : Sound d)
    (spelt : ∀ x ∈ d.declarations, t.nameOf? x.code = some x.name) :
    ∀ x ∈ d.blueprint.declarations, t.nameOf? x.code = some x.name := by
  intro y mem
  obtain ⟨h, x, found, rfl⟩ := (mem_blueprint sound).1 mem
  rw [code_carried, name_carried]
  exact spelt x (Array.mem_of_getElem? found)

/-- **Over a type table, names, codes and the schema agree.** Whatever is called, the draft is not
refused for its names. A schema that is built agrees with the table, and each name that a declaration
was added under, however spelt, finds the declaration that was added. -/
theorem run_agrees (names : List String) (few : (TypeTable.ofNames names).size ≤ UInt32.size)
    (config : Config) (calls : List Call) :
    let t := TypeTable.ofNames names
    let d := run t.registry config calls
    (∀ name, d.build ≠ .error (.refused (.duplicateName name))) ∧
    ∀ s, d.build = .ok s → t.Agrees s ∧
      ∀ name content h, ⟨.add name content, some h⟩ ∈ (empty config).history t.registry calls →
        ∃ x y, d.declarations[h.index]? = some x ∧ y = d.carried h x ∧
          s.declaration (d.place h) = .ok y ∧ s.byName name = .ok y := by
  intro t d
  have ascends : t.Ascends := TypeTable.ofNames_ascends names
  have sound : Sound d := run_sound t.registry config calls
  have leads := leads_run t.registry config calls
  have spelt : ∀ x ∈ d.declarations, t.nameOf? x.code = some x.name := fun x mem =>
    TypeTable.nameOf?_of_spelt ascends few (leads.spelt nofun x mem)
  refine ⟨build_ne_duplicateName sound (TypeTable.names_different ascends sound spelt),
    fun s built => ?_⟩
  obtain ⟨formed, rfl⟩ := (build_eq_ok sound).1 built
  have agrees := TypeTable.agrees ascends few (blueprint_sound sound formed)
    (spelt_blueprint sound spelt)
  refine ⟨agrees, fun name content h mem => ?_⟩
  obtain ⟨code, x, known, found, head⟩ := leads.added .empty mem
  refine ⟨x, d.carried h x, found, rfl, ?_, (agrees.found _ _).2 ⟨code, known, ?_⟩⟩
  · rw [Schema.declaration_eq_ok, index_place sound found]
    exact (blueprint_found sound).2 ⟨h, x, found, rfl, rfl⟩
  · rw [Schema.byCode?_eq_some (blueprint_sound sound formed), code_carried]
    exact ⟨(mem_blueprint sound).2 ⟨h, x, found, rfl⟩, head.code⟩

/-! ## A small table -/

/-- Names of a table, with one that is left out as it differs from another in case only. -/
def fittingNames : List String := ["Bolt", "bolt", "Label", "Part"]

/-- Parts and bolts, which are parts, under names that are spelt otherwise. -/
def fittings : List Call := [.add "PART" (.entity none), .add "bolt" (.entity (some ⟨0⟩))]

theorem ofNames_fittingNames : TypeTable.ofNames fittingNames = ⟨#["Bolt", "Label", "Part"]⟩ := by
  unfold TypeTable.ofNames
  rw [List.mergeSort_of_pairwise (by decide +kernel)]
  decide +kernel

theorem fittings_declarations :
    (run (TypeTable.ofNames fittingNames).registry (.plain "fittings") fittings).declarations =
      #[⟨⟨0⟩, ⟨2⟩, "Part", .entity {}⟩, ⟨⟨1⟩, ⟨0⟩, "Bolt", .entity { supertype := some ⟨0⟩ }⟩] := by
  rw [ofNames_fittingNames]
  decide +kernel

theorem fittings_wellFormed :
    (run (TypeTable.ofNames fittingNames).registry (.plain "fittings") fittings).WellFormed := by
  rw [← check_eq_ok (run_sound _ _ _), ofNames_fittingNames]
  simp only [check, seq_eq_ok, checkNames_eq_ok]
  exact ⟨by decide +kernel, by decide +kernel, by decide +kernel, by decide +kernel⟩

/-- Parts are found under the name that they were added with, and spelt as the table has it. -/
theorem fittings_agrees : ∃ s y,
    (run (TypeTable.ofNames fittingNames).registry (.plain "fittings") fittings).build = .ok s ∧
      s.byName "PART" = .ok y ∧ y.name = "Part" ∧ y.code = ⟨2⟩ := by
  have built := (build_eq_ok (run_sound _ _ _)).2 ⟨fittings_wellFormed, rfl⟩
  have few : (TypeTable.ofNames fittingNames).size ≤ UInt32.size := by
    rw [ofNames_fittingNames]
    decide +kernel
  obtain ⟨-, agrees⟩ := run_agrees fittingNames few (.plain "fittings") fittings
  obtain ⟨-, added⟩ := agrees _ built
  obtain ⟨x, y, found, rfl, -, named⟩ := added "PART" (.entity none) ⟨0⟩ (by
    rw [ofNames_fittingNames]
    decide +kernel)
  rw [fittings_declarations] at found
  cases found
  exact ⟨_, _, built, named, name_carried, code_carried⟩

end Draft

end Express
