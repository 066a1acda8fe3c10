import Express.Proofs.Ranking
import Express.Proofs.WellFormed

/-!
# The schema of a draft in closed form

Building moves declarations, replaces handles, completes lists and makes indices, by steps of which
several could fail. For a sound draft whose handles all refer to declarations none does.

* `adoptAll_eq_ok` — completing the lists of subtypes adds to each list that was not given the
  handles of the declarations that inherit, in their order (`heirs`).
* `Schema.ofSorted_eq_ok` — the indices over declarations that have their positions as handles.
* `Draft.relocated` — the declarations in their places; `Draft.relocated_found` says what stands
  where.
* `Draft.blueprint`, `Draft.assemble_eq_ok` — what building gives.
-/

set_option autoImplicit false

namespace Express

/-- The declaration with handles added to its subtypes, if it is an entity. -/
def Declaration.addSubtypes (x : Declaration) (handles : List Handle) : Declaration :=
  { x with body := x.body.mapEntity fun e => { e with subtypes := e.subtypes ++ handles } }

/-- The handles of the declarations that inherit from the one with a handle. -/
def heirs (declarations : Array Declaration) (h : Handle) : List Handle :=
  (declarations.toList.filter (·.inheritsFrom h)).map (·.handle)

/-- The declarations with all lists of subtypes that were not given. -/
def completed (listed : List Handle) (declarations : Array Declaration) : Array Declaration :=
  declarations.map fun x =>
    if listed.contains x.handle then x else x.addSubtypes (heirs declarations x.handle)

/-- The schema of declarations that have their positions as handles. -/
def Schema.indexed (config : Config) (declarations : Array Declaration) : Schema where
  name := config.name
  builtIn := config.builtIn
  declarations := declarations
  types := viewOf .type declarations
  selects := viewOf .select declarations
  enumerations := viewOf .enumeration declarations
  entities := viewOf .entity declarations
  nameIndex := ((declarations.toList.map fun x => (x.name, x.handle)).mergeSort
    fun a b => Caseless.inOrder a.1 b.1).toArray

section Adoption

variable {listed : List Handle} {declarations : Array Declaration} {h : Handle} {x : Declaration}

@[simp] theorem Declaration.addSubtypes_nil : x.addSubtypes [] = x := by
  obtain ⟨handle, code, name, body⟩ := x
  cases body <;> simp [addSubtypes, Body.mapEntity]

@[simp] theorem Declaration.addSubtypes_addSubtypes {a b : List Handle} :
    (x.addSubtypes a).addSubtypes b = x.addSubtypes (a ++ b) := by
  obtain ⟨handle, code, name, body⟩ := x
  cases body <;> simp [addSubtypes, Body.mapEntity]

@[simp] theorem Declaration.kind_addSubtypes {a : List Handle} :
    (x.addSubtypes a).kind = x.kind := by
  obtain ⟨handle, code, name, body⟩ := x
  cases body <;> rfl

@[simp] theorem Declaration.supertype?_addSubtypes {a : List Handle} :
    (x.addSubtypes a).supertype? = x.supertype? := by
  obtain ⟨handle, code, name, body⟩ := x
  cases body <;> rfl

@[simp] theorem Declaration.handle_addSubtypes {a : List Handle} :
    (x.addSubtypes a).handle = x.handle := rfl

/-- What some links add to the list of the declaration at a position. -/
def gained (links : List (Handle × Handle)) (position : Nat) : List Handle :=
  (links.filter fun link => link.2.index = position).map (·.1)

/-- The declarations with what some links add to their lists. -/
def linked (links : List (Handle × Handle)) (declarations : Array Declaration) :
    Array Declaration :=
  declarations.mapIdx fun k x => x.addSubtypes (gained links k)

/-- A declaration and its supertype, if it has one whose list was not given. -/
def openLink? (listed : List Handle) (x : Declaration) : Option (Handle × Handle) :=
  match x.supertype? with
  | some s => if listed.contains s then none else some (x.handle, s)
  | none => none

/-- The links of the declarations at some positions to supertypes whose lists were not given. -/
def openLinks (listed : List Handle) (declarations : Array Declaration) (positions : List Nat) :
    List (Handle × Handle) :=
  positions.filterMap fun k => declarations[k]?.bind (openLink? listed)

theorem getElem?_linked {links : List (Handle × Handle)} {k : Nat} :
    (linked links declarations)[k]? =
      declarations[k]?.map fun x => x.addSubtypes (gained links k) :=
  Array.getElem?_mapIdx

@[simp] theorem linked_nil : linked [] declarations = declarations :=
  Array.ext_getElem? fun k => by simp [getElem?_linked, gained]

theorem linked_linked {a b : List (Handle × Handle)} :
    linked b (linked a declarations) = linked (a ++ b) declarations := by
  refine Array.ext_getElem? fun k => ?_
  simp only [getElem?_linked, Option.map_map, Function.comp_def,
    Declaration.addSubtypes_addSubtypes, gained, ← List.map_append, ← List.filter_append]

theorem openLinks_linked {links : List (Handle × Handle)} {positions : List Nat} :
    openLinks listed (linked links declarations) positions =
      openLinks listed declarations positions := by
  refine List.filterMap_congr fun k _ => ?_
  rw [getElem?_linked, Option.bind_map]
  congr 1
  funext x
  simp [openLink?]

theorem adopt_eq_ok {subtype supertype : Handle} (inside : supertype.index < declarations.size) :
    adopt declarations subtype supertype = .ok (linked [(subtype, supertype)] declarations) := by
  unfold adopt
  rw [elementAt_eq_ok.2 (Array.getElem?_eq_getElem inside)]
  show replaceAt _ _ _ = _
  rw [replaceAt_eq_ok inside]
  refine congrArg Except.ok (Array.ext_getElem? fun k => ?_)
  rw [Array.getElem?_setIfInBounds, getElem?_linked]
  split
  · rename_i here
    subst here
    simp [inside, gained, Declaration.addSubtypes]
  · rename_i elsewhere
    simp [gained, elsewhere]

/-- Declarations have their positions as handles, and their supertypes are there. -/
structure Placed (declarations : Array Declaration) : Prop where
  places : ∀ {k : Nat} {x : Declaration}, declarations[k]? = some x → x.handle.index = k
  inside : ∀ {k : Nat} {x : Declaration} {s : Handle}, declarations[k]? = some x →
    x.supertype? = some s → s.index < declarations.size

theorem Placed.linked {links : List (Handle × Handle)} (placed : Placed declarations) :
    Placed (linked links declarations) where
  places := by
    intro k y found
    rw [getElem?_linked, Option.map_eq_some_iff] at found
    obtain ⟨x, found, rfl⟩ := found
    rw [Declaration.handle_addSubtypes]
    exact placed.places found
  inside := by
    intro k y s found supertype
    rw [getElem?_linked, Option.map_eq_some_iff] at found
    obtain ⟨x, found, rfl⟩ := found
    rw [Declaration.supertype?_addSubtypes] at supertype
    simpa [Express.linked] using placed.inside found supertype

theorem adoptAt_eq_ok (placed : Placed declarations) {k : Nat} (low : k < declarations.size) :
    adoptAt listed declarations k =
      .ok (linked (openLinks listed declarations [k]) declarations) := by
  have found : declarations[k]? = some declarations[k] := Array.getElem?_eq_getElem low
  have handle : Handle.ofIndex k = declarations[k].handle := by
    rw [← Handle.ofIndex_index declarations[k].handle, placed.places found]
  unfold adoptAt
  rw [elementAt_eq_ok.2 found]
  show (match declarations[k].supertype? with
    | some supertype => _
    | none => _) = _
  cases supertype : declarations[k].supertype? with
  | none => simp [openLinks, openLink?, found, supertype, pure, Except.pure]
  | some s =>
    by_cases given : s ∈ listed
    · simp [openLinks, openLink?, found, supertype, given, pure, Except.pure]
    · simp [openLinks, openLink?, found, supertype, given, handle,
        adopt_eq_ok (placed.inside found supertype)]

/-- Declarations that are visited in turn add their links. -/
theorem foldlM_adoptAt : ∀ {positions : List Nat} {declarations : Array Declaration},
    Placed declarations → (∀ k ∈ positions, k < declarations.size) →
      positions.foldlM (adoptAt listed) declarations =
        .ok (linked (openLinks listed declarations positions) declarations)
  | [], declarations, _, _ => congrArg Except.ok linked_nil.symm
  | k :: positions, declarations, placed, inside => by
    obtain ⟨first, rest⟩ := List.forall_mem_cons.1 inside
    rw [List.foldlM_cons, adoptAt_eq_ok placed first]
    show positions.foldlM _ _ = _
    rw [foldlM_adoptAt placed.linked (by simpa [linked] using rest), openLinks_linked,
      linked_linked]
    rw [openLinks, openLinks, openLinks, ← List.filterMap_append, List.singleton_append]

theorem openLinks_range : openLinks listed declarations (List.range declarations.size) =
    declarations.toList.filterMap (openLink? listed) := by
  have all : (List.range declarations.size).map (declarations[·]?) =
      declarations.toList.map some :=
    List.ext_getElem (by simp) fun i _ _ => by simp
  calc openLinks listed declarations (List.range declarations.size)
      = ((List.range declarations.size).map (declarations[·]?)).filterMap
          (·.bind (openLink? listed)) := by rw [List.filterMap_map]; rfl
    _ = declarations.toList.filterMap (openLink? listed) := by
      rw [all, List.filterMap_map]; rfl

theorem gained_openLinks :
    gained (openLinks listed declarations (List.range declarations.size)) h.index =
      if listed.contains h then [] else heirs declarations h := by
  rw [openLinks_range]
  unfold gained heirs
  induction declarations.toList with
  | nil => simp
  | cons x rest ih =>
    rw [List.filterMap_cons, List.filter_cons]
    cases link : x.supertype? with
    | none => simpa [openLink?, Declaration.inheritsFrom, link] using ih
    | some s =>
      by_cases here : s = h
      · subst here
        by_cases given : s ∈ listed
        · simpa [openLink?, Declaration.inheritsFrom, link, given] using ih
        · simpa [openLink?, Declaration.inheritsFrom, link, given] using ih
      · have elsewhere : s.index ≠ h.index := fun same => here (Handle.ext_index same)
        by_cases given : s ∈ listed
        · simpa [openLink?, Declaration.inheritsFrom, link, given, here] using ih
        · simpa [openLink?, Declaration.inheritsFrom, link, given, here, elsewhere] using ih

/-- **Completing the lists of subtypes succeeds** when supertypes are there, and adds to each list
that was not given the handles of the declarations that inherit. -/
theorem adoptAll_eq_ok (placed : Placed declarations) :
    adoptAll listed declarations = .ok (completed listed declarations) := by
  unfold adoptAll completed
  rw [foldlM_adoptAt placed fun k mem => List.mem_range.1 mem]
  refine congrArg Except.ok (Array.ext_getElem? fun k => ?_)
  rw [getElem?_linked, Array.getElem?_map]
  cases found : declarations[k]? with
  | none => rfl
  | some x =>
    rw [Option.map_some, Option.map_some, ← placed.places found, gained_openLinks]
    split <;> simp

theorem Placed.completed_places (placed : Placed declarations) {k : Nat} {y : Declaration}
    (found : (completed listed declarations)[k]? = some y) : y.handle.index = k := by
  unfold completed at found
  rw [Array.getElem?_map, Option.map_eq_some_iff] at found
  obtain ⟨x, at_k, rfl⟩ := found
  rw [← placed.places at_k]
  split <;> rfl

theorem completed_congr {listed' : List Handle}
    (same : ∀ x ∈ declarations, x.handle ∈ listed' ↔ x.handle ∈ listed) :
    completed listed' declarations = completed listed declarations := by
  refine Array.map_congr_left fun x mem => ?_
  simp only [List.contains_eq_mem, same x mem]

theorem heirs_completed : heirs (completed listed declarations) h = heirs declarations h := by
  have kept (x : Declaration) {y : Declaration}
      (becomes : y = if listed.contains x.handle then x
        else x.addSubtypes (heirs declarations x.handle)) :
      y.handle = x.handle ∧ y.inheritsFrom h = x.inheritsFrom h := by
    subst becomes
    split
    · exact ⟨rfl, rfl⟩
    · exact ⟨rfl, by simp [Declaration.inheritsFrom]⟩
  unfold completed
  rw [heirs, Array.toList_map, List.filter_map, List.map_map]
  refine (List.map_congr_left fun x _ => (kept x rfl).1).trans ?_
  exact congrArg (List.map _) (List.filter_congr fun x _ => (kept x rfl).2)

theorem handle_mem_heirs
    (places : ∀ {k : Nat} {x : Declaration}, declarations[k]? = some x → x.handle.index = k)
    (mem : x ∈ declarations) : x.handle ∈ heirs declarations h ↔ x.supertype? = some h := by
  unfold heirs
  simp only [List.mem_map, List.mem_filter, Array.mem_toList_iff, Declaration.inheritsFrom_iff]
  constructor
  · rintro ⟨y, ⟨member, link⟩, same⟩
    obtain ⟨i, at_i⟩ := Array.mem_iff_getElem?.1 mem
    obtain ⟨j, at_j⟩ := Array.mem_iff_getElem?.1 member
    rw [← places at_i, ← same, places at_j, at_j] at at_i
    rwa [← Option.some.inj at_i]
  · intro link
    exact ⟨x, ⟨mem, link⟩, rfl⟩

theorem Schema.ofSorted_eq_ok {config : Config}
    (places : ∀ {k : Nat} {x : Declaration}, declarations[k]? = some x → x.handle.index = k) :
    ofSorted config declarations = .ok (indexed config declarations) := by
  have named : declarations.toList.mapM (fun x => do
      return ((← elementAt declarations x.handle.index).name, x.handle)) =
        (.ok (declarations.toList.map fun x => (x.name, x.handle)) : Except Misuse _) := by
    refine mapM_eq_ok fun x mem => ?_
    obtain ⟨k, found⟩ := Array.mem_iff_getElem?.1 (Array.mem_toList_iff.1 mem)
    rw [places found, elementAt_eq_ok.2 found]
    rfl
  unfold ofSorted
  rw [named]
  rfl

end Adoption

/-! ## Declarations in their places -/

namespace Draft

variable {d : Draft} {h : Handle} {x y : Declaration} {k : Nat}

/-- The declarations in their places, with the handles that they get. -/
def relocated (d : Draft) : Array Declaration :=
  ((d.declarations.toList.map (·.rename d.place)).mergeSort Declaration.handleInOrder).toArray

/-- The schema that a draft without faults gives. -/
def blueprint (d : Draft) : Schema :=
  Schema.indexed d.config (completed (d.explicit.map d.place) d.relocated)

theorem index_handle_rename (sound : Sound d) (mem : x ∈ d.declarations) :
    (x.rename d.place).handle.index = d.rank x.handle :=
  index_place sound (sound.found mem)

theorem mem_places (sound : Sound d) :
    k ∈ (d.declarations.toList.map (·.rename d.place)).map (·.handle.index) ↔ k < d.size := by
  simp only [List.mem_map, Array.mem_toList_iff, exists_exists_and_eq_and]
  constructor
  · rintro ⟨x, mem, rfl⟩
    rw [index_handle_rename sound mem]
    exact rank_lt sound (sound.found mem)
  · intro inside
    obtain ⟨h, low, rfl⟩ := (rank_bijOn sound).surjOn inside
    obtain ⟨x, found⟩ := found_of_lt low
    refine ⟨x, Array.mem_of_getElem? found, ?_⟩
    rw [index_handle_rename sound (Array.mem_of_getElem? found), sound.handle_eq found]

theorem places_nodup (sound : Sound d) :
    ((d.declarations.toList.map (·.rename d.place)).map (·.handle.index)).Nodup := by
  rw [List.map_map]
  refine List.Nodup.map_on (fun x mx y my same => ?_) (sound.different.of_map _)
  rw [Array.mem_toList_iff] at mx my
  have ranks : d.rank x.handle = d.rank y.handle := by
    rw [← index_handle_rename sound mx, ← index_handle_rename sound my]
    exact same
  have found := sound.found mx
  rw [rank_injective sound found (sound.found my) ranks, sound.found my] at found
  exact (Option.some.inj found).symm

/-- **Each declaration stands at its place**, and nothing else stands there. -/
theorem relocated_found (sound : Sound d) : d.relocated[k]? = some y ↔
    ∃ h x, d.declarations[h.index]? = some x ∧ d.rank h = k ∧ y = x.rename d.place := by
  unfold relocated
  rw [List.getElem?_toArray]
  refine (getElem?_mergeSort (fun x : Declaration => x.handle.index)
    (fun _ _ => Handle.inOrder_iff) (places_nodup sound) fun _ => mem_places sound).trans ?_
  simp only [List.mem_map, Array.mem_toList_iff]
  constructor
  · rintro ⟨⟨x, mem, rfl⟩, rfl⟩
    exact ⟨x.handle, x, sound.found mem, (index_handle_rename sound mem).symm, rfl⟩
  · rintro ⟨h, x, found, rfl, rfl⟩
    have mem := Array.mem_of_getElem? found
    refine ⟨⟨x, mem, rfl⟩, ?_⟩
    rw [index_handle_rename sound mem, sound.handle_eq found]

theorem relocated_places (sound : Sound d) (found : d.relocated[k]? = some y) :
    y.handle.index = k := by
  obtain ⟨h, x, at_h, rfl, rfl⟩ := (relocated_found sound).1 found
  rw [Declaration.handle_rename, sound.handle_eq at_h, index_place sound at_h]

theorem relocated_size (d : Draft) : d.relocated.size = d.size := by
  simp [relocated, size]

theorem relocated_placed (sound : Sound d) : Placed d.relocated where
  places := relocated_places sound
  inside := by
    intro k y s at_k link
    obtain ⟨h, x, found, -, rfl⟩ := (relocated_found sound).1 at_k
    rw [Declaration.supertype?_rename, Option.map_eq_some_iff] at link
    obtain ⟨g, link, rfl⟩ := link
    obtain ⟨-, p, at_g, -⟩ := sound.supertype found link
    rw [relocated_size, index_place sound at_g]
    exact rank_lt sound at_g

/-! ## The schema -/

/-- **Assembling succeeds** where no handle is dangling. -/
theorem assemble_eq_ok (sound : Sound d)
    (closed : ∀ x ∈ d.declarations, ∀ h, x.Holds h → h.index < d.size) :
    d.assemble = .ok d.blueprint := by
  obtain ⟨positions, made, there⟩ := positions_eq_ok sound
  have known {h : Handle} (inside : h.index < d.size) :
      renumber positions h = .ok (d.place h) := by
    obtain ⟨x, found⟩ := found_of_lt inside
    exact elementAt_eq_ok.2 (there found)
  have renamed : d.declarations.toList.mapM (·.renameM (renumber positions)) =
      .ok (d.declarations.toList.map (·.rename d.place)) := by
    refine mapM_eq_ok fun x mem => ?_
    rw [Array.mem_toList_iff] at mem
    refine Declaration.renameM_eq_ok (known (lt_size (sound.found mem))) fun h held => ?_
    exact known (closed x mem h (Declaration.mem_references_iff.1 held))
  have listed : d.explicit.mapM (renumber positions) = .ok (d.explicit.map d.place) := by
    refine mapM_eq_ok fun h mem => ?_
    obtain ⟨p, found, -⟩ := sound.explicit h mem
    exact known (lt_size found)
  unfold assemble
  rw [made]
  show (d.declarations.toList.mapM (·.renameM (renumber positions)) >>= fun _ => _) = _
  rw [renamed]
  show (d.explicit.mapM (renumber positions) >>= fun _ => _) = _
  rw [listed]
  show adoptAll (d.explicit.map d.place) d.relocated >>= _ = _
  rw [adoptAll_eq_ok (relocated_placed sound)]
  exact Schema.ofSorted_eq_ok (relocated_placed sound).completed_places

/-- **Building gives the blueprint** of a well-formed draft, and refuses every other draft. -/
theorem build_eq_ok (sound : Sound d) {s : Schema} :
    d.build = .ok s ↔ d.WellFormed ∧ s = d.blueprint := by
  unfold build
  rw [seq_eq_ok, check_eq_ok sound, lift_misuse_eq_ok]
  refine and_congr_right fun formed => ?_
  rw [assemble_eq_ok sound formed.closed, Except.ok.injEq, eq_comm]

end Draft

end Express
