import Express.Draft.Check
import Express.Proofs.Climbing
import Express.Proofs.Folding
import Express.Proofs.Renaming
import Express.Proofs.Soundness

/-!
# Which drafts are complete

* `Draft.WellFormed` — what the checks are for, said without them: dense codes, different names,
  handles that refer to something, full lists of subtypes, inverse attributes that invert something.
* `Draft.ancestry_complete` — in a sound draft every climb along supertypes comes to an end, also
  from a handle that refers to nothing.
* `Draft.check_eq_ok` — the checks together accept a sound draft exactly when it is well-formed.
  There is one such equivalence for each of the checks.
-/

set_option autoImplicit false

namespace Express

theorem Declaration.inheritsFrom_iff {x : Declaration} {h : Handle} :
    x.inheritsFrom h ↔ x.supertype? = some h := by
  unfold inheritsFrom
  rw [decide_eq_true_iff]

theorem Declaration.lt_ownCount {x : Declaration} {k : Nat} :
    k < x.ownCount ↔ ∃ e, x.body = .entity e ∧ k < e.attributes.length := by
  unfold ownCount asEntity?
  cases x.body <;> simp

theorem Declaration.asEntity?_isNone {x : Declaration} :
    x.asEntity?.isNone = false ↔ x.kind = .entity := by
  unfold asEntity? kind
  cases x.body <;> simp [Body.kind]

namespace Draft

/-! ## Well-formed drafts -/

/-- An inverse attribute inverts a forward attribute of the draft. -/
structure Resolves (d : Draft) (i : InverseAttribute) : Prop where
  target : ∃ x, d.declarations[i.target.index]? = some x ∧ x.kind = .entity
  inherited : Relation.ReflTransGen (fun a b => d.supertypeOf? a = some b) i.target i.forward.owner
  declared : ∃ x e, d.declarations[i.forward.owner.index]? = some x ∧ x.body = .entity e ∧
    i.forward.position < e.attributes.length

/-- A draft that can be built. -/
structure WellFormed (d : Draft) : Prop where
  /-- The codes of a built-in schema are the numbers from 0 on. -/
  dense : d.config.builtIn = true → ∀ n, (∃ x ∈ d.declarations, x.code.index = n) ↔ n < d.size
  /-- No two declarations have the same name. -/
  distinct : ∀ {i j : Nat} {x y : Declaration}, d.declarations[i]? = some x →
    d.declarations[j]? = some y → Caseless.folded x.name = Caseless.folded y.name → i = j
  /-- Every handle refers to a declaration. -/
  closed : ∀ x ∈ d.declarations, ∀ h, x.Holds h → h.index < d.size
  /-- A list of subtypes that was given has each subtype once and nothing else. -/
  listed : ∀ x ∈ d.declarations, ∀ e, x.body = .entity e → x.handle ∈ d.explicit →
    ∀ h, e.subtypes.count h = if d.supertypeOf? h = some x.handle then 1 else 0
  /-- Inverse attributes invert forward attributes. -/
  inverse : ∀ x ∈ d.declarations, ∀ e, x.body = .entity e → ∀ i ∈ e.inverse, d.Resolves i

variable {d : Draft} {h : Handle} {owner x : Declaration}

/-! ## Supertypes -/

theorem supertypeOf?_eq_some {s : Handle} :
    d.supertypeOf? h = some s ↔ ∃ x, d.declarations[h.index]? = some x ∧ x.supertype? = some s := by
  unfold supertypeOf?
  rw [Option.bind_eq_some_iff]

theorem supertype_found (sound : Sound d) {s : Handle} (link : d.supertypeOf? h = some s) :
    ∃ p, d.declarations[s.index]? = some p ∧ p.kind = .entity := by
  obtain ⟨x, found, supertype⟩ := supertypeOf?_eq_some.1 link
  exact (sound.supertype found supertype).2

/-- **Every climb along supertypes comes to an end**, as a supertype stands before its subtypes. -/
theorem ancestry_complete (sound : Sound d) (h : Handle) :
    Chain.Complete d.supertypeOf? h (d.ancestry h) := by
  -- A handle that refers to nothing has no supertype, so positions count up to the size only.
  refine Chain.ascend_complete (fun h => min h.index d.size) (fun {a b} link => ?_) ?_
  · obtain ⟨x, found, supertype⟩ := supertypeOf?_eq_some.1 link
    have inside := lt_size found
    have before := (sound.supertype found supertype).1
    omega
  · show min h.index d.size < d.size + 1
    omega

theorem ancestry_found (sound : Sound d) (found : d.declarations[h.index]? = some x) :
    ∀ g ∈ d.ancestry h, ∃ y, d.declarations[g.index]? = some y := by
  refine Chain.forall_ascend (fun _ link => ?_) ⟨x, found⟩
  obtain ⟨p, at_p, -⟩ := supertype_found sound link
  exact ⟨p, at_p⟩

/-! ## Codes -/

theorem firstGap?_eq_none {codes : List TypeCode} (few : codes.length ≤ UInt32.size) :
    firstGap? codes = none ↔ codes.map TypeCode.index = List.range codes.length := by
  have placed : firstGap? codes = none ↔ ∀ i c, codes[i]? = some c → c = TypeCode.ofNat i := by
    unfold firstGap?
    simp only [List.findSome?_eq_none_iff, Prod.forall, List.mem_zipIdx_iff_getElem?,
      ite_eq_left_iff, reduceCtorEq, imp_false, not_not]
    exact forall_comm
  rw [placed, List.ext_getElem_iff]
  simp only [List.length_map, List.length_range, true_and, List.getElem_map, List.getElem_range]
  constructor
  · intro all i inside _
    rw [all i _ (List.getElem?_eq_getElem inside), TypeCode.index_ofNat (by omega)]
  · intro numbered i c found
    obtain ⟨inside, rfl⟩ := List.getElem?_eq_some_iff.1 found
    rw [← TypeCode.ofNat_index codes[i], numbered i inside inside]

theorem sortedCodes_perm (sound : Sound d) :
    d.sortedCodes.Perm (d.declarations.toList.map (·.code)) := by
  refine (List.mergeSort_perm _ _).trans ?_
  rw [sound.codes, List.map_reverse, List.map_map]
  exact List.reverse_perm _

theorem sortedCodes_ascending (sound : Sound d) :
    (d.sortedCodes.map TypeCode.index).Pairwise (· < ·) := by
  have different : ((d.codes.map (·.1)).map TypeCode.index).Nodup := by
    refine List.Nodup.map TypeCode.index_injective ?_
    have perm := (List.mergeSort_perm _ _).symm.trans (sortedCodes_perm sound)
    exact perm.nodup_iff.2 sound.different
  rw [List.pairwise_map]
  exact ascending_mergeSort TypeCode.index (fun _ _ => TypeCode.inOrder_iff) different

/-- A sorted list of codes has no gap when its members are the numbers below its length. -/
theorem firstGap?_sortedCodes_eq_none (sound : Sound d) : firstGap? d.sortedCodes = none ↔
    ∀ n, (∃ x ∈ d.declarations, x.code.index = n) ↔ n < d.size := by
  have members (n : Nat) :
      n ∈ d.sortedCodes.map TypeCode.index ↔ ∃ x ∈ d.declarations, x.code.index = n := by
    simp [(sortedCodes_perm sound).mem_iff]
  have length : d.sortedCodes.length = d.size := by
    simp [(sortedCodes_perm sound).length_eq, size]
  rw [firstGap?_eq_none (length.trans_le sound.size_le), length]
  simp only [← members]
  constructor
  · intro range n
    rw [range, List.mem_range]
  · exact eq_range_of_ascending (sortedCodes_ascending sound)

theorem checkCodes_eq_ok (sound : Sound d) : d.checkCodes = .ok () ↔
    (d.config.builtIn = true → ∀ n, (∃ x ∈ d.declarations, x.code.index = n) ↔ n < d.size) := by
  unfold checkCodes
  rw [← firstGap?_sortedCodes_eq_none sound]
  cases d.config.builtIn with
  | false => simp
  | true =>
    cases firstGap? d.sortedCodes <;> simp

/-! ## Names -/

/-- In a sorted list, names that are the same stand next to each other. -/
theorem firstRepeat?_eq_none : ∀ {names : List String},
    names.Pairwise (fun a b => Caseless.inOrder a b) →
    (firstRepeat? names = none ↔ names.Pairwise fun a b => Caseless.folded a ≠ Caseless.folded b)
  | [], _ => by simp [firstRepeat?]
  | [_], _ => by simp [firstRepeat?]
  | a :: b :: rest, sorted => by
    obtain ⟨-, tail⟩ := List.pairwise_cons.1 sorted
    rw [firstRepeat?, List.pairwise_cons]
    by_cases same : Caseless.same a b
    · rw [if_pos same]
      refine iff_of_false (fun e => ?_) fun ⟨all, _⟩ => ?_
      · cases e
      · exact all b List.mem_cons_self (Caseless.same_iff.1 same)
    · rw [if_neg same, firstRepeat?_eq_none tail, iff_and_self]
      intro _
      exact Caseless.differs_of_sorted sorted (by simpa using same)

theorem checkNames_eq_ok : d.checkNames = .ok () ↔
    d.names.Pairwise fun a b => Caseless.folded a ≠ Caseless.folded b := by
  have sorted := Caseless.pairwise_mergeSort d.names
  have different : firstRepeat? (d.names.mergeSort Caseless.inOrder) = none ↔
      d.names.Pairwise fun a b => Caseless.folded a ≠ Caseless.folded b := by
    rw [firstRepeat?_eq_none sorted]
    exact (List.mergeSort_perm _ _).pairwise_iff fun ne => Ne.symm ne
  unfold checkNames
  rw [← different]
  cases firstRepeat? (d.names.mergeSort Caseless.inOrder) <;> simp

theorem distinct_iff : (d.names.Pairwise fun a b => Caseless.folded a ≠ Caseless.folded b) ↔
    ∀ {i j : Nat} {x y : Declaration}, d.declarations[i]? = some x → d.declarations[j]? = some y →
      Caseless.folded x.name = Caseless.folded y.name → i = j := by
  unfold names
  rw [List.pairwise_map, List.pairwise_iff_getElem]
  constructor
  · intro all i j x y at_i at_j same
    obtain ⟨hi, rfl⟩ := Array.getElem?_eq_some_iff.1 at_i
    obtain ⟨hj, rfl⟩ := Array.getElem?_eq_some_iff.1 at_j
    rcases Nat.lt_trichotomy i j with less | equal | more
    · exact absurd same (all i j hi hj less)
    · exact equal
    · exact absurd same.symm (all j i hj hi more)
  · intro all i j hi hj less same
    have := all (Array.getElem?_eq_getElem hi) (Array.getElem?_eq_getElem hj) same
    omega

/-! ## Handles -/

theorem checkHandles_eq_ok :
    d.checkHandles x = .ok () ↔ ∀ h, x.Holds h → h.index < d.size := by
  have none_dangles : dangling? d.size x = none ↔ ∀ h, x.Holds h → h.index < d.size := by
    unfold dangling?
    simp [List.find?_eq_none, Declaration.mem_references_iff]
  unfold checkHandles
  rw [← none_dangles]
  cases dangling? d.size x <;> simp

/-! ## Subtypes -/

theorem checkListed_eq_ok : ∀ {before handles : List Handle},
    d.checkListed owner before handles = .ok () ↔
      (∀ h ∈ handles, d.supertypeOf? h = some owner.handle) ∧ handles.Nodup ∧
        ∀ h ∈ handles, h ∉ before
  | before, [] => by simp [checkListed]
  | before, h :: rest => by
    rw [checkListed, bind_eq_ok, List.forall_mem_cons, List.nodup_cons, List.forall_mem_cons]
    simp only [seq_eq_ok, lift_misuse_eq_ok, elementAt_eq_ok, refuseIf_eq_ok, Bool.not_eq_false',
      checkListed_eq_ok, Declaration.inheritsFrom_iff, List.contains_eq_mem,
      decide_eq_false_iff_not,
      List.mem_cons, not_or]
    constructor
    · rintro ⟨x, found, inherits, fresh, others, once, apart⟩
      refine ⟨⟨supertypeOf?_eq_some.2 ⟨x, found, inherits⟩, others⟩, ⟨?_, once⟩, fresh, ?_⟩
      · exact fun again => (apart h again).1 rfl
      · exact fun g mem => (apart g mem).2
    · rintro ⟨⟨link, others⟩, ⟨single, once⟩, fresh, apart⟩
      obtain ⟨x, found, inherits⟩ := supertypeOf?_eq_some.1 link
      refine ⟨x, found, inherits, fresh, others, once, fun g mem => ⟨?_, apart g mem⟩⟩
      rintro rfl
      exact single mem

theorem checkMissing_eq_ok (sound : Sound d) {listed : List Handle} :
    d.checkMissing owner listed = .ok () ↔
      ∀ h, d.supertypeOf? h = some owner.handle → h ∈ listed := by
  unfold checkMissing
  simp only [forM_eq_ok, refuseIf_eq_ok, Bool.and_eq_false_imp, Declaration.inheritsFrom_iff,
    List.contains_eq_mem, Bool.not_eq_false', decide_eq_true_eq, Array.mem_toList_iff]
  constructor
  · intro all h link
    obtain ⟨x, found, inherits⟩ := supertypeOf?_eq_some.1 link
    rw [← sound.handle_eq found]
    exact all x (Array.mem_of_getElem? found) inherits
  · intro all x mem inherits
    exact all x.handle (supertypeOf?_eq_some.2 ⟨x, sound.found mem, inherits⟩)

/-- What the two passes over a list of subtypes find out together. -/
theorem count_iff {listed : List Handle} {owner : Handle} :
    ((∀ h ∈ listed, d.supertypeOf? h = some owner) ∧ listed.Nodup) ∧
        (∀ h, d.supertypeOf? h = some owner → h ∈ listed) ↔
      ∀ h, listed.count h = if d.supertypeOf? h = some owner then 1 else 0 := by
  constructor
  · rintro ⟨⟨inherit, once⟩, all⟩ h
    split
    · rename_i link
      exact List.count_eq_one_of_mem once (all h link)
    · rename_i other
      exact List.count_eq_zero_of_not_mem fun mem => other (inherit h mem)
  · intro counts
    refine ⟨⟨fun h mem => ?_, List.nodup_iff_count_le_one.2 fun h => ?_⟩, fun h link => ?_⟩
    · by_contra other
      have := counts h
      rw [if_neg other] at this
      exact List.count_eq_zero.1 this mem
    · rw [counts h]
      split <;> omega
    · have := counts h
      rw [if_pos link] at this
      exact List.count_pos_iff.1 (by omega)

/-- A list that was given has the subtypes of its owner, once each. -/
theorem WellFormed.inverts (formed : d.WellFormed) (sound : Sound d)
    (found : d.declarations[h.index]? = some x) (given : h ∈ d.explicit) {e : Entity}
    (body : x.body = .entity e) :
    ((∀ g ∈ e.subtypes, d.supertypeOf? g = some h) ∧ e.subtypes.Nodup) ∧
      ∀ g, d.supertypeOf? g = some h → g ∈ e.subtypes := by
  cases sound.handle_eq found
  exact count_iff.2 (formed.listed x (Array.mem_of_getElem? found) e body given)

theorem checkSubtypes_eq_ok (sound : Sound d) {e : Entity} :
    d.checkSubtypes owner e = .ok () ↔ (owner.handle ∈ d.explicit →
      ∀ h, e.subtypes.count h = if d.supertypeOf? h = some owner.handle then 1 else 0) := by
  unfold checkSubtypes
  rw [List.contains_eq_mem, ← count_iff]
  by_cases given : owner.handle ∈ d.explicit
  · rw [if_pos (decide_eq_true given), seq_eq_ok, checkListed_eq_ok, checkMissing_eq_ok sound]
    simp [given]
  · rw [if_neg (by simpa using given)]
    simp [given]

/-! ## Inverse attributes -/

theorem checkInverse_eq_ok (sound : Sound d) {i : InverseAttribute} :
    d.checkInverse owner i = .ok () ↔ d.Resolves i := by
  unfold checkInverse
  rw [bind_eq_ok]
  simp only [seq_eq_ok, lift_misuse_eq_ok, elementAt_eq_ok, refuseIf_eq_ok, Bool.not_eq_false',
    List.contains_eq_mem, decide_eq_true_eq, (ancestry_complete sound _).mem_iff,
    Declaration.asEntity?_isNone]
  simp only [bind_eq_ok, lift_misuse_eq_ok, elementAt_eq_ok, refuseIf_eq_ok,
    decide_eq_false_iff_not, Nat.not_le, Declaration.lt_ownCount]
  constructor
  · rintro ⟨x, found, entity, climbs, y, declarer, e, body, inside⟩
    rw [sound.handle_eq found] at climbs
    exact ⟨⟨x, found, entity⟩, climbs, y, e, declarer, body, inside⟩
  · rintro ⟨⟨x, found, entity⟩, climbs, y, e, declarer, body, inside⟩
    rw [← sound.handle_eq found] at climbs
    exact ⟨x, found, entity, climbs, y, declarer, e, body, inside⟩

/-! ## Everything -/

theorem checkEntity_eq_ok (sound : Sound d) : d.checkEntity x = .ok () ↔
    ∀ e, x.body = .entity e → (x.handle ∈ d.explicit →
      ∀ h, e.subtypes.count h = if d.supertypeOf? h = some x.handle then 1 else 0) ∧
        ∀ i ∈ e.inverse, d.Resolves i := by
  unfold checkEntity Declaration.asEntity?
  cases body : x.body with
  | entity e =>
    simp only [seq_eq_ok, checkSubtypes_eq_ok sound, forM_eq_ok, checkInverse_eq_ok sound,
      Body.entity.injEq, forall_eq']
  | _ => simp

/-- **The checks accept what is well-formed**, and nothing else. -/
theorem check_eq_ok (sound : Sound d) : d.check = .ok () ↔ d.WellFormed := by
  unfold check
  simp only [seq_eq_ok, checkCodes_eq_ok sound, checkNames_eq_ok, distinct_iff, forM_eq_ok,
    checkHandles_eq_ok, checkEntity_eq_ok sound, Array.mem_toList_iff]
  constructor
  · rintro ⟨dense, distinct, closed, entities⟩
    exact ⟨dense, distinct, closed, fun x mem e body => (entities x mem e body).1,
      fun x mem e body => (entities x mem e body).2⟩
  · rintro ⟨dense, distinct, closed, listed, inverse⟩
    exact ⟨dense, distinct, closed, fun x mem e body => ⟨listed x mem e body, inverse x mem e body⟩⟩

end Draft

end Express
