import Express.Proofs.Faults

/-!
# Which fault is reported

A draft can have many faults at once, of handles, of lists of subtypes and of inverse attributes, and
one of them is reported. It is the first: of the declarations in the order of adding, of the handles in
the order in which a declaration holds them, of a list of subtypes from its start, and of an entity its
subtypes before its inverse attributes.

* `Draft.ListingFault`, `Draft.SubtypesFault`, `Draft.Misses`, `Draft.EntityFault` — what is wrong with
  a handle in a list of subtypes, with the list, with an inverse attribute and with an entity, and the
  error that tells it. None of them is said by the checks.
* `Draft.Blames` — the error about the first fault of a draft.
* `Draft.checkListed_eq_error` to `Draft.checkEntity_eq_error` — what each check reports.
* `Draft.check_eq_error` — the checks report the error that `Draft.Blames` has, where the codes and the
  names are right.
* `Draft.build_blames` — so building reports it, and there is an error exactly where there is a fault.
-/

set_option autoImplicit false

namespace Express

namespace Draft

variable {d : Draft} {h : Handle} {owner x : Declaration} {before before' listed : List Handle}
  {e : Entity} {i : InverseAttribute} {error : SchemaError} {failure : Failure}

/-! ## Faults -/

/-- The handles are those of entities that inherit from the owner, and none is repeated. -/
def Lists (d : Draft) (owner : Handle) (handles : List Handle) : Prop :=
  (∀ h ∈ handles, d.supertypeOf? h = some owner) ∧ handles.Nodup

/-- What is wrong with a handle in a list of subtypes, after the handles before it. -/
inductive ListingFault (d : Draft) (owner : Declaration) (before : List Handle) (h : Handle) :
    SchemaError → Prop
  | foreign {x : Declaration} (found : d.declarations[h.index]? = some x)
    (other : x.supertype? ≠ some owner.handle) :
    ListingFault d owner before h (.inconsistentSubtype owner.name x.name)
  | repeated {x : Declaration} (found : d.declarations[h.index]? = some x)
    (inherits : x.supertype? = some owner.handle) (again : h ∈ before) :
    ListingFault d owner before h (.duplicateSubtype owner.name x.name)

/-- The first fault of a list of subtypes: of a handle in it, or else of the first declaration that is
missing from it. -/
inductive SubtypesFault (d : Draft) (owner : Declaration) (listed : List Handle) :
    SchemaError → Prop
  | listing {before after : List Handle} {h : Handle} {error : SchemaError}
    (split : listed = before ++ h :: after) (clean : d.Lists owner.handle before)
    (fault : d.ListingFault owner before h error) : SubtypesFault d owner listed error
  | missing {x : Declaration} (clean : d.Lists owner.handle listed)
    (first : First (fun y => y.supertype? = some owner.handle ∧ y.handle ∉ listed)
      d.declarations.toList x) : SubtypesFault d owner listed (.missingSubtype owner.name x.name)

/-- Why an inverse attribute does not invert a forward attribute: its target is no entity, or else
the owner of the forward attribute is not on the line of the target, or else the owner has no attribute
there. -/
inductive Misses (d : Draft) (i : InverseAttribute) : InverseFault → Prop
  | notEntity {x : Declaration} (target : d.declarations[i.target.index]? = some x)
    (other : x.kind ≠ .entity) : Misses d i (.notEntity x.name)
  | notInherited {x : Declaration} (target : d.declarations[i.target.index]? = some x)
    (kind : x.kind = .entity) (apart : ¬ Relation.ReflTransGen
      (fun a b => d.supertypeOf? a = some b) i.target i.forward.owner) :
    Misses d i (.notInherited x.name)
  | noAttribute {x y : Declaration} (target : d.declarations[i.target.index]? = some x)
    (kind : x.kind = .entity) (inherited : Relation.ReflTransGen
      (fun a b => d.supertypeOf? a = some b) i.target i.forward.owner)
    (declarer : d.declarations[i.forward.owner.index]? = some y)
    (beyond : y.ownCount ≤ i.forward.position) :
    Misses d i (.noAttribute y.name i.forward.position)

/-- The subtypes of an entity are listed all and once each, if they are listed, and its inverse
attributes invert forward attributes. -/
structure Formed (d : Draft) (x : Declaration) : Prop where
  listed : ∀ e, x.body = .entity e → x.handle ∈ d.explicit →
    ∀ h, e.subtypes.count h = if d.supertypeOf? h = some x.handle then 1 else 0
  inverse : ∀ e, x.body = .entity e → ∀ i ∈ e.inverse, d.Resolves i

/-- The first fault of an entity: of its list of subtypes, or else of the first inverse attribute that
has one. -/
inductive EntityFault (d : Draft) (x : Declaration) : SchemaError → Prop
  | subtypes {e : Entity} {error : SchemaError} (body : x.body = .entity e)
    (given : x.handle ∈ d.explicit) (fault : d.SubtypesFault x e.subtypes error) :
    EntityFault d x error
  | inverse {e : Entity} {i : InverseAttribute} {reason : InverseFault} (body : x.body = .entity e)
    (listed : x.handle ∈ d.explicit →
      ∀ h, e.subtypes.count h = if d.supertypeOf? h = some x.handle then 1 else 0)
    (first : First (fun j => ¬ d.Resolves j) e.inverse i) (misses : d.Misses i reason) :
    EntityFault d x (.invalidInverseAttribute x.name i.name reason)

/-- The first fault of a draft in what its declarations refer to: of the first declaration that holds a
handle outside the draft, or else of the first entity that has a fault. -/
inductive Blames (d : Draft) : SchemaError → Prop
  | handle {x : Declaration} {h : Handle}
    (first : First (fun y => ∃ g, y.Holds g ∧ d.size ≤ g.index) d.declarations.toList x)
    (outside : First (fun g => d.size ≤ g.index) x.references h) : Blames d (.unknownDeclaration h)
  | entity {x : Declaration} {error : SchemaError}
    (closed : ∀ y ∈ d.declarations, ∀ h, y.Holds h → h.index < d.size)
    (first : First (fun y => ¬ d.Formed y) d.declarations.toList x)
    (fault : d.EntityFault x error) : Blames d error

theorem ListingFault.mono (fault : d.ListingFault owner before h error) (sub : before ⊆ before') :
    d.ListingFault owner before' h error := by
  cases fault with
  | foreign found other => exact .foreign found other
  | repeated found inherits again => exact .repeated found inherits (sub again)

theorem EntityFault.entity? (fault : d.EntityFault x error) : error.entity? = some x.name := by
  cases fault with
  | subtypes _ _ fault =>
    cases fault with
    | listing _ _ fault => cases fault <;> rfl
    | missing => rfl
  | inverse => rfl

/-- The error about a fault tells a handle that refers to nothing, or names an entity. -/
theorem Blames.about (blames : d.Blames error) :
    (∃ h, error = .unknownDeclaration h) ∨ ∃ name, error.entity? = some name := by
  cases blames with
  | handle _ outside => exact .inl ⟨_, rfl⟩
  | entity _ _ fault => exact .inr ⟨_, fault.entity?⟩

/-! ## Handles -/

theorem checkHandles_eq_error : d.checkHandles x = .error failure ↔
    ∃ h, First (fun g => d.size ≤ g.index) x.references h ∧
      failure = .refused (.unknownDeclaration h) := by
  have dangles (h : Handle) : dangling? d.size x = some h ↔
      First (fun g => d.size ≤ g.index) x.references h := by
    unfold dangling?
    rw [find?_eq_some_iff_first]
    simp only [decide_eq_true_eq]
  simp only [← dangles]
  unfold checkHandles
  cases dangling? d.size x <;> simp [eq_comm]

/-! ## Subtypes -/

/-- **The check of a list of subtypes reports its first fault.** What has been met is what was met
before the list and the part of the list before the fault. -/
theorem checkListed_eq_error : ∀ {before handles : List Handle},
    (∀ h ∈ handles, h.index < d.size) →
      (d.checkListed owner before handles = .error failure ↔
        ∃ part h after error, handles = part ++ h :: after ∧ d.Lists owner.handle part ∧
          (∀ g ∈ part, g ∉ before) ∧ d.ListingFault owner (part ++ before) h error ∧
          failure = .refused error)
  | _, [], _ => by simp [checkListed]
  | before, h :: rest, inside => by
    obtain ⟨first, others⟩ := List.forall_mem_cons.1 inside
    obtain ⟨x, found⟩ := found_of_lt first
    rw [checkListed, lift_misuse_eq_ok.2 (elementAt_eq_ok.2 found)]
    show (refuseIf _ _ >>= fun _ => refuseIf _ _ >>= fun _ => _) = _ ↔ _
    simp only [seq_eq_error, refuseIf_eq_error, refuseIf_eq_ok, Bool.not_eq_true',
      Bool.not_eq_false', ← Bool.not_eq_true (x.inheritsFrom _), Declaration.inheritsFrom_iff,
      List.contains_eq_mem, decide_eq_true_eq, decide_eq_false_iff_not, checkListed_eq_error others]
    have nothing : d.Lists owner.handle [] := ⟨List.forall_mem_nil _, .nil⟩
    constructor
    · rintro (⟨other, rfl⟩ | ⟨inherits, ⟨again, rfl⟩ |
        ⟨fresh, part, g, after, error, rfl, clean, apart, fault, rfl⟩⟩)
      · exact ⟨[], h, rest, _, rfl, nothing, List.forall_mem_nil _, .foreign found other, rfl⟩
      · exact ⟨[], h, rest, _, rfl, nothing, List.forall_mem_nil _, .repeated found inherits again, rfl⟩
      · have unmet : h ∉ part := fun mem => apart h mem List.mem_cons_self
        refine ⟨h :: part, g, after, error, rfl, ⟨?_, List.nodup_cons.2 ⟨unmet, clean.2⟩⟩, ?_, ?_,
          rfl⟩
        · exact List.forall_mem_cons.2 ⟨supertypeOf?_eq_some.2 ⟨x, found, inherits⟩, clean.1⟩
        · exact List.forall_mem_cons.2
            ⟨fresh, fun k mem old => apart k mem (List.mem_cons_of_mem h old)⟩
        · exact fault.mono (by simp)
    · rintro ⟨part, g, after, error, split, clean, apart, fault, rfl⟩
      rcases List.cons_eq_append_iff.1 split with ⟨rfl, same⟩ | ⟨part, rfl, rfl⟩
      · cases same
        cases fault with
        | foreign found' other =>
          cases found.symm.trans found'
          exact .inl ⟨other, rfl⟩
        | repeated found' inherits again =>
          cases found.symm.trans found'
          exact .inr ⟨inherits, .inl ⟨again, rfl⟩⟩
      · obtain ⟨link, links⟩ := List.forall_mem_cons.1 clean.1
        obtain ⟨unmet, once⟩ := List.nodup_cons.1 clean.2
        obtain ⟨fresh, apart⟩ := List.forall_mem_cons.1 apart
        obtain ⟨x', found', inherits⟩ := supertypeOf?_eq_some.1 link
        cases found.symm.trans found'
        refine .inr ⟨inherits, .inr ⟨fresh, part, g, after, error, rfl, ⟨links, once⟩, ?_, ?_, rfl⟩⟩
        · intro k mem old
          rcases List.mem_cons.1 old with rfl | old
          · exact unmet mem
          · exact apart k mem old
        · exact fault.mono (by simp)

theorem checkMissing_eq_error : d.checkMissing owner listed = .error failure ↔
    ∃ x, First (fun y => y.supertype? = some owner.handle ∧ y.handle ∉ listed)
      d.declarations.toList x ∧ failure = .refused (.missingSubtype owner.name x.name) := by
  unfold checkMissing
  rw [forM_eq_error]
  have unlisted (y : Declaration) :
      (y.inheritsFrom owner.handle && !listed.contains y.handle) = true ↔
        y.supertype? = some owner.handle ∧ y.handle ∉ listed := by
    simp [Declaration.inheritsFrom_iff]
  simp only [refuseIf_eq_error, refuseIf_eq_ok, Bool.not_eq_false, unlisted, ne_eq]
  refine exists_congr fun x => and_congr_right fun first => ?_
  obtain ⟨-, -, -, -, here⟩ := first
  exact and_iff_right here

/-- The check of the subtypes of an entity reports the first fault of the list, where it was given. -/
theorem checkSubtypes_eq_error (inside : ∀ h ∈ e.subtypes, h.index < d.size) :
    d.checkSubtypes owner e = .error failure ↔ owner.handle ∈ d.explicit ∧
      ∃ error, d.SubtypesFault owner e.subtypes error ∧ failure = .refused error := by
  unfold checkSubtypes
  rw [List.contains_eq_mem]
  by_cases given : owner.handle ∈ d.explicit
  · rw [if_pos (decide_eq_true given), seq_eq_error, checkListed_eq_error inside,
      checkListed_eq_ok, checkMissing_eq_error]
    simp only [List.append_nil, List.not_mem_nil, not_false_eq_true, implies_true, true_and,
      and_true]
    constructor
    · rintro (⟨part, h, after, error, split, clean, fault, rfl⟩ | ⟨clean, x, first, rfl⟩)
      · exact ⟨given, error, .listing split clean fault, rfl⟩
      · exact ⟨given, _, .missing clean first, rfl⟩
    · rintro ⟨-, error, fault, rfl⟩
      cases fault with
      | listing split clean fault => exact .inl ⟨_, _, _, _, split, clean, fault, rfl⟩
      | missing clean first => exact .inr ⟨clean, _, first, rfl⟩
  · rw [if_neg (by simpa using given)]
    simp [given]

/-! ## Inverse attributes -/

/-- **The check of an inverse attribute tells why it misses.** -/
theorem checkInverse_eq_error (sound : Sound d) (target : i.target.index < d.size)
    (declarer : i.forward.owner.index < d.size) : d.checkInverse owner i = .error failure ↔
      ∃ reason, d.Misses i reason ∧
        failure = .refused (.invalidInverseAttribute owner.name i.name reason) := by
  obtain ⟨x, at_target⟩ := found_of_lt target
  obtain ⟨y, at_owner⟩ := found_of_lt declarer
  unfold checkInverse
  rw [lift_misuse_eq_ok.2 (elementAt_eq_ok.2 at_target),
    lift_misuse_eq_ok.2 (elementAt_eq_ok.2 at_owner)]
  show (refuseIf _ _ >>= fun _ => refuseIf _ _ >>= fun _ => refuseIf _ _) = _ ↔ _
  have entity : x.asEntity?.isNone = true ↔ x.kind ≠ .entity := by
    rw [ne_eq, ← Declaration.asEntity?_isNone, Bool.not_eq_false]
  simp only [seq_eq_error, refuseIf_eq_error, refuseIf_eq_ok, Bool.not_eq_true',
    Bool.not_eq_false', List.contains_eq_mem, decide_eq_true_eq, decide_eq_false_iff_not,
    (ancestry_complete sound _).mem_iff, Declaration.asEntity?_isNone, entity,
    sound.handle_eq at_target]
  constructor
  · rintro (⟨other, rfl⟩ | ⟨kind, ⟨apart, rfl⟩ | ⟨inherited, beyond, rfl⟩⟩)
    · exact ⟨_, .notEntity at_target other, rfl⟩
    · exact ⟨_, .notInherited at_target kind apart, rfl⟩
    · exact ⟨_, .noAttribute at_target kind inherited at_owner beyond, rfl⟩
  · rintro ⟨reason, misses, rfl⟩
    cases misses with
    | notEntity found other =>
      cases at_target.symm.trans found
      exact .inl ⟨other, rfl⟩
    | notInherited found kind apart =>
      cases at_target.symm.trans found
      exact .inr ⟨kind, .inl ⟨apart, rfl⟩⟩
    | noAttribute found kind inherited found' beyond =>
      cases at_target.symm.trans found
      cases at_owner.symm.trans found'
      exact .inr ⟨kind, .inr ⟨inherited, beyond, rfl⟩⟩

/-! ## Entities -/

theorem checkEntity_iff_formed (sound : Sound d) : d.checkEntity x = .ok () ↔ d.Formed x := by
  rw [checkEntity_eq_ok sound]
  constructor
  · intro all
    exact ⟨fun e body => (all e body).1, fun e body => (all e body).2⟩
  · intro formed e body
    exact ⟨formed.listed e body, formed.inverse e body⟩

/-- **The check of an entity reports its first fault.** -/
theorem checkEntity_eq_error (sound : Sound d) (closed : ∀ h, x.Holds h → h.index < d.size) :
    d.checkEntity x = .error failure ↔
      ∃ error, d.EntityFault x error ∧ failure = .refused error := by
  unfold checkEntity Declaration.asEntity?
  cases body : x.body with
  | entity e =>
    have inside : ∀ h ∈ e.subtypes, h.index < d.size := fun h mem => closed h (.subtype body mem)
    have checked (i : InverseAttribute) (own : i ∈ e.inverse) :
        d.checkInverse x i = .error failure ↔ ∃ reason, d.Misses i reason ∧
          failure = .refused (.invalidInverseAttribute x.name i.name reason) :=
      checkInverse_eq_error sound (closed _ (.target body own rfl)) (closed _ (.owner body own rfl))
    show (d.checkSubtypes x e >>= fun _ => e.inverse.forM (d.checkInverse x)) = _ ↔ _
    rw [seq_eq_error, checkSubtypes_eq_error inside, checkSubtypes_eq_ok sound, forM_eq_error]
    simp only [ne_eq, checkInverse_eq_ok sound]
    constructor
    · rintro (⟨given, error, fault, rfl⟩ | ⟨listed, i, first, failed⟩)
      · exact ⟨error, .subtypes body given fault, rfl⟩
      · obtain ⟨reason, misses, rfl⟩ := (checked i first.mem).1 failed
        exact ⟨_, .inverse body listed first misses, rfl⟩
    · rintro ⟨error, fault, rfl⟩
      cases fault with
      | subtypes body' given fault =>
        cases body.symm.trans body'
        exact .inl ⟨given, error, fault, rfl⟩
      | inverse body' listed first misses =>
        cases body.symm.trans body'
        exact .inr ⟨listed, _, first, (checked _ first.mem).2 ⟨_, misses, rfl⟩⟩
  | _ =>
    refine iff_of_false nofun ?_
    rintro ⟨error, fault, -⟩
    cases fault with
    | subtypes body' => exact absurd (body.symm.trans body') nofun
    | inverse body' => exact absurd (body.symm.trans body') nofun

/-! ## Everything -/

/-- **The checks of what declarations refer to report the first fault.** -/
theorem blames_iff (sound : Sound d) :
    (d.declarations.toList.forM d.checkHandles >>= fun _ =>
      d.declarations.toList.forM d.checkEntity) = .error failure ↔
      ∃ error, d.Blames error ∧ failure = .refused error := by
  have dangles (y : Declaration) :
      ¬ d.checkHandles y = .ok () ↔ ∃ g, y.Holds g ∧ d.size ≤ g.index := by
    simp [checkHandles_eq_ok]
  rw [seq_eq_error, forM_eq_error, forM_eq_error, forM_eq_ok]
  simp only [ne_eq, dangles, checkEntity_iff_formed sound, checkHandles_eq_error,
    Array.mem_toList_iff]
  constructor
  · rintro (⟨x, first, h, outside, rfl⟩ | ⟨passed, x, first, failed⟩)
    · exact ⟨_, .handle first outside, rfl⟩
    · have closed (y : Declaration) (mem : y ∈ d.declarations) := checkHandles_eq_ok.1 (passed y mem)
      have mem := Array.mem_toList_iff.1 first.mem
      obtain ⟨error, fault, rfl⟩ := (checkEntity_eq_error sound (closed x mem)).1 failed
      exact ⟨error, .entity closed first fault, rfl⟩
  · rintro ⟨error, blames, rfl⟩
    cases blames with
    | handle first outside => exact .inl ⟨_, first, _, outside, rfl⟩
    | entity closed first fault =>
      have mem := Array.mem_toList_iff.1 first.mem
      refine .inr ⟨fun y mem => checkHandles_eq_ok.2 (closed y mem), _, first, ?_⟩
      exact (checkEntity_eq_error sound (closed _ mem)).2 ⟨error, fault, rfl⟩

/-- The checks report what is wrong with the codes, or else with the names, or else the first fault in
what declarations refer to. -/
theorem check_eq_error (sound : Sound d) : d.check = .error failure ↔
    d.checkCodes = .error failure ∨ d.checkCodes = .ok () ∧
      (d.checkNames = .error failure ∨ d.checkNames = .ok () ∧
        ∃ error, d.Blames error ∧ failure = .refused error) := by
  unfold check
  rw [seq_eq_error, seq_eq_error, blames_iff sound]

/-- **Building fails where a check does**, and by the same error. -/
theorem build_eq_error (sound : Sound d) :
    d.build = .error failure ↔ d.check = .error failure := by
  unfold build
  rw [seq_eq_error, or_iff_left_iff_imp]
  rintro ⟨passed, failed⟩
  rw [assemble_eq_ok sound ((check_eq_ok sound).1 passed).closed] at failed
  cases failed

/-- **Building reports the first fault**, where codes and names are right: there is an error exactly
where there is a fault, and the error tells the first one. As names are different, an error that names
an entity is about one entity. -/
theorem build_blames (registry : Registry) (config : Config) (calls : List Call)
    (codes : (run registry config calls).checkCodes = .ok ())
    (names : (run registry config calls).checkNames = .ok ()) :
    (∀ failure, (run registry config calls).build = .error failure ↔
      ∃ error, (run registry config calls).Blames error ∧ failure = .refused error) ∧
    ∀ x ∈ (run registry config calls).declarations, ∀ y ∈ (run registry config calls).declarations,
      x.name = y.name → x = y := by
  have sound := run_sound registry config calls
  refine ⟨fun failure => ?_, fun x mx y my same => ?_⟩
  · rw [build_eq_error sound, check_eq_error sound, codes, names]
    simp
  · have found := sound.found mx
    have place : x.handle.index = y.handle.index :=
      distinct_iff.1 (checkNames_eq_ok.1 names) found (sound.found my)
        (congrArg Caseless.folded same)
    rw [place, sound.found my] at found
    exact (Option.some.inj found).symm

/-! ## A small draft -/

/-- The codes of the names in `joints`. -/
def jointCodes : Registry := .ofPairs [("joint", ⟨0⟩), ("part", ⟨1⟩), ("bolt", ⟨2⟩)] []

/-- Joints, parts, and bolts, which are parts. They are listed twice among them, and inverted is an
attribute of joints that is not there. -/
def joints : List Call :=
  [.add "joint" (.entity none), .add "part" (.entity none), .add "bolt" (.entity (some ⟨1⟩)),
    .set ⟨1⟩ (.subtypes [⟨2⟩, ⟨2⟩]), .set ⟨2⟩ (.inverse [⟨"heldBy", .set, 0, none, ⟨0⟩, ⟨0⟩, 0⟩])]

/-- Parts come before bolts, so their list of subtypes is blamed. -/
theorem joints_blamed : (run jointCodes (.plain "joints") joints).build =
      .error (.refused (.duplicateSubtype "part" "bolt")) ∧
    (run jointCodes (.plain "joints") joints).Blames (.duplicateSubtype "part" "bolt") := by
  have sound := run_sound jointCodes (.plain "joints") joints
  have names : (run jointCodes (.plain "joints") joints).checkNames = .ok () :=
    checkNames_eq_ok.2 (by decide +kernel)
  have failed : (run jointCodes (.plain "joints") joints).build =
      .error (.refused (.duplicateSubtype "part" "bolt")) := by
    rw [build_eq_error sound, check, seq_eq_error, seq_eq_error]
    exact .inr ⟨rfl, .inr ⟨names, rfl⟩⟩
  obtain ⟨reports, -⟩ := build_blames jointCodes (.plain "joints") joints rfl names
  obtain ⟨error, blames, same⟩ := (reports _).1 failed
  cases same
  exact ⟨failed, blames⟩

end Draft

end Express
