import Express.Proofs.Assembly

/-!
# What a draft is refused for

A handle can be anything. Before a list is asked for the element at a handle, the handle has been
found to be inside, by another check: the kind of a declaration before its content is replaced, all
handles of all declarations before lists of subtypes and inverse attributes are followed.

* `SchemaError.entity?` — the entity that an error is about, where it is about the subtypes or the
  inverse attributes of one.
* `Draft.Fault` — the errors that each of the checks can report; `Draft.check_onlyRefuses` says that
  the checks report nothing else, and break no precondition.
* `Draft.perform_onlyRefuses` — calls break no precondition, with whatever handles they are made.
* `Draft.run_never_misused` — so each call of a run ends in a draft or an error, and so does building
  what the run has drafted.
-/

set_option autoImplicit false

namespace Express

/-- The entity whose subtypes or inverse attributes an error is about. -/
def SchemaError.entity? : SchemaError → Option String
  | .invalidInverseAttribute entity _ _ => some entity
  | .inconsistentSubtype entity _ => some entity
  | .duplicateSubtype entity _ => some entity
  | .missingSubtype entity _ => some entity
  | _ => none

namespace Draft

variable {registry : Registry} {d : Draft} {h : Handle} {owner x : Declaration}
  {before handles : List Handle} {i : InverseAttribute}

/-- What a draft can be refused for when it is built. -/
inductive Fault (d : Draft) : SchemaError → Prop
  | codes (expected found : TypeCode) (builtIn : d.config.builtIn = true) :
    Fault d (.sparseBuiltInCodes expected found)
  | names (name : String)
    (repeated : ¬ d.names.Pairwise fun a b => Caseless.folded a ≠ Caseless.folded b) :
    Fault d (.duplicateName name)
  | handle {h : Handle} (outside : d.size ≤ h.index) : Fault d (.unknownDeclaration h)
  | entity {error : SchemaError} {x : Declaration} (mem : x ∈ d.declarations)
    (kind : x.kind = .entity) (about : error.entity? = some x.name) : Fault d error

/-! ## The checks -/

theorem checkCodes_onlyRefuses : OnlyRefuses d.Fault d.checkCodes := by
  unfold checkCodes
  split
  · rename_i builtIn
    split
    · exact .refused (.codes _ _ builtIn)
    · exact .ok ()
  · exact .ok ()

theorem checkNames_onlyRefuses : OnlyRefuses d.Fault d.checkNames := by
  intro failure failed
  have repeated : ¬ d.names.Pairwise fun a b => Caseless.folded a ≠ Caseless.folded b := by
    rw [← checkNames_eq_ok, failed]
    exact nofun
  unfold checkNames at failed
  split at failed
  · rename_i name _
    cases failed
    exact ⟨_, rfl, .names name repeated⟩
  · cases failed

theorem checkHandles_onlyRefuses : OnlyRefuses d.Fault (d.checkHandles x) := by
  unfold checkHandles
  split
  · rename_i h dangles
    exact .refused (.handle (by simpa using List.find?_some dangles))
  · exact .ok ()

theorem checkListed_onlyRefuses : ∀ {before handles : List Handle},
    (∀ h ∈ handles, h.index < d.size) →
      OnlyRefuses (·.entity? = some owner.name) (d.checkListed owner before handles)
  | _, [], _ => .ok ()
  | before, h :: rest, inside => by
    obtain ⟨first, others⟩ := List.forall_mem_cons.1 inside
    unfold checkListed
    refine .bind (.elementAt first) fun candidate _ => ?_
    refine .bind (.refuseIf _ rfl) fun _ _ => ?_
    refine .bind (.refuseIf _ rfl) fun _ _ => ?_
    exact checkListed_onlyRefuses others

theorem checkMissing_onlyRefuses {listed : List Handle} :
    OnlyRefuses (·.entity? = some owner.name) (d.checkMissing owner listed) :=
  .forM fun _ _ => .refuseIf _ rfl

theorem checkInverse_onlyRefuses (target : i.target.index < d.size)
    (declarer : i.forward.owner.index < d.size) :
    OnlyRefuses (·.entity? = some owner.name) (d.checkInverse owner i) := by
  unfold checkInverse
  refine .bind (.elementAt target) fun _ _ => ?_
  refine .bind (.refuseIf _ rfl) fun _ _ => ?_
  refine .bind (.refuseIf _ rfl) fun _ _ => ?_
  refine .bind (.elementAt declarer) fun _ _ => ?_
  exact .refuseIf _ rfl

/-- **Every error about an entity names it**, where the handles of the entity are inside. -/
theorem checkEntity_onlyRefuses (closed : ∀ h, x.Holds h → h.index < d.size) :
    OnlyRefuses (fun error => x.kind = .entity ∧ error.entity? = some x.name)
      (d.checkEntity x) := by
  unfold checkEntity Declaration.asEntity?
  cases body : x.body with
  | entity e =>
    have subtypes : OnlyRefuses (·.entity? = some x.name) (d.checkSubtypes x e) := by
      unfold checkSubtypes
      split
      · have inside : ∀ h ∈ e.subtypes, h.index < d.size := fun h mem => closed h (.subtype body mem)
        exact .bind (checkListed_onlyRefuses inside) fun _ _ => checkMissing_onlyRefuses
      · exact .ok ()
    have inverse : OnlyRefuses (·.entity? = some x.name) (e.inverse.forM (d.checkInverse x)) :=
      .forM fun i own => checkInverse_onlyRefuses (closed _ (.target body own rfl))
        (closed _ (.owner body own rfl))
    exact (OnlyRefuses.bind subtypes fun _ _ => inverse).imp fun _ about =>
      ⟨Declaration.kind_eq_entity.2 ⟨e, body⟩, about⟩
  | _ => exact .ok ()

/-- **The checks report faults of the draft**, and break no precondition. -/
theorem check_onlyRefuses (d : Draft) : OnlyRefuses d.Fault d.check := by
  unfold check
  refine .bind checkCodes_onlyRefuses fun _ _ => ?_
  refine .bind checkNames_onlyRefuses fun _ _ => ?_
  refine .bind (.forM fun _ _ => checkHandles_onlyRefuses) fun _ checked => ?_
  refine .forM fun x mem => ?_
  have closed := checkHandles_eq_ok.1 (forM_eq_ok.1 checked x mem)
  exact (checkEntity_onlyRefuses closed).imp fun _ ⟨kind, about⟩ =>
    .entity (Array.mem_toList_iff.1 mem) kind about

/-- **Building reports faults of the draft**, and breaks no precondition: a draft that passes the
checks is closed under its handles, and so is assembled. -/
theorem build_onlyRefuses (sound : Sound d) : OnlyRefuses d.Fault d.build := by
  refine .bind (check_onlyRefuses d) fun _ passed => ?_
  rw [assemble_eq_ok sound ((check_eq_ok sound).1 passed).closed]
  exact .ok _

/-! ## Calls -/

/-- **A call breaks no precondition**, whatever its handle: the content of a declaration is replaced
after the declaration has been found. -/
theorem perform_onlyRefuses (registry : Registry) (d : Draft) (call : Call) :
    OnlyRefuses (fun _ => True) (d.perform registry call) := by
  cases call with
  | add name content => exact .bind (.lift fun _ _ => trivial) fun _ _ => .ok _
  | set h change =>
    have changed : OnlyRefuses (fun _ => True) (d.set h change) := by
      unfold set
      refine .bind (.lift fun _ _ => trivial) fun owner expected => ?_
      obtain ⟨found, -⟩ := expect_eq_ok.1 (lift_refusal_eq_ok.1 expected)
      refine .bind ?_ fun _ _ => .bind ?_ fun _ _ => .ok _
      · cases change with
        | attributes own flags => exact .refuseIf _ trivial
        | _ => exact .ok ()
      · unfold changeBody
        rw [elementAt_eq_ok.2 found]
        exact .ok _
    exact .bind changed fun _ _ => .ok _

/-- **No call and no building ever asks a list for what it does not have**: whatever the registry,
the calls before and the handles in them, each ends in a result or in an error. -/
theorem run_never_misused (registry : Registry) (config : Config) (calls : List Call) :
    (∀ call, (∃ result, (run registry config calls).perform registry call = .ok result) ∨
      ∃ error, (run registry config calls).perform registry call = .error (.refused error)) ∧
    ((∃ s, (run registry config calls).build = .ok s) ∨
      ∃ error, (run registry config calls).build = .error (.refused error)) :=
  ⟨fun call => (perform_onlyRefuses registry _ call).ok_or_refused,
    (build_onlyRefuses (run_sound registry config calls)).ok_or_refused⟩

end Draft

end Express
