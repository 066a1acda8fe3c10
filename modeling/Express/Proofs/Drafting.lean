import Express.Draft.Basic
import Express.Proofs.Outcome

/-!
# What calls do to a draft

A call that fails leaves the draft as it is. A call that succeeds makes one of two steps, and what
holds of every draft is proved along these steps only.

* `Draft.add_eq_ok`, `Draft.set_eq_ok` — when a call succeeds, and the draft it gives.
* `Draft.Step` — the two steps; `Draft.step_of_perform` finds the step of a call that succeeds.
* `Draft.run_induct` — the induction over a run of calls.
-/

set_option autoImplicit false

namespace Express

namespace Draft

variable {registry : Registry} {config : Config} {d d' : Draft}

/-! ## Successful calls -/

/-- The draft with a declaration added. -/
def extended (d : Draft) (code : TypeCode) (name : String) (content : Content) : Draft :=
  { d with
    declarations := d.declarations.push ⟨Handle.ofIndex d.size, code, name, content.body⟩
    codes := (code, Handle.ofIndex d.size) :: d.codes }

/-- The draft with a part of one declaration replaced. -/
def revised (d : Draft) (h : Handle) (owner : Declaration) (change : Change) : Draft :=
  { d with
    declarations :=
      d.declarations.setIfInBounds h.index { owner with body := change.apply owner.body }
    explicit := if change.listsSubtypes then d.explicit.insert h else d.explicit }

theorem expect_eq_ok {h : Handle} {kind : Kind} {x : Declaration} :
    d.expect h kind = .ok x ↔ d.declarations[h.index]? = some x ∧ x.kind = kind := by
  unfold expect
  split
  · rename_i absent
    simp [absent]
  · rename_i y found
    rw [found]
    by_cases same : y.kind = kind
    · rw [if_pos same, Except.ok.injEq, Option.some.injEq]
      exact ⟨fun e => ⟨e, e ▸ same⟩, And.left⟩
    · rw [if_neg same, Option.some.injEq]
      refine iff_of_false (fun e => ?_) fun ⟨e, k⟩ => same (e ▸ k)
      cases e

theorem checkSupertype_eq_ok {content : Content} :
    d.checkSupertype content = .ok () ↔ ∀ s, content = .entity (some s) →
      ∃ p, d.declarations[s.index]? = some p ∧ p.kind = .entity := by
  unfold checkSupertype
  split
  · rename_i s
    rw [map_eq_ok]
    simp only [expect_eq_ok, and_true, Content.entity.injEq, Option.some.injEq]
    exact ⟨fun found _ same => same ▸ found, fun all => all s rfl⟩
  · rename_i other
    exact ⟨fun _ s same => absurd same (other s), fun _ => rfl⟩

/-- **Adding succeeds** when the supertype is an entity of the draft, the registry knows the name
and no declaration has its code; then the declaration is added and nothing else changes. -/
theorem add_eq_ok {name : String} {content : Content} {r : Handle × Draft} :
    d.add registry name content = .ok r ↔ d.checkSupertype content = .ok () ∧
      ∃ code, registry.codeOf name = .ok code ∧ code ∉ d.codes.map (·.1) ∧
        r = (Handle.ofIndex d.size,
          d.extended code ((registry.nameOf? code).getD name) content) := by
  have unused (code : TypeCode) :
      (d.codes.lookup code).isSome = false ↔ code ∉ d.codes.map (·.1) := by
    rw [Option.isSome_eq_false_iff, Option.isNone_iff_eq_none, List.lookup_eq_none_iff]
    simp only [List.mem_map, not_exists, not_and, bne_iff_ne, ne_eq]
    exact ⟨fun all p mem same => all p mem same.symm, fun all p mem same => all p mem same.symm⟩
  unfold add
  rw [seq_eq_ok, bind_eq_ok]
  refine and_congr_right fun _ => exists_congr fun code => and_congr_right fun _ => ?_
  cases used : (d.codes.lookup code).isSome with
  | true =>
    have taken : ¬ code ∉ d.codes.map (·.1) := by rw [← unused, used]; exact Bool.noConfusion
    refine iff_of_false (fun e => ?_) fun e => taken e.1
    cases e
  | false =>
    have fresh := (unused code).1 used
    simp only [Bool.false_eq_true, if_false, Except.ok.injEq]
    exact ⟨fun e => ⟨fresh, e.symm⟩, fun ⟨_, e⟩ => e.symm⟩

/-- **Setting succeeds** when the handle is that of a declaration of the right kind and attributes
and flags are of one number; then that part is replaced and nothing else changes. -/
theorem set_eq_ok {h : Handle} {change : Change} :
    d.set h change = .ok d' ↔ ∃ owner, d.declarations[h.index]? = some owner ∧
      owner.kind = change.kind ∧ change.check owner.name = .ok () ∧
      d' = d.revised h owner change := by
  unfold set changeBody
  simp only [bind_eq_ok, lift_refusal_eq_ok, lift_misuse_eq_ok, expect_eq_ok,
    elementAt_eq_ok, pure_eq_ok]
  refine exists_congr fun owner => ?_
  constructor
  · rintro ⟨⟨found, kind⟩, ⟨⟩, fits, _, ⟨x, same, rfl⟩, rfl⟩
    cases found.symm.trans same
    refine ⟨found, kind, fits, ?_⟩
    unfold revised
    split <;> rfl
  · rintro ⟨found, kind, fits, rfl⟩
    refine ⟨⟨found, kind⟩, (), fits, _, ⟨owner, found, rfl⟩, ?_⟩
    unfold revised
    split <;> rfl

theorem perform_add_eq_ok {name : String} {content : Content} {answer : Option Handle} :
    d.perform registry (.add name content) = .ok (answer, d') ↔
      ∃ h, d.add registry name content = .ok (h, d') ∧ answer = some h := by
  simp only [perform, bind_eq_ok, lift_refusal_eq_ok, pure_eq_ok, Prod.mk.injEq]
  constructor
  · rintro ⟨⟨h, e⟩, added, rfl, rfl⟩
    exact ⟨h, added, rfl⟩
  · rintro ⟨h, added, rfl⟩
    exact ⟨(h, d'), added, rfl, rfl⟩

theorem perform_set_eq_ok {h : Handle} {change : Change} {answer : Option Handle} :
    d.perform registry (.set h change) = .ok (answer, d') ↔
      d.set h change = .ok d' ∧ answer = none := by
  simp only [perform, bind_eq_ok, pure_eq_ok, Prod.mk.injEq]
  constructor
  · rintro ⟨e, changed, rfl, rfl⟩
    exact ⟨changed, rfl⟩
  · rintro ⟨changed, rfl⟩
    exact ⟨d', changed, rfl, rfl⟩

/-! ## Steps and runs -/

/-- What a successful call does, without the registry. -/
inductive Step (d : Draft) : Draft → Prop
  | add {code : TypeCode} {name : String} {content : Content} (fresh : code ∉ d.codes.map (·.1))
    (grounded : d.checkSupertype content = .ok ()) : Step d (d.extended code name content)
  | set {h : Handle} {owner : Declaration} {change : Change}
    (found : d.declarations[h.index]? = some owner) (kind : owner.kind = change.kind)
    (fits : change.check owner.name = .ok ()) : Step d (d.revised h owner change)

theorem step_of_perform {call : Call} {answer : Option Handle}
    (performed : d.perform registry call = .ok (answer, d')) : Step d d' := by
  cases call with
  | add name content =>
    obtain ⟨h, added, -⟩ := perform_add_eq_ok.1 performed
    obtain ⟨grounded, code, -, fresh, same⟩ := add_eq_ok.1 added
    cases same
    exact .add fresh grounded
  | set h change =>
    obtain ⟨owner, found, kind, fits, rfl⟩ := set_eq_ok.1 (perform_set_eq_ok.1 performed).1
    exact .set found kind fits

theorem after_eq_or_step (registry : Registry) (d : Draft) (call : Call) :
    d.after registry call = d ∨ Step d (d.after registry call) := by
  unfold after
  split
  · rename_i performed
    exact .inr (step_of_perform performed)
  · exact .inl rfl

theorem foldl_after_induct {P : Draft → Prop}
    (step : ∀ {d d' : Draft}, P d → Step d d' → P d') (calls : List Call) :
    ∀ {d : Draft}, P d → P (calls.foldl (after registry) d) := by
  induction calls with
  | nil => intro d h; exact h
  | cons call calls ih =>
    intro d h
    refine ih ?_
    rcases after_eq_or_step registry d call with same | made
    · rw [same]; exact h
    · exact step h made

/-- **Induction over a run**: what holds of an empty draft and is kept by each step holds of every
draft there is. -/
theorem run_induct {P : Draft → Prop} (initial : P (empty config))
    (step : ∀ {d d' : Draft}, P d → Step d d' → P d') (calls : List Call) :
    P (run registry config calls) :=
  foldl_after_induct step calls initial

theorem run_append (calls later : List Call) :
    run registry config (calls ++ later) =
      later.foldl (after registry) (run registry config calls) :=
  List.foldl_append

@[simp] theorem run_config (calls : List Call) : (run registry config calls).config = config := by
  refine run_induct (P := fun d => d.config = config) rfl (fun {d d'} kept made => ?_) calls
  cases made <;> exact kept

end Draft

end Express
