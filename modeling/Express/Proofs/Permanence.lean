import Express.Proofs.Soundness

/-!
# What calls leave as it is

Calls add declarations and replace parts of contents. What a declaration was added with stays as it
is, whatever is called later.

* `Declaration.SameHead` — two declarations agree in handle, code, name, kind and supertype.
* `Draft.LastsInto` — each declaration of one draft stands in another, with the same head and at the
  same position.
* `Draft.Step.lasts`, `Draft.lasts_after` — a step, and so any calls, leave all heads as they are.
* `Draft.run_invariant` — every draft is sound, and lasts into every draft that later calls make.
-/

set_option autoImplicit false

namespace Express

/-- Two declarations agree in all that a declaration is added with, its contents apart. -/
structure Declaration.SameHead (x y : Declaration) : Prop where
  handle : y.handle = x.handle
  code : y.code = x.code
  name : y.name = x.name
  kind : y.kind = x.kind
  supertype : y.supertype? = x.supertype?

namespace Declaration.SameHead

variable {x y z : Declaration}

theorem refl (x : Declaration) : x.SameHead x := ⟨rfl, rfl, rfl, rfl, rfl⟩

theorem trans (first : x.SameHead y) (second : y.SameHead z) : x.SameHead z where
  handle := second.handle.trans first.handle
  code := second.code.trans first.code
  name := second.name.trans first.name
  kind := second.kind.trans first.kind
  supertype := second.supertype.trans first.supertype

theorem apply {change : Change} (kind : x.kind = change.kind) :
    x.SameHead { x with body := change.apply x.body } where
  handle := rfl
  code := rfl
  name := rfl
  kind := Change.kind_apply kind
  supertype := by
    obtain ⟨handle, code, name, body⟩ := x
    cases change <;> cases body <;> cases kind <;> rfl

end Declaration.SameHead

namespace Draft

variable {registry : Registry} {d d' d'' : Draft}

/-- Every declaration of a draft stands in another draft, with the same head. -/
def LastsInto (d d' : Draft) : Prop :=
  ∀ {i : Nat} {x : Declaration}, d.declarations[i]? = some x →
    ∃ y, d'.declarations[i]? = some y ∧ x.SameHead y

theorem LastsInto.refl (d : Draft) : d.LastsInto d :=
  fun {_} {x} found => ⟨x, found, .refl x⟩

theorem LastsInto.trans (first : d.LastsInto d') (second : d'.LastsInto d'') :
    d.LastsInto d'' := by
  intro i x found
  obtain ⟨y, at_i, head⟩ := first found
  obtain ⟨z, found', head'⟩ := second at_i
  exact ⟨z, found', head.trans head'⟩

/-- **A step leaves the heads of all declarations**: one is added, or one has a part of its content
replaced. -/
theorem Step.lasts (made : Step d d') : d.LastsInto d' := by
  intro i x at_i
  cases made with
  | add => exact ⟨x, extended_found.2 (.inr at_i), .refl x⟩
  | @set h owner change found kind fits =>
    by_cases here : i = h.index
    · subst here
      cases found.symm.trans at_i
      exact ⟨_, (revised_found found).2 (.inl ⟨rfl, rfl⟩), .apply kind⟩
    · exact ⟨x, (revised_found found).2 (.inr ⟨here, at_i⟩), .refl x⟩

theorem lasts_after (registry : Registry) (d : Draft) (calls : List Call) :
    d.LastsInto (calls.foldl (after registry) d) :=
  foldl_after_induct (P := fun d' => d.LastsInto d')
    (fun lasts made => LastsInto.trans lasts made.lasts) calls (LastsInto.refl d)

/-- **What holds of every draft there is**: the codes are those of its declarations and all
different, a supertype is an entity that was added before, attributes and flags are of one number,
and an entity has subtypes only if they were listed. No call changes the code, the name, the kind or
the supertype of a declaration that is there, whether it succeeds or fails. -/
theorem run_invariant (registry : Registry) (config : Config) (calls : List Call) :
    Sound (run registry config calls) ∧
      ∀ later, (run registry config calls).LastsInto (run registry config (calls ++ later)) := by
  refine ⟨run_sound registry config calls, fun later => ?_⟩
  rw [run_append]
  exact lasts_after registry _ later

end Draft

end Express
