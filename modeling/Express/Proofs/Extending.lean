import Express.Proofs.Ranking
import Express.Proofs.WellFormed

/-!
# Drafts that grow

Calls that add declarations, and calls that set the contents of what was added by then, leave alone
what was there before.

* `Call.Spares` — a call adds a declaration, or sets one from a position on.
* `Draft.GrowsInto` — a draft has all declarations of another one, as they are there, and lists of
  subtypes were given for the same ones of them.
* `Draft.GrowsInto.after` — a call that spares a draft keeps this up; `Draft.run_growsInto` — and so
  do any number of them.
* `Draft.GrowsInto.ancestry_eq` — the climb from a declaration stays as it was.
-/

set_option autoImplicit false

namespace Express

/-- A call adds a declaration, or sets one that has a size or more before it. -/
def Call.Spares (size : Nat) : Call → Prop
  | .add _ _ => True
  | .set h _ => size ≤ h.index

instance (size : Nat) : DecidablePred (Call.Spares size)
  | .add _ _ => inferInstanceAs (Decidable True)
  | .set h _ => inferInstanceAs (Decidable (size ≤ h.index))

namespace Draft

/-- All of a draft stands in another one as it is. -/
structure GrowsInto (d d' : Draft) : Prop where
  kept : ∀ {i : Nat} {x : Declaration}, d.declarations[i]? = some x → d'.declarations[i]? = some x
  explicit : ∀ {h : Handle}, h.index < d.size → (h ∈ d'.explicit ↔ h ∈ d.explicit)

variable {registry : Registry} {d d₁ d' : Draft} {g h : Handle} {x y : Declaration}

namespace GrowsInto

theorem refl (d : Draft) : d.GrowsInto d := ⟨id, fun _ => Iff.rfl⟩

/-! ## Calls -/

theorem extended (grows : d.GrowsInto d₁) {code : TypeCode} {name : String} {content : Content} :
    d.GrowsInto (d₁.extended code name content) where
  kept found := extended_found.2 (.inr (grows.kept found))
  explicit := grows.explicit

theorem revised (grows : d.GrowsInto d₁) {change : Change}
    (found : d₁.declarations[h.index]? = some x) (later : d.size ≤ h.index) :
    d.GrowsInto (d₁.revised h x change) where
  kept {i y} before := by
    have inside := lt_size before
    refine (revised_found found).2 (.inr ⟨?_, grows.kept before⟩)
    omega
  explicit {k} inside := by
    have elsewhere : k ≠ h := by
      rintro rfl
      omega
    rw [mem_explicit_revised, grows.explicit inside]
    simp [elsewhere]

/-- **A call that spares a draft lets it grow**, also where the call fails. -/
theorem after {call : Call} (grows : d.GrowsInto d₁) (spares : call.Spares d.size) :
    d.GrowsInto (d₁.after registry call) := by
  unfold Draft.after
  split
  · rename_i answer d₂ performed
    cases call with
    | add name content =>
      obtain ⟨k, added, -⟩ := perform_add_eq_ok.1 performed
      obtain ⟨-, code, -, -, same⟩ := add_eq_ok.1 added
      cases same
      exact grows.extended
    | set k change =>
      obtain ⟨owner, found, -, -, rfl⟩ := set_eq_ok.1 (perform_set_eq_ok.1 performed).1
      exact grows.revised found spares
  · exact grows

theorem foldl_after {later : List Call} (spares : ∀ call ∈ later, call.Spares d.size)
    (grows : d.GrowsInto d₁) : d.GrowsInto (later.foldl (Draft.after registry) d₁) := by
  induction later generalizing d₁ with
  | nil => exact grows
  | cons call later ih =>
    obtain ⟨first, others⟩ := List.forall_mem_cons.1 spares
    exact ih others (grows.after first)

/-! ## What was there before -/

theorem eq_of_code (grows : d.GrowsInto d') (sound' : Sound d')
    (found : d.declarations[h.index]? = some x) (at_g : d'.declarations[g.index]? = some y)
    (same : y.code = x.code) : g = h ∧ y = x := by
  have found' := grows.kept found
  cases Draft.eq_of_code sound' at_g found' same
  cases at_g.symm.trans found'
  exact ⟨rfl, rfl⟩

theorem supertypeOf?_eq (grows : d.GrowsInto d') (found : d.declarations[h.index]? = some x) :
    d'.supertypeOf? h = d.supertypeOf? h := by
  rw [supertypeOf?, supertypeOf?, found, grows.kept found]

/-- **The climb from a declaration stays as it was.** -/
theorem ancestry_eq (grows : d.GrowsInto d') (sound : Sound d) (sound' : Sound d')
    (found : d.declarations[h.index]? = some x) : d'.ancestry h = d.ancestry h := by
  refine (ancestry_complete sound' h).unique ((ancestry_complete sound h).congr fun g climb => ?_)
  obtain ⟨y, at_g⟩ := ancestry_found sound found g climb
  exact grows.supertypeOf?_eq at_g

end GrowsInto

/-- **A run grows into every run that goes on from it** and spares what it has made. -/
theorem run_growsInto (registry : Registry) (config : Config) (calls later : List Call)
    (spares : ∀ call ∈ later, call.Spares (run registry config calls).size) :
    (run registry config calls).GrowsInto (run registry config (calls ++ later)) := by
  rw [run_append]
  exact (GrowsInto.refl _).foldl_after spares

end Draft

end Express
