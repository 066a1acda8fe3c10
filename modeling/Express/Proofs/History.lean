import Express.Proofs.Permanence

/-!
# The calls that succeed

A call that fails changes nothing, so a draft is made by those of its calls that succeed.

* `Draft.history` — the calls of a run that succeed, each with its answer.
* `Draft.Leads` — calls with answers lead from one draft to another: each succeeds on the draft that
  those before it have made, and with this answer.
* `Draft.leads_history` — the history of calls leads to the draft that the calls make;
  `Draft.Leads.history_eq` — where calls lead anywhere, every one of them is in their history.
* `Draft.additions`, `Draft.settings` — the calls of a history that add a declaration, and those that
  set a part of one.
* `Draft.Leads.mem_explicit_iff` — subtypes have been listed where a call of the history lists them.
-/

set_option autoImplicit false

namespace Express

namespace Draft

/-- A call that succeeded, with the handle of the declaration that it added, if it added one. -/
structure Entry where
  call : Call
  answer : Option Handle
  deriving DecidableEq

/-- A part of the content of a declaration, with what it was set to. -/
structure Setting where
  handle : Handle
  change : Change
  deriving DecidableEq

/-- The calls that succeed when some calls are made on a draft in turn. -/
def history (registry : Registry) (d : Draft) : List Call → List Entry
  | [] => []
  | call :: calls =>
    match d.perform registry call with
    | .ok (answer, changed) => ⟨call, answer⟩ :: changed.history registry calls
    | .error _ => d.history registry calls

/-- The calls succeed in turn, each with its answer, and make one draft of another. -/
inductive Leads (registry : Registry) : Draft → List Entry → Draft → Prop
  | nil (d : Draft) : Leads registry d [] d
  | cons {d d₁ d₂ : Draft} {entry : Entry} {entries : List Entry}
    (performed : d.perform registry entry.call = .ok (entry.answer, d₁))
    (rest : Leads registry d₁ entries d₂) : Leads registry d (entry :: entries) d₂

/-- The call that makes a setting; it adds nothing. -/
def Setting.entry (s : Setting) : Entry := ⟨.set s.handle s.change, none⟩

/-- What a call of a history has set. -/
def Entry.setting? (entry : Entry) : Option Setting :=
  match entry.call with
  | .add _ _ => none
  | .set handle change => some ⟨handle, change⟩

/-- The calls of a history that add a declaration, with the handles they gave. -/
def additions (entries : List Entry) : List Entry := entries.filter (·.setting?.isNone)

/-- What the other calls of a history have set. -/
def settings (entries : List Entry) : List Setting := entries.filterMap (·.setting?)

variable {registry : Registry} {config : Config} {d d' d'' : Draft} {h : Handle} {change : Change}
  {entries later : List Entry}

/-! ## Runs and their histories -/

/-- **A history leads to the draft that the calls make**, those that fail included. -/
theorem leads_history (registry : Registry) (calls : List Call) (d : Draft) :
    Leads registry d (d.history registry calls) (calls.foldl (after registry) d) := by
  induction calls generalizing d with
  | nil => exact .nil d
  | cons call calls ih =>
    rw [history, List.foldl_cons, after]
    cases performed : d.perform registry call with
    | ok result => exact .cons performed (ih result.2)
    | error _ => exact ih d

theorem leads_run (registry : Registry) (config : Config) (calls : List Call) :
    Leads registry (empty config) ((empty config).history registry calls)
      (run registry config calls) :=
  leads_history registry calls (empty config)

namespace Leads

theorem after_eq (leads : Leads registry d entries d') :
    (entries.map (·.call)).foldl (after registry) d = d' := by
  induction leads with
  | nil => rfl
  | cons performed _ ih =>
    rw [List.map_cons, List.foldl_cons, after, performed]
    exact ih

theorem lasts (leads : Leads registry d entries d') : d.LastsInto d' := by
  rw [← leads.after_eq]
  exact lasts_after registry d _

/-- **Calls that lead anywhere all succeed**, with their answers. -/
theorem history_eq (leads : Leads registry d entries d') :
    d.history registry (entries.map (·.call)) = entries := by
  induction leads with
  | nil => rfl
  | cons performed _ ih =>
    rw [List.map_cons, history, performed]
    exact congrArg _ ih

theorem append (leads : Leads registry d entries d') (on : Leads registry d' later d'') :
    Leads registry d (entries ++ later) d'' := by
  induction leads with
  | nil => exact on
  | cons performed _ ih => exact .cons performed (ih on)

theorem eq_run (leads : Leads registry (empty config) entries d) :
    d = run registry config (entries.map (·.call)) :=
  leads.after_eq.symm

/-! ## Listed subtypes -/

/-- **The entities whose subtypes have been listed** are those for which a call lists them. -/
theorem mem_explicit_iff (leads : Leads registry d entries d') :
    h ∈ d'.explicit ↔ h ∈ d.explicit ∨ ∃ l, ⟨h, .subtypes l⟩ ∈ settings entries := by
  induction leads with
  | nil => simp [settings]
  | @cons d d₁ d₂ entry entries performed rest ih =>
    obtain ⟨call, answer⟩ := entry
    rw [ih]
    cases call with
    | add name content =>
      obtain ⟨g, added, -⟩ := perform_add_eq_ok.1 performed
      obtain ⟨-, code, -, -, same⟩ := add_eq_ok.1 added
      cases same
      simp [settings, Entry.setting?, extended]
    | set g change =>
      obtain ⟨owner, -, -, -, rfl⟩ := set_eq_ok.1 (perform_set_eq_ok.1 performed).1
      rw [mem_explicit_revised]
      cases change <;> simp [settings, Entry.setting?, Change.listsSubtypes, or_assoc, exists_or]

end Leads

end Draft

end Express
