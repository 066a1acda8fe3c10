import Express.Proofs.History

/-!
# Drafts as additions with settings on top

Setting a part of a declaration and adding another declaration do not interfere. A draft is what its
additions make alone, with its settings made afterwards.

* `Declaration.revise` — a declaration with a part replaced, where it is of the kind that has such a
  part; `settle` does so to the declaration at a position.
* `Draft.Settled` — a draft has the declarations of another one, with some settings made.
* `Draft.perform_setting` — a setting is accepted where it fits, which its heads decide.
* `Draft.Settled.add`, `Draft.Settled.set` — a step of the draft that keeps it so.
* `Draft.Leads.settled` — the additions of a history succeed alone, and give the same handles; its
  settings turn what they make into what the history makes.
* `Draft.Settled.leads` — settings that fit succeed one after the other.
-/

set_option autoImplicit false

namespace Express

/-- The declaration with a part replaced, if it is of the kind that has such a part. -/
def Declaration.revise (x : Declaration) (change : Change) : Declaration :=
  if x.kind = change.kind then { x with body := change.apply x.body } else x

namespace Declaration

variable {x : Declaration} {change : Change}

theorem revise_eq (kind : x.kind = change.kind) :
    x.revise change = { x with body := change.apply x.body } := if_pos kind

theorem revise_of_ne (other : x.kind ≠ change.kind) : x.revise change = x := if_neg other

theorem sameHead_revise (x : Declaration) (change : Change) : x.SameHead (x.revise change) := by
  by_cases kind : x.kind = change.kind
  · rw [revise_eq kind]
    exact .apply kind
  · rw [revise_of_ne kind]
    exact .refl x

end Declaration

namespace Draft

/-- The declarations with a setting made. -/
def settle (declarations : Array Declaration) (s : Setting) : Array Declaration :=
  declarations.modify s.handle.index (·.revise s.change)

/-- The setting meets a declaration of its kind, and would be accepted. -/
def Fits (declarations : Array Declaration) (s : Setting) : Prop :=
  ∃ owner, declarations[s.handle.index]? = some owner ∧ owner.kind = s.change.kind ∧
    s.change.check owner.name = .ok ()

variable {registry : Registry} {base d d' : Draft} {s : Setting} {l : List Setting}
  {declarations : Array Declaration} {i : Nat} {x : Declaration}
  {entries : List Entry} {answer : Option Handle}

/-! ## Settings -/

theorem settle_found : (settle declarations s)[i]? =
    declarations[i]?.map fun x => if s.handle.index = i then x.revise s.change else x := by
  unfold settle
  rw [Array.getElem?_modify]
  split <;> simp

/-- **Settings leave heads as they are**: what is decided by the head of a declaration is decided
the same before and after. -/
theorem settled_exists_iff {P : Declaration → Prop}
    (same : ∀ {x y : Declaration}, x.SameHead y → (P y ↔ P x)) :
    ∀ {l : List Setting} {declarations : Array Declaration},
      (∃ y, (l.foldl settle declarations)[i]? = some y ∧ P y) ↔
        ∃ x, declarations[i]? = some x ∧ P x
  | [], _ => Iff.rfl
  | s :: l, declarations => by
    rw [List.foldl_cons, settled_exists_iff same, settle_found]
    simp only [Option.map_eq_some_iff, exists_exists_and_eq_and]
    refine exists_congr fun x => and_congr_right fun _ => ?_
    split
    · exact same (x.sameHead_revise s.change)
    · exact Iff.rfl

theorem fits_settled_iff : Fits (l.foldl settle declarations) s ↔ Fits declarations s := by
  refine settled_exists_iff fun head => ?_
  rw [head.kind, head.name]

theorem settled_size (l : List Setting) (declarations : Array Declaration) :
    (l.foldl settle declarations).size = declarations.size := by
  induction l generalizing declarations with
  | nil => rfl
  | cons s l ih => rw [List.foldl_cons, ih, settle, Array.size_modify]

theorem Fits.lt_size (fits : Fits declarations s) : s.handle.index < declarations.size := by
  obtain ⟨owner, found, -⟩ := fits
  exact (Array.getElem?_eq_some_iff.1 found).1

theorem Fits.push (fits : Fits declarations s) : Fits (declarations.push x) s := by
  have inside := fits.lt_size
  obtain ⟨owner, found, rest⟩ := fits
  refine ⟨owner, ?_, rest⟩
  rw [Array.getElem?_push, if_neg (by omega), found]

/-- A setting that fits can be made before or after a declaration is added. -/
theorem settle_push (fits : Fits declarations s) :
    settle (declarations.push x) s = (settle declarations s).push x := by
  have inside := fits.lt_size
  refine Array.ext_getElem? fun i => ?_
  rw [settle_found, Array.getElem?_push, Array.getElem?_push, settle_found, settle,
    Array.size_modify]
  by_cases last : i = declarations.size
  · have elsewhere : s.handle.index ≠ i := by omega
    simp [last]
    omega
  · rw [if_neg last, if_neg last]

theorem settled_push : ∀ {l : List Setting} {declarations : Array Declaration},
    (∀ s ∈ l, Fits declarations s) →
      l.foldl settle (declarations.push x) = (l.foldl settle declarations).push x
  | [], _, _ => rfl
  | s :: l, declarations, fits => by
    obtain ⟨first, rest⟩ := List.forall_mem_cons.1 fits
    rw [List.foldl_cons, List.foldl_cons, settle_push first]
    exact settled_push fun t mem => (fits_settled_iff (l := [s])).2 (rest t mem)

/-- The draft with a setting made. -/
def withSetting (d : Draft) (s : Setting) : Draft :=
  { d with
    declarations := settle d.declarations s
    explicit := if s.change.listsSubtypes then d.explicit.insert s.handle else d.explicit }

/-- **A setting is accepted where it fits.** -/
theorem perform_setting : d.perform registry s.entry.call = .ok (answer, d') ↔
    answer = none ∧ Fits d.declarations s ∧ d' = d.withSetting s := by
  have revised_eq {owner : Declaration} (found : d.declarations[s.handle.index]? = some owner)
      (kind : owner.kind = s.change.kind) :
      d.revised s.handle owner s.change = d.withSetting s := by
    have declarations : (d.revised s.handle owner s.change).declarations =
        settle d.declarations s := by
      refine Array.ext_getElem? fun i => Option.ext fun x => ?_
      rw [revised_found found, settle_found]
      by_cases here : s.handle.index = i
      · subst here
        simp [found, Declaration.revise, kind, eq_comm]
      · simp [here, Ne.symm here]
    unfold withSetting
    rw [← declarations]
    rfl
  refine perform_set_eq_ok.trans ?_
  rw [set_eq_ok]
  constructor
  · rintro ⟨⟨owner, found, kind, fits, rfl⟩, rfl⟩
    exact ⟨rfl, ⟨owner, found, kind, fits⟩, revised_eq found kind⟩
  · rintro ⟨rfl, ⟨owner, found, kind, fits⟩, rfl⟩
    exact ⟨⟨owner, found, kind, fits, (revised_eq found kind).symm⟩, rfl⟩

/-! ## Drafts with settings made -/

/-- A draft is another one with some settings made. -/
structure Settled (base : Draft) (settings : List Setting) (d : Draft) : Prop where
  codes : d.codes = base.codes
  declarations : d.declarations = settings.foldl settle base.declarations
  fits : ∀ s ∈ settings, Fits base.declarations s

theorem Settled.refl (d : Draft) : Settled d [] d := ⟨rfl, rfl, nofun⟩

/-- A declaration that can be added after some settings can be added before, with the same handle. -/
theorem Settled.add (settled : Settled base l d) {name : String} {content : Content}
    (performed : d.perform registry (.add name content) = .ok (answer, d')) :
    ∃ base', base.perform registry (.add name content) = .ok (answer, base') ∧
      Settled base' l d' := by
  obtain ⟨h, added, rfl⟩ := perform_add_eq_ok.1 performed
  obtain ⟨grounded, code, known, fresh, same⟩ := add_eq_ok.1 added
  cases same
  have size : d.size = base.size := by
    unfold size
    rw [settled.declarations, settled_size]
  -- Settings leave heads, and whether the supertype is an entity is decided by its head.
  have grounded' : base.checkSupertype content = .ok () := by
    refine checkSupertype_eq_ok.2 fun s is => ?_
    have entity := checkSupertype_eq_ok.1 grounded s is
    rw [settled.declarations] at entity
    exact (settled_exists_iff fun head => by rw [head.kind]).1 entity
  refine ⟨base.extended code ((registry.nameOf? code).getD name) content,
    perform_add_eq_ok.2 ⟨_, add_eq_ok.2 ⟨grounded', code, known, ?_, rfl⟩, by rw [size]⟩, ?_, ?_, ?_⟩
  · rwa [← settled.codes]
  · simp only [extended, settled.codes, size]
  · simp only [extended, size]
    rw [settled_push settled.fits, settled.declarations]
  · exact fun s mem => (settled.fits s mem).push

theorem Settled.set (settled : Settled base l d) (fits : Fits base.declarations s) :
    Settled base (l ++ [s]) (d.withSetting s) where
  codes := settled.codes
  declarations := by
    rw [List.foldl_append, ← settled.declarations]
    rfl
  fits := List.forall_mem_append.2 ⟨settled.fits, List.forall_mem_singleton.2 fits⟩

theorem Settled.fits_iff (settled : Settled base l d) :
    Fits d.declarations s ↔ Fits base.declarations s := by
  rw [settled.declarations, fits_settled_iff]

/-! ## Histories -/

/-- **The additions of a history succeed alone**, with the same answers, and its settings turn what
they make into what the history makes. -/
theorem Leads.settled (leads : Leads registry d entries d') (settled : Settled base l d) :
    ∃ base', Leads registry base (additions entries) base' ∧
      Settled base' (l ++ settings entries) d' := by
  induction leads generalizing base l with
  | nil => exact ⟨base, .nil base, by simpa [settings] using settled⟩
  | @cons d d₁ d₂ entry entries performed rest ih =>
    obtain ⟨call, answer⟩ := entry
    cases call with
    | add name content =>
      obtain ⟨base₁, added, settled₁⟩ := settled.add performed
      obtain ⟨base₂, on, settled₂⟩ := ih settled₁
      exact ⟨base₂, .cons added on, settled₂⟩
    | set h change =>
      obtain ⟨-, fits, rfl⟩ := (perform_setting (s := ⟨h, change⟩)).1 performed
      obtain ⟨base₂, on, settled₂⟩ := ih (settled.set (settled.fits_iff.1 fits))
      refine ⟨base₂, on, ?_⟩
      rwa [List.append_assoc] at settled₂

/-- **Settings that fit what was added succeed** one after the other. -/
theorem Settled.leads (settled : Settled base l d) (registry : Registry) :
    ∀ {more : List Setting}, (∀ s ∈ more, Fits base.declarations s) →
      ∃ d', Leads registry d (more.map (·.entry)) d' ∧ Settled base (l ++ more) d' := by
  intro more fits
  induction more generalizing d l with
  | nil => exact ⟨d, .nil d, by simpa using settled⟩
  | cons s more ih =>
    obtain ⟨first, rest⟩ := List.forall_mem_cons.1 fits
    obtain ⟨d', on, settled'⟩ := ih (settled.set first) rest
    refine ⟨d', .cons (perform_setting.2 ⟨rfl, settled.fits_iff.2 first, rfl⟩) on, ?_⟩
    rwa [List.append_assoc] at settled'

/-- A draft is what its additions make, with its settings made. -/
theorem run_settled (registry : Registry) (config : Config) (calls : List Call) :
    ∃ base, Leads registry (empty config)
      (additions ((empty config).history registry calls)) base ∧
      Settled base (settings ((empty config).history registry calls)) (run registry config calls) :=
  (leads_run registry config calls).settled (Settled.refl _)

end Draft

end Express
