import Express.Basic

/-!
# Computations that may fail

What a success of a chain of steps says about each step, and what a failure can be, so that later
proofs take a chain apart with `obtain` and never open a monad.

* `bind_eq_ok`, `map_eq_ok`, `lift_misuse_eq_ok`, `lift_refusal_eq_ok` — the connectives.
* `refuseIf_eq_ok`, `elementAt_eq_ok`, `replaceAt_eq_ok` — the places where failures arise.
* `forM_eq_ok` — a check of every member of a list.
* `seq_eq_error`, `refuseIf_eq_error`, `forM_eq_error` — where a failure comes from: of the members of a
  list, from the `First` that fails the check.
* `mapM_eq_ok` — a replacement of every member of a list that succeeds on each; `forall_of_mapM_eq_ok`
  says that it succeeds on no other condition.
* `OnlyRefuses` — a computation fails by refusing only, and so breaks no precondition; each connective
  keeps this.
-/

set_option autoImplicit false

namespace Express

variable {ε α β : Type}

theorem bind_eq_ok {x : Except ε α} {f : α → Except ε β} {b : β} :
    (x >>= f) = .ok b ↔ ∃ a, x = .ok a ∧ f a = .ok b := by
  cases x <;> simp [bind, Except.bind]

theorem map_eq_ok {x : Except ε α} {f : α → β} {b : β} :
    x.map f = .ok b ↔ ∃ a, x = .ok a ∧ f a = b := by
  cases x <;> simp [Except.map]

@[simp] theorem pure_eq_ok {a b : α} : (pure a : Except ε α) = .ok b ↔ a = b := by
  simp [pure, Except.pure]

theorem seq_eq_ok {x : Except ε Unit} {y : Except ε β} {b : β} :
    (x >>= fun _ => y) = .ok b ↔ x = .ok () ∧ y = .ok b := by
  rw [bind_eq_ok]
  exact ⟨fun ⟨(), h⟩ => h, fun h => ⟨(), h⟩⟩

theorem mapError_eq_ok {ε' : Type} {x : Except ε α} {f : ε → ε'} {a : α} :
    x.mapError f = .ok a ↔ x = .ok a := by
  cases x with
  | error e => exact iff_of_false nofun nofun
  | ok b =>
    show (Except.ok b : Except ε' α) = .ok a ↔ _
    rw [Except.ok.injEq, Except.ok.injEq]

theorem lift_misuse_eq_ok {x : Except Misuse α} {a : α} :
    (liftM x : Except Failure α) = .ok a ↔ x = .ok a :=
  mapError_eq_ok

theorem lift_refusal_eq_ok {x : Except SchemaError α} {a : α} :
    (liftM x : Except Failure α) = .ok a ↔ x = .ok a :=
  mapError_eq_ok

theorem refuseIf_eq_ok {condition : Bool} {error : SchemaError} :
    refuseIf condition error = .ok () ↔ condition = false := by
  unfold refuseIf
  cases condition <;> simp

theorem elementAt_eq_ok {elements : Array α} {index : Nat} {element : α} :
    elementAt elements index = .ok element ↔ elements[index]? = some element := by
  unfold elementAt
  split
  · rename_i found
    simp [found]
  · rename_i found
    simp [found]

theorem elementAt_eq_error {elements : Array α} {index : Nat} {misuse : Misuse} :
    elementAt elements index = .error misuse ↔
      elements.size ≤ index ∧ misuse = .outOfRange elements.size index := by
  unfold elementAt
  split
  · rename_i found
    have inside := (Array.getElem?_eq_some_iff.1 found).1
    refine iff_of_false nofun fun ⟨outside, _⟩ => ?_
    exact Nat.not_lt.2 outside inside
  · rename_i absent
    rw [Except.error.injEq, eq_comm, iff_and_self]
    exact fun _ => Array.getElem?_eq_none_iff.1 absent

theorem replaceAt_eq_ok {elements : Array α} {index : Nat} {element : α}
    (inside : index < elements.size) :
    replaceAt elements index element = .ok (elements.setIfInBounds index element) :=
  if_pos inside

/-- Elements that are put at different positions in turn are there at the end, and nothing else has
changed. -/
theorem foldlM_replaceAt {f : β → α} : ∀ {pairs : List (Nat × β)} {elements : Array α},
    (pairs.map (·.1)).Nodup → (∀ p ∈ pairs, p.1 < elements.size) →
      ∃ result, pairs.foldlM (fun elements p => replaceAt elements p.1 (f p.2)) elements =
          .ok result ∧ (∀ p ∈ pairs, result[p.1]? = some (f p.2)) ∧
        ∀ i, i ∉ pairs.map (·.1) → result[i]? = elements[i]?
  | [], elements, _, _ => ⟨elements, rfl, nofun, fun _ _ => rfl⟩
  | (index, b) :: pairs, elements, different, inside => by
    obtain ⟨first, others⟩ := List.forall_mem_cons.1 inside
    obtain ⟨fresh, different⟩ := List.nodup_cons.1 different
    have others : ∀ p ∈ pairs, p.1 < (elements.setIfInBounds index (f b)).size := by
      simpa using others
    obtain ⟨result, done, there, kept⟩ := foldlM_replaceAt (f := f) different others
    refine ⟨result, ?_, List.forall_mem_cons.2 ⟨?_, there⟩, fun i absent => ?_⟩
    · rw [List.foldlM_cons, replaceAt_eq_ok first]
      exact done
    · rw [kept index fresh, Array.getElem?_setIfInBounds_self_of_lt first]
    · rw [List.map_cons, List.mem_cons, not_or] at absent
      rw [kept i absent.2, Array.getElem?_setIfInBounds_ne (Ne.symm absent.1)]

theorem forM_eq_ok {check : α → Except ε Unit} :
    ∀ {l : List α}, l.forM check = .ok () ↔ ∀ a ∈ l, check a = .ok ()
  | [] => by simp [List.forM]
  | a :: l => by
    show (check a >>= fun _ => l.forM check) = _ ↔ _
    rw [seq_eq_ok, forM_eq_ok, List.forall_mem_cons]

/-! ## Where failures come from -/

/-- A member of a list has a property, and none before it has. -/
def First (P : α → Prop) (l : List α) (x : α) : Prop :=
  ∃ before after, l = before ++ x :: after ∧ (∀ y ∈ before, ¬ P y) ∧ P x

theorem first_cons {P : α → Prop} {a x : α} {l : List α} :
    First P (a :: l) x ↔ (P a ∧ x = a) ∨ (¬ P a ∧ First P l x) := by
  constructor
  · rintro ⟨before, after, split, none, here⟩
    rcases List.cons_eq_append_iff.1 split with ⟨rfl, same⟩ | ⟨before, rfl, rfl⟩
    · cases same
      exact .inl ⟨here, rfl⟩
    · obtain ⟨head, others⟩ := List.forall_mem_cons.1 none
      exact .inr ⟨head, before, after, rfl, others, here⟩
  · rintro (⟨here, rfl⟩ | ⟨head, before, after, rfl, none, here⟩)
    · exact ⟨[], l, rfl, nofun, here⟩
    · exact ⟨a :: before, after, rfl, List.forall_mem_cons.2 ⟨head, none⟩, here⟩

theorem First.mem {P : α → Prop} {l : List α} {x : α} (first : First P l x) : x ∈ l := by
  obtain ⟨before, after, rfl, -, -⟩ := first
  exact List.mem_append_right _ List.mem_cons_self

theorem find?_eq_some_iff_first {p : α → Bool} {l : List α} {x : α} :
    l.find? p = some x ↔ First (fun a => p a = true) l x := by
  rw [List.find?_eq_some_iff_append]
  simp only [First, Bool.not_eq_true', Bool.not_eq_true]
  constructor
  · rintro ⟨here, before, after, split, none⟩
    exact ⟨before, after, split, none, here⟩
  · rintro ⟨before, after, split, none, here⟩
    exact ⟨here, before, after, split, none⟩

theorem bind_eq_error {x : Except ε α} {f : α → Except ε β} {e : ε} :
    (x >>= f) = .error e ↔ x = .error e ∨ ∃ a, x = .ok a ∧ f a = .error e := by
  cases x <;> simp [bind, Except.bind]

theorem seq_eq_error {x : Except ε Unit} {y : Except ε β} {e : ε} :
    (x >>= fun _ => y) = .error e ↔ x = .error e ∨ x = .ok () ∧ y = .error e := by
  rw [bind_eq_error]
  exact or_congr_right ⟨fun ⟨(), h⟩ => h, fun h => ⟨(), h⟩⟩

theorem refuseIf_eq_error {condition : Bool} {error : SchemaError} {failure : Failure} :
    refuseIf condition error = .error failure ↔ condition = true ∧ failure = .refused error := by
  unfold refuseIf
  cases condition <;> simp [eq_comm]

/-- **A check of a list fails by the first member that fails it.** -/
theorem forM_eq_error {check : α → Except ε Unit} {e : ε} :
    ∀ {l : List α}, l.forM check = .error e ↔
      ∃ x, First (fun a => check a ≠ .ok ()) l x ∧ check x = .error e
  | [] => by simp [List.forM, First, pure, Except.pure]
  | a :: l => by
    show (check a >>= fun _ => l.forM check) = _ ↔ _
    rw [seq_eq_error, forM_eq_error]
    simp only [first_cons]
    constructor
    · rintro (failed | ⟨passed, x, first, failed⟩)
      · exact ⟨a, .inl ⟨by simp [failed], rfl⟩, failed⟩
      · exact ⟨x, .inr ⟨Classical.not_not.2 passed, first⟩, failed⟩
    · rintro ⟨x, ⟨-, rfl⟩ | ⟨passed, first⟩, failed⟩
      · exact .inl failed
      · exact .inr ⟨Classical.not_not.1 passed, x, first, failed⟩

/-! ## Replacements -/

theorem mapM_eq_ok {f : α → Except ε β} {g : α → β} :
    ∀ {l : List α}, (∀ a ∈ l, f a = .ok (g a)) → l.mapM f = .ok (l.map g)
  | [], _ => rfl
  | a :: l, h => by
    rw [List.forall_mem_cons] at h
    rw [List.mapM_cons, h.1, mapM_eq_ok h.2]
    rfl

theorem forall_of_mapM_eq_ok {f : α → Except ε β} : ∀ {l : List α} {bs : List β},
    l.mapM f = .ok bs → ∀ a ∈ l, ∃ b, f a = .ok b
  | [], _, _ => nofun
  | a :: l, _, done => by
    simp only [List.mapM_cons, bind_eq_ok, pure_eq_ok] at done
    obtain ⟨b, first, bs, rest, -⟩ := done
    exact List.forall_mem_cons.2 ⟨⟨b, first⟩, forall_of_mapM_eq_ok rest⟩

/-! ## Computations that only refuse -/

/-- Every failure of a computation is a refusal, for an error of some sort. -/
def OnlyRefuses (sort : SchemaError → Prop) (x : Except Failure α) : Prop :=
  ∀ failure, x = .error failure → ∃ error, failure = .refused error ∧ sort error

namespace OnlyRefuses

variable {sort sort' : SchemaError → Prop} {x : Except Failure α} {f : α → Except Failure β}
  {error : SchemaError}

theorem ok (a : α) : OnlyRefuses sort (.ok a : Except Failure α) := nofun

theorem refused (named : sort error) : OnlyRefuses sort (.error (.refused error) : Except _ α) := by
  rintro _ ⟨⟩
  exact ⟨error, rfl, named⟩

theorem imp (only : OnlyRefuses sort x) (weaker : ∀ error, sort error → sort' error) :
    OnlyRefuses sort' x := by
  intro failure failed
  obtain ⟨error, rfl, named⟩ := only failure failed
  exact ⟨error, rfl, weaker error named⟩

theorem bind (first : OnlyRefuses sort x) (next : ∀ a, x = .ok a → OnlyRefuses sort (f a)) :
    OnlyRefuses sort (x >>= f) := by
  cases done : x with
  | error failure =>
    rintro _ ⟨⟩
    exact first failure done
  | ok a => exact next a done

theorem refuseIf (condition : Bool) (named : sort error) :
    OnlyRefuses sort (Express.refuseIf condition error) := by
  unfold Express.refuseIf
  split
  · exact refused named
  · exact ok ()

theorem elementAt {elements : Array α} {index : Nat} (inside : index < elements.size) :
    OnlyRefuses sort (liftM (Express.elementAt elements index) : Except Failure α) := by
  rw [lift_misuse_eq_ok.2 (elementAt_eq_ok.2 (Array.getElem?_eq_getElem inside))]
  exact ok _

theorem lift {y : Except SchemaError α} (named : ∀ error, y = .error error → sort error) :
    OnlyRefuses sort (liftM y : Except Failure α) := by
  cases done : y with
  | error error => exact refused (named error done)
  | ok a => exact ok a

theorem forM {check : α → Except Failure Unit} :
    ∀ {l : List α}, (∀ a ∈ l, OnlyRefuses sort (check a)) → OnlyRefuses sort (l.forM check)
  | [], _ => ok ()
  | a :: l, each => by
    obtain ⟨first, rest⟩ := List.forall_mem_cons.1 each
    exact bind first fun _ _ => forM rest

theorem ok_or_refused (only : OnlyRefuses sort x) :
    (∃ a, x = .ok a) ∨ ∃ error, x = .error (.refused error) := by
  cases done : x with
  | ok a => exact .inl ⟨a, rfl⟩
  | error failure =>
    obtain ⟨error, rfl, -⟩ := only failure done
    exact .inr ⟨error, rfl⟩

end OnlyRefuses

end Express
