import Express.Proofs.Blaming

/-!
# Names that clash

Names that are the same up to letter case stand anywhere in a draft, and several names can be repeated
at once. Sorting brings the spellings of each together in the order of adding, so the first repetition
among neighbours is the second spelling of the least name that is repeated.

* `Draft.Clash` — a name is the second spelling of the least name that a list repeats.
* `Draft.clash_cons` — a name that is not repeated does not matter to which one clashes.
* `Draft.firstRepeat?_eq_some` — in a sorted list, the first name that is the same as the one before it
  clashes, and no other does.
* `Draft.build_duplicateName` — building reports the name that clashes, whenever names are repeated.
-/

set_option autoImplicit false

namespace Express

namespace Draft

variable {d : Draft} {a name : String} {names : List String} {failure : Failure}

/-- The least name that a list repeats, spelt as it is there the second time. -/
structure Clash (names : List String) (name : String) : Prop where
  second : (names.filter (Caseless.same · name))[1]? = some name
  least : ∀ other ∈ names, 2 ≤ names.countP (Caseless.same · other) → Caseless.inOrder name other

theorem Clash.mem (clash : Clash names name) : name ∈ names :=
  (List.mem_filter.1 (List.mem_of_getElem? clash.second)).1

/-! ## The spellings of a name -/

theorem same_congr {b : String} (same : Caseless.folded a = Caseless.folded b) :
    (Caseless.same · a) = (Caseless.same · b) := by
  funext c
  rw [Bool.eq_iff_iff, Caseless.same_iff, Caseless.same_iff, same]

theorem filter_eq_nil (differs : ∀ c ∈ names, Caseless.folded a ≠ Caseless.folded c) {x : String}
    (same : Caseless.same a x) : names.filter (Caseless.same · x) = [] := by
  rw [List.filter_eq_nil_iff]
  intro c mem again
  exact differs c mem ((Caseless.same_iff.1 same).trans (Caseless.same_iff.1 again).symm)

/-- **A name that is not repeated does not matter** to which one clashes. -/
theorem clash_cons (differs : ∀ c ∈ names, Caseless.folded a ≠ Caseless.folded c) :
    Clash (a :: names) name ↔ Clash names name := by
  have second : ((a :: names).filter (Caseless.same · name))[1]? = some name ↔
      (names.filter (Caseless.same · name))[1]? = some name := by
    rw [List.filter_cons]
    split
    · rename_i same
      rw [filter_eq_nil differs same]
      simp
    · rfl
  have twice (other : String) : 2 ≤ (a :: names).countP (Caseless.same · other) ↔
      2 ≤ names.countP (Caseless.same · other) := by
    rw [List.countP_cons]
    split
    · rename_i same
      rw [List.countP_eq_length_filter, filter_eq_nil differs same]
      simp
    · rfl
  constructor
  · intro clash
    refine ⟨second.1 clash.second, fun other mem repeated => ?_⟩
    exact clash.least other (List.mem_cons_of_mem a mem) ((twice other).2 repeated)
  · intro clash
    refine ⟨second.2 clash.second, List.forall_mem_cons.2 ⟨fun repeated => ?_, fun other mem repeated =>
      clash.least other mem ((twice other).1 repeated)⟩⟩
    rw [twice, List.countP_eq_length_filter, filter_eq_nil differs (Caseless.same_iff.2 rfl)]
      at repeated
    simp at repeated

/-- **The first repetition in a sorted list clashes**, and no other name does: names that are not
repeated drop out, and of a name that is, the second spelling is next to the first. -/
theorem firstRepeat?_eq_some : ∀ {names : List String},
    names.Pairwise (fun a b => Caseless.inOrder a b) →
      (firstRepeat? names = some name ↔ Clash names name)
  | [], _ => iff_of_false nofun fun clash => absurd clash.mem List.not_mem_nil
  | [a], _ => iff_of_false nofun fun clash =>
    absurd ((clash_cons (List.forall_mem_nil _)).1 clash).mem List.not_mem_nil
  | a :: b :: rest, sorted => by
    obtain ⟨-, tail⟩ := List.pairwise_cons.1 sorted
    rw [firstRepeat?]
    by_cases same : Caseless.same a b
    · have folded := Caseless.same_iff.1 same
      have spelt : (a :: b :: rest).filter (Caseless.same · b) =
          a :: b :: rest.filter (Caseless.same · b) := by
        simp [same, Caseless.same_iff.2 rfl]
      have bottom : ∀ other ∈ a :: b :: rest, Caseless.inOrder b other := by
        refine List.forall_mem_cons.2 ⟨Caseless.inOrder_of_folded folded.symm, ?_⟩
        exact List.forall_mem_cons.2 ⟨Caseless.inOrder_of_folded rfl, (List.pairwise_cons.1 tail).1⟩
      rw [if_pos same, Option.some.injEq]
      constructor
      · rintro rfl
        refine ⟨?_, fun other mem _ => bottom other mem⟩
        rw [spelt]
        rfl
      · intro clash
        have twice : 2 ≤ (a :: b :: rest).countP (Caseless.same · b) := by
          rw [List.countP_eq_length_filter, spelt]
          simp
        have least := clash.least b (by simp) twice
        have second := clash.second
        rw [same_congr (Caseless.folded_eq_of_inOrder least (bottom name clash.mem)), spelt] at second
        exact Option.some.inj second
    · rw [if_neg same, firstRepeat?_eq_some tail]
      exact (clash_cons (Caseless.differs_of_sorted sorted (by simpa using same))).symm

/-- Sorting does not matter to which name clashes, as it keeps the order of spellings. -/
theorem clash_mergeSort : Clash (names.mergeSort Caseless.inOrder) name ↔ Clash names name := by
  have twice (other : String) : (names.mergeSort Caseless.inOrder).countP (Caseless.same · other) =
      names.countP (Caseless.same · other) := (List.mergeSort_perm _ _).countP_eq _
  constructor
  · intro clash
    have second := clash.second
    rw [Caseless.filter_mergeSort] at second
    refine ⟨second, fun other mem repeated => clash.least other (List.mem_mergeSort.2 mem) ?_⟩
    rwa [twice]
  · intro clash
    refine ⟨?_, fun other mem repeated => clash.least other (List.mem_mergeSort.1 mem) ?_⟩
    · rw [Caseless.filter_mergeSort]
      exact clash.second
    · rwa [twice] at repeated

/-! ## The check -/

/-- **The check of names reports the name that clashes.** -/
theorem checkNames_eq_error : d.checkNames = .error failure ↔
    ∃ name, Clash d.names name ∧ failure = .refused (.duplicateName name) := by
  have found (name : String) : firstRepeat? (d.names.mergeSort Caseless.inOrder) = some name ↔
      Clash d.names name :=
    (firstRepeat?_eq_some (Caseless.pairwise_mergeSort d.names)).trans clash_mergeSort
  simp only [← found]
  unfold checkNames
  cases firstRepeat? (d.names.mergeSort Caseless.inOrder) <;> simp [eq_comm]

/-- Some name clashes exactly where two declarations have the same name. -/
theorem exists_clash : (∃ name, Clash d.names name) ↔ ∃ (i j : Nat) (x y : Declaration), i ≠ j ∧
    d.declarations[i]? = some x ∧ d.declarations[j]? = some y ∧ Caseless.same x.name y.name := by
  have passes : (¬ ∃ name, Clash d.names name) ↔ d.checkNames = .ok () := by
    cases checked : d.checkNames with
    | ok =>
      refine iff_of_true (fun ⟨name, clash⟩ => ?_) rfl
      exact absurd (checked.symm.trans (checkNames_eq_error.2 ⟨name, clash, rfl⟩)) nofun
    | error failure =>
      obtain ⟨name, clash, -⟩ := checkNames_eq_error.1 checked
      exact iff_of_false (fun none => none ⟨name, clash⟩) nofun
  rw [← not_iff_not, passes, checkNames_eq_ok, distinct_iff]
  constructor
  · rintro distinct ⟨i, j, x, y, apart, at_i, at_j, same⟩
    exact apart (distinct at_i at_j (Caseless.same_iff.1 same))
  · intro none i j x y at_i at_j same
    by_contra apart
    exact none ⟨i, j, x, y, apart, at_i, at_j, Caseless.same_iff.2 same⟩

/-- **A name that is repeated is always found**, wherever and however its spellings stand, and of
several the least is told, as it is spelt the second time. -/
theorem build_duplicateName (registry : Registry) (config : Config) (calls : List Call)
    (codes : (run registry config calls).checkCodes = .ok ()) :
    ((∃ name, (run registry config calls).build = .error (.refused (.duplicateName name))) ↔
      ∃ (i j : Nat) (x y : Declaration), i ≠ j ∧
        (run registry config calls).declarations[i]? = some x ∧
        (run registry config calls).declarations[j]? = some y ∧ Caseless.same x.name y.name) ∧
    ∀ name, (run registry config calls).build = .error (.refused (.duplicateName name)) ↔
      Clash (run registry config calls).names name := by
  have sound := run_sound registry config calls
  generalize run registry config calls = d at codes sound
  have reported (name : String) : d.build = .error (.refused (.duplicateName name)) ↔
      Clash d.names name := by
    rw [build_eq_error sound, check_eq_error sound, codes, checkNames_eq_error]
    constructor
    · rintro (failed | ⟨-, ⟨_, clash, same⟩ | ⟨-, error, blames, same⟩⟩)
      · cases failed
      · cases same
        exact clash
      · cases same
        rcases blames.about with ⟨_, other⟩ | ⟨_, other⟩ <;> cases other
    · intro clash
      exact .inr ⟨rfl, .inl ⟨name, clash, rfl⟩⟩
  refine ⟨?_, reported⟩
  simp only [reported]
  exact exists_clash

/-! ## A small draft -/

/-- A registry that tells names apart by letter case. -/
def spellingCodes : Registry :=
  .ofPairs [("Nut", ⟨0⟩), ("bolt", ⟨1⟩), ("NUT", ⟨2⟩), ("axle", ⟨3⟩), ("Bolt", ⟨4⟩), ("BOLT", ⟨5⟩)] []

/-- Nuts twice, bolts three times and an axle once. -/
def spellings : List Call :=
  ["Nut", "bolt", "NUT", "axle", "Bolt", "BOLT"].map fun name => .add name (.enumeration [])

/-- Bolts come before nuts, and axles are there once only. -/
theorem spellings_clash : (run spellingCodes (.plain "spellings") spellings).build =
    .error (.refused (.duplicateName "Bolt")) := by
  obtain ⟨-, reported⟩ := build_duplicateName spellingCodes (.plain "spellings") spellings rfl
  exact (reported "Bolt").2 ⟨by decide +kernel, by decide +kernel⟩

end Draft

end Express
