import Express.Proofs.Clashing

/-!
# Gaps between codes

The codes of a built-in schema are to be the numbers from 0 on. Codes are sorted, and each is compared
with its place. The first that differs stands behind a gap: its place is the least number that is no
code, and it is itself the least code above this number.

* `Draft.Gap` — a gap, said of the codes without their order.
* `Draft.gap_cons`, `Draft.gap_behind` — what the least code has to do with the gap.
* `Draft.firstGap?_eq_some` — comparing ascending codes with their places finds the gap.
* `Draft.exists_gap` — different codes leave a gap exactly where one of them is not below their
  number.
* `Draft.build_sparse` — building tells the gap of a built-in schema before anything else, and tells
  none of another.
-/

set_option autoImplicit false

namespace Express

theorem mem_of_nodup_of_lt {l : List Nat} (different : l.Nodup) (low : ∀ k ∈ l, k < l.length) :
    ∀ n < l.length, n ∈ l := by
  have inside : l ⊆ List.range l.length := fun k mem => List.mem_range.2 (low k mem)
  have perm := (List.subperm_of_subset different inside).perm_of_length_le (by simp)
  intro n below
  rw [perm.mem_iff, List.mem_range]
  exact below

namespace Draft

variable {d : Draft} {start : Nat} {c expected found : TypeCode} {codes codes' : List TypeCode}
  {failure : Failure}

/-- The least number from `start` on that is no code, and the least code above it. -/
structure Gap (start : Nat) (codes : List TypeCode) (expected found : TypeCode) : Prop where
  above : start ≤ expected.index
  full : ∀ n < expected.index, start ≤ n → ∃ c ∈ codes, c.index = n
  absent : expected ∉ codes
  present : found ∈ codes
  beyond : expected.index < found.index
  next : ∀ c ∈ codes, expected.index < c.index → found.index ≤ c.index

theorem Gap.perm (gap : Gap start codes expected found) (perm : codes.Perm codes') :
    Gap start codes' expected found where
  above := gap.above
  full n below from_start := by
    obtain ⟨c, mem, same⟩ := gap.full n below from_start
    exact ⟨c, perm.mem_iff.1 mem, same⟩
  absent mem := gap.absent (perm.mem_iff.2 mem)
  present := perm.mem_iff.1 gap.present
  beyond := gap.beyond
  next c mem := gap.next c (perm.mem_iff.2 mem)

theorem gap_perm (perm : codes.Perm codes') :
    Gap start codes expected found ↔ Gap start codes' expected found :=
  ⟨fun gap => gap.perm perm, fun gap => gap.perm perm.symm⟩

/-! ## Looking for a gap -/

/-- Where a code is the number that is expected, the gap is further up. -/
theorem gap_cons (here : c.index = start) :
    Gap start (c :: codes) expected found ↔ Gap (start + 1) codes expected found := by
  constructor
  · rintro ⟨above, full, absent, present, beyond, next⟩
    rw [List.mem_cons, not_or] at absent
    have other : expected.index ≠ c.index := fun same => absent.1 (TypeCode.ext_index same)
    refine ⟨by omega, fun n below from_start => ?_, absent.2, ?_, beyond, fun b mem =>
      next b (List.mem_cons_of_mem c mem)⟩
    · obtain ⟨b, mem, same⟩ := full n below (by omega)
      rcases List.mem_cons.1 mem with rfl | mem
      · omega
      · exact ⟨b, mem, same⟩
    · rcases List.mem_cons.1 present with rfl | mem
      · omega
      · exact mem
  · rintro ⟨above, full, absent, present, beyond, next⟩
    refine ⟨by omega, fun n below from_start => ?_, ?_, List.mem_cons_of_mem c present, beyond, ?_⟩
    · rcases Nat.eq_or_lt_of_le from_start with rfl | more
      · exact ⟨c, List.mem_cons_self, here⟩
      · obtain ⟨b, mem, same⟩ := full n below more
        exact ⟨b, List.mem_cons_of_mem c mem, same⟩
    · rw [List.mem_cons, not_or]
      refine ⟨?_, absent⟩
      rintro rfl
      omega
    · refine List.forall_mem_cons.2 ⟨fun more => ?_, next⟩
      omega

/-- Where the least code is above the number that is expected, it stands behind the gap. -/
theorem gap_behind (small : start < UInt32.size) (more : start < c.index)
    (later : ∀ b ∈ codes, c.index < b.index) :
    Gap start (c :: codes) expected found ↔ expected = TypeCode.ofNat start ∧ found = c := by
  have least : ∀ b ∈ c :: codes, c.index ≤ b.index :=
    List.forall_mem_cons.2 ⟨Nat.le_refl _, fun b mem => Nat.le_of_lt (later b mem)⟩
  constructor
  · intro gap
    have lowest : expected.index = start := by
      by_contra other
      have above := gap.above
      obtain ⟨b, mem, same⟩ := gap.full start (by omega) (Nat.le_refl start)
      have := least b mem
      omega
    have reached := gap.next c List.mem_cons_self (by omega)
    refine ⟨?_, TypeCode.ext_index (Nat.le_antisymm reached (least found gap.present))⟩
    rw [← lowest, TypeCode.ofNat_index]
  · rintro ⟨rfl, rfl⟩
    have index := TypeCode.index_ofNat small
    refine ⟨index.ge, fun n below from_start => ?_, fun mem => ?_, List.mem_cons_self, ?_,
      fun b mem _ => least b mem⟩
    · omega
    · have := least _ mem
      omega
    · omega

/-- **Comparing ascending codes with their places finds the gap.** -/
theorem scan_eq_some : ∀ {codes : List TypeCode} {start : Nat},
    codes.Pairwise (fun a b => a.index < b.index) → (∀ c ∈ codes, start ≤ c.index) →
      ((codes.zipIdx start).findSome? (fun (found, position) =>
        if found = TypeCode.ofNat position then none else some (TypeCode.ofNat position, found)) =
          some (expected, found) ↔ Gap start codes expected found)
  | [], _, _, _ => iff_of_false nofun fun gap => absurd gap.present List.not_mem_nil
  | c :: codes, start, ascending, low => by
    obtain ⟨first, rest⟩ := List.pairwise_cons.1 ascending
    have lower := low c List.mem_cons_self
    have small : start < UInt32.size := Nat.lt_of_le_of_lt lower c.index_lt
    rw [List.zipIdx_cons, List.findSome?_cons]
    dsimp only
    by_cases here : c = TypeCode.ofNat start
    · have index : c.index = start := by rw [here, TypeCode.index_ofNat small]
      have later : ∀ b ∈ codes, start < b.index := fun b mem => index ▸ first b mem
      rw [gap_cons index, ← scan_eq_some rest later, if_pos here]
    · have more : start < c.index := by
        refine Nat.lt_of_le_of_ne lower fun same => here ?_
        rw [same, TypeCode.ofNat_index]
      rw [gap_behind small more first, if_neg here]
      simp [eq_comm]

theorem firstGap?_eq_some (ascending : codes.Pairwise fun a b => a.index < b.index) :
    firstGap? codes = some (expected, found) ↔ Gap 0 codes expected found :=
  scan_eq_some ascending fun _ _ => Nat.zero_le _

/-! ## The check -/

theorem firstGap?_sortedCodes_eq_some (sound : Sound d) :
    firstGap? d.sortedCodes = some (expected, found) ↔
      Gap 0 (d.declarations.toList.map (·.code)) expected found :=
  (firstGap?_eq_some (List.pairwise_map.1 (sortedCodes_ascending sound))).trans
    (gap_perm (sortedCodes_perm sound))

/-- **The check of codes reports the gap** of a built-in schema. -/
theorem checkCodes_eq_error (sound : Sound d) : d.checkCodes = .error failure ↔
    d.config.builtIn = true ∧ ∃ expected found,
      Gap 0 (d.declarations.toList.map (·.code)) expected found ∧
        failure = .refused (.sparseBuiltInCodes expected found) := by
  simp only [← firstGap?_sortedCodes_eq_some sound]
  unfold checkCodes
  cases d.config.builtIn with
  | false => simp
  | true =>
    cases firstGap? d.sortedCodes with
    | none => simp
    | some gap => simp [Prod.ext_iff, eq_comm]

/-- As codes are different, they are dense once they are all below their number. -/
theorem dense_iff (sound : Sound d) :
    (∀ n, (∃ x ∈ d.declarations, x.code.index = n) ↔ n < d.size) ↔
      ∀ x ∈ d.declarations, x.code.index < d.size := by
  constructor
  · intro dense x mem
    exact (dense x.code.index).1 ⟨x, mem, rfl⟩
  · intro low n
    constructor
    · rintro ⟨x, mem, rfl⟩
      exact low x mem
    · intro below
      have different := sound.different.map TypeCode.index_injective
      have mem := mem_of_nodup_of_lt different (by simpa [size] using low) n
        (by simpa [size] using below)
      simpa using mem

/-- **There is a gap exactly where a code is not below the number of declarations.** -/
theorem exists_gap (sound : Sound d) :
    (∃ expected found, Gap 0 (d.declarations.toList.map (·.code)) expected found) ↔
      ∃ x ∈ d.declarations, d.size ≤ x.code.index := by
  have none_iff := (firstGap?_sortedCodes_eq_none sound).trans (dense_iff sound)
  simp only [← firstGap?_sortedCodes_eq_some sound]
  rw [← not_iff_not]
  push Not
  rw [← none_iff]
  cases firstGap? d.sortedCodes with
  | none => simp
  | some gap => exact iff_of_false (fun none => none gap.1 gap.2 rfl) nofun

/-- What a draft of a built-in schema tells about its codes. -/
structure TellsGaps (d : Draft) : Prop where
  /-- It tells a gap exactly where a code is not below the number of declarations. -/
  told : (∃ expected found, d.build = .error (.refused (.sparseBuiltInCodes expected found))) ↔
    ∃ x ∈ d.declarations, d.size ≤ x.code.index
  /-- What it tells is the gap. -/
  gap : ∀ expected found, d.build = .error (.refused (.sparseBuiltInCodes expected found)) ↔
    Gap 0 (d.declarations.toList.map (·.code)) expected found
  /-- Nothing else is told before. -/
  first : ∀ x ∈ d.declarations, d.size ≤ x.code.index → ∀ failure, d.build = .error failure →
    ∃ expected found, failure = .refused (.sparseBuiltInCodes expected found)

theorem build_eq_sparse (sound : Sound d) :
    d.build = .error (.refused (.sparseBuiltInCodes expected found)) ↔
      d.config.builtIn = true ∧ Gap 0 (d.declarations.toList.map (·.code)) expected found := by
  rw [build_eq_error sound, check_eq_error sound, checkCodes_eq_error sound]
  constructor
  · rintro (⟨builtIn, _, _, gap, same⟩ | ⟨-, failed | ⟨-, error, blames, same⟩⟩)
    · cases same
      exact ⟨builtIn, gap⟩
    · obtain ⟨name, -, same⟩ := checkNames_eq_error.1 failed
      cases same
    · cases same
      rcases blames.about with ⟨_, other⟩ | ⟨_, other⟩ <;> cases other
  · rintro ⟨builtIn, gap⟩
    exact .inl ⟨builtIn, expected, found, gap, rfl⟩

/-- **Building tells the gap of a built-in schema before anything else**, and tells none of another. -/
theorem build_sparse (registry : Registry) (config : Config) (calls : List Call) :
    (config.builtIn = true → (run registry config calls).TellsGaps) ∧
    (config.builtIn = false → ∀ expected found, (run registry config calls).build ≠
      .error (.refused (.sparseBuiltInCodes expected found))) := by
  have sound := run_sound registry config calls
  have same : (run registry config calls).config = config := run_config calls
  generalize run registry config calls = d at sound same
  subst same
  constructor
  · intro builtIn
    have gap (expected found : TypeCode) :
        d.build = .error (.refused (.sparseBuiltInCodes expected found)) ↔
          Gap 0 (d.declarations.toList.map (·.code)) expected found := by
      rw [build_eq_sparse sound, and_iff_right builtIn]
    have told : (∃ expected found,
        d.build = .error (.refused (.sparseBuiltInCodes expected found))) ↔
          ∃ x ∈ d.declarations, d.size ≤ x.code.index := by
      simp only [gap]
      exact exists_gap sound
    refine ⟨told, gap, fun x mem high failure failed => ?_⟩
    obtain ⟨expected, found, sparse⟩ := told.2 ⟨x, mem, high⟩
    rw [sparse] at failed
    cases failed
    exact ⟨expected, found, rfl⟩
  · intro general expected found failed
    have builtIn := ((build_eq_sparse sound).1 failed).1
    rw [general] at builtIn
    cases builtIn

/-! ## A small draft -/

/-- Codes with a gap, for names of which two are the same. -/
def screwCodes : Registry :=
  .ofPairs [("screw", ⟨3⟩), ("nut", ⟨0⟩), ("Screw", ⟨7⟩), ("bolt", ⟨1⟩)] []

/-- Screws twice, nuts, and bolts, which are screws. Nuts are of a type that is not there. -/
def screws : List Call :=
  [.add "screw" (.entity none), .add "nut" (.type (.named ⟨9⟩)), .add "Screw" (.enumeration []),
    .add "bolt" (.entity (some ⟨0⟩))]

/-- The least number that is no code is 2, and the least code above it is 3. -/
theorem screws_gap : (run screwCodes (.builtInNamed "screws") screws).build =
      .error (.refused (.sparseBuiltInCodes ⟨2⟩ ⟨3⟩)) ∧
    ∀ expected found, (run screwCodes (.plain "screws") screws).build ≠
      .error (.refused (.sparseBuiltInCodes expected found)) := by
  refine ⟨?_, (build_sparse screwCodes (.plain "screws") screws).2 rfl⟩
  have told := (build_sparse screwCodes (.builtInNamed "screws") screws).1 rfl
  refine (told.gap ⟨2⟩ ⟨3⟩).2 ?_
  constructor <;> decide +kernel

end Draft

end Express
