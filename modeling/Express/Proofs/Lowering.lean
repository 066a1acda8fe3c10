import Express.Caseless
import Mathlib.Data.List.Basic

/-!
# Lowercase forms have no other lowercase form

A lowercase form is its own lowercase form. No rule of the mapping says so, and no shorter reason is
known than a look at the table: the images of one run are not covered by any run, its own included.

* `Run.points` are the characters of a run, `Run.reach` is the last of its images.
* `Run.misses` — no image of one run is a character of another. Two runs are compared by their ends
  first, and only where they overlap point by point; `runs_misses` is the look at the table.
* `imageIn_cases` — a character keeps its code point or is mapped by a run that covers it.
* `lowercase_of_uncovered` — a character that no run covers is its own lowercase form; images are such
  characters (`lowercase_image`). So are all characters of a lowercase form, those of U+0130 too
  (`lowercase_of_mem`).
* `Caseless.folded_ofList_folded` — so the folded form of a name is its own folded form.
-/

set_option autoImplicit false

namespace Express.Lowercase

variable {r s : Run} {point : Nat} {c d : Char}

/-! ## Runs -/

/-- The code points of a run. -/
def Run.points (r : Run) : List Nat :=
  List.range' r.first ((r.last - r.first) / r.step + 1) r.step

/-- The last image of a run. -/
def Run.reach (r : Run) : Nat := r.target + (r.last - r.first)

/-- Is no image of one run a character of another? -/
def Run.misses (r s : Run) : Bool :=
  s.last.blt r.target || r.reach.blt s.first || r.points.all fun point => !s.covers (r.image point)

theorem Run.covers_iff : r.covers point ↔
    r.first ≤ point ∧ point ≤ r.last ∧ (point - r.first) % r.step = 0 := by
  simp only [covers, Bool.and_eq_true, decide_eq_true_eq, beq_iff_eq, and_assoc]

theorem Run.mem_points (covered : r.covers point) : point ∈ r.points := by
  obtain ⟨first, last, steps⟩ := covers_iff.1 covered
  have whole : r.step * ((point - r.first) / r.step) = point - r.first := by
    have := Nat.mod_add_div (point - r.first) r.step
    omega
  have few : (point - r.first) / r.step ≤ (r.last - r.first) / r.step :=
    Nat.div_le_div_right (by omega)
  exact List.mem_range'.2 ⟨(point - r.first) / r.step, by omega, by omega⟩

theorem Run.image_bounds (covered : r.covers point) :
    r.target ≤ r.image point ∧ r.image point ≤ r.reach := by
  have := covers_iff.1 covered
  simp only [image, reach]
  omega

theorem Run.not_covers_image (misses : r.misses s) (covered : r.covers point) :
    ¬ s.covers (r.image point) := by
  intro again
  have bounds := image_bounds covered
  have ends := covers_iff.1 again
  simp only [Run.misses, Bool.or_eq_true, Nat.blt_eq, List.all_eq_true, Bool.not_eq_true'] at misses
  obtain (below | above) | between := misses
  · omega
  · omega
  · rw [between point (mem_points covered)] at again
    cases again

/-! ## The table -/

/-- **No image is mapped once more**: no run of the table meets the images of another. -/
theorem runs_misses : ∀ r ∈ runs, ∀ s ∈ runs, r.misses s := by
  have table : (runs.all fun r => runs.all r.misses) = true := by decide +kernel
  intro r first s second
  exact List.all_eq_true.1 (List.all_eq_true.1 table r first) s second

/-- The images are characters: those of no run are surrogates, or beyond the last character. -/
theorem runs_valid : ∀ r ∈ runs, r.reach < 0xD800 ∨ 0xDFFF < r.target ∧ r.reach < 0x110000 := by
  decide +kernel

/-- The one character with a form of two is no image. -/
theorem runs_plain : ∀ r ∈ runs, r.reach < 0x130 ∨ 0x130 < r.target := by
  decide +kernel

/-! ## Characters -/

/-- **A character** keeps its code point or is mapped by a run that covers it. -/
theorem imageIn_cases (rs : List Run) (point : Nat) :
    imageIn rs point = point ∨ ∃ r ∈ rs, r.covers point ∧ imageIn rs point = r.image point := by
  induction rs with
  | nil => exact Or.inl rfl
  | cons r rest ih =>
    unfold imageIn
    split
    · exact Or.inl rfl
    · split
      · rename_i covered
        exact Or.inr ⟨r, List.mem_cons_self, covered, rfl⟩
      · refine ih.imp_right ?_
        intro ⟨s, mem, covered, image⟩
        exact ⟨s, List.mem_cons_of_mem r mem, covered, image⟩

theorem lowercase_of_uncovered (plain : c ≠ '\u0130') (uncovered : ∀ r ∈ runs, ¬ r.covers c.toNat) :
    lowercase c = [c] := by
  have kept : imageIn runs c.toNat = c.toNat := by
    refine (imageIn_cases runs c.toNat).resolve_right ?_
    intro ⟨r, mem, covered, _⟩
    exact uncovered r mem covered
  rw [lowercase, if_neg plain, kept, Char.ofNat_toNat]

/-- The image of a character under a run is its own lowercase form. -/
theorem lowercase_image (mem : r ∈ runs) (covered : r.covers point) :
    lowercase (Char.ofNat (r.image point)) = [Char.ofNat (r.image point)] := by
  have bounds := Run.image_bounds covered
  have valid : (r.image point).isValidChar := by
    have := runs_valid r mem
    unfold Nat.isValidChar
    omega
  have value : (Char.ofNat (r.image point)).toNat = r.image point := by
    rw [Char.ofNat, dif_pos valid]
    rfl
  apply lowercase_of_uncovered
  · intro same
    have := runs_plain r mem
    rw [same] at value
    change 0x130 = r.image point at value
    omega
  · intro s second again
    rw [value] at again
    exact Run.not_covers_image (runs_misses r mem s second) covered again

/-- **A lowercase form is its own lowercase form**, character by character. -/
theorem lowercase_of_mem (mem : d ∈ lowercase c) : lowercase d = [d] := by
  by_cases dotted : c = '\u0130'
  · rw [lowercase, if_pos dotted, List.mem_pair] at mem
    obtain rfl | rfl := mem
    · exact lowercase_of_uncovered (by decide) (by decide +kernel)
    · exact lowercase_of_uncovered (by decide) (by decide +kernel)
  · have form : lowercase c = [Char.ofNat (imageIn runs c.toNat)] := by
      rw [lowercase, if_neg dotted]
    rw [form, List.mem_singleton] at mem
    subst mem
    obtain kept | ⟨r, known, covered, image⟩ := imageIn_cases runs c.toNat
    · rw [kept, Char.ofNat_toNat] at form ⊢
      exact form
    · rw [image]
      exact lowercase_image known covered

end Express.Lowercase

namespace Express.Caseless

/-- **Folding a folded form** changes nothing. -/
theorem folded_ofList_folded (name : String) :
    folded (String.ofList (folded name)) = folded name := by
  have fixed : ∀ d ∈ folded name, Lowercase.lowercase d = [d] := by
    intro d mem
    obtain ⟨c, _, mem⟩ := List.mem_flatMap.1 mem
    exact Lowercase.lowercase_of_mem mem
  calc folded (String.ofList (folded name))
      = (folded name).flatMap Lowercase.lowercase := by rw [folded, String.toList_ofList]
    _ = (folded name).flatMap fun d => [d] := List.flatMap_congr fixed
    _ = folded name := List.flatMap_singleton' (folded name)

end Express.Caseless
