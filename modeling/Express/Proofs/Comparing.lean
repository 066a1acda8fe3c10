import Express.Proofs.Folding
import Express.Proofs.Lowering

/-!
# Two names compared as they are read

The folded form of a name need not be written down to compare two names. Both are read character by
character; a character that is read is replaced by its lowercase form, and what is left of that form
waits until it is compared. A form of two characters lets the readers of equal names get out of step,
so that no prefix of one name has to fit a prefix of the other.

* `Reader` is a name that is being read, `Reader.text` is what is still to be compared.
* `Reader.text_eq` — a step takes the first character of the text, whatever form it is from.
* `Reader.order_eq` — the first characters that differ decide, as in the order of the texts;
  `compareReading_eq`, so names are compared as their folded forms are.
* `compare` is a `Std.TransCmp`, so that what the library knows of orders holds for names.
* `Lawful` — the laws that sorting and searching rest on; `lawful_compare` says that they hold.
-/

set_option autoImplicit false

namespace Express.Caseless

/-! ## Reading -/

/-- A name that is being read: the characters of a lowercase form that wait to be compared, and the
characters of the name that have not been read. -/
structure Reader where
  pending : List Char
  rest : List Char

namespace Reader

variable {x x' : Reader} {c : Char}

/-- A name that has not been read. -/
def start (name : String) : Reader := ⟨[], name.toList⟩

/-- What is still to be compared. -/
def text (x : Reader) : List Char := x.pending ++ x.rest.flatMap Lowercase.lowercase

/-- The first of the waiting characters. When none waits, the name is read on. -/
def first? : List Char → List Char → Option (Char × Reader)
  | c :: pending, rest => some (c, ⟨pending, rest⟩)
  | [], [] => none
  | [], c :: rest => first? (Lowercase.lowercase c) rest

/-- The next character to be compared, and the reader behind it. -/
def next? (x : Reader) : Option (Char × Reader) := first? x.pending x.rest

@[simp] theorem text_start (name : String) : (start name).text = folded name := rfl

/-- **A step** takes the first character of the text, and there is one until the text is at its end. -/
theorem text_eq (x : Reader) :
    x.text = match x.next? with
      | none => []
      | some (c, x') => c :: x'.text := by
  obtain ⟨pending, rest⟩ := x
  unfold next?
  fun_induction first? pending rest with
  | case1 c pending rest => rfl
  | case2 => rfl
  | case3 c rest ih =>
    -- The form of the character that is read now waits.
    rw [← ih]
    rfl

theorem text_of_next? (step : x.next? = some (c, x')) : x.text = c :: x'.text := by
  rw [text_eq, step]

theorem text_of_end (done : x.next? = none) : x.text = [] := by
  rw [text_eq, done]

/-- The order of two names that are being read: the first characters that differ decide, and a name
that ends before is the smaller one. -/
def order (x y : Reader) : Ordering :=
  match _step : x.next?, y.next? with
  | none, none => .eq
  | none, some _ => .lt
  | some _, none => .gt
  | some (c, x'), some (d, y') => (Ord.compare c d).then (order x' y')
termination_by x.text.length
decreasing_by
  rw [text_of_next? _step]
  exact Nat.lt_succ_self _

/-- **Reading compares the texts.** -/
theorem order_eq (x y : Reader) : x.order y = Ord.compare x.text y.text := by
  fun_induction order x y with
  | case1 x y left right => rw [text_of_end left, text_of_end right, List.compare_nil_nil]
  | case2 x y step left right => rw [text_of_end left, text_of_next? right, List.compare_nil_cons]
  | case3 x y step left right => rw [text_of_next? left, text_of_end right, List.compare_cons_nil]
  | case4 x y c x' d y' left right ih =>
    rw [text_of_next? left, text_of_next? right, List.compare_cons_cons, ih]

end Reader

/-- Two names are compared while they are read, and no folded form is written down. -/
def compareReading (a b : String) : Ordering := (Reader.start a).order (Reader.start b)

theorem compareReading_eq (a b : String) : compareReading a b = compare a b := by
  simp only [compareReading, Reader.order_eq, Reader.text_start, compare]

/-! ## The laws -/

instance : Std.TransCmp compare where
  eq_swap := Std.OrientedOrd.eq_swap
  isLE_trans := Std.TransOrd.isLE_trans

theorem inOrder_iff_ne_gt {a b : String} : inOrder a b ↔ compare a b ≠ .gt := bne_iff_ne

/-- An order of names by which they can be sorted and searched: it does not depend on the side from
which two names are compared, it is total and transitive, names that are the same up to letter case
stand at one place, and the folded form of a name stands there too. -/
structure Lawful (order : String → String → Ordering) : Prop where
  reversed (a b : String) : order b a = (order a b).swap
  total (a b : String) : order a b ≠ .gt ∨ order b a ≠ .gt
  trans (a b c : String) (ab : order a b ≠ .gt) (bc : order b c ≠ .gt) : order a c ≠ .gt
  eq_iff (a b : String) : order a b = .eq ↔ folded a = folded b
  alike (a b c : String) (equal : order a b = .eq) : order a c = order b c ∧ order c a = order c b
  lowered (a : String) : order a (String.ofList (folded a)) = .eq

/-- **Names can be looked up in the order up to letter case**: it obeys the laws, its equality is that
of the folded forms, and it can be told while the names are read. -/
theorem lawful_compare : Lawful compare ∧ (∀ a b, same a b ↔ folded a = folded b) ∧
    ∀ a b, compareReading a b = compare a b := by
  refine ⟨?_, fun a b => same_iff, compareReading_eq⟩
  exact {
    reversed := fun a b => Std.OrientedCmp.eq_swap
    total := fun a b => (inOrder_total a b).imp inOrder_iff_ne_gt.1 inOrder_iff_ne_gt.1
    trans := fun a b c ab bc => by
      rw [← inOrder_iff_ne_gt] at *
      exact inOrder_trans ab bc
    eq_iff := fun a b => compare_eq_iff
    alike := fun a b c equal => ⟨Std.TransCmp.congr_left equal, Std.TransCmp.congr_right equal⟩
    lowered := fun a => compare_eq_iff.2 (folded_ofList_folded a).symm }

-- Names that are the same may differ in length.
example : same "\u0130fcWall" "i\u0307FCWALL" := by decide +kernel

end Express.Caseless
