import Express.Json.Piece

/-!
# How strings are spelt in JSON

Between its quotes a string is spelt piece by piece, and every piece in one of a few ways. What the
pieces stand for is a matter of 16-bit units: a character is written by itself or by its units.

* `Piece.Spelt`, `Piece.Content` — the spellings of a piece, and of all pieces between two quotes.
  `Piece.scan?_eq_some` says that reading up to the closing quote finds the pieces that are spelt
  there.
* `Piece.unitsOf`, `Piece.Stands` — the units of a character, and the pieces that stand for
  characters. `Piece.decode?_eq_some` says that decoding finds the characters.
* `Piece.spelt_ofChar`, `Piece.stands_ofString` — the pieces in which a string is written are spelt as
  JSON allows, and stand for the string.
-/

set_option autoImplicit false

namespace Express.Json.Piece

variable {pieces : List Piece} {body after cs : List Char} {a b c d letter : Char} {u v : UInt16}
  {value : Nat}

/-! ## The grammar -/

/-- The characters that have a spelling of a backslash and a letter, with their letters. -/
def escapes : List (Char × Char) :=
  [('"', '"'), ('\\', '\\'), ('/', '/'), ('\x08', 'b'), ('\x0c', 'f'), ('\n', 'n'), ('\r', 'r'),
    ('\t', 't')]

/-- The hexadecimal digits with their values, in either case. -/
def hexDigits : List (Char × Nat) :=
  [('0', 0), ('1', 1), ('2', 2), ('3', 3), ('4', 4), ('5', 5), ('6', 6), ('7', 7), ('8', 8), ('9', 9),
    ('a', 10), ('b', 11), ('c', 12), ('d', 13), ('e', 14), ('f', 15), ('A', 10), ('B', 11), ('C', 12),
    ('D', 13), ('E', 14), ('F', 15)]

/-- A spelling that JSON allows for a piece. -/
inductive Spelt : Piece → List Char → Prop
  /-- Anything but control characters, quotes and backslashes stands for itself. -/
  | plain {c : Char} (printable : 0x20 ≤ c.toNat) (quote : c ≠ '"') (backslash : c ≠ '\\') :
    Spelt (.char c) [c]
  | escaped {c letter : Char} (known : (c, letter) ∈ escapes) : Spelt (.char c) ['\\', letter]
  | unit {u : UInt16} {a b c d : Char} {i j k l : Nat} (first : (a, i) ∈ hexDigits)
    (second : (b, j) ∈ hexDigits) (third : (c, k) ∈ hexDigits) (fourth : (d, l) ∈ hexDigits)
    (value : u.toNat = ((i * 16 + j) * 16 + k) * 16 + l) : Spelt (.unit u) ['\\', 'u', a, b, c, d]

/-- A spelling of all pieces between two quotes. -/
inductive Content : List Piece → List Char → Prop
  | nil : Content [] []
  | cons {piece : Piece} {pieces : List Piece} {chars body : List Char} (first : Spelt piece chars)
    (rest : Content pieces body) : Content (piece :: pieces) (chars ++ body)

/-- The 16-bit units of a character: one, or a pair of surrogates. -/
def unitsOf (c : Char) : List UInt16 :=
  if c.toNat < 0x10000 then [UInt16.ofNat c.toNat]
  else [UInt16.ofNat (0xD800 + (c.toNat - 0x10000) / 0x400),
    UInt16.ofNat (0xDC00 + (c.toNat - 0x10000) % 0x400)]

/-- Pieces that stand for characters: each character is written by itself or by its units. -/
inductive Stands : List Piece → List Char → Prop
  | nil : Stands [] []
  | char {c : Char} {pieces : List Piece} {cs : List Char} (rest : Stands pieces cs) :
    Stands (.char c :: pieces) (c :: cs)
  | units {c : Char} {pieces : List Piece} {cs : List Char} (rest : Stands pieces cs) :
    Stands ((unitsOf c).map .unit ++ pieces) (c :: cs)

/-! ## Escapes -/

/-- **A letter behind a backslash** stands for the character that has it. -/
theorem ofLetter?_eq_some : ofLetter? letter = some c ↔ (c, letter) ∈ escapes := by
  constructor
  · intro known
    unfold ofLetter? at known
    split at known
    · rename_i slash
      cases known
      subst slash
      decide
    · obtain ⟨⟨x, l⟩, found, rfl⟩ := Option.map_eq_some_iff.1 known
      have same := List.find?_some found
      rw [decide_eq_true_eq] at same
      subst same
      exact (by decide : ∀ p ∈ letters, p ∈ escapes) _ (List.mem_of_find?_eq_some found)
  · intro mem
    exact (by decide : ∀ p ∈ escapes, ofLetter? p.2 = some p.1) _ mem

/-- **A hexadecimal digit** has its value. -/
theorem hexValue?_eq_some : hexValue? c = some value ↔ (c, value) ∈ hexDigits := by
  constructor
  · intro known
    have below {top : Char} (le : c ≤ top) (low : top.toNat < 128) : c.toNat < 128 :=
      Nat.lt_of_le_of_lt (UInt32.le_iff_toNat_le.1 (Char.le_def.1 le)) low
    have low : c.toNat < 128 := by
      unfold hexValue? at known
      simp only [Bool.and_eq_true, decide_eq_true_eq] at known
      split at known
      · rename_i range
        exact below range.2 (by decide)
      · split at known
        · rename_i range
          exact below range.2 (by decide)
        · split at known
          · rename_i range
            exact below range.2 (by decide)
          · cases known
    -- Digits are ASCII characters, and those can be gone through.
    have checked : ∀ n < 128, ∀ v ∈ hexValue? (Char.ofNat n), (Char.ofNat n, v) ∈ hexDigits := by
      decide +kernel
    have := checked c.toNat low value
    rw [Char.ofNat_toNat] at this
    exact this known
  · intro mem
    exact (by decide : ∀ p ∈ hexDigits, hexValue? p.1 = some p.2) _ mem

theorem value_lt_of_mem (mem : (c, value) ∈ hexDigits) : value < 16 :=
  (by decide : ∀ p ∈ hexDigits, p.2 < 16) _ mem

theorem value_lt_size {i j k l : Nat} (first : (a, i) ∈ hexDigits) (second : (b, j) ∈ hexDigits)
    (third : (c, k) ∈ hexDigits) (fourth : (d, l) ∈ hexDigits) :
    ((i * 16 + j) * 16 + k) * 16 + l < UInt16.size := by
  have := value_lt_of_mem first
  have := value_lt_of_mem second
  have := value_lt_of_mem third
  have := value_lt_of_mem fourth
  rw [UInt16.size]
  omega

/-- **Four digits** spell the unit that has their value. -/
theorem hexUnit?_eq_some : hexUnit? a b c d = some u ↔ Spelt (.unit u) ['\\', 'u', a, b, c, d] := by
  have horner (i j k l : Nat) : i * 0x1000 + j * 0x100 + k * 0x10 + l =
      ((i * 16 + j) * 16 + k) * 16 + l := by omega
  unfold hexUnit?
  simp only [Option.bind_eq_bind, Option.bind_eq_some_iff, Option.pure_def, Option.some.injEq,
    hexValue?_eq_some, horner]
  constructor
  · rintro ⟨i, first, j, second, k, third, l, fourth, rfl⟩
    exact .unit first second third fourth
      (UInt16.toNat_ofNat_of_lt' (value_lt_size first second third fourth))
  · intro spelt
    cases spelt with
    | unit first second third fourth value =>
      refine ⟨_, first, _, second, _, third, _, fourth, UInt16.toNat_inj.1 ?_⟩
      rw [value, UInt16.toNat_ofNat_of_lt' (value_lt_size first second third fourth)]

/-! ## Reading up to the closing quote -/

theorem scan?_append {piece : Piece} {chars : List Char} (spelt : Spelt piece chars) :
    scan? (chars ++ cs) = (scan? cs).map fun (pieces, after) => (piece :: pieces, after) := by
  cases spelt with
  | plain printable quote backslash =>
    rw [List.singleton_append, scan?]
    case x_1 => exact quote
    case x_2 => exact fun _ _ _ _ _ same _ => backslash same
    case x_3 => exact fun _ _ same _ => backslash same
    rw [if_neg]
    · cases scan? cs <;> rfl
    · simp only [Bool.or_eq_true, decide_eq_true_eq, not_or]
      exact ⟨backslash, by omega⟩
  | escaped known =>
    rw [List.cons_append, List.singleton_append, scan?, ofLetter?_eq_some.2 known]
    case x_1 =>
      rintro a b c d rest rfl -
      exact absurd known ((by decide : ∀ p ∈ escapes, p.2 ≠ 'u') _ · rfl)
    cases scan? cs <;> rfl
  | unit first second third fourth value =>
    simp only [List.cons_append, List.nil_append]
    rw [scan?, hexUnit?_eq_some.2 (.unit first second third fourth value)]
    cases scan? cs <;> rfl

/-- What is read is spelt there, and a quote follows it. -/
theorem content_of_scan? (read : scan? cs = some (pieces, after)) :
    ∃ body, Content pieces body ∧ cs = body ++ '"' :: after := by
  fun_induction scan? cs generalizing pieces after with
  | case1 => cases read
  | case2 rest =>
    cases read
    exact ⟨[], .nil, rfl⟩
  | case3 a b c d rest ih =>
    simp only [Option.bind_eq_bind, Option.bind_eq_some_iff, Option.pure_def, Option.some.injEq,
      Prod.mk.injEq] at read
    obtain ⟨u, unit, ⟨_, _⟩, scanned, rfl, rfl⟩ := read
    obtain ⟨body, content, rfl⟩ := ih scanned
    exact ⟨_, .cons (hexUnit?_eq_some.1 unit) content, rfl⟩
  | case4 letter rest _ ih =>
    simp only [Option.bind_eq_bind, Option.bind_eq_some_iff, Option.pure_def, Option.some.injEq,
      Prod.mk.injEq] at read
    obtain ⟨c, known, ⟨_, _⟩, scanned, rfl, rfl⟩ := read
    obtain ⟨body, content, rfl⟩ := ih scanned
    exact ⟨_, .cons (.escaped (ofLetter?_eq_some.1 known)) content, rfl⟩
  | case5 => cases read
  | case6 c rest quote _ _ allowed ih =>
    simp only [Option.bind_eq_bind, Option.bind_eq_some_iff, Option.pure_def, Option.some.injEq,
      Prod.mk.injEq] at read
    obtain ⟨⟨_, _⟩, scanned, rfl, rfl⟩ := read
    obtain ⟨body, content, rfl⟩ := ih scanned
    simp only [Bool.or_eq_true, decide_eq_true_eq, not_or, Nat.not_lt] at allowed
    exact ⟨_, .cons (.plain allowed.2 quote allowed.1) content, rfl⟩

/-- **Reading up to the closing quote** finds the pieces that are spelt before it. -/
theorem scan?_eq_some : scan? cs = some (pieces, after) ↔
    ∃ body, Content pieces body ∧ cs = body ++ '"' :: after := by
  refine ⟨content_of_scan?, ?_⟩
  rintro ⟨body, content, rfl⟩
  induction content with
  | nil => rfl
  | cons first rest ih => rw [List.append_assoc, scan?_append first, ih, Option.map_some]

/-! ## Units and characters -/

theorem isHigh_iff : isHigh u ↔ 0xD800 ≤ u.toNat ∧ u.toNat ≤ 0xDBFF := by
  simp [isHigh, UInt16.le_iff_toNat_le]

theorem isLow_iff : isLow u ↔ 0xDC00 ≤ u.toNat ∧ u.toNat ≤ 0xDFFF := by
  simp [isLow, UInt16.le_iff_toNat_le]

theorem toNat_valid (c : Char) :
    c.toNat < 0xD800 ∨ 0xDFFF < c.toNat ∧ c.toNat < 0x110000 := c.valid

theorem toNat_ofNat {n : Nat} (valid : n < 0xD800 ∨ 0xDFFF < n ∧ n < 0x110000) :
    (Char.ofNat n).toNat = n := by
  rw [Char.ofNat, dif_pos valid]
  rfl

theorem unitsOf_pair (high : isHigh u) (low : isLow v) : unitsOf (pair u v) = [u, v] := by
  rw [isHigh_iff] at high
  rw [isLow_iff] at low
  have value : (pair u v).toNat = 0x10000 + (u.toNat - 0xD800) * 0x400 + (v.toNat - 0xDC00) := by
    rw [pair, toNat_ofNat]
    omega
  have first : 0xD800 + ((pair u v).toNat - 0x10000) / 0x400 = u.toNat := by omega
  have second : 0xDC00 + ((pair u v).toNat - 0x10000) % 0x400 = v.toNat := by omega
  rw [unitsOf, if_neg (by omega), first, second, UInt16.ofNat_toNat, UInt16.ofNat_toNat]

theorem unitsOf_ofNat (high : ¬ isHigh u) (low : ¬ isLow u) : unitsOf (Char.ofNat u.toNat) = [u] := by
  rw [isHigh_iff] at high
  rw [isLow_iff] at low
  have bound := u.toNat_lt
  rw [unitsOf, toNat_ofNat (by omega), if_pos (by omega), UInt16.ofNat_toNat]

/-- **The units of a character** are decoded to it. -/
theorem decode?_units (c : Char) (pieces : List Piece) :
    decode? ((unitsOf c).map .unit ++ pieces) = (decode? pieces).map (c :: ·) := by
  have valid := toNat_valid c
  unfold unitsOf
  split
  · rename_i basic
    have value : (UInt16.ofNat c.toNat).toNat = c.toNat := UInt16.toNat_ofNat_of_lt' basic
    rw [List.map_singleton, List.singleton_append, decode?.eq_def]
    dsimp only
    rw [if_neg, if_neg, value, Char.ofNat_toNat]
    · rw [isLow_iff]
      omega
    · rw [isHigh_iff]
      omega
  · rename_i above
    have first : (UInt16.ofNat (0xD800 + (c.toNat - 0x10000) / 0x400)).toNat =
        0xD800 + (c.toNat - 0x10000) / 0x400 :=
      UInt16.toNat_ofNat_of_lt' (by simp only [UInt16.size]; omega)
    have second : (UInt16.ofNat (0xDC00 + (c.toNat - 0x10000) % 0x400)).toNat =
        0xDC00 + (c.toNat - 0x10000) % 0x400 :=
      UInt16.toNat_ofNat_of_lt' (by simp only [UInt16.size]; omega)
    have joined : pair (UInt16.ofNat (0xD800 + (c.toNat - 0x10000) / 0x400))
        (UInt16.ofNat (0xDC00 + (c.toNat - 0x10000) % 0x400)) = c := by
      apply Char.toNat_inj.1
      rw [pair, first, second, toNat_ofNat] <;> omega
    simp only [List.map_cons, List.map_nil, List.cons_append, List.nil_append]
    rw [decode?, if_pos, if_pos, joined]
    · rw [isLow_iff]
      omega
    · rw [isHigh_iff]
      omega

/-- **Decoding** finds the characters that pieces stand for. -/
theorem decode?_eq_some : decode? pieces = some cs ↔ Stands pieces cs := by
  constructor
  · intro decoded
    fun_induction decode? pieces generalizing cs with
    | case1 =>
      cases decoded
      exact .nil
    | case2 c rest ih =>
      obtain ⟨cs, tail, rfl⟩ := Option.map_eq_some_iff.1 decoded
      exact .char (ih tail)
    | case3 u high v rest low ih =>
      obtain ⟨cs, tail, rfl⟩ := Option.map_eq_some_iff.1 decoded
      have stands := Stands.units (c := pair u v) (ih tail)
      rwa [unitsOf_pair high low] at stands
    | case4 => cases decoded
    | case5 => cases decoded
    | case6 => cases decoded
    | case7 u rest high low ih =>
      obtain ⟨cs, tail, rfl⟩ := Option.map_eq_some_iff.1 decoded
      have stands := Stands.units (c := Char.ofNat u.toNat) (ih tail)
      rwa [unitsOf_ofNat high low] at stands
  · intro stands
    induction stands with
    | nil => rfl
    | char rest ih => rw [decode?, ih, Option.map_some]
    | units rest ih => rw [decode?_units, ih, Option.map_some]

/-! ## Writing -/

theorem spelt_unit (u : UInt16) : Spelt (.unit u) (spell (.unit u)) := by
  have digit {n : Nat} (low : n < 16) : (hexDigit n, n) ∈ hexDigits :=
    (by decide : ∀ n < 16, (hexDigit n, n) ∈ hexDigits) n low
  have bound := u.toNat_lt
  refine .unit (digit ?_) (digit ?_) (digit ?_) (digit ?_) ?_ <;> omega

theorem mem_escapes (known : letter? c = some letter) : (c, letter) ∈ escapes := by
  obtain ⟨before, behind, split, -⟩ := List.lookup_eq_some_iff.1 known
  have mem : (c, letter) ∈ letters := split ▸ List.mem_append_right _ List.mem_cons_self
  exact (by decide : ∀ p ∈ letters, p ∈ escapes) _ mem

/-- **A character is written** in a spelling that JSON allows. -/
theorem spelt_ofChar (c : Char) : Spelt (ofChar c) (spell (ofChar c)) := by
  unfold ofChar
  split
  · exact spelt_unit _
  · rename_i alone
    cases known : letter? c with
    | some letter =>
      rw [spell, known]
      exact .escaped (mem_escapes known)
    | none =>
      rw [spell, known]
      simp only [needsUnit, known, Bool.and_eq_true, decide_eq_true_eq, Option.isNone_none,
        and_true, Nat.not_lt] at alone
      refine .plain alone ?_ ?_
      · rintro rfl
        cases known
      · rintro rfl
        cases known

theorem content_ofString (s : String) : Content (ofString s) ((ofString s).flatMap spell) := by
  unfold ofString
  induction s.toList with
  | nil => exact .nil
  | cons c cs ih => exact .cons (spelt_ofChar c) ih

/-- **The pieces in which a string is written** stand for the string. -/
theorem stands_ofString (s : String) : Stands (ofString s) s.toList := by
  unfold ofString
  induction s.toList with
  | nil => exact .nil
  | cons c cs ih =>
    rw [List.map_cons, ofChar]
    split
    · rename_i alone
      have control : c.toNat < 0x20 := by
        simp only [needsUnit, Bool.and_eq_true, decide_eq_true_eq] at alone
        exact alone.1
      have stands := Stands.units (c := c) ih
      rwa [unitsOf, if_pos (by omega), List.map_singleton, List.singleton_append] at stands
    · exact .char ih

end Express.Json.Piece
