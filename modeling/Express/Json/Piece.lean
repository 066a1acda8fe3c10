/-!
# Contents of JSON strings

Between its quotes a JSON string is a sequence of pieces. A character stands for itself or is
written by a backslash and a letter; a 16-bit unit is written by a backslash, the letter u and four
hexadecimal digits.

* `Piece` is a character or a unit. `Piece.decode?` puts units together to characters: two
  surrogates in the right order make one, and a surrogate on its own stands for none.
* `Piece.ofString` gives the pieces in which a string is written, and `Piece.spell` their spelling.
* `Piece.scan?` reads pieces up to the closing quote, in any spelling that JSON allows.
-/

set_option autoImplicit false

namespace Express.Json

/-- A piece of the content of a JSON string. -/
inductive Piece where
  | char (c : Char)
  | unit (value : UInt16)
  deriving DecidableEq

namespace Piece

/-! ## Units and characters -/

/-- Is a unit the first half of a pair of surrogates? -/
def isHigh (u : UInt16) : Bool := 0xD800 ≤ u && u ≤ 0xDBFF

/-- Is a unit the second half of a pair of surrogates? -/
def isLow (u : UInt16) : Bool := 0xDC00 ≤ u && u ≤ 0xDFFF

/-- The character of a pair of surrogates. -/
def pair (high low : UInt16) : Char :=
  Char.ofNat (0x10000 + (high.toNat - 0xD800) * 0x400 + (low.toNat - 0xDC00))

/-- The characters that pieces stand for; none if a surrogate is not part of a pair. -/
def decode? : List Piece → Option (List Char)
  | [] => some []
  | .char c :: rest => (decode? rest).map (c :: ·)
  | .unit u :: rest =>
    if isHigh u then
      match rest with
      | .unit v :: rest => if isLow v then (decode? rest).map (pair u v :: ·) else none
      | _ => none
    else if isLow u then none
    else (decode? rest).map (Char.ofNat u.toNat :: ·)

/-! ## Escapes -/

/-- The characters that are written by a backslash and a letter, with their letters. -/
def letters : List (Char × Char) :=
  [('"', '"'), ('\\', '\\'), ('\x08', 'b'), ('\t', 't'), ('\n', 'n'), ('\x0c', 'f'), ('\r', 'r')]

/-- The letter by which a character is written. -/
def letter? (c : Char) : Option Char := letters.lookup c

/-- The character that a letter behind a backslash stands for. A slash may be written so, too. -/
def ofLetter? (letter : Char) : Option Char :=
  if letter = '/' then some '/' else (letters.find? (·.2 = letter)).map (·.1)

/-- The value of a hexadecimal digit in either case. -/
def hexValue? (c : Char) : Option Nat :=
  if '0' ≤ c && c ≤ '9' then some (c.toNat - '0'.toNat)
  else if 'a' ≤ c && c ≤ 'f' then some (c.toNat - 'a'.toNat + 10)
  else if 'A' ≤ c && c ≤ 'F' then some (c.toNat - 'A'.toNat + 10)
  else none

/-- The hexadecimal digit of a value below 16. -/
def hexDigit (value : Nat) : Char :=
  if value < 10 then Char.ofNat ('0'.toNat + value) else Char.ofNat ('a'.toNat + (value - 10))

/-- The unit with these hexadecimal digits. -/
def hexUnit? (a b c d : Char) : Option UInt16 := do
  return UInt16.ofNat
    ((← hexValue? a) * 0x1000 + (← hexValue? b) * 0x100 + (← hexValue? c) * 0x10 + (← hexValue? d))

/-! ## Writing -/

/-- Is a character outside what may stand between quotes as it is, and without a letter? -/
def needsUnit (c : Char) : Bool := c.toNat < 0x20 && (letter? c).isNone

/-- The piece as which a character is written. -/
def ofChar (c : Char) : Piece := if needsUnit c then .unit (UInt16.ofNat c.toNat) else .char c

/-- The pieces as which a string is written. -/
def ofString (s : String) : List Piece := s.toList.map ofChar

/-- The spelling of a piece: a letter where a character has one, lower-case digits in a unit. -/
def spell : Piece → List Char
  | .char c =>
    match letter? c with
    | some letter => ['\\', letter]
    | none => [c]
  | .unit u =>
    ['\\', 'u', hexDigit (u.toNat / 0x1000), hexDigit (u.toNat / 0x100 % 0x10),
      hexDigit (u.toNat / 0x10 % 0x10), hexDigit (u.toNat % 0x10)]

/-! ## Reading -/

/-- The pieces up to the closing quote, and what follows the quote. Control characters and
unknown escapes are refused. -/
def scan? : List Char → Option (List Piece × List Char)
  | [] => none
  | '"' :: rest => some ([], rest)
  | '\\' :: 'u' :: a :: b :: c :: d :: rest => do
    let u ← hexUnit? a b c d
    let (pieces, after) ← scan? rest
    return (.unit u :: pieces, after)
  | '\\' :: letter :: rest => do
    let c ← ofLetter? letter
    let (pieces, after) ← scan? rest
    return (.char c :: pieces, after)
  | c :: rest =>
    if c = '\\' || c.toNat < 0x20 then none
    else do
      let (pieces, after) ← scan? rest
      return (.char c :: pieces, after)

/-- What follows a string is no longer than the text behind its opening quote. -/
theorem length_le_of_scan? {cs after : List Char} {pieces : List Piece}
    (h : scan? cs = some (pieces, after)) : after.length ≤ cs.length := by
  fun_induction scan? cs generalizing pieces after with
  | case1 => cases h
  | case2 rest => simp_all
  | case3 a b c d rest ih =>
    simp only [Option.bind_eq_bind, Option.bind_eq_some_iff, Option.pure_def, Option.some.injEq,
      Prod.mk.injEq] at h
    obtain ⟨_, _, ⟨pieces', after'⟩, hscan, _, rfl⟩ := h
    have := ih hscan
    simp only [List.length_cons]
    omega
  | case4 letter rest _ ih =>
    simp only [Option.bind_eq_bind, Option.bind_eq_some_iff, Option.pure_def, Option.some.injEq,
      Prod.mk.injEq] at h
    obtain ⟨_, _, ⟨pieces', after'⟩, hscan, _, rfl⟩ := h
    have := ih hscan
    simp only [List.length_cons]
    omega
  | case5 => cases h
  | case6 c rest _ _ _ _ ih =>
    simp only [Option.bind_eq_bind, Option.bind_eq_some_iff, Option.pure_def, Option.some.injEq,
      Prod.mk.injEq] at h
    obtain ⟨⟨pieces', after'⟩, hscan, _, rfl⟩ := h
    have := ih hscan
    simp only [List.length_cons]
    omega

end Piece

end Express.Json
