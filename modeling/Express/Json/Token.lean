import Express.Json.Piece

/-!
# JSON tokens

* `Token` is a token of a JSON text: a bracket, a separator, a word, a number or a string.
* `Token.text` writes a token.
* `Token.ofText?` cuts a text into tokens and drops the blanks between them. A number extends as
  far as characters of numbers follow each other.
-/

set_option autoImplicit false

namespace Express.Json

/-- A token of a JSON text. A number is kept as it is written. -/
inductive Token where
  | leftBrace
  | rightBrace
  | leftBracket
  | rightBracket
  | comma
  | colon
  | null
  | bool (value : Bool)
  | number (lexeme : List Char)
  | string (body : List Piece)
  deriving DecidableEq

namespace Token

/-! ## Numbers -/

/-- Do the characters form the digits of an exponent, with or without a sign? -/
def isSignedDigits : List Char → Bool
  | '+' :: rest | '-' :: rest => !rest.isEmpty && rest.all Char.isDigit
  | rest => !rest.isEmpty && rest.all Char.isDigit

/-- Do the characters form an exponent, or are there none? -/
def isExponent : List Char → Bool
  | [] => true
  | e :: rest => (e = 'e' || e = 'E') && isSignedDigits rest

/-- Do the characters form what may follow the whole part of a number? -/
def isFraction : List Char → Bool
  | '.' :: digit :: rest => digit.isDigit && isExponent (rest.dropWhile Char.isDigit)
  | rest => isExponent rest

/-- Do the characters form a number without a sign? A whole part of several digits begins with a
digit other than zero. -/
def isUnsigned : List Char → Bool
  | [] => false
  | '0' :: rest => isFraction rest
  | digit :: rest => digit.isDigit && isFraction (rest.dropWhile Char.isDigit)

/-- Do the characters form a number? -/
def isNumber : List Char → Bool
  | '-' :: rest => isUnsigned rest
  | cs => isUnsigned cs

/-- Can a character occur in a number? -/
def inNumber (c : Char) : Bool :=
  c.isDigit || c = '-' || c = '+' || c = '.' || c = 'e' || c = 'E'

/-! ## Writing -/

/-- The text of a token. -/
def text : Token → List Char
  | leftBrace => ['{']
  | rightBrace => ['}']
  | leftBracket => ['[']
  | rightBracket => [']']
  | comma => [',']
  | colon => [':']
  | null => "null".toList
  | bool true => "true".toList
  | bool false => "false".toList
  | number lexeme => lexeme
  | string body => '"' :: body.flatMap Piece.spell ++ ['"']

/-! ## Reading -/

/-- The characters that may stand between tokens. -/
def isBlank (c : Char) : Bool := c = ' ' || c = '\t' || c = '\n' || c = '\r'

/-- The brackets and separators. -/
def punctuation : List Token := [leftBrace, rightBrace, leftBracket, rightBracket, comma, colon]

/-- The words. -/
def words : List Token := [null, bool true, bool false]

/-- The number at the beginning of a text, and what follows it. -/
def scanNumber? (cs : List Char) : Option (Token × List Char) :=
  let lexeme := cs.takeWhile inNumber
  if isNumber lexeme then some (number lexeme, cs.dropWhile inNumber) else none

/-- The first of some tokens whose text begins the given text, and what follows it. -/
def scanFixed? (tokens : List Token) (cs : List Char) : Option (Token × List Char) :=
  (tokens.find? (·.text.isPrefixOf cs)).map fun token => (token, cs.drop token.text.length)

/-- The token at the beginning of a text, and what follows it. -/
def scan? (cs : List Char) : Option (Token × List Char) :=
  match cs with
  | [] => none
  | c :: rest =>
    if c = '"' then (Piece.scan? rest).map fun (body, after) => (string body, after)
    else if c.isDigit || c = '-' then scanNumber? cs
    else scanFixed? (punctuation ++ words) cs

/-- What follows a token is shorter than the text that begins with it. -/
theorem length_lt_of_scan? {cs after : List Char} {token : Token}
    (h : scan? cs = some (token, after)) : after.length < cs.length := by
  match cs with
  | [] => simp [scan?] at h
  | c :: rest =>
    simp only [scan?] at h
    split at h
    · obtain ⟨⟨body, tail⟩, hscan, heq⟩ := Option.map_eq_some_iff.1 h
      simp only [Prod.mk.injEq] at heq
      have := Piece.length_le_of_scan? hscan
      simp only [List.length_cons, ← heq.2]
      omega
    · split at h
      next hstart =>
        have hc : inNumber c = true := by
          simp only [Bool.or_eq_true] at hstart
          rcases hstart with hdigit | hsign <;> simp_all [inNumber]
        simp only [scanNumber?] at h
        split at h
        · simp only [Option.some.injEq, Prod.mk.injEq] at h
          have := (List.dropWhile_sublist inNumber (l := rest)).length_le
          simp only [← h.2, List.dropWhile_cons, hc, if_true, List.length_cons]
          omega
        · cases h
      · simp only [scanFixed?] at h
        obtain ⟨found, hfind, heq⟩ := Option.map_eq_some_iff.1 h
        simp only [Prod.mk.injEq] at heq
        have hmem := List.mem_of_find?_eq_some hfind
        have hpos : 0 < found.text.length := by
          simp only [punctuation, words, List.cons_append, List.nil_append, List.mem_cons,
            List.not_mem_nil, or_false] at hmem
          rcases hmem with rfl | rfl | rfl | rfl | rfl | rfl | rfl | rfl | rfl <;> decide
        simp only [← heq.2, List.length_drop, List.length_cons]
        omega

/-- The tokens of a text. -/
def ofText? (cs : List Char) : Option (List Token) :=
  match cs with
  | [] => some []
  | c :: rest =>
    if isBlank c then ofText? rest
    else
      match _found : scan? (c :: rest) with
      | none => none
      | some (token, after) => (ofText? after).map (token :: ·)
termination_by cs.length
decreasing_by
  · exact Nat.lt_succ_self _
  · exact length_lt_of_scan? _found

end Token

end Express.Json
