import Express.Json.Token
import Express.Proofs.Spelling
import Mathlib.Data.List.Chain
import Mathlib.Data.List.TakeWhile

/-!
# How tokens are laid out in a text

A text is a row of tokens, each in a spelling that JSON allows, with blanks anywhere between them.

* `Token.Number` — the grammar of numbers; `Token.isNumber_iff` says that the check of a lexeme
  follows it.
* `Token.Spelt`, `Token.Laid` — the spellings of a token, and the texts in which tokens are laid out.
* `Token.scan?_eq_some` — the token at the beginning of a text is one that is spelt there. A number
  goes on as far as it can.
* `Token.ofText?_eq_some` — so a text is cut into the tokens that are laid out in it, where no number
  stands directly before another.
-/

set_option autoImplicit false

namespace Express.Json.Token

variable {cs ds after chars : List Char} {token : Token} {tokens : List Token}

/-! ## The grammar of numbers -/

def Digits (ds : List Char) : Prop := ds ≠ [] ∧ ∀ c ∈ ds, c.isDigit

/-- The part of a number behind the point, with the point. -/
inductive Fraction : List Char → Prop
  | absent : Fraction []
  | present {ds : List Char} (digits : Digits ds) : Fraction ('.' :: ds)

inductive Exponent : List Char → Prop
  | absent : Exponent []
  | present {letter : Char} {sign ds : List Char} (marked : letter = 'e' ∨ letter = 'E')
    (signed : sign = [] ∨ sign = ['+'] ∨ sign = ['-']) (digits : Digits ds) :
    Exponent (letter :: (sign ++ ds))

inductive Number : List Char → Prop
  /-- A whole part of several digits does not begin with a zero. -/
  | of {sign whole fraction exponent : List Char} (signed : sign = [] ∨ sign = ['-'])
    (digits : Digits whole) (leading : whole.head? = some '0' → whole = ['0'])
    (fractional : Fraction fraction) (scaled : Exponent exponent) :
    Number (sign ++ (whole ++ (fraction ++ exponent)))

theorem digits_iff : Digits ds ↔ (!ds.isEmpty && ds.all Char.isDigit) = true := by
  simp [Digits]

/-- A stretch of characters of a class ends before a character that is not in it. -/
theorem stretch {p : Char → Bool} (all : ∀ c ∈ ds, p c = true)
    (stop : ∀ c ∈ after.head?, p c = false) :
    (ds ++ after).takeWhile p = ds ∧ (ds ++ after).dropWhile p = after := by
  rw [List.takeWhile_append_of_pos all, List.dropWhile_append_of_pos all]
  cases after with
  | nil => simp
  | cons c rest => simp [stop c rfl]

theorem isSignedDigits_iff : isSignedDigits cs = true ↔
    ∃ sign ds, (sign = [] ∨ sign = ['+'] ∨ sign = ['-']) ∧ Digits ds ∧ cs = sign ++ ds := by
  constructor
  · intro signed
    unfold isSignedDigits at signed
    split at signed
    · exact ⟨['+'], _, .inr (.inl rfl), digits_iff.2 signed, rfl⟩
    · exact ⟨['-'], _, .inr (.inr rfl), digits_iff.2 signed, rfl⟩
    · exact ⟨[], _, .inl rfl, digits_iff.2 signed, rfl⟩
  · rintro ⟨sign, ds, rfl | rfl | rfl, digits, rfl⟩
    · rw [isSignedDigits]
      · exact digits_iff.1 digits
      · rintro rest rfl
        exact absurd (digits.2 '+' List.mem_cons_self) (by decide)
      · rintro rest rfl
        exact absurd (digits.2 '-' List.mem_cons_self) (by decide)
    · exact digits_iff.1 digits
    · exact digits_iff.1 digits

theorem isExponent_iff : isExponent cs = true ↔ Exponent cs := by
  cases cs with
  | nil => exact ⟨fun _ => .absent, fun _ => rfl⟩
  | cons letter rest =>
    simp only [isExponent, Bool.and_eq_true, Bool.or_eq_true, decide_eq_true_eq, isSignedDigits_iff]
    constructor
    · rintro ⟨marked, sign, ds, signed, digits, rfl⟩
      exact .present marked signed digits
    · intro scaled
      cases scaled with
      | present marked signed digits => exact ⟨marked, _, _, signed, digits, rfl⟩

theorem Exponent.stops (scaled : Exponent cs) : ∀ c ∈ cs.head?, c.isDigit = false ∧ c ≠ '.' := by
  cases scaled with
  | absent => simp
  | present marked signed digits =>
    rintro c ⟨⟩
    rcases marked with rfl | rfl <;> decide

theorem isFraction_iff : isFraction cs = true ↔
    ∃ fraction exponent, Fraction fraction ∧ Exponent exponent ∧ cs = fraction ++ exponent := by
  constructor
  · intro fractional
    unfold isFraction at fractional
    split at fractional
    · rename_i digit rest
      rw [Bool.and_eq_true, isExponent_iff] at fractional
      refine ⟨'.' :: digit :: rest.takeWhile Char.isDigit, _, .present ⟨nofun, ?_⟩, fractional.2, ?_⟩
      · exact List.forall_mem_cons.2 ⟨fractional.1, fun c => List.mem_takeWhile_imp⟩
      · simp
    · exact ⟨[], _, .absent, isExponent_iff.1 fractional, rfl⟩
  · rintro ⟨fraction, exponent, fractional, scaled, rfl⟩
    cases fractional with
    | absent =>
      rw [List.nil_append, isFraction]
      · exact isExponent_iff.2 scaled
      · rintro digit rest rfl
        exact absurd rfl (scaled.stops '.' rfl).2
    | @present ds digits =>
      obtain ⟨some_digit, all⟩ := digits
      obtain ⟨digit, ds, rfl⟩ := List.exists_cons_of_ne_nil some_digit
      obtain ⟨first, others⟩ := List.forall_mem_cons.1 all
      rw [List.cons_append, List.cons_append, isFraction, first, Bool.true_and,
        (stretch others fun c mem => (scaled.stops c mem).1).2]
      exact isExponent_iff.2 scaled

theorem isUnsigned_iff : isUnsigned cs = true ↔ ∃ whole fraction exponent, Digits whole ∧
    (whole.head? = some '0' → whole = ['0']) ∧ Fraction fraction ∧ Exponent exponent ∧
    cs = whole ++ (fraction ++ exponent) := by
  constructor
  · intro unsigned
    unfold isUnsigned at unsigned
    split at unsigned
    · cases unsigned
    · obtain ⟨fraction, exponent, fractional, scaled, rfl⟩ := isFraction_iff.1 unsigned
      exact ⟨['0'], fraction, exponent, ⟨nofun, List.forall_mem_singleton.2 rfl⟩, fun _ => rfl,
        fractional, scaled, rfl⟩
    · rename_i digit rest other
      rw [Bool.and_eq_true, isFraction_iff] at unsigned
      obtain ⟨first, fraction, exponent, fractional, scaled, split⟩ := unsigned
      refine ⟨digit :: rest.takeWhile Char.isDigit, fraction, exponent, ⟨nofun, ?_⟩, fun zero => ?_,
        fractional, scaled, ?_⟩
      · exact List.forall_mem_cons.2 ⟨first, fun c => List.mem_takeWhile_imp⟩
      · exact absurd (Option.some.inj zero) other
      · rw [List.cons_append, ← split, List.takeWhile_append_dropWhile]
  · rintro ⟨whole, fraction, exponent, ⟨some_digit, all⟩, leading, fractional, scaled, rfl⟩
    obtain ⟨digit, ds, rfl⟩ := List.exists_cons_of_ne_nil some_digit
    obtain ⟨first, others⟩ := List.forall_mem_cons.1 all
    have behind : isFraction (fraction ++ exponent) = true :=
      isFraction_iff.2 ⟨fraction, exponent, fractional, scaled, rfl⟩
    by_cases zero : digit = '0'
    · subst zero
      cases leading rfl
      exact behind
    · have stop : ∀ c ∈ (fraction ++ exponent).head?, c.isDigit = false := by
        intro c mem
        cases fractional with
        | absent => exact (scaled.stops c mem).1
        | present => cases mem; rfl
      rw [List.cons_append, isUnsigned, first, Bool.true_and, (stretch others stop).2, behind]
      exact zero

/-- **The check of a lexeme** follows the grammar of numbers. -/
theorem isNumber_iff : isNumber cs = true ↔ Number cs := by
  constructor
  · intro number
    unfold isNumber at number
    split at number
    all_goals obtain ⟨whole, fraction, exponent, digits, leading, fractional, scaled, rfl⟩ :=
      isUnsigned_iff.1 number
    · exact .of (.inr rfl) digits leading fractional scaled
    · exact .of (.inl rfl) digits leading fractional scaled
  · rintro ⟨rfl | rfl, digits, leading, fractional, scaled⟩
    · rw [List.nil_append, isNumber]
      · exact isUnsigned_iff.2 ⟨_, _, _, digits, leading, fractional, scaled, rfl⟩
      · intro rest negative
        obtain ⟨digit, ds, rfl⟩ := List.exists_cons_of_ne_nil digits.1
        have first := digits.2 digit List.mem_cons_self
        rw [(List.cons.inj negative).1] at first
        exact absurd first (by decide)
    · exact isUnsigned_iff.2 ⟨_, _, _, digits, leading, fractional, scaled, rfl⟩

theorem Number.inNumber (number : Number cs) : ∀ c ∈ cs, inNumber c = true := by
  have digit {ds : List Char} (digits : Digits ds) : ∀ c ∈ ds, Token.inNumber c = true :=
    fun c mem => by simp [Token.inNumber, digits.2 c mem]
  obtain ⟨signed, digits, -, fractional, scaled⟩ := number
  simp only [List.forall_mem_append]
  refine ⟨?_, digit digits, ?_, ?_⟩
  · rcases signed with rfl | rfl
    · exact List.forall_mem_nil _
    · exact List.forall_mem_singleton.2 rfl
  · cases fractional with
    | absent => simp
    | present digits => exact List.forall_mem_cons.2 ⟨rfl, digit digits⟩
  · cases scaled with
    | absent => simp
    | present marked signed digits =>
      refine List.forall_mem_cons.2 ⟨?_, List.forall_mem_append.2 ⟨?_, digit digits⟩⟩
      · rcases marked with rfl | rfl <;> decide
      · rcases signed with rfl | rfl | rfl
        · exact List.forall_mem_nil _
        · exact List.forall_mem_singleton.2 rfl
        · exact List.forall_mem_singleton.2 rfl

theorem Number.begins (number : Number cs) :
    ∃ c rest, cs = c :: rest ∧ (c.isDigit || c = '-') = true := by
  obtain ⟨rfl | rfl, digits, -, -, -⟩ := number
  · obtain ⟨digit, ds, rfl⟩ := List.exists_cons_of_ne_nil digits.1
    exact ⟨digit, _, rfl, by simp [digits.2 digit List.mem_cons_self]⟩
  · exact ⟨'-', _, rfl, rfl⟩

/-! ## The grammar of tokens -/

/-- A spelling that JSON allows for a token. -/
inductive Spelt : Token → List Char → Prop
  | fixed {token : Token} (known : token ∈ punctuation ++ words) : Spelt token token.text
  | number {lexeme : List Char} (number : Number lexeme) : Spelt (.number lexeme) lexeme
  | string {pieces : List Piece} {body : List Char} (content : Piece.Content pieces body) :
    Spelt (.string pieces) ('"' :: (body ++ ['"']))

/-- The texts in which tokens are laid out, with blanks anywhere between them. -/
inductive Laid : List Token → List Char → Prop
  | nil : Laid [] []
  | blank {c : Char} {tokens : List Token} {cs : List Char} (blank : isBlank c = true)
    (rest : Laid tokens cs) : Laid tokens (c :: cs)
  | token {token : Token} {chars : List Char} {tokens : List Token} {cs : List Char}
    (first : Spelt token chars) (rest : Laid tokens cs) : Laid (token :: tokens) (chars ++ cs)

/-- Is the token a number? -/
def isNumeral : Token → Bool
  | number _ => true
  | _ => false

/-- A number ends before what follows it. -/
def EndsBefore (token : Token) (after : List Char) : Prop :=
  token.isNumeral = true → ∀ c ∈ after.head?, inNumber c = false

/-! ## One token -/

theorem fixed_cases (known : token ∈ punctuation ++ words) :
    token = leftBrace ∨ token = rightBrace ∨ token = leftBracket ∨ token = rightBracket ∨
      token = comma ∨ token = colon ∨ token = null ∨ token = bool true ∨ token = bool false := by
  simpa only [punctuation, words, List.cons_append, List.nil_append, List.mem_cons, List.not_mem_nil,
    or_false] using known

theorem isNumeral_of_fixed (known : token ∈ punctuation ++ words) : token.isNumeral = false :=
  (by decide : ∀ t ∈ punctuation ++ words, t.isNumeral = false) _ known

theorem scanNumber?_eq_some : scanNumber? cs = some (token, after) ↔
    ∃ lexeme, Number lexeme ∧ token = .number lexeme ∧ cs = lexeme ++ after ∧
      token.EndsBefore after := by
  unfold scanNumber?
  dsimp only
  constructor
  · intro read
    split at read
    · rename_i number
      cases read
      refine ⟨_, isNumber_iff.1 number, rfl, List.takeWhile_append_dropWhile.symm, ?_⟩
      intro _ c mem
      have stop := List.head?_dropWhile_not inNumber cs
      rwa [Option.mem_def.1 mem] at stop
    · cases read
  · rintro ⟨lexeme, number, rfl, rfl, ends⟩
    obtain ⟨taken, dropped⟩ := stretch number.inNumber (ends rfl)
    rw [taken, dropped, if_pos (isNumber_iff.2 number)]

theorem spelt_of_scanFixed? {known : List Token} (all : known ⊆ punctuation ++ words)
    (read : scanFixed? known cs = some (token, after)) :
    Spelt token token.text ∧ cs = token.text ++ after ∧ token.EndsBefore after := by
  obtain ⟨found, find, same⟩ := Option.map_eq_some_iff.1 read
  cases same
  have mem := all (List.mem_of_find?_eq_some find)
  have begins := List.isPrefixOf_iff_prefix.1
    (List.find?_some (p := fun t : Token => t.text.isPrefixOf cs) find)
  refine ⟨.fixed mem, (List.prefix_iff_eq_append.1 begins).symm, fun numeral => ?_⟩
  rw [isNumeral_of_fixed mem] at numeral
  cases numeral

/-- Brackets, separators and words have no common beginnings. -/
theorem scan?_fixed (known : token ∈ punctuation ++ words) :
    scan? (token.text ++ after) = some (token, after) := by
  rcases fixed_cases known with rfl | rfl | rfl | rfl | rfl | rfl | rfl | rfl | rfl <;> rfl

/-- **The token at the beginning of a text** is one that is spelt there, and a number goes on as far
as it can. -/
theorem scan?_eq_some : scan? cs = some (token, after) ↔
    ∃ chars, Spelt token chars ∧ cs = chars ++ after ∧ token.EndsBefore after := by
  constructor
  · intro read
    cases cs with
    | nil => cases read
    | cons c rest =>
      rw [scan?] at read
      split at read
      · rename_i quote
        obtain ⟨⟨pieces, after⟩, scanned, same⟩ := Option.map_eq_some_iff.1 read
        cases same
        obtain ⟨body, content, rfl⟩ := Piece.scan?_eq_some.1 scanned
        exact ⟨_, .string content, by simp [quote], fun numeral => by cases numeral⟩
      · split at read
        · obtain ⟨lexeme, number, rfl, split, ends⟩ := scanNumber?_eq_some.1 read
          exact ⟨lexeme, .number number, split, ends⟩
        · exact ⟨_, spelt_of_scanFixed? (List.Subset.refl _) read⟩
  · rintro ⟨chars, spelt, rfl, ends⟩
    cases spelt with
    | fixed known => exact scan?_fixed known
    | number number =>
      have read := scanNumber?_eq_some.2 ⟨_, number, rfl, rfl, ends⟩
      obtain ⟨c, rest, rfl, begins⟩ := number.begins
      have other : c ≠ '"' := by
        rintro rfl
        exact absurd begins (by decide)
      rw [List.cons_append, scan?, if_neg other, if_pos begins]
      exact read
    | string content =>
      rw [List.cons_append, scan?, if_pos rfl, Piece.scan?_eq_some.2 ⟨_, content, ?_⟩]
      · rfl
      · simp

/-! ## All tokens of a text -/

/-- Of two tokens in a row, one at most is a number. -/
def Apart (tokens : List Token) : Prop :=
  tokens.IsChain fun a b => a.isNumeral = true → b.isNumeral = false

theorem laid_of_ofText? (read : ofText? cs = some tokens) : Laid tokens cs := by
  fun_induction ofText? cs generalizing tokens with
  | case1 =>
    cases read
    exact .nil
  | case2 c rest blank ih => exact .blank blank (ih read)
  | case3 => cases read
  | case4 c rest _ token after found ih =>
    obtain ⟨tokens, tail, rfl⟩ := Option.map_eq_some_iff.1 read
    obtain ⟨chars, spelt, split, -⟩ := scan?_eq_some.1 found
    rw [split]
    exact .token spelt (ih tail)

/-- A spelling is not empty, and begins neither with a blank nor, if it is not that of a number, with
a character of numbers. -/
theorem Spelt.begins (spelt : Spelt token chars) : ∃ c rest, chars = c :: rest ∧
    isBlank c = false ∧ (token.isNumeral = false → inNumber c = false) := by
  cases spelt with
  | fixed known =>
    rcases fixed_cases known with rfl | rfl | rfl | rfl | rfl | rfl | rfl | rfl | rfl <;>
      exact ⟨_, _, rfl, by decide, fun _ => by decide⟩
  | number number =>
    obtain ⟨c, rest, rfl, begins⟩ := number.begins
    refine ⟨c, rest, rfl, ?_, fun other => by cases other⟩
    by_contra blank
    simp only [isBlank, Bool.not_eq_false, Bool.or_eq_true, decide_eq_true_eq] at blank
    rcases blank with ((rfl | rfl) | rfl) | rfl <;> exact absurd begins (by decide)
  | string content => exact ⟨_, _, rfl, by decide, fun _ => by decide⟩

theorem inNumber_of_blank {c : Char} (blank : isBlank c = true) : inNumber c = false := by
  simp only [isBlank, Bool.or_eq_true, decide_eq_true_eq] at blank
  rcases blank with ((rfl | rfl) | rfl) | rfl <;> decide

/-- A text does not begin like a number if no number is laid out first. -/
theorem Laid.stops (laid : Laid tokens cs) (first : ∀ t ∈ tokens.head?, t.isNumeral = false) :
    ∀ c ∈ cs.head?, inNumber c = false := by
  cases laid with
  | nil => simp
  | blank blank rest =>
    rintro c ⟨⟩
    exact inNumber_of_blank blank
  | token spelt rest =>
    obtain ⟨c, chars, rfl, -, other⟩ := spelt.begins
    rintro d ⟨⟩
    exact other (first _ rfl)

/-- A text is cut into the tokens that are laid out in it. -/
theorem Laid.read (laid : Laid tokens cs) (apart : Apart tokens) : ofText? cs = some tokens := by
  induction laid with
  | nil => rw [ofText?]
  | blank blank rest ih => rw [ofText?, if_pos blank, ih apart]
  | @token token chars tokens cs spelt rest ih =>
    -- The token behind a number is none, so that the number goes no further.
    have ends : token.EndsBefore cs := fun numeral =>
      rest.stops fun next mem => (List.isChain_cons.1 apart).1 next mem numeral
    have found := scan?_eq_some.2 ⟨chars, spelt, rfl, ends⟩
    obtain ⟨c, chars, rfl, blank, -⟩ := spelt.begins
    rw [List.cons_append] at found ⊢
    rw [ofText?, if_neg (Bool.eq_false_iff.1 blank)]
    split
    · rename_i missing
      rw [found] at missing
      cases missing
    · rename_i read
      rw [found] at read
      cases read
      rw [ih (List.isChain_cons.1 apart).2, Option.map_some]

/-- **A text is cut into tokens** as they are laid out in it. -/
theorem ofText?_eq_some (apart : Apart tokens) : ofText? cs = some tokens ↔ Laid tokens cs :=
  ⟨laid_of_ofText?, fun laid => laid.read apart⟩

theorem laid_flatMap (spelt : ∀ t ∈ tokens, Spelt t t.text) : Laid tokens (tokens.flatMap text) := by
  induction tokens with
  | nil => exact .nil
  | cons token tokens ih =>
    obtain ⟨first, others⟩ := List.forall_mem_cons.1 spelt
    exact .token first (ih others)

end Express.Json.Token
