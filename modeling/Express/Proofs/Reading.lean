import Express.Json.Value
import Express.Proofs.Lexing
import Mathlib.Data.List.Forall2

/-!
# Which value a text holds

A text holds a value if the tokens of the value are laid out in it.

* `Value.consumed` — the tokens that a reader has read so far are all in its state. A step adds the
  token that it reads, so a value that is read has the tokens that were read.
* `Value.reads` — where a value may come, its tokens are read as that value.
* `Value.ofTokens?_eq_some`, `Value.ofText?_eq_some` — so reading finds the value whose tokens these
  are, and the value that a text holds.
* `Value.Writable.isText` — the text in which a value is written holds it, if its tokens are written
  as JSON allows.
-/

set_option autoImplicit false

namespace Express.Json.Value

variable {v : Value} {s s' : Stage × List Frame} {frames : List Frame} {token next : Token}
  {tokens : List Token} {text : String}

/-- The text holds the value, and nothing else. -/
def IsText (v : Value) (text : String) : Prop := Token.Laid v.tokens text.toList

/-- The value is a string that stands for these characters. -/
def IsString (v : Value) (s : String) : Prop :=
  ∃ pieces, v = .string pieces ∧ Piece.Stands pieces s.toList

theorem mapM_eq_some {α β : Type} {f : α → Option β} {l : List α} {k : List β} :
    l.mapM f = some k ↔ List.Forall₂ (fun a b => f a = some b) l k := by
  induction l generalizing k with
  | nil =>
    rw [List.mapM_nil, List.forall₂_nil_left_iff]
    exact ⟨fun same => (Option.some.inj same).symm, fun same => congrArg some same.symm⟩
  | cons a l ih =>
    simp only [List.mapM_cons, Option.bind_eq_bind, Option.bind_eq_some_iff, Option.pure_def,
      Option.some.injEq, ih, List.forall₂_cons_left_iff]
    constructor
    · rintro ⟨b, first, bs, rest, rfl⟩
      exact ⟨b, bs, first, rest, rfl⟩
    · rintro ⟨b, bs, first, rest, rfl⟩
      exact ⟨b, first, bs, rest, rfl⟩

theorem asString?_eq_some {s : String} : v.asString? = some s ↔ v.IsString s := by
  cases v with
  | string pieces =>
    simp only [asString?, Option.map_eq_some_iff, Piece.decode?_eq_some, IsString, string.injEq,
      exists_eq_left']
    constructor
    · rintro ⟨cs, stands, rfl⟩
      rwa [String.toList_ofList]
    · intro stands
      exact ⟨s.toList, stands, String.ofList_toList⟩
  | null | bool | number | array | object => simp [asString?, IsString]

theorem mapM_asString?_eq_some {items : List Value} {strings : List String} :
    items.mapM asString? = some strings ↔ List.Forall₂ IsString items strings := by
  simp only [mapM_eq_some, asString?_eq_some]

theorem isString_ofString (s : String) : (ofString s).IsString s :=
  ⟨_, rfl, Piece.stands_ofString s⟩

/-! ## Tokens that have been read -/

/-- The tokens of items of an array, last first, with a comma behind each. -/
def itemsRead (done : List Value) : List Token :=
  done.reverse.flatMap fun item => item.tokens ++ [.comma]

/-- The tokens of members of an object, last first, with a comma behind each. -/
def membersRead (done : List (List Piece × Value)) : List Token :=
  done.reverse.flatMap fun (key, value) => .string key :: .colon :: value.tokens ++ [.comma]

/-- The tokens before the value that comes next in the innermost frame. -/
def opened : List Frame → List Token
  | [] => []
  | .array done :: frames => opened frames ++ .leftBracket :: itemsRead done
  | .object done key :: frames =>
    opened frames ++ .leftBrace :: membersRead done ++ [.string key, .colon]

/-- All tokens that have been read. -/
def consumed : Stage × List Frame → List Token
  | (.value, frames) => opened frames
  | (.firstItem, frames) => opened (.array [] :: frames)
  | (.firstKey, frames) => opened frames ++ [.leftBrace]
  | (.key done, frames) => opened frames ++ .leftBrace :: membersRead done
  | (.colon done key, frames) => opened frames ++ .leftBrace :: membersRead done ++ [.string key]
  | (.after value, frames) => opened frames ++ value.tokens

theorem tokens_furtherItems (first : Value) (items : List Value) (last : Value) :
    first.tokens ++ furtherItems (items ++ [last]) =
      (first :: items).flatMap (fun item => item.tokens ++ [.comma]) ++ last.tokens ++
        [.rightBracket] := by
  induction items generalizing first with
  | nil => simp [furtherItems]
  | cons item items ih =>
    have := ih item
    simp only [List.cons_append, furtherItems, List.flatMap_cons, List.append_assoc] at this ⊢
    rw [this]
    rfl

theorem tokens_array (done : List Value) (last : Value) :
    (array (last :: done).reverse).tokens =
      .leftBracket :: itemsRead done ++ last.tokens ++ [.rightBracket] := by
  unfold itemsRead
  rw [List.reverse_cons]
  cases done.reverse with
  | nil => simp [tokens, furtherItems]
  | cons first items =>
    rw [List.cons_append, tokens, List.cons_append, tokens_furtherItems]
    simp

theorem tokens_furtherMembers (key : List Piece) (first : Value)
    (members : List (List Piece × Value)) (last : List Piece × Value) :
    .string key :: .colon :: first.tokens ++ furtherMembers (members ++ [last]) =
      ((key, first) :: members).flatMap
          (fun (key, value) => .string key :: .colon :: value.tokens ++ [.comma]) ++
        .string last.1 :: .colon :: last.2.tokens ++ [.rightBrace] := by
  induction members generalizing key first with
  | nil => simp [furtherMembers]
  | cons member members ih =>
    have := ih member.1 member.2
    simp only [List.cons_append, furtherMembers, List.flatMap_cons, List.append_assoc] at this ⊢
    rw [this]
    rfl

theorem tokens_object (done : List (List Piece × Value)) (key : List Piece) (last : Value) :
    (object ((key, last) :: done).reverse).tokens =
      .leftBrace :: membersRead done ++ .string key :: .colon :: last.tokens ++ [.rightBrace] := by
  unfold membersRead
  rw [List.reverse_cons]
  cases done.reverse with
  | nil => simp [tokens, furtherMembers]
  | cons first members =>
    have := tokens_furtherMembers first.1 first.2 members (key, last)
    simp only [List.cons_append, tokens] at this ⊢
    rw [this]

theorem consumed_start (started : start frames token = some s) :
    consumed s = opened frames ++ [token] := by
  cases token <;> cases started <;> simp [consumed, opened, tokens, itemsRead]

/-- **A step** adds the token that it reads. -/
theorem consumed_step (stepped : step s token = some s') : consumed s' = consumed s ++ [token] := by
  -- One case for each equation of `step`, in their order.
  unfold step at stepped
  split at stepped
  · exact consumed_start stepped
  · cases stepped
    simp [consumed, opened, tokens, itemsRead]
  · exact consumed_start stepped
  · cases stepped
    simp [consumed, tokens]
  · cases stepped
    simp [consumed, membersRead]
  · cases stepped
    simp [consumed]
  · cases stepped
    simp [consumed, opened]
  · cases stepped
    simp [consumed, opened, itemsRead]
  · cases stepped
    simp only [consumed, opened, tokens_array, List.append_assoc, List.cons_append]
  · cases stepped
    simp [consumed, opened, membersRead]
  · cases stepped
    simp [consumed, opened, tokens_object, -List.reverse_cons]
  · cases stepped

/-- **A run** adds all tokens that it reads. -/
theorem consumed_run (run : tokens.foldlM step s = some s') : consumed s' = consumed s ++ tokens := by
  induction tokens generalizing s with
  | nil =>
    cases run
    exact (List.append_nil _).symm
  | cons token tokens ih =>
    obtain ⟨between, stepped, rest⟩ := Option.bind_eq_some_iff.1 run
    rw [ih rest, consumed_step stepped, List.append_assoc]
    rfl

/-! ## Tokens of a value -/

/-- In this state a value may come next, and goes into these frames. -/
def Awaits (s : Stage × List Frame) (frames : List Frame) : Prop :=
  ∀ token s', start frames token = some s' → step s token = some s'

theorem awaits_value : Awaits (.value, frames) frames := fun _ _ => id

theorem awaits_firstItem : Awaits (.firstItem, frames) (.array [] :: frames) := by
  intro token s' started
  rw [step]
  · exact started
  · rintro rfl
    cases started

mutual

/-- **The tokens of a value** are read as that value. -/
theorem reads {s : Stage × List Frame} {frames : List Frame} (awaits : Awaits s frames) :
    (v : Value) → v.tokens.foldlM step s = some (.after v, frames)
  | .null | .bool _ | .number _ | .string _ => by
    rw [tokens, List.foldlM_cons, awaits _ _ rfl]
    rfl
  | .array [] => by
    rw [tokens, List.foldlM_cons, awaits _ _ rfl]
    rfl
  | .array (item :: rest) => by
    rw [tokens, List.cons_append, List.foldlM_cons, awaits _ _ rfl]
    change (item.tokens ++ furtherItems rest).foldlM step (.firstItem, frames) = _
    rw [List.foldlM_append, reads awaits_firstItem item]
    exact reads_furtherItems frames item [] rest
  | .object [] => by
    rw [tokens, List.foldlM_cons, awaits _ _ rfl]
    rfl
  | .object ((key, value) :: rest) => by
    rw [tokens, List.cons_append, List.foldlM_cons, awaits _ _ rfl]
    change (value.tokens ++ furtherMembers rest).foldlM step (.value, .object [] key :: frames) = _
    rw [List.foldlM_append, reads awaits_value value]
    exact reads_furtherMembers frames key value [] rest

theorem reads_furtherItems (frames : List Frame) (item : Value) (done : List Value) :
    (rest : List Value) → (furtherItems rest).foldlM step (.after item, .array done :: frames) =
      some (.after (.array ((item :: done).reverse ++ rest)), frames)
  | [] => by simp [furtherItems, step]
  | next :: rest => by
    change (next.tokens ++ furtherItems rest).foldlM step (.value, .array (item :: done) :: frames) = _
    rw [List.foldlM_append, reads awaits_value next]
    have behind := reads_furtherItems frames next (item :: done) rest
    rw [List.reverse_cons, List.append_assoc] at behind
    exact behind

theorem reads_furtherMembers (frames : List Frame) (key : List Piece) (value : Value)
    (done : List (List Piece × Value)) : (rest : List (List Piece × Value)) →
    (furtherMembers rest).foldlM step (.after value, .object done key :: frames) =
      some (.after (.object (((key, value) :: done).reverse ++ rest)), frames)
  | [] => by simp [furtherMembers, step]
  | (nextKey, next) :: rest => by
    change (next.tokens ++ furtherMembers rest).foldlM step
      (.value, .object ((key, value) :: done) nextKey :: frames) = _
    rw [List.foldlM_append, reads awaits_value next]
    have behind := reads_furtherMembers frames nextKey next ((key, value) :: done) rest
    rw [List.reverse_cons, List.append_assoc] at behind
    exact behind

end

/-- **Reading tokens** finds the value whose tokens they are. -/
theorem ofTokens?_eq_some : ofTokens? tokens = some v ↔ tokens = v.tokens := by
  unfold ofTokens?
  simp only [Option.bind_eq_bind, Option.bind_eq_some_iff]
  constructor
  · rintro ⟨s, run, finished⟩
    unfold finished? at finished
    split at finished
    · cases finished
      exact (consumed_run run).symm
    · cases finished
  · rintro rfl
    exact ⟨_, reads awaits_value v, rfl⟩

/-! ## Texts -/

theorem step_number {lexeme : List Char} (stepped : step s (.number lexeme) = some s') :
    (s.1 = .value ∨ s.1 = .firstItem) ∧ s'.1 = .after (.number lexeme) := by
  obtain ⟨stage, frames⟩ := s
  cases stage with
  | value =>
    cases stepped
    exact ⟨.inl rfl, rfl⟩
  | firstItem =>
    cases stepped
    exact ⟨.inr rfl, rfl⟩
  | firstKey | key | colon => cases stepped
  | after => rcases frames with - | ⟨done | ⟨done, key⟩, frames⟩ <;> cases stepped

theorem apart_step {between : Stage × List Frame} (first : step s token = some between)
    (second : step between next = some s') (numeral : token.isNumeral = true) :
    next.isNumeral = false := by
  cases token <;> cases numeral
  cases next <;> try rfl
  have behind := (step_number first).2
  rcases (step_number second).1 with before | before <;>
    · rw [behind] at before
      cases before

theorem apart_run (run : tokens.foldlM step s = some s') : Token.Apart tokens := by
  induction tokens generalizing s with
  | nil => exact List.IsChain.nil
  | cons token tokens ih =>
    obtain ⟨between, stepped, rest⟩ := Option.bind_eq_some_iff.1 run
    refine List.isChain_cons.2 ⟨fun next mem => ?_, ih rest⟩
    obtain ⟨tail, rfl⟩ := List.head?_eq_some_iff.1 mem
    obtain ⟨_, again, -⟩ := Option.bind_eq_some_iff.1 rest
    exact apart_step stepped again

/-- **Reading a text** finds the value that it holds. -/
theorem ofText?_eq_some : ofText? text = some v ↔ v.IsText text := by
  have apart : Token.Apart v.tokens := apart_run (reads (awaits_value : Awaits (.value, []) []) v)
  unfold ofText?
  simp only [Option.bind_eq_bind, Option.bind_eq_some_iff, ofTokens?_eq_some, exists_eq_right]
  exact Token.ofText?_eq_some apart

/-! ## Texts that are written -/

/-- Every token of the value is written in a spelling that JSON allows. -/
def Writable (v : Value) : Prop := ∀ t ∈ v.tokens, t.Spelt t.text

/-- **The text in which a value is written** holds it. -/
theorem Writable.isText (writable : v.Writable) : v.IsText v.text := by
  unfold IsText text
  rw [String.toList_ofList]
  exact Token.laid_flatMap writable

theorem writable_ofString (s : String) : (ofString s).Writable := by
  intro t mem
  rw [ofString, tokens, List.mem_singleton] at mem
  subst mem
  exact .string (Piece.content_ofString s)

theorem spelt_furtherItems {items : List Value} (inner : ∀ item ∈ items, item.Writable) :
    ∀ t ∈ furtherItems items, t.Spelt t.text := by
  induction items with
  | nil =>
    simp only [furtherItems, List.forall_mem_singleton]
    exact .fixed (by decide)
  | cons item items ih =>
    obtain ⟨first, others⟩ := List.forall_mem_cons.1 inner
    simp only [furtherItems, List.cons_append, List.forall_mem_cons, List.forall_mem_append]
    exact ⟨.fixed (by decide), first, ih others⟩

theorem writable_array {items : List Value} (inner : ∀ item ∈ items, item.Writable) :
    (array items).Writable := by
  unfold Writable
  cases items with
  | nil =>
    simp only [tokens, List.forall_mem_cons]
    exact ⟨.fixed (by decide), .fixed (by decide), nofun⟩
  | cons item items =>
    obtain ⟨first, others⟩ := List.forall_mem_cons.1 inner
    simp only [tokens, List.cons_append, List.forall_mem_cons, List.forall_mem_append]
    exact ⟨.fixed (by decide), first, spelt_furtherItems others⟩

end Express.Json.Value
