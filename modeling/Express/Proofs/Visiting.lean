import Express.Draft.Build
import Express.Proofs.Renaming
import Mathlib.Tactic.Choose

/-!
# The handles that a replacement is asked for

`Declaration.references` lists handles and `Declaration.renameM` replaces them. These are two recursions
over the whole syntax of declarations, and they have to stay in step: a handle that is listed and not
replaced goes stale, and one that is replaced and not listed is never checked.

* `Asks` — a computation asks its replacement for the handles of a list, each in its turn, and makes its
  result of the answers. It does so in every lawful monad, so that nothing else can depend on the
  replacement. `Asks.pure`, `Asks.handle`, `Asks.bind` and `Asks.mapM` build such computations up.
* `Declaration.asks` — replacing asks for the handle of the declaration and for its references. There is
  one lemma of this kind for each part of the syntax.
* `watched` — a replacement that keeps what it is asked for; `Asks.run_watched` says what it keeps.
* `Declaration.Moves` — what becomes of a declaration whose handles are looked up in a table.
  `Declaration.exists_moves_iff` says that this is so for the tables that cover the declaration, and
  that replacing fails for all others.
-/

set_option autoImplicit false

namespace Express

/-! ## Lists of questions -/

section Lists

variable {m : Type → Type} [Monad m] [LawfulMonad m] {α β γ : Type} {f : α → m β}

/-- There are as many answers as questions, so what follows on them matters for such lists only. -/
theorem mapM_bind_congr : ∀ {l : List α} {k k' : List β → m γ},
    (∀ bs, bs.length = l.length → k bs = k' bs) → l.mapM f >>= k = l.mapM f >>= k'
  | [], k, k', same => by simpa using same [] rfl
  | a :: l, k, k', same => by
    simp only [List.mapM_cons, bind_assoc, pure_bind]
    refine bind_congr fun b => mapM_bind_congr fun bs length => ?_
    exact same (b :: bs) (by simp [length])

end Lists

/-! ## Computations that ask -/

/-- A computation with a replacement asks it for some handles in turn, and makes its result of the
answers. -/
def Asks {α : Type} (x : ∀ {m : Type → Type} [Monad m], (Handle → m Handle) → m α)
    (asked : List Handle) : Prop :=
  ∃ make : List Handle → α, ∀ {m : Type → Type} [Monad m] [LawfulMonad m] (f : Handle → m Handle),
    x f = make <$> asked.mapM f

/-- A replacement that keeps the handles that it is asked for. -/
def watched {m : Type → Type} [Monad m] (f : Handle → m Handle) (h : Handle) :
    StateT (List Handle) m Handle := do
  modify (· ++ [h])
  f h

namespace Asks

variable {α β γ : Type} {asked more : List Handle}
  {x : ∀ {m : Type → Type} [Monad m], (Handle → m Handle) → m α}

theorem pure (a : α) : Asks (fun _ => Pure.pure a) [] :=
  ⟨fun _ => a, fun f => by simp⟩

theorem handle (h : Handle) : Asks (fun f => f h) [h] :=
  ⟨fun gs => gs.headD h, fun f => by simp⟩

theorem list (l : List Handle) : Asks (fun f => l.mapM f) l :=
  ⟨id, fun f => by simp⟩

theorem of_eq {y : ∀ {m : Type → Type} [Monad m], (Handle → m Handle) → m α} (asks : Asks x asked)
    (same : ∀ {m : Type → Type} [Monad m] [LawfulMonad m] (f : Handle → m Handle), y f = x f) :
    Asks y asked := by
  obtain ⟨make, asks⟩ := asks
  exact ⟨make, fun f => (same f).trans (asks f)⟩

theorem map (asks : Asks x asked) (g : α → β) :
    Asks (fun f => x f >>= fun a => Pure.pure (g a)) asked := by
  obtain ⟨make, asks⟩ := asks
  exact ⟨fun gs => g (make gs), fun f => by simp [asks f]⟩

/-- **A computation after another one** asks for the handles of both, if what it asks for does not hang
on the result of the first. -/
theorem bind {y : α → ∀ {m : Type → Type} [Monad m], (Handle → m Handle) → m β}
    (first : Asks x asked) (next : ∀ a, Asks (y a) more) :
    Asks (fun f => x f >>= fun a => y a f) (asked ++ more) := by
  obtain ⟨make, first⟩ := first
  choose makeNext next using next
  -- The answers to the first part are as many as its questions.
  refine ⟨fun gs => makeNext (make (gs.take asked.length)) (gs.drop asked.length), fun f => ?_⟩
  simp only [first, next, List.mapM_append, map_eq_pure_bind, bind_assoc, pure_bind]
  refine mapM_bind_congr fun gs length => ?_
  simp [← length]

theorem mapM {y : γ → ∀ {m : Type → Type} [Monad m], (Handle → m Handle) → m α}
    {handles : γ → List Handle} :
    ∀ {members : List γ}, (∀ c ∈ members, Asks (y c) (handles c)) →
      Asks (fun f => members.mapM fun c => y c f) (members.flatMap handles)
  | [], _ => ⟨fun _ => [], fun f => by simp⟩
  | c :: members, each => by
    obtain ⟨first, rest⟩ := List.forall_mem_cons.1 each
    have both := first.bind fun a => (mapM rest).map (a :: ·)
    exact both.of_eq fun f => List.mapM_cons

section Answers

variable {m : Type → Type} [Monad m] [LawfulMonad m] {f : Handle → m Handle}

theorem run_mapM_watched : ∀ l seen : List Handle,
    (l.mapM (watched f)).run seen = (fun gs => (gs, seen ++ l)) <$> l.mapM f
  | [], seen => by simp
  | h :: l, seen => by simp [watched, run_mapM_watched l]

/-- **A watched replacement keeps what is asked for**, in this order, and answers as before. -/
theorem run_watched (asks : Asks x asked) (f : Handle → m Handle) (seen : List Handle) :
    (x (watched f)).run seen = (fun a => (a, seen ++ asked)) <$> x f := by
  obtain ⟨make, asks⟩ := asks
  calc
    (x (watched f)).run seen = (make <$> asked.mapM (watched f)).run seen :=
      congrArg (StateT.run · seen) (asks (watched f))
    _ = (fun a => (a, seen ++ asked)) <$> make <$> asked.mapM f := by simp [run_mapM_watched]
    _ = (fun a => (a, seen ++ asked)) <$> x f := congrArg _ (asks f).symm

end Answers

theorem answered {ε : Type} {f : Handle → Except ε Handle} {a : α} (asks : Asks x asked)
    (done : x f = .ok a) : ∀ h ∈ asked, ∃ g, f h = .ok g := by
  obtain ⟨make, asks⟩ := asks
  obtain ⟨gs, given, -⟩ := map_eq_ok.1 ((asks f).symm.trans done)
  exact forall_of_mapM_eq_ok given

end Asks

/-! ## Along the syntax -/

theorem DataType.asks : ∀ t : DataType, Asks (fun f => t.renameM f) t.references
  | .simple t => Asks.pure (DataType.simple t)
  | .named h => (Asks.handle h).map DataType.named
  | .aggregate kind lower upper element =>
    (DataType.asks element).map (DataType.aggregate kind lower upper)

theorem Attribute.asks (a : Attribute) : Asks (fun f => a.renameM f) a.type.references :=
  a.type.asks.map fun type => ({ a with type } : Attribute)

theorem AttributeId.asks (id : AttributeId) : Asks (fun f => id.renameM f) [id.owner] :=
  (Asks.handle id.owner).map fun owner => ({ id with owner } : AttributeId)

theorem InverseAttribute.asks (i : InverseAttribute) : Asks (fun f => i.renameM f) i.references :=
  (Asks.handle i.target).bind fun target =>
    i.forward.asks.map fun forward => ({ i with target, forward } : InverseAttribute)

theorem Entity.asks (e : Entity) : Asks (fun f => e.renameM f) e.references := by
  have supertype : Asks (fun f => e.supertype.mapM f) e.supertype.toList := by
    cases e.supertype with
    | none => exact Asks.pure none
    | some h => exact ((Asks.handle h).map some).of_eq fun f => by simp
  have subtypes : Asks (fun f => e.subtypes.mapM f) e.subtypes := Asks.list e.subtypes
  have attributes : Asks (fun f => e.attributes.mapM (·.renameM f))
      (e.attributes.flatMap (·.type.references)) := Asks.mapM fun a _ => a.asks
  have inverse : Asks (fun f => e.inverse.mapM (·.renameM f)) (e.inverse.flatMap (·.references)) :=
    Asks.mapM fun i _ => i.asks
  have all := supertype.bind fun supertype => subtypes.bind fun subtypes =>
    attributes.bind fun attributes => inverse.map fun inverse =>
      ({ e with supertype, subtypes, attributes, inverse } : Entity)
  rw [← List.append_assoc, ← List.append_assoc] at all
  exact all

theorem Body.asks : ∀ b : Body, Asks (fun f => b.renameM f) b.references
  | .type underlying => underlying.asks.map Body.type
  | .select members => (Asks.list members).map Body.select
  | .enumeration items => Asks.pure (Body.enumeration items)
  | .entity content => content.asks.map Body.entity

/-- **A declaration asks for its own handle and for its references**, in the order in which these are
listed. -/
theorem Declaration.asks (d : Declaration) :
    Asks (fun f => d.renameM f) (d.handle :: d.references) :=
  (Asks.handle d.handle).bind fun handle =>
    d.body.asks.map fun body => ({ d with handle, body } : Declaration)

/-! ## Tables -/

namespace Declaration

open Draft (renumber)

/-- What becomes of a declaration whose handles are looked up in a table. -/
structure Moves (d : Declaration) (table : Array Handle) (moved : Declaration) : Prop where
  done : d.renameM (renumber table) = .ok moved
  /-- Its own handle and the references, as they are listed, are each replaced by the image. -/
  images : (d.handle :: d.references).map (fun h => table[h.index]?) =
    (moved.handle :: moved.references).map some
  /-- The table is asked for these handles, in their order, and for no other. -/
  reads : (d.renameM (watched (renumber table))).run [] = .ok (moved, d.handle :: d.references)
  /-- Tables that agree on these handles do the same. -/
  agrees : ∀ other : Array Handle,
    (∀ h ∈ d.handle :: d.references, other[h.index]? = table[h.index]?) →
      d.renameM (renumber other) = .ok moved
  /-- A table that sends these handles to themselves changes nothing. -/
  fixed : (∀ h ∈ d.handle :: d.references, table[h.index]? = some h) → moved = d
  /-- Two tables after each other do what a table does that has their composition. -/
  twice : ∀ next both : Array Handle, (∀ h ∈ moved.handle :: moved.references, h.index < next.size) →
    (∀ h ∈ d.handle :: d.references, both[h.index]? = table[h.index]?.bind (next[·.index]?)) →
      ∃ last, moved.renameM (renumber next) = .ok last ∧ d.renameM (renumber both) = .ok last

variable {d : Declaration} {table : Array Handle} {f : Handle → Handle}

theorem renameM_renumber (found : ∀ h ∈ d.handle :: d.references, table[h.index]? = some (f h)) :
    d.renameM (renumber table) = .ok (d.rename f) := by
  obtain ⟨own, held⟩ := List.forall_mem_cons.1 found
  exact renameM_eq_ok (elementAt_eq_ok.2 own) fun h mem => elementAt_eq_ok.2 (held h mem)

theorem exists_image {handles : List Handle} (covered : ∀ h ∈ handles, h.index < table.size) :
    ∃ f : Handle → Handle, ∀ h ∈ handles, table[h.index]? = some (f h) := by
  refine ⟨fun h => table[h.index]?.getD h, fun h mem => ?_⟩
  simp [covered h mem]

theorem handles_rename : (d.rename f).handle :: (d.rename f).references =
    (d.handle :: d.references).map f := by
  rw [handle_rename, references_rename, List.map_cons]

theorem moves_rename (found : ∀ h ∈ d.handle :: d.references, table[h.index]? = some (f h)) :
    d.Moves table (d.rename f) where
  done := renameM_renumber found
  images := by
    rw [handles_rename, List.map_map]
    exact List.map_congr_left found
  reads := by
    rw [d.asks.run_watched, renameM_renumber found]
    rfl
  agrees other same := renameM_renumber fun h mem => (same h mem).trans (found h mem)
  fixed same := by
    have still : ∀ h ∈ d.handle :: d.references, f h = id h := fun h mem =>
      Option.some.inj ((found h mem).symm.trans (same h mem))
    obtain ⟨own, held⟩ := List.forall_mem_cons.1 still
    rw [rename_congr own held, rename_id]
  twice next both covered composed := by
    obtain ⟨g, further⟩ := exists_image covered
    refine ⟨d.rename (g ∘ f), ?_, renameM_renumber fun h mem => ?_⟩
    · rw [renameM_renumber further, rename_rename]
    · rw [handles_rename] at further
      rw [composed h mem, found h mem, Option.bind_some, further _ (List.mem_map_of_mem mem)]
      rfl

/-- **What is listed and what is replaced are the same handles.** A table that covers the handle of a
declaration and its references replaces exactly these, and where it does not cover them all replacing
fails. -/
theorem exists_moves_iff (d : Declaration) (table : Array Handle) :
    (∃ moved, d.Moves table moved) ↔ ∀ h ∈ d.handle :: d.references, h.index < table.size := by
  constructor
  · rintro ⟨moved, moves⟩ h mem
    obtain ⟨g, answer⟩ := d.asks.answered moves.done h mem
    exact (Array.getElem?_eq_some_iff.1 (elementAt_eq_ok.1 answer)).1
  · intro covered
    obtain ⟨f, found⟩ := exists_image covered
    exact ⟨d.rename f, moves_rename found⟩

/-- Plates are parts, have a list of labels, and know the parts that they are fixed to. -/
def plate : Declaration where
  handle := ⟨2⟩
  code := ⟨5⟩
  name := "plate"
  body := .entity {
    supertype := some ⟨1⟩
    attributes := [⟨"labels", .aggregate .list 0 none (.named ⟨0⟩), false⟩]
    derived := [false]
    inverse := [⟨"fixings", .set, 0, none, ⟨3⟩, ⟨1⟩, 0⟩] }

example : ((plate.renameM (watched (renumber #[⟨2⟩, ⟨0⟩, ⟨3⟩, ⟨1⟩]))).run []).map
      (fun answer => (answer.1.handle, answer.1.references, answer.2)) =
    .ok (⟨3⟩, [⟨0⟩, ⟨2⟩, ⟨1⟩, ⟨0⟩], [⟨2⟩, ⟨1⟩, ⟨0⟩, ⟨3⟩, ⟨1⟩]) := rfl

end Declaration

end Express
