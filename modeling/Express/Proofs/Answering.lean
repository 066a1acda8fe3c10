import Express.Proofs.Renaming
import Mathlib.Data.List.Forall2

/-!
# Bodies with handles that answer each other

Two bodies answer each other under a relation of handles when they are built alike, agree in all
that is not a handle, and have related handles in the same places.

* `DataType.Answers`, `Attribute.Answers`, `InverseAttribute.Answers`, `Entity.Answers` and
  `Body.Answers` follow the syntax, field by field.
* `Body.Answers.flip` — the relation can be turned round.
* `Body.Answers.eq_rename` — where each handle is related to its image under a replacement only, the
  second body is the first with its handles replaced; `Body.answers_iff_eq_rename` is the converse
  as well, so that `Body.rename` forgets no handle and touches nothing else.
-/

set_option autoImplicit false

namespace Express

/-- Data types built alike over related handles. -/
inductive DataType.Answers (R : Handle → Handle → Prop) : DataType → DataType → Prop
  | simple (type : SimpleType) : Answers R (.simple type) (.simple type)
  | named {h g : Handle} (related : R h g) : Answers R (.named h) (.named g)
  | aggregate {a b : DataType} (kind : AggregateKind) (lower : Int) (upper : Option Int)
    (elements : Answers R a b) :
    Answers R (.aggregate kind lower upper a) (.aggregate kind lower upper b)

/-- Attributes that differ at most in related handles. -/
structure Attribute.Answers (R : Handle → Handle → Prop) (a b : Attribute) : Prop where
  name : b.name = a.name
  type : a.type.Answers R b.type
  optional : b.optional = a.optional

/-- Inverse attributes that differ at most in related handles. -/
structure InverseAttribute.Answers (R : Handle → Handle → Prop) (i j : InverseAttribute) :
    Prop where
  name : j.name = i.name
  aggregation : j.aggregation = i.aggregation
  lower : j.lower = i.lower
  upper : j.upper = i.upper
  target : R i.target j.target
  owner : R i.forward.owner j.forward.owner
  position : j.forward.position = i.forward.position

/-- Entities that differ at most in related handles, with all lists in the same order. -/
structure Entity.Answers (R : Handle → Handle → Prop) (e e' : Entity) : Prop where
  supertype : Option.Rel R e.supertype e'.supertype
  subtypes : List.Forall₂ R e.subtypes e'.subtypes
  attributes : List.Forall₂ (Attribute.Answers R) e.attributes e'.attributes
  derived : e'.derived = e.derived
  inverse : List.Forall₂ (InverseAttribute.Answers R) e.inverse e'.inverse

/-- Bodies of one kind that differ at most in related handles. -/
inductive Body.Answers (R : Handle → Handle → Prop) : Body → Body → Prop
  | type {a b : DataType} (underlying : a.Answers R b) : Answers R (.type a) (.type b)
  | select {a b : List Handle} (members : List.Forall₂ R a b) : Answers R (.select a) (.select b)
  | enumeration (items : List String) : Answers R (.enumeration items) (.enumeration items)
  | entity {a b : Entity} (content : a.Answers R b) : Answers R (.entity a) (.entity b)

/-! ## Turning round -/

section Flip

variable {R S : Handle → Handle → Prop} (back : ∀ h g, R h g → S g h)

include back

theorem DataType.Answers.flip {a b : DataType} (answers : a.Answers R b) : b.Answers S a := by
  induction answers with
  | simple type => exact .simple type
  | named related => exact .named (back _ _ related)
  | aggregate kind lower upper _ ih => exact .aggregate kind lower upper ih

theorem Attribute.Answers.flip {a b : Attribute} (answers : a.Answers R b) : b.Answers S a where
  name := answers.name.symm
  type := answers.type.flip back
  optional := answers.optional.symm

theorem InverseAttribute.Answers.flip {i j : InverseAttribute} (answers : i.Answers R j) :
    j.Answers S i where
  name := answers.name.symm
  aggregation := answers.aggregation.symm
  lower := answers.lower.symm
  upper := answers.upper.symm
  target := back _ _ answers.target
  owner := back _ _ answers.owner
  position := answers.position.symm

theorem Entity.Answers.flip {a b : Entity} (answers : a.Answers R b) : b.Answers S a where
  supertype := by
    cases a_supertype : a.supertype <;> cases b_supertype : b.supertype
    all_goals
      have related := answers.supertype
      rw [a_supertype, b_supertype] at related
      cases related
    · exact .none
    · rename_i related
      exact .some (back _ _ related)
  subtypes := (answers.subtypes.imp back).flip
  attributes := (answers.attributes.imp fun _ _ => Attribute.Answers.flip back).flip
  derived := answers.derived.symm
  inverse := (answers.inverse.imp fun _ _ => InverseAttribute.Answers.flip back).flip

theorem Body.Answers.flip {a b : Body} (answers : a.Answers R b) : b.Answers S a := by
  cases answers with
  | type underlying => exact .type (underlying.flip back)
  | select members => exact .select (members.imp back).flip
  | enumeration items => exact .enumeration items
  | entity content => exact .entity (content.flip back)

end Flip

/-! ## Answers that are images -/

section Images

variable {R : Handle → Handle → Prop} {f : Handle → Handle}

theorem forall₂_eq_map {α β : Type} {R : α → β → Prop} {f : α → β} {l : List α} {m : List β}
    (related : List.Forall₂ R l m) (images : ∀ a ∈ l, ∀ b, R a b → b = f a) : m = l.map f := by
  induction related with
  | nil => rfl
  | cons head _ ih =>
    obtain ⟨first, rest⟩ := List.forall_mem_cons.1 images
    rw [List.map_cons, first _ head, ih rest]

theorem forall₂_map {α β : Type} {R : α → β → Prop} {f : α → β} (images : ∀ a, R a (f a))
    (l : List α) : List.Forall₂ R l (l.map f) :=
  List.forall₂_map_right_iff.2 (List.forall₂_same.2 fun a _ => images a)

theorem DataType.Answers.eq_rename {a b : DataType} (answers : a.Answers R b)
    (images : ∀ h ∈ a.references, ∀ g, R h g → g = f h) : b = a.rename f := by
  induction answers with
  | simple type => rfl
  | named related => rw [DataType.rename, images _ List.mem_cons_self _ related]
  | aggregate kind lower upper _ ih => rw [DataType.rename, ih images]

theorem Attribute.Answers.eq_rename {a b : Attribute} (answers : a.Answers R b)
    (images : ∀ h ∈ a.type.references, ∀ g, R h g → g = f h) : b = a.rename f := by
  obtain ⟨name, type, optional⟩ := b
  obtain ⟨rfl, related, rfl⟩ := answers
  rw [Attribute.rename, ← related.eq_rename images]

theorem InverseAttribute.Answers.eq_rename {i j : InverseAttribute} (answers : i.Answers R j)
    (images : ∀ h ∈ i.references, ∀ g, R h g → g = f h) : j = i.rename f := by
  obtain ⟨name, aggregation, lower, upper, target, owner, position⟩ := j
  obtain ⟨rfl, rfl, rfl, rfl, at_target, at_owner, rfl⟩ := answers
  have target_image := images _ (by simp [references]) _ at_target
  have owner_image := images _ (by simp [references]) _ at_owner
  simp only at target_image owner_image
  rw [InverseAttribute.rename, AttributeId.rename, target_image, owner_image]

theorem Entity.Answers.eq_rename {a b : Entity} (answers : a.Answers R b)
    (images : ∀ h ∈ a.references, ∀ g, R h g → g = f h) : b = a.rename f := by
  simp only [Entity.references, List.mem_append, Option.mem_toList, List.mem_flatMap] at images
  obtain ⟨supertype, subtypes, attributes, derived, inverse⟩ := b
  obtain ⟨super, sub, own_attributes, rfl, inverted⟩ := answers
  have supertypes : supertype = a.supertype.map f := by
    cases link : a.supertype with
    | none =>
      rw [link] at super
      cases super
      rfl
    | some h =>
      rw [link] at super
      cases super with
      | some related => rw [images h (.inl (.inl (.inl link))) _ related, Option.map_some]
  have subtypes_images := forall₂_eq_map sub fun h mem => images h (.inl (.inl (.inr mem)))
  have attributes_images := forall₂_eq_map own_attributes fun _ own _ related =>
    related.eq_rename fun h held => images h (.inl (.inr ⟨_, own, held⟩))
  have inverse_images := forall₂_eq_map inverted fun _ own _ related =>
    related.eq_rename fun h held => images h (.inr ⟨_, own, held⟩)
  simp only at subtypes_images attributes_images inverse_images
  rw [Entity.rename, supertypes, subtypes_images, attributes_images, inverse_images]

/-- **A body that answers with images only** is the other with its handles replaced. -/
theorem Body.Answers.eq_rename {a b : Body} (answers : a.Answers R b)
    (images : ∀ h ∈ a.references, ∀ g, R h g → g = f h) : b = a.rename f := by
  cases answers with
  | type underlying => rw [Body.rename, underlying.eq_rename images]
  | select members => rw [Body.rename, forall₂_eq_map members images]
  | enumeration items => rfl
  | entity content => rw [Body.rename, content.eq_rename images]

theorem DataType.answers_rename (t : DataType) : t.Answers (fun h g => g = f h) (t.rename f) := by
  induction t with
  | simple type => exact .simple type
  | named h => exact .named rfl
  | aggregate kind lower upper element ih => exact .aggregate kind lower upper ih

/-- **Replacing handles replaces them everywhere and changes nothing else**: the bodies that answer
with images are those with the handles replaced. -/
theorem Body.answers_iff_eq_rename {a b : Body} :
    a.Answers (fun h g => g = f h) b ↔ b = a.rename f := by
  constructor
  · intro answers
    exact answers.eq_rename fun _ _ _ image => image
  · rintro rfl
    cases a with
    | type underlying => exact .type underlying.answers_rename
    | select members => exact .select (forall₂_map (R := fun h g => g = f h) (fun _ => rfl) members)
    | enumeration items => exact .enumeration items
    | entity content =>
      refine .entity ⟨?_, forall₂_map (fun h => ?_) _, forall₂_map (fun a => ?_) _, rfl,
        forall₂_map (fun i => ?_) _⟩
      · show Option.Rel _ content.supertype (content.supertype.map f)
        cases content.supertype with
        | none => exact .none
        | some h => exact .some rfl
      · exact rfl
      · exact ⟨rfl, a.type.answers_rename, rfl⟩
      · exact ⟨rfl, rfl, rfl, rfl, rfl, rfl, rfl⟩

end Images

end Express
