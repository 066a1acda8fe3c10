import Express.Declaration
import Express.Proofs.Outcome

/-!
# Replacing the handles of a declaration

* `Declaration.renameM_eq_ok` — a replacement that may fail, and succeeds on every handle there is,
  does what `Declaration.rename` does. `Declaration.rename_congr` follows: only the handles that
  are there matter.
* `Declaration.rename_rename` — two replacements in a row are one; `Declaration.rename_id` — the
  replacement of each handle by itself is none.
* `Declaration.Holds` — what it means that a declaration holds a handle, place by place;
  `Declaration.mem_references_iff` says that `Declaration.references` lists exactly these.

Each law is proved along the syntax: data types, attributes, entities, bodies, declarations.
-/

set_option autoImplicit false

namespace Express

/-! ## Replacements that may fail -/

section Fallible

variable {ε : Type} {f : Handle → Except ε Handle} {g : Handle → Handle}

theorem DataType.renameM_eq_ok :
    ∀ {t : DataType}, (∀ h ∈ t.references, f h = .ok (g h)) → t.renameM f = .ok (t.rename g)
  | .simple _, _ => rfl
  | .named h, known => by
    rw [DataType.renameM, known h List.mem_cons_self]
    rfl
  | .aggregate _ _ _ element, known => by
    rw [DataType.renameM, DataType.renameM_eq_ok (t := element) known]
    rfl

theorem Attribute.renameM_eq_ok {a : Attribute} (known : ∀ h ∈ a.type.references, f h = .ok (g h)) :
    a.renameM f = .ok (a.rename g) := by
  unfold Attribute.renameM
  rw [DataType.renameM_eq_ok known]
  rfl

theorem InverseAttribute.renameM_eq_ok {i : InverseAttribute}
    (known : ∀ h ∈ i.references, f h = .ok (g h)) : i.renameM f = .ok (i.rename g) := by
  have target : f i.target = .ok (g i.target) := known _ (by simp [references])
  have owner : f i.forward.owner = .ok (g i.forward.owner) := known _ (by simp [references])
  unfold InverseAttribute.renameM AttributeId.renameM
  rw [target, owner]
  rfl

theorem Entity.renameM_eq_ok {e : Entity} (known : ∀ h ∈ e.references, f h = .ok (g h)) :
    e.renameM f = .ok (e.rename g) := by
  simp only [Entity.references, List.mem_append, Option.mem_toList, List.mem_flatMap] at known
  have supertype : e.supertype.mapM f = .ok (e.supertype.map g) := by
    cases link : e.supertype with
    | none => rfl
    | some h =>
      show f h >>= _ = _
      rw [known h (.inl (.inl (.inl link)))]
      rfl
  have subtypes : e.subtypes.mapM f = .ok (e.subtypes.map g) :=
    mapM_eq_ok fun h mem => known h (.inl (.inl (.inr mem)))
  have attributes : e.attributes.mapM (·.renameM f) = .ok (e.attributes.map (·.rename g)) :=
    mapM_eq_ok fun a mem => Attribute.renameM_eq_ok fun h held =>
      known h (.inl (.inr ⟨a, mem, held⟩))
  have inverse : e.inverse.mapM (·.renameM f) = .ok (e.inverse.map (·.rename g)) :=
    mapM_eq_ok fun i mem => InverseAttribute.renameM_eq_ok fun h held =>
      known h (.inr ⟨i, mem, held⟩)
  unfold Entity.renameM
  rw [supertype, subtypes, attributes, inverse]
  rfl

theorem Body.renameM_eq_ok {b : Body} (known : ∀ h ∈ b.references, f h = .ok (g h)) :
    b.renameM f = .ok (b.rename g) := by
  cases b with
  | type underlying =>
    rw [Body.renameM, DataType.renameM_eq_ok (t := underlying) known]
    rfl
  | select members =>
    rw [Body.renameM, mapM_eq_ok (l := members) known]
    rfl
  | enumeration items => rfl
  | entity content =>
    rw [Body.renameM, Entity.renameM_eq_ok (e := content) known]
    rfl

/-- **A replacement that succeeds on every handle replaces them all** and changes nothing else. -/
theorem Declaration.renameM_eq_ok {d : Declaration} (own : f d.handle = .ok (g d.handle))
    (known : ∀ h ∈ d.references, f h = .ok (g h)) : d.renameM f = .ok (d.rename g) := by
  unfold Declaration.renameM
  rw [own, Body.renameM_eq_ok known]
  rfl

end Fallible

/-! ## Replacements that cannot fail -/

section Total

variable {f g : Handle → Handle}

theorem Declaration.rename_congr {d : Declaration} (own : f d.handle = g d.handle)
    (same : ∀ h ∈ d.references, f h = g h) : d.rename f = d.rename g := by
  have left : d.renameM (fun h => (.ok (f h) : Except Unit Handle)) = .ok (d.rename f) :=
    Declaration.renameM_eq_ok rfl fun _ _ => rfl
  have right : d.renameM (fun h => (.ok (f h) : Except Unit Handle)) = .ok (d.rename g) :=
    Declaration.renameM_eq_ok (by rw [own]) fun h mem => by rw [same h mem]
  exact Except.ok.inj (left.symm.trans right)

@[simp] theorem DataType.rename_rename (t : DataType) :
    (t.rename f).rename g = t.rename (g ∘ f) := by
  induction t with
  | simple => rfl
  | named => rfl
  | aggregate kind lower upper element ih => simp only [DataType.rename, ih]

@[simp] theorem Attribute.rename_rename (a : Attribute) :
    (a.rename f).rename g = a.rename (g ∘ f) := by
  simp only [Attribute.rename, DataType.rename_rename]

@[simp] theorem InverseAttribute.rename_rename (i : InverseAttribute) :
    (i.rename f).rename g = i.rename (g ∘ f) := rfl

@[simp] theorem Entity.rename_rename (e : Entity) : (e.rename f).rename g = e.rename (g ∘ f) := by
  simp [Entity.rename, Function.comp_def]

@[simp] theorem Body.rename_rename (b : Body) : (b.rename f).rename g = b.rename (g ∘ f) := by
  cases b <;> simp [Body.rename]

/-- **Two replacements in a row are one.** -/
@[simp] theorem Declaration.rename_rename (d : Declaration) :
    (d.rename f).rename g = d.rename (g ∘ f) := by
  simp [Declaration.rename]

@[simp] theorem DataType.rename_id (t : DataType) : t.rename id = t := by
  induction t with
  | simple => rfl
  | named => rfl
  | aggregate kind lower upper element ih => rw [DataType.rename, ih]

@[simp] theorem Attribute.rename_id (a : Attribute) : a.rename id = a := by
  rw [Attribute.rename, DataType.rename_id]

@[simp] theorem InverseAttribute.rename_id (i : InverseAttribute) : i.rename id = i := rfl

@[simp] theorem Entity.rename_id (e : Entity) : e.rename id = e := by
  simp [Entity.rename]

@[simp] theorem Body.rename_id (b : Body) : b.rename id = b := by
  cases b <;> simp [Body.rename]

/-- **Replacing each handle by itself changes nothing.** -/
@[simp] theorem Declaration.rename_id (d : Declaration) : d.rename id = d := by
  simp [Declaration.rename]

theorem Body.rename_eq_entity {b : Body} {e : Entity} :
    b.rename f = .entity e ↔ ∃ e₀, b = .entity e₀ ∧ e = e₀.rename f := by
  cases b <;> simp [Body.rename, eq_comm]

@[simp] theorem Body.kind_rename (b : Body) : (b.rename f).kind = b.kind := by
  cases b <;> rfl

@[simp] theorem Declaration.kind_rename (d : Declaration) : (d.rename f).kind = d.kind :=
  Body.kind_rename d.body

@[simp] theorem Declaration.handle_rename (d : Declaration) :
    (d.rename f).handle = f d.handle := rfl

theorem Declaration.supertype?_rename (d : Declaration) :
    (d.rename f).supertype? = d.supertype?.map f := by
  cases body : d.body <;> simp [supertype?, asEntity?, rename, Body.rename, body, Entity.rename]

theorem DataType.references_rename (t : DataType) :
    (t.rename f).references = t.references.map f := by
  induction t with
  | simple => rfl
  | named => rfl
  | aggregate kind lower upper element ih => exact ih

theorem Entity.references_rename (e : Entity) : (e.rename f).references = e.references.map f := by
  have supertype : (e.supertype.map f).toList = e.supertype.toList.map f := by
    cases e.supertype <;> rfl
  simp only [references, rename, supertype, List.map_append, List.flatMap_map, List.map_flatMap,
    Attribute.rename, DataType.references_rename, InverseAttribute.references,
    InverseAttribute.rename, AttributeId.rename, List.map_cons, List.map_nil]

theorem Declaration.references_rename (d : Declaration) :
    (d.rename f).references = d.references.map f := by
  unfold references rename
  cases d.body with
  | type underlying => exact underlying.references_rename
  | select members => rfl
  | enumeration items => rfl
  | entity content => exact content.references_rename

end Total

/-! ## The handles that a declaration holds -/

/-- A data type holds a handle: it is the name itself, or inside the element type. -/
inductive DataType.Holds (h : Handle) : DataType → Prop
  | named : Holds h (.named h)
  | element {kind : AggregateKind} {lower : Int} {upper : Option Int} {element : DataType} :
    Holds h element → Holds h (.aggregate kind lower upper element)

/-- A declaration holds a handle in one of the places that are for handles. -/
inductive Declaration.Holds (d : Declaration) (h : Handle) : Prop
  | underlying {t : DataType} (type : d.body = .type t) (held : t.Holds h)
  | member {members : List Handle} (select : d.body = .select members) (held : h ∈ members)
  | supertype {e : Entity} (entity : d.body = .entity e) (held : e.supertype = some h)
  | subtype {e : Entity} (entity : d.body = .entity e) (held : h ∈ e.subtypes)
  | attributeType {e : Entity} {a : Attribute} (entity : d.body = .entity e)
    (own : a ∈ e.attributes) (held : a.type.Holds h)
  | target {e : Entity} {i : InverseAttribute} (entity : d.body = .entity e) (own : i ∈ e.inverse)
    (held : i.target = h)
  | owner {e : Entity} {i : InverseAttribute} (entity : d.body = .entity e) (own : i ∈ e.inverse)
    (held : i.forward.owner = h)

theorem DataType.mem_references_iff {h : Handle} :
    ∀ {t : DataType}, h ∈ t.references ↔ t.Holds h
  | .simple _ => by
    constructor
    · intro mem
      cases mem
    · intro held
      cases held
  | .named _ => by
    rw [DataType.references, List.mem_singleton]
    exact ⟨fun same => same ▸ .named, fun held => by cases held; rfl⟩
  | .aggregate _ _ _ element => by
    rw [DataType.references, DataType.mem_references_iff (t := element)]
    exact ⟨.element, fun held => by cases held; assumption⟩

/-- **The list of references is exact**: it has the handles that a declaration holds anywhere. -/
theorem Declaration.mem_references_iff {d : Declaration} {h : Handle} :
    h ∈ d.references ↔ d.Holds h := by
  unfold Declaration.references
  constructor
  · intro mem
    cases body : d.body with
    | type t =>
      rw [body] at mem
      exact .underlying body (DataType.mem_references_iff.1 mem)
    | select members =>
      rw [body] at mem
      exact .member body mem
    | enumeration items =>
      rw [body] at mem
      cases mem
    | entity e =>
      rw [body] at mem
      simp only [Body.references, Entity.references, List.mem_append, Option.mem_toList,
        List.mem_flatMap, InverseAttribute.references, List.mem_cons, List.not_mem_nil,
        or_false] at mem
      obtain ((link | sub) | ⟨a, own, held⟩) | ⟨i, own, rfl | rfl⟩ := mem
      · exact .supertype body link
      · exact .subtype body sub
      · exact .attributeType body own (DataType.mem_references_iff.1 held)
      · exact .target body own rfl
      · exact .owner body own rfl
  · intro held
    cases held with
    | underlying body held =>
      rw [body]
      exact DataType.mem_references_iff.2 held
    | member body held =>
      rw [body]
      exact held
    | supertype body held => simp [body, Body.references, Entity.references, held]
    | subtype body held => simp [body, Body.references, Entity.references, held]
    | attributeType body own held =>
      simp only [body, Body.references, Entity.references, List.mem_append, List.mem_flatMap]
      exact .inl (.inr ⟨_, own, DataType.mem_references_iff.2 held⟩)
    | target body own held =>
      simp only [body, Body.references, Entity.references, List.mem_append, List.mem_flatMap]
      exact .inr ⟨_, own, by simp [InverseAttribute.references, held]⟩
    | owner body own held =>
      simp only [body, Body.references, Entity.references, List.mem_append, List.mem_flatMap]
      exact .inr ⟨_, own, by simp [InverseAttribute.references, held]⟩

theorem Declaration.holds_rename {d : Declaration} {f : Handle → Handle} {g : Handle} :
    (d.rename f).Holds g ↔ ∃ h, d.Holds h ∧ f h = g := by
  simp only [← mem_references_iff, references_rename, List.mem_map]

end Express
