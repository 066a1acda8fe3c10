import Express.Proofs.Drafting
import Express.Proofs.Numbering

/-!
# What holds of every draft

* `Draft.Sound` — the invariant: the codes are those of the declarations and all different, each
  declaration has its position as handle, a supertype is an entity that stands before its subtypes,
  and an entity has subtypes only if they were listed.
* `Draft.Sound.step` — each step keeps it; `Draft.run_sound` — so every run of calls, with any
  registry, ends in a sound draft.
* `Draft.Sound.size_le` — a sound draft has at most 2^32 declarations, so its handles are different
  and `Draft.Sound.index_handle` reads each back as the position.
-/

set_option autoImplicit false

namespace Express

/-- Where a change meets the kind of a body, it keeps the kind; of an entity it keeps the supertype,
and the subtypes unless it lists them, and attributes and flags stay of one number. -/
theorem Change.apply_eq_entity {change : Change} {b : Body} {e : Entity} {owner : String}
    (kind : b.kind = change.kind) (fits : change.check owner = .ok ())
    (applied : change.apply b = .entity e) :
    ∃ e₀, b = .entity e₀ ∧ e.supertype = e₀.supertype ∧
      (change.listsSubtypes = false → e.subtypes = e₀.subtypes) ∧
      (e₀.derived.length = e₀.attributes.length → e.derived.length = e.attributes.length) := by
  cases change with
  | type t => cases applied
  | members handles => cases applied
  | attributes own flags =>
    cases b with
    | entity e₀ =>
      cases applied
      have aligned := refuseIf_eq_ok.1 fits
      rw [bne_eq_false_iff_eq] at aligned
      exact ⟨e₀, rfl, rfl, fun _ => rfl, fun _ => aligned.symm⟩
    | _ => cases kind
  | inverse own =>
    cases b with
    | entity e₀ =>
      cases applied
      exact ⟨e₀, rfl, rfl, fun _ => rfl, id⟩
    | _ => cases kind
  | subtypes handles =>
    cases b with
    | entity e₀ =>
      cases applied
      exact ⟨e₀, rfl, rfl, Bool.noConfusion, id⟩
    | _ => cases kind

theorem Change.kind_apply {change : Change} {b : Body} (kind : b.kind = change.kind) :
    (change.apply b).kind = b.kind := by
  cases change <;> cases b <;> cases kind <;> rfl

namespace Declaration

theorem kind_eq_entity {x : Declaration} : x.kind = .entity ↔ ∃ e, x.body = .entity e := by
  unfold kind
  cases x.body <;> simp [Body.kind]

theorem supertype?_eq_some {x : Declaration} {s : Handle} :
    x.supertype? = some s ↔ ∃ e, x.body = .entity e ∧ e.supertype = some s := by
  unfold supertype? asEntity?
  cases x.body <;> simp

end Declaration

namespace Draft

variable {registry : Registry} {config : Config} {d d' : Draft} {h : Handle} {owner : Declaration}
  {change : Change} {code : TypeCode} {name : String} {content : Content} {i : Nat}
  {x : Declaration}

/-! ## Declarations after a step -/

theorem extended_found : (d.extended code name content).declarations[i]? = some x ↔
    (i = d.size ∧ x = ⟨Handle.ofIndex d.size, code, name, content.body⟩) ∨
      d.declarations[i]? = some x := by
  unfold extended
  rw [Array.getElem?_push]
  split
  · rename_i last
    rw [Array.getElem?_eq_none (by omega)]
    simp [last, eq_comm, size]
  · rename_i before
    simp [size, before]

theorem revised_found (found : d.declarations[h.index]? = some owner) :
    (d.revised h owner change).declarations[i]? = some x ↔
      (i = h.index ∧ x = { owner with body := change.apply owner.body }) ∨
        (i ≠ h.index ∧ d.declarations[i]? = some x) := by
  obtain ⟨inside, -⟩ := Array.getElem?_eq_some_iff.1 found
  unfold revised
  rw [Array.getElem?_setIfInBounds]
  split
  · rename_i here
    simp [← here, inside, eq_comm]
  · rename_i elsewhere
    simp [Ne.symm elsewhere]

/-- A step on one declaration keeps what is read off a declaration without its body. -/
theorem revised_map {α : Type} {f : Declaration → α} (found : d.declarations[h.index]? = some owner)
    (same : ∀ body, f { owner with body } = f owner) :
    (d.revised h owner change).declarations.toList.map f = d.declarations.toList.map f := by
  obtain ⟨inside, rfl⟩ := Array.getElem?_eq_some_iff.1 found
  unfold revised
  rw [Array.toList_setIfInBounds, List.map_set, same]
  refine List.ext_getElem? fun j => ?_
  rw [List.getElem?_set]
  split
  · rename_i here
    subst here
    simp [inside]
  · rfl

theorem revised_kind (found : d.declarations[h.index]? = some owner)
    (kind : owner.kind = change.kind) {k : Kind} (known : ∃ p, d.declarations[i]? = some p ∧ p.kind = k) :
    ∃ p, (d.revised h owner change).declarations[i]? = some p ∧ p.kind = k := by
  obtain ⟨p, at_i, rfl⟩ := known
  by_cases here : i = h.index
  · subst here
    cases found.symm.trans at_i
    exact ⟨_, (revised_found found).2 (.inl ⟨rfl, rfl⟩), Change.kind_apply kind⟩
  · exact ⟨p, (revised_found found).2 (.inr ⟨here, at_i⟩), rfl⟩

theorem extended_kind {k : Kind} (known : ∃ p, d.declarations[i]? = some p ∧ p.kind = k) :
    ∃ p, (d.extended code name content).declarations[i]? = some p ∧ p.kind = k := by
  obtain ⟨p, at_i, kind⟩ := known
  exact ⟨p, extended_found.2 (.inr at_i), kind⟩

/-! ## The invariant -/

/-- What holds of every draft. -/
structure Sound (d : Draft) : Prop where
  codes : d.codes = (d.declarations.toList.map fun x => (x.code, x.handle)).reverse
  different : (d.declarations.toList.map (·.code)).Nodup
  handle : ∀ {i : Nat} {x : Declaration}, d.declarations[i]? = some x → x.handle = Handle.ofIndex i
  supertype : ∀ {i : Nat} {x : Declaration} {s : Handle}, d.declarations[i]? = some x →
    x.supertype? = some s → s.index < i ∧ ∃ p, d.declarations[s.index]? = some p ∧ p.kind = .entity
  flags : ∀ {i : Nat} {x : Declaration} {e : Entity}, d.declarations[i]? = some x →
    x.body = .entity e → e.derived.length = e.attributes.length
  explicit : ∀ h ∈ d.explicit, ∃ p, d.declarations[h.index]? = some p ∧ p.kind = .entity
  once : d.explicit.Nodup
  unlisted : ∀ {i : Nat} {x : Declaration} {e : Entity}, d.declarations[i]? = some x →
    x.body = .entity e → x.handle ∉ d.explicit → e.subtypes = []

theorem Sound.empty : Sound (empty config) where
  codes := rfl
  different := List.nodup_nil
  handle found := by simp [Draft.empty] at found
  supertype found := by simp [Draft.empty] at found
  flags found := by simp [Draft.empty] at found
  explicit _ mem := by simp [Draft.empty] at mem
  once := List.nodup_nil
  unlisted found := by simp [Draft.empty] at found

theorem Sound.extended (sound : Sound d) (fresh : code ∉ d.codes.map (·.1))
    (grounded : d.checkSupertype content = .ok ()) : Sound (d.extended code name content) where
  codes := by simp [Draft.extended, sound.codes]
  different := by
    have unused : ∀ x ∈ d.declarations, x.code ≠ code := by
      intro x mem same
      refine fresh ?_
      rw [sound.codes, List.map_reverse, List.mem_reverse, List.map_map]
      exact List.mem_map.2 ⟨x, Array.mem_toList_iff.2 mem, same⟩
    simpa [Draft.extended, List.nodup_append] using ⟨sound.different, unused⟩
  handle found := by
    rcases extended_found.1 found with ⟨rfl, rfl⟩ | old
    · rfl
    · exact sound.handle old
  supertype found link := by
    rcases extended_found.1 found with ⟨rfl, rfl⟩ | old
    · obtain ⟨e, body, supertype⟩ := Declaration.supertype?_eq_some.1 link
      cases content with
      | entity given =>
        cases body
        have known := checkSupertype_eq_ok.1 grounded _ (congrArg Content.entity supertype)
        have ⟨p, at_s, _⟩ := known
        exact ⟨(Array.getElem?_eq_some_iff.1 at_s).1, extended_kind known⟩
      | _ => cases body
    · obtain ⟨before, known⟩ := sound.supertype old link
      exact ⟨before, extended_kind known⟩
  flags found body := by
    rcases extended_found.1 found with ⟨rfl, rfl⟩ | old
    · cases content <;> cases body
      rfl
    · exact sound.flags old body
  explicit h mem := extended_kind (sound.explicit h mem)
  once := sound.once
  unlisted found body absent := by
    rcases extended_found.1 found with ⟨rfl, rfl⟩ | old
    · cases content <;> cases body
      rfl
    · exact sound.unlisted old body absent

theorem mem_explicit_revised {g : Handle} : g ∈ (d.revised h owner change).explicit ↔
    g ∈ d.explicit ∨ (g = h ∧ change.listsSubtypes = true) := by
  unfold revised
  cases change.listsSubtypes <;> simp [or_comm]

theorem Sound.revised (sound : Sound d) (found : d.declarations[h.index]? = some owner)
    (kind : owner.kind = change.kind) (fits : change.check owner.name = .ok ()) :
    Sound (d.revised h owner change) where
  codes := by
    rw [revised_map found fun _ => rfl]
    exact sound.codes
  different := by
    rw [revised_map found fun _ => rfl]
    exact sound.different
  handle at_i := by
    rcases (revised_found found).1 at_i with ⟨rfl, rfl⟩ | ⟨-, old⟩
    · show owner.handle = _
      exact sound.handle found
    · exact sound.handle old
  supertype at_i link := by
    rcases (revised_found found).1 at_i with ⟨rfl, rfl⟩ | ⟨-, old⟩
    · obtain ⟨e, body, supertype⟩ := Declaration.supertype?_eq_some.1 link
      obtain ⟨e₀, body₀, kept, -⟩ := Change.apply_eq_entity kind fits body
      have link₀ := Declaration.supertype?_eq_some.2 ⟨e₀, body₀, kept ▸ supertype⟩
      obtain ⟨before, known⟩ := sound.supertype found link₀
      exact ⟨before, revised_kind found kind known⟩
    · obtain ⟨before, known⟩ := sound.supertype old link
      exact ⟨before, revised_kind found kind known⟩
  flags at_i body := by
    rcases (revised_found found).1 at_i with ⟨rfl, rfl⟩ | ⟨-, old⟩
    · obtain ⟨e₀, body₀, -, -, aligned⟩ := Change.apply_eq_entity kind fits body
      exact aligned (sound.flags found body₀)
    · exact sound.flags old body
  explicit g mem := by
    rcases mem_explicit_revised.1 mem with old | ⟨rfl, lists⟩
    · exact revised_kind found kind (sound.explicit g old)
    · refine revised_kind found kind ⟨owner, found, kind.trans ?_⟩
      cases change <;> cases lists
      rfl
  once := by
    unfold Draft.revised
    split
    · exact sound.once.insert
    · exact sound.once
  unlisted at_i body absent := by
    have absent₀ := fun mem => absent (mem_explicit_revised.2 (.inl mem))
    rcases (revised_found found).1 at_i with ⟨rfl, rfl⟩ | ⟨-, old⟩
    · obtain ⟨e₀, body₀, -, kept, -⟩ := Change.apply_eq_entity kind fits body
      have unlisting : change.listsSubtypes = false := by
        rw [← Bool.not_eq_true]
        intro lists
        refine absent (mem_explicit_revised.2 (.inr ⟨?_, lists⟩))
        exact (sound.handle found).trans h.ofIndex_index
      rw [kept unlisting, sound.unlisted found body₀ absent₀]
    · exact sound.unlisted old body absent₀

/-- **Each step keeps the invariant.** -/
theorem Sound.step (sound : Sound d) (made : Step d d') : Sound d' := by
  cases made with
  | add fresh grounded => exact sound.extended fresh grounded
  | set found kind fits => exact sound.revised found kind fits

/-- **Every run of calls ends in a sound draft**, whatever the calls and the registry. -/
theorem run_sound (registry : Registry) (config : Config) (calls : List Call) :
    Sound (run registry config calls) :=
  run_induct Sound.empty Sound.step calls

/-! ## Handles of a sound draft -/

theorem Sound.size_le (sound : Sound d) : d.size ≤ UInt32.size := by
  have := TypeCode.nodup_length_le sound.different
  simpa [size] using this

theorem lt_size (found : d.declarations[i]? = some x) : i < d.size :=
  (Array.getElem?_eq_some_iff.1 found).1

theorem found_of_lt (inside : i < d.size) : ∃ x, d.declarations[i]? = some x :=
  ⟨_, Array.getElem?_eq_getElem inside⟩

/-- **A handle is a position**: it is read back as the place of its declaration. -/
theorem Sound.index_handle (sound : Sound d) (found : d.declarations[i]? = some x) :
    x.handle.index = i := by
  have := lt_size found
  have := sound.size_le
  rw [sound.handle found, Handle.index_ofIndex (by omega)]

theorem Sound.handle_eq (sound : Sound d) (found : d.declarations[h.index]? = some x) :
    x.handle = h :=
  Handle.ext_index (sound.index_handle found)

theorem Sound.found (sound : Sound d) (mem : x ∈ d.declarations) :
    d.declarations[x.handle.index]? = some x := by
  obtain ⟨i, at_i⟩ := Array.mem_iff_getElem?.1 mem
  rw [sound.index_handle at_i]
  exact at_i

end Draft

end Express
