import Express.Proofs.Building
import Express.Proofs.Settling

/-!
# The normal form of a run

Of a run of calls it matters which calls succeed, in which order declarations are added, and what
each part of each declaration is set to last.

* `Part`, `Draft.Setting.target` — the part of a declaration that a setting is about.
* `Change.apply_apply`, `Change.apply_comm` — the last change of a part counts, and changes of
  different parts do not interfere.
* `Draft.latest` — the settings that are not replaced by later ones. `Draft.foldl_latest` says that
  the others have no effect, `Draft.settled_perm` that the order of those that remain has none.
* `Draft.Same` — two drafts agree, up to the order in which subtypes were listed for entities;
  `Draft.Same.build_eq` — building does not tell them apart, not by the fault that it reports either.
* `Draft.normalForm` — the additions of a history in their order, and then settings.
* `Draft.run_normalForm` — the normal form of a run succeeds throughout, gives the same handles and
  makes the same draft.
-/

set_option autoImplicit false

namespace Express

/-- The parts of declarations that can be set. -/
inductive Part where
  | underlying
  | members
  | attributes
  | inverse
  | subtypes
  deriving DecidableEq

/-- The kind of declarations that have such a part. -/
def Part.kind : Part → Kind
  | .underlying => .type
  | .members => .select
  | .attributes => .entity
  | .inverse => .entity
  | .subtypes => .entity

namespace Change

/-- The part that a change replaces. -/
def part : Change → Part
  | .type _ => .underlying
  | .members _ => .members
  | .attributes _ _ => .attributes
  | .inverse _ => .inverse
  | .subtypes _ => .subtypes

variable {c c' : Change} {b : Body}

@[simp] theorem kind_part : c.part.kind = c.kind := by
  cases c <;> rfl

theorem apply_apply (same : c.part = c'.part) : c'.apply (c.apply b) = c'.apply b := by
  cases c <;> cases c' <;> cases same <;> cases b <;> rfl

theorem apply_comm (kind : c.kind = c'.kind) (other : c.part ≠ c'.part) :
    c'.apply (c.apply b) = c.apply (c'.apply b) := by
  -- Only entities have more than one part; of any other kind the changes are of the same part.
  cases c <;> cases c' <;> cases kind
  all_goals first
    | exact absurd rfl other
    | cases b <;> rfl

end Change

namespace Draft

/-- What a setting is about: a part of one declaration. -/
def Setting.target (s : Setting) : Handle × Part := (s.handle, s.change.part)

/-- The settings of which none that follows is about the same. -/
def latest : List Setting → List Setting
  | [] => []
  | s :: later => if s.target ∈ later.map (·.target) then latest later else s :: latest later

variable {registry : Registry} {config : Config} {d e : Draft} {entries : List Entry} {s t : Setting}
  {l m : List Setting} {declarations : Array Declaration} {x : Declaration} {c c' : Change}

/-! ## Settings that are replaced -/

theorem kind_revise : (x.revise c).kind = x.kind := (x.sameHead_revise c).kind

theorem revise_revise (same : c.part = c'.part) : (x.revise c).revise c' = x.revise c' := by
  by_cases fits : x.kind = c.kind
  · have kinds : c.kind = c'.kind := by rw [← Change.kind_part, same, Change.kind_part]
    have fits' := fits.trans kinds
    rw [Declaration.revise_eq (kind_revise.trans fits'), Declaration.revise_eq fits,
      Declaration.revise_eq fits', Change.apply_apply same]
  · rw [Declaration.revise_of_ne fits]

theorem revise_comm (other : c.part ≠ c'.part) :
    (x.revise c).revise c' = (x.revise c').revise c := by
  by_cases fits : x.kind = c.kind
  · by_cases fits' : x.kind = c'.kind
    · rw [Declaration.revise_eq (kind_revise.trans fits'), Declaration.revise_eq fits,
        Declaration.revise_eq (kind_revise.trans fits), Declaration.revise_eq fits',
        Change.apply_comm (fits.symm.trans fits') other]
    · rw [Declaration.revise_of_ne (kind_revise.trans_ne fits'), Declaration.revise_of_ne fits']
  · rw [Declaration.revise_of_ne fits, Declaration.revise_of_ne (kind_revise.trans_ne fits)]

theorem settle_settle (same : s.target = t.target) :
    settle (settle declarations s) t = settle declarations t := by
  obtain ⟨here, parts⟩ := Prod.mk.inj same
  refine Array.ext_getElem? fun i => ?_
  rw [settle_found, settle_found, settle_found, here]
  cases declarations[i]? with
  | none => rfl
  | some x =>
    simp only [Option.map_some]
    split
    · rw [revise_revise parts]
    · rfl

theorem settle_comm (other : s.target ≠ t.target) :
    settle (settle declarations s) t = settle (settle declarations t) s := by
  refine Array.ext_getElem? fun i => ?_
  rw [settle_found, settle_found, settle_found, settle_found]
  cases declarations[i]? with
  | none => rfl
  | some x =>
    simp only [Option.map_some, Option.some.injEq]
    by_cases here : s.handle.index = i
    · by_cases here' : t.handle.index = i
      · have parts : s.change.part ≠ t.change.part := fun same =>
          other (Prod.ext (Handle.ext_index (here.trans here'.symm)) same)
        rw [if_pos here, if_pos here', if_pos here', if_pos here, revise_comm parts]
      · rw [if_neg here', if_neg here']
    · rw [if_neg here, if_neg here]

/-- A setting that a later one replaces has no effect. -/
theorem foldl_settle_replaced : ∀ {l : List Setting} {declarations : Array Declaration},
    s.target ∈ l.map (·.target) →
      l.foldl settle (settle declarations s) = l.foldl settle declarations
  | t :: l, declarations, replaced => by
    -- The setting moves on along the list until it meets the one that replaces it.
    rw [List.foldl_cons, List.foldl_cons]
    by_cases same : s.target = t.target
    · rw [settle_settle same]
    · rw [settle_comm same]
      refine foldl_settle_replaced ?_
      rcases List.mem_cons.1 replaced with here | later
      · exact absurd here same
      · exact later

/-- **Only the latest settings count.** -/
theorem foldl_latest : ∀ {l : List Setting} {declarations : Array Declaration},
    (latest l).foldl settle declarations = l.foldl settle declarations
  | [], _ => rfl
  | s :: l, declarations => by
    rw [latest, List.foldl_cons]
    split
    · rename_i replaced
      rw [foldl_latest, foldl_settle_replaced replaced]
    · rw [List.foldl_cons, foldl_latest]

/-- **Settings about different parts can be made in any order.** -/
theorem settled_perm (different : (l.map (·.target)).Nodup) (perm : l.Perm m) :
    l.foldl settle declarations = m.foldl settle declarations := by
  refine perm.foldl_eq' (fun s ms t mt given => ?_) declarations
  by_cases same : s.target = t.target
  · rw [List.inj_on_of_nodup_map different ms mt same]
  · exact settle_comm same

theorem latest_sublist : ∀ l : List Setting, (latest l).Sublist l
  | [] => .slnil
  | s :: l => by
    rw [latest]
    split
    · exact (latest_sublist l).cons s
    · exact (latest_sublist l).cons_cons s

theorem mem_target_latest {p : Handle × Part} : ∀ {l : List Setting},
    p ∈ (latest l).map (·.target) ↔ p ∈ l.map (·.target)
  | [] => Iff.rfl
  | s :: l => by
    rw [latest]
    split
    · rename_i replaced
      rw [mem_target_latest, List.map_cons, List.mem_cons, or_iff_right_of_imp]
      rintro rfl
      exact replaced
    · rw [List.map_cons, List.map_cons, List.mem_cons, List.mem_cons, mem_target_latest]

theorem latest_nodup : ∀ l : List Setting, ((latest l).map (·.target)).Nodup
  | [] => List.nodup_nil
  | s :: l => by
    rw [latest]
    split
    · exact latest_nodup l
    · rename_i last
      rw [List.map_cons, List.nodup_cons, mem_target_latest]
      exact ⟨last, latest_nodup l⟩

/-! ## Drafts that building does not tell apart -/

/-- Two drafts agree. The order in which entities had their subtypes listed may differ. -/
structure Same (d e : Draft) : Prop where
  config : e.config = d.config
  declarations : e.declarations = d.declarations
  codes : e.codes = d.codes
  explicit : e.explicit.Perm d.explicit

namespace Same

theorem checkListed_eq (same : Same d e) {owner : Declaration} :
    ∀ {before handles : List Handle},
      e.checkListed owner before handles = d.checkListed owner before handles
  | _, [] => rfl
  | before, h :: rest => by
    rw [checkListed, checkListed, same.declarations, same.checkListed_eq]

theorem checkSubtypes_eq (same : Same d e) {owner : Declaration} {content : Entity} :
    e.checkSubtypes owner content = d.checkSubtypes owner content := by
  unfold checkSubtypes checkMissing
  simp only [List.contains_eq_mem, same.explicit.mem_iff, same.checkListed_eq, same.declarations]

theorem checkInverse_eq (same : Same d e) : e.checkInverse = d.checkInverse := by
  unfold checkInverse ancestry supertypeOf? size
  rw [same.declarations]

theorem checkEntity_eq (same : Same d e) : e.checkEntity = d.checkEntity := by
  funext x
  unfold checkEntity
  simp only [same.checkSubtypes_eq, same.checkInverse_eq]

/-- **The checks do not tell the drafts apart**, nor do they find other faults. -/
theorem check_eq (same : Same d e) : e.check = d.check := by
  unfold check
  rw [same.checkEntity_eq]
  unfold checkCodes sortedCodes checkNames names checkHandles size
  rw [same.config, same.codes, same.declarations]

theorem blueprint_eq (same : Same d e) : e.blueprint = d.blueprint := by
  have places : e.place = d.place := by
    unfold place rank
    rw [same.declarations]
  unfold blueprint relocated
  rw [same.config, same.declarations, places]
  refine congrArg _ (completed_congr fun x _ => ?_)
  exact (same.explicit.map d.place).mem_iff

/-- **Building does not tell the drafts apart.** -/
theorem build_eq (same : Same d e) (sound : Sound d) (sound' : Sound e) : e.build = d.build := by
  cases checked : d.check with
  | error fault =>
    unfold build
    rw [same.check_eq, checked]
    rfl
  | ok =>
    have formed := (check_eq_ok sound).1 checked
    have formed' := (check_eq_ok sound').1 (same.check_eq.trans checked)
    rw [(build_eq_ok sound).2 ⟨formed, rfl⟩]
    exact (build_eq_ok sound').2 ⟨formed', same.blueprint_eq.symm⟩

end Same

/-! ## The normal form -/

/-- The additions of a history in their order, and then some settings. -/
def normalForm (entries : List Entry) (kept : List Setting) : List Entry :=
  additions entries ++ kept.map (·.entry)

theorem settings_normalForm {kept : List Setting} : settings (normalForm entries kept) = kept := by
  have none_added : settings (additions entries) = [] := by
    refine List.filterMap_eq_nil_iff.2 fun entry mem => ?_
    exact Option.isNone_iff_eq_none.1 (List.mem_filter.1 mem).2
  have all_kept : settings (kept.map (·.entry)) = kept := by
    unfold settings
    rw [List.filterMap_map]
    exact List.filterMap_some
  unfold settings at none_added all_kept
  rw [settings, normalForm, List.filterMap_append, none_added, all_kept, List.nil_append]

theorem mem_target_subtypes {h : Handle} :
    (h, Part.subtypes) ∈ l.map (·.target) ↔ ∃ handles, ⟨h, .subtypes handles⟩ ∈ l := by
  rw [List.mem_map]
  constructor
  · rintro ⟨⟨g, change⟩, mem, same⟩
    cases change <;> cases same
    exact ⟨_, mem⟩
  · rintro ⟨handles, mem⟩
    exact ⟨_, mem, rfl⟩

/-- **The normal form of a history succeeds**, and makes the draft that the history makes. -/
theorem Leads.normalForm (history : Leads registry (empty config) entries d) {kept : List Setting}
    (last : kept.Perm (latest (settings entries))) :
    ∃ e, Leads registry (empty config) (normalForm entries kept) e ∧ Same d e := by
  -- What the additions make alone is where both the history and its normal form make settings.
  obtain ⟨base, added, settled⟩ := history.settled (Settled.refl _)
  have fits : ∀ s ∈ kept, Fits base.declarations s := fun s mem =>
    settled.fits s ((latest_sublist _).subset (last.subset mem))
  obtain ⟨e, on, settled'⟩ := (Settled.refl base).leads registry fits
  have normal : Leads registry (empty config) (Draft.normalForm entries kept) e := added.append on
  have targets := last.map (·.target)
  refine ⟨e, normal, ?_, ?_, ?_, ?_⟩
  · rw [normal.eq_run, history.eq_run, run_config, run_config]
  · calc
      e.declarations = kept.foldl settle base.declarations := settled'.declarations
      _ = (latest (settings entries)).foldl settle base.declarations :=
        settled_perm (targets.nodup_iff.2 (latest_nodup _)) last
      _ = (settings entries).foldl settle base.declarations := foldl_latest
      _ = d.declarations := settled.declarations.symm
  · exact settled'.codes.trans settled.codes.symm
  · have sound : Sound d := history.eq_run ▸ run_sound registry config _
    have sound' : Sound e := normal.eq_run ▸ run_sound registry config _
    refine (List.perm_ext_iff_of_nodup sound'.once sound.once).2 fun h => ?_
    rw [normal.mem_explicit_iff, history.mem_explicit_iff, settings_normalForm,
      ← mem_target_subtypes, ← mem_target_subtypes, targets.mem_iff, mem_target_latest]

/-- **Every run of calls has a normal form.** The calls that fail are left out, those that add come
first, in their order, and of those that set a part of a declaration the last one is kept, in any
order. All of these succeed, additions give the handles that they gave before, and the draft is the
same; building gives the same schema, or reports the same fault. -/
theorem run_normalForm (registry : Registry) (config : Config) (calls : List Call)
    {kept : List Setting}
    (last : kept.Perm (latest (settings ((empty config).history registry calls)))) :
    (empty config).history registry
        ((normalForm ((empty config).history registry calls) kept).map (·.call)) =
      normalForm ((empty config).history registry calls) kept ∧
    Same (run registry config calls)
      (run registry config
        ((normalForm ((empty config).history registry calls) kept).map (·.call))) ∧
    (run registry config
        ((normalForm ((empty config).history registry calls) kept).map (·.call))).build =
      (run registry config calls).build := by
  obtain ⟨e, normal, same⟩ := (leads_run registry config calls).normalForm last
  cases normal.eq_run
  exact ⟨normal.history_eq, same, same.build_eq (run_sound _ _ _) (run_sound _ _ _)⟩

/-- Bolts get subtypes before they are there, labels are added twice, and the subtypes of parts are
listed twice. -/
def hardwareDetours : List Call :=
  [.set ⟨2⟩ (.subtypes []), .add "label" (.type (.simple .string)), .add "part" (.entity none),
    .set ⟨1⟩ (.subtypes []), .set ⟨1⟩ (.attributes [] []), .add "label" (.enumeration []),
    .add "bolt" (.entity (some ⟨1⟩)), .set ⟨1⟩ (.subtypes [⟨2⟩])]

/-- What counts of it, with the subtypes of parts listed before their attributes are set. -/
def hardwareDirect : List Call :=
  [.add "label" (.type (.simple .string)), .add "part" (.entity none),
    .add "bolt" (.entity (some ⟨1⟩)), .set ⟨1⟩ (.subtypes [⟨2⟩]), .set ⟨1⟩ (.attributes [] [])]

theorem hardware_normalForm :
    ((empty (.plain "hardware")).history hardwareCodes hardwareDirect).map (·.answer) =
      [some ⟨0⟩, some ⟨1⟩, some ⟨2⟩, none, none] ∧
    (run hardwareCodes (.plain "hardware") hardwareDirect).build =
      (run hardwareCodes (.plain "hardware") hardwareDetours).build := by
  have last : [⟨⟨1⟩, .subtypes [⟨2⟩]⟩, ⟨⟨1⟩, .attributes [] []⟩].Perm
      (latest (settings ((empty (.plain "hardware")).history hardwareCodes hardwareDetours))) := by
    decide +kernel
  obtain ⟨succeeds, -, built⟩ := run_normalForm hardwareCodes (.plain "hardware") _ last
  exact ⟨congrArg (List.map (·.answer)) succeeds, built⟩

end Draft

end Express
