import Express.Proofs.History
import Express.Proofs.Indexing

/-!
# Room for all handles

Handles and codes are 32-bit numbers, and nothing counts the declarations of a draft. What bounds them
are the codes: a declaration is added only under a code that no other one has, so there are never more
declarations than codes, and the position of each fits into a handle.

* `Draft.add_room` — where a call adds a declaration there was room for it, and the handle that is
  given is the number of declarations before.
* `Draft.Leads.answers` — so the calls of a history that add declarations give the positions in turn.
* `Draft.Lossless` — no position is changed by being made a handle, in a draft and in its schema;
  `Draft.run_lossless` says that this holds after every run of calls.
* `Draft.crowd_size` — every number of declarations up to 2^32 is reached, so the bound is the least.
-/

set_option autoImplicit false

namespace Express

theorem handles_nodup {declarations : Array Declaration}
    (places : ∀ {k : Nat} {x : Declaration}, declarations[k]? = some x → x.handle.index = k) :
    (declarations.toList.map (·.handle)).Nodup := by
  unfold List.Nodup
  rw [List.pairwise_map]
  refine (ascending_of_places places).imp fun {x y} less same => ?_
  rw [same] at less
  exact Nat.lt_irrefl _ less

namespace Draft

variable {registry : Registry} {d d' : Draft} {entries : List Entry} {name : String}
  {content : Content} {answer : Option Handle}

/-! ## The handles that calls give -/

theorem size_extended {code : TypeCode} : (d.extended code name content).size = d.size + 1 := by
  simp [extended, size]

theorem size_revised {h : Handle} {owner : Declaration} {change : Change} :
    (d.revised h owner change).size = d.size := by
  simp [revised, size]

/-- **A declaration is added only where there is room for it**, as the draft that the call makes has no
more declarations than codes either. Its handle is the number of declarations before. -/
theorem add_room (sound : Sound d)
    (performed : d.perform registry (.add name content) = .ok (answer, d')) :
    d.size < UInt32.size ∧ d'.size = d.size + 1 ∧ ∃ h, answer = some h ∧ h.index = d.size := by
  have few := (sound.step (step_of_perform performed)).size_le
  obtain ⟨h, added, rfl⟩ := perform_add_eq_ok.1 performed
  obtain ⟨-, code, -, -, same⟩ := add_eq_ok.1 added
  cases same
  rw [size_extended] at few ⊢
  have room : d.size < UInt32.size := by omega
  exact ⟨room, rfl, _, rfl, Handle.index_ofIndex room⟩

/-- **Additions give the positions in turn**, from the first one that is free, and nothing else makes a
draft longer. -/
theorem Leads.answers (leads : Leads registry d entries d') (sound : Sound d) :
    d'.size = d.size + (additions entries).length ∧
      (additions entries).map (fun entry => entry.answer.map Handle.index) =
        (List.range' d.size (additions entries).length).map some := by
  induction leads with
  | nil => simp [additions]
  | @cons d d₁ d₂ entry entries performed rest ih =>
    obtain ⟨size, given⟩ := ih (sound.step (step_of_perform performed))
    obtain ⟨call, answer⟩ := entry
    cases call with
    | add name content =>
      obtain ⟨-, longer, h, rfl, place⟩ := add_room sound performed
      have first : additions (⟨.add name content, some h⟩ :: entries) =
          ⟨.add name content, some h⟩ :: additions entries := rfl
      rw [longer] at size given
      rw [first, List.length_cons, List.map_cons, given, List.range'_succ, List.map_cons]
      refine ⟨by omega, ?_⟩
      simp [place]
    | set h change =>
      obtain ⟨owner, -, -, -, rfl⟩ := set_eq_ok.1 (perform_set_eq_ok.1 performed).1
      rw [size_revised] at size given
      exact ⟨size, given⟩

/-! ## Positions and handles -/

/-- Nothing is lost when the positions of a draft, and of its schema, are made handles. -/
structure Lossless (registry : Registry) (d : Draft) : Prop where
  /-- No two declarations have the same code, and codes are 32-bit numbers. -/
  different : (d.declarations.toList.map (·.code)).Nodup
  few : d.size ≤ UInt32.size
  read : ∀ {i : Nat}, i < d.size → (Handle.ofIndex i).index = i
  handle : ∀ {i : Nat} {x : Declaration}, d.declarations[i]? = some x → x.handle.index = i
  apart : (d.declarations.toList.map (·.handle)).Nodup
  /-- A call that adds a declaration answers with the number of declarations before it. -/
  answer : ∀ {name : String} {content : Content} {answer : Option Handle} {d' : Draft},
    d.perform registry (.add name content) = .ok (answer, d') →
      d.size < UInt32.size ∧ ∃ h, answer = some h ∧ h.index = d.size
  /-- The table for renumbering is made, and has for each declaration the place of its code in the
  order of codes. -/
  renumbered : ∃ table, d.positions = .ok table ∧
    ∀ {i : Nat} {x : Declaration}, d.declarations[i]? = some x →
      ∃ h, table[i]? = some h ∧ h.index = d.codeOrder.idxOf x.code
  schema : ∀ {s : Schema}, d.build = .ok s → s.size = d.size ∧
    (∀ {i : Nat} {x : Declaration}, s.declarations[i]? = some x → x.handle.index = i) ∧
    (s.declarations.toList.map (·.handle)).Nodup

/-- A draft that keeps the invariant loses nothing: its codes are different, and all else follows from
their number. -/
theorem Sound.lossless (sound : Sound d) : Lossless registry d where
  different := sound.different
  few := sound.size_le
  read inside := Handle.index_ofIndex (Nat.lt_of_lt_of_le inside sound.size_le)
  handle := sound.index_handle
  apart := handles_nodup sound.index_handle
  answer performed := by
    obtain ⟨room, -, given⟩ := add_room sound performed
    exact ⟨room, given⟩
  renumbered := by
    obtain ⟨table, made, there⟩ := positions_eq_ok sound
    refine ⟨table, made, fun {i x} found => ?_⟩
    have own := sound.index_handle found
    rw [← own] at found ⊢
    exact ⟨d.place x.handle, there found, by rw [index_place sound found, rank_eq_idxOf sound found]⟩
  schema built := by
    obtain ⟨-, rfl⟩ := (build_eq_ok sound).1 built
    exact ⟨blueprint_size d, blueprint_places sound, handles_nodup (blueprint_places sound)⟩

/-- **Handles never wrap**, whatever calls are made and however many. The calls that added declarations
answered with the positions from 0 on, and no position is changed by being made a handle, in the draft
that is there or in the schema that it gives. -/
theorem run_lossless (registry : Registry) (config : Config) (calls : List Call) :
    Lossless registry (run registry config calls) ∧
      (additions ((empty config).history registry calls)).map
          (fun entry => entry.answer.map Handle.index) =
        (List.range (run registry config calls).size).map some := by
  refine ⟨(run_sound registry config calls).lossless, ?_⟩
  obtain ⟨size, given⟩ := (leads_run registry config calls).answers Sound.empty
  have none_before : (empty config).size = 0 := rfl
  rw [given, size, none_before, Nat.zero_add, List.range_eq_range']

/-! ## Drafts of any size -/

theorem after_add {code : TypeCode} (grounded : d.checkSupertype content = .ok ())
    (known : registry.codeOf name = .ok code) (fresh : code ∉ d.codes.map (·.1)) :
    d.after registry (.add name content) =
      d.extended code ((registry.nameOf? code).getD name) content := by
  have performed := perform_add_eq_ok.2
    ⟨_, add_eq_ok.2 ⟨grounded, code, known, fresh, rfl⟩, rfl⟩
  rw [after, performed]

/-- The registry that gives each name its length as code. -/
def lengthCodes : Registry := ⟨fun name => .ok (.ofNat name.length), fun _ => none⟩

/-- The call that adds an enumeration with a name of some length. -/
def addOfLength (length : Nat) : Call :=
  .add (String.ofList (List.replicate length 'x')) (.enumeration [])

/-- Enumerations with names of all lengths below a number. -/
def crowd (n : Nat) : List Call := (List.range n).map addOfLength

/-- **The bound is reached**: there are drafts of every size that it allows. -/
theorem crowd_size (config : Config) {n : Nat} (few : n ≤ UInt32.size) :
    (run lengthCodes config (crowd n)).size = n := by
  -- The codes that are used up are the numbers below the size.
  suffices run_crowd : (run lengthCodes config (crowd n)).size = n ∧
      ∀ c ∈ (run lengthCodes config (crowd n)).codes.map (·.1), c.index < n from run_crowd.1
  induction n with
  | zero => exact ⟨rfl, nofun⟩
  | succ n ih =>
    obtain ⟨size, below⟩ := ih (by omega)
    have last : run lengthCodes config (crowd (n + 1)) =
        (run lengthCodes config (crowd n)).after lengthCodes (addOfLength n) := by
      rw [crowd, List.range_succ, List.map_append, run_append]
      rfl
    rw [last]
    generalize run lengthCodes config (crowd n) = d at size below
    have number : (TypeCode.ofNat n).index = n := TypeCode.index_ofNat few
    have fresh : TypeCode.ofNat n ∉ d.codes.map (·.1) := by
      intro used
      have := below _ used
      omega
    have known : lengthCodes.codeOf (String.ofList (List.replicate n 'x')) = .ok (.ofNat n) := by
      simp [lengthCodes]
    rw [addOfLength, after_add rfl known fresh]
    refine ⟨by rw [size_extended, size], fun c mem => ?_⟩
    rcases List.mem_cons.1 mem with rfl | old
    · show (TypeCode.ofNat n).index < n + 1
      omega
    · have := below c old
      omega

end Draft

end Express
