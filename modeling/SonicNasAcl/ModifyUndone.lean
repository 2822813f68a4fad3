/-
# ModifyUndone -- a modify that fails midway, and the replay of its tracker

Every change of a modify is one call and one note (`Pushing.plan`).  When a call fails, the
changes before it are in the tracker, and each is undone on the old entry: what was set is
disabled, and what was disabled is set again.

* `modify_fails_at` is the state a modify stops in;
* `undone_regs` is the replay, itself a list of calls;
* `modify_undone_iff`: the entry is as before exactly when nothing that was set has replaced
  an old filter or action.
-/
import SonicNasAcl.ModifyAgrees

namespace SonicNasAcl

set_option autoImplicit false

open Lib

namespace Pushing

variable {κ α V : Type} [DecidableEq κ] [Fintype κ] {key : α → κ} {ndiKey : V → κ}

/-! ## Changes -/

/-- The changes of a modify, in the order of its calls: an element is disabled (left) or
set (right) on an NPU. -/
def plan (order : Traversal κ) (deleted addOrMod : Keyed key) (npus : List NpuId) :
    List (NpuId × (α ⊕ α)) :=
  npus.flatMap fun npuId =>
    (deleted.items order).map (fun x => (npuId, .inl x))
      ++ (addOrMod.items order).map fun x => (npuId, .inr x)

/-- What is tracked of a change. -/
def note (k : Pushing key ndiKey) : NpuId × (α ⊕ α) → RollbkElem
  | (npuId, .inl x) => ⟨.deleteAttr, npuId, k.attr (key x)⟩
  | (npuId, .inr x) => ⟨.createAttr, npuId, k.attr (key x)⟩

/-- The call of a change, when an element translates to one NDI element. -/
def call (k : Pushing key ndiKey) (v : α → NpuId → V) (ids : NpuId → NdiObjId) :
    NpuId × (α ⊕ α) → PushStep κ V
  | (npuId, .inl x) => .call (k.disableMsg (key x) npuId) npuId (ids npuId) (.inl (key x))
  | (npuId, .inr x) => .call (k.setMsg x npuId) npuId (ids npuId) (.inr (v x npuId))

/-- The change that undoes a change. -/
def inverse : NpuId × (α ⊕ α) → NpuId × (α ⊕ α)
  | (npuId, change) => (npuId, change.swap)

/-- The register a change writes. -/
def register (key : α → κ) : NpuId × (α ⊕ α) → NpuId × κ
  | (npuId, change) => (npuId, key (change.elim id id))

/-- What a change writes there. -/
def written (v : α → NpuId → V) : NpuId × (α ⊕ α) → Option V
  | (_, .inl _) => none
  | (npuId, .inr x) => some (v x npuId)

variable {k : Pushing key ndiKey} {o : NdiReplies} {e : NasAclEntry}
  {order : Traversal κ} {deleted addOrMod : Keyed key} {ids : NpuId → NdiObjId}
  {npus : List NpuId} {v : α → NpuId → V} {s : Ndi}

omit [DecidableEq κ] in
theorem mem_plan {c : NpuId × (α ⊕ α)} : c ∈ plan order deleted addOrMod npus ↔
    c.1 ∈ npus ∧ ((∃ x, c.2 = .inl x ∧ deleted.find (key x) = some x) ∨
      ∃ x, c.2 = .inr x ∧ addOrMod.find (key x) = some x) := by
  obtain ⟨n, change⟩ := c
  simp only [plan, List.mem_flatMap, List.mem_append, List.mem_map, Prod.mk.injEq, Keyed.mem_items]
  constructor
  · rintro ⟨m, mem, ⟨x, found, rfl, rfl⟩ | ⟨x, found, rfl, rfl⟩⟩
    · exact ⟨mem, .inl ⟨x, rfl, found⟩⟩
    · exact ⟨mem, .inr ⟨x, rfl, found⟩⟩
  · rintro ⟨mem, ⟨x, rfl, found⟩ | ⟨x, rfl, found⟩⟩
    · exact ⟨n, mem, .inl ⟨x, found, rfl, rfl⟩⟩
    · exact ⟨n, mem, .inr ⟨x, found, rfl, rfl⟩⟩

omit [DecidableEq κ] in
/-- A modify changes no type twice on one NPU. -/
theorem plan_registers_nodup (npusOnce : npus.Nodup)
    (apart : ∀ t, (deleted.find t).isSome → addOrMod.find t = none) :
    ((plan order deleted addOrMod npus).map (register key)).Nodup := by
  have registers : (plan order deleted addOrMod npus).map (register key)
      = npus.flatMap fun n => ((deleted.items order).map key
        ++ (addOrMod.items order).map key).map (Prod.mk n) := by
    simp only [plan, List.map_flatMap, List.map_append, List.map_map]
    rfl
  rw [registers]
  refine List.nodup_flatMap.mpr ⟨fun n _ => ?_, npusOnce.imp fun {n m} other => ?_⟩
  · exact (keys_nodup apart).map fun _ _ same => (Prod.mk.inj same).2
  · rintro r inN inM
    obtain ⟨_, -, rfl⟩ := List.mem_map.mp inN
    obtain ⟨_, -, same⟩ := List.mem_map.mp inM
    exact other (Prod.mk.inj same).1.symm

/-! ## Calls and notes -/

/-- The steps of a list of changes. -/
def tracked (k : Pushing key ndiKey) (v : α → NpuId → V) (ids : NpuId → NdiObjId)
    (changes : List (NpuId × (α ⊕ α))) : List (PushStep κ V) :=
  changes.flatMap fun c => [k.call v ids c, .note (k.note c)]

omit [DecidableEq κ] in
/-- The steps of a modify are its changes, each with its note. -/
theorem plan_steps {vs : α → NpuId → List V}
    (one : ∀ n ∈ npus, ∀ x ∈ addOrMod.items k.order, vs x n = [v x n]) :
    npus.flatMap (k.steps vs deleted addOrMod ids)
      = k.tracked v ids (plan k.order deleted addOrMod npus) := by
  unfold tracked plan
  rw [List.flatMap_assoc]
  refine List.flatMap_congr fun n here => ?_
  rw [List.flatMap_append, List.flatMap_map, List.flatMap_map, steps]
  refine congrArg₂ _ rfl (List.flatMap_congr fun x mem => ?_)
  rw [setSteps, one n here x mem]
  rfl

omit [DecidableEq κ] [Fintype κ] in
theorem call_isCall (c : NpuId × (α ⊕ α)) : (k.call v ids c).isCall := by
  obtain ⟨n, x | x⟩ := c <;> rfl

omit [DecidableEq κ] [Fintype κ] in
theorem tracked_calls (changes : List (NpuId × (α ⊕ α))) :
    (k.tracked v ids changes).countP PushStep.isCall = changes.length := by
  induction changes with
  | nil => rfl
  | cons c rest ih =>
      obtain ⟨n, x | x⟩ := c
      all_goals
        rw [tracked, List.flatMap_cons, List.countP_append, List.length_cons]
        exact (congrArg _ ih).trans (Nat.add_comm _ _)

omit [DecidableEq κ] [Fintype κ] in
theorem tracked_notes (changes : List (NpuId × (α ⊕ α))) :
    (k.tracked v ids changes).flatMap PushStep.notes = changes.map k.note := by
  unfold tracked
  rw [List.flatMap_assoc, List.map_eq_flatMap]
  refine List.flatMap_congr fun c _ => ?_
  obtain ⟨n, x | x⟩ := c <;> rfl

omit [DecidableEq κ] [Fintype κ] in
theorem call_writes {c : NpuId × (α ⊕ α)}
    (typed : ∀ x, c.2 = .inr x → ndiKey (v x c.1) = key x) :
    (k.call v ids c).writes ndiKey = [(register key c, written v c)] := by
  obtain ⟨n, x | x⟩ := c
  · rfl
  · exact congrArg (fun t => [((n, t), some (v x n))]) (typed x rfl)

omit [DecidableEq κ] [Fintype κ] in
theorem tracked_writes (ids : NpuId → NdiObjId) {changes : List (NpuId × (α ⊕ α))}
    (typed : ∀ c ∈ changes, ∀ x, c.2 = .inr x → ndiKey (v x c.1) = key x) :
    (k.tracked v ids changes).flatMap (PushStep.writes ndiKey)
      = changes.map fun c => (register key c, written v c) := by
  unfold tracked
  rw [List.flatMap_assoc, List.map_eq_flatMap]
  refine List.flatMap_congr fun c mem => ?_
  change (k.call v ids c).writes ndiKey ++ [] = _
  rw [List.append_nil, call_writes (typed c mem)]

omit [DecidableEq κ] [Fintype κ] in
theorem call_fits {c : NpuId × (α ⊕ α)} (known : e.ndiEntryIds.lookup c.1 = some (ids c.1))
    (there : (s.entries c.1 (ids c.1)).isSome) : (k.call v ids c).Fits e s := by
  obtain ⟨n, x | x⟩ := c <;> exact ⟨known, there⟩

/-! ## The failing run -/

/-- A modify whose call for one change fails has made the changes before it. -/
theorem modify_fails_at {c : NpuId × (α ⊕ α)} {j : Nat} {rc : Int}
    (known : ∀ n ∈ npus, e.ndiEntryIds.lookup n = some (ids n))
    (translated : ∀ n ∈ npus, ∀ x ∈ addOrMod.items k.order, k.translate x n = .ok [v x n])
    (at_ : (plan k.order deleted addOrMod npus)[j]? = some c)
    (fine : ∀ i, i ≠ s.calls + j → o.rc i = .ok ()) (fails : o.rc (s.calls + j) = .error rc) :
    ∃ errMsg, k.modify o e deleted addOrMod npus s = (.error (.base (.ndi rc) errMsg),
      { afterAll k.part (k.tracked v ids ((plan k.order deleted addOrMod npus).take j)) s with
        calls := s.calls + j + 1 }) := by
  obtain ⟨inside, rfl⟩ := List.getElem?_eq_some_iff.mp at_
  have count : (k.tracked v ids ((plan k.order deleted addOrMod npus).take j)).countP
      PushStep.isCall = j := by
    rw [tracked_calls, List.length_take_of_le (Nat.le_of_lt inside)]
  have split : k.tracked v ids (plan k.order deleted addOrMod npus)
      = k.tracked v ids ((plan k.order deleted addOrMod npus).take j)
        ++ k.call v ids (plan k.order deleted addOrMod npus)[j]
        :: .note (k.note (plan k.order deleted addOrMod npus)[j])
        :: k.tracked v ids ((plan k.order deleted addOrMod npus).drop (j + 1)) := by
    conv_lhs => rw [← List.take_append_drop j (plan k.order deleted addOrMod npus),
      List.drop_eq_getElem_cons inside, tracked, List.flatMap_append, List.flatMap_cons]
    rfl
  rw [modify_eq ids (fun x n => [v x n]) known translated, plan_steps fun _ _ _ _ => rfl, split]
  exact run_fails (call_isCall _) count (fun i _ low => fine i (Nat.ne_of_lt low)) fails

/-! ## The replay -/

omit [DecidableEq κ] [Fintype κ] in
theorem register_inverse (c : NpuId × (α ⊕ α)) : register key (inverse c) = register key c := by
  obtain ⟨n, x | x⟩ := c <;> rfl

omit [Fintype κ] in
theorem disable_act {t : κ} {n : NpuId} (known : e.ndiEntryIds.lookup n = some (ids n))
    (fine : o.rc s.calls = .ok ()) : k.disable o e t n s
      = (.ok (), (PushStep.call (k.disableMsg t n) n (ids n) (.inl t)).act k.part s) := by
  refine (Eff.query_bind_of_ok (q := fun _ => e.ndiEntryId n) (ndiEntryId_of known)).trans ?_
  simp only [PushStep.exec, ndiCall, fine, PushStep.act]

omit [Fintype κ] in
theorem push_act {x : α} {n : NpuId} (known : e.ndiEntryIds.lookup n = some (ids n))
    (translated : k.translate x n = .ok [v x n]) (fine : o.rc s.calls = .ok ()) :
    k.push o e x n s
      = (.ok (), (PushStep.call (k.setMsg x n) n (ids n) (.inr (v x n))).act k.part s) := by
  refine (Eff.query_bind_of_ok (q := fun _ => k.translate x n) translated).trans ?_
  refine Eff.bind_of_ok (a := ()) ?_
  refine (Eff.query_bind_of_ok (q := fun _ => e.ndiEntryId n) (ndiEntryId_of known)).trans ?_
  simp only [PushStep.exec, ndiCall, fine, PushStep.act]

section Undone

variable {kN kO : Pushing key ndiKey} {vN vO : α → NpuId → V} {done : List (NpuId × (α ⊕ α))}

omit [Fintype κ] in
/-- The changes a modify has made, and then their inverses, leave the registers as they were
exactly when each inverse writes back what was there. -/
theorem undone_regs (known : ∀ c ∈ done, e.ndiEntryIds.lookup c.1 = some (ids c.1))
    (there : ∀ c ∈ done, (s.entries c.1 (ids c.1)).isSome)
    (once : (done.map (register key)).Nodup)
    (typed : ∀ c ∈ done, ∀ x, c.2 = .inr x → ndiKey (vN x c.1) = key x)
    (typedOld : ∀ c ∈ done, ∀ x, c.2 = .inl x → ndiKey (vO x c.1) = key x) {calls : Nat} :
    e.installed (afterAll kN.part (done.reverse.map fun c => kO.call vO ids (inverse c))
        { afterAll kN.part (kN.tracked vN ids done) s with calls := calls }) = e.installed s ↔
      ∀ c ∈ done, written vO (inverse c) = regs kN.part e s (register key c) := by
  have fits : ∀ step ∈ kN.tracked vN ids done, step.Fits e s := fun step mem => by
    obtain ⟨c, here, mem⟩ := List.mem_flatMap.mp mem
    rcases List.mem_pair.mp mem with rfl | rfl
    · exact call_fits (known c here) (there c here)
    · trivial
  have fitsUndo : ∀ step ∈ done.reverse.map fun c => kO.call vO ids (inverse c), step.Fits e
      { afterAll kN.part (kN.tracked vN ids done) s with calls := calls } := fun step mem => by
    obtain ⟨c, here, rfl⟩ := List.mem_map.mp mem
    have here := List.mem_reverse.mp here
    have fitsNow : (kO.call vO ids (inverse c)).Fits e s := call_fits (known c here) (there c here)
    have later : (kO.call vO ids (inverse c)).Fits e (afterAll kN.part (kN.tracked vN ids done) s) :=
      afterAll_fits fits fitsNow
    obtain ⟨n, x | x⟩ := c <;> exact later
  obtain ⟨registers, others⟩ := afterAll_regs kN.part fits
  obtain ⟨registersUndo, othersUndo⟩ := afterAll_regs kN.part fitsUndo
  have writes : (done.reverse.map fun c => kO.call vO ids (inverse c)).flatMap (PushStep.writes ndiKey)
      = done.reverse.map fun c => (register key c, written vO (inverse c)) := by
    rw [List.flatMap_map, List.map_eq_flatMap]
    refine List.flatMap_congr fun c mem => ?_
    rw [← register_inverse]
    refine call_writes fun x isSet => typedOld c (List.mem_reverse.mp mem) x ?_
    obtain ⟨n, y | y⟩ := c <;> cases isSet
    rfl
  have names : (done.reverse.map fun c => (register key c, written vO (inverse c))).map Prod.fst
      = (done.map (register key)).reverse := by
    rw [List.map_map, ← List.map_reverse]
    rfl
  have after : regs kN.part e (afterAll kN.part (done.reverse.map fun c => kO.call vO ids (inverse c))
      { afterAll kN.part (kN.tracked vN ids done) s with calls := calls })
      = writeAll (done.reverse.map fun c => (register key c, written vO (inverse c)))
        (writeAll (done.map fun c => (register key c, written vN c)) (regs kN.part e s)) := by
    rw [registersUndo, writes, ← tracked_writes (k := kN) ids typed, ← registers]
    rfl
  constructor
  · intro same c mem
    have restored : regs kN.part e (afterAll kN.part _ _) = regs kN.part e s :=
      funext fun r => congrArg (fun x => Option.bind x _) (congrFun same r.1)
    rw [after, writeAll_undo_iff (by rw [names]; exact List.nodup_reverse.mpr once)
      fun r => by rw [names, List.mem_reverse, List.map_map]; rfl] at restored
    exact restored _ (List.mem_map.mpr ⟨c, List.mem_reverse.mpr mem, rfl⟩)
  · intro held
    refine installed_ext ?_ (othersUndo.trans others)
    rw [after, writeAll_undo_iff (by rw [names]; exact List.nodup_reverse.mpr once)
      fun r => by rw [names, List.mem_reverse, List.map_map]; rfl]
    intro u mem
    obtain ⟨c, made, rfl⟩ := List.mem_map.mp mem
    exact held c (List.mem_reverse.mp made)

/-- A modify that fails midway is undone by its tracker exactly when nothing that was set has
replaced an old element. -/
theorem undone_iff (ids : NpuId → NdiObjId) (kN kO : Pushing key ndiKey) (vN vO : α → NpuId → V)
    {undo : RollbkElem → NdiM Unit} {ne : α → α → Bool} {new old : Keyed key}
    {j : Nat} {rc : Int} (npusOnce : npus.Nodup)
    (known : ∀ n ∈ npus, e.ndiEntryIds.lookup n = some (ids n))
    (there : ∀ n ∈ npus, (s.entries n (ids n)).isSome)
    (before : ∀ n ∈ npus, ∀ t, regs kN.part e s (n, t) = (old.find t).map (vO · n))
    (typedOld : ∀ n ∈ npus, ∀ x, old.find (key x) = some x → ndiKey (vO x n) = key x)
    (translated : ∀ n ∈ npus, ∀ x, new.find (key x) = some x →
      kN.translate x n = .ok [vN x n] ∧ ndiKey (vN x n) = key x)
    (turn : ∀ c, c.1 ∈ npus → (∀ x, c.2 = .inl x → old.find (key x) = some x) →
      ∀ s', s.calls + j + 1 ≤ s'.calls →
        undo (kN.note c) s' = (.ok (), (kO.call vO ids (inverse c)).act kN.part s'))
    (untracked : s.trakr = [])
    (point : j < (plan kN.order (Keyed.deleted new old) (Keyed.addOrMod ne new old) npus).length)
    (fine : ∀ i, i ≠ s.calls + j → o.rc i = .ok ()) (fails : o.rc (s.calls + j) = .error rc) :
    ∃ errMsg s' s'',
      kN.modify o e (Keyed.deleted new old) (Keyed.addOrMod ne new old) npus s
        = (.error (.base (.ndi rc) errMsg), s') ∧
      s'.trakr.reverse.forM undo s' = (.ok (), s'') ∧
      (e.installed s'' = e.installed s ↔
        ∀ c ∈ (plan kN.order (Keyed.deleted new old) (Keyed.addOrMod ne new old) npus).take j,
          ∀ x, c.2 = .inr x → old.find (key x) = none) := by
  have setNew : ∀ x, (Keyed.addOrMod ne new old).find (key x) = some x →
      new.find (key x) = some x := fun x set => (Keyed.find_addOrMod.mp set).1
  obtain ⟨errMsg, ran⟩ := modify_fails_at (k := kN) known
    (fun n here x mem => (translated n here x (setNew x (Keyed.mem_items.mp mem))).1)
    (List.getElem?_eq_getElem point) fine fails
  have once : ((plan kN.order (Keyed.deleted new old) (Keyed.addOrMod ne new old) npus).map
      (register key)).Nodup := plan_registers_nodup npusOnce fun t => Keyed.deleted_apart
  generalize full : plan kN.order (Keyed.deleted new old) (Keyed.addOrMod ne new old) npus = changes
    at ran once
  have planned : ∀ c ∈ changes.take j, c.1 ∈ npus ∧
      ((∃ x, c.2 = .inl x ∧ old.find (key x) = some x) ∨
        ∃ x, c.2 = .inr x ∧ new.find (key x) = some x) := fun c mem => by
    obtain ⟨here, gone | set⟩ := mem_plan.mp (full.symm ▸ List.mem_of_mem_take mem)
    · exact ⟨here, .inl (gone.imp fun x => And.imp_right fun gone => (Keyed.find_deleted.mp gone).2)⟩
    · exact ⟨here, .inr (set.imp fun x => And.imp_right (setNew x))⟩
  have isOld : ∀ c ∈ changes.take j, ∀ x, c.2 = .inl x → old.find (key x) = some x :=
    fun c mem x isDisabled => by
      obtain ⟨-, ⟨y, same, held⟩ | ⟨y, same, -⟩⟩ := planned c mem
      · cases isDisabled.symm.trans same
        exact held
      · cases isDisabled.symm.trans same
  have isNew : ∀ c ∈ changes.take j, ∀ x, c.2 = .inr x → new.find (key x) = some x :=
    fun c mem x isSet => by
      obtain ⟨-, ⟨y, same, -⟩ | ⟨y, same, found⟩⟩ := planned c mem
      · cases isSet.symm.trans same
      · cases isSet.symm.trans same
        exact found
  refine ⟨errMsg, _, afterAll kN.part ((changes.take j).reverse.map fun c => kO.call vO ids (inverse c))
    { afterAll kN.part (kN.tracked vN ids (changes.take j)) s with calls := s.calls + j + 1 },
    ran, ?_, ?_⟩
  · have log : (afterAll kN.part (kN.tracked vN ids (changes.take j)) s).trakr
        = (changes.take j).map kN.note := by
      rw [afterAll_trakr, untracked, tracked_notes, List.nil_append]
    change List.forM (List.reverse (afterAll _ _ _).trakr) undo _ = _
    rw [log, ← List.map_reverse]
    refine (congrFun List.forM_map _).trans
      (forM_steps (n := s.calls + j + 1) (fun c mem s' late => ?_) (Nat.le_refl _))
    have mem := List.mem_reverse.mp mem
    exact turn c (planned c mem).1 (isOld c mem) s' late
  · rw [undone_regs (fun c mem => known _ (planned c mem).1) (fun c mem => there _ (planned c mem).1)
      (once.sublist ((List.take_sublist j _).map _))
      (fun c mem x isSet => (translated _ (planned c mem).1 x (isNew c mem x isSet)).2)
      (fun c mem x isDisabled => typedOld _ (planned c mem).1 x (isOld c mem x isDisabled))]
    refine forall₂_congr fun c mem => ?_
    have here := (planned c mem).1
    have held := isOld c mem
    obtain ⟨n, x | x⟩ := c
    · refine iff_of_true ?_ nofun
      rw [register, before n here]
      exact (congrArg (Option.map (vO · n)) (held x rfl)).symm
    · rw [register, before n here]
      constructor
      · rintro absent _ ⟨⟩
        exact Option.map_eq_none_iff.mp absent.symm
      · intro absent
        exact (Option.map_eq_none_iff.mpr (absent x rfl)).symm

end Undone

end Pushing

/-! ## Entries -/

namespace NasAclEntry

/-- An NDI entry holds what the filters and actions of an entry translate to, and no more;
all of them apply. -/
structure Holds (p : Platform) (sw : NasAclSwitch) (npuId : NpuId) (e : NasAclEntry)
    (x : NdiAclEntry) : Prop where
  filter : ∀ t f, e.flist.find t = some f → ∃ v,
    f.copyFilterNdi p p.zeroValuesType npuId = .ok (some v) ∧ x.filters.find t = some v
  noFilter : ∀ t, e.flist.find t = none → x.filters.find t = none
  action : ∀ t a, e.alist.find t = some a → ∃ v,
    copyOneActionNdi p sw e npuId [] a = .ok [v] ∧ x.actions.find t = some v
  noAction : ∀ t, e.alist.find t = none → x.actions.find t = none

/-- All filters and actions of the entry apply on the NPU. -/
structure AppliesOn (p : Platform) (sw : NasAclSwitch) (npuId : NpuId) (e : NasAclEntry) :
    Prop where
  filter : ∀ t f, e.flist.find t = some f → f.AppliesOn p npuId
  action : ∀ t a, e.alist.find t = some a → ∃ v, copyOneActionNdi p sw e npuId [] a = .ok [v]

/-- The changes of a modify, in the order of its calls, as they are tracked. -/
def changes (p : Platform) (nonLeafAttrId : AttrId) (npuList : NpuSet)
    (entryNew entryOld : NasAclEntry) : List RollbkElem :=
  (p.npuOrder.visit npuList).flatMap fun npuId =>
    match nonLeafAttrId with
    | .entryMatch =>
        ((Keyed.deleted entryNew.flist entryOld.flist).items p.matchOrder).map
            (fun f => ⟨.deleteAttr, npuId, .matchType f.filterType⟩)
          ++ ((Keyed.addOrMod (NasAclFilter.ne p) entryNew.flist entryOld.flist).items
              p.matchOrder).map fun f => ⟨.createAttr, npuId, .matchType f.filterType⟩
    | .entryAction =>
        ((Keyed.deleted entryNew.alist entryOld.alist).items p.actionOrder).map
            (fun a => ⟨.deleteAttr, npuId, .actionType a.actionType⟩)
          ++ ((Keyed.addOrMod NasAclAction.ne entryNew.alist entryOld.alist).items
              p.actionOrder).map fun a => ⟨.createAttr, npuId, .actionType a.actionType⟩
    | _ => []

/-- The entry has an element of the type a tracked change is about. -/
def hasElement (e : NasAclEntry) : AttrHierarchy → Bool
  | .matchType t => (e.flist.find t).isSome
  | .actionType t => (e.alist.find t).isSome
  | .other => false

end NasAclEntry

section Entries

variable {p : Platform} {o : NdiReplies} {sw : NasAclSwitch} {eNew eOld : NasAclEntry}
  {npuList : NpuSet} {npuId : NpuId} {s : Ndi} {x : NdiAclEntry} {ids : NpuId → NdiObjId}

/-- The id of an installed entry, and that it is there. -/
theorem known_of_installed (there : eOld.installed s npuId = some x) :
    eOld.ndiEntryIds.lookup npuId = some ((eOld.ndiEntryIds.lookup npuId).getD 0) ∧
      (s.entries npuId ((eOld.ndiEntryIds.lookup npuId).getD 0)).isSome := by
  obtain ⟨id, known, entry⟩ := Option.bind_eq_some_iff.mp there
  rw [known]
  exact ⟨rfl, Option.isSome_of_eq_some entry⟩

theorem installed_congr (sameIds : eNew.ndiEntryIds = eOld.ndiEntryIds) :
    eNew.installed s = eOld.installed s := by
  unfold NasAclEntry.installed
  rw [sameIds]

theorem continueOnError_ok {b : Bool} {body : NdiM Unit} {s s' : Ndi}
    (ran : body s = (.ok (), s')) : continueOnError b body s = (.ok (), s') := by
  rw [continueOnError, ran]

/-- The undoing of one change of a filter. -/
theorem rollback_filter {v : NasAclFilter → NpuId → NdiFilter}
    {c : NpuId × (NasAclFilter ⊕ NasAclFilter)}
    (known : eOld.ndiEntryIds.lookup c.1 = some (ids c.1))
    (held : ∀ f, c.2 = .inl f → eOld.flist.find f.filterType = some f ∧
      f.copyFilterNdi p p.zeroValuesType c.1 = .ok (some (v f c.1)))
    (fine : o.rc s.calls = .ok ()) :
    rollbackElem p o sw eOld ((filterPushing p).note c) s
      = (.ok (), ((filterPushing p).call v ids (Pushing.inverse c)).act filterPart s) := by
  obtain ⟨n, f | f⟩ := c
  · obtain ⟨found, copied⟩ := held f rfl
    refine continueOnError_ok ?_
    have got : eOld.getFilter f.filterType = .ok f := by rw [NasAclEntry.getFilter, found]
    refine (Eff.query_bind_of_ok (q := fun _ => eOld.getFilter f.filterType) got).trans ?_
    rw [utlPushFilterToNpu_eq]
    exact Pushing.push_act known (filter_translate_ok.mpr ⟨_, copied, rfl⟩) fine
  · refine continueOnError_ok ?_
    rw [utlPushDisableFilterToNpu_eq (p := p)]
    exact Pushing.disable_act known fine

/-- The undoing of one change of an action. -/
theorem rollback_action {v : NasAclAction → NpuId → NdiAction}
    {c : NpuId × (NasAclAction ⊕ NasAclAction)}
    (known : eOld.ndiEntryIds.lookup c.1 = some (ids c.1))
    (held : ∀ a, c.2 = .inl a → eOld.alist.find a.actionType = some a ∧
      copyOneActionNdi p sw eOld c.1 [] a = .ok [v a c.1])
    (fine : o.rc s.calls = .ok ()) :
    rollbackElem p o sw eOld ((actionPushing p sw eNew).note c) s
      = (.ok (), ((actionPushing p sw eOld).call v ids (Pushing.inverse c)).act actionPart s) := by
  obtain ⟨n, a | a⟩ := c
  · obtain ⟨found, copied⟩ := held a rfl
    refine continueOnError_ok ?_
    have got : eOld.getAction a.actionType = .ok a := by rw [NasAclEntry.getAction, found]
    refine (Eff.query_bind_of_ok (q := fun _ => eOld.getAction a.actionType) got).trans ?_
    rw [utlPushActionToNpu_eq]
    exact Pushing.push_act known copied fine
  · refine continueOnError_ok ?_
    have disable : utlPushDisableActionToNpu o eOld = (actionPushing p sw eOld).disable o eOld :=
      utlPushDisableActionToNpu_eq
    rw [disable]
    exact Pushing.disable_act known fine

theorem changes_match : NasAclEntry.changes p .entryMatch npuList eNew eOld
    = (Pushing.plan p.matchOrder (Keyed.deleted eNew.flist eOld.flist)
      (Keyed.addOrMod (NasAclFilter.ne p) eNew.flist eOld.flist)
      (p.npuOrder.visit npuList)).map (filterPushing p).note := by
  simp only [NasAclEntry.changes, Pushing.plan, List.map_flatMap, List.map_append, List.map_map]
  rfl

theorem changes_action (sw : NasAclSwitch) : NasAclEntry.changes p .entryAction npuList eNew eOld
    = (Pushing.plan p.actionOrder (Keyed.deleted eNew.alist eOld.alist)
      (Keyed.addOrMod NasAclAction.ne eNew.alist eOld.alist)
      (p.npuOrder.visit npuList)).map (actionPushing p sw eNew).note := by
  simp only [NasAclEntry.changes, Pushing.plan, List.map_flatMap, List.map_append, List.map_map]
  rfl

/-- Changes that replace nothing, as they are planned and as they are tracked. -/
theorem replace_nothing_iff {κ α V : Type} {key : α → κ} {ndiKey : V → κ} {k : Pushing key ndiKey}
    (old : Keyed key) (held : ∀ t, eOld.hasElement (k.attr t) = (old.find t).isSome)
    (cs : List (NpuId × (α ⊕ α))) (j : Nat) :
    (∀ c ∈ cs.take j, ∀ x, c.2 = .inr x → old.find (key x) = none) ↔
      ∀ c ∈ (cs.map k.note).take j, c.op = .createAttr → ¬ eOld.hasElement c.attr := by
  rw [← List.map_take, List.forall_mem_map]
  refine forall₂_congr fun c _ => ?_
  obtain ⟨n, x | x⟩ := c
  · exact iff_of_true nofun nofun
  · simp only [Pushing.note, held, Sum.inr.injEq, forall_eq', true_implies,
      Option.not_isSome_iff_eq_none]

theorem undone_match {j : Nat} {rc : Int} (sameIds : eNew.ndiEntryIds = eOld.ndiEntryIds)
    (installed : ∀ n ∈ npuList, ∃ x, eOld.installed s n = some x ∧ eOld.Holds p sw n x)
    (applies : ∀ n ∈ npuList, eNew.AppliesOn p sw n) (untracked : s.trakr = [])
    (point : j < (NasAclEntry.changes p .entryMatch npuList eNew eOld).length)
    (fine : ∀ i, i ≠ s.calls + j → o.rc i = .ok ()) (fails : o.rc (s.calls + j) = .error rc) :
    ∃ errMsg s' s'', pushNonLeafAttrNdi p o sw .entryMatch eOld npuList false eNew s
        = (.error (.base (.ndi rc) errMsg), s') ∧
      rollbackTracked p o sw eOld s'.trakr s' = (.ok (), s'') ∧
      (eNew.installed s'' = eNew.installed s ↔
        ∀ c ∈ (NasAclEntry.changes p .entryMatch npuList eNew eOld).take j,
          c.op = .createAttr → ¬ eOld.hasElement c.attr) := by
  have visited : ∀ n ∈ p.npuOrder.visit npuList, n ∈ npuList := fun n => (p.npuOrder.mem_visit _ n).mp
  have known := fun n here => (installed n here).elim fun x there => known_of_installed there.1
  have value : ∀ (f : NasAclFilter) (n : NpuId) (v : NdiFilter),
      f.copyFilterNdi p p.zeroValuesType n = .ok (some v) →
      ((filterPushing p).values f n).headD f.fInfo = v := fun f n v copied => by
    rw [Pushing.values_of (filter_translate_ok.mpr ⟨_, copied, rfl⟩)]
    rfl
  rw [pushMatch_eq, changes_match]
  rw [changes_match, List.length_map] at point
  simp only [← replace_nothing_iff (k := filterPushing p) eOld.flist fun t => rfl]
  refine Pushing.undone_iff (fun n => (eOld.ndiEntryIds.lookup n).getD 0)
    (filterPushing p) (filterPushing p)
    (fun f n => ((filterPushing p).values f n).headD f.fInfo)
    (fun f n => ((filterPushing p).values f n).headD f.fInfo) (p.npuOrder.nodup _) ?_ ?_ ?_ ?_ ?_ ?_
    untracked point fine fails
  · exact fun n mem => sameIds ▸ (known n (visited n mem)).1
  · exact fun n mem => (known n (visited n mem)).2
  · intro n mem t
    obtain ⟨x, there, holds⟩ := installed n (visited n mem)
    rw [regs, installed_congr sameIds, there]
    cases found : eOld.flist.find t with
    | none => exact holds.noFilter t found
    | some f =>
        obtain ⟨v, copied, held⟩ := holds.filter t f found
        exact held.trans (congrArg some (value f n v copied).symm)
  · intro n mem f found
    obtain ⟨x, -, holds⟩ := installed n (visited n mem)
    obtain ⟨v, copied, -⟩ := holds.filter _ f found
    rw [value f n v copied]
    exact NasAclFilter.copyFilterNdi_type copied
  · intro n mem f found
    obtain ⟨v, copied⟩ := (applies n (visited n mem)).filter _ f found
    rw [value f n v copied]
    exact ⟨filter_translate_ok.mpr ⟨_, copied, rfl⟩, NasAclFilter.copyFilterNdi_type copied⟩
  · intro c here held s₁ late
    obtain ⟨x, -, holds⟩ := installed c.1 (visited _ here)
    refine rollback_filter (known _ (visited _ here)).1 (fun f isDisabled => ?_)
      (fine _ (Nat.ne_of_gt late))
    have found := held f isDisabled
    obtain ⟨v, copied, -⟩ := holds.filter _ f found
    rw [value f c.1 v copied]
    exact ⟨found, copied⟩

theorem undone_action {j : Nat} {rc : Int} (sameIds : eNew.ndiEntryIds = eOld.ndiEntryIds)
    (installed : ∀ n ∈ npuList, ∃ x, eOld.installed s n = some x ∧ eOld.Holds p sw n x)
    (applies : ∀ n ∈ npuList, eNew.AppliesOn p sw n) (untracked : s.trakr = [])
    (point : j < (NasAclEntry.changes p .entryAction npuList eNew eOld).length)
    (fine : ∀ i, i ≠ s.calls + j → o.rc i = .ok ()) (fails : o.rc (s.calls + j) = .error rc) :
    ∃ errMsg s' s'', pushNonLeafAttrNdi p o sw .entryAction eOld npuList false eNew s
        = (.error (.base (.ndi rc) errMsg), s') ∧
      rollbackTracked p o sw eOld s'.trakr s' = (.ok (), s'') ∧
      (eNew.installed s'' = eNew.installed s ↔
        ∀ c ∈ (NasAclEntry.changes p .entryAction npuList eNew eOld).take j,
          c.op = .createAttr → ¬ eOld.hasElement c.attr) := by
  have visited : ∀ n ∈ p.npuOrder.visit npuList, n ∈ npuList := fun n => (p.npuOrder.mem_visit _ n).mp
  have known := fun n here => (installed n here).elim fun x there => known_of_installed there.1
  have value : ∀ (e : NasAclEntry) (a : NasAclAction) (n : NpuId) (v : NdiAction),
      copyOneActionNdi p sw e n [] a = .ok [v] →
      ((actionPushing p sw e).values a n).headD a.aInfo = v := fun e a n v copied => by
    rw [Pushing.values_of (k := actionPushing p sw e) copied]
    rfl
  rw [pushAction_eq, changes_action sw]
  rw [changes_action sw, List.length_map] at point
  simp only [← replace_nothing_iff (k := actionPushing p sw eNew) eOld.alist fun t => rfl]
  refine Pushing.undone_iff (fun n => (eOld.ndiEntryIds.lookup n).getD 0)
    (actionPushing p sw eNew) (actionPushing p sw eOld)
    (fun a n => ((actionPushing p sw eNew).values a n).headD a.aInfo)
    (fun a n => ((actionPushing p sw eOld).values a n).headD a.aInfo) (p.npuOrder.nodup _) ?_ ?_ ?_
    ?_ ?_ ?_ untracked point fine fails
  · exact fun n mem => sameIds ▸ (known n (visited n mem)).1
  · exact fun n mem => (known n (visited n mem)).2
  · intro n mem t
    obtain ⟨x, there, holds⟩ := installed n (visited n mem)
    rw [regs, installed_congr sameIds, there]
    cases found : eOld.alist.find t with
    | none => exact holds.noAction t found
    | some a =>
        obtain ⟨v, copied, held⟩ := holds.action t a found
        exact held.trans (congrArg some (value _ a n v copied).symm)
  · intro n mem a found
    obtain ⟨x, -, holds⟩ := installed n (visited n mem)
    obtain ⟨v, copied, -⟩ := holds.action _ a found
    rw [value _ a n v copied]
    exact copyOneActionNdi_type copied
  · intro n mem a found
    obtain ⟨v, copied⟩ := (applies n (visited n mem)).action _ a found
    rw [value _ a n v copied]
    exact ⟨copied, copyOneActionNdi_type copied⟩
  · intro c here held s₁ late
    obtain ⟨x, -, holds⟩ := installed c.1 (visited _ here)
    refine rollback_action (known _ (visited _ here)).1 (fun a isDisabled => ?_)
      (fine _ (Nat.ne_of_gt late))
    have found := held a isDisabled
    obtain ⟨v, copied, -⟩ := holds.action _ a found
    rw [value _ a c.1 v copied]
    exact ⟨found, copied⟩

end Entries

/-- The modify fails at one call, and the replay of what it tracked leaves every NDI entry
as it was before the modify. -/
def Undone (p : Platform) (o : NdiReplies) (sw : NasAclSwitch) (nonLeafAttrId : AttrId)
    (npuList : NpuSet) (eNew eOld : NasAclEntry) (s : Ndi) (rc : Int) : Prop :=
  ∃ errMsg s' s'', pushNonLeafAttrNdi p o sw nonLeafAttrId eOld npuList false eNew s
      = (.error (.base (.ndi rc) errMsg), s') ∧
    rollbackTracked p o sw eOld s'.trakr s' = (.ok (), s'') ∧
    eOld.installed s'' = eOld.installed s

/-- A modify that fails midway is undone exactly when no change before the failing call has
set a filter or action of a type that the old entry has one of. -/
theorem modify_undone_iff {p : Platform} {o : NdiReplies} {sw : NasAclSwitch}
    {nonLeafAttrId : AttrId} {npuList : NpuSet} {eNew eOld : NasAclEntry} {s : Ndi} {j : Nat}
    {rc : Int} (listAttr : nonLeafAttrId = .entryMatch ∨ nonLeafAttrId = .entryAction)
    (sameIds : eNew.ndiEntryIds = eOld.ndiEntryIds)
    (installed : ∀ n ∈ npuList, ∃ x, eOld.installed s n = some x ∧ eOld.Holds p sw n x)
    (applies : ∀ n ∈ npuList, eNew.AppliesOn p sw n) (untracked : s.trakr = [])
    (point : j < (NasAclEntry.changes p nonLeafAttrId npuList eNew eOld).length)
    (fine : ∀ i, i ≠ s.calls + j → o.rc i = .ok ()) (fails : o.rc (s.calls + j) = .error rc) :
    Undone p o sw nonLeafAttrId npuList eNew eOld s rc ↔
      ∀ c ∈ (NasAclEntry.changes p nonLeafAttrId npuList eNew eOld).take j,
        c.op = .createAttr → ¬ eOld.hasElement c.attr := by
  have replayed : ∃ errMsg s' s'', pushNonLeafAttrNdi p o sw nonLeafAttrId eOld npuList false eNew s
        = (.error (.base (.ndi rc) errMsg), s') ∧
      rollbackTracked p o sw eOld s'.trakr s' = (.ok (), s'') ∧
      (eNew.installed s'' = eNew.installed s ↔
        ∀ c ∈ (NasAclEntry.changes p nonLeafAttrId npuList eNew eOld).take j,
          c.op = .createAttr → ¬ eOld.hasElement c.attr) := by
    obtain rfl | rfl := listAttr
    · exact undone_match sameIds installed applies untracked point fine fails
    · exact undone_action sameIds installed applies untracked point fine fails
  obtain ⟨errMsg, s', s'', ran, undone, same⟩ := replayed
  rw [← same, installed_congr sameIds, installed_congr sameIds]
  constructor
  · rintro ⟨errMsg', t, t', ran', undone', restored⟩
    rw [ran] at ran'
    cases ran'
    rw [undone] at undone'
    cases undone'
    exact restored
  · intro restored
    exact ⟨errMsg, s', s'', ran, undone, restored⟩

namespace Bench

/-- One call fails. -/
def failing (j : Nat) : NdiReplies := ⟨fun i => if i = j then .error 5 else .ok (), fun _ => 9⟩

/-- An installed entry with a filter on interfaces 1 and 9, which are on different NPUs. -/
def onBoth : NasAclEntry := installedEntry.withFilters (onPorts [1, 9])

/-- What is installed of it on an NPU. -/
def onBothImage (n : NpuId) : NdiAclEntry :=
  ⟨0, 0, .ofItems [⟨.inPorts, .portlist [⟨n, 1⟩]⟩], .empty⟩

theorem mem_both {n : NpuId} (mem : n ∈ ({0, 1} : NpuSet)) : n = 0 ∨ n = 1 := by
  simpa only [Finset.mem_insert, Finset.mem_singleton] using mem

theorem onBoth_installed (n : NpuId) (mem : n ∈ ({0, 1} : NpuSet)) :
    ∃ x, onBoth.installed (ndi onBothImage) n = some x ∧ onBoth.Holds platform .new n x := by
  have known : onBoth.ndiEntryIds.lookup n = some 9 := by
    obtain rfl | rfl := mem_both mem <;> decide +kernel
  have copied : (inPorts [1, 9]).copyFilterNdi platform platform.zeroValuesType n
      = .ok (some ⟨.inPorts, .portlist [⟨n, 1⟩]⟩) := by
    obtain rfl | rfl := mem_both mem <;> decide +kernel
  refine ⟨onBothImage n, by rw [NasAclEntry.installed, known]; rfl, fun t f found => ?_,
    fun t none_ => ?_, fun t a found => ?_, fun _ _ => rfl⟩
  · have typed : f.filterType = t := Keyed.keyed _ t f found
    cases Keyed.eq_of_find_singleton found
    subst typed
    exact ⟨_, copied, rfl⟩
  · have other : t ≠ .inPorts := by
      rintro rfl
      cases none_
    exact if_neg other
  · cases found

end Bench

/-- A modify that was disabling a filter is undone. -/
theorem modify_undone_disable :
    Undone Bench.platform (Bench.failing 1) .new .entryMatch {0, 1}
      (Bench.onBoth.withFilters .empty) Bench.onBoth (Bench.ndi Bench.onBothImage) 5 := by
  have fine : ∀ i, i ≠ 0 + 1 → (Bench.failing 1).rc i = .ok () := fun _ other => if_neg other
  have fails : (Bench.failing 1).rc (0 + 1) = .error 5 := rfl
  have sameIds : (Bench.onBoth.withFilters .empty).ndiEntryIds = Bench.onBoth.ndiEntryIds := rfl
  refine (modify_undone_iff (.inl rfl) sameIds Bench.onBoth_installed
    (fun _ _ => ⟨fun _ _ found => ?_, fun _ _ found => ?_⟩) rfl ?_ fine fails).mpr ?_
  · cases found
  · cases found
  · decide +kernel
  · decide +kernel

/-- A filter that was changed on the first NPU is lost there when the second NPU fails. -/
theorem modify_not_always_undone :
    ¬ ∀ (p : Platform) (o : NdiReplies) (sw : NasAclSwitch) (nonLeafAttrId : AttrId)
      (npuList : NpuSet) (eNew eOld : NasAclEntry) (s : Ndi) (j : Nat) (rc : Int),
      nonLeafAttrId = .entryMatch ∨ nonLeafAttrId = .entryAction →
      eNew.ndiEntryIds = eOld.ndiEntryIds →
      (∀ n ∈ npuList, ∃ x, eOld.installed s n = some x ∧ eOld.Holds p sw n x) →
      (∀ n ∈ npuList, eNew.AppliesOn p sw n) → s.trakr = [] →
      j < (NasAclEntry.changes p nonLeafAttrId npuList eNew eOld).length →
      (∀ i, i ≠ s.calls + j → o.rc i = .ok ()) → o.rc (s.calls + j) = .error rc →
      Undone p o sw nonLeafAttrId npuList eNew eOld s rc := by
  intro claim
  have applies : ∀ n ∈ ({0, 1} : NpuSet),
      (Bench.onBoth.withFilters (Bench.onPorts [2, 10])).AppliesOn Bench.platform .new n := by
    intro n mem
    refine ⟨fun t f found => ?_, fun _ _ found => by cases found⟩
    cases Keyed.eq_of_find_singleton found
    refine ⟨⟨.inPorts, .portlist [⟨n, 2⟩]⟩, ?_⟩
    obtain rfl | rfl := Bench.mem_both mem <;> decide +kernel
  obtain ⟨errMsg, s', s'', ran, undone, same⟩ := claim Bench.platform (Bench.failing 1) .new
    .entryMatch {0, 1} (Bench.onBoth.withFilters (Bench.onPorts [2, 10])) Bench.onBoth
    (Bench.ndi Bench.onBothImage) 1 5 (.inl rfl) rfl Bench.onBoth_installed applies rfl (by decide +kernel)
    (fun _ other => if_neg other) rfl
  have kept := congrArg (fun x => (x 0).bind fun x => x.filters.find .inPorts) same
  have stopped := congrArg Prod.snd ran
  have replayed := congrArg Prod.snd undone
  simp only at kept stopped replayed
  rw [← replayed, ← stopped] at kept
  exact absurd kept (by decide +kernel)

end SonicNasAcl
