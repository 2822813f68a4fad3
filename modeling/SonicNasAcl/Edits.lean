/-
# Edits -- what a request can do to the copy of an entry

A request changes the copy of an entry in six ways: a priority, a filter or an action
that is added or removed, and an NPU.  `ClosedUnderEdits` is a property of entries that
each of them keeps; then a whole request keeps it (`parse_invariant`), and so does an
incremental update (`incr_invariant`).  `ClosedUnderReads` asks less: it looks only at
filters and actions that were read from an object (`parse_closed`, `incr_closed`).

The rest of the module says what each edit leaves alone.
-/
import SonicNasAcl.CpsEntry

namespace SonicNasAcl

set_option autoImplicit false

open Lib

/-! ## The six edits -/

/-- A property of entries that no edit of a request ends. -/
structure ClosedUnderEdits (p : Platform) (sw : NasAclSwitch) (table : NasAclTable)
    (P : NasAclEntry → Prop) : Prop where
  setPriority : ∀ e v, P e → P (e.setPriority v)
  addFilter : ∀ e f reset e', P e → e.addFilter p table f reset = .ok e' → P e'
  addAction : ∀ e a reset e', P e → e.addAction sw a reset = .ok e' → P e'
  addNpu : ∀ e npuId, P e → P (e.addNpu npuId)
  removeFilter : ∀ e t, P e → P (e.removeFilter t)
  removeAction : ∀ e t, P e → P (e.removeAction t)

/-- The same, of filters and actions that were read from an object. -/
structure ClosedUnderReads (p : Platform) (sw : NasAclSwitch) (table : NasAclTable)
    (P : NasAclEntry → Prop) : Prop where
  setPriority : ∀ e v, P e → P (e.setPriority v)
  addFilter : ∀ e f reset e' obj v path, P e → readFilter p obj v path = .ok f →
    e.addFilter p table f reset = .ok e' → P e'
  addAction : ∀ e a reset e' obj v path, P e → readAction p obj v path = .ok a →
    e.addAction sw a reset = .ok e' → P e'
  addNpu : ∀ e npuId, P e → P (e.addNpu npuId)
  removeFilter : ∀ e t, P e → P (e.removeFilter t)
  removeAction : ∀ e t, P e → P (e.removeAction t)

section Closed

variable {p : Platform} {sw : NasAclSwitch} {table : NasAclTable} {P : NasAclEntry → Prop}
  {obj : List CpsAttr} {e e' : NasAclEntry}

theorem ClosedUnderEdits.reads (closed : ClosedUnderEdits p sw table P) :
    ClosedUnderReads p sw table P where
  setPriority := closed.setPriority
  addFilter e f reset e' _ _ _ pre _ := closed.addFilter e f reset e' pre
  addAction e a reset e' _ _ _ pre _ := closed.addAction e a reset e' pre
  addNpu := closed.addNpu
  removeFilter := closed.removeFilter
  removeAction := closed.removeAction

/-- Setting a match field adds the filter that was read. -/
theorem setMatchAttr_ok {v : UInt32} {path : List AttrId} {reset : Bool} :
    setMatchAttr p table obj v path reset e = .ok e' ↔
      ∃ f, readFilter p obj v path = .ok f ∧ e.addFilter p table f reset = .ok e' :=
  except_bind_ok

/-- Setting an action adds the action that was read. -/
theorem setActionAttr_ok {v : UInt32} {path : List AttrId} {reset : Bool} :
    setActionAttr p sw obj v path reset e = .ok e' ↔
      ∃ a, readAction p obj v path = .ok a ∧ e.addAction sw a reset = .ok e' :=
  except_bind_ok

/-- A loop over list elements keeps what setting one element keeps. -/
theorem forEachElement_invariant {listAttr typeAttr : AttrId} {what : String}
    {setAttr : UInt32 → List AttrId → NasAclEntry → Except Exn NasAclEntry} {it : CpsAttr}
    (kept : ∀ v path e e', P e → setAttr v path e = .ok e' → P e') (first : P e)
    (ran : forEachElement listAttr typeAttr what setAttr it e = .ok e') : P e' := by
  refine except_foldlM_invariant (fun e elem e' pre turn => ?_) first ran
  obtain ⟨v, -, set⟩ := except_bind_ok.mp turn
  exact kept v _ e e' pre set

theorem parseEntryAttr_closed (closed : ClosedUnderReads p sw table P)
    {st st' : NasAclEntry × Bool} {attr : CpsAttr} (first : P st.1)
    (parsed : parseEntryAttr p sw table obj st attr = .ok st') : P st'.1 := by
  unfold parseEntryAttr at parsed
  split at parsed
  · split at parsed
    · cases parsed
    · cases parsed
      exact closed.setPriority _ _ first
  · obtain ⟨e, set, parsed⟩ := except_bind_ok.mp parsed
    cases parsed
    refine forEachElement_invariant (fun v path e e' pre turn => ?_) first set
    obtain ⟨f, read, added⟩ := setMatchAttr_ok.mp turn
    exact closed.addFilter _ _ _ _ _ _ _ pre read added
  · obtain ⟨e, set, parsed⟩ := except_bind_ok.mp parsed
    cases parsed
    refine forEachElement_invariant (fun v path e e' pre turn => ?_) first set
    obtain ⟨a, read, added⟩ := setActionAttr_ok.mp turn
    exact closed.addAction _ _ _ _ _ _ _ pre read added
  · cases parsed
    exact closed.addNpu _ _ first
  · cases parsed
    exact first

theorem parse_closed (closed : ClosedUnderReads p sw table P) {st : NasAclEntry × Bool}
    (first : P e) (parsed : cpsParseEntryObj p sw table obj e = .ok st) : P st.1 :=
  except_foldlM_invariant (P := fun st => P st.1)
    (fun _ _ _ pre turn => parseEntryAttr_closed closed pre turn) first parsed

/-- What the edits keep, a whole request keeps. -/
theorem parse_invariant (closed : ClosedUnderEdits p sw table P) {st : NasAclEntry × Bool}
    (first : P e) (parsed : cpsParseEntryObj p sw table obj e = .ok st) : P st.1 :=
  parse_closed closed.reads first parsed

theorem incr_closed (closed : ClosedUnderReads p sw table P) {op : CpsOper} {upd : IncrType}
    (first : P e) (made : incrNewEntry p sw table obj op upd e = .ok e') : P e' := by
  cases upd with
  | matchType v =>
      have set : setMatchAttr p table obj v [] false e = .ok e' → P e' := fun turn => by
        obtain ⟨f, read, added⟩ := setMatchAttr_ok.mp turn
        exact closed.addFilter _ _ _ _ _ _ _ first read added
      simp only [incrNewEntry, incrFilter] at made
      split at made
      · exact set made
      · split at made
        · cases made
        · obtain ⟨-, -, made⟩ := except_bind_ok.mp made
          split at made
          · cases made
            exact closed.removeFilter _ _ first
          · exact set made
  | actionType v =>
      have set : setActionAttr p sw obj v [] false e = .ok e' → P e' := fun turn => by
        obtain ⟨a, read, added⟩ := setActionAttr_ok.mp turn
        exact closed.addAction _ _ _ _ _ _ _ first read added
      simp only [incrNewEntry, incrAction] at made
      split at made
      · exact set made
      · split at made
        · cases made
        · obtain ⟨-, -, made⟩ := except_bind_ok.mp made
          split at made
          · cases made
            exact closed.removeAction _ _ first
          · exact set made

/-- What the edits keep, an incremental update keeps. -/
theorem incr_invariant (closed : ClosedUnderEdits p sw table P) {op : CpsOper} {upd : IncrType}
    (first : P e) (made : incrNewEntry p sw table obj op upd e = .ok e') : P e' :=
  incr_closed closed.reads first made

end Closed

/-! ## Adding a filter or an action -/

namespace NasAclEntry

variable {p : Platform} {sw : NasAclSwitch} {table : NasAclTable} {e e' : NasAclEntry}

/-- A filter is cached when it is tied to NPUs: alone of its kind, and all its NPUs in
the table. -/
theorem cacheFilterNpus_ok {f : NasAclFilter} :
    e.cacheFilterNpus p table f = .ok e' ↔
      (f.isNpuSpecific = false ∧ e' = e) ∨
        (f.isNpuSpecific = true ∧ (e.filterNpus ≠ ∅ → e.flist.find f.filterType ≠ none) ∧
          ∃ npus, f.getNpuList p = .ok npus ∧ npus ⊆ table.npuList ∧
            e' = { e with filterNpus := npus }) := by
  unfold cacheFilterNpus
  cases f.isNpuSpecific with
  | false => simp only [Bool.false_eq_true, if_false, Except.ok.injEq, true_and,
      @eq_comm NasAclEntry _ e', false_and, or_false]
  | true =>
      simp only [if_true, except_bind_ok, throwIf_ok, exists_const, not_and, Bool.true_eq_false,
        false_and, false_or, true_and, ne_eq]
      refine and_congr_right fun _ => exists_congr fun npus => and_congr_right fun _ => ?_
      rw [← firstMissing_eq_none (p := p)]
      cases firstMissing p npus table.npuList with
      | none => simp only [Except.ok.injEq, true_and, @eq_comm NasAclEntry _ e']
      | some npuId => simp only [reduceCtorEq, false_and]

theorem addFilter_ok {f : NasAclFilter} {reset : Bool} :
    e.addFilter p table f reset = .ok e' ↔
      f.filterType ∈ table.allowedFilters ∧
        ∃ cached, (e.resetFilters reset).cacheFilterNpus p table f = .ok cached ∧
          e' = { cached.markAttrDirty .entryMatch with flist := cached.flist.put f } := by
  simp only [addFilter, except_bind_ok, throwIf_ok, exists_const, Except.ok.injEq,
    @eq_comm NasAclEntry _ e', NasAclTable.isFilterAllowed, Bool.not_eq_true', decide_eq_false_iff_not,
    not_not]

theorem checkCounterKnown_ok {u : Unit} :
    e.checkCounterKnown sw = .ok u ↔
      ∃ x, sw.findCounter e.tableId e.counterId = some x ∧ x.tableId = e.tableId := by
  unfold checkCounterKnown
  cases sw.findCounter e.tableId e.counterId with
  | none => simp only [reduceCtorEq, false_and, exists_false]
  | some x => simp only [throwIf_ok, ne_eq, not_not, Option.some.injEq, exists_eq_left']

theorem addAction_ok {a : NasAclAction} {reset : Bool} :
    e.addAction sw a reset = .ok e' ↔
      e' = e.putAction a reset ∧
        (a.actionType = .setCounter → ∃ x, sw.findCounter e'.tableId e'.counterId = some x ∧
          x.tableId = e'.tableId) := by
  unfold addAction
  by_cases counter : a.actionType = .setCounter
  · simp only [counter, if_true, except_bind_ok, Except.ok.injEq, true_implies,
      checkCounterKnown_ok, exists_const]
    constructor
    · rintro ⟨known, rfl⟩
      exact ⟨rfl, known⟩
    · rintro ⟨rfl, known⟩
      exact ⟨known, rfl⟩
  · simp only [counter, if_false, Except.ok.injEq, @eq_comm NasAclEntry _ e', false_implies,
      and_true]

/-! ## What the edits leave alone -/

/-- The entry, but for its filters and the NPUs and marks that go with them. -/
theorem addFilter_eq {f : NasAclFilter} {reset : Bool}
    (added : e.addFilter p table f reset = .ok e') :
    e' = { e.markAttrDirty .entryMatch with flist := e'.flist, filterNpus := e'.filterNpus } := by
  obtain ⟨-, cached, step, rfl⟩ := addFilter_ok.mp added
  have cleared : cached = { e with flist := cached.flist, filterNpus := cached.filterNpus } := by
    unfold resetFilters at step
    split at step
    · obtain ⟨-, rfl⟩ | ⟨-, -, npus, -, -, rfl⟩ := cacheFilterNpus_ok.mp step
      · rfl
      · rfl
    · obtain ⟨-, rfl⟩ | ⟨-, -, npus, -, -, rfl⟩ := cacheFilterNpus_ok.mp step
      · rfl
      · rfl
  rw [cleared]
  rfl

theorem addFilter_frame {f : NasAclFilter} {reset : Bool}
    (added : e.addFilter p table f reset = .ok e') :
    e'.tableId = e.tableId ∧ e'.entryId = e.entryId ∧ e'.alist = e.alist ∧
      e'.priority = e.priority ∧ e'.followingTableNpus = e.followingTableNpus ∧
      e'.base = e.base.markAttrDirty .entryMatch := by
  rw [addFilter_eq added]
  exact ⟨rfl, rfl, rfl, rfl, rfl, rfl⟩

/-- The entry, but for its actions and the mark that goes with them. -/
theorem putAction_frame (a : NasAclAction) (reset : Bool) (e : NasAclEntry) :
    e.putAction a reset =
      { e with base := e.base.markAttrDirty .entryAction,
               alist := (e.resetActions reset).alist.put a } := by
  unfold putAction resetActions
  split
  · rfl
  · rfl

/-- Updating an action leaves the filters alone. -/
theorem incrAction_frame {obj : List CpsAttr} {op : CpsOper} {v : UInt32}
    (made : incrAction p sw obj op v e = .ok e') :
    e'.flist = e.flist ∧ e'.filterNpus = e.filterNpus := by
  have set (turn : setActionAttr p sw obj v [] false e = .ok e') :
      e'.flist = e.flist ∧ e'.filterNpus = e.filterNpus := by
    obtain ⟨a, -, added⟩ := setActionAttr_ok.mp turn
    obtain ⟨rfl, -⟩ := addAction_ok.mp added
    rw [putAction_frame]
    exact ⟨rfl, rfl⟩
  unfold incrAction at made
  split at made
  · exact set made
  · split at made
    · cases made
    · obtain ⟨-, -, made⟩ := except_bind_ok.mp made
      split at made
      · cases made
        exact ⟨rfl, rfl⟩
      · exact set made

theorem closed_identity (t id : NasObjId) :
    ClosedUnderEdits p sw table fun e => e.tableId = t ∧ e.entryId = id where
  setPriority _ _ same := same
  addFilter e f reset e' same added := by
    obtain ⟨table, own, -⟩ := addFilter_frame added
    exact ⟨table.trans same.1, own.trans same.2⟩
  addAction e a reset e' same added := by
    obtain ⟨rfl, -⟩ := addAction_ok.mp added
    rw [putAction_frame]
    exact same
  addNpu _ _ same := same
  removeFilter _ _ same := same
  removeAction _ _ same := same

end NasAclEntry

end SonicNasAcl
