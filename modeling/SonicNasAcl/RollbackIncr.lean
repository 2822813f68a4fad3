/-
# RollbackIncr -- an incremental update that is rolled back

The object that undoes an incremental update holds the old value of its element, flat; after
a CREATE it holds none.  Which of CREATE, SET and DELETE it is run as follows from what the
update was called, and not from what it found.

* `readBack_filter`, `readBack_action`: the old value is read again, but for a list of no
  objects, which cannot be written;
* `undoFilter_iff`, `undoAction_iff`: when the opposite update gives the old list;
* `incr_rollsBack_iff`: when an update and its rollback leave the entry and the references of
  the counters as they were.
-/
import SonicNasAcl.IncrAgrees
import SonicNasAcl.RollbackEdit

namespace SonicNasAcl

set_option autoImplicit false

open Lib

/-! ## Old values -/

/-- The action can be described by a request. -/
def NasAclAction.Described (p : Platform) (a : NasAclAction) : Prop :=
  ∃ obj v path, readAction p obj v path = .ok a

section Values

variable {p : Platform} {f : NasAclFilter} {a : NasAclAction}

/-- The old value of a filter is read as this filter. -/
theorem readBack_filter {r : Adds × Bool} (described : ∃ obj v path, readFilter p obj v path = .ok f)
    (filled : fillMatchAttr p f f.filterType [] = .ok r) :
    readFilter p (Tlv.addAll r.1 []) (p.matchTypes.code f.filterType) [] = .ok f := by
  obtain ⟨obj, v, path, read⟩ := described
  by_cases empty : f.EmptyPorts
  · rw [fillMatchAttr_emptyPorts empty] at filled
    cases filled
    exact readFilter_emptyPorts read empty (.inl rfl) fun attr mem => by cases mem
  · have written := readFilter_written read empty
    rw [written.filled] at filled
    cases filled
    exact written.top [] fun t mem => by cases mem

/-- The old value of an action is read as this action, unless there is nothing to write. -/
theorem readBack_action {r : Adds × Bool} (hasValue : (actionMap p a.actionType).val.dataType ≠ .none)
    (filled : fillActionAttr p a a.actionType [] = .ok r) :
    readAction p (Tlv.addAll r.1 []) (p.actionTypes.code a.actionType) [] = .ok a ↔
      a.Described p ∧ ¬ a.NoObjects := by
  have value : fillActionValue p a [] = .ok r := (if_pos hasValue).trans filled
  constructor
  · intro read
    refine ⟨⟨_, _, _, read⟩, fun none_ => ?_⟩
    rw [fillActionValue_empty (.inr none_)] at value
    cases value
    exact readAction_noObjects none_ rfl read
  · rintro ⟨⟨obj, v, path, read⟩, some_⟩
    by_cases empty : a.Empty
    · rw [fillActionValue_empty empty] at value
      cases value
      obtain ⟨list, none_⟩ | none_ := empty
      · exact readAction_emptyPorts read list none_ (.inl rfl) fun attr mem => by cases mem
      · exact absurd none_ some_
    · have written := readAction_written read empty
      rw [written.filled] at value
      cases value
      exact written.top [] fun t mem => by cases mem

end Values

/-! ## An update of a filter, undone -/

/-- The entry with the NPUs of its filter of a type cached again. -/
def NasAclEntry.recached (p : Platform) (t : MatchType) (e : NasAclEntry) : NasAclEntry :=
  match e.flist.find t with
  | some f => { e with filterNpus := if f.isNpuSpecific then f.npus p else e.filterNpus }
  | none => e

section Filters

open NasAclEntry NasAclFilter

variable {p : Platform} {table : NasAclTable} {obj : List CpsAttr} {op : CpsOper} {v : UInt32}
  {old new n u : NasAclEntry} {t : MatchType}

/-- What an update of a filter does to the entry. -/
theorem incrFilter_cases (decoded : p.matchTypes.decode v = some t)
    (made : incrFilter p table obj op v old = .ok new) :
    (op = .delete ∧ (old.flist.find t).isSome ∧ new = old.removeFilter t) ∨
      (op ≠ .delete ∧ (op ≠ .create → (old.flist.find t).isSome) ∧
        ∃ f, f.filterType = t ∧ readFilter p obj v [] = .ok f ∧
          (f.isNpuSpecific → old.filterNpus ≠ ∅ → old.flist.find t ≠ none) ∧
          new = { old.markAttrDirty .entryMatch with
            flist := old.flist.put f
            filterNpus := if f.isNpuSpecific then f.npus p else old.filterNpus }) := by
  have there (change : op ≠ .create) : (old.flist.find t).isSome := by
    rw [incrFilter, if_neg change, decoded] at made
    obtain ⟨f, held, -⟩ := except_bind_ok.mp made
    exact Option.isSome_of_eq_some (getFilter_ok.mp held)
  rw [incrFilter_eq decoded there] at made
  by_cases delete : op = .delete
  · rw [if_pos delete] at made
    cases made
    have change : op ≠ .create := fun create => by cases delete.symm.trans create
    exact .inl ⟨delete, there change, rfl⟩
  · rw [if_neg delete] at made
    obtain ⟨f, read, added⟩ := setMatchAttr_ok.mp made
    obtain rfl : f.filterType = t := Option.some.inj ((readFilter_type read).symm.trans decoded)
    obtain ⟨-, exclusive, rfl⟩ := addFilter_over_iff.mp added
    exact .inr ⟨delete, there, f, rfl, read, exclusive, rfl⟩

/-- The entry with the old filters again. -/
def NasAclEntry.backFilters (p : Platform) (t : MatchType) (old n : NasAclEntry) : NasAclEntry :=
  { n.markAttrDirty .entryMatch with
    flist := old.flist
    filterNpus := (old.recached p t).filterNpus }

theorem recached_npus {f : NasAclFilter} (found : old.flist.find t = some f) :
    (old.recached p t).filterNpus = if f.isNpuSpecific then f.npus p else old.filterNpus := by
  rw [recached, found]

theorem recached_of_absent (absent : old.flist.find t = none) : old.recached p t = old := by
  rw [recached, absent]

/-- A filter is put back when it is read and the table takes it. -/
theorem putBackFilter_iff {f : NasAclFilter} {r : Adds × Bool}
    (decoded : p.matchTypes.decode v = some t) (found : old.flist.find t = some f)
    (filled : fillMatchAttr p f t [] = .ok r) (back : n.flist.put f = old.flist)
    (exclusive : f.isNpuSpecific → n.filterNpus ≠ ∅ → n.flist.find t ≠ none)
    (cache : f.isNpuSpecific = false → n.filterNpus = old.filterNpus) :
    (setMatchAttr p table (Tlv.addAll r.1 []) v [] false n = .ok u ∧ u.flist = old.flist) ↔
      f.Accepted p table ∧ u = old.backFilters p t n := by
  obtain rfl : f.filterType = t := old.flist.keyed t f found
  obtain rfl := (p.matchTypes.decode_eq_some _ _).mp decoded
  have again : { n.markAttrDirty .entryMatch with
      flist := n.flist.put f
      filterNpus := if f.isNpuSpecific then f.npus p else n.filterNpus }
        = old.backFilters p f.filterType n := by
    have npus : (if f.isNpuSpecific then f.npus p else n.filterNpus)
        = (old.recached p f.filterType).filterNpus := by
      rw [recached_npus found]
      split
      · rfl
      · rename_i free
        exact cache (Bool.eq_false_of_not_eq_true free)
    rw [backFilters, npus, back]
  constructor
  · rintro ⟨set, same⟩
    obtain ⟨f', read, added⟩ := setMatchAttr_ok.mp set
    have type : f'.filterType = f.filterType :=
      Option.some.inj ((readFilter_type read).symm.trans decoded)
    obtain ⟨fits, -, rfl⟩ := addFilter_over_iff.mp added
    have here := congrArg (fun l => l.find f.filterType) same
    simp only [← type, Keyed.find_put_self] at here
    rw [type, found] at here
    cases here
    exact ⟨⟨⟨_, _, _, read⟩, fits.allowed, fun _ => fits.inTable⟩, again⟩
  · rintro ⟨accepted, rfl⟩
    refine ⟨setMatchAttr_ok.mpr ⟨f, readBack_filter accepted.read filled, ?_⟩, rfl⟩
    exact addFilter_over_iff.mpr ⟨accepted.fits, exclusive, again.symm⟩

/-- A filter is taken back to the old ones when there was none of its type. -/
theorem takeBackFilter_iff {f : NasAclFilter} (filters : n.flist = old.flist.put f)
    (cache : n.filterNpus = if f.isNpuSpecific then f.npus p else old.filterNpus)
    (exclusive : f.isNpuSpecific → old.filterNpus ≠ ∅ → old.flist.find f.filterType ≠ none) :
    (n.removeFilter f.filterType = u ∧ u.flist = old.flist) ↔
      old.flist.find f.filterType = none ∧ u = old.backFilters p f.filterType n := by
  have back (absent : old.flist.find f.filterType = none) :
      n.removeFilter f.filterType = old.backFilters p f.filterType n := by
    have erased : n.flist.erase f.filterType = old.flist := by
      rw [filters]
      exact Keyed.erase_put absent
    have npus : (if isNpuSpecificType f.filterType then ∅ else n.filterNpus)
        = (old.recached p f.filterType).filterNpus := by
      rw [recached_of_absent absent, cache]
      cases tied : isNpuSpecificType f.filterType with
      | true =>
          rw [if_pos rfl]
          by_contra full
          exact exclusive tied (fun none_ => full none_.symm) absent
      | false => exact if_neg fun tied' => Bool.false_ne_true (tied.symm.trans tied')
    rw [removeFilter, backFilters, npus, erased]
  constructor
  · rintro ⟨rfl, same⟩
    have absent : old.flist.find f.filterType = none := by
      rw [← same]
      exact Keyed.find_erase_self _ _
    exact ⟨absent, back absent⟩
  · rintro ⟨absent, rfl⟩
    exact ⟨back absent, rfl⟩

/-- What has to hold of the old filters for an update to be undone. -/
structure NasAclEntry.FilterReturns (p : Platform) (table : NasAclTable) (t : MatchType)
    (op : CpsOper) (e : NasAclEntry) : Prop where
  fresh : op = .create → e.flist.find t = none
  accepted : op ≠ .create → ∀ f, e.flist.find t = some f → f.Accepted p table

theorem returns_iff {f : NasAclFilter} (change : op ≠ .create) (found : old.flist.find t = some f) :
    old.FilterReturns p table t op ↔ f.Accepted p table := by
  constructor
  · intro returns
    exact returns.accepted change f found
  · intro accepted
    refine ⟨fun same => absurd same change, fun _ g found' => ?_⟩
    cases found.symm.trans found'
    exact accepted

/-- The opposite update gives the old filters. -/
theorem undoFilter_iff {obj' : List CpsAttr} (known : op ∈ [CpsOper.create, .set, .delete])
    (decoded : p.matchTypes.decode v = some t)
    (made : incrFilter p table obj op v old = .ok new) (filters : n.flist = new.flist)
    (cache : n.filterNpus = new.filterNpus)
    (saved : op ≠ .create → ∀ f, old.flist.find t = some f →
      ∃ r, fillMatchAttr p f t [] = .ok r ∧ obj' = Tlv.addAll r.1 []) :
    (incrFilter p table obj' op.undo v n = .ok u ∧ u.flist = old.flist) ↔
      old.FilterReturns p table t op ∧ u = old.backFilters p t n := by
  obtain ⟨rfl, there, rfl⟩ | ⟨notDelete, there, f₀, rfl, -, exclusive, rfl⟩ :=
    incrFilter_cases decoded made
  · -- Undone by a CREATE.
    obtain ⟨f, found⟩ := Option.isSome_iff_exists.mp there
    have change : CpsOper.delete ≠ .create := fun same => by cases same
    obtain ⟨r, filled, rfl⟩ := saved change f found
    have type : f.filterType = t := old.flist.keyed t f found
    rw [returns_iff change found]
    refine putBackFilter_iff decoded found filled ?_ (fun tied full => ?_) fun free => ?_
    · rw [filters, ← type]
      exact Keyed.put_erase (type.symm ▸ found)
    · refine absurd ?_ full
      rw [cache, ← type]
      exact if_pos tied
    · rw [cache, ← type]
      exact if_neg fun tied => Bool.false_ne_true (free.symm.trans tied)
  · have held : (n.flist.find f₀.filterType).isSome := by
      rw [filters]
      exact Option.isSome_of_eq_some (Keyed.find_put_self _ _)
    have opposite : incrFilter p table obj' op.undo v n
        = if op.undo = .delete then .ok (n.removeFilter f₀.filterType)
          else setMatchAttr p table obj' v [] false n := incrFilter_eq decoded fun _ => held
    by_cases create : op = .create
    · -- Undone by a DELETE.
      subst create
      have removes : incrFilter p table obj' CpsOper.create.undo v n
          = .ok (n.removeFilter f₀.filterType) := opposite.trans (if_pos rfl)
      have returns : old.FilterReturns p table f₀.filterType .create ↔
          old.flist.find f₀.filterType = none :=
        ⟨fun returns => returns.fresh rfl,
          fun absent => ⟨fun _ => absent, fun other => absurd rfl other⟩⟩
      rw [removes, Except.ok.injEq, returns]
      exact takeBackFilter_iff filters cache exclusive
    · have set : op = .set := by
        rcases List.mem_cons.mp known with rfl | known
        · exact absurd rfl create
        · rcases List.mem_pair.mp known with rfl | rfl
          · rfl
          · exact absurd rfl notDelete
      subst set
      obtain ⟨f, found⟩ := Option.isSome_iff_exists.mp (there create)
      obtain ⟨r, filled, rfl⟩ := saved create f found
      have type : f.filterType = f₀.filterType := old.flist.keyed _ f found
      have sets : incrFilter p table (Tlv.addAll r.1 []) CpsOper.set.undo v n
          = setMatchAttr p table (Tlv.addAll r.1 []) v [] false n := opposite.trans (if_neg notDelete)
      rw [sets, returns_iff create found]
      refine putBackFilter_iff decoded found filled ?_ (fun _ _ absent => ?_) fun free => ?_
      · rw [filters]
        exact Keyed.put_put type.symm (type.symm ▸ found)
      · rw [absent] at held
        cases held
      · have free₀ : f₀.isNpuSpecific = false := by
          rw [isNpuSpecific, ← type]
          exact free
        rw [cache, free₀]
        rfl

end Filters

/-! ## An update of an action, undone -/

section Actions

open NasAclEntry NasAclAction

variable {p : Platform} {sw : NasAclSwitch} {obj : List CpsAttr} {op : CpsOper} {v : UInt32}
  {old new n u : NasAclEntry} {t : ActionType}

/-- What an update of an action does to the entry. -/
theorem incrAction_cases (decoded : p.actionTypes.decode v = some t)
    (made : incrAction p sw obj op v old = .ok new) :
    (op = .delete ∧ (old.alist.find t).isSome ∧ new = old.removeAction t) ∨
      (op ≠ .delete ∧ (op ≠ .create → (old.alist.find t).isSome) ∧
        ∃ a, a.actionType = t ∧ readAction p obj v [] = .ok a ∧ new = old.putAction a false) := by
  have there (change : op ≠ .create) : (old.alist.find t).isSome := by
    rw [incrAction, if_neg change, decoded] at made
    obtain ⟨a, held, -⟩ := except_bind_ok.mp made
    exact Option.isSome_of_eq_some (getAction_ok.mp held)
  rw [incrAction_eq decoded there] at made
  by_cases delete : op = .delete
  · rw [if_pos delete] at made
    cases made
    have change : op ≠ .create := fun create => by cases delete.symm.trans create
    exact .inl ⟨delete, there change, rfl⟩
  · rw [if_neg delete] at made
    obtain ⟨a, read, added⟩ := setActionAttr_ok.mp made
    obtain rfl : a.actionType = t := Option.some.inj ((readAction_type read).symm.trans decoded)
    exact .inr ⟨delete, there, a, rfl, read, (addAction_ok.mp added).1⟩

/-- The entry with the old actions again. -/
def NasAclEntry.backActions (old n : NasAclEntry) : NasAclEntry :=
  { n.markAttrDirty .entryAction with alist := old.alist }

/-- An action that can be put back. -/
structure NasAclAction.Returns (p : Platform) (sw : NasAclSwitch) (tableId : NasObjId)
    (a : NasAclAction) : Prop where
  described : a.Described p
  objects : ¬ a.NoObjects
  counter : KnownCounter sw tableId a

theorem putBackAction_iff {a : NasAclAction} {r : Adds × Bool}
    (decoded : p.actionTypes.decode v = some t) (found : old.alist.find t = some a)
    (hasValue : (actionMap p t).val.dataType ≠ .none)
    (filled : fillActionAttr p a t [] = .ok r) (back : n.alist.put a = old.alist) :
    (setActionAttr p sw (Tlv.addAll r.1 []) v [] false n = .ok u ∧ u.alist = old.alist) ↔
      a.Returns p sw n.tableId ∧ u = old.backActions n := by
  obtain rfl : a.actionType = t := old.alist.keyed t a found
  obtain rfl := (p.actionTypes.decode_eq_some _ _).mp decoded
  have again : n.putAction a false = old.backActions n := by
    rw [backActions, ← back]
    rfl
  constructor
  · rintro ⟨set, same⟩
    obtain ⟨a', read, added⟩ := setActionAttr_ok.mp set
    have type : a'.actionType = a.actionType :=
      Option.some.inj ((readAction_type read).symm.trans decoded)
    obtain ⟨known, rfl⟩ := addAction_iff.mp added
    have here : (n.alist.put a').find a.actionType = some a := by
      rw [← found, ← same]
      rfl
    rw [← type, Keyed.find_put_self] at here
    cases here
    obtain ⟨described, objects⟩ := (readBack_action hasValue filled).mp read
    exact ⟨⟨described, objects, known⟩, again⟩
  · rintro ⟨returns, rfl⟩
    refine ⟨setActionAttr_ok.mpr ⟨a, ?_, ?_⟩, rfl⟩
    · exact (readBack_action hasValue filled).mpr ⟨returns.described, returns.objects⟩
    · exact addAction_iff.mpr ⟨returns.counter, again.symm⟩

theorem takeBackAction_iff {a : NasAclAction} (actions : n.alist = old.alist.put a) :
    (n.removeAction a.actionType = u ∧ u.alist = old.alist) ↔
      old.alist.find a.actionType = none ∧ u = old.backActions n := by
  constructor
  · rintro ⟨rfl, same⟩
    have absent : old.alist.find a.actionType = none := by
      rw [← same]
      exact Keyed.find_erase_self _ _
    exact ⟨absent, by rw [backActions, ← same]; rfl⟩
  · rintro ⟨absent, rfl⟩
    have erased : n.alist.erase a.actionType = old.alist := by
      rw [actions]
      exact Keyed.erase_put absent
    exact ⟨by rw [removeAction, erased, backActions], rfl⟩

/-- What has to hold of the old actions for an update to be undone. -/
structure NasAclEntry.ActionReturns (p : Platform) (sw : NasAclSwitch) (t : ActionType)
    (op : CpsOper) (e : NasAclEntry) : Prop where
  fresh : op = .create → e.alist.find t = none
  returns : op ≠ .create → ∀ a, e.alist.find t = some a → a.Returns p sw e.tableId

theorem actionReturns_iff {a : NasAclAction} (change : op ≠ .create)
    (found : old.alist.find t = some a) :
    old.ActionReturns p sw t op ↔ a.Returns p sw old.tableId := by
  constructor
  · intro returns
    exact returns.returns change a found
  · intro returns
    refine ⟨fun same => absurd same change, fun _ b found' => ?_⟩
    cases found.symm.trans found'
    exact returns

/-- The opposite update gives the old actions. -/
theorem undoAction_iff {sw' : NasAclSwitch} {obj' : List CpsAttr}
    (known : op ∈ [CpsOper.create, .set, .delete])
    (decoded : p.actionTypes.decode v = some t)
    (valued : op ≠ .create → (actionMap p t).val.dataType ≠ .none)
    (made : incrAction p sw obj op v old = .ok new) (actions : n.alist = new.alist)
    (own : n.tableId = old.tableId)
    (saved : op ≠ .create → ∀ a, old.alist.find t = some a →
      ∃ r, fillActionAttr p a t [] = .ok r ∧ obj' = Tlv.addAll r.1 []) :
    (incrAction p sw' obj' op.undo v n = .ok u ∧ u.alist = old.alist) ↔
      old.ActionReturns p sw' t op ∧ u = old.backActions n := by
  obtain ⟨rfl, there, rfl⟩ | ⟨notDelete, there, a₀, rfl, -, rfl⟩ := incrAction_cases decoded made
  · -- Undone by a CREATE.
    obtain ⟨a, found⟩ := Option.isSome_iff_exists.mp there
    have change : CpsOper.delete ≠ .create := fun same => by cases same
    obtain ⟨r, filled, rfl⟩ := saved change a found
    have type : a.actionType = t := old.alist.keyed t a found
    rw [actionReturns_iff change found, ← own]
    refine putBackAction_iff decoded found (valued change) filled ?_
    rw [actions, ← type]
    exact Keyed.put_erase (type.symm ▸ found)
  · have put : n.alist = old.alist.put a₀ := by
      rw [actions, putAction_frame]
      rfl
    have held : (n.alist.find a₀.actionType).isSome := by
      rw [put]
      exact Option.isSome_of_eq_some (Keyed.find_put_self _ _)
    have opposite : incrAction p sw' obj' op.undo v n
        = if op.undo = .delete then .ok (n.removeAction a₀.actionType)
          else setActionAttr p sw' obj' v [] false n := incrAction_eq decoded fun _ => held
    by_cases create : op = .create
    · -- Undone by a DELETE.
      subst create
      have removes : incrAction p sw' obj' CpsOper.create.undo v n
          = .ok (n.removeAction a₀.actionType) := opposite.trans (if_pos rfl)
      have returns : old.ActionReturns p sw' a₀.actionType .create ↔
          old.alist.find a₀.actionType = none :=
        ⟨fun returns => returns.fresh rfl,
          fun absent => ⟨fun _ => absent, fun other => absurd rfl other⟩⟩
      rw [removes, Except.ok.injEq, returns]
      exact takeBackAction_iff put
    · have set : op = .set := by
        rcases List.mem_cons.mp known with rfl | known
        · exact absurd rfl create
        · rcases List.mem_pair.mp known with rfl | rfl
          · rfl
          · exact absurd rfl notDelete
      subst set
      obtain ⟨a, found⟩ := Option.isSome_iff_exists.mp (there create)
      obtain ⟨r, filled, rfl⟩ := saved create a found
      have type : a.actionType = a₀.actionType := old.alist.keyed _ a found
      have sets : incrAction p sw' (Tlv.addAll r.1 []) CpsOper.set.undo v n
          = setActionAttr p sw' (Tlv.addAll r.1 []) v [] false n := opposite.trans (if_neg notDelete)
      rw [sets, actionReturns_iff create found, ← own]
      refine putBackAction_iff decoded found (valued create) filled ?_
      rw [put]
      exact Keyed.put_put type.symm (type.symm ▸ found)

end Actions

/-! ## The object that undoes an update -/

section Saved

variable {p : Platform} {sw : NasAclSwitch} {table : NasAclTable} {keyObj prev : CpsObject}
  {op : CpsOper} {upd : IncrType} {old : NasAclEntry}

/-- The object leads to the entry and names the element. -/
theorem packIncr_key (found : sw.getTable old.tableId = .ok table)
    (packed : packIncr p keyObj old op upd .new = .ok prev) :
    prev.key = keyObj.key ∧ cpsOpKeyExtract sw prev = .ok ⟨table, some old.entryId, some upd⟩ := by
  let start := entryKeyFill old (CpsObject.new.setKey keyObj.key)
  have filled {named : CpsObject} {x : Fill} (done : named.fill x = .ok prev)
      (key : named.key = keyObj.key)
      (opKey : cpsOpKeyExtract sw named = .ok ⟨table, some old.entryId, some upd⟩) :
      prev.key = keyObj.key ∧ cpsOpKeyExtract sw prev = .ok ⟨table, some old.entryId, some upd⟩ := by
    obtain ⟨same, data⟩ := fill_keys done
    exact ⟨same.trans key, (opKey_congr data).trans opKey⟩
  cases upd with
  | matchType v =>
      have named : keyIncrType (start.keySetU32 .entryMatchType v)
          = some (.matchType v.toUInt64.toUInt32) := rfl
      rw [UInt32.toUInt32_toUInt64] at named
      have opKey : cpsOpKeyExtract sw (start.keySetU32 .entryMatchType v)
          = .ok ⟨table, some old.entryId, some (.matchType v)⟩ :=
        cpsOpKeyExtract_ok.mpr ⟨old.tableId, rfl, found, rfl, named⟩
      simp only [packIncr] at packed
      split at packed
      · cases packed
        exact ⟨rfl, opKey⟩
      · split at packed
        · cases packed
          exact ⟨rfl, opKey⟩
        · exact filled packed rfl opKey
  | actionType v =>
      have named : keyIncrType (start.keySetU32 .entryActionType v)
          = some (.actionType v.toUInt64.toUInt32) := rfl
      rw [UInt32.toUInt32_toUInt64] at named
      have opKey : cpsOpKeyExtract sw (start.keySetU32 .entryActionType v)
          = .ok ⟨table, some old.entryId, some (.actionType v)⟩ :=
        cpsOpKeyExtract_ok.mpr ⟨old.tableId, rfl, found, rfl, named⟩
      simp only [packIncr] at packed
      split at packed
      · cases packed
        exact ⟨rfl, opKey⟩
      · split at packed
        · cases packed
          exact ⟨rfl, opKey⟩
        · exact filled packed rfl opKey

theorem packed_valued (present : old.HasElement p upd) (change : op ≠ .create)
    (packed : packIncr p keyObj old op upd .new = .ok prev) : ¬ upd.Valueless p := by
  intro valueless
  rw [packIncr_valueless present change valueless] at packed
  cases packed

/-- Unless the update was a CREATE it holds the old value. -/
theorem packIncr_filter {v : UInt32} {t : MatchType} {f : NasAclFilter} (change : op ≠ .create)
    (decoded : p.matchTypes.decode v = some t) (found : old.flist.find t = some f)
    (packed : packIncr p keyObj old op (.matchType v) .new = .ok prev) :
    ∃ r, fillMatchAttr p f t [] = .ok r ∧ prev.attrs = Tlv.addAll r.1 [] := by
  simp only [packIncr, if_neg change, decoded, NasAclEntry.getFilter_ok.mpr found,
    except_ok_bind] at packed
  obtain ⟨r, filled, packed⟩ := except_bind_ok.mp packed
  cases packed
  exact ⟨r, filled, rfl⟩

theorem packIncr_action {v : UInt32} {t : ActionType} {a : NasAclAction} (change : op ≠ .create)
    (decoded : p.actionTypes.decode v = some t) (found : old.alist.find t = some a)
    (packed : packIncr p keyObj old op (.actionType v) .new = .ok prev) :
    ∃ r, fillActionAttr p a t [] = .ok r ∧ prev.attrs = Tlv.addAll r.1 [] := by
  simp only [packIncr, if_neg change, decoded, NasAclEntry.getAction_ok.mpr found,
    except_ok_bind] at packed
  obtain ⟨r, filled, packed⟩ := except_bind_ok.mp packed
  cases packed
  exact ⟨r, filled, rfl⟩

end Saved

/-! ## The counter of the entry -/

/-- The counter an entry uses after an update of an action. -/
def NasAclEntry.counterAfter (p : Platform) (obj : List CpsAttr) (op : CpsOper) (v : UInt32)
    (t : ActionType) (e : NasAclEntry) : Option NasObjId :=
  if t ≠ .setCounter then e.usedCounter
  else if op = .delete then none
  else (readAction p obj v []).toOption.map NasAclAction.counterId

section Counters

open NasAclEntry

variable {p : Platform} {sw sw' : NasAclSwitch} {obj : List CpsAttr} {op : CpsOper} {v : UInt32}
  {old new e : NasAclEntry} {t : ActionType} {tableId : NasObjId} {a : NasAclAction}

theorem incr_usedCounter (decoded : p.actionTypes.decode v = some t)
    (made : incrAction p sw obj op v old = .ok new) :
    new.usedCounter = old.counterAfter p obj op v t := by
  unfold counterAfter
  obtain ⟨rfl, -, rfl⟩ | ⟨notDelete, -, a, rfl, read, rfl⟩ := incrAction_cases decoded made
  · by_cases counter : t = .setCounter
    · rw [if_neg (not_not.mpr counter), if_pos rfl, counter]
      exact congrArg (Option.map NasAclAction.counterId) (Keyed.find_erase_self _ _)
    · rw [if_pos counter]
      exact congrArg (Option.map NasAclAction.counterId)
        ((Keyed.find_erase _ _ _).trans (if_neg (Ne.symm counter)))
  · have put : (old.putAction a false).alist = old.alist.put a := by
      rw [putAction_frame]
      rfl
    unfold usedCounter
    rw [put, Keyed.find_put]
    by_cases counter : a.actionType = .setCounter
    · rw [if_pos counter.symm, if_neg (not_not.mpr counter), if_neg notDelete, read]
      rfl
    · rw [if_neg (Ne.symm counter), if_pos counter]

theorem actionReturns_bare (bare : sw.store.SameBare sw'.store) :
    old.ActionReturns p sw' t op ↔ old.ActionReturns p sw t op := by
  constructor
  · intro held
    refine ⟨held.fresh, fun change a found => ?_⟩
    obtain ⟨described, objects, counter⟩ := held.returns change a found
    exact ⟨described, objects, (knownCounter_bare bare).mp counter⟩
  · intro held
    refine ⟨held.fresh, fun change a found => ?_⟩
    obtain ⟨described, objects, counter⟩ := held.returns change a found
    exact ⟨described, objects, (knownCounter_bare bare).mpr counter⟩

end Counters

/-! ## The entry that is asked for -/

/-- The entry an update of a filter asks for: the filters without the old one of the type, or
with the new one, and its NPUs if it has ports. -/
def NasAclEntry.givenFilter (p : Platform) (obj : List CpsAttr) (op : CpsOper) (v : UInt32)
    (t : MatchType) (e : NasAclEntry) : NasAclEntry :=
  let given := if op = .delete then none else (readFilter p obj v []).toOption
  { e with
    flist := given.elim (e.flist.erase t) e.flist.put
    filterNpus :=
      if NasAclFilter.isNpuSpecificType t then given.elim ∅ (·.npus p) else e.filterNpus }

/-- And the one an update of an action asks for. -/
def NasAclEntry.givenAction (p : Platform) (obj : List CpsAttr) (op : CpsOper) (v : UInt32)
    (t : ActionType) (e : NasAclEntry) : NasAclEntry :=
  let given := if op = .delete then none else (readAction p obj v []).toOption
  { e with alist := given.elim (e.alist.erase t) e.alist.put }

section Given

open NasAclEntry

variable {p : Platform} {sw : NasAclSwitch} {table : NasAclTable} {obj : List CpsAttr} {op : CpsOper}
  {v : UInt32} {old new : NasAclEntry}

theorem incrFilter_given {t : MatchType} (decoded : p.matchTypes.decode v = some t)
    (made : incrFilter p table obj op v old = .ok new) :
    (old.givenFilter p obj op v t).PushesAs new := by
  obtain ⟨rfl, -, rfl⟩ | ⟨notDelete, -, f, rfl, read, -, rfl⟩ := incrFilter_cases decoded made
  · exact ⟨rfl, rfl, rfl⟩
  · unfold givenFilter
    rw [if_neg notDelete, read]
    exact ⟨rfl, rfl, rfl⟩

theorem incrAction_given {t : ActionType} (decoded : p.actionTypes.decode v = some t)
    (made : incrAction p sw obj op v old = .ok new) :
    (old.givenAction p obj op v t).PushesAs new := by
  obtain ⟨rfl, -, rfl⟩ | ⟨notDelete, -, a, rfl, read, rfl⟩ := incrAction_cases decoded made
  · exact ⟨rfl, rfl, rfl⟩
  · unfold givenAction
    rw [if_neg notDelete, read, putAction_frame]
    exact ⟨rfl, rfl, rfl⟩

end Given

/-! ## An update and its rollback -/

/-- The operations that may be about one element. -/
abbrev CpsOper.Updates (op : CpsOper) : Prop := op ∈ [CpsOper.create, .set, .delete]

theorem CpsOper.Updates.undo {op : CpsOper} (known : op.Updates) : op.undo.Updates := by
  rcases List.mem_cons.mp known with rfl | known
  · decide
  · rcases List.mem_pair.mp known with rfl | rfl <;> decide

/-- The filters and the actions of an entry are the old ones, and so are the references of all
counters. -/
def EntryReturns (tableId eid : NasObjId) (old : NasAclEntry) (sw sw' : NasAclSwitch) : Prop :=
  (∃ e, sw'.findEntry tableId eid = some e ∧ e.flist = old.flist ∧ e.alist = old.alist) ∧
    SameRefs sw sw'

/-- An update of one element of a stored entry that passes its checks and is committed. -/
structure UpdateCommits (p : Platform) (o : Oracle) (t : Transaction) (index : Nat) (obj : CpsObject)
    (table : NasAclTable) (eid : NasObjId) (upd : IncrType) (old new : NasAclEntry) : Prop where
  listed : t.changeList[index]? = some obj
  cat : obj.key.cat = .baseAcl
  entry : obj.key.subcat = .entry
  op : obj.key.oper.Updates
  key : cpsOpKeyExtract t.sw obj = .ok ⟨table, some eid, some upd⟩
  stored : t.sw.getEntry table.tableId eid = .ok old
  made : incrNewEntry p t.sw table obj.attrs obj.key.oper upd old = .ok new
  passes : new.Passes p t.sw table
  committed : ∃ ids, (o.entryModify ⟨p, t.sw, table⟩ new old false).1 = .ok ids

/-- What is asked of the entry and the request for the update to be undone. -/
def IncrType.Undoable (p p' : Platform) (sw : NasAclSwitch) (table : NasAclTable)
    (obj : List CpsAttr) (op : CpsOper) (old : NasAclEntry) : IncrType → Prop
  | .matchType v => ∃ t, p.matchTypes.decode v = some t ∧ old.FilterReturns p table t op ∧
      (old.recached p t).Passes p sw table ∧
      old.WayBack p p' table (· = .entryMatch) (old.givenFilter p obj op v t) (old.recached p t)
  | .actionType v => ∃ t, p.actionTypes.decode v = some t ∧
      (op ≠ .create → (actionMap p t).val.dataType ≠ .none) ∧ old.ActionReturns p sw t op ∧
      old.Passes p sw table ∧
      old.WayBack p p' table (· = .entryAction) (old.givenAction p obj op v t) old ∧
      CountersReturn sw old.tableId old.entryId old.usedCounter (old.counterAfter p obj op v t)

section Rollback

open NasAclEntry

variable {p p' : Platform} {o o' : Oracle} {t : Transaction} {index : Nat} {obj : CpsObject}
  {table : NasAclTable} {eid : NasObjId} {upd : IncrType} {old new : NasAclEntry}
  {allowed : NasAclSwitch → Request → Prop}

/-- An incremental update that succeeds. -/
def UpdateRuns (p : Platform) (o : Oracle) (rb : Bool) (table : NasAclTable) (op : CpsOper)
    (upd : IncrType) (old : NasAclEntry) (c c' : Ctx) : Prop :=
  ∃ new, incrNewEntry p c.sw table c.obj.attrs op upd old = .ok new ∧ new.Passes p c.sw table ∧
    ∃ ids prev sw', (o.entryModify ⟨p, c.sw, table⟩ new old rb).1 = .ok ids ∧
      Saved rb (packIncr p c.obj old op upd) c.prev prev ∧
      (c.sw.setEntryIds old.tableId old.entryId (o.entryModify ⟨p, c.sw, table⟩ new old rb).2).saveEntry
        (new.committed ids) = .ok sw' ∧
      c' = { c with sw := sw', prev := prev }

theorem cpsEntryIncrUpd_listed {rb : Bool} {op : CpsOper} {c c' : Ctx}
    (stored : c.sw.getEntry table.tableId eid = .ok old) (listed : old.Listed) :
    cpsEntryIncrUpd p o table eid upd op rb c = (.ok (), c') ↔
      UpdateRuns p o rb table op upd old c c' := by
  rw [cpsEntryIncrUpd_ok]
  constructor
  · rintro ⟨old', stored', new, made, e, checked, ids, done, prev, saved, sw', put, rfl⟩
    cases stored.symm.trans stored'
    have kept : new.Listed := incr_invariant closed_listed listed made
    obtain ⟨rfl, -⟩ := (checkModify_listed kept).mp checked
    exact ⟨_, made, ⟨_, checked⟩, ids, prev, sw', done, saved, put, rfl⟩
  · rintro ⟨new, made, ⟨e, checked⟩, ids, prev, sw', done, saved, put, rfl⟩
    have kept : new.Listed := incr_invariant closed_listed listed made
    obtain ⟨rfl, -⟩ := (checkModify_listed kept).mp checked
    exact ⟨old, stored, _, made, _, checked, ids, done, prev, saved, sw', put, rfl⟩

/-- The handler of an operation, given the key of an element of an entry. -/
theorem updateHandler (p : Platform) (o : Oracle) (rb : Bool) {op : CpsOper} (known : op.Updates) :
    ∃ body : Handler Unit, operationMap p o rb .entry op = some (tryHandler body) ∧
      ∀ (c c' : Ctx) (table : NasAclTable) (eid : NasObjId) (upd : IncrType) (old : NasAclEntry),
        cpsOpKeyExtract c.sw c.obj = .ok ⟨table, some eid, some upd⟩ →
        c.sw.getEntry table.tableId eid = .ok old → old.Listed →
        (body c = (.ok (), c') ↔ UpdateRuns p o rb table op upd old c c') := by
  have handler (body : Handler Unit)
      (runs : ∀ (c : Ctx) (table : NasAclTable) (eid : NasObjId) (upd : IncrType),
        cpsOpKeyExtract c.sw c.obj = .ok ⟨table, some eid, some upd⟩ →
        body c = cpsEntryIncrUpd p o table eid upd op rb c)
      (c c' : Ctx) (table : NasAclTable) (eid : NasObjId) (upd : IncrType) (old : NasAclEntry)
      (key : cpsOpKeyExtract c.sw c.obj = .ok ⟨table, some eid, some upd⟩)
      (stored : c.sw.getEntry table.tableId eid = .ok old) (listed : old.Listed) :
      body c = (.ok (), c') ↔ UpdateRuns p o rb table op upd old c c' := by
    rw [runs c table eid upd key]
    exact cpsEntryIncrUpd_listed stored listed
  rcases List.mem_cons.mp known with rfl | known
  · exact ⟨_, rfl, handler _ fun c table eid upd key => nasAclEntryCreate_incr key⟩
  · rcases List.mem_pair.mp known with rfl | rfl
    · exact ⟨_, rfl, handler _ fun c table eid upd key => nasAclEntryModify_incr key⟩
    · exact ⟨_, rfl, handler _ fun c table eid upd key => nasAclEntryDelete_incr key⟩

theorem UpdateCommits.finds (commits : UpdateCommits p o t index obj table eid upd old new)
    (reached : Reached allowed t.sw) : t.Finds table eid old new := by
  have consistent := reached_consistent reached
  obtain ⟨tableId, -, found, -⟩ := cpsOpKeyExtract_ok.mp commits.key
  obtain rfl := tableId_of_getTable consistent found
  obtain ⟨ownTable, ownEntry⟩ := entryKeyed consistent commits.stored
  have identity : new.tableId = old.tableId ∧ new.entryId = old.entryId :=
    incr_invariant (closed_identity _ _) ⟨rfl, rfl⟩ commits.made
  have listed : old.Listed := stored_listed reached commits.stored
  refine ⟨ownTable ▸ found, ?_, ownTable, ownEntry, identity.1, identity.2,
    incr_invariant (closed_ndiEntryIds _) rfl commits.made,
    stored_countsByObject reached commits.stored, listed,
    incr_invariant closed_listed listed commits.made⟩
  rw [ownTable, ownEntry]
  exact getEntry_ok.mp commits.stored

/-- An update and the opposite one that its rollback is. -/
theorem UpdateCommits.edits (commits : UpdateCommits p o t index obj table eid upd old new)
    (hosts : p.Hosts p') (reached : Reached allowed t.sw) :
    t.Edits p p' o o' index obj table eid old new (packIncr p obj old obj.key.oper upd)
      fun sw prev n u => incrNewEntry p sw table prev.attrs obj.key.oper.undo upd n = .ok u := by
  have finds := commits.finds reached
  refine ⟨commits.listed, commits.cat, commits.entry, finds, commits.passes, commits.committed,
    ?_, ?_, ?_, ?_⟩
  · obtain ⟨body, mapped, runs⟩ := updateHandler p o false commits.op
    refine ⟨body, mapped, fun c => (runs _ c table eid upd old commits.key commits.stored
      finds.listed).trans ?_⟩
    constructor
    · rintro ⟨new', made, runs⟩
      cases commits.made.symm.trans made
      exact runs
    · exact fun runs => ⟨new, commits.made, runs⟩
  · exact fun prev packed => (packIncr_key finds.known packed).1
  · obtain ⟨w, rfl⟩ := hosts
    obtain ⟨body, mapped, runs⟩ := updateHandler (p.walking w) o' true commits.op.undo
    refine ⟨body, mapped, fun c c' n packed known stored listed => ?_⟩
    have key : cpsOpKeyExtract c.sw c.obj = .ok ⟨table, some eid, some upd⟩ := by
      rw [(packIncr_key known packed).2, finds.ownEntry]
    rw [runs c c' table eid upd n key stored listed, UpdateRuns, incrNewEntry_walking]
    constructor
    · rintro ⟨u, made, runs⟩
      exact ⟨u, made, _, runs⟩
    · rintro ⟨u, made, pack, passes, ids, prev, sw', done, saved, put, same⟩
      exact ⟨u, made, passes, ids, prev, sw', done, saved, put, same⟩
  · intro sw₁ prev n u made
    exact incr_invariant (closed_identity n.tableId n.entryId) ⟨rfl, rfl⟩ made

/-- The update can be packed, its rollback gives an entry that puts `x` back, and the counter
returns. -/
theorem rollsBack_incr_iff {R : Prop} {given x : NasAclEntry} {marked : AttrId → Prop}
    (back : NasAclEntry → NasAclEntry) (hosts : p.Hosts p')
    (reached : Reached allowed t.sw) (pushes : o.Commits p) (accepts : o'.Accepts p')
    (commits : UpdateCommits p o t index obj table eid upd old new) (asked : given.PushesAs new)
    (listed : x.Listed) (puts : ∀ ids, x.PutsBack marked ids (back (new.committed ids)))
    (undone : ∀ sw₁ prev ids u, t.sw.store.SameBare sw₁.store →
      packIncr p obj old obj.key.oper upd .new = .ok prev →
      ((incrNewEntry p sw₁ table prev.attrs obj.key.oper.undo upd (new.committed ids) = .ok u ∧
        u.flist = old.flist ∧ u.alist = old.alist) ↔ R ∧ u = back (new.committed ids))) :
    RollsBack p p' o o' index t (EntryReturns table.tableId eid old) ↔
      (obj.key.oper ≠ .create → ¬ upd.Valueless p) ∧ R ∧ x.Passes p t.sw table ∧
        old.WayBack p p' table marked given x ∧ RefsReturn t.sw old new := by
  have present : obj.key.oper ≠ .create → old.HasElement p upd :=
    incrNewEntry_hasElement commits.made
  have packs : (∃ prev, packIncr p obj old obj.key.oper upd .new = .ok prev) ↔
      (obj.key.oper ≠ .create → ¬ upd.Valueless p) := by
    constructor
    · rintro ⟨prev, packed⟩ change
      exact packed_valued (present change) change packed
    · exact packIncr_ends present
  rw [← packs]
  exact rollsBack_edit_iff (fun e => e.flist = old.flist ∧ e.alist = old.alist) back pushes
    accepts (commits.edits hosts reached) (fun _ _ => Iff.rfl) (fun _ same => same.2) undone asked
    listed fun _ => puts

theorem recached_frame (t : MatchType) (e : NasAclEntry) :
    (e.recached p t).tableId = e.tableId ∧ (e.recached p t).alist = e.alist ∧
      (e.recached p t).followingTableNpus = e.followingTableNpus ∧
      (e.recached p t).base = e.base ∧ (e.recached p t).flist = e.flist := by
  unfold recached
  split
  · exact ⟨rfl, rfl, rfl, rfl, rfl⟩
  · exact ⟨rfl, rfl, rfl, rfl, rfl⟩

theorem recached_listed (t : MatchType) (listed : old.Listed) : (old.recached p t).Listed := by
  obtain ⟨-, -, following, base, -⟩ := recached_frame (p := p) t old
  intro own
  rw [base]
  exact listed (following.symm.trans own)

theorem incrFilter_known {op : CpsOper} {attrs : List CpsAttr} {v : UInt32}
    (made : incrFilter p table attrs op v old = .ok new) :
    ∃ t, p.matchTypes.decode v = some t := by
  unfold incrFilter at made
  split at made
  · obtain ⟨f, read, -⟩ := setMatchAttr_ok.mp made
    exact ⟨_, readFilter_type read⟩
  · cases decoded : p.matchTypes.decode v with
    | none =>
        rw [decoded] at made
        cases made
    | some t => exact ⟨t, rfl⟩

theorem incrAction_known {sw : NasAclSwitch} {op : CpsOper} {attrs : List CpsAttr} {v : UInt32}
    (made : incrAction p sw attrs op v old = .ok new) :
    ∃ t, p.actionTypes.decode v = some t := by
  unfold incrAction at made
  split at made
  · obtain ⟨a, read, -⟩ := setActionAttr_ok.mp made
    exact ⟨_, readAction_type read⟩
  · cases decoded : p.actionTypes.decode v with
    | none =>
        rw [decoded] at made
        cases made
    | some t => exact ⟨t, rfl⟩

/-- An attribute that alone is marked. -/
theorem marked_alone {e : NasAclEntry} (clean : ∀ a, e.isAttrDirty a = false) (b a : AttrId) :
    (e.markAttrDirty b).isAttrDirty a = true ↔ a = b := by
  by_cases same : a = b
  · rw [same]
    exact iff_of_true (isAttrDirty_markAttrDirty b e) rfl
  · rw [isAttrDirty_markAttrDirty_of_ne same, clean a]
    exact iff_of_false Bool.false_ne_true same

theorem filter_rollsBack_iff {v : UInt32} (hosts : p.Hosts p') (reached : Reached allowed t.sw)
    (pushes : o.Commits p) (accepts : o'.Accepts p')
    (commits : UpdateCommits p o t index obj table eid (.matchType v) old new) :
    RollsBack p p' o o' index t (EntryReturns table.tableId eid old) ↔
      (IncrType.matchType v).Undoable p p' t.sw table obj.attrs obj.key.oper old := by
  have made : incrFilter p table obj.attrs obj.key.oper v old = .ok new := commits.made
  obtain ⟨type, decoded⟩ := incrFilter_known made
  have actions : new.alist = old.alist := by
    obtain ⟨-, -, rfl⟩ | ⟨-, -, f, rfl, -, -, rfl⟩ := incrFilter_cases decoded made <;> rfl
  have puts (ids : NdiObjIdTable) : (old.recached p type).PutsBack (· = .entryMatch) ids
      (old.backFilters p type (new.committed ids)) := by
    obtain ⟨ownTable, ownActions, following, base, filters⟩ := recached_frame (p := p) type old
    refine ⟨?_, filters.symm, rfl, marked_alone (fun a => decide_eq_false (Finset.notMem_empty a)) _⟩
    obtain ⟨-, -, rfl⟩ | ⟨-, -, f, rfl, -, -, rfl⟩ := incrFilter_cases decoded made
    · exact ⟨ownTable.symm, following.symm, (congrArg BaseObj.npus base).symm, rfl, ownActions.symm⟩
    · exact ⟨ownTable.symm, following.symm, (congrArg BaseObj.npus base).symm, rfl, ownActions.symm⟩
  have listed := recached_listed (p := p) type (commits.finds reached).listed
  rw [rollsBack_incr_iff (old.backFilters p type) (R := old.FilterReturns p table type obj.key.oper)
    hosts reached pushes accepts commits (incrFilter_given decoded made) listed puts
    fun sw₁ prev ids u _ packed => ?_]
  · have valued : ¬ (IncrType.matchType v).Valueless p := fun valueless => valueless
    constructor
    · rintro ⟨-, returns, passes, wayBack, -⟩
      exact ⟨type, decoded, returns, passes, wayBack⟩
    · rintro ⟨type', decoded', returns, passes, wayBack⟩
      cases decoded.symm.trans decoded'
      exact ⟨fun _ => valued, returns, passes, wayBack, refsReturn_of_same actions⟩
  · have undo : (incrFilter p table prev.attrs obj.key.oper.undo v (new.committed ids) = .ok u ∧
        u.flist = old.flist) ↔ old.FilterReturns p table type obj.key.oper ∧
          u = old.backFilters p type (new.committed ids) :=
      undoFilter_iff commits.op decoded made rfl rfl fun change f found =>
        packIncr_filter change decoded found packed
    constructor
    · rintro ⟨made', filters, -⟩
      exact undo.mp ⟨made', filters⟩
    · rintro ⟨returns, rfl⟩
      obtain ⟨made', filters⟩ := undo.mpr ⟨returns, rfl⟩
      exact ⟨made', filters, actions⟩

theorem action_rollsBack_iff {v : UInt32} (hosts : p.Hosts p') (reached : Reached allowed t.sw)
    (pushes : o.Commits p) (accepts : o'.Accepts p')
    (commits : UpdateCommits p o t index obj table eid (.actionType v) old new) :
    RollsBack p p' o o' index t (EntryReturns table.tableId eid old) ↔
      (IncrType.actionType v).Undoable p p' t.sw table obj.attrs obj.key.oper old := by
  have made : incrAction p t.sw obj.attrs obj.key.oper v old = .ok new := commits.made
  obtain ⟨type, decoded⟩ := incrAction_known made
  have filters : new.flist = old.flist := (incrAction_frame made).1
  have finds := commits.finds reached
  have puts (ids : NdiObjIdTable) :
      old.PutsBack (· = .entryAction) ids (old.backActions (new.committed ids)) := by
    refine ⟨?_, filters, rfl, marked_alone (fun a => decide_eq_false (Finset.notMem_empty a)) _⟩
    obtain ⟨-, -, rfl⟩ | ⟨-, -, a, -, -, rfl⟩ := incrAction_cases decoded made
    · exact ⟨rfl, rfl, rfl, rfl, rfl⟩
    · rw [putAction_frame]
      exact ⟨rfl, rfl, rfl, rfl, rfl⟩
  have valued_iff : ¬ (IncrType.actionType v).Valueless p ↔
      (actionMap p type).val.dataType ≠ .none := by
    refine not_congr ⟨?_, fun none_ => ⟨type, decoded, none_⟩⟩
    rintro ⟨type', decoded', none_⟩
    cases decoded.symm.trans decoded'
    exact none_
  rw [rollsBack_incr_iff old.backActions (R := old.ActionReturns p t.sw type obj.key.oper)
    hosts reached pushes accepts commits (incrAction_given decoded made) finds.listed puts
    fun sw₁ prev ids u bare packed => ?_]
  · rw [valued_iff, refsReturn_iff, incr_usedCounter decoded made]
    constructor
    · rintro ⟨valued, returns, passes, wayBack, refs⟩
      exact ⟨type, decoded, valued, returns, passes, wayBack, refs⟩
    · rintro ⟨type', decoded', undoable⟩
      cases decoded.symm.trans decoded'
      exact undoable
  · have valued (change : obj.key.oper ≠ .create) : (actionMap p type).val.dataType ≠ .none :=
      valued_iff.mp (packed_valued (incrNewEntry_hasElement commits.made change) change packed)
    have undo : (incrAction p sw₁ prev.attrs obj.key.oper.undo v (new.committed ids) = .ok u ∧
        u.alist = old.alist) ↔ old.ActionReturns p sw₁ type obj.key.oper ∧
          u = old.backActions (new.committed ids) :=
      undoAction_iff commits.op decoded valued made rfl finds.sameTable fun change a found =>
        packIncr_action change decoded found packed
    rw [actionReturns_bare bare] at undo
    constructor
    · rintro ⟨made', -, actions⟩
      exact undo.mp ⟨made', actions⟩
    · rintro ⟨returns, rfl⟩
      obtain ⟨made', actions⟩ := undo.mpr ⟨returns, rfl⟩
      exact ⟨made', filters, actions⟩

/-- An incremental update that commits is undone by its rollback, entry and references, just when
the request and the old entry are as `Undoable` says. -/
theorem incr_rollsBack_iff (hosts : p.Hosts p') (reached : Reached (fun _ _ => True) t.sw)
    (pushes : o.Commits p) (accepts : o'.Accepts p')
    (commits : UpdateCommits p o t index obj table eid upd old new) :
    RollsBack p p' o o' index t (EntryReturns table.tableId eid old) ↔
      upd.Undoable p p' t.sw table obj.attrs obj.key.oper old := by
  cases upd with
  | matchType v => exact filter_rollsBack_iff hosts reached pushes accepts commits
  | actionType v => exact action_rollsBack_iff hosts reached pushes accepts commits

end Rollback

/-! ### On the bench -/

namespace Bench

end Bench

/-- A transaction of one update of an element of entry 7. -/
def elementTransaction (obj : CpsObject) : Transaction where
  sw := Bench.after updateRun
  changeList := [obj]
  prev := []

theorem elementTransaction_reached {allowed : NasAclSwitch → Request → Prop} {obj : CpsObject}
    (fine : ∀ r ∈ updateRun, ∀ sw, allowed sw r) : Reached allowed (elementTransaction obj).sw := by
  change Reached allowed (Bench.after updateRun)
  exact Reachable.after fine

/-- The object of an update of an element of entry 7. -/
def elementObject (op : CpsOper) (named : KeyAttr × UInt64) (attrs : List CpsAttr) : CpsObject :=
  (Request.on op .entry [(.entryTableId, 1), (.entryId, 7), named] attrs).obj

/-- An entry that follows the table and has no counter. -/
def NasAclEntry.Free (e : NasAclEntry) : Prop :=
  e.followingTableNpus = true ∧ e.isCounterEnabled = false

instance (e : NasAclEntry) : Decidable e.Free :=
  inferInstanceAs (Decidable (_ ∧ _))

/-- An entry that has an id on each of its NPUs. -/
def NasAclEntry.Installed (e : NasAclEntry) : Prop := e.npuList ⊆ e.ndiEntryIds.keys

instance (e : NasAclEntry) : Decidable e.Installed :=
  inferInstanceAs (Decidable (e.npuList ⊆ e.ndiEntryIds.keys))

theorem NasAclEntry.Free.passes {p : Platform} {sw : NasAclSwitch} {table : NasAclTable}
    {e : NasAclEntry} (free : e.Free) : e.Passes p sw table := by
  have listed : e.Listed := fun own => Bool.noConfusion (free.1.symm.trans own)
  refine (passes_listed listed).mpr ⟨fun own => ?_, fun enabled => ?_⟩
  · exact Bool.noConfusion (free.1.symm.trans own)
  · exact Bool.noConfusion (free.2.symm.trans enabled)

theorem element_commits {op : CpsOper} {named : KeyAttr × UInt64} {attrs : List CpsAttr}
    {upd : IncrType} (known : op.Updates)
    (names : keyIncrType (elementObject op named attrs) = some upd)
    (test : ((Bench.after updateRun).getTable 1).toOption.any fun table => table.tableId = 1 ∧
      ((Bench.after updateRun).findEntry 1 7).any fun old => old.Free ∧ old.Installed ∧
        (incrNewEntry Bench.platform (Bench.after updateRun) table attrs op upd old).toOption.any
          fun new => new.Free ∧ new.npuList ⊆ old.npuList) :
    ∃ table old new, table.tableId = 1 ∧ old.Free ∧ old.Installed ∧
      UpdateCommits Bench.platform Bench.pushingOracle
        (elementTransaction (elementObject op named attrs)) 0
        (elementObject op named attrs) table 7 upd old new := by
  obtain ⟨table, held, test⟩ := (Option.any_eq_true _ _).mp test
  obtain ⟨own, test⟩ := of_decide_eq_true test
  obtain ⟨old, found, test⟩ := (Option.any_eq_true _ _).mp test
  obtain ⟨free, installed, test⟩ := of_decide_eq_true test
  obtain ⟨new, made, test⟩ := (Option.any_eq_true _ _).mp test
  obtain ⟨free', stays⟩ := of_decide_eq_true test
  refine ⟨table, old, new, own, free, installed, rfl, rfl, rfl, known, ?_, ?_, ?_, free'.passes,
    Bench.modified_stays stays⟩
  · exact cpsOpKeyExtract_ok.mpr ⟨1, rfl, except_toOption.mp held, rfl, names⟩
  · rw [own]
    exact getEntry_ok.mpr found
  · exact except_toOption.mp made

/-- The DSCP is deleted, and put back. -/
theorem incr_delete_dscp :
    let obj := elementObject .delete
      (.entryMatchType, (Bench.platform.matchTypes.code .dscp).toUInt64) []
    ∃ old, (Bench.after updateRun).findEntry 1 7 = some old ∧
      RollsBack Bench.platform Bench.platform Bench.pushingOracle Bench.pushingOracle 0
        (elementTransaction obj) (EntryReturns 1 7 old) := by
  intro obj
  have committed : ∃ table old new, table.tableId = 1 ∧ old.Free ∧ old.Installed ∧
      UpdateCommits Bench.platform Bench.pushingOracle (elementTransaction obj) 0 obj table 7
        (.matchType (Bench.platform.matchTypes.code .dscp)) old new :=
    element_commits (by decide) (by decide +kernel) (by decide +kernel)
  obtain ⟨table, old, new, own, free, installed, commits⟩ := committed
  have onBench : Reached (fun _ r => Bench.platform.Hosts r.platform) (elementTransaction obj).sw := by
    refine elementTransaction_reached fun r mem _ => ?_
    rcases List.mem_pair.mp mem with rfl | rfl <;> exact Platform.hosts_self _
  have reached : Reached (fun _ _ => True) (elementTransaction obj).sw :=
    elementTransaction_reached fun _ _ _ => trivial
  have stored : (Bench.after updateRun).getEntry 1 7 = .ok old := own ▸ commits.stored
  have finds := commits.finds reached
  have readable := reached_readable onBench finds.known (getEntry_ok.mpr finds.stored)
  obtain ⟨-, actions, following, base, -⟩ := recached_frame (p := Bench.platform) .dscp old
  have back : (old.recached Bench.platform .dscp).Free := by
    refine ⟨following.trans free.1, ?_⟩
    unfold NasAclEntry.isCounterEnabled
    rw [actions]
    exact free.2
  have cache : (old.recached Bench.platform .dscp).filterNpus = old.filterNpus := by
    cases found : old.flist.find .dscp with
    | none => rw [recached_of_absent found]
    | some f =>
        have type : f.filterType = .dscp := old.flist.keyed _ f found
        rw [recached_npus found, NasAclFilter.isNpuSpecific, type]
        rfl
  have npus : (old.recached Bench.platform .dscp).npuList = old.npuList := by
    unfold NasAclEntry.npuList
    rw [cache, base]
  have pushes := Bench.pushingOracle_accepts Bench.platform
  refine ⟨old, getEntry_ok.mp stored, own ▸ (incr_rollsBack_iff (Platform.hosts_self _) reached
    pushes.toCommits pushes commits).mpr ⟨.dscp, ?_, ⟨fun create => ?_, fun _ => ?_⟩, back.passes,
      wayBack_of_installed installed rfl npus⟩⟩
  · exact (Bench.platform.matchTypes.decode_eq_some _ _).mpr rfl
  · cases create
  · exact readable.filters _

/-- Deleting the DECREMENT_TTL ends the process. -/
theorem incr_not_always_rolled_back :
    ¬ ∀ (p p' : Platform) (o o' : Oracle) (t : Transaction) (index : Nat) (obj : CpsObject)
      (table : NasAclTable) (eid : NasObjId) (upd : IncrType) (old new : NasAclEntry),
      p.Hosts p' → Reached (fun _ _ => True) t.sw → o.Commits p → o'.Accepts p' →
      UpdateCommits p o t index obj table eid upd old new →
      RollsBack p p' o o' index t (EntryReturns table.tableId eid old) := by
  intro claim
  let obj := elementObject .delete
    (.entryActionType, (Bench.platform.actionTypes.code .decrementTtl).toUInt64) []
  have committed : ∃ table old new, table.tableId = 1 ∧ old.Free ∧ old.Installed ∧
      UpdateCommits Bench.platform Bench.pushingOracle (elementTransaction obj) 0 obj table 7
        (.actionType (Bench.platform.actionTypes.code .decrementTtl)) old new :=
    element_commits (by decide) (by decide +kernel) (by decide +kernel)
  obtain ⟨table, old, new, -, -, -, commits⟩ := committed
  have reached : Reached (fun _ _ => True) (elementTransaction obj).sw :=
    elementTransaction_reached fun _ _ _ => trivial
  have pushes := Bench.pushingOracle_accepts Bench.platform
  obtain ⟨t₁, t₂, wrote, -⟩ := claim _ _ _ _ _ _ _ _ _ _ _ _ (Platform.hosts_self _) reached
    pushes.toCommits pushes commits
  have ended : (nasAclCpsApiWrite Bench.platform Bench.pushingOracle 0 (elementTransaction obj)).1
      = .terminated := by decide +kernel
  rw [wrote] at ended
  cases ended

end SonicNasAcl
