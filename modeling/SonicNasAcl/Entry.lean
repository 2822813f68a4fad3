/-
# Entry -- building and checking an entry

`nas_acl_entry` up to the base object's commit: what a request does to a copy of an
entry (`addFilter`, `addAction`, `removeFilter`, ...) and what is checked before
the copy is committed (`checkCreate`, `checkModify`).

`filterNpus` caches the NPUs of the one filter that is tied to NPUs.  The table an
entry points to is passed along: a table neither moves nor changes while it has
entries.
-/
import SonicNasAcl.Store
import SonicNasAcl.Lib.Effect

namespace SonicNasAcl

set_option autoImplicit false

open Lib

namespace NasAclTable

def isFilterAllowed (t : NasAclTable) (filterId : MatchType) : Bool :=
  filterId ∈ t.allowedFilters

def npuList (t : NasAclTable) : NpuSet := t.base.npus

end NasAclTable

/-- The first NPU, in loop order, that `have_` is missing. -/
def firstMissing (p : Platform) (need have_ : NpuSet) : Option NpuId :=
  (p.npuOrder.visit need).find? fun npuId => npuId ∉ have_

theorem firstMissing_eq_none {p : Platform} {need have_ : NpuSet} :
    firstMissing p need have_ = none ↔ need ⊆ have_ := by
  simp only [firstMissing, List.find?_eq_none, p.npuOrder.mem_visit, decide_not,
    Bool.not_eq_eq_eq_not, Bool.not_true, decide_eq_false_iff_not, not_not]
  rfl

namespace NasAclEntry

/-- The constructor, for a table. -/
def new (p : Platform) (tableId : NasObjId) : NasAclEntry where
  base := .new p
  tableId := tableId
  entryId := 0
  priority := 0
  filterNpus := ∅
  followingTableNpus := true
  flist := .empty
  alist := .empty
  ndiEntryIds := ∅

/-- `npu_list`: narrowed to the NPUs of a port filter. -/
def npuList (e : NasAclEntry) : NpuSet := if e.filterNpus ≠ ∅ then e.filterNpus else e.base.npus

def isAttrDirty (e : NasAclEntry) (a : AttrId) : Bool := e.base.isAttrDirty a

def markAttrDirty (a : AttrId) (e : NasAclEntry) : NasAclEntry :=
  { e with base := e.base.markAttrDirty a }

def setPriority (v : UInt32) (e : NasAclEntry) : NasAclEntry :=
  { e with priority := v }.markAttrDirty .entryPriority

/-- `copy_table_npus`. -/
def copyTableNpus (table : NasAclTable) (e : NasAclEntry) : NasAclEntry :=
  { e with base := e.base.setNpuList table.npuList, followingTableNpus := true }

/-- `add_npu`. -/
def addNpu (npuId : NpuId) (e : NasAclEntry) : NasAclEntry :=
  { e with base := e.base.addNpu npuId true, followingTableNpus := false }

/-! ## Filters -/

/-- The overwrite mode of `add_filter`: the first filter of a request clears the
list. -/
def resetFilters (reset : Bool) (e : NasAclEntry) : NasAclEntry :=
  if reset && !e.isAttrDirty .entryMatch then { e with flist := .empty, filterNpus := ∅ } else e

/-- The part of `add_filter` for a filter tied to NPUs: refuse a second one, cache
its NPUs and check them against the table. -/
def cacheFilterNpus (p : Platform) (table : NasAclTable) (filter : NasAclFilter)
    (e : NasAclEntry) : Except Exn NasAclEntry :=
  if filter.isNpuSpecific then do
    throwIf (e.filterNpus ≠ ∅ ∧ e.flist.find filter.filterType = none)
      (.base .inconsistent "Cannot have Port and Port-list Match filter in the same Entry.")
    let filterNpus ← filter.getNpuList p
    match firstMissing p filterNpus table.npuList with
    | some npuId => .error (.base .inconsistent
        ("Table's NPU list does not contain NPU " ++ toString npuId ++ " needed by Filter "
          ++ filter.name))
    | none => .ok { e with filterNpus := filterNpus }
  else .ok e

/-- `add_filter`. -/
def addFilter (p : Platform) (table : NasAclTable) (filter : NasAclFilter) (reset : Bool)
    (e : NasAclEntry) : Except Exn NasAclEntry := do
  throwIf (!table.isFilterAllowed filter.filterType)
    (.base .inconsistent ("Table does not allow matching on Filter " ++ filter.name))
  let e ← (e.resetFilters reset).cacheFilterNpus p table filter
  .ok { e.markAttrDirty .entryMatch with flist := e.flist.put filter }

/-- `remove_filter`. -/
def removeFilter (ftype : MatchType) (e : NasAclEntry) : NasAclEntry :=
  let filterNpus := if NasAclFilter.isNpuSpecificType ftype then ∅ else e.filterNpus
  { e.markAttrDirty .entryMatch with filterNpus := filterNpus, flist := e.flist.erase ftype }

/-- `get_filter`, for a type that has a name. -/
def getFilter (e : NasAclEntry) (ftype : MatchType) : Except Exn NasAclFilter :=
  match e.flist.find ftype with
  | some f => .ok f
  | none => .error (.base .keyVal ("ACL Entry has no Filter field " ++ ftype.typeName))

/-! ## Actions -/

/-- The overwrite mode of `add_action`. -/
def resetActions (reset : Bool) (e : NasAclEntry) : NasAclEntry :=
  if reset && !e.isAttrDirty .entryAction then { e with alist := .empty } else e

/-- The part of `add_action` for a counter: it must be one of the entry's table. -/
def checkCounterKnown (sw : NasAclSwitch) (e : NasAclEntry) : Except Exn Unit :=
  match sw.findCounter e.tableId e.counterId with
  | none => .error (.base .attrVal ("No such Counter " ++ toString e.counterId))
  | some counter => throwIf (counter.tableId ≠ e.tableId)
      (.base .inconsistent ("Counter does not belong to entry's table " ++ toString e.tableId))

/-- `add_action` up to the check of a counter. -/
def putAction (action : NasAclAction) (reset : Bool) (e : NasAclEntry) : NasAclEntry :=
  { (e.resetActions reset).markAttrDirty .entryAction with
    alist := (e.resetActions reset).alist.put action }

/-- `add_action`. -/
def addAction (sw : NasAclSwitch) (action : NasAclAction) (reset : Bool) (e : NasAclEntry) :
    Except Exn NasAclEntry :=
  if action.actionType = .setCounter then do
    (e.putAction action reset).checkCounterKnown sw
    .ok (e.putAction action reset)
  else .ok (e.putAction action reset)

/-- `remove_action`. -/
def removeAction (atype : ActionType) (e : NasAclEntry) : NasAclEntry :=
  { e.markAttrDirty .entryAction with alist := e.alist.erase atype }

/-- `get_action`, for a type that has a name. -/
def getAction (e : NasAclEntry) (atype : ActionType) : Except Exn NasAclAction :=
  match e.alist.find atype with
  | some a => .ok a
  | none => .error (.base .keyVal ("ACL Entry has no Action " ++ atype.typeName))

theorem getFilter_ok {e : NasAclEntry} {ftype : MatchType} {f : NasAclFilter} :
    e.getFilter ftype = .ok f ↔ e.flist.find ftype = some f := by
  unfold getFilter
  cases e.flist.find ftype with
  | none => simp only [reduceCtorEq]
  | some g => simp only [Except.ok.injEq, Option.some.injEq]

theorem getAction_ok {e : NasAclEntry} {atype : ActionType} {a : NasAclAction} :
    e.getAction atype = .ok a ↔ e.alist.find atype = some a := by
  unfold getAction
  cases e.alist.find atype with
  | none => simp only [reduceCtorEq]
  | some b => simp only [Except.ok.injEq, Option.some.injEq]

/-! ## Checks before a commit -/

/-- The text of the two NPU checks. -/
def missingNpu (e : NasAclEntry) (npuId : NpuId) : Exn :=
  .base .inconsistent
    ("NPU list for Entry " ++ toString e.entryId ++ " is missing NPU " ++ toString npuId)

/-- `_validate_counter_npus`. -/
def validateCounterNpus (p : Platform) (sw : NasAclSwitch) (e : NasAclEntry) :
    Except Exn Unit :=
  (p.npuOrder.visit e.npuList).forM fun npuId => do
    match ← e.getCounter sw with
    | none => .error (.abort "null counter")
    | some counter =>
        if counter.isObjInNpu npuId then .ok ()
        else .error (.base .inconsistent
          ("NPU list for Counter " ++ toString e.counterId ++ " is missing NPU "
            ++ toString npuId))

/-- The counter of an entry that has one. -/
def checkCounter (p : Platform) (sw : NasAclSwitch) (e : NasAclEntry) : Except Exn Unit :=
  if e.isCounterEnabled then e.validateCounterNpus p sw else .ok ()

/-- The NPUs of a new entry.  The list the filter's NPUs are checked against is the
overridden `npu_list`. -/
def npusForCreate (p : Platform) (table : NasAclTable) (e : NasAclEntry) :
    Except Exn NasAclEntry :=
  if e.followingTableNpus then .ok (e.copyTableNpus table)
  else
    match firstMissing p e.filterNpus e.npuList with
    | some npuId => .error (e.missingNpu npuId)
    | none => .ok e

/-- The NPUs of a changed entry. -/
def npusForModify (p : Platform) (table : NasAclTable) (e : NasAclEntry) :
    Except Exn NasAclEntry :=
  if e.followingTableNpus then .ok e
  else if e.base.npus = ∅ then .ok (e.copyTableNpus table)
  else
    match firstMissing p e.filterNpus e.base.npus with
    | some npuId => .error (e.missingNpu npuId)
    | none => .ok e

/-- `commit_create` up to the call of the base object. -/
def checkCreate (p : Platform) (sw : NasAclSwitch) (table : NasAclTable) (e : NasAclEntry) :
    Except Exn NasAclEntry := do
  let e ← e.npusForCreate p table
  e.checkCounter p sw
  .ok e

/-- `commit_modify` up to the call of the base object. -/
def checkModify (p : Platform) (sw : NasAclSwitch) (table : NasAclTable) (e : NasAclEntry) :
    Except Exn NasAclEntry := do
  let e ← e.npusForModify p table
  e.checkCounter p sw
  .ok e

/-! ### What the checks let through -/

section Checks

variable {p : Platform} {sw : NasAclSwitch} {table : NasAclTable} {e e' : NasAclEntry}

theorem npusForCreate_ok :
    e.npusForCreate p table = .ok e' ↔
      e' = (if e.followingTableNpus then e.copyTableNpus table else e) ∧
        (e.followingTableNpus = false → e.filterNpus ⊆ e.npuList) := by
  unfold npusForCreate
  cases e.followingTableNpus with
  | true => simp only [if_true, Except.ok.injEq, @eq_comm NasAclEntry _ e', Bool.true_eq_false, false_implies,
      and_true]
  | false =>
      simp only [Bool.false_eq_true, if_false, true_implies, ← firstMissing_eq_none (p := p)]
      cases firstMissing p e.filterNpus e.npuList with
      | none => simp only [Except.ok.injEq, @eq_comm NasAclEntry _ e', and_true]
      | some npuId => simp only [reduceCtorEq, and_false]

theorem npusForModify_ok :
    e.npusForModify p table = .ok e' ↔
      e' = (if e.followingTableNpus = false ∧ e.base.npus = ∅ then e.copyTableNpus table else e) ∧
        (e.followingTableNpus = false → e.base.npus ≠ ∅ → e.filterNpus ⊆ e.base.npus) := by
  unfold npusForModify
  cases e.followingTableNpus with
  | true => simp only [if_true, Except.ok.injEq, @eq_comm NasAclEntry _ e', Bool.true_eq_false, false_implies,
      and_true, false_and, if_false]
  | false =>
      simp only [Bool.false_eq_true, if_false, true_implies, true_and,
        ← firstMissing_eq_none (p := p)]
      by_cases none_left : e.base.npus = ∅
      · simp only [none_left, if_true, Except.ok.injEq, @eq_comm NasAclEntry _ e', ne_eq, not_true_eq_false,
          false_implies, and_true]
      · simp only [none_left, if_false, ne_eq, not_false_eq_true, true_implies]
        cases firstMissing p e.filterNpus e.base.npus with
        | none => simp only [Except.ok.injEq, @eq_comm NasAclEntry _ e', and_true]
        | some npuId => simp only [reduceCtorEq, and_false]

/-- An entry with a counter passes when the counter is on every NPU of the entry. -/
theorem checkCounter_ok :
    e.checkCounter p sw = .ok () ↔
      (e.isCounterEnabled → ∀ npuId ∈ e.npuList,
        ∃ c, sw.getCounter e.tableId e.counterId = .ok c ∧ c.isObjInNpu npuId) := by
  unfold checkCounter
  cases enabled : e.isCounterEnabled with
  | false => simp only [Bool.false_eq_true, if_false, false_implies]
  | true =>
      simp only [if_true, true_implies, validateCounterNpus, except_forM_ok, p.npuOrder.mem_visit]
      refine forall_congr' fun npuId => forall_congr' fun _ => ?_
      unfold getCounter
      rw [if_pos enabled]
      cases sw.getCounter e.tableId e.counterId with
      | error err => simp only [except_error_bind, reduceCtorEq, false_and, exists_false]
      | ok c =>
          simp only [except_ok_bind, Except.ok.injEq, exists_eq_left']
          cases c.isObjInNpu npuId with
          | false => simp only [Bool.false_eq_true, if_false, reduceCtorEq]
          | true => simp only [if_true]

theorem checkCreate_ok :
    e.checkCreate p sw table = .ok e' ↔
      e.npusForCreate p table = .ok e' ∧ e'.checkCounter p sw = .ok () := by
  simp only [checkCreate, except_bind_ok, Except.ok.injEq]
  constructor
  · rintro ⟨e₁, placed, _, counted, rfl⟩
    exact ⟨placed, counted⟩
  · rintro ⟨placed, counted⟩
    exact ⟨e', placed, (), counted, rfl⟩

theorem checkModify_ok :
    e.checkModify p sw table = .ok e' ↔
      e.npusForModify p table = .ok e' ∧ e'.checkCounter p sw = .ok () := by
  simp only [checkModify, except_bind_ok, Except.ok.injEq]
  constructor
  · rintro ⟨e₁, placed, _, counted, rfl⟩
    exact ⟨placed, counted⟩
  · rintro ⟨placed, counted⟩
    exact ⟨e', placed, (), counted, rfl⟩

end Checks

end NasAclEntry

end SonicNasAcl
