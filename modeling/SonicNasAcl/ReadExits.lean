/-
# ReadExits -- the one GET that does not return

A GET is `noexcept` and catches base exceptions only: any other exception in it ends the
process.  What it looks up is there or is missed by a base exception, and what it fills it
fills to the end, in whatever switch requests have made.  One accessor is missing, that of
an action without a value.  In a list of actions such an action has no value to be added,
but a GET of that action alone calls the accessor.

* `Reading.Caught`: an effect on the list that leaves by a base exception at most;
* `nasAclGetTable_caught`, `nasAclGetCounter_caught`, `nasAclGetEntry_caught`: where a GET
  does;
* `read_terminated_iff`: and where it does not.
-/
import SonicNasAcl.Listings

namespace SonicNasAcl

set_option autoImplicit false

open Lib

/-! ## What is caught -/

/-- The exceptions a handler catches. -/
def Exn.IsBase : Exn → Prop
  | .base _ _ => True
  | .outOfRange | .abort _ => False

/-- Nothing leaves it but a base exception. -/
abbrev Reading.Caught {α : Type} (x : Eff Exn (List CpsObject) α) : Prop :=
  Eff.Spec (fun _ => True) x (fun _ _ => True) fun err _ => err.IsBase

namespace Reading

variable {α : Type} {x : Except Exn α} {f : α → Reading Unit}

theorem caught_fail (errCode : ErrCode) : Caught (fail errCode) := .throw fun _ _ => trivial

theorem caught_append (obj : CpsObject) : Caught (append obj) := .write fun _ _ => trivial

/-- A lookup, and what is done with what it finds. -/
theorem caught_asked (base : ∀ err, x = .error err → err.IsBase)
    (rest : ∀ a, x = .ok a → Caught (f a)) : Caught (Eff.query (fun _ => x) >>= f) :=
  Eff.Spec.query_bind (fun _ err _ failed => base err failed) fun a =>
    .of_fact (fun _ pre => pre.2) fun found => (rest a found).mono (fun _ _ => trivial)
      (fun _ _ _ => trivial) fun _ _ caught => caught

/-- An object that is filled to its end. -/
theorem caught_filled {x : Fill} {f : Adds × Bool → Reading Unit} (ends : x.Ends)
    (rest : ∀ r, Caught (f r)) : Caught (Eff.query (fun _ => x) >>= f) := by
  obtain ⟨r, rfl⟩ := ends
  refine caught_asked (fun err failed => ?_) fun r _ => rest r
  cases failed

theorem caught_ignoreRc {x : Reading Unit} (inner : Caught x) : Caught (ignoreRc x) where
  ok _ _ := trivial
  error {s s' err} pre failed := by
    unfold ignoreRc at failed
    split at failed
    · cases failed
    · exact inner.error pre failed

end Reading

/-- Only an exception that is not caught ends the process. -/
theorem tryReading_terminated {body : Reading Unit} {list : List CpsObject} :
    (tryReading body list).1 = .terminated ↔
      ∃ err list', body list = (.error err, list') ∧ ¬ err.IsBase := by
  unfold tryReading
  constructor
  · intro ended
    split at ended
    · cases ended
    · cases ended
    · rename_i err list' other stopped
      refine ⟨err, list', stopped, fun base => ?_⟩
      cases err with
      | base errCode errMsg => exact other errCode errMsg rfl
      | outOfRange => exact base
      | abort why => exact base
  · rintro ⟨err, list', stopped, uncaught⟩
    rw [stopped]
    cases err with
    | base errCode errMsg => exact absurd trivial uncaught
    | outOfRange => rfl
    | abort why => rfl

theorem Reading.Caught.returns {body : Reading Unit} (caught : Reading.Caught body)
    (list : List CpsObject) : (tryReading body list).1 ≠ .terminated := fun ended => by
  obtain ⟨err, list', stopped, uncaught⟩ := tryReading_terminated.mp ended
  exact uncaught (caught.error trivial stopped)

/-! ## What is looked up -/

section Lookups

variable {sw : NasAclSwitch} {e : NasAclEntry} {t id : NasObjId} {err : Exn}

theorem getTable_base (failed : sw.getTable t = .error err) : err.IsBase := by
  unfold NasAclSwitch.getTable at failed
  split at failed
  · cases failed
  · cases failed
    trivial

theorem entryList_base (failed : sw.entryList t = .error err) : err.IsBase := by
  unfold NasAclSwitch.entryList at failed
  split at failed
  · cases failed
  · cases failed
    trivial

theorem getEntry_base (failed : sw.getEntry t id = .error err) : err.IsBase := by
  unfold NasAclSwitch.getEntry at failed
  split at failed
  · cases failed
  · cases failed
    trivial

theorem getCounter_base (failed : sw.getCounter t id = .error err) : err.IsBase := by
  unfold NasAclSwitch.getCounter at failed
  split at failed
  · cases failed
    trivial
  · split at failed
    · cases failed
    · cases failed
      trivial

theorem getFilter_base {ftype : MatchType} (failed : e.getFilter ftype = .error err) : err.IsBase := by
  unfold NasAclEntry.getFilter at failed
  split at failed
  · cases failed
  · cases failed
    trivial

theorem getAction_base {atype : ActionType} (failed : e.getAction atype = .error err) :
    err.IsBase := by
  unfold NasAclEntry.getAction at failed
  split at failed
  · cases failed
  · cases failed
    trivial

end Lookups

/-! ## Tables, counters and stats -/

section Handlers

variable {p : Platform} {rd : Reader} {sw : NasAclSwitch} {filter : CpsObject} {e : NasAclEntry}

theorem getTableInfo_caught (t : NasAclTable) : Reading.Caught (getTableInfo p rd t) where
  ok _ _ := trivial
  error _ failed := by
    rw [getTableInfo_run] at failed
    cases failed

theorem getCounterAs_caught (c : NasAclCounter) (view : CounterView) :
    Reading.Caught (getCounterAs p rd filter c view) where
  ok _ _ := trivial
  error _ failed := by
    rw [getCounterAs_run] at failed
    cases failed

theorem nasAclGetTable_caught : Reading.Caught (nasAclGetTable p rd sw filter) := by
  unfold nasAclGetTable
  split
  · exact Eff.Spec.forM fun t _ => Reading.caught_ignoreRc (getTableInfo_caught t)
  · exact Reading.caught_asked (fun _ => getTable_base) fun t _ => getTableInfo_caught t

/-- The list of counters is looked up in a `noexcept` function, which needs the table to be
there. -/
theorem nasAclGetCounter_caught (consistent : sw.store.Consistent) (view : CounterView) :
    Reading.Caught (nasAclGetCounter p rd sw filter view) := by
  have byTable {t : NasAclTable} (known : sw.getTable t.tableId = .ok t) :
      Reading.Caught (getCounterInfoByTable p rd sw filter view t) := by
    rw [getCounterInfoByTable_eq consistent known]
    exact Eff.Spec.forM fun c _ => getCounterAs_caught c view
  unfold nasAclGetCounter
  split
  · refine Eff.Spec.forM fun t listed => byTable ?_
    have inside : t ∈ sw.tablesIn none := listed
    exact ((mem_tablesIn consistent).mp inside).2
  · split
    · refine Reading.caught_asked (fun _ => getTable_base) fun t known => byTable ?_
      rw [tableId_of_getTable consistent known]
      exact known
    · exact Reading.caught_asked (fun _ => getCounter_base) fun c _ => getCounterAs_caught c view

/-! ## Entries -/

theorem fillEntryAttrInfo_ends (explicitNpuList : Bool) :
    (fillEntryAttrInfo p e explicitNpuList).Ends := by
  refine (Fill.one_ends _ _).andThen
    (fillMatchAttrList_ends.andThen (fillActionAttrList_ends.andThen ?_))
  unfold fillEntryNpus
  split
  · exact Fill.done_ends
  · exact Fill.forEach_ends fun _ _ => Fill.one_ends _ _

theorem getEntryInfo_caught : Reading.Caught (getEntryInfo p rd e) := by
  refine Reading.caught_filled (fillEntryAttrInfo_ends true) fun r => ?_
  exact .ite (fun _ => Reading.caught_append _) fun _ => Reading.caught_fail _

theorem getEntryInfoByTable_caught (t : NasAclTable) :
    Reading.Caught (getEntryInfoByTable p rd sw t) :=
  Reading.caught_asked (fun _ => entryList_base) fun _ _ =>
    Eff.Spec.forM fun _ _ => getEntryInfo_caught

theorem cpsFillMatchInfo_caught (v : UInt32) : Reading.Caught (cpsFillMatchInfo p rd e v) := by
  unfold cpsFillMatchInfo
  split
  · exact .throw fun _ _ => trivial
  · refine Reading.caught_asked (fun _ => getFilter_base) fun f _ =>
      Reading.caught_filled fillMatchAttr_ends fun r => ?_
    exact .ite (fun _ => Reading.caught_append _) fun _ => Reading.caught_fail _

/-- An action with a value is filled to its end. -/
theorem cpsFillActionInfo_caught {v : UInt32}
    (hasValue : ¬ (IncrType.Valueless p (.actionType v) ∧ e.HasElement p (.actionType v))) :
    Reading.Caught (cpsFillActionInfo p rd e v) := by
  unfold cpsFillActionInfo
  split
  · exact .throw fun _ _ => trivial
  · rename_i atype decoded
    refine Reading.caught_asked (fun _ => getAction_base) fun a found => ?_
    have element : e.HasElement p (.actionType v) := fun t decoded' => by
      cases decoded.symm.trans decoded'
      exact Option.isSome_of_eq_some (NasAclEntry.getAction_ok.mp found)
    refine Reading.caught_filled (fillActionAttr_ends fun none_ => ?_) fun r => ?_
    · rw [Reader.reading, (actionMap_walking p _ atype).1] at none_
      exact hasValue ⟨⟨atype, decoded, none_⟩, element⟩
    · exact .ite (fun _ => Reading.caught_append _) fun _ => Reading.caught_fail _

theorem valueless_getFn {t : ActionType} (none_ : (actionMap p t).val.dataType = .none) :
    (actionMap p t).getFn = none := by
  cases t with
  | flood | decrementTtl => rfl
  | _ => cases none_

/-- One without is not. -/
theorem cpsFillActionInfo_valueless {v : UInt32} (valueless : IncrType.Valueless p (.actionType v))
    (element : e.HasElement p (.actionType v)) (list : List CpsObject) :
    cpsFillActionInfo p rd e v list = (.error (.abort "null get_fn"), list) := by
  obtain ⟨t, decoded, none_⟩ := valueless
  obtain ⟨a, held⟩ := Option.isSome_iff_exists.mp (element t decoded)
  unfold cpsFillActionInfo
  rw [decoded]
  have none_ : (actionMap (rd.reading p e) t).val.dataType = .none := by
    rw [Reader.reading, (actionMap_walking p _ t).1]
    exact none_
  have filled : fillActionAttr (rd.reading p e) a t [] = .error (.abort "null get_fn") := by
    simp only [fillActionAttr, valueless_getFn none_]
  exact (congrFun (Reading.answer (NasAclEntry.getAction_ok.mpr held) _) list).trans
    (Eff.bind_of_error (by rw [Eff.query_apply, filled]))

/-- A GET of one action of an entry that has it, of a type without a value. -/
structure GetsValueless (p : Platform) (sw : NasAclSwitch) (filter : CpsObject)
    (tableId entryId : NasObjId) (e : NasAclEntry) (v : UInt32) : Prop where
  table : filter.keyGetObjId .entryTableId = some tableId
  entry : filter.keyGetObjId .entryId = some entryId
  stored : sw.getEntry tableId entryId = .ok e
  element : keyIncrType filter = some (.actionType v)
  valueless : IncrType.Valueless p (.actionType v)
  held : e.HasElement p (.actionType v)

theorem nasAclGetEntry_caught
    (hasValue : ∀ tableId entryId e v, ¬ GetsValueless p sw filter tableId entryId e v) :
    Reading.Caught (nasAclGetEntry p rd sw filter) := by
  unfold nasAclGetEntry
  split
  · exact Eff.Spec.forM fun t _ => getEntryInfoByTable_caught t
  · rename_i tableId table
    split
    · exact Reading.caught_asked (fun _ => getTable_base) fun t _ => getEntryInfoByTable_caught t
    · rename_i entryId entry
      refine Reading.caught_asked (fun _ => getEntry_base) fun e stored => ?_
      split
      · exact getEntryInfo_caught
      · exact cpsFillMatchInfo_caught _
      · rename_i v element
        exact cpsFillActionInfo_caught fun ⟨valueless, held⟩ =>
          hasValue tableId entryId e v ⟨table, entry, stored, element, valueless, held⟩

theorem GetsValueless.aborts {tableId entryId : NasObjId} {v : UInt32}
    (gets : GetsValueless p sw filter tableId entryId e v) (list : List CpsObject) :
    nasAclGetEntry p rd sw filter list = (.error (.abort "null get_fn"), list) := by
  unfold nasAclGetEntry
  simp only [gets.table, gets.entry, gets.element]
  rw [Reading.answer gets.stored]
  exact cpsFillActionInfo_valueless gets.valueless gets.held list

/-! ## Requests -/

/-- In a reachable switch a GET ends the process just when it asks for one action, without a
value, of an entry that has it. -/
theorem read_terminated_iff {allowed : NasAclSwitch → Request → Prop} {filters : List CpsObject}
    {index : Nat} {list : List CpsObject} (reached : Reached allowed sw) :
    (nasAclCpsApiRead p rd filters index sw list).1 = .terminated ↔
      ∃ filter tableId entryId e v, filters[index]? = some filter ∧ filter.key.cat = .baseAcl ∧
        filter.key.subcat = .entry ∧ GetsValueless p sw filter tableId entryId e v := by
  have consistent := reached_consistent reached
  constructor
  · intro ended
    unfold nasAclCpsApiRead at ended
    cases listed : filters[index]? with
    | none =>
        rw [listed] at ended
        cases ended
    | some filter =>
        simp only [listed] at ended
        split at ended
        · cases ended
        · rename_i cat
          split at ended
          · exact absurd ended (nasAclGetTable_caught.returns list)
          · rename_i kind
            by_contra none_
            refine (nasAclGetEntry_caught fun tableId entryId e v gets => none_ ?_).returns list ended
            exact ⟨filter, tableId, entryId, e, v, rfl, not_not.mp cat, kind, gets⟩
          · exact absurd ended ((nasAclGetCounter_caught consistent _).returns list)
          · exact absurd ended ((nasAclGetCounter_caught consistent _).returns list)
          · cases ended
  · rintro ⟨filter, tableId, entryId, e, v, listed, cat, kind, gets⟩
    unfold nasAclCpsApiRead
    simp only [listed, cat, ne_eq, not_true_eq_false, if_false, kind]
    exact tryReading_terminated.mpr ⟨_, _, gets.aborts list, id⟩

end Handlers

/-! ### On the bench -/

/-- A GET of the DECREMENT_TTL of entry 7. -/
def Bench.decrementTtlOf : CpsObject :=
  filterOf .entry [(.entryTableId, 1), (.entryId, 7),
    (.entryActionType, (platform.actionTypes.code .decrementTtl).toUInt64)]

/-- Entry 7 has the action. -/
theorem decrementTtl_terminates :
    (nasAclCpsApiRead Bench.platform Bench.reader [Bench.decrementTtlOf] 0 (Bench.after Bench.listRun)
      []).1 = .terminated := by
  have held : ((Bench.after Bench.listRun).findEntry 1 7).any fun e =>
      (e.alist.find .decrementTtl).isSome := by decide +kernel
  obtain ⟨e, found, held⟩ := (Option.any_eq_true _ _).mp held
  have decoded : Bench.platform.actionTypes.decode
      (Bench.platform.actionTypes.code .decrementTtl).toUInt64.toUInt32 = some .decrementTtl := by
    decide +kernel
  have reached : Reached (fun _ _ => True) (Bench.after Bench.listRun) :=
    Reachable.after fun _ _ _ => trivial
  refine (read_terminated_iff reached).mpr ⟨Bench.decrementTtlOf, 1, 7, e, _, rfl, rfl, rfl, rfl, rfl,
    getEntry_ok.mpr found, rfl, ⟨.decrementTtl, decoded, rfl⟩, fun t decoded' => ?_⟩
  cases decoded.symm.trans decoded'
  exact held

end SonicNasAcl
