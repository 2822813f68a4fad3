/-
# Filling -- an object is filled to the end

Filling an object may return `false`, which nobody looks at, but it does not throw: a
value list is only read as far as its length was compared.  The one exception is a null
accessor, which ends the process, and only an incremental update can come to it.

* `copyDataToObj_ends`: a value is written, or the rest is skipped;
* `cpsPackAttrs_ends`: so an entry can always be packed, whatever attributes are asked
  for;
* `packIncr_ends` and `packIncr_valueless`: and so can the object that undoes an
  incremental update, unless it holds the old value of an action without one.
-/
import SonicNasAcl.CpsEntry

namespace SonicNasAcl

set_option autoImplicit false

open Lib

/-- A filling function that returns. -/
def Fill.Ends (x : Fill) : Prop := ∃ r, x = .ok r

/-! ## Loops -/

namespace Fill

variable {α : Type} {x y : Fill} {body : α → Fill} {l : List α}

theorem done_ends : Fill.done.Ends := ⟨_, rfl⟩

theorem failed_ends : Fill.failed.Ends := ⟨_, rfl⟩

theorem one_ends (path : List AttrId) (payload : Tlv.Payload AttrId) : (Fill.one path payload).Ends :=
  ⟨_, rfl⟩

theorem Ends.andThen (first : x.Ends) (second : y.Ends) : (Fill.andThen x y).Ends := by
  obtain ⟨⟨adds, ok⟩, rfl⟩ := first
  obtain ⟨⟨adds', ok'⟩, rfl⟩ := second
  cases ok with
  | true => exact ⟨_, rfl⟩
  | false => exact ⟨_, rfl⟩

theorem forEach_ends (turns : ∀ a ∈ l, (body a).Ends) : (Fill.forEach body l).Ends := by
  induction l with
  | nil => exact done_ends
  | cons a rest ih =>
      obtain ⟨here, turns⟩ := List.forall_mem_cons.mp turns
      exact here.andThen (ih turns)

end Fill

/-! ## Values -/

section Values

variable {p : Platform} {path : List AttrId} {childList : List MapData} {l : List CommonData}

theorem addDataToObj_ends {data : CommonData} {size : Nat} {t : DataType} :
    (addDataToObj p path data size t).Ends := by
  unfold addDataToObj
  split
  · exact Fill.one_ends _ _
  · split
    · exact Fill.failed_ends
    · split
      · exact Fill.failed_ends
      · exact Fill.one_ends _ _

theorem addChildAttrsToObj_ends {start : Nat} (enough : start + childList.length ≤ l.length) :
    (addChildAttrsToObj p path childList l start).Ends := by
  refine Fill.forEach_ends fun x mem => ?_
  obtain ⟨d, i⟩ := x
  have small : i < childList.length := by
    have := List.snd_lt_of_mem_zipIdx mem
    omega
  have there : start + i < l.length := by omega
  have found : vectorAt l (start + i) = .ok l[start + i] := by
    unfold vectorAt
    rw [List.getElem?_eq_getElem there]
  simp only [found]
  exact addDataToObj_ends

/-- As many objects are written as the values are enough for. -/
theorem addChildListToObj_ends : (addChildListToObj p path childList l).Ends := by
  simp only [addChildListToObj]
  split
  · exact Fill.failed_ends
  · refine Fill.forEach_ends fun i mem => addChildAttrsToObj_ends ?_
    have turn : i < l.length / childList.length := List.mem_range.mp mem
    calc i * childList.length + childList.length
        = (i + 1) * childList.length := (Nat.succ_mul _ _).symm
      _ ≤ l.length / childList.length * childList.length := Nat.mul_le_mul_right _ turn
      _ ≤ l.length := Nat.div_mul_le_self _ _

theorem copyNonIflistDataToObj_ends {d : MapData} :
    (copyNonIflistDataToObj p path d childList l).Ends := by
  unfold copyNonIflistDataToObj
  split
  · exact addChildListToObj_ends
  · split
    · split
      · exact Fill.failed_ends
      · rename_i same
        exact addChildAttrsToObj_ends (by omega)
    · split
      · exact Fill.failed_ends
      · exact addDataToObj_ends

theorem copyDataToObj_ends {d : MapData} : (copyDataToObj p path d childList l).Ends := by
  unfold copyDataToObj
  split
  · exact Fill.done_ends
  · unfold copyIflistDataToObj
    split
    · exact Fill.forEach_ends fun _ _ => Fill.one_ends _ _
    · exact Fill.failed_ends
  · exact Fill.failed_ends
  · exact copyNonIflistDataToObj_ends

end Values

/-! ## Entries -/

section Entries

variable {p : Platform} {e : NasAclEntry} {path : List AttrId}

theorem fillMatchAttr_ends {f : NasAclFilter} {t : MatchType} :
    (fillMatchAttr p f t path).Ends := copyDataToObj_ends

/-- An action type with a value has an accessor. -/
theorem fillActionAttr_ends {a : NasAclAction} {t : ActionType}
    (hasValue : (actionMap p t).val.dataType ≠ .none) : (fillActionAttr p a t path).Ends := by
  have accessor : ∃ getFn, (actionMap p t).getFn = some getFn := by
    cases t with
    | flood | decrementTtl => exact absurd rfl hasValue
    | _ => exact ⟨_, rfl⟩
  obtain ⟨getFn, found⟩ := accessor
  simp only [fillActionAttr, found]
  exact copyDataToObj_ends

theorem fillMatchAttrList_ends : (fillMatchAttrList p e).Ends :=
  Fill.forEach_ends fun _ _ => (Fill.one_ends _ _).andThen fillMatchAttr_ends

theorem fillActionAttrList_ends : (fillActionAttrList p e).Ends := by
  refine Fill.forEach_ends fun x _ => (Fill.one_ends _ _).andThen ?_
  split
  · rename_i hasValue
    exact fillActionAttr_ends hasValue
  · exact Fill.done_ends

theorem fillEntryAttr_ends {a : AttrId} : (fillEntryAttr p e a).Ends := by
  unfold fillEntryAttr
  split
  · exact Fill.one_ends _ _
  · exact fillMatchAttrList_ends
  · exact fillActionAttrList_ends
  · exact Fill.done_ends

theorem fillEntryNpuList_ends : (fillEntryNpuList p e).Ends := by
  unfold fillEntryNpuList
  split
  · exact Fill.done_ends
  · exact Fill.forEach_ends fun _ _ => Fill.one_ends _ _

theorem CpsObject.fill_ends {x : Fill} (ends : x.Ends) (obj : CpsObject) :
    ∃ filled, obj.fill x = .ok filled := by
  obtain ⟨r, rfl⟩ := ends
  exact ⟨_, rfl⟩

theorem cpsPackAttrs_ends {keyObj : CpsObject} {attrs : Finset AttrId} {npuModified : Bool}
    (packObj : CpsObject) :
    ∃ filled, cpsPackAttrs p keyObj e attrs npuModified packObj = .ok filled := by
  unfold cpsPackAttrs
  have listed (l : List AttrId) (obj : CpsObject) : ∃ filled,
      l.foldlM (fun packObj attrId => packObj.fill (fillEntryAttr p e attrId)) obj = .ok filled := by
    induction l generalizing obj with
    | nil => exact ⟨obj, rfl⟩
    | cons a rest ih =>
        obtain ⟨mid, filled⟩ := CpsObject.fill_ends (fillEntryAttr_ends (p := p) (e := e) (a := a)) obj
        rw [List.foldlM_cons, filled]
        exact ih mid
  obtain ⟨mid, filled⟩ := listed (p.attrOrder.visit attrs) (entryKeyFill e (packObj.setKey keyObj.key))
  simp only [filled, except_ok_bind]
  split
  · exact CpsObject.fill_ends fillEntryNpuList_ends mid
  · exact ⟨mid, rfl⟩

end Entries

/-! ## Incremental updates -/

/-- The element an incremental update names is in the entry. -/
def NasAclEntry.HasElement (p : Platform) (e : NasAclEntry) : IncrType → Prop
  | .matchType v => ∀ t, p.matchTypes.decode v = some t → (e.flist.find t).isSome
  | .actionType v => ∀ t, p.actionTypes.decode v = some t → (e.alist.find t).isSome

/-- An incremental update of an action without a value. -/
def IncrType.Valueless (p : Platform) : IncrType → Prop
  | .matchType _ => False
  | .actionType v => ∃ t, p.actionTypes.decode v = some t ∧ (actionMap p t).val.dataType = .none

section Incremental

variable {p : Platform} {sw : NasAclSwitch} {table : NasAclTable} {obj : List CpsAttr}
  {op : CpsOper} {upd : IncrType} {old new : NasAclEntry} {keyObj packObj : CpsObject}

/-- SET and DELETE need the element. -/
theorem incrNewEntry_hasElement (made : incrNewEntry p sw table obj op upd old = .ok new)
    (change : op ≠ .create) : old.HasElement p upd := by
  cases upd with
  | matchType v =>
      intro t decoded
      change incrFilter p table obj op v old = .ok new at made
      simp only [incrFilter, if_neg change, decoded] at made
      obtain ⟨f, held, -⟩ := except_bind_ok.mp made
      rw [NasAclEntry.getFilter_ok.mp held]
      rfl
  | actionType v =>
      intro t decoded
      change incrAction p sw obj op v old = .ok new at made
      simp only [incrAction, if_neg change, decoded] at made
      obtain ⟨a, held, -⟩ := except_bind_ok.mp made
      rw [NasAclEntry.getAction_ok.mp held]
      rfl

/-- The object that undoes an incremental update of an element with a value. -/
theorem packIncr_ends (present : op ≠ .create → old.HasElement p upd)
    (hasValue : op ≠ .create → ¬ upd.Valueless p) :
    ∃ filled, packIncr p keyObj old op upd packObj = .ok filled := by
  unfold packIncr
  cases upd with
  | matchType v =>
      simp only []
      split
      · exact ⟨_, rfl⟩
      · rename_i change
        split
        · exact ⟨_, rfl⟩
        · rename_i t decoded
          obtain ⟨f, held⟩ := Option.isSome_iff_exists.mp (present change t decoded)
          rw [NasAclEntry.getFilter_ok.mpr held]
          exact CpsObject.fill_ends fillMatchAttr_ends _
  | actionType v =>
      simp only []
      split
      · exact ⟨_, rfl⟩
      · rename_i change
        split
        · exact ⟨_, rfl⟩
        · rename_i t decoded
          obtain ⟨a, held⟩ := Option.isSome_iff_exists.mp (present change t decoded)
          rw [NasAclEntry.getAction_ok.mpr held]
          refine CpsObject.fill_ends (fillActionAttr_ends fun none_ => ?_) _
          exact hasValue change ⟨t, decoded, none_⟩

/-- An action without a value has no accessor. -/
theorem packIncr_valueless (present : old.HasElement p upd) (change : op ≠ .create)
    (valueless : upd.Valueless p) :
    packIncr p keyObj old op upd packObj = .error (.abort "null get_fn") := by
  cases upd with
  | matchType v => exact valueless.elim
  | actionType v =>
      obtain ⟨t, decoded, none_⟩ := valueless
      obtain ⟨a, held⟩ := Option.isSome_iff_exists.mp (present t decoded)
      have accessor : (actionMap p t).getFn = none := by
        cases t with
        | flood | decrementTtl => rfl
        | _ => cases none_
      simp only [packIncr, if_neg change, decoded, NasAclEntry.getAction_ok.mpr held,
        except_ok_bind, fillActionAttr, accessor]
      rfl

/-- Packing only fails by ending the process. -/
theorem packIncr_error {err : Exn} (present : op ≠ .create → old.HasElement p upd)
    (failed : packIncr p keyObj old op upd packObj = .error err) : ∃ why, err = .abort why := by
  by_cases valueless : op ≠ .create ∧ upd.Valueless p
  · rw [packIncr_valueless (present valueless.1) valueless.1 valueless.2] at failed
    cases failed
    exact ⟨_, rfl⟩
  · have ends : ∃ filled, packIncr p keyObj old op upd packObj = .ok filled :=
      packIncr_ends present fun change none_ => valueless ⟨change, none_⟩
    obtain ⟨filled, done⟩ := ends
    rw [done] at failed
    cases failed

end Incremental

end SonicNasAcl
