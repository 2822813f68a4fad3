/-
# Reading -- what the match field of a request decodes to

A filter is read by its descriptor: the items of its value, and the accessor that puts
them into a filter without a value.  `readFilter_ok` says so once; what a filter of a
given type looks like then follows from the accessor of its row.

* `readFilter_type`: a filter has the type the request names;
* `readFilter_inPort`: the filter of a single port has a port.
-/
import SonicNasAcl.CpsLists

namespace SonicNasAcl

set_option autoImplicit false

open Lib

/-! ## Accessors -/

namespace NasAclFilter

variable {f f' : NasAclFilter} {l : List CommonData}

theorem setScalarFilterVal_type {α : Type} {read : CommonData → α} {zero : α}
    {member : α → α → NdiFilterValue} (set : setScalarFilterVal read zero member l f = .ok f') :
    f'.filterType = f.filterType := by
  obtain ⟨data, -, set⟩ := except_bind_ok.mp set
  cases set
  rfl

theorem setBytesFilterVal_type {len : Nat} {member : List UInt8 → List UInt8 → NdiFilterValue}
    (set : setBytesFilterVal len member l f = .ok f') : f'.filterType = f.filterType := by
  obtain ⟨data, -, set⟩ := except_bind_ok.mp set
  obtain ⟨mask, -, set⟩ := except_bind_ok.mp set
  cases set
  rfl

theorem setIpTypeFilterVal_ok {p : Platform} :
    setIpTypeFilterVal p l f = .ok f' ↔ ∃ data, vectorAt l 0 = .ok data ∧
      ∃ ipType, p.ipTypes.decode data.u32 = some ipType ∧ f' = f.setValues (.ipType ipType) := by
  unfold setIpTypeFilterVal
  simp only [except_bind_ok]
  refine exists_congr fun data => and_congr_right fun _ => ?_
  cases p.ipTypes.decode data.u32 with
  | none => simp only [reduceCtorEq, false_and, exists_false]
  | some ipType => simp only [Except.ok.injEq, Option.some.injEq, exists_eq_left',
      @eq_comm NasAclFilter _ f']

theorem setIpFragFilterVal_ok {p : Platform} :
    setIpFragFilterVal p l f = .ok f' ↔ ∃ data, vectorAt l 0 = .ok data ∧
      ∃ ipFrag, p.ipFrags.decode data.u32 = some ipFrag ∧ f' = f.setValues (.ipFrag ipFrag) := by
  unfold setIpFragFilterVal
  simp only [except_bind_ok]
  refine exists_congr fun data => and_congr_right fun _ => ?_
  cases p.ipFrags.decode data.u32 with
  | none => simp only [reduceCtorEq, false_and, exists_false]
  | some ipFrag => simp only [Except.ok.injEq, Option.some.injEq, exists_eq_left',
      @eq_comm NasAclFilter _ f']

theorem setFilterIfindexList_type (set : setFilterIfindexList l f = .ok f') :
    f'.filterType = f.filterType := by
  cases set
  rfl

theorem setFilterIfindex_ok {p : Platform} :
    setFilterIfindex p l f = .ok f' ↔ ∃ data, vectorAt l 0 = .ok data ∧
      ∃ port, utlIfidxToNdiPort p data.ifindex = .ok port ∧
      f' = { f.setValues (.port port) with ifindexList := f.ifindexList ++ [data.ifindex] } := by
  cases l with
  | nil => simp [setFilterIfindex, throwIf, vectorAt]
  | cons data rest =>
      simp only [setFilterIfindex, except_bind_ok, throwIf_ok, List.length_cons, exists_const,
        Except.ok.injEq, @eq_comm NasAclFilter _ f']
      exact ⟨fun ⟨_, set⟩ => set, fun set => ⟨by omega, set⟩⟩

end NasAclFilter

open NasAclFilter in
/-- No accessor changes the type of a filter. -/
theorem filterMap_setFn_type {p : Platform} {t : MatchType} {f f' : NasAclFilter}
    {l : List CommonData} (set : (filterMap p t).setFn l f = .ok f') :
    f'.filterType = f.filterType := by
  cases t
  case srcIpv6 | dstIpv6 | srcMac | dstMac | srcIp | dstIp => exact setBytesFilterVal_type set
  case inPorts | outPorts => exact setFilterIfindexList_type set
  case inPort | outPort =>
    obtain ⟨data, -, port, -, rfl⟩ := setFilterIfindex_ok.mp set
    rfl
  case ipType =>
    obtain ⟨data, -, ipType, -, rfl⟩ := setIpTypeFilterVal_ok.mp set
    rfl
  case ipFrag =>
    obtain ⟨data, -, ipFrag, -, rfl⟩ := setIpFragFilterVal_ok.mp set
    rfl
  all_goals exact setScalarFilterVal_type set

/-! ## Reading -/

theorem filterMap_hasValue (p : Platform) (t : MatchType) :
    (filterMap p t).val.dataType ≠ .none := by
  cases t <;> exact DataType.noConfusion

theorem readFilter_ok {p : Platform} {obj : List CpsAttr} {v : UInt32} {path : List AttrId}
    {f : NasAclFilter} :
    readFilter p obj v path = .ok f ↔ ∃ t, p.matchTypes.decode v = some t ∧
      ∃ l, copyDataFromObj p obj path (filterMap p t).val (filterMap p t).childList
        (filterMap p t).name = .ok l ∧ (filterMap p t).setFn l (.new t) = .ok f := by
  unfold readFilter
  cases p.matchTypes.decode v with
  | none => simp only [reduceCtorEq, false_and, exists_false]
  | some t =>
      simp only [filterMap_hasValue, ne_eq, not_false_eq_true, if_true, except_bind_ok,
        Option.some.injEq, exists_eq_left']

theorem readFilter_type {p : Platform} {obj : List CpsAttr} {v : UInt32} {path : List AttrId}
    {f : NasAclFilter} (read : readFilter p obj v path = .ok f) :
    p.matchTypes.decode v = some f.filterType := by
  obtain ⟨t, named, l, -, set⟩ := readFilter_ok.mp read
  rw [filterMap_setFn_type set]
  exact named

/-- The filter of a single port has a port. -/
theorem readFilter_inPort {p : Platform} {obj : List CpsAttr} {v : UInt32} {path : List AttrId}
    {f : NasAclFilter} (read : readFilter p obj v path = .ok f)
    (inPort : f.filterType = .inPort) : f.ifindexList ≠ [] := by
  obtain ⟨t, -, l, -, set⟩ := readFilter_ok.mp read
  have same : t = .inPort := (filterMap_setFn_type set).symm.trans inPort
  subst same
  obtain ⟨data, -, port, -, rfl⟩ := NasAclFilter.setFilterIfindex_ok.mp set
  exact List.append_ne_nil_of_right_ne_nil _ (List.cons_ne_nil _ _)

end SonicNasAcl
