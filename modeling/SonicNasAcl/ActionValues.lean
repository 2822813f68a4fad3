/-
# ActionValues -- the NDI values of an action

`copy_action_ndi` turns an action into at most one NDI action for an NPU: its ports that lie
there, the id its object has there, or the ids of its objects.

* `Built.kinds`: a built action is a list of ports, a port, an object, a counter, a list of
  objects, or has a value of its own;
* `ndiCopyObjIdList_some`: the ids that are found lead an array as long as the table of
  objects, and the count is that of the table;
* `copies_own_values_iff`: so the value is the NPU's own exactly when, for a list of objects,
  all of them have an id on the NPU or none has.
-/
import SonicNasAcl.ActionChanges

namespace SonicNasAcl

set_option autoImplicit false

open Lib

namespace NasAclAction

variable {p : Platform} {a : NasAclAction} {npuId : NpuId}

/-! ## Built actions -/

/-- A value that is the same on every NPU. -/
def PlainValue : NdiActionValue → Prop
  | .objId _ | .objIdList .. | .port _ | .portlist _ => False
  | _ => True

/-- The kinds of a built action, by the value it carries.  A LAG is an object. -/
inductive Kind (p : Platform) (a : NasAclAction) : Prop where
  | portList (type : a.actionType.IsPortList) (value : a.aInfo.values = .portlist [])
  | port (type : a.actionType = .redirectPort) (i : IfIndex) (q : NdiPort)
      (listed : a.ifindexList = [i]) (known : utlIfidxToNdiPort p i = .ok q)
      (value : a.aInfo.values = .port q)
  | object (type : a.actionType ∈ [.redirectPort, .redirectIpNexthop, .setPolicer, .setCpuQueue])
      (value : a.aInfo.values = .objId 0)
  | counter (type : a.actionType = .setCounter) (value : a.aInfo.values = .objId 0)
  | objectList (type : a.actionType.IsObjectList) (value : a.aInfo.values = .objIdList 0 [])
  | other (type : ¬ a.actionType.IsObjectList) (value : PlainValue a.aInfo.values)

theorem Built.kinds (built : a.Built p) : a.Kind p := by
  unfold Built at built
  generalize named : a.actionType = t at built
  cases t
  case egressMask | redirectPortList =>
    obtain ⟨l, set⟩ := built
    obtain ⟨ports, made⟩ := setActionIfindexList_ok set
    exact .portList (by rw [named]; decide) (by rw [made]; rfl)
  case redirectPort =>
    obtain ⟨l, set⟩ := built
    obtain ⟨data, -, ⟨-, ids, -, made⟩ | ⟨-, port, known, made⟩⟩ := setActionIfindex_ok.mp set
    · exact .object (by rw [named]; decide) (by rw [made]; rfl)
    · exact .port named data.ifindex port (by rw [made]; rfl) known (by rw [made]; rfl)
  case redirectIpNexthop | setPolicer | setCpuQueue =>
    obtain ⟨l, set⟩ := built
    refine .object (by rw [named]; decide) ?_
    cases set
    rfl
  case mirrorIngress | mirrorEgress =>
    obtain ⟨l, set⟩ := built
    refine .objectList (by rw [named]; decide) ?_
    cases set
    rfl
  case setCounter =>
    obtain ⟨l, set⟩ := built
    obtain ⟨data, -, made⟩ := setObjIdActionVal_ok.mp set
    exact .counter named (by rw [made]; rfl)
  case flood | decrementTtl =>
    exact .other (by rw [named]; decide)
      (by rw [built]; trivial)
  case packetAction =>
    obtain ⟨l, set⟩ := built
    obtain ⟨data, -, v, -, made⟩ := setPktActionVal_ok.mp set
    exact .other (by rw [named]; decide) (by rw [made]; trivial)
  all_goals
    obtain ⟨l, set⟩ := built
    obtain ⟨data, -, made⟩ := setActionVal_ok.mp set
    exact .other (by rw [named]; decide) (by rw [made]; trivial)

/-! ## Objects on an NPU -/

/-- The ids the objects of the action have on the NPU. -/
def idsOn (a : NasAclAction) (npuId : NpuId) : Multiset NdiObjId :=
  a.nas2ndiOidTbl.keys.val.filterMap fun oid => (a.ndiOidTbl oid).lookup npuId

/-- Every object has an id on the NPU. -/
def AllOn (a : NasAclAction) (npuId : NpuId) : Prop :=
  ∀ oid ∈ a.nas2ndiOidTbl.keys, ((a.ndiOidTbl oid).lookup npuId).isSome = true

/-- No object has an id on the NPU. -/
def NoneOn (a : NasAclAction) (npuId : NpuId) : Prop :=
  ∀ oid ∈ a.nas2ndiOidTbl.keys, (a.ndiOidTbl oid).lookup npuId = none

theorem coe_foundOn : (a.foundOn p.oidOrder npuId : Multiset NdiObjId) = a.idsOn npuId := by
  rw [idsOn, ← p.oidOrder.coe_visit, Multiset.filterMap_coe]
  rfl

theorem foundOn_eq_nil : a.foundOn p.oidOrder npuId = [] ↔ a.NoneOn npuId := by
  simp only [foundOn, NoneOn, List.filterMap_eq_nil_iff, p.oidOrder.mem_visit]

theorem foundOn_length : (a.foundOn p.oidOrder npuId).length
    = (p.oidOrder.visit a.nas2ndiOidTbl.keys).length ↔ a.AllOn npuId := by
  simp only [foundOn, AllOn, List.filterMap_length_eq_length, p.oidOrder.mem_visit]

theorem ndiCopyOneObjId_mem {id : NdiObjId} (found : a.ndiCopyOneObjId p npuId = some id) :
    id ∈ a.idsOn npuId := by
  rw [← coe_foundOn (p := p), Multiset.mem_coe, foundOn, List.mem_filterMap]
  unfold ndiCopyOneObjId at found
  split at found
  · cases found
  · rename_i oid rest visited
    rw [visited]
    exact ⟨oid, List.mem_cons_self .., found⟩

/-! ## What is appended -/

/-- What an action stands for on the NPU: its ports there, the id an object has there, all
the ids its objects have there, or its value.  The id of a counter is filled in later. -/
def Carries (p : Platform) (a : NasAclAction) (npuId : NpuId) (xs : List NdiAction) : Prop :=
  match a.aInfo.values with
  | .portlist _ => ∃ ports, a.portsOn p npuId = some ports ∧
      xs = if ports = [] then [] else [⟨a.actionType, .portlist ports⟩]
  | .port _ => ∃ ports, a.portsOn p npuId = some ports ∧
      xs = ports.map fun q => ⟨a.actionType, .port q⟩
  | .objId _ =>
      if a.isCounter then xs = [a.aInfo]
      else ∃ id ∈ a.idsOn npuId, xs = [⟨a.actionType, .objId id⟩]
  | .objIdList .. => ∃ count list, xs = [⟨a.actionType, .objIdList count list⟩] ∧
      count = Multiset.card (a.idsOn npuId) ∧ (list.take count : Multiset NdiObjId) = a.idsOn npuId
  | _ => xs = [a.aInfo]

/-- The action names objects, other than a counter. -/
def NamesObjects (a : NasAclAction) : Prop :=
  match a.aInfo.values with
  | .objId _ => a.isCounter = false
  | .objIdList .. => True
  | _ => False

/-- A copy that returns appends at most one element, with the values of the NPU; an action
whose objects are not on the NPU throws. -/
structure CopiesOwnValues (p : Platform) (a : NasAclAction) (npuId : NpuId) : Prop where
  appended : ∀ l b r, a.copyActionNdi p npuId l = .ok (b, r) →
    ∃ xs, r = l ++ xs ∧ xs.length ≤ 1 ∧ a.Carries p npuId xs
  throws : a.NamesObjects → a.NoneOn npuId →
    ∀ l, ∃ errCode errMsg, a.copyActionNdi p npuId l = .error (.base errCode errMsg)

/-! ## Kind by kind -/

theorem copies_portList (value : a.aInfo.values = .portlist []) : a.CopiesOwnValues p npuId where
  appended l b r ran := by
    unfold copyActionNdi at ran
    simp only [value] at ran
    obtain ⟨ports, known, ran⟩ := except_bind_ok.mp ran
    have here : a.portsOn p npuId = some (ports.filter fun q => q.npuId = npuId) := by
      rw [portsOn_eq, known]
      rfl
    unfold Carries
    simp only [value, here, Option.some.injEq, exists_eq_left']
    split at ran
    · rename_i none_
      cases ran
      exact ⟨[], (List.append_nil l).symm, Nat.zero_le 1, by rw [none_, if_pos rfl]⟩
    · rename_i some_
      cases ran
      exact ⟨_, rfl, le_refl 1, by rw [if_neg some_]; rfl⟩
  throws objects := by
    unfold NamesObjects at objects
    simp only [value] at objects

theorem copies_port {i : IfIndex} {q : NdiPort} (listed : a.ifindexList = [i])
    (known : utlIfidxToNdiPort p i = .ok q) (value : a.aInfo.values = .port q) :
    a.CopiesOwnValues p npuId where
  appended l b r ran := by
    have here : a.portsOn p npuId = some (if q.npuId = npuId then [q] else []) := by
      have ports : NasAclFilter.ndiPorts p [i] = .ok [q] := by
        rw [NasAclFilter.ndiPorts, List.mapM_cons, known]
        rfl
      rw [portsOn_eq, listed, ports]
      simp only [Except.toOption, Option.map_some, List.filter_cons, List.filter_nil,
        decide_eq_true_eq]
    unfold copyActionNdi at ran
    unfold Carries
    simp only [value, here, Option.some.injEq, exists_eq_left'] at ran ⊢
    split at ran
    · rename_i elsewhere
      cases ran
      exact ⟨[], (List.append_nil l).symm, Nat.zero_le 1, by rw [if_neg elsewhere]; rfl⟩
    · rename_i there
      cases ran
      exact ⟨_, rfl, le_refl 1, by rw [if_pos (not_not.mp there)]; rfl⟩
  throws objects := by
    unfold NamesObjects at objects
    simp only [value] at objects

theorem copies_counter (type : a.actionType = .setCounter) (value : a.aInfo.values = .objId 0) :
    a.CopiesOwnValues p npuId := by
  have counter : a.isCounter = true := decide_eq_true type
  constructor
  · intro l b r ran
    unfold copyActionNdi at ran
    unfold Carries
    simp only [value, counter, if_true] at ran ⊢
    cases ran
    exact ⟨_, rfl, le_refl 1, by rw [← value]⟩
  · intro objects
    unfold NamesObjects at objects
    simp only [value, counter, reduceCtorEq] at objects

theorem copies_object (counter : a.isCounter = false) (value : a.aInfo.values = .objId 0) :
    a.CopiesOwnValues p npuId := by
  constructor
  · intro l b r ran
    unfold copyActionNdi at ran
    unfold Carries
    simp only [value, counter, Bool.false_eq_true, if_false] at ran ⊢
    split at ran
    · cases ran
    · rename_i id found
      cases ran
      exact ⟨_, rfl, le_refl 1, id, ndiCopyOneObjId_mem found, rfl⟩
  · intro _ none_ l
    unfold copyActionNdi
    simp only [value, counter, Bool.false_eq_true, if_false]
    cases found : a.ndiCopyOneObjId p npuId with
    | none => exact ⟨_, _, rfl⟩
    | some id =>
        have listed := ndiCopyOneObjId_mem found
        rw [← coe_foundOn (p := p), foundOn_eq_nil.mpr none_] at listed
        cases listed

/-- A list of objects has the count of its table: that of the ids found when all are. -/
theorem copies_objectList_iff (value : a.aInfo.values = .objIdList 0 []) :
    a.CopiesOwnValues p npuId ↔ a.AllOn npuId ∨ a.NoneOn npuId := by
  have copied : ∀ v, a.ndiCopyObjIdList p npuId = some v → ∀ l,
      a.copyActionNdi p npuId l = .ok (true, l ++ [{ a.aInfo with values := v }]) := by
    intro v found l
    simp only [copyActionNdi, value, found]
  have throws : a.NoneOn npuId → ∀ l, a.copyActionNdi p npuId l = .error (a.noObjectId npuId) := by
    intro none_ l
    have missing : a.ndiCopyObjIdList p npuId = none := by
      refine Option.eq_none_iff_forall_ne_some.mpr fun v found => ?_
      exact (ndiCopyObjIdList_some.mp found).1 (foundOn_eq_nil.mpr none_)
    simp only [copyActionNdi, value, missing]
  have returns : ¬ a.NoneOn npuId → ∃ v, a.ndiCopyObjIdList p npuId = some v := by
    intro some_
    exact ⟨_, ndiCopyObjIdList_some.mpr ⟨mt foundOn_eq_nil.mp some_, rfl⟩⟩
  constructor
  · rintro ⟨appended, -⟩
    by_cases none_ : a.NoneOn npuId
    · exact .inr none_
    · left
      obtain ⟨v, found⟩ := returns none_
      obtain ⟨xs, rfl, -, carries⟩ := appended [] _ _ (copied v found [])
      obtain ⟨-, rfl⟩ := ndiCopyObjIdList_some.mp found
      unfold Carries at carries
      simp only [value] at carries
      obtain ⟨count, list, one, size, -⟩ := carries
      cases one
      rw [← coe_foundOn (p := p), Multiset.coe_card] at size
      exact foundOn_length.mp size.symm
  · intro case
    refine ⟨fun l b r ran => ?_, fun _ none_ l => ⟨_, _, throws none_ l⟩⟩
    by_cases none_ : a.NoneOn npuId
    · rw [throws none_ l] at ran
      cases ran
    · have all := case.resolve_right none_
      obtain ⟨v, found⟩ := returns none_
      rw [copied v found l] at ran
      cases ran
      obtain ⟨-, rfl⟩ := ndiCopyObjIdList_some.mp found
      refine ⟨_, rfl, le_refl 1, ?_⟩
      unfold Carries
      simp only [value]
      refine ⟨_, _, rfl, ?_, ?_⟩
      · rw [← coe_foundOn (p := p), Multiset.coe_card, foundOn_length.mpr all]
      · rw [← foundOn_length.mpr all, List.take_left', coe_foundOn]
        rfl

theorem copies_other (plain : PlainValue a.aInfo.values) : a.CopiesOwnValues p npuId := by
  constructor
  · intro l b r ran
    unfold copyActionNdi at ran
    unfold Carries
    cases value : a.aInfo.values with
    | objId | objIdList | port | portlist =>
        rw [value] at plain
        cases plain
    | _ =>
        simp only [value] at ran ⊢
        cases ran
        exact ⟨_, rfl, le_refl 1, by rw [← value]⟩
  · intro objects
    unfold NamesObjects at objects
    cases value : a.aInfo.values with
    | objId | objIdList =>
        rw [value] at plain
        cases plain
    | _ => simp only [value] at objects

end NasAclAction

/-- The NDI values of an action are the NPU's own, when all objects of a list of objects have
an id on the NPU, or none has. -/
theorem copies_own_values_iff {p : Platform} {a : NasAclAction} {npuId : NpuId}
    (built : a.Built p) :
    a.CopiesOwnValues p npuId ↔
      (a.actionType.IsObjectList → a.AllOn npuId ∨ a.NoneOn npuId) := by
  cases built.kinds with
  | portList type value =>
      refine iff_of_true (NasAclAction.copies_portList value) fun list => ?_
      rcases List.mem_pair.mp type with type | type <;> rw [type] at list <;>
        exact absurd list (by decide)
  | port type i q listed known value =>
      refine iff_of_true (NasAclAction.copies_port listed known value) fun list => ?_
      rw [type] at list
      exact absurd list (by decide)
  | object type value =>
      have counter : a.isCounter = false := by
        refine decide_eq_false fun counter => ?_
        rw [counter] at type
        exact absurd type (by decide)
      refine iff_of_true (NasAclAction.copies_object counter value) fun list => ?_
      rcases List.mem_pair.mp list with list | list <;> rw [list] at type <;>
        exact absurd type (by decide)
  | counter type value =>
      refine iff_of_true (NasAclAction.copies_counter type value) fun list => ?_
      rw [type] at list
      exact absurd list (by decide)
  | objectList type value =>
      rw [NasAclAction.copies_objectList_iff value]
      exact (imp_iff_right type).symm
  | other type value =>
      exact iff_of_true (NasAclAction.copies_other value) fun list => absurd list type

/-! ### On the bench -/

theorem mirror_copies_own_values :
    (Bench.mirror {0, 1} {0}).CopiesOwnValues Bench.platform 0 := by
  have all : (Bench.mirror {0, 1} {0}).AllOn 0 :=
    (NasAclAction.foundOn_length (p := Bench.platform)).mp (by decide +kernel)
  exact (copies_own_values_iff (Bench.mirror_built _ _)).mpr fun _ => .inl all

/-- Of two objects one is on NPU 0: the count is 2. -/
theorem mirror_miscounts :
    ¬ ∀ (p : Platform) (a : NasAclAction) (npuId : NpuId), a.Built p →
      a.CopiesOwnValues p npuId := by
  intro claim
  have found : (Bench.mirror {0, 1} {1}).foundOn Bench.platform.oidOrder 0 = [9] := by decide +kernel
  have own := claim Bench.platform _ 0 (Bench.mirror_built {0, 1} {1})
  rcases (NasAclAction.copies_objectList_iff rfl).mp own with all | none_
  · have count := (NasAclAction.foundOn_length (p := Bench.platform)).mpr all
    rw [found] at count
    exact absurd count (by decide +kernel)
  · have nothing := (NasAclAction.foundOn_eq_nil (p := Bench.platform)).mpr none_
    rw [found] at nothing
    cases nothing

end SonicNasAcl
