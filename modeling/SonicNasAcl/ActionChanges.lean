/-
# ActionChanges -- which changes of an action the comparison sees

`operator!=` decides which actions of a modified entry are pushed again.  It compares the
store its kind of value lives in: the interfaces of a port, the counter id and the table of
objects, the NDI structure of a scalar.  A port list has no branch of its own and falls to
the NDI structure, where its ports are not.  Tables of objects are compared as tables,
whatever order their objects are walked in, while that is the order they are read back and
handed to the NDI in.

* `Built.eq_of_same`: every other kind is compared on all that makes it up, so that actions
  that compare as equal are the same action;
* `portList_never_differs`: two port lists always compare as equal;
* `sameUse_walks_iff`: one action is used in the same way in two walks exactly when its
  objects are visited in the same order;
* `ne_sees_changes_iff`: so the comparison sees every change of use between two actions
  exactly when they are not port lists of different interfaces and equal tables of theirs are
  walked alike; and the comparison of two action lists reports every action that is translated
  otherwise exactly when the port lists in both have the same ports on every NPU, and equal
  tables give the same ids there.
-/
import SonicNasAcl.Bench
import SonicNasAcl.Ports
import SonicNasAcl.Translation
import SonicNasAcl.Walking

namespace SonicNasAcl

set_option autoImplicit false

open Lib

/-- The actions that name a list of interfaces. -/
abbrev ActionType.IsPortList (t : ActionType) : Prop := t ∈ [.egressMask, .redirectPortList]

/-- The actions that name a list of objects. -/
abbrev ActionType.IsObjectList (t : ActionType) : Prop := t ∈ [.mirrorIngress, .mirrorEgress]

/-- The actions that are read from pairs of an object and its NDI ids. -/
abbrev ActionType.IsObject (t : ActionType) : Prop :=
  t ∈ [.redirectIpNexthop, .setPolicer, .setCpuQueue, .mirrorIngress, .mirrorEgress]

theorem ActionType.IsObject.not_portList {t : ActionType} (object : t.IsObject) :
    ¬ t.IsPortList := by
  revert object
  cases t <;> decide

namespace NasAclAction

variable {p : Platform} {w w' : Walks} {a b : NasAclAction} {t : ActionType}
  {l l' : List CommonData}

/-! ## How an action is used -/

/-- What an action is read back as; `none` when its type has no accessor. -/
def readBack (p : Platform) (a : NasAclAction) : Option (List CommonData) :=
  (actionMap p a.actionType).getFn.map fun getFn => getFn a

/-- What an action is translated to on an NPU; `none` when that fails. -/
def translationOn (p : Platform) (a : NasAclAction) (npuId : NpuId) : Option (List NdiAction) :=
  (a.copyActionNdi p npuId []).toOption.map Prod.snd

/-- The listed ports that lie on an NPU; `none` when an interface is no port. -/
def portsOn (p : Platform) (a : NasAclAction) (npuId : NpuId) : Option (List NdiPort) :=
  if a.ifindexList.all fun i => KnownPort p i then some (portsAt p a.ifindexList npuId) else none

/-- The ids the objects of an action have on the NPU, in the order the objects are visited. -/
def foundOn (order : Traversal NasObjId) (a : NasAclAction) (npuId : NpuId) : List NdiObjId :=
  (order.visit a.nas2ndiOidTbl.keys).filterMap fun oid => (a.ndiOidTbl oid).lookup npuId

/-- The ids an action takes from its table on an NPU: those of all its objects for a list of
objects, else that of the object visited first. -/
def idsTaken (order : Traversal NasObjId) (a : NasAclAction) (npuId : NpuId) : List NdiObjId :=
  if a.actionType.IsObjectList then a.foundOn order npuId
  else ((order.visit a.nas2ndiOidTbl.keys).head?.bind fun oid =>
    (a.ndiOidTbl oid).lookup npuId).toList

/-- Two actions, each in its own walks, read back as the same values and become the same on
every NPU. -/
structure SameUse (p : Platform) (w w' : Walks) (a b : NasAclAction) : Prop where
  values : a.readBack (p.walking w) = b.readBack (p.walking w')
  translations : ∀ npuId,
    a.translationOn (p.walking w) npuId = b.translationOn (p.walking w') npuId

/-- Equal tables of objects are walked alike. -/
def WalkedAlike (w w' : Walks) (a b : NasAclAction) : Prop :=
  a.nas2ndiOidTbl = b.nas2ndiOidTbl →
    w.oidOrder.visit a.nas2ndiOidTbl.keys = w'.oidOrder.visit b.nas2ndiOidTbl.keys

theorem portsOn_eq (npuId : NpuId) : a.portsOn p npuId =
    (NasAclFilter.ndiPorts p a.ifindexList).toOption.map fun ports =>
      ports.filter fun q => q.npuId = npuId := by
  have all_known : (a.ifindexList.all fun i => KnownPort p i) ↔ ∀ i ∈ a.ifindexList, KnownPort p i := by
    simp only [List.all_eq_true, decide_eq_true_eq]
  unfold portsOn
  by_cases known : ∀ i ∈ a.ifindexList, KnownPort p i
  · rw [if_pos (all_known.mpr known), ndiPorts_ok.mpr ⟨known, rfl⟩]
    rfl
  · rw [if_neg fun all => known (all_known.mp all)]
    cases ports : NasAclFilter.ndiPorts p a.ifindexList with
    | error err => rfl
    | ok l => exact absurd (ndiPorts_ok.mp ports).1 known

/-! ## The comparison -/

/-- What `operator!=` compares of two actions of one type. -/
def Agrees (a b : NasAclAction) : Prop :=
  match a.aInfo.values with
  | .port _ => a.ifindexList = b.ifindexList
  | .objId _ => a.nasOid = b.nasOid ∧ a.nas2ndiOidTbl = b.nas2ndiOidTbl
  | .objIdList .. => a.nas2ndiOidTbl = b.nas2ndiOidTbl
  | .noValue => True
  | _ => a.aInfo = b.aInfo

theorem ne_eq_false : a.ne b = false ↔ a.actionType = b.actionType ∧ a.Agrees b := by
  unfold ne Agrees
  by_cases same : a.actionType = b.actionType
  · rw [if_neg (not_not.mpr same), and_iff_right same]
    cases a.aInfo.values <;> simp only [decide_eq_false_iff_not, ne_eq, not_or, not_not]
  · rw [if_pos same]
    exact iff_of_false nofun fun both => same both.1

/-! ## Built actions -/

theorem setActionVal_ok {member : CommonData → NdiActionValue} :
    setActionVal member l a = .ok b ↔
      ∃ data, vectorAt l 0 = .ok data ∧ b = a.setValues (member data) := by
  simp only [setActionVal, except_bind_ok, Except.ok.injEq, @eq_comm NasAclAction _ b]

theorem setObjIdActionVal_ok :
    setObjIdActionVal l a = .ok b ↔
      ∃ data, vectorAt l 0 = .ok data ∧ b = { a.setValues (.objId 0) with nasOid := data.objId } := by
  simp only [setObjIdActionVal, except_bind_ok, Except.ok.injEq, @eq_comm NasAclAction _ b]

theorem setPktActionVal_ok :
    setPktActionVal p l a = .ok b ↔ ∃ data, vectorAt l 0 = .ok data ∧
      ∃ v, p.packetActions.decode data.u32 = some v ∧ b = a.setValues (.pktAction v) := by
  unfold setPktActionVal
  simp only [except_bind_ok]
  refine exists_congr fun data => and_congr_right fun _ => ?_
  cases p.packetActions.decode data.u32 with
  | none => simp only [reduceCtorEq, false_and, exists_false]
  | some v => simp only [Except.ok.injEq, Option.some.injEq, exists_eq_left',
      @eq_comm NasAclAction _ b]

/-- A single interface is a LAG, kept as an object, or a port. -/
theorem setActionIfindex_ok :
    setActionIfindex p l a = .ok b ↔ ∃ data, vectorAt l 0 = .ok data ∧
      ((utlIsIfidxTypeLag p data.ifindex = .ok true ∧
          ∃ ids, p.lagGetNdiIds data.ifindex = some ids ∧
            b = { a.setValues (.objId 0) with
              ifindexList := a.ifindexList ++ [data.ifindex]
              nas2ndiOidTbl := a.nas2ndiOidTbl.insert data.ifindex.toUInt64 ids }) ∨
        (utlIsIfidxTypeLag p data.ifindex = .ok false ∧
          ∃ port, utlIfidxToNdiPort p data.ifindex = .ok port ∧
            b = { a.setValues (.port port) with
              ifindexList := a.ifindexList ++ [data.ifindex] })) := by
  unfold setActionIfindex
  simp only [except_bind_ok]
  refine exists_congr fun data => and_congr_right fun _ => ?_
  cases utlIsIfidxTypeLag p data.ifindex with
  | error e => simp only [reduceCtorEq, false_and, exists_false, or_self]
  | ok lag =>
      cases lag with
      | true =>
          simp only [Except.ok.injEq, exists_eq_left', if_true, true_and, reduceCtorEq, false_and,
            or_false]
          cases p.lagGetNdiIds data.ifindex with
          | none => simp only [reduceCtorEq, false_and, exists_false]
          | some ids =>
              simp only [Option.some.injEq, exists_eq_left', Except.ok.injEq,
                @eq_comm NasAclAction _ b]
              rfl
      | false =>
          simp only [Except.ok.injEq, exists_eq_left', Bool.false_eq_true, if_false, false_and,
            false_or, true_and, except_bind_ok, @eq_comm NasAclAction _ b]
          rfl

theorem setActionIfindexList_ok :
    setActionIfindexList p l a = .ok b → ∃ ports,
      b = { a.setValues (.portlist []) with ifindexList := a.ifindexList ++ ports } := by
  intro set
  obtain ⟨ports, -, set⟩ := except_bind_ok.mp set
  cases set
  exact ⟨ports, rfl⟩

/-- Scalars and addresses that compare as equal are the same. -/
theorem scalar_eq_of_same {v v' : NdiActionValue} (made : a = (new t).setValues v)
    (made' : b = (new t).setValues v') (compared : a.Agrees b → a.aInfo = b.aInfo)
    (same : a.ne b = false) : a = b := by
  have value := compared (ne_eq_false.mp same).2
  subst made
  subst made'
  exact congrArg (fun i => NasAclAction.mk i [] 0 ∅) value

/-- Redirects to one interface that compare as equal are the same: a port and a LAG are
told apart by the table, and two LAGs by its keys. -/
theorem ifindex_eq_of_same (set : setActionIfindex p l (.new t) = .ok a)
    (set' : setActionIfindex p l' (.new t) = .ok b) (same : a.ne b = false) : a = b := by
  have compared := (ne_eq_false.mp same).2
  obtain ⟨data, -, ⟨lag, ids, known, rfl⟩ | ⟨notLag, port, known, rfl⟩⟩ :=
    setActionIfindex_ok.mp set
  · have held : data.ifindex.toUInt64 ∈ (∅ : Nas2NdiOidTbl).insert data.ifindex.toUInt64 ids :=
      Finmap.mem_insert.mpr (.inl rfl)
    obtain ⟨data', -, ⟨lag', ids', known', rfl⟩ | ⟨notLag', port', known', rfl⟩⟩ :=
      setActionIfindex_ok.mp set'
    · have tables : (∅ : Nas2NdiOidTbl).insert data.ifindex.toUInt64 ids
          = (∅ : Nas2NdiOidTbl).insert data'.ifindex.toUInt64 ids' := compared.2
      rw [tables] at held
      rcases Finmap.mem_insert.mp held with key | none_
      · have interface : data.ifindex = data'.ifindex := UInt32.toUInt64_inj.mp key
        rw [interface, known'] at known
        cases known
        rw [interface]
      · exact absurd none_ Finmap.notMem_empty
    · have tables : (∅ : Nas2NdiOidTbl).insert data.ifindex.toUInt64 ids = ∅ := compared.2
      rw [tables] at held
      exact absurd held Finmap.notMem_empty
  · obtain ⟨data', -, ⟨lag', ids', known', rfl⟩ | ⟨notLag', port', known', rfl⟩⟩ :=
      setActionIfindex_ok.mp set'
    · have interface : data.ifindex = data'.ifindex := (List.cons.inj compared).1
      rw [interface, lag'] at notLag
      cases notLag
    · have interface : data.ifindex = data'.ifindex := (List.cons.inj compared).1
      rw [interface, known'] at known
      cases known
      rw [interface]

/-- Built actions that compare as equal are the same, unless they are port lists. -/
theorem Built.eq_of_same (built : a.Built p) (built' : b.Built p)
    (other : ¬ a.actionType.IsPortList) (same : a.ne b = false) : a = b := by
  have type := (ne_eq_false.mp same).1
  unfold Built at built built'
  rw [← type] at built'
  generalize a.actionType = t at built built' other
  cases t
  case egressMask | redirectPortList => exact absurd (by decide) other
  case flood | decrementTtl => exact built.trans built'.symm
  case redirectPort =>
    obtain ⟨l, set⟩ := built
    obtain ⟨l', set'⟩ := built'
    exact ifindex_eq_of_same set set' same
  case setCounter =>
    obtain ⟨l, set⟩ := built
    obtain ⟨l', set'⟩ := built'
    obtain ⟨data, -, rfl⟩ := setObjIdActionVal_ok.mp set
    obtain ⟨data', -, rfl⟩ := setObjIdActionVal_ok.mp set'
    have counter : data.objId = data'.objId := (ne_eq_false.mp same).2.1
    rw [counter]
  case redirectIpNexthop | setPolicer | setCpuQueue | mirrorIngress | mirrorEgress =>
    obtain ⟨l, set⟩ := built
    obtain ⟨l', set'⟩ := built'
    cases set
    cases set'
    have tables := (ne_eq_false.mp same).2
    simp only [Agrees, setValues, true_and] at tables
    rw [tables]
  case packetAction =>
    obtain ⟨l, set⟩ := built
    obtain ⟨l', set'⟩ := built'
    obtain ⟨data, -, v, -, rfl⟩ := setPktActionVal_ok.mp set
    obtain ⟨data', -, v', -, rfl⟩ := setPktActionVal_ok.mp set'
    exact scalar_eq_of_same rfl rfl id same
  all_goals
    obtain ⟨l, set⟩ := built
    obtain ⟨l', set'⟩ := built'
    obtain ⟨data, -, made⟩ := setActionVal_ok.mp set
    obtain ⟨data', -, made'⟩ := setActionVal_ok.mp set'
    exact scalar_eq_of_same made made' (by rw [made]; exact id) same

/-! ## Port lists -/

/-- A port list is its interfaces and nothing else. -/
theorem Built.portList (built : a.Built p) (list : a.actionType.IsPortList) :
    a = ⟨⟨a.actionType, .portlist []⟩, a.ifindexList, 0, ∅⟩ := by
  have set : ∃ l, setActionIfindexList p l (.new a.actionType) = .ok a := by
    unfold Built at built
    rcases List.mem_pair.mp list with type | type <;> rw [type] at built ⊢ <;> exact built
  obtain ⟨l, set⟩ := set
  obtain ⟨ports, made⟩ := setActionIfindexList_ok set
  have listed : a.ifindexList = ports := congrArg NasAclAction.ifindexList made
  rw [listed]
  exact made

/-- Two port lists always compare as equal. -/
theorem portList_never_differs (built : a.Built p) (built' : b.Built p)
    (type : a.actionType = b.actionType) (list : a.actionType.IsPortList) : a.ne b = false := by
  have made := built.portList list
  have made' := built'.portList (type ▸ list)
  rw [ne_eq_false]
  refine ⟨type, ?_⟩
  rw [made, made']
  exact congrArg (fun t => NdiAction.mk t (.portlist [])) type

/-- A port list becomes the listed ports of the NPU, and nothing when there are none. -/
theorem translationOn_portList (built : a.Built p) (list : a.actionType.IsPortList)
    (npuId : NpuId) :
    a.translationOn (p.walking w) npuId = (a.portsOn p npuId).map fun ports =>
      if ports = [] then [] else [⟨a.actionType, .portlist ports⟩] := by
  have value : a.aInfo.values = .portlist [] := by
    rw [built.portList list]
  have ports : NasAclFilter.ndiPorts (p.walking w) = NasAclFilter.ndiPorts p := rfl
  rw [portsOn_eq]
  unfold translationOn copyActionNdi
  simp only [value, ports]
  cases NasAclFilter.ndiPorts p a.ifindexList with
  | error e => rfl
  | ok ports =>
      simp only [except_ok_bind, Except.toOption, Option.map_some]
      cases here : ports.filter fun q => q.npuId = npuId with
      | nil => rfl
      | cons q rest => rfl

/-- Port lists are translated alike exactly when their ports on the NPU are the same. -/
theorem translationOn_portList_eq_iff (built : a.Built p) (built' : b.Built p)
    (type : a.actionType = b.actionType) (list : a.actionType.IsPortList) (npuId : NpuId) :
    a.translationOn (p.walking w) npuId = b.translationOn (p.walking w') npuId ↔
      a.portsOn p npuId = b.portsOn p npuId := by
  rw [translationOn_portList built list, translationOn_portList built' (type ▸ list), ← type]
  constructor
  · intro same
    refine Option.map_injective ?_ same
    intro ports ports' alike
    by_cases none_ : ports = []
    · by_cases none_' : ports' = []
      · rw [none_, none_']
      · simp only [none_, none_', if_true, if_false] at alike
        cases alike
    · by_cases none_' : ports' = []
      · simp only [none_, none_', if_true, if_false] at alike
        cases alike
      · simp only [none_, none_', if_false] at alike
        cases alike
        rfl
  · intro same
    rw [same]

/-- Port lists are used in the same way exactly when they name the same interfaces. -/
theorem sameUse_portList_iff (built : a.Built p) (built' : b.Built p)
    (type : a.actionType = b.actionType) (list : a.actionType.IsPortList) :
    a.SameUse p w w' b ↔ a.ifindexList = b.ifindexList := by
  constructor
  · rintro ⟨values, -⟩
    have accessor {q : Platform} {c : NasAclAction} (list : c.actionType.IsPortList) :
        c.readBack q = some c.getActionIfindexList := by
      unfold readBack
      rcases List.mem_pair.mp list with here | here <;> rw [here] <;> rfl
    rw [accessor list, accessor (type ▸ list), Option.some.injEq] at values
    unfold getActionIfindexList at values
    by_cases none_ : a.ifindexList = []
    · by_cases none_' : b.ifindexList = []
      · rw [none_, none_']
      · simp [none_, none_'] at values
    · by_cases none_' : b.ifindexList = []
      · simp [none_, none_'] at values
      · simpa [none_, none_'] using values
  · intro same
    have equal : a = b := by
      rw [built.portList list, built'.portList (type ▸ list), type, same]
    subst equal
    refine ⟨?_, fun npuId => ?_⟩
    · unfold readBack
      rcases List.mem_pair.mp list with here | here <;> rw [here] <;> rfl
    · rw [translationOn_portList built list, translationOn_portList built list]

/-! ## Tables of objects -/

/-- An action that is read from objects is its table and nothing else. -/
theorem Built.object (built : a.Built p) (object : a.actionType.IsObject) :
    a = ⟨⟨a.actionType, if a.actionType.IsObjectList then .objIdList 0 [] else .objId 0⟩, [], 0,
      a.nas2ndiOidTbl⟩ := by
  unfold Built at built
  generalize named : a.actionType = t at built object
  cases t
  case redirectIpNexthop | setPolicer | setCpuQueue | mirrorIngress | mirrorEgress =>
    obtain ⟨l, set⟩ := built
    cases set
    rfl
  all_goals exact absurd object (by decide)

/-- An action of another kind has one object at most, its LAG. -/
theorem Built.few_objects (built : a.Built p) (other : ¬ a.actionType.IsObject) :
    a.nas2ndiOidTbl.keys.card ≤ 1 := by
  have bare {c : NasAclAction} (empty : c.nas2ndiOidTbl = ∅) :
      c.nas2ndiOidTbl.keys.card ≤ 1 := by
    rw [empty, Finmap.keys_empty, Finset.card_empty]
    exact Nat.zero_le 1
  unfold Built at built
  generalize a.actionType = t at built other
  cases t
  case redirectIpNexthop | setPolicer | setCpuQueue | mirrorIngress | mirrorEgress =>
    exact absurd (by decide) other
  case flood | decrementTtl => exact bare (congrArg nas2ndiOidTbl built)
  case egressMask | redirectPortList =>
    obtain ⟨l, set⟩ := built
    obtain ⟨ports, made⟩ := setActionIfindexList_ok set
    exact bare (congrArg nas2ndiOidTbl made)
  case redirectPort =>
    obtain ⟨l, set⟩ := built
    obtain ⟨data, -, ⟨-, ids, -, rfl⟩ | ⟨-, port, -, made⟩⟩ := setActionIfindex_ok.mp set
    · change ((∅ : Nas2NdiOidTbl).insert data.ifindex.toUInt64 ids).keys.card ≤ 1
      rw [keys_insert_empty, Finset.card_singleton]
    · exact bare (congrArg nas2ndiOidTbl made)
  case setCounter =>
    obtain ⟨l, set⟩ := built
    obtain ⟨data, -, made⟩ := setObjIdActionVal_ok.mp set
    exact bare (congrArg nas2ndiOidTbl made)
  case packetAction =>
    obtain ⟨l, set⟩ := built
    obtain ⟨data, -, v, -, made⟩ := setPktActionVal_ok.mp set
    exact bare (congrArg nas2ndiOidTbl made)
  all_goals
    obtain ⟨l, set⟩ := built
    obtain ⟨data, -, made⟩ := setActionVal_ok.mp set
    exact bare (congrArg nas2ndiOidTbl made)

/-- Actions that are read from equal tables of objects compare as equal. -/
theorem object_never_differs (built : a.Built p) (built' : b.Built p)
    (type : a.actionType = b.actionType) (object : a.actionType.IsObject)
    (tables : a.nas2ndiOidTbl = b.nas2ndiOidTbl) : a.ne b = false := by
  have equal : a = b := by
    rw [built.object object, built'.object (type ▸ object), type, tables]
  subst equal
  rw [ne_eq_false]
  refine ⟨rfl, ?_⟩
  unfold Agrees
  cases a.aInfo.values <;> simp only [and_self]

/-- The objects can be told from their pairs. -/
theorem objects_of_pairs {values : NasObjId → NdiObjIdTable} {oids oids' : List NasObjId}
    (same : (oids.flatMap fun oid => [CommonData.ofObjId oid, { ndiObjIdTable := values oid }])
      = oids'.flatMap fun oid => [CommonData.ofObjId oid, { ndiObjIdTable := values oid }]) :
    oids = oids' := by
  induction oids generalizing oids' with
  | nil =>
      cases oids' with
      | nil => rfl
      | cons oid' rest' => cases same
  | cons oid rest ih =>
      cases oids' with
      | nil => cases same
      | cons oid' rest' =>
          simp only [List.flatMap_cons, List.cons_append, List.nil_append, List.cons.injEq] at same
          have here : oid = oid' := congrArg CommonData.objId same.1
          rw [here, ih same.2.2]

theorem readBack_object (object : a.actionType.IsObject) :
    a.readBack p = some (a.getOpaqueDataActionVal p) := by
  unfold readBack
  generalize a.actionType = t at object
  cases t
  case redirectIpNexthop | setPolicer | setCpuQueue | mirrorIngress | mirrorEgress => rfl
  all_goals exact absurd object (by decide)

/-- No other accessor walks a map. -/
theorem readBack_walking (other : ¬ a.actionType.IsObject) :
    a.readBack (p.walking w) = a.readBack p := by
  unfold readBack
  generalize a.actionType = t at other
  cases t
  case redirectIpNexthop | setPolicer | setCpuQueue | mirrorIngress | mirrorEgress =>
    exact absurd (by decide) other
  all_goals rfl

theorem copyActionNdi_of_visit {npuId : NpuId} {xs : List NdiAction}
    (same : w.oidOrder.visit a.nas2ndiOidTbl.keys = w'.oidOrder.visit a.nas2ndiOidTbl.keys) :
    a.copyActionNdi (p.walking w) npuId xs = a.copyActionNdi (p.walking w') npuId xs := by
  have visited : (p.walking w).oidOrder.visit a.nas2ndiOidTbl.keys
      = (p.walking w').oidOrder.visit a.nas2ndiOidTbl.keys := same
  have one : a.ndiCopyOneObjId (p.walking w) npuId = a.ndiCopyOneObjId (p.walking w') npuId := by
    unfold ndiCopyOneObjId
    rw [visited]
  have all : a.ndiCopyObjIdList (p.walking w) npuId = a.ndiCopyObjIdList (p.walking w') npuId := by
    unfold ndiCopyObjIdList
    rw [visited]
  unfold copyActionNdi
  rw [one, all]
  rfl

/-- An action is used in the same way in two walks exactly when its objects are visited in
the same order. -/
theorem sameUse_walks_iff (built : a.Built p) : a.SameUse p w w' a ↔
    w.oidOrder.visit a.nas2ndiOidTbl.keys = w'.oidOrder.visit a.nas2ndiOidTbl.keys := by
  constructor
  · intro use
    by_cases object : a.actionType.IsObject
    · have values := use.values
      rw [readBack_object object, readBack_object object, Option.some.injEq] at values
      exact objects_of_pairs values
    · exact Traversal.visit_small _ _ (built.few_objects object)
  · intro same
    refine ⟨?_, fun npuId => ?_⟩
    · by_cases object : a.actionType.IsObject
      · rw [readBack_object object, readBack_object object]
        have visited : (p.walking w).oidOrder.visit a.nas2ndiOidTbl.keys
            = (p.walking w').oidOrder.visit a.nas2ndiOidTbl.keys := same
        unfold getOpaqueDataActionVal
        rw [visited]
      · rw [readBack_walking object, readBack_walking object]
    · unfold translationOn
      rw [copyActionNdi_of_visit same]

/-! ### The ids that are taken -/

theorem ndiCopyObjIdList_eq (npuId : NpuId) : a.ndiCopyObjIdList p npuId =
    if a.foundOn p.oidOrder npuId = [] then none
    else some (.objIdList (p.oidOrder.visit a.nas2ndiOidTbl.keys).length
      (a.foundOn p.oidOrder npuId ++
        List.replicate ((p.oidOrder.visit a.nas2ndiOidTbl.keys).length
          - (a.foundOn p.oidOrder npuId).length) 0)) := rfl

theorem ndiCopyObjIdList_some {npuId : NpuId} {v : NdiActionValue} :
    a.ndiCopyObjIdList p npuId = some v ↔
    a.foundOn p.oidOrder npuId ≠ [] ∧
      v = .objIdList (p.oidOrder.visit a.nas2ndiOidTbl.keys).length (a.foundOn p.oidOrder npuId ++
        List.replicate ((p.oidOrder.visit a.nas2ndiOidTbl.keys).length
          - (a.foundOn p.oidOrder npuId).length) 0) := by
  rw [ndiCopyObjIdList_eq]
  by_cases none_ : a.foundOn p.oidOrder npuId = []
  · rw [if_pos none_]
    exact iff_of_false nofun fun both => both.1 none_
  · rw [if_neg none_, Option.some.injEq, eq_comm]
    exact (and_iff_right none_).symm

/-- The walk decides on the order of the ids, not on which they are. -/
theorem foundOn_perm (o o' : Traversal NasObjId) (npuId : NpuId) :
    (a.foundOn o npuId).Perm (a.foundOn o' npuId) := by
  refine List.Perm.filterMap _ (Multiset.coe_eq_coe.mp ?_)
  rw [o.coe_visit, o'.coe_visit]

theorem ndiCopyOneObjId_eq (npuId : NpuId) : a.ndiCopyOneObjId p npuId =
    (p.oidOrder.visit a.nas2ndiOidTbl.keys).head?.bind fun oid =>
      (a.ndiOidTbl oid).lookup npuId := by
  unfold ndiCopyOneObjId
  cases p.oidOrder.visit a.nas2ndiOidTbl.keys <;> rfl

theorem translationOn_objectList (value : a.aInfo.values = .objIdList 0 []) (npuId : NpuId) :
    a.translationOn p npuId = (a.ndiCopyObjIdList p npuId).map fun v => [⟨a.actionType, v⟩] := by
  unfold translationOn copyActionNdi
  simp only [value]
  cases a.ndiCopyObjIdList p npuId with
  | none => rfl
  | some v => rfl

theorem translationOn_object (value : a.aInfo.values = .objId 0) (counter : a.isCounter = false)
    (npuId : NpuId) : a.translationOn p npuId =
      (a.ndiCopyOneObjId p npuId).map fun id => [⟨a.actionType, .objId id⟩] := by
  unfold translationOn copyActionNdi
  simp only [value, counter, Bool.false_eq_true, if_false]
  cases a.ndiCopyOneObjId p npuId with
  | none => rfl
  | some id => rfl

/-- A list of objects fills as many slots in every walk, so the ids that lead it are told
apart. -/
theorem ndiCopyObjIdList_walks_iff (npuId : NpuId) :
    a.ndiCopyObjIdList (p.walking w) npuId = a.ndiCopyObjIdList (p.walking w') npuId ↔
      a.foundOn w.oidOrder npuId = a.foundOn w'.oidOrder npuId := by
  have perm : (a.foundOn w.oidOrder npuId).Perm (a.foundOn w'.oidOrder npuId) :=
    foundOn_perm _ _ npuId
  constructor
  · intro same
    cases copied : a.ndiCopyObjIdList (p.walking w) npuId with
    | none =>
        have nothing : a.foundOn w.oidOrder npuId = [] := by
          by_contra some_
          rw [ndiCopyObjIdList_some.mpr ⟨some_, rfl⟩] at copied
          cases copied
        rw [nothing] at perm ⊢
        exact perm.nil_eq
    | some v =>
        obtain ⟨-, made⟩ := ndiCopyObjIdList_some.mp copied
        obtain ⟨-, made'⟩ := ndiCopyObjIdList_some.mp (same ▸ copied)
        rw [made] at made'
        injection made' with _ ids
        exact List.append_inj_left ids perm.length_eq
  · intro same
    have size : (w.oidOrder.visit a.nas2ndiOidTbl.keys).length
        = (w'.oidOrder.visit a.nas2ndiOidTbl.keys).length := by
      refine (Multiset.coe_eq_coe.mp ?_).length_eq
      rw [w.oidOrder.coe_visit, w'.oidOrder.coe_visit]
    have found : a.foundOn (p.walking w).oidOrder npuId = a.foundOn (p.walking w').oidOrder npuId :=
      same
    have slots : ((p.walking w).oidOrder.visit a.nas2ndiOidTbl.keys).length
        = ((p.walking w').oidOrder.visit a.nas2ndiOidTbl.keys).length := size
    rw [ndiCopyObjIdList_eq, ndiCopyObjIdList_eq, found, slots]

theorem toList_injective {α : Type} : Function.Injective fun x : Option α => x.toList := by
  intro x y same
  cases x <;> cases y <;> cases same <;> rfl

/-- Equal tables are translated alike exactly when the same ids are taken from them. -/
theorem translationOn_walks_iff (built : a.Built p) (npuId : NpuId) :
    a.translationOn (p.walking w) npuId = a.translationOn (p.walking w') npuId ↔
      a.idsTaken w.oidOrder npuId = a.idsTaken w'.oidOrder npuId := by
  by_cases object : a.actionType.IsObject
  · have made := built.object object
    by_cases list : a.actionType.IsObjectList
    · rw [if_pos list] at made
      have value : a.aInfo.values = .objIdList 0 [] := by rw [made]
      unfold idsTaken
      rw [translationOn_objectList value, translationOn_objectList value, if_pos list, if_pos list,
        ← ndiCopyObjIdList_walks_iff (p := p)]
      refine Function.Injective.eq_iff (Option.map_injective fun v v' same => ?_)
      cases same
      rfl
    · rw [if_neg list] at made
      have value : a.aInfo.values = .objId 0 := by rw [made]
      have counter : a.isCounter = false := by
        refine decide_eq_false fun type => ?_
        rw [type] at object
        exact absurd object (by decide)
      unfold idsTaken
      rw [translationOn_object value counter, translationOn_object value counter, if_neg list,
        if_neg list, ndiCopyOneObjId_eq, ndiCopyOneObjId_eq]
      refine (Function.Injective.eq_iff (Option.map_injective fun id id' same => ?_)).trans
        (Function.Injective.eq_iff toList_injective).symm
      cases same
      rfl
  · have visited := Traversal.visit_small w'.oidOrder w.oidOrder (built.few_objects object)
    refine iff_of_true ?_ ?_
    · unfold translationOn
      rw [copyActionNdi_of_visit visited]
    · unfold idsTaken foundOn
      rw [visited]

end NasAclAction

/-! ## Changes -/

section Changes

open NasAclAction

/-- Comparing two action lists reports every type that is translated otherwise on some NPU,
when each action of theirs has its own walks. -/
def ReportsChanges (p : Platform) (w w' : ActionType → Walks)
    (new old : Keyed NasAclAction.actionType) : Prop :=
  ∀ t npuId, (new.find t).map (translationOn (p.walking (w t)) · npuId)
      ≠ (old.find t).map (translationOn (p.walking (w' t)) · npuId) →
    ((Keyed.deleted new old).find t).isSome ∨ ((Keyed.addOrMod ne new old).find t).isSome

/-- The two lists have the same ports on every NPU in each port list that is in both. -/
def SamePortLists (p : Platform) (new old : Keyed NasAclAction.actionType) : Prop :=
  ∀ t : ActionType, t.IsPortList → ∀ a b, new.find t = some a → old.find t = some b →
    ∀ npuId, a.portsOn p npuId = b.portsOn p npuId

/-- Where the two lists have equal tables of objects for a type, the same ids are taken from
both on every NPU. -/
def SameIdsTaken (w w' : ActionType → Walks) (new old : Keyed NasAclAction.actionType) : Prop :=
  ∀ t a b, new.find t = some a → old.find t = some b → a.nas2ndiOidTbl = b.nas2ndiOidTbl →
    ∀ npuId, a.idsTaken (w t).oidOrder npuId = b.idsTaken (w' t).oidOrder npuId

variable {p : Platform} {w w' : ActionType → Walks} {new old : Keyed NasAclAction.actionType}

/-- An action that is in both lists is reported just when it compares as different. -/
theorem reported_iff {t : ActionType} {a b : NasAclAction} (held : new.find t = some a)
    (held' : old.find t = some b) :
    ((Keyed.deleted new old).find t).isSome ∨ ((Keyed.addOrMod ne new old).find t).isSome ↔
      b.ne a = true := by
  constructor
  · rintro (gone | changed)
    · rw [Keyed.isSome_deleted, held] at gone
      cases gone.1
    · obtain ⟨x, found⟩ := Option.isSome_iff_exists.mp changed
      obtain ⟨found, compared⟩ := Keyed.find_addOrMod.mp found
      cases held.symm.trans found
      exact compared b held'
  · intro differs
    have changed : (Keyed.addOrMod ne new old).find t = some a := by
      rw [Keyed.find_addOrMod]
      refine ⟨held, fun y found => ?_⟩
      cases held'.symm.trans found
      exact differs
    rw [changed]
    exact .inr rfl

/-- The comparison of two lists reports every change exactly when their port lists have the
same ports on every NPU, and equal tables give the same ids there. -/
theorem reportsChanges_iff (built : ∀ t a, new.find t = some a → a.Built p)
    (built' : ∀ t a, old.find t = some a → a.Built p) :
    ReportsChanges p w w' new old ↔ SamePortLists p new old ∧ SameIdsTaken w w' new old := by
  constructor
  · intro reports
    have alike {t : ActionType} {a b : NasAclAction} (held : new.find t = some a)
        (held' : old.find t = some b) (unseen : b.ne a = false) (npuId : NpuId) :
        a.translationOn (p.walking (w t)) npuId = b.translationOn (p.walking (w' t)) npuId := by
      by_contra differ
      have reported := reports t npuId (by
        rw [held, held']
        exact fun same => differ (Option.some.inj same))
      rw [(reported_iff held held').mp reported] at unseen
      cases unseen
    refine ⟨fun t list a b held held' npuId => ?_, fun t a b held held' tables npuId => ?_⟩
    · have type : a.actionType = t := new.keyed t a held
      have type' : b.actionType = t := old.keyed t b held'
      have unseen := portList_never_differs (built' t b held') (built t a held)
        (type'.trans type.symm) (type' ▸ list)
      exact (translationOn_portList_eq_iff (built t a held) (built' t b held')
        (type.trans type'.symm) (type ▸ list) npuId).mp (alike held held' unseen npuId)
    · have type : a.actionType = t := new.keyed t a held
      have type' : b.actionType = t := old.keyed t b held'
      by_cases object : t.IsObject
      · have unseen := object_never_differs (built' t b held') (built t a held)
          (type'.trans type.symm) (type' ▸ object) tables.symm
        have equal := (built' t b held').eq_of_same (built t a held)
          (by rw [type']; exact object.not_portList) unseen
        subst equal
        exact (translationOn_walks_iff (built t b held) npuId).mp (alike held held' unseen npuId)
      · unfold idsTaken foundOn ndiOidTbl
        rw [type, type', tables, Traversal.visit_small (w t).oidOrder (w' t).oidOrder
          (tables ▸ (built t a held).few_objects (type.symm ▸ object))]
  · rintro ⟨ports, ids⟩ t npuId differ
    cases held : new.find t with
    | none =>
        cases held' : old.find t with
        | none =>
            rw [held, held'] at differ
            exact absurd rfl differ
        | some b =>
            rw [Keyed.isSome_deleted, held']
            exact .inl ⟨held, rfl⟩
    | some a =>
        cases held' : old.find t with
        | none =>
            have added : (Keyed.addOrMod ne new old).find t = some a := by
              rw [Keyed.find_addOrMod, held']
              exact ⟨held, nofun⟩
            rw [added]
            exact .inr rfl
        | some b =>
            rw [reported_iff held held']
            by_contra unreported
            have unseen := Bool.eq_false_of_not_eq_true unreported
            have type : a.actionType = t := new.keyed t a held
            have type' : b.actionType = t := old.keyed t b held'
            rw [held, held'] at differ
            apply differ
            refine congrArg some ?_
            by_cases list : t.IsPortList
            · exact (translationOn_portList_eq_iff (built t a held) (built' t b held')
                (type.trans type'.symm) (type.symm ▸ list) npuId).mpr
                (ports t list a b held held' npuId)
            · have equal := (built' t b held').eq_of_same (built t a held) (type'.symm ▸ list) unseen
              subst equal
              exact (translationOn_walks_iff (built t b held) npuId).mpr
                (ids t b b held held' rfl npuId)

/-- The comparison sees every change of an action exactly when it is no port list or its
interfaces are the same, and an equal table of objects is walked in the same order; of two
lists it reports every change exactly when the port lists in both have the same ports on every
NPU, and equal tables of objects give the same ids there. -/
theorem ne_sees_changes_iff (p : Platform) :
    (∀ (w w' : Walks) (a b : NasAclAction), a.Built p → b.Built p → a.actionType = b.actionType →
      ((a.ne b = false → a.SameUse p w w' b) ↔
        (a.actionType.IsPortList → a.ifindexList = b.ifindexList) ∧ a.WalkedAlike w w' b)) ∧
    ∀ (w w' : ActionType → Walks) (new old : Keyed NasAclAction.actionType),
      (∀ t a, new.find t = some a → a.Built p) → (∀ t a, old.find t = some a → a.Built p) →
      (ReportsChanges p w w' new old ↔ SamePortLists p new old ∧ SameIdsTaken w w' new old) := by
  refine ⟨fun w w' a b built built' type => ?_, fun w w' new old => reportsChanges_iff⟩
  constructor
  · intro sees
    refine ⟨fun list => ?_, fun tables => ?_⟩
    · exact (sameUse_portList_iff built built' type list).mp
        (sees (portList_never_differs built built' type list))
    · by_cases object : a.actionType.IsObject
      · have unseen := object_never_differs built built' type object tables
        have equal := built.eq_of_same built' (object.not_portList) unseen
        subst equal
        exact (sameUse_walks_iff built).mp (sees unseen)
      · rw [← tables]
        exact Traversal.visit_small _ _ (built.few_objects object)
  · rintro ⟨ports, walked⟩ unseen
    by_cases list : a.actionType.IsPortList
    · exact (sameUse_portList_iff built built' type list).mpr (ports list)
    · have equal := built.eq_of_same built' list unseen
      subst equal
      exact (sameUse_walks_iff built).mpr (walked rfl)

end Changes

/-! ### On the bench -/

namespace Bench

/-- Set the traffic class. -/
def setTc (v : UInt8) : NasAclAction := ⟨⟨.setTc, .u8 v⟩, [], 0, ∅⟩

/-- Redirect to a list of ports. -/
def redirectTo (ports : List IfIndex) : NasAclAction :=
  ⟨⟨.redirectPortList, .portlist []⟩, ports, 0, ∅⟩

/-- A mirror to two objects, on some NPUs each. -/
def mirror (npus npus' : NpuSet) : NasAclAction :=
  { (NasAclAction.new .mirrorIngress).setValues (.objIdList 0 []) with
    nas2ndiOidTbl := NasAclAction.setOpaqueData
      [.ofObjId 5, { ndiObjIdTable := idsOn npus }, .ofObjId 6, { ndiObjIdTable := idsOn npus' }] ∅ }

theorem mirror_built (npus npus' : NpuSet) : (mirror npus npus').Built platform :=
  ⟨_, rfl⟩

theorem setTc_built (v : UInt8) : (setTc v).Built platform := by
  refine ⟨[.ofU8 v], ?_⟩
  change Except.ok (setTc (CommonData.ofU8 v).u8) = _
  rw [CommonData.u8_ofU8]

theorem redirectTo_built : ∀ n ∈ [1, 2], (redirectTo [n]).Built platform := by
  intro n mem
  refine ⟨[{ ifindexList := [n] }], ?_⟩
  rcases List.mem_pair.mp mem with rfl | rfl <;> decide +kernel

end Bench

theorem ne_sees_setTc :
    ((Bench.setTc 3).ne (Bench.setTc 4) = false →
      (Bench.setTc 3).SameUse Bench.platform Bench.platform.toWalks Bench.backWalks (Bench.setTc 4)) ∧
      ReportsChanges Bench.platform (fun _ => Bench.platform.toWalks) (fun _ => Bench.backWalks)
        (.ofItems [Bench.setTc 3]) (.ofItems [Bench.setTc 4]) := by
  have built : ∀ v t a, (Keyed.ofItems [Bench.setTc v] : Keyed NasAclAction.actionType).find t
      = some a → a.Built Bench.platform := by
    intro v t a found
    rw [Keyed.eq_of_find_singleton found]
    exact Bench.setTc_built v
  refine ⟨((ne_sees_changes_iff Bench.platform).1 _ _ _ _ (Bench.setTc_built 3)
    (Bench.setTc_built 4) rfl).mpr ⟨fun list => absurd list (by decide), fun _ => rfl⟩, ?_⟩
  refine ((ne_sees_changes_iff Bench.platform).2 _ _ _ _ (built 3) (built 4)).mpr ⟨?_, ?_⟩
  · intro t list a b held
    have type := Keyed.keyed _ t a held
    rw [Keyed.eq_of_find_singleton held] at type
    rw [← type] at list
    exact absurd list (by decide)
  · intro t a b held held' _ npuId
    rw [Keyed.eq_of_find_singleton held, Keyed.eq_of_find_singleton held']
    rfl

/-- Redirecting to port 2 instead of port 1 is no change to the comparison. -/
theorem ne_misses_portList :
    ¬ ∀ (p : Platform) (w w' : Walks) (a b : NasAclAction), a.Built p → b.Built p →
      a.actionType = b.actionType → a.ne b = false → a.SameUse p w w' b := by
  intro claim
  have built := Bench.redirectTo_built 1 (List.mem_cons_self ..)
  have built' := Bench.redirectTo_built 2 (by decide)
  have same := claim Bench.platform Bench.platform.toWalks Bench.platform.toWalks _ _ built built' rfl
    (by decide +kernel)
  have listed : ([1] : List IfIndex) = [2] :=
    (NasAclAction.sameUse_portList_iff built built' rfl (by decide)).mp same
  cases listed

/-- Nor is a mirror that walks its two objects the other way. -/
example : (Bench.mirror {0} {1}).ne (Bench.mirror {0} {1}) = false ∧
    ¬ (Bench.mirror {0} {1}).SameUse Bench.platform Bench.platform.toWalks Bench.backWalks
      (Bench.mirror {0} {1}) := by
  refine ⟨by decide +kernel, ?_⟩
  rw [NasAclAction.sameUse_walks_iff (Bench.mirror_built {0} {1})]
  decide +kernel

end SonicNasAcl
