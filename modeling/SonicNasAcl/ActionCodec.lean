/-
# ActionCodec -- the action list of an entry, written and read back

The accessor of an action does not always give back the items the action was read from: a
list of objects comes in the order of the hash map, once for each id, and the LAGs of a
port list are gone.  What it gives can be written all the same, and reads back as the same
action, unless it is nothing at all (`NasAclAction.Empty`).

* `actionMap_codable`: every row of the action map that has a value can be written;
* `setOpaqueData_get`: the table of objects is restored from its pairs, in any order;
* `setActionLists_written`: reading a list that was written adds its actions;
* `actionList_roundTrip_iff`: a list that was decoded comes back exactly when none of its
  port lists and object lists is empty.
-/
import SonicNasAcl.ActionChanges
import SonicNasAcl.Codec
import SonicNasAcl.Edits

namespace SonicNasAcl

set_option autoImplicit false

open Lib

/-! ## The rows of the action map -/

theorem actionSingle_codable {t : ActionType} {dataType : DataType}
    {dataLen rangeMin rangeMax : Nat} {getFn : NasAclAction → List CommonData}
    {setFn : List CommonData → NasAclAction → Except Exn NasAclAction} {childList : List MapData}
    (kind : dataType ∈ [.u8, .u16, .u32, .u64, .objId, .ifindex, .bin])
    (ranged : rangeMax ≠ 0 → dataType ∈ [.u8, .u16, .u32])
    (width : ∀ w, dataType.width = some w → dataLen = 0 ∨ dataLen = w)
    (sized : ∀ d ∈ childList, d.Sized) (apart : (childList.map MapData.attrId).Nodup) :
    let info := ActionInfo.single t dataType dataLen getFn setFn rangeMin rangeMax childList
    info.val.Codable info.childList :=
  leaf_codable kind rfl ranged width sized apart

theorem objects_codable {p : Platform} {t : ActionType} {dataType : DataType}
    {setFn : List CommonData → NasAclAction → Except Exn NasAclAction}
    (kind : dataType = .embedded ∨ dataType = .embeddedList) :
    let info := ActionInfo.objects p t dataType setFn
    info.val.Codable info.childList := by
  intro info
  have plain : dataType.width = none ∧ dataType ≠ .opaqueData := by
    rcases kind with rfl | rfl <;> decide
  refine ⟨objects_sound kind, List.forall_mem_cons.mpr ⟨?_, fun d mem => ?_⟩, ?_,
    fun _ => List.cons_ne_nil _ _, plain.2⟩
  · refine MapData.sized_of_mandatory rfl fun w some_ => ?_
    cases plain.1.symm.trans some_
  · rcases List.mem_pair.mp mem with rfl | rfl
    · exact MapData.sized_of_mandatory rfl (by rintro w ⟨⟩; exact .inr rfl)
    · exact MapData.sized_of_mandatory rfl (by rintro w ⟨⟩)
  · simp [info, ActionInfo.objects]

theorem zeroChild_sized : ∀ d ∈ zeroChild, d.Sized :=
  List.forall_mem_singleton.mpr (MapData.sized_of_mandatory rfl (by rintro w ⟨⟩))

theorem zeroChild_apart : (zeroChild.map MapData.attrId).Nodup := List.nodup_singleton _

/-- Every row of the action map that has a value can be written. -/
theorem actionMap_codable (p : Platform) (t : ActionType)
    (hasValue : (actionMap p t).val.dataType ≠ .none) :
    (actionMap p t).val.Codable (actionMap p t).childList := by
  cases t
  case flood | decrementTtl => exact absurd rfl hasValue
  case egressMask | redirectPortList => exact iflist_codable rfl rfl zeroChild_sized zeroChild_apart
  case redirectIpNexthop | setPolicer | setCpuQueue => exact objects_codable (.inl rfl)
  case mirrorIngress | mirrorEgress => exact objects_codable (.inr rfl)
  case packetAction | redirectPort =>
    exact actionSingle_codable (by decide) (by decide) (by rintro w ⟨⟩; exact .inr rfl)
      zeroChild_sized zeroChild_apart
  case setSrcIpv6 | setDstIpv6 | setSrcMac | setDstMac | setSrcIp | setDstIp =>
    exact actionSingle_codable (by decide) (by decide) (by rintro w ⟨⟩) (List.forall_mem_nil _)
      List.nodup_nil
  all_goals
    exact actionSingle_codable (by decide) (by decide) (by rintro w ⟨⟩; exact .inr rfl)
      (List.forall_mem_nil _) List.nodup_nil

theorem actionMap_attrId {p : Platform} {t : ActionType}
    (hasValue : (actionMap p t).val.dataType ≠ .none) :
    (actionMap p t).val.attrId = .actionValue t := by
  cases t
  case flood | decrementTtl => exact absurd rfl hasValue
  all_goals rfl

/-! ## Objects -/

namespace NasAclAction

section Objects

variable {p : Platform} {a : NasAclAction} {tables : Nas2NdiOidTbl}

/-- The pairs of some objects, put into a table. -/
theorem lookup_setOpaqueData (values : NasObjId → NdiObjIdTable) (l : List NasObjId)
    (tables : Nas2NdiOidTbl) (oid : NasObjId) :
    (setOpaqueData (l.flatMap fun k => [.ofObjId k, { ndiObjIdTable := values k }])
        tables).lookup oid
      = if oid ∈ l then some (values oid) else tables.lookup oid := by
  induction l generalizing tables with
  | nil => rw [if_neg List.not_mem_nil]; rfl
  | cons k rest ih =>
      change (setOpaqueData (rest.flatMap _) (tables.insert (CommonData.objId (.ofObjId k)) _)).lookup
        oid = _
      rw [ih, CommonData.objId_ofObjId]
      by_cases later : oid ∈ rest
      · rw [if_pos later, if_pos (List.mem_cons_of_mem _ later)]
      · rw [if_neg later]
        by_cases here : oid = k
        · subst here
          rw [if_pos (List.mem_cons_self ..), Finmap.lookup_insert]
        · have other : oid ∉ k :: rest := fun mem => (List.mem_cons.mp mem).elim here later
          rw [if_neg other, Finmap.lookup_insert_of_ne _ here]

/-- A table of objects is restored from its pairs, in whatever order they come. -/
theorem setOpaqueData_get : setOpaqueData (a.getOpaqueDataActionVal p) ∅ = a.nas2ndiOidTbl := by
  refine Finmap.ext_lookup fun oid => ?_
  rw [getOpaqueDataActionVal, lookup_setOpaqueData a.ndiOidTbl]
  have visited : oid ∈ p.oidOrder.visit a.nas2ndiOidTbl.keys ↔ oid ∈ a.nas2ndiOidTbl :=
    (p.oidOrder.mem_visit _ _).trans Finmap.mem_keys
  by_cases held : oid ∈ a.nas2ndiOidTbl
  · obtain ⟨table, found⟩ := Finmap.mem_iff.mp held
    rw [if_pos (visited.mpr held), ndiOidTbl, found, Option.getD_some]
  · rw [if_neg (mt visited.mp held), Finmap.lookup_empty, Finmap.lookup_eq_none.mpr held]

/-- A table of one object has one pair. -/
theorem getOpaqueData_singleton {oid : NasObjId} {table : NdiObjIdTable}
    (one : a.nas2ndiOidTbl = (∅ : Nas2NdiOidTbl).insert oid table) :
    a.getOpaqueDataActionVal p = [.ofObjId oid, { ndiObjIdTable := table }] := by
  have keys : a.nas2ndiOidTbl.keys = {oid} := by
    rw [one, keys_insert_empty]
  have found : a.ndiOidTbl oid = table := by
    rw [ndiOidTbl, one, Finmap.lookup_insert, Option.getD_some]
  rw [getOpaqueDataActionVal, keys, Traversal.visit_singleton, List.flatMap_singleton, found]

/-- The fields of one object. -/
theorem exists_objectFields (p : Platform) (t : ActionType) (dataType : DataType)
    (setFn : List CommonData → NasAclAction → Except Exn NasAclAction) (oid : NasObjId)
    (table : NdiObjIdTable) :
    ∃ fields : List (Field p),
      fields.map Field.d = (ActionInfo.objects p t dataType setFn).childList ∧
      fields.map Field.data = [.ofObjId oid, { ndiObjIdTable := table }] := by
  have index : ∃ f : Field p, f.d = { attrId := .actionValueIndex t, dataType := .objId, dataLen := 8 } ∧
      f.data = .ofObjId oid :=
    MapData.exists_field (bytesU64 oid) DataType.noConfusion rfl (.inr rfl)
      (fun a => by simp [MapData.item, dataU64_bytesU64]) fun _ ranged => absurd rfl ranged
  obtain ⟨f, row, data⟩ := index
  obtain ⟨g, row', data'⟩ := MapData.exists_opaqueField (p := p)
    (d := { attrId := .actionValueData t, dataType := .opaqueData }) rfl table
  refine ⟨[f, g], ?_, ?_⟩
  · rw [List.map_cons, List.map_cons, row, row']
    rfl
  · rw [List.map_cons, List.map_cons, data, data']
    rfl

/-- Any objects can be written, if there are some. -/
theorem encodes_objects (p : Platform) (t : ActionType)
    (setFn : List CommonData → NasAclAction → Except Exn NasAclAction)
    (some_ : a.nas2ndiOidTbl ≠ ∅) :
    Encodes p (ActionInfo.objects p t .embeddedList setFn).val
      (ActionInfo.objects p t .embeddedList setFn).childList (a.getOpaqueDataActionVal p)
      (a.getOpaqueDataActionVal p) := by
  have elements (l : List NasObjId) : ∃ elems : List (List (Field p)), elems.length = l.length ∧
      (∀ fields ∈ elems,
        fields.map Field.d = (ActionInfo.objects p t .embeddedList setFn).childList) ∧
      elems.flatMap (fun fields => fields.map Field.data)
        = l.flatMap fun k => [.ofObjId k, { ndiObjIdTable := a.ndiOidTbl k }] := by
    induction l with
    | nil => exact ⟨[], rfl, List.forall_mem_nil _, rfl⟩
    | cons k rest ih =>
        obtain ⟨elems, length, rows, items⟩ := ih
        obtain ⟨fields, row, pair⟩ := exists_objectFields p t .embeddedList setFn k (a.ndiOidTbl k)
        refine ⟨fields :: elems, ?_, List.forall_mem_cons.mpr ⟨row, rows⟩, ?_⟩
        · rw [List.length_cons, List.length_cons, length]
        · rw [List.flatMap_cons, List.flatMap_cons, items, pair]
  obtain ⟨elems, length, rows, items⟩ := elements (p.oidOrder.visit a.nas2ndiOidTbl.keys)
  rw [getOpaqueDataActionVal, ← items]
  refine .list rfl (fun none_ => some_ (Finmap.ext_lookup fun oid => ?_)) rows
  rw [none_, List.length_nil] at length
  have unseen : oid ∉ a.nas2ndiOidTbl.keys := by
    rw [← p.oidOrder.mem_visit, List.length_eq_zero_iff.mp length.symm]
    exact List.not_mem_nil
  rw [Finmap.lookup_empty]
  exact Finmap.lookup_eq_none.mpr fun mem => unseen (Finmap.mem_keys.mpr mem)

end Objects

/-! ## Accessors -/

/-- A port list with no port in it, or an object list with no object. -/
def Empty (a : NasAclAction) : Prop :=
  (a.actionType.IsPortList ∧ a.ifindexList = []) ∨
    (a.actionType ∈ [.mirrorIngress, .mirrorEgress] ∧ a.nas2ndiOidTbl = ∅)

instance (a : NasAclAction) : Decidable a.Empty :=
  inferInstanceAs (Decidable ((a.actionType.IsPortList ∧ a.ifindexList = []) ∨
    (a.actionType ∈ [.mirrorIngress, .mirrorEgress] ∧ a.nas2ndiOidTbl = ∅)))

/-- A list of objects with none in it. -/
def NoObjects (a : NasAclAction) : Prop :=
  a.actionType ∈ [.mirrorIngress, .mirrorEgress] ∧ a.nas2ndiOidTbl = ∅

section Accessors

variable {p : Platform} {t : ActionType} {info : ActionInfo} {a : NasAclAction}
  {obj : List CpsAttr} {path : List AttrId} {dataLen rangeMin rangeMax : Nat}
  {childList : List MapData}

/-- A row whose accessor gives back something that the action can be read from again. -/
def GivesBack (p : Platform) (info : ActionInfo) (t : ActionType) (obj : List CpsAttr)
    (path : List AttrId) : Prop :=
  ∀ a getFn setFn, info.getFn = some getFn → info.setFn = some setFn →
    info.val.WellFormed p info.childList obj path →
    setFn (info.val.items p info.childList obj path) (.new t) = .ok a → ¬ a.Empty →
    ∃ l, Encodes p info.val info.childList (getFn a) l ∧ setFn l (.new t) = .ok a

/-- A single attribute is there, with its length, and is the only item. -/
theorem single_items {d : MapData} (mode : d.mode = .mandatory)
    (kind : d.dataType ∈ [.u8, .u16, .u32, .u64, .objId, .ifindex, .bin])
    (wellFormed : d.WellFormed p childList obj path) :
    ∃ attr : CpsAttr, (d.dataLen ≠ 0 → attr.value.length = d.dataLen) ∧
      d.items p childList obj path = [d.item p attr] := by
  have here : d.WellFormedAt p obj (path ++ [d.attrId]) ∧
      d.items p childList obj path = [d.itemAt p obj (path ++ [d.attrId])] := by
    unfold MapData.WellFormed at wellFormed
    unfold MapData.items
    revert wellFormed kind
    cases d.dataType <;> simp +contextual
  obtain ⟨fits, items⟩ := here
  rw [items]
  unfold MapData.WellFormedAt at fits
  unfold MapData.itemAt
  cases found : Tlv.get (path ++ [d.attrId]) obj with
  | none =>
      rw [found] at fits
      cases mode.symm.trans fits
  | some attr =>
      have plain : d.dataType ≠ .opaqueData := by
        revert kind
        cases d.dataType <;> decide
      simp only [found, MapData.Fits, plain, if_false] at fits
      exact ⟨attr, fits.1, rfl⟩

/-- A row whose accessor gives back the items an action is read from. -/
theorem same_givesBack {getFn : NasAclAction → List CommonData}
    {setFn : List CommonData → NasAclAction → Except Exn NasAclAction}
    (get : info.getFn = some getFn) (setter : info.setFn = some setFn)
    (codable : info.val.Codable info.childList)
    (kept : ∀ a, info.val.WellFormed p info.childList obj path →
      setFn (info.val.items p info.childList obj path) (.new t) = .ok a →
      getFn a = info.val.items p info.childList obj path) : GivesBack p info t obj path := by
  intro a getFn' setFn' get' setter' wellFormed set _
  cases get.symm.trans get'
  cases setter.symm.trans setter'
  refine ⟨_, ?_, set⟩
  rw [kept a wellFormed set]
  exact encodes_items codable wellFormed

/-- A row of a single attribute. -/
theorem single_givesBack {dataType : DataType} {getFn : NasAclAction → List CommonData}
    {setFn : List CommonData → NasAclAction → Except Exn NasAclAction}
    (kind : dataType ∈ [.u8, .u16, .u32, .u64, .objId, .ifindex, .bin])
    (codable : (ActionInfo.single t dataType dataLen getFn setFn rangeMin rangeMax
      childList).val.Codable childList)
    (kept : ∀ attr a, (dataLen ≠ 0 → attr.value.length = dataLen) →
      setFn [MapData.item p ⟨.actionValue t, dataType, dataLen, .mandatory, 0, 0⟩ attr] (.new t)
        = .ok a →
      getFn a = [MapData.item p ⟨.actionValue t, dataType, dataLen, .mandatory, 0, 0⟩ attr]) :
    GivesBack p (.single t dataType dataLen getFn setFn rangeMin rangeMax childList) t obj path := by
  refine same_givesBack rfl rfl codable fun a wellFormed set => ?_
  obtain ⟨attr, length, items⟩ := single_items rfl kind wellFormed
  rw [items] at set ⊢
  exact kept attr a length set

theorem u8_givesBack :
    GivesBack p (.single t .u8 1 getU8ActionVal setU8ActionVal rangeMin rangeMax []) t obj path := by
  refine single_givesBack (by decide) ?_ fun attr a _ set => ?_
  · exact actionSingle_codable (by decide) (fun _ => by decide) (by rintro w ⟨⟩; exact .inr rfl)
      (List.forall_mem_nil _) List.nodup_nil
  · obtain ⟨data, first, rfl⟩ := setActionVal_ok.mp set
    obtain rfl := Except.ok.inj first
    simp [getU8ActionVal, setValues, MapData.item]

theorem u16_givesBack :
    GivesBack p (.single t .u16 2 getU16ActionVal setU16ActionVal rangeMin rangeMax []) t obj
      path := by
  refine single_givesBack (by decide) ?_ fun attr a _ set => ?_
  · exact actionSingle_codable (by decide) (fun _ => by decide) (by rintro w ⟨⟩; exact .inr rfl)
      (List.forall_mem_nil _) List.nodup_nil
  · obtain ⟨data, first, rfl⟩ := setActionVal_ok.mp set
    obtain rfl := Except.ok.inj first
    simp [getU16ActionVal, setValues, MapData.item]

/-- An address has the length of its type, so that nothing is cut off. -/
theorem bytes_givesBack {member : List UInt8 → NdiActionValue} (fixed : dataLen ≠ 0)
    (get : ∀ b, getBytesActionVal ((new t).setValues (member b)) = [.ofBytes b]) :
    GivesBack p (.single t .bin dataLen getBytesActionVal
      (setActionVal fun data => member (data.bytes.take dataLen)) 0 0 []) t obj path := by
  refine single_givesBack (by decide) ?_ fun attr a length set => ?_
  · exact actionSingle_codable (by decide) (fun ranged => absurd rfl ranged) (by rintro w ⟨⟩)
      (List.forall_mem_nil _) List.nodup_nil
  · obtain ⟨data, first, rfl⟩ := setActionVal_ok.mp set
    obtain rfl := Except.ok.inj first
    simp only [MapData.item, CommonData.bytes_ofBytes]
    rw [List.take_of_length_le (length fixed).le]
    exact get attr.value

theorem counter_givesBack :
    GivesBack p (.single t .objId 8 getObjIdActionVal setObjIdActionVal 0 0 []) t obj path := by
  refine single_givesBack (by decide) ?_ fun attr a _ set => ?_
  · exact actionSingle_codable (by decide) (fun ranged => absurd rfl ranged)
      (by rintro w ⟨⟩; exact .inr rfl) (List.forall_mem_nil _) List.nodup_nil
  · obtain ⟨data, first, rfl⟩ := setObjIdActionVal_ok.mp set
    obtain rfl := Except.ok.inj first
    simp [getObjIdActionVal, MapData.item]

theorem packet_givesBack :
    GivesBack p (.single t .u32 4 (getPktActionVal p) (setPktActionVal p) 0 0 zeroChild) t obj
      path := by
  refine single_givesBack (by decide) ?_ fun attr a _ set => ?_
  · exact actionSingle_codable (by decide) (fun _ => by decide) (by rintro w ⟨⟩; exact .inr rfl)
      zeroChild_sized zeroChild_apart
  · obtain ⟨data, first, v, named, rfl⟩ := setPktActionVal_ok.mp set
    obtain rfl := Except.ok.inj first
    simp only [getPktActionVal, setValues]
    rw [(p.packetActions.decode_eq_some _ _).mp named]
    simp [MapData.item]

/-- A single port or LAG is kept in the interface list. -/
theorem ifindex_givesBack :
    GivesBack p (.single t .ifindex 4 getActionIfindex (setActionIfindex p) 0 0 zeroChild) t obj
      path := by
  refine single_givesBack (by decide) ?_ fun attr a _ set => ?_
  · exact actionSingle_codable (by decide) (fun ranged => absurd rfl ranged)
      (by rintro w ⟨⟩; exact .inr rfl) zeroChild_sized zeroChild_apart
  · obtain ⟨data, first, ⟨-, ids, -, rfl⟩ | ⟨-, port, -, rfl⟩⟩ := setActionIfindex_ok.mp set <;>
      · obtain rfl := Except.ok.inj first
        simp [getActionIfindex, MapData.item, new]

/-- An object has one pair. -/
theorem object_givesBack :
    GivesBack p (.objects p t .embedded setOpaqueDataActionVal) t obj path := by
  refine same_givesBack rfl rfl (objects_codable (.inl rfl)) fun a wellFormed set => ?_
  obtain ⟨oid, index⟩ := MapData.itemAt_required (p := p) rfl (wellFormed _ (List.mem_cons_self ..))
  obtain ⟨table, opaque_⟩ := MapData.itemAt_required (p := p) rfl
    (wellFormed _ (List.mem_cons_of_mem _ (List.mem_singleton_self _)))
  have items : MapData.items p (ActionInfo.objects p t .embedded setOpaqueDataActionVal).val
        (ActionInfo.objects p t .embedded setOpaqueDataActionVal).childList obj path
      = [.ofObjId (CpsAttr.dataU64 oid), { ndiObjIdTable := (p.unserialize table).getD ∅ }] :=
    congrArg₂ (fun a b => [a, b]) index opaque_
  rw [items] at set ⊢
  obtain rfl := Except.ok.inj set
  exact getOpaqueData_singleton rfl

/-- The pairs of a list are given in the order of the hash map. -/
theorem objectList_givesBack (mirror : t ∈ [.mirrorIngress, .mirrorEgress]) :
    GivesBack p (.objects p t .embeddedList setOpaqueDataListActionVal) t obj path := by
  rintro a _ _ ⟨⟩ ⟨⟩ - set some_
  obtain rfl := Except.ok.inj set
  refine ⟨_, encodes_objects p t _ fun none_ => some_ (.inr ⟨mirror, none_⟩), ?_⟩
  unfold setOpaqueDataListActionVal
  rw [show (new t).nas2ndiOidTbl = ∅ from rfl, setOpaqueData_get]

/-- The ports that are left in a list are left in it again. -/
theorem iflist_givesBack (list : t.IsPortList) :
    GivesBack p (.single t .iflist 0 getActionIfindexList (setActionIfindexList p) 0 0 zeroChild) t
      obj path := by
  rintro a _ _ ⟨⟩ ⟨⟩ - set some_
  obtain ⟨ports, ran, made⟩ := except_bind_ok.mp set
  obtain rfl := Except.ok.inj made
  have full : ports ≠ [] := fun none_ => some_ (.inl ⟨list, none_⟩)
  have gives : getActionIfindexList { (new t).setValues (.portlist []) with
      ifindexList := (new t).ifindexList ++ ports } = [{ ifindexList := ports }] := if_pos full
  have again : ports.filterM (fun port => do return !(← utlIsIfidxTypeLag p port)) = .ok ports :=
    except_filterM_all (except_filterM_accepts ran)
  refine ⟨[{ ifindexList := ports }], ?_, ?_⟩
  · rw [gives]
    exact .iflist rfl full
  · simp only [setActionIfindexList, List.flatMap_singleton, again, except_ok_bind]

/-- The accessor of every row gives back something the action can be read from. -/
theorem actionMap_givesBack (p : Platform) (t : ActionType) (obj : List CpsAttr)
    (path : List AttrId) : GivesBack p (actionMap p t) t obj path := by
  cases t
  case flood | decrementTtl => exact fun _ _ _ absent => by cases absent
  case egressMask | redirectPortList => exact iflist_givesBack (by decide)
  case mirrorIngress | mirrorEgress => exact objectList_givesBack (by decide)
  case redirectIpNexthop | setPolicer | setCpuQueue => exact object_givesBack
  case packetAction => exact packet_givesBack
  case redirectPort => exact ifindex_givesBack
  case setCounter => exact counter_givesBack
  case setSrcIpv6 | setDstIpv6 | setSrcMac | setDstMac | setSrcIp | setDstIp =>
    exact bytes_givesBack (by decide) fun _ => rfl
  case setInnerVlanId | setOuterVlanId | setL4SrcPort | setL4DstPort => exact u16_givesBack
  all_goals exact u8_givesBack

end Accessors

end NasAclAction

/-! ## One action -/

/-- The value of an action, under a path; nothing for an action without one. -/
def fillActionValue (p : Platform) (a : NasAclAction) (path : List AttrId) : Fill :=
  if (actionMap p a.actionType).val.dataType ≠ .none then fillActionAttr p a a.actionType path
  else Fill.done

/-- What the value of an action is written as: adds under its own tag, which read back as the
action at the top of an object and in a container. -/
structure NasAclAction.Written (p : Platform) (a : NasAclAction) (adds : Adds) : Prop where
  filled : fillActionValue p a [] = .ok (adds, true)
  starts : Tlv.StartsAt (.actionValue a.actionType) adds
  top : ∀ obj, Tlv.Fresh (.actionValue a.actionType) obj →
    readAction p (Tlv.addAll adds obj) (p.actionTypes.code a.actionType) [] = .ok a
  inside : ∀ obj obj' i path t, Tlv.get (i :: path) obj = some t →
    Tlv.Fresh (.actionValue a.actionType) obj' → t.inside = Tlv.addAll adds obj' →
    readAction p obj (p.actionTypes.code a.actionType) (i :: path) = .ok a

/-- The adds of an action. -/
def actionAdds (p : Platform) (a : NasAclAction) : Adds :=
  ((fillActionValue p a []).toOption.map Prod.fst).getD []

section OneAction

open NasAclAction

variable {p : Platform} {obj : List CpsAttr} {v : UInt32} {path : List AttrId} {a : NasAclAction}

/-- An action is read by the accessor of its row, or has no value. -/
theorem readAction_ok :
    readAction p obj v path = .ok a ↔ ∃ t, p.actionTypes.decode v = some t ∧
      (((actionMap p t).val.dataType = .none ∧ a = .new t) ∨
        ((actionMap p t).val.dataType ≠ .none ∧ ∃ l setFn,
          copyDataFromObj p obj path (actionMap p t).val (actionMap p t).childList
            (actionMap p t).name = .ok l ∧
          (actionMap p t).setFn = some setFn ∧ setFn l (.new t) = .ok a)) := by
  unfold readAction
  cases p.actionTypes.decode v with
  | none => simp only [reduceCtorEq, false_and, exists_false]
  | some t =>
      simp only [Option.some.injEq, exists_eq_left']
      by_cases hasValue : (actionMap p t).val.dataType ≠ .none
      · rw [if_pos hasValue, except_bind_ok, iff_false_intro hasValue, false_and, false_or,
          and_iff_right hasValue]
        refine exists_congr fun l => ?_
        cases (actionMap p t).setFn with
        | none => simp only [reduceCtorEq, and_false, false_and, exists_false]
        | some setFn => simp only [Option.some.injEq, exists_and_left, exists_eq_left']
      · rw [if_neg hasValue, and_iff_right (not_not.mp hasValue), iff_false_intro hasValue,
          false_and, or_false, Except.ok.injEq]
        exact eq_comm

theorem actionMap_setFn_type {t : ActionType} {l : List CommonData}
    {setFn : List CommonData → NasAclAction → Except Exn NasAclAction}
    (setter : (actionMap p t).setFn = some setFn) (set : setFn l (.new t) = .ok a) :
    a.actionType = t := by
  have scalar {member : CommonData → NdiActionValue}
      (set : setActionVal member l (.new t) = .ok a) : a.actionType = t := by
    obtain ⟨data, -, rfl⟩ := setActionVal_ok.mp set
    rfl
  cases t
  case flood | decrementTtl => cases setter
  case egressMask | redirectPortList =>
    cases setter
    obtain ⟨ports, rfl⟩ := setActionIfindexList_ok set
    rfl
  case redirectIpNexthop | setPolicer | setCpuQueue | mirrorIngress | mirrorEgress =>
    cases setter
    obtain rfl := Except.ok.inj set
    rfl
  case packetAction =>
    cases setter
    obtain ⟨data, -, v, -, rfl⟩ := setPktActionVal_ok.mp set
    rfl
  case redirectPort =>
    cases setter
    obtain ⟨data, -, ⟨-, ids, -, rfl⟩ | ⟨-, port, -, rfl⟩⟩ := setActionIfindex_ok.mp set <;> rfl
  case setCounter =>
    cases setter
    obtain ⟨data, -, rfl⟩ := setObjIdActionVal_ok.mp set
    rfl
  all_goals
    cases setter
    exact scalar set

theorem readAction_type (read : readAction p obj v path = .ok a) :
    p.actionTypes.decode v = some a.actionType := by
  obtain ⟨t, named, ⟨-, rfl⟩ | ⟨-, l, setFn, -, setter, set⟩⟩ := readAction_ok.mp read
  · exact named
  · rw [actionMap_setFn_type setter set]
    exact named

theorem actionMap_setFn {t : ActionType} (hasValue : (actionMap p t).val.dataType ≠ .none) :
    ∃ getFn setFn, (actionMap p t).getFn = some getFn ∧ (actionMap p t).setFn = some setFn := by
  cases t
  case flood | decrementTtl => exact absurd rfl hasValue
  all_goals exact ⟨_, _, rfl, rfl⟩

/-- Only a list can be missing without an error. -/
theorem empty_of_read {t : ActionType} {setFn : List CommonData → NasAclAction → Except Exn NasAclAction}
    (setter : (actionMap p t).setFn = some setFn)
    (empty : (actionMap p t).val.EmptyList obj path)
    (set : setFn ((actionMap p t).val.items p (actionMap p t).childList obj path) (.new t) = .ok a) :
    a.Empty := by
  have ports (list : t.IsPortList)
      (same : (actionMap p t).val.items p (actionMap p t).childList obj path
        = [{ ifindexList := [] }])
      (set : setActionIfindexList p
        ((actionMap p t).val.items p (actionMap p t).childList obj path) (.new t) = .ok a) :
      a.Empty := by
    rw [same] at set
    obtain rfl := Except.ok.inj set
    exact .inl ⟨list, rfl⟩
  have objects (mirror : t ∈ [.mirrorIngress, .mirrorEgress])
      (same : (actionMap p t).val.items p (actionMap p t).childList obj path = [])
      (set : setOpaqueDataListActionVal
        ((actionMap p t).val.items p (actionMap p t).childList obj path) (.new t) = .ok a) :
      a.Empty := by
    rw [same] at set
    obtain rfl := Except.ok.inj set
    exact .inr ⟨mirror, rfl⟩
  cases t
  case egressMask | redirectPortList =>
    cases setter
    exact ports (by decide) (congrArg (fun l : List IfIndex => [CommonData.mk 0 l ∅ []])
      (scanIfval_eq_nil empty.2)) set
  case mirrorIngress | mirrorEgress =>
    cases setter
    obtain ⟨list, found, inside⟩ := empty
    refine objects (by decide) ?_ set
    change List.flatMap _ (((Tlv.get (path ++ [_]) obj).map Tlv.inside).getD []) = []
    rw [found, Option.map_some, Option.getD_some, inside]
    rfl
  all_goals exact empty.elim

/-- An empty list has nothing to write, which counts as a failure. -/
theorem fillActionValue_empty (empty : a.Empty) : fillActionValue p a path = Fill.failed := by
  unfold fillActionValue fillActionAttr copyDataToObj
  rcases empty with ⟨list, none_⟩ | ⟨mirror, none_⟩
  · have nothing : getActionIfindexList a = [] := if_neg (not_not.mpr none_)
    rcases List.mem_pair.mp list with type | type
    · rw [type]
      exact congrArg (copyIflistDataToObj _) nothing
    · rw [type]
      exact congrArg (copyIflistDataToObj _) nothing
  · have nothing : getOpaqueDataActionVal p a = [] := by
      unfold getOpaqueDataActionVal
      rw [none_, Finmap.keys_empty, Traversal.visit_empty]
      rfl
    have failed (t : ActionType) (childList : List MapData) : copyNonIflistDataToObj p
        (path ++ [.actionValue t]) { attrId := .actionValue t, dataType := .embeddedList }
        childList (getOpaqueDataActionVal p a) = Fill.failed := by
      rw [nothing, copyNonIflistDataToObj, if_pos rfl]
      exact if_pos (Nat.zero_div _)
    rcases List.mem_pair.mp mirror with type | type
    · rw [type]
      exact failed .mirrorIngress _
    · rw [type]
      exact failed .mirrorEgress _

/-- A list of no ports is read again where no port is written. -/
theorem readAction_emptyPorts {obj' : List CpsAttr} {path' : List AttrId}
    (read : readAction p obj v path = .ok a) (list : a.actionType.IsPortList)
    (none_ : a.ifindexList = []) (there : path' = [] ∨ (Tlv.get path' obj').isSome)
    (absent : ∀ attr ∈ siblings obj' path', attr.id ≠ .actionValue a.actionType) :
    readAction p obj' (p.actionTypes.code a.actionType) path' = .ok a := by
  obtain ⟨t, -, ⟨valueless, rfl⟩ | ⟨hasValue, l, setFn, copied, setter, set⟩⟩ :=
    readAction_ok.mp read
  · exact readAction_ok.mpr ⟨t, p.actionTypes.decode_code t, .inl ⟨valueless, rfl⟩⟩
  · obtain rfl : a.actionType = t := actionMap_setFn_type setter set
    have row : (actionMap p a.actionType).val.dataType = .iflist ∧
        setFn = NasAclAction.setActionIfindexList p := by
      rcases List.mem_pair.mp list with type | type <;> rw [type] at setter ⊢ <;>
        exact ⟨rfl, (Option.some.inj setter).symm⟩
    obtain ⟨flat, rfl⟩ := row
    refine readAction_ok.mpr ⟨a.actionType, p.actionTypes.decode_code _, .inr ⟨hasValue,
      [{ ifindexList := [] }], _, ?_, setter, ?_⟩⟩
    · rw [copyDataFromObj, if_pos flat, actionMap_attrId hasValue,
        copyIflistDataFromObj_siblings there, scanIfval_eq_nil absent]
    · obtain ⟨ports, -, made⟩ := except_bind_ok.mp set
      have same := Except.ok.inj made
      have none_left : ports = [] := (congrArg NasAclAction.ifindexList same).trans none_
      rw [none_left] at same
      exact congrArg Except.ok same

/-- A list of objects has to be there. -/
theorem readAction_noObjects {obj' : List CpsAttr} {path' : List AttrId} {b : NasAclAction}
    (none_ : a.NoObjects) (absent : Tlv.get (path' ++ [.actionValue a.actionType]) obj' = none) :
    readAction p obj' (p.actionTypes.code a.actionType) path' ≠ .ok b := by
  intro read
  obtain ⟨t, decoded, ⟨valueless, -⟩ | ⟨hasValue, l, setFn, copied, -⟩⟩ := readAction_ok.mp read
  · have type := Option.some.inj ((p.actionTypes.decode_code a.actionType).symm.trans decoded)
    subst type
    rcases List.mem_pair.mp none_.1 with type | type <;> rw [type] at valueless <;> cases valueless
  · have type := Option.some.inj ((p.actionTypes.decode_code a.actionType).symm.trans decoded)
    subst type
    obtain ⟨list, found, -⟩ : ∃ list,
        Tlv.get (path' ++ [.actionValue a.actionType]) obj' = some list ∧ True := by
      obtain ⟨wellFormed | empty, -⟩ :=
        (copyDataFromObj_accepts (actionMap_sound p _ hasValue)).ok_iff.mp copied
      · rcases List.mem_pair.mp none_.1 with type | type <;> rw [type] at wellFormed ⊢ <;>
          obtain ⟨list, found, -⟩ := wellFormed <;> exact ⟨list, found, trivial⟩
      · rcases List.mem_pair.mp none_.1 with type | type <;> rw [type] at empty ⊢ <;>
          obtain ⟨list, found, -⟩ := empty <;> exact ⟨list, found, trivial⟩
    rw [absent] at found
    cases found

/-- Every other action that was read is written, and reads back. -/
theorem readAction_written (read : readAction p obj v path = .ok a) (some_ : ¬ a.Empty) :
    a.Written p (actionAdds p a) := by
  obtain ⟨t, -, ⟨valueless, rfl⟩ | ⟨hasValue, l, setFn, copied, setter, set⟩⟩ :=
    readAction_ok.mp read
  · have filled : fillActionValue p (new t) [] = .ok ([], true) := if_neg (not_not.mpr valueless)
    have adds : actionAdds p (new t) = [] := by
      rw [actionAdds, filled]
      rfl
    have reads (obj : List CpsAttr) (path : List AttrId) :
        readAction p obj (p.actionTypes.code t) path = .ok (.new t) :=
      readAction_ok.mpr ⟨t, p.actionTypes.decode_code t, .inl ⟨valueless, rfl⟩⟩
    rw [adds]
    exact ⟨filled, fun x absent => absurd absent List.not_mem_nil, fun obj _ => reads _ _,
      fun obj _ i path _ _ _ _ => reads _ _⟩
  · obtain rfl : a.actionType = t := actionMap_setFn_type setter set
    obtain ⟨getFn, setFn', getter, setter'⟩ := actionMap_setFn hasValue
    cases setter.symm.trans setter'
    obtain ⟨wellFormed | empty, rfl⟩ :=
      (copyDataFromObj_accepts (actionMap_sound p a.actionType hasValue)).ok_iff.mp copied
    · obtain ⟨l, encodes, again⟩ := actionMap_givesBack p a.actionType obj path a getFn setFn getter
        setter wellFormed set some_
      have codable := actionMap_codable p a.actionType hasValue
      obtain ⟨adds, written, writes⟩ := encodes.roundTrip codable.some_child codable.apart
      have filled : fillActionValue p a [] = .ok (adds, true) := by
        rw [fillActionValue, if_pos hasValue]
        simp only [fillActionAttr, getter]
        exact written
      have same : actionAdds p a = adds := by
        rw [actionAdds, filled]
        rfl
      have reading {obj : List CpsAttr} {path : List AttrId}
          (copied : copyDataFromObj p obj path (actionMap p a.actionType).val
            (actionMap p a.actionType).childList (actionMap p a.actionType).name = .ok l) :
          readAction p obj (p.actionTypes.code a.actionType) path = .ok a :=
        readAction_ok.mpr ⟨a.actionType, p.actionTypes.decode_code _,
          .inr ⟨hasValue, l, setFn, copied, setter, again⟩⟩
      rw [same]
      have tag := actionMap_attrId hasValue
      refine ⟨filled, tag ▸ writes.starts, fun obj fresh => ?_,
        fun obj obj' i path t found fresh contents => ?_⟩
      · exact reading (writes.read codable.toSound (tag.symm ▸ fresh) _)
      · exact reading (writes.read_inside codable.toSound found (tag.symm ▸ fresh) contents _)
    · exact absurd (empty_of_read setter empty set) some_

end OneAction

/-! ## A list of actions -/

/-- The elements an action list is written as. -/
def actionElems (p : Platform) (l : List NasAclAction) : List (UInt32 × Adds) :=
  l.map fun a => (p.actionTypes.code a.actionType, actionAdds p a)

/-- Every action list of an object, added to an entry. -/
def setActionLists (p : Platform) (sw : NasAclSwitch) (obj : List CpsAttr) (e : NasAclEntry) :
    Except Exn NasAclEntry :=
  (obj.filter fun a => a.id = .entryAction).foldlM (fun e it => setActionList p sw obj it e) e

/-- The actions of a list, added to an entry one after the other. -/
def addActions (sw : NasAclSwitch) (l : List NasAclAction) (e : NasAclEntry) :
    Except Exn NasAclEntry :=
  l.foldlM (fun e a => e.addAction sw a true) e

section Lists

open NasAclAction

variable {p : Platform} {sw : NasAclSwitch} {l : List NasAclAction} {base : List CpsAttr}
  {e : NasAclEntry}

theorem fillActionElement_ok {a : NasAclAction} (written : a.Written p (actionAdds p a)) (i : Nat) :
    fillActionElement p a i
      = .ok (Tlv.under .entryAction (Tlv.under (.index i) (elementAdds .entryActionType
          (p.actionTypes.code a.actionType, actionAdds p a))), true) := by
  have deeper (i : AttrId) (path : List AttrId) :
      fillActionValue p a (i :: path) = (fillActionValue p a path).under i := by
    unfold fillActionValue
    by_cases hasValue : (actionMap p a.actionType).val.dataType ≠ .none
    · rw [if_pos hasValue, if_pos hasValue]
      obtain ⟨getFn, -, getter, -⟩ := actionMap_setFn hasValue
      simp only [fillActionAttr, getter]
      exact copyDataToObj_cons
    · rw [if_neg hasValue, if_neg hasValue]
      rfl
  have value : fillActionValue p a [.entryAction, .index i]
      = .ok (Tlv.under .entryAction (Tlv.under (.index i) (actionAdds p a)), true) := by
    rw [deeper, deeper, written.filled]
    rfl
  exact Fill.andThen_true.mpr ⟨_, _, rfl, value, rfl⟩

theorem actionElems_apart (written : ∀ a ∈ l, a.Written p (actionAdds p a)) :
    ValuesApart .entryActionType (actionElems p l) := by
  intro x mem
  obtain ⟨a, here, rfl⟩ := List.mem_map.mp mem
  exact ⟨.actionValue a.actionType, AttrId.noConfusion, (written a here).starts⟩

/-- A list of actions that can be written is written. -/
theorem fillActionAttrList_ok
    (written : ∀ a ∈ e.alist.items p.actionOrder, a.Written p (actionAdds p a)) :
    fillActionAttrList p e
      = .ok (listAdds .entryAction .entryActionType (actionElems p (e.alist.items p.actionOrder)),
        true) :=
  forEach_listAdds fun a mem i => fillActionElement_ok (written a mem) i

/-- A list with an action that cannot be written is not written as a whole. -/
theorem fillActionAttrList_empty {a : NasAclAction} (held : a ∈ e.alist.items p.actionOrder)
    (empty : a.Empty) {adds : Adds} : fillActionAttrList p e ≠ .ok (adds, true) := by
  intro filled
  obtain ⟨i, short, here⟩ := List.getElem_of_mem held
  have listed : (a, i) ∈ (e.alist.items p.actionOrder).zipIdx :=
    List.mem_zipIdx_iff_getElem?.mpr (here ▸ List.getElem?_eq_getElem short)
  obtain ⟨xs, element⟩ := Fill.of_forEach_true filled (a, i) listed
  obtain ⟨-, ys, -, value, -⟩ := Fill.andThen_true.mp element
  change fillActionValue p a _ = _ at value
  rw [fillActionValue_empty empty] at value
  cases value

/-- Reading a list that was written adds its actions. -/
theorem setActionLists_written (written : ∀ a ∈ l, a.Written p (actionAdds p a))
    (fresh : Tlv.Fresh .entryAction base) :
    setActionLists p sw
        (Tlv.addAll (listAdds .entryAction .entryActionType (actionElems p l)) base) e
      = addActions sw l e := by
  refine readLists_items (actionElems_apart written) fresh fun a mem i t e found contents => ?_
  have read := (written a mem).inside _ _ _ _ t found (fresh_type AttrId.noConfusion _) contents
  exact congrArg (fun r => r >>= fun a => e.addAction sw a true) read

/-- The counter of a counter action is one of a table. -/
def KnownCounter (sw : NasAclSwitch) (tableId : NasObjId) (a : NasAclAction) : Prop :=
  a.actionType = .setCounter →
    ∃ x, sw.findCounter tableId a.counterId = some x ∧ x.tableId = tableId

theorem knownCounter_of_none {tableId : NasObjId} {t : ActionType} {a : NasAclAction}
    (none_ : e.alist.find .setCounter = none) (found : e.alist.find t = some a) :
    KnownCounter sw tableId a := by
  intro counter
  obtain rfl := e.alist.keyed t a found
  change a.actionType = .setCounter at counter
  rw [counter, none_] at found
  cases found

/-- Actions whose counters are known can all be added. -/
theorem addActions_ok (known : ∀ a ∈ l, KnownCounter sw e.tableId a)
    (fresh : e.isAttrDirty .entryAction ∨ e.alist = .empty) :
    ∃ e', addActions sw l e = .ok e' ∧ e'.alist = l.foldl (fun m a => m.put a) e.alist := by
  induction l generalizing e with
  | nil => exact ⟨e, rfl, rfl⟩
  | cons a rest ih =>
      obtain ⟨here, known⟩ := List.forall_mem_cons.mp known
      have kept : (e.resetActions true).alist = e.alist := by
        unfold NasAclEntry.resetActions
        split
        · rename_i clean
          rcases fresh with dirty | none_
          · rw [dirty] at clean
            cases clean
          · exact none_.symm
        · rfl
      have put : e.putAction a true
          = { e with base := e.base.markAttrDirty .entryAction, alist := e.alist.put a } := by
        rw [NasAclEntry.putAction_frame, kept]
      have added : e.addAction sw a true = .ok (e.putAction a true) := by
        refine NasAclEntry.addAction_ok.mpr ⟨rfl, fun counter => ?_⟩
        have named : (e.putAction a true).counterId = a.counterId := by
          rw [put, NasAclEntry.counterId, ← counter]
          simp only [Keyed.find_put_self]
        rw [named, put]
        exact here counter
      have dirty : (e.putAction a true).isAttrDirty .entryAction := by
        rw [put]
        exact decide_eq_true (Finset.mem_insert_self ..)
      have table : (e.putAction a true).tableId = e.tableId := by rw [put]
      obtain ⟨e', ran, result⟩ := ih (table ▸ known) (.inl dirty)
      refine ⟨e', ?_, ?_⟩
      · rw [addActions, List.foldlM_cons, added]
        exact ran
      · rw [result, List.foldl_cons, put]

end Lists

/-! ## The actions of an entry -/

/-- The entries a decoder leaves: from a new one, by any action lists and actions that were
accepted, with any other edits in between. -/
inductive ActionsDecoded (p : Platform) : NasAclEntry → Prop
  | new (tableId : NasObjId) : ActionsDecoded p (.new p tableId)
  | list {e e' : NasAclEntry} {sw : NasAclSwitch} {obj : List CpsAttr} {it : CpsAttr}
      (before : ActionsDecoded p e) (set : setActionList p sw obj it e = .ok e') :
      ActionsDecoded p e'
  | attr {e e' : NasAclEntry} {sw : NasAclSwitch} {obj : List CpsAttr} {v : UInt32}
      {path : List AttrId} {reset : Bool} (before : ActionsDecoded p e)
      (set : setActionAttr p sw obj v path reset e = .ok e') : ActionsDecoded p e'
  | removed {e : NasAclEntry} (t : ActionType) (before : ActionsDecoded p e) :
      ActionsDecoded p (e.removeAction t)
  | other {e e' : NasAclEntry} (before : ActionsDecoded p e) (actions : e'.alist = e.alist) :
      ActionsDecoded p e'

/-- Every action was read from some object. -/
def ActionsRead (p : Platform) (e : NasAclEntry) : Prop :=
  ∀ t a, e.alist.find t = some a → ∃ obj v path, readAction p obj v path = .ok a

theorem actionsRead_set {p : Platform} {sw : NasAclSwitch} {e e' : NasAclEntry}
    {obj : List CpsAttr} {v : UInt32} {path : List AttrId} {reset : Bool}
    (held : ActionsRead p e) (set : setActionAttr p sw obj v path reset e = .ok e') :
    ActionsRead p e' := by
  obtain ⟨a, read, added⟩ := setActionAttr_ok.mp set
  obtain ⟨rfl, -⟩ := NasAclEntry.addAction_ok.mp added
  intro t b found
  rw [NasAclEntry.putAction_frame] at found
  simp only [Keyed.find_put] at found
  split at found
  · cases found
    exact ⟨_, _, _, read⟩
  · unfold NasAclEntry.resetActions at found
    split at found
    · cases found
    · exact held t b found

theorem ActionsDecoded.read {p : Platform} {e : NasAclEntry} (decoded : ActionsDecoded p e) :
    ActionsRead p e := by
  induction decoded with
  | new tableId =>
      intro t a found
      cases found
  | list before set ih =>
      exact forEachElement_invariant (P := ActionsRead p)
        (fun v path e e' pre turn => actionsRead_set pre turn) ih set
  | attr before set ih => exact actionsRead_set ih set
  | removed t before ih =>
      intro t' a found
      simp only [NasAclEntry.removeAction, Keyed.find_erase] at found
      split at found
      · cases found
      · exact ih t' a found
  | other before actions ih =>
      unfold ActionsRead
      rw [actions]
      exact ih

/-! ## The round trip -/

/-- What is written for the actions of an entry gives them back. -/
def ActionsRoundTrip (p : Platform) (sw : NasAclSwitch) (e : NasAclEntry) : Prop :=
  ∃ adds, fillActionAttrList p e = .ok (adds, true) ∧
    ∀ base, Tlv.Fresh .entryAction base →
      ∃ e', setActionLists p sw (Tlv.addAll adds base) (.new p e.tableId) = .ok e' ∧
        e'.alist = e.alist

/-- An action list that was decoded, and whose counter still exists, comes back exactly when
it has no empty port list and no empty object list. -/
theorem actionList_roundTrip_iff {p : Platform} {sw : NasAclSwitch} {e : NasAclEntry}
    (decoded : ActionsDecoded p e)
    (known : ∀ t a, e.alist.find t = some a → KnownCounter sw e.tableId a) :
    ActionsRoundTrip p sw e ↔ ∀ t a, e.alist.find t = some a → ¬ a.Empty := by
  have found {a : NasAclAction} (mem : a ∈ e.alist.items p.actionOrder) :
      e.alist.find a.actionType = some a := Keyed.mem_items.mp mem
  constructor
  · rintro ⟨adds, filled, -⟩ t a held empty
    obtain rfl := e.alist.keyed t a held
    exact fillActionAttrList_empty (Keyed.mem_items.mpr held) empty filled
  · intro some_
    have written : ∀ a ∈ e.alist.items p.actionOrder, a.Written p (actionAdds p a) := by
      intro a mem
      obtain ⟨obj, v, path, read⟩ := decoded.read _ a (found mem)
      exact readAction_written read (some_ _ a (found mem))
    refine ⟨_, fillActionAttrList_ok written, fun base fresh => ?_⟩
    have counters : ∀ a ∈ e.alist.items p.actionOrder,
        KnownCounter sw (NasAclEntry.new p e.tableId).tableId a := fun a mem => known _ a (found mem)
    obtain ⟨e', ran, result⟩ := addActions_ok counters (.inr rfl)
    refine ⟨e', ?_, result.trans (Keyed.ofItems_items p.actionOrder e.alist)⟩
    rw [setActionLists_written written fresh]
    exact ran

/-! ### On the bench -/

/-- A new entry that is given an action list. -/
def actedEntry (actions : List (List CpsAttr)) : Except Exn NasAclEntry :=
  let it := Bench.listAttr .entryAction actions
  setActionList Bench.platform .new [it] it (.new Bench.platform 1)

theorem actedEntry_decoded {actions : List (List CpsAttr)} {test : NasAclEntry → Bool}
    (passed : (actedEntry actions).toOption.any test = true) :
    ∃ e, ActionsDecoded Bench.platform e ∧ test e := by
  obtain ⟨e, set, good⟩ := except_any_iff.mp passed
  exact ⟨e, .list (.new 1) set, good⟩

/-- A port list and an action without a value come back. -/
theorem actionList_roundTrip_ports :
    ∃ e, ActionsDecoded Bench.platform e ∧ ActionsRoundTrip Bench.platform .new e ∧
      (e.alist.find .egressMask).map (·.ifindexList) = some [3, 9] ∧
      (e.alist.find .decrementTtl).isSome := by
  have passed : (actedEntry
      [Bench.actionElem .egressMask
        [Bench.u32 (.actionValue .egressMask) 3, Bench.u32 (.actionValue .egressMask) 9],
        Bench.actionElem .decrementTtl []]).toOption.any (fun e =>
        decide ((e.alist.find .setCounter = none) ∧
          ∀ t : ActionType, ∀ a ∈ e.alist.find t, ¬ a.Empty) &&
        decide ((e.alist.find .egressMask).map (·.ifindexList) = some [3, 9] ∧
          (e.alist.find .decrementTtl).isSome)) = true := by decide +kernel
  obtain ⟨e, decoded, test⟩ := actedEntry_decoded passed
  obtain ⟨condition, held⟩ := Bool.and_eq_true_iff.mp test
  obtain ⟨countless, some_⟩ := of_decide_eq_true condition
  exact ⟨e, decoded,
    (actionList_roundTrip_iff decoded fun t a found => knownCounter_of_none countless found).mpr some_,
    of_decide_eq_true held⟩

/-- A port list without a port is accepted and cannot be written. -/
theorem actionList_not_always_roundTrip :
    ¬ ∀ (p : Platform) (sw : NasAclSwitch) (e : NasAclEntry), ActionsDecoded p e →
      (∀ t a, e.alist.find t = some a → KnownCounter sw e.tableId a) →
      ActionsRoundTrip p sw e := by
  intro claim
  have passed : (actedEntry [Bench.actionElem .egressMask []]).toOption.any (fun e =>
      decide (e.alist.find .setCounter = none) &&
        decide (((fillActionAttrList Bench.platform e).toOption.map Prod.snd) = some false)) = true := by
    decide +kernel
  obtain ⟨e, decoded, test⟩ := actedEntry_decoded passed
  obtain ⟨countless, failed⟩ := Bool.and_eq_true_iff.mp test
  obtain ⟨adds, filled, -⟩ := claim Bench.platform .new e decoded fun t a found =>
    knownCounter_of_none (of_decide_eq_true countless) found
  have failed := of_decide_eq_true failed
  rw [filled] at failed
  cases failed

end SonicNasAcl
