/-
# Decoding -- which values the decoder of an attribute object takes

A value is well formed when every attribute its descriptor asks for is there, has its
length and lies in its range.  `MapData.WellFormed` says so once for each of the five
layouts (a plain attribute, embedded children, a list of embedded children, interfaces
as siblings, an opaque table), and `MapData.items` is what a value decodes to.

* `getDataFromObj_accepts`: a single attribute is taken exactly when it is well formed;
* `copyDataFromObj_accepts`: so is a value, or it is a list with nothing in it
  (`MapData.EmptyList`), which has a container at most;
* `decoder_accepts_iff`: the decoder takes exactly the well-formed values exactly when
  the value at hand is not such a list.
-/
import SonicNasAcl.Bench
import SonicNasAcl.CpsMaps

namespace SonicNasAcl

set_option autoImplicit false

open Lib

/-- `nas::base_exception`. -/
def BaseExn (e : Exn) : Prop := ∃ errCode errMsg, e = .base errCode errMsg

namespace MapData

variable {p : Platform} {obj : List CpsAttr} {path : List AttrId} {name : String}

/-! ## One attribute -/

/-- The bytes of an attribute, as an item of the descriptor's type. -/
def item (p : Platform) (d : MapData) (attr : CpsAttr) : CommonData :=
  match d.dataType with
  | .u8 => .ofU8 attr.dataU8
  | .u16 => .ofU16 attr.dataU16
  | .u32 => .ofU32 attr.dataU32
  | .u64 => .ofU64 attr.dataU64
  | .objId => .ofObjId attr.dataU64
  | .ifindex => .ofIfindex attr.dataU32
  | .bin => .ofBytes attr.value
  | .opaqueData => { ndiObjIdTable := (p.unserialize attr).getD ∅ }
  | _ => {}

/-- The number in an attribute of a type that can have a range. -/
def number (d : MapData) (attr : CpsAttr) : Nat :=
  match d.dataType with
  | .u8 => attr.dataU8.toNat
  | .u16 => attr.dataU16.toNat
  | .u32 => attr.dataU32.toNat
  | _ => 0

/-- An attribute is what the descriptor asks for. -/
def Fits (p : Platform) (d : MapData) (attr : CpsAttr) : Prop :=
  if d.dataType = .opaqueData then (p.unserialize attr).isSome = true
  else (d.dataLen ≠ 0 → attr.value.length = d.dataLen) ∧
    (d.rangeMax ≠ 0 → d.rangeMin ≤ d.number attr ∧ d.number attr ≤ d.rangeMax)

instance (p : Platform) (d : MapData) (attr : CpsAttr) : Decidable (d.Fits p attr) :=
  inferInstanceAs (Decidable (if d.dataType = .opaqueData then (p.unserialize attr).isSome = true
    else (d.dataLen ≠ 0 → attr.value.length = d.dataLen) ∧
      (d.rangeMax ≠ 0 → d.rangeMin ≤ d.number attr ∧ d.number attr ≤ d.rangeMax)))

/-- The attribute at a path fits the descriptor; an optional one may be missing. -/
def WellFormedAt (p : Platform) (d : MapData) (obj : List CpsAttr) (path : List AttrId) : Prop :=
  match Tlv.get path obj with
  | none => d.mode = .optional
  | some attr => d.Fits p attr

/-- What stands for an optional attribute that is missing: the largest value of the
range, or every bit set. -/
def filled (d : MapData) : CommonData :=
  match d.dataType with
  | .u8 => .ofU8 (if d.rangeMax ≠ 0 then UInt8.ofNat d.rangeMax else 0xff)
  | .u16 => .ofU16 (if d.rangeMax ≠ 0 then UInt16.ofNat d.rangeMax else 0xffff)
  | .u32 => .ofU32 (if d.rangeMax ≠ 0 then UInt32.ofNat d.rangeMax else 0xffffffff)
  | .u64 => .ofU64 0xffffffffffffffff
  | .bin => .ofBytes (List.replicate d.dataLen 0xff)
  | _ => {}

/-- The item an attribute decodes to. -/
def itemAt (p : Platform) (d : MapData) (obj : List CpsAttr) (path : List AttrId) : CommonData :=
  match Tlv.get path obj with
  | none => d.filled
  | some attr => d.item p attr

/-- A descriptor of a single attribute, of a type that is read; only numbers and bytes
are optional, only short numbers have a range. -/
structure Leaf (d : MapData) : Prop where
  readable : d.dataType ∈ [.u8, .u16, .u32, .u64, .objId, .ifindex, .bin, .opaqueData]
  fillable : d.mode = .optional → d.dataType ∈ [.u8, .u16, .u32, .u64, .bin]
  ranged : d.rangeMax ≠ 0 → d.dataType ∈ [.u8, .u16, .u32]

/-- A missing optional attribute is filled in. -/
theorem Leaf.fill {d : MapData} (leaf : d.Leaf) (optional : d.mode = .optional) :
    fillOptionalAttr p d name = .ok d.filled := by
  have kind := leaf.fillable optional
  simp only [List.mem_cons, List.not_mem_nil, or_false] at kind
  unfold fillOptionalAttr filled
  rcases kind with kind | kind | kind | kind | kind <;> rw [kind]

/-- The bytes of a present attribute are read. -/
theorem Leaf.read {d : MapData} (leaf : d.Leaf) (plain : d.dataType ≠ .opaqueData)
    (attr : CpsAttr) : cpsWrAttrData attr d.dataType name = .ok (d.item p attr) := by
  have kind := leaf.readable
  simp only [List.mem_cons, List.not_mem_nil, or_false] at kind
  unfold cpsWrAttrData item
  rcases kind with kind | kind | kind | kind | kind | kind | kind | kind <;> rw [kind]
  exact absurd kind plain

/-- The range check never fails to be one. -/
theorem Leaf.validate {d : MapData} (leaf : d.Leaf) (attr : CpsAttr) :
    validateRange p d (d.item p attr)
      = .ok (decide (d.rangeMax ≠ 0 → d.rangeMin ≤ d.number attr ∧ d.number attr ≤ d.rangeMax)) := by
  unfold validateRange
  by_cases unbounded : d.rangeMax = 0
  · rw [if_pos unbounded]
    simp [unbounded]
  · rw [if_neg unbounded]
    have kind := leaf.ranged unbounded
    simp only [List.mem_cons, List.not_mem_nil, or_false] at kind
    unfold item number inRange
    rcases kind with kind | kind | kind <;> simp [kind, unbounded]

end MapData

open MapData

variable {p : Platform} {obj : List CpsAttr} {path : List AttrId} {name : String}

/-- A single attribute is taken exactly when it is well formed. -/
theorem getDataFromObj_accepts {d : MapData} (leaf : d.Leaf) :
    Accepts BaseExn (d.WellFormedAt p obj path) (d.itemAt p obj path)
      (getDataFromObj p obj path d name) := by
  unfold getDataFromObj WellFormedAt itemAt
  by_cases opaque_ : d.dataType = .opaqueData
  · have notOptional : d.mode ≠ .optional := by
      intro optional
      have kind := leaf.fillable optional
      simp [opaque_] at kind
    rw [if_pos opaque_]
    cases found : Tlv.get path obj with
    | none => exact .inr ⟨notOptional, _, ⟨_, _, rfl⟩, rfl⟩
    | some attr =>
        simp only [Option.bind_some, Fits, opaque_, if_true, item]
        cases p.unserialize attr with
        | none => exact .inr ⟨Bool.false_ne_true, _, ⟨_, _, rfl⟩, rfl⟩
        | some table => exact .inl ⟨rfl, rfl⟩
  · rw [if_neg opaque_]
    cases found : Tlv.get path obj with
    | none =>
        cases mode : d.mode with
        | mandatory =>
            simp only [if_true]
            exact .inr ⟨AttrMode.noConfusion, _, ⟨_, _, rfl⟩, rfl⟩
        | optional =>
            simp only [reduceCtorEq, if_false]
            exact .inl ⟨trivial, leaf.fill mode⟩
    | some attr =>
        simp only [Fits, opaque_, if_false]
        by_cases short : d.dataLen ≠ 0 ∧ d.dataLen ≠ attr.value.length
        · rw [if_pos short]
          refine .inr ⟨?_, _, ⟨_, _, rfl⟩, rfl⟩
          rintro ⟨length, -⟩
          exact short.2 (length short.1).symm
        · have length : d.dataLen ≠ 0 → attr.value.length = d.dataLen := by
            intro fixed
            by_contra other
            exact short ⟨fixed, Ne.symm other⟩
          rw [if_neg short, leaf.read (p := p) opaque_ attr, except_ok_bind,
            leaf.validate (p := p) attr, except_ok_bind]
          by_cases inside : d.rangeMax ≠ 0 → d.rangeMin ≤ d.number attr ∧ d.number attr ≤ d.rangeMax
          · rw [decide_eq_true inside, if_pos rfl]
            exact .inl ⟨⟨length, inside⟩, rfl⟩
          · rw [decide_eq_false inside, if_neg Bool.false_ne_true]
            exact .inr ⟨fun both => inside both.2, _, ⟨_, _, rfl⟩, rfl⟩

/-! ## A whole value -/

/-- The attributes beside which the interfaces of a value stand: the top of the object,
or the inside of the container the path leads to. -/
def siblings (obj : List CpsAttr) (parentList : List AttrId) : List CpsAttr :=
  if parentList = [] then obj else ((Tlv.get parentList obj).map Tlv.inside).getD []

namespace MapData

/-- A value has every attribute its descriptor asks for: at least one interface, at least
one element, every child of every element. -/
def WellFormed (p : Platform) (val : MapData) (childList : List MapData) (obj : List CpsAttr)
    (parentList : List AttrId) : Prop :=
  match val.dataType with
  | .iflist => ∃ attr ∈ siblings obj parentList, attr.id = val.attrId
  | .embeddedList => ∃ list, Tlv.get (parentList ++ [val.attrId]) obj = some list ∧
      list.inside ≠ [] ∧ ∀ elem ∈ list.inside, ∀ d ∈ childList,
        d.WellFormedAt p obj (parentList ++ [val.attrId, elem.id, d.attrId])
  | .embedded => ∀ d ∈ childList, d.WellFormedAt p obj (parentList ++ [val.attrId, d.attrId])
  | _ => val.WellFormedAt p obj (parentList ++ [val.attrId])

/-- What a value decodes to: one item for each child, of each element. -/
def items (p : Platform) (val : MapData) (childList : List MapData) (obj : List CpsAttr)
    (parentList : List AttrId) : List CommonData :=
  match val.dataType with
  | .iflist => [{ ifindexList := scanIfval val.attrId (siblings obj parentList) }]
  | .embeddedList =>
      ((Tlv.get (parentList ++ [val.attrId]) obj).map Tlv.inside).getD [] |>.flatMap fun elem =>
        childList.map fun d => d.itemAt p obj (parentList ++ [val.attrId, elem.id, d.attrId])
  | .embedded => childList.map fun d => d.itemAt p obj (parentList ++ [val.attrId, d.attrId])
  | _ => [val.itemAt p obj (parentList ++ [val.attrId])]

/-- A list with nothing in it: interfaces that are looked for where there are none, or a
container without elements. -/
def EmptyList (val : MapData) (obj : List CpsAttr) (parentList : List AttrId) : Prop :=
  match val.dataType with
  | .iflist => (parentList = [] ∨ (Tlv.get parentList obj).isSome) ∧
      ∀ attr ∈ siblings obj parentList, attr.id ≠ val.attrId
  | .embeddedList => ∃ list, Tlv.get (parentList ++ [val.attrId]) obj = some list ∧
      list.inside = []
  | _ => False

/-- A descriptor whose layout the decoder can follow. -/
structure Sound (val : MapData) (childList : List MapData) : Prop where
  children : val.dataType = .embedded ∨ val.dataType = .embeddedList → ∀ d ∈ childList, d.Leaf
  leaf : val.dataType ≠ .iflist → val.dataType ≠ .embedded → val.dataType ≠ .embeddedList →
    val.Leaf
  required : val.dataType = .embeddedList → val.mode = .mandatory

end MapData

section Values

variable {val : MapData} {childList : List MapData} {parentList : List AttrId}

/-- Children are taken together. -/
theorem getChildAttrsFromObj_accepts (leaves : ∀ d ∈ childList, d.Leaf) :
    Accepts BaseExn (∀ d ∈ childList, d.WellFormedAt p obj (parentList ++ [d.attrId]))
      (childList.map fun d => d.itemAt p obj (parentList ++ [d.attrId]))
      (getChildAttrsFromObj p obj parentList childList name) :=
  Accepts.mapM fun d mem => getDataFromObj_accepts (leaves d mem)

/-- The elements of a list are taken together; the list itself must be there. -/
theorem getChildListFromObj_accepts (leaves : ∀ d ∈ childList, d.Leaf)
    (required : val.mode = .mandatory) :
    Accepts BaseExn
      (∃ list, Tlv.get parentList obj = some list ∧ ∀ elem ∈ list.inside, ∀ d ∈ childList,
        d.WellFormedAt p obj (parentList ++ [elem.id] ++ [d.attrId]))
      (((Tlv.get parentList obj).map Tlv.inside).getD [] |>.flatMap fun elem =>
        childList.map fun d => d.itemAt p obj (parentList ++ [elem.id] ++ [d.attrId]))
      (getChildListFromObj p obj parentList val childList name) := by
  unfold getChildListFromObj
  cases found : Tlv.get parentList obj with
  | none =>
      simp only [required, if_true]
      refine .inr ⟨?_, _, ⟨_, _, rfl⟩, rfl⟩
      rintro ⟨list, here, -⟩
      cases here
  | some list =>
      have elements : Accepts BaseExn _ _ (list.inside.mapM fun elem =>
          getChildAttrsFromObj p obj (parentList ++ [elem.id]) childList name) :=
        Accepts.mapM fun elem _ => getChildAttrsFromObj_accepts leaves
      simp only [Option.map_some, Option.getD_some, Option.some.injEq, exists_eq_left',
        List.flatMap]
      exact elements.map List.flatten

/-- A value is taken exactly when it is well formed, or is a list with nothing in it. -/
theorem copyDataFromObj_accepts (sound : val.Sound childList) :
    Accepts BaseExn
      (val.WellFormed p childList obj parentList ∨ val.EmptyList obj parentList)
      (val.items p childList obj parentList)
      (copyDataFromObj p obj parentList val childList name) := by
  unfold copyDataFromObj
  by_cases ifs : val.dataType = .iflist
  · rw [if_pos ifs]
    unfold copyIflistDataFromObj WellFormed EmptyList items siblings
    simp only [ifs]
    by_cases flat : parentList = []
    · simp only [flat, if_true, true_or, true_and]
      refine .inl ⟨?_, rfl⟩
      by_cases some_ : ∃ attr ∈ obj, attr.id = val.attrId
      · exact .inl some_
      · exact .inr fun attr mem same => some_ ⟨attr, mem, same⟩
    · simp only [flat, if_false, false_or]
      cases found : Tlv.get parentList obj with
      | none =>
          refine .inr ⟨?_, _, ⟨_, _, rfl⟩, rfl⟩
          rintro (⟨attr, mem, -⟩ | ⟨there, -⟩)
          · cases mem
          · cases there
      | some list =>
          simp only [Option.map_some, Option.getD_some, Option.isSome_some, true_and]
          refine .inl ⟨?_, rfl⟩
          by_cases some_ : ∃ attr ∈ list.inside, attr.id = val.attrId
          · exact .inl some_
          · exact .inr fun attr mem same => some_ ⟨attr, mem, same⟩
  · rw [if_neg ifs]
    unfold copyNonIflistDataFromObj
    by_cases list : val.dataType = .embeddedList
    · rw [if_pos list]
      have taken : Accepts BaseExn _ _ (getChildListFromObj p obj (parentList ++ [val.attrId])
          val childList name) :=
        getChildListFromObj_accepts (sound.children (.inr list)) (sound.required list)
      simp only [List.append_assoc, List.cons_append, List.nil_append] at taken
      unfold WellFormed EmptyList items
      simp only [list]
      refine taken.congr ?_
      constructor
      · rintro ⟨it, found, all⟩
        by_cases none_ : it.inside = []
        · exact .inr ⟨it, found, none_⟩
        · exact .inl ⟨it, found, none_, all⟩
      · rintro (⟨it, found, -, all⟩ | ⟨it, found, none_⟩)
        · exact ⟨it, found, all⟩
        · refine ⟨it, found, fun elem mem => ?_⟩
          rw [none_] at mem
          cases mem
    · rw [if_neg list]
      by_cases embedded : val.dataType = .embedded
      · rw [if_pos embedded]
        have taken : Accepts BaseExn _ _ (getChildAttrsFromObj p obj (parentList ++ [val.attrId])
            childList name) :=
          getChildAttrsFromObj_accepts (sound.children (.inl embedded))
        simp only [List.append_assoc, List.cons_append, List.nil_append] at taken
        unfold WellFormed EmptyList items
        simp only [embedded, or_false]
        exact taken
      · rw [if_neg embedded]
        have taken : Accepts BaseExn _ _ (getDataFromObj p obj (parentList ++ [val.attrId]) val
            name) := getDataFromObj_accepts (sound.leaf ifs embedded list)
        have single := taken.map fun d => [d]
        unfold WellFormed EmptyList items
        cases kind : val.dataType with
        | iflist => exact absurd kind ifs
        | embedded => exact absurd kind embedded
        | embeddedList => exact absurd kind list
        | _ =>
            simp only [or_false]
            exact single

end Values

/-! ## The descriptors of the maps -/

theorem dataAndMask_sound {t : MatchType} {dataType : DataType} {dataLen dataMin rangeMax : Nat}
    {getFn : NasAclFilter → List CommonData}
    {setFn : List CommonData → NasAclFilter → Except Exn NasAclFilter}
    (fillable : dataType ∈ [.u8, .u16, .u32, .u64, .bin])
    (ranged : rangeMax ≠ 0 → dataType ∈ [.u8, .u16, .u32]) :
    let info := FilterInfo.dataAndMask t dataType dataLen getFn setFn dataMin rangeMax
    info.val.Sound info.childList := by
  intro info
  have readable : dataType ∈ [.u8, .u16, .u32, .u64, .objId, .ifindex, .bin, .opaqueData] := by
    revert fillable
    cases dataType <;> decide
  refine ⟨fun _ d mem => ?_, fun _ embedded => absurd rfl embedded, nofun⟩
  rcases List.mem_pair.mp mem with rfl | rfl
  · exact ⟨readable, nofun, ranged⟩
  · exact ⟨readable, fun _ => fillable, ranged⟩

theorem leaf_sound {val : MapData} {childList : List MapData}
    (kind : val.dataType ∈ [.u8, .u16, .u32, .u64, .objId, .ifindex, .bin])
    (mode : val.mode = .mandatory) (ranged : val.rangeMax ≠ 0 → val.dataType ∈ [.u8, .u16, .u32]) :
    val.Sound childList := by
  have plain : val.dataType ≠ .embedded ∧ val.dataType ≠ .embeddedList ∧
      val.dataType ∈ [.u8, .u16, .u32, .u64, .objId, .ifindex, .bin, .opaqueData] := by
    revert kind
    cases val.dataType <;> decide
  refine ⟨?_, fun _ _ _ => ⟨plain.2.2, ?_, ranged⟩, fun _ => mode⟩
  · rintro (embedded | list)
    · exact absurd embedded plain.1
    · exact absurd list plain.2.1
  · intro optional
    rw [mode] at optional
    cases optional

theorem filterSingle_sound {t : MatchType} {dataType : DataType} {dataLen rangeMax : Nat}
    {getFn : NasAclFilter → List CommonData}
    {setFn : List CommonData → NasAclFilter → Except Exn NasAclFilter}
    (kind : dataType ∈ [.u8, .u16, .u32, .u64, .objId, .ifindex, .bin])
    (ranged : rangeMax ≠ 0 → dataType ∈ [.u8, .u16, .u32]) :
    let info := FilterInfo.single t dataType dataLen getFn setFn rangeMax
    info.val.Sound info.childList :=
  leaf_sound kind rfl ranged

theorem actionSingle_sound {t : ActionType} {dataType : DataType}
    {dataLen rangeMin rangeMax : Nat} {getFn : NasAclAction → List CommonData}
    {setFn : List CommonData → NasAclAction → Except Exn NasAclAction} {childList : List MapData}
    (kind : dataType ∈ [.u8, .u16, .u32, .u64, .objId, .ifindex, .bin])
    (ranged : rangeMax ≠ 0 → dataType ∈ [.u8, .u16, .u32]) :
    let info := ActionInfo.single t dataType dataLen getFn setFn rangeMin rangeMax childList
    info.val.Sound info.childList :=
  leaf_sound kind rfl ranged

theorem iflist_sound {val : MapData} {childList : List MapData} (kind : val.dataType = .iflist) :
    val.Sound childList := by
  refine ⟨?_, fun other => absurd kind other, ?_⟩
  · rintro (embedded | list)
    · cases kind.symm.trans embedded
    · cases kind.symm.trans list
  · intro list
    cases kind.symm.trans list

theorem objects_sound {t : ActionType} {dataType : DataType}
    {setFn : List CommonData → NasAclAction → Except Exn NasAclAction}
    (kind : dataType = .embedded ∨ dataType = .embeddedList) :
    let info := ActionInfo.objects p t dataType setFn
    info.val.Sound info.childList := by
  intro info
  refine ⟨fun _ d mem => ?_, fun _ notOne notList => ?_, fun _ => rfl⟩
  · rcases List.mem_pair.mp mem with rfl | rfl
    · exact ⟨by simp, nofun, nofun⟩
    · exact ⟨by simp, nofun, nofun⟩
  · rcases kind with one | list
    · exact absurd one notOne
    · exact absurd list notList

/-- Every row of the filter map can be followed. -/
theorem filterMap_sound (p : Platform) (t : MatchType) :
    (filterMap p t).val.Sound (filterMap p t).childList := by
  cases t
  case inPorts | outPorts => exact iflist_sound rfl
  case inPort | outPort | ipType | ipFrag | outerVlanCfi | innerVlanCfi =>
    exact filterSingle_sound (by decide) (by decide)
  all_goals exact dataAndMask_sound (by decide) (by decide)

/-- Every row of the action map that has a value can be followed. -/
theorem actionMap_sound (p : Platform) (t : ActionType)
    (hasValue : (actionMap p t).val.dataType ≠ .none) :
    (actionMap p t).val.Sound (actionMap p t).childList := by
  cases t
  case flood | decrementTtl => exact absurd rfl hasValue
  case egressMask | redirectPortList => exact iflist_sound rfl
  case redirectIpNexthop | setPolicer | setCpuQueue => exact objects_sound (.inl rfl)
  case mirrorIngress | mirrorEgress => exact objects_sound (.inr rfl)
  all_goals exact actionSingle_sound (by decide) (by decide)

/-- A descriptor of the two maps, of a value that is not NONE. -/
def MapRow (p : Platform) (val : MapData) (childList : List MapData) : Prop :=
  (∃ t, val = (filterMap p t).val ∧ childList = (filterMap p t).childList) ∨
    ∃ t, (actionMap p t).val.dataType ≠ .none ∧ val = (actionMap p t).val ∧
      childList = (actionMap p t).childList

theorem MapRow.sound {val : MapData} {childList : List MapData} (row : MapRow p val childList) :
    val.Sound childList := by
  rcases row with ⟨t, rfl, rfl⟩ | ⟨t, hasValue, rfl, rfl⟩
  · exact filterMap_sound p t
  · exact actionMap_sound p t hasValue

/-- A list with nothing in it is not well formed. -/
theorem MapData.EmptyList.not_wellFormed {val : MapData} {childList : List MapData}
    {parentList : List AttrId} (empty : val.EmptyList obj parentList) :
    ¬ val.WellFormed p childList obj parentList := by
  unfold EmptyList at empty
  unfold WellFormed
  cases kind : val.dataType with
  | iflist =>
      simp only [kind] at empty
      rintro ⟨attr, mem, same⟩
      exact empty.2 attr mem same
  | embeddedList =>
      simp only [kind] at empty
      obtain ⟨list, found, nothing⟩ := empty
      rintro ⟨list', found', some_, -⟩
      rw [found] at found'
      cases found'
      exact some_ nothing
  | _ =>
      simp only [kind] at empty

/-- The decoder takes exactly the well-formed values, exactly when the value at hand is
not a list with nothing in it. -/
theorem decoder_accepts_iff {p : Platform} {val : MapData} {childList : List MapData}
    (row : MapRow p val childList) (obj : List CpsAttr) (parentList : List AttrId)
    (name : String) :
    ((∀ items, copyDataFromObj p obj parentList val childList name = .ok items ↔
        val.WellFormed p childList obj parentList ∧ items = val.items p childList obj parentList) ∧
      (¬ val.WellFormed p childList obj parentList →
        ∃ e, BaseExn e ∧ copyDataFromObj p obj parentList val childList name = .error e)) ↔
      ¬ val.EmptyList obj parentList := by
  have taken : Accepts BaseExn _ _ (copyDataFromObj p obj parentList val childList name) :=
    copyDataFromObj_accepts row.sound
  constructor
  · rintro ⟨returns, -⟩ empty
    have returned := taken.ok_iff.mpr ⟨.inr empty, rfl⟩
    exact empty.not_wellFormed ((returns _).mp returned).1
  · intro some_
    refine ⟨fun items => ?_, fun bad => ?_⟩
    · rw [taken.ok_iff, or_iff_left some_]
    · exact taken.error_of_not (not_or.mpr ⟨bad, some_⟩)

/-! ### On the bench -/

/-- A VLAN id without a mask. -/
def vlanId7 : List CpsAttr :=
  [.mk (.matchValue .outerVlanId) []
    [.mk (.matchValueData .outerVlanId) (bytesU16 7) []]]

theorem decoder_accepts_vlanId7 :
    let info := filterMap Bench.platform .outerVlanId
    ((∀ items, copyDataFromObj Bench.platform vlanId7 [] info.val info.childList info.name
          = .ok items ↔
        info.val.WellFormed Bench.platform info.childList vlanId7 [] ∧
          items = info.val.items Bench.platform info.childList vlanId7 []) ∧
      (¬ info.val.WellFormed Bench.platform info.childList vlanId7 [] →
        ∃ e, BaseExn e ∧
          copyDataFromObj Bench.platform vlanId7 [] info.val info.childList info.name
            = .error e)) ∧
      copyDataFromObj Bench.platform vlanId7 [] info.val info.childList info.name
        = .ok [.ofU16 7, .ofU16 4094] :=
  ⟨(decoder_accepts_iff (.inl ⟨.outerVlanId, rfl, rfl⟩) vlanId7 [] _).mpr id, by decide +kernel⟩

/-- The interfaces of IN_PORTS are taken when there are none. -/
theorem decoder_accepts_too_much :
    ¬ ∀ (p : Platform) (val : MapData) (childList : List MapData), MapRow p val childList →
      ∀ (obj : List CpsAttr) (parentList : List AttrId) (name : String),
        (∀ items, copyDataFromObj p obj parentList val childList name = .ok items ↔
          val.WellFormed p childList obj parentList ∧
            items = val.items p childList obj parentList) ∧
        (¬ val.WellFormed p childList obj parentList →
          ∃ e, BaseExn e ∧ copyDataFromObj p obj parentList val childList name = .error e) := by
  intro claim
  obtain ⟨returns, -⟩ := claim Bench.platform _ _ (.inl ⟨.inPorts, rfl, rfl⟩) [] [] ""
  have returned : copyDataFromObj Bench.platform [] [] (filterMap Bench.platform .inPorts).val
      (filterMap Bench.platform .inPorts).childList "" = .ok [{}] := rfl
  obtain ⟨⟨attr, mem, -⟩, -⟩ := (returns _).mp returned
  cases mem

end SonicNasAcl
