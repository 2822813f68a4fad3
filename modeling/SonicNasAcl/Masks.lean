/-
# Masks -- what a filter without a mask matches

The NDI matches a field when it agrees with the data on the bits of the mask.  A request
that gives no mask asks for the value itself, so the mask that is filled in has to tell the
value from every other one of its range (`NasAclFilter.ExactMatch`).

* `dataAndMask_read`: without a mask a filter is read from its data and the filled-in mask;
* `u8_exact`, `u16_exact`, `u32_exact`, `bytes_exact`: a mask of all bits the range uses is exact;
* `vlanId_exact_iff`: the mask of a VLAN id is its largest value, 4094, whose lowest bit is
  clear, so only 1 and 4094, which have no neighbour in the range, are matched exactly;
* `cfi_not_exact`: a CFI has no mask attribute and keeps the mask 0, which matches anything;
* `default_mask_exact_iff`: every other type matches exactly.
-/
import SonicNasAcl.Decoding
import SonicNasAcl.Lib.Masks
import SonicNasAcl.Reading

namespace SonicNasAcl

set_option autoImplicit false

open Lib

/-! ## Exact matches -/

/-- A number of a width that lies in the range of the attribute, if it has one. -/
def MapData.Admits (d : MapData) (width n : Nat) : Prop :=
  n < 2 ^ width ∧ (d.rangeMax ≠ 0 → d.rangeMin ≤ n ∧ n ≤ d.rangeMax)

/-- The attribute that carries the data: the first child, or the value itself. -/
def FilterInfo.data (info : FilterInfo) : MapData := info.childList.headD info.val

/-- No other value of the type's range, or width, agrees with the data on the mask. -/
def NasAclFilter.ExactMatch (p : Platform) (f : NasAclFilter) : Prop :=
  let data := (filterMap p f.filterType).data
  match f.fInfo.values with
  | .u8 v m => Separates (data.Admits 8) v.toNat m.toNat
  | .u16 v m => Separates (data.Admits 16) v.toNat m.toNat
  | .u32 v m => Separates (data.Admits 32) v.toNat m.toNat
  | .ipv4Addr v m | .ipv6Addr v m | .macAddr v m =>
      ∀ w : List UInt8, w.length = data.dataLen →
        List.zipWith (· &&& ·) w m = List.zipWith (· &&& ·) v m → w = v
  | _ => False

/-- The types stored with a mask: all but the ports and the enumerated ones. -/
abbrev MatchType.Masked (t : MatchType) : Prop :=
  t ∉ [.inPorts, .outPorts, .inPort, .outPort, .ipType, .ipFrag]

/-- The types of a VLAN id. -/
abbrev MatchType.IsVlanId (t : MatchType) : Prop := t ∈ [.outerVlanId, .innerVlanId]

/-- The types of a CFI bit. -/
abbrev MatchType.IsCfi (t : MatchType) : Prop := t ∈ [.outerVlanCfi, .innerVlanCfi]

/-! ## Reading without a mask -/

variable {p : Platform} {obj : List CpsAttr} {path : List AttrId} {v : UInt32}
  {t : MatchType}

/-- The data attribute of a type that has children. -/
theorem dataAndMask_read {dataType : DataType} {dataLen dataMin rangeMax : Nat}
    {getFn : NasAclFilter → List CommonData}
    {setFn : List CommonData → NasAclFilter → Except Exn NasAclFilter} {f : NasAclFilter}
    (row : filterMap p t = .dataAndMask t dataType dataLen getFn setFn dataMin rangeMax)
    (named : p.matchTypes.decode v = some t) (read : readFilter p obj v path = .ok f)
    (noMask : Tlv.get (path ++ [.matchValue t, .matchValueMask t]) obj = none) :
    let data : MapData := ⟨.matchValueData t, dataType, dataLen, .mandatory, dataMin, rangeMax⟩
    let mask : MapData := ⟨.matchValueMask t, dataType, dataLen, .optional, 0, rangeMax⟩
    (filterMap p t).data = data ∧
      ∃ attr, Tlv.get (path ++ [.matchValue t, .matchValueData t]) obj = some attr ∧
        data.Fits p attr ∧ setFn [data.item p attr, mask.filled] (.new t) = .ok f := by
  intro data mask
  obtain ⟨t', named', l, copied, set⟩ := readFilter_ok.mp read
  rw [named] at named'
  cases named'
  have taken : Accepts BaseExn _ _ (copyDataFromObj p obj path (filterMap p t).val
      (filterMap p t).childList (filterMap p t).name) :=
    copyDataFromObj_accepts (filterMap_sound p t)
  obtain ⟨good, rfl⟩ := taken.ok_iff.mp copied
  rw [row] at good set ⊢
  refine ⟨rfl, ?_⟩
  have children : ∀ d ∈ [data, mask], d.WellFormedAt p obj (path ++ [.matchValue t, d.attrId]) := by
    rcases good with good | empty
    · exact good
    · cases empty
  have present := children data (List.mem_cons_self ..)
  have masked : mask.itemAt p obj (path ++ [.matchValue t, .matchValueMask t]) = mask.filled := by
    rw [MapData.itemAt, noMask]
  cases found : Tlv.get (path ++ [.matchValue t, .matchValueData t]) obj with
  | none =>
      rw [MapData.WellFormedAt, found] at present
      cases present
  | some attr =>
      rw [MapData.WellFormedAt, found] at present
      refine ⟨attr, rfl, present, ?_⟩
      have given : data.itemAt p obj (path ++ [.matchValue t, .matchValueData t])
          = data.item p attr := by
        rw [MapData.itemAt, found]
      rw [← given, ← masked]
      exact set

/-! ## Numbers -/

/-- A number read without a mask is matched exactly when the filled-in mask tells it from
the other numbers of the range. -/
theorem number_exactMatch {α : Type} {get : CommonData → α} {zero : α}
    {member : α → α → NdiFilterValue} {toNat : α → Nat} {width : Nat} {dataType : DataType}
    {dataLen dataMin rangeMax : Nat} {getFn : NasAclFilter → List CommonData} {f : NasAclFilter}
    (row : filterMap p t = .dataAndMask t dataType dataLen getFn
      (NasAclFilter.setScalarFilterVal get zero member) dataMin rangeMax)
    (named : p.matchTypes.decode v = some t) (read : readFilter p obj v path = .ok f)
    (noMask : Tlv.get (path ++ [.matchValue t, .matchValueMask t]) obj = none)
    (plain : dataType ≠ .opaqueData) (short : ∀ x, toNat x < 2 ^ width)
    (meaning : ∀ x y, ((NasAclFilter.new t).setValues (member x y)).ExactMatch p ↔
      Separates ((filterMap p t).data.Admits width) (toNat x) (toNat y))
    (item : ∀ attr, toNat (get ((filterMap p t).data.item p attr))
      = (filterMap p t).data.number attr) :
    ∃ attr, Tlv.get (path ++ [.matchValue t, .matchValueData t]) obj = some attr ∧
      (filterMap p t).data.Admits width ((filterMap p t).data.number attr) ∧
      (f.ExactMatch p ↔ Separates ((filterMap p t).data.Admits width)
        ((filterMap p t).data.number attr)
        (toNat (get (MapData.filled
          ⟨.matchValueMask t, dataType, dataLen, .optional, 0, rangeMax⟩)))) := by
  obtain ⟨data, attr, found, fits, set⟩ := dataAndMask_read row named read noMask
  cases set
  have number := item attr
  refine ⟨attr, found, ⟨?_, ?_⟩, ?_⟩
  · rw [← number]
    exact short _
  · rw [data]
    rw [MapData.Fits, if_neg plain] at fits
    exact fits.2
  · rw [meaning]
    rw [data] at number ⊢
    rw [number]
    exact Iff.rfl

/-- A mask of all the bits a range uses is exact. -/
theorem separates_admitted {d : MapData} {width k n m : Nat} (value : d.Admits width n)
    (ones : m = 2 ^ k - 1) (bits : k = width ∨ d.rangeMax ≠ 0 ∧ d.rangeMax < 2 ^ k) :
    Separates (d.Admits width) n m := by
  have narrow : ∀ w, d.Admits width w → w < 2 ^ k := by
    rintro w ⟨short, range⟩
    rcases bits with rfl | ⟨ranged, small⟩
    · exact short
    · exact (range ranged).2.trans_lt small
  rw [ones]
  exact separates_low (narrow n value) narrow

theorem u8_exact {k dataMin rangeMax : Nat} {f : NasAclFilter}
    (row : filterMap p t = .dataAndMask t .u8 1 NasAclFilter.getU8FilterVal
      NasAclFilter.setU8FilterVal dataMin rangeMax)
    (named : p.matchTypes.decode v = some t) (read : readFilter p obj v path = .ok f)
    (noMask : Tlv.get (path ++ [.matchValue t, .matchValueMask t]) obj = none)
    (ones : (if rangeMax ≠ 0 then UInt8.ofNat rangeMax else 0xff).toNat = 2 ^ k - 1)
    (bits : k = 8 ∨ rangeMax ≠ 0 ∧ rangeMax < 2 ^ k) : f.ExactMatch p := by
  have data : (filterMap p t).data
      = ⟨.matchValueData t, .u8, 1, .mandatory, dataMin, rangeMax⟩ := by
    rw [row]
    rfl
  have item : ∀ attr, ((filterMap p t).data.item p attr).u8.toNat
      = (filterMap p t).data.number attr := by
    intro attr
    rw [data]
    exact congrArg _ (CommonData.u8_ofU8 _)
  obtain ⟨attr, -, value, exact_⟩ := number_exactMatch row named read noMask
    DataType.noConfusion UInt8.toNat_lt (fun _ _ => Iff.rfl) item
  rw [exact_]
  apply separates_admitted value ?_ (by rw [data]; exact bits)
  rw [← ones]
  exact congrArg _ (CommonData.u8_ofU8 _)

theorem u16_exactMatch {dataMin rangeMax : Nat} {f : NasAclFilter}
    (row : filterMap p t = .dataAndMask t .u16 2 NasAclFilter.getU16FilterVal
      NasAclFilter.setU16FilterVal dataMin rangeMax)
    (named : p.matchTypes.decode v = some t) (read : readFilter p obj v path = .ok f)
    (noMask : Tlv.get (path ++ [.matchValue t, .matchValueMask t]) obj = none) :
    let data : MapData := ⟨.matchValueData t, .u16, 2, .mandatory, dataMin, rangeMax⟩
    ∃ attr : CpsAttr, Tlv.get (path ++ [.matchValue t, .matchValueData t]) obj = some attr ∧
      data.Admits 16 attr.dataU16.toNat ∧
      (f.ExactMatch p ↔ Separates (data.Admits 16) attr.dataU16.toNat
        (if rangeMax ≠ 0 then UInt16.ofNat rangeMax else 0xffff).toNat) := by
  intro data
  have row_data : (filterMap p t).data = data := by
    rw [row]
    rfl
  have item : ∀ attr, ((filterMap p t).data.item p attr).u16.toNat
      = (filterMap p t).data.number attr := by
    intro attr
    rw [row_data]
    exact congrArg _ (CommonData.u16_ofU16 _)
  obtain ⟨attr, found, value, exact_⟩ := number_exactMatch row named read noMask
    DataType.noConfusion UInt16.toNat_lt (fun _ _ => Iff.rfl) item
  have filled : (MapData.filled ⟨.matchValueMask t, .u16, 2, .optional, 0, rangeMax⟩).u16
      = if rangeMax ≠ 0 then UInt16.ofNat rangeMax else 0xffff := CommonData.u16_ofU16 _
  rw [row_data] at value exact_
  rw [filled] at exact_
  exact ⟨attr, found, value, exact_⟩

/-- Of the VLAN ids, 1 and 4094 are matched exactly: the mask 4094 does not look at the
lowest bit, and the numbers that differ from them in it are outside of the range. -/
theorem vlanId_exact_iff {f : NasAclFilter}
    (row : filterMap p t = .dataAndMask t .u16 2 NasAclFilter.getU16FilterVal
      NasAclFilter.setU16FilterVal 1 nasMaxVlanId)
    (named : p.matchTypes.decode v = some t) (read : readFilter p obj v path = .ok f)
    (noMask : Tlv.get (path ++ [.matchValue t, .matchValueMask t]) obj = none) :
    f.ExactMatch p ↔ ∃ attr : CpsAttr,
      Tlv.get (path ++ [.matchValue t, .matchValueData t]) obj = some attr ∧
        (attr.dataU16 = 1 ∨ attr.dataU16 = 4094) := by
  obtain ⟨attr, found, ⟨-, range⟩, exact_⟩ := u16_exactMatch row named read noMask
  have inside : 1 ≤ attr.dataU16.toNat ∧ attr.dataU16.toNat ≤ 4094 := range nofun
  have mask : (if nasMaxVlanId ≠ 0 then UInt16.ofNat nasMaxVlanId else 0xffff).toNat
      = 2 ^ (11 + 1) - 2 := rfl
  have admits : ∀ n, MapData.Admits
      ⟨.matchValueData t, .u16, 2, .mandatory, 1, nasMaxVlanId⟩ 16 n ↔ 1 ≤ n ∧ n ≤ 4094 := by
    intro n
    constructor
    · rintro ⟨-, range⟩
      exact range nofun
    · intro range
      exact ⟨by omega, fun _ => range⟩
  have narrow : ∀ n, MapData.Admits
      ⟨.matchValueData t, .u16, 2, .mandatory, 1, nasMaxVlanId⟩ 16 n → n < 2 ^ (11 + 1) := by
    intro n here
    have := (admits n).mp here
    omega
  rw [exact_, mask, separates_even_iff (by omega) narrow]
  simp only [found, Option.some.injEq, exists_eq_left', admits, ← UInt16.toNat_inj,
    UInt16.reduceToNat]
  constructor
  · intro alone
    by_contra between
    -- the neighbour of any other id is an id as well
    have neighbour := alone (4 * (attr.dataU16.toNat / 2) + 1 - attr.dataU16.toNat)
    omega
  · intro extreme w half other
    omega

theorem u16_exact {f : NasAclFilter}
    (row : filterMap p t = .dataAndMask t .u16 2 NasAclFilter.getU16FilterVal
      NasAclFilter.setU16FilterVal 0 0)
    (named : p.matchTypes.decode v = some t) (read : readFilter p obj v path = .ok f)
    (noMask : Tlv.get (path ++ [.matchValue t, .matchValueMask t]) obj = none) :
    f.ExactMatch p := by
  obtain ⟨attr, -, value, exact_⟩ := u16_exactMatch row named read noMask
  rw [exact_]
  exact separates_admitted value rfl (.inl rfl)

theorem u32_exact {k dataMin rangeMax : Nat} {f : NasAclFilter}
    (row : filterMap p t = .dataAndMask t .u32 4 NasAclFilter.getU32FilterVal
      NasAclFilter.setU32FilterVal dataMin rangeMax)
    (named : p.matchTypes.decode v = some t) (read : readFilter p obj v path = .ok f)
    (noMask : Tlv.get (path ++ [.matchValue t, .matchValueMask t]) obj = none)
    (ones : (if rangeMax ≠ 0 then UInt32.ofNat rangeMax else 0xffffffff).toNat = 2 ^ k - 1)
    (bits : k = 32 ∨ rangeMax ≠ 0 ∧ rangeMax < 2 ^ k) : f.ExactMatch p := by
  have data : (filterMap p t).data
      = ⟨.matchValueData t, .u32, 4, .mandatory, dataMin, rangeMax⟩ := by
    rw [row]
    rfl
  have item : ∀ attr, ((filterMap p t).data.item p attr).u32.toNat
      = (filterMap p t).data.number attr := by
    intro attr
    rw [data]
    exact congrArg _ (CommonData.u32_ofU32 _)
  obtain ⟨attr, -, value, exact_⟩ := number_exactMatch row named read noMask
    DataType.noConfusion UInt32.toNat_lt (fun _ _ => Iff.rfl) item
  rw [exact_]
  apply separates_admitted value ?_ (by rw [data]; exact bits)
  rw [← ones]
  exact congrArg _ (CommonData.u32_ofU32 _)

/-- A CFI has no mask attribute, and keeps the mask 0. -/
theorem cfi_not_exact {f : NasAclFilter}
    (row : filterMap p t = .single t .u8 1 NasAclFilter.getU8FilterVal
      NasAclFilter.setU8FilterVal nasAclMaxCfi)
    (named : p.matchTypes.decode v = some t) (read : readFilter p obj v path = .ok f) :
    ¬ f.ExactMatch p := by
  obtain ⟨t', named', l, copied, set⟩ := readFilter_ok.mp read
  rw [named] at named'
  cases named'
  have taken : Accepts BaseExn _ _ (copyDataFromObj p obj path (filterMap p t).val
      (filterMap p t).childList (filterMap p t).name) :=
    copyDataFromObj_accepts (filterMap_sound p t)
  obtain ⟨-, rfl⟩ := taken.ok_iff.mp copied
  have data : (filterMap p t).data
      = ⟨.matchValue t, .u8, 1, .mandatory, 0, nasAclMaxCfi⟩ := by
    rw [row]
    rfl
  obtain ⟨value, rfl⟩ : ∃ value, f = (NasAclFilter.new t).setValues (.u8 value 0) := by
    rw [row] at set
    cases set
    exact ⟨_, rfl⟩
  have admitted : ∀ n, n ≤ 1 → (filterMap p t).data.Admits 8 n := by
    intro n small
    rw [data]
    exact ⟨by omega, fun _ => ⟨Nat.zero_le n, small⟩⟩
  -- the other value of the bit is admitted, and there are no bits to agree on
  by_cases zero : value.toNat = 0
  · exact not_separates_zero (admitted 1 (le_refl 1)) (by omega)
  · exact not_separates_zero (admitted 0 (Nat.zero_le 1)) (Ne.symm zero)

/-! ## Addresses -/

/-- A mask of ones is exact on the bytes of an address. -/
theorem bytes_exact {len : Nat} {member : List UInt8 → List UInt8 → NdiFilterValue}
    {getFn : NasAclFilter → List CommonData} {f : NasAclFilter}
    (row : filterMap p t = .dataAndMask t .bin len getFn
      (NasAclFilter.setBytesFilterVal len member) 0 0)
    (named : p.matchTypes.decode v = some t) (read : readFilter p obj v path = .ok f)
    (noMask : Tlv.get (path ++ [.matchValue t, .matchValueMask t]) obj = none)
    (fixed : len ≠ 0)
    (meaning : ∀ x y, ((NasAclFilter.new t).setValues (member x y)).ExactMatch p ↔
      ∀ w : List UInt8, w.length = (filterMap p t).data.dataLen →
        List.zipWith (· &&& ·) w y = List.zipWith (· &&& ·) x y → w = x) :
    f.ExactMatch p := by
  obtain ⟨data, attr, -, fits, set⟩ := dataAndMask_read row named read noMask
  cases set
  rw [meaning, data]
  intro w length same
  have given : attr.value.length = len := fits.1 fixed
  have data_bytes : attr.value.take len = attr.value := List.take_of_length_le (le_of_eq given)
  have mask_bytes : (List.replicate len (0xff : UInt8)).take len = List.replicate len 0xff :=
    List.take_of_length_le (le_of_eq List.length_replicate)
  have item : (MapData.item p ⟨.matchValueData t, .bin, len, .mandatory, 0, 0⟩ attr).bytes
      = attr.value := rfl
  have filled : (MapData.filled ⟨.matchValueMask t, .bin, len, .optional, 0, 0⟩).bytes
      = List.replicate len 0xff := rfl
  rw [item, filled, data_bytes, mask_bytes] at same
  rw [item, data_bytes]
  have ones : ∀ l : List UInt8, l.length = len →
      List.zipWith (· &&& ·) l (List.replicate len 0xff) = l := by
    rintro l rfl
    exact zipWith_and_ones l
  rw [ones w length, ones _ given] at same
  exact same

/-! ## Every type -/

/-- A filter given without a mask is an exact match exactly when it is not a CFI, nor a VLAN
id other than 1 and 4094. -/
theorem default_mask_exact_iff {p : Platform} {obj : List CpsAttr} {v : UInt32}
    {path : List AttrId} {t : MatchType} {f : NasAclFilter}
    (named : p.matchTypes.decode v = some t) (masked : t.Masked)
    (read : readFilter p obj v path = .ok f)
    (noMask : Tlv.get (path ++ [.matchValue t, .matchValueMask t]) obj = none) :
    f.ExactMatch p ↔ ¬ t.IsCfi ∧ (t.IsVlanId → ∃ attr : CpsAttr,
      Tlv.get (path ++ [.matchValue t, .matchValueData t]) obj = some attr ∧
        (attr.dataU16 = 1 ∨ attr.dataU16 = 4094)) := by
  have others (cfi : ¬ t.IsCfi) (vlanId : ¬ t.IsVlanId) (exact_ : f.ExactMatch p) :
      f.ExactMatch p ↔ ¬ t.IsCfi ∧ (t.IsVlanId → ∃ attr : CpsAttr,
        Tlv.get (path ++ [.matchValue t, .matchValueData t]) obj = some attr ∧
          (attr.dataU16 = 1 ∨ attr.dataU16 = 4094)) :=
    iff_of_true exact_ ⟨cfi, fun id => absurd id vlanId⟩
  cases t
  case inPorts | outPorts | inPort | outPort | ipType | ipFrag => exact absurd (by decide) masked
  case outerVlanCfi | innerVlanCfi =>
    exact iff_of_false (cfi_not_exact rfl named read) fun both => both.1 (by decide)
  case outerVlanId | innerVlanId =>
    rw [vlanId_exact_iff rfl named read noMask]
    exact ⟨fun extreme => ⟨by decide, fun _ => extreme⟩, fun both => both.2 (by decide)⟩
  case srcIpv6 | dstIpv6 | srcMac | dstMac | srcIp | dstIp =>
    exact others (by decide) (by decide)
      (bytes_exact rfl named read noMask (by decide) fun _ _ => Iff.rfl)
  case l4SrcPort | l4DstPort | etherType =>
    exact others (by decide) (by decide) (u16_exact rfl named read noMask)
  case ipv6FlowLabel =>
    exact others (by decide) (by decide)
      (u32_exact (k := 20) rfl named read noMask rfl (.inr (by decide)))
  case outerVlanPri | innerVlanPri | ipFlags =>
    exact others (by decide) (by decide)
      (u8_exact (k := 3) rfl named read noMask rfl (.inr (by decide)))
  case dscp =>
    exact others (by decide) (by decide)
      (u8_exact (k := 6) rfl named read noMask rfl (.inr (by decide)))
  case ecn =>
    exact others (by decide) (by decide)
      (u8_exact (k := 2) rfl named read noMask rfl (.inr (by decide)))
  all_goals
    exact others (by decide) (by decide) (u8_exact (k := 8) rfl named read noMask rfl (.inl rfl))

/-! ### On the bench -/

/-- VLAN id 1 without a mask: its neighbour 0 is no VLAN id. -/
def vlanId1 : List CpsAttr :=
  [.mk (.matchValue .outerVlanId) []
    [.mk (.matchValueData .outerVlanId) (bytesU16 1) []]]

theorem default_mask_exact_vlanId1 :
    ∃ f, readFilter Bench.platform vlanId1 (Bench.platform.matchTypes.code .outerVlanId) []
      = .ok f ∧ f.ExactMatch Bench.platform := by
  have read : readFilter Bench.platform vlanId1 (Bench.platform.matchTypes.code .outerVlanId) []
      = .ok ⟨⟨.outerVlanId, .u16 1 4094⟩, []⟩ := by decide +kernel
  have extreme : CpsAttr.dataU16 (.mk (.matchValueData .outerVlanId) (bytesU16 1) []) = 1 :=
    dataU16_bytesU16 _ _ _
  exact ⟨_, read, (default_mask_exact_iff (Codes.decode_code _ _) (by decide) read rfl).mpr
    ⟨by decide, fun _ => ⟨_, rfl, .inl extreme⟩⟩⟩

/-- VLAN id 7 without a mask matches VLAN id 6 as well. -/
theorem default_mask_not_always_exact :
    ¬ ∀ (p : Platform) (obj : List CpsAttr) (v : UInt32) (path : List AttrId) (t : MatchType)
      (f : NasAclFilter), p.matchTypes.decode v = some t → t.Masked →
      readFilter p obj v path = .ok f →
      Tlv.get (path ++ [.matchValue t, .matchValueMask t]) obj = none → f.ExactMatch p := by
  intro claim
  have exact_ : Separates _ 7 4094 := claim Bench.platform vlanId7 _ [] .outerVlanId
    ⟨⟨.outerVlanId, .u16 7 4094⟩, []⟩ (Codes.decode_code _ _) (by decide) (by decide +kernel) rfl
  have same := exact_ 6 ⟨by decide, fun _ => ⟨by decide, by decide⟩⟩ (by decide)
  cases same

end SonicNasAcl
