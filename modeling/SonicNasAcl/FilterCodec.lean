/-
# FilterCodec -- the match list of an entry, written and read back

Every filter that was read has an accessor that gives back what it was read from, so it
can be written and reads back as the same filter; only a list of no interfaces has nothing
to write (`readFilter_written`).  A match list is then written and read back filter by
filter, and what can go wrong is the order of the port filters, of which a list may hold
one only.

* `filterMap_codable`: every row of the filter map can be written;
* `setMatchLists_written`: reading a list that was written adds its filters;
* `matchList_roundTrip_iff`: a list that was decoded comes back exactly when its interface
  lists are not empty and it holds one port filter at most.
-/
import SonicNasAcl.Codec
import SonicNasAcl.PortFilters

namespace SonicNasAcl

set_option autoImplicit false

open Lib

/-! ## The rows of the filter map -/

theorem dataAndMask_codable {t : MatchType} {dataType : DataType} {dataLen dataMin rangeMax : Nat}
    {getFn : NasAclFilter → List CommonData}
    {setFn : List CommonData → NasAclFilter → Except Exn NasAclFilter}
    (fillable : dataType ∈ [.u8, .u16, .u32, .u64, .bin])
    (ranged : rangeMax ≠ 0 → dataType ∈ [.u8, .u16, .u32])
    (width : ∀ w, dataType.width = some w → dataLen = 0 ∨ dataLen = w) :
    let info := FilterInfo.dataAndMask t dataType dataLen getFn setFn dataMin rangeMax
    info.val.Codable info.childList := by
  intro info
  refine ⟨dataAndMask_sound fillable ranged, ?_, ?_, fun _ => List.cons_ne_nil _ _,
    DataType.noConfusion⟩
  · refine List.forall_mem_cons.mpr ⟨⟨fun w none_ => ?_, AttrMode.noConfusion⟩, fun d mem => ?_⟩
    · cases none_
    · rcases List.mem_pair.mp mem with rfl | rfl
      · exact ⟨width, AttrMode.noConfusion⟩
      · exact ⟨width, fun _ => rfl⟩
  · simp [info, FilterInfo.dataAndMask]

theorem filterSingle_codable {t : MatchType} {dataType : DataType} {dataLen rangeMax : Nat}
    {getFn : NasAclFilter → List CommonData}
    {setFn : List CommonData → NasAclFilter → Except Exn NasAclFilter}
    (kind : dataType ∈ [.u8, .u16, .u32, .u64, .objId, .ifindex, .bin])
    (ranged : rangeMax ≠ 0 → dataType ∈ [.u8, .u16, .u32])
    (width : ∀ w, dataType.width = some w → dataLen = 0 ∨ dataLen = w) :
    let info := FilterInfo.single t dataType dataLen getFn setFn rangeMax
    info.val.Codable info.childList :=
  leaf_codable kind rfl ranged width (List.forall_mem_nil _) List.nodup_nil

/-- Every row of the filter map can be written. -/
theorem filterMap_codable (p : Platform) (t : MatchType) :
    (filterMap p t).val.Codable (filterMap p t).childList := by
  cases t
  case inPorts | outPorts => exact iflist_codable rfl rfl (List.forall_mem_nil _) List.nodup_nil
  case inPort | outPort | ipType | ipFrag | outerVlanCfi | innerVlanCfi =>
    exact filterSingle_codable (by decide) (by decide) (by rintro w ⟨⟩; exact .inr rfl)
  case srcIpv6 | dstIpv6 | srcMac | dstMac | srcIp | dstIp =>
    exact dataAndMask_codable (by decide) (by decide) (by rintro w ⟨⟩)
  all_goals exact dataAndMask_codable (by decide) (by decide) (by rintro w ⟨⟩; exact .inr rfl)

/-! ## Accessors -/

namespace NasAclFilter

/-- A list of ports with none in it. -/
def EmptyPorts (f : NasAclFilter) : Prop :=
  (f.filterType = .inPorts ∨ f.filterType = .outPorts) ∧ f.ifindexList = []

instance (f : NasAclFilter) : Decidable f.EmptyPorts :=
  inferInstanceAs (Decidable ((f.filterType = .inPorts ∨ f.filterType = .outPorts) ∧
    f.ifindexList = []))

variable {p : Platform} {t : MatchType} {f : NasAclFilter} {obj : List CpsAttr}
  {path : List AttrId} {dataLen dataMin rangeMax : Nat}

/-- A row whose accessor gives back the items a filter is read from, but for what is not
written. -/
def GivesBack (p : Platform) (info : FilterInfo) (t : MatchType) (obj : List CpsAttr)
    (path : List AttrId) : Prop :=
  ∀ f, info.val.WellFormed p info.childList obj path →
    info.setFn (info.val.items p info.childList obj path) (.new t) = .ok f →
    ∃ rest, info.getFn f = info.val.items p info.childList obj path ++ rest ∧
      (rest ≠ [] →
        info.val.dataType ∈ [.u8, .u16, .u32, .u64, .objId, .ifindex, .bin])

/-- A data attribute and a mask, of a kind whose items have a form that the accessors keep. -/
theorem dataAndMask_givesBack {α : Type} (of : α → CommonData) {dataType : DataType}
    {getFn : NasAclFilter → List CommonData}
    {setFn : List CommonData → NasAclFilter → Except Exn NasAclFilter}
    (form : ∀ d : MapData, d.dataType = dataType → d.dataLen = dataLen → d.Sized →
      ∀ path, d.WellFormedAt p obj path → ∃ v, d.itemAt p obj path = of v)
    (width : ∀ w, dataType.width = some w → dataLen = 0 ∨ dataLen = w)
    (kept : ∀ v w f, setFn [of v, of w] (.new t) = .ok f → getFn f = [of v, of w]) :
    GivesBack p (.dataAndMask t dataType dataLen getFn setFn dataMin rangeMax) t obj path := by
  intro f fits set
  obtain ⟨v, data⟩ := form _ rfl rfl ⟨width, AttrMode.noConfusion⟩ _
    (fits _ (List.mem_cons_self ..))
  obtain ⟨w, mask⟩ := form _ rfl rfl ⟨width, fun _ => rfl⟩ _
    (fits _ (List.mem_cons_of_mem _ (List.mem_singleton_self _)))
  refine ⟨[], ?_, fun some_ => absurd rfl some_⟩
  have items : MapData.items p (FilterInfo.dataAndMask t dataType dataLen getFn setFn dataMin
        rangeMax).val (FilterInfo.dataAndMask t dataType dataLen getFn setFn dataMin
        rangeMax).childList obj path = [of v, of w] :=
    congrArg₂ (fun a b => [a, b]) data mask
  rw [items] at set ⊢
  exact kept v w f set

theorem u8_givesBack :
    GivesBack p (.dataAndMask t .u8 1 getU8FilterVal setU8FilterVal dataMin rangeMax) t obj path := by
  refine dataAndMask_givesBack CommonData.ofU8 (fun d kind _ sized path fits => ?_) ?_
    fun v w f set => ?_
  · obtain ⟨v, same, -⟩ := MapData.itemAt_u8 sized kind fits
    exact ⟨v, same⟩
  · rintro w ⟨⟩
    exact .inr rfl
  · obtain rfl := Except.ok.inj set
    simp [getU8FilterVal, setValues]

theorem u16_givesBack :
    GivesBack p (.dataAndMask t .u16 2 getU16FilterVal setU16FilterVal dataMin rangeMax) t obj
      path := by
  refine dataAndMask_givesBack CommonData.ofU16 (fun d kind _ sized path fits => ?_) ?_
    fun v w f set => ?_
  · obtain ⟨v, same, -⟩ := MapData.itemAt_u16 sized kind fits
    exact ⟨v, same⟩
  · rintro w ⟨⟩
    exact .inr rfl
  · obtain rfl := Except.ok.inj set
    simp [getU16FilterVal, setValues]

theorem u32_givesBack :
    GivesBack p (.dataAndMask t .u32 4 getU32FilterVal setU32FilterVal dataMin rangeMax) t obj
      path := by
  refine dataAndMask_givesBack CommonData.ofU32 (fun d kind _ sized path fits => ?_) ?_
    fun v w f set => ?_
  · obtain ⟨v, same, -⟩ := MapData.itemAt_u32 sized kind fits
    exact ⟨v, same⟩
  · rintro w ⟨⟩
    exact .inr rfl
  · obtain rfl := Except.ok.inj set
    simp [getU32FilterVal, setValues]

/-- An address has the length of its type, so that nothing is cut off. -/
theorem bytes_givesBack {member : List UInt8 → List UInt8 → NdiFilterValue} (fixed : dataLen ≠ 0)
    (get : ∀ b c, getBytesFilterVal ((new t).setValues (member b c)) = [.ofBytes b, .ofBytes c]) :
    GivesBack p (.dataAndMask t .bin dataLen getBytesFilterVal (setBytesFilterVal dataLen member)
      dataMin rangeMax) t obj path := by
  refine dataAndMask_givesBack (fun b : { b : List UInt8 // b.length = dataLen } =>
    CommonData.ofBytes b.1) (fun d kind len sized path fits => ?_) ?_ fun v w f set => ?_
  · obtain ⟨b, same, length⟩ := MapData.itemAt_bin kind fits
    rw [len] at length
    exact ⟨⟨b, length fixed⟩, same⟩
  · rintro w ⟨⟩
  · obtain rfl := Except.ok.inj set
    rw [CommonData.bytes_ofBytes, CommonData.bytes_ofBytes, List.take_of_length_le v.2.le,
      List.take_of_length_le w.2.le]
    exact get v.1 w.1

/-- A CFI is kept with a mask that is not written. -/
theorem cfi_givesBack :
    GivesBack p (.single t .u8 1 getU8FilterVal setU8FilterVal rangeMax) t obj path := by
  intro f fits set
  obtain ⟨v, same, -⟩ := MapData.itemAt_u8
    ⟨by rintro w ⟨⟩; exact .inr rfl, AttrMode.noConfusion⟩ rfl fits
  refine ⟨[.ofU8 0], ?_, fun _ => List.mem_cons_self ..⟩
  have items : MapData.items p (FilterInfo.single t .u8 1 getU8FilterVal setU8FilterVal
        rangeMax).val (FilterInfo.single t .u8 1 getU8FilterVal setU8FilterVal
        rangeMax).childList obj path = [.ofU8 v] := congrArg (fun d => [d]) same
  rw [items] at set ⊢
  obtain rfl := Except.ok.inj set
  simp [FilterInfo.single, getU8FilterVal, setValues]

theorem enum_givesBack {getFn : NasAclFilter → List CommonData}
    {setFn : List CommonData → NasAclFilter → Except Exn NasAclFilter}
    (kept : ∀ v f, setFn [.ofU32 v] (.new t) = .ok f → getFn f = [.ofU32 v]) :
    GivesBack p (.single t .u32 4 getFn setFn rangeMax) t obj path := by
  intro f fits set
  obtain ⟨v, same, -⟩ := MapData.itemAt_u32
    ⟨by rintro w ⟨⟩; exact .inr rfl, AttrMode.noConfusion⟩ rfl fits
  refine ⟨[], ?_, fun some_ => absurd rfl some_⟩
  have items : MapData.items p (FilterInfo.single t .u32 4 getFn setFn rangeMax).val
      (FilterInfo.single t .u32 4 getFn setFn rangeMax).childList obj path = [.ofU32 v] :=
    congrArg (fun d => [d]) same
  rw [items] at set ⊢
  exact kept v f set

theorem ifindex_givesBack :
    GivesBack p (.single t .ifindex 4 getFilterIfindex (setFilterIfindex p) rangeMax) t obj path := by
  intro f fits set
  obtain ⟨attr, same⟩ := MapData.itemAt_required (p := p) rfl fits
  refine ⟨[], ?_, fun some_ => absurd rfl some_⟩
  have items : MapData.items p (FilterInfo.single t .ifindex 4 getFilterIfindex
        (setFilterIfindex p) rangeMax).val (FilterInfo.single t .ifindex 4 getFilterIfindex
        (setFilterIfindex p) rangeMax).childList obj path = [.ofIfindex (CpsAttr.dataU32 attr)] :=
    congrArg (fun d => [d]) same
  rw [items] at set ⊢
  obtain ⟨data, first, port, -, rfl⟩ := setFilterIfindex_ok.mp set
  obtain rfl := Except.ok.inj first
  simp [FilterInfo.single, getFilterIfindex, new]

theorem iflist_givesBack :
    GivesBack p (.single t .iflist 0 getFilterIfindexList setFilterIfindexList rangeMax) t obj
      path := by
  intro f fits set
  refine ⟨[], ?_, fun some_ => absurd rfl some_⟩
  have items : MapData.items p (FilterInfo.single t .iflist 0 getFilterIfindexList
        setFilterIfindexList rangeMax).val (FilterInfo.single t .iflist 0 getFilterIfindexList
        setFilterIfindexList rangeMax).childList obj path
      = [{ ifindexList := scanIfval (.matchValue t) (siblings obj path) }] := rfl
  have some_ : scanIfval (.matchValue t) (siblings obj path) ≠ [] := by
    obtain ⟨attr, mem, named⟩ := fits
    have scanned : CpsAttr.dataU32 attr ∈ scanIfval (.matchValue t) (siblings obj path) :=
      List.mem_map_of_mem (List.mem_filter.mpr ⟨mem, decide_eq_true named⟩)
    exact List.ne_nil_of_mem scanned
  rw [items] at set ⊢
  obtain rfl := Except.ok.inj set
  simp [FilterInfo.single, getFilterIfindexList, setValues, new, some_]

/-- The accessor of every row gives back the items a filter is read from. -/
theorem filterMap_givesBack (p : Platform) (t : MatchType) (obj : List CpsAttr)
    (path : List AttrId) : GivesBack p (filterMap p t) t obj path := by
  cases t
  case inPorts | outPorts => exact iflist_givesBack
  case inPort | outPort => exact ifindex_givesBack
  case outerVlanCfi | innerVlanCfi => exact cfi_givesBack
  case ipType =>
    refine enum_givesBack fun v f set => ?_
    obtain ⟨data, first, ipType, named, rfl⟩ := setIpTypeFilterVal_ok.mp set
    obtain rfl := Except.ok.inj first
    simp only [getIpTypeFilterVal, setValues]
    rw [(p.ipTypes.decode_eq_some _ _).mp named, CommonData.u32_ofU32]
  case ipFrag =>
    refine enum_givesBack fun v f set => ?_
    obtain ⟨data, first, ipFrag, named, rfl⟩ := setIpFragFilterVal_ok.mp set
    obtain rfl := Except.ok.inj first
    simp only [getIpFragFilterVal, setValues]
    rw [(p.ipFrags.decode_eq_some _ _).mp named, CommonData.u32_ofU32]
  case srcIpv6 | dstIpv6 | srcMac | dstMac | srcIp | dstIp =>
    exact bytes_givesBack (by decide) fun _ _ => rfl
  case outerVlanId | innerVlanId | l4SrcPort | l4DstPort | etherType => exact u16_givesBack
  case ipv6FlowLabel => exact u32_givesBack
  all_goals exact u8_givesBack

end NasAclFilter

/-! ## One filter -/

theorem filterMap_attrId (p : Platform) (t : MatchType) :
    (filterMap p t).val.attrId = .matchValue t := by
  cases t <;> rfl

/-- What a filter is written as: adds under its own tag, which read back as the filter at the
top of an object and in a container. -/
structure NasAclFilter.Written (p : Platform) (f : NasAclFilter) (adds : Adds) : Prop where
  filled : fillMatchAttr p f f.filterType [] = .ok (adds, true)
  starts : Tlv.StartsAt (.matchValue f.filterType) adds
  top : ∀ obj, Tlv.Fresh (.matchValue f.filterType) obj →
    readFilter p (Tlv.addAll adds obj) (p.matchTypes.code f.filterType) [] = .ok f
  inside : ∀ obj obj' a path t, Tlv.get (a :: path) obj = some t →
    Tlv.Fresh (.matchValue f.filterType) obj' → t.inside = Tlv.addAll adds obj' →
    readFilter p obj (p.matchTypes.code f.filterType) (a :: path) = .ok f

/-- The adds of a filter. -/
def valueAdds (p : Platform) (f : NasAclFilter) : Adds :=
  ((fillMatchAttr p f f.filterType []).toOption.map Prod.fst).getD []

section OneFilter

open NasAclFilter

variable {p : Platform} {obj : List CpsAttr} {v : UInt32} {path : List AttrId} {f : NasAclFilter}

/-- Only interfaces can be missing without an error. -/
theorem emptyPorts_of_read {t : MatchType} (empty : (filterMap p t).val.EmptyList obj path)
    (set : (filterMap p t).setFn
      ((filterMap p t).val.items p (filterMap p t).childList obj path) (.new t) = .ok f) :
    f.EmptyPorts := by
  have ports (kind : t = .inPorts ∨ t = .outPorts) : f.EmptyPorts := by
    refine ⟨filterMap_setFn_type set ▸ kind, ?_⟩
    rcases kind with rfl | rfl
    · obtain rfl := Except.ok.inj set
      exact congrArg (fun l => [] ++ (l ++ [])) (scanIfval_eq_nil empty.2)
    · obtain rfl := Except.ok.inj set
      exact congrArg (fun l => [] ++ (l ++ [])) (scanIfval_eq_nil empty.2)
  cases t
  case inPorts => exact ports (.inl rfl)
  case outPorts => exact ports (.inr rfl)
  all_goals exact empty.elim

theorem encodes_of_read (read : readFilter p obj v path = .ok f) (some_ : ¬ f.EmptyPorts) :
    ∃ l, Encodes p (filterMap p f.filterType).val (filterMap p f.filterType).childList
        ((filterMap p f.filterType).getFn f) l ∧
      (filterMap p f.filterType).setFn l (.new f.filterType) = .ok f := by
  obtain ⟨t, -, l, copied, set⟩ := readFilter_ok.mp read
  obtain rfl : f.filterType = t := filterMap_setFn_type set
  obtain ⟨wellFormed | empty, rfl⟩ :=
    (copyDataFromObj_accepts (filterMap_sound p f.filterType)).ok_iff.mp copied
  · refine ⟨_, ?_, set⟩
    have encodes := encodes_items (filterMap_codable p f.filterType) wellFormed
    obtain ⟨rest, gives, more⟩ := filterMap_givesBack p f.filterType obj path f wellFormed set
    rw [gives]
    by_cases none_ : rest = []
    · rw [none_, List.append_nil]
      exact encodes
    · exact encodes.append (more none_) rest
  · exact absurd (emptyPorts_of_read empty set) some_

/-- A list of no ports has nothing to write, which counts as a failure. -/
theorem fillMatchAttr_emptyPorts (empty : f.EmptyPorts) :
    fillMatchAttr p f f.filterType path = Fill.failed := by
  obtain ⟨kind, none_⟩ := empty
  have nothing : getFilterIfindexList f = [] := by
    unfold getFilterIfindexList
    rw [none_]
    rfl
  unfold fillMatchAttr copyDataToObj
  rcases kind with type | type
  · rw [type]
    exact congrArg (copyIflistDataToObj _) nothing
  · rw [type]
    exact congrArg (copyIflistDataToObj _) nothing

/-- It is read again where no port is written. -/
theorem readFilter_emptyPorts {obj' : List CpsAttr} {path' : List AttrId}
    (read : readFilter p obj v path = .ok f) (empty : f.EmptyPorts)
    (there : path' = [] ∨ (Tlv.get path' obj').isSome)
    (none_ : ∀ attr ∈ siblings obj' path', attr.id ≠ .matchValue f.filterType) :
    readFilter p obj' (p.matchTypes.code f.filterType) path' = .ok f := by
  obtain ⟨t, -, l, -, set⟩ := readFilter_ok.mp read
  obtain rfl : f.filterType = t := filterMap_setFn_type set
  obtain ⟨kind, portless⟩ := empty
  have list : (filterMap p f.filterType).val.dataType = .iflist ∧
      (filterMap p f.filterType).setFn = setFilterIfindexList := by
    rcases kind with type | type <;> rw [type] <;> exact ⟨rfl, rfl⟩
  have copied : copyDataFromObj p obj' path' (filterMap p f.filterType).val
      (filterMap p f.filterType).childList (filterMap p f.filterType).name
      = .ok [{ ifindexList := [] }] := by
    rw [copyDataFromObj, if_pos list.1, filterMap_attrId, copyIflistDataFromObj_siblings there,
      scanIfval_eq_nil none_]
  refine readFilter_ok.mpr ⟨f.filterType, p.matchTypes.decode_code _, _, copied, ?_⟩
  rw [list.2] at set ⊢
  have made := Except.ok.inj set
  have none_left : l.flatMap (fun matchData => matchData.ifindexList) = [] := by
    have ports := congrArg NasAclFilter.ifindexList made
    rw [portless] at ports
    exact (List.append_eq_nil_iff.mp ports).2
  rw [none_left] at made
  rw [← made]
  rfl

/-- Every other filter that was read is written, and reads back. -/
theorem readFilter_written (read : readFilter p obj v path = .ok f) (some_ : ¬ f.EmptyPorts) :
    f.Written p (valueAdds p f) := by
  obtain ⟨l, encodes, set⟩ := encodes_of_read read some_
  have codable := filterMap_codable p f.filterType
  obtain ⟨adds, filled, writes⟩ := encodes.roundTrip codable.some_child codable.apart
  have here : fillMatchAttr p f f.filterType [] = .ok (adds, true) := filled
  have same : valueAdds p f = adds := by
    rw [valueAdds, here]
    rfl
  have reading {obj : List CpsAttr} {path : List AttrId}
      (copied : copyDataFromObj p obj path (filterMap p f.filterType).val
        (filterMap p f.filterType).childList (filterMap p f.filterType).name = .ok l) :
      readFilter p obj (p.matchTypes.code f.filterType) path = .ok f :=
    readFilter_ok.mpr ⟨f.filterType, p.matchTypes.decode_code _, l, copied, set⟩
  rw [same]
  have tag := filterMap_attrId p f.filterType
  refine ⟨here, tag ▸ writes.starts, fun obj fresh => ?_,
    fun obj obj' a path t found fresh contents => ?_⟩
  · exact reading (writes.read codable.toSound (tag.symm ▸ fresh) _)
  · exact reading (writes.read_inside codable.toSound found (tag.symm ▸ fresh) contents _)

end OneFilter

/-! ## A list of filters -/

/-- The elements a match list is written as. -/
def matchElems (p : Platform) (l : List NasAclFilter) : List (UInt32 × Adds) :=
  l.map fun f => (p.matchTypes.code f.filterType, valueAdds p f)

/-- Every match list of an object, added to an entry. -/
def setMatchLists (p : Platform) (table : NasAclTable) (obj : List CpsAttr) (e : NasAclEntry) :
    Except Exn NasAclEntry :=
  (obj.filter fun a => a.id = .entryMatch).foldlM (fun e it => setMatchList p table obj it e) e

/-- The filters of a list, added to an entry one after the other. -/
def addFilters (p : Platform) (table : NasAclTable) (l : List NasAclFilter) (e : NasAclEntry) :
    Except Exn NasAclEntry :=
  l.foldlM (fun e f => e.addFilter p table f true) e

section Lists

open NasAclFilter

variable {p : Platform} {table : NasAclTable} {l : List NasAclFilter} {base : List CpsAttr}
  {e : NasAclEntry}

theorem fillMatchElement_ok {f : NasAclFilter} (written : f.Written p (valueAdds p f)) (i : Nat) :
    fillMatchElement p f i
      = .ok (Tlv.under .entryMatch (Tlv.under (.index i) (elementAdds .entryMatchType
          (p.matchTypes.code f.filterType, valueAdds p f))), true) := by
  have value : fillMatchAttr p f f.filterType [.entryMatch, .index i]
      = .ok (Tlv.under .entryMatch (Tlv.under (.index i) (valueAdds p f)), true) := by
    change copyDataToObj p (.entryMatch :: .index i :: [_]) _ _ _ = _
    rw [copyDataToObj_cons, copyDataToObj_cons]
    have top := written.filled
    change copyDataToObj p [_] _ _ _ = _ at top
    rw [top]
    rfl
  exact Fill.andThen_true.mpr ⟨_, _, rfl, value, rfl⟩

theorem matchElems_apart (written : ∀ f ∈ l, f.Written p (valueAdds p f)) :
    ValuesApart .entryMatchType (matchElems p l) := by
  intro x mem
  obtain ⟨f, here, rfl⟩ := List.mem_map.mp mem
  exact ⟨.matchValue f.filterType, AttrId.noConfusion, (written f here).starts⟩

/-- A list of filters that can be written is written. -/
theorem fillMatchAttrList_ok (written : ∀ f ∈ e.flist.items p.matchOrder, f.Written p (valueAdds p f)) :
    fillMatchAttrList p e
      = .ok (listAdds .entryMatch .entryMatchType (matchElems p (e.flist.items p.matchOrder)),
        true) := by
  exact forEach_listAdds fun f mem i => fillMatchElement_ok (written f mem) i

/-- Reading a list that was written adds its filters. -/
theorem setMatchLists_written (written : ∀ f ∈ l, f.Written p (valueAdds p f))
    (fresh : Tlv.Fresh .entryMatch base) :
    setMatchLists p table (Tlv.addAll (listAdds .entryMatch .entryMatchType (matchElems p l)) base) e
      = addFilters p table l e := by
  refine readLists_items (matchElems_apart written) fresh fun f mem i t e found contents => ?_
  have read := (written f mem).inside _ _ _ _ t found (fresh_type AttrId.noConfusion _) contents
  exact congrArg (fun r => r >>= fun f => e.addFilter p table f true) read

end Lists

/-! ## The filters of an entry -/

/-- The entries a decoder leaves: from a new one, by any match lists and match fields that were
accepted, with any other edits in between. -/
inductive Decoded (p : Platform) (table : NasAclTable) : NasAclEntry → Prop
  | new (tableId : NasObjId) : Decoded p table (.new p tableId)
  | list {e e' : NasAclEntry} {obj : List CpsAttr} {it : CpsAttr} (before : Decoded p table e)
      (set : setMatchList p table obj it e = .ok e') : Decoded p table e'
  | attr {e e' : NasAclEntry} {obj : List CpsAttr} {v : UInt32} {path : List AttrId} {reset : Bool}
      (before : Decoded p table e) (set : setMatchAttr p table obj v path reset e = .ok e') :
      Decoded p table e'
  | removed {e : NasAclEntry} (t : MatchType) (before : Decoded p table e) :
      Decoded p table (e.removeFilter t)
  | other {e e' : NasAclEntry} (before : Decoded p table e) (filters : e'.flist = e.flist)
      (cache : e'.filterNpus = e.filterNpus) : Decoded p table e'

/-- A filter that was read, that the table allows, and whose NPUs are the table's. -/
structure NasAclFilter.Accepted (p : Platform) (table : NasAclTable) (f : NasAclFilter) : Prop where
  read : ∃ obj v path, readFilter p obj v path = .ok f
  allowed : f.filterType ∈ table.allowedFilters
  inTable : f.isNpuSpecific → ∃ npus, f.getNpuList p = .ok npus ∧ npus ⊆ table.npuList

section Entries

open NasAclEntry NasAclFilter

variable {p : Platform} {table : NasAclTable} {e e' : NasAclEntry} {l : List NasAclFilter}

theorem accepted_addFilter {f : NasAclFilter} {reset : Bool}
    (held : ∀ t g, e.flist.find t = some g → g.Accepted p table)
    (read : ∃ obj v path, readFilter p obj v path = .ok f)
    (added : e.addFilter p table f reset = .ok e') :
    ∀ t g, e'.flist.find t = some g → g.Accepted p table := by
  obtain ⟨allowed, cached, step, rfl⟩ := addFilter_ok.mp added
  have inTable : f.isNpuSpecific → ∃ npus, f.getNpuList p = .ok npus ∧ npus ⊆ table.npuList := by
    intro tied
    obtain ⟨free, -⟩ | ⟨-, -, npus, list, inside, -⟩ := cacheFilterNpus_ok.mp step
    · cases free.symm.trans tied
    · exact ⟨npus, list, inside⟩
  have same : cached.flist = (e.resetFilters reset).flist := by
    obtain ⟨-, rfl⟩ | ⟨-, -, npus, -, -, rfl⟩ := cacheFilterNpus_ok.mp step <;> rfl
  intro t g found
  simp only [Keyed.find_put, same] at found
  split at found
  · cases found
    exact ⟨read, allowed, inTable⟩
  · unfold resetFilters at found
    split at found
    · cases found
    · exact held t g found

theorem Decoded.accepted (decoded : Decoded p table e) :
    ∀ t f, e.flist.find t = some f → f.Accepted p table := by
  induction decoded with
  | new tableId =>
      intro t f found
      cases found
  | list before set ih =>
      refine forEachElement_invariant
        (P := fun e => ∀ t f, e.flist.find t = some f → f.Accepted p table)
        (fun v path e e' pre turn => ?_) ih set
      obtain ⟨f, read, added⟩ := setMatchAttr_ok.mp turn
      exact accepted_addFilter pre ⟨_, _, _, read⟩ added
  | attr before set ih =>
      obtain ⟨f, read, added⟩ := setMatchAttr_ok.mp set
      exact accepted_addFilter ih ⟨_, _, _, read⟩ added
  | removed t before ih =>
      intro t' f found
      simp only [removeFilter, Keyed.find_erase] at found
      split at found
      · cases found
      · exact ih t' f found
  | other before filters cache ih =>
      rw [filters]
      exact ih

/-- Filters of different types, of which one is tied to NPUs at most, can all be added. -/
theorem addFilters_ok (apart : (l.map filterType).Nodup)
    (accepted : ∀ f ∈ l, f.Accepted p table)
    (one : ∀ f ∈ l, ∀ g ∈ l, f.isNpuSpecific → g.isNpuSpecific → f.filterType = g.filterType)
    (fresh : e.isAttrDirty .entryMatch ∨ e.flist = .empty)
    (free : ∀ f ∈ l, f.isNpuSpecific → e.filterNpus = ∅) :
    ∃ e', addFilters p table l e = .ok e' ∧
      e'.flist = l.foldl (fun m f => m.put f) e.flist := by
  induction l generalizing e with
  | nil => exact ⟨e, rfl, rfl⟩
  | cons f rest ih =>
      obtain ⟨other, apart⟩ := List.nodup_cons.mp apart
      obtain ⟨here, accepted⟩ := List.forall_mem_cons.mp accepted
      have filters : (e.resetFilters true).flist = e.flist := by
        unfold resetFilters
        split
        · rename_i clean
          rcases fresh with dirty | none_
          · rw [dirty] at clean
            cases clean
          · exact none_.symm
        · rfl
      have cache (npus : e.filterNpus = ∅) : (e.resetFilters true).filterNpus = ∅ := by
        unfold resetFilters
        split
        · rfl
        · exact npus
      have cached : ∃ c, (e.resetFilters true).cacheFilterNpus p table f = .ok c ∧
          c.flist = e.flist ∧ (f.isNpuSpecific = false → c = e.resetFilters true) := by
        cases tied : f.isNpuSpecific with
        | false => exact ⟨_, cacheFilterNpus_ok.mpr (.inl ⟨tied, rfl⟩), filters, fun _ => rfl⟩
        | true =>
            obtain ⟨npus, list, inside⟩ := here.inTable tied
            refine ⟨{ e.resetFilters true with filterNpus := npus },
              cacheFilterNpus_ok.mpr (.inr ⟨tied, fun full => ?_, npus, list, inside, rfl⟩),
              filters, fun free => by cases free⟩
            exact absurd (cache (free f (List.mem_cons_self ..) tied)) full
      obtain ⟨c, step, kept, plain⟩ := cached
      have added : e.addFilter p table f true
          = .ok { c.markAttrDirty .entryMatch with flist := c.flist.put f } :=
        addFilter_ok.mpr ⟨here.allowed, c, step, rfl⟩
      have dirty : ({ c.markAttrDirty .entryMatch with flist := c.flist.put f } :
          NasAclEntry).isAttrDirty .entryMatch := decide_eq_true (Finset.mem_insert_self ..)
      have left : ∀ g ∈ rest, g.isNpuSpecific → c.filterNpus = ∅ := by
        intro g mem tied
        cases tied' : f.isNpuSpecific with
        | false =>
            rw [plain tied']
            exact cache (free g (List.mem_cons_of_mem _ mem) tied)
        | true =>
            have same := one f (List.mem_cons_self ..) g (List.mem_cons_of_mem _ mem) tied' tied
            exact absurd (List.mem_map.mpr ⟨g, mem, same.symm⟩) other
      obtain ⟨e', ran, result⟩ := ih apart accepted
        (fun g mem h mem' => one g (List.mem_cons_of_mem _ mem) h (List.mem_cons_of_mem _ mem'))
        (.inl dirty) left
      refine ⟨e', ?_, ?_⟩
      · rw [addFilters, List.foldlM_cons, added]
        exact ran
      · rw [result, List.foldl_cons, ← kept]

/-- Adding filters that have their ports keeps the cache of the port filter. -/
theorem addFilters_portsCached (held : e.PortsCached p table)
    (some_ : ∀ g, e.flist.find .inPorts = some g → g.ifindexList ≠ [])
    (ports : ∀ f ∈ l, f.filterType = .inPort ∨ f.filterType = .inPorts → f.ifindexList ≠ [])
    (added : addFilters p table l e = .ok e') : e'.PortsCached p table := by
  induction l generalizing e with
  | nil =>
      cases added
      exact held
  | cons f rest ih =>
      rw [addFilters, List.foldlM_cons, except_bind_ok] at added
      obtain ⟨mid, step, added⟩ := added
      obtain ⟨here, ports⟩ := List.forall_mem_cons.mp ports
      have kept {g : NasAclFilter} (found : (e.resetFilters true).flist.find .inPorts = some g) :
          g.ifindexList ≠ [] := by
        unfold resetFilters at found
        split at found
        · cases found
        · exact some_ g found
      refine ih (portsCached_addFilter held (fun inPort => here (.inl inPort))
        (fun g found _ portless => absurd portless (kept found)) step) (fun g found => ?_) ports added
      obtain ⟨-, cached, cache, rfl⟩ := addFilter_ok.mp step
      have same : cached.flist = (e.resetFilters true).flist := by
        obtain ⟨-, rfl⟩ | ⟨-, -, npus, -, -, rfl⟩ := cacheFilterNpus_ok.mp cache <;> rfl
      simp only [Keyed.find_put, same] at found
      split at found
      · rename_i type
        cases found
        exact here (.inr type.symm)
      · exact kept found

end Entries

/-! ## The round trip -/

/-- What is written for the filters of an entry gives them back: the list as a whole, and each
filter under its own key. -/
structure FiltersRoundTrip (p : Platform) (table : NasAclTable) (e : NasAclEntry) : Prop where
  list : ∃ adds, fillMatchAttrList p e = .ok (adds, true) ∧
    ∀ base tableId, Tlv.Fresh .entryMatch base →
      ∃ e', setMatchLists p table (Tlv.addAll adds base) (.new p tableId) = .ok e' ∧
        e'.flist = e.flist
  keyed : ∀ t f, e.flist.find t = some f →
    ∃ adds, fillMatchAttr p f t [] = .ok (adds, true) ∧
      ∀ base tableId, Tlv.Fresh (.matchValue t) base →
        ∃ e', setMatchAttr p table (Tlv.addAll adds base) (p.matchTypes.code t) [] false
            (.new p tableId) = .ok e' ∧ e'.flist = Keyed.empty.put f

section RoundTrip

open NasAclEntry NasAclFilter

variable {p : Platform} {table : NasAclTable} {e : NasAclEntry}

/-- A filter that was accepted is accepted by a new entry. -/
theorem addFilter_new {f : NasAclFilter} (accepted : f.Accepted p table) (tableId : NasObjId) :
    ∃ e', (NasAclEntry.new p tableId).addFilter p table f false = .ok e' ∧
      e'.flist = Keyed.empty.put f := by
  cases tied : f.isNpuSpecific with
  | false =>
      exact ⟨_, addFilter_ok.mpr ⟨accepted.allowed, _, cacheFilterNpus_ok.mpr (.inl ⟨tied, rfl⟩), rfl⟩,
        rfl⟩
  | true =>
      obtain ⟨npus, list, inside⟩ := accepted.inTable tied
      refine ⟨_, addFilter_ok.mpr ⟨accepted.allowed, _, cacheFilterNpus_ok.mpr
        (.inr ⟨tied, fun full => absurd rfl full, npus, list, inside, rfl⟩), rfl⟩, rfl⟩

/-- A match list that was decoded comes back exactly when every list of ports has a port and
there is one filter of ports at most. -/
theorem matchList_roundTrip_iff (decoded : Decoded p table e) :
    FiltersRoundTrip p table e ↔
      (∀ t f, e.flist.find t = some f → ¬ f.EmptyPorts) ∧
        ¬ ((e.flist.find .inPort).isSome ∧ (e.flist.find .inPorts).isSome) := by
  have accepted := decoded.accepted
  have found {f : NasAclFilter} (mem : f ∈ e.flist.items p.matchOrder) :
      e.flist.find f.filterType = some f := Keyed.mem_items.mp mem
  have written (some_ : ∀ t f, e.flist.find t = some f → ¬ f.EmptyPorts) :
      ∀ f ∈ e.flist.items p.matchOrder, f.Written p (valueAdds p f) := by
    intro f mem
    obtain ⟨obj, v, path, read⟩ := (accepted _ f (found mem)).read
    exact readFilter_written read (some_ _ f (found mem))
  constructor
  · rintro ⟨⟨adds, filled, back⟩, keyed⟩
    have some_ : ∀ t f, e.flist.find t = some f → ¬ f.EmptyPorts := by
      intro t f held empty
      obtain rfl := e.flist.keyed t f held
      obtain ⟨adds, filled, -⟩ := keyed f.filterType f held
      have failed : fillMatchAttr p f f.filterType [] = Fill.failed :=
        fillMatchAttr_emptyPorts empty
      rw [failed] at filled
      cases filled
    refine ⟨some_, ?_⟩
    rintro ⟨inPort, inPorts⟩
    obtain ⟨e', set, same⟩ := back [] 0 fun _ absent => by cases absent
    cases (fillMatchAttrList_ok (written some_)).symm.trans filled
    rw [setMatchLists_written (written some_) fun _ absent => by cases absent] at set
    have ports : ∀ f ∈ e.flist.items p.matchOrder,
        f.filterType = .inPort ∨ f.filterType = .inPorts → f.ifindexList ≠ [] := by
      rintro f mem (type | type)
      · obtain ⟨obj, v, path, read⟩ := (accepted _ f (found mem)).read
        exact readFilter_inPort read type
      · intro none_
        exact some_ _ f (found mem) ⟨.inl type, none_⟩
    have cached := addFilters_portsCached (portsCached_empty rfl rfl)
      (fun g held => by cases held) ports set
    rw [← same] at inPort inPorts
    cases cached.single .inPort .inPorts rfl rfl inPort inPorts
  · rintro ⟨some_, single⟩
    have one : ∀ f ∈ e.flist.items p.matchOrder, ∀ g ∈ e.flist.items p.matchOrder,
        f.isNpuSpecific → g.isNpuSpecific → f.filterType = g.filterType := by
      intro f here g there tied tied'
      have held := Option.isSome_of_eq_some (found here)
      have held' := Option.isSome_of_eq_some (found there)
      rcases npuSpecificType_cases tied with type | type <;>
        rcases npuSpecificType_cases tied' with type' | type' <;>
        rw [type] at held ⊢ <;> rw [type'] at held' ⊢
      · exact absurd ⟨held', held⟩ single
      · exact absurd ⟨held, held'⟩ single
    constructor
    · refine ⟨_, fillMatchAttrList_ok (written some_), fun base tableId fresh => ?_⟩
      obtain ⟨e', ran, result⟩ := addFilters_ok (e := .new p tableId)
        (Keyed.nodup_items p.matchOrder e.flist) (fun f mem => accepted _ f (found mem)) one
        (.inr rfl) fun _ _ _ => rfl
      refine ⟨e', ?_, result.trans (Keyed.ofItems_items p.matchOrder e.flist)⟩
      rw [setMatchLists_written (written some_) fresh]
      exact ran
    · intro t f held
      obtain rfl := e.flist.keyed t f held
      have value := written some_ f (Keyed.mem_items.mpr held)
      refine ⟨_, value.filled, fun base tableId fresh => ?_⟩
      obtain ⟨e', added, result⟩ := addFilter_new (accepted _ f held) tableId
      exact ⟨e', setMatchAttr_ok.mpr ⟨f, value.top base fresh, added⟩, result⟩

end RoundTrip

/-! ### On the bench -/

/-- A table for port lists and a DSCP. -/
def matchTable : NasAclTable where
  base := .new Bench.platform
  tableId := 1
  stage := .ingress
  allowedFilters := {.inPorts, .dscp}
  priority := 5
  ndiObjIds := ∅

/-- A new entry that is given a match list. -/
def matchedEntry (filters : List (List CpsAttr)) : Except Exn NasAclEntry :=
  let it := Bench.listAttr .entryMatch filters
  setMatchList Bench.platform matchTable [it] it (.new Bench.platform 1)

theorem matchedEntry_decoded {filters : List (List CpsAttr)} {test : NasAclEntry → Bool}
    (passed : (matchedEntry filters).toOption.any test = true) :
    ∃ e, Decoded Bench.platform matchTable e ∧ test e := by
  obtain ⟨e, set, good⟩ := except_any_iff.mp passed
  exact ⟨e, .list (.new 1) set, good⟩

/-- A port list and a DSCP without a mask come back. -/
theorem matchList_roundTrip_ports :
    ∃ e, Decoded Bench.platform matchTable e ∧ FiltersRoundTrip Bench.platform matchTable e ∧
      (e.flist.find .inPorts).map (·.ifindexList) = some [3, 9] ∧
      (e.flist.find .dscp).isSome := by
  have passed : (matchedEntry
      [Bench.matchElem .inPorts [Bench.u32 (.matchValue .inPorts) 3, Bench.u32 (.matchValue .inPorts) 9],
        Bench.matchElem .dscp [.mk (.matchValue .dscp) [] [.mk (.matchValueData .dscp) (bytesU8 10) []]]]
      ).toOption.any (fun e =>
        decide ((∀ t : MatchType, ∀ f ∈ e.flist.find t, ¬ f.EmptyPorts) ∧
          ¬ ((e.flist.find .inPort).isSome ∧ (e.flist.find .inPorts).isSome)) &&
        decide ((e.flist.find .inPorts).map (·.ifindexList) = some [3, 9] ∧
          (e.flist.find .dscp).isSome)) = true := by decide +kernel
  obtain ⟨e, decoded, test⟩ := matchedEntry_decoded passed
  obtain ⟨condition, held⟩ := Bool.and_eq_true_iff.mp test
  exact ⟨e, decoded, (matchList_roundTrip_iff decoded).mpr (of_decide_eq_true condition),
    of_decide_eq_true held⟩

/-- A list of no ports is accepted and cannot be written. -/
theorem matchList_not_always_roundTrip :
    ¬ ∀ (p : Platform) (table : NasAclTable) (e : NasAclEntry), Decoded p table e →
      FiltersRoundTrip p table e := by
  intro claim
  have passed : (matchedEntry [Bench.matchElem .inPorts []]).toOption.any (fun e =>
      decide (((fillMatchAttrList Bench.platform e).toOption.map Prod.snd) = some false)) = true := by
    decide +kernel
  obtain ⟨e, decoded, test⟩ := matchedEntry_decoded passed
  obtain ⟨adds, filled, -⟩ := (claim Bench.platform matchTable e decoded).list
  have failed := of_decide_eq_true test
  rw [filled] at failed
  cases failed

end SonicNasAcl
