/-
# Codec -- what is written to an attribute object is read back

A value is written by its descriptor as a sequence of adds under the value's own tag, and
read by the same descriptor.  A `Field` is an item together with the payload it is written
as; `Encodes` says of each of the layouts which items can be written, and what they read
back as.

* `copyDataToObj_cons`: a longer path adds the same further down;
* `Encodes.roundTrip`: an encodable value is written, and reads back, in any object that
  has no such value yet;
* `carries_itemAt`: every item the decoder makes can be written;
* `forEachElement_listAdds`: a list of such values is read back element by element.
-/
import SonicNasAcl.Decoding

namespace SonicNasAcl

set_option autoImplicit false

open Lib

/-! ## Filling functions -/

namespace Fill

variable {α : Type} {a : AttrId} {x y : Fill} {xs adds : Adds} {body : α → Fill} {l : List α}

/-- The same adds, one level further down. -/
def under (a : AttrId) (x : Fill) : Fill := x.map fun r => (Tlv.under a r.1, r.2)

theorem under_bind {x : Except Exn α} {f : α → Fill} :
    under a (x >>= f) = x >>= fun b => (f b).under a := by
  cases x <;> rfl

theorem under_andThen : (andThen x y).under a = andThen (x.under a) (y.under a) := by
  cases x with
  | error e => rfl
  | ok r =>
      obtain ⟨xs, b⟩ := r
      cases b with
      | false => rfl
      | true =>
          cases y with
          | error e => rfl
          | ok s =>
              obtain ⟨ys, b⟩ := s
              change Except.ok (Tlv.under a (xs ++ ys), b)
                = Except.ok (Tlv.under a xs ++ Tlv.under a ys, b)
              rw [Tlv.under_append]

theorem under_forEach : (forEach body l).under a = forEach (fun b => (body b).under a) l := by
  induction l with
  | nil => rfl
  | cons b rest ih => rw [forEach, forEach, under_andThen, ih]

theorem andThen_true :
    andThen x y = .ok (adds, true) ↔
      ∃ xs ys, x = .ok (xs, true) ∧ y = .ok (ys, true) ∧ adds = xs ++ ys := by
  unfold andThen
  rw [except_bind_ok]
  constructor
  · rintro ⟨⟨xs, b⟩, first, rest⟩
    cases b with
    | false => cases rest
    | true =>
        obtain ⟨⟨ys, b⟩, second, rest⟩ := except_bind_ok.mp rest
        cases rest
        exact ⟨xs, ys, first, second, rfl⟩
  · rintro ⟨xs, ys, first, second, rfl⟩
    exact ⟨(xs, true), first, except_bind_ok.mpr ⟨(ys, true), second, rfl⟩⟩

/-- A loop whose turns all come to their end. -/
theorem forEach_true {g : α → Adds} (turns : ∀ b ∈ l, body b = .ok (g b, true)) :
    forEach body l = .ok (l.flatMap g, true) := by
  induction l with
  | nil => rfl
  | cons b rest ih =>
      have others := ih fun c mem => turns c (List.mem_cons_of_mem _ mem)
      exact andThen_true.mpr ⟨_, _, turns b (List.mem_cons_self ..), others, rfl⟩

theorem of_forEach_true (ran : forEach body l = .ok (adds, true)) :
    ∀ b ∈ l, ∃ xs, body b = .ok (xs, true) := by
  induction l generalizing adds with
  | nil => exact fun _ absent => absurd absent List.not_mem_nil
  | cons b rest ih =>
      obtain ⟨xs, ys, first, others, -⟩ := andThen_true.mp ran
      exact List.forall_mem_cons.mpr ⟨⟨xs, first⟩, ih others⟩

end Fill

section Under

variable {p : Platform} {a : AttrId} {path : List AttrId} {val : MapData}
  {childList : List MapData} {l : List CommonData}

theorem addDataToObj_cons {data : CommonData} {size : Nat} {t : DataType} :
    addDataToObj p (a :: path) data size t = (addDataToObj p path data size t).under a := by
  unfold addDataToObj
  by_cases opaque_ : t = .opaqueData
  · rw [if_pos opaque_, if_pos opaque_]
    rfl
  · rw [if_neg opaque_, if_neg opaque_]
    cases addedBytes data t with
    | none => rfl
    | some bytes =>
        simp only []
        split
        · rfl
        · rfl

theorem addChildAttrsToObj_cons {start : Nat} :
    addChildAttrsToObj p (a :: path) childList l start
      = (addChildAttrsToObj p path childList l start).under a := by
  unfold addChildAttrsToObj
  rw [Fill.under_forEach]
  refine congrArg (Fill.forEach · childList.zipIdx) (funext fun x => ?_)
  rw [Fill.under_bind]
  refine congrArg (vectorAt l (start + x.2) >>= ·) (funext fun data => ?_)
  exact addDataToObj_cons

theorem addChildListToObj_cons :
    addChildListToObj p (a :: path) childList l
      = (addChildListToObj p path childList l).under a := by
  simp only [addChildListToObj]
  by_cases none_ : l.length / childList.length = 0
  · rw [if_pos none_, if_pos none_]
    rfl
  · rw [if_neg none_, if_neg none_, Fill.under_forEach]
    refine congrArg (Fill.forEach · _) (funext fun i => ?_)
    exact addChildAttrsToObj_cons

theorem copyNonIflistDataToObj_cons :
    copyNonIflistDataToObj p (a :: path) val childList l
      = (copyNonIflistDataToObj p path val childList l).under a := by
  unfold copyNonIflistDataToObj
  by_cases list : val.dataType = .embeddedList
  · rw [if_pos list, if_pos list]
    exact addChildListToObj_cons
  · rw [if_neg list, if_neg list]
    by_cases embedded : val.dataType = .embedded
    · rw [if_pos embedded, if_pos embedded]
      by_cases short : l.length ≠ childList.length
      · rw [if_pos short, if_pos short]
        rfl
      · rw [if_neg short, if_neg short]
        exact addChildAttrsToObj_cons
    · rw [if_neg embedded, if_neg embedded]
      cases l with
      | nil => rfl
      | cons data rest => exact addDataToObj_cons

theorem copyIflistDataToObj_cons :
    copyIflistDataToObj (a :: path) l = (copyIflistDataToObj path l).under a := by
  unfold copyIflistDataToObj
  split
  · rw [Fill.under_forEach]
    rfl
  · rfl

/-- A longer path adds the same further down. -/
theorem copyDataToObj_cons :
    copyDataToObj p (a :: path) val childList l = (copyDataToObj p path val childList l).under a := by
  unfold copyDataToObj
  cases val.dataType with
  | none => rfl
  | opaqueData => rfl
  | iflist => exact copyIflistDataToObj_cons
  | _ => exact copyNonIflistDataToObj_cons

end Under

/-! ## Fields -/

/-- An item, and the payload it is written as and read back from. -/
structure Field (p : Platform) where
  d : MapData
  data : CommonData
  payload : Tlv.Payload AttrId
  written : ∀ path, addDataToObj p path data d.dataLen d.dataType = Fill.one path payload
  fits : ∀ a, d.Fits p (.mk a payload.1 payload.2)
  read : ∀ a, d.item p (.mk a payload.1 payload.2) = data

namespace Field

variable {p : Platform} {f : Field p} {fields : List (Field p)} {obj : List CpsAttr}
  {path : List AttrId}

/-- The attribute a field is written to. -/
def node (f : Field p) : CpsAttr := .mk f.d.attrId f.payload.1 f.payload.2

/-- The adds of some fields, each under its own tag. -/
def adds (fields : List (Field p)) : Adds := fields.map fun f => ([f.d.attrId], f.payload)

theorem readAt (found : Tlv.get path obj = some f.node) :
    f.d.WellFormedAt p obj path ∧ f.d.itemAt p obj path = f.data := by
  unfold MapData.WellFormedAt MapData.itemAt
  rw [found]
  exact ⟨f.fits _, f.read _⟩

theorem adds_full (some_ : fields ≠ []) : adds fields ≠ [] ∧ ∀ x ∈ adds fields, x.1 ≠ [] := by
  refine ⟨fun none_ => some_ (List.map_eq_nil_iff.mp none_), fun x mem => ?_⟩
  obtain ⟨f, -, rfl⟩ := List.mem_map.mp mem
  exact List.cons_ne_nil _ _

theorem addAll_adds (l : List CpsAttr) : Tlv.addAll (adds fields) l = l ++ fields.map node := by
  induction fields generalizing l with
  | nil => exact (List.append_nil l).symm
  | cons f rest ih =>
      change Tlv.addAll (adds rest) (l ++ [f.node]) = _
      rw [ih, List.append_assoc]
      rfl

/-- Fields with different tags are found. -/
theorem find_node (apart : ((fields.map Field.d).map MapData.attrId).Nodup) (mem : f ∈ fields) :
    Tlv.find f.d.attrId (fields.map node) = some f.node := by
  refine Tlv.find_of_mem (t := f.node) ?_ (List.mem_map_of_mem mem)
  rw [List.map_map] at apart ⊢
  exact apart

/-- The children of a value are written one after the other, from their place in the list. -/
theorem addChildAttrs (path : List AttrId) (fields : List (Field p))
    (before after : List CommonData) :
    addChildAttrsToObj p path (fields.map Field.d) (before ++ fields.map Field.data ++ after)
        before.length
      = .ok (fields.map fun f => (path ++ [f.d.attrId], f.payload), true) := by
  have turns : ∀ (k start : Nat) (before : List CommonData), before.length = start + k →
      Fill.forEach (fun x => do
          let data ← vectorAt (before ++ fields.map Field.data ++ after) (start + x.2)
          addDataToObj p (path ++ [x.1.attrId]) data x.1.dataLen x.1.dataType)
        ((fields.map Field.d).zipIdx k)
      = .ok (fields.map fun f => (path ++ [f.d.attrId], f.payload), true) := by
    induction fields with
    | nil => exact fun _ _ _ _ => rfl
    | cons f rest ih =>
        intro k start before place
        have here : vectorAt (before ++ (f :: rest).map Field.data ++ after) (start + k)
            = .ok f.data := by
          rw [← place, vectorAt, List.append_assoc, List.map_cons, List.cons_append,
            List.getElem?_append_right (Nat.le_refl _), Nat.sub_self]
          rfl
        have others := ih (k + 1) start (before ++ [f.data]) (by
          rw [List.length_append, place, List.length_singleton]
          omega)
        rw [List.append_assoc before, List.singleton_append] at others
        refine Fill.andThen_true.mpr ⟨[(path ++ [f.d.attrId], f.payload)], _, ?_, others, rfl⟩
        simp only [here, except_ok_bind]
        exact f.written _
  exact turns 0 before.length before rfl

end Field

/-! ## Values -/

/-- Items that can be written, and what they read back as.  Of a value without children only
the first item is written. -/
inductive Encodes (p : Platform) (val : MapData) (childList : List MapData) :
    List CommonData → List CommonData → Prop
  | leaf {f : Field p} {rest : List CommonData}
      (kind : val.dataType ∈ [.u8, .u16, .u32, .u64, .objId, .ifindex, .bin])
      (same : f.d = val) : Encodes p val childList (f.data :: rest) [f.data]
  | embedded {fields : List (Field p)} (kind : val.dataType = .embedded)
      (children : fields.map Field.d = childList) :
      Encodes p val childList (fields.map Field.data) (fields.map Field.data)
  | list {elems : List (List (Field p))} (kind : val.dataType = .embeddedList)
      (some_ : elems ≠ []) (children : ∀ fields ∈ elems, fields.map Field.d = childList) :
      Encodes p val childList (elems.flatMap fun fields => fields.map Field.data)
        (elems.flatMap fun fields => fields.map Field.data)
  | iflist {ifs : List IfIndex} (kind : val.dataType = .iflist) (some_ : ifs ≠ []) :
      Encodes p val childList [{ ifindexList := ifs }] [{ ifindexList := ifs }]

/-- Adds that write a value, wherever there is none yet. -/
structure Writes (p : Platform) (val : MapData) (childList : List MapData)
    (l : List CommonData) (adds : Adds) : Prop where
  starts : Tlv.StartsAt val.attrId adds
  some_ : adds ≠ []
  reads : ∀ obj, Tlv.Fresh val.attrId obj →
    val.WellFormed p childList (Tlv.addAll adds obj) [] ∧
      val.items p childList (Tlv.addAll adds obj) [] = l

section RoundTrip

variable {p : Platform} {val : MapData} {childList : List MapData}

theorem writes_leaf {f : Field p} {rest : List CommonData}
    (kind : val.dataType ∈ [.u8, .u16, .u32, .u64, .objId, .ifindex, .bin]) (same : f.d = val) :
    copyDataToObj p [val.attrId] val childList (f.data :: rest)
        = .ok ([([val.attrId], f.payload)], true) ∧
      Writes p val childList [f.data] [([val.attrId], f.payload)] := by
  subst same
  have written := f.written [f.d.attrId]
  have found (obj : List CpsAttr) (fresh : Tlv.Fresh f.d.attrId obj) :
      Tlv.get [f.d.attrId] (Tlv.addAll [([f.d.attrId], f.payload)] obj) = some f.node :=
    (Tlv.find_append_of_fresh fresh _).trans (Tlv.find_cons_self ..)
  have read (obj : List CpsAttr) (fresh : Tlv.Fresh f.d.attrId obj) := f.readAt (found obj fresh)
  have starts : Tlv.StartsAt f.d.attrId [([f.d.attrId], f.payload)] := by
    intro x mem
    rw [List.mem_singleton.mp mem]
    exact ⟨[], rfl⟩
  simp only [List.mem_cons, List.not_mem_nil, or_false] at kind
  refine ⟨?_, starts, List.cons_ne_nil _ _, fun obj fresh => ?_⟩
  · unfold copyDataToObj copyNonIflistDataToObj
    rcases kind with kind | kind | kind | kind | kind | kind | kind <;>
      · simp only [kind] at written ⊢
        exact written
  · unfold MapData.WellFormed MapData.items
    rcases kind with kind | kind | kind | kind | kind | kind | kind <;>
      · simp only [kind]
        exact ⟨(read obj fresh).1, congrArg (fun d => [d]) (read obj fresh).2⟩

theorem writes_embedded {fields : List (Field p)} (kind : val.dataType = .embedded)
    (some_ : fields ≠ [])
    (apart : ((fields.map Field.d).map MapData.attrId).Nodup) :
    copyDataToObj p [val.attrId] val (fields.map Field.d) (fields.map Field.data)
        = .ok (Tlv.under val.attrId (Field.adds fields), true) ∧
      Writes p val (fields.map Field.d) (fields.map Field.data)
        (Tlv.under val.attrId (Field.adds fields)) := by
  obtain ⟨full, paths⟩ := Field.adds_full some_
  refine ⟨?_, Tlv.startsAt_under _ _, ?_, fun obj fresh => ?_⟩
  · have written := Field.addChildAttrs [val.attrId] fields [] []
    rw [List.nil_append, List.append_nil] at written
    unfold copyDataToObj copyNonIflistDataToObj
    simp only [kind, List.length_map, ne_eq, not_true_eq_false, if_false, reduceCtorEq, if_true]
    rw [Tlv.under, Field.adds, List.map_map]
    exact written
  · rw [Tlv.under, ne_eq, List.map_eq_nil_iff]
    exact full
  · have read {f : Field p} (mem : f ∈ fields) :
        f.d.WellFormedAt p (Tlv.addAll (Tlv.under val.attrId (Field.adds fields)) obj)
            [val.attrId, f.d.attrId] ∧
          f.d.itemAt p (Tlv.addAll (Tlv.under val.attrId (Field.adds fields)) obj)
            [val.attrId, f.d.attrId] = f.data := by
      refine f.readAt ?_
      rw [Tlv.addAll_under fresh full paths, Tlv.get_append_of_fresh fresh, Tlv.get_under,
        Field.addAll_adds, List.nil_append]
      exact Field.find_node apart mem
    unfold MapData.WellFormed MapData.items
    simp only [kind, List.nil_append, List.map_map]
    constructor
    · intro d mem
      obtain ⟨f, here, rfl⟩ := List.mem_map.mp mem
      exact (read here).1
    · exact List.map_congr_left fun f mem => (read mem).2

theorem writes_iflist {ifs : List IfIndex} (kind : val.dataType = .iflist) (some_ : ifs ≠ []) :
    copyDataToObj p [val.attrId] val childList [{ ifindexList := ifs }]
        = .ok (ifs.map fun i => ([val.attrId], Tlv.leaf (bytesU32 i)), true) ∧
      Writes p val childList [{ ifindexList := ifs }]
        (ifs.map fun i => ([val.attrId], Tlv.leaf (bytesU32 i))) := by
  have added (obj : List CpsAttr) :
      Tlv.addAll (ifs.map fun i => ([val.attrId], Tlv.leaf (bytesU32 i))) obj
        = obj ++ ifs.map fun i => .mk val.attrId (bytesU32 i) [] := by
    clear some_
    induction ifs generalizing obj with
    | nil => exact (List.append_nil obj).symm
    | cons i rest ih =>
        change Tlv.addAll _ (obj ++ [.mk val.attrId (bytesU32 i) []]) = _
        rw [ih, List.append_assoc]
        rfl
  refine ⟨?_, fun x mem => ?_, ?_, fun obj fresh => ?_⟩
  · have written : Fill.forEach (fun i => Fill.one [val.attrId] (Tlv.leaf (bytesU32 i))) ifs
        = .ok (ifs.flatMap fun i => [([val.attrId], Tlv.leaf (bytesU32 i))], true) :=
      Fill.forEach_true fun _ _ => rfl
    rw [← List.map_eq_flatMap] at written
    unfold copyDataToObj
    simp only [kind]
    exact written
  · obtain ⟨i, -, rfl⟩ := List.mem_map.mp mem
    exact ⟨[], rfl⟩
  · rw [ne_eq, List.map_eq_nil_iff]
    exact some_
  · have scanned : scanIfval val.attrId (Tlv.addAll
        (ifs.map fun i => ([val.attrId], Tlv.leaf (bytesU32 i))) obj) = ifs := by
      have others : obj.filter (fun a => a.id = val.attrId) = [] :=
        List.filter_eq_nil_iff.mpr fun t mem same => fresh t mem (of_decide_eq_true same)
      have mine : (ifs.map fun i => Tlv.mk val.attrId (bytesU32 i) []).filter
          (fun a => a.id = val.attrId) = ifs.map fun i => .mk val.attrId (bytesU32 i) [] := by
        refine List.filter_eq_self.mpr fun t mem => ?_
        obtain ⟨i, -, rfl⟩ := List.mem_map.mp mem
        exact decide_eq_true rfl
      rw [scanIfval, added, List.filter_append, others, List.nil_append, mine, List.map_map]
      exact (List.map_congr_left fun i _ => dataU32_bytesU32 _ _ _).trans (List.map_id ifs)
    unfold MapData.WellFormed MapData.items siblings
    simp only [kind, if_true, scanned, and_true]
    obtain ⟨i, mem⟩ := List.exists_mem_of_ne_nil ifs some_
    rw [added]
    exact ⟨.mk val.attrId (bytesU32 i) [],
      List.mem_append_right obj (List.mem_map_of_mem mem), rfl⟩

/-- The elements of a list, by their index. -/
theorem map_range_getD {α : Type} (l : List α) (d : α) :
    (List.range l.length).map (fun i => (l[i]?).getD d) = l := by
  refine List.ext_getElem (by simp) fun i short inside => ?_
  simp [inside]

/-- The containers of the elements of a list. -/
def elemGroups (elems : List (List (Field p))) : List (AttrId × Adds) :=
  (List.range elems.length).map fun i => (.index i, Field.adds ((elems[i]?).getD []))

/-- What a list of values is written as. -/
def listFieldAdds (elems : List (List (Field p))) : Adds :=
  (elemGroups elems).flatMap fun g => Tlv.under g.1 g.2

theorem length_flatMap_data {elems : List (List (Field p))}
    (children : ∀ fields ∈ elems, fields.map Field.d = childList) :
    (elems.flatMap fun fields => fields.map Field.data).length
      = elems.length * childList.length := by
  induction elems with
  | nil => exact (Nat.zero_mul _).symm
  | cons fields rest ih =>
      have here : fields.length = childList.length := by
        rw [← children fields (List.mem_cons_self ..), List.length_map]
      rw [List.flatMap_cons, List.length_append, ih fun g mem => children g (List.mem_cons_of_mem _ mem),
        List.length_map, here, List.length_cons, Nat.succ_mul]
      omega

/-- The elements are written one after the other. -/
theorem addChildList {elems : List (List (Field p))} (path : List AttrId) (some_ : elems ≠ [])
    (children : ∀ fields ∈ elems, fields.map Field.d = childList) (some_child : childList ≠ []) :
    addChildListToObj p path childList (elems.flatMap fun fields => fields.map Field.data)
      = .ok ((listFieldAdds elems).map fun x => (path ++ x.1, x.2), true) := by
  have count : (elems.flatMap fun fields => fields.map Field.data).length / childList.length
      = elems.length := by
    rw [length_flatMap_data children]
    exact Nat.mul_div_cancel _ (List.length_pos_of_ne_nil some_child)
  have turns : ∀ i ∈ List.range elems.length,
      addChildAttrsToObj p (path ++ [.index i]) childList
          (elems.flatMap fun fields => fields.map Field.data) (i * childList.length)
        = .ok ((Tlv.under (.index i) (Field.adds ((elems[i]?).getD []))).map
            (fun x => (path ++ x.1, x.2)), true) := by
    intro i mem
    have inside := List.mem_range.mp mem
    have here : elems[i]? = some elems[i] := List.getElem?_eq_getElem inside
    have split : elems = elems.take i ++ elems[i] :: elems.drop (i + 1) := by
      rw [List.getElem_cons_drop, List.take_append_drop]
    have before : ((elems.take i).flatMap fun fields => fields.map Field.data).length
        = i * childList.length := by
      rw [length_flatMap_data fun g mem => children g (List.mem_of_mem_take mem), List.length_take,
        Nat.min_eq_left inside.le]
    have written := Field.addChildAttrs (path ++ [.index i]) elems[i]
      ((elems.take i).flatMap fun fields => fields.map Field.data)
      ((elems.drop (i + 1)).flatMap fun fields => fields.map Field.data)
    rw [children _ (List.getElem_mem inside), before] at written
    rw [here, Option.getD_some, Tlv.under, Field.adds, List.map_map, List.map_map]
    refine Eq.trans (congrArg (addChildAttrsToObj p _ childList · _) ?_) (written.trans ?_)
    · conv_lhs => rw [split]
      rw [List.flatMap_append, List.flatMap_cons, List.append_assoc]
    · refine congrArg (fun adds => Except.ok (adds, true)) (List.map_congr_left fun f _ => ?_)
      simp
  simp only [addChildListToObj]
  rw [count, if_neg (List.length_pos_of_ne_nil some_).ne', Fill.forEach_true turns]
  rw [listFieldAdds, elemGroups, List.flatMap_map, List.map_flatMap]

/-- The containers the elements of a list are written to. -/
def elemNodes (elems : List (List (Field p))) : List CpsAttr :=
  (List.range elems.length).map fun i =>
    .mk (.index i) [] (((elems[i]?).getD []).map Field.node)

theorem addAll_listFieldAdds {elems : List (List (Field p))} (full : ∀ fields ∈ elems, fields ≠ []) :
    Tlv.addAll (listFieldAdds elems) [] = elemNodes elems := by
  have inRange {g : AttrId × Adds} (mem : g ∈ elemGroups elems) :
      g.2 ≠ [] ∧ ∀ x ∈ g.2, x.1 ≠ [] := by
    obtain ⟨i, here, rfl⟩ := List.mem_map.mp mem
    have inside := List.mem_range.mp here
    refine Field.adds_full ?_
    rw [List.getElem?_eq_getElem inside, Option.getD_some]
    exact full _ (List.getElem_mem inside)
  have apart : ((elemGroups elems).map Prod.fst).Nodup := by
    rw [elemGroups, List.map_map]
    exact List.nodup_range.map fun i j same => AttrId.index.inj same
  rw [listFieldAdds, Tlv.addAll_groups apart (fun _ _ t absent => by cases absent)
    fun g mem => inRange mem, List.nil_append, elemGroups, List.map_map]
  refine List.map_congr_left fun i _ => ?_
  simp only [Function.comp_apply, Field.addAll_adds, List.nil_append]

theorem writes_list {elems : List (List (Field p))} (kind : val.dataType = .embeddedList)
    (some_ : elems ≠ []) (children : ∀ fields ∈ elems, fields.map Field.d = childList)
    (some_child : childList ≠ []) (apart : (childList.map MapData.attrId).Nodup) :
    copyDataToObj p [val.attrId] val childList (elems.flatMap fun fields => fields.map Field.data)
        = .ok (Tlv.under val.attrId (listFieldAdds elems), true) ∧
      Writes p val childList (elems.flatMap fun fields => fields.map Field.data)
        (Tlv.under val.attrId (listFieldAdds elems)) := by
  have full : ∀ fields ∈ elems, fields ≠ [] := by
    rintro fields mem rfl
    exact some_child (children [] mem).symm
  have paths : ∀ x ∈ listFieldAdds elems, x.1 ≠ [] := by
    intro x mem
    obtain ⟨g, -, mem⟩ := List.mem_flatMap.mp mem
    exact (Tlv.startsAt_under _ _).paths x mem
  have some_add : listFieldAdds elems ≠ [] := by
    intro none_
    have contents := addAll_listFieldAdds full
    rw [none_, elemNodes] at contents
    exact some_ (List.length_eq_zero_iff.mp
      (List.range_eq_nil.mp (List.map_eq_nil_iff.mp contents.symm)))
  refine ⟨?_, Tlv.startsAt_under _ _, ?_, fun obj fresh => ?_⟩
  · have written := addChildList [val.attrId] some_ children some_child
    unfold copyDataToObj copyNonIflistDataToObj
    simp only [kind, if_true]
    exact written
  · rw [Tlv.under, ne_eq, List.map_eq_nil_iff]
    exact some_add
  · have opened := Tlv.addAll_under fresh some_add paths
    rw [addAll_listFieldAdds full] at opened
    rw [opened]
    have found : Tlv.get [val.attrId] (obj ++ [.mk val.attrId [] (elemNodes elems)])
        = some (.mk val.attrId [] (elemNodes elems)) := by
      rw [Tlv.get_append_of_fresh fresh]
      exact Tlv.find_cons_self ..
    have read {i : Nat} (short : i < elems.length) {f : Field p} (mem : f ∈ elems[i]) :
        f.d.WellFormedAt p (obj ++ [.mk val.attrId [] (elemNodes elems)])
            [val.attrId, .index i, f.d.attrId] ∧
          f.d.itemAt p (obj ++ [.mk val.attrId [] (elemNodes elems)])
            [val.attrId, .index i, f.d.attrId] = f.data := by
      refine f.readAt ?_
      rw [Tlv.get_append_of_fresh fresh, Tlv.get_under, Tlv.get]
      have here : Tlv.find (.index i) (elemNodes elems)
          = some (.mk (.index i) [] (elems[i].map Field.node)) := by
        refine Tlv.find_of_mem (t := .mk (.index i) [] (elems[i].map Field.node)) ?_ ?_
        · rw [elemNodes, List.map_map]
          exact List.nodup_range.map fun i j same => AttrId.index.inj same
        · refine List.mem_map.mpr ⟨i, List.mem_range.mpr short, ?_⟩
          rw [List.getElem?_eq_getElem short, Option.getD_some]
      rw [here, Option.bind_some, Tlv.inside_mk]
      exact Field.find_node ((children _ (List.getElem_mem short)).symm ▸ apart) mem
    unfold MapData.WellFormed MapData.items
    simp only [kind, List.nil_append, found, Option.some.injEq, exists_eq_left', Tlv.inside_mk,
      Option.map_some, Option.getD_some]
    have each (g : CpsAttr → List CommonData) : (elemNodes elems).flatMap g
        = (List.range elems.length).flatMap fun i =>
          g (.mk (.index i) [] (((elems[i]?).getD []).map Field.node)) := List.flatMap_map ..
    refine ⟨⟨?_, ?_⟩, ?_⟩
    · rw [elemNodes, ne_eq, List.map_eq_nil_iff, List.range_eq_nil, List.length_eq_zero_iff]
      exact some_
    · intro elem mem d child
      obtain ⟨i, here, rfl⟩ := List.mem_map.mp mem
      have short := List.mem_range.mp here
      rw [← children _ (List.getElem_mem short)] at child
      obtain ⟨f, field, rfl⟩ := List.mem_map.mp child
      exact (read short field).1
    · rw [each]
      conv_rhs => rw [← map_range_getD elems [], List.flatMap_map]
      refine List.flatMap_congr fun i here => ?_
      have short := List.mem_range.mp here
      rw [List.getElem?_eq_getElem short, Option.getD_some, Tlv.id_mk,
        ← children _ (List.getElem_mem short), List.map_map]
      exact List.map_congr_left fun f field => (read short field).2

/-- A value that can be written is written, and reads back wherever there was none. -/
theorem Encodes.roundTrip {l l' : List CommonData} (encodes : Encodes p val childList l l')
    (children : val.dataType = .embedded ∨ val.dataType = .embeddedList → childList ≠ [])
    (apart : (childList.map MapData.attrId).Nodup) :
    ∃ adds, copyDataToObj p [val.attrId] val childList l = .ok (adds, true) ∧
      Writes p val childList l' adds := by
  cases encodes with
  | leaf kind same => exact ⟨_, writes_leaf kind same⟩
  | embedded kind rows =>
      subst rows
      refine ⟨_, writes_embedded kind ?_ apart⟩
      rintro rfl
      exact children (.inl kind) rfl
  | list kind some_ rows => exact ⟨_, writes_list kind some_ rows (children (.inr kind)) apart⟩
  | iflist kind some_ => exact ⟨_, writes_iflist kind some_⟩

end RoundTrip

/-! ## What the decoder makes can be written -/

/-- The bytes of a number. -/
def DataType.width : DataType → Option Nat
  | .u8 => some 1
  | .u16 => some 2
  | .u32 | .ifindex => some 4
  | .u64 | .objId => some 8
  | _ => Option.none

namespace MapData

variable {p : Platform} {d : MapData} {obj : List CpsAttr} {path : List AttrId}

/-- A descriptor whose length is that of its type, and whose default is in its range. -/
structure Sized (d : MapData) : Prop where
  width : ∀ w, d.dataType.width = some w → d.dataLen = 0 ∨ d.dataLen = w
  optional : d.mode = .optional → d.rangeMin = 0

/-- A number that is read, or filled in, is in its range. -/
theorem itemAt_number {α : Type} (toNat : α → Nat) {of : α → CommonData} (get : CpsAttr → α)
    (v₀ : α) (sized : d.Sized) (plain : d.dataType ≠ .opaqueData)
    (read : ∀ attr, d.item p attr = of (get attr)) (num : ∀ attr, d.number attr = toNat (get attr))
    (fill : d.filled = of v₀) (top : d.rangeMax ≠ 0 → toNat v₀ ≤ d.rangeMax)
    (fits : d.WellFormedAt p obj path) :
    ∃ v, d.itemAt p obj path = of v ∧
      (d.rangeMax ≠ 0 → d.rangeMin ≤ toNat v ∧ toNat v ≤ d.rangeMax) := by
  unfold WellFormedAt at fits
  unfold itemAt
  cases found : Tlv.get path obj with
  | none =>
      rw [found] at fits
      refine ⟨v₀, fill, fun ranged => ⟨?_, top ranged⟩⟩
      rw [sized.optional fits]
      exact Nat.zero_le _
  | some attr =>
      simp only [found, Fits, plain, if_false] at fits
      refine ⟨get attr, read attr, fun ranged => ?_⟩
      rw [← num]
      exact fits.2 ranged

theorem itemAt_u8 (sized : d.Sized) (kind : d.dataType = .u8) (fits : d.WellFormedAt p obj path) :
    ∃ v, d.itemAt p obj path = .ofU8 v ∧
      (d.rangeMax ≠ 0 → d.rangeMin ≤ v.toNat ∧ v.toNat ≤ d.rangeMax) := by
  refine itemAt_number UInt8.toNat CpsAttr.dataU8
    (if d.rangeMax ≠ 0 then UInt8.ofNat d.rangeMax else 0xff) sized ?_ ?_ ?_ ?_ ?_ fits
  · simp [kind]
  · simp [item, kind]
  · simp [number, kind]
  · simp only [filled, kind]
  · intro ranged
    rw [if_pos ranged, UInt8.toNat_ofNat']
    exact Nat.mod_le ..

theorem itemAt_u16 (sized : d.Sized) (kind : d.dataType = .u16)
    (fits : d.WellFormedAt p obj path) :
    ∃ v, d.itemAt p obj path = .ofU16 v ∧
      (d.rangeMax ≠ 0 → d.rangeMin ≤ v.toNat ∧ v.toNat ≤ d.rangeMax) := by
  refine itemAt_number UInt16.toNat CpsAttr.dataU16
    (if d.rangeMax ≠ 0 then UInt16.ofNat d.rangeMax else 0xffff) sized ?_ ?_ ?_ ?_ ?_ fits
  · simp [kind]
  · simp [item, kind]
  · simp [number, kind]
  · simp only [filled, kind]
  · intro ranged
    rw [if_pos ranged, UInt16.toNat_ofNat']
    exact Nat.mod_le ..

theorem itemAt_u32 (sized : d.Sized) (kind : d.dataType = .u32)
    (fits : d.WellFormedAt p obj path) :
    ∃ v, d.itemAt p obj path = .ofU32 v ∧
      (d.rangeMax ≠ 0 → d.rangeMin ≤ v.toNat ∧ v.toNat ≤ d.rangeMax) := by
  refine itemAt_number UInt32.toNat CpsAttr.dataU32
    (if d.rangeMax ≠ 0 then UInt32.ofNat d.rangeMax else 0xffffffff) sized ?_ ?_ ?_ ?_ ?_
    fits
  · simp [kind]
  · simp [item, kind]
  · simp [number, kind]
  · simp only [filled, kind]
  · intro ranged
    rw [if_pos ranged, UInt32.toNat_ofNat']
    exact Nat.mod_le ..

theorem itemAt_u64 (kind : d.dataType = .u64) (obj : List CpsAttr) (path : List AttrId) :
    ∃ v, d.itemAt p obj path = .ofU64 v := by
  unfold itemAt
  cases Tlv.get path obj with
  | none => exact ⟨_, by simp only [filled, kind]; rfl⟩
  | some attr => exact ⟨CpsAttr.dataU64 attr, by simp only [item, kind]⟩

theorem itemAt_bin (kind : d.dataType = .bin) (fits : d.WellFormedAt p obj path) :
    ∃ b, d.itemAt p obj path = .ofBytes b ∧ (d.dataLen ≠ 0 → b.length = d.dataLen) := by
  unfold WellFormedAt at fits
  unfold itemAt
  cases found : Tlv.get path obj with
  | none =>
      refine ⟨List.replicate d.dataLen 0xff, ?_, fun _ => List.length_replicate⟩
      simp only [filled, kind]
  | some attr =>
      simp only [found, Fits, kind, reduceCtorEq, if_false] at fits
      refine ⟨attr.value, ?_, fits.1⟩
      simp only [item, kind]

/-- An attribute that is not optional is there. -/
theorem itemAt_required (required : d.mode = .mandatory) (fits : d.WellFormedAt p obj path) :
    ∃ attr, d.itemAt p obj path = d.item p attr := by
  unfold WellFormedAt at fits
  unfold itemAt
  cases found : Tlv.get path obj with
  | none =>
      rw [found] at fits
      cases required.symm.trans fits
  | some attr => exact ⟨attr, rfl⟩

/-- A field of bytes. -/
theorem exists_field {data : CommonData} (bytes : List UInt8) (plain : d.dataType ≠ .opaqueData)
    (known : addedBytes data d.dataType = some bytes)
    (length : d.dataLen = 0 ∨ d.dataLen = bytes.length)
    (read : ∀ a, d.item p (.mk a bytes []) = data)
    (range : ∀ a, d.rangeMax ≠ 0 →
      d.rangeMin ≤ d.number (.mk a bytes []) ∧ d.number (.mk a bytes []) ≤ d.rangeMax) :
    ∃ f : Field p, f.d = d ∧ f.data = data := by
  have short : ¬ (d.dataLen ≠ 0 ∧ d.dataLen ≠ bytes.length) := by
    rintro ⟨fixed, other⟩
    exact length.elim fixed other
  refine ⟨⟨d, data, Tlv.leaf bytes, fun path => ?_, fun a => ?_, read⟩, rfl, rfl⟩
  · unfold addDataToObj
    rw [if_neg plain]
    simp only [known]
    rw [if_neg short]
  · simp only [Fits, plain, if_false]
    exact ⟨fun fixed => (length.resolve_left fixed).symm, range a⟩

/-- A field of a table, in the form the helpers give it. -/
theorem exists_opaqueField (kind : d.dataType = .opaqueData) (table : NdiObjIdTable) :
    ∃ f : Field p, f.d = d ∧ f.data = { ndiObjIdTable := table } := by
  refine ⟨⟨d, { ndiObjIdTable := table }, p.serialize table, fun path => ?_, fun a => ?_,
    fun a => ?_⟩, rfl, rfl⟩
  · simp only [addDataToObj, kind, if_true]
  · simp only [Fits, kind, if_true, p.unserialize_serialize, Option.isSome_some]
  · simp only [item, kind, p.unserialize_serialize, Option.getD_some]

/-- Every item the decoder makes can be written. -/
theorem carries_itemAt (leaf : d.Leaf) (sized : d.Sized) (fits : d.WellFormedAt p obj path) :
    ∃ f : Field p, f.d = d ∧ f.data = d.itemAt p obj path := by
  have kinds := leaf.readable
  simp only [List.mem_cons, List.not_mem_nil, or_false] at kinds
  have unranged (other : d.dataType ∉ [.u8, .u16, .u32]) : d.rangeMax = 0 := by
    by_contra ranged
    exact other (leaf.ranged ranged)
  have required (other : d.dataType ∉ [.u8, .u16, .u32, .u64, .bin]) : d.mode = .mandatory := by
    cases mode : d.mode with
    | mandatory => rfl
    | optional => exact absurd (leaf.fillable mode) other
  rcases kinds with kind | kind | kind | kind | kind | kind | kind | kind
  · obtain ⟨v, same, range⟩ := itemAt_u8 sized kind fits
    rw [same]
    refine exists_field (bytesU8 v) (by simp [kind]) (by simp [addedBytes, kind]) ?_ ?_ ?_
    · simpa [bytesU8] using sized.width 1 (by rw [kind]; rfl)
    · simp [item, kind, dataU8_bytesU8]
    · exact fun _ => by simpa [number, kind, dataU8_bytesU8] using range
  · obtain ⟨v, same, range⟩ := itemAt_u16 sized kind fits
    rw [same]
    refine exists_field (bytesU16 v) (by simp [kind]) (by simp [addedBytes, kind]) ?_ ?_ ?_
    · simpa [bytesU16] using sized.width 2 (by rw [kind]; rfl)
    · simp [item, kind, dataU16_bytesU16]
    · exact fun _ => by simpa [number, kind, dataU16_bytesU16] using range
  · obtain ⟨v, same, range⟩ := itemAt_u32 sized kind fits
    rw [same]
    refine exists_field (bytesU32 v) (by simp [kind]) (by simp [addedBytes, kind]) ?_ ?_ ?_
    · simpa [bytesU32] using sized.width 4 (by rw [kind]; rfl)
    · simp [item, kind, dataU32_bytesU32]
    · exact fun _ => by simpa [number, kind, dataU32_bytesU32] using range
  · obtain ⟨v, same⟩ := itemAt_u64 (p := p) kind obj path
    rw [same]
    refine exists_field (bytesU64 v) (by simp [kind]) (by simp [addedBytes, kind]; rfl)
      ?_ ?_ ?_
    · simpa [bytesU64] using sized.width 8 (by rw [kind]; rfl)
    · simp [item, kind, dataU64_bytesU64]
    · simp [unranged (by simp [kind])]
  · obtain ⟨attr, same⟩ := itemAt_required (p := p) (required (by simp [kind])) fits
    rw [same]
    refine exists_field (bytesU64 attr.dataU64) (by simp [kind])
      (by simp [addedBytes, item, kind]) ?_ ?_ ?_
    · simpa [bytesU64] using sized.width 8 (by rw [kind]; rfl)
    · simp [item, kind, dataU64_bytesU64]
    · simp [unranged (by simp [kind])]
  · obtain ⟨attr, same⟩ := itemAt_required (p := p) (required (by simp [kind])) fits
    rw [same]
    refine exists_field (bytesU32 attr.dataU32) (by simp [kind])
      (by simp [addedBytes, item, kind]) ?_ ?_ ?_
    · simpa [bytesU32] using sized.width 4 (by rw [kind]; rfl)
    · simp [item, kind, dataU32_bytesU32]
    · simp [unranged (by simp [kind])]
  · obtain ⟨b, same, length⟩ := itemAt_bin kind fits
    rw [same]
    refine exists_field b (by simp [kind]) (by simp [addedBytes, kind]) ?_ ?_ ?_
    · by_cases free : d.dataLen = 0
      · exact .inl free
      · exact .inr (length free).symm
    · simp [item, kind]
    · simp [unranged (by simp [kind])]
  · obtain ⟨attr, same⟩ := itemAt_required (p := p) (required (by simp [kind])) fits
    rw [same]
    obtain ⟨f, row, data⟩ := exists_opaqueField (p := p) kind ((p.unserialize attr).getD ∅)
    refine ⟨f, row, data.trans ?_⟩
    simp only [item, kind]

end MapData

/-- A descriptor whose values, once decoded, can be written. -/
structure MapData.Codable (val : MapData) (childList : List MapData) : Prop extends
    val.Sound childList where
  sized : ∀ d ∈ val :: childList, d.Sized
  apart : (childList.map MapData.attrId).Nodup
  some_child : val.dataType = .embedded ∨ val.dataType = .embeddedList → childList ≠ []
  plain : val.dataType ≠ .opaqueData

section Rows

variable {val : MapData} {childList : List MapData}

theorem MapData.sized_of_mandatory (mode : val.mode = .mandatory)
    (width : ∀ w, val.dataType.width = some w → val.dataLen = 0 ∨ val.dataLen = w) : val.Sized := by
  refine ⟨width, fun optional => ?_⟩
  rw [mode] at optional
  cases optional

/-- A single attribute; its children, if any, are not used. -/
theorem leaf_codable (kind : val.dataType ∈ [.u8, .u16, .u32, .u64, .objId, .ifindex, .bin])
    (mode : val.mode = .mandatory) (ranged : val.rangeMax ≠ 0 → val.dataType ∈ [.u8, .u16, .u32])
    (width : ∀ w, val.dataType.width = some w → val.dataLen = 0 ∨ val.dataLen = w)
    (sized : ∀ d ∈ childList, d.Sized) (apart : (childList.map MapData.attrId).Nodup) :
    val.Codable childList := by
  have others : val.dataType ≠ .embedded ∧ val.dataType ≠ .embeddedList ∧
      val.dataType ≠ .opaqueData := by
    revert kind
    cases val.dataType <;> decide
  refine ⟨leaf_sound kind mode ranged,
    List.forall_mem_cons.mpr ⟨MapData.sized_of_mandatory mode width, sized⟩, apart, ?_, others.2.2⟩
  rintro (one | list)
  · exact absurd one others.1
  · exact absurd list others.2.1

theorem iflist_codable (kind : val.dataType = .iflist) (mode : val.mode = .mandatory)
    (sized : ∀ d ∈ childList, d.Sized) (apart : (childList.map MapData.attrId).Nodup) :
    val.Codable childList := by
  refine ⟨iflist_sound kind, List.forall_mem_cons.mpr
    ⟨MapData.sized_of_mandatory mode fun w some_ => ?_, sized⟩, apart, ?_, ?_⟩
  · rw [kind] at some_
    cases some_
  · rintro (one | list)
    · cases kind.symm.trans one
    · cases kind.symm.trans list
  · rw [kind]
    exact DataType.noConfusion

end Rows

section Decoded

variable {p : Platform} {val : MapData} {childList : List MapData} {obj : List CpsAttr}
  {path : List AttrId}

/-- The fields of the children of a value. -/
theorem exists_fields {place : MapData → List AttrId} (leaves : ∀ d ∈ childList, d.Leaf)
    (sized : ∀ d ∈ childList, d.Sized) (fits : ∀ d ∈ childList, d.WellFormedAt p obj (place d)) :
    ∃ fields : List (Field p), fields.map Field.d = childList ∧
      fields.map Field.data = childList.map fun d => d.itemAt p obj (place d) := by
  induction childList with
  | nil => exact ⟨[], rfl, rfl⟩
  | cons d rest ih =>
      obtain ⟨leaf, leaves⟩ := List.forall_mem_cons.mp leaves
      obtain ⟨width, sized⟩ := List.forall_mem_cons.mp sized
      obtain ⟨here, fits⟩ := List.forall_mem_cons.mp fits
      obtain ⟨f, same, data⟩ := MapData.carries_itemAt leaf width here
      obtain ⟨fields, rows, items⟩ := ih leaves sized fits
      refine ⟨f :: fields, ?_, ?_⟩
      · rw [List.map_cons, same, rows]
      · rw [List.map_cons, List.map_cons, data, items]

/-- What is decoded can be written, and reads back as it was. -/
theorem encodes_items (codable : val.Codable childList)
    (wellFormed : val.WellFormed p childList obj path) :
    Encodes p val childList (val.items p childList obj path) (val.items p childList obj path) := by
  obtain ⟨width, sized⟩ := List.forall_mem_cons.mp codable.sized
  have leaf (ifs : val.dataType ≠ .iflist) (one : val.dataType ≠ .embedded)
      (list : val.dataType ≠ .embeddedList)
      (fits : val.WellFormedAt p obj (path ++ [val.attrId])) :
      Encodes p val childList [val.itemAt p obj (path ++ [val.attrId])]
        [val.itemAt p obj (path ++ [val.attrId])] := by
    have row := codable.leaf ifs one list
    obtain ⟨f, same, data⟩ := MapData.carries_itemAt row width fits
    rw [← data]
    refine .leaf ?_ same
    have kind := row.readable
    have plain := codable.plain
    revert kind plain
    cases val.dataType <;> decide
  unfold MapData.WellFormed at wellFormed
  unfold MapData.items
  cases kind : val.dataType with
  | iflist =>
      simp only [kind] at wellFormed ⊢
      refine .iflist kind fun none_ => ?_
      obtain ⟨attr, mem, named⟩ := wellFormed
      have scanned : CpsAttr.dataU32 attr ∈ scanIfval val.attrId (siblings obj path) :=
        List.mem_map_of_mem (List.mem_filter.mpr ⟨mem, decide_eq_true named⟩)
      rw [none_] at scanned
      cases scanned
  | embedded =>
      simp only [kind] at wellFormed ⊢
      obtain ⟨fields, rows, items⟩ :=
        exists_fields (codable.children (.inl kind)) sized wellFormed
      rw [← items]
      exact .embedded kind rows
  | embeddedList =>
      simp only [kind] at wellFormed ⊢
      obtain ⟨list, found, some_, fits⟩ := wellFormed
      rw [found, Option.map_some, Option.getD_some]
      have elements : ∀ nodes : List CpsAttr, (∀ elem ∈ nodes, elem ∈ list.inside) →
          ∃ elems : List (List (Field p)), elems.length = nodes.length ∧
            (∀ fields ∈ elems, fields.map Field.d = childList) ∧
            elems.flatMap (fun fields => fields.map Field.data) = nodes.flatMap fun elem =>
              childList.map fun d => d.itemAt p obj (path ++ [val.attrId, elem.id, d.attrId]) := by
        intro nodes inside
        induction nodes with
        | nil => exact ⟨[], rfl, fun _ absent => absurd absent List.not_mem_nil, rfl⟩
        | cons elem rest ih =>
            obtain ⟨here, inside⟩ := List.forall_mem_cons.mp inside
            obtain ⟨fields, rows, items⟩ :=
              exists_fields (codable.children (.inr kind)) sized (fits elem here)
            obtain ⟨elems, length, others, more⟩ := ih inside
            refine ⟨fields :: elems, by rw [List.length_cons, length, List.length_cons],
              List.forall_mem_cons.mpr ⟨rows, others⟩, ?_⟩
            rw [List.flatMap_cons, List.flatMap_cons, more, items]
      obtain ⟨elems, length, rows, items⟩ := elements list.inside fun _ mem => mem
      rw [← items]
      refine .list kind (fun none_ => some_ ?_) rows
      rw [none_] at length
      exact List.length_eq_zero_iff.mp length.symm
  | opaqueData => exact absurd kind codable.plain
  | _ =>
      simp only [kind] at wellFormed ⊢
      exact leaf (by simp [kind]) (by simp [kind]) (by simp [kind]) wellFormed

/-- A value without children may come with more than is written. -/
theorem Encodes.append {l l' : List CommonData} (encodes : Encodes p val childList l l')
    (kind : val.dataType ∈ [.u8, .u16, .u32, .u64, .objId, .ifindex, .bin])
    (rest : List CommonData) : Encodes p val childList (l ++ rest) l' := by
  cases encodes with
  | leaf _ same => exact .leaf kind same
  | embedded other => rw [other] at kind; simp at kind
  | list other => rw [other] at kind; simp at kind
  | iflist other => rw [other] at kind; simp at kind

end Decoded

/-! ## Inside a container -/

section Inside

variable {p : Platform} {val d : MapData} {childList : List MapData} {obj obj' : List CpsAttr}
  {path path' : List AttrId} {a : AttrId} {t : CpsAttr}

theorem MapData.wellFormedAt_congr (same : Tlv.get path obj = Tlv.get path' obj') :
    d.WellFormedAt p obj path ↔ d.WellFormedAt p obj' path' := by
  unfold WellFormedAt
  rw [same]

theorem MapData.itemAt_congr (same : Tlv.get path obj = Tlv.get path' obj') :
    d.itemAt p obj path = d.itemAt p obj' path' := by
  unfold itemAt
  rw [same]

theorem scanIfval_eq_nil {tag : AttrId} {l : List CpsAttr} (none_ : ∀ attr ∈ l, attr.id ≠ tag) :
    scanIfval tag l = [] := by
  refine List.map_eq_nil_iff.mpr (List.filter_eq_nil_iff.mpr fun attr mem same => ?_)
  exact none_ attr mem (of_decide_eq_true same)

/-- Interfaces are read from the siblings, even where there are none. -/
theorem copyIflistDataFromObj_siblings {tag : AttrId} {name : String}
    (there : path = [] ∨ (Tlv.get path obj).isSome) :
    copyIflistDataFromObj p obj path tag name
      = .ok [{ ifindexList := scanIfval tag (siblings obj path) }] := by
  unfold copyIflistDataFromObj siblings
  by_cases top : path = []
  · rw [if_pos top, if_pos top]
  · obtain ⟨it, found⟩ := Option.isSome_iff_exists.mp (there.resolve_left top)
    rw [if_neg top, if_neg top, found]
    rfl

theorem siblings_inside (here : Tlv.get (a :: path) obj = some t) :
    siblings obj (a :: path) = siblings t.inside [] := by
  unfold siblings
  rw [if_neg (List.cons_ne_nil _ _), here, if_pos rfl]
  rfl

/-- A value under a path is a value at the top of the container the path leads to. -/
theorem MapData.wellFormed_inside (here : Tlv.get (a :: path) obj = some t) :
    val.WellFormed p childList obj (a :: path) ↔ val.WellFormed p childList t.inside [] := by
  have into := Tlv.get_into here
  unfold WellFormed
  rw [siblings_inside here]
  cases val.dataType with
  | iflist => exact Iff.rfl
  | embedded =>
      exact forall_congr' fun d => forall_congr' fun _ => wellFormedAt_congr (into _ _)
  | embeddedList =>
      simp only [List.nil_append]
      rw [into]
      refine exists_congr fun list => and_congr_right fun _ => and_congr_right fun _ => ?_
      exact forall_congr' fun elem => forall_congr' fun _ => forall_congr' fun d =>
        forall_congr' fun _ => wellFormedAt_congr (into _ _)
  | _ => exact wellFormedAt_congr (into _ _)

theorem MapData.items_inside (here : Tlv.get (a :: path) obj = some t) :
    val.items p childList obj (a :: path) = val.items p childList t.inside [] := by
  have into := Tlv.get_into here
  unfold items
  rw [siblings_inside here]
  cases val.dataType with
  | iflist => rfl
  | embedded => exact List.map_congr_left fun d _ => itemAt_congr (into _ _)
  | embeddedList =>
      simp only [List.nil_append]
      rw [into]
      exact List.flatMap_congr fun elem _ => List.map_congr_left fun d _ => itemAt_congr (into _ _)
  | _ => exact congrArg (fun d => [d]) (itemAt_congr (into _ _))

/-- A value that was written is read, at the top of an object. -/
theorem Writes.read {l : List CommonData} {adds : Adds} (writes : Writes p val childList l adds)
    (sound : val.Sound childList) (fresh : Tlv.Fresh val.attrId obj) (name : String) :
    copyDataFromObj p (Tlv.addAll adds obj) [] val childList name = .ok l := by
  obtain ⟨wellFormed, items⟩ := writes.reads obj fresh
  exact (copyDataFromObj_accepts sound).ok_iff.mpr ⟨.inl wellFormed, items.symm⟩

/-- A value that was written is read, under the path of its container. -/
theorem Writes.read_inside {l : List CommonData} {adds : Adds}
    (writes : Writes p val childList l adds) (sound : val.Sound childList)
    (here : Tlv.get (a :: path) obj = some t) (fresh : Tlv.Fresh val.attrId obj')
    (contents : t.inside = Tlv.addAll adds obj') (name : String) :
    copyDataFromObj p obj (a :: path) val childList name = .ok l := by
  obtain ⟨wellFormed, items⟩ := writes.reads obj' fresh
  refine (copyDataFromObj_accepts sound).ok_iff.mpr ⟨.inl ?_, ?_⟩
  · rw [MapData.wellFormed_inside here, contents]
    exact wellFormed
  · rw [MapData.items_inside here, contents, items]

end Inside

/-! ## Lists of elements -/

/-- What an element of a list attribute is written as: its type, and its value. -/
def elementAdds (typeAttr : AttrId) (x : UInt32 × Adds) : Adds :=
  ([typeAttr], Tlv.leaf (bytesU32 x.1)) :: x.2

/-- What a list attribute is written as. -/
def listAdds (listAttr typeAttr : AttrId) (elems : List (UInt32 × Adds)) : Adds :=
  Tlv.under listAttr
    (elems.zipIdx.flatMap fun x => Tlv.under (.index x.2) (elementAdds typeAttr x.1))

/-- The container of an element. -/
def elementNode (typeAttr : AttrId) (x : (UInt32 × Adds) × Nat) : CpsAttr :=
  .mk (.index x.2) [] (.mk typeAttr (bytesU32 x.1.1) [] :: Tlv.addAll x.1.2 [])

section Lists

variable {listAttr typeAttr : AttrId} {elems : List (UInt32 × Adds)} {base : List CpsAttr}

/-- The values of a list stand beside the types, under other tags. -/
def ValuesApart (typeAttr : AttrId) (elems : List (UInt32 × Adds)) : Prop :=
  ∀ x ∈ elems, ∃ a, a ≠ typeAttr ∧ Tlv.StartsAt a x.2

theorem fresh_type {a : AttrId} (apart : a ≠ typeAttr) (value : List UInt8) :
    Tlv.Fresh a [.mk typeAttr value []] := by
  intro t mem
  rw [List.mem_singleton.mp mem, Tlv.id_mk]
  exact apart.symm

theorem addAll_elementAdds {x : UInt32 × Adds} {a : AttrId} (apart : a ≠ typeAttr)
    (starts : Tlv.StartsAt a x.2) :
    Tlv.addAll (elementAdds typeAttr x) []
      = .mk typeAttr (bytesU32 x.1) [] :: Tlv.addAll x.2 [] :=
  Tlv.addAll_of_fresh (fresh_type apart _) starts

theorem zipIdx_mem {x : (UInt32 × Adds) × Nat} (mem : x ∈ elems.zipIdx) : x.1 ∈ elems := by
  have listed := List.mem_map_of_mem (f := Prod.fst) mem
  rwa [List.zipIdx_map_fst] at listed

/-- A list that is written is one container, with one container for each element. -/
theorem addAll_listAdds (some_ : elems ≠ []) (apart : ValuesApart typeAttr elems)
    (fresh : Tlv.Fresh listAttr base) :
    Tlv.addAll (listAdds listAttr typeAttr elems) base
      = base ++ [.mk listAttr [] (elems.zipIdx.map (elementNode typeAttr))] := by
  have groups : elems.zipIdx.flatMap (fun x =>
        Tlv.under (.index x.2) (elementAdds typeAttr x.1))
      = (elems.zipIdx.map fun x => (AttrId.index x.2, elementAdds typeAttr x.1)).flatMap
        fun g => Tlv.under g.1 g.2 := by rw [List.flatMap_map]
  have paths {g : AttrId × Adds}
      (mem : g ∈ elems.zipIdx.map fun x => (AttrId.index x.2, elementAdds typeAttr x.1)) :
      g.2 ≠ [] ∧ ∀ y ∈ g.2, y.1 ≠ [] := by
    obtain ⟨x, here, rfl⟩ := List.mem_map.mp mem
    obtain ⟨a, -, starts⟩ := apart x.1 (zipIdx_mem here)
    refine ⟨List.cons_ne_nil _ _, fun y mem => ?_⟩
    rcases List.mem_cons.mp mem with rfl | mem
    · exact List.cons_ne_nil _ _
    · exact starts.paths y mem
  have indices : ((elems.zipIdx.map fun x => (AttrId.index x.2, elementAdds typeAttr x.1)).map
      Prod.fst).Nodup := by
    have distinct : (elems.zipIdx.map Prod.snd).Nodup := List.nodup_zipIdx_map_snd elems
    rw [List.map_map]
    have renamed := distinct.map (f := AttrId.index) fun i j same => AttrId.index.inj same
    rwa [List.map_map] at renamed
  obtain ⟨first, rest, rfl⟩ := List.exists_cons_of_ne_nil some_
  rw [listAdds, Tlv.addAll_under fresh ?_ ?_, groups,
    Tlv.addAll_groups indices (fun _ _ t absent => by cases absent) fun g mem => paths mem,
    List.nil_append, List.map_map]
  · refine congrArg (fun nodes => base ++ [Tlv.mk listAttr [] nodes]) ?_
    refine List.map_congr_left fun x mem => ?_
    obtain ⟨a, other, starts⟩ := apart x.1 (zipIdx_mem mem)
    simp only [Function.comp_apply, elementNode, addAll_elementAdds other starts]
  · exact List.cons_ne_nil _ _
  · intro x mem
    obtain ⟨y, -, mem⟩ := List.mem_flatMap.mp mem
    exact (Tlv.startsAt_under _ _).paths x mem

/-- An element of the list, by its path. -/
theorem get_element (fresh : Tlv.Fresh listAttr base) {x : (UInt32 × Adds) × Nat}
    (mem : x ∈ elems.zipIdx) :
    Tlv.get [listAttr, .index x.2]
        (base ++ [.mk listAttr [] (elems.zipIdx.map (elementNode typeAttr))])
      = some (elementNode typeAttr x) := by
  rw [Tlv.get_append_of_fresh fresh, Tlv.get_under]
  refine Tlv.find_of_mem (t := elementNode typeAttr x) ?_ (List.mem_map_of_mem mem)
  have distinct : (elems.zipIdx.map Prod.snd).Nodup := List.nodup_zipIdx_map_snd elems
  have renamed := distinct.map (f := AttrId.index) fun i j same => AttrId.index.inj same
  rw [List.map_map] at renamed ⊢
  exact renamed

/-- Every element names its type. -/
theorem elementType_node (apart : ValuesApart typeAttr elems) {what : String}
    {x : (UInt32 × Adds) × Nat} (mem : x ∈ elems.zipIdx) :
    elementType typeAttr what (elementNode typeAttr x) = .ok x.1.1 := by
  obtain ⟨a, other, starts⟩ := apart x.1 (zipIdx_mem mem)
  have values : (Tlv.addAll x.1.2 []).filter (fun t => t.id = typeAttr) = [] := by
    refine List.filter_eq_nil_iff.mpr fun t mem same => ?_
    have named := Tlv.id_addAll starts (fun _ absent => by cases absent) t mem
    exact other (named.symm.trans (of_decide_eq_true same))
  have first : nasAclGetAttr (.mk typeAttr (bytesU32 x.1.1) [] :: Tlv.addAll x.1.2 []) typeAttr
      = some (.mk typeAttr (bytesU32 x.1.1) [], false) := by
    simp only [nasAclGetAttr, List.filter_cons, Tlv.id_mk, decide_true, if_true, values,
      List.isEmpty_nil, Bool.not_true]
  simp only [elementType, elementNode, Tlv.inside_mk, List.isEmpty_cons, Bool.false_eq_true,
    if_false, first, dataU32_bytesU32]

/-- A list that was written is read element by element. -/
theorem forEachElement_listAdds (apart : ValuesApart typeAttr elems) {what : String}
    {setAttr : UInt32 → List AttrId → NasAclEntry → Except Exn NasAclEntry} {e : NasAclEntry} :
    forEachElement listAttr typeAttr what setAttr
        (.mk listAttr [] (elems.zipIdx.map (elementNode typeAttr))) e
      = elems.zipIdx.foldlM (fun e x => setAttr x.1.1 [listAttr, .index x.2] e) e := by
  unfold forEachElement
  rw [Tlv.inside_mk, List.foldlM_map]
  refine except_foldlM_congr fun x mem e => ?_
  rw [elementType_node apart mem, except_ok_bind]
  rfl

/-- Reading every list of an object to which one list was written. -/
theorem readLists_listAdds (apart : ValuesApart typeAttr elems) (fresh : Tlv.Fresh listAttr base)
    {what : String} {setAttr : UInt32 → List AttrId → NasAclEntry → Except Exn NasAclEntry}
    {e : NasAclEntry} :
    ((Tlv.addAll (listAdds listAttr typeAttr elems) base).filter fun a => a.id = listAttr).foldlM
        (fun e it => forEachElement listAttr typeAttr what setAttr it e) e
      = elems.zipIdx.foldlM (fun e x => setAttr x.1.1 [listAttr, .index x.2] e) e := by
  have others : base.filter (fun a => a.id = listAttr) = [] :=
    List.filter_eq_nil_iff.mpr fun t mem same => fresh t mem (of_decide_eq_true same)
  by_cases none_ : elems = []
  · subst none_
    change (base.filter _).foldlM _ e = _
    rw [others]
    rfl
  · rw [addAll_listAdds none_ apart fresh, List.filter_append, others, List.nil_append]
    simp only [List.filter_cons, Tlv.id_mk, decide_true, if_true, List.filter_nil, List.foldlM_cons,
      List.foldlM_nil, bind_pure]
    exact forEachElement_listAdds apart

/-- An element stands under its index, with its value beside its type. -/
theorem element_written (apart : ValuesApart typeAttr elems) (fresh : Tlv.Fresh listAttr base)
    {x : (UInt32 × Adds) × Nat} (mem : x ∈ elems.zipIdx) :
    ∃ t, Tlv.get [listAttr, .index x.2] (Tlv.addAll (listAdds listAttr typeAttr elems) base)
        = some t ∧ t.inside = Tlv.addAll x.1.2 [.mk typeAttr (bytesU32 x.1.1) []] := by
  obtain ⟨a, other, starts⟩ := apart x.1 (zipIdx_mem mem)
  have some_ : elems ≠ [] := List.ne_nil_of_mem (zipIdx_mem mem)
  refine ⟨elementNode typeAttr x, ?_, ?_⟩
  · rw [addAll_listAdds some_ apart fresh]
    exact get_element fresh mem
  · exact (Tlv.addAll_of_fresh (fresh_type other _) starts).symm

end Lists

section Items

variable {α : Type} {listAttr typeAttr : AttrId} {l : List α} {elem : α → UInt32 × Adds}
  {base : List CpsAttr}

theorem mem_of_zipIdx {x : α × Nat} (mem : x ∈ l.zipIdx) : x.1 ∈ l := by
  have listed := List.mem_map_of_mem (f := Prod.fst) mem
  rwa [List.zipIdx_map_fst] at listed

/-- Writing the items of a list under their indices. -/
theorem forEach_listAdds {fillElement : α × Nat → Fill}
    (turns : ∀ a ∈ l, ∀ i, fillElement (a, i)
      = .ok (Tlv.under listAttr (Tlv.under (.index i) (elementAdds typeAttr (elem a))), true)) :
    Fill.forEach fillElement l.zipIdx = .ok (listAdds listAttr typeAttr (l.map elem), true) := by
  rw [Fill.forEach_true (g := fun x => Tlv.under listAttr (Tlv.under (.index x.2)
    (elementAdds typeAttr (elem x.1))))]
  · rw [listAdds, List.zipIdx_map, List.flatMap_map, Tlv.under, List.map_flatMap]
    rfl
  · exact fun x mem => turns x.1 (mem_of_zipIdx mem) x.2

/-- Reading the items of a list that was written. -/
theorem readLists_items (apart : ValuesApart typeAttr (l.map elem))
    (fresh : Tlv.Fresh listAttr base) {what : String}
    {setAttr : UInt32 → List AttrId → NasAclEntry → Except Exn NasAclEntry}
    {step : NasAclEntry → α → Except Exn NasAclEntry}
    (turns : ∀ a ∈ l, ∀ i t e,
      Tlv.get [listAttr, .index i] (Tlv.addAll (listAdds listAttr typeAttr (l.map elem)) base)
        = some t →
      t.inside = Tlv.addAll (elem a).2 [.mk typeAttr (bytesU32 (elem a).1) []] →
      setAttr (elem a).1 [listAttr, .index i] e = step e a) {e : NasAclEntry} :
    ((Tlv.addAll (listAdds listAttr typeAttr (l.map elem)) base).filter
        fun a => a.id = listAttr).foldlM
        (fun e it => forEachElement listAttr typeAttr what setAttr it e) e
      = l.foldlM step e := by
  have indexed : l.foldlM step e = l.zipIdx.foldlM (fun e x => step e x.1) e := by
    conv_lhs => rw [← List.zipIdx_map_fst 0 l, List.foldlM_map]
  have zipped : (l.map elem).zipIdx = l.zipIdx.map (Prod.map elem id) := List.zipIdx_map
  rw [readLists_listAdds apart fresh, indexed, zipped, List.foldlM_map]
  refine except_foldlM_congr fun x mem e => ?_
  have place : Prod.map elem id x ∈ (l.map elem).zipIdx := by
    rw [zipped]
    exact List.mem_map_of_mem mem
  obtain ⟨t, found, contents⟩ := element_written apart fresh place
  exact turns x.1 (mem_of_zipIdx mem) x.2 t e found contents

end Items

end SonicNasAcl
