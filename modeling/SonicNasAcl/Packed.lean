/-
# Packed -- an entry that is packed into an object, and read again

The object to undo a request with is filled from the old entry, attribute by attribute, and a
rollback reads it as it reads any request.  The two do not match in everything: a list that is
empty is not there, a list stops at the first element that cannot be written, and the NPUs are
those of the overridden `npu_list`.

* `fillMatchAttrList_upTo`, `fillActionAttrList_upTo`: what is written of a list;
* `cpsPackAttrs_eq`: the object, one block for each attribute;
* `elementFilters_read`, `elementActions_read`: what is read of a list;
* `parse_packed_iff`: when the object is read, and `GivenBack` what it makes of an entry.
-/
import SonicNasAcl.Reordered
import SonicNasAcl.Rollback

namespace SonicNasAcl

set_option autoImplicit false

open Lib

/-! ## Lists that stop -/

namespace Fill

variable {α : Type} {body : α → Fill} {stop : α → Bool} {g : α → Adds} {l : List α}

/-- A loop adds what its turns add, up to the first that returns `false`. -/
theorem forEach_upTo (turns : ∀ a ∈ l, body a = .ok (g a, !stop a)) :
    ∃ ok, forEach body l = .ok ((upTo stop l).flatMap g, ok) := by
  induction l with
  | nil => exact ⟨true, rfl⟩
  | cons a rest ih =>
      obtain ⟨here, turns⟩ := List.forall_mem_cons.mp turns
      obtain ⟨ok, ran⟩ := ih turns
      unfold forEach upTo andThen
      rw [here, ran]
      cases stop a with
      | true =>
          have single : [a].flatMap g = g a := List.flatMap_singleton g a
          refine ⟨false, ?_⟩
          rw [if_pos rfl, single]
          rfl
      | false => exact ⟨ok, rfl⟩

end Fill

section Lists

variable {α : Type} {listAttr typeAttr : AttrId} {l : List α} {elem : α → UInt32 × Adds}

/-- Writing the items of a list under their indices, up to one that cannot be written. -/
theorem forEach_listAdds_upTo {fillElement : α × Nat → Fill} {stop : α → Bool}
    (turns : ∀ a ∈ l, ∀ i, fillElement (a, i)
      = .ok (Tlv.under listAttr (Tlv.under (.index i) (elementAdds typeAttr (elem a))), !stop a)) :
    ∃ ok, Fill.forEach fillElement l.zipIdx
      = .ok (listAdds listAttr typeAttr ((upTo stop l).map elem), ok) := by
  have each : ∀ x ∈ l.zipIdx, fillElement x
      = .ok (Tlv.under listAttr (Tlv.under (.index x.2) (elementAdds typeAttr (elem x.1))),
        !stop x.1) := fun x mem => turns x.1 (mem_of_zipIdx mem) x.2
  obtain ⟨ok, ran⟩ := Fill.forEach_upTo each
  refine ⟨ok, ran.trans ?_⟩
  rw [upTo_zipIdx, listAdds, List.zipIdx_map, List.flatMap_map, Tlv.under, List.map_flatMap]
  rfl

end Lists

/-! ## Filters -/

/-- The filters of an entry that are written, in their order. -/
def NasAclEntry.writtenFilters (p : Platform) (e : NasAclEntry) : List NasAclFilter :=
  upTo (fun f => f.EmptyPorts) (e.flist.items p.matchOrder)

/-- Adds that are read as the filter in any container. -/
structure NasAclFilter.ReadsBack (p : Platform) (f : NasAclFilter) (adds : Adds) : Prop where
  starts : Tlv.StartsAt (.matchValue f.filterType) adds
  inside : ∀ obj obj' a path t, Tlv.get (a :: path) obj = some t →
    Tlv.Fresh (.matchValue f.filterType) obj' → t.inside = Tlv.addAll adds obj' →
    readFilter p obj (p.matchTypes.code f.filterType) (a :: path) = .ok f

section Filters

open NasAclFilter

variable {p : Platform} {f : NasAclFilter} {e : NasAclEntry} {obj : List CpsAttr} {v : UInt32}
  {path : List AttrId}

theorem valueAdds_emptyPorts (empty : f.EmptyPorts) : valueAdds p f = [] := by
  rw [valueAdds, fillMatchAttr_emptyPorts empty]
  rfl

/-- What is written of a filter is read as the filter, be it nothing. -/
theorem readsBack_of_read (read : readFilter p obj v path = .ok f) :
    f.ReadsBack p (valueAdds p f) := by
  by_cases empty : f.EmptyPorts
  · rw [valueAdds_emptyPorts empty]
    refine ⟨fun x absent => absurd absent List.not_mem_nil, ?_⟩
    intro obj' inner a path' t found fresh contents
    refine readFilter_emptyPorts read empty (.inr (Option.isSome_of_eq_some found)) ?_
    rw [siblings_inside found, contents]
    exact fresh
  · have written := readFilter_written read empty
    exact ⟨written.starts, written.inside⟩

theorem fillMatchElement_read (read : readFilter p obj v path = .ok f) (i : Nat) :
    fillMatchElement p f i
      = .ok (Tlv.under .entryMatch (Tlv.under (.index i) (elementAdds .entryMatchType
          (p.matchTypes.code f.filterType, valueAdds p f))), !decide f.EmptyPorts) := by
  by_cases empty : f.EmptyPorts
  · rw [valueAdds_emptyPorts empty, decide_eq_true empty]
    unfold fillMatchElement
    rw [fillMatchAttr_emptyPorts empty]
    rfl
  · rw [decide_eq_false empty]
    exact fillMatchElement_ok (readFilter_written read empty) i

/-- The match list is written up to the first filter on no ports. -/
theorem fillMatchAttrList_upTo
    (read : ∀ t f, e.flist.find t = some f → ∃ obj v path, readFilter p obj v path = .ok f) :
    ∃ ok, fillMatchAttrList p e
      = .ok (listAdds .entryMatch .entryMatchType (matchElems p (e.writtenFilters p)), ok) := by
  refine forEach_listAdds_upTo fun f mem i => ?_
  obtain ⟨obj, v, path, here⟩ := read _ f (Keyed.mem_items.mp mem)
  exact fillMatchElement_read here i

end Filters

/-! ## Actions -/

/-- The actions of an entry that are written, in their order. -/
def NasAclEntry.writtenActions (p : Platform) (e : NasAclEntry) : List NasAclAction :=
  upTo (fun a => a.Empty) (e.alist.items p.actionOrder)

/-- Adds that are read as the action in any container, unless there is nothing to read it
from. -/
structure NasAclAction.ReadsBack (p : Platform) (a : NasAclAction) (adds : Adds) : Prop where
  starts : Tlv.StartsAt (.actionValue a.actionType) adds
  inside : ¬ a.NoObjects → ∀ obj obj' i path t, Tlv.get (i :: path) obj = some t →
    Tlv.Fresh (.actionValue a.actionType) obj' → t.inside = Tlv.addAll adds obj' →
    readAction p obj (p.actionTypes.code a.actionType) (i :: path) = .ok a
  missing : a.NoObjects → adds = []

section Actions

open NasAclAction

variable {p : Platform} {a : NasAclAction} {e : NasAclEntry} {obj : List CpsAttr} {v : UInt32}
  {path : List AttrId}

theorem actionAdds_empty (empty : a.Empty) : actionAdds p a = [] := by
  rw [actionAdds, fillActionValue_empty empty]
  rfl

theorem actionReadsBack_of_read (read : readAction p obj v path = .ok a) :
    a.ReadsBack p (actionAdds p a) := by
  by_cases empty : a.Empty
  · rw [actionAdds_empty empty]
    refine ⟨fun x absent => absurd absent List.not_mem_nil, ?_, fun _ => rfl⟩
    intro some_ obj' inner i path' t found fresh contents
    obtain ⟨list, none_⟩ | none_ := empty
    · refine readAction_emptyPorts read list none_ (.inr (Option.isSome_of_eq_some found)) ?_
      rw [siblings_inside found, contents]
      exact fresh
    · exact absurd none_ some_
  · have written := readAction_written read empty
    exact ⟨written.starts, fun _ => written.inside, fun none_ => absurd (.inr none_) empty⟩

theorem fillActionElement_read (read : readAction p obj v path = .ok a) (i : Nat) :
    fillActionElement p a i
      = .ok (Tlv.under .entryAction (Tlv.under (.index i) (elementAdds .entryActionType
          (p.actionTypes.code a.actionType, actionAdds p a))), !decide a.Empty) := by
  by_cases empty : a.Empty
  · rw [actionAdds_empty empty, decide_eq_true empty]
    change Fill.andThen _ (fillActionValue p a _) = _
    rw [fillActionValue_empty empty]
    rfl
  · rw [decide_eq_false empty]
    exact fillActionElement_ok (readAction_written read empty) i

/-- The action list is written up to the first action that cannot be. -/
theorem fillActionAttrList_upTo (read : ActionsRead p e) :
    ∃ ok, fillActionAttrList p e
      = .ok (listAdds .entryAction .entryActionType (actionElems p (e.writtenActions p)), ok) := by
  refine forEach_listAdds_upTo fun a mem i => ?_
  obtain ⟨obj, v, path, here⟩ := read _ a (Keyed.mem_items.mp mem)
  exact fillActionElement_read here i

end Actions

/-! ## The object -/

/-- What is added for an attribute of an entry. -/
def entryAdds (p : Platform) (e : NasAclEntry) : AttrId → Adds
  | .entryPriority => [([.entryPriority], Tlv.leaf (bytesU32 e.priority))]
  | .entryMatch => listAdds .entryMatch .entryMatchType (matchElems p (e.writtenFilters p))
  | .entryAction => listAdds .entryAction .entryActionType (actionElems p (e.writtenActions p))
  | _ => []

/-- The items of the list an attribute stands for were read from objects, and the table has the
filters. -/
def NasAclEntry.ReadableAt (p : Platform) (table : NasAclTable) (e : NasAclEntry) : AttrId → Prop
  | .entryMatch => ∀ t f, e.flist.find t = some f → f.Accepted p table
  | .entryAction => ActionsRead p e
  | _ => True

/-- The nodes of an attribute: one, or none for a list that is empty. -/
def packedBlock (p : Platform) (e : NasAclEntry) (a : AttrId) : List CpsAttr :=
  Tlv.addAll (entryAdds p e a) []

/-- The NPUs of an entry that are written. -/
def NasAclEntry.writtenNpus (p : Platform) (e : NasAclEntry) : List NpuId :=
  if e.followingTableNpus then [] else p.npuOrder.visit e.npuList

/-- The node of an NPU. -/
def npuNode (npuId : NpuId) : CpsAttr := .mk .entryNpuIdList (bytesU32 npuId) []

/-- The nodes an entry is packed into. -/
def packedAttrs (p : Platform) (e : NasAclEntry) (attrs : Finset AttrId) (npuModified : Bool) :
    List CpsAttr :=
  (p.attrOrder.visit attrs).flatMap (packedBlock p e)
    ++ (if npuModified then e.writtenNpus p else []).map npuNode

section Object

variable {p : Platform} {e : NasAclEntry} {table : NasAclTable} {obj keyObj packObj : CpsObject}
  {a : AttrId}

theorem entryAdds_startsAt (a : AttrId) : Tlv.StartsAt a (entryAdds p e a) := by
  unfold entryAdds
  split
  · intro x mem
    rw [List.mem_singleton.mp mem]
    exact ⟨[], rfl⟩
  · exact Tlv.startsAt_under _ _
  · exact Tlv.startsAt_under _ _
  · exact fun x absent => absurd absent List.not_mem_nil

theorem packedBlock_id {t : CpsAttr} (mem : t ∈ packedBlock p e a) : t.id = a :=
  Tlv.id_addAll (entryAdds_startsAt a) (fun _ absent => by cases absent) t mem

theorem fillEntryAttr_read (readable : e.ReadableAt p table a) :
    ∃ ok, fillEntryAttr p e a = .ok (entryAdds p e a, ok) := by
  cases a with
  | entryPriority => exact ⟨true, rfl⟩
  | entryMatch => exact fillMatchAttrList_upTo fun t f found => (readable t f found).read
  | entryAction => exact fillActionAttrList_upTo readable
  | _ => exact ⟨true, rfl⟩

/-- Filling one attribute after the other. -/
theorem fill_blocks {l : List AttrId} (readable : ∀ a ∈ l, e.ReadableAt p table a)
    (apart : l.Nodup) (fresh : ∀ a ∈ l, Tlv.Fresh a obj.attrs) :
    l.foldlM (fun packObj attrId => packObj.fill (fillEntryAttr p e attrId)) obj
      = .ok { obj with attrs := obj.attrs ++ l.flatMap (packedBlock p e) } := by
  induction l generalizing obj with
  | nil =>
      rw [List.flatMap_nil, List.append_nil]
      rfl
  | cons a rest ih =>
      obtain ⟨other, apart⟩ := List.nodup_cons.mp apart
      obtain ⟨here, fresh⟩ := List.forall_mem_cons.mp fresh
      obtain ⟨readable_a, readable⟩ := List.forall_mem_cons.mp readable
      obtain ⟨ok, filled⟩ := fillEntryAttr_read readable_a
      have block : Tlv.addAll (entryAdds p e a) obj.attrs = obj.attrs ++ packedBlock p e a :=
        Tlv.addAll_of_fresh here (entryAdds_startsAt a)
      have step : obj.fill (fillEntryAttr p e a)
          = .ok { obj with attrs := obj.attrs ++ packedBlock p e a } := by
        rw [← block, filled]
        rfl
      rw [List.foldlM_cons, step, except_ok_bind, ih readable apart, List.flatMap_cons,
        List.append_assoc]
      intro b mem t there
      rcases List.mem_append.mp there with there | there
      · exact fresh b mem t there
      · rw [packedBlock_id there]
        exact fun same => other (same ▸ mem)

theorem addAll_npus (l : List NpuId) (base : List CpsAttr) :
    Tlv.addAll (l.map fun npuId => ([.entryNpuIdList], Tlv.leaf (bytesU32 npuId))) base
      = base ++ l.map npuNode := by
  induction l generalizing base with
  | nil => exact (List.append_nil base).symm
  | cons npuId rest ih =>
      rw [List.map_cons, Tlv.addAll_cons, ih, List.map_cons, Tlv.add, List.append_assoc]
      rfl

theorem fill_npus : obj.fill (fillEntryNpuList p e)
    = .ok { obj with attrs := obj.attrs ++ (e.writtenNpus p).map npuNode } := by
  unfold fillEntryNpuList NasAclEntry.writtenNpus
  split
  · rw [List.map_nil, List.append_nil]
    rfl
  · have filled : Fill.forEach (fun npuId => Fill.one [.entryNpuIdList] (Tlv.leaf (bytesU32 npuId)))
        (p.npuOrder.visit e.npuList)
        = .ok ((p.npuOrder.visit e.npuList).map
          fun npuId => ([.entryNpuIdList], Tlv.leaf (bytesU32 npuId)), true) := by
      rw [List.map_eq_flatMap]
      exact Fill.forEach_true fun _ _ => rfl
    rw [filled, ← addAll_npus]
    rfl

/-- The object an entry is packed into. -/
theorem cpsPackAttrs_eq {attrs : Finset AttrId} (readable : ∀ a ∈ attrs, e.ReadableAt p table a)
    (npuModified : Bool) :
    cpsPackAttrs p keyObj e attrs npuModified .new
      = .ok { entryKeyFill e (CpsObject.new.setKey keyObj.key) with
          attrs := packedAttrs p e attrs npuModified } := by
  have blocks : (p.attrOrder.visit attrs).foldlM
      (fun packObj attrId => packObj.fill (fillEntryAttr p e attrId))
      (entryKeyFill e (CpsObject.new.setKey keyObj.key))
        = .ok { entryKeyFill e (CpsObject.new.setKey keyObj.key) with
          attrs := (p.attrOrder.visit attrs).flatMap (packedBlock p e) } :=
    fill_blocks (fun a mem => readable a ((p.attrOrder.mem_visit attrs a).mp mem))
      (p.attrOrder.nodup attrs) fun a _ t absent => by cases absent
  simp only [cpsPackAttrs, blocks, except_ok_bind]
  unfold packedAttrs
  cases npuModified with
  | true => exact fill_npus
  | false =>
      rw [if_neg Bool.false_ne_true, if_neg Bool.false_ne_true, List.map_nil, List.append_nil]

/-- An attribute that was packed is found, whatever stands beside it. -/
theorem find_packed {l : List AttrId} {it : CpsAttr} (mem : a ∈ l)
    (block : packedBlock p e a = [it]) (rest : List CpsAttr) :
    Tlv.find a (l.flatMap (packedBlock p e) ++ rest) = some it := by
  have named : it.id = a := packedBlock_id (block ▸ List.mem_singleton_self it)
  induction l with
  | nil => cases mem
  | cons b l ih =>
      rw [List.flatMap_cons, List.append_assoc]
      by_cases here : b = a
      · rw [here, block]
        exact List.find?_cons_of_pos (decide_eq_true named)
      · have fresh : Tlv.Fresh a (packedBlock p e b) := fun t there same =>
          here ((packedBlock_id there).symm.trans same)
        rw [Tlv.find_append_of_fresh fresh]
        exact ih ((List.mem_cons.mp mem).resolve_left (Ne.symm here))

end Object

/-! ## Reading the lists -/

section Elements

variable {α : Type} {listAttr typeAttr : AttrId} {w : List α} {elem : α → UInt32 × Adds}
  {obj : List CpsAttr}

/-- The container of a list. -/
def listNode (listAttr typeAttr : AttrId) (elems : List (UInt32 × Adds)) : CpsAttr :=
  .mk listAttr [] (elems.zipIdx.map (elementNode typeAttr))

/-- The elements of a list that was written are read one by one. -/
theorem readElements (apart : ValuesApart typeAttr (w.map elem))
    (found : Tlv.find listAttr obj = some (listNode listAttr typeAttr (w.map elem)))
    {what : String} {read : UInt32 → List AttrId → Except Exn α} {fine : α → Prop}
    (turns : ∀ a ∈ w, ∀ i, Tlv.get [listAttr, .index i] obj = some (elementNode typeAttr (elem a, i)) →
      Accepts (fun _ => True) (fine a) a (read (elem a).1 [listAttr, .index i])) :
    Accepts (fun _ => True) (∀ a ∈ w, fine a) w
      ((listNode listAttr typeAttr (w.map elem)).inside.mapM fun elem =>
        elementType typeAttr what elem >>= fun v => read v [listAttr, elem.id]) := by
  have zipped : (w.map elem).zipIdx = w.zipIdx.map (Prod.map elem id) := List.zipIdx_map
  have nodes : (listNode listAttr typeAttr (w.map elem)).inside
      = w.zipIdx.map fun x => elementNode typeAttr (elem x.1, x.2) := by
    rw [listNode, Tlv.inside_mk, zipped, List.map_map]
    rfl
  have each : ∀ x ∈ w.zipIdx, Accepts (fun _ => True) (fine x.1) x.1
      (elementType typeAttr what (elementNode typeAttr (elem x.1, x.2))
        >>= fun v => read v [listAttr, .index x.2]) := by
    intro x mem
    have place : (elem x.1, x.2) ∈ (w.map elem).zipIdx := by
      rw [zipped]
      exact List.mem_map_of_mem (f := Prod.map elem id) mem
    have alone : Tlv.get [listAttr, .index x.2]
        ([] ++ [.mk listAttr [] ((w.map elem).zipIdx.map (elementNode typeAttr))])
          = some (elementNode typeAttr (elem x.1, x.2)) :=
      get_element (fun _ absent => by cases absent) place
    rw [elementType_node apart place, except_ok_bind]
    refine turns x.1 (mem_of_zipIdx mem) x.2 (Eq.trans ?_ alone)
    change (Tlv.find listAttr obj).bind _ = (Tlv.find listAttr [listNode listAttr typeAttr _]).bind _
    have self : Tlv.find listAttr [listNode listAttr typeAttr (w.map elem)]
        = some (listNode listAttr typeAttr (w.map elem)) := Tlv.find_cons_self _ _ _ _
    rw [found, self]
  have all := Accepts.mapM each
  rw [List.zipIdx_map_fst] at all
  rw [nodes, List.mapM_map]
  refine all.congr ⟨fun here a mem => ?_, fun here x mem => here x.1 (mem_of_zipIdx mem)⟩
  rw [← List.zipIdx_map_fst 0 w] at mem
  obtain ⟨x, listed, rfl⟩ := List.mem_map.mp mem
  exact here x listed

end Elements

section Blocks

variable {p : Platform} {sw : NasAclSwitch} {table : NasAclTable} {e : NasAclEntry}
  {obj : List CpsAttr}

theorem written_filter (readable : e.ReadableAt p table .entryMatch) {f : NasAclFilter}
    (mem : f ∈ e.writtenFilters p) : f.Accepted p table ∧ f.ReadsBack p (valueAdds p f) := by
  have accepted := readable _ f (Keyed.mem_items.mp ((upTo_begins _ _).subset mem))
  obtain ⟨obj, v, path, read⟩ := accepted.read
  exact ⟨accepted, readsBack_of_read read⟩

theorem written_action (readable : e.ReadableAt p table .entryAction) {a : NasAclAction}
    (mem : a ∈ e.writtenActions p) : a.ReadsBack p (actionAdds p a) := by
  obtain ⟨obj, v, path, read⟩ :=
    readable _ a (Keyed.mem_items.mp ((upTo_begins _ _).subset mem))
  exact actionReadsBack_of_read read

theorem writtenFilters_apart (readable : e.ReadableAt p table .entryMatch) :
    ValuesApart .entryMatchType (matchElems p (e.writtenFilters p)) := by
  intro x mem
  obtain ⟨f, here, rfl⟩ := List.mem_map.mp mem
  exact ⟨_, AttrId.noConfusion, (written_filter readable here).2.starts⟩

theorem writtenActions_apart (readable : e.ReadableAt p table .entryAction) :
    ValuesApart .entryActionType (actionElems p (e.writtenActions p)) := by
  intro x mem
  obtain ⟨a, here, rfl⟩ := List.mem_map.mp mem
  exact ⟨_, AttrId.noConfusion, (written_action readable here).starts⟩

theorem packedBlock_match (readable : e.ReadableAt p table .entryMatch)
    (some_ : e.writtenFilters p ≠ []) :
    packedBlock p e .entryMatch
      = [listNode .entryMatch .entryMatchType (matchElems p (e.writtenFilters p))] :=
  addAll_listAdds (fun none_ => some_ (List.map_eq_nil_iff.mp none_)) (writtenFilters_apart readable)
    fun _ absent => by cases absent

theorem packedBlock_action (readable : e.ReadableAt p table .entryAction)
    (some_ : e.writtenActions p ≠ []) :
    packedBlock p e .entryAction
      = [listNode .entryAction .entryActionType (actionElems p (e.writtenActions p))] :=
  addAll_listAdds (fun none_ => some_ (List.map_eq_nil_iff.mp none_)) (writtenActions_apart readable)
    fun _ absent => by cases absent

/-- The filters that were written are read. -/
theorem elementFilters_read (readable : e.ReadableAt p table .entryMatch)
    (found : Tlv.find .entryMatch obj
      = some (listNode .entryMatch .entryMatchType (matchElems p (e.writtenFilters p)))) :
    (listNode .entryMatch .entryMatchType (matchElems p (e.writtenFilters p))).inside.mapM
      (elementFilter p obj) = .ok (e.writtenFilters p) := by
  have all : Accepts (fun _ => True) (∀ f ∈ e.writtenFilters p, True) (e.writtenFilters p)
      ((listNode .entryMatch .entryMatchType (matchElems p (e.writtenFilters p))).inside.mapM
        (elementFilter p obj)) :=
    readElements (writtenFilters_apart readable) found fun f mem i here => .inl ⟨trivial, ?_⟩
  · exact all.ok_iff.mpr ⟨fun _ _ => trivial, rfl⟩
  · have reads := (written_filter readable mem).2
    exact reads.inside _ _ _ _ _ here (fresh_type AttrId.noConfusion _)
      (Tlv.addAll_of_fresh (fresh_type AttrId.noConfusion _) reads.starts).symm

/-- The actions that were written are read, unless one has nothing to read it from. -/
theorem elementActions_read (readable : e.ReadableAt p table .entryAction)
    (found : Tlv.find .entryAction obj
      = some (listNode .entryAction .entryActionType (actionElems p (e.writtenActions p))))
    {l : List NasAclAction} :
    (listNode .entryAction .entryActionType (actionElems p (e.writtenActions p))).inside.mapM
        (elementAction p obj) = .ok l ↔
      (∀ a ∈ e.writtenActions p, ¬ a.NoObjects) ∧ l = e.writtenActions p := by
  have all : Accepts (fun _ => True) (∀ a ∈ e.writtenActions p, ¬ a.NoObjects) (e.writtenActions p)
      ((listNode .entryAction .entryActionType (actionElems p (e.writtenActions p))).inside.mapM
        (elementAction p obj)) :=
    readElements (writtenActions_apart readable) found fun a mem i here => ?_
  · exact all.ok_iff
  · have reads := written_action readable mem
    by_cases none_ : a.NoObjects
    · have absent : Tlv.get ([.entryAction, .index i] ++ [.actionValue a.actionType]) obj = none := by
        rw [Tlv.get_into here, elementNode, reads.missing none_]
        exact Tlv.find_eq_none (fresh_type AttrId.noConfusion _)
      refine .inr ⟨not_not.mpr none_, ?_⟩
      cases read : readAction p obj (p.actionTypes.code a.actionType) [.entryAction, .index i] with
      | error err => exact ⟨err, trivial, rfl⟩
      | ok b => exact absurd read (readAction_noObjects none_ absent)
    · exact .inl ⟨none_, reads.inside none_ _ _ _ _ _ here (fresh_type AttrId.noConfusion _)
        (Tlv.addAll_of_fresh (fresh_type AttrId.noConfusion _) reads.starts).symm⟩

end Blocks

/-! ## Reading the object -/

/-- The entry after an attribute of the old one is read. -/
def giveBack (p : Platform) (old : NasAclEntry) (a : AttrId) (e : NasAclEntry) : NasAclEntry :=
  match a with
  | .entryPriority => e.setPriority old.priority
  | .entryMatch => e.giveFilters p (old.writtenFilters p)
  | .entryAction => e.giveActions (old.writtenActions p)
  | _ => e

/-- The attribute of the old entry is written, and marks the entry that it is read into. -/
def NasAclEntry.WritesBack (p : Platform) (old : NasAclEntry) : AttrId → Prop
  | .entryPriority => True
  | .entryMatch => old.writtenFilters p ≠ []
  | .entryAction => old.writtenActions p ≠ []
  | _ => False

/-- What reading an attribute of the old entry asks for. -/
def TakenBack (p : Platform) (sw : NasAclSwitch) (old : NasAclEntry) : AttrId → Prop
  | .entryMatch => PortsLast (old.writtenFilters p)
  | .entryAction => ∀ a ∈ old.writtenActions p, ¬ a.NoObjects ∧ KnownCounter sw old.tableId a
  | _ => True

section Reading

open NasAclEntry

variable {p : Platform} {sw : NasAclSwitch} {table : NasAclTable} {old e : NasAclEntry}
  {obj : List CpsAttr} {a b : AttrId} {st st' : NasAclEntry × Bool}

/-- What taking back one attribute leaves alone. -/
theorem giveBack_others (b : AttrId) (e : NasAclEntry) :
    (giveBack p old b e).tableId = e.tableId ∧ (giveBack p old b e).entryId = e.entryId ∧
      (giveBack p old b e).base.npus = e.base.npus ∧
      (giveBack p old b e).base.npusDirty = e.base.npusDirty ∧
      (giveBack p old b e).followingTableNpus = e.followingTableNpus ∧
      (b ≠ .entryPriority → (giveBack p old b e).priority = e.priority) ∧
      (b ≠ .entryMatch → ((giveBack p old b e).flist, (giveBack p old b e).filterNpus)
        = (e.flist, e.filterNpus)) ∧
      (b ≠ .entryAction → (giveBack p old b e).alist = e.alist) ∧
      (giveBack p old b e).ndiEntryIds = e.ndiEntryIds := by
  unfold giveBack
  split
  · exact ⟨rfl, rfl, rfl, rfl, rfl, fun other => absurd rfl other, fun _ => rfl, fun _ => rfl, rfl⟩
  · unfold giveFilters
    split
    · exact ⟨rfl, rfl, rfl, rfl, rfl, fun _ => rfl, fun _ => rfl, fun _ => rfl, rfl⟩
    · exact ⟨rfl, rfl, rfl, rfl, rfl, fun _ => rfl, fun other => absurd rfl other, fun _ => rfl, rfl⟩
  · unfold giveActions
    split
    · exact ⟨rfl, rfl, rfl, rfl, rfl, fun _ => rfl, fun _ => rfl, fun _ => rfl, rfl⟩
    · exact ⟨rfl, rfl, rfl, rfl, rfl, fun _ => rfl, fun _ => rfl, fun other => absurd rfl other, rfl⟩
  · exact ⟨rfl, rfl, rfl, rfl, rfl, fun _ => rfl, fun _ => rfl, fun _ => rfl, rfl⟩

theorem giveBack_marks (ne : a ≠ b) :
    (giveBack p old b e).isAttrDirty a = e.isAttrDirty a := by
  have marked (x : NasAclEntry) : (x.markAttrDirty b).isAttrDirty a = x.isAttrDirty a :=
    isAttrDirty_markAttrDirty_of_ne ne
  unfold giveBack
  split
  · exact marked _
  · unfold giveFilters
    split
    · rfl
    · exact marked e
  · unfold giveActions
    split
    · rfl
    · exact marked e
  · rfl

/-- An attribute that is written marks the entry. -/
theorem giveBack_marked : ((giveBack p old a e).isAttrDirty a = true) =
    (e.isAttrDirty a = true ∨ old.WritesBack p a) := by
  refine propext ?_
  unfold giveBack NasAclEntry.WritesBack
  split
  · exact iff_of_true (isAttrDirty_markAttrDirty .entryPriority _) (.inr trivial)
  · by_cases none_ : old.writtenFilters p = []
    · rw [none_, giveFilters_nil]
      exact (or_iff_left (not_not.mpr rfl)).symm
    · unfold giveFilters
      rw [if_neg none_]
      exact iff_of_true (isAttrDirty_markAttrDirty .entryMatch e) (.inr none_)
  · by_cases none_ : old.writtenActions p = []
    · rw [none_, giveActions_nil]
      exact (or_iff_left (not_not.mpr rfl)).symm
    · exact iff_of_true (giveActions_dirty none_) (.inr none_)
  · exact (or_iff_left id).symm

/-- One attribute is read. -/
theorem readBlock_iff (readable : old.ReadableAt p table a)
    (found : ∀ it, packedBlock p old a = [it] → Tlv.find a obj = some it)
    (clean : st.1.isAttrDirty a = false) (own : st.1.tableId = old.tableId) :
    (packedBlock p old a).foldlM (parseEntryAttr p sw table obj) st = .ok st' ↔
      TakenBack p sw old a ∧ st' = (giveBack p old a st.1, st.2) := by
  have nothing (none_ : packedBlock p old a = []) (taken : TakenBack p sw old a)
      (same : giveBack p old a st.1 = st.1) :
      (packedBlock p old a).foldlM (parseEntryAttr p sw table obj) st = .ok st' ↔
        TakenBack p sw old a ∧ st' = (giveBack p old a st.1, st.2) := by
    rw [none_, same, and_iff_right taken, List.foldlM_nil, except_pure, Except.ok.injEq]
    exact eq_comm
  have single {it : CpsAttr} (block : packedBlock p old a = [it]) :
      (packedBlock p old a).foldlM (parseEntryAttr p sw table obj) st
        = parseEntryAttr p sw table obj st it := by
    rw [block, List.foldlM_cons]
    exact bind_pure _
  cases a with
  | entryPriority =>
      have read : parseEntryAttr p sw table obj st (.mk .entryPriority (bytesU32 old.priority) [])
          = .ok (st.1.setPriority old.priority, st.2) := by
        unfold parseEntryAttr
        rw [Tlv.id_mk, dataU32_bytesU32]
        exact if_neg fun dirty => Bool.noConfusion (clean.symm.trans dirty)
      have block : packedBlock p old .entryPriority
          = [.mk .entryPriority (bytesU32 old.priority) []] := rfl
      rw [single block, read, Except.ok.injEq]
      exact eq_comm.trans (and_iff_right trivial).symm
  | entryMatch =>
      by_cases none_ : old.writtenFilters p = []
      · refine nothing ?_ ?_ ?_
        · unfold packedBlock entryAdds
          rw [none_]
          rfl
        · unfold TakenBack
          rw [none_]
          exact List.Pairwise.nil
        · unfold giveBack
          rw [none_]
          exact giveFilters_nil
      · have block := packedBlock_match readable none_
        have apart : ((old.writtenFilters p).map NasAclFilter.filterType).Nodup :=
          (Keyed.nodup_items _ _).sublist ((upTo_begins _ _).sublist.map _)
        have fits : ∀ f ∈ old.writtenFilters p, f.Fits p table := fun f mem =>
          (written_filter readable mem).1.fits
        rw [single block, parseEntryAttr_match rfl, elementFilters_read readable (found _ block)]
        simp only [Except.ok.injEq, exists_eq_left', addFilters_clean clean apart, and_assoc]
        constructor
        · rintro ⟨e', -, last, rfl, rfl⟩
          exact ⟨last, rfl⟩
        · rintro ⟨last, rfl⟩
          exact ⟨_, fits, last, rfl, rfl⟩
  | entryAction =>
      by_cases none_ : old.writtenActions p = []
      · refine nothing ?_ ?_ ?_
        · unfold packedBlock entryAdds
          rw [none_]
          rfl
        · unfold TakenBack
          rw [none_]
          exact List.forall_mem_nil _
        · unfold giveBack
          rw [none_]
          exact giveActions_nil
      · have block := packedBlock_action readable none_
        rw [single block, parseEntryAttr_action rfl]
        simp only [elementActions_read readable (found _ block), own]
        constructor
        · rintro ⟨l, ⟨some_, rfl⟩, known, rfl⟩
          exact ⟨fun a mem => ⟨some_ a mem, known a mem⟩, rfl⟩
        · rintro ⟨taken, rfl⟩
          exact ⟨_, ⟨fun a mem => (taken a mem).1, rfl⟩, fun a mem => (taken a mem).2, rfl⟩
  | _ => exact nothing rfl trivial rfl

/-- The entry after a list of NPUs. -/
def giveNpus (l : List NpuId) (e : NasAclEntry) : NasAclEntry :=
  l.foldl (fun e npuId => e.addNpu npuId) e

/-- The entry after everything that was packed of the old one is read. -/
def givenBack (p : Platform) (old : NasAclEntry) (attrs : Finset AttrId) (npuModified : Bool)
    (e : NasAclEntry) : NasAclEntry :=
  giveNpus (if npuModified then old.writtenNpus p else [])
    ((p.attrOrder.visit attrs).foldl (fun e a => giveBack p old a e) e)

theorem readNpus (l : List NpuId) (st : NasAclEntry × Bool) :
    ∃ named, (l.map npuNode).foldlM (parseEntryAttr p sw table obj) st
      = .ok (giveNpus l st.1, named) := by
  induction l generalizing st with
  | nil => exact ⟨st.2, rfl⟩
  | cons npuId rest ih =>
      obtain ⟨named, ran⟩ := ih (st.1.addNpu npuId, true)
      have here : parseEntryAttr p sw table obj st (npuNode npuId) = .ok (st.1.addNpu npuId, true) := by
        unfold parseEntryAttr npuNode
        rw [Tlv.id_mk, dataU32_bytesU32]
      refine ⟨named, ?_⟩
      rw [List.map_cons, List.foldlM_cons, here, except_ok_bind, ran]
      rfl

/-- What was packed is read when each attribute can be taken back. -/
theorem parse_packed_iff {attrs : Finset AttrId} (readable : ∀ a ∈ attrs, old.ReadableAt p table a)
    {npuModified : Bool} (clean : ∀ a, e.isAttrDirty a = false) (own : e.tableId = old.tableId)
    {u : NasAclEntry} :
    (∃ named, cpsParseEntryObj p sw table (packedAttrs p old attrs npuModified) e = .ok (u, named)) ↔
      (∀ a ∈ attrs, TakenBack p sw old a) ∧ u = givenBack p old attrs npuModified e := by
  let npus := if npuModified then old.writtenNpus p else []
  let obj := (p.attrOrder.visit attrs).flatMap (packedBlock p old) ++ npus.map npuNode
  have turns : ∀ a ∈ p.attrOrder.visit attrs, ∀ st st' : NasAclEntry × Bool,
      st.1.isAttrDirty a = false ∧ st.1.tableId = old.tableId →
      ((packedBlock p old a).foldlM (parseEntryAttr p sw table obj) st = .ok st' ↔
        TakenBack p sw old a ∧ st' = (giveBack p old a st.1, st.2)) := fun a mem st st' before =>
    readBlock_iff (readable a ((p.attrOrder.mem_visit attrs a).mp mem))
      (fun it block => find_packed mem block _) before.1 before.2
  have blocks (mid : NasAclEntry × Bool) :
      ((p.attrOrder.visit attrs).flatMap (packedBlock p old)).foldlM (parseEntryAttr p sw table obj)
          (e, false) = .ok mid ↔
        (∀ a ∈ attrs, TakenBack p sw old a) ∧
          mid = ((p.attrOrder.visit attrs).foldl (fun e a => giveBack p old a e) e, false) := by
    have pairs : (p.attrOrder.visit attrs).foldl
        (fun (st : NasAclEntry × Bool) a => (giveBack p old a st.1, st.2)) (e, false)
          = ((p.attrOrder.visit attrs).foldl (fun e a => giveBack p old a e) e, false) :=
      List.foldl_hom (fun e : NasAclEntry => (e, false)) fun _ _ => rfl
    have kept (a b : AttrId) (st : NasAclEntry × Bool) (ne : a ≠ b)
        (before : st.1.isAttrDirty a = false ∧ st.1.tableId = old.tableId) :
        (giveBack p old b st.1).isAttrDirty a = false ∧
          (giveBack p old b st.1).tableId = old.tableId := by
      exact ⟨(giveBack_marks ne).trans before.1, (giveBack_others b st.1).1.trans before.2⟩
    rw [except_foldlM_flatMap, ← pairs, except_foldlM_once _ (p.attrOrder.nodup attrs) turns kept
      fun a _ => ⟨clean a, own⟩]
    simp only [p.attrOrder.mem_visit]
  have whole (named : Bool) : cpsParseEntryObj p sw table obj e = .ok (u, named) ↔
      ∃ mid, ((p.attrOrder.visit attrs).flatMap (packedBlock p old)).foldlM
          (parseEntryAttr p sw table obj) (e, false) = .ok mid ∧
        (npus.map npuNode).foldlM (parseEntryAttr p sw table obj) mid = .ok (u, named) := by
    unfold cpsParseEntryObj
    rw [List.foldlM_append, except_bind_ok]
  have rest (mid : NasAclEntry × Bool) : ∃ named,
      (npus.map npuNode).foldlM (parseEntryAttr p sw table obj) mid
        = .ok (giveNpus npus mid.1, named) := readNpus npus mid
  change (∃ named, cpsParseEntryObj p sw table obj e = .ok (u, named)) ↔ _
  constructor
  · rintro ⟨named, parsed⟩
    obtain ⟨mid, read, listed⟩ := (whole named).mp parsed
    obtain ⟨taken, rfl⟩ := (blocks mid).mp read
    obtain ⟨named', ran⟩ := rest _
    cases ran.symm.trans listed
    exact ⟨taken, rfl⟩
  · rintro ⟨taken, rfl⟩
    obtain ⟨named, ran⟩ := rest _
    exact ⟨named, (whole named).mpr ⟨_, (blocks _).mpr ⟨taken, rfl⟩, ran⟩⟩

/-! ### What is given back -/

/-- An entry after the old one was packed and read. -/
structure GivenBack (p : Platform) (old : NasAclEntry) (attrs : Finset AttrId) (npuModified : Bool)
    (e u : NasAclEntry) : Prop where
  tableId : u.tableId = e.tableId
  entryId : u.entryId = e.entryId
  priority : u.priority = if .entryPriority ∈ attrs then old.priority else e.priority
  filters : (u.flist, u.filterNpus) =
    if .entryMatch ∈ attrs ∧ old.writtenFilters p ≠ [] then
      (Keyed.ofItems (old.writtenFilters p), portNpus p (old.writtenFilters p))
    else (e.flist, e.filterNpus)
  actions : u.alist =
    if .entryAction ∈ attrs ∧ old.writtenActions p ≠ [] then Keyed.ofItems (old.writtenActions p)
    else e.alist
  npus : (u.base.npus, u.followingTableNpus) =
    if npuModified ∧ old.writtenNpus p ≠ [] then ((old.writtenNpus p).toFinset, false)
    else (e.base.npus, e.followingTableNpus)
  ids : u.ndiEntryIds = e.ndiEntryIds
  marks : ∀ a, u.isAttrDirty a = true ↔ a ∈ attrs ∧ old.WritesBack p a

theorem giveNpus_frame (l : List NpuId) (e : NasAclEntry) :
    (giveNpus l e).tableId = e.tableId ∧ (giveNpus l e).entryId = e.entryId ∧
      (giveNpus l e).priority = e.priority ∧ (giveNpus l e).flist = e.flist ∧
      (giveNpus l e).filterNpus = e.filterNpus ∧ (giveNpus l e).alist = e.alist ∧
      (giveNpus l e).ndiEntryIds = e.ndiEntryIds ∧
      ∀ a, (giveNpus l e).isAttrDirty a = e.isAttrDirty a := by
  induction l generalizing e with
  | nil => exact ⟨rfl, rfl, rfl, rfl, rfl, rfl, rfl, fun _ => rfl⟩
  | cons npuId rest ih => exact ih (e.addNpu npuId)

theorem giveNpus_dirty (l : List NpuId) (dirty : e.base.npusDirty = true) :
    (giveNpus l e).base.npus = e.base.npus ∪ l.toFinset := by
  induction l generalizing e with
  | nil => exact (Finset.union_empty _).symm
  | cons npuId rest ih =>
      have joined : (e.addNpu npuId).base.npus = insert npuId e.base.npus := by
        simp only [addNpu, BaseObj.addNpu, dirty, Bool.not_true, Bool.and_false, Bool.false_eq_true,
          if_false]
      have step : giveNpus (npuId :: rest) e = giveNpus rest (e.addNpu npuId) := rfl
      rw [step, ih rfl, joined, List.toFinset_cons, Finset.insert_union, Finset.union_insert]

/-- The first NPU replaces the list. -/
theorem giveNpus_clean (l : List NpuId) (clean : e.base.npusDirty = false) :
    ((giveNpus l e).base.npus, (giveNpus l e).followingTableNpus) =
      if l ≠ [] then (l.toFinset, false) else (e.base.npus, e.followingTableNpus) := by
  cases l with
  | nil => rfl
  | cons npuId rest =>
      have first : (e.addNpu npuId).base.npus = {npuId} := by
        simp only [addNpu, BaseObj.addNpu, clean, Bool.not_false, Bool.and_true, if_true]
      have own : ∀ x : NasAclEntry, x.followingTableNpus = false →
          (giveNpus rest x).followingTableNpus = false := by
        induction rest with
        | nil => exact fun x own => own
        | cons _ _ ih => exact fun x _ => ih _ rfl
      have step : giveNpus (npuId :: rest) e = giveNpus rest (e.addNpu npuId) := rfl
      rw [if_pos (List.cons_ne_nil _ _), step, giveNpus_dirty rest rfl, first, own _ rfl,
        List.toFinset_cons]
      rfl

theorem giveBack_match (clean : e.isAttrDirty .entryMatch = false) :
    ((giveBack p old .entryMatch e).flist, (giveBack p old .entryMatch e).filterNpus) =
      if old.writtenFilters p ≠ [] then
        (Keyed.ofItems (old.writtenFilters p), portNpus p (old.writtenFilters p))
      else (e.flist, e.filterNpus) := by
  have cleared : e.resetFilters true = { e with flist := .empty, filterNpus := ∅ } := by
    rw [resetFilters, clean]
    rfl
  unfold giveBack giveFilters
  by_cases none_ : old.writtenFilters p = []
  · rw [if_pos none_, if_neg (not_not.mpr none_)]
  · rw [if_neg none_, if_pos none_, cleared, Finset.empty_union]
    rfl

theorem giveBack_action (clean : e.isAttrDirty .entryAction = false) :
    (giveBack p old .entryAction e).alist =
      if old.writtenActions p ≠ [] then Keyed.ofItems (old.writtenActions p) else e.alist := by
  have cleared : e.resetActions true = { e with alist := .empty } := by
    rw [resetActions, clean]
    rfl
  unfold giveBack giveActions
  by_cases none_ : old.writtenActions p = []
  · rw [if_pos none_, if_neg (not_not.mpr none_)]
  · rw [if_neg none_, if_pos none_, cleared]
    rfl

/-- What no attribute touches is kept by all of them. -/
theorem foldl_giveBack {β : Type} (field : NasAclEntry → β)
    (kept : ∀ b x, field (giveBack p old b x) = field x) (l : List AttrId) :
    field (l.foldl (fun e a => giveBack p old a e) e) = field e := by
  induction l generalizing e with
  | nil => rfl
  | cons b rest ih => exact ih.trans (kept b e)

/-- Each attribute that was packed and is not empty is as in the old entry, the others are as
they were. -/
theorem givenBack_fields {attrs : Finset AttrId} {npuModified : Bool}
    (clean : ∀ a, e.isAttrDirty a = false) (free : e.base.npusDirty = false) :
    GivenBack p old attrs npuModified e (givenBack p old attrs npuModified e) := by
  obtain ⟨tableId, entryId, priority, flist, cache, alist, ids, dirty⟩ :=
    giveNpus_frame (if npuModified then old.writtenNpus p else [])
      ((p.attrOrder.visit attrs).foldl (fun e a => giveBack p old a e) e)
  have apart := p.attrOrder.nodup attrs
  have marks (a b : AttrId) (x : NasAclEntry) (ne : b ≠ a) (before : x.isAttrDirty a = false) :
      (giveBack p old b x).isAttrDirty a = false := (giveBack_marks (Ne.symm ne)).trans before
  constructor
  · exact tableId.trans (foldl_giveBack _ (fun b x => (giveBack_others b x).1) _)
  · exact entryId.trans (foldl_giveBack _ (fun b x => (giveBack_others b x).2.1) _)
  · rw [givenBack, priority, foldl_once (h := fun _ => old.priority) .entryPriority
      NasAclEntry.priority (fun _ => True) (fun _ _ _ _ => trivial)
      (fun b x ne => (giveBack_others b x).2.2.2.2.2.1 ne) (fun _ _ => rfl) apart trivial]
    simp only [p.attrOrder.mem_visit]
  · rw [givenBack, flist, cache]
    refine (foldl_once (h := fun x => if old.writtenFilters p ≠ [] then
      (Keyed.ofItems (old.writtenFilters p), portNpus p (old.writtenFilters p)) else x) .entryMatch
      (fun e : NasAclEntry => (e.flist, e.filterNpus)) (fun x => x.isAttrDirty .entryMatch = false)
      (marks _) (fun b x ne => (giveBack_others b x).2.2.2.2.2.2.1 ne) (fun _ => giveBack_match) apart
      (clean _)).trans ?_
    simp only [p.attrOrder.mem_visit, ite_and]
  · rw [givenBack, alist]
    refine (foldl_once (h := fun x => if old.writtenActions p ≠ [] then
      Keyed.ofItems (old.writtenActions p) else x) .entryAction NasAclEntry.alist
      (fun x => x.isAttrDirty .entryAction = false) (marks _)
      (fun b x ne => (giveBack_others b x).2.2.2.2.2.2.2.1 ne) (fun _ => giveBack_action) apart
      (clean _)).trans ?_
    simp only [p.attrOrder.mem_visit, ite_and]
  · have npus : ((p.attrOrder.visit attrs).foldl (fun e a => giveBack p old a e) e).base.npus
        = e.base.npus := foldl_giveBack (fun x => x.base.npus) (fun b x => (giveBack_others b x).2.2.1) _
    have following :
        ((p.attrOrder.visit attrs).foldl (fun e a => giveBack p old a e) e).followingTableNpus
          = e.followingTableNpus :=
      foldl_giveBack NasAclEntry.followingTableNpus (fun b x => (giveBack_others b x).2.2.2.2.1) _
    have dirty : ((p.attrOrder.visit attrs).foldl (fun e a => giveBack p old a e) e).base.npusDirty
        = e.base.npusDirty :=
      foldl_giveBack (fun x => x.base.npusDirty) (fun b x => (giveBack_others b x).2.2.2.1) _
    rw [givenBack, giveNpus_clean _ (dirty.trans free), npus, following]
    cases npuModified with
    | true => simp only [if_true, true_and]
    | false => rfl
  · exact ids.trans (foldl_giveBack _ (fun b x => (giveBack_others b x).2.2.2.2.2.2.2.2) _)
  · intro a
    have marked := foldl_once (h := fun before => before ∨ old.WritesBack p a) a
      (fun e : NasAclEntry => e.isAttrDirty a = true) (fun _ => True) (fun _ _ _ _ => trivial)
      (fun b x ne => congrArg (· = true) (giveBack_marks (Ne.symm ne)))
      (fun _ _ => giveBack_marked) apart (s := e) trivial
    rw [givenBack, dirty, marked, clean a]
    simp only [p.attrOrder.mem_visit, Bool.false_eq_true, false_or, if_false_right]

end Reading

end SonicNasAcl
