/-
# RollbackDelete -- a DELETE that is rolled back

A DELETE packs the object it removes into the object it saves, and its rollback creates the
object from what was packed, under the old id.

Tables and counters are packed as plain numbers, and always come back with the configuration
they had.
-/
import SonicNasAcl.RollbackCreate
import SonicNasAcl.Settled

namespace SonicNasAcl

set_option autoImplicit false

open Lib

/-! ## Attributes at the top of an object -/

/-- A filling function that adds attributes at the top, and returns. -/
def Fill.tops (l : List (AttrId × Tlv.Payload AttrId)) : Fill :=
  .ok (l.map fun x => ([x.1], x.2), true)

theorem Fill.andThen_tops (l m : List (AttrId × Tlv.Payload AttrId)) :
    Fill.andThen (Fill.tops l) (Fill.tops m) = Fill.tops (l ++ m) := by
  unfold Fill.tops
  rw [List.map_append]
  rfl

theorem Fill.forEach_tops {α : Type} (node : α → AttrId × Tlv.Payload AttrId) (l : List α) :
    Fill.forEach (fun x => Fill.one [(node x).1] (node x).2) l = Fill.tops (l.map node) := by
  have each : (l.map node).map (fun x => ([x.1], x.2))
      = l.flatMap fun x => [([(node x).1], (node x).2)] := by
    rw [List.map_map, List.map_eq_flatMap]
    rfl
  unfold Fill.tops
  rw [each]
  exact Fill.forEach_true fun _ _ => rfl

/-- A number at the top of a request. -/
def wordNode (w : AttrId × UInt32) : CpsAttr := .mk w.1 (bytesU32 w.2) []

/-- How numbers are added. -/
def wordAdds (words : List (AttrId × UInt32)) : Adds :=
  words.map fun w => ([w.1], Tlv.leaf (bytesU32 w.2))

theorem Fill.tops_words (words : List (AttrId × UInt32)) :
    Fill.tops (words.map fun w => (w.1, Tlv.leaf (bytesU32 w.2))) = .ok (wordAdds words, true) := by
  unfold Fill.tops
  rw [List.map_map]
  rfl

theorem addAll_words (words : List (AttrId × UInt32)) (base : List CpsAttr) :
    Tlv.addAll (wordAdds words) base = base ++ words.map wordNode := by
  have added := Tlv.addAll_tops (words.map fun w => (w.1, Tlv.leaf (bytesU32 w.2))) base
  rw [List.map_map, List.map_map] at added
  exact added

theorem Fill.one_word (a : AttrId) (v : UInt32) :
    Fill.one [a] (Tlv.leaf (bytesU32 v)) = .ok (wordAdds [(a, v)], true) := rfl

theorem Fill.andThen_words (l m : List (AttrId × UInt32)) :
    Fill.andThen (.ok (wordAdds l, true)) (.ok (wordAdds m, true)) = .ok (wordAdds (l ++ m), true) := by
  rw [← Fill.tops_words, ← Fill.tops_words, Fill.andThen_tops, ← List.map_append, Fill.tops_words]

theorem Fill.forEach_words {α : Type} (a : AttrId) (f : α → UInt32) (l : List α) :
    Fill.forEach (fun x => Fill.one [a] (Tlv.leaf (bytesU32 (f x)))) l
      = .ok (wordAdds (l.map fun x => (a, f x)), true) := by
  rw [← Fill.tops_words, List.map_map]
  exact Fill.forEach_tops (fun x => (a, Tlv.leaf (bytesU32 (f x)))) l

/-- NPUs that are listed in a new object replace the ones it started with. -/
def BaseObj.giveNpus (l : List NpuId) (b : BaseObj) : BaseObj :=
  l.foldl (fun b npuId => b.addNpu npuId true) b

theorem BaseObj.giveNpus_eq {b : BaseObj} (l : List NpuId) (clean : b.npusDirty = false)
    (some_ : l ≠ []) : b.giveNpus l
      = { b with npus := l.toFinset, followingSwitchNpus := false, npusDirty := true } := by
  have joined (l : List NpuId) (b : BaseObj) (own : b.followingSwitchNpus = false)
      (dirty : b.npusDirty = true) : b.giveNpus l = { b with npus := b.npus ∪ l.toFinset } := by
    induction l generalizing b with
    | nil =>
        rw [List.toFinset_nil, Finset.union_empty]
        rfl
    | cons npuId rest ih =>
        have step : b.giveNpus (npuId :: rest) = (b.addNpu npuId true).giveNpus rest := rfl
        rw [step, ih _ rfl rfl, BaseObj.addNpu, dirty, List.toFinset_cons, Finset.union_insert,
          ← Finset.insert_union, ← own]
        rfl
  cases l with
  | nil => exact absurd rfl some_
  | cons npuId rest =>
      have step : b.giveNpus (npuId :: rest) = (b.addNpu npuId true).giveNpus rest := rfl
      rw [step, joined rest _ rfl rfl, BaseObj.addNpu, clean, List.toFinset_cons]
      rfl

theorem BaseObj.giveNpus_marks (l : List NpuId) (b : BaseObj) :
    (b.giveNpus l).dirtyAttrs = b.dirtyAttrs ∧ (b.giveNpus l).createdInNdi = b.createdInNdi := by
  induction l generalizing b with
  | nil => exact ⟨rfl, rfl⟩
  | cons npuId rest ih => exact ih (b.addNpu npuId true)

/-- What a base object is configured with. -/
theorem BaseObj.config_eq {b b' : BaseObj} (npus : b'.npus = b.npus)
    (following : b'.followingSwitchNpus = b.followingSwitchNpus)
    (created : b'.createdInNdi = b.createdInNdi) : b'.config = b.config := by
  unfold BaseObj.config
  rw [npus, following, created]

/-! ## Tables -/

theorem NasAclTable.config_eq {t t' : NasAclTable} (own : t'.tableId = t.tableId)
    (stage : t'.stage = t.stage) (fields : t'.allowedFilters = t.allowedFilters)
    (priority : t'.priority = t.priority) (base : t'.base.config = t.base.config) :
    t'.config = t.config := by
  unfold NasAclTable.config
  rw [own, stage, fields, priority, base]

namespace NasAclTable

/-- The numbers a table is packed into. -/
def words (p : Platform) (t : NasAclTable) : List (AttrId × UInt32) :=
  (.tableStage, p.stages.code t.stage) :: (.tablePriority, t.priority) ::
    ((p.fieldOrder.visit t.allowedFilters).map fun f =>
        (.tableAllowedMatchFields, p.matchTypes.code f)) ++
      (if t.base.followingSwitchNpus then [] else p.npuOrder.visit t.npuList).map fun npuId =>
        (.tableNpuIdList, npuId)

end NasAclTable

section Tables

variable {p : Platform} {sw : NasAclSwitch} {t : NasAclTable} {obj : CpsObject}

theorem fillTableAttrInfo_eq : fillTableAttrInfo p t = .ok (wordAdds (t.words p), true) := by
  have npus : (if t.base.followingSwitchNpus then Fill.done else
      Fill.forEach (fun npuId => Fill.one [.tableNpuIdList] (Tlv.leaf (bytesU32 npuId)))
        (p.npuOrder.visit t.npuList))
      = .ok (wordAdds ((if t.base.followingSwitchNpus then [] else p.npuOrder.visit t.npuList).map
        fun npuId => (.tableNpuIdList, npuId)), true) := by
    split
    · rfl
    · exact Fill.forEach_words _ _ _
  unfold fillTableAttrInfo NasAclTable.words
  dsimp only
  rw [npus, Fill.forEach_words]
  simp only [Fill.one_word, Fill.andThen_words, List.cons_append, List.nil_append]

theorem fill_table : obj.fill (fillTableAttrInfo p t)
    = .ok { obj with attrs := obj.attrs ++ (t.words p).map wordNode } := by
  rw [fillTableAttrInfo_eq, ← addAll_words]
  rfl

theorem createOnly_new {what : String} (new : t.base.createdInNdi = false) :
    t.createOnly what = .ok () :=
  throwIf_ok.mpr fun created => Bool.false_ne_true (new.symm.trans created)

/-- The match fields of a new table, one after the other. -/
theorem parse_allowed (l : List MatchType) (st : TableParse)
    (new : st.table.base.createdInNdi = false)
    (clean : st.table.isAttrDirty .tableAllowedMatchFields = false) (some_ : l ≠ []) :
    (l.map fun f => wordNode (.tableAllowedMatchFields, p.matchTypes.code f)).foldlM
        (parseTableAttr p sw) st
      = .ok { st with table := { st.table.markAttrDirty .tableAllowedMatchFields with
        allowedFilters := l.toFinset } } := by
  have turn (f : MatchType) (st : TableParse) (new : st.table.base.createdInNdi = false) :
      parseTableAttr p sw st (wordNode (.tableAllowedMatchFields, p.matchTypes.code f))
        = .ok { st with table :=
          if st.table.isAttrDirty .tableAllowedMatchFields then
            { st.table with allowedFilters := insert f st.table.allowedFilters }
          else { st.table.markAttrDirty .tableAllowedMatchFields with allowedFilters := {f} } } := by
    simp only [parseTableAttr, wordNode, Tlv.id_mk, NasAclTable.setAllowedFilter, createOnly_new new,
      dataU32_bytesU32, p.matchTypes.decode_code, except_ok_bind]
    cases st.table.isAttrDirty .tableAllowedMatchFields with
    | true => rfl
    | false => rfl
  have joined (l : List MatchType) (st : TableParse) (new : st.table.base.createdInNdi = false)
      (dirty : st.table.isAttrDirty .tableAllowedMatchFields = true) :
      (l.map fun f => wordNode (.tableAllowedMatchFields, p.matchTypes.code f)).foldlM
          (parseTableAttr p sw) st
        = .ok { st with table :=
          { st.table with allowedFilters := st.table.allowedFilters ∪ l.toFinset } } := by
    induction l generalizing st with
    | nil =>
        rw [List.toFinset_nil, Finset.union_empty]
        rfl
    | cons f rest ih =>
        rw [List.map_cons, List.foldlM_cons, turn f st new, except_ok_bind, if_pos dirty]
        refine (ih { st with table := { st.table with
          allowedFilters := insert f st.table.allowedFilters } } new dirty).trans ?_
        rw [List.toFinset_cons, Finset.insert_union, Finset.union_insert]
  cases l with
  | nil => exact absurd rfl some_
  | cons f rest =>
      have dirty : (st.table.markAttrDirty .tableAllowedMatchFields).isAttrDirty
          .tableAllowedMatchFields = true := decide_eq_true (Finset.mem_insert_self _ _)
      rw [List.map_cons, List.foldlM_cons, turn f st new, except_ok_bind,
        if_neg (Bool.eq_false_iff.mp clean)]
      refine (joined rest { st with table := { st.table.markAttrDirty .tableAllowedMatchFields with
        allowedFilters := {f} } } new dirty).trans ?_
      rw [List.toFinset_cons]
      rfl

/-- And its NPUs. -/
theorem parse_tableNpus (l : List NpuId) (st : TableParse)
    (new : st.table.base.createdInNdi = false) :
    (l.map fun npuId => wordNode (.tableNpuIdList, npuId)).foldlM (parseTableAttr p sw) st
      = .ok { st with table := { st.table with base := st.table.base.giveNpus l } } := by
  induction l generalizing st with
  | nil => rfl
  | cons npuId rest ih =>
      have turn : parseTableAttr p sw st (wordNode (.tableNpuIdList, npuId))
          = .ok { st with table := { st.table with base := st.table.base.addNpu npuId true } } := by
        simp only [parseTableAttr, wordNode, Tlv.id_mk, NasAclTable.addNpu,
          NasAclTable.validateTableNpuChange, new, Bool.false_eq_true, if_false, dataU32_bytesU32,
          except_ok_bind]
      rw [List.map_cons, List.foldlM_cons, turn, except_ok_bind]
      exact ih { st with table := { st.table with base := st.table.base.addNpu npuId true } } new

/-- The stage and the priority of a new table. -/
theorem parse_stagePriority (stage : Stage) (priority : UInt32) :
    ∃ t, [wordNode (.tableStage, p.stages.code stage), wordNode (.tablePriority, priority)].foldlM
        (parseTableAttr p sw) { table := .new p } = .ok ⟨t, true, true⟩ ∧
      t.stage = stage ∧ t.priority = priority ∧ t.isAttrDirty .tableStage = true ∧
      t.isAttrDirty .tableAllowedMatchFields = false ∧ t.base.npus = p.switchNpus ∧
      t.base.followingSwitchNpus = true ∧ t.base.npusDirty = false ∧
      t.base.createdInNdi = false := by
  let t₁ := ({ NasAclTable.new p with stage := stage } : NasAclTable).markAttrDirty .tableStage
  have first : parseTableAttr p sw { table := .new p } (wordNode (.tableStage, p.stages.code stage))
      = .ok ⟨t₁, true, false⟩ := by
    simp only [parseTableAttr, wordNode, Tlv.id_mk, Bool.false_eq_true, if_false, NasAclTable.setStage,
      createOnly_new (t := NasAclTable.new p) rfl, dataU32_bytesU32, p.stages.decode_code,
      except_ok_bind]
    rfl
  have second : parseTableAttr p sw ⟨t₁, true, false⟩ (wordNode (.tablePriority, priority))
      = .ok ⟨if priority ≠ t₁.priority then { t₁ with priority := priority }.markAttrDirty .tablePriority else t₁,
        true, true⟩ := by
    simp only [parseTableAttr, wordNode, Tlv.id_mk, Bool.false_eq_true, if_false,
      NasAclTable.setPriority, createOnly_new (t := t₁) rfl, dataU32_bytesU32, except_ok_bind]
    split
    · rfl
    · rfl
  rw [List.foldlM_cons, first, except_ok_bind, List.foldlM_cons, second, except_ok_bind]
  refine ⟨_, rfl, ?_⟩
  split
  · exact ⟨rfl, rfl, rfl, rfl, rfl, rfl, rfl, rfl⟩
  · rename_i zero
    exact ⟨rfl, (not_not.mp zero).symm, rfl, rfl, rfl, rfl, rfl, rfl⟩

/-- A packed table is read back as it was. -/
theorem parseTable_words (settled : t.Settled p) :
    ∃ t', parseTable p sw ((t.words p).map wordNode) = .ok t' ∧ t'.isAttrDirty .tableStage = true ∧
      t'.isAttrDirty .tableAllowedMatchFields = true ∧
      ({ t' with tableId := t.tableId, base := t'.base.committed, ndiObjIds := ∅ } :
        NasAclTable).config = t.config := by
  let npus := if t.base.followingSwitchNpus then [] else p.npuOrder.visit t.npuList
  have nodes : (t.words p).map wordNode
      = [wordNode (.tableStage, p.stages.code t.stage), wordNode (.tablePriority, t.priority)] ++
        ((p.fieldOrder.visit t.allowedFilters).map fun f =>
          wordNode (.tableAllowedMatchFields, p.matchTypes.code f)) ++
        npus.map fun npuId => wordNode (.tableNpuIdList, npuId) := by
    unfold NasAclTable.words
    simp only [List.map_append, List.map_cons, List.map_map]
    rfl
  have fields : (p.fieldOrder.visit t.allowedFilters).toFinset = t.allowedFilters := by
    ext f
    rw [List.mem_toFinset, p.fieldOrder.mem_visit]
  have some_ : p.fieldOrder.visit t.allowedFilters ≠ [] := by
    intro none_
    rw [none_] at fields
    exact settled.fields fields.symm
  obtain ⟨t₂, ran, stage, priority, staged, clean, onSwitch, following, quiet, new⟩ :=
    @parse_stagePriority p sw t.stage t.priority
  let t₃ := { t₂.markAttrDirty .tableAllowedMatchFields with
    allowedFilters := (p.fieldOrder.visit t.allowedFilters).toFinset }
  have kept := BaseObj.giveNpus_marks npus t₃.base
  refine ⟨{ t₃ with base := t₃.base.giveNpus npus }, ?_, ?_, ?_, ?_⟩
  · rw [nodes, parseTable, List.foldlM_append, List.foldlM_append, ran, except_ok_bind,
      parse_allowed _ ⟨t₂, true, true⟩ new clean some_, except_ok_bind,
      parse_tableNpus npus ⟨t₃, true, true⟩ new]
    rfl
  · exact decide_eq_true (kept.1 ▸ Finset.mem_insert_of_mem (of_decide_eq_true staged))
  · exact decide_eq_true (kept.1 ▸ Finset.mem_insert_self _ _)
  · refine NasAclTable.config_eq rfl stage fields priority ?_
    cases follows : t.base.followingSwitchNpus with
    | true =>
        have none_ : npus = [] := if_pos follows
        rw [none_]
        exact BaseObj.config_eq (onSwitch.trans (settled.onSwitch follows).symm)
          (following.trans follows.symm) settled.created.symm
    | false =>
        have own : npus = p.npuOrder.visit t.npuList := if_neg (Bool.eq_false_iff.mp follows)
        have set : npus.toFinset = t.base.npus := by
          ext npuId
          rw [List.mem_toFinset, own, p.npuOrder.mem_visit]
          rfl
        have listed : npus ≠ [] := fun none_ => settled.own follows (by rw [← set, none_]; rfl)
        rw [BaseObj.giveNpus_eq (b := t₃.base) npus quiet listed]
        exact BaseObj.config_eq set follows.symm settled.created.symm

/-- A rollback creates a table under the id it is given. -/
theorem tableCreate_runs {o : Oracle} {c : Ctx} (consistent : c.sw.store.Consistent)
    (accepts : o.Succeeds) {tmp : NasAclTable} {id : NasObjId}
    (key : c.obj.keyGetObjId .tableId = some id) (absent : c.sw.store.tables id = none)
    (small : id.toNat ≤ nasAclTableIdMax) (parsed : parseTable p c.sw c.obj.attrs = .ok tmp)
    (stage : tmp.isAttrDirty .tableStage = true)
    (fields : tmp.isAttrDirty .tableAllowedMatchFields = true) :
    ∃ c', nasAclTableCreate p o true c = (.ok (), c') ∧
      c'.sw.store = (c.sw.store.takeId .table 0 id).putTable
        { tmp with tableId := id, base := tmp.base.committed, ndiObjIds := ∅ } := by
  obtain ⟨g, sw₁, took⟩ : ∃ g sw₁, TakesId o.alloc (.new .table 0) c.sw (some id) id g sw₁ :=
    takesId_some rfl small
  obtain ⟨ids, done⟩ := accepts.tableCreate { tmp with tableId := id } true
  have committed : NasAclTable.commitCreate o true { tmp with tableId := id } = .ok
      { tmp with tableId := id, base := tmp.base.committed, ndiObjIds := ids } :=
    tableCommit_ok.mpr ⟨⟨stage, fields⟩, ids, done, rfl⟩
  have unused : ∀ id', c.obj.keyGetObjId .tableId = some id' → (c.sw.findTable id').isSome = false := by
    intro id' key'
    cases key.symm.trans key'
    rw [store_findTable_none.mpr absent]
    rfl
  have ran := nasAclTableCreate_ok.mpr ⟨unused, tmp, parsed, id, g, sw₁, key ▸ took, _, committed,
    c.prev, rfl, rfl⟩
  refine ⟨_, ran, ?_⟩
  obtain ⟨tmp', t, made⟩ := tableCreate_made consistent ran
  cases parsed.symm.trans made.parsed
  have own : t.tableId = id := made.given.unique (.inl key)
  rw [made.store, own]
  refine congrArg (fun t => Store.putTable t _) (made.made.trans ?_)
  rw [own]

variable {p' : Platform} {o o' : Oracle} {index : Nat} {trans : Transaction}

/-- The DELETE of a table comes undone: it is created again with the configuration it had. -/
theorem tableDelete_rollsBack (hosts : p.Hosts p')
    (reached : Reached (fun _ r => r.platform.switchNpus = p.switchNpus) trans.sw)
    (accepts : o'.Succeeds) (writes : trans.Writes p o index obj .table .delete) :
    RollsBack p p' o o' index trans SameConfig := by
  obtain ⟨w, rfl⟩ := hosts
  have consistent := reached_consistent reached
  obtain ⟨c₁, ran⟩ := writes.ran (by decide) rfl
  obtain ⟨t, d, gone⟩ := tableDelete_gone (c := trans.ctx obj) consistent ran
  have prev : c₁.prev = { tableKeyFill t (CpsObject.new.setKey obj.key) with
      attrs := (t.words p).map wordNode } := by
    have saved : (tableKeyFill t (CpsObject.new.setKey obj.key)).fill (fillTableAttrInfo p t)
        = .ok c₁.prev := gone.saved
    rw [fill_table] at saved
    exact (Except.ok.inj saved).symm
  rw [writes.rollsBack_iff (by decide) rfl rfl ran (by rw [prev]; rfl)]
  have stored : trans.sw.store.tables t.tableId = some t.noIds := getTable_store gone.found
  have consistent₁ : c₁.sw.store.Consistent := gone.store ▸ consistent.removeTable
  have absent : c₁.sw.store.tables t.tableId = none := by
    rw [gone.store]
    exact if_pos rfl
  have small : t.tableId.toNat ≤ nasAclTableIdMax := by
    refine consistent.tableIdsWithin.le_max t.tableId ?_
    rw [consistent.tableIds, stored]
    rfl
  have settled : t.noIds.Settled p := settled_tables reached stored
  obtain ⟨tmp, parsed, stage, fields, same⟩ := @parseTable_words p c₁.sw t
    ⟨settled.created, settled.fields, settled.onSwitch, settled.own⟩
  obtain ⟨c₂, undone, store⟩ := tableCreate_runs (p := p.walking w) (c := ⟨c₁.sw, .new .other 0, c₁.prev, .new,
    c₁.ndiCounts⟩) consistent₁ accepts (by rw [prev]; rfl) absent small (by rw [prev]; exact parsed)
    stage fields
  refine ⟨c₂, undone, ?_⟩
  unfold SameConfig
  rw [store]
  change ((c₁.sw.store.takeId _ _ _).putTable _).config = _
  rw [gone.store]
  exact config_putTable_removeTable (t := t.noIds) consistent stored gone.held gone.noEntries
    gone.noCounters same

end Tables

/-! ## Counters -/

namespace NasAclCounter

/-- The numbers a counter is packed into. -/
def words (p : Platform) (x : NasAclCounter) : List (AttrId × UInt32) :=
  (if x.enablePktCount then [(.counterTypes, p.counterTypes.code .packet)] else []) ++
    (if x.enableByteCount then [(.counterTypes, p.counterTypes.code .byte)] else []) ++
      (if x.followingTableNpus then [] else p.npuOrder.visit x.npuList).map fun npuId =>
        (.counterNpuIdList, npuId)

theorem config_eq {x x' : NasAclCounter} (table : x'.tableId = x.tableId)
    (own : x'.counterId = x.counterId) (packets : x'.enablePktCount = x.enablePktCount)
    (bytes : x'.enableByteCount = x.enableByteCount)
    (following : x'.followingTableNpus = x.followingTableNpus) (refs : x'.refs = x.refs)
    (base : x'.base.config = x.base.config) : x'.config = x.config := by
  unfold config
  rw [table, own, packets, bytes, following, refs, base]

end NasAclCounter

section Counters

variable {p : Platform} {x : NasAclCounter} {table : NasAclTable} {obj : CpsObject}

theorem fillCounterAttrInfo_eq : fillCounterAttrInfo p x = .ok (wordAdds (x.words p), true) := by
  have type (on : Bool) (code : UInt32) :
      (if on then Fill.one [.counterTypes] (Tlv.leaf (bytesU32 code)) else Fill.done)
        = .ok (wordAdds (if on then [(.counterTypes, code)] else []), true) := by
    cases on <;> rfl
  have npus : (if x.followingTableNpus then Fill.done else
      Fill.forEach (fun npuId => Fill.one [.counterNpuIdList] (Tlv.leaf (bytesU32 npuId)))
        (p.npuOrder.visit x.npuList))
      = .ok (wordAdds ((if x.followingTableNpus then [] else p.npuOrder.visit x.npuList).map
        fun npuId => (.counterNpuIdList, npuId)), true) := by
    split
    · rfl
    · exact Fill.forEach_words _ _ _
  unfold fillCounterAttrInfo NasAclCounter.words
  dsimp only
  rw [npus, type, type, Fill.andThen_words, Fill.andThen_words, List.append_assoc]

theorem fill_counter : obj.fill (fillCounterAttrInfo p x)
    = .ok { obj with attrs := obj.attrs ++ (x.words p).map wordNode } := by
  rw [fillCounterAttrInfo_eq, ← addAll_words]
  rfl

/-- The NPUs of a new counter. -/
theorem parse_counterNpus (l : List NpuId) (x : NasAclCounter) :
    (l.map fun npuId => wordNode (.counterNpuIdList, npuId)).foldlM (parseCounterAttr p) x
      = .ok (if l = [] then x else
        { x with base := x.base.giveNpus l, followingTableNpus := false }) := by
  induction l generalizing x with
  | nil => rfl
  | cons npuId rest ih =>
      have turn : parseCounterAttr p x (wordNode (.counterNpuIdList, npuId))
          = .ok { x with base := x.base.addNpu npuId true, followingTableNpus := false } := by
        simp only [parseCounterAttr, wordNode, Tlv.id_mk, NasAclCounter.addNpu, dataU32_bytesU32]
      rw [List.map_cons, List.foldlM_cons, turn, except_ok_bind, ih, if_neg (List.cons_ne_nil _ _)]
      split
      · rename_i none_
        rw [none_]
        rfl
      · rfl

/-- Its types. -/
theorem parse_types (packets bytes : Bool) (t : NasObjId) :
    ∃ x, ((if packets then [wordNode (.counterTypes, p.counterTypes.code .packet)] else []) ++
        (if bytes then [wordNode (.counterTypes, p.counterTypes.code .byte)] else [])).foldlM
          (parseCounterAttr p) (.new p t) = .ok x ∧
      x.enablePktCount = packets ∧ x.enableByteCount = bytes ∧ x.tableId = t ∧
      x.followingTableNpus = true ∧ x.refs = ∅ ∧ x.base.npusDirty = false := by
  have turn (type : CounterType) (x : NasAclCounter) :
      parseCounterAttr p x (wordNode (.counterTypes, p.counterTypes.code type))
        = .ok (x.resetTypes.enable type) := by
    simp only [parseCounterAttr, wordNode, Tlv.id_mk, NasAclCounter.setType, dataU32_bytesU32,
      p.counterTypes.decode_code]
  cases packets <;> cases bytes <;>
    simp only [if_true, Bool.false_eq_true, if_false, List.nil_append, List.cons_append,
      List.foldlM_cons, List.foldlM_nil, turn, except_ok_bind] <;>
    exact ⟨_, rfl, rfl, rfl, rfl, rfl, rfl, rfl⟩

/-- A packed counter is read back; the NPUs of one that follows its table are the table's. -/
theorem parseCounter_words (settled : x.Settled table) (unused : x.refs = ∅) :
    ∃ tmp, parseCounter p x.tableId ((x.words p).map wordNode) = .ok tmp ∧
      ({ tmp.placed table with
        counterId := x.counterId, base := (tmp.placed table).base.committed, ndiObjIds := ∅ } :
          NasAclCounter).config = x.config := by
  let npus := if x.followingTableNpus then [] else p.npuOrder.visit x.npuList
  have nodes : (x.words p).map wordNode
      = ((if x.enablePktCount then [wordNode (.counterTypes, p.counterTypes.code .packet)] else []) ++
        (if x.enableByteCount then [wordNode (.counterTypes, p.counterTypes.code .byte)] else [])) ++
          npus.map fun npuId => wordNode (.counterNpuIdList, npuId) := by
    have type (on : Bool) (w : AttrId × UInt32) :
        (if on then [w] else []).map wordNode = if on then [wordNode w] else [] := by
      cases on <;> rfl
    unfold NasAclCounter.words
    simp only [List.map_append, List.map_map, type]
    rfl
  obtain ⟨x₁, ran, packets, bytes, mine, following, refs, quiet⟩ :=
    parse_types (p := p) x.enablePktCount x.enableByteCount x.tableId
  have whole : parseCounter p x.tableId ((x.words p).map wordNode) = .ok (if npus = [] then x₁ else
      { x₁ with base := x₁.base.giveNpus npus, followingTableNpus := false }) := by
    rw [nodes, parseCounter, List.foldlM_append, ran, except_ok_bind, parse_counterNpus]
  refine ⟨_, whole, ?_⟩
  cases follows : x.followingTableNpus with
  | true =>
      have none_ : npus = [] := if_pos follows
      have placed : x₁.placed table = x₁.copyTableNpus table := if_pos following
      rw [if_pos none_, placed]
      exact NasAclCounter.config_eq mine rfl packets bytes follows.symm (refs.trans unused.symm)
        (BaseObj.config_eq (settled.follows follows).symm settled.notSwitch.symm settled.created.symm)
  | false =>
      have own : npus = p.npuOrder.visit x.npuList := if_neg (Bool.eq_false_iff.mp follows)
      have set : npus.toFinset = x.base.npus := by
        ext npuId
        rw [List.mem_toFinset, own, p.npuOrder.mem_visit]
        rfl
      have listed : npus ≠ [] := fun none_ => settled.own follows (by rw [← set, none_]; rfl)
      rw [if_neg listed, BaseObj.giveNpus_eq (b := x₁.base) npus quiet listed]
      exact NasAclCounter.config_eq mine rfl packets bytes follows.symm (refs.trans unused.symm)
        (BaseObj.config_eq set settled.notSwitch.symm settled.created.symm)

/-- A rollback creates a counter under the id it is given. -/
theorem counterCreate_runs {o : Oracle} {c : Ctx} (consistent : c.sw.store.Consistent)
    (accepts : o.Succeeds) {tmp : NasAclCounter} {id : NasObjId}
    (tableKey : c.obj.keyGetObjId .counterTableId = some table.tableId)
    (key : c.obj.keyGetObjId .counterId = some id) (known : c.sw.getTable table.tableId = .ok table)
    (absent : c.sw.store.counter table.tableId id = none) (small : id.toNat ≤ nasAclEntryIdMax)
    (parsed : parseCounter p table.tableId c.obj.attrs = .ok tmp) :
    ∃ c' y, nasAclCounterCreate p o true c = (.ok (), c') ∧
      c'.sw.store = (c.sw.store.takeId .counter table.tableId id).onContainer table.tableId
        (Container.putCounter y) ∧
      y.counter = { tmp.placed table with
        counterId := id, base := (tmp.placed table).base.committed, ndiObjIds := ∅ } := by
  obtain ⟨d, held⟩ : ∃ d, c.sw.store.containers table.tableId = some d := by
    refine Option.isSome_iff_exists.mp ?_
    rw [← consistent.sameKeys, getTable_store known]
    rfl
  obtain ⟨g, sw₁, took⟩ : ∃ g sw₁,
      TakesId o.alloc (.new .counter table.tableId) c.sw (some id) id g sw₁ :=
    takesId_some (Option.map_eq_some_iff.mpr ⟨d, held, rfl⟩) small
  obtain ⟨gen, -, stored, -⟩ := took.spec
  obtain ⟨ids, done⟩ := accepts.counterCreate (if tmp.followingTableNpus then
    NasAclCounter.copyTableNpus table { tmp with counterId := id }
    else { tmp with counterId := id }) true
  obtain ⟨x, committed⟩ : ∃ x, NasAclCounter.commitCreate o table true { tmp with counterId := id }
      = .ok x := ⟨_, counterCommit_ok.mpr ⟨ids, done, rfl⟩⟩
  have mine : x.tableId = table.tableId := by
    obtain ⟨ids', -, rfl⟩ := counterCommit_ok.mp committed
    have kept := (parseCounter_keeps parsed).1
    change NasAclCounter.tableId (if tmp.followingTableNpus then _ else _) = _
    split
    · exact kept
    · exact kept
  obtain ⟨sw₂, put⟩ : ∃ sw₂, sw₁.saveCounter x = .ok sw₂ := by
    refine modifyContainerAt_exists ?_
    rw [mine, stored, Store.takeId, Store.containers_onContainer, if_pos rfl, held]
    rfl
  have unused : ∀ id', c.obj.keyGetObjId .counterId = some id' →
      (c.sw.findCounter table.tableId id').isSome = false := by
    intro id' key'
    cases key.symm.trans key'
    rw [store_findCounter_none.mpr absent]
    rfl
  have ran := nasAclCounterCreate_ok.mpr ⟨_, tableKey, table, known, unused, tmp, parsed, id, g, sw₁,
    key ▸ took, x, committed, sw₂, put, c.prev, rfl, rfl⟩
  obtain ⟨table', tmp', y, made⟩ := counterCreate_made consistent ran
  have same : table.tableId = table'.tableId := Option.some.inj (tableKey.symm.trans made.key)
  rw [same] at known
  cases known.symm.trans made.known
  cases parsed.symm.trans made.parsed
  have own : y.counter.counterId = id := made.given.unique (.inl key)
  refine ⟨_, y, ran, ?_, ?_⟩
  · rw [made.store, own]
  · rw [← own]
    exact made.made

variable {p' : Platform} {o o' : Oracle} {index : Nat} {trans : Transaction}

/-- The DELETE of a counter comes undone: it is created again with the configuration it had. -/
theorem counterDelete_rollsBack {allowed : NasAclSwitch → Request → Prop} (hosts : p.Hosts p')
    (reached : Reached allowed trans.sw) (accepts : o'.Succeeds)
    (writes : trans.Writes p o index obj .counter .delete) :
    RollsBack p p' o o' index trans SameConfig := by
  obtain ⟨w, rfl⟩ := hosts
  have consistent := reached_consistent reached
  obtain ⟨c₁, ran⟩ := writes.ran (by decide) rfl
  obtain ⟨t, id, x, gone⟩ := counterDelete_gone (c := trans.ctx obj) ran
  have held : trans.sw.store.counter t id = some x.stored := gone.held
  have prev : c₁.prev = { counterKeyFill x (CpsObject.new.setKey obj.key) with
      attrs := (x.words p).map wordNode } := by
    have saved : (counterKeyFill x (CpsObject.new.setKey obj.key)).fill (fillCounterAttrInfo p x)
        = .ok c₁.prev := gone.saved
    rw [fill_counter] at saved
    exact (Except.ok.inj saved).symm
  rw [writes.rollsBack_iff (by decide) rfl rfl ran (by rw [prev]; rfl)]
  obtain ⟨d, container, inside⟩ := Option.bind_eq_some_iff.mp held
  obtain ⟨mine, own⟩ := (consistent.containers t d container).counterKeyed id _ inside
  have mine : x.tableId = t := mine
  have own : x.counterId = id := own
  obtain ⟨table, known, settled⟩ := settled_counters reached held
  have consistent₁ : c₁.sw.store.Consistent := gone.store ▸ consistent.removeCounter
  have tables : c₁.sw.store.tables = trans.sw.store.tables := by
    rw [gone.store]
    rfl
  obtain ⟨table', found, same⟩ : ∃ table', c₁.sw.getTable t = .ok table' ∧
      table'.noIds = table := getTable_of_store (tables ▸ known)
  have named : table'.tableId = t := tableId_of_getTable consistent₁ found
  have npus : table'.noIds.npuList = table.npuList := congrArg NasAclTable.npuList same
  have absent : c₁.sw.store.counter t id = none := by
    rw [gone.store, Store.counter_onContainer, if_pos rfl]
    change (trans.sw.store.containers t).bind _ = _
    rw [container]
    exact if_pos rfl
  have small : id.toNat ≤ nasAclEntryIdMax := by
    refine (consistent.containers t d container).counterIdsWithin.le_max id ?_
    rw [(consistent.containers t d container).counterIds, inside]
    rfl
  obtain ⟨tmp, parsed, config⟩ := @parseCounter_words p x table'
    ⟨settled.created, settled.notSwitch, fun follows => (settled.follows follows).trans npus.symm,
      settled.own⟩ gone.unused
  obtain ⟨c₂, y, undone, store, made⟩ := counterCreate_runs (p := p.walking w) (c := ⟨c₁.sw, .new .other 0,
    c₁.prev, .new, c₁.ndiCounts⟩) consistent₁ accepts (by rw [prev, named, ← mine]; rfl)
    (by rw [prev, ← own]; rfl) (named ▸ found) (named ▸ absent) small
    (by rw [prev, named, ← mine]; exact parsed)
  refine ⟨c₂, undone, ?_⟩
  rw [← own] at made
  have back : y.config = x.stored.config :=
    congrArg (fun y => StoredCounter.mk y ∅) ((congrArg NasAclCounter.config made).trans config)
  have restored := config_putCounter_eraseCounter (x := x.stored) (t := t) consistent
    (by rw [← gone.held]; exact congrArg _ own) back
  have named' : y.counter.counterId = id := (congrArg NasAclCounter.counterId made).trans own
  unfold SameConfig
  rw [store]
  change ((c₁.sw.store.takeId _ _ _).onContainer _ _).config = _
  rw [gone.store, named]
  rw [named'] at restored
  rw [← own] at restored ⊢
  exact restored

end Counters

/-! ## Both -/

/-- Whatever table or counter was deleted, its rollback brings it back as it was configured. -/
theorem delete_rollsBack {p p' : Platform} {o o' : Oracle} {index : Nat} {trans : Transaction}
    {obj : CpsObject} {subcat : ObjType} (plain : subcat = .table ∨ subcat = .counter)
    (hosts : p.Hosts p') (reached : Reached (fun _ r => r.platform.switchNpus = p.switchNpus) trans.sw)
    (accepts : o'.Succeeds) (writes : trans.Writes p o index obj subcat .delete) :
    RollsBack p p' o o' index trans SameConfig := by
  obtain rfl | rfl := plain
  · exact tableDelete_rollsBack hosts reached accepts writes
  · exact counterDelete_rollsBack hosts reached accepts writes

/-! ### On the bench -/

/-- Table 1 is deleted and comes back. -/
theorem deleted_table_rolled_back :
    RollsBack Bench.platform Bench.platform Bench.oracle Bench.oracle 0
      (Bench.change [Bench.createTable [.dscp, .inPort]] (.on .delete .table [(.tableId, 1)] []))
      SameConfig := by
  refine delete_rollsBack (.inl rfl) (Platform.hosts_self _) (Bench.change_reached fun r mem _ => ?_)
    Bench.oracle_succeeds ⟨rfl, rfl, rfl, rfl, by decide +kernel⟩
  rw [List.mem_singleton.mp mem]
  rfl

end SonicNasAcl
