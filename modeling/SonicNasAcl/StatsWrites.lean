/-
# StatsWrites -- a stats SET is checked while it writes

`nas_acl_stats_set` visits the NPUs of its request and writes each count where it is,
and what it checks it checks one write at a time.  What it has written when it stops is
the run of writes before the first one that is refused:

* `nasAclStatsSet_writes` says so, for any request and any outcome of the NDI;
* `statsSet_atomic_iff`: a request that has to be rejected writes nothing exactly when
  the first of its writes is refused already, and one that is accepted writes
  everything;
* `disabled_byte_count` is a request whose packet count is written before its byte
  count is found to be disabled.
-/
import SonicNasAcl.Bench
import Mathlib.Data.List.TakeWhile

namespace SonicNasAcl

set_option autoImplicit false

open Lib

/-! ## The writes of a request -/

/-- The counts of a request, in the order they are written. -/
def StatsAttrs.counts (st : StatsAttrs) : List (CounterType × UInt64) :=
  (st.pktCount.map (CounterType.packet, ·)).toList ++ (st.byteCount.map (CounterType.byte, ·)).toList

/-- The NPUs of the loop: those listed, or those of the counter. -/
def StatsAttrs.loopNpu (counter : NasAclCounter) (st : StatsAttrs) : NpuSet :=
  if st.npuList = ∅ then counter.npuList else st.npuList

/-- One write of the loop. -/
structure StatsWrite where
  npuId : NpuId
  cType : CounterType
  count : UInt64

namespace NasAclCounter

variable {p : Platform} {o : Oracle} {counter : NasAclCounter} {st : StatsAttrs}

def Enabled (counter : NasAclCounter) : CounterType → Prop
  | .packet => counter.enablePktCount = true
  | .byte => counter.enableByteCount = true

instance (counter : NasAclCounter) (cType : CounterType) : Decidable (counter.Enabled cType) :=
  match cType with
  | .packet => inferInstanceAs (Decidable (_ = true))
  | .byte => inferInstanceAs (Decidable (_ = true))

/-- The writes a request asks for, in the order of the loop. -/
def writes (p : Platform) (counter : NasAclCounter) (st : StatsAttrs) : List StatsWrite :=
  (p.npuOrder.visit (st.loopNpu counter)).flatMap fun npuId =>
    st.counts.map fun count => ⟨npuId, count.1, count.2⟩

/-- What a write leaves at the NDI, unless it is refused. -/
def written (o : Oracle) (counter : NasAclCounter) (w : StatsWrite) :
    Option (CounterType × NpuId × NdiObjId × UInt64) :=
  if counter.Enabled w.cType then
    (counter.ndiObjIds.lookup w.npuId).bind fun id =>
      match o.counterSet w.cType w.npuId id w.count with
      | .ok () => some (w.cType, w.npuId, id, w.count)
      | .error _ => none
  else none

/-- A write is refused when its count is not enabled, its NPU does not hold the counter, or
the NDI refuses it. -/
def Refused (o : Oracle) (counter : NasAclCounter) (w : StatsWrite) : Prop :=
  ¬ counter.Enabled w.cType ∨ w.npuId ∉ counter.ndiObjIds ∨
    ∃ id rc, counter.ndiObjIds.lookup w.npuId = some id ∧
      o.counterSet w.cType w.npuId id w.count = .error rc

theorem validateEntryCounter_eq (cType : CounterType) (npuId : NpuId) :
    counter.validateEntryCounter cType npuId
      = if counter.Enabled cType then counter.ndiObjIds.lookup npuId else none := by
  unfold validateEntryCounter Enabled
  cases cType <;> rfl

/-- What is not refused is written. -/
theorem written_eq_none {w : StatsWrite} : counter.written o w = none ↔ counter.Refused o w := by
  unfold written Refused
  by_cases enabled : counter.Enabled w.cType
  · rw [if_pos enabled, or_iff_right (not_not.mpr enabled)]
    cases held : counter.ndiObjIds.lookup w.npuId with
    | none => exact iff_of_true rfl (.inl (Finmap.lookup_eq_none.mp held))
    | some id =>
        have there : w.npuId ∈ counter.ndiObjIds := Finmap.mem_iff.mpr ⟨id, held⟩
        rw [Option.bind_some, or_iff_right (not_not.mpr there)]
        cases reply : o.counterSet w.cType w.npuId id w.count with
        | error rc => exact iff_of_true rfl ⟨id, rc, rfl, reply⟩
        | ok _ =>
            refine iff_of_false (Option.some_ne_none _) ?_
            rintro ⟨id', rc, same, refused⟩
            cases same
            cases reply.symm.trans refused
  · exact iff_of_true (if_neg enabled) (.inl enabled)

theorem mem_writes {w : StatsWrite} :
    w ∈ counter.writes p st ↔ w.npuId ∈ st.loopNpu counter ∧ (w.cType, w.count) ∈ st.counts := by
  unfold writes
  rw [List.mem_flatMap]
  simp only [List.mem_map, p.npuOrder.mem_visit]
  constructor
  · rintro ⟨npuId, looped, count, asked, rfl⟩
    exact ⟨looped, asked⟩
  · rintro ⟨looped, asked⟩
    exact ⟨_, looped, _, asked, rfl⟩

/-- The writes of one NPU are a loop over the counts. -/
theorem setCountsNdi_eq (npuId : NpuId) :
    setCountsNdi o counter st npuId
      = (st.counts.map fun count => (⟨npuId, count.1, count.2⟩ : StatsWrite)).forM
          fun w => counter.setCountNdi o w.cType w.npuId w.count := by
  have last : ∀ cType count, counter.setCountNdi o cType npuId count
      = (counter.setCountNdi o cType npuId count >>= fun _ => pure ()) := by
    intro cType count
    exact (bind_pure _).symm
  unfold setCountsNdi StatsAttrs.counts setCountIfPresent
  cases st.pktCount with
  | none =>
      cases st.byteCount with
      | none => rfl
      | some bytes => exact last .byte bytes
  | some packets =>
      cases st.byteCount with
      | none => rfl
      | some bytes =>
          exact congrArg (counter.setCountNdi o .packet npuId packets >>= ·)
            (funext fun _ => last .byte bytes)

/-- One write puts its record in the log, or is refused and writes nothing. -/
theorem setCountNdi_written (w : StatsWrite) (c : Ctx) :
    (∃ record c', counter.written o w = some record ∧
        counter.setCountNdi o w.cType w.npuId w.count c = (.ok (), c') ∧
        c'.ndiCounts = c.ndiCounts ++ [record]) ∨
      counter.written o w = none ∧
        ∃ e, counter.setCountNdi o w.cType w.npuId w.count c = (.error e, c) := by
  unfold written setCountNdi
  rw [validateEntryCounter_eq]
  by_cases enabled : counter.Enabled w.cType
  · rw [if_pos enabled, if_pos enabled]
    cases counter.ndiObjIds.lookup w.npuId with
    | none => exact .inr ⟨rfl, _, Eff.throw_apply _ c⟩
    | some id =>
        rw [Option.bind_some]
        dsimp only
        cases o.counterSet w.cType w.npuId id w.count with
        | error rc => exact .inr ⟨rfl, _, Eff.throw_apply _ c⟩
        | ok _ => exact .inl ⟨_, _, rfl, Eff.write_apply _ c, rfl⟩
  · rw [if_neg enabled, if_neg enabled]
    exact .inr ⟨rfl, _, Eff.throw_apply _ c⟩

/-- The loop writes up to the first write that is refused. -/
theorem writes_run (c : Ctx) :
    ((p.npuOrder.visit (st.loopNpu counter)).forM (setCountsNdi o counter st) c).2.ndiCounts
        = c.ndiCounts ++ ((counter.writes p st).takeWhile fun w =>
            (counter.written o w).isSome).filterMap (counter.written o) ∧
      (((p.npuOrder.visit (st.loopNpu counter)).forM (setCountsNdi o counter st) c).1 = .ok () ↔
        ∀ w ∈ counter.writes p st, (counter.written o w).isSome) := by
  have flat : (p.npuOrder.visit (st.loopNpu counter)).forM (setCountsNdi o counter st)
      = (counter.writes p st).forM fun w => counter.setCountNdi o w.cType w.npuId w.count := by
    rw [writes, Eff.forM_flatMap]
    exact congrArg _ (funext setCountsNdi_eq)
  rw [flat]
  exact Eff.forM_log setCountNdi_written _ c

end NasAclCounter

/-! ## The handler -/

section Handler

variable {p : Platform} {o : Oracle} {c : Ctx} {tableId counterId : NasObjId} {st : StatsAttrs}
  {counter : NasAclCounter}

/-- With its keys, a count and a counter, the handler is its loop. -/
theorem nasAclStatsSet_eq (table : c.obj.keyGetObjId .statsTableId = some tableId)
    (key : c.obj.keyGetObjId .statsCounterId = some counterId)
    (attrs : extractStatsAttrs c.obj.attrs = some st)
    (stored : c.sw.getCounter tableId counterId = .ok counter) :
    nasAclStatsSet p o c
      = (p.npuOrder.visit (st.loopNpu counter)).forM (setCountsNdi o counter st) c := by
  unfold nasAclStatsSet Handler.mandatoryKey
  rw [Eff.query_bind_of_ok (by rw [table]), Eff.query_bind_of_ok (by rw [key]),
    Eff.query_bind_of_ok (by rw [attrs])]
  have found : (fun c : Ctx => c.sw.getCounter tableId counterId) c = .ok counter := stored
  exact Eff.query_bind_of_ok found

/-- A request carries a count. -/
theorem counts_ne_nil {attrs : List CpsAttr} (extracted : extractStatsAttrs attrs = some st) :
    st.counts ≠ [] := by
  unfold extractStatsAttrs at extracted
  dsimp only at extracted
  split at extracted
  · cases extracted
  · rename_i carried
    cases extracted
    intro empty
    obtain ⟨noPackets, noBytes⟩ := List.append_eq_nil_iff.mp empty
    rw [Option.toList_eq_nil_iff, Option.map_eq_none_iff] at noPackets noBytes
    exact carried ⟨noPackets, noBytes⟩

/-- A count that is not enabled, or a listed NPU without the counter. -/
def MustReject (counter : NasAclCounter) (st : StatsAttrs) : Prop :=
  (∃ count ∈ st.counts, ¬ counter.Enabled count.1) ∨ ∃ npuId ∈ st.npuList, npuId ∉ counter.ndiObjIds

instance (counter : NasAclCounter) (st : StatsAttrs) : Decidable (MustReject counter st) :=
  inferInstanceAs (Decidable (_ ∨ _))

/-- A request that has to be rejected writes nothing and, where the loop has an NPU at all,
returns an error; one that is accepted, by the NDI as well, writes everything. -/
structure StatsSetAtomic (p : Platform) (o : Oracle) (counter : NasAclCounter) (st : StatsAttrs)
    (c : Ctx) : Prop where
  rejected : MustReject counter st → (nasAclStatsSet p o c).2.ndiCounts = c.ndiCounts
  refused : MustReject counter st → st.loopNpu counter ≠ ∅ → (nasAclStatsSet p o c).1 ≠ .ok ()
  accepted : (∀ cType npuId id count, o.counterSet cType npuId id count = .ok ()) →
    (nasAclStatsSet p o c).1 = .ok () →
    ∃ written, (nasAclStatsSet p o c).2.ndiCounts = c.ndiCounts ++ written ∧
      ∀ npuId ∈ st.loopNpu counter, ∀ count ∈ st.counts, ∃ id,
        counter.ndiObjIds.lookup npuId = some id ∧ (count.1, npuId, id, count.2) ∈ written

/-- The first write of the loop, if it has one, is refused. -/
def FirstRefused (p : Platform) (o : Oracle) (counter : NasAclCounter) (st : StatsAttrs) : Prop :=
  ∀ w, (counter.writes p st).head? = some w → counter.Refused o w

/-- Nothing is written exactly when the first write is refused. -/
theorem nothingWritten_iff :
    ((counter.writes p st).takeWhile fun w => (counter.written o w).isSome).filterMap
      (counter.written o) = [] ↔ FirstRefused p o counter st := by
  unfold FirstRefused
  cases counter.writes p st with
  | nil => exact iff_of_true rfl fun w absent => by cases absent
  | cons w rest =>
      rw [List.takeWhile_cons, List.head?_cons]
      cases here : counter.written o w with
      | none =>
          refine iff_of_true rfl fun w' same => ?_
          cases same
          exact NasAclCounter.written_eq_none.mp here
      | some record =>
          rw [Option.isSome_some, if_pos rfl, List.filterMap_cons_some here]
          refine iff_of_false (List.cons_ne_nil _ _) fun refused => ?_
          cases here.symm.trans (NasAclCounter.written_eq_none.mpr (refused w rfl))

/-- The handler has written what comes before the first write that is refused, and
returns when none is. -/
theorem nasAclStatsSet_writes (table : c.obj.keyGetObjId .statsTableId = some tableId)
    (key : c.obj.keyGetObjId .statsCounterId = some counterId)
    (attrs : extractStatsAttrs c.obj.attrs = some st)
    (stored : c.sw.getCounter tableId counterId = .ok counter) :
    (nasAclStatsSet p o c).2.ndiCounts
        = c.ndiCounts ++ ((counter.writes p st).takeWhile fun w =>
            (counter.written o w).isSome).filterMap (counter.written o) ∧
      ((nasAclStatsSet p o c).1 = .ok () ↔
        ∀ w ∈ counter.writes p st, (counter.written o w).isSome) := by
  rw [nasAclStatsSet_eq table key attrs stored]
  exact NasAclCounter.writes_run c

/-- A write that is accepted leaves the count at the NDI id of its NPU. -/
theorem written_isSome {w : StatsWrite} (accepted : (counter.written o w).isSome) :
    ∃ id, counter.Enabled w.cType ∧ counter.ndiObjIds.lookup w.npuId = some id ∧
      counter.written o w = some (w.cType, w.npuId, id, w.count) := by
  obtain ⟨record, left⟩ := Option.isSome_iff_exists.mp accepted
  have written := left
  unfold NasAclCounter.written at written
  obtain ⟨enabled, written⟩ := Option.ite_none_right_eq_some.mp written
  obtain ⟨id, held, written⟩ := Option.bind_eq_some_iff.mp written
  refine ⟨id, enabled, held, ?_⟩
  rw [left]
  split at written
  · exact written.symm
  · cases written

/-- When the handler returns, every count is written on every NPU of the loop. -/
theorem accepted_writes (table : c.obj.keyGetObjId .statsTableId = some tableId)
    (key : c.obj.keyGetObjId .statsCounterId = some counterId)
    (attrs : extractStatsAttrs c.obj.attrs = some st)
    (stored : c.sw.getCounter tableId counterId = .ok counter)
    (returned : (nasAclStatsSet p o c).1 = .ok ()) :
    ∃ written, (nasAclStatsSet p o c).2.ndiCounts = c.ndiCounts ++ written ∧
      ∀ npuId ∈ st.loopNpu counter, ∀ count ∈ st.counts, ∃ id,
        counter.ndiObjIds.lookup npuId = some id ∧ (count.1, npuId, id, count.2) ∈ written := by
  obtain ⟨logged, ends⟩ := nasAclStatsSet_writes (p := p) (o := o) table key attrs stored
  have all := ends.mp returned
  rw [List.takeWhile_eq_self_iff.mpr all] at logged
  refine ⟨_, logged, fun npuId looped count asked => ?_⟩
  have mem : (⟨npuId, count.1, count.2⟩ : StatsWrite) ∈ counter.writes p st :=
    NasAclCounter.mem_writes.mpr ⟨looped, asked⟩
  obtain ⟨id, -, found, left⟩ := written_isSome (all _ mem)
  exact ⟨id, found, List.mem_filterMap.mpr ⟨_, mem, left⟩⟩

/-- A request that has to be rejected is, if its loop has an NPU at all. -/
theorem mustReject_stops (table : c.obj.keyGetObjId .statsTableId = some tableId)
    (key : c.obj.keyGetObjId .statsCounterId = some counterId)
    (attrs : extractStatsAttrs c.obj.attrs = some st)
    (stored : c.sw.getCounter tableId counterId = .ok counter) (some_npu : st.loopNpu counter ≠ ∅)
    (bad : MustReject counter st) : (nasAclStatsSet p o c).1 ≠ .ok () := by
  intro returned
  have all := (nasAclStatsSet_writes table key attrs stored).2.mp returned
  obtain ⟨some_count, asked⟩ := List.exists_mem_of_ne_nil _ (counts_ne_nil attrs)
  rcases bad with ⟨count, mem, disabled⟩ | ⟨npuId, listed, absent⟩
  · obtain ⟨npuId, looped⟩ := Finset.nonempty_iff_ne_empty.mpr some_npu
    have accepted := all ⟨npuId, count.1, count.2⟩ (NasAclCounter.mem_writes.mpr ⟨looped, mem⟩)
    obtain ⟨-, enabled, -⟩ := written_isSome accepted
    exact disabled enabled
  · have looped : npuId ∈ st.loopNpu counter := by
      unfold StatsAttrs.loopNpu
      rwa [if_neg (Finset.ne_empty_of_mem listed)]
    have accepted := all ⟨npuId, some_count.1, some_count.2⟩
      (NasAclCounter.mem_writes.mpr ⟨looped, asked⟩)
    obtain ⟨id, -, held, -⟩ := written_isSome accepted
    exact absent (Finmap.mem_iff.mpr ⟨id, held⟩)

/-- A stats SET is atomic exactly when it need not be rejected, or the first of its
writes is refused. -/
theorem statsSet_atomic_iff (table : c.obj.keyGetObjId .statsTableId = some tableId)
    (key : c.obj.keyGetObjId .statsCounterId = some counterId)
    (attrs : extractStatsAttrs c.obj.attrs = some st)
    (stored : c.sw.getCounter tableId counterId = .ok counter) :
    StatsSetAtomic p o counter st c ↔ (MustReject counter st → FirstRefused p o counter st) := by
  obtain ⟨logged, -⟩ := nasAclStatsSet_writes (p := p) (o := o) table key attrs stored
  have nothing : (nasAclStatsSet p o c).2.ndiCounts = c.ndiCounts ↔ FirstRefused p o counter st := by
    rw [logged, List.append_right_eq_self]
    exact nothingWritten_iff
  constructor
  · intro atomic bad
    exact nothing.mp (atomic.rejected bad)
  · intro condition
    exact ⟨fun bad => nothing.mpr (condition bad),
      fun bad visits => mustReject_stops table key attrs stored visits bad,
      fun _ returned => accepted_writes table key attrs stored returned⟩

end Handler

/-! ### On the bench -/

namespace Bench

/-- A SET of both counts of counter 4, or of its packet count alone. -/
def statsRequest (counts : List CpsAttr) : Ctx where
  sw := after [createTable [.inPort], createCounter 4]
  idg := .new .counter 1
  obj := (Request.on .set .stats [(.statsTableId, 1), (.statsCounterId, 4)] counts).obj
  prev := (Request.on .set .stats [] []).obj
  ndiCounts := []

def packetCount : CpsAttr := u64 .statsMatchedPackets 17

def byteCount : CpsAttr := u64 .statsMatchedBytes 1500

/-- Counter 4, which counts packets only. -/
def counter : NasAclCounter := ((statsRequest []).sw.getCounter 1 4).toOption.getD (.new platform 1)

theorem counter_stored (counts : List CpsAttr) :
    (statsRequest counts).sw.getCounter 1 4 = .ok counter := by
  have found : ((statsRequest []).sw.getCounter 1 4).toOption.isSome = true := by decide +kernel
  have same : (statsRequest counts).sw.getCounter 1 4 = (statsRequest []).sw.getCounter 1 4 := rfl
  rw [same, counter]
  cases here : (statsRequest []).sw.getCounter 1 4 with
  | error e =>
      rw [here] at found
      cases found
  | ok counter => rfl

end Bench

/-- The packet count alone is written on both NPUs, and the request is atomic. -/
theorem packetCount_atomic :
    StatsSetAtomic Bench.platform Bench.oracle Bench.counter ⟨∅, some 17, none⟩
      (Bench.statsRequest [Bench.packetCount]) := by
  refine (statsSet_atomic_iff rfl rfl (by decide +kernel) (Bench.counter_stored _)).mpr fun bad => ?_
  exact absurd bad (by decide +kernel)

/-- The packet count is written before the byte count is found to be disabled. -/
theorem disabled_byte_count :
    ¬ ∀ (p : Platform) (o : Oracle) (c : Ctx) (tableId counterId : NasObjId) (st : StatsAttrs)
      (counter : NasAclCounter), c.obj.keyGetObjId .statsTableId = some tableId →
      c.obj.keyGetObjId .statsCounterId = some counterId →
      extractStatsAttrs c.obj.attrs = some st → c.sw.getCounter tableId counterId = .ok counter →
      StatsSetAtomic p o counter st c := by
  intro claim
  have atomic := claim Bench.platform Bench.oracle
    (Bench.statsRequest [Bench.packetCount, Bench.byteCount]) 1 4 ⟨∅, some 17, some 1500⟩
    Bench.counter rfl rfl (by decide +kernel) (Bench.counter_stored _)
  have nothing := atomic.rejected (by decide +kernel)
  have both : (nasAclStatsSet Bench.platform Bench.oracle
      (Bench.statsRequest [Bench.packetCount, Bench.byteCount])).2.ndiCounts
      = [(.packet, 0, 9, 17)] := by
    decide +kernel
  cases both.symm.trans nothing

end SonicNasAcl
