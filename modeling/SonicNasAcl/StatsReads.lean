/-
# StatsReads -- what a GET of stats adds up

`nas_acl_stats_info_get` asks every NPU of its loop for a count and returns the sum, in 64
bits.  A count that cannot be read is left out of it.  So the sum is not the count that a SET
has written: a SET writes its count on every NPU of its own loop, and the GET returns it as
many times as its loop has NPUs.

* `addCounts_total`: the sum, for any counter and any answers of the NDI;
* `stats_read_back`: the sum after a SET, if the NDI remembers what is written.
-/
import SonicNasAcl.Listings
import SonicNasAcl.StatsWrites
import Mathlib.Data.Finset.Card

namespace SonicNasAcl

set_option autoImplicit false

open Lib

/-! ## Sums -/

theorem Traversal.length_visit {κ : Type} (order : Traversal κ) (s : Finset κ) :
    (order.visit s).length = s.card := congrArg Multiset.card (order.coe_visit s)

def StatsTotals.of (totals : StatsTotals) : CounterType → UInt64
  | .packet => totals.pktCount
  | .byte => totals.byteCount

/-- What an NPU adds to a sum. -/
def NasAclCounter.readCount (rd : Reader) (c : NasAclCounter) (cType : CounterType) (npuId : NpuId) :
    UInt64 :=
  (c.getCountNdi rd cType npuId).toOption.getD 0

section Sums

variable {rd : Reader} {c : NasAclCounter} {st : StatsAttrs} {cType : CounterType}

theorem addCounts_of (asked : st.asks cType = true) (totals : StatsTotals) (npuId : NpuId) :
    (addCounts rd c st totals npuId).of cType = totals.of cType + c.readCount rd cType npuId := by
  have step (total : UInt64) :
      addCount rd c st cType npuId total = total + c.readCount rd cType npuId := by
    unfold addCount NasAclCounter.readCount
    rw [if_pos asked]
    cases c.getCountNdi rd cType npuId with
    | ok count => rfl
    | error errCode => exact (UInt64.add_zero total).symm
  cases cType with
  | packet => exact step totals.pktCount
  | byte => exact step totals.byteCount

/-- The sum of a loop, modulo 2^64. -/
theorem addCounts_total (asked : st.asks cType = true) (l : List NpuId) (totals : StatsTotals) :
    ((l.foldl (addCounts rd c st) totals).of cType).toNat
      = ((totals.of cType).toNat + (l.map fun npuId => (c.readCount rd cType npuId).toNat).sum)
        % 2 ^ 64 := by
  induction l generalizing totals with
  | nil =>
      rw [List.foldl_nil, List.map_nil, List.sum_nil, Nat.add_zero]
      exact (Nat.mod_eq_of_lt (UInt64.toNat_lt _)).symm
  | cons npuId rest ih =>
      rw [List.foldl_cons, ih, addCounts_of asked, UInt64.toNat_add, Nat.mod_add_mod, List.map_cons,
        List.sum_cons, Nat.add_assoc]

/-- With one count on all NPUs, a multiple of it. -/
theorem addCounts_same (asked : st.asks cType = true) {l : List NpuId} {count : UInt64}
    (same : ∀ npuId ∈ l, c.readCount rd cType npuId = count) :
    ((l.foldl (addCounts rd c st) {}).of cType).toNat = l.length * count.toNat % 2 ^ 64 := by
  have each : (l.map fun npuId => (c.readCount rd cType npuId).toNat)
      = l.map fun _ => count.toNat := List.map_congr_left fun npuId mem => by rw [same npuId mem]
  have zero : (StatsTotals.of {} cType).toNat = 0 := by
    cases cType with
    | packet => rfl
    | byte => rfl
  rw [addCounts_total asked, each, zero, Nat.zero_add, List.map_const', List.sum_replicate_nat]

end Sums

/-! ## The object -/

/-- The attribute of a sum. -/
def CounterType.statsAttr : CounterType → AttrId
  | .packet => .statsMatchedPackets
  | .byte => .statsMatchedBytes

/-- A sum in an object. -/
def CpsObject.total (obj : CpsObject) (cType : CounterType) : Option UInt64 :=
  (Tlv.find cType.statsAttr obj.attrs).map CpsAttr.dataU64

/-- An attribute at the top of an object. -/
def topNode (x : AttrId × Tlv.Payload AttrId) : CpsAttr := .mk x.1 x.2.1 x.2.2

/-- The attributes of a stats object. -/
def statsNodes (npus : List NpuId) (st : StatsAttrs) (totals : StatsTotals) :
    List (AttrId × Tlv.Payload AttrId) :=
  npus.map (fun npuId => (.statsNpuIdList, Tlv.leaf (bytesU32 npuId))) ++
    ((if st.asks .packet then [(.statsMatchedPackets, Tlv.leaf (bytesU64 totals.pktCount))] else []) ++
      if st.asks .byte then [(.statsMatchedBytes, Tlv.leaf (bytesU64 totals.byteCount))] else [])

section Object

variable {p : Platform} {rd : Reader} {filter : CpsObject} {c : NasAclCounter} {cType : CounterType}

/-- With the sums in the order of their types. -/
theorem fillStats_eq {st : StatsAttrs} (extracted : extractStatsFilter filter.attrs = st) :
    fillStats p rd filter c
      = Fill.tops (statsNodes (p.npuOrder.visit (st.loopNpu c)) st
          ((p.npuOrder.visit (st.loopNpu c)).foldl (addCounts rd c st) {})) := by
  subst extracted
  have sum {asks : Bool} {a : AttrId} {total : UInt64} :
      (if asks then Fill.one [a] (Tlv.leaf (bytesU64 total)) else Fill.done)
        = Fill.tops (if asks then [(a, Tlv.leaf (bytesU64 total))] else []) := by
    cases asks with
    | true => rfl
    | false => rfl
  unfold statsNodes
  rw [← Fill.andThen_tops, ← Fill.andThen_tops, ← Fill.forEach_tops, ← sum, ← sum]
  rfl

/-- The NPUs that are listed hide nothing. -/
theorem find_afterNpus {a : AttrId} (other : AttrId.statsNpuIdList ≠ a) (npus : List NpuId)
    (rest : List (AttrId × Tlv.Payload AttrId)) :
    Tlv.find a ((npus.map (fun npuId => (AttrId.statsNpuIdList, Tlv.leaf (bytesU32 npuId))) ++
        rest).map topNode) = Tlv.find a (rest.map topNode) := by
  induction npus with
  | nil => rfl
  | cons npuId npus ih =>
      have skip : ¬ decide (Tlv.id (topNode (AttrId.statsNpuIdList, Tlv.leaf (bytesU32 npuId))) = a)
          = true := fun same => other (of_decide_eq_true same)
      exact (List.find?_cons_of_neg (p := fun t : CpsAttr => decide (t.id = a)) skip).trans ih

/-- The object of a counter's stats has the sums that are asked for. -/
theorem counterObject_total {st : StatsAttrs} (extracted : extractStatsFilter filter.attrs = st)
    (asked : st.asks cType = true) :
    (counterObject p rd filter c .stats).total cType
      = some (((p.npuOrder.visit (st.loopNpu c)).foldl (addCounts rd c st) {}).of cType) := by
  generalize found : (p.npuOrder.visit (st.loopNpu c)).foldl (addCounts rd c st) {} = totals
  have attrs : (counterObject p rd filter c .stats).attrs
      = (statsNodes (p.npuOrder.visit (st.loopNpu c)) st totals).map topNode := by
    change Tlv.addAll (fillStats p rd filter c).adds [] = _
    rw [fillStats_eq extracted, found]
    exact Tlv.addAll_tops _ []
  unfold CpsObject.total
  rw [attrs]
  unfold statsNodes
  cases cType with
  | packet =>
      have other : AttrId.statsNpuIdList ≠ .statsMatchedPackets := by decide
      rw [CounterType.statsAttr, find_afterNpus other, if_pos asked]
      exact congrArg some (dataU64_bytesU64 _ _ _)
  | byte =>
      have other : AttrId.statsNpuIdList ≠ .statsMatchedBytes := by decide
      rw [CounterType.statsAttr, find_afterNpus other, if_pos asked]
      cases st.asks .packet with
      | true => exact congrArg some (dataU64_bytesU64 _ _ _)
      | false => exact congrArg some (dataU64_bytesU64 _ _ _)

end Object

/-! ## After a SET -/

/-- The count that was written last. -/
def lastCount (log : List (CounterType × NpuId × NdiObjId × UInt64)) (cType : CounterType)
    (npuId : NpuId) (id : NdiObjId) : Option UInt64 :=
  (log.reverse.find? fun w => w.1 = cType ∧ w.2.1 = npuId ∧ w.2.2.1 = id).map fun w => w.2.2.2

/-- What was written last is read. -/
def Reader.Remembers (rd : Reader) (log : List (CounterType × NpuId × NdiObjId × UInt64)) : Prop :=
  ∀ cType npuId id count, lastCount log cType npuId id = some count →
    rd.counterGet cType npuId id = .ok count

/-- A SET of the stats of a counter that succeeds. -/
structure SetsStats (p : Platform) (o : Oracle) (c c' : Ctx) (tableId counterId : NasObjId)
    (st : StatsAttrs) (counter : NasAclCounter) : Prop where
  table : c.obj.keyGetObjId .statsTableId = some tableId
  key : c.obj.keyGetObjId .statsCounterId = some counterId
  attrs : extractStatsAttrs c.obj.attrs = some st
  stored : c.sw.getCounter tableId counterId = .ok counter
  ran : nasAclStatsSet p o c = (.ok (), c')

/-- A GET of the stats of a counter. -/
structure GetsStats (filters : List CpsObject) (index : Nat) (filter : CpsObject)
    (tableId counterId : NasObjId) (st : StatsAttrs) : Prop where
  listed : filters[index]? = some filter
  cat : filter.key.cat = .baseAcl
  ofStats : filter.key.subcat = .stats
  table : filter.keyGetObjId .statsTableId = some tableId
  key : filter.keyGetObjId .statsCounterId = some counterId
  attrs : extractStatsFilter filter.attrs = st

section ReadBack

variable {p : Platform} {o : Oracle} {rd : Reader} {c c' : Ctx} {tableId counterId : NasObjId}
  {st st' : StatsAttrs} {counter : NasAclCounter} {filters : List CpsObject} {index : Nat}
  {filter : CpsObject}

/-- One count of each type. -/
theorem counts_unique {cType : CounterType} {a b : UInt64} (first : (cType, a) ∈ st.counts)
    (second : (cType, b) ∈ st.counts) : a = b := by
  unfold StatsAttrs.counts at first second
  simp only [List.mem_append, Option.mem_toList, Option.map_eq_some_iff, Prod.mk.injEq] at first second
  obtain ⟨a', held, rfl, rfl⟩ | ⟨a', held, rfl, rfl⟩ := first
  · obtain ⟨b', held', -, rfl⟩ | ⟨b', -, other, -⟩ := second
    · exact Option.some.inj (held.symm.trans held')
    · cases other
  · obtain ⟨b', -, other, -⟩ | ⟨b', held', -, rfl⟩ := second
    · cases other
    · exact Option.some.inj (held.symm.trans held')

/-- The last count is the one that all later writes agree on. -/
theorem lastCount_append {old new : List (CounterType × NpuId × NdiObjId × UInt64)}
    {cType : CounterType} {npuId : NpuId} {id : NdiObjId} {count : UInt64}
    (here : (cType, npuId, id, count) ∈ new)
    (agree : ∀ w ∈ new, w.1 = cType → w.2.2.2 = count) :
    lastCount (old ++ new) cType npuId id = some count := by
  unfold lastCount
  rw [List.reverse_append, List.find?_append]
  have there : (new.reverse.find? fun w => w.1 = cType ∧ w.2.1 = npuId ∧ w.2.2.1 = id).isSome :=
    List.find?_isSome.mpr ⟨_, List.mem_reverse.mpr here, decide_eq_true ⟨rfl, rfl, rfl⟩⟩
  obtain ⟨w, found⟩ := Option.isSome_iff_exists.mp there
  have matching : decide (w.1 = cType ∧ w.2.1 = npuId ∧ w.2.2.1 = id) = true :=
    List.find?_some (p := fun w : CounterType × NpuId × NdiObjId × UInt64 =>
      decide (w.1 = cType ∧ w.2.1 = npuId ∧ w.2.2.1 = id)) found
  have type := (of_decide_eq_true matching).1
  rw [found]
  exact congrArg some (agree w (List.mem_reverse.mp (List.mem_of_find?_eq_some found)) type)

/-- A SET leaves the switch as it is. -/
theorem SetsStats.switch (sets : SetsStats p o c c' tableId counterId st counter) : c'.sw = c.sw := by
  have count (cType : CounterType) (npuId : NpuId) (count? : Option UInt64) :
      Eff.Spec (fun s : Ctx => s.sw = c.sw) (counter.setCountIfPresent o cType npuId count?)
        (fun _ s => s.sw = c.sw) (fun _ s => s.sw = c.sw) := by
    unfold NasAclCounter.setCountIfPresent
    split
    · unfold NasAclCounter.setCountNdi
      split
      · exact .throw fun _ same => same
      · split
        · exact .throw fun _ same => same
        · exact .write fun _ same => same
    · exact .pure fun _ same => same
  have loop : Eff.Spec (fun s : Ctx => s.sw = c.sw)
      ((p.npuOrder.visit (st.loopNpu counter)).forM (setCountsNdi o counter st))
      (fun _ s => s.sw = c.sw) (fun _ s => s.sw = c.sw) :=
    .forM fun npuId _ => .bind (count .packet npuId st.pktCount) fun _ => count .byte npuId st.byteCount
  have ran := sets.ran
  rw [nasAclStatsSet_eq sets.table sets.key sets.attrs sets.stored] at ran
  exact loop.ok rfl ran

/-- After a SET the last count on each NPU of its loop is the one it has set. -/
theorem SetsStats.last (sets : SetsStats p o c c' tableId counterId st counter) {cType : CounterType}
    {count : UInt64} {npuId : NpuId} (looped : npuId ∈ st.loopNpu counter)
    (asked : (cType, count) ∈ st.counts) :
    ∃ id, counter.validateEntryCounter cType npuId = some id ∧
      lastCount c'.ndiCounts cType npuId id = some count := by
  obtain ⟨logged, ends⟩ := nasAclStatsSet_writes (p := p) (o := o) sets.table sets.key sets.attrs
    sets.stored
  rw [sets.ran] at logged ends
  have all := ends.mp rfl
  rw [List.takeWhile_eq_self_iff.mpr all] at logged
  have mem : (⟨npuId, cType, count⟩ : StatsWrite) ∈ counter.writes p st :=
    NasAclCounter.mem_writes.mpr ⟨looped, asked⟩
  obtain ⟨id, enabled, held, left⟩ := written_isSome (all _ mem)
  refine ⟨id, ?_, ?_⟩
  · rw [NasAclCounter.validateEntryCounter_eq, if_pos enabled, held]
  · rw [logged]
    refine lastCount_append (List.mem_filterMap.mpr ⟨_, mem, left⟩) fun w written type => ?_
    obtain ⟨w', mem', left'⟩ := List.mem_filterMap.mp written
    obtain ⟨id', -, -, record⟩ := written_isSome (all _ mem')
    cases left'.symm.trans record
    cases type
    exact counts_unique (NasAclCounter.mem_writes.mp mem').2 asked

/-- After a SET, a GET of the stats on NPUs that it has written returns each count as many times
as there are NPUs, modulo 2^64. -/
theorem stats_read_back (sets : SetsStats p o c c' tableId counterId st counter)
    (gets : GetsStats filters index filter tableId counterId st')
    (remembers : rd.Remembers c'.ndiCounts)
    (within : st'.loopNpu counter ⊆ st.loopNpu counter) (list : List CpsObject) :
    ∃ obj, nasAclCpsApiRead p rd filters index c'.sw list = (.returned (.ok ()), list ++ [obj]) ∧
      ∀ cType count, (cType, count) ∈ st.counts → st'.asks cType →
        ∃ total, obj.total cType = some total ∧
          total.toNat = (st'.loopNpu counter).card * count.toNat % 2 ^ 64 := by
  refine ⟨counterObject p rd filter counter .stats, ?_, fun cType count written asked => ?_⟩
  · have stored : c'.sw.getCounter tableId counterId = .ok counter := by
      rw [sets.switch]
      exact sets.stored
    have ran : nasAclGetCounter p rd c'.sw filter .stats list
        = (.ok (), list ++ [counterObject p rd filter counter .stats]) := by
      unfold nasAclGetCounter
      simp only [CounterView.tableKey, CounterView.counterKey, gets.table, gets.key]
      rw [Reading.answer stored]
      exact getCounterAs_run filter counter .stats
    unfold nasAclCpsApiRead
    simp only [gets.listed, gets.cat, ne_eq, not_true_eq_false, if_false, gets.ofStats]
    unfold tryReading
    rw [ran]
  · refine ⟨_, counterObject_total gets.attrs asked, ?_⟩
    have same : ∀ npuId ∈ p.npuOrder.visit (st'.loopNpu counter),
        counter.readCount rd cType npuId = count := fun npuId mem => by
      obtain ⟨id, valid, last⟩ := sets.last (within ((p.npuOrder.mem_visit _ _).mp mem)) written
      unfold NasAclCounter.readCount NasAclCounter.getCountNdi
      rw [valid]
      simp only [remembers _ _ _ _ last]
      rfl
    rw [addCounts_same asked same, Traversal.length_visit]

end ReadBack

/-! ### On the bench -/

/-- An NDI that reads the last count of a log. -/
def Bench.memory (log : List (CounterType × NpuId × NdiObjId × UInt64)) : Reader where
  keyFromAttr _ := ⟨.baseAcl, .other, .set⟩
  counterGet cType npuId id := .ok ((lastCount log cType npuId id).getD 0)
  walks _ _ := platform.toWalks

/-- Counter 4 is on both NPUs: 17 is written, and 34 is read. -/
theorem twice_read_back :
    ∃ c' obj, nasAclStatsSet Bench.platform Bench.oracle (Bench.statsRequest [Bench.packetCount])
        = (.ok (), c') ∧
      nasAclCpsApiRead Bench.platform (Bench.memory c'.ndiCounts)
        [Bench.filterOf .stats [(.statsTableId, 1), (.statsCounterId, 4)]] 0 c'.sw []
          = (.returned (.ok ()), [obj]) ∧
      ∃ total, obj.total .packet = some total ∧ total.toNat = 2 * 17 % 2 ^ 64 := by
  let st : StatsAttrs := { pktCount := some 17 }
  have ran : (nasAclStatsSet Bench.platform Bench.oracle (Bench.statsRequest [Bench.packetCount])).1
      = .ok () := by decide +kernel
  have onBoth : (StatsAttrs.loopNpu Bench.counter {}).card = 2 := by decide +kernel
  have sets : SetsStats Bench.platform Bench.oracle (Bench.statsRequest [Bench.packetCount])
      (nasAclStatsSet Bench.platform Bench.oracle (Bench.statsRequest [Bench.packetCount])).2 1 4 st
      Bench.counter :=
    ⟨rfl, rfl, by decide +kernel, Bench.counter_stored _, Prod.ext ran rfl⟩
  have remembers (log : List (CounterType × NpuId × NdiObjId × UInt64)) :
      (Bench.memory log).Remembers log := fun cType npuId id count last => by
    change Except.ok ((lastCount log cType npuId id).getD 0) = _
    rw [last]
    rfl
  have gets : GetsStats [Bench.filterOf .stats [(.statsTableId, 1), (.statsCounterId, 4)]] 0
      (Bench.filterOf .stats [(.statsTableId, 1), (.statsCounterId, 4)]) 1 4 {} :=
    ⟨rfl, rfl, rfl, rfl, rfl, rfl⟩
  obtain ⟨obj, read, totals⟩ :=
    stats_read_back sets gets (remembers _) (Finset.Subset.refl _) []
  obtain ⟨total, found, value⟩ := totals .packet 17 (by decide) rfl
  rw [onBoth] at value
  exact ⟨_, obj, sets.ran, read, total, found, value⟩

end SonicNasAcl
