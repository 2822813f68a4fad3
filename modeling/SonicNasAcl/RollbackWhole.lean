/-
# RollbackWhole -- whole objects come and go, and are rolled back

A write that creates or deletes a whole object is rolled back by the opposite operation on
what it has saved.  Tables and counters come back or go away as if nothing had happened,
whatever they are.  An entry does not always: a new one may have taken over a reference that
its counter had before, and one that was deleted may lose in the packing what its request does
not say, such as the NPUs that a port filter hides.

* `entryCreated_iff`, `entryDeleted_iff`: the two operations on an entry;
* `whole_rollsBack_iff`: all three kinds of object, and both operations.
-/
import SonicNasAcl.AlikeSwitches
import SonicNasAcl.RollbackEntry

namespace SonicNasAcl

set_option autoImplicit false

open Lib

/-- The write at an index creates or deletes a whole object, and succeeds. -/
structure Transaction.WritesWhole (p : Platform) (o : Oracle) (t : Transaction) (index : Nat)
    (obj : CpsObject) : Prop where
  listed : t.changeList[index]? = some obj
  kind : obj.key.subcat = .table ∨ obj.key.subcat = .counter ∨ obj.key.subcat = .entry
  oper : obj.key.oper = .create ∨ obj.key.oper = .delete
  whole : obj.key.subcat = .entry → keyIncrType obj = none
  wrote : (nasAclCpsApiWrite p o index t).1 = .returned (.ok ())

/-- What has to hold before the write for it to come undone: of a new entry, that the counter it
names does not list its id yet; of an entry that is deleted, that it can be created again. -/
structure Transaction.ComesUndone (p p' : Platform) (o : Oracle) (t : Transaction)
    (obj : CpsObject) : Prop where
  created : obj.key.subcat = .entry → obj.key.oper = .create → ∀ table eid id,
    cpsOpKeyExtract t.sw obj = .ok ⟨table, eid, none⟩ →
    GivenId o.alloc t.sw.store .entry table.tableId eid id → CounterUnlisted p t.sw table obj id
  deleted : obj.key.subcat = .entry → obj.key.oper = .delete → ∀ table eid e,
    cpsOpKeyExtract t.sw obj = .ok ⟨table, some eid, none⟩ →
    t.sw.getEntry table.tableId eid = .ok e → e.DeleteReturns p p' table t.sw

section Whole

variable {p p' : Platform} {o o' : Oracle} {t : Transaction} {index : Nat} {obj : CpsObject}

theorem Transaction.WritesWhole.cat (writes : t.WritesWhole p o index obj) :
    obj.key.cat = .baseAcl :=
  write_cat writes.listed (Prod.ext writes.wrote rfl)

theorem Transaction.WritesWhole.as (writes : t.WritesWhole p o index obj) {subcat : ObjType}
    {op : CpsOper} (kind : obj.key.subcat = subcat) (oper : obj.key.oper = op) :
    t.Writes p o index obj subcat op :=
  ⟨writes.listed, writes.cat, kind, oper, writes.wrote⟩

/-- A new entry. -/
theorem entryCreated_iff {allowed : NasAclSwitch → Request → Prop} (reached : Reached allowed t.sw)
    (accepts : o'.Accepts p') (writes : t.WritesWhole p o index obj)
    (kind : obj.key.subcat = .entry) (oper : obj.key.oper = .create) :
    RollsBack p p' o o' index t SameConfig ↔ t.ComesUndone p p' o obj := by
  obtain ⟨c₁, ran⟩ := (writes.as kind oper).ran (by decide) rfl
  obtain ⟨⟨table, eid, upd⟩, key, -⟩ := Eff.query_bind_ok.mp ran
  obtain ⟨_, -, -, -, element⟩ := cpsOpKeyExtract_ok.mp key
  obtain rfl : none = upd := (writes.whole kind).symm.trans element
  obtain ⟨new, e, made⟩ := entryCreate_made (c := t.ctx obj) (reached_consistent reached) key ran
  have given : GivenId o.alloc t.sw.store .entry table.tableId eid e.entryId := made.given
  have undone : RollsBack p p' o o' index t SameConfig ↔ CounterUnlisted p t.sw table obj e.entryId :=
    entryCreate_undone_iff (Store.config · = t.sw.store.config) (fun _ => Iff.rfl) rfl
      (fun _ same => Store.refs_of_config same) reached accepts (writes.as kind oper) key given
  rw [undone]
  constructor
  · refine fun unlisted => ⟨fun _ _ table' eid' id key' given' => ?_, fun _ other => ?_⟩
    · cases key.symm.trans key'
      exact given.unique given' ▸ unlisted
    · cases oper.symm.trans other
  · exact fun undone => undone.created kind oper table eid e.entryId key given

/-- An entry that is deleted. -/
theorem entryDeleted_iff {allowed : NasAclSwitch → Request → Prop} (hosts : p.Hosts p')
    (reached : Reached allowed t.sw) (accepts : o'.Accepts p')
    (writes : t.WritesWhole p o index obj) (kind : obj.key.subcat = .entry)
    (oper : obj.key.oper = .delete) :
    RollsBack p p' o o' index t SameConfig ↔ t.ComesUndone p p' o obj := by
  obtain ⟨c₁, ran⟩ := (writes.as kind oper).ran (by decide) rfl
  obtain ⟨⟨table, eid, upd⟩, key, stopped⟩ := Eff.query_bind_ok.mp ran
  obtain ⟨_, -, -, -, element⟩ := cpsOpKeyExtract_ok.mp key
  obtain rfl : none = upd := (writes.whole kind).symm.trans element
  cases eid with
  | none => cases stopped
  | some eid =>
      obtain ⟨e, gone⟩ := entryDelete_gone (c := t.ctx obj) key ran
      have stored : t.sw.getEntry table.tableId eid = .ok e := gone.stored
      rw [entryDelete_undone_iff hosts reached accepts (writes.as kind oper) key stored]
      constructor
      · refine fun returns => ⟨fun _ other => ?_, fun _ _ table' eid' e' key' stored' => ?_⟩
        · cases oper.symm.trans other
        · cases key.symm.trans key'
          cases stored.symm.trans stored'
          exact returns
      · exact fun undone => undone.deleted kind oper table eid e key stored

/-- When the NDI accepts its calls, the creation or deletion of a whole object is rolled back to
the configuration before it, always for tables and counters, and for entries just when the
write comes undone. -/
theorem whole_rollsBack_iff (hosts : p.Hosts p')
    (reached : Reached (fun _ r => r.platform.switchNpus = p.switchNpus) t.sw)
    (succeeds : o'.Succeeds) (accepts : o'.Accepts p') (writes : t.WritesWhole p o index obj) :
    RollsBack p p' o o' index t SameConfig ↔ t.ComesUndone p p' o obj := by
  have plain (other : obj.key.subcat ≠ .entry) : t.ComesUndone p p' o obj :=
    ⟨fun entry => absurd entry other, fun entry => absurd entry other⟩
  obtain table | counter | entry := writes.kind
  · refine iff_of_true ?_ (plain (by rw [table]; decide))
    obtain create | delete := writes.oper
    · exact (tableCreate_rollsBack reached succeeds (writes.as table create)).mono
        fun _ _ same => same.config
    · exact tableDelete_rollsBack hosts reached succeeds (writes.as table delete)
  · refine iff_of_true ?_ (plain (by rw [counter]; decide))
    obtain create | delete := writes.oper
    · exact (counterCreate_rollsBack reached succeeds (writes.as counter create)).mono
        fun _ _ same => same.config
    · exact counterDelete_rollsBack hosts reached succeeds (writes.as counter delete)
  · obtain create | delete := writes.oper
    · exact entryCreated_iff reached accepts writes entry create
    · exact entryDeleted_iff hosts reached accepts writes entry delete

end Whole

/-! ### On the bench -/

/-- Entry 7 is deleted and comes back. -/
theorem deleted_entry_rolled_back :
    RollsBack Bench.platform Bench.platform Bench.pushingOracle Bench.pushingOracle 0
      (Bench.change updateRun (Bench.entryRequest .delete [])) SameConfig := by
  have test : ((Bench.after updateRun).findEntry 1 7).any fun e =>
      e.Unported Bench.platform ∧ ((Bench.after updateRun).getTable 1).toOption.any fun table =>
        table.tableId = 1 ∧ e.Translates Bench.platform table := by decide +kernel
  obtain ⟨e, found, test⟩ := (Option.any_eq_true _ _).mp test
  obtain ⟨unported, test⟩ := of_decide_eq_true test
  obtain ⟨table, held, test⟩ := (Option.any_eq_true _ _).mp test
  obtain ⟨own, translates⟩ := of_decide_eq_true test
  let r := Bench.entryRequest .delete []
  have reached : Reached (fun _ r => Bench.platform.Hosts r.platform) (Bench.change updateRun r).sw :=
    Bench.change_reached fun r mem _ => by
      rcases List.mem_pair.mp mem with rfl | rfl <;> exact Platform.hosts_self _
  have key : cpsOpKeyExtract (Bench.after updateRun) r.obj = .ok ⟨table, some 7, none⟩ :=
    cpsOpKeyExtract_ok.mpr ⟨1, rfl, except_toOption.mp held, rfl, rfl⟩
  have writes : (Bench.change updateRun r).WritesWhole Bench.platform Bench.pushingOracle 0 r.obj :=
    ⟨rfl, .inr (.inr rfl), .inr rfl, fun _ => rfl, by decide +kernel⟩
  refine (whole_rollsBack_iff (Platform.hosts_self _)
    (reached.mono fun _ _ hosts => hosts.switchNpus) Bench.pushingOracle_succeeds
    (Bench.pushingOracle_accepts Bench.platform) writes).mpr ⟨?_, ?_⟩
  · rintro - ⟨⟩
  · intro _ _ table' eid e' key' stored
    cases key.symm.trans key'
    rw [own] at stored
    obtain rfl := Option.some.inj (found.symm.trans (getEntry_ok.mp stored))
    exact unported.returns (reached_readable reached (except_toOption.mp held)
      (getEntry_ok.mpr found)) translates

/-- An entry that was put on both NPUs and matches a port of the second one comes back on that
one alone. -/
theorem whole_not_always_rolled_back :
    ¬ ∀ (p p' : Platform) (o o' : Oracle) (t : Transaction) (index : Nat) (obj : CpsObject),
      p.Hosts p' → Reached (fun _ r => p.Hosts r.platform) t.sw → o'.Succeeds → o'.Accepts p' →
      t.WritesWhole p o index obj → RollsBack p p' o o' index t SameConfig := by
  intro claim
  let run := [Bench.createTable [.inPort], createOnPort 9 [0, 1]]
  let t := Bench.change run (Bench.entryRequest .delete [])
  let write := nasAclCpsApiWrite Bench.platform Bench.pushingOracle 0 t
  have reached : Reached (fun _ r => Bench.platform.Hosts r.platform) t.sw :=
    Bench.change_reached fun r mem _ => by
      rcases List.mem_pair.mp mem with rfl | rfl <;> exact Platform.hosts_self _
  obtain ⟨t₁, t₂, wrote, rolled, back⟩ := claim Bench.platform Bench.platform
    Bench.pushingOracle Bench.pushingOracle t 0 (Bench.entryRequest .delete []).obj
    (Platform.hosts_self _) reached Bench.pushingOracle_succeeds
    (Bench.pushingOracle_accepts Bench.platform)
    ⟨rfl, .inr (.inr rfl), .inr rfl, fun _ => rfl, by decide +kernel⟩
  have before : (t.sw.findEntry 1 7).map (·.config.base.npus) = some {0, 1} := by decide +kernel
  have left : ((nasAclCpsApiRollback Bench.platform Bench.pushingOracle 0 write.2).2.sw.findEntry
      1 7).map (·.config.base.npus) = some {1} := by decide +kernel
  have same : write = (.returned (.ok ()), t₁) := wrote
  rw [same] at left
  rw [show nasAclCpsApiRollback Bench.platform Bench.pushingOracle 0 t₁ = _ from rolled] at left
  have kept := congrArg (Option.map (·.base.npus)) (back.findEntry 1 7)
  rw [Option.map_map, Option.map_map] at kept
  have kept := left.symm.trans (kept.trans before)
  exact absurd kept (by decide)

end SonicNasAcl
