/-
# EntryRuns -- what a request about an entry leaves on the switch

A request about an entry reads its attributes into a copy, and what follows depends on the
copy only: the checks, the answers of the NDI and the store.

* `Request.Creates` and `Request.Replaces` are what follows, for a new entry and for a
  stored one;
* `run_whole_iff`: a CREATE or a full SET succeeds exactly when what it reads is created or
  replaces the entry;
* `run_incr_iff`: an incremental update succeeds exactly when what it makes replaces the
  entry, but for one that has to save the value of an action without one.
-/
import SonicNasAcl.Filling
import SonicNasAcl.Requests

namespace SonicNasAcl

set_option autoImplicit false

open Lib

/-! ## After a request is read -/

namespace Request

/-- A new entry gets its id, passes its checks, is taken by the NDI and is saved. -/
def Creates (r : Request) (sw : NasAclSwitch) (table : NasAclTable) (eid : Option NasObjId)
    (new : NasAclEntry) (sw' : NasAclSwitch) : Prop :=
  (∀ id, eid = some id → (sw.findEntry table.tableId id).isSome = false) ∧
  ∃ id g sw₁, TakesId r.oracle.alloc (.new .entry table.tableId) sw eid id g sw₁ ∧
  ∃ e, { new with entryId := id }.commitCreate r.platform r.oracle sw₁ table r.rollback = .ok e ∧
    sw₁.saveEntry e = .ok sw'

/-- A changed copy of a stored entry passes its checks, is taken by the NDI and is saved. -/
def Replaces (r : Request) (sw : NasAclSwitch) (table : NasAclTable) (old new : NasAclEntry)
    (sw' : NasAclSwitch) : Prop :=
  ∃ e, new.checkModify r.platform sw table = .ok e ∧
  ∃ ids, (r.oracle.entryModify ⟨r.platform, sw, table⟩ e old r.rollback).1 = .ok ids ∧
    (sw.setEntryIds old.tableId old.entryId
      (r.oracle.entryModify ⟨r.platform, sw, table⟩ e old r.rollback).2).saveEntry
      (e.committed ids) = .ok sw'

/-- A CREATE or a SET whose key names no element. -/
structure Whole (r : Request) : Prop where
  entry : r.obj.key.subcat = .entry
  op : r.op = .create ∨ r.op = .set
  plain : keyIncrType r.obj = none

/-- The request is read, in the sense of `reads`, into an entry that is created or that
replaces the stored one. -/
def Takes (r : Request) (sw : NasAclSwitch)
    (reads : NasAclTable → NasAclEntry → NasAclEntry × Bool → Prop) (sw' : NasAclSwitch) : Prop :=
  r.obj.key.cat = .baseAcl ∧ ∃ table eid, cpsOpKeyExtract sw r.obj = .ok ⟨table, eid, none⟩ ∧
    ((r.op = .create ∧ ∃ new, reads table (.new r.platform table.tableId) new ∧
        r.Creates sw table eid new.1 sw') ∨
      (r.op = .set ∧ ∃ id old new, eid = some id ∧ sw.getEntry table.tableId id = .ok old ∧
        reads table old new ∧ r.Replaces sw table old new.1 sw'))

end Request

section Runs

variable {r : Request} {sw sw' : NasAclSwitch}

/-- Only the entries a request starts from have to be read alike. -/
theorem Request.Takes.imp {reads reads' : NasAclTable → NasAclEntry → NasAclEntry × Bool → Prop}
    (fresh : ∀ table st, reads table (.new r.platform table.tableId) st →
      reads' table (.new r.platform table.tableId) st)
    (stored : ∀ table id old st, sw.getEntry table.tableId id = .ok old → reads table old st →
      reads' table old st)
    (takes : r.Takes sw reads sw') : r.Takes sw reads' sw' := by
  obtain ⟨cat, table, eid, key, ⟨op, new, read, made⟩ | ⟨op, id, old, new, named, here, read, made⟩⟩ :=
    takes
  · exact ⟨cat, table, eid, key, .inl ⟨op, new, fresh _ _ read, made⟩⟩
  · exact ⟨cat, table, eid, key, .inr ⟨op, id, old, new, named, here, stored _ _ _ _ here read, made⟩⟩

/-- A request succeeds when its handler does. -/
theorem run_ok_iff {body : Handler Unit}
    (mapped : operationMap r.platform r.oracle r.rollback r.obj.key.subcat r.op
      = some (tryHandler body)) :
    r.run sw = (.returned (.ok ()), sw') ↔
      r.obj.key.cat = .baseAcl ∧ ∃ c', body (r.ctx sw) = (.ok (), c') ∧ c'.sw = sw' := by
  constructor
  · intro ran
    have cat : r.obj.key.cat = .baseAcl := by
      by_contra other
      unfold Request.run writeInternal at ran
      rw [if_pos other] at ran
      cases ran
    obtain ⟨refused, -⟩ | ⟨handler, c', mapped', ran, same⟩ := run_cases ran
    · cases refused
    · cases mapped.symm.trans mapped'
      exact ⟨cat, c', tryHandler_ok.mp ran, same⟩
  · rintro ⟨cat, c', ran, rfl⟩
    have exit : tryHandler body (r.ctx sw) = (.returned (.ok ()), c') := tryHandler_ok.mpr ran
    unfold Request.run writeInternal
    rw [if_neg (not_not.mpr cat), mapped]
    simp only [execWriteOp]
    change ((tryHandler body (r.ctx sw)).1, (tryHandler body (r.ctx sw)).2.sw) = _
    rw [exit]

/-- What is saved to undo a request with does not matter, if it can be filled. -/
theorem modifies_iff (fill : Finset AttrId → CpsObject → Except Exn CpsObject)
    {table : NasAclTable} {old new : NasAclEntry} :
    (∃ c', Modifies r.platform r.oracle r.rollback table old new fill (r.ctx sw) c' ∧ c'.sw = sw') ↔
      ∃ e, new.checkModify r.platform sw table = .ok e ∧
        (∃ prev, Saved r.rollback (fill e.base.dirtyAttrs) .new prev) ∧
        ∃ ids, (r.oracle.entryModify ⟨r.platform, sw, table⟩ e old r.rollback).1 = .ok ids ∧
          (sw.setEntryIds old.tableId old.entryId
            (r.oracle.entryModify ⟨r.platform, sw, table⟩ e old r.rollback).2).saveEntry
              (e.committed ids) = .ok sw' := by
  constructor
  · rintro ⟨_, ⟨e, checked, ids, taken, prev, filled, sw₁, saved, rfl⟩, rfl⟩
    exact ⟨e, checked, ⟨prev, filled⟩, ids, taken, saved⟩
  · rintro ⟨e, checked, ⟨prev, filled⟩, ids, taken, saved⟩
    exact ⟨_, ⟨e, checked, ids, taken, prev, filled, sw', saved, rfl⟩, rfl⟩

theorem saved_exists {rb : Bool} {f : CpsObject → Except Exn CpsObject} {before : CpsObject} :
    (∃ after, Saved rb f before after) ↔ (rb = false → ∃ after, f before = .ok after) := by
  cases rb with
  | true => simp only [Saved, if_true, exists_eq, Bool.true_eq_false, false_implies]
  | false => simp only [Saved, Bool.false_eq_true, if_false, true_implies]

/-- A request about a whole entry depends on what it reads. -/
theorem run_whole_iff (whole : r.Whole) : r.run sw = (.returned (.ok ()), sw') ↔
    r.Takes sw (fun table e st => cpsParseEntryObj r.platform sw table r.obj.attrs e = .ok st) sw' := by
  have keyed {body : EntryOpKey → Handler Unit} {c' : Ctx}
      (ran : (Eff.query (fun c => cpsOpKeyExtract c.sw c.obj) >>= body) (r.ctx sw) = (.ok (), c')) :
      ∃ table eid, cpsOpKeyExtract sw r.obj = .ok ⟨table, eid, none⟩ := by
    obtain ⟨table, eid, key⟩ | ⟨table, eid, upd, key⟩ := entryKey_cases ran
    · exact ⟨table, eid, key⟩
    · obtain ⟨-, -, -, -, element⟩ := cpsOpKeyExtract_ok.mp key
      cases element.symm.trans whole.plain
  obtain ⟨entry, create | set, -⟩ := whole
  · have mapped : operationMap r.platform r.oracle r.rollback r.obj.key.subcat r.op
        = some (tryHandler (nasAclEntryCreate r.platform r.oracle r.rollback)) := by
      rw [entry, create]
      rfl
    rw [run_ok_iff mapped]
    refine and_congr_right fun _ => ?_
    constructor
    · rintro ⟨c', ran, rfl⟩
      obtain ⟨table, eid, key⟩ := keyed ran
      obtain ⟨free, new, parsed, id, g, sw₁, took, e, committed, sw₂, saved, prev, -, rfl⟩ :=
        (nasAclEntryCreate_ok key).mp ran
      exact ⟨table, eid, key, .inl ⟨create, new, parsed, free, id, g, sw₁, took, e, committed, saved⟩⟩
    · rintro ⟨table, eid, key, ⟨-, new, parsed, free, id, g, sw₁, took, e, committed, saved⟩ |
        ⟨set, -⟩⟩
      · obtain ⟨prev, filled⟩ : ∃ prev, Saved r.rollback
            (cpsPackKey r.platform (r.obj.keySetObjId .entryId id) e) .new prev :=
          saved_exists.mpr fun _ => ⟨_, cpsPackKey_eq _ _ _ _⟩
        exact ⟨_, (nasAclEntryCreate_ok key).mpr
          ⟨free, new, parsed, id, g, sw₁, took, e, committed, sw', saved, prev, filled, rfl⟩, rfl⟩
      · cases create.symm.trans set
  · have mapped : operationMap r.platform r.oracle r.rollback r.obj.key.subcat r.op
        = some (tryHandler (nasAclEntryModify r.platform r.oracle r.rollback)) := by
      rw [entry, set]
      rfl
    rw [run_ok_iff mapped]
    refine and_congr_right fun _ => ?_
    constructor
    · rintro ⟨c', ran, rfl⟩
      obtain ⟨table, eid, key⟩ := keyed ran
      cases eid with
      | none =>
          obtain ⟨_, found, stopped⟩ := Eff.query_bind_ok.mp ran
          cases key.symm.trans found
          cases stopped
      | some id =>
          obtain ⟨old, stored, new, parsed, modifies⟩ := (nasAclEntryModify_ok key).mp ran
          obtain ⟨e, checked, -, ids, made⟩ := (modifies_iff _).mp ⟨c', modifies, rfl⟩
          exact ⟨table, some id, key,
            .inr ⟨set, id, old, new, rfl, stored, parsed, e, checked, ids, made⟩⟩
    · rintro ⟨table, eid, key, ⟨create, -⟩ | ⟨-, id, old, new, rfl, stored, parsed, e, checked, made⟩⟩
      · cases set.symm.trans create
      · have filled : ∃ prev, Saved r.rollback
            (cpsPackAttrs r.platform r.obj old e.base.dirtyAttrs new.2) .new prev :=
          saved_exists.mpr fun _ => cpsPackAttrs_ends _
        obtain ⟨c', modifies, same⟩ := (modifies_iff fun dirty =>
          cpsPackAttrs r.platform r.obj old dirty new.2).mpr ⟨e, checked, filled, made⟩
        exact ⟨c', (nasAclEntryModify_ok key).mpr ⟨old, stored, new, parsed, modifies⟩, same⟩

/-- An incremental update ends the process when it has to save a value there is none of. -/
theorem run_incr_iff {upd : IncrType} (entry : r.obj.key.subcat = .entry)
    (op : r.op ∈ [CpsOper.create, .set, .delete]) (element : keyIncrType r.obj = some upd) :
    r.run sw = (.returned (.ok ()), sw') ↔
      r.obj.key.cat = .baseAcl ∧ ∃ table eid,
        cpsOpKeyExtract sw r.obj = .ok ⟨table, some eid, some upd⟩ ∧
        ∃ old, sw.getEntry table.tableId eid = .ok old ∧
        ∃ new, incrNewEntry r.platform sw table r.obj.attrs r.op upd old = .ok new ∧
        (r.rollback = false → r.op ≠ .create → ¬ upd.Valueless r.platform) ∧
        r.Replaces sw table old new sw' := by
  have incr {body : EntryOpKey → Handler Unit}
      (mapped : operationMap r.platform r.oracle r.rollback r.obj.key.subcat r.op
        = some (tryHandler (Eff.query (fun c => cpsOpKeyExtract c.sw c.obj) >>= body)))
      (same : ∀ table eid, cpsOpKeyExtract sw r.obj = .ok ⟨table, some eid, some upd⟩ →
        (Eff.query (fun c => cpsOpKeyExtract c.sw c.obj) >>= body) (r.ctx sw)
          = cpsEntryIncrUpd r.platform r.oracle table eid upd r.op r.rollback (r.ctx sw)) :
      r.run sw = (.returned (.ok ()), sw') ↔ r.obj.key.cat = .baseAcl ∧ ∃ table eid,
        cpsOpKeyExtract sw r.obj = .ok ⟨table, some eid, some upd⟩ ∧
        ∃ c', cpsEntryIncrUpd r.platform r.oracle table eid upd r.op r.rollback (r.ctx sw)
          = (.ok (), c') ∧ c'.sw = sw' := by
    rw [run_ok_iff mapped]
    refine and_congr_right fun _ => ?_
    constructor
    · rintro ⟨c', ran, rfl⟩
      obtain ⟨table, eid, key⟩ | ⟨table, eid, upd', key⟩ := entryKey_cases ran
      · obtain ⟨-, -, -, -, plain⟩ := cpsOpKeyExtract_ok.mp key
        cases plain.symm.trans element
      · obtain ⟨-, -, -, -, named⟩ := cpsOpKeyExtract_ok.mp key
        cases named.symm.trans element
        exact ⟨table, eid, key, c', (same table eid key) ▸ ran, rfl⟩
    · rintro ⟨table, eid, key, c', ran, rfl⟩
      exact ⟨c', (same table eid key).trans ran, rfl⟩
  have handled : r.run sw = (.returned (.ok ()), sw') ↔ r.obj.key.cat = .baseAcl ∧ ∃ table eid,
      cpsOpKeyExtract sw r.obj = .ok ⟨table, some eid, some upd⟩ ∧
      ∃ c', cpsEntryIncrUpd r.platform r.oracle table eid upd r.op r.rollback (r.ctx sw)
        = (.ok (), c') ∧ c'.sw = sw' := by
    rcases List.mem_cons.mp op with create | op
    · refine incr (by rw [entry, create]; rfl) fun table eid key => ?_
      rw [create]
      exact nasAclEntryCreate_incr key
    · rcases List.mem_pair.mp op with set | delete
      · refine incr (by rw [entry, set]; rfl) fun table eid key => ?_
        rw [set]
        exact nasAclEntryModify_incr key
      · refine incr (by rw [entry, delete]; rfl) fun table eid key => ?_
        rw [delete]
        exact nasAclEntryDelete_incr key
  rw [handled]
  refine and_congr_right fun _ => exists_congr fun table => exists_congr fun eid =>
    and_congr_right fun _ => ?_
  have packs {old new : NasAclEntry}
      (made : incrNewEntry r.platform sw table r.obj.attrs r.op upd old = .ok new) :
      (∃ prev, Saved r.rollback (packIncr r.platform r.obj old r.op upd) .new prev) ↔
        (r.rollback = false → r.op ≠ .create → ¬ upd.Valueless r.platform) := by
    rw [saved_exists]
    refine forall_congr' fun _ => ⟨?_, packIncr_ends (incrNewEntry_hasElement made)⟩
    rintro ⟨prev, filled⟩ change valueless
    rw [packIncr_valueless (incrNewEntry_hasElement made change) change valueless] at filled
    cases filled
  constructor
  · rintro ⟨c', ran, rfl⟩
    obtain ⟨old, stored, new, made, modifies⟩ := cpsEntryIncrUpd_ok.mp ran
    obtain ⟨e, checked, filled, taken⟩ := (modifies_iff _).mp ⟨c', modifies, rfl⟩
    exact ⟨old, stored, new, made, (packs made).mp filled, e, checked, taken⟩
  · rintro ⟨old, stored, new, made, valued, e, checked, taken⟩
    obtain ⟨c', modifies, same⟩ := (modifies_iff fun _ => packIncr r.platform r.obj old r.op upd).mpr
      ⟨e, checked, (packs made).mpr valued, taken⟩
    exact ⟨c', cpsEntryIncrUpd_ok.mpr ⟨old, stored, new, made, modifies⟩, same⟩

end Runs

end SonicNasAcl
