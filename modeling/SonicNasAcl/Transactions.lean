/-
# Transactions -- which saved object belongs to which change

A transaction is written at the indices 0, 1, ... of its change list, and undone by the
same indices of its list of saved objects.  `SavedAt` says where a write put its
object, `UndoneBy` that a rollback is the inverse request on it, and `Tracks` that the two go
together at every index, in whatever order the indices are rolled back.

A write of a stats object saves nothing, so every object after it is saved one place
too early.  `tracks_iff`: the two lists are aligned exactly when stats objects come last.

* `write_ok`: what a write that succeeds does to the two lists;
* `writeFirst_lists`: the same for the first `n` writes, by induction on `n`;
* `RolledBack.prev`: rolling back other indices leaves a saved object where it is;
* `undoneBy_of_saved`, `rollback_missing`: what a rollback does with its saved object, and
  without one.
-/
import SonicNasAcl.Bench

namespace SonicNasAcl

set_option autoImplicit false

/-! ## Runs of a transaction -/

/-- The writes at the indices below `n`, all of which succeed. -/
def writeFirst (p : Nat → Platform) (o : Nat → Oracle) : Nat → Transaction → Option Transaction
  | 0, t => some t
  | n + 1, t => (writeFirst p o n t).bind fun t =>
      match nasAclCpsApiWrite (p n) (o n) n t with
      | (.returned (.ok ()), t') => some t'
      | _ => none

/-- The write at index `i` of the transaction saved the object `x` at place `k`. -/
def SavedAt (p : Nat → Platform) (o : Nat → Oracle) (t : Transaction) (i k : Nat) (x : CpsObject) :
    Prop :=
  ∃ before after, writeFirst p o i t = some before ∧ writeFirst p o (i + 1) t = some after ∧
    after.prev = before.prev ++ [x] ∧ before.prev.length = k

/-- Rollbacks of indices other than `i`, in any order and whatever they return. -/
inductive RolledBack (i : Nat) (t : Transaction) : Transaction → Prop
  | none : RolledBack i t t
  | more {u : Transaction} {j : Nat} (p : Platform) (o : Oracle) (other : j ≠ i)
      (before : RolledBack i t u) : RolledBack i t (nasAclCpsApiRollback p o j u).2

/-- Whatever was rolled back before, a rollback of index `i` is the inverse request on `x`. -/
def UndoneBy (t : Transaction) (i : Nat) (x : CpsObject) : Prop :=
  ∀ u, RolledBack i t u → ∀ (p : Platform) (o : Oracle),
    ((nasAclCpsApiRollback p o i u).1, (nasAclCpsApiRollback p o i u).2.sw)
      = (u.undoing p o x).run u.sw

/-- A rollback of each index of `t'`, which `t` became, works on what the write of that
index saved, and leaves the switch alone when that was a stats object. -/
def Tracks (p : Nat → Platform) (o : Nat → Oracle) (t t' : Transaction) : Prop :=
  ∀ i obj, t.changeList[i]? = some obj →
    (obj.key.subcat ≠ .stats → ∃ x, SavedAt p o t i i x ∧ UndoneBy t' i x) ∧
    (obj.key.subcat = .stats → ∀ u, RolledBack i t' u → ∀ (p' : Platform) (o' : Oracle),
      (nasAclCpsApiRollback p' o' i u).2.sw = u.sw)

/-- Stats objects come after all the others. -/
def StatsLast (l : List CpsObject) : Prop :=
  ∀ (i j : Nat) (a b : CpsObject), i < j → l[i]? = some a → l[j]? = some b →
    a.key.subcat = .stats → b.key.subcat = .stats

/-! ## One write -/

section Lists

variable {p : Nat → Platform} {o : Nat → Oracle} {t t' : Transaction} {i n : Nat}

theorem write_ok {p : Platform} {o : Oracle}
    (wrote : nasAclCpsApiWrite p o i t = (.returned (.ok ()), t')) :
    ∃ obj, t.changeList[i]? = some obj ∧ (∀ j, i ≠ j → t'.changeList[j]? = t.changeList[j]?) ∧
      ∃ saved, t'.prev = t.prev ++ saved ∧
        saved.length = if obj.key.subcat = .stats then 0 else 1 := by
  unfold nasAclCpsApiWrite writeInternal at wrote
  cases listed : t.changeList[i]? with
  | none =>
      rw [listed] at wrote
      cases wrote
  | some obj =>
      refine ⟨obj, rfl, ?_⟩
      rw [listed] at wrote
      simp only at wrote
      by_cases other : obj.key.cat ≠ .baseAcl
      · rw [if_pos other] at wrote
        cases wrote
      · rw [if_neg other] at wrote
        cases mapped : operationMap p o false obj.key.subcat obj.key.oper with
        | none =>
            rw [mapped] at wrote
            cases wrote
        | some handler =>
            simp only [mapped, Prod.mk.injEq] at wrote
            obtain ⟨-, rfl⟩ := wrote
            refine ⟨fun j other => List.getElem?_set_ne other, ?_⟩
            by_cases stats : obj.key.subcat = .stats
            · refine ⟨[], ?_, (if_pos stats).symm⟩
              simp only [savesPrev, stats, bne_self_eq_false, Bool.and_false, Bool.false_eq_true,
                if_false, List.append_nil]
            · refine ⟨[(execWriteOp handler t.sw obj .new t.ndiCounts).2.prev], ?_,
                (if_neg stats).symm⟩
              simp only [savesPrev, Bool.not_false, bne_iff_ne, ne_eq, stats, not_false_eq_true,
                if_true, Bool.true_and]

/-- A rollback of an index without a saved object changes nothing. -/
theorem rollback_missing {p : Platform} {o : Oracle} (missing : t.prev[i]? = none) :
    (nasAclCpsApiRollback p o i t).2 = t := by
  unfold nasAclCpsApiRollback
  rw [missing]

/-- Rollbacks of other indices leave a saved object where it is. -/
theorem RolledBack.prev (rolled : RolledBack i t t') : t'.prev[i]? = t.prev[i]? := by
  induction rolled with
  | none => rfl
  | more p o other _ ih => exact (rollback_prev other).trans ih

theorem undoneBy_of_saved {x : CpsObject} (saved : t.prev[i]? = some x) : UndoneBy t i x :=
  fun _ rolled _ _ => rollback_is_request (rolled.prev.trans saved)

/-! ## All writes -/

/-- The change saves an object. -/
def saves (obj : CpsObject) : Bool := obj.key.subcat ≠ .stats

theorem writeFirst_succ :
    writeFirst p o (n + 1) t = some t' ↔ ∃ before, writeFirst p o n t = some before ∧
      nasAclCpsApiWrite (p n) (o n) n before = (.returned (.ok ()), t') := by
  simp only [writeFirst, Option.bind_eq_some_iff]
  refine exists_congr fun before => and_congr_right fun _ => ?_
  rcases nasAclCpsApiWrite (p n) (o n) n before with ⟨⟨_ | _⟩ | _, t₁⟩ <;> simp

/-- After `n` writes the changes from `n` on are as they were, and there is one saved
object for each change before that is no stats object. -/
theorem writeFirst_lists (wrote : writeFirst p o n t = some t') :
    n ≤ t.changeList.length ∧ (∀ j, n ≤ j → t'.changeList[j]? = t.changeList[j]?) ∧
      t'.prev.length = t.prev.length + (t.changeList.take n).countP saves := by
  induction n generalizing t' with
  | zero =>
      cases wrote
      exact ⟨Nat.zero_le _, fun _ _ => rfl, rfl⟩
  | succ n ih =>
      obtain ⟨before, first, last⟩ := writeFirst_succ.mp wrote
      obtain ⟨-, changes, saved⟩ := ih first
      obtain ⟨obj, listed, others, new, appended, count⟩ := write_ok last
      rw [changes n (Nat.le_refl n)] at listed
      refine ⟨(List.getElem?_eq_some_iff.mp listed).1, fun j later => ?_, ?_⟩
      · rw [others j (by omega), changes j (by omega)]
      · rw [appended, List.length_append, saved, count, List.take_add_one, listed,
          List.countP_append, Nat.add_assoc]
        by_cases stats : obj.key.subcat = .stats <;> simp [saves, stats]

/-- Saved objects stay where they are. -/
theorem writeFirst_prefix {m : Nat} {before : Transaction}
    (first : writeFirst p o m t = some before) (wrote : writeFirst p o n t = some t')
    (le : m ≤ n) : before.prev <+: t'.prev := by
  induction n, le using Nat.le_induction generalizing t' with
  | base =>
      cases first.symm.trans wrote
      exact List.prefix_refl _
  | succ n _ ih =>
      obtain ⟨t₁, some_, last⟩ := writeFirst_succ.mp wrote
      obtain ⟨-, -, -, new, appended, -⟩ := write_ok last
      rw [appended]
      exact (ih some_).trans (List.prefix_append ..)

theorem writeFirst_le {m : Nat} (wrote : writeFirst p o n t = some t') (le : m ≤ n) :
    ∃ before, writeFirst p o m t = some before := by
  induction n, le using Nat.le_induction generalizing t' with
  | base => exact ⟨t', wrote⟩
  | succ n _ ih =>
      obtain ⟨t₁, first, -⟩ := writeFirst_succ.mp wrote
      exact ih first

/-- The changes before the first stats object, and no others, are saved at their own index,
where their rollbacks find them. -/
theorem savedAt_iff {obj : CpsObject} (fresh : t.prev = []) (wrote : writeFirst p o n t = some t')
    (inside : i < n) (listed : t.changeList[i]? = some obj) (notStats : obj.key.subcat ≠ .stats) :
    (∃ x, SavedAt p o t i i x ∧ UndoneBy t' i x) ↔ ∀ a ∈ t.changeList.take i, saves a := by
  obtain ⟨after, upto⟩ := writeFirst_le wrote inside
  obtain ⟨before, first, last⟩ := writeFirst_succ.mp upto
  obtain ⟨short, changes, saved⟩ := writeFirst_lists first
  obtain ⟨obj', listed', -, new, appended, count⟩ := write_ok last
  rw [changes i (Nat.le_refl i), listed] at listed'
  cases listed'
  rw [if_neg notStats] at count
  obtain ⟨x, rfl⟩ := List.length_eq_one_iff.mp count
  rw [fresh, List.length_nil, Nat.zero_add] at saved
  have aligned : before.prev.length = i ↔ ∀ a ∈ t.changeList.take i, saves a := by
    rw [saved, ← List.countP_eq_length, List.length_take, Nat.min_eq_left short]
  rw [← aligned]
  constructor
  · rintro ⟨y, ⟨before', after', first', -, -, place⟩, -⟩
    cases first.symm.trans first'
    exact place
  · intro place
    refine ⟨x, ⟨before, after, first, upto, appended, place⟩, undoneBy_of_saved ?_⟩
    obtain ⟨later, kept⟩ := writeFirst_prefix upto wrote inside
    rw [← kept, appended, ← place, List.append_assoc, List.getElem?_append_right (Nat.le_refl _),
      Nat.sub_self]
    rfl

/-! ## The exact condition -/

/-- A stats object before another shifts what the other saves. -/
theorem statsLast_of_tracks (fresh : t.prev = [])
    (wrote : writeFirst p o t.changeList.length t = some t') (tracks : Tracks p o t t') :
    StatsLast t.changeList := by
  intro i j a b before here there stats
  by_contra notStats
  have inside : j < t.changeList.length := (List.getElem?_eq_some_iff.mp there).1
  have all := (savedAt_iff fresh wrote inside there notStats).mp
    ((tracks j b there).1 notStats)
  have mem : a ∈ t.changeList.take j := by
    rw [List.mem_iff_getElem?]
    exact ⟨i, by rw [List.getElem?_take_of_lt before, here]⟩
  exact absurd stats (of_decide_eq_true (all a mem))

theorem tracks_of_statsLast (fresh : t.prev = [])
    (wrote : writeFirst p o t.changeList.length t = some t') (last : StatsLast t.changeList) :
    Tracks p o t t' := by
  intro i obj listed
  have inside : i < t.changeList.length := (List.getElem?_eq_some_iff.mp listed).1
  refine ⟨fun notStats => ?_, fun stats u rolled p' o' => ?_⟩
  · refine (savedAt_iff fresh wrote inside listed notStats).mpr fun a mem => ?_
    obtain ⟨k, found⟩ := List.mem_iff_getElem?.mp mem
    rw [List.getElem?_take] at found
    split at found
    · rename_i earlier
      exact decide_eq_true fun stats => notStats (last k i a obj earlier found listed stats)
    · cases found
  · rw [rollback_missing]
    rw [rolled.prev, List.getElem?_eq_none_iff]
    have none_after : (t.changeList.drop i).countP saves = 0 := by
      refine List.countP_eq_zero.mpr fun b mem yes => ?_
      obtain ⟨k, found⟩ := List.mem_iff_getElem?.mp mem
      rw [List.getElem?_drop] at found
      refine absurd ?_ (of_decide_eq_true yes)
      cases k with
      | zero => cases listed.symm.trans found; exact stats
      | succ k => exact last i _ obj b (Nat.lt_add_of_pos_right k.succ_pos) listed found stats
    rw [(writeFirst_lists wrote).2.2, fresh, List.length_nil, Nat.zero_add, List.take_length,
      ← List.take_append_drop i t.changeList, List.countP_append, none_after]
    exact List.countP_le_length.trans (List.length_take_le i _)

/-- The saved objects are aligned with the changes exactly when stats objects come last. -/
theorem tracks_iff (fresh : t.prev = [])
    (wrote : writeFirst p o t.changeList.length t = some t') :
    Tracks p o t t' ↔ StatsLast t.changeList :=
  ⟨statsLast_of_tracks fresh wrote, tracks_of_statsLast fresh wrote⟩

end Lists

/-! ## On the bench -/

namespace Bench

/-- Two changes, on a switch with table 1 and counter 4. -/
def transaction (first second : Request) : Transaction where
  sw := after [createTable [.inPort], createCounter 4]
  changeList := [first.obj, second.obj]
  prev := []

/-- Set the packet count of counter 4. -/
def setStats : Request :=
  .on .set .stats [(.statsTableId, 1), (.statsCounterId, 4)]
    [.mk .statsMatchedPackets (bytesU64 17) []]

/-- Both writes succeed. -/
theorem transaction_succeeds (first second : Request)
    (fine : (writeFirst (fun _ => platform) (fun _ => oracle) 2 (transaction first second)).isSome) :
    ∃ t', writeFirst (fun _ => platform) (fun _ => oracle)
      (transaction first second).changeList.length (transaction first second) = some t' :=
  Option.isSome_iff_exists.mp fine

end Bench

theorem tracks_with_stats_last :
    ∃ t', Tracks (fun _ => Bench.platform) (fun _ => Bench.oracle)
      (Bench.transaction (Bench.createCounter 5) Bench.setStats) t' := by
  obtain ⟨t', wrote⟩ := Bench.transaction_succeeds (Bench.createCounter 5)
    Bench.setStats (by decide +kernel)
  refine ⟨t', (tracks_iff rfl wrote).mpr fun i j a b before here there stats => ?_⟩
  have inside : j < 2 := (List.getElem?_eq_some_iff.mp there).1
  obtain ⟨rfl, rfl⟩ : i = 0 ∧ j = 1 := by omega
  cases here
  cases stats

/-- A counter created after a stats SET cannot be rolled back by its index. -/
theorem stats_first_misaligned :
    ¬ ∀ (p : Nat → Platform) (o : Nat → Oracle) (t t' : Transaction), t.prev = [] →
      writeFirst p o t.changeList.length t = some t' → Tracks p o t t' := by
  intro claim
  obtain ⟨t', wrote⟩ := Bench.transaction_succeeds Bench.setStats
    (Bench.createCounter 5) (by decide +kernel)
  have last := statsLast_of_tracks rfl wrote (claim _ _ _ _ rfl wrote)
  exact absurd (last 0 1 _ _ Nat.zero_lt_one rfl rfl rfl) (by decide)

end SonicNasAcl
