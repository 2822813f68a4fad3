/-
# Lib.Registers -- writing registers, and writing back what they held

Registers are a function from their names to what they hold, and a write sets one of
them.  When a sequence of writes names no register twice, each register it names ends up
with the one value written to it (`writeAll_of_mem`), and the others are left alone
(`writeAll_of_notMem`); so the order does not matter.

`writeAll_undo_iff` is what an undo log must satisfy: a second sequence, over the same
registers, restores them exactly when it writes back what each of them held.
-/
import Mathlib.Data.List.Nodup
import Mathlib.Logic.Function.Basic

namespace SonicNasAcl.Lib

set_option autoImplicit false

variable {ρ V : Type} [DecidableEq ρ]

/-- A sequence of writes. -/
def writeAll (ws : List (ρ × V)) (s : ρ → V) : ρ → V :=
  ws.foldl (fun s w => Function.update s w.1 w.2) s

@[simp] theorem writeAll_nil (s : ρ → V) : writeAll [] s = s := rfl

@[simp] theorem writeAll_cons (w : ρ × V) (ws : List (ρ × V)) (s : ρ → V) :
    writeAll (w :: ws) s = writeAll ws (Function.update s w.1 w.2) := rfl

theorem writeAll_append (ws vs : List (ρ × V)) (s : ρ → V) :
    writeAll (ws ++ vs) s = writeAll vs (writeAll ws s) := List.foldl_append

theorem writeAll_of_notMem {ws : List (ρ × V)} {r : ρ} (other : ∀ w ∈ ws, w.1 ≠ r)
    (s : ρ → V) : writeAll ws s r = s r := by
  induction ws generalizing s with
  | nil => rfl
  | cons w ws ih =>
      rw [writeAll_cons, ih fun w' mem => other w' (List.mem_cons_of_mem _ mem)]
      exact Function.update_of_ne (other w (List.mem_cons_self ..)).symm _ _

theorem writeAll_of_mem {ws : List (ρ × V)} (nodup : (ws.map Prod.fst).Nodup) {r : ρ} {v : V}
    (mem : (r, v) ∈ ws) (s : ρ → V) : writeAll ws s r = v := by
  induction ws generalizing s with
  | nil => cases mem
  | cons w ws ih =>
      obtain ⟨fresh, nodup⟩ := List.nodup_cons.mp nodup
      rw [writeAll_cons]
      cases mem with
      | head =>
          rw [writeAll_of_notMem]
          · exact Function.update_self _ _ _
          · exact fun w' mem' same => fresh (List.mem_map.mpr ⟨w', mem', same⟩)
      | tail _ mem => exact ih nodup mem _

/-- Writing back: registers are restored exactly when each write-back is of what its
register held. -/
theorem writeAll_undo_iff {ws us : List (ρ × V)} (nodup : (us.map Prod.fst).Nodup)
    (same : ∀ r, r ∈ us.map Prod.fst ↔ r ∈ ws.map Prod.fst) (s : ρ → V) :
    writeAll us (writeAll ws s) = s ↔ ∀ u ∈ us, u.2 = s u.1 := by
  constructor
  · intro restored u mem
    rw [← congrFun restored u.1, writeAll_of_mem nodup (show (u.1, u.2) ∈ us from mem)]
  · intro held
    funext r
    by_cases named : r ∈ us.map Prod.fst
    · obtain ⟨u, mem, rfl⟩ := List.mem_map.mp named
      rw [writeAll_of_mem nodup (show (u.1, u.2) ∈ us from mem), held u mem]
    · rw [writeAll_of_notMem fun u mem same' => named (List.mem_map.mpr ⟨u, mem, same'⟩),
        writeAll_of_notMem fun w mem same' =>
          named ((same r).mpr (List.mem_map.mpr ⟨w, mem, same'⟩))]

end SonicNasAcl.Lib
