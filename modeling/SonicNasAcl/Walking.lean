/-
# Walking -- what a call does not owe to the walks of its maps

A call that reads a request or checks an entry looks elements up by their keys and never
walks a map of them.  Only what writes a list or pushes one depends on the order: an object
filled on one call may list its elements otherwise than on the next, and is read alike.

* `readFilter_walking`, `readAction_walking`: an element is read alike in every call;
* `cpsParseEntryObj_walking`, `incrNewEntry_walking`: and so is a request;
* the checks, and the handlers of tables and counters, agree by definition.
-/
import SonicNasAcl.CpsEntry

namespace SonicNasAcl

set_option autoImplicit false

section Walking

variable (p : Platform) (w : Walks)

/-- The accessor that writes objects walks them; the rest of the table is the same. -/
theorem actionMap_walking (t : ActionType) :
    (actionMap (p.walking w) t).val = (actionMap p t).val ∧
      (actionMap (p.walking w) t).childList = (actionMap p t).childList ∧
      (actionMap (p.walking w) t).name = (actionMap p t).name ∧
      (actionMap (p.walking w) t).setFn = (actionMap p t).setFn := by
  cases t <;> exact ⟨rfl, rfl, rfl, rfl⟩

@[simp] theorem readFilter_walking : readFilter (p.walking w) = readFilter p := rfl

@[simp] theorem readAction_walking : readAction (p.walking w) = readAction p := by
  funext obj v path
  have decode : (p.walking w).actionTypes.decode v = p.actionTypes.decode v := rfl
  unfold readAction
  rw [decode]
  cases p.actionTypes.decode v with
  | none => rfl
  | some t =>
      obtain ⟨val, childList, name, setFn⟩ := actionMap_walking p w t
      dsimp only
      rw [val, childList, name, setFn]
      rfl

@[simp] theorem setActionAttr_walking : setActionAttr (p.walking w) = setActionAttr p := by
  unfold setActionAttr
  rw [readAction_walking]

@[simp] theorem parseEntryAttr_walking : parseEntryAttr (p.walking w) = parseEntryAttr p := by
  unfold parseEntryAttr setActionList
  rw [setActionAttr_walking]
  rfl

@[simp] theorem cpsParseEntryObj_walking :
    cpsParseEntryObj (p.walking w) = cpsParseEntryObj p := by
  unfold cpsParseEntryObj
  rw [parseEntryAttr_walking]

@[simp] theorem incrNewEntry_walking : incrNewEntry (p.walking w) = incrNewEntry p := by
  unfold incrNewEntry incrAction
  rw [setActionAttr_walking]
  rfl

end Walking

end SonicNasAcl
