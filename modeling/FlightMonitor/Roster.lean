import Mathlib.Data.List.Basic

/-! Lists of tasks that only grow. A task keeps its place and its name; what changes is
whether it still waits, and a task that has stopped waiting does not wait again. Beside
such a list a ledger notes one value for each task when it is started. -/
namespace Roster
variable {α β κ : Type} {name : α → κ} {Waits Leaves : α → Prop}
variable {old new : List α} {i : Nat} {task next : α}

inductive Change (name : α → κ) (Waits Leaves : α → Prop) (old : List α) : List α → Prop where
  | started (fresh : List α) : Change name Waits Leaves old (old ++ fresh)
  | ran {i : Nat} {task next : α} (found : old[i]? = some task) (same : name next = name task)
      (woken : Waits next → Waits task) (leaves : Waits task → Waits next ∨ Leaves task) :
      Change name Waits Leaves old (old.set i next)

theorem idle : Change name Waits Leaves old old := by
  have same : Change name Waits Leaves old (old ++ []) := .started []
  rwa [List.append_nil] at same

theorem changeLength (change : Change name Waits Leaves old new) : old.length ≤ new.length := by
  cases change with
  | started fresh => simp
  | ran => simp

theorem setFound {j : Nat} (found : (old.set j next)[i]? = some task) :
    old[i]? = some task ∨ i = j ∧ next = task := by
  by_cases here : j = i
  · subst j
    have inside : i < old.length := by
      have shorter := (List.getElem?_eq_some_iff.mp found).1
      rwa [List.length_set] at shorter
    rw [List.getElem?_set_self inside] at found
    exact .inr ⟨rfl,Option.some.inj found⟩
  · rw [List.getElem?_set_ne here] at found
    exact .inl found

theorem waitsOrigin (change : Change name Waits Leaves old new) (found : new[i]? = some next)
    (waiting : Waits next) :
    (∃ task, old[i]? = some task ∧ name task = name next ∧ Waits task) ∨
      old.length ≤ i ∧ next ∈ new.drop old.length := by
  cases change with
  | started fresh =>
    by_cases early : i < old.length
    · rw [List.getElem?_append_left early] at found
      exact .inl ⟨next,found,rfl,waiting⟩
    · rw [List.getElem?_append_right (by omega)] at found
      rw [List.drop_left]
      exact .inr ⟨by omega,List.mem_of_getElem? found⟩
  | @ran j task' next' origin same woken leaves =>
    rcases setFound found with before | ⟨rfl,rfl⟩
    · exact .inl ⟨next,before,rfl,waiting⟩
    · exact .inl ⟨task',origin,same.symm,woken waiting⟩

theorem waitsOnward (change : Change name Waits Leaves old new) (found : old[i]? = some task)
    (waiting : Waits task) (stays : ¬ Leaves task) :
    ∃ next, new[i]? = some next ∧ name next = name task ∧ Waits next := by
  cases change with
  | started fresh =>
    have inside := (List.getElem?_eq_some_iff.mp found).1
    exact ⟨task,by rwa [List.getElem?_append_left inside],rfl,waiting⟩
  | @ran j task' next' origin same woken leaves =>
    by_cases here : j = i
    · subst j
      cases origin.symm.trans found
      have inside := (List.getElem?_eq_some_iff.mp found).1
      exact ⟨next',List.getElem?_set_self inside,same,(leaves waiting).resolve_right stays⟩
    · exact ⟨task,by rwa [List.getElem?_set_ne here],rfl,waiting⟩

def note (stamp : α → β) (old new : List α) (ledger : List β) : List β :=
  ledger ++ (new.drop old.length).map stamp

theorem noteLength {stamp : α → β} {ledger : List β} (change : Change name Waits Leaves old new)
    (parallel : ledger.length = old.length) : (note stamp old new ledger).length = new.length := by
  have longer := changeLength change
  simp only [note,List.length_append,List.length_map,List.length_drop]
  omega

theorem noteKept {stamp : α → β} {ledger : List β} {b : β} (kept : ledger[i]? = some b) :
    (note stamp old new ledger)[i]? = some b := by
  have inside := (List.getElem?_eq_some_iff.mp kept).1
  rw [note,List.getElem?_append_left inside,kept]

theorem noteFresh {stamp : α → β} {ledger : List β} (parallel : ledger.length = old.length)
    (found : new[i]? = some next) (fresh : old.length ≤ i) :
    (note stamp old new ledger)[i]? = some (stamp next) := by
  rw [note,List.getElem?_append_right (by omega),List.getElem?_map,List.getElem?_drop,parallel,
    Nat.add_sub_cancel' fresh,found]
  rfl

end Roster
