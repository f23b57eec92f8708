import Mathlib.Algebra.BigOperators.Group.List.Basic
import Mathlib.Algebra.GroupWithZero.Nat
import Mathlib.Data.List.Induction
import Mathlib.Data.List.Perm.Basic
import Mathlib.Order.Lattice
import FlightMonitor.Dict

/-! Dictionaries filled on a walk over a list: the items of each key, in their order, and the
number of items of each key. Sorted by its keys, a dictionary of groups is a partition of the
items into groups with increasing keys. -/
namespace Groups
variable {κ ν : Type}

section Walk
variable [DecidableEq κ]

def add (d : Dict κ (List ν)) (k : κ) (v : ν) : Dict κ (List ν) :=
  d.set k ((d.get k).getD [] ++ [v])

def group (items : List (κ × ν)) : Dict κ (List ν) :=
  items.foldl (fun d item => add d item.1 item.2) .empty

def bump (d : Dict κ Nat) (k : κ) : Dict κ Nat := d.set k ((d.get k).getD 0 + 1)

def tally (start : Dict κ Nat) (keys : List κ) : Dict κ Nat := keys.foldl bump start

def spread (groups : List (κ × List ν)) : List (κ × ν) :=
  groups.flatMap (fun g => g.2.map (fun v => (g.1,v)))

theorem groupConcat (items : List (κ × ν)) (item : κ × ν) :
    group (items ++ [item]) = add (group items) item.1 item.2 := by
  simp [group,List.foldl_append]

theorem spreadPut (k : κ) (v : ν) (groups : List (κ × List ν)) :
    (spread (Dict.put k ((Dict.lookup k groups).getD [] ++ [v]) groups)).Perm
      (spread groups ++ [(k,v)]) := by
  induction groups with
  | nil => exact List.Perm.refl _
  | cons head tail ih =>
    obtain ⟨a,members⟩ := head
    by_cases same : a = k
    · subst a
      simp only [Dict.put,Dict.lookup,if_true,Option.getD_some,spread,List.flatMap_cons,
        List.map_append,List.map_cons,List.map_nil,List.append_assoc]
      exact (List.perm_append_comm).append_left _
    · simp only [Dict.put,Dict.lookup,if_neg same,spread,List.flatMap_cons,List.append_assoc]
      exact ih.append_left _

theorem groupSpread (items : List (κ × ν)) : (spread (group items).entries).Perm items := by
  induction items using List.reverseRecOn with
  | nil => exact List.Perm.refl _
  | append_singleton items item ih =>
    rw [groupConcat]
    exact (spreadPut item.1 item.2 _).trans (ih.append_right _)

theorem groupMembers (items : List (κ × ν)) {k : κ} {members : List ν}
    (found : (group items).get k = some members) : members ≠ [] := by
  induction items using List.reverseRecOn generalizing members with
  | nil => simp [group] at found
  | append_singleton items item ih =>
    rw [groupConcat,add,Dict.getSet] at found
    split at found
    · cases found
      simp
    · exact ih found

theorem sumPut (k : κ) (counts : List (κ × Nat)) :
    ((Dict.put k ((Dict.lookup k counts).getD 0 + 1) counts).map Prod.snd).sum =
      (counts.map Prod.snd).sum + 1 := by
  induction counts with
  | nil => rfl
  | cons head tail ih =>
    obtain ⟨a,n⟩ := head
    by_cases same : a = k
    · subst a
      simp only [Dict.put,Dict.lookup,if_true,Option.getD_some,List.map_cons,List.sum_cons]
      omega
    · simp only [Dict.put,Dict.lookup,if_neg same,List.map_cons,List.sum_cons,ih]
      omega

theorem sumTally (start : Dict κ Nat) (keys : List κ) :
    (tally start keys).values.sum = start.values.sum + keys.length := by
  induction keys generalizing start with
  | nil => rfl
  | cons k keys ih =>
    have once : (bump start k).values.sum = start.values.sum + 1 := sumPut k start.entries
    change (tally (bump start k) keys).values.sum = _
    rw [ih,once,List.length_cons]
    omega

theorem tallyGet {start : Dict κ Nat} {k : κ} {n : Nat} (found : start.get k = some n)
    (keys : List κ) : (tally start keys).get k = some (n + keys.count k) := by
  induction keys generalizing start n with
  | nil => exact found
  | cons a keys ih =>
    change (tally (bump start a) keys).get k = _
    by_cases same : a = k
    · subst a
      have once : (bump start k).get k = some (n + 1) := by simp [bump,found]
      rw [ih once,List.count_cons_self]
      congr 1
      omega
    · have kept : (bump start a).get k = some n := by simp [bump,same,found]
      rw [ih kept,List.count_cons_of_ne same]

end Walk

section Sorted
variable [LinearOrder κ]

def sorted (d : Dict κ ν) : List (κ × ν) := d.entries.mergeSort (fun a b => decide (a.1 ≤ b.1))

theorem sortedPerm (d : Dict κ ν) : (sorted d).Perm d.entries := List.mergeSort_perm ..

theorem sortedStrict (d : Dict κ ν) : (sorted d).Pairwise (fun a b => a.1 < b.1) := by
  have weak : (sorted d).Pairwise (fun a b => decide (a.1 ≤ b.1) = true) :=
    List.pairwise_mergeSort (fun a b c first second => by
        simp only [decide_eq_true_eq] at first second ⊢
        exact first.trans second)
      (fun a b => by simpa using le_total a.1 b.1) d.entries
  have distinct : ((sorted d).map Prod.fst).Nodup :=
    ((sortedPerm d).map Prod.fst).nodup_iff.mpr d.unique
  have apart : (sorted d).Pairwise (fun a b => a.1 ≠ b.1) := List.pairwise_map.mp distinct
  exact weak.imp₂ (fun a b le ne => lt_of_le_of_ne (of_decide_eq_true le) ne) apart

theorem sortedSpread [DecidableEq κ] (items : List (κ × ν)) : (spread (sorted (group items))).Perm items :=
  ((sortedPerm _).flatMap_right _).trans (groupSpread items)

end Sorted
end Groups
