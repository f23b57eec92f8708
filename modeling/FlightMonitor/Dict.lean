import Mathlib.Data.List.Nodup

/-! Dictionaries with unique keys in insertion order. Overwriting a key keeps its
place, deleting it frees the place, and a later insertion goes to the end, so a
walk over the values is a walk in the order of the surviving insertions. -/

structure Dict (κ ν : Type) where
  entries : List (κ × ν)
  unique : (entries.map Prod.fst).Nodup

namespace Dict
variable {κ ν : Type}

section Raw
variable [DecidableEq κ]

def lookup (k : κ) : List (κ × ν) → Option ν
  | [] => none
  | (k',v) :: rest => if k' = k then some v else lookup k rest

def put (k : κ) (v : ν) : List (κ × ν) → List (κ × ν)
  | [] => [(k,v)]
  | (k',v') :: rest => if k' = k then (k,v) :: rest else (k',v') :: put k v rest

theorem lookupPut (k k' : κ) (v : ν) (entries : List (κ × ν)) :
    lookup k' (put k v entries) = if k = k' then some v else lookup k' entries := by
  induction entries with
  | nil => simp [put,lookup]
  | cons head tail ih =>
    obtain ⟨a,b⟩ := head
    by_cases same : a = k
    · subst a; simp only [put,if_true,lookup]; split <;> rfl
    · by_cases here : a = k'
      · subst a; simp [put,lookup,same,Ne.symm same]
      · simp [put,lookup,same,here,ih]

theorem keysPut (k k' : κ) (v : ν) (entries : List (κ × ν)) :
    k' ∈ (put k v entries).map Prod.fst ↔ k' = k ∨ k' ∈ entries.map Prod.fst := by
  induction entries with
  | nil => simp [put]
  | cons head tail ih =>
    obtain ⟨a,b⟩ := head
    by_cases same : a = k
    · subst a; simp [put]
    · simp only [put,if_neg same,List.map_cons,List.mem_cons,ih]; tauto

theorem putUnique (k : κ) (v : ν) {entries : List (κ × ν)}
    (unique : (entries.map Prod.fst).Nodup) : ((put k v entries).map Prod.fst).Nodup := by
  induction entries with
  | nil => simp [put]
  | cons head tail ih =>
    obtain ⟨a,b⟩ := head
    rw [List.map_cons,List.nodup_cons] at unique
    by_cases same : a = k
    · subst a; simpa [put] using unique
    · simp only [put,if_neg same,List.map_cons,List.nodup_cons,keysPut,not_or]
      exact ⟨⟨same,unique.1⟩,ih unique.2⟩

theorem lookupFilter (k k' : κ) (entries : List (κ × ν)) :
    lookup k' (entries.filter (fun e => e.1 ≠ k)) = if k = k' then none else lookup k' entries := by
  induction entries with
  | nil => simp [lookup]
  | cons head tail ih =>
    obtain ⟨a,b⟩ := head
    by_cases same : a = k
    · subst a; simp only [ne_eq,not_true_eq_false,decide_false,Bool.false_eq_true,
        not_false_eq_true,List.filter_cons_of_neg,lookup] at ih ⊢
      rw [ih]; split <;> rfl
    · by_cases here : a = k'
      · subst a; simp [lookup,same,Ne.symm same]
      · simpa [lookup,same,here] using ih

theorem lookupMem {k : κ} {v : ν} {entries : List (κ × ν)}
    (unique : (entries.map Prod.fst).Nodup) : (k,v) ∈ entries ↔ lookup k entries = some v := by
  induction entries with
  | nil => simp [lookup]
  | cons head tail ih =>
    obtain ⟨a,b⟩ := head
    rw [List.map_cons,List.nodup_cons] at unique
    by_cases same : a = k
    · subst a
      have absent : (k,v) ∉ tail := fun mem => unique.1 (List.mem_map.mpr ⟨_,mem,rfl⟩)
      simp [lookup,absent,eq_comm]
    · simp [lookup,same,ih unique.2,Ne.symm same]

theorem lookupMap {μ : Type} (f : κ → ν → μ) (k : κ) (entries : List (κ × ν)) :
    lookup k (entries.map (fun e => (e.1,f e.1 e.2))) = (lookup k entries).map (f k) := by
  induction entries with
  | nil => rfl
  | cons head tail ih =>
    obtain ⟨a,b⟩ := head
    by_cases same : a = k
    · subst a; simp [lookup]
    · simp [lookup,same,ih]
end Raw

def empty : Dict κ ν := ⟨[],List.nodup_nil⟩

def values (d : Dict κ ν) : List ν := d.entries.map Prod.snd

def size (d : Dict κ ν) : Nat := d.entries.length

def mapValues {μ : Type} (f : κ → ν → μ) (d : Dict κ ν) : Dict κ μ :=
  ⟨d.entries.map (fun e => (e.1,f e.1 e.2)),by simpa [Function.comp_def] using d.unique⟩

variable [DecidableEq κ]

def get (d : Dict κ ν) (k : κ) : Option ν := lookup k d.entries

def set (d : Dict κ ν) (k : κ) (v : ν) : Dict κ ν := ⟨put k v d.entries,putUnique k v d.unique⟩

def erase (d : Dict κ ν) (k : κ) : Dict κ ν :=
  ⟨d.entries.filter (fun e => e.1 ≠ k),
    List.Nodup.sublist (List.filter_sublist.map Prod.fst) d.unique⟩

def modify (d : Dict κ ν) (k : κ) (f : ν → ν) : Dict κ ν :=
  d.mapValues (fun k' v => if k' = k then f v else v)

@[simp] theorem getEmpty (k : κ) : (empty : Dict κ ν).get k = none := rfl

@[simp] theorem getSet (d : Dict κ ν) (k k' : κ) (v : ν) :
    (d.set k v).get k' = if k = k' then some v else d.get k' := lookupPut k k' v d.entries

@[simp] theorem getErase (d : Dict κ ν) (k k' : κ) :
    (d.erase k).get k' = if k = k' then none else d.get k' := lookupFilter k k' d.entries

@[simp] theorem getMapValues {μ : Type} (f : κ → ν → μ) (d : Dict κ ν) (k : κ) :
    (d.mapValues f).get k = (d.get k).map (f k) := lookupMap f k d.entries

@[simp] theorem getModify (d : Dict κ ν) (k k' : κ) (f : ν → ν) :
    (d.modify k f).get k' = if k = k' then (d.get k').map f else d.get k' := by
  simp only [modify,getMapValues]
  by_cases same : k = k'
  · subst k'; simp
  · cases d.get k' <;> simp [same,Ne.symm same]

theorem memEntries {d : Dict κ ν} {k : κ} {v : ν} : (k,v) ∈ d.entries ↔ d.get k = some v :=
  lookupMem d.unique

theorem memValues {d : Dict κ ν} {v : ν} : v ∈ d.values ↔ ∃ k, d.get k = some v := by
  simp only [values,List.mem_map,Prod.exists,memEntries]
  constructor
  · intro entry
    obtain ⟨k,w,found,rfl⟩ := entry
    exact ⟨k,found⟩
  · intro entry
    obtain ⟨k,found⟩ := entry
    exact ⟨k,v,found,rfl⟩

end Dict
