import Mathlib.Data.List.DropRight
import Mathlib.Data.List.Infix

/-! Lists written with a delimiter between the items and any blanks around them. Reading drops the
blanks and the items that are nothing else; what is read is clean, and clean items are read back. -/
namespace Delimited
variable {α : Type} [DecidableEq α] {delimiter : α} {blank : α → Bool}

def trim (blank : α → Bool) (text : List α) : List α :=
  ((text.dropWhile blank).reverse.dropWhile blank).reverse

def fields (delimiter : α) (blank : α → Bool) (text : List α) : List (List α) :=
  ((text.splitOn delimiter).map (trim blank)).filter (· ≠ [])

def joined (delimiter : α) (items : List (List α)) : List α := List.intercalate [delimiter] items

structure Clean (delimiter : α) (blank : α → Bool) (item : List α) : Prop where
  filled : item ≠ []
  whole : delimiter ∉ item
  trimmed : trim blank item = item

omit [DecidableEq α] in
theorem trimWithin (text : List α) : trim blank text <:+: text := by
  have last := (List.dropWhile_suffix blank (l := (text.dropWhile blank).reverse)).reverse
  rw [List.reverse_reverse] at last
  exact last.isInfix.trans (List.dropWhile_suffix blank).isInfix

omit [DecidableEq α] in
theorem trimTwice (text : List α) : trim blank (trim blank text) = trim blank text := by
  change List.rdropWhile blank ((trim blank text).dropWhile blank) = _
  have front : (trim blank text).dropWhile blank = trim blank text := by
    rw [List.dropWhile_eq_self_iff]
    intro filled
    have inside : trim blank text <+: text.dropWhile blank := List.rdropWhile_prefix blank _
    have kept : text.dropWhile blank ≠ [] := by
      intro none
      rw [trim,none] at filled
      exact Nat.lt_irrefl 0 filled
    have first := List.head_dropWhile_not blank kept
    rw [List.head_eq_getElem] at first
    rw [inside.getElem filled,first]
    exact Bool.false_ne_true
  rw [front]
  exact List.rdropWhile_idempotent blank _

theorem fieldsAppend (first later : List α) : fields delimiter blank (first ++ delimiter :: later) =
    fields delimiter blank first ++ fields delimiter blank later := by
  simp [fields,List.splitOn_append_cons_of_beq]

theorem fieldsPiece {piece : List α} (whole : delimiter ∉ piece) :
    fields delimiter blank piece = if trim blank piece = [] then [] else [trim blank piece] := by
  rw [fields,List.splitOn_eq_singleton whole]
  split <;> simp [*]

omit [DecidableEq α] in
theorem trimClean {text : List α} (filled : trim blank text ≠ []) (whole : delimiter ∉ text) :
    Clean delimiter blank (trim blank text) :=
  ⟨filled,fun mem => whole ((trimWithin text).subset mem),trimTwice text⟩

theorem fieldsClean (text : List α) :
    ∀ item ∈ fields delimiter blank text, Clean delimiter blank item := by
  induction size : text.length using Nat.strong_induction_on generalizing text with
  | h n ih =>
    subst size
    by_cases more : delimiter ∈ text
    · obtain ⟨first,later,rfl⟩ := List.append_of_mem more
      intro item mem
      rw [fieldsAppend,List.mem_append] at mem
      rcases mem with early | late
      · exact ih _ (by simp) first rfl item early
      · exact ih _ (by simp; omega) later rfl item late
    · intro item mem
      rw [fieldsPiece more] at mem
      split at mem
      · cases mem
      · rename_i filled
        rw [List.mem_singleton.mp mem]
        exact trimClean filled more

theorem fieldsJoined {items : List (List α)}
    (clean : ∀ item ∈ items, Clean delimiter blank item) :
    fields delimiter blank (joined delimiter items) = items := by
  induction items with
  | nil => simp [joined,fields,trim]
  | cons item items ih =>
    have own := clean item List.mem_cons_self
    have read : fields delimiter blank item = [item] := by
      rw [fieldsPiece own.whole,own.trimmed,if_neg own.filled]
    have rest := ih (fun x mem => clean x (List.mem_cons_of_mem item mem))
    cases items with
    | nil => simpa [joined] using read
    | cons next items =>
      have shape : joined delimiter (item :: next :: items) =
          item ++ delimiter :: joined delimiter (next :: items) := by
        simp [joined,List.intercalate]
      rw [shape,fieldsAppend,read,rest]
      rfl

end Delimited
