import Mathlib.Algebra.Order.Field.Basic
import Mathlib.Tactic.Linarith

/-! A running summary of samples: their total, their number and the highest of them, zero before
the first. For samples that are not negative the average lies between zero and the highest. -/
structure Summary (α : Type) where
  total : α
  count : Nat
  highest : α

namespace Summary
variable {α : Type}

def blank [Zero α] : Summary α := ⟨0,0,0⟩

def observe [Add α] [Max α] (s : Summary α) (x : α) : Summary α :=
  ⟨s.total + x,s.count + 1,max s.highest x⟩

def average [Zero α] [Div α] [NatCast α] (s : Summary α) : α :=
  if 0 < s.count then s.total / s.count else 0

section
variable [Field α] [LinearOrder α] [IsStrictOrderedRing α]

structure Sound (s : Summary α) : Prop where
  total : 0 ≤ s.total
  highest : 0 ≤ s.highest
  bound : s.total ≤ s.count * s.highest

omit [IsStrictOrderedRing α] in
theorem soundBlank : Sound (blank : Summary α) := ⟨le_refl _,le_refl _,by simp [blank]⟩

theorem soundObserve {s : Summary α} {x : α} (sound : Sound s) (sample : 0 ≤ x) :
    Sound (s.observe x) := by
  have raised : s.highest ≤ max s.highest x := le_max_left ..
  refine ⟨add_nonneg sound.total sample,sound.highest.trans raised,?_⟩
  have kept : (s.count : α) * s.highest ≤ s.count * max s.highest x :=
    mul_le_mul_of_nonneg_left raised (Nat.cast_nonneg _)
  have last : x ≤ max s.highest x := le_max_right ..
  have within := sound.bound
  simp only [observe,Nat.cast_add,Nat.cast_one,add_mul,one_mul]
  linarith

theorem soundAverage {s : Summary α} (sound : Sound s) : 0 ≤ s.average ∧ s.average ≤ s.highest := by
  unfold average
  split
  · rename_i sampled
    have positive : (0 : α) < s.count := Nat.cast_pos.mpr sampled
    refine ⟨div_nonneg sound.total positive.le,?_⟩
    rw [div_le_iff₀ positive,mul_comm]
    exact sound.bound
  · exact ⟨le_refl _,sound.highest⟩

end

end Summary
