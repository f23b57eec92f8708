import Mathlib.Data.List.Infix

/-! Runs of a deterministic transition system driven by a list of events, oldest
first. Facts about a run are proved by adding one event at its end; a history
variable records what the state forgets; and a property that first fails at the
step where a guard fails is equivalent to the guard holding at every step. -/
namespace Trace
variable {σ ε γ : Type} (step : σ → ε → σ) (start : σ)

def final (events : List ε) : σ := events.foldl step start

@[simp] theorem finalNil : final step start [] = start := rfl

@[simp] theorem finalConcat (events : List ε) (e : ε) :
    final step start (events ++ [e]) = step (final step start events) e := by
  simp [final,List.foldl_append]

theorem finalAppend (first later : List ε) :
    final step start (first ++ later) = final step (final step start first) later := by
  simp [final,List.foldl_append]

def history (note : γ → σ → ε → γ) (blank : γ) (events : List ε) : γ :=
  (final (fun p e => (step p.1 e,note p.2 p.1 e)) (start,blank) events).2

theorem historyState (note : γ → σ → ε → γ) (blank : γ) (events : List ε) :
    (final (fun p e => (step p.1 e,note p.2 p.1 e)) (start,blank) events).1 =
      final step start events := by
  induction events using List.reverseRecOn with
  | nil => rfl
  | append_singleton events e ih => simp only [finalConcat,ih]

@[simp] theorem historyNil (note : γ → σ → ε → γ) (blank : γ) :
    history step start note blank [] = blank := rfl

@[simp] theorem historyConcat (note : γ → σ → ε → γ) (blank : γ) (events : List ε) (e : ε) :
    history step start note blank (events ++ [e]) =
      note (history step start note blank events) (final step start events) e := by
  simp only [history,finalConcat,historyState]

def count (p : σ → ε → Prop) [∀ s e, Decidable (p s e)] (events : List ε) : Nat :=
  history step start (fun n s e => if p s e then n + 1 else n) 0 events

@[simp] theorem countNil (p : σ → ε → Prop) [∀ s e, Decidable (p s e)] :
    count step start p [] = 0 := rfl

@[simp] theorem countConcat (p : σ → ε → Prop) [∀ s e, Decidable (p s e)] (events : List ε) (e : ε) :
    count step start p (events ++ [e]) =
      if p (final step start events) e then count step start p events + 1
      else count step start p events := by
  simp only [count,historyConcat]

theorem invariant {P : σ → Prop} (init : P start) (keep : ∀ s e, P s → P (step s e))
    (events : List ε) : P (final step start events) := by
  induction events using List.reverseRecOn with
  | nil => exact init
  | append_singleton events e ih => rw [finalConcat]; exact keep _ e ih

/-! Properties of histories. `Throughout` speaks of every moment of a run, `Meets`
of every step, given the events before it. -/

def Throughout (Good : List ε → Prop) (events : List ε) : Prop :=
  ∀ before, before <+: events → Good before

def Meets (Cond : List ε → ε → Prop) (events : List ε) : Prop :=
  ∀ before e, before ++ [e] <+: events → Cond before e

theorem throughoutNil {Good : List ε → Prop} : Throughout Good [] ↔ Good [] := by
  simp [Throughout]

theorem throughoutConcat {Good : List ε → Prop} {events : List ε} {e : ε} :
    Throughout Good (events ++ [e]) ↔ Throughout Good events ∧ Good (events ++ [e]) := by
  simp only [Throughout,List.prefix_concat_iff]
  constructor
  · intro h
    exact ⟨fun p hp => h p (Or.inr hp),h _ (Or.inl rfl)⟩
  · intro both p within
    obtain ⟨early,last⟩ := both
    rcases within with rfl | hp
    · exact last
    · exact early p hp

theorem meetsNil {Cond : List ε → ε → Prop} : Meets Cond [] := by
  simp [Meets]

theorem meetsConcat {Cond : List ε → ε → Prop} {events : List ε} {e : ε} :
    Meets Cond (events ++ [e]) ↔ Meets Cond events ∧ Cond events e := by
  simp only [Meets,List.prefix_concat_iff]
  constructor
  · intro h
    exact ⟨fun p x hp => h p x (Or.inr hp),h _ _ (Or.inl rfl)⟩
  · intro both p x within
    obtain ⟨early,last⟩ := both
    rcases within with same | hp
    · obtain ⟨front,back⟩ := List.append_inj' same rfl
      subst front; cases back; exact last
    · exact early p x hp

theorem meetsPrefix {Cond : List ε → ε → Prop} {first events : List ε} (meets : Meets Cond events)
    (within : first <+: events) : Meets Cond first :=
  fun before e inside => meets before e (inside.trans within)

theorem meetsSingle {Cond : List ε → ε → Prop} {e : ε} : Meets Cond [e] ↔ Cond [] e := by
  rw [← List.nil_append [e],meetsConcat]
  exact and_iff_right meetsNil

theorem meetsAppend {Cond : List ε → ε → Prop} {first later : List ε} :
    Meets Cond (first ++ later) ↔
      Meets Cond first ∧ Meets (fun before e => Cond (first ++ before) e) later := by
  induction later using List.reverseRecOn with
  | nil => simp [meetsNil]
  | append_singleton later e ih => rw [← List.append_assoc,meetsConcat,meetsConcat,ih,and_assoc]

theorem meetsTake {Cond : List ε → ε → Prop} {events : List ε} :
    Meets Cond events ↔ ∀ n (h : n < events.length), Cond (events.take n) (events.get ⟨n,h⟩) := by
  constructor
  · intro meets n h
    refine meets _ _ ?_
    rw [List.get_eq_getElem,List.take_append_getElem]
    exact List.take_prefix ..
  · intro all before e within
    obtain ⟨rest,rfl⟩ := within
    have last := all before.length (by simp)
    simpa using last

def First {α : Type} (trigger : List ε → ε → Option α) (events : List ε) : Option α → Prop
  | none => Meets (fun before e => trigger before e = none) events
  | some a => ∃ before e, before ++ [e] <+: events ∧
      Meets (fun before e => trigger before e = none) before ∧ trigger before e = some a

theorem firstNil {α : Type} (trigger : List ε → ε → Option α) : First trigger [] none := meetsNil

theorem firstConcat {α : Type} {trigger : List ε → ε → Option α} {events : List ε} {first : Option α}
    (holds : First trigger events first) (e : ε) :
    First trigger (events ++ [e]) (first.or (trigger events e)) := by
  cases first with
  | some a =>
    obtain ⟨before,x,within,calm,fires⟩ := holds
    exact ⟨before,x,within.trans (List.prefix_append ..),calm,fires⟩
  | none =>
    cases fires : trigger events e with
    | none => exact meetsConcat.mpr ⟨holds,fires⟩
    | some a => exact ⟨events,e,List.prefix_refl _,holds,fires⟩

instance {Cond : List ε → ε → Prop} [∀ before e, Decidable (Cond before e)] (events : List ε) :
    Decidable (Meets Cond events) := decidable_of_iff _ meetsTake.symm

theorem guardedInvariant (Inv : List ε → Prop) {Cond : List ε → ε → Prop} (init : Inv [])
    (keep : ∀ events e, Inv events → Cond events e → Inv (events ++ [e]))
    {events : List ε} (guarded : Meets Cond events) : Inv events := by
  induction events using List.reverseRecOn with
  | nil => exact init
  | append_singleton events e ih =>
    obtain ⟨early,last⟩ := meetsConcat.mp guarded
    exact keep events e (ih early) last

/-- If guarded steps keep an invariant that implies `Good`, and an unguarded step
from the invariant makes `Good` fail, the runs that are good throughout are the
runs whose every step meets the guard. -/
theorem goodIffGuarded (Inv : List ε → Prop) {Good : List ε → Prop} {Cond : List ε → ε → Prop}
    (init : Inv [])
    (good : ∀ events, Inv events → Good events)
    (keep : ∀ events e, Inv events → Cond events e → Inv (events ++ [e]))
    (fails : ∀ events e, Inv events → ¬ Cond events e → ¬ Good (events ++ [e]))
    (events : List ε) : Throughout Good events ↔ Meets Cond events := by
  induction events using List.reverseRecOn with
  | nil => exact ⟨fun _ => meetsNil,fun _ => throughoutNil.mpr (good _ init)⟩
  | append_singleton events e ih =>
    rw [throughoutConcat,meetsConcat,ih]
    refine and_congr_right (fun early => ?_)
    have inv : Inv events := guardedInvariant Inv init keep early
    constructor
    · intro holds
      by_contra unguarded
      exact fails events e inv unguarded holds
    · intro guarded
      exact good _ (keep events e inv guarded)

end Trace
