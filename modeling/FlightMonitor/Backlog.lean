import Mathlib.Data.List.Basic

/-! The way of a message from its reception to a worker: a callback scheduled on the event
loop, then a place in the bounded queue, in the order of arrival, unless the queue is full.
The same way can be taken by anything that was noted about a message when it came in. -/
namespace Backlog
variable {α β : Type}

structure Lane (α : Type) where
  queue : List α := []
  scheduled : List α := []

inductive Op where
  | rests
  | receives
  | enqueues
  | drops
  | takes

def Op.run (a : α) (lane : Lane α) : Op → Lane α
  | .rests => lane
  | .receives => { lane with scheduled := lane.scheduled ++ [a] }
  | .enqueues => ⟨lane.queue ++ lane.scheduled.take 1,lane.scheduled.drop 1⟩
  | .drops => { lane with scheduled := lane.scheduled.drop 1 }
  | .takes => { lane with queue := lane.queue.drop 1 }

def Lane.waiting (lane : Lane α) : List α := lane.queue ++ lane.scheduled

def Lane.map (g : α → β) (lane : Lane α) : Lane β := ⟨lane.queue.map g,lane.scheduled.map g⟩

theorem mapRun (g : α → β) (op : Op) (a : α) (lane : Lane α) :
    (op.run a lane).map g = op.run (g a) (lane.map g) := by
  cases op <;> simp [Op.run,Lane.map,List.map_take]

theorem waitingEnqueues (a : α) (lane : Lane α) : (Op.enqueues.run a lane).waiting = lane.waiting := by
  simp only [Op.run,Lane.waiting,List.append_assoc,List.take_append_drop]

theorem waitingRun (op : Op) (a : α) (lane : Lane α) :
    (op.run a lane).waiting.Sublist (lane.waiting ++ [a]) := by
  have grows : lane.waiting.Sublist (lane.waiting ++ [a]) := List.sublist_append_left ..
  cases op with
  | rests => exact grows
  | receives => simp [Op.run,Lane.waiting]
  | enqueues => rw [waitingEnqueues]; exact grows
  | drops => exact ((List.drop_sublist ..).append_left _).trans grows
  | takes => exact ((List.drop_sublist ..).append_right _).trans grows

theorem waitingLater {op : Op} (quiet : op ≠ .receives) (a : α) (lane : Lane α) :
    (op.run a lane).waiting.Sublist lane.waiting := by
  cases op with
  | receives => exact absurd rfl quiet
  | rests => exact List.Sublist.refl _
  | enqueues => rw [waitingEnqueues]
  | drops => exact (List.drop_sublist ..).append_left _
  | takes => exact (List.drop_sublist ..).append_right _

structure Ledger (α : Type) where
  lane : Lane α := {}
  received : List α := []
  taken : List α := []
  dropped : List α := []

def Ledger.record (a : α) (ledger : Ledger α) (op : Op) : Ledger α where
  lane := op.run a ledger.lane
  received := match op with
    | .receives => ledger.received ++ [a]
    | _ => ledger.received
  taken := match op with
    | .takes => ledger.taken ++ ledger.lane.queue.take 1
    | _ => ledger.taken
  dropped := match op with
    | .drops => ledger.dropped ++ ledger.lane.scheduled.take 1
    | _ => ledger.dropped

structure Ledger.Kept (ledger : Ledger α) : Prop where
  ordered : (ledger.taken ++ ledger.lane.waiting).Sublist ledger.received
  complete : (ledger.taken ++ ledger.lane.waiting ++ ledger.dropped).Perm ledger.received

theorem keptEmpty : Ledger.Kept ({} : Ledger α) := ⟨List.Sublist.refl _,List.Perm.refl _⟩

theorem keptDropped {queue taken dropped received : List α} {a : α} {scheduled : List α}
    (complete : (taken ++ (queue ++ a :: scheduled) ++ dropped).Perm received) :
    (taken ++ (queue ++ scheduled) ++ (dropped ++ [a])).Perm received := by
  refine List.Perm.trans ?_ complete
  simp only [List.append_assoc,List.cons_append]
  refine List.Perm.append_left _ (List.Perm.append_left _ ?_)
  rw [← List.append_assoc]
  exact List.perm_append_comm

theorem keptRecord {ledger : Ledger α} (kept : ledger.Kept) (a : α) (op : Op) :
    (ledger.record a op).Kept := by
  obtain ⟨⟨queue,scheduled⟩,received,taken,dropped⟩ := ledger
  obtain ⟨ordered,complete⟩ := kept
  simp only [Lane.waiting] at ordered complete
  cases op with
  | rests => exact ⟨ordered,complete⟩
  | receives =>
    constructor
    · simpa [Ledger.record,Op.run,Lane.waiting] using ordered.append_right [a]
    · refine List.Perm.trans ?_ (complete.append_right [a])
      simp only [Ledger.record,Op.run,Lane.waiting,List.append_assoc]
      exact List.Perm.append_left _ (List.Perm.append_left _ (List.Perm.append_left _
        List.perm_append_comm))
  | enqueues =>
    have same := waitingEnqueues a (⟨queue,scheduled⟩ : Lane α)
    exact ⟨by simp only [Ledger.record,same]; exact ordered,
      by simp only [Ledger.record,same]; exact complete⟩
  | drops =>
    cases scheduled with
    | nil => exact ⟨ordered,by simpa [Ledger.record,Op.run,Lane.waiting] using complete⟩
    | cons first scheduled =>
      refine ⟨List.Sublist.trans ?_ ordered,keptDropped complete⟩
      exact ((List.sublist_cons_self first scheduled).append_left queue).append_left taken
  | takes =>
    have onward : taken ++ queue.take 1 ++ (queue.drop 1 ++ scheduled) =
        taken ++ (queue ++ scheduled) := by
      simp only [List.append_assoc,← List.append_assoc (queue.take 1),List.take_append_drop]
    constructor
    · simpa only [Ledger.record,Op.run,Lane.waiting,onward] using ordered
    · simpa only [Ledger.record,Op.run,Lane.waiting,onward] using complete

theorem takenOnward (ledger : Ledger α) (a : α) (op : Op) :
    (ledger.taken ++ ledger.lane.queue) <+:
      (ledger.record a op).taken ++ (ledger.record a op).lane.queue := by
  obtain ⟨⟨queue,scheduled⟩,received,taken,dropped⟩ := ledger
  cases op with
  | rests | receives | drops => exact List.prefix_refl _
  | enqueues =>
    simp only [Ledger.record,Op.run,← List.append_assoc]
    exact List.prefix_append ..
  | takes =>
    simp only [Ledger.record,Op.run,List.append_assoc,List.take_append_drop]
    exact List.prefix_refl _

theorem takenGrows (ledger : Ledger α) (a : α) (op : Op) :
    ledger.taken <+: (ledger.record a op).taken := by
  cases op with
  | takes => exact List.prefix_append ..
  | _ => exact List.prefix_refl _

theorem scheduledLater {op : Op} (quiet : op ≠ .receives) (a : α) (lane : Lane α) :
    (op.run a lane).scheduled <:+ lane.scheduled := by
  cases op with
  | receives => exact absurd rfl quiet
  | enqueues | drops => exact List.drop_suffix ..
  | rests | takes => exact List.suffix_refl _

end Backlog
