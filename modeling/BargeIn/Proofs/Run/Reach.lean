import BargeIn.Proofs.Run.Pauses

/-!
# The runs that come about

Tasks make their moves one at a time or let others go first, and at any moment a frame may come
in, the reader take what came out or an end be closed. Only when no task can go on does the next
alarm ring or the clock move on. What each of these keeps holds of a run at every moment.
-/

set_option autoImplicit false

namespace BargeIn.Pipeline.Run

variable {σ ω : Type} [Processor σ ω]

inductive Reachable (chain : Chain σ ω) (conversation : Conversation) (capacity : Nat) :
    Run σ ω → Prop
  | unstarted : Reachable chain conversation capacity (.unstarted chain conversation capacity)
  | step {r r' : Run σ ω} (h : Reachable chain conversation capacity r) (hs : r.step = some r') :
      Reachable chain conversation capacity r'
  | deferred {r : Run σ ω} (h : Reachable chain conversation capacity r) :
      Reachable chain conversation capacity r.defer
  | posted {r : Run σ ω} (h : Reachable chain conversation capacity r)
      (hentry : r.entry = .accepted) (f : Frame) :
      Reachable chain conversation capacity (r.posted f)
  | read {r : Run σ ω} (h : Reachable chain conversation capacity r) (frames : Option Nat) :
      Reachable chain conversation capacity (r.read frames)
  | rung {r : Run σ ω} (h : Reachable chain conversation capacity r) (hr : r.ready = []) {ms : Nat}
      (hn : r.nextAlarm = some ms) : Reachable chain conversation capacity (r.rung ms)
  | clocked {r : Run σ ω} (h : Reachable chain conversation capacity r) (hr : r.ready = [])
      {ms : Nat} (hle : r.now ≤ ms) (hn : ∀ t ∈ r.nextAlarm, ms < t) :
      Reachable chain conversation capacity (r.clocked ms)
  | outputClosed {r : Run σ ω} (h : Reachable chain conversation capacity r) :
      Reachable chain conversation capacity r.closeOutput
  | inputClosed {r : Run σ ω} (h : Reachable chain conversation capacity r) :
      Reachable chain conversation capacity r.closeInput

namespace Reachable

variable {chain : Chain σ ω} {conversation : Conversation} {capacity : Nat} {r : Run σ ω}

/-- What lasts, whether or not the ends are open, holds at every moment if it holds at first. -/
theorem keeps {P : Run σ ω → Prop} (hP : Persists fun _ r => P r)
    (hends : ∀ (r : Run σ ω) (input : Bool) (reader : Reader), P r →
      P { r with inputOpen := input, reader })
    (hfirst : P (.unstarted chain conversation capacity))
    (h : Reachable chain conversation capacity r) : P r := by
  induction h with
  | unstarted => exact hfirst
  | step _ hs ih => exact hP.step [] _ _ ih hs
  | @deferred r _ ih =>
    obtain ⟨ready, hdefer, hready⟩ := r.defer_eq
    rw [hdefer]
    exact hP.aside [] r ready r.now hready ih
  | posted _ hentry f ih => exact hP.posted [] _ f hentry ih
  | read _ frames ih => exact hP.read [] _ frames ih
  | @rung r _ _ ms _ ih =>
    obtain ⟨woken, hwoken, _⟩ := r.wakeAll_eq (r.alarms.filter (·.1 ≤ ms))
    rw [Run.rung, hwoken]
    exact hP.clock (t := []) ih woken ms
  | @clocked r _ _ ms _ _ ih => exact hP.aside [] r r.ready ms (fun _ hi => hi) ih
  | @outputClosed r _ ih =>
    obtain ⟨woken, hclosed⟩ := r.closeOutput_eq
    rw [hclosed]
    exact hP.clock (t := []) (hends r r.inputOpen .gone ih) woken r.now
  | @inputClosed r _ ih =>
    obtain ⟨woken, hclosed⟩ := r.closeInput_eq
    rw [hclosed]
    exact hP.clock (t := []) (hends r false r.reader ih) woken r.now

theorem settle (h : Reachable chain conversation capacity r) :
    Reachable chain conversation capacity r.settle :=
  settle_keeps (fun _ _ => step) h

theorem start (chain : Chain σ ω) (conversation : Conversation) (capacity : Nat) :
    Reachable chain conversation capacity (Run.start chain conversation capacity) :=
  unstarted.settle

theorem post (h : Reachable chain conversation capacity r) (f : Frame) :
    Reachable chain conversation capacity (r.post f) := by
  rcases r.post_eq f with ⟨hentry, hpost⟩ | ⟨_, hpost⟩
  · exact hpost ▸ h.posted hentry f
  · rwa [hpost]

variable [Tame σ]

theorem passUntil (h : Reachable chain conversation capacity r) (hidle : r.Idle) {target k : Nat}
    (hle : r.now ≤ target) (hk : target ≤ r.now + k) :
    Reachable chain conversation capacity (Run.passUntil target k r) := by
  induction k generalizing r with
  | zero =>
    rcases hidle.next_cases target with hlate | ⟨t, _, hlt, hle'⟩
    · exact h.clocked hidle.ready hle hlate
    · omega
  | succ k ih =>
    rcases hidle.next_cases target with hlate | ⟨t, hn, hlt, hle'⟩
    · rw [passUntil_idle hlate]
      exact h.clocked hidle.ready hle hlate
    · have hnow := r.ring_now t
      have hrung : Reachable chain conversation capacity (r.ring t) :=
        (h.rung hidle.ready hn).settle
      rw [passUntil_ring hn hle']
      exact ih hrung (r.ring_idle t) (by omega) (by omega)

theorem sleep (h : Reachable chain conversation capacity r) (htimely : r.Timely) (ms : Nat) :
    Reachable chain conversation capacity (r.sleep ms) := by
  have hnow := r.settle_now
  exact h.settle.passUntil htimely.settle (by omega) (by omega)

theorem deed (h : Reachable chain conversation capacity r) (htimely : r.Timely) (d : Deed) :
    Reachable chain conversation capacity (r.deed d) := by
  cases d with
  | send f => exact (h.post f).settle
  | pause ms => exact h.sleep htimely ms
  | post f => exact h.post f
  | turn =>
    show Reachable chain conversation capacity r.turn
    rcases r.turn_cases with hturn | ⟨_, hturn⟩
    · exact h.step hturn
    · rwa [hturn]
  | defer => exact h.deferred
  | read frames => exact h.read frames
  | closeOutput => exact h.outputClosed
  | closeInput => exact h.inputClosed

theorem perform (h : Reachable chain conversation capacity r) (htimely : r.Timely)
    (deeds : List Deed) : Reachable chain conversation capacity (r.perform deeds) := by
  induction deeds generalizing r with
  | nil => exact h
  | cons d deeds ih => exact ih (h.deed htimely d) (htimely.deed d)

end Reachable

end BargeIn.Pipeline.Run
