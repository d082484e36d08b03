import Mathlib.Control.Monad.Basic
import BargeIn.Proofs.Lexicon.Classification
import BargeIn.Proofs.Pipeline.Calls

/-!
# Stop commands

A phrase given as a stop phrase at the beginning is obeyed for good. Nothing that is learned later
hides it, and neither the settings nor a deadline come before it: wherever the phrase occurs in
speech the utterance under way ends, and the next acknowledgment is withheld.
-/

set_option autoImplicit false

namespace BargeIn.Pipeline

open Text

theorem create_eq {config : Policy.Config} {classifier : Classifier} {policy : Policy}
    (h : Policy.create config classifier = .ok policy) :
    policy.config = config ∧ policy.classifier = classifier := by
  simp only [Policy.create] at h
  split at h
  · obtain rfl := Except.ok.inj h
    exact ⟨rfl, rfl⟩
  · simp at h

namespace Listener

/-- A stop phrase from the beginning is still recognized after any calls. -/
theorem after_hears_stop (l : Listener) (calls : List Call) (hv : l.vocabulary.Reachable)
    (run : List String) (hk : l.vocabulary.isStop (joinWords run) = true) (f : Fragment)
    (hr : run <:+: tokenize f.text) : ((l.after calls).handler.classify f).isStop = true := by
  have hc := after_continues l calls
  refine (Classifier.classify_isStop_iff _ (hc.reachable hv).wellFormed f.text).mpr ⟨run, hr, ?_⟩
  exact (congrFun (Vocabulary.isStop_congr hc.stops) _).trans hk

theorem call_stop_open (l : Listener) (f : Fragment) (session : Session)
    (hs : l.handler.session = some session) (hi : session.isInterrupted = false)
    (hc : (l.handler.classify f).isStop = true) :
    (l.call (.process (.transcript f))).1 =
        [.interrupt .stopCommand (some f.text), .transcript f] ∧
      (l.call (.process (.transcript f))).2.handler.session =
        some (session.interrupt .stopCommand) := by
  simp [call, Handler.process, Handler.hear_open _ _ f session hs,
    Policy.transition_stop _ f _ session hi hc, Decision.frame]

theorem call_silent (l : Listener) (f : Fragment) (hs : l.handler.session = none) :
    (l.call (.process (.transcript f))).1 = [.transcript f] ∧
      (l.call (.process (.transcript f))).2.handler.session = none := by
  simp [call, Handler.process, Handler.hear_silent _ _ f hs, Decision.frame, hs]

theorem call_interrupted (l : Listener) (f : Fragment) (hi : l.handler.isInterrupted = true) :
    (l.call (.process (.transcript f))).1 = [.transcript f] ∧
      (l.call (.process (.transcript f))).2.handler.session = l.handler.session := by
  cases hs : l.handler.session with
  | none => simp [Handler.isInterrupted, hs] at hi
  | some session =>
    have hi : session.isInterrupted = true := by simpa [Handler.isInterrupted, hs] using hi
    simp [call, Handler.process, Handler.hear_open _ _ f session hs,
      Policy.transition_interrupted _ f _ session hi, Decision.frame]

/-- However the handler has been called before, a stop phrase it was built with ends the
utterance under way and arms the suppressor; after an interruption it changes nothing. -/
theorem stop_command_wins {fillers : List (Option Language × String)} {stops : List String}
    {vocabulary : Vocabulary} (hv : Vocabulary.build fillers stops = .ok vocabulary)
    {config : Policy.Config} {enabled : Bool} {policy : Policy}
    (hp : Policy.create config ⟨vocabulary, enabled⟩ = .ok policy)
    (suppressor : Suppressor) (conversation : Conversation) (calls : List Call) (f : Fragment)
    {stop entry : String} (hs : stop ∈ stops) (he : normalizeEntry stop = some entry)
    (hr : tokenize stop <:+: tokenize f.text) :
    let l := Listener.after ⟨⟨policy, none⟩, suppressor, conversation⟩ calls
    let out := (l.call (.process (.transcript f))).1
    let next := (l.call (.process (.transcript f))).2
    (∀ session, l.handler.session = some session → session.isInterrupted = false →
      out = [.interrupt .stopCommand (some f.text), .transcript f] ∧
      next.handler.session = some (session.interrupt .stopCommand)) ∧
    (l.handler.session = none → out = [.transcript f] ∧ next.handler.session = none) ∧
    (l.handler.isInterrupted = false → next.suppressor =
      { l.suppressor with armedUntil := f.receivedAt.add? suppressor.window }) ∧
    (l.handler.isInterrupted = true → out = [.transcript f] ∧
      next.handler.session = l.handler.session ∧ next.suppressor = l.suppressor) := by
  intro l out next
  obtain ⟨-, rfl⟩ := (normalizeEntry_eq_some_iff stop entry).mp he
  have hpc := (create_eq hp).2
  have hbuilt : (Listener.vocabulary ⟨⟨policy, none⟩, suppressor, conversation⟩) = vocabulary :=
    congrArg Classifier.vocabulary hpc
  have hc : (l.handler.classify f).isStop = true := by
    apply after_hears_stop _ calls _ _ _ f hr
    · rw [hbuilt]
      exact .built hv
    · rw [hbuilt]
      exact Vocabulary.build_isStop hv hs he
  have hw : l.suppressor.window = suppressor.window := (after_continues _ calls).window
  have hsup := call_transcript_suppressor l f
  refine ⟨fun session ho hi => call_stop_open l f session ho hi hc, call_silent l f, ?_, ?_⟩
  · intro hi
    rw [hi, hc] at hsup
    rw [← hw]
    exact hsup
  · intro hi
    rw [hi] at hsup
    exact ⟨(call_interrupted l f hi).1, (call_interrupted l f hi).2, hsup⟩

/-- The phrase has been sent in as a filler, fillers are not looked for, and the deadline of an
earlier fragment has passed. -/
theorem stop_command_wins_past_deadline :
    ∃ policy, Policy.create {} ⟨⟨[("um", none)], ["hold on"], 1, 2⟩, false⟩ = .ok policy ∧
      let l := Listener.after ⟨⟨policy, none⟩, .ofPhrases ["ok"] 5, {}⟩
        [.process (.utteranceStarted ⟨0⟩),
          .process (.transcript { text := "hello", receivedAt := ⟨0⟩ }),
          .process (.control (.addIgnoredWords ["Hold on."]))]
      let f : Fragment := { text := "Please, HOLD on!", receivedAt := ⟨9000000000⟩ }
      l.handler.deadline = some ⟨2000000000⟩ ∧
      (l.call (.process (.transcript f))).1 =
        [.interrupt .stopCommand (some "Please, HOLD on!"), .transcript f] := by
  have hv : Vocabulary.build [(none, "Um")] ["Hold on"] =
      .ok ⟨[("um", none)], ["hold on"], 1, 2⟩ := by decide +kernel
  have hp : Policy.create {} ⟨⟨[("um", none)], ["hold on"], 1, 2⟩, false⟩ =
      .ok ⟨{}, ⟨⟨[("um", none)], ["hold on"], 1, 2⟩, false⟩, by decide +kernel⟩ := by
    decide +kernel
  refine ⟨_, hp, by decide +kernel, ?_⟩
  have hw := (stop_command_wins hv hp (.ofPhrases ["ok"] 5) {}
    [.process (.utteranceStarted ⟨0⟩),
      .process (.transcript { text := "hello", receivedAt := ⟨0⟩ }),
      .process (.control (.addIgnoredWords ["Hold on."]))]
    { text := "Please, HOLD on!", receivedAt := ⟨9000000000⟩ }
    (List.mem_singleton.mpr rfl) (by decide +kernel : normalizeEntry "Hold on" = some "hold on")
    ⟨["please"], [], by decide +kernel⟩).1
  exact (hw ⟨.pending ⟨0⟩ ⟨2000000000⟩, ⟨0⟩, 0⟩ (by decide +kernel) rfl).1

end Listener

end BargeIn.Pipeline
