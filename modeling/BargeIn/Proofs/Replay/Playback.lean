import BargeIn.Proofs.Run.Confirmation
import BargeIn.Proofs.Run.StreamEnd
import BargeIn.Proofs.Text.Words
import BargeIn.Replay.Playback

/-!
# What a replay prints

A line that is blank, no event, or a wait of no length that there is leaves the chain as it is,
although the wait gives its tasks an occasion to go on. So, in whatever order they do, a replay can
print what it can print without such lines, at the same times: the reports of what comes out of the
chain when it is fed with the other events.
-/

set_option autoImplicit false

namespace BargeIn.Replay

open Pipeline

/-! ## Lines and events -/

/-- The line is blank, no event, or a wait whose seconds are no duration. -/
def IsVoid (line : String) : Prop :=
  Text.trim line = "" ∨ Event.parse? line = none ∨
    ∃ seconds, Event.parse? line = some (.wait seconds) ∧ nanosOfSeconds? seconds = none

/-- Void lines have been put between some lines, at any places. -/
inductive Padded : List String → List String → Prop
  | nil : Padded [] []
  | keep {lines padded : List String} (line : String) (h : Padded lines padded) :
      Padded (line :: lines) (line :: padded)
  | insert {lines padded : List String} {line : String} (hvoid : IsVoid line)
      (h : Padded lines padded) : Padded lines (line :: padded)

def accepted? (line : String) : Option Event :=
  if Text.trim line = "" then none
  else match Event.parse? line with
    | some (.wait seconds) => (nanosOfSeconds? seconds).map fun _ => .wait seconds
    | event => event

theorem accepted_eq_none_iff (line : String) : accepted? line = none ↔ IsVoid line := by
  unfold accepted? IsVoid
  by_cases hblank : Text.trim line = ""
  · simp [hblank]
  · cases he : Event.parse? line with
    | none => simp [hblank]
    | some event => cases event <;> simp [hblank]

theorem Padded.accepted {lines padded : List String} (h : Padded lines padded) :
    padded.filterMap accepted? = lines.filterMap accepted? := by
  induction h with
  | nil => rfl
  | keep line _ ih => rw [List.filterMap_cons, List.filterMap_cons, ih]
  | insert hvoid _ ih => rw [List.filterMap_cons_none ((accepted_eq_none_iff _).mpr hvoid), ih]

theorem lineOrder_event {line : String} (hblank : Text.trim line ≠ "") {event : Event}
    (hevent : Event.parse? line = some event) (now : Nat) : lineOrder now line = event.order now := by
  unfold lineOrder Reading.ofLine
  rw [if_neg (mt (Text.trim_eq_empty_iff line).mpr hblank), hevent]
  rfl

theorem lines_skim : Skims accepted? lineOrder Event.order where
  kept now line event h := by
    have hblank : Text.trim line ≠ "" := by
      intro hblank
      simp [accepted?, hblank] at h
    have hevent : Event.parse? line = some event := by
      rw [accepted?, if_neg hblank] at h
      split at h
      case h_1 seconds hwait =>
        obtain ⟨nanos, _, rfl⟩ := Option.map_eq_some_iff.mp h
        exact hwait
      case h_2 => exact h
    exact lineOrder_event hblank hevent now
  void now line h := by
    by_cases hblank : Text.trim line = ""
    · left
      rw [lineOrder, Reading.ofLine, if_pos ((Text.trim_eq_empty_iff line).mp hblank)]
      rfl
    · have hrest := ((accepted_eq_none_iff line).mp h).resolve_left hblank
      rcases hrest with hnone | ⟨seconds, hwait, hnone⟩
      · left
        rw [lineOrder, Reading.ofLine, if_neg (mt (Text.trim_eq_empty_iff line).mpr hblank), hnone]
        rfl
      · right
        rw [lineOrder_event hblank hwait, Event.order, Event.pause, hnone]
        rfl

theorem order_unended (now : Nat) (event : Event) (f : Frame) (h : event.order now = .send f) :
    f.isEndOfStream = false := by
  cases event with
  | wait seconds => cases h
  | _ =>
    obtain rfl := Order.send.inj h
    rfl

/-! ## What is printed -/

/-- In some order of what happens, this has been printed when the clock shows this millisecond, and
the end of the recording has been reached or not. -/
def MayPrint (policy : Policy) (conversation : Conversation) (lines : List String) (now : Nat)
    (printed : List (Nat × Report)) (ended : Bool) : Prop :=
  ∃ p, Feeding.Attains lineOrder (Player.unstarted policy conversation) lines p ended ∧
    p.now = now ∧ Player.reports p = printed

theorem reportsOf_takeWhile {output : List (Nat × Frame)} (h : Unfollowed (output.map (·.2))) :
    reportsOf (output.takeWhile (!·.2.isEndOfStream)) = reportsOf output := by
  induction output with
  | nil => rfl
  | cons e output ih =>
    obtain ⟨ms, f⟩ := e
    obtain ⟨hfirst, hlater⟩ := List.pairwise_cons.mp h
    cases hf : f.isEndOfStream with
    | false =>
      have hsame := ih hlater
      unfold reportsOf at hsame ⊢
      rw [List.takeWhile_cons_of_pos (by simp [hf]), List.filterMap_cons, hsame,
        List.filterMap_cons]
    | true =>
      obtain rfl : output = [] := by
        cases output with
        | nil => rfl
        | cons e output => exact nomatch hf.symm.trans (hfirst e.2 (by simp))
      cases f with
      | endOfStream => rfl
      | _ => cases hf

theorem reports_heard {p : Player} (h : Unfollowed (p.output.map (·.2))) :
    p.reports = reportsOf p.heard := by
  apply reportsOf_takeWhile
  rw [Player.heard, List.map_take]
  exact h.sublist (List.take_sublist _ _)

theorem send_end {v : Scene} (hc : v.Calm) :
    (v.rest.send .endOfStream).output = v.output ++ [(v.now, .endOfStream)] := by
  have hquiet : (v.took .endOfStream).listener.handler.deadline = none := rfl
  rw [v.send_took hc, Scene.calm_settled (Scene.quiet_calm hquiet)]
  rfl

theorem driven_end (policy : Policy) (conversation : Conversation) (events : List Event) :
    let run := ((Run.start (interruptionChain policy) conversation 64).drive Event.order events).send
      .endOfStream
    run.reader = .prompt ∧ ∃ early, run.output = early ++ [(run.now, .endOfStream)] := by
  intro run
  obtain ⟨deeds, hpaced, hdrive⟩ :=
    (Run.start (interruptionChain policy) conversation 64).drive_perform Event.order events
  obtain ⟨u, hu, hcalm⟩ := (Scene.steady_opening policy conversation).perform hpaced
  have hrun : run = u.rest.send .endOfStream := by
    rw [← hu, ← Scene.rest_start policy conversation]
    exact congrArg (Run.send · .endOfStream) hdrive
  rw [hrun, send_end hcalm.calm, Run.send_now]
  refine ⟨?_, u.output, rfl⟩
  exact Run.prompt_lasts.settle (t := []) (Run.prompt_lasts.post (t := []) rfl .endOfStream)

/-- Lines that are blank, no event, or a wait whose seconds are no duration make no difference to
what a replay may have printed and when, nor to whether it is over. What it may have printed are the
reports of what may have been taken of the chain's output when the chain is fed with the events of
the other lines, the end of the stream being the last of it. Nor do such lines make a difference if
the tasks go on until none can before each line, and then the end of the stream comes out. -/
theorem void_lines_unseen (policy : Policy) (conversation : Conversation)
    {lines padded : List String} (h : Padded lines padded) :
    let chain := interruptionChain policy
    let events := lines.filterMap accepted?
    let finished := fun lines => ((Player.start policy conversation).playLines lines).finish
    let run := ((Run.start chain conversation 64).drive Event.order events).send .endOfStream
    (∀ now printed ended, MayPrint policy conversation padded now printed ended ↔
      MayPrint policy conversation lines now printed ended) ∧
    (∀ now printed ended, MayPrint policy conversation lines now printed ended ↔
      ∃ p, Feeding.Attains Event.order (.unstarted chain conversation 64) events p ended ∧
        p.now = now ∧ reportsOf (Player.heard p) = printed) ∧
    (∀ p ended, Feeding.Attains Event.order (.unstarted chain conversation 64) events p ended →
      Unfollowed (p.output.map (·.2))) ∧
    (finished padded).reports = (finished lines).reports ∧
    MayPrint policy conversation lines (finished lines).now (finished lines).reports true ∧
    (finished lines).reports = reportsOf run.output ∧
    ∃ early, run.output = early ++ [(run.now, .endOfStream)] := by
  intro chain events finished run
  let first := Run.unstarted chain conversation 64
  have hmay : ∀ {lines now printed ended}, MayPrint policy conversation lines now printed ended ↔
      ∃ p, Feeding.Attains Event.order first (lines.filterMap accepted?) p ended ∧ p.now = now ∧
        Player.reports p = printed := by
    intro lines now printed ended
    exact exists_congr fun p =>
      and_congr_left fun _ => Feeding.attains_picked lines_skim first p lines ended
  have hlast : ∀ {events : List Event} {p ended}, Feeding.Attains Event.order first events p ended →
      Unfollowed (p.output.map (·.2)) := fun hp => attains_unfollowed order_unended (by decide) hp
  have hfinished : ∀ lines, finished lines =
      ((Run.start chain conversation 64).drive Event.order (lines.filterMap accepted?)).send
        .endOfStream := by
    intro lines
    exact congrArg (Run.send · .endOfStream)
      (Feeding.drive_picked lines_skim (Run.settle_ready _) lines)
  have hdriven : Feeding.Attains Event.order first events run true :=
    Feeding.attains_drive Event.order chain (by simp [chain, interruptionChain]) conversation
      (by decide) events
  obtain ⟨hreader, hend⟩ := driven_end policy conversation events
  have hreports : (finished lines).reports = reportsOf run.output := by
    rw [hfinished, reports_heard (hlast hdriven), Player.heard, hreader]
    simp [Reader.unread]
  refine ⟨?_, ?_, fun p ended hp => hlast hp, ?_, ?_, hreports, hend⟩
  · intro now printed ended
    rw [hmay, hmay, h.accepted]
  · intro now printed ended
    rw [hmay]
    exact exists_congr fun p => and_congr_right fun hp => by rw [reports_heard (hlast hp)]
  · rw [hfinished, hfinished, h.accepted]
  · exact hmay.mpr ⟨run, hdriven, by rw [hfinished], by rw [hfinished]⟩

/-- A filler's deadline is due at the end of the wait, and void lines stand on both sides of it. -/
theorem void_lines_unseen_at_deadline :
    let policy : Policy :=
      ⟨{ acknowledgments := ["stopping"] }, .umAndStop, by decide +kernel⟩
    let started := "\x7b\"event\":\"utterance_started\"\x7d"
    let filler := "\x7b\"event\":\"transcript\",\"text\":\"Um.\"\x7d"
    let wait := "\x7b\"event\":\"wait\",\"seconds\":2\x7d"
    let back := "\x7b\"event\":\"wait\",\"seconds\":-1\x7d"
    let lines := [started, filler, wait]
    let padded := [" \t", started, "started", filler, back, wait, "\x7b", back]
    let finished := fun lines => ((Player.start policy {}).playLines lines).finish
    let printed := [(0, Report.awaitingConfirmation 2000), (2000, .interrupt .timeout none)]
    Padded lines padded ∧ (finished padded).reports = printed ∧
      MayPrint policy {} padded 2000 printed true := by
  intro policy started filler wait back lines padded finished printed
  have hvoid : ∀ line ∈ [" \t", "started", back, "\x7b"], IsVoid line := by
    intro line hline
    apply (accepted_eq_none_iff line).mp
    revert line
    decide +kernel
  have hpadded : Padded lines padded :=
    .insert (hvoid _ (by simp)) <| .keep started <| .insert (hvoid _ (by simp)) <| .keep filler <|
      .insert (hvoid _ (by simp)) <| .keep wait <| .insert (hvoid _ (by simp)) <|
        .insert (hvoid _ (by simp)) .nil
  obtain ⟨hmay, _, _, hfinished, hown, _⟩ := void_lines_unseen policy {} hpadded
  have hnow : (finished lines).now = 2000 := by decide +kernel
  have hprinted : (finished lines).reports = printed := by decide +kernel
  refine ⟨hpadded, hfinished.trans hprinted, (hmay 2000 printed true).mpr ?_⟩
  rw [← hnow, ← hprinted]
  exact hown

end BargeIn.Replay
