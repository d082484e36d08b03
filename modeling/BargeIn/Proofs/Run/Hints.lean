import BargeIn.Proofs.Pipeline.Standard
import BargeIn.Proofs.Run.Lockstep

/-!
# Hints and other remarks

A recognizer remarks on a fragment whether it is final and in which language it is, and an utterance
comes with the time of its start. Nothing is decided by any of this, nor by what a stage knows of
the conversation: two inputs that differ only in it go through the standard chain in lockstep.
-/

set_option autoImplicit false

namespace BargeIn

theorem filter_map_fixed {α : Type} {g : α → α} {p : α → Bool} (hp : ∀ a, p (g a) = p a)
    (hg : ∀ a, p a = true → g a = a) (as : List α) : (as.map g).filter p = as.filter p := by
  rw [List.filter_map, show p ∘ g = p from funext hp]
  exact (List.map_congr_left fun a ha => hg a (List.mem_filter.mp ha).2).trans (List.map_id _)

/-! ## What is passed over -/

def Fragment.unhinted (f : Fragment) : Fragment :=
  { f with isFinal := true, language := none }

theorem Fragment.unhinted_same {x y : Fragment} (h : x.unhinted = y.unhinted) :
    x.text = y.text ∧ x.receivedAt = y.receivedAt := by
  obtain ⟨htext, _, _, hreceived, _⟩ := Fragment.mk.inj h
  exact ⟨htext, hreceived⟩

def Frame.unhinted : Frame → Frame
  | .transcript f => .transcript f.unhinted
  | .utteranceStarted _ => .utteranceStarted .origin
  | f => f

def Session.undated (s : Session) : Session :=
  { s with startedAt := .origin }

namespace Frame

theorem unhinted_decision {f : Frame} (h : f.isDecision = true) : f.unhinted = f := by
  cases f with
  | transcript | utteranceStarted => cases h
  | _ => rfl

theorem unhinted_isDecision (f : Frame) : f.unhinted.isDecision = f.isDecision := by
  cases f <;> rfl

theorem filter_unhinted (frames : List Frame) :
    (frames.map unhinted).filter isDecision = frames.filter isDecision :=
  filter_map_fixed unhinted_isDecision (fun _ => unhinted_decision) frames

theorem unhinted_cases {f g : Frame} (h : f.unhinted = g.unhinted) :
    (∃ x y : Fragment, f = .transcript x ∧ g = .transcript y ∧ x.unhinted = y.unhinted) ∨
      (∃ s t, f = .utteranceStarted s ∧ g = .utteranceStarted t) ∨
      f = g ∧ (∀ x, f ≠ .transcript x) ∧ ∀ s, f ≠ .utteranceStarted s := by
  cases f with
  | transcript x =>
    cases g with
    | transcript y => exact .inl ⟨x, y, rfl, rfl, Frame.transcript.inj h⟩
    | _ => cases h
  | utteranceStarted s =>
    cases g with
    | utteranceStarted t => exact .inr (.inl ⟨s, t, rfl, rfl⟩)
    | _ => cases h
  | _ =>
    cases g <;> cases h
    exact .inr (.inr ⟨rfl, by simp, by simp⟩)

end Frame

namespace Policy

theorem transition_undated (c : Config) (f : Fragment) (heard : Classification) (s : Session) :
    c.transition f heard s.undated =
      ((c.transition f heard s).1, (c.transition f heard s).2.undated) := by
  obtain ⟨state, startedAt, count⟩ := s
  cases state with
  | interrupted reason => rfl
  | pending since deadline =>
    simp only [Config.transition, Session.undated]
    split
    · rfl
    · split
      · rfl
      · split
        · rfl
        · split <;> rfl
  | speaking =>
    simp only [Config.transition, Session.undated]
    split
    · rfl
    · split
      · rfl
      · split
        · rfl
        · split <;> rfl

theorem poll_undated (s : Session) (now : Instant) :
    poll s.undated now = ((poll s now).1, (poll s now).2.undated) := by
  obtain ⟨state, startedAt, count⟩ := s
  cases state with
  | pending since deadline =>
    simp only [poll, Session.undated]
    split <;> rfl
  | _ => rfl

/-- A decision depends neither on remarks on the fragment nor on the start of the utterance. -/
theorem decide_undated (p : Policy) {f g : Fragment} (hfg : f.unhinted = g.unhinted)
    {s t : Session} (hst : s.undated = t.undated) :
    (p.decide f s).1 = (p.decide g t).1 ∧
      (p.decide f s).2.undated = (p.decide g t).2.undated := by
  have hpassed : ∀ (f : Fragment) (s : Session), p.decide f.unhinted s.undated =
      ((p.decide f s).1, (p.decide f s).2.undated) := by
    intro f s
    have ht := transition_undated p.config f (p.classifier.classify f.text) s
    have hf : p.config.transition f.unhinted (p.classifier.classify f.text) s.undated =
        p.config.transition f (p.classifier.classify f.text) s.undated := rfl
    have htext : f.unhinted.text = f.text := rfl
    simp only [decide, htext, hf, ht]
  have hboth := hpassed f s
  rw [hfg, hst, hpassed g t] at hboth
  exact ⟨(congrArg Prod.fst hboth).symm, (congrArg Prod.snd hboth).symm⟩

end Policy

namespace Pipeline

/-! ## Stages that know the same but for remarks -/

structure Handler.Alike (h g : Handler) : Prop where
  policy : h.policy = g.policy
  session : h.session.map Session.undated = g.session.map Session.undated

structure SharedHandler.Alike (h g : SharedHandler) : Prop where
  settings : { h with session := none } = { g with session := none }
  session : h.session.map Session.undated = g.session.map Session.undated

inductive Stage.Alike : Stage → Stage → Prop
  | handler {h g : SharedHandler} (hhg : h.Alike g) : Alike (.handler h) (.handler g)
  | filter : Alike .filter .filter
  | relay (name : String) : Alike (.relay name) (.relay name)

/-- Stages that differ in the start of the utterance stand for each other, and so do frames that
differ in remarks; of the conversation all may differ. -/
def hints : Correspondence Stage Stage :=
  ⟨Stage.Alike, fun f g => f.unhinted = g.unhinted, fun _ _ => True⟩

theorem unhinted_frames {frames frames' : List Frame} :
    List.Forall₂ hints.frame frames frames' ↔
      frames.map Frame.unhinted = frames'.map Frame.unhinted :=
  corresponding_map

namespace Handler

variable {h g : Handler}

theorem Alike.reset (hhg : h.Alike g) (w : Suppressor) :
    (h.reset w).1.Alike (g.reset w).1 ∧ (h.reset w).2 = (g.reset w).2 :=
  ⟨⟨hhg.policy, rfl⟩, rfl⟩

theorem Alike.hear (hhg : h.Alike g) (w : Suppressor) {x y : Fragment}
    (hxy : x.unhinted = y.unhinted) :
    (h.hear w x).1 = (g.hear w y).1 ∧ (h.hear w x).2.1.Alike (g.hear w y).2.1 ∧
      (h.hear w x).2.2 = (g.hear w y).2.2 := by
  obtain ⟨policy, a⟩ := h
  obtain ⟨policy', b⟩ := g
  obtain ⟨hpolicy, hsession⟩ := hhg
  obtain rfl : policy = policy' := hpolicy
  obtain ⟨htext, hreceived⟩ := Fragment.unhinted_same hxy
  cases a with
  | none =>
    obtain rfl : b = none := Option.map_eq_none_iff.mp hsession.symm
    simp only [Handler.hear, Policy.decideSilent, htext, hreceived]
    exact ⟨trivial, ⟨rfl, rfl⟩, rfl⟩
  | some s =>
    obtain ⟨t, rfl, hst⟩ := Option.map_eq_some_iff.mp hsession.symm
    obtain ⟨hdecision, hnext⟩ := policy.decide_undated hxy hst.symm
    simp only [Handler.hear, hdecision, hreceived]
    exact ⟨trivial, ⟨rfl, congrArg some hnext⟩, trivial⟩

theorem Alike.process (hhg : h.Alike g) (w : Suppressor) (c d : Conversation) {f f' : Frame}
    (hf : f.unhinted = f'.unhinted) :
    List.Forall₂ hints.frame (h.process w c f).1 (g.process w d f').1 ∧
      (h.process w c f).2.1.Alike (g.process w d f').2.1 ∧
      (h.process w c f).2.2.1 = (g.process w d f').2.2.1 := by
  rcases Frame.unhinted_cases hf with ⟨x, y, rfl, rfl, hxy⟩ | ⟨s, t, rfl, rfl⟩ | ⟨rfl, hnx, hns⟩
  · obtain ⟨hdecision, halike, harmed⟩ := hhg.hear w hxy
    have htext := (Fragment.unhinted_same hxy).1
    simp only [Handler.process, hdecision, htext]
    refine ⟨?_, halike, harmed⟩
    rw [unhinted_frames, List.map_append, List.map_append]
    exact congrArg (_ ++ [·]) hf
  · exact ⟨.cons hf .nil, ⟨hhg.policy, rfl⟩, rfl⟩
  · have hpassed : List.Forall₂ hints.frame [f] [f] := .cons rfl .nil
    cases f with
    | transcript x => exact absurd rfl (hnx x)
    | utteranceStarted s => exact absurd rfl (hns s)
    | utteranceEnded => exact ⟨hpassed, ⟨hhg.policy, rfl⟩, rfl⟩
    | endOfStream => exact ⟨hpassed, hhg.reset w⟩
    | control control =>
      cases control with
      | reset => exact ⟨hpassed, hhg.reset w⟩
      | addIgnoredWords words =>
        exact ⟨.nil, ⟨congrArg (fun p => (p.addIgnoredWords words).1) hhg.policy, hhg.session⟩,
          rfl⟩
    | _ => exact ⟨hpassed, hhg, rfl⟩

theorem Alike.expire (hhg : h.Alike g) (now : Instant) :
    (h.expire now).1 = (g.expire now).1 ∧ (h.expire now).2.Alike (g.expire now).2 := by
  obtain ⟨policy, a⟩ := h
  obtain ⟨policy', b⟩ := g
  obtain ⟨hpolicy, hsession⟩ := hhg
  obtain rfl : policy = policy' := hpolicy
  cases a with
  | none =>
    obtain rfl : b = none := Option.map_eq_none_iff.mp hsession.symm
    exact ⟨rfl, rfl, rfl⟩
  | some s =>
    obtain ⟨t, rfl, hst⟩ := Option.map_eq_some_iff.mp hsession.symm
    have hpoll := Policy.poll_undated s now
    rw [← hst, Policy.poll_undated t now] at hpoll
    obtain ⟨hdecision, hnext⟩ := Prod.mk.inj hpoll
    simp only [Handler.expire, hdecision]
    exact ⟨trivial, rfl, congrArg some hnext.symm⟩

end Handler

namespace SharedHandler

variable {h g : SharedHandler}

theorem Alike.deadline (hhg : h.Alike g) : h.deadline = g.deadline := by
  have hundated : ∀ h : SharedHandler,
      h.deadline = (h.session.map Session.undated).bind Session.deadline := by
    rintro ⟨config, enabled, valid, place, _ | session⟩ <;> rfl
  rw [hundated h, hundated g, hhg.session]

theorem Alike.within (hhg : h.Alike g) (w : Shared) : (h.within w).Alike (g.within w) := by
  obtain ⟨config, enabled, valid, place, a⟩ := h
  obtain ⟨config', enabled', valid', place', b⟩ := g
  obtain ⟨rfl, rfl, rfl, -⟩ := SharedHandler.mk.inj hhg.settings
  exact ⟨rfl, hhg.session⟩

theorem Alike.follow (hhg : h.Alike g) {next next' : Handler} (hnext : next.Alike next') :
    { h with session := next.session }.Alike { g with session := next'.session } :=
  ⟨hhg.settings, hnext.session⟩

theorem Alike.reset (hhg : h.Alike g) (w : Shared) :
    (h.reset w).1.Alike (g.reset w).1 ∧ (h.reset w).2 = (g.reset w).2 := by
  obtain ⟨hnext, hsuppressor⟩ := (hhg.within w).reset w.suppressor
  exact ⟨hhg.follow hnext, congrArg ({ w with suppressor := · }) hsuppressor⟩

theorem Alike.stored (hhg : h.Alike g) (w : Shared) {next next' : Handler}
    (hnext : next.Alike next') : h.stored w next = g.stored w next' := by
  have hplace : h.place = g.place := (SharedHandler.mk.inj hhg.settings).2.2.1
  rw [SharedHandler.stored, SharedHandler.stored, hplace, hnext.policy]

theorem Alike.process (hhg : h.Alike g) (w : Shared) (c d : Conversation) {f f' : Frame}
    (hf : f.unhinted = f'.unhinted) :
    List.Forall₂ hints.frame (h.process w c f).1 (g.process w d f').1 ∧
      (h.process w c f).2.1.Alike (g.process w d f').2.1 ∧
      (h.process w c f).2.2.1 = (g.process w d f').2.2.1 := by
  obtain ⟨hframes, hnext, hsuppressor⟩ := (hhg.within w).process w.suppressor c d hf
  refine ⟨hframes, hhg.follow hnext, ?_⟩
  simp only [SharedHandler.process, hhg.stored w hnext, hsuppressor]

theorem Alike.expire (hhg : h.Alike g) (w : Shared) (now : Instant) :
    (h.expire w now).1 = (g.expire w now).1 ∧ (h.expire w now).2.Alike (g.expire w now).2 := by
  obtain ⟨hout, hnext⟩ := (hhg.within w).expire now
  exact ⟨hout, hhg.follow hnext⟩

end SharedHandler

theorem filter_alike (w : Suppressor) (now : Instant) {f g : Frame}
    (hfg : f.unhinted = g.unhinted) :
    (Filter.process w now f).1.unhinted = (Filter.process w now g).1.unhinted ∧
      (Filter.process w now f).2 = (Filter.process w now g).2 := by
  rcases Frame.unhinted_cases hfg with ⟨x, y, rfl, rfl, _⟩ | ⟨s, t, rfl, rfl⟩ | ⟨rfl, _⟩
  · exact ⟨hfg, rfl⟩
  · exact ⟨hfg, rfl⟩
  · exact ⟨rfl, rfl⟩

/-- Chains without rules keep in step whatever the remarks. -/
theorem hints_lockstep : Lockstep hints where
  spread := rfl
  deadline := by
    rintro s t (hhg | _ | _)
    · exact hhg.deadline
    · rfl
    · rfl
  atEnd := by
    intro f g hfg
    rcases Frame.unhinted_cases hfg with ⟨x, y, rfl, rfl, _⟩ | ⟨s, t, rfl, rfl⟩ | ⟨rfl, _⟩ <;> rfl
  fault := by
    rintro s t (_ | _ | _) message <;> rfl
  start := by
    rintro s t c d (hhg | _ | _) _ w now
    · exact ⟨.handler (hhg.reset w).1, (hhg.reset w).2, trivial, .ok rfl⟩
    · exact ⟨.filter, rfl, trivial, .ok rfl⟩
    · exact ⟨.relay _, rfl, trivial, .ok rfl⟩
  stop := by
    rintro s t c d (hhg | _ | _) _ w now
    · exact ⟨.handler (hhg.reset w).1, (hhg.reset w).2, trivial, .ok rfl⟩
    · exact ⟨.filter, rfl, trivial, .ok rfl⟩
    · exact ⟨.relay _, rfl, trivial, .ok rfl⟩
  process := by
    rintro s t c d f g (hhg | _ | _) _ hfg w now
    · obtain ⟨hframes, halike, hworld⟩ := hhg.process w c d hfg
      exact ⟨.handler halike, hworld, trivial, .ok hframes⟩
    · obtain ⟨hframe, hsuppressor⟩ := filter_alike w.suppressor now hfg
      have hworld := congrArg ({ w with suppressor := · }) hsuppressor
      exact ⟨.filter, hworld, trivial, .ok (.cons hframe .nil)⟩
    · exact ⟨.relay _, rfl, trivial, .ok (.cons hfg .nil)⟩
  expire := by
    rintro s t c d (hhg | _ | _) _ w now
    · obtain ⟨hout, halike⟩ := hhg.expire w now
      refine ⟨.handler halike, rfl, trivial, .ok ?_⟩
      exact unhinted_frames.mpr (congrArg _ hout)
    · exact ⟨.filter, rfl, trivial, .ok .nil⟩
    · exact ⟨.relay _, rfl, trivial, .ok .nil⟩

/-! ## What is seen of a chain -/

def Stage.undated : Stage → Stage
  | .handler h => .handler { h with session := h.session.map Session.undated }
  | stage => stage

def Deed.unhinted : Deed → Deed
  | .send f => .send f.unhinted
  | .post f => .post f.unhinted
  | d => d

structure Passage.Agree (p q : Passage Stage Shared) : Prop where
  now : p.now = q.now
  emitted : p.result.map (·.map Frame.unhinted) = q.result.map (·.map Frame.unhinted)
  decisions : p.result.map (·.filter Frame.isDecision) = q.result.map (·.filter Frame.isDecision)
  world : p.after.world = q.after.world
  stages : p.after.stages.map Stage.undated = q.after.stages.map Stage.undated
  deadlines : p.after.stages.map Stage.deadline = q.after.stages.map Stage.deadline

structure Run.Agree (r r' : Run Stage Shared) : Prop where
  now : r.now = r'.now
  emitted : r.output.map (Prod.map id Frame.unhinted) = r'.output.map (Prod.map id Frame.unhinted)
  decisions : r.output.filter (·.2.isDecision) = r'.output.filter (·.2.isDecision)
  world : r.world = r'.world
  stages : r.stations.map (·.stage.undated) = r'.stations.map (·.stage.undated)
  deadlines : r.stations.map (·.stage.deadline) = r'.stations.map (·.stage.deadline)

theorem Stage.Alike.undated {s t : Stage} (h : s.Alike t) : s.undated = t.undated := by
  cases h with
  | @handler h g hhg =>
    simp only [Stage.undated, hhg.session]
    exact congrArg (fun k => Stage.handler { k with session := g.session.map Session.undated })
      hhg.settings
  | filter | relay => rfl

theorem alike_undated {stages stages' : List Stage}
    (h : List.Forall₂ Stage.Alike stages stages') :
    stages.map Stage.undated = stages'.map Stage.undated :=
  corresponding_map.mp (h.imp fun _ _ hst => hst.undated)

theorem alike_deadlines {stages stages' : List Stage}
    (h : List.Forall₂ Stage.Alike stages stages') :
    stages.map Stage.deadline = stages'.map Stage.deadline :=
  corresponding_map.mp (h.imp fun _ _ hst => hints_lockstep.deadline hst)

theorem unhinted_decisions {frames frames' : List Frame}
    (h : frames.map Frame.unhinted = frames'.map Frame.unhinted) :
    frames.filter Frame.isDecision = frames'.filter Frame.isDecision := by
  rw [← Frame.filter_unhinted, h, Frame.filter_unhinted]

/-- Frames at their times, without the remarks, tell the same decisions at the same times. -/
theorem unhinted_timed {output output' : List (Nat × Frame)}
    (h : output.map (Prod.map id Frame.unhinted) = output'.map (Prod.map id Frame.unhinted)) :
    output.filter (·.2.isDecision) = output'.filter (·.2.isDecision) := by
  have hpassed : ∀ output : List (Nat × Frame),
      (output.map (Prod.map id Frame.unhinted)).filter (·.2.isDecision) =
        output.filter (·.2.isDecision) :=
    filter_map_fixed (fun a => Frame.unhinted_isDecision a.2)
      fun a ha => Prod.ext rfl (Frame.unhinted_decision ha)
  rw [← hpassed, h, hpassed]

/-! ## Whole inputs -/

theorem SameEnd.map_eq {frames frames' : Except Fault (List Frame)}
    (h : SameEnd (List.Forall₂ hints.frame) frames frames') :
    frames.map (·.map Frame.unhinted) = frames'.map (·.map Frame.unhinted) ∧
      frames.map (·.filter Frame.isDecision) = frames'.map (·.filter Frame.isDecision) := by
  cases h with
  | ok hframes =>
    have hmap := unhinted_frames.mp hframes
    exact ⟨congrArg Except.ok hmap, congrArg Except.ok (unhinted_decisions hmap)⟩
  | error fault => exact ⟨rfl, rfl⟩

theorem passages_agree (chain chain' : Chain Stage Shared)
    (hstages : List.Forall₂ Stage.Alike chain.stages chain'.stages)
    (hworld : chain.world = chain'.world) (c d : Conversation)
    {inputs inputs' : List (Instant × Frame)}
    (h : List.Forall₂ (fun a b => a.1 = b.1 ∧ a.2.unhinted = b.2.unhinted) inputs inputs') :
    List.Forall₂ Passage.Agree (passages chain c inputs) (passages chain' d inputs') := by
  induction h generalizing chain chain' c d with
  | nil => exact .nil
  | @cons a b later later' hab _ ih =>
    obtain ⟨now, f⟩ := a
    obtain ⟨now', g⟩ := b
    obtain ⟨rfl, hfg⟩ : now = now' ∧ f.unhinted = g.unhinted := hab
    have hpass : (pass chain.stages chain.world c now [f]).Matches hints
        (pass chain'.stages chain'.world d now [g]) := by
      rw [← hworld]
      exact pass_matches hints_lockstep hstages (.cons hfg .nil) trivial chain.world now
    obtain ⟨hemitted, hdecisions⟩ := hpass.result.map_eq
    have hpassage : Passage.Agree
        ⟨now, f, chain, (chain.processOne c now f).1, (chain.processOne c now f).2.1⟩
        ⟨now, g, chain', (chain'.processOne d now g).1, (chain'.processOne d now g).2.1⟩ :=
      ⟨rfl, hemitted, hdecisions, hpass.world, alike_undated hpass.stages,
        alike_deadlines hpass.stages⟩
    exact .cons hpassage (ih (chain.processOne c now f).2.1 (chain'.processOne d now g).2.1
      hpass.stages hpass.world _ _)

theorem Run.Matches.agree {r r' : Run Stage Shared} (h : r.Matches hints r') : r.Agree r' := by
  have hstages : List.Forall₂ Stage.Alike (r.stations.map (·.stage)) (r'.stations.map (·.stage)) := by
    rw [List.forall₂_map_left_iff, List.forall₂_map_right_iff]
    exact h.stations.imp fun _ _ hst => hst.stage
  have hemitted : r.output.map (Prod.map id Frame.unhinted) =
      r'.output.map (Prod.map id Frame.unhinted) :=
    corresponding_map.mp (h.output.imp fun _ _ hab => Prod.ext hab.1 hab.2)
  have hundated := alike_undated hstages
  have hdeadlines := alike_deadlines hstages
  rw [List.map_map, List.map_map] at hundated hdeadlines
  exact ⟨h.now, hemitted, unhinted_timed hemitted, h.world, hundated, hdeadlines⟩

theorem Deed.unhinted_frame (d : Deed) : d.unhinted.frame = d.frame.map Frame.unhinted := by
  cases d <;> rfl

theorem Deed.unhinted_same {d : Deed} (h : d.frame = none) : d.unhinted = d := by
  cases d with
  | send | post => cases h
  | _ => rfl

theorem Deed.matches_unhinted {d d' : Deed} (h : d.unhinted = d'.unhinted) :
    d.Matches hints d' := by
  have hframes := congrArg Deed.frame h
  rw [unhinted_frame, unhinted_frame] at hframes
  cases hd : d.frame with
  | none =>
    rw [hd] at hframes
    have hd' : d'.frame = none := Option.map_eq_none_iff.mp hframes.symm
    rw [unhinted_same hd, unhinted_same hd'] at h
    exact h ▸ .same hd
  | some f =>
    cases d with
    | send f =>
      cases d' with
      | send g => exact .send (Deed.send.inj h)
      | _ => cases h
    | post f =>
      cases d' with
      | post g => exact .post (Deed.post.inj h)
      | _ => cases h
    | _ => cases hd

/-- Whether a fragment is final, the language hint on it, the time at which an utterance is said
to have started and what the chain knows of the conversation make no difference to any decision,
acknowledgment, deadline or session, whether frames pass one at a time or the chain runs. -/
theorem remarks_decide_nothing (policy : Policy) (c d : Conversation) :
    (∀ inputs inputs' : List (Instant × Frame),
      inputs.map (Prod.map id Frame.unhinted) = inputs'.map (Prod.map id Frame.unhinted) →
      List.Forall₂ Passage.Agree (passages (interruptionChain policy) c inputs)
        (passages (interruptionChain policy) d inputs')) ∧
    ∀ (capacity : Nat) (deeds deeds' : List Deed),
      deeds.map Deed.unhinted = deeds'.map Deed.unhinted →
      let r := Run.start (interruptionChain policy) c capacity
      let r' := Run.start (interruptionChain policy) d capacity
      (∀ n, (r.perform (deeds.take n)).Agree (r'.perform (deeds'.take n))) ∧
        r.answers deeds = r'.answers deeds' := by
  have hstages : List.Forall₂ Stage.Alike (interruptionChain policy).stages
      (interruptionChain policy).stages :=
    .cons (.handler ⟨rfl, rfl⟩) (.cons .filter .nil)
  constructor
  · intro inputs inputs' h
    exact passages_agree _ _ hstages rfl c d
      ((corresponding_map.mpr h).imp fun _ _ hab => Prod.mk.inj hab)
  · intro capacity deeds deeds' h r r'
    have hstart : r.Matches hints r' := .start hints_lockstep hstages rfl trivial capacity
    have hdeeds : List.Forall₂ (Deed.Matches hints) deeds deeds' :=
      (corresponding_map.mpr h).imp fun _ _ hab => Deed.matches_unhinted hab
    constructor
    · intro n
      exact (hstart.perform hints_lockstep (List.forall₂_take n hdeeds)).agree
    · exact hstart.answers hints_lockstep hdeeds

/-- A filler is waited on and another taken back, and then a deadline passes; neither hints of the
wrong language nor interim fragments change that. -/
theorem remarks_decide_nothing_timeout :
    let policy : Policy :=
      ⟨{ acknowledgments := ["certainly"] },
        ⟨⟨[("um", some .english)], ["stop"], 1, 1⟩, true⟩, by decide +kernel⟩
    let speech (text : String) (ms : Nat) : Fragment := { text, receivedAt := .ofMillis ms }
    let bare : List Frame :=
      [.utteranceStarted ⟨0⟩, .transcript (speech "Um" 0), .transcript (speech "um, um" 5),
        .transcript (speech "so" 5)]
    let hinted : List Frame :=
      [.utteranceStarted ⟨9⟩,
        .transcript { speech "Um" 0 with isFinal := false, language := some .hindi },
        .transcript { speech "um, um" 5 with language := some .french },
        .transcript { speech "so" 5 with isFinal := false }]
    let inputs (frames : List Frame) : List (Instant × Frame) := frames.map fun f => (.origin, f)
    let deeds (frames : List Frame) : List Deed :=
      (frames.take 2).map .post ++ .pause 5 :: (frames.drop 2).map .send ++ [.pause 3000]
    let r := Run.start (interruptionChain policy) ⟨"call", 3, some .german⟩ 4
    (inputs bare).map (Prod.map id Frame.unhinted) =
        (inputs hinted).map (Prod.map id Frame.unhinted) ∧
      (passages (interruptionChain policy) ⟨"call", 3, some .german⟩ (inputs hinted)).map
          (fun p => p.result.map (·.filter Frame.isDecision)) =
        [.ok [], .ok [.awaitingConfirmation (.ofMillis 2000)], .ok [.resume],
          .ok [.awaitingConfirmation (.ofMillis 2005)]] ∧
      (deeds bare).map Deed.unhinted = (deeds hinted).map Deed.unhinted ∧
      (r.perform ((deeds hinted).take 6)).output.filter (·.2.isDecision) =
        [(0, .awaitingConfirmation (.ofMillis 2000)), (5, .resume),
          (5, .awaitingConfirmation (.ofMillis 2005)), (2005, .interrupt .timeout none)] := by
  intro policy speech bare hinted inputs deeds r
  obtain ⟨hpassages, hruns⟩ := remarks_decide_nothing policy {} ⟨"call", 3, some .german⟩
  have hinputs : (inputs bare).map (Prod.map id Frame.unhinted) =
      (inputs hinted).map (Prod.map id Frame.unhinted) := by decide
  have hdeeds : (deeds bare).map Deed.unhinted = (deeds hinted).map Deed.unhinted := by decide
  have hpassed : ∀ inputs inputs' : List (Instant × Frame),
      inputs.map (Prod.map id Frame.unhinted) = inputs'.map (Prod.map id Frame.unhinted) →
      (passages (interruptionChain policy) {} inputs).map
          (fun p => p.result.map (·.filter Frame.isDecision)) =
        (passages (interruptionChain policy) ⟨"call", 3, some .german⟩ inputs').map
          (fun p => p.result.map (·.filter Frame.isDecision)) :=
    fun inputs inputs' h =>
      corresponding_map.mp ((hpassages inputs inputs' h).imp fun _ _ hagree => hagree.decisions)
  have hran : ∀ deeds deeds' : List Deed, deeds.map Deed.unhinted = deeds'.map Deed.unhinted →
      ((Run.start (interruptionChain policy) {} 4).perform (deeds.take 6)).output.filter
          (·.2.isDecision) =
        (r.perform (deeds'.take 6)).output.filter (·.2.isDecision) :=
    fun deeds deeds' h => ((hruns 4 deeds deeds' h).1 6).decisions
  refine ⟨hinputs, (hpassed _ _ hinputs).symm.trans ?_, hdeeds, (hran _ _ hdeeds).symm.trans ?_⟩
  · decide +kernel
  · decide +kernel

end Pipeline

end BargeIn
