import BargeIn.Frame

/-!
# Processors

A stage of a chain has a state of its own and acts on a world that all stages of the chain share.
It turns each frame into some frames or fails; it may ask to be called at a deadline, and it is
told when the stream starts and stops, which can fail as well.
-/

set_option autoImplicit false

namespace BargeIn.Pipeline

structure Effect (σ ω : Type) (α : Type := List Frame) where
  stage : σ
  world : ω
  conversation : Conversation
  result : Except Fault α

class Processor (σ : Type) (ω : outParam Type) where
  /-- The most frames that a call emits. -/
  spread : Nat
  name : σ → String
  description : σ → String
  deadline : σ → Option Instant
  start : σ → ω → Conversation → Instant → Effect σ ω Unit
  stop : σ → ω → Conversation → Instant → Effect σ ω Unit
  process : σ → ω → Conversation → Instant → Frame → Effect σ ω
  expire : σ → ω → Conversation → Instant → Effect σ ω

variable {σ ω : Type} [Processor σ ω]

def feed (stage : σ) (world : ω) (conversation : Conversation) (now : Instant) :
    List Frame → Effect σ ω
  | [] => ⟨stage, world, conversation, .ok []⟩
  | f :: fs =>
    let effect := Processor.process stage world conversation now f
    match effect.result with
    | .error _ => effect
    | .ok out =>
      let rest := feed effect.stage effect.world effect.conversation now fs
      { rest with result := rest.result.map (out ++ ·) }

structure Pass (σ ω : Type) where
  stages : List σ
  world : ω
  conversation : Conversation
  result : Except Fault (List Frame)

/-- Frames pass through all stages, each taking all frames of the one before. A fault ends the
pass; what was done until then stays done. -/
def pass : List σ → ω → Conversation → Instant → List Frame → Pass σ ω
  | [], world, conversation, _, frames => ⟨[], world, conversation, .ok frames⟩
  | s :: rest, world, conversation, now, frames =>
    let effect := feed s world conversation now frames
    match effect.result with
    | .error fault => ⟨effect.stage :: rest, effect.world, effect.conversation, .error fault⟩
    | .ok out =>
      let later := pass rest effect.world effect.conversation now out
      { later with stages := effect.stage :: later.stages }

structure Chain (σ ω : Type) where
  name : String
  stages : List σ
  world : ω

/-- One frame passes through a chain whose stages share one view of the conversation. Deadlines
are not served. -/
def Chain.processOne (chain : Chain σ ω) (conversation : Conversation) (now : Instant)
    (frame : Frame) : Except Fault (List Frame) × Chain σ ω × Conversation :=
  let done := pass chain.stages chain.world conversation now [frame]
  (done.result, { chain with stages := done.stages, world := done.world }, done.conversation)

end BargeIn.Pipeline
