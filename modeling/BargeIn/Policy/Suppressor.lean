import BargeIn.Policy.Config
import BargeIn.Text.Words

/-!
# Withheld acknowledgments

After a stop command the agent's reflexive "okay" is withheld: once, within a window, and only if
nothing else is said with it. This outlives the utterance, since the acknowledgment comes after
its end.
-/

set_option autoImplicit false

namespace BargeIn

structure Suppressor where
  phrases : List String
  window : Nat
  armedUntil : Option Instant := none
deriving Repr, DecidableEq

inductive Verdict
  | speak
  | suppress
deriving Repr, DecidableEq

namespace Suppressor

def ofPhrases (phrases : List String) (window : Nat) : Suppressor :=
  ⟨phrases.filterMap Text.normalizeEntry, window, none⟩

def ofConfig (c : Policy.Config) : Suppressor :=
  ofPhrases c.acknowledgments c.ackWindow

/-- Withholds until the end of the window that begins now; not at all if that is beyond the last
instant. -/
def arm (s : Suppressor) (now : Instant) : Suppressor :=
  { s with armedUntil := now.add? s.window }

def disarm (s : Suppressor) : Suppressor :=
  { s with armedUntil := none }

def isArmed (s : Suppressor) (now : Instant) : Bool :=
  match s.armedUntil with
  | some expiry => now < expiry
  | none => false

def isAcknowledgment (s : Suppressor) (text : String) : Bool :=
  match Text.normalizeEntry text with
  | some entry => s.phrases.contains entry
  | none => false

/-- Whether the agent may say the text now. Speech that is no acknowledgment leaves the
suppressor armed; an expired one is disarmed. -/
def filter (s : Suppressor) (text : String) (now : Instant) : Verdict × Suppressor :=
  match s.armedUntil with
  | none => (.speak, s)
  | some expiry =>
    if expiry ≤ now then (.speak, s.disarm)
    else if s.isAcknowledgment text then (.suppress, s.disarm)
    else (.speak, s)

end Suppressor

end BargeIn
