/-!
# Rejected settings

A setting that fails its check, and the ways in which settings as a whole can fail to load.
-/

set_option autoImplicit false

namespace BargeIn

structure Fault where
  field : String
  reason : String
deriving Repr, DecidableEq

def Fault.message (f : Fault) : String :=
  s!"Invalid configuration for {f.field}: {f.reason}"

structure Ambiguity where
  entry : String
deriving Repr, DecidableEq

namespace Ambiguity

def message (a : Ambiguity) : String :=
  s!"'{a.entry}' is listed as both a filler and a stop command"

def toFault (a : Ambiguity) : Fault :=
  ⟨"lexicon", a.message⟩

end Ambiguity

/-- Why settings could not be loaded. A malformed document carries the words of whoever refused
it, if they are known. -/
inductive LoadError
  | missing (path : String)
  | malformed (detail : Option String)
  | invalid (fault : Fault)
deriving Repr, DecidableEq

namespace LoadError

def message : LoadError → String
  | .missing path => s!"Configuration file not found: {path}"
  | .malformed detail => "Failed to parse configuration: " ++ detail.getD ""
  | .invalid fault => s!"Invalid value for {fault.field}: {fault.reason}"

/-- A rejected field stays the fault it was; any other failure concerns the configuration as a
whole. -/
def toFault : LoadError → Fault
  | .invalid fault => fault
  | other => ⟨"config", other.message⟩

end LoadError

end BargeIn
