import BargeIn.Document.Json
import BargeIn.Frame
import BargeIn.Lexicon.Classifier

/-!
# Tagged values

Values of several kinds, written in JSON. A tagged value is an object one of whose members names
its kind, or an array that begins with that name; the other members or items are its fields. A
steering frame is a bare name or an object with that one name.
-/

set_option autoImplicit false

namespace BargeIn

open Document

namespace Document.Json

def tagged? (tag : String) : Json → Option (String × Json)
  | .object members => do
    match (← named? members).filter (·.1 == tag) with
    | [(_, .scalar (.text (some kind)))] =>
      return (kind, .object (members.filter (·.1 != some tag)))
    | _ => none
  | .array (.scalar (.text (some kind)) :: items) => some (kind, .array items)
  | _ => none

end Document.Json

namespace Classification

def ofJson? (v : Json) : Option Classification := do
  let (kind, rest) ← v.tagged? "kind"
  match kind with
  | "only_filler" => (fields? [] rest).map fun _ => .onlyFiller
  | "meaningful_content" =>
    (fields? ["residual"] rest).bind fun fields =>
      (required? fields "residual" texts?).map .meaningful
  | "stop_command" =>
    (fields? ["matched"] rest).bind fun fields =>
      (required? fields "matched" text?).map .stopCommand
  | _ => none

/-- A tagged value is read whole before its kind is known, so all of it must be sound. -/
def parse? (s : String) : Option Classification :=
  (Json.readSound? s).bind ofJson?

end Classification

namespace Reason

def ofJson? (v : Json) : Option Reason := do
  let name ← choice? (all.map name) v
  all.find? (·.name == name)

end Reason

namespace Control

def ofJson? : Json → Option Control
  | .object [(some "AddIgnoredWords", words)] => (texts? words).map .addIgnoredWords
  | v => (choice? ["Reset"] v).map fun _ => .reset

end Control

end BargeIn
