import BargeIn.Text.Blank
import BargeIn.Text.Case

/-!
# Languages

The languages with a built-in lexicon, their codes and names, and the lenient reading of the
language hints that speech recognizers attach to a transcript.
-/

set_option autoImplicit false

namespace BargeIn

inductive Language
  | english | hindi | spanish | french | german
deriving Repr, DecidableEq, Inhabited

namespace Language

def all : List Language := [.english, .hindi, .spanish, .french, .german]

def code : Language → String
  | .english => "en"
  | .hindi => "hi"
  | .spanish => "es"
  | .french => "fr"
  | .german => "de"

def name : Language → String
  | .english => "English"
  | .hindi => "Hindi"
  | .spanish => "Spanish"
  | .french => "French"
  | .german => "German"

def key : Language → String
  | .english => "english"
  | .hindi => "hindi"
  | .spanish => "spanish"
  | .french => "french"
  | .german => "german"

def spellings : List (String × Language) :=
  all.flatMap fun l => [(l.key, l), (l.code, l)]

def hintNames : Language → List String
  | .english => ["en", "eng", "english"]
  | .hindi => ["hi", "hin", "hindi", "hinglish"]
  | .spanish => ["es", "spa", "spanish", "espanol", "español"]
  | .french => ["fr", "fra", "fre", "french", "francais", "français"]
  | .german => ["de", "deu", "ger", "german", "deutsch"]

/-- Reads a hint such as `en-US` or `Hinglish`: in any case, between blanks, and without the
region after the first hyphen or low line. -/
def ofHint? (hint : String) : Option Language :=
  let text := Text.lowerChars (Text.trimChars hint.toList)
  let base := String.ofList (text.takeWhile fun c => c != '-' && c != '_')
  all.find? fun l => l.hintNames.contains base

end Language

structure PerLanguage (α : Type) where
  english : α
  hindi : α
  spanish : α
  french : α
  german : α
deriving Repr, DecidableEq

namespace PerLanguage

variable {α : Type}

def const (a : α) : PerLanguage α := ⟨a, a, a, a, a⟩

def get (p : PerLanguage α) : Language → α
  | .english => p.english
  | .hindi => p.hindi
  | .spanish => p.spanish
  | .french => p.french
  | .german => p.german

def set (p : PerLanguage α) (l : Language) (a : α) : PerLanguage α :=
  match l with
  | .english => { p with english := a }
  | .hindi => { p with hindi := a }
  | .spanish => { p with spanish := a }
  | .french => { p with french := a }
  | .german => { p with german := a }

def zipWith {β γ : Type} (f : α → β → γ) (p : PerLanguage α) (q : PerLanguage β) :
    PerLanguage γ where
  english := f p.english q.english
  hindi := f p.hindi q.hindi
  spanish := f p.spanish q.spanish
  french := f p.french q.french
  german := f p.german q.german

def toList (p : PerLanguage α) : List (Language × α) :=
  Language.all.map fun l => (l, p.get l)

end PerLanguage

end BargeIn
