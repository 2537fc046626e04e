import CellRecipe.Logging.Level
import CellRecipe.Text.Numeral
import CellRecipe.Text.Split

/-!
# Directives about logging

A list of directives tells from which level on events are logged, `off` standing for no event at
all. A directive may name what it is about, and is then about every program whose name starts that
way; of several directives the one with the longest name counts, and of equals the last one.
Directives that cannot be read count as missing, and a list without any asks for errors only.

## Main definitions

* `Logging.Directive.ofText?`: the directive of a text.
* `Logging.Directive.inForce`: the level that a list of directives asks for.
-/

namespace CellRecipe.Logging

/-- From which level on events are logged, for programs whose names start with `subject`; there is
no threshold where nothing is logged. -/
structure Directive where
  subject : List Char
  threshold : Option Level
  deriving DecidableEq

namespace Directive

/-- The name under which the program logs. -/
def program : List Char := "recipe_compiler".toList

/-- The words for thresholds, with the digits that stand for them. -/
def thresholds : List (String × Option Level) := [
  ("off", none), ("error", some .error), ("warn", some .warn), ("info", some .info),
  ("debug", some .debug), ("trace", some .trace)]

/-- The threshold that a word or a number stands for. -/
def thresholdOf? (cs : List Char) : Option (Option Level) :=
  match Text.natural? cs with
  | some n => thresholds[n]?.map (·.2)
  | none => thresholds.lookup (String.ofList (cs.map Char.toLower))

/-- May a subject start with the character? -/
def startsSubject (c : Char) : Bool := c.isAlphanum || c = '-' || c = ':' || c = '_'

/-- The subject of a directive. -/
def subject? (cs : List Char) : Option (List Char) :=
  if cs.head?.any startsSubject then some cs else none

/-- The directive of a text: a threshold, a subject about which all is logged, or both. -/
def ofText? (cs : List Char) : Option Directive :=
  match Text.splitFirst '=' cs with
  | some (subject, []) => (subject? subject).map fun s => ⟨s, some .trace⟩
  | some (subject, word) => do return ⟨← subject? subject, ← thresholdOf? word⟩
  | none =>
    match thresholdOf? cs with
    | some threshold => some ⟨[], threshold⟩
    | none => (subject? cs).map fun s => ⟨s, some .trace⟩

/-- The directives of a text. -/
def listOf (text : String) : List Directive :=
  (Text.splitAll ',' text.toList).filterMap ofText?

/-- The directive of the two that counts, the second one being the later. -/
def moreSpecific (found : Option Directive) (d : Directive) : Option Directive :=
  match found with
  | some best => if best.subject.length ≤ d.subject.length then some d else some best
  | none => some d

/-- The level from which on a list of directives lets the program log. -/
def inForce (ds : List Directive) : Option Level :=
  if ds.isEmpty then some .error
  else do (← (ds.filter fun d => d.subject.isPrefixOf program).foldl moreSpecific none).threshold

end Directive

end CellRecipe.Logging
