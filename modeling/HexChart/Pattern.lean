import HexChart.Pattern.CharSet

/-!
# Patterns

A pattern describes the values of a field.  No value is ever compared with one:
values are known inside of spans only, and no event is inside a span.  But a
directive with a pattern that cannot be used is refused, so what is kept of a
pattern is what decides about that.
-/

namespace HexChart

/-- A pattern, as it is written. -/
inductive Pattern where
  | atom (atom : Pattern.Atom)
  | charSet (set : Pattern.CharSet)
  /-- A change of modes for what follows, up to the end of the group around it. -/
  | change (changes : Pattern.Changes)
  | repetition (body : Pattern)
  /-- A part in parentheses, with the modes that change for it. -/
  | group (changes : Pattern.Changes) (body : Pattern)
  /-- Parts that follow each other. -/
  | sequence (parts : List Pattern)
  /-- Branches of which any one may do. -/
  | choice (branches : List Pattern)

/-- Why a pattern cannot be used. -/
inductive PatternFault where
  | malformed
  /-- It is about words of every script, whose letters are not known. -/
  | wordBoundary
  deriving DecidableEq, Repr

/-- The words for what is wrong with a pattern. -/
def PatternFault.message : PatternFault → String
  | malformed => "error building NFA"
  | wordBoundary =>
    "unsupported regex feature for DFAs: cannot build DFAs for regexes with Unicode word " ++
      "boundaries; switch to ASCII word boundaries, or heuristically enable Unicode word " ++
      "boundaries or use a different regex engine"

namespace Pattern

/-- Parts that follow each other, as one pattern.  A single one stands for
itself. -/
def ofParts : List Pattern → Pattern
  | [part] => part
  | parts => sequence parts

/-- Branches, as one pattern.  A single one stands for itself. -/
def ofBranches : List Pattern → Pattern
  | [branch] => branch
  | branches => choice branches

/-- The greatest height of a pattern that can be used. -/
def heightLimit : Nat := 250

mutual

/-- How deeply patterns and sets are nested in a pattern. -/
def height : Pattern → Nat
  | atom _ | change _ | sequence [] | choice [] => 0
  | charSet set => set.height
  | repetition body | group _ body => body.height + 1
  | sequence (part :: parts) => max part.height (greatestHeight parts) + 1
  | choice (branch :: branches) => max branch.height (greatestHeight branches) + 1

def greatestHeight : List Pattern → Nat
  | [] => 0
  | part :: parts => max part.height (greatestHeight parts)

end

/-- What is found out about a pattern that can be built. -/
structure Survey where
  /-- The modes after it. -/
  modes : Modes
  /-- Whether it asks where words of every script start or end. -/
  aboutWords : Bool
  deriving DecidableEq, Repr

/-- Whether an atom can be built in some modes.  A single byte beyond ASCII is no
character. -/
def Atom.isUsable (modes : Modes) : Atom → Bool
  | symbol item => if modes.unicode then !modes.anyCase else !item.asByte || item.isAscii
  | dot => modes.unicode
  | anchor | boundary => true
  | shorthand negated => !modes.unicode && !negated

mutual

/-- Goes through a pattern from left to right, as its modes do, and finds out
whether it can be built. -/
def survey (modes : Modes) : Pattern → Option Survey
  | atom part =>
    if part.isUsable modes then some ⟨modes, part = .boundary ∧ modes.unicode⟩ else none
  | charSet set => if set.isUsable modes then some ⟨modes, false⟩ else none
  | change changes => some ⟨modes.after changes, false⟩
  | repetition body => body.survey modes
  | group changes body =>
    (body.survey (modes.after changes)).map fun inner => ⟨modes, inner.aboutWords⟩
  | sequence parts => surveyAll modes parts
  | choice branches => surveyAll modes branches

/-- Goes through patterns one after the other.  The modes after a branch are
those before the next one. -/
def surveyAll (modes : Modes) : List Pattern → Option Survey
  | [] => some ⟨modes, false⟩
  | part :: parts =>
    match part.survey modes with
    | none => none
    | some first =>
      (surveyAll first.modes parts).map fun others =>
        ⟨others.modes, first.aboutWords || others.aboutWords⟩

end

/-- Why a pattern that can be read cannot be used, if so. -/
def fault? (pattern : Pattern) : Option PatternFault :=
  if heightLimit < pattern.height then some .malformed
  else
    match pattern.survey .usual with
    | none => some .malformed
    | some survey => if survey.aboutWords then some .wordBoundary else none

end Pattern

end HexChart
