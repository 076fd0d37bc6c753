import Conclave.Text.Blank
import Conclave.Text.Number

/-!
# Places in YAML texts

The tokens that a YAML text is made of, and the cursor that finds them: a place in the text with
all that the meaning of the next characters depends on. Blocks are held together by indentation,
so the cursor knows the columns of the open blocks. Whether a node is the key of a mapping shows
only at the colon behind it, so the cursor remembers where a key may have begun.
-/

namespace Conclave.Settings.Yaml

/-- A part of a text. A scalar says whether it is a plain one. -/
inductive Token where
  | streamEnd
  | version
  | tagPrefix (handle text : String)
  | documentStart | documentEnd
  | sequenceStart | mappingStart | blockEnd
  | openSequence | closeSequence | openMapping | closeMapping
  | blockEntry | flowEntry | key | value
  | alias (name : String)
  | anchor (name : String)
  | tag (handle suffix : String)
  | scalar (isPlain : Bool) (text : String)
deriving DecidableEq, Repr

/-- Where a key may have begun: its place and the number of tokens before it. A required one is
where a key has to be. -/
structure Candidate where
  possible : Bool
  required : Bool
  tokens : Nat
  index : Nat
  line : Nat
  column : Nat

def Candidate.none : Candidate := ⟨false, false, 0, 0, 0, 0⟩

/-- The indentation around an open block; `isBlock` is false for one that holds only what goes on
from a line. -/
structure Level where
  outer : Int
  isBlock : Bool

/-- A place in a text. `candidates` has one entry for every open flow collection and one more, the
innermost first; `flow` says of the open flow collections whether they are sequences. -/
structure Cursor where
  rest : List Char
  index : Nat
  line : Nat
  column : Nat
  onlyBlanks : Bool
  tokens : Array (Token × Nat)
  keyAllowed : Bool
  candidates : List Candidate
  indent : Int
  levels : List Level
  flow : List Bool
  adjacentAt : Option Nat

def Cursor.start (cs : List Char) : Cursor :=
  ⟨cs, 0, 0, 0, true, #[], true, [.none], -1, [], [], none⟩

abbrev Scan := StateT Cursor Option

def refuse {α : Type} : Scan α := StateT.lift Option.none

/-! ## Characters -/

def isBreak (c : Char) : Bool := c == '\n' || c == '\r'

def isBlank (c : Char) : Bool := c == ' ' || c == '\t'

/-- Whether a character stands for the end of the text. -/
def isEnd (c : Char) : Bool := c == '\x00'

def isBreakOrEnd (c : Char) : Bool := isBreak c || isEnd c

def isGap (c : Char) : Bool := isBlank c || isBreakOrEnd c

/-- Whether a character is a mark of flow collections. -/
def isFlowMark (c : Char) : Bool :=
  c == ',' || c == '[' || c == ']' || c == '\x7b' || c == '\x7d'

/-- The character so many places ahead; the end of the text is a NUL character. -/
def ahead (n : Nat) : Scan Char := return ((← get).rest[n]?).getD '\x00'

def next : Scan Char := ahead 0

def inFlow : Scan Bool := return !(← get).flow.isEmpty

def passBlank : Scan Unit := modify fun s =>
  { s with rest := s.rest.drop 1, index := s.index + 1, column := s.column + 1 }

def pass : Scan Unit := modify fun s =>
  { s with
    rest := s.rest.drop 1, index := s.index + 1, column := s.column + 1, onlyBlanks := false }

def passBreak : Scan Unit := modify fun s =>
  let n := match s.rest with
    | '\r' :: '\n' :: _ => 2
    | _ => 1
  { s with
    rest := s.rest.drop n, index := s.index + n, line := s.line + 1, column := 0,
    onlyBlanks := true }

def loop : (fuel : Nat) → Scan Bool → Scan Unit
  | 0, _ => return
  | fuel + 1, step => do if ← step then loop fuel step

/-- Repeats a step that passes something each time but once. -/
def repeated (step : Scan Bool) : Scan Unit := do loop ((← get).rest.length + 2) step

def passBlanks : Scan Unit := repeated do
  if isBlank (← next) then do passBlank; return true else return false

/-- Passes what is left of a line before its break. -/
def passLine : Scan Unit := repeated do
  if isBreakOrEnd (← next) then return false else do pass; return true

/-- Passes blanks and a comment up to the end of a line, and says whether there was a tab and
whether there was a space. A comment has a blank in front. -/
def passToLineEnd (tabs : Bool) : Scan (Bool × Bool) := do
  let front := (← get).rest.takeWhile fun c => c == ' ' || (tabs && c == '\t')
  loop front.length do passBlank; return true
  if (← next) == '#' then
    if front.isEmpty then refuse
    passLine
  return (front.contains '\t', front.contains ' ')

/-- Whether three characters, and a gap behind them, come next. -/
def markAhead (c : Char) : Scan Bool :=
  return (← ahead 0) == c && (← ahead 1) == c && (← ahead 2) == c && isGap (← ahead 3)

/-- Whether a mark between documents comes next, at the front of a line. -/
def documentMarkAhead : Scan Bool :=
  return (← get).column == 0 && ((← markAhead '-') || (← markAhead '.'))

/-! ## Tokens and keys -/

/-- Puts a token that begins at a column behind the others. -/
def emitFrom (column : Nat) (t : Token) : Scan Unit := modify fun s =>
  { s with tokens := s.tokens.push (t, column) }

/-- Puts a token that begins here behind the others. -/
def emit (t : Token) : Scan Unit := do emitFrom (← get).column t

def emitAt (n : Nat) (t : Token) : Scan Unit := modify fun s =>
  { s with
    tokens := (s.tokens.extract 0 n).push (t, s.column) ++ s.tokens.extract n s.tokens.size }

def allowKey (value : Bool) : Scan Unit := modify fun s => { s with keyAllowed := value }

def saveKey : Scan Unit := modify fun s =>
  if s.keyAllowed then
    let required := s.flow.isEmpty && s.indent == s.column && s.levels.head?.any (·.isBlock)
    let candidate := ⟨true, required, s.tokens.size, s.index, s.line, s.column⟩
    { s with candidates := candidate :: s.candidates.drop 1 }
  else s

/-- Forgets the innermost place where a key may have begun. -/
def forgetKey : Scan Unit := do
  let s ← get
  match s.candidates with
  | k :: r =>
    if k.possible && k.required then refuse
    set { s with candidates := { k with possible := false } :: r }
  | [] => return

/-- Forgets the places where a key may have begun that lie too far back: outside of flow
collections a key and its colon stand on one line. -/
def forgetStale : Scan Unit := do
  let s ← get
  let isStale (k : Candidate) : Bool :=
    k.possible && s.flow.isEmpty && (k.line < s.line || k.index + 1024 < s.index)
  if s.candidates.any fun k => isStale k && k.required then refuse
  set { s with
    candidates := s.candidates.map fun k => if isStale k then { k with possible := false } else k }

/-! ## Indentation -/

/-- Closes the blocks that are indented more than a column. -/
def unroll (column : Int) : Scan Unit := do
  if !(← inFlow) then
    loop ((← get).levels.length + 1) do
      let s ← get
      match s.levels with
      | level :: r =>
        if column < s.indent then
          set { s with indent := level.outer, levels := r }
          if level.isBlock then emit .blockEnd
          return true
        else return false
      | [] => return false

/-- Closes the innermost levels that are no blocks. -/
def unrollLines : Scan Unit := modify fun s =>
  let levels := s.levels.dropWhile (!·.isBlock)
  let dropped := s.levels.take (s.levels.length - levels.length)
  { s with levels := levels, indent := (dropped.getLast?.map (·.outer)).getD s.indent }

/-- Opens a block at a column, unless one is open there. Its token goes behind so many others. -/
def roll (column : Nat) (before : Nat) (t : Token) : Scan Unit := do
  if !(← inFlow) then
    modify fun s =>
      match s.levels with
      | level :: r =>
        if s.indent ≤ column && !level.isBlock then { s with indent := level.outer, levels := r }
        else s
      | [] => s
    let s ← get
    if s.indent < column then
      set { s with levels := ⟨s.indent, true⟩ :: s.levels, indent := (column : Int) }
      emitAt before t

/-- Opens a level of one more column for what goes on from a line. -/
def rollLine : Scan Unit := modify fun s =>
  if s.flow.isEmpty && s.levels.head?.any (·.isBlock) then
    { s with levels := ⟨s.indent, false⟩ :: s.levels, indent := s.indent + 1 }
  else s

end Conclave.Settings.Yaml
