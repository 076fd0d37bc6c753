import Conclave.Settings.Yaml.Cursor

/-!
# Scalars of YAML texts

Plain texts, texts in quotes and blocks of lines. A line break inside a scalar stands for a space,
and one followed by empty lines for as many line breaks as there are empty lines; in a literal
block every line break stands for itself.
-/

namespace Conclave.Settings.Yaml

/-! ## Folding of lines -/

/-- A text in the making. `blanks` and the breaks come into it when more text follows. -/
structure Folding where
  text : String
  blanks : String
  leading : String
  trailing : String

def Folding.empty : Folding := ⟨"", "", "", ""⟩

def Folding.fold (f : Folding) : Folding :=
  if f.leading = "" then ⟨f.text ++ f.trailing, f.blanks, "", ""⟩
  else if f.trailing = "" then ⟨f.text ++ " ", f.blanks, "", ""⟩
  else ⟨f.text ++ f.trailing, f.blanks, "", ""⟩

/-! ## Texts in quotes -/

/-- The character of a code point of so many hexadecimal digits, which are passed. -/
def codePoint (count : Nat) : Scan Char := do
  let ds := (← get).rest.take count
  if ds.length ≠ count ∨ !ds.all (Text.hexValue? · |>.isSome) then refuse
  let n := ds.foldl (fun n c => 16 * n + (Text.hexValue? c).getD 0) 0
  loop count do pass; return true
  if n < 0xd800 ∨ (0xe000 ≤ n ∧ n < 0x110000) then return Char.ofNat n else refuse

def escape : Scan Char := do
  let c ← ahead 1
  pass
  pass
  match c with
  | '0' => return '\x00'
  | 'a' => return '\x07'
  | 'b' => return '\x08'
  | 't' | '\t' => return '\t'
  | 'n' => return '\n'
  | 'v' => return '\x0b'
  | 'f' => return '\x0c'
  | 'r' => return '\r'
  | 'e' => return '\x1b'
  | ' ' => return ' '
  | '"' => return '"'
  | '/' => return '/'
  | '\\' => return '\\'
  | 'N' => return '\u0085'
  | '_' => return '\u00a0'
  | 'L' => return '\u2028'
  | 'P' => return '\u2029'
  | 'x' => codePoint 2
  | 'u' => codePoint 4
  | 'U' => codePoint 8
  | _ => refuse

/-- Passes the characters of a quoted text up to a gap or the closing quote. The Boolean says
whether they end with an escaped line break. -/
def quotedWord (quote : Char) : (fuel : Nat) → String → Scan (String × Bool)
  | 0, text => return (text, false)
  | fuel + 1, text => do
    let c ← next
    if isGap c then return (text, false)
    else if c == quote then
      if quote == '\'' && (← ahead 1) == '\'' then
        pass
        pass
        quotedWord quote fuel (text.push '\'')
      else return (text, false)
    else if c == '\\' && quote == '"' then
      if isBreak (← ahead 1) then
        pass
        passBreak
        return (text, true)
      else
        let x ← escape
        quotedWord quote fuel (text.push x)
    else
      pass
      quotedWord quote fuel (text.push c)

/-- Passes the blanks and line breaks inside a quoted text. `fresh` says that a line break was
passed before. -/
def quotedGap (fresh : Bool) : (fuel : Nat) → Folding → Scan (Folding × Bool)
  | 0, f => return (f, fresh)
  | fuel + 1, f => do
    let c ← next
    if isBlank c then
      let s ← get
      if fresh then
        if c == '\t' && s.column < s.indent then refuse
        passBlank
        quotedGap fresh fuel f
      else
        passBlank
        quotedGap fresh fuel { f with blanks := f.blanks.push c }
    else if isBreak c then
      passBreak
      if fresh then quotedGap fresh fuel { f with trailing := f.trailing.push '\n' }
      else quotedGap true fuel { f with blanks := "", leading := "\n" }
    else return (f, fresh)

def quotedBody (quote : Char) : (fuel : Nat) → Folding → Scan Folding
  | 0, _ => refuse
  | fuel + 1, f => do
    let s ← get
    if (← documentMarkAhead) || isEnd (← next) || s.column < s.indent then refuse
    let (text, escaped) ← quotedWord quote (s.rest.length + 1) f.text
    if (← next) == quote then return { f with text := text }
    let (f, fresh) ← quotedGap escaped ((← get).rest.length + 1) { f with text := text }
    if fresh then quotedBody quote fuel f.fold
    else quotedBody quote fuel { f with text := f.text ++ f.blanks, blanks := "" }

/-- Passes a text in quotes and what may follow it on its line. -/
def quoted (quote : Char) : Scan String := do
  let line := (← get).line
  pass
  let f ← quotedBody quote ((← get).rest.length + 1) .empty
  pass
  let _ ← passToLineEnd true
  let c ← next
  let s ← get
  let fits := if s.flow.isEmpty then c == ':' && s.line == line
    else c == ':' || c == ',' || c == '\x7d' || c == ']'
  if isBreakOrEnd c || fits then return f.text else refuse

/-! ## Plain texts -/

/-- Whether the next character can belong to a plain text. -/
def plainAhead : Scan Bool := do
  let c ← ahead 0
  let d ← ahead 1
  let flow ← inFlow
  return !(c == ':' && (isGap d || (flow && isFlowMark d))) && !(flow && isFlowMark c)

/-- Passes the characters of a plain text up to a gap. -/
def plainWord : (fuel : Nat) → String → Scan String
  | 0, text => return text
  | fuel + 1, text => do
    let c ← next
    if !isGap c && (← plainAhead) then
      pass
      plainWord fuel (text.push c)
    else return text

/-- Passes the blanks and line breaks inside a plain text. -/
def plainGap (indent : Int) : (fuel : Nat) → Folding → Scan Folding
  | 0, f => return f
  | fuel + 1, f => do
    let c ← next
    let s ← get
    if isBlank c then
      if !s.onlyBlanks then
        passBlank
        plainGap indent fuel { f with blanks := f.blanks.push c }
      else if s.column < indent && c == '\t' then
        let _ ← passToLineEnd true
        if isBreakOrEnd (← next) then plainGap indent fuel f else refuse
      else
        passBlank
        plainGap indent fuel f
    else if isBreak c then
      passBreak
      if s.onlyBlanks then plainGap indent fuel { f with trailing := f.trailing.push '\n' }
      else plainGap indent fuel { f with blanks := "", leading := "\n" }
    else return f

/-- Passes a plain text. It ends before a comment, before a mark between documents, and where the
indentation ends. -/
def plainBody (indent : Int) : (fuel : Nat) → Folding → Scan Folding
  | 0, f => return f
  | fuel + 1, f => do
    let c ← next
    if (← documentMarkAhead) || c == '#' then return f
    if (← inFlow) && c == '-' && isFlowMark (← ahead 1) then refuse
    let f ← if !isGap c && (← plainAhead) then do
        let f := if (← get).onlyBlanks then f.fold
          else { f with text := f.text ++ f.blanks, blanks := "" }
        let text ← plainWord ((← get).rest.length + 1) f.text
        pure { f with text := text }
      else pure f
    let c ← next
    if !(isBlank c || isBreak c) then return f
    let f ← plainGap indent ((← get).rest.length + 1) f
    let s ← get
    if s.flow.isEmpty && s.column < indent then return f
    plainBody indent fuel f

/-- Passes a plain text; a key may begin after it if it ends at the end of a line. -/
def plain : Scan String := do
  unrollLines
  let s ← get
  let indent := s.indent + 1
  if !s.flow.isEmpty && s.column < indent then refuse
  let f ← plainBody indent (s.rest.length + 1) .empty
  if (← get).onlyBlanks then allowKey true
  if f.text = "" then refuse
  return f.text

/-! ## Blocks of lines -/

/-- What is done with the line breaks at the end of a block. -/
inductive Chomping where
  | clip | strip | keep
deriving DecidableEq, Repr

/-- Passes a mark for the line breaks at the end, if there is one. -/
def chomping? : Scan (Option Chomping) := do
  match ← next with
  | '+' => do pass; return some .keep
  | '-' => do pass; return some .strip
  | _ => return none

/-- Passes a digit for the indentation, if there is one. -/
def increment? : Scan (Option Nat) := do
  let c ← next
  if c.isDigit then
    if c == '0' then refuse
    pass
    return some (c.toNat - '0'.toNat)
  else return none

/-- Passes empty lines, and the indentation of the line after them up to a column. -/
def passIndent (indent : Nat) : (fuel : Nat) → String → Scan String
  | 0, breaks => return breaks
  | fuel + 1, breaks => do
    repeated do
      if (← get).column < indent && (← next) == ' ' then do passBlank; return true
      else return false
    if isBreak (← next) then
      passBreak
      passIndent indent fuel (breaks.push '\n')
    else return breaks

/-- Passes empty lines and the indentation of the line after them. The widest of them counts. -/
def findIndent : (fuel : Nat) → (widest : Nat) → String → Scan (Nat × String)
  | 0, widest, breaks => return (widest, breaks)
  | fuel + 1, widest, breaks => do
    repeated do
      if (← next) == ' ' then do passBlank; return true else return false
    let widest := max widest (← get).column
    if isBreak (← next) then
      passBreak
      findIndent fuel widest (breaks.push '\n')
    else return (widest, breaks)

/-- Passes the lines of a block. `f.leading` is the last line break, `f.trailing` are the empty
lines after it, and `indented` says whether the last line began with a blank. -/
def blockLines (literal : Bool) (indent : Nat) : (fuel : Nat) → (indented : Bool) → Folding →
    Scan Folding
  | 0, _, f => return f
  | fuel + 1, indented, f => do
    let s ← get
    if s.column ≠ indent || isEnd (← next) || (indent = 0 && (← markAhead '.')) then return f
    let begins := isBlank (← next)
    let breaks :=
      if !literal && f.leading ≠ "" && !indented && !begins then
        if f.trailing = "" then " " else f.trailing
      else f.leading ++ f.trailing
    let line := s.rest.takeWhile (!isBreakOrEnd ·)
    passLine
    let f : Folding := ⟨f.text ++ breaks ++ String.ofList line, "", "", ""⟩
    if isEnd (← next) then return f
    passBreak
    let trailing ← passIndent indent ((← get).rest.length + 1) ""
    blockLines literal indent fuel begins { f with leading := "\n", trailing := trailing }

def block (literal : Bool) : Scan String := do
  let line := (← get).line
  pass
  unrollLines
  let before ← chomping?
  let increment ← increment?
  let after ← if before.isNone && increment.isSome then chomping? else pure none
  let chomping := (before.or after).getD .clip
  let _ ← passToLineEnd true
  let c ← next
  if !isBreakOrEnd c then refuse
  if isBreak c then passBreak
  let opening := if isBreak c then "\n" else ""
  if (← next) == '\t' then refuse
  let s ← get
  let fuel := s.rest.length + 1
  let (indent, trailing) ← match increment with
    | some n => do
      let indent := (max s.indent 0).toNat + n
      pure (indent, ← passIndent indent fuel "")
    | none => do
      let (widest, breaks) ← findIndent fuel 0 ""
      pure (max widest (max (s.indent + 1) 0).toNat, breaks)
  let s ← get
  if isEnd (← next) then
    return match chomping with
      | .strip => ""
      | .clip => if s.line = line then "" else opening
      | .keep => if s.line = line then "" else if trailing = "" then opening else trailing
  if s.column < indent && s.indent < s.column then refuse
  let f ← blockLines literal indent fuel false { Folding.empty with trailing := trailing }
  let s ← get
  let unended := isEnd (← next) && max indent 1 ≤ s.column
  let ending := if chomping = .strip then "" else f.leading ++ (if unended then "\n" else "")
  return f.text ++ ending ++ (if chomping = .keep then f.trailing else "")

end Conclave.Settings.Yaml
