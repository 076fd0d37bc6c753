import Conclave.Settings.Yaml.Scalar

/-!
# Tokens of YAML texts

The tokens of a whole text, in their order. Each step passes blanks and comments, closes the blocks
that end there, and reads one token. At a colon the token of the key is put in front of what has
been read as the key, and the token that opens its block in front of that.
-/

namespace Conclave.Settings.Yaml

/-! ## Blanks between tokens -/

/-- Passes blanks, comments and line breaks. A tab is no indentation of a block. -/
def passToToken : Scan Unit := repeated do
  let c ← next
  let s ← get
  if c == '\t' && !s.levels.isEmpty && s.onlyBlanks && s.column < s.indent then
    let _ ← passToLineEnd true
    if isBreakOrEnd (← next) then return true else refuse
  else if isBlank c then
    passBlank
    return true
  else if isBreak c then
    passBreak
    if !(← inFlow) then allowKey true
    return true
  else if c == '#' then
    passLine
    return true
  else return false

/-! ## Marks between documents -/

/-- Ends all blocks and whatever key may have begun. -/
def endBlocks : Scan Unit := do
  unroll (-1)
  forgetKey
  allowKey false

def passMany (count : Nat) : Scan Unit := loop count do pass; return true

def word : Scan String := do
  let cs := (← get).rest.takeWhile (!isGap ·)
  passMany cs.length
  return String.ofList cs

def directive : Scan Unit := do
  endBlocks
  let column := (← get).column
  pass
  let name ← word
  if name = "" then refuse
  passBlanks
  if name = "YAML" then
    let digits := (← word).toList
    let major := digits.takeWhile Char.isDigit
    let minor := digits.drop (major.length + 1)
    if major = [] ∨ digits[major.length]? ≠ some '.' ∨ minor = [] ∨ !minor.all Char.isDigit then
      refuse
    emitFrom column .version
  else if name = "TAG" then
    let handle ← word
    passBlanks
    let text ← word
    if !("!".isPrefixOf handle) ∨ (handle ≠ "!" ∧ !(handle.endsWith "!")) then refuse
    emitFrom column (.tagPrefix handle text)
  else
    passLine
    emitFrom column (.tagPrefix "" "")
  let _ ← passToLineEnd true
  if !isBreakOrEnd (← next) then refuse

def documentMark (t : Token) : Scan Unit := do
  endBlocks
  emit t
  passMany 3

/-! ## Marks of blocks -/

def blockEntry : Scan Unit := do
  let s ← get
  if !s.flow.isEmpty || !s.keyAllowed then refuse
  match s.tokens.back? with
  | some (.anchor _, 0) | some (.tag .., 0) => if s.column = 0 ∧ -1 < s.indent then refuse
  | _ => pure ()
  let column := s.column
  pass
  roll column (← get).tokens.size .sequenceStart
  let (hasTab, _) ← passToLineEnd true
  if hasTab && (← next) == '-' && isGap (← ahead 1) then refuse
  let c ← next
  if isBreak c || isFlowMark c then rollLine
  forgetKey
  allowKey true
  emit .blockEntry

def explicitKey : Scan Unit := do
  let s ← get
  if s.flow.isEmpty then
    if !s.keyAllowed then refuse
    roll s.column s.tokens.size .mappingStart
  forgetKey
  allowKey s.flow.isEmpty
  emit .key
  pass
  repeated do
    if (← next) == ' ' then do passBlank; return true else return false
  if (← next) == '\t' then refuse

def mappedValue : Scan Unit := do
  let s ← get
  let k := s.candidates.headD .none
  let inSequence := s.flow.head?.any id
  pass
  if (← next) == '\t' then
    let (_, hasSpace) ← passToLineEnd true
    let c ← next
    if !hasSpace && (c == '-' || c.isAlphanum) then refuse
  if k.possible then
    emitAt k.tokens .key
    if inSequence && k.line < s.line then refuse
    roll k.column k.tokens .mappingStart
    rollLine
    modify fun s => { s with candidates := { k with possible := false } :: s.candidates.drop 1 }
    allowKey false
  else
    if s.flow.isEmpty then
      if !s.keyAllowed then refuse
      roll s.column s.tokens.size .mappingStart
    rollLine
    allowKey s.flow.isEmpty
  emit .value

/-! ## Flow collections -/

def openFlow (isSequence : Bool) : Scan Unit := do
  saveKey
  rollLine
  if 255 ≤ (← get).flow.length then refuse
  emit (if isSequence then .openSequence else .openMapping)
  modify fun s => { s with
    flow := isSequence :: s.flow, candidates := Candidate.none :: s.candidates, keyAllowed := true }
  pass
  let _ ← passToLineEnd true

/-- Passes a closing bracket or brace. A value may follow right behind it. -/
def closeFlow (isSequence : Bool) : Scan Unit := do
  forgetKey
  modify fun s => { s with
    flow := s.flow.drop 1
    candidates := if s.flow.isEmpty then s.candidates else s.candidates.drop 1
    keyAllowed := false }
  emit (if isSequence then .closeSequence else .closeMapping)
  pass
  let _ ← passToLineEnd true
  if ← inFlow then modify fun s => { s with adjacentAt := some s.index }

def flowEntry : Scan Unit := do
  forgetKey
  allowKey true
  emit .flowEntry
  pass
  let _ ← passToLineEnd true

/-! ## Properties of nodes -/

def named (isAlias : Bool) : Scan Unit := do
  saveKey
  allowKey false
  let column := (← get).column
  pass
  let name := (← get).rest.takeWhile fun c => !isGap c && !isFlowMark c && c ≠ '\ufeff'
  if name = [] then refuse
  passMany name.length
  let name := String.ofList name
  emitFrom column (if isAlias then .alias name else .anchor name)

/-- Whether a character may occur in the name of a tag. -/
def isTagChar (c : Char) : Bool :=
  c.isAlphanum || "-_#;/?:@&=+$.~*'()%".toList.contains c

/-- Passes a tag: in angle brackets, or a handle between exclamation marks and a name. -/
def tag : Scan Unit := do
  saveKey
  allowKey false
  let column := (← get).column
  let cs := (← get).rest.drop 1
  let (handle, suffix, length) ← match cs with
    | '<' :: r => do
      let uri := r.takeWhile fun c => isTagChar c || c == ',' || c == '[' || c == ']' || c == '!'
      if (r.drop uri.length).head? ≠ some '>' then refuse
      pure (([] : List Char), uri, uri.length + 3)
    | _ => do
      let first := cs.takeWhile fun c => c.isAlphanum || c == '-' || c == '_'
      match cs.drop first.length with
      | '!' :: r => do
        let name := r.takeWhile isTagChar
        if name = [] then refuse
        pure ('!' :: (first ++ ['!']), name, first.length + 2 + name.length)
      | _ => do
        let name := cs.takeWhile isTagChar
        pure (if name = [] then ([], ['!'], 1) else (['!'], name, name.length + 1))
  passMany length
  let c ← next
  if isGap c || ((← inFlow) && isFlowMark c) then
    emitFrom column (.tag (String.ofList handle) (String.ofList suffix))
  else refuse

/-! ## The stream -/

/-- Passes a scalar of a kind. A key may begin before it. -/
def scalar (isPlain : Bool) (read : Scan String) : Scan Unit := do
  saveKey
  allowKey false
  let column := (← get).column
  let text ← read
  emitFrom column (.scalar isPlain text)

/-- Passes a text in quotes. A value may follow right behind it. -/
def quotedScalar (quote : Char) : Scan Unit := do
  saveKey
  allowKey false
  let column := (← get).column
  let text ← quoted quote
  passToToken
  modify fun s => { s with adjacentAt := some s.index }
  emitFrom column (.scalar false text)

/-- Passes a block of lines. A key may begin after it. -/
def blockScalar (literal : Bool) : Scan Unit := do
  saveKey
  allowKey true
  let column := (← get).column
  let text ← block literal
  emitFrom column (.scalar false text)

def endStream : Scan Unit := do
  if (← get).candidates.any fun k => k.possible && k.required then refuse
  modify fun s => { s with
    candidates := s.candidates.map fun k => { k with possible := false } }
  endBlocks
  emit .streamEnd

/-- Passes the next token that is no mark between documents. -/
def token : Scan Unit := do
  let c ← ahead 0
  let d ← ahead 1
  let flow ← inFlow
  let s ← get
  match c with
  | '[' => openFlow true
  | '\x7b' => openFlow false
  | ']' => closeFlow true
  | '\x7d' => closeFlow false
  | ',' => flowEntry
  | '*' => named true
  | '&' => named false
  | '!' => tag
  | '\'' => quotedScalar '\''
  | '"' => quotedScalar '"'
  | '@' | '%' | '\x60' => refuse
  | _ =>
    if c == '-' && isGap d then blockEntry
    else if c == '?' && isGap d then explicitKey
    else if c == ':' && isGap d then mappedValue
    else if c == ':' && flow && (isFlowMark d || s.adjacentAt == some s.index) then
      if s.adjacentAt != some s.index && (d == '[' || d == '\x7b') then refuse
      mappedValue
    else if c == '|' && !flow then blockScalar true
    else if c == '>' && !flow then blockScalar false
    else scalar true plain

/-- Passes one token and says whether more may follow. -/
def step : Scan Bool := do
  passToToken
  forgetStale
  unroll (← get).column
  if isEnd (← next) then
    endStream
    return false
  let s ← get
  if s.column = 0 ∧ (← next) = '%' then directive
  else if s.column = 0 ∧ (← markAhead '-') then documentMark .documentStart
  else if s.column = 0 ∧ (← markAhead '.') then
    documentMark .documentEnd
    let _ ← passToLineEnd true
    if !isBreakOrEnd (← next) then refuse
  else if s.column < s.indent then refuse
  else token
  return true

def tokens? (s : String) : Option (List Token) :=
  (((repeated step).run (.start s.toList)).map fun (_, c) => c.tokens.toList.map (·.1))

end Conclave.Settings.Yaml
