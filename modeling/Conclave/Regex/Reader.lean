import Conclave.Regex.Basic
import Conclave.Text.Blank

/-!
# Reading regular expressions

The written form of regular expressions: characters that stand for themselves, escapes, classes in
square brackets with set operations, groups with names and flags, choices, and repetitions. Flags
hold from where they are set to the end of their group. `read?` gives the expression that a text
writes, and nothing for a text that writes none. There is no looking around and no reference to an
earlier group.
-/

namespace Conclave.Regex

/-! ## Flags and blanks -/

/-- The flags that the meaning of an expression depends on. Without `unicode`, classes hold ASCII
characters only; with `spaced`, blanks and comments count for nothing. -/
structure Flags where
  ignoreCase : Bool
  lines : Bool
  dotAll : Bool
  returns : Bool
  unicode : Bool
  spaced : Bool
deriving DecidableEq, Repr

def Flags.start : Flags := ⟨false, false, false, false, true, false⟩

/-- Flags with one of them set, by its letter. The letter `U` has no influence on whether a text
matches. -/
def Flags.set? (f : Flags) (letter : Char) (value : Bool) : Option Flags :=
  match letter with
  | 'i' => some { f with ignoreCase := value }
  | 'm' => some { f with lines := value }
  | 's' => some { f with dotAll := value }
  | 'R' => some { f with returns := value }
  | 'u' => some { f with unicode := value }
  | 'x' => some { f with spaced := value }
  | 'U' => some f
  | _ => none

/-- The flags that letters set; those after a hyphen are cleared. Every letter comes once, and a
hyphen comes once and not at the end. -/
def Flags.setAll? (f : Flags) (letters : List Char) : Option Flags :=
  if ¬letters.Nodup ∨ letters.getLast? = some '-' then none
  else
    let step (state : Flags × Bool) (c : Char) : Option (Flags × Bool) :=
      if c = '-' then some (state.1, false) else (state.1.set? c state.2).map (·, state.2)
    (letters.foldlM step (f, true)).map (·.1)

def Flags.alphabet (f : Flags) : Alphabet := if f.unicode then .full else .ascii

/-- A text without the blanks and comments at its front, if they count for nothing. -/
def skip (f : Flags) : (fuel : Nat) → List Char → List Char
  | 0, cs => cs
  | fuel + 1, cs =>
    if f.spaced then
      match cs with
      | '#' :: r => skip f fuel ((r.dropWhile (· ≠ '\n')).drop 1)
      | c :: r => if Text.isBlank c then skip f fuel r else cs
      | [] => []
    else cs

def skipAll (f : Flags) (cs : List Char) : List Char := skip f (cs.length + 1) cs

/-! ## Classes of characters -/

/-- The characters that count as equal to one if letter case does not matter. -/
def caseForms (f : Flags) (c : Char) : List Char :=
  let lower := Text.lowerChar c
  let upper := if 'a' ≤ c ∧ c ≤ 'z' then Char.ofNat (c.toNat - 32) else c
  let others :=
    if !f.unicode then []
    else if lower = 'k' then ['\u212a']
    else if lower = 's' then ['\u017f']
    else if c = '\u212a' then ['k', 'K']
    else if c = '\u017f' then ['s', 'S']
    else []
  c :: lower :: upper :: others

/-- A class with the other letter cases of its characters, if letter case does not matter. -/
def folded (f : Flags) (holds : Char → Bool) : Char → Bool :=
  if f.ignoreCase then fun c => (caseForms f c).any holds else holds

/-- A class as it may be used: without the `unicode` flag it must not hold bytes beyond ASCII. -/
def admitted? (f : Flags) (holds : Char → Bool) : Option (Char → Bool) :=
  if f.unicode then some holds
  else if (List.range 0x80).any fun n => holds (Char.ofNat (n + 0x80)) then none
  else some fun c => c.toNat < 0x80 && holds c

/-- The class of a letter after a backslash: digits, blanks or word characters. -/
def letterClass? (f : Flags) (letter : Char) : Option (Char → Bool) :=
  match letter with
  | 'd' => some (if f.unicode then Text.isDecimal else Char.isDigit)
  | 's' => some (if f.unicode then Text.isBlank else fun c => c == ' ' || ('\t' ≤ c && c ≤ '\r'))
  | 'w' => some f.alphabet.isWordChar
  | _ => none

/-- The classes of ASCII characters by their names. -/
def asciiClass? (name : String) : Option (Char → Bool) :=
  let graph (c : Char) : Bool := '!' ≤ c && c ≤ '~'
  match name with
  | "alnum" => some Char.isAlphanum
  | "alpha" => some Char.isAlpha
  | "ascii" => some fun c => c.toNat < 0x80
  | "blank" => some fun c => c == ' ' || c == '\t'
  | "cntrl" => some fun c => c.toNat < 0x20 || c.toNat == 0x7f
  | "digit" => some Char.isDigit
  | "graph" => some graph
  | "lower" => some Char.isLower
  | "print" => some fun c => graph c || c == ' '
  | "punct" => some fun c => graph c && !c.isAlphanum
  | "space" => some fun c => c == ' ' || ('\t' ≤ c && c ≤ '\r')
  | "upper" => some Char.isUpper
  | "word" => some Alphabet.ascii.isWordChar
  | "xdigit" => some fun c => (Text.hexValue? c).isSome
  | _ => none

/-- The class of ASCII characters that is named between colons, after its bracket, and what
follows it. -/
def namedClass? (cs : List Char) : Option ((Char → Bool) × List Char) :=
  match cs with
  | ':' :: r =>
    let (negated, r) := match r with
      | '^' :: r => (true, r)
      | r => (false, r)
    let name := r.takeWhile (· ≠ ':')
    match r.drop name.length with
    | ':' :: ']' :: rest =>
      (asciiClass? (String.ofList name)).map fun holds => (fun c => holds c != negated, rest)
    | _ => none
  | _ => none

/-- The general categories of a name of one or two letters. -/
def categories? (name : List Char) : Option (Text.Category → Bool) :=
  match name with
  | ['l'] => some Text.Category.isLetter
  | ['m'] => some Text.Category.isMark
  | ['n'] => some Text.Category.isNumber
  | ['p'] => some fun c => [.pc, .pd, .ps, .pe, .pi, .pf, .po].contains c
  | ['s'] => some fun c => [.sm, .sc, .sk, .so].contains c
  | ['z'] => some fun c => [.zs, .zl, .zp].contains c
  | ['c'] => some fun c => [.cc, .cf, .co, .cn].contains c
  | [a, b] =>
    let c := Text.Category.ofName [Char.ofNat (a.toNat - 32), b]
    if c = .cn ∧ name ≠ ['c', 'n'] then none else some (· == c)
  | _ => none

/-- The class of a property of characters. Case, blanks, hyphens and low lines in its name count
for nothing. -/
def property? (name : List Char) : Option (Char → Bool) :=
  let name := (name.map Text.lowerChar).filter fun c => c ≠ ' ' && c ≠ '_' && c ≠ '-'
  match String.ofList name with
  | "any" => some fun _ => true
  | "ascii" => some fun c => c.toNat < 0x80
  | "assigned" => some fun c => Text.category c != .cn
  | "alphabetic" | "alpha" => some Text.isAlphabetic
  | "whitespace" | "space" | "wspace" => some Text.isBlank
  | "letter" => some fun c => (Text.category c).isLetter
  | "mark" => some fun c => (Text.category c).isMark
  | "number" => some fun c => (Text.category c).isNumber
  | _ => (categories? name).map fun p c => p (Text.category c)

/-! ## Escapes -/

/-- A part of an expression that can stand in a class as well, except for conditions. `byte` marks
a literal written by two hexadecimal digits. -/
inductive Atom where
  | literal (c : Char) (byte : Bool)
  | class (holds : Char → Bool)
  | condition (c : Condition)

def char? (n : Nat) : Option Char :=
  if n < 0xd800 ∨ (0xe000 ≤ n ∧ n < 0x110000) then some (Char.ofNat n) else none

/-- A code point in hexadecimal: so many digits, or any number of them in braces. -/
def codePoint? (count : Nat) (cs : List Char) : Option (Char × List Char) :=
  let value? (ds : List Char) : Option Char :=
    if ds ≠ [] ∧ ds.all (Text.hexValue? · |>.isSome) then char? (Text.hexNumber ds) else none
  match cs with
  | '\x7b' :: r =>
    let ds := r.takeWhile (· ≠ '\x7d')
    match r.drop ds.length with
    | '\x7d' :: rest => (value? ds).map (·, rest)
    | _ => none
  | _ =>
    if (cs.take count).length = count then (value? (cs.take count)).map (·, cs.drop count)
    else none

/-- A property after its letter `p`: one letter, or a name in braces, which may say that it names
a general category. -/
def propertyAfter? (negated : Bool) (cs : List Char) : Option ((Char → Bool) × List Char) := do
  let (name, negated, rest) ← match cs with
    | '\x7b' :: r =>
      let text := r.takeWhile (· ≠ '\x7d')
      let front := text.takeWhile fun c => c ≠ '=' && c ≠ ':' && c ≠ '!'
      let inverse := text.drop front.length |>.head? |>.any (· == '!')
      let value := text.drop (front.length + if inverse then 2 else 1)
      let isCategory := front.map Text.lowerChar = "gc".toList
        || front.map Text.lowerChar = "general_category".toList
      if (r.drop text.length).head? ≠ some '\x7d' then none
      else if front = text then some (text, negated, r.drop (text.length + 1))
      else if isCategory then some (value, negated != inverse, r.drop (text.length + 1))
      else none
    | c :: r => some ([c], negated, r)
    | [] => none
  let holds ← property? name
  return (fun c => holds c != negated, rest)

/-- The condition that a name in braces after `\b` stands for. -/
def wordCondition? (a : Alphabet) (name : String) : Option Condition :=
  match name with
  | "start" => some (.wordStart a)
  | "end" => some (.wordEnd a)
  | "start-half" => some (.noWordBefore a)
  | "end-half" => some (.noWordAfter a)
  | _ => none

/-- What follows `\b`: perhaps a name in braces. Braces around anything else are a repetition. -/
def wordEdge? (f : Flags) (cs : List Char) : Option (Condition × List Char) :=
  let isNameChar (c : Char) : Bool := c.isAlpha || c == '-'
  match cs with
  | ['\x7b'] => none
  | '\x7b' :: c :: r =>
    if isNameChar c then
      let name := (c :: r).takeWhile isNameChar
      match (c :: r).drop name.length with
      | '\x7d' :: rest => (wordCondition? f.alphabet (String.ofList name)).map (·, rest)
      | _ => none
    else some (.wordEdge f.alphabet, cs)
  | _ => some (.wordEdge f.alphabet, cs)

/-- What a letter or another character after a backslash stands for, and what follows it. -/
def escape? (f : Flags) (cs : List Char) : Option (Atom × List Char) := do
  match cs with
  | [] => none
  | 'x' :: r => (codePoint? 2 r).map fun (c, rest) =>
    (.literal c (r.head? ≠ some '\x7b'), rest)
  | 'u' :: r => (codePoint? 4 r).map fun (c, rest) => (.literal c false, rest)
  | 'U' :: r => (codePoint? 8 r).map fun (c, rest) => (.literal c false, rest)
  | 'p' :: r | 'P' :: r =>
    if !f.unicode then none
    let (holds, rest) ← propertyAfter? (cs.head? = some 'P') r
    return (.class (folded f holds), rest)
  | 'a' :: r => return (.literal '\x07' false, r)
  | 'f' :: r => return (.literal '\x0c' false, r)
  | 't' :: r => return (.literal '\t' false, r)
  | 'n' :: r => return (.literal '\n' false, r)
  | 'r' :: r => return (.literal '\r' false, r)
  | 'v' :: r => return (.literal '\x0b' false, r)
  | 'A' :: r => return (.condition .textStart, r)
  | 'z' :: r => return (.condition .textEnd, r)
  | 'b' :: r => (wordEdge? f r).map fun (c, rest) => (.condition c, rest)
  | 'B' :: r => return (.condition (.noWordEdge f.alphabet), r)
  | '<' :: r => return (.condition (.wordStart f.alphabet), r)
  | '>' :: r => return (.condition (.wordEnd f.alphabet), r)
  | c :: r =>
    match letterClass? f (Text.lowerChar c) with
    | some holds =>
      if c.isLower then return (.class holds, r)
      else return (.class (← admitted? f fun c => !holds c), r)
    | none => if c.isAlphanum ∨ 0x80 ≤ c.toNat then none else return (.literal c false, r)

/-! ## Classes in square brackets -/

/-- The operations on sets, beside the union. -/
inductive SetOperation where
  | both | without | either
deriving DecidableEq, Repr

def SetOperation.apply (a b : Char → Bool) : SetOperation → Char → Bool
  | both, c => a c && b c
  | without, c => a c && !b c
  | either, c => a c != b c

/-- The result of an operation that waits for its second class, if there is one. -/
def complete (left : Option ((Char → Bool) × SetOperation)) (right : Char → Bool) : Char → Bool :=
  match left with
  | some (l, o) => o.apply l right
  | none => right

def item? (f : Flags) : List Char → Option (Atom × List Char)
  | '\\' :: r => escape? f r
  | c :: r => some (.literal c false, r)
  | [] => none

/-- The character that an item of a class is, if it is one. -/
def Atom.char? (f : Flags) : Atom → Option Char
  | .literal c _ => if f.unicode || c.toNat < 0x80 then some c else none
  | _ => none

/-- An item or a range of a class, and what follows it. A hyphen before the end of the class or
before another hyphen makes no range. -/
def rangeOrItem? (f : Flags) (cs : List Char) : Option ((Char → Bool) × List Char) := do
  let (first, rest) ← item? f cs
  let rest := skipAll f rest
  match rest with
  | [] => none
  | '-' :: r =>
    let next := (skipAll f r).head?
    if next = some ']' ∨ next = some '-' then single first rest
    else
      let (last, rest) ← item? f (skipAll f r)
      let a ← first.char? f
      let b ← last.char? f
      if a ≤ b then return (fun c => a ≤ c && c ≤ b, rest) else none
  | _ => single first rest
where
  single (a : Atom) (rest : List Char) : Option ((Char → Bool) × List Char) :=
    match a with
    | .class holds => some (holds, rest)
    | .literal .. => (a.char? f).map fun x => (fun c => c == x, rest)
    | .condition _ => none

mutual

/-- A class after its opening bracket, and what follows it. Hyphens at its front and a closing
bracket right there stand for themselves. -/
def bracketed? (f : Flags) : (fuel : Nat) → List Char → Option ((Char → Bool) × List Char)
  | 0, _ => none
  | fuel + 1, cs => do
    let cs := skipAll f cs
    let (negated, cs) := match cs with
      | '^' :: r => (true, skipAll f r)
      | cs => (false, cs)
    let hyphens := cs.takeWhile (· = '-')
    let cs := cs.drop hyphens.length
    let (first, cs) : (Char → Bool) × List Char :=
      if hyphens ≠ [] then (fun c => c == '-', cs)
      else match cs with
        | ']' :: r => (fun c => c == ']', r)
        | cs => (fun _ => false, cs)
    let (holds, rest) ← items? f fuel none first cs
    let holds := folded f holds
    return (← admitted? f fun c => holds c != negated, rest)

/-- The items of a class up to its closing bracket, given what stands to the left. -/
def items? (f : Flags) : (fuel : Nat) → Option ((Char → Bool) × SetOperation) → (Char → Bool) →
    List Char → Option ((Char → Bool) × List Char)
  | 0, _, _, _ => none
  | fuel + 1, left, sum, cs =>
    let operation (o : SetOperation) (r : List Char) :=
      items? f fuel (some (complete left (folded f sum), o)) (fun _ => false) r
    match skipAll f cs with
    | [] => none
    | ']' :: r => some (complete left (if left.isSome then folded f sum else sum), r)
    | '&' :: '&' :: r => operation .both r
    | '-' :: '-' :: r => operation .without r
    | '~' :: '~' :: r => operation .either r
    | '[' :: r => do
      let (holds, rest) ← (namedClass? r).or (bracketed? f fuel r)
      items? f fuel left (fun c => sum c || holds c) rest
    | cs => do
      let (holds, rest) ← rangeOrItem? f cs
      items? f fuel left (fun c => sum c || holds c) rest

end

/-! ## Repetitions -/

/-- A decimal number with blanks around it, and what follows it. -/
def count? (cs : List Char) : Option (Nat × List Char) :=
  let cs := cs.dropWhile Text.isBlank
  let ds := cs.takeWhile Char.isDigit
  (Text.natChars? 0x100000000 ds).map (·, (cs.drop ds.length).dropWhile Text.isBlank)

/-- The least and greatest number of a repetition after its opening brace, and what follows it. -/
def bounds? (f : Flags) (cs : List Char) : Option ((Nat × Option Nat) × List Char) := do
  let (least, rest) ← count? (skipAll f cs)
  match rest with
  | '\x7d' :: r => return ((least, some least), r)
  | ',' :: r =>
    match skipAll f r with
    | '\x7d' :: r => return ((least, none), r)
    | r =>
      let (most, rest) ← count? r
      match rest with
      | '\x7d' :: r => if least ≤ most then return ((least, some most), r) else none
      | _ => none
  | _ => none

/-- A text without a question mark at its front: whether a repetition takes as much as it can or
as little has no influence on whether a text matches. -/
def dropLazy : List Char → List Char
  | '?' :: r => r
  | cs => cs

/-- The parts of a sequence, the last one first, with the last one repeated. A setting of flags,
which is no expression, cannot be repeated. -/
def repeatLast? (least : Nat) (most : Option Nat) : List (Option Regex) →
    Option (List (Option Regex))
  | some r :: before => some (some (.repetition r least most) :: before)
  | _ => none

/-! ## Expressions -/

/-- Flags in force and the names of the groups so far. -/
structure Scope where
  flags : Flags
  names : List (List Char)

/-- Whether a character may occur in the name of a group. -/
def isNameChar (first : Bool) (c : Char) : Bool :=
  if first then c == '_' || Text.isAlphabetic c
  else c == '_' || c == '.' || c == '[' || c == ']' || Text.isAlphanumeric c

/-- The name of a group, which no other group has, and what follows it. -/
def groupName? (s : Scope) (cs : List Char) : Option (Scope × List Char) :=
  let name := cs.takeWhile (· ≠ '>')
  match name, cs.drop name.length with
  | c :: r, '>' :: rest =>
    if isNameChar true c ∧ r.all (isNameChar false) ∧ name ∉ s.names then
      some ({ s with names := name :: s.names }, rest)
    else none
  | _, _ => none

def Atom.toRegex? (f : Flags) : Atom → Option Regex
  | .literal c byte =>
    if !f.unicode && byte && 0x80 ≤ c.toNat then none else some (.char (folded f (· == c)))
  | .class holds => some (.char holds)
  | .condition c => some (.place c)

/-- The expression of a single character that is no operator. -/
def single? (f : Flags) : List Char → Option (Regex × List Char)
  | '\\' :: r => do
    let (a, rest) ← escape? f r
    return (← a.toRegex? f, rest)
  | '.' :: r =>
    if !f.unicode then none
    else
      some (.char fun c =>
        f.dotAll || (c != '\n' && !(f.returns && c == '\r')), r)
  | '^' :: r => some (.place (if f.lines then .lineStart f.returns else .textStart), r)
  | '$' :: r => some (.place (if f.lines then .lineEnd f.returns else .textEnd), r)
  | c :: r => some (.char (folded f (· == c)), r)
  | [] => none

/-- What stands after the opening parenthesis of a group, before its content: nothing, a name, or
flags. A closing parenthesis right after flags makes no group (`none`) but sets them. -/
def groupStart? (s : Scope) (cs : List Char) : Option (Scope × Bool × List Char) :=
  match cs with
  | '?' :: '=' :: _ | '?' :: '!' :: _ | '?' :: '<' :: '=' :: _ | '?' :: '<' :: '!' :: _ => none
  | '?' :: 'P' :: '<' :: r | '?' :: '<' :: r => (groupName? s r).map fun (s, r) => (s, true, r)
  | '?' :: r => do
    let letters := r.takeWhile fun c => c ≠ ':' && c ≠ ')'
    let flags ← s.flags.setAll? letters
    match r.drop letters.length with
    | ':' :: rest => return ({ s with flags := flags }, true, rest)
    | ')' :: rest => if letters = [] then none else return ({ s with flags := flags }, false, rest)
    | _ => none
  | _ => some (s, true, cs)

mutual

/-- A choice of sequences, up to a closing parenthesis or the end. -/
def choice? : (fuel : Nat) → Scope → List Char → Option (Regex × Scope × List Char)
  | 0, _, _ => none
  | fuel + 1, s, cs => do
    let (r, s, rest) ← sequence? fuel s [] cs
    match rest with
    | '|' :: rest =>
      let (others, s, rest) ← choice? fuel s rest
      return (.choice r others, s, rest)
    | rest => return (r, s, rest)

/-- A sequence, given its parts so far, the last one first. -/
def sequence? : (fuel : Nat) → Scope → List (Option Regex) → List Char →
    Option (Regex × Scope × List Char)
  | 0, _, _, _ => none
  | fuel + 1, s, parts, cs => do
    let f := s.flags
    let repeated (least : Nat) (most : Option Nat) (r : List Char) := do
      sequence? fuel s (← repeatLast? least most parts) (dropLazy r)
    match skipAll f cs with
    | [] => return (ofList (parts.reverse.filterMap id), s, [])
    | '|' :: r => return (ofList (parts.reverse.filterMap id), s, '|' :: r)
    | ')' :: r => return (ofList (parts.reverse.filterMap id), s, ')' :: r)
    | '?' :: r => repeated 0 (some 1) r
    | '*' :: r => repeated 0 none r
    | '+' :: r => repeated 1 none r
    | '\x7b' :: r =>
      let ((least, most), r) ← bounds? f r
      repeated least most (skipAll f r)
    | '[' :: r =>
      let (holds, rest) ← bracketed? f fuel r
      sequence? fuel s (some (.char holds) :: parts) rest
    | '(' :: r =>
      let (inner, isGroup, r) ← groupStart? s (skipAll f r)
      if isGroup then
        let (body, after, rest) ← choice? fuel inner r
        match rest with
        | ')' :: rest => sequence? fuel ⟨f, after.names⟩ (some body :: parts) rest
        | _ => none
      else sequence? fuel inner (none :: parts) r
    | cs =>
      let (r, rest) ← single? f cs
      sequence? fuel s (some r :: parts) rest

end

def read? (s : String) : Option Regex :=
  let cs := s.toList
  match choice? (2 * cs.length + 2) ⟨.start, []⟩ cs with
  | some (r, _, []) => some r
  | _ => none

/-- The characters that stand for themselves only after a backslash. -/
def isOperator (c : Char) : Bool := "\\.+*?()|[]\x7b\x7d^$#&-~".toList.contains c

/-- The expression, as a text, that matches a text and nothing else. -/
def escape (s : String) : String :=
  String.ofList (s.toList.flatMap fun c => if isOperator c then ['\\', c] else [c])

end Conclave.Regex
