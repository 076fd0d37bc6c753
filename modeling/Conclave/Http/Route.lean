import Conclave.Bytes
import Conclave.Regex.Reader

/-!
# Routes

The paths under which something is served. A route is a path, or a pattern with segments in braces:
`{name}` stands for any characters but slashes, `{name:expression}` for what a regular expression
matches, and `{name}*` at the very end for whatever follows. An asterisk at the end without a
segment before it takes the text after the last segment out of the pattern.
-/

namespace Conclave.Http

/-- What the path of a request is compared with. -/
inductive Route where
  | exact (path : String)
  | pattern (expression : Regex)

namespace Route

/-- The content of the braces that a text begins with, which may hold braces in pairs, and what
follows them. `depth` counts the braces that are open. -/
def braced? : (depth : Nat) → List Char → Option (List Char × List Char)
  | _, [] => none
  | depth, '\x7b' :: r => (braced? (depth + 1) r).map fun (x, rest) => ('\x7b' :: x, rest)
  | 0, '\x7d' :: r => some ([], r)
  | depth + 1, '\x7d' :: r => (braced? depth r).map fun (x, rest) => ('\x7d' :: x, rest)
  | depth, c :: r => (braced? depth r).map fun (x, rest) => (c :: x, rest)

def group (name expression : List Char) : List Char :=
  "(?P<".toList ++ name ++ '>' :: (expression ++ [')'])

/-- A text that matches only itself, as a part of a regular expression. -/
def constant (cs : List Char) : List Char := (Regex.escape (String.ofList cs)).toList

/-- The regular expression of a pattern up to its end, the number of segments, and whether the last
of them takes whatever follows. -/
def expand? : (fuel : Nat) → List Char → Option (List Char × Nat × Bool)
  | 0, _ => none
  | fuel + 1, cs =>
    let front := cs.takeWhile (· ≠ '\x7b')
    match cs.drop front.length with
    | [] => some (if cs.getLast? = some '*' then [] else constant cs, 0, false)
    | _ :: r => do
      let (segment, rest) ← braced? 0 r
      let name := segment.takeWhile (· ≠ ':')
      let tail := rest = ['*']
      if name ≠ segment ∧ tail then none
      let expression :=
        if name ≠ segment then segment.drop (name.length + 1)
        else if tail then ".*".toList
        else "[^/]+".toList
      let (others, count, tailed) ← expand? fuel (if tail then [] else rest)
      return (constant front ++ group name expression ++ others, count + 1, tail || tailed)

def mostSegments : Nat := 16

/-- The route that a text writes. A pattern that is not well-formed writes none. -/
def read? (s : String) : Option Route :=
  let cs := s.toList
  if '\x7b' ∉ cs ∧ cs.getLast? ≠ some '*' then some (.exact s)
  else do
    let (text, count, tailed) ← expand? (cs.length + 1) cs
    if mostSegments < count then none
    let whole := "((?s-m)^".toList ++ text ++ (if tailed then [')'] else [')', '$'])
    return .pattern (← Regex.read? (String.ofList whole))

def admits : Route → String → Bool
  | exact path, s => path == s
  | pattern expression, s => expression.isMatch s

end Route

end Conclave.Http
