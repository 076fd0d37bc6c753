import Conclave.Text.Letter

/-!
# Regular expressions

A regular expression is made of classes of characters, of conditions on the place where it stands,
and of sequences, choices and repetitions. `ends` says where its matches end, given where they
begin, as finite sets of places in a text; `isMatch` says whether there is a match anywhere. No
match is preferred to another one, because nobody asks which part of a text matches.
-/

namespace Conclave

/-- The characters that words are made of: those of every script, or ASCII ones only. -/
inductive Alphabet where
  | full | ascii
deriving DecidableEq, Repr

def Alphabet.isWordChar : Alphabet → Char → Bool
  | full, c => Text.isWordChar c
  | ascii, c => c.isAlphanum || c == '_'

/-- A condition on a place in a text. The conditions on lines say whether a carriage return ends a
line as well. -/
inductive Condition where
  | textStart | textEnd
  | lineStart (returns : Bool)
  | lineEnd (returns : Bool)
  | wordEdge (alphabet : Alphabet)
  | noWordEdge (alphabet : Alphabet)
  | wordStart (alphabet : Alphabet)
  | wordEnd (alphabet : Alphabet)
  | noWordBefore (alphabet : Alphabet)
  | noWordAfter (alphabet : Alphabet)
deriving DecidableEq, Repr

/-- A regular expression. A repetition has a least and perhaps a greatest number. -/
inductive Regex where
  | empty
  | char (holds : Char → Bool)
  | place (condition : Condition)
  | sequence (first second : Regex)
  | choice (first second : Regex)
  | repetition (body : Regex) (least : Nat) (most : Option Nat)

namespace Condition

def alphabet? : Condition → Option Alphabet
  | wordEdge a | noWordEdge a | wordStart a | wordEnd a | noWordBefore a | noWordAfter a => some a
  | _ => none

/-- Whether a condition is met between two characters, where nothing stands for an end of the
text. No line begins or ends between a carriage return and a line feed. -/
def isMet (before after : Option Char) : Condition → Bool
  | textStart => before.isNone
  | textEnd => after.isNone
  | lineStart false => before.all (· == '\n')
  | lineStart true => before.all fun c => c == '\n' || (c == '\r' && after != some '\n')
  | lineEnd false => after.all (· == '\n')
  | lineEnd true => after.all fun c => c == '\r' || (c == '\n' && before != some '\r')
  | wordEdge a => before.any a.isWordChar != after.any a.isWordChar
  | noWordEdge a => before.any a.isWordChar == after.any a.isWordChar
  | wordStart a => !before.any a.isWordChar && after.any a.isWordChar
  | wordEnd a => before.any a.isWordChar && !after.any a.isWordChar
  | noWordBefore a => !before.any a.isWordChar
  | noWordAfter a => !after.any a.isWordChar

end Condition

namespace Regex

def join (a b : List Nat) : List Nat := a ++ b.filter fun i => !a.contains i

def iterate (f : List Nat → List Nat) : Nat → List Nat → List Nat
  | 0, places => places
  | n + 1, places => iterate f n (f places)

/-- The places reached by a function of places that is applied at most so many times. -/
def reach (f : List Nat → List Nat) : Nat → List Nat → List Nat
  | 0, places => places
  | n + 1, places => reach f n (join places (f places))

/-- Where the matches end that begin at some of the given places. A text of `n` characters has
`n + 1` places, so more than `n + 1` rounds of a repetition add nothing. -/
def ends (t : Array Char) : Regex → List Nat → List Nat
  | empty, places => places
  | char holds, places => (places.filter fun i => t[i]?.any holds).map (· + 1)
  | place condition, places =>
    places.filter fun i => condition.isMet (if i = 0 then none else t[i - 1]?) t[i]?
  | sequence first second, places => ends t second (ends t first places)
  | choice first second, places => join (ends t first places) (ends t second places)
  | repetition body least most, places =>
    let rounds := t.size + 2
    let optional := (most.map fun n => min (n - least) rounds).getD rounds
    reach (ends t body) optional (iterate (ends t body) (min least rounds) places)

/-- Whether an expression matches some part of a text. -/
def isMatch (r : Regex) (s : String) : Bool :=
  let t := s.toList.toArray
  !(r.ends t (List.range (t.size + 1))).isEmpty

def ofList : List Regex → Regex
  | [] => empty
  | [r] => r
  | r :: rest => sequence r (ofList rest)

/-- Whether an expression has conditions on words of every script. -/
def asksForWords : Regex → Bool
  | place condition => condition.alphabet? == some .full
  | sequence a b | choice a b => a.asksForWords || b.asksForWords
  | repetition r _ _ => r.asksForWords
  | _ => false

end Regex

end Conclave
