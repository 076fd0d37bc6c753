import Conclave.Text.Category.Table
import Conclave.Text.CodeTable

/-!
# General categories of characters

Every character of Unicode has one of thirty general categories, which classes of characters are
made of: letters, marks, numbers and so on. `category` gives it; the classes below it are the ones
that formats speak of.
-/

namespace Conclave.Text

/-- The general categories, by their short names. Surrogates are no characters and are left out. -/
inductive Category where
  | lu | ll | lt | lm | lo
  | mn | mc | me
  | nd | nl | no
  | pc | pd | ps | pe | pi | pf | po
  | sm | sc | sk | so
  | zs | zl | zp
  | cc | cf | co | cn
deriving DecidableEq, Repr

namespace Category

/-- The category of a short name; `cn`, unassigned, for any other text. -/
def ofName : List Char → Category
  | ['L', 'u'] => lu
  | ['L', 'l'] => ll
  | ['L', 't'] => lt
  | ['L', 'm'] => lm
  | ['L', 'o'] => lo
  | ['M', 'n'] => mn
  | ['M', 'c'] => mc
  | ['M', 'e'] => me
  | ['N', 'd'] => nd
  | ['N', 'l'] => nl
  | ['N', 'o'] => no
  | ['P', 'c'] => pc
  | ['P', 'd'] => pd
  | ['P', 's'] => ps
  | ['P', 'e'] => pe
  | ['P', 'i'] => pi
  | ['P', 'f'] => pf
  | ['P', 'o'] => po
  | ['S', 'm'] => sm
  | ['S', 'c'] => sc
  | ['S', 'k'] => sk
  | ['S', 'o'] => so
  | ['Z', 's'] => zs
  | ['Z', 'l'] => zl
  | ['Z', 'p'] => zp
  | ['C', 'c'] => cc
  | ['C', 'f'] => cf
  | ['C', 'o'] => co
  | _ => cn

def isLetter : Category → Bool
  | lu | ll | lt | lm | lo => true
  | _ => false

/-- Whether a category is one of marks, which combine with the character before them. -/
def isMark : Category → Bool
  | mn | mc | me => true
  | _ => false

def isNumber : Category → Bool
  | nd | nl | no => true
  | _ => false

/-- Whether characters of a category have no visible form: separators, controls, format
characters, characters of private use and unassigned code points. -/
def isInvisible : Category → Bool
  | zs | zl | zp | cc | cf | co | cn => true
  | _ => false

end Category

def categories : CodeTable Category := .read Category.ofName categoryRanges

def category (c : Char) : Category := (categories.get? c).getD .cn

end Conclave.Text
