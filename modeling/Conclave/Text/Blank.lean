/-!
# Blanks and trimming

The characters of the Unicode property `White_Space`, and the text that is left when
those at its two ends are taken away. `trimChars_eq_self` says when nothing is taken. A byte
order mark is no blank; it has a function of its own.
-/

namespace Conclave.Text

/-- Whether a character has the Unicode property `White_Space`. -/
def isBlank (c : Char) : Bool :=
  let n := c.toNat
  (9 ≤ n && n ≤ 13) || n == 0x20 || n == 0x85 || n == 0xa0 || n == 0x1680
    || (0x2000 ≤ n && n ≤ 0x200a) || n == 0x2028 || n == 0x2029 || n == 0x202f
    || n == 0x205f || n == 0x3000

def trimEndChars (cs : List Char) : List Char :=
  (cs.reverse.dropWhile isBlank).reverse

def trimChars (cs : List Char) : List Char :=
  trimEndChars (cs.dropWhile isBlank)

/-- A text without one byte order mark at its front. -/
def dropByteOrderMark : List Char → List Char
  | '\ufeff' :: r => r
  | cs => cs

def trim (s : String) : String := String.ofList (trimChars s.toList)

@[simp] theorem toList_trim (s : String) : (trim s).toList = trimChars s.toList := by
  simp [trim]

/-- Nothing is taken from a text whose first and last characters are no blanks. -/
theorem trimChars_eq_self {cs : List Char} (hfirst : ∀ c, cs.head? = some c → isBlank c = false)
    (hlast : ∀ c, cs.getLast? = some c → isBlank c = false) : trimChars cs = cs := by
  have hdrop : ∀ ds : List Char, (∀ c, ds.head? = some c → isBlank c = false) →
      ds.dropWhile isBlank = ds := by
    intro ds h
    cases ds with
    | nil => rfl
    | cons c r => simp [h c rfl]
  unfold trimChars trimEndChars
  rw [hdrop cs hfirst, hdrop cs.reverse (by simpa using hlast), List.reverse_reverse]

end Conclave.Text
