import Conclave.Json.Source

/-!
# The tokens of a tree

`Source.spell` gives the tokens that a tree is written with, and `ofTokens?_spell` says that the
construction of trees gets the tree back from them. The induction is over the tree, with the open
arrays and objects around it and the tokens after it left open: spelling a part has the effect of
completing it in the innermost open part (`foldlM_spell`).
-/

namespace Conclave.Json.Source

mutual

/-- The tokens of a tree. -/
def spell : Source → List Token
  | .null => [.null]
  | .bool b => [.bool b]
  | .number n => [.number n]
  | .text s => [.text s]
  | .array [] => [.openArray, .closeArray]
  | .array (x :: r) => .openArray :: (spell x ++ spellItems r)
  | .object [] => [.openObject, .closeObject]
  | .object ((k, x) :: r) => .openObject :: .text k :: .colon :: (spell x ++ spellMembers r)

/-- The tokens of the items after the first one, up to the end of their array. -/
def spellItems : List Source → List Token
  | [] => [.closeArray]
  | x :: r => .comma :: (spell x ++ spellItems r)

/-- The tokens of the members after the first one, up to the end of their object. -/
def spellMembers : List (Option String × Source) → List Token
  | [] => [.closeObject]
  | (k, x) :: r => .comma :: .text k :: .colon :: (spell x ++ spellMembers r)

end

theorem foldlM_cons_of_step {b b' : Builder} {t : Token} (h : step b t = some b')
    (ts : List Token) : (t :: ts).foldlM step b = ts.foldlM step b' := by
  rw [List.foldlM_cons, h, Option.bind_eq_bind, Option.bind_some]

theorem foldlM_key (read : List (Option String × Source)) (k : Option String)
    (frames : List Frame) (ts : List Token) :
    (.text k :: .colon :: ts).foldlM step (.working .key (.object read :: frames))
      = ts.foldlM step (.working .value (.member read k :: frames)) := rfl

theorem foldlM_keyOrEnd (k : Option String) (frames : List Frame) (ts : List Token) :
    (.text k :: ts).foldlM step (.working .keyOrEnd frames)
      = (.text k :: ts).foldlM step (.working .key frames) := rfl

theorem foldlM_spell_valueOrEnd (x : Source) (frames : List Frame) (rest : List Token) :
    (spell x ++ rest).foldlM step (.working .valueOrEnd frames)
      = (spell x ++ rest).foldlM step (.working .value frames) := by
  cases x with
  | array items => cases items <;> rfl
  | object members => cases members <;> rfl
  | _ => rfl

-- what follows the tree stays open, so that the rest of its frame can be read from there
mutual

theorem foldlM_spell : ∀ (x : Source) (frames : List Frame) (rest : List Token),
    (spell x ++ rest).foldlM step (.working .value frames)
      = (complete x frames).bind fun b => rest.foldlM step b
  | .null, _, _ => rfl
  | .bool _, _, _ => rfl
  | .number _, _, _ => rfl
  | .text _, _, _ => rfl
  | .array [], _, _ => rfl
  | .array (x :: r), frames, rest => by
      have hopen : step (.working .value frames) .openArray
          = some (.working .valueOrEnd (.array [] :: frames)) := rfl
      rw [spell, List.cons_append, foldlM_cons_of_step hopen,
        List.append_assoc, foldlM_spell_valueOrEnd, foldlM_spell x, complete, Option.bind_some,
        foldlM_spellItems [x] r]
      rfl
  | .object [], _, _ => rfl
  | .object ((k, x) :: r), frames, rest => by
      have hopen : step (.working .value frames) .openObject
          = some (.working .keyOrEnd (.object [] :: frames)) := rfl
      rw [spell, List.cons_append, foldlM_cons_of_step hopen, List.cons_append,
        List.cons_append, foldlM_keyOrEnd, foldlM_key, List.append_assoc, foldlM_spell x,
        complete, Option.bind_some, foldlM_spellMembers [(k, x)] r]
      rfl

theorem foldlM_spellItems : ∀ (read items : List Source) (frames : List Frame)
    (rest : List Token),
    (spellItems items ++ rest).foldlM step (.working .separator (.array read :: frames))
      = (complete (.array (read.reverse ++ items)) frames).bind fun b => rest.foldlM step b
  | read, [], frames, rest => by
      have hclose : step (.working .separator (.array read :: frames)) .closeArray
          = complete (.array read.reverse) frames := rfl
      rw [spellItems, List.singleton_append, List.foldlM_cons, hclose, List.append_nil]
      rfl
  | read, x :: r, frames, rest => by
      have hcomma : step (.working .separator (.array read :: frames)) .comma
          = some (.working .value (.array read :: frames)) := rfl
      rw [spellItems, List.cons_append, foldlM_cons_of_step hcomma, List.append_assoc,
        foldlM_spell x, complete, Option.bind_some, foldlM_spellItems (x :: read) r,
        List.reverse_cons, List.append_assoc, List.singleton_append]

theorem foldlM_spellMembers : ∀ (read members : List (Option String × Source))
    (frames : List Frame) (rest : List Token),
    (spellMembers members ++ rest).foldlM step (.working .separator (.object read :: frames))
      = (complete (.object (read.reverse ++ members)) frames).bind fun b => rest.foldlM step b
  | read, [], frames, rest => by
      have hclose : step (.working .separator (.object read :: frames)) .closeObject
          = complete (.object read.reverse) frames := rfl
      rw [spellMembers, List.singleton_append, List.foldlM_cons, hclose, List.append_nil]
      rfl
  | read, (k, x) :: r, frames, rest => by
      have hcomma : step (.working .separator (.object read :: frames)) .comma
          = some (.working .key (.object read :: frames)) := rfl
      rw [spellMembers, List.cons_append, foldlM_cons_of_step hcomma, List.cons_append,
        List.cons_append, foldlM_key, List.append_assoc, foldlM_spell x, complete,
        Option.bind_some, foldlM_spellMembers ((k, x) :: read) r, List.reverse_cons,
        List.append_assoc, List.singleton_append]

end

/-- A tree is constructed from its tokens. -/
theorem ofTokens?_spell (x : Source) : ofTokens? (spell x) = some x := by
  have h := foldlM_spell x [] []
  rw [List.append_nil] at h
  rw [ofTokens?, h]
  rfl

end Conclave.Json.Source
