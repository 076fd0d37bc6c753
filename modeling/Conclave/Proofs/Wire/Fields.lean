import Conclave.Proofs.Text
import Conclave.Wire.Message

/-!
# Values of fields

Which of several values counts (`Fields.get?_ofList`), what the typed readers make of a value that is
there, and which texts can be sent as values.
-/

namespace Conclave

namespace Text

theorem sameLetters_iff {s t : String} : sameLetters s t = true ↔ lower s = lower t := by
  rw [sameLetters, beq_iff_eq, lower, lower, String.ofList_inj]

end Text

namespace Wire.Fields

/-- The values under a name, equal up to letter case, in their order. -/
def named {α : Type} (l : List (String × α)) (name : String) : List α :=
  (l.filter fun e => Text.sameLetters e.1 name).map (·.2)

/-- Of several values under one name the last one counts. -/
theorem get?_foldl_insert (l : List (String × String)) (f : Fields) (name : String) :
    (l.foldl (fun f e => f.insert e.1 e.2) f).get? name
      = (named l name).getLast?.or (f.get? name) := by
  induction l generalizing f with
  | nil => rfl
  | cons e r ih =>
      rw [List.foldl_cons, ih, get?_insert]
      by_cases h : Text.sameLetters e.1 name = true
      · have hn : named (e :: r) name = e.2 :: named r name := by simp [named, h]
        rw [hn, if_pos (Text.sameLetters_iff.mp h).symm, List.getLast?_cons]
        cases (named r name).getLast? <;> rfl
      · have hn : named (e :: r) name = named r name := by simp [named, h]
        rw [hn, if_neg fun hl => h (Text.sameLetters_iff.mpr hl.symm)]

theorem get?_ofList (l : List (String × String)) (name : String) :
    (ofList l).get? name = (named l name).getLast? := by
  rw [ofList, get?_foldl_insert, get?_empty, Option.or_none]

variable {f : Fields} {name v : String}

theorem require_of_get? (h : f.get? name = some v) : f.require name = .ok v := by
  rw [require, h]

theorem parse_of_get? {α : Type} {read? : String → Option α} {x : α} (h : f.get? name = some v)
    (hx : read? (Text.trim v) = some x) : f.parse name read? = .ok x := by
  rw [parse, require_of_get? h]
  simp only [bind, Except.bind, hx]

theorem number_of_get? {n : UInt64} (h : f.get? name = some (toString n.toNat)) :
    f.number name = .ok n := by
  refine parse_of_get? h ?_
  rw [Text.trim_toString, Text.readNat?_toString n.toNat_lt, Option.map_some, UInt64.ofNat_toNat]

end Wire.Fields

namespace Wire

/-! ## Values that can be sent -/

theorem isFieldValue_of_forall {s : String} (h : ∀ c ∈ s.toList, 0x20 ≤ c.toNat ∧ c.toNat < 0x7f) :
    isFieldValue s = true := by
  rw [isFieldValue, List.all_eq_true]
  intro c hc
  obtain ⟨hl, hu⟩ := h c hc
  simp only [Bool.or_eq_true, Bool.and_eq_true, decide_eq_true_eq]
  exact .inr ⟨hl, by omega⟩

theorem isFieldValue_toString (n : Nat) : isFieldValue (toString n) = true := by
  refine isFieldValue_of_forall fun c hc => ?_
  rw [Text.toList_toString] at hc
  have := (Text.isDigit_of_mem_toDigits hc).range
  omega

theorem Kind.isFieldValue_tag (k : Kind) : isFieldValue k.tag = true := by
  cases k <;> decide

theorem Delivery.isFieldValue_tag (d : Delivery) : isFieldValue d.tag = true := by
  cases d <;> decide

theorem Kind.trim_tag (k : Kind) : Text.trim k.tag = k.tag := by
  cases k <;> decide +kernel

theorem Delivery.trim_tag (d : Delivery) : Text.trim d.tag = d.tag := by
  cases d <;> decide +kernel

/-- A message that passes its check has a name and a content type that can be sent. -/
theorem Message.isFieldValue_of_defect? {m : Message} (h : m.defect? = none) :
    isFieldValue m.name = true ∧ isFieldValue m.contentType = true := by
  unfold defect? at h
  split at h
  · cases h
  · split at h
    · cases h
    · split at h
      · cases h
      · rename_i hname htype
        simp only [Bool.not_eq_true, Bool.not_eq_false'] at hname htype
        exact ⟨hname, htype⟩

end Wire

end Conclave
