import Conclave.Proofs.Settings.Admitted
import Conclave.Proofs.Settings.Overriding

/-!
# Texts from the environment

A file and a variable of the environment can set the same text, and do not agree on it. What a file
writes as a text stays one. The text of a variable is tried as a Boolean and as a number first, and
what it reads as is printed back when the setting is asked for its text (`printed`), so that `007`
comes back as `7`, `1.10` as `1.1` and `TRUE` as `true`.

The texts that survive are those that read as neither, and those that are written as numbers and
Booleans are printed (`Kept`). For all others the two layers differ (`variable_agrees_iff`). That a
getter trims its text hides no difference, because neither a text that reads as a number nor a
printed one has a blank (`worded_printed_iff`).
-/

namespace Conclave

/-! ## Numbers have no blanks -/

namespace Text

theorem lowerChar_of_isBlank {c : Char} (h : isBlank c = true) : lowerChar c = c := by
  have hcapital : ¬ ('A' ≤ c ∧ c ≤ 'Z') := by
    rintro ⟨hleast, hmost⟩
    have h₁ : 65 ≤ c.toNat := hleast
    have h₂ : c.toNat ≤ 90 := hmost
    simp only [isBlank] at h
    grind
  rw [lowerChar, if_neg hcapital]

theorem lowerChar_of_isDigit {c : Char} (h : IsDigit c) : lowerChar c = c := by
  have hrange := h.range
  have hcapital : ¬ ('A' ≤ c ∧ c ≤ 'Z') := by
    rintro ⟨hleast, -⟩
    have hnat : 65 ≤ c.toNat := hleast
    omega
  rw [lowerChar, if_neg hcapital]

theorem not_isBlank_of_all {cs : List Char} (h : cs.all (!isBlank ·) = true) :
    ∀ c ∈ cs, isBlank c = false := by
  simpa using h

/-- A text has no blanks if its lower-case form has none. -/
theorem not_isBlank_of_lower {cs : List Char}
    (h : ∀ c ∈ cs.map lowerChar, isBlank c = false) : ∀ c ∈ cs, isBlank c = false := by
  intro c hc
  by_contra hblank
  have htrue : isBlank c = true := by simpa using hblank
  have hlow := h _ (List.mem_map_of_mem hc)
  rw [lowerChar_of_isBlank htrue] at hlow
  exact hblank hlow

theorem not_isBlank_of_digits? {cs : List Char} {n : Nat} (h : digits? cs = some n) :
    ∀ c ∈ cs, isBlank c = false := by
  obtain ⟨-, hfrom⟩ := digits?_eq_some_iff.mp h
  obtain ⟨ds, hds, -⟩ := digitsFrom_eq_some_iff.mp hfrom
  exact fun c hc => (isDigit_of_forall₂ hds c hc).not_isBlank

theorem eq_plus_or_mem_dropPlus {cs : List Char} {c : Char} (h : c ∈ cs) :
    c = '+' ∨ c ∈ dropPlus cs := by
  unfold dropPlus
  split
  · exact List.mem_cons.mp h
  · exact .inr h

theorem not_isBlank_of_intChars? {cs : List Char} {n : Int} (h : intChars? cs = some n) :
    ∀ c ∈ cs, isBlank c = false := by
  intro c hc
  unfold intChars? at h
  split at h
  · obtain ⟨m, hm, -⟩ := Option.map_eq_some_iff.mp h
    rcases List.mem_cons.mp hc with rfl | hc
    · decide
    · exact not_isBlank_of_digits? hm c hc
  · obtain ⟨m, hm, -⟩ := Option.map_eq_some_iff.mp h
    rcases eq_plus_or_mem_dropPlus hc with rfl | hc
    · decide
    · exact not_isBlank_of_digits? hm c hc

theorem eq_minus_or_isDigit_of_mem_toString {n : Int} {c : Char} (h : c ∈ (toString n).toList) :
    c = '-' ∨ IsDigit c := by
  cases n with
  | ofNat m =>
      have hc : c ∈ (toString m).toList := h
      rw [toList_toString] at hc
      exact .inr (isDigit_of_mem_toDigits hc)
  | negSucc m =>
      have hc : c ∈ ("-" ++ toString (m + 1)).toList := h
      rw [String.toList_append, toList_toString, List.mem_append] at hc
      rcases hc with hc | hc
      · exact .inl (by simpa using hc)
      · exact .inr (isDigit_of_mem_toDigits hc)

theorem not_isBlank_of_mem_toString {n : Int} {c : Char} (h : c ∈ (toString n).toList) :
    isBlank c = false := by
  rcases eq_minus_or_isDigit_of_mem_toString h with rfl | hdigit
  · decide
  · exact hdigit.not_isBlank

/-- A whole number of 64 bits is read back from its text. -/
theorem readInt64?_toString {n : Int} (hleast : -signed64 ≤ n) (hmost : n < signed64) :
    readInt64? (toString n) = some n := by
  have hchars : intChars? (toString n).toList = some n := by
    cases n with
    | ofNat m =>
        show intChars? (toString m).toList = _
        rw [toList_toString]
        unfold intChars?
        split
        · rename_i r hr
          exact absurd hr (toDigits_ne_minus m r)
        · rw [dropPlus_toDigits, digits?_toDigits]
          rfl
    | negSucc m =>
        show intChars? ("-" ++ toString (m + 1)).toList = _
        rw [String.toList_append, toList_toString]
        show (digits? (Nat.toDigits 10 (m + 1))).map _ = _
        rw [digits?_toDigits]
        rfl
  rw [readInt64?, readInt?, hchars]
  simp [hleast, hmost]

end Text

namespace Binary64

open Text (isBlank)

theorem not_isBlank_of_exponentOf? {cs : List Char} {n : Int} (h : exponentOf? cs = some n) :
    ∀ c ∈ cs, isBlank c = false := by
  unfold exponentOf? at h
  split at h
  · exact List.forall_mem_nil _
  · rename_i d r
    split at h
    · rename_i hmark
      refine List.forall_mem_cons.mpr ⟨?_, Text.not_isBlank_of_intChars? h⟩
      rcases hmark with rfl | rfl <;> decide
    · cases h

theorem spanDigits_append (cs : List Char) : (spanDigits cs).1 ++ (spanDigits cs).2 = cs :=
  List.takeWhile_append_dropWhile

theorem not_isBlank_of_parts {whole fraction rest : List Char} {d : Nat} {k : Int}
    (hdigits : Text.digits? (whole ++ fraction) = some d) (hexponent : exponentOf? rest = some k) :
    ∀ c, c ∈ whole ∨ c ∈ fraction ∨ c ∈ rest → isBlank c = false := by
  rintro c (hc | hc | hc)
  · exact Text.not_isBlank_of_digits? hdigits c (List.mem_append_left _ hc)
  · exact Text.not_isBlank_of_digits? hdigits c (List.mem_append_right _ hc)
  · exact not_isBlank_of_exponentOf? hexponent c hc

theorem not_isBlank_of_readUnsigned? {negative : Bool} {cs : List Char} {x : Binary64}
    (h : readUnsigned? negative cs = some x) : ∀ c ∈ cs, isBlank c = false := by
  intro c hc
  rcases hspan : spanDigits cs with ⟨whole, rest⟩
  have hcs : whole ++ rest = cs := by rw [← spanDigits_append cs, hspan]
  rw [← hcs, List.mem_append] at hc
  simp only [readUnsigned?, hspan] at h
  split at h
  · rename_i r
    rcases hfraction : spanDigits r with ⟨fraction, rest⟩
    have hr : fraction ++ rest = r := by rw [← spanDigits_append r, hfraction]
    rw [hfraction] at h
    obtain ⟨d, hd, h⟩ := Option.bind_eq_some_iff.mp h
    obtain ⟨k, hk, -⟩ := Option.bind_eq_some_iff.mp h
    rw [← hr, List.mem_cons, List.mem_append] at hc
    rcases hc with hc | rfl | hc
    · exact not_isBlank_of_parts hd hk c (.inl hc)
    · decide
    · exact not_isBlank_of_parts hd hk c (.inr hc)
  · obtain ⟨d, hd, h⟩ := Option.bind_eq_some_iff.mp h
    obtain ⟨k, hk, -⟩ := Option.bind_eq_some_iff.mp h
    exact not_isBlank_of_parts hd hk c (hc.imp_right .inr)

theorem not_isBlank_of_readName? {negative : Bool} {cs : List Char} {x : Binary64}
    (h : readName? negative cs = some x) : ∀ c ∈ cs, isBlank c = false := by
  have hname : cs.map Text.lowerChar ∈ ["inf".toList, "infinity".toList, "nan".toList] := by
    unfold readName? at h
    dsimp only at h
    split at h
    · rename_i hinf
      rcases hinf with hinf | hinf <;> simp [← hinf]
    · split at h
      · rename_i hnan
        simp [← hnan]
      · cases h
  have hsolid : ∀ w ∈ ["inf".toList, "infinity".toList, "nan".toList],
      w.all (!isBlank ·) = true := by
    decide
  exact Text.not_isBlank_of_lower (Text.not_isBlank_of_all (hsolid _ hname))

theorem not_isBlank_of_read? {s : String} {x : Binary64} (h : read? s = some x) :
    ∀ c ∈ s.toList, isBlank c = false := by
  have hbody {negative : Bool} {cs : List Char}
      (h : (readName? negative cs).or (readUnsigned? negative cs) = some x) :
      ∀ c ∈ cs, isBlank c = false := by
    rcases Option.or_eq_some_iff.mp h with hname | ⟨-, hnumber⟩
    · exact not_isBlank_of_readName? hname
    · exact not_isBlank_of_readUnsigned? hnumber
  unfold read? at h
  dsimp only at h
  split at h
  · rename_i r hs
    rw [hs]
    exact List.forall_mem_cons.mpr ⟨by decide, hbody h⟩
  · rename_i r hs
    rw [hs]
    exact List.forall_mem_cons.mpr ⟨by decide, hbody h⟩
  · exact hbody h

theorem not_isBlank_of_mem_positional {d : Decimal} {c : Char} (h : c ∈ d.positional) :
    isBlank c = false := by
  have hdigits {c : Char} (hc : c ∈ digitsOf d.digits) : isBlank c = false :=
    (Text.isDigit_of_mem_toDigits hc).not_isBlank
  have hzeros {n : Nat} (hc : c ∈ List.replicate n '0') : isBlank c = false := by
    obtain rfl := List.eq_of_mem_replicate hc
    decide
  unfold Decimal.positional at h
  dsimp only at h
  split at h
  · rcases List.mem_append.mp h with hc | hc
    · exact hdigits hc
    · exact hzeros hc
  · split at h
    · rcases List.mem_append.mp h with hc | hc
      · exact hdigits (List.mem_of_mem_take hc)
      · rcases List.mem_cons.mp hc with rfl | hc
        · decide
        · exact hdigits (List.mem_of_mem_drop hc)
    · rcases List.mem_cons.mp h with rfl | h
      · decide
      · rcases List.mem_cons.mp h with rfl | h
        · decide
        · rcases List.mem_append.mp h with hc | hc
          · exact hzeros hc
          · exact hdigits hc

theorem not_isBlank_of_mem_plain {x : Binary64} {c : Char} (h : c ∈ x.plain.toList) :
    isBlank c = false := by
  cases x with
  | finite s m q =>
      rw [plain, String.toList_ofList, List.mem_append] at h
      rcases h with hc | hc
      · cases s
        · cases hc
        · obtain rfl := List.mem_singleton.mp hc
          decide
      · exact not_isBlank_of_mem_positional hc
  | infinite s => cases s <;> exact Text.not_isBlank_of_all (by decide) c h
  | nan => exact Text.not_isBlank_of_all (by decide) c h

end Binary64

namespace Settings

/-! ## What a variable reads as -/

/-- Whether a text is a Boolean, in any letter case. -/
def IsBoolean (t : String) : Prop := Text.lower t = "true" ∨ Text.lower t = "false"

/-- What the text of a variable reads as. -/
inductive Reads (t : String) : Value → Prop where
  | yes : Text.lower t = "true" → Reads t (.bool true)
  | no : Text.lower t = "false" → Reads t (.bool false)
  | whole {n : Int} : ¬ IsBoolean t → Text.readInt64? t = some n → Reads t (.int n)
  | decimal {x : Binary64} : ¬ IsBoolean t → Text.readInt64? t = none →
      Binary64.read? t = some x → Reads t (.float x)
  | word : ¬ IsBoolean t → Text.readInt64? t = none → Binary64.read? t = none → Reads t (.text t)

theorem reads_ofVariable (t : String) : Reads t (.ofVariable t) := by
  unfold Value.ofVariable
  dsimp only
  split
  · exact .yes ‹_›
  · split
    · exact .no ‹_›
    · have hword : ¬ IsBoolean t := by
        rintro (h | h) <;> contradiction
      split
      · exact .whole hword ‹_›
      · split
        · exact .decimal hword ‹_› ‹_›
        · exact .word hword ‹_› ‹_›

theorem Reads.eq_ofVariable {t : String} {v : Value} (h : Reads t v) : Value.ofVariable t = v := by
  cases h with
  | yes h => simp [Value.ofVariable, h]
  | no h => simp [Value.ofVariable, h]
  | whole hword h =>
      rw [IsBoolean, not_or] at hword
      simp [Value.ofVariable, hword, h]
  | decimal hword hint h =>
      rw [IsBoolean, not_or] at hword
      simp [Value.ofVariable, hword, hint, h]
  | word hword hint h =>
      rw [IsBoolean, not_or] at hword
      simp [Value.ofVariable, hword, hint, h]

/-! ## What is printed back -/

/-- What a text from a variable comes back as. -/
def printed (t : String) : String := ((Value.ofVariable t).toText?).getD t

theorem toText?_ofVariable (t : String) : (Value.ofVariable t).toText? = some (printed t) := by
  have hreads := reads_ofVariable t
  rw [printed]
  generalize Value.ofVariable t = v at hreads
  cases hreads <;> rfl

theorem Reads.printed_eq {t : String} {v : Value} (h : Reads t v) :
    printed t = v.toText?.getD t := by
  rw [printed, h.eq_ofVariable]

/-- The texts that come back from a variable as they are. -/
inductive Kept : String → Prop where
  | word {t : String} : Reads t (.text t) → Kept t
  | yes : Kept "true"
  | no : Kept "false"
  | whole {n : Int} : -signed64 ≤ n → n < signed64 → Kept (toString n)
  | decimal {x : Binary64} : Reads x.plain (.float x) → Kept x.plain

theorem not_isBoolean_toString (n : Int) : ¬ IsBoolean (toString n) := by
  have hletter : 'e' ∉ (Text.lower (toString n)).toList := by
    intro he
    rw [Text.lower, String.toList_ofList, List.mem_map] at he
    obtain ⟨c, hc, hlow⟩ := he
    rcases Text.eq_minus_or_isDigit_of_mem_toString hc with rfl | hdigit
    · revert hlow
      decide
    · rw [Text.lowerChar_of_isDigit hdigit] at hlow
      subst hlow
      revert hdigit
      unfold Text.IsDigit
      decide
  rintro (h | h)
  · rw [h] at hletter
    exact hletter (by decide)
  · rw [h] at hletter
    exact hletter (by decide)

theorem range_of_readInt64? {t : String} {n : Int} (h : Text.readInt64? t = some n) :
    -signed64 ≤ n ∧ n < signed64 := by
  have hrange := (Option.filter_eq_some_iff.mp h).2
  simpa using hrange

/-- A text comes back as it is exactly when it is one of those that are kept. -/
theorem printed_eq_self_iff {t : String} : printed t = t ↔ Kept t := by
  constructor
  · intro h
    have hreads := reads_ofVariable t
    generalize Value.ofVariable t = v at hreads
    have hprinted := hreads.printed_eq
    rw [h] at hprinted
    cases hreads with
    | yes => exact hprinted ▸ .yes
    | no => exact hprinted ▸ .no
    | whole hword hn =>
        obtain ⟨hleast, hmost⟩ := range_of_readInt64? hn
        exact hprinted ▸ .whole hleast hmost
    | @decimal x hword hint hx =>
        obtain rfl : t = x.plain := hprinted
        exact .decimal (.decimal hword hint hx)
    | word hword hint hx => exact .word (.word hword hint hx)
  · intro h
    cases h with
    | word hreads => exact hreads.printed_eq
    | yes => exact Reads.printed_eq (.yes (by decide))
    | no => exact Reads.printed_eq (.no (by decide))
    | @whole n hleast hmost =>
        exact Reads.printed_eq
          (.whole (not_isBoolean_toString n) (Text.readInt64?_toString hleast hmost))
    | decimal hreads => exact hreads.printed_eq

/-- A text without blanks that is not empty. -/
def IsSolid (t : String) : Prop := Text.trim t = t ∧ t ≠ ""

theorem isSolid_of_forall {t : String} (h : ∀ c ∈ t.toList, Text.isBlank c = false)
    (hne : Text.trim t ≠ "") : IsSolid t := by
  have htrim := Text.trim_of_forall h
  exact ⟨htrim, htrim ▸ hne⟩

theorem printed_empty : printed "" = "" :=
  Reads.printed_eq (.word (by unfold IsBoolean; decide) (by decide) (by decide))

theorem not_isBlank_of_isBoolean {t : String} (h : IsBoolean t) :
    ∀ c ∈ t.toList, Text.isBlank c = false := by
  have hlower : (Text.lower t).toList = t.toList.map Text.lowerChar := by
    rw [Text.lower, String.toList_ofList]
  apply Text.not_isBlank_of_lower
  rw [← hlower]
  rcases h with h | h <;> rw [h] <;> exact Text.not_isBlank_of_all (by decide)

/-- Unless it stays as it is, neither a text nor what is printed for it has a blank. -/
theorem eq_or_isSolid (t : String) : printed t = t ∨ IsSolid t ∧ IsSolid (printed t) := by
  by_cases hempty : t = ""
  · subst hempty
    exact .inl printed_empty
  have hsolid (h : ∀ c ∈ t.toList, Text.isBlank c = false) : IsSolid t :=
    ⟨Text.trim_of_forall h, hempty⟩
  have hreads := reads_ofVariable t
  generalize Value.ofVariable t = v at hreads
  have hprinted := hreads.printed_eq
  cases hreads with
  | word => exact .inl hprinted
  | yes h =>
      have hyes : IsSolid "true" := by unfold IsSolid; decide
      exact .inr ⟨hsolid (not_isBlank_of_isBoolean (.inl h)), hprinted ▸ hyes⟩
  | no h =>
      have hno : IsSolid "false" := by unfold IsSolid; decide
      exact .inr ⟨hsolid (not_isBlank_of_isBoolean (.inr h)), hprinted ▸ hno⟩
  | @whole n _ hn =>
      obtain ⟨hint, -⟩ := Option.filter_eq_some_iff.mp hn
      have hnumber : IsSolid (toString n) := isSolid_of_forall
        (fun c => Text.not_isBlank_of_mem_toString) (Text.trim_toString_ne_empty n)
      exact .inr ⟨hsolid (Text.not_isBlank_of_intChars? hint), hprinted ▸ hnumber⟩
  | @decimal x _ _ hx =>
      have hnumber : IsSolid x.plain := isSolid_of_forall
        (fun c => Binary64.not_isBlank_of_mem_plain) x.trim_plain_ne_empty
      exact .inr ⟨hsolid (Binary64.not_isBlank_of_read? hx), hprinted ▸ hnumber⟩

/-! ## The settings with a text -/

/-- A setting whose value is a text. -/
inductive TextSetting where
  | serverAddress
  | publicEndpoint
  | protocolPath
  | metadata (key : String)

namespace TextSetting

def path : TextSetting → Path
  | serverAddress => serverPath "address"
  | publicEndpoint => clusterPath "public-endpoint"
  | protocolPath => clusterPath "protocol-path"
  | metadata k => clusterPath "metadata" ++ [.key k]

/-- The value that settings have. -/
def value : TextSetting → Settings → Option String
  | serverAddress, s => some s.serverAddress
  | publicEndpoint, s => s.publicEndpoint
  | protocolPath, s => some s.protocolPath
  | metadata k, s => s.metadata.get? k

/-- The value that a text means: an endpoint without blanks around it, and none that is blank. -/
def worded : TextSetting → String → Option String
  | publicEndpoint, t => (some (Text.trim t)).filter (· ≠ "")
  | _, t => some t

theorem ofKeys_path (x : TextSetting) : x.path.OfKeys := by
  cases x <;> simp [path, Path.OfKeys, serverPath, clusterPath]

theorem value_of_text? (x : TextSetting) {s : Settings} {t : String} (hs : s.root.Tidy)
    (h : s.text? x.path = some t) : x.value s = x.worded t := by
  cases x with
  | serverAddress =>
      rw [value, Settings.serverAddress]
      simp only [path] at h
      rw [h]
      rfl
  | publicEndpoint =>
      rw [value, Settings.publicEndpoint]
      simp only [path] at h
      rw [h]
      rfl
  | protocolPath =>
      rw [value, Settings.protocolPath]
      simp only [path] at h
      rw [h]
      rfl
  | metadata k => exact (get?_metadata hs k).trans h

theorem worded_of_isSolid (x : TextSetting) {t : String} (h : IsSolid t) :
    x.worded t = some t := by
  obtain ⟨htrim, hne⟩ := h
  cases x with
  | serverAddress | protocolPath | metadata => rfl
  | publicEndpoint => simp [worded, htrim, hne, Option.filter]

/-- A getter tells a text from what is printed for it, unless they are the same. -/
theorem worded_printed_iff (x : TextSetting) (t : String) :
    x.worded (printed t) = x.worded t ↔ Kept t := by
  rw [← printed_eq_self_iff]
  rcases eq_or_isSolid t with heq | ⟨hsolid, hprinted⟩
  · simp [heq]
  · rw [x.worded_of_isSolid hsolid, x.worded_of_isSolid hprinted, Option.some_inj]

end TextSetting

/-! ## The two layers -/

/-- Whether the last variable that counts for a place holds a text, and no later one stands in its
way. -/
def Environment.Supplies (env : Environment) (p : Path) (t : String) : Prop :=
  ∃ name before after, env = before ++ (name, t) :: after ∧ variablePath? name = some p
    ∧ Environment.Spares after p

/-- A text in a file is what the getter of its setting returns. The same text in the variable of
the setting comes back as it is printed after it was read, so that the getter returns the same
exactly for the texts that are kept. -/
theorem variable_agrees_iff (x : TextSetting) {t : String} {file file' : File}
    {env env' : Environment} {s₀ s₀' : Settings} (hfile : load file [] = .ok s₀)
    (henv : env.Supplies x.path t) (hfile' : load file' [] = .ok s₀')
    (ht : s₀'.text? x.path = some t) (henv' : env'.Spares x.path) :
    ∃ s s', load file env = .ok s ∧ load file' env' = .ok s'
      ∧ x.value s' = x.worded t ∧ x.value s = x.worded (printed t)
      ∧ (x.value s = x.value s' ↔ Kept t) := by
  have hload : load file env = .ok (s₀.withVariables env) := load_eq_ok_iff.mpr ⟨s₀, hfile, rfl⟩
  have hload' : load file' env' = .ok (s₀'.withVariables env') :=
    load_eq_ok_iff.mpr ⟨s₀', hfile', rfl⟩
  have hvariable : x.value (s₀.withVariables env) = x.worded (printed t) := by
    refine x.value_of_text? (tidy_load hload) ?_
    obtain ⟨name, before, after, rfl, hname, hafter⟩ := henv
    rw [text?, get?_withVariables_of_supplied hname x.ofKeys_path hafter, Option.bind_some,
      toText?_ofVariable]
  have hwritten : x.value (s₀'.withVariables env') = x.worded t := by
    refine x.value_of_text? (tidy_load hload') ?_
    rw [text?, get?_withVariables henv']
    exact ht
  refine ⟨_, _, hload, hload', hwritten, hvariable, ?_⟩
  rw [hvariable, hwritten, x.worded_printed_iff]

/-! ### Zones -/

/-- A file with a text of the metadata. -/
def zoned (t : String) : File :=
  ⟨"ini", some ("[raftline.cluster.metadata]\nzone = " ++ t ++ "\n")⟩

/-- A name of a zone is the same from both layers, with another variable beside it. -/
theorem zone_kept : ∃ s s',
    load ⟨"ini", some ""⟩ [("RAFTLINE__CLUSTER__METADATA__ZONE", "eu-1"),
      ("RAFTLINE__SERVER__PORT", "4000")] = .ok s
    ∧ load (zoned "eu-1") [("RAFTLINE__SERVER__PORT", "4000")] = .ok s'
    ∧ s.metadata.get? "zone" = some "eu-1" ∧ s'.metadata.get? "zone" = some "eu-1" := by
  have hkept : Kept "eu-1" :=
    .word (.word (by unfold IsBoolean; decide) (by decide) (by decide))
  have hzone : variablePath? "RAFTLINE__CLUSTER__METADATA__ZONE"
      = some (TextSetting.metadata "zone").path := by
    decide +kernel
  have hport : variablePath? "RAFTLINE__SERVER__PORT" = some (serverPath "port") := by
    decide +kernel
  have hspares : Environment.Spares [("RAFTLINE__SERVER__PORT", "4000")]
      (TextSetting.metadata "zone").path := by
    intro e he q hq
    obtain rfl := List.mem_singleton.mp he
    obtain rfl : serverPath "port" = q := Option.some.inj (hport.symm.trans hq)
    exact .there (.here (by decide))
  obtain ⟨s₀, hempty⟩ : ∃ s₀, load ⟨"ini", some ""⟩ [] = .ok s₀ := by
    have hsome : (load ⟨"ini", some ""⟩ []).toOption.isSome = true := by decide +kernel
    obtain ⟨s₀, hs₀⟩ := Option.isSome_iff_exists.mp hsome
    exact ⟨s₀, eq_ok_of_toOption hs₀⟩
  obtain ⟨s₀', hload, htext⟩ := Option.bind_eq_some_iff.mp
    (show (load (zoned "eu-1") []).toOption.bind (·.text? (TextSetting.metadata "zone").path)
      = some "eu-1" by decide +kernel)
  obtain ⟨s, s', hs, hs', hwritten, -, hagree⟩ := variable_agrees_iff (.metadata "zone") hempty
    ⟨_, [], _, rfl, hzone, hspares⟩ (eq_ok_of_toOption hload) htext hspares
  exact ⟨s, s', hs, hs', (hagree.mpr hkept).trans hwritten, hwritten⟩

/-- A zone of digits loses its zeros in the environment, and keeps them in the file. -/
theorem zone_loses_zeros :
    (load ⟨"ini", some ""⟩ [("RAFTLINE__CLUSTER__METADATA__ZONE", "007")]).toOption.map
        (·.metadata.get? "zone") = some (some "7")
    ∧ (load (zoned "007") []).toOption.map (·.metadata.get? "zone") = some (some "007") := by
  decide +kernel

end Settings

end Conclave
