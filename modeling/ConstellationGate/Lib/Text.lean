import ConstellationGate.Lib.CaseTables
import Mathlib.Data.List.DropRight
import Mathlib.Data.List.Infix
import Mathlib.Data.Rat.Floor
import Mathlib.Tactic.Ring

/-!
# String methods

`strip`, `rstrip`, `lower`, `replace` and the substring test on strings of Unicode
characters, as Python documents them: `strip` drops the white space of
`spaceTable` at both ends, `lower` is the full Unicode lower-case mapping with the
final-sigma rule.  `quoted` is the form in which a string is shown in a message, and
`fixed3` the form of a number with three decimals.

The composite `strip` then `lower` is what identifiers are compared by; it is called
`normalize` here.  The main result is that it is idempotent (`normalize_normalize`):
lowering a stripped string neither creates white space at its ends nor leaves a
character that would be lowered again.
-/

namespace Text

/-! ### White space -/

/-- `c.isspace()`. -/
def isSpace (c : Char) : Bool := spaceTable.any fun r => r.1 ≤ c.toNat && c.toNat ≤ r.2

/-- `strip` on the characters of a string. -/
def stripChars (l : List Char) : List Char := (l.dropWhile isSpace).rdropWhile isSpace

/-- `s.strip()`. -/
def strip (s : String) : String := String.ofList (stripChars s.toList)

/-- `s.rstrip(c)` for a single character `c`. -/
def rstripChar (s : String) (c : Char) : String :=
  String.ofList (s.toList.rdropWhile (· = c))

/-- `s.replace(a, b)` for single characters `a` and `b`. -/
def replaceChar (s : String) (a b : Char) : String :=
  String.ofList (s.toList.map fun c => if c = a then b else c)

/-- `sub in s`. -/
def contains (s sub : String) : Bool := decide (sub.toList <:+: s.toList)

/-- `s.startswith(p)`. -/
def startsWith (s p : String) : Bool := p.toList.isPrefixOf s.toList

@[simp] lemma toList_strip (s : String) : (strip s).toList = stripChars s.toList :=
  String.toList_ofList

/-- A string without white space at its ends. -/
def Stripped (l : List Char) : Prop :=
  (∀ c ∈ l.head?, isSpace c = false) ∧ ∀ c ∈ l.getLast?, isSpace c = false

lemma dropWhile_eq_self_of_head {l : List Char} (h : ∀ c ∈ l.head?, isSpace c = false) :
    l.dropWhile isSpace = l := by
  cases l with
  | nil => rfl
  | cons c l => simp [h c (by simp)]

lemma rdropWhile_eq_self_of_getLast {l : List Char} (h : ∀ c ∈ l.getLast?, isSpace c = false) :
    l.rdropWhile isSpace = l := by
  rw [List.rdropWhile, dropWhile_eq_self_of_head, List.reverse_reverse]
  simpa [List.head?_reverse] using h

lemma stripChars_of_stripped {l : List Char} (h : Stripped l) : stripChars l = l := by
  rw [stripChars, dropWhile_eq_self_of_head h.1, rdropWhile_eq_self_of_getLast h.2]

lemma head_dropWhile (l : List Char) : ∀ c ∈ (l.dropWhile isSpace).head?, isSpace c = false := by
  intro c hc
  induction l with
  | nil => simp at hc
  | cons d l ih =>
    by_cases hd : isSpace d = true
    · exact ih (by simpa [List.dropWhile_cons, hd] using hc)
    · have hdc : d = c := by simpa [List.dropWhile_cons, hd] using hc
      rw [← hdc]
      simpa using hd

lemma stripped_stripChars (l : List Char) : Stripped (stripChars l) := by
  have hlast : ∀ c ∈ (stripChars l).getLast?, isSpace c = false := by
    intro c hc
    rw [stripChars, List.rdropWhile, List.getLast?_reverse] at hc
    exact head_dropWhile _ c hc
  refine ⟨?_, hlast⟩
  -- dropping characters at the end does not change the first one
  intro c hc
  have hpre : stripChars l <+: l.dropWhile isSpace := List.rdropWhile_prefix isSpace _
  obtain ⟨t, ht⟩ := hpre
  apply head_dropWhile l c
  rw [← ht, List.head?_append]
  simp [Option.mem_def.1 hc]

lemma stripChars_stripChars (l : List Char) : stripChars (stripChars l) = stripChars l :=
  stripChars_of_stripped (stripped_stripChars l)

@[simp] lemma strip_strip (s : String) : strip (strip s) = strip s := by
  rw [strip, toList_strip, stripChars_stripChars, strip]

/-! ### Lower case -/

/-- The code point `n` is in the row `(first, last, step, target)`. -/
def covers (r : ℕ × ℕ × ℕ × ℕ) (n : ℕ) : Bool :=
  r.1 ≤ n && n ≤ r.2.1 && (n - r.1) % r.2.2.1 = 0

/-- The row of the table that contains a code point; the rows are ascending. -/
def findRow : List (ℕ × ℕ × ℕ × ℕ) → ℕ → Option (ℕ × ℕ × ℕ × ℕ)
  | [], _ => none
  | r :: rs, n => if n < r.1 then none else if covers r n then some r else findRow rs n

/-- The simple lower-case mapping on code points. -/
def lowerCode (n : ℕ) : ℕ :=
  match findRow lowerTable n with
  | some r => r.2.2.2 + (n - r.1)
  | none => n

/-- The first character of `l` that is not case-ignorable is cased. -/
def casedAhead : List Char → Bool
  | [] => false
  | c :: l =>
    if caseIgnorableTable.any fun r => r.1 ≤ c.toNat && c.toNat ≤ r.2 then casedAhead l
    else casedTable.any fun r => r.1 ≤ c.toNat && c.toNat ≤ r.2

/-- The lower case of the character `c` between the characters `before` (nearest first)
and `after`. -/
def lowerAt (before after : List Char) (c : Char) : List Char :=
  if c = 'Σ' then
    -- a sigma that ends a word is lowered to the final form
    if casedAhead before && !casedAhead after then ['ς'] else ['σ']
  else if c = 'İ' then ['i', '\u0307']
  else [Char.ofNat (lowerCode c.toNat)]

/-- `lower` on the characters of a string; `before` holds those already passed. -/
def lowerChars (before : List Char) : List Char → List Char
  | [] => []
  | c :: l => lowerAt before l c ++ lowerChars (c :: before) l

/-- `s.lower()`. -/
def lower (s : String) : String := String.ofList (lowerChars [] s.toList)

/-- `s.strip().lower()`. -/
def normalize (s : String) : String := lower (strip s)

@[simp] lemma toList_lower (s : String) : (lower s).toList = lowerChars [] s.toList :=
  String.toList_ofList

/-! ### The table leaves its images alone -/

/-- What the rows of the table satisfy: the image of `r` consists of characters, it
avoids the white space and the two special characters, and it avoids the row `r'`. -/
def rowCheck (r : ℕ × ℕ × ℕ × ℕ) : Bool :=
  let first := r.2.2.2
  let last := r.2.2.2 + (r.2.1 - r.1)
  (last < 0xD800 || 0xDFFF < first && last < 0x110000)
    && (spaceTable.all fun s => last < s.1 || s.2 < first)
    && (last < 0x130 || 0x130 < first) && (last < 0x3A3 || 0x3A3 < first)
    && (lowerTable.all fun r' => last < r'.1 || r'.2.1 < first
          || r'.2.2.1 = 2 && (r.2.2.1 = 2 || first = last) && (first + r'.1) % 2 = 1)

lemma rowCheck_lowerTable : lowerTable.all rowCheck = true := by decide +kernel

lemma findRow_some {rows : List (ℕ × ℕ × ℕ × ℕ)} {n : ℕ} {r : ℕ × ℕ × ℕ × ℕ}
    (h : findRow rows n = some r) : r ∈ rows ∧ covers r n = true := by
  induction rows with
  | nil => simp [findRow] at h
  | cons r' rows ih =>
    rw [findRow] at h
    split at h
    · simp at h
    · split at h
      · rename_i hcov
        cases h
        exact ⟨by simp, hcov⟩
      · exact ⟨List.mem_cons_of_mem _ (ih h).1, (ih h).2⟩

lemma findRow_none {rows : List (ℕ × ℕ × ℕ × ℕ)} {n : ℕ}
    (h : ∀ r ∈ rows, covers r n = false) : findRow rows n = none := by
  induction rows with
  | nil => rfl
  | cons r rows ih =>
    rw [findRow, h r (by simp)]
    simp [ih fun r' hr' => h r' (by simp [hr'])]

/-- A code point of a character that `lower` does not change in any context. -/
structure Settled (n : ℕ) : Prop where
  valid : n.isValidChar
  fixed : lowerCode n = n
  not_special : n ≠ 0x130 ∧ n ≠ 0x3A3

/-- The image of a code point under a row of the table. -/
lemma lowerCode_image {n : ℕ} {r : ℕ × ℕ × ℕ × ℕ} (hr : findRow lowerTable n = some r) :
    Settled (lowerCode n) ∧ ∀ s ∈ spaceTable, lowerCode n < s.1 ∨ s.2 < lowerCode n := by
  obtain ⟨hmem, hcov⟩ := findRow_some hr
  have hcode : lowerCode n = r.2.2.2 + (n - r.1) := by rw [lowerCode, hr]
  have hcheck := List.all_eq_true.1 rowCheck_lowerTable r hmem
  simp only [rowCheck, Bool.and_eq_true, Bool.or_eq_true, decide_eq_true_eq,
    List.all_eq_true] at hcheck
  obtain ⟨⟨⟨⟨hvalid, hspace⟩, hdot⟩, hsigma⟩, hrows⟩ := hcheck
  simp only [covers, Bool.and_eq_true, decide_eq_true_eq] at hcov
  obtain ⟨⟨hfirst, hlast⟩, hstep⟩ := hcov
  have hfixed : lowerCode (lowerCode n) = lowerCode n := by
    have hnone : findRow lowerTable (lowerCode n) = none := by
      refine findRow_none fun r' hr' => ?_
      rw [hcode, Bool.eq_false_iff]
      intro hcov'
      simp only [covers, Bool.and_eq_true, decide_eq_true_eq] at hcov'
      obtain ⟨⟨hfirst', hlast'⟩, hstep'⟩ := hcov'
      rcases hrows r' hr' with (h | h) | ⟨⟨h2, h⟩, hpar⟩
      · omega
      · omega
      · rw [h2] at hstep'
        rcases h with h | h
        · rw [h] at hstep
          omega
        · omega
    rw [lowerCode, hnone]
  refine ⟨⟨?_, hfixed, by omega, by omega⟩, fun s hs => ?_⟩
  · rw [Nat.isValidChar]
    omega
  · rcases hspace s hs with h | h <;> omega

lemma lowerCode_of_none {n : ℕ} (h : findRow lowerTable n = none) : lowerCode n = n := by
  rw [lowerCode, h]

/-- Characters that `lower` maps to themselves in every context. -/
def SettledChar (c : Char) : Prop := c ≠ 'Σ' ∧ c ≠ 'İ' ∧ lowerCode c.toNat = c.toNat

lemma lowerAt_of_settled {c : Char} (h : SettledChar c) (before after : List Char) :
    lowerAt before after c = [c] := by
  rw [lowerAt, if_neg h.1, if_neg h.2.1, h.2.2, Char.ofNat_toNat]

lemma toNat_ofNat {n : ℕ} (h : n.isValidChar) : (Char.ofNat n).toNat = n := by
  rw [Char.ofNat, dif_pos h]
  rfl

lemma settledChar_ofNat {n : ℕ} (h : Settled n) : SettledChar (Char.ofNat n) := by
  have hn := toNat_ofNat h.valid
  refine ⟨fun hc => h.not_special.2 ?_, fun hc => h.not_special.1 ?_, ?_⟩
  · rw [← hn, hc]
    rfl
  · rw [← hn, hc]
    rfl
  · rw [hn, h.fixed]

/-- A character other than the two special ones is lowered to a single character, which
is settled; white space is neither created nor destroyed. -/
lemma lowerCode_char {c : Char} (h1 : c ≠ 'Σ') (h2 : c ≠ 'İ') :
    SettledChar (Char.ofNat (lowerCode c.toNat)) ∧
      (isSpace c = false → isSpace (Char.ofNat (lowerCode c.toNat)) = false) := by
  rcases hr : findRow lowerTable c.toNat with _ | r
  · rw [lowerCode_of_none hr, Char.ofNat_toNat]
    exact ⟨⟨h1, h2, lowerCode_of_none hr⟩, id⟩
  · obtain ⟨hset, hsp⟩ := lowerCode_image hr
    refine ⟨settledChar_ofNat hset, fun _ => ?_⟩
    rw [isSpace, toNat_ofNat hset.valid, List.any_eq_false]
    intro s hs
    simp only [Bool.and_eq_true, decide_eq_true_eq]
    have := hsp s hs
    omega

lemma settled_lowerAt (before after : List Char) (c : Char) :
    ∀ d ∈ lowerAt before after c, SettledChar d := by
  intro d hd
  rw [lowerAt] at hd
  split at hd
  · split at hd <;>
      (rw [List.mem_singleton] at hd; subst hd; exact ⟨by decide, by decide, by decide⟩)
  · split at hd
    · simp only [List.mem_cons, List.not_mem_nil, or_false] at hd
      rcases hd with rfl | rfl <;> exact ⟨by decide, by decide, by decide⟩
    · rw [List.mem_singleton] at hd
      subst hd
      exact (lowerCode_char ‹_› ‹_›).1

lemma lowerAt_ne_nil (before after : List Char) (c : Char) : lowerAt before after c ≠ [] := by
  rw [lowerAt]
  split
  · split <;> simp
  · split <;> simp

lemma isSpace_lowerAt {before after : List Char} {c : Char} (h : isSpace c = false) :
    ∀ d ∈ lowerAt before after c, isSpace d = false := by
  intro d hd
  rw [lowerAt] at hd
  split at hd
  · split at hd <;> (rw [List.mem_singleton] at hd; subst hd; decide)
  · split at hd
    · simp only [List.mem_cons, List.not_mem_nil, or_false] at hd
      rcases hd with rfl | rfl <;> decide
    · rw [List.mem_singleton] at hd
      subst hd
      exact (lowerCode_char ‹_› ‹_›).2 h

/-! ### Lowering twice -/

lemma settled_lowerChars (l before : List Char) : ∀ d ∈ lowerChars before l, SettledChar d := by
  induction l generalizing before with
  | nil => simp [lowerChars]
  | cons c l ih =>
    intro d hd
    rcases List.mem_append.1 hd with hd | hd
    · exact settled_lowerAt _ _ _ d hd
    · exact ih _ d hd

lemma lowerChars_of_settled {l : List Char} (h : ∀ c ∈ l, SettledChar c) (before : List Char) :
    lowerChars before l = l := by
  induction l generalizing before with
  | nil => rfl
  | cons c l ih =>
    rw [lowerChars, lowerAt_of_settled (h c (by simp)), ih fun d hd => h d (by simp [hd])]
    rfl

@[simp] lemma lower_lower (s : String) : lower (lower s) = lower s := by
  rw [lower, toList_lower, lowerChars_of_settled (settled_lowerChars _ _), lower]

/-- The lower case of a string ends with the lower case of its last character. -/
lemma lowerChars_concat (l before : List Char) (c : Char) :
    ∃ m before', lowerChars before (l ++ [c]) = m ++ lowerAt before' [] c := by
  induction l generalizing before with
  | nil => exact ⟨[], before, by simp [lowerChars]⟩
  | cons d l ih =>
    obtain ⟨m, before', hm⟩ := ih (d :: before)
    exact ⟨lowerAt before (l ++ [c]) d ++ m, before', by simp [lowerChars, hm]⟩

lemma stripped_lowerChars {l : List Char} (h : Stripped l) : Stripped (lowerChars [] l) := by
  constructor
  · intro d hd
    cases l with
    | nil => simp [lowerChars] at hd
    | cons c l =>
      rw [lowerChars, List.head?_append_of_ne_nil _ (lowerAt_ne_nil _ _ _)] at hd
      exact isSpace_lowerAt (h.1 c (by simp)) d (List.mem_of_mem_head? hd)
  · intro d hd
    rcases List.eq_nil_or_concat l with rfl | ⟨l', c, rfl⟩
    · simp [lowerChars] at hd
    · rw [List.concat_eq_append] at h hd
      obtain ⟨m, before', hm⟩ := lowerChars_concat l' [] c
      rw [hm, List.getLast?_append_of_ne_nil _ (lowerAt_ne_nil _ _ _)] at hd
      exact isSpace_lowerAt (h.2 c (by simp)) d (List.mem_of_getLast? hd)

lemma strip_normalize (s : String) : strip (normalize s) = normalize s := by
  rw [strip, normalize, toList_lower, toList_strip,
    stripChars_of_stripped (stripped_lowerChars (stripped_stripChars _)), lower, toList_strip]

/-- `strip` then `lower` is idempotent. -/
@[simp] theorem normalize_normalize (s : String) : normalize (normalize s) = normalize s := by
  conv_lhs => rw [normalize, strip_normalize]
  rw [normalize, lower_lower]

lemma strip_of_stripped {s : String} (h : Stripped s.toList) : strip s = s := by
  rw [strip, stripChars_of_stripped h, String.ofList_toList]

/-- A string of settled characters without white space at its ends is normalised. -/
lemma normalize_of_settled {s : String} (hstrip : Stripped s.toList)
    (hsettled : ∀ c ∈ s.toList, SettledChar c) : normalize s = s := by
  rw [normalize, strip_of_stripped hstrip, lower, lowerChars_of_settled hsettled,
    String.ofList_toList]

lemma stripped_normalize (s : String) : Stripped (normalize s).toList := by
  rw [normalize, toList_lower, toList_strip]
  exact stripped_lowerChars (stripped_stripChars _)

lemma settled_normalize (s : String) : ∀ c ∈ (normalize s).toList, SettledChar c := by
  rw [normalize, toList_lower]
  exact settled_lowerChars _ _

lemma toList_replaceChar (s : String) (a b : Char) :
    (replaceChar s a b).toList = s.toList.map fun c => if c = a then b else c :=
  String.toList_ofList

lemma replaceChar_replaceChar (s : String) {a b : Char} (hne : b ≠ a) :
    replaceChar (replaceChar s a b) a b = replaceChar s a b := by
  have hchar : ∀ c : Char, (if (if c = a then b else c) = a then b else if c = a then b else c) =
      if c = a then b else c := by
    intro c
    by_cases hc : c = a <;> simp [hc, hne]
  rw [replaceChar, toList_replaceChar, List.map_map, replaceChar]
  exact congrArg String.ofList (List.map_congr_left fun c _ => hchar c)

/-- Replacing a character of a normalised string by a settled one that is no white space leaves it
normalised. -/
lemma normalize_replaceChar (s : String) {a b : Char} (hsettled : SettledChar b)
    (hspace : isSpace b = false) :
    normalize (replaceChar (normalize s) a b) = replaceChar (normalize s) a b := by
  obtain ⟨hhead, hlast⟩ := stripped_normalize s
  have hchar : ∀ {o : Option Char}, (∀ c ∈ o, isSpace c = false) →
      ∀ c ∈ o.map (fun c => if c = a then b else c), isSpace c = false := by
    intro o ho c hc
    obtain ⟨d, hd, rfl⟩ := Option.map_eq_some_iff.1 hc
    split
    · exact hspace
    · exact ho d hd
  refine normalize_of_settled ?_ fun c hc => ?_
  · rw [toList_replaceChar]
    constructor
    · rw [List.head?_map]
      exact hchar hhead
    · rw [List.getLast?_map]
      exact hchar hlast
  · rw [toList_replaceChar] at hc
    obtain ⟨d, hd, rfl⟩ := List.mem_map.1 hc
    split
    · exact hsettled
    · exact settled_normalize s d hd

/-- A string is normalised to the empty string only when it is blank. -/
lemma normalize_eq_empty_iff {s : String} : normalize s = "" ↔ strip s = "" := by
  have hnil : ∀ t : String, t = "" ↔ t.toList = [] := fun t => by simp
  rw [hnil, hnil, normalize, toList_lower]
  rcases (strip s).toList with _ | ⟨c, l⟩
  · simp [lowerChars]
  · simp [lowerChars, lowerAt_ne_nil]

lemma lowerCode_ascii : ∀ n < 128, ¬ (65 ≤ n ∧ n ≤ 90) → lowerCode n = n := by decide +kernel

lemma isSpace_ascii : ∀ n < 128, 33 ≤ n →
    (spaceTable.any fun r => r.1 ≤ n && n ≤ r.2) = false := by decide

lemma settledChar_of_ascii {c : Char} (hascii : c.toNat < 128)
    (hcapital : ¬ (65 ≤ c.toNat ∧ c.toNat ≤ 90)) : SettledChar c := by
  refine ⟨?_, ?_, lowerCode_ascii _ hascii hcapital⟩
  · rintro rfl
    exact absurd hascii (by decide)
  · rintro rfl
    exact absurd hascii (by decide)

/-- A string of ASCII characters other than blanks, controls and capitals is normalised. -/
lemma normalize_of_ascii {s : String}
    (h : ∀ c ∈ s.toList, 33 ≤ c.toNat ∧ c.toNat < 128 ∧ ¬ (65 ≤ c.toNat ∧ c.toNat ≤ 90)) :
    normalize s = s := by
  refine normalize_of_settled ⟨fun c hc => ?_, fun c hc => ?_⟩ fun c hc => ?_
  · obtain ⟨hlow, hhigh, -⟩ := h c (List.mem_of_head? hc)
    exact isSpace_ascii _ hhigh hlow
  · obtain ⟨hlow, hhigh, -⟩ := h c (List.mem_of_getLast? hc)
    exact isSpace_ascii _ hhigh hlow
  · obtain ⟨-, hhigh, hcapital⟩ := h c hc
    exact settledChar_of_ascii hhigh hcapital

@[simp] lemma normalize_strip (s : String) : normalize (strip s) = normalize s := by
  rw [normalize, strip_strip, normalize]

/-! ### Messages -/

/-- The last `width` digits of `n` in base 16. -/
def hexDigits : ℕ → ℕ → List Char
  | 0, _ => []
  | width + 1, n => hexDigits width (n / 16) ++ [Nat.digitChar (n % 16)]

/-- The characters of `c` in a string quoted with `quote`. -/
def quotedChar (quote c : Char) : List Char :=
  if c = quote ∨ c = '\\' then ['\\', c]
  else if c = '\t' then ['\\', 't']
  else if c = '\n' then ['\\', 'n']
  else if c = '\r' then ['\\', 'r']
  else if c.toNat < 0x20 ∨ unprintableTable.any fun r => r.1 ≤ c.toNat && c.toNat ≤ r.2 then
    if c.toNat ≤ 0xFF then '\\' :: 'x' :: hexDigits 2 c.toNat
    else if c.toNat ≤ 0xFFFF then '\\' :: 'u' :: hexDigits 4 c.toNat
    else '\\' :: 'U' :: hexDigits 8 c.toNat
  else [c]

/-- `repr(s)`: single quotes, unless the string contains one and no double quote. -/
def quoted (s : String) : String :=
  let single := Char.ofNat 0x27
  let double := Char.ofNat 0x22
  let quote := if single ∈ s.toList ∧ double ∉ s.toList then double else single
  String.ofList (quote :: s.toList.flatMap (quotedChar quote) ++ [quote])

/-- The characters of `c` in a JSON string, in ASCII; a character beyond the basic plane is written
as two surrogates. -/
def jsonChar (c : Char) : List Char :=
  let n := c.toNat
  if n = 0x22 ∨ n = 0x5C then ['\\', c]
  else if n = 0x08 then ['\\', 'b']
  else if n = 0x0C then ['\\', 'f']
  else if n = 0x0A then ['\\', 'n']
  else if n = 0x0D then ['\\', 'r']
  else if n = 0x09 then ['\\', 't']
  else if 0x20 ≤ n ∧ n ≤ 0x7E then [c]
  else if n ≤ 0xFFFF then '\\' :: 'u' :: hexDigits 4 n
  else '\\' :: 'u' :: hexDigits 4 (0xD800 + (n - 0x10000) / 0x400) ++
    '\\' :: 'u' :: hexDigits 4 (0xDC00 + (n - 0x10000) % 0x400)

/-- `json.dumps(s)`. -/
def jsonQuoted (s : String) : String :=
  let double := Char.ofNat 0x22
  String.ofList (double :: s.toList.flatMap jsonChar ++ [double])

/-- `', '.join(ss)`. -/
def commaJoin (ss : List String) : String := String.intercalate ", " ss

/-- The nearest integer, the even one of two. -/
def roundHalfEven (q : ℚ) : ℤ :=
  let n := ⌊q⌋
  if q - n < 1 / 2 then n else if 1 / 2 < q - n then n + 1 else if n % 2 = 0 then n else n + 1

/-- `f"{q:.3f}"`. -/
def fixed3 (q : ℚ) : String :=
  let n := roundHalfEven (q * 1000)
  let m := n.natAbs
  let decimals := toString (m % 1000 / 100) ++ toString (m % 100 / 10) ++ toString (m % 10)
  (if q < 0 then "-" else "") ++ toString (m / 1000) ++ "." ++ decimals

-- a proof about strings uses the lemmas above; unfolding these walks through the tables
attribute [irreducible] strip lower normalize contains replaceChar quoted jsonQuoted fixed3

end Text
