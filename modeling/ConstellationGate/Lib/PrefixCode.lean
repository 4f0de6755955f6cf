import ConstellationGate.Lib.Text

/-!
# Prefix codes

A code writes a value as a list of symbols.  It is a prefix code when the value and what follows it
can be told from the symbols (`PrefixCode`).  Such codes may be written one after another, with
fixed symbols between them (`PrefixCode.pair`, `PrefixCode.between`), and a list of them may be
written with separators, if neither a separator nor a value can be taken for the end
(`PrefixCode.separated`).

The characters of a JSON string are such a code (`Text.prefixCode_jsonChar`), and so are the strings
(`Text.prefixCode_jsonQuoted`).
-/

/-- What stands after a value can be told, and the value. -/
def PrefixCode {α σ : Type*} (code : α → List σ) : Prop :=
  ∀ a b r r', code a ++ r = code b ++ r' → a = b ∧ r = r'

namespace PrefixCode

variable {α β σ : Type*} {code : α → List σ} {code' : β → List σ}

lemma injective (h : PrefixCode code) : Function.Injective code := by
  intro a b hab
  exact (h a b [] [] (by rw [hab])).1

/-- A code that can be read is a prefix code. -/
lemma of_reader {read : List σ → Option (α × List σ)}
    (h : ∀ a r, read (code a ++ r) = some (a, r)) : PrefixCode code := by
  intro a b r r' heq
  have hread : some (a, r) = some (b, r') := by rw [← h a r, heq, h b r']
  simpa using hread

/-- What is written for a value that can be told from another. -/
lemma comp (h : PrefixCode code) {f : β → α} (hf : Function.Injective f) :
    PrefixCode fun b => code (f b) := by
  intro a b r r' heq
  obtain ⟨hab, hr⟩ := h _ _ r r' heq
  exact ⟨hf hab, hr⟩

/-- Fixed symbols may stand around a value. -/
lemma between (h : PrefixCode code) (before after : List σ) :
    PrefixCode fun a => before ++ (code a ++ after) := by
  intro a b r r' heq
  simp only [List.append_assoc, List.append_cancel_left_eq] at heq
  obtain ⟨hab, hr⟩ := h a b _ _ heq
  exact ⟨hab, List.append_cancel_left hr⟩

/-- One value after another. -/
lemma pair (h : PrefixCode code) (h' : PrefixCode code') :
    PrefixCode fun p : α × β => code p.1 ++ code' p.2 := by
  rintro ⟨a, b⟩ ⟨a', b'⟩ r r' heq
  simp only [List.append_assoc] at heq
  obtain ⟨rfl, hrest⟩ := h a a' _ _ heq
  obtain ⟨rfl, hr⟩ := h' b b' r r' hrest
  exact ⟨rfl, hr⟩

/-- A value may be absent. -/
lemma option (h : PrefixCode code) {absent : List σ}
    (habsent : ∀ a r r', code a ++ r ≠ absent ++ r') :
    PrefixCode fun o : Option α => o.elim absent code := by
  intro o o' r r' heq
  match o, o' with
  | none, none => exact ⟨rfl, List.append_cancel_left heq⟩
  | none, some b => exact absurd heq.symm (habsent b r' r)
  | some a, none => exact absurd heq (habsent a r r')
  | some a, some b =>
    obtain ⟨rfl, hr⟩ := h a b r r' heq
    exact ⟨rfl, hr⟩

/-- One of two words. -/
lemma word {yes no : List σ} (hwords : ∀ r r', yes ++ r ≠ no ++ r') :
    PrefixCode fun b : Bool => if b then yes else no := by
  intro b b' r r' heq
  match b, b' with
  | true, true => exact ⟨rfl, List.append_cancel_left heq⟩
  | true, false => exact absurd heq (hwords r r')
  | false, true => exact absurd heq.symm (hwords r' r)
  | false, false => exact ⟨rfl, List.append_cancel_left heq⟩

/-- A list of values and its end, when no value begins like the end. -/
lemma terminated (h : PrefixCode code) {stop : List σ}
    (hstop : ∀ a r r', code a ++ r ≠ stop ++ r') :
    PrefixCode fun l : List α => l.flatMap code ++ stop := by
  intro l
  induction l with
  | nil =>
    intro l' r r' heq
    cases l' with
    | nil => exact ⟨rfl, List.append_cancel_left heq⟩
    | cons b l' =>
      simp only [List.flatMap_nil, List.nil_append, List.flatMap_cons, List.append_assoc] at heq
      exact absurd heq.symm (hstop b _ _)
  | cons a l ih =>
    intro l' r r' heq
    cases l' with
    | nil =>
      simp only [List.flatMap_nil, List.nil_append, List.flatMap_cons, List.append_assoc] at heq
      exact absurd heq (hstop a _ _)
    | cons b l' =>
      simp only [List.flatMap_cons, List.append_assoc] at heq
      obtain ⟨rfl, hrest⟩ := h a b _ _ heq
      have hrest' : l.flatMap code ++ stop ++ r = l'.flatMap code ++ stop ++ r' := by
        simpa only [List.append_assoc] using hrest
      obtain ⟨rfl, hr⟩ := ih l' r r' hrest'
      exact ⟨rfl, hr⟩

/-- The first value of a list, and the others with a separator before each. -/
lemma intercalate_cons (sep : List σ) (a : α) (l : List α) :
    sep.intercalate ((a :: l).map code) = code a ++ l.flatMap fun b => sep ++ code b := by
  induction l generalizing a with
  | nil => simp [List.intercalate]
  | cons b l ih =>
    rw [List.map_cons, List.map_cons, List.intercalate_cons_cons, ← List.map_cons, ih b,
      List.flatMap_cons, List.append_assoc, List.append_assoc]

/-- A list of values with separators between them, and its end. -/
lemma separated (h : PrefixCode code) {sep stop : List σ}
    (hstop : ∀ a r r', code a ++ r ≠ stop ++ r') (hsep : ∀ r r', sep ++ r ≠ stop ++ r') :
    PrefixCode fun l : List α => sep.intercalate (l.map code) ++ stop := by
  -- the values after the first are a list of their own, each with the separator before it
  have hlater : PrefixCode fun l : List α => (l.flatMap fun b => sep ++ code b) ++ stop := by
    refine terminated ?_ fun b r r' => ?_
    · simpa only [List.append_nil] using h.between sep []
    · rw [List.append_assoc]
      exact hsep _ _
  intro l l' r r' heq
  match l, l' with
  | [], [] => exact ⟨rfl, List.append_cancel_left heq⟩
  | [], b :: l' =>
    simp only [intercalate_cons, List.append_assoc] at heq
    exact absurd heq.symm (hstop b _ _)
  | a :: l, [] =>
    simp only [intercalate_cons, List.append_assoc] at heq
    exact absurd heq (hstop a _ _)
  | a :: l, b :: l' =>
    simp only [intercalate_cons, List.append_assoc] at heq
    obtain ⟨rfl, hrest⟩ := h a b _ _ heq
    simp only [← List.append_assoc] at hrest
    obtain ⟨rfl, hr⟩ := hlater l l' r r' hrest
    exact ⟨rfl, hr⟩

end PrefixCode

/-! ### JSON strings -/

namespace Text

/-- The value of a hexadecimal digit. -/
def hexDigit (c : Char) : ℕ := if c.toNat ≤ 0x39 then c.toNat - 0x30 else c.toNat - 0x57

/-- The number that hexadecimal digits write. -/
def hexValue (digits : List Char) : ℕ := digits.foldl (fun n c => 16 * n + hexDigit c) 0

@[simp] lemma length_hexDigits (width n : ℕ) : (hexDigits width n).length = width := by
  induction width generalizing n with
  | zero => rfl
  | succ width ih => rw [hexDigits, List.length_append, ih, List.length_singleton]

lemma hexDigit_digitChar : ∀ d < 16, hexDigit (Nat.digitChar d) = d := by decide

lemma hexValue_hexDigits (width n : ℕ) : hexValue (hexDigits width n) = n % 16 ^ width := by
  induction width generalizing n with
  | zero =>
    rw [pow_zero, Nat.mod_one]
    rfl
  | succ width ih =>
    have hlast : hexDigit (Nat.digitChar (n % 16)) = n % 16 :=
      hexDigit_digitChar _ (Nat.mod_lt _ (by decide))
    have hfirst : (hexDigits width (n / 16)).foldl (fun n c => 16 * n + hexDigit c) 0 =
        n / 16 % 16 ^ width := ih (n / 16)
    rw [hexValue, hexDigits, List.foldl_append, List.foldl_cons, List.foldl_nil, hfirst, hlast,
      pow_succ', Nat.mod_mul]
    omega

/-- Read a character of a JSON string and leave what follows. -/
def readJsonChar : List Char → Option (Char × List Char)
  | [] => none
  | [c] => some (c, [])
  | c :: e :: l =>
    if c ≠ '\\' then some (c, e :: l)
    else if e = 'b' then some (Char.ofNat 0x08, l)
    else if e = 'f' then some (Char.ofNat 0x0C, l)
    else if e = 'n' then some (Char.ofNat 0x0A, l)
    else if e = 'r' then some (Char.ofNat 0x0D, l)
    else if e = 't' then some (Char.ofNat 0x09, l)
    else if e = 'u' then
      let n := hexValue (l.take 4)
      if 0xD800 ≤ n ∧ n < 0xDC00 then
        -- the first of two surrogates
        let low := hexValue ((l.drop 6).take 4)
        some (Char.ofNat (0x10000 + 0x400 * (n - 0xD800) + (low - 0xDC00)), l.drop 10)
      else some (Char.ofNat n, l.drop 4)
    else some (e, l)

lemma readJsonChar_self {c : Char} (h : c ≠ '\\') (r : List Char) :
    readJsonChar (c :: r) = some (c, r) := by
  cases r with
  | nil => rfl
  | cons e l => rw [readJsonChar, if_pos h]

/-- A character of the basic plane in four digits. -/
lemma readJsonChar_basic {n : ℕ} (hn : n < 0x10000) (hplane : n < 0xD800 ∨ 0xDC00 ≤ n)
    (r : List Char) :
    readJsonChar ('\\' :: 'u' :: hexDigits 4 n ++ r) = some (Char.ofNat n, r) := by
  have htake : (hexDigits 4 n ++ r).take 4 = hexDigits 4 n := by
    rw [List.take_left' (length_hexDigits 4 n)]
  have hdrop : (hexDigits 4 n ++ r).drop 4 = r := by
    rw [List.drop_left' (length_hexDigits 4 n)]
  have hvalue : hexValue (hexDigits 4 n) = n := by
    rw [hexValue_hexDigits]
    exact Nat.mod_eq_of_lt (by omega)
  have hsingle : ¬ (0xD800 ≤ n ∧ n < 0xDC00) := by omega
  simp [readJsonChar, htake, hdrop, hvalue, hsingle]

/-- Two surrogates. -/
lemma readJsonChar_pair {high low : ℕ} (hhigh : high < 0x400) (hlow : low < 0x400)
    (r : List Char) :
    readJsonChar ('\\' :: 'u' :: hexDigits 4 (0xD800 + high) ++
        '\\' :: 'u' :: hexDigits 4 (0xDC00 + low) ++ r) =
      some (Char.ofNat (0x10000 + 0x400 * high + low), r) := by
  have hhighValue : hexValue (hexDigits 4 (0xD800 + high)) = 0xD800 + high := by
    rw [hexValue_hexDigits]
    exact Nat.mod_eq_of_lt (by omega)
  have hlowValue : hexValue (hexDigits 4 (0xDC00 + low)) = 0xDC00 + low := by
    rw [hexValue_hexDigits]
    exact Nat.mod_eq_of_lt (by omega)
  have htake (n : ℕ) (l : List Char) : (hexDigits 4 n ++ l).take 4 = hexDigits 4 n := by
    rw [List.take_left' (length_hexDigits 4 n)]
  have hdrop (n k : ℕ) (l : List Char) : (hexDigits 4 n ++ l).drop (4 + k) = l.drop k := by
    rw [← List.drop_drop, List.drop_left' (length_hexDigits 4 n)]
  have hfirst : 0xD800 ≤ 0xD800 + high ∧ 0xD800 + high < 0xDC00 := by omega
  have hsix := hdrop (0xD800 + high) 2 ('\\' :: 'u' :: (hexDigits 4 (0xDC00 + low) ++ r))
  have hten := hdrop (0xD800 + high) 6 ('\\' :: 'u' :: (hexDigits 4 (0xDC00 + low) ++ r))
  have hrest := hdrop (0xDC00 + low) 0 r
  simp only [Nat.reduceAdd, List.drop_succ_cons, List.drop_zero] at hsix hten hrest
  simp [readJsonChar, htake, hhighValue, hlowValue, hfirst, hsix, hten, hrest]

lemma readJsonChar_jsonChar (c : Char) (r : List Char) :
    readJsonChar (jsonChar c ++ r) = some (c, r) := by
  have hchar {n : ℕ} (h : c.toNat = n) : c = Char.ofNat n := by rw [← h, Char.ofNat_toNat]
  have hvalid : c.toNat < 0xD800 ∨ 0xDFFF < c.toNat ∧ c.toNat < 0x110000 := c.valid
  rw [jsonChar]
  split
  next h => rcases h with h | h <;> (rw [hchar h]; rfl)
  split
  next h => rw [hchar h]; rfl
  split
  next h => rw [hchar h]; rfl
  split
  next h => rw [hchar h]; rfl
  split
  next h => rw [hchar h]; rfl
  split
  next h => rw [hchar h]; rfl
  next hquote _ _ _ _ _ =>
  split
  · refine readJsonChar_self (fun h => hquote (Or.inr ?_)) r
    rw [h]
    rfl
  split
  next hbasic =>
    rw [readJsonChar_basic (by omega) (by omega), Char.ofNat_toNat]
  next hbeyond =>
    rw [readJsonChar_pair (by omega) (Nat.mod_lt _ (by decide))]
    have hsum : 0x10000 + 0x400 * ((c.toNat - 0x10000) / 0x400) + (c.toNat - 0x10000) % 0x400 =
        c.toNat := by omega
    rw [hsum, Char.ofNat_toNat]

lemma prefixCode_jsonChar : PrefixCode jsonChar := PrefixCode.of_reader readJsonChar_jsonChar

/-- No character is written as a quote. -/
lemma jsonChar_ne_quote (c : Char) (r r' : List Char) : jsonChar c ++ r ≠ ['"'] ++ r' := by
  intro heq
  have hread := readJsonChar_jsonChar c r
  rw [heq, List.singleton_append, readJsonChar_self (by decide)] at hread
  obtain ⟨rfl, -⟩ := Prod.mk.inj (Option.some.inj hread)
  simp [jsonChar] at heq

lemma toList_jsonQuoted (s : String) :
    (jsonQuoted s).toList = ['"'] ++ (s.toList.flatMap jsonChar ++ ['"']) := by
  unfold jsonQuoted
  rw [String.toList_ofList]
  rfl

/-- A JSON string ends where it says. -/
lemma prefixCode_jsonQuoted : PrefixCode fun s => (jsonQuoted s).toList := by
  have hchars := (prefixCode_jsonChar.terminated jsonChar_ne_quote).between ['"'] []
  have hstrings := hchars.comp fun _ _ h => String.toList_injective h
  intro s s' r r' heq
  refine hstrings s s' r r' ?_
  simpa only [toList_jsonQuoted, List.append_nil] using heq

end Text
