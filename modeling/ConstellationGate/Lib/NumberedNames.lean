import ConstellationGate.Lib.Text

/-!
# Names that end in a number

The name `text-n` determines both the text and the number, even where the text ends in a hyphen and
a number itself: the number is what follows the last hyphen.
-/

namespace List

/-- The last occurrence of an element determines what stands before and after it. -/
lemma append_cons_inj_of_last {α : Type*} {a : α} {l l' r r' : List α} (hr : a ∉ r) (hr' : a ∉ r')
    (h : l ++ a :: r = l' ++ a :: r') : l = l' ∧ r = r' := by
  rcases append_eq_append_iff.1 h with ⟨t, rfl, ht⟩ | ⟨t, rfl, ht⟩
  · cases t with
    | nil => exact ⟨(append_nil l).symm, (cons.inj ht).2⟩
    | cons b t => exact absurd (by rw [(cons.inj ht).2]; simp) hr
  · cases t with
    | nil => exact ⟨append_nil l', ((cons.inj ht).2).symm⟩
    | cons b t => exact absurd (by rw [(cons.inj ht).2]; simp) hr'

end List

namespace Text

/-- `f"{text}-{n}"`. -/
def numbered (text : String) (n : ℕ) : String := text ++ "-" ++ toString n

lemma toList_numbered (text : String) (n : ℕ) :
    (numbered text n).toList = text.toList ++ '-' :: Nat.toDigits 10 n := by
  simp [numbered, Nat.toString_eq_repr, Nat.toList_repr]

lemma isDigit_of_mem_digits {n : ℕ} {c : Char} (hc : c ∈ Nat.toDigits 10 n) : c.isDigit = true :=
  Nat.isDigit_of_mem_toDigits (by decide) (by decide) hc

lemma hyphen_notMem_digits (n : ℕ) : '-' ∉ Nat.toDigits 10 n := fun h =>
  absurd (isDigit_of_mem_digits h) (by decide)

lemma digits_injective {m n : ℕ} (h : Nat.toDigits 10 m = Nat.toDigits 10 n) : m = n := by
  rw [← Nat.ofDigitChars_ten_toDigits (n := m), h, Nat.ofDigitChars_ten_toDigits]

theorem numbered_inj {a b : String} {m n : ℕ} : numbered a m = numbered b n ↔ a = b ∧ m = n := by
  constructor
  · intro h
    have hlist := congrArg String.toList h
    rw [toList_numbered, toList_numbered] at hlist
    obtain ⟨htext, hdigits⟩ := List.append_cons_inj_of_last (hyphen_notMem_digits m)
      (hyphen_notMem_digits n) hlist
    exact ⟨String.toList_inj.1 htext, digits_injective hdigits⟩
  · rintro ⟨rfl, rfl⟩
    rfl

lemma ascii_of_isDigit {c : Char} (h : c.isDigit = true) : 48 ≤ c.toNat ∧ c.toNat ≤ 57 := by
  simpa [Char.isDigit, UInt32.le_iff_toNat_le] using h

lemma isSpace_of_isDigit {c : Char} (h : c.isDigit = true) : isSpace c = false := by
  obtain ⟨hlow, hhigh⟩ := ascii_of_isDigit h
  exact isSpace_ascii _ (by omega) (by omega)

lemma stripped_numbered {text : String} (hstrip : Stripped text.toList) (hne : text ≠ "") (n : ℕ) :
    Stripped (numbered text n).toList := by
  have hlist : text.toList ≠ [] := fun h => hne (by simpa using h)
  rw [toList_numbered]
  constructor
  · rw [List.head?_append_of_ne_nil _ hlist]
    exact hstrip.1
  · intro c hc
    have hlast : c ∈ (Nat.toDigits 10 n).getLast? := by
      rw [List.getLast?_append_of_ne_nil _ (List.cons_ne_nil _ _)] at hc
      rwa [List.getLast?_cons_of_ne_nil Nat.toDigits_ne_nil] at hc
    exact isSpace_of_isDigit (isDigit_of_mem_digits (List.mem_of_getLast? hlast))

/-- A name that is made of a normalised text is normalised. -/
lemma normalize_numbered {text : String} (hne : normalize text ≠ "") (n : ℕ) :
    normalize (numbered (normalize text) n) = numbered (normalize text) n := by
  refine normalize_of_settled (stripped_numbered (stripped_normalize text) hne n) ?_
  intro c hc
  rw [toList_numbered, List.mem_append, List.mem_cons] at hc
  rcases hc with hc | rfl | hc
  · exact settled_normalize text c hc
  · exact settledChar_of_ascii (by decide) (by decide)
  · obtain ⟨hlow, hhigh⟩ := ascii_of_isDigit (isDigit_of_mem_digits hc)
    exact settledChar_of_ascii (by omega) (by omega)

end Text
