import GroupQueue.Text.Numeral
import GroupQueue.Time.Stamp

/-!
# `Proofs.Text.Digits` — numbers and the digits that spell them

Numbers are written by core's digits, with zeros in front where a width is wanted, and they are read by a fold
over the digits found at the front of a text. A list of digits **spells** the number that the fold makes of it.
Both ways of writing spell the number written, and where no digit follows, all digits are found.

## Contents
- `foldl_digit?`, `le_foldl_digit?` — reading digits on from a number.
- `Spells`, with `spells_toDigits` and `spells_padded`; `length_padded`.
- `head?_toDigits` — the first digit is not a zero.
- `NoDigitAhead`, `Spells.takeWhile`, `Spells.dropWhile` — digits at the front of a text.
-/

namespace GroupQueue.Text

/-- Some digits, at least one, that stand for a number. -/
structure Spells (ds : List Char) (n : Nat) : Prop where
  ne_nil : ds ≠ []
  isDigit : ∀ c ∈ ds, c.isDigit = true
  value : ds.foldl (fun n c => n * 10 + (digit? c).getD 0) 0 = n

/-- Reading digits on from a number is what core does with them. -/
theorem foldl_digit? {ds : List Char} (hds : ∀ c ∈ ds, c.isDigit = true) (value : Nat) :
    ds.foldl (fun n c => n * 10 + (digit? c).getD 0) value = Nat.ofDigitChars 10 ds value := by
  induction ds generalizing value with
  | nil => rfl
  | cons c ds ih =>
      rw [List.forall_mem_cons] at hds
      rw [List.foldl_cons, ih hds.2, Nat.ofDigitChars_cons, digit?, if_pos hds.1, Option.getD_some,
        Nat.mul_comm]

/-- A number only grows when digits are read on from it. -/
theorem le_foldl_digit? (ds : List Char) (value : Nat) :
    value ≤ ds.foldl (fun n c => n * 10 + (digit? c).getD 0) value := by
  induction ds generalizing value with
  | nil => exact Nat.le_refl value
  | cons c ds ih =>
      have hnext := ih (value * 10 + (digit? c).getD 0)
      rw [List.foldl_cons]
      omega

theorem spells_toDigits (n : Nat) : Spells (Nat.toDigits 10 n) n where
  ne_nil := Nat.toDigits_ne_nil
  isDigit := fun _ hc => Nat.isDigit_of_mem_toDigits (by decide) (by decide) hc
  value := by
    rw [foldl_digit? fun _ hc => Nat.isDigit_of_mem_toDigits (by decide) (by decide) hc]
    exact Nat.ofDigitChars_ten_toDigits

/-- Only zero begins with a zero. -/
theorem head?_toDigits {n : Nat} (hn : 0 < n) : (Nat.toDigits 10 n).head? ≠ some '0' := by
  induction n using Nat.strongRecOn with
  | _ n ih =>
      by_cases h : n < 10
      · have hdigits : ∀ d < 10, 0 < d → d.digitChar ≠ '0' := by decide
        rw [Nat.toDigits_of_lt_base h, List.head?_cons, ne_eq, Option.some_inj]
        exact hdigits n h hn
      · have hfirst := ih (n / 10) (by omega) (by omega)
        obtain ⟨c, cs, hcons⟩ := List.exists_cons_of_ne_nil (Nat.toDigits_ne_nil (b := 10) (n := n / 10))
        rw [Nat.toDigits_of_base_le (by decide) (by omega), hcons]
        rwa [hcons] at hfirst

/-! ## Zeros in front -/

theorem toList_padded (width n : Nat) :
    (padded width n).toList
      = List.replicate (width - (Nat.toDigits 10 n).length) '0' ++ Nat.toDigits 10 n :=
  String.toList_ofList

theorem spells_padded (width n : Nat) : Spells (padded width n).toList n := by
  have hdigits : ∀ c ∈ (padded width n).toList, c.isDigit = true := by
    intro c hc
    rw [toList_padded, List.mem_append, List.mem_replicate] at hc
    rcases hc with ⟨-, rfl⟩ | hc
    · rfl
    · exact (spells_toDigits n).isDigit c hc
  refine ⟨?_, hdigits, ?_⟩
  · rw [toList_padded]
    exact List.append_ne_nil_of_right_ne_nil _ Nat.toDigits_ne_nil
  · rw [foldl_digit? hdigits, toList_padded, Nat.ofDigitChars_append, Nat.ofDigitChars_replicate_zero,
      Nat.mul_zero]
    exact Nat.ofDigitChars_ten_toDigits

/-- A number that fits takes the width, and no more. -/
theorem length_padded {width n : Nat} (hwidth : 0 < width) (hn : n < Nat.pow 10 width) :
    (padded width n).toList.length = width := by
  have hle := (Nat.length_toDigits_le_iff (b := 10) (by decide) hwidth).mpr hn
  rw [toList_padded, List.length_append, List.length_replicate]
  omega

/-! ## Digits at the front of a text -/

/-- No digit comes next. -/
def NoDigitAhead (rest : List Char) : Prop := ∀ c ∈ rest.head?, c.isDigit = false

theorem noDigitAhead_cons {c : Char} {cs : List Char} : NoDigitAhead (c :: cs) ↔ c.isDigit = false := by
  simp [NoDigitAhead]

namespace Spells

variable {ds rest : List Char} {n : Nat}

theorem takeWhile (h : Spells ds n) (hrest : NoDigitAhead rest) :
    (ds ++ rest).takeWhile Char.isDigit = ds := by
  rw [List.takeWhile_append_of_pos h.isDigit]
  cases rest with
  | nil => simp
  | cons c cs => simp [noDigitAhead_cons.mp hrest]

theorem dropWhile (h : Spells ds n) (hrest : NoDigitAhead rest) :
    (ds ++ rest).dropWhile Char.isDigit = rest := by
  rw [List.dropWhile_append_of_pos h.isDigit]
  cases rest with
  | nil => rfl
  | cons c cs => simp [noDigitAhead_cons.mp hrest]

end Spells

end GroupQueue.Text
