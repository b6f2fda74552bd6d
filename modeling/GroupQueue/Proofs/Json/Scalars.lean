import GroupQueue.Json.Reader
import GroupQueue.Json.Writer
import GroupQueue.Proofs.Text.Digits

/-!
# `Proofs.Json.Scalars` — texts and integers are read back

A reader **reads** a text as a value if it takes this text off the front, and no more, whatever may follow a
value in an object. That is how a quoted text is read, for every text: each character is either written raw or as
an escape that is decoded to it. And that is how an integer that fits a machine word is read.

## Contents
- `Follows`, `Reads`, `run_bind` — texts in front of others; `Reads.readAll`.
- `textBody_escapedChar`, `text_quote`, `reads_quote` — texts; `reads_option_some`, `reads_option_none`.
- `unsignedNumber_toDigits`, `reads_integer` — integers.
-/

namespace GroupQueue.Json

open Text (digit? maxNatural minWord maxWord Spells NoDigitAhead spells_toDigits)

/-- What may follow a value: nothing, a comma or a closing brace. -/
def Follows (rest : List Char) : Prop := ∀ c ∈ rest.head?, c = ',' ∨ c = '\x7d'

theorem follows_nil : Follows [] := nofun

theorem follows_comma (cs : List Char) : Follows (',' :: cs) := by simp [Follows]

theorem follows_brace (cs : List Char) : Follows ('\x7d' :: cs) := by simp [Follows]

/-- **A reader reads a text as a value**: it takes this text, and no more. -/
def Reads {α : Type} (reader : Reader α) (text : String) (a : α) : Prop :=
  ∀ rest, Follows rest → reader (text.toList ++ rest) = .ok (a, rest)

section Readers

variable {α β : Type} {cs rest : List Char}

/-- A reader goes on where the one before it has stopped. -/
theorem run_bind {reader : Reader α} {f : α → Reader β} {a : α} (h : reader cs = .ok (a, rest)) :
    (reader >>= f) cs = f a rest := by
  show (reader cs).bind _ = _
  rw [h]
  rfl

theorem Reads.bind_pure {reader : Reader α} {text : String} {a : α} (h : Reads reader text a) (f : α → β) :
    Reads (reader >>= fun a => pure (f a)) text (f a) :=
  fun rest hrest => run_bind (h rest hrest)

theorem Reads.readAll {reader : Reader α} {text : String} {a : α} (h : Reads reader text a) :
    readAll reader text = .ok a := by
  have hall := h [] follows_nil
  rw [List.append_nil] at hall
  unfold Json.readAll
  rw [hall]
  rfl

theorem run_get (cs : List Char) : (get : Reader (List Char)) cs = .ok (cs, cs) := rfl

theorem advance_cons (c : Char) (cs : List Char) : advance (c :: cs) = .ok ((), cs) := rfl

theorem peek_cons {c : Char} (h : isSpace c = false) : peek (c :: cs) = .ok (c, c :: cs) := by
  have hskip : skipSpaces (c :: cs) = c :: cs := List.dropWhile_cons_of_neg (by simp [h])
  have hmodify : (modify skipSpaces : Reader Unit) (c :: cs) = .ok ((), c :: cs) := by
    show Except.ok ((), skipSpaces (c :: cs)) = _
    rw [hskip]
  rw [peek, run_bind hmodify, run_bind (run_get _)]
  rfl

end Readers

/-! ## Texts -/

theorem hexValue?_hexDigit : ∀ n < 16, hexValue? (hexDigit n) = some n := by decide

/-- Four characters have four bytes at least. -/
theorem hasCode_cons (a b c d : Char) (rest : List Char) : hasCode (a :: b :: c :: d :: rest) = true := by
  have ha := a.utf8Size_pos
  have hb := b.utf8Size_pos
  have hc := c.utf8Size_pos
  have hd := d.utf8Size_pos
  rw [hasCode, decide_eq_true_iff]
  show 4 ≤ 0 + a.utf8Size + b.utf8Size + c.utf8Size + d.utf8Size
  omega

/-- A code of four digits is decoded to its character, unless it is half of a pair. -/
theorem textBody_code {n : Nat} (hn : n < 32) (read rest : List Char) :
    textBody .plain read ('\\' :: 'u' :: '0' :: '0' :: hexDigit (n / 16) :: hexDigit (n % 16) :: rest)
      = textBody .plain (Char.ofNat n :: read) rest := by
  have houtcome : codeOutcome (n / 16 * 16 + n % 16) none = .ok (.inl (Char.ofNat n)) := by
    rw [Nat.mul_comm, Nat.div_add_mod, codeOutcome, if_neg (by omega), if_neg (by omega)]
  have hzero : hexValue? '0' = some 0 := rfl
  have hhigh := hexValue?_hexDigit (n / 16) (by omega)
  have hlow := hexValue?_hexDigit (n % 16) (by omega)
  simp [textBody, hasCode_cons, hzero, hhigh, hlow, houtcome]

/-- **A character is decoded from the way it is written.** -/
theorem textBody_escapedChar (c : Char) (read rest : List Char) :
    textBody .plain read (escapedChar c ++ rest) = textBody .plain (c :: read) rest := by
  unfold escapedChar
  -- the characters that a letter stands for
  split
  · next h => subst h; rfl
  split
  · next h => subst h; rfl
  split
  · next h => subst h; rfl
  split
  · next h => subst h; rfl
  split
  · next h => subst h; rfl
  split
  · next h => subst h; rfl
  split
  · next h => subst h; rfl
  split
  · next h =>
    have hcode := textBody_code h read rest
    rw [Char.ofNat_toNat] at hcode
    exact hcode
  · next hquote hbackslash _ _ _ _ _ hcontrol =>
    rw [List.singleton_append, textBody, if_neg hquote, if_neg hbackslash, if_neg hcontrol]

theorem textBody_flatMap (cs read rest : List Char) :
    textBody .plain read (cs.flatMap escapedChar ++ '\"' :: rest)
      = .ok (String.ofList (read.reverse ++ cs), rest) := by
  induction cs generalizing read with
  | nil => simp [textBody]
  | cons c cs ih =>
      rw [List.flatMap_cons, List.append_assoc, textBody_escapedChar, ih, List.reverse_cons,
        List.append_assoc, List.singleton_append]

theorem toList_quote (s : String) : (quote s).toList = '\"' :: (s.toList.flatMap escapedChar ++ ['\"']) :=
  String.toList_ofList

/-- **A quoted text is read back**, whatever follows it. -/
theorem text_quote (s : String) (rest : List Char) : text ((quote s).toList ++ rest) = .ok (s, rest) := by
  have hbody := textBody_flatMap s.toList [] rest
  rw [List.reverse_nil, List.nil_append, String.ofList_toList] at hbody
  rw [toList_quote, List.cons_append, List.append_assoc, List.singleton_append, text]
  rw [run_bind (advance_cons _ _), run_bind (run_get _), hbody]
  rfl

theorem reads_quote (s : String) : Reads readText (quote s) s := by
  intro rest _
  have htext := text_quote s rest
  rw [toList_quote] at htext ⊢
  rw [readText, List.cons_append, run_bind (peek_cons rfl)]
  exact htext

/-- An optional text is read back as one that is there, also if it is empty. -/
theorem reads_option_some (s : String) : Reads (readOption readText) (quote s) (some s) := by
  intro rest hrest
  have hread := reads_quote s rest hrest
  rw [toList_quote] at hread ⊢
  show (readText >>= fun s => pure (some s)) _ = _
  exact run_bind hread

theorem reads_option_none : Reads (readOption readText) "null" none := by
  intro rest _
  rfl

/-! ## Integers -/

theorem Follows.noDigitAhead {rest : List Char} (h : Follows rest) : NoDigitAhead rest := by
  intro c hc
  rcases h c hc with rfl | rfl <;> rfl

/-- Digits whose number fits an unsigned machine word are kept, all of them. -/
theorem foldl_pushInteger {ds : List Char} {value : Nat} (exponent : Int)
    (h : ds.foldl (fun n c => n * 10 + (digit? c).getD 0) value ≤ maxNatural) :
    ds.foldl Significand.pushInteger ⟨value, exponent, false⟩
      = ⟨ds.foldl (fun n c => n * 10 + (digit? c).getD 0) value, exponent, false⟩ := by
  induction ds generalizing value with
  | nil => rfl
  | cons c ds ih =>
      rw [List.foldl_cons] at h
      have hnext := Nat.le_trans (Text.le_foldl_digit? ds _) h
      have hpush : Significand.pushInteger ⟨value, exponent, false⟩ c
          = ⟨value * 10 + (digit? c).getD 0, exponent, false⟩ := by
        simp [Significand.pushInteger, Nat.not_lt.mpr hnext]
      rw [List.foldl_cons, List.foldl_cons, hpush, ih h]

/-- What may follow a value is no part of an integer. -/
theorem numberTail_follows {positive : Bool} {n : Nat} {rest : List Char} (hrest : Follows rest) :
    numberTail positive ⟨n, 0, false⟩ rest
      = if positive then .ok (.natural n, rest)
        else if n = 0 ∨ maxWord + 1 < n then .ok (.other, rest)
        else .ok (.negative (-n), rest) := by
  cases rest with
  | nil => rfl
  | cons c cs => rcases hrest c rfl with rfl | rfl <;> rfl

/-- An unsigned number is read off its digits. -/
theorem unsignedNumber_toDigits (positive : Bool) {n : Nat} {rest : List Char} (hn : n ≤ maxNatural)
    (hrest : Follows rest) :
    unsignedNumber positive (Nat.toDigits 10 n ++ rest) = numberTail positive ⟨n, 0, false⟩ rest := by
  have hspells := spells_toDigits n
  have hdigits : digits (Nat.toDigits 10 n ++ rest) = (Nat.toDigits 10 n, rest) := by
    rw [digits, hspells.takeWhile hrest.noDigitAhead, hspells.dropWhile hrest.noDigitAhead]
  have hvalue : (Nat.toDigits 10 n).foldl Significand.pushInteger ⟨0, 0, false⟩ = ⟨n, 0, false⟩ := by
    rw [foldl_pushInteger 0 (by rwa [hspells.value]), hspells.value]
  have hfirst : ∀ c cs, Nat.toDigits 10 n ≠ '0' :: c :: cs := by
    intro c cs heq
    have hpos : 0 < n := by
      refine Nat.pos_of_ne_zero ?_
      rintro rfl
      cases heq
    exact Text.head?_toDigits hpos (by rw [heq]; rfl)
  obtain ⟨c, ds, hcons⟩ := List.exists_cons_of_ne_nil hspells.ne_nil
  rw [hcons] at hdigits hvalue hfirst ⊢
  rw [List.cons_append] at hdigits ⊢
  rw [unsignedNumber, hdigits]
  · split
    · next heq => cases heq
    · next heq =>
      cases heq
      exact absurd rfl (hfirst _ _)
    · next heq =>
      cases heq
      rw [hvalue]
  · nofun

theorem isSpace_of_isDigit {c : Char} (h : c.isDigit = true) : isSpace c = false := by
  rw [Bool.eq_false_iff]
  intro hspace
  simp only [isSpace, Bool.or_eq_true, beq_iff_eq] at hspace
  rcases hspace with ((rfl | rfl) | rfl) | rfl <;> contradiction

/-- A number that begins with a digit has no sign. -/
theorem number_cons {c : Char} {cs : List Char} (h : c.isDigit = true) :
    number (c :: cs) = unsignedNumber true (c :: cs) := by
  unfold number
  split
  · next heq =>
    cases heq
    contradiction
  · rfl

theorem reads_natural {n : Nat} (hmax : (n : Int) ≤ maxWord) : Reads readInteger (integer n) n := by
  intro rest hrest
  have hspells := spells_toDigits n
  have htext : (integer n).toList = Nat.toDigits 10 n := Nat.toList_repr
  have hmaxNatural : n ≤ maxNatural := by
    unfold maxWord at hmax
    unfold maxNatural
    omega
  have hnumber := unsignedNumber_toDigits true hmaxNatural hrest
  obtain ⟨c, ds, hcons⟩ := List.exists_cons_of_ne_nil hspells.ne_nil
  have hdigit := hspells.isDigit c (by rw [hcons]; exact List.mem_cons_self)
  rw [numberTail_follows hrest, if_pos rfl, hcons, List.cons_append, ← number_cons hdigit] at hnumber
  rw [htext, hcons, List.cons_append, readInteger, run_bind (peek_cons (isSpace_of_isDigit hdigit)), hdigit,
    Bool.or_true, if_pos rfl, run_bind hnumber]
  dsimp only
  rw [if_pos hmax]
  rfl

theorem reads_negative {n : Nat} (hpos : 0 < n) (hmin : minWord ≤ -(n : Int)) :
    Reads readInteger (integer (-n)) (-n) := by
  intro rest hrest
  have htext : (integer (-n)).toList = '-' :: Nat.toDigits 10 n := by
    obtain ⟨k, rfl⟩ := Nat.exists_eq_add_one_of_ne_zero (Nat.ne_of_gt hpos)
    show ("-" ++ (k + 1).repr).toList = _
    rw [String.toList_append, Nat.toList_repr]
    rfl
  have hmaxNatural : n ≤ maxNatural := by
    unfold minWord at hmin
    unfold maxNatural
    omega
  have hnegative : ¬ (n = 0 ∨ maxWord + 1 < n) := by
    unfold minWord at hmin
    unfold maxWord
    omega
  have hnumber := unsignedNumber_toDigits false hmaxNatural hrest
  rw [numberTail_follows hrest, if_neg Bool.false_ne_true, if_neg hnegative] at hnumber
  have hsigned : number ('-' :: (Nat.toDigits 10 n ++ rest)) = .ok (.negative (-n), rest) := hnumber
  rw [htext, List.cons_append, readInteger, run_bind (peek_cons rfl)]
  exact run_bind hsigned

/-- **An integer that fits a machine word is read back.** -/
theorem reads_integer {n : Int} (hmin : minWord ≤ n) (hmax : n ≤ maxWord) :
    Reads readInteger (integer n) n := by
  obtain ⟨k, rfl | rfl⟩ := n.eq_nat_or_neg
  · exact reads_natural hmax
  · rcases Nat.eq_zero_or_pos k with rfl | hpos
    · exact reads_natural hmax
    · exact reads_negative hpos hmin

end GroupQueue.Json
