/-!
# `GroupQueue.Text.Blank` — blank characters and trimming

A character is blank when it has the property `White_Space`: the ASCII spaces and line ends, the
next-line control, and the spaces and separators beyond ASCII. A zero-width space is not blank.

## Contents
- `isBlank` — the property, as ranges of code points.
- `trimStart`, `trim` — drop the blanks at the front, or at both ends.
-/

namespace GroupQueue.Text

/-- Whether `c` is white space. -/
def isBlank (c : Char) : Bool :=
  let n := c.toNat
  (9 ≤ n && n ≤ 13) || n == 0x20 || n == 0x85 || n == 0xa0 || n == 0x1680 ||
    (0x2000 ≤ n && n ≤ 0x200a) || n == 0x2028 || n == 0x2029 || n == 0x202f || n == 0x205f ||
    n == 0x3000

/-- The characters from the first one that is not blank. -/
def trimStart (cs : List Char) : List Char :=
  cs.dropWhile isBlank

/-- `s` without the blanks at its two ends. -/
def trim (s : String) : String :=
  String.ofList (trimStart (trimStart s.toList).reverse).reverse

theorem trimStart_eq_nil_iff {cs : List Char} : trimStart cs = [] ↔ ∀ c ∈ cs, isBlank c = true := by
  induction cs with
  | nil => simp [trimStart]
  | cons c cs ih =>
    by_cases h : isBlank c = true
    · rw [trimStart, List.dropWhile_cons_of_pos h, ← trimStart, ih]
      simp [h]
    · simp [trimStart, h]

/-- Trimming leaves nothing exactly when every character is blank. -/
theorem trim_eq_empty_iff {s : String} : trim s = "" ↔ ∀ c ∈ s.toList, isBlank c = true := by
  rw [← String.toList_inj]
  simp only [trim, String.toList_ofList, String.toList_empty, List.reverse_eq_nil_iff,
    trimStart_eq_nil_iff, List.mem_reverse]
  constructor
  · intro h
    by_cases hs : trimStart s.toList = []
    · exact trimStart_eq_nil_iff.1 hs
    · have hc : isBlank ((trimStart s.toList).head hs) = false := by
        simpa [trimStart] using List.head_dropWhile_not isBlank hs
      rw [h _ (List.head_mem hs)] at hc
      contradiction
  · intro h c hc
    exact h c ((List.dropWhile_sublist isBlank).subset hc)

end GroupQueue.Text
