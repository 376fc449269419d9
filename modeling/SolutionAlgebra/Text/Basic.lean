/-! # Parts of texts

Where a text occurs in another, and a text without the blanks at its ends. -/

namespace SolutionAlgebra.Text

/-! ## Texts within texts

The first place where a text occurs in another, as the part before it and the part after it. -/

/-- What is left of a text after another that it starts with. -/
def dropStart? : List Char → List Char → Option (List Char)
  | [], cs => some cs
  | _ :: _, [] => none
  | c :: start, d :: cs => if c == d then dropStart? start cs else none

/-- The empty text is at every start. -/
@[simp] theorem dropStart?_nil (cs : List Char) : dropStart? [] cs = some cs := by
  cases cs <;> rfl

/-- A text starts with another exactly if it is the other followed by the rest. -/
theorem dropStart?_eq_some_iff {start cs rest : List Char} :
    dropStart? start cs = some rest ↔ cs = start ++ rest := by
  induction start generalizing cs with
  | nil => simp
  | cons c start ih =>
    cases cs with
    | nil => simp [dropStart?]
    | cons d cs =>
      by_cases h : c = d
      · simp [dropStart?, h, ih]
      · have h' : ¬ d = c := fun e => h e.symm
        simp [dropStart?, h, h']

/-- The parts of a text before and after the first occurrence of another. -/
def splitAt? (token : List Char) : List Char → Option (List Char × List Char)
  | [] => (dropStart? token []).map fun rest => ([], rest)
  | c :: cs =>
    match dropStart? token (c :: cs) with
    | some rest => some ([], rest)
    | none => (splitAt? token cs).map fun (before, after) => (c :: before, after)

/-- Whether a text starts with another. -/
def startsWith (start cs : List Char) : Bool := (dropStart? start cs).isSome

/-- Whether a text ends with another. -/
def endsWith (ending cs : List Char) : Bool := startsWith ending.reverse cs.reverse

/-- Whether a text occurs in another. -/
def occursIn (token cs : List Char) : Bool := (splitAt? token cs).isSome

/-! ## Blank characters

The characters of the Unicode property `White_Space`, and the removal of such characters from the
two ends of a text. A byte order mark is not blank. -/

/-- The Unicode property `White_Space`. -/
def isBlank (c : Char) : Bool :=
  let n := c.toNat
  (9 ≤ n && n ≤ 13) || n == 0x20 || n == 0x85 || n == 0xA0 || n == 0x1680 ||
    (0x2000 ≤ n && n ≤ 0x200A) || n == 0x2028 || n == 0x2029 || n == 0x202F || n == 0x205F ||
    n == 0x3000

/-- A text without the blanks at its start. -/
def trimStart (cs : List Char) : List Char := cs.dropWhile isBlank

/-- A text without the blanks at its end. -/
def trimEnd (cs : List Char) : List Char := (cs.reverse.dropWhile isBlank).reverse

/-- A text without the blanks at its two ends. -/
def trim (cs : List Char) : List Char := trimEnd (trimStart cs)

/-- There is nothing to trim in the empty text. -/
@[simp] theorem trim_nil : trim [] = [] := rfl

variable {c : Char} {cs : List Char}

/-- A text whose first character is not blank starts where it starts. -/
@[simp] theorem trimStart_cons_of_not_blank (h : isBlank c = false) :
    trimStart (c :: cs) = c :: cs := by
  simp [trimStart, h]

/-- The blanks at the start of a text are none exactly if it does not start with one. -/
theorem trimStart_eq_self_iff : trimStart cs = cs ↔ ∀ c ∈ cs.head?, isBlank c = false := by
  cases cs with
  | nil => simp [trimStart]
  | cons c cs =>
    cases hc : isBlank c with
    | false => simp [hc]
    | true =>
      have hshorter := (List.dropWhile_sublist isBlank (l := cs)).length_le
      have hne : trimStart (c :: cs) ≠ c :: cs := by
        intro h
        have hlength := congrArg List.length h
        simp only [trimStart, List.dropWhile_cons, hc, if_true, List.length_cons] at hlength
        omega
      simp [hne, hc]

/-- The blanks at the end of a text are none exactly if it does not end with one. -/
theorem trimEnd_eq_self_iff : trimEnd cs = cs ↔ ∀ c ∈ cs.getLast?, isBlank c = false := by
  rw [← List.head?_reverse, ← trimStart_eq_self_iff, trimEnd, trimStart, List.reverse_eq_iff]

/-- What stands before a character that is not blank is not at the end. -/
theorem trimEnd_append_cons (h : isBlank c = false) (ds : List Char) :
    trimEnd (cs ++ c :: ds) = cs ++ c :: trimEnd ds := by
  have hkeep : (c :: cs.reverse).dropWhile isBlank = c :: cs.reverse :=
    trimStart_cons_of_not_blank h
  rw [trimEnd, List.reverse_append, List.reverse_cons, List.append_assoc, List.singleton_append,
    List.dropWhile_append, hkeep, trimEnd]
  split
  · next hempty => simp [List.isEmpty_iff.1 hempty]
  · simp

/-- A text whose ends are not blank stays as it is. -/
theorem trim_of_ends (hfirst : ∀ c ∈ cs.head?, isBlank c = false)
    (hlast : ∀ c ∈ cs.getLast?, isBlank c = false) : trim cs = cs := by
  rw [trim, trimStart_eq_self_iff.2 hfirst, trimEnd_eq_self_iff.2 hlast]

/-- A text between two characters that are not blank stays as it is. -/
theorem trim_of_not_blank {d : Char} (hc : isBlank c = false) (hd : isBlank d = false) :
    trim (c :: (cs ++ [d])) = c :: (cs ++ [d]) :=
  trim_of_ends (by simpa using hc) (by simpa [List.getLast?_cons] using hd)

/-- A text without a blank stays as it is. -/
theorem trim_of_no_blank (h : ∀ c ∈ cs, isBlank c = false) : trim cs = cs :=
  trim_of_ends (fun c hc => h c (List.mem_of_head? hc)) fun c hc => h c (List.mem_of_getLast? hc)

end SolutionAlgebra.Text
