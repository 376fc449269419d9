import Mathlib.Data.List.Chain
import SolutionAlgebra.Json.Token
import SolutionAlgebra.Proofs.Literal.Computed

/-! # Tokens read back

The texts of tokens in turn read back as the tokens, as long as no number or word is next to another
one: these end only where a character comes that cannot go on with them.

* **`Json.tokensFrom?_quote`** — a string reads back, whatever its characters.
* **`Json.Token.tokensFrom?_append`** — a token reads back before whatever ends it.
* **`Json.tokens?_flatMap_chars`** — tokens read back. -/

namespace SolutionAlgebra.Json

variable {read rest : List Char}

/-- A text after a character that makes tokens. -/
theorem tokensFrom?_of_step {place next : Place} {c : Char} {tokens : List Token}
    (h : step? place c = some (tokens, next)) :
    tokensFrom? place (c :: rest) = (tokensFrom? next rest).map (tokens ++ ·) := by
  rw [tokensFrom?, h]
  cases htokens : tokensFrom? next rest <;> simp [htokens]

/-- A text after a character that makes no token. -/
theorem tokensFrom?_of_silent {place next : Place} {c : Char}
    (h : step? place c = some ([], next)) :
    tokensFrom? place (c :: rest) = tokensFrom? next rest := by
  rw [tokensFrom?_of_step h]
  cases tokensFrom? next rest <;> rfl

/-! ## Strings -/

/-- A character stands in a string as a simple escape, as its number, or as itself. -/
theorem escapeChar_cases (c : Char) :
    (∃ d, escapeChar c = ['\\', d] ∧ d ≠ 'u' ∧ unescape? d = some c) ∨
      (c.toNat < 0x20 ∧ escapeChar c =
        ['\\', 'u', '0', '0', Octets.hexDigit (c.toNat / 16), Octets.hexDigit (c.toNat % 16)]) ∨
      (escapeChar c = [c] ∧ c ≠ '"' ∧ c ≠ '\\' ∧ ¬c.toNat < 0x20) := by
  unfold escapeChar
  split_ifs with hquote hslash h h h h h hcontrol
  · exact .inl ⟨'"', rfl, by decide, by rw [beq_iff_eq.1 hquote]; rfl⟩
  · exact .inl ⟨'\\', rfl, by decide, by rw [beq_iff_eq.1 hslash]; rfl⟩
  · exact .inl ⟨'n', rfl, by decide, by rw [beq_iff_eq.1 h]; rfl⟩
  · exact .inl ⟨'r', rfl, by decide, by rw [beq_iff_eq.1 h]; rfl⟩
  · exact .inl ⟨'t', rfl, by decide, by rw [beq_iff_eq.1 h]; rfl⟩
  · exact .inl ⟨'b', rfl, by decide, by rw [beq_iff_eq.1 h]; rfl⟩
  · exact .inl ⟨'f', rfl, by decide, by rw [beq_iff_eq.1 h]; rfl⟩
  · exact .inr (.inl ⟨hcontrol, rfl⟩)
  · exact .inr (.inr ⟨rfl, by simpa using hquote, by simpa using hslash, hcontrol⟩)

/-- A digit of an escape, but the last. -/
theorem step?_digit {first : Option Nat} {value left digit : Nat} {c : Char}
    (hc : Text.hexValue? c = some digit) (hleft : 1 < left) :
    step? (.digits read first value left) c =
      some ([], .digits read first (16 * value + digit) (left - 1)) := by
  simp [step?, hc, Nat.not_le.2 hleft]

/-- The last digit of an escape. -/
theorem step?_lastDigit {first : Option Nat} {value digit : Nat} {c : Char} {next : Place}
    (hc : Text.hexValue? c = some digit)
    (hnext : afterDigits? read first (16 * value + digit) = some next) :
    step? (.digits read first value 1) c = some ([], next) := by
  simp [step?, hc, hnext]

/-- The number of a control character is read as the character. -/
theorem tokensFrom?_unicode {c : Char} (h : c.toNat < 0x20) :
    tokensFrom? (.string read) (['\\', 'u', '0', '0', Octets.hexDigit (c.toNat / 16),
      Octets.hexDigit (c.toNat % 16)] ++ rest) = tokensFrom? (.string (c :: read)) rest := by
  have hhigh : Text.hexValue? (Octets.hexDigit (c.toNat / 16)) = some (c.toNat / 16) :=
    (Octets.hexValue?_hexDigit ⟨c.toNat / 16, by omega⟩).1
  have hlow : Text.hexValue? (Octets.hexDigit (c.toNat % 16)) = some (c.toNat % 16) :=
    (Octets.hexValue?_hexDigit ⟨c.toNat % 16, by omega⟩).1
  have hafter : afterDigits? read none (16 * (c.toNat / 16) + c.toNat % 16) =
      some (.string (c :: read)) := by
    rw [Nat.div_add_mod]
    have hfirst : ¬0xD800 ≤ c.toNat := by omega
    have hsecond : ¬0xDC00 ≤ c.toNat := by omega
    simp [afterDigits?, hfirst, hsecond, Char.ofNat_toNat]
  have hzero : Text.hexValue? '0' = some 0 := rfl
  have hthird : step? (.digits read none 0 2) (Octets.hexDigit (c.toNat / 16)) =
      some ([], .digits read none (c.toNat / 16) 1) := by
    have hstep : step? (.digits read none 0 2) _ = _ := step?_digit hhigh (by decide)
    simpa using hstep
  -- the two zeros change nothing, and the two other digits make up the character
  calc
    _ = tokensFrom? (.digits read none 0 4) _ :=
        (tokensFrom?_of_silent rfl).trans (tokensFrom?_of_silent rfl)
    _ = tokensFrom? (.digits read none 0 2) _ :=
        (tokensFrom?_of_silent (step?_digit hzero (by decide))).trans
          (tokensFrom?_of_silent (step?_digit hzero (by decide)))
    _ = tokensFrom? (.digits read none (c.toNat / 16) 1) _ := tokensFrom?_of_silent hthird
    _ = _ := tokensFrom?_of_silent (step?_lastDigit hlow hafter)

/-- A character reads back as it stands in a string. -/
theorem tokensFrom?_escapeChar (c : Char) :
    tokensFrom? (.string read) (escapeChar c ++ rest) = tokensFrom? (.string (c :: read)) rest := by
  obtain ⟨d, hescape, hd, hchar⟩ | ⟨hcontrol, hescape⟩ | ⟨hescape, hquote, hslash, hcontrol⟩ :=
    escapeChar_cases c
  · have hstep : step? (.escape read) d = some ([], .string (c :: read)) := by
      simp [step?, hd, hchar]
    rw [hescape]
    exact (tokensFrom?_of_silent rfl).trans (tokensFrom?_of_silent hstep)
  · rw [hescape, tokensFrom?_unicode hcontrol]
  · rw [hescape]
    exact tokensFrom?_of_silent (by simp [step?, hquote, hslash, hcontrol])

/-- The characters of a string read back. -/
theorem tokensFrom?_flatMap_escapeChar (cs : List Char) (read : List Char) :
    tokensFrom? (.string read) (cs.flatMap escapeChar ++ rest) =
      tokensFrom? (.string (cs.reverse ++ read)) rest := by
  induction cs generalizing read with
  | nil => rfl
  | cons c cs ih =>
      rw [List.flatMap_cons, List.append_assoc, tokensFrom?_escapeChar, ih, List.reverse_cons,
        List.append_assoc, List.singleton_append]

/-- **A string reads back**, whatever its characters. -/
theorem tokensFrom?_quote (text : String) :
    tokensFrom? .between (quote text ++ rest) =
      (tokensFrom? .between rest).map (.string text :: ·) := by
  have hclose : step? (.string text.toList.reverse) '"' = some ([.string text], .between) := by
    simp [step?]
  rw [quote, List.cons_append, List.cons_append, List.append_assoc, tokensFrom?_of_silent rfl,
    tokensFrom?_flatMap_escapeChar, List.append_nil]
  exact tokensFrom?_of_step hclose

/-! ## Numbers and words -/

/-- What goes on as long as characters of its kind come. -/
inductive Run where
  /-- A number. -/
  | number
  /-- A word. -/
  | word

namespace Run

/-- The place in a run, after the characters given last to first. -/
def place : Run → List Char → Place
  | number => .number
  | word => .word

/-- Whether a run goes on with a character. -/
def goesOn : Run → Char → Bool
  | number => isNumberChar
  | word => Char.isAlpha

/-- The token of a run. -/
def token? : Run → List Char → Option Token
  | number => numberToken?
  | word => wordToken?

/-- A run that ends makes its token, and the character that ends it is read as between tokens. -/
theorem step?_place_ends {run : Run} {c : Char} (hc : run.goesOn c = false) :
    step? (run.place read) c = (run.token? read.reverse).bind fun token =>
      (step? .between c).map fun (tokens, next) => (token :: tokens, next) := by
  cases run with
  | number =>
      have hc : isNumberChar c = false := hc
      cases hbegin : begin? c <;> simp [place, step?, token?, hc, hbegin]
  | word =>
      have hc : c.isAlpha = false := hc
      cases hbegin : begin? c <;> simp [place, step?, token?, hc, hbegin]

/-- The characters of a run are read one by one. -/
theorem tokensFrom?_place_append {run : Run} {cs : List Char} (hcs : ∀ c ∈ cs, run.goesOn c = true)
    (read rest : List Char) :
    tokensFrom? (run.place read) (cs ++ rest) =
      tokensFrom? (run.place (cs.reverse ++ read)) rest := by
  induction cs generalizing read with
  | nil => rfl
  | cons c cs ih =>
      have hstep : step? (run.place read) c = some ([], run.place (c :: read)) := by
        have hc := hcs c List.mem_cons_self
        cases run <;> exact if_pos hc
      rw [List.cons_append, tokensFrom?_of_silent hstep,
        ih (fun c hc => hcs c (List.mem_cons_of_mem _ hc)), List.reverse_cons, List.append_assoc,
        List.singleton_append]

/-- A run ends before what does not go on with it. -/
theorem tokensFrom?_place_ends {run : Run} (hrest : ∀ c ∈ rest.head?, run.goesOn c = false) :
    tokensFrom? (run.place read) rest =
      (run.token? read.reverse).bind fun token =>
        (tokensFrom? .between rest).map (token :: ·) := by
  cases rest with
  | nil =>
      have hfinish : finish? (run.place read) = (run.token? read.reverse).map ([·]) := by
        cases run <;> rfl
      rw [tokensFrom?, hfinish]
      cases run.token? read.reverse <;> rfl
  | cons c cs =>
      rw [tokensFrom?, step?_place_ends (hrest c rfl), tokensFrom?]
      cases run.token? read.reverse with
      | none => rfl
      | some token =>
          cases step? .between c with
          | none => rfl
          | some step => cases h : tokensFrom? step.2 cs <;> simp [h]

/-- **A run reads back** before what does not go on with it. -/
theorem tokensFrom?_append {run : Run} {c : Char} {cs : List Char} {token : Token}
    (hbegin : begin? c = some (none, run.place [c])) (hcs : cs.all run.goesOn = true)
    (htoken : run.token? (c :: cs) = some token)
    (hrest : ∀ d ∈ rest.head?, run.goesOn d = false) :
    tokensFrom? .between (c :: cs ++ rest) = (tokensFrom? .between rest).map (token :: ·) := by
  have hstep : step? .between c = some ([], run.place [c]) := by rw [step?, hbegin]; rfl
  have hread : (cs.reverse ++ [c]).reverse = c :: cs := by simp
  rw [List.cons_append, tokensFrom?_of_silent hstep,
    tokensFrom?_place_append (List.all_eq_true.1 hcs),
    tokensFrom?_place_ends hrest, hread, htoken]
  rfl

end Run

/-- A character of a number begins a number. -/
theorem begin?_of_isNumberChar {c : Char} (hc : isNumberChar c = true) :
    begin? c = some (none, .number [c]) := by
  -- the characters that come before in the case split are none of a number
  have hne : ∀ d, isNumberChar d = false → (c == d) = false := by
    intro d hd
    refine beq_eq_false_iff_ne.2 ?_
    rintro rfl
    exact absurd (hc.symm.trans hd) (by decide)
  unfold begin? isBlank
  simp only [hne _ (rfl : isNumberChar ' ' = false), hne _ (rfl : isNumberChar '\n' = false),
    hne _ (rfl : isNumberChar '\t' = false), hne _ (rfl : isNumberChar '\r' = false),
    hne _ (rfl : isNumberChar '[' = false), hne _ (rfl : isNumberChar ']' = false),
    hne _ (rfl : isNumberChar '\x7b' = false), hne _ (rfl : isNumberChar '\x7d' = false),
    hne _ (rfl : isNumberChar ':' = false), hne _ (rfl : isNumberChar ',' = false),
    hne _ (rfl : isNumberChar '"' = false), hc, Bool.or_self, if_true]
  rfl

/-! ## Tokens -/

namespace Token

/-- Whether a token is a number or a word, which end only before what does not go on with them. -/
def isRun : Token → Bool
  | number _ => true
  | word _ => true
  | _ => false

/-- That a token is one that reading may give: its number has the form of one, and its word is one
of the three words. -/
def WellFormed : Token → Prop
  | number text =>
    (∀ c ∈ text.toList, isNumberChar c = true) ∧ numberToken? text.toList = some (.number text)
  | word text => text = "true" ∨ text = "false" ∨ text = "null"
  | _ => True

/-- That a text goes on with no number and no word. -/
def Ends (rest : List Char) : Prop :=
  ∀ c ∈ rest.head?, isNumberChar c = false ∧ c.isAlpha = false

/-- The text of a token that is no number or word goes on with no number or word. -/
theorem ends_chars_append {t : Token} (ht : t.isRun = false) (rest : List Char) :
    Ends (t.chars ++ rest) := by
  intro c hc
  cases t <;> simp [chars, quote, isRun] at hc ht <;> subst hc <;> decide

/-- A mark that is a token alone reads back. -/
theorem tokensFrom?_mark {c : Char} {t : Token} (h : step? .between c = some ([t], .between)) :
    tokensFrom? .between ([c] ++ rest) = (tokensFrom? .between rest).map (t :: ·) :=
  tokensFrom?_of_step h

/-- **A token reads back** before whatever ends it. -/
theorem tokensFrom?_append {t : Token} (ht : t.WellFormed) (hrest : t.isRun = true → Ends rest) :
    tokensFrom? .between (t.chars ++ rest) = (tokensFrom? .between rest).map (t :: ·) := by
  cases t with
  | string text => exact tokensFrom?_quote text
  | number text =>
      obtain ⟨hchars, htoken⟩ := ht
      rw [chars]
      cases hcs : text.toList with
      | nil => rw [hcs] at htoken; cases htoken
      | cons c cs =>
          rw [hcs] at hchars htoken
          have hbegin : begin? c = some (none, Run.number.place [c]) :=
            begin?_of_isNumberChar (hchars c List.mem_cons_self)
          exact Run.tokensFrom?_append hbegin
            (List.all_eq_true.2 fun d hd => hchars d (List.mem_cons_of_mem c hd)) htoken
            (fun d hd => (hrest rfl d hd).1)
  | word text =>
      have hends : ∀ d ∈ rest.head?, Run.word.goesOn d = false := fun d hd => (hrest rfl d hd).2
      obtain rfl | rfl | rfl := ht
      · exact Run.tokensFrom?_append rfl rfl rfl hends
      · exact Run.tokensFrom?_append rfl rfl rfl hends
      · exact Run.tokensFrom?_append rfl rfl rfl hends
  | openArray => exact tokensFrom?_mark (c := '[') rfl
  | closeArray => exact tokensFrom?_mark (c := ']') rfl
  | openObject => exact tokensFrom?_mark (c := '\x7b') rfl
  | closeObject => exact tokensFrom?_mark (c := '\x7d') rfl
  | colon => exact tokensFrom?_mark (c := ':') rfl
  | comma => exact tokensFrom?_mark (c := ',') rfl

/-- That of two tokens next to each other at most one is a number or word. -/
def Apart (t u : Token) : Prop := t.isRun = true → u.isRun = false

end Token

/-- **Tokens read back**, if no number or word is next to another one. -/
theorem tokens?_flatMap_chars {ts : List Token} (hts : ∀ t ∈ ts, t.WellFormed)
    (hapart : ts.IsChain Token.Apart) : tokens? (ts.flatMap Token.chars) = some ts := by
  rw [tokens?]
  induction ts with
  | nil => rfl
  | cons t ts ih =>
      obtain ⟨hnext, hrest⟩ := List.isChain_cons.1 hapart
      have hends : t.isRun = true → Token.Ends (ts.flatMap Token.chars) := by
        intro ht
        cases ts with
        | nil => intro c hc; cases hc
        | cons u us => exact Token.ends_chars_append (hnext u rfl ht) _
      rw [List.flatMap_cons, Token.tokensFrom?_append (hts t List.mem_cons_self) hends,
        ih (fun u hu => hts u (List.mem_cons_of_mem t hu)) hrest]
      rfl

end SolutionAlgebra.Json
