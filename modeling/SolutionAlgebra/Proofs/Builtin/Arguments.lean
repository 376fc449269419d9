import SolutionAlgebra.Builtin.Apply

/-! # Literals as arguments

Operations on literals take from their arguments the literals themselves: one at a position where a
literal of the wanted kind stands, or all of them if all are strings.

* **`Arguments.ofLiterals`** — literals as arguments.
* **`Builtin.strings_ofLiterals`** — the strings that all arguments are. -/

namespace SolutionAlgebra

/-- Computations at the positions of a list, each of which gives what stands there. -/
theorem mapM_range_eq_ok {ε α : Type} {as : List α} {f : Nat → Except ε α}
    (h : ∀ i (hi : i < as.length), f i = .ok as[i]) : (List.range as.length).mapM f = .ok as := by
  induction as generalizing f with
  | nil => rfl
  | cons a as ih =>
    have hrest : (List.range as.length).mapM (f ∘ Nat.succ) = .ok as :=
      ih fun i hi => h (i + 1) (Nat.succ_lt_succ hi)
    rw [List.length_cons, List.range_succ_eq_map, List.mapM_cons, List.mapM_map, hrest,
      h 0 (Nat.succ_pos _)]
    rfl

namespace Arguments

/-- Literals as arguments. -/
def ofLiterals (ls : List Literal) : Arguments := ls.map fun l => some (.term (.literal l))

variable {function : String} {ls : List Literal} {args : Arguments} {l : Literal} {i : Nat}

/-- There are as many arguments as literals. -/
@[simp] theorem length_ofLiterals : (ofLiterals ls).length = ls.length := List.length_map _

/-- The literals stand in their places. -/
theorem getElem?_ofLiterals (h : ls[i]? = some l) :
    (ofLiterals ls)[i]? = some (some (.term (.literal l))) := by
  rw [ofLiterals, List.getElem?_map, h]
  rfl

/-- An argument that is a literal is taken for it. -/
theorem literal_eq_ok (h : args[i]? = some (some (.term (.literal l)))) :
    args.literal function i = .ok l := by
  rw [literal, term, h]
  rfl

/-- An argument that is a string is taken for it. -/
theorem string_eq_ok (h : args[i]? = some (some (.term (.literal l)))) (hl : l.isString = true) :
    args.string function i = .ok l := by
  rw [string, literal_eq_ok h]
  exact if_pos hl

/-- An argument that is a number is taken for its value and its type. -/
theorem number_eq_ok (h : args[i]? = some (some (.term (.literal l)))) {value : Float}
    {type : NumericType} (hl : l.number? = some (value, type)) :
    args.number function i = .ok (value, type) := by
  rw [number, literal_eq_ok h]
  dsimp only [bind, Except.bind]
  rw [hl]
  rfl

/-- What is computed from two strings that are looked at one after the other. -/
theorem bind_two_strings {α : Type} {s t : Literal} (hs : s.isString = true)
    (ht : t.isString = true) (f : Literal → Literal → Outcome α) :
    ((ofLiterals [s, t]).string function 0 >>= fun source =>
      (ofLiterals [s, t]).string function 1 >>= f source) = f s t := by
  have hfirst : (ofLiterals [s, t]).string function 0 = .ok s := string_eq_ok rfl hs
  have hsecond : (ofLiterals [s, t]).string function 1 = .ok t := string_eq_ok rfl ht
  rw [hfirst, hsecond]
  rfl

end Arguments

namespace Builtin

variable {ls : List Literal}

/-- The strings that all the arguments are. -/
theorem strings_ofLiterals (function : String) (h : ∀ l ∈ ls, l.isString = true) :
    strings function (.ofLiterals ls) = .ok ls := by
  rw [strings, Arguments.length_ofLiterals]
  refine mapM_range_eq_ok fun i hi => ?_
  exact Arguments.string_eq_ok (Arguments.getElem?_ofLiterals (List.getElem?_eq_getElem hi))
    (h _ (List.getElem_mem hi))

/-- `concat` joins strings. -/
theorem apply_concat (present : Calendar.Moment) (draw : Unit → Nat)
    (h : ∀ l ∈ ls, l.isString = true) :
    apply present draw .concat (.ofLiterals ls) = .ok (.literal (Literal.join ls)) := by
  show (strings concat.name (.ofLiterals ls) >>= fun parts =>
    pure (Term.literal (Literal.join parts))) = _
  rw [strings_ofLiterals _ h]
  rfl

end Builtin

end SolutionAlgebra
