import SolutionAlgebra.Pattern.Search
import SolutionAlgebra.Text.Basic

/-! # Straight expressions

An expression without alternatives and repetitions is matched by moves that are made one after the
other: a character is consumed or a place is marked. Its compiled form has one path of states for
these moves, and a search that follows all ways at once follows one way only.

* **`Node.Straight`**, **`walk`** — the moves of an expression, and what they come to on a text.
* **`Program.leads_emit`** — an expression is compiled to a path for its moves.
* **`run_path`** — following a path makes its moves.
* **`Machine.matchAt_ofNode`** — an expression is matched where its moves can be made. -/

namespace SolutionAlgebra.Pattern

/-- What a way does in one state. -/
inductive Move where
  /-- Consumes a character of a set. -/
  | consume (points : Text.CodePoints)
  /-- Marks the place in a slot. -/
  | mark (slot : Nat)

/-- The state that makes a move and goes on with a state. -/
def Move.state : Move → Nat → State
  | consume points, next => .consume points next
  | mark slot, next => .mark slot next

/-- That an expression is matched by some moves, and in no other way. -/
inductive Node.Straight : Node → List Move → Prop where
  /-- Nothing is to be done. -/
  | empty : Straight .empty []
  /-- A character is to be consumed. -/
  | oneOf (points : Text.CodePoints) : Straight (.oneOf points) [.consume points]
  /-- The moves of two expressions are to be made, one after the other. -/
  | seq {first second : Node} {moves more : List Move} (hfirst : Straight first moves)
    (hsecond : Straight second more) : Straight (.seq first second) (moves ++ more)
  /-- The places before and after an expression are to be marked. -/
  | group (index : Nat) {body : Node} {moves : List Move} (hbody : Straight body moves) :
    Straight (.group index body) ([.mark (2 * index)] ++ (moves ++ [.mark (2 * index + 1)]))

/-- The marks after some moves have been made from a place on, if they can be made. -/
def walk : List Move → Nat → Marks → List Char → Option Marks
  | [], _, marks, _ => some marks
  | .mark slot :: moves, index, marks, cs => walk moves index (marks.set slot index) cs
  | .consume _ :: _, _, _, [] => none
  | .consume points :: moves, index, marks, c :: cs =>
    if points.contains c.toNat then walk moves (index + 1) marks cs else none

variable {program : Program} {node : Node} {move : Move} {moves more : List Move}
  {state next stop index bound : Nat} {marks : Marks}
  {cs : List Char}

/-! ## Paths -/

namespace Program

/-- That some moves lead from one state to another, where the states descend. -/
inductive Path (program : Program) : Nat → List Move → Nat → Prop where
  /-- No move is made. -/
  | nil (state : Nat) : Path program state [] state
  /-- A move is made, and others after it. -/
  | cons {state next stop : Nat} {move : Move} {moves : List Move}
    (hstate : program[state]? = some (move.state next)) (hlt : next < state)
    (hpath : Path program next moves stop) : Path program state (move :: moves) stop

/-- A path may go on where another stops. -/
theorem Path.append (h : Path program state moves next) (h' : Path program next more stop) :
    Path program state (moves ++ more) stop := by
  induction h with
  | nil => exact h'
  | cons hstate hlt _ ih => exact .cons hstate hlt (ih h')

/-- A path stays when states are added. -/
theorem Path.mono {program' : Program} (hstart : program.toList <+: program'.toList)
    (h : Path program state moves stop) : Path program' state moves stop := by
  induction h with
  | nil => exact .nil _
  | cons hstate hlt _ ih =>
    obtain ⟨added, hadded⟩ := hstart
    refine .cons ?_ hlt ih
    rw [← Array.getElem?_toList] at hstate ⊢
    rw [← hadded, List.getElem?_append_left (List.getElem?_eq_some_iff.1 hstate).1, hstate]

/-- A path to a state of the program starts at one. -/
theorem Path.lt_size (h : Path program state moves stop) (hstop : stop < program.size) :
    state < program.size := by
  cases h with
  | nil => exact hstop
  | cons hstate _ _ => exact (Array.getElem?_eq_some_iff.1 hstate).1

/-! ## Compilation -/

/-- That a step of compilation, after which a state goes on, adds a path for some moves. -/
structure Leads (moves : List Move) (next : Nat) (program : Program) (result : Nat × Program) :
    Prop where
  /-- States are added. -/
  added : program.toList <+: result.2.toList
  /-- The state to start from is there. -/
  entry_lt : result.1 < result.2.size
  /-- The moves lead from it to the state that goes on. -/
  path : Path result.2 result.1 moves next

/-- No moves lead from a state to itself, and nothing is added. -/
theorem Leads.nil (hnext : next < program.size) : Leads [] next program (next, program) :=
  ⟨List.prefix_rfl, hnext, .nil next⟩

/-- A state that is added leads on by its move. -/
theorem Leads.add (move : Move) (hnext : next < program.size) :
    Leads [move] next program (program.add (move.state next)) := by
  refine ⟨?_, ?_, .cons ?_ hnext (.nil next)⟩
  · rw [Program.add, Array.toList_push]
    exact List.prefix_append _ _
  · rw [Program.add, Array.size_push]
    exact Nat.lt_succ_self _
  · rw [Program.add]
    exact Array.getElem?_push_size

/-- Steps of compilation are taken last move first. -/
theorem Leads.trans {result result' : Nat × Program} (h : Leads more next program result)
    (h' : Leads moves result.1 result.2 result') : Leads (moves ++ more) next program result' :=
  ⟨h.added.trans h'.added, h'.entry_lt, h'.path.append (h.path.mono h'.added)⟩

/-- **A straight expression is compiled to a path for its moves.** -/
theorem leads_emit (h : node.Straight moves) (hnext : next < program.size) :
    Leads moves next program (emit node next program) := by
  induction h generalizing next program with
  | empty => exact .nil hnext
  | oneOf points => exact .add (.consume points) hnext
  | seq _ _ ihfirst ihsecond =>
    have hsecond := ihsecond hnext
    exact hsecond.trans (ihfirst hsecond.entry_lt)
  | group index _ ih =>
    -- the state that marks the place after the expression is added first
    have hclose := Leads.add (.mark (2 * index + 1)) hnext
    have hbody := hclose.trans (ih hclose.entry_lt)
    exact hbody.trans (.add (.mark (2 * index)) hbody.entry_lt)

end Program

/-! ## Searching -/

/-- That a way goes on as some moves do from a place with some marks, up to the first character. -/
inductive Way.Makes (program : Program) (index : Nat) : List Move → Marks → Way → Prop where
  /-- There is no move. -/
  | matched (marks : Marks) : Makes program index [] marks (.matched marks)
  /-- A character is to be consumed first, and the other moves lead to the end. -/
  | waiting {next : Nat} {moves : List Move} (points : Text.CodePoints) (marks : Marks)
    (hpath : program.Path next moves 0) :
    Makes program index (.consume points :: moves) marks (.waiting points next marks)
  /-- The place is marked first. -/
  | mark {slot : Nat} {moves : List Move} {marks : Marks} {way : Way}
    (hway : Makes program index moves (marks.set slot index) way) :
    Makes program index (.mark slot :: moves) marks way

/-- A way that has matched has made its moves. -/
theorem Way.Makes.walk_of_matched {marks' : Marks}
    (h : Way.Makes program index moves marks (.matched marks')) (cs : List Char) :
    walk moves index marks cs = some marks' := by
  generalize hway : Way.matched marks' = way at h
  induction h with
  | matched =>
    cases hway
    rfl
  | waiting => cases hway
  | mark _ ih => exact ih hway

/-- A way that waits for a character has moves left. -/
theorem Way.Makes.exists_of_waiting {points : Text.CodePoints} {marks' : Marks}
    (h : Way.Makes program index moves marks (.waiting points next marks')) :
    ∃ rest, program.Path next rest 0 ∧ walk moves index marks [] = none ∧
      ∀ c cs, walk moves index marks (c :: cs) =
        if points.contains c.toNat then walk rest (index + 1) marks' cs else none := by
  generalize hway : Way.waiting points next marks' = way at h
  induction h with
  | matched => cases hway
  | waiting points marks hpath =>
    cases hway
    exact ⟨_, hpath, rfl, fun _ _ => rfl⟩
  | mark _ ih => exact ih hway

/-- **Following a path finds one way**, if none of its states was visited. The states descend, so
that those ahead stay unvisited. -/
theorem exists_follow_path (place : Place) (marks : Marks) (ways : Ways)
    (haccept : program[0]? = some .accept) (hpath : program.Path state moves 0)
    (hbound : state < bound)
    (hfresh : ∀ i ≤ state, ways.visited[i]? = some false) :
    ∃ way, (follow program place bound state marks ways).found = way :: ways.found ∧
      Way.Makes program place.index moves marks way := by
  induction bound generalizing state moves marks ways with
  | zero => cases hbound
  | succ bound ih =>
    have hvisited : ways.visited.getD state true = false := by
      rw [Array.getD_eq_getD_getElem?, hfresh state (Nat.le_refl state)]
      rfl
    have hahead : ∀ next < state, ∀ i ≤ next,
        (ways.visited.setIfInBounds state true)[i]? = some false := by
      intro next hlt i hi
      rw [Array.getElem?_setIfInBounds_ne (by omega)]
      exact hfresh i (by omega)
    rw [follow, if_neg (by simp [hvisited])]
    cases hpath with
    | nil =>
      -- the path ends in the state 0, which accepts
      rw [haccept]
      exact ⟨_, rfl, .matched marks⟩
    | cons hstate hlt hpath =>
      rename_i next move moves
      rw [hstate]
      cases move with
      | consume points => exact ⟨_, rfl, .waiting points marks hpath⟩
      | mark slot =>
        obtain ⟨way, hfound, hway⟩ := ih (marks.set slot place.index)
          { ways with visited := ways.visited.setIfInBounds state true } hpath (by omega)
          (hahead next hlt)
        exact ⟨way, hfound, .mark hway⟩

/-- Where a path leads to the accepting state, following it ends on one way, which makes its moves.
-/
theorem exists_followAll_path (place : Place) (marks : Marks)
    (haccept : program[0]? = some .accept) (hpath : program.Path state moves 0) :
    ∃ way, followAll program place [(state, marks)] = [way] ∧
      Way.Makes program place.index moves marks way := by
  have hlt : state < program.size :=
    hpath.lt_size (Array.getElem?_eq_some_iff.1 haccept).1
  have hfresh : ∀ i ≤ state, (Array.replicate program.size false)[i]? = some false := by
    intro i hi
    rw [Array.getElem?_replicate, if_pos (by omega)]
  have hbound : state < program.size + 1 := Nat.lt_succ_of_lt hlt
  obtain ⟨way, hfound, hway⟩ := exists_follow_path place marks
    ⟨Array.replicate program.size false, []⟩ haccept hpath hbound hfresh
  refine ⟨way, ?_, hway⟩
  rw [followAll, List.foldl_cons, List.foldl_nil, hfound]
  rfl

/-- **Following a path makes its moves.** -/
theorem run_path (haccept : program[0]? = some .accept) (hpath : program.Path state moves 0)
    (before : Option Char) (index : Nat) (marks : Marks) (best : Option Marks) (cs : List Char) :
    run program before index [(state, marks)] best cs = (walk moves index marks cs).or best := by
  induction cs generalizing state moves before index marks with
  | nil =>
    obtain ⟨way, hfound, hway⟩ := exists_followAll_path ⟨before, none, index⟩ marks
      haccept hpath
    rw [run, hfound]
    cases way with
    | matched marks' => rw [hway.walk_of_matched]; rfl
    | waiting points next marks' =>
      obtain ⟨rest, -, hnone, -⟩ := hway.exists_of_waiting
      rw [hnone]
      rfl
  | cons c cs ih =>
    obtain ⟨way, hfound, hway⟩ := exists_followAll_path ⟨before, some c, index⟩ marks
      haccept hpath
    rw [run, hfound]
    cases way with
    | matched marks' => rw [hway.walk_of_matched]; rfl
    | waiting points next marks' =>
      obtain ⟨rest, hrest, -, hstep⟩ := hway.exists_of_waiting
      rw [hstep]
      -- the one way goes on from its next state, or there is none left
      by_cases hc : points.contains c.toNat = true
      · rw [if_pos hc, ← ih hrest (some c)]
        simp [untilMatched, advance, hc]
      · rw [if_neg hc]
        simp [untilMatched, advance, hc]

/-- **A straight expression is matched where its moves can be made.** -/
theorem Machine.matchAt_ofNode (h : node.Straight moves) (names : List (String × Nat))
    (before : Option Char) (index : Nat) (cs : List Char) :
    (Machine.ofNode node names).matchAt before index cs =
      walk ([.mark 0] ++ (moves ++ [.mark 1])) index [] cs := by
  have hsize : 0 < Array.size (#[.accept] : Program) := Nat.zero_lt_one
  have hleads := Program.leads_emit (h.group 0) hsize
  have haccept : (Program.emit (.group 0 node) 0 #[.accept]).2[0]? = some .accept := by
    obtain ⟨added, hadded⟩ := hleads.added
    rw [← Array.getElem?_toList, ← hadded]
    rfl
  show run (Program.emit (.group 0 node) 0 #[.accept]).2 before index
    [((Program.emit (.group 0 node) 0 #[.accept]).1, [])] none cs = _
  rw [run_path haccept hleads.path, Option.or_none]

/-! ## Texts -/

/-- The expression that stands for a text. -/
def Node.ofText (cs : List Char) : Node := sequence (cs.map fun c => .oneOf (.single c.toNat))

/-- The moves that consume a text. -/
def textMoves (cs : List Char) : List Move := cs.map fun c => .consume (.single c.toNat)

/-- The expression of a text has only one way through, by the moves of the text. -/
theorem Node.straight_ofText (cs : List Char) : (Node.ofText cs).Straight (textMoves cs) := by
  induction cs with
  | nil => exact .empty
  | cons c cs ih =>
    cases cs with
    | nil => exact .oneOf _
    | cons d cs => exact .seq (.oneOf _) ih

/-- Nothing is found among no ranges. -/
theorem search_empty (ranges : Array (Nat × Nat)) (n low : Nat) :
    Text.CodePoints.search ranges n low low = false := by
  rw [Text.CodePoints.search, if_neg (Nat.lt_irrefl low)]

/-- The set of the code point of a character has that character only. -/
theorem contains_single (c d : Char) :
    (Text.CodePoints.single c.toNat).contains d.toNat = (c == d) := by
  have heq : (c == d) = decide (c.toNat = d.toNat) :=
    Bool.eq_iff_iff.2 (beq_iff_eq.trans (Char.toNat_inj.symm.trans decide_eq_true_iff.symm))
  show Text.CodePoints.search #[(c.toNat, c.toNat)] d.toNat 0 1 = (c == d)
  rw [Text.CodePoints.search, if_pos Nat.zero_lt_one, heq]
  show (if d.toNat < c.toNat then Text.CodePoints.search _ d.toNat 0 0
    else if c.toNat < d.toNat then Text.CodePoints.search _ d.toNat 1 1 else true) = _
  rcases Nat.lt_trichotomy d.toNat c.toNat with hlt | hcode | hlt
  · rw [if_pos hlt, search_empty, decide_eq_false (by omega)]
  · rw [if_neg (by omega), if_neg (by omega), decide_eq_true hcode.symm]
  · rw [if_neg (by omega), if_pos hlt, search_empty, decide_eq_false (by omega)]

/-- The moves of a text are made where the text starts. -/
theorem walk_textMoves (token : List Char) (moves : List Move) (index : Nat) (marks : Marks)
    (cs : List Char) : walk (textMoves token ++ moves) index marks cs =
      (Text.dropStart? token cs).bind (walk moves (index + token.length) marks) := by
  induction token generalizing index cs with
  | nil => simp [textMoves]
  | cons c token ih =>
    cases cs with
    | nil => rfl
    | cons d cs =>
      show (if (Text.CodePoints.single c.toNat).contains d.toNat = true then
        walk (textMoves token ++ moves) (index + 1) marks cs else none) = _
      rw [contains_single, Text.dropStart?, ih, List.length_cons, Nat.add_right_comm,
        Nat.add_assoc]
      split <;> rfl

end SolutionAlgebra.Pattern
