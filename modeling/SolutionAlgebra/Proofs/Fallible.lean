/-! # Fallible computations

When a fallible computation that is made of others succeeds or fails, also where it has a state,
what all its results have in common, and when two of them come to the same. -/

namespace SolutionAlgebra

variable {ε ε' α β : Type}

/-- One computation after another succeeds exactly if both succeed. -/
theorem bind_eq_ok_iff {x : Except ε α} {f : α → Except ε β} {b : β} :
    x >>= f = .ok b ↔ ∃ a, x = .ok a ∧ f a = .ok b := by
  cases x with
  | error e =>
      constructor
      · intro h; cases h
      · rintro ⟨_, h, _⟩; cases h
  | ok a =>
      constructor
      · intro h; exact ⟨a, rfl, h⟩
      · rintro ⟨_, h, hf⟩; cases h; exact hf

/-- One computation after another fails exactly if the first fails, or else the second. -/
theorem bind_eq_error_iff {x : Except ε α} {f : α → Except ε β} {e : ε} :
    x >>= f = .error e ↔ x = .error e ∨ ∃ a, x = .ok a ∧ f a = .error e := by
  cases x with
  | error e' =>
      constructor
      · intro h; cases h; exact .inl rfl
      · rintro (h | ⟨_, h, _⟩) <;> cases h; rfl
  | ok a =>
      constructor
      · intro h; exact .inr ⟨a, rfl, h⟩
      · rintro (h | ⟨_, h, hf⟩) <;> cases h; exact hf

/-- A computation whose result is changed succeeds exactly if the computation does. -/
theorem map_eq_ok_iff {x : Except ε α} {f : α → β} {b : β} :
    x.map f = .ok b ↔ ∃ a, x = .ok a ∧ f a = b := by
  cases x with
  | error e =>
      constructor
      · intro h; cases h
      · rintro ⟨_, h, _⟩; cases h
  | ok a =>
      constructor
      · intro h; cases h; exact ⟨a, rfl, rfl⟩
      · rintro ⟨_, h, rfl⟩; cases h; rfl

/-- A computation whose result is changed fails exactly if the computation does. -/
theorem map_eq_error_iff {x : Except ε α} {f : α → β} {e : ε} :
    x.map f = .error e ↔ x = .error e := by
  cases x with
  | error e' => constructor <;> (intro h; cases h; rfl)
  | ok a => constructor <;> (intro h; cases h)

/-- A computation whose fault is changed succeeds exactly if the computation does. -/
theorem mapError_eq_ok_iff {x : Except ε α} {f : ε → ε'} {a : α} :
    x.mapError f = .ok a ↔ x = .ok a := by
  cases x with
  | error e => constructor <;> (intro h; cases h)
  | ok b => constructor <;> (intro h; cases h; rfl)

/-! ## Faults -/

/-- The fault of a computation that fails. -/
def faultOf? : Except ε α → Option ε
  | .ok _ => none
  | .error e => some e

/-- A computation has no fault exactly if it succeeds. -/
theorem faultOf?_eq_none_iff {x : Except ε α} : faultOf? x = none ↔ ∃ a, x = .ok a := by
  cases x <;> simp [faultOf?]

/-! ## Results -/

/-- That all results of a computation have a property. -/
def Gives (p : α → Prop) (x : Except ε α) : Prop := ∀ a, x = .ok a → p a

namespace Gives

variable {p : α → Prop} {q : β → Prop} {x : Except ε α}

/-- A result gives what it has. -/
theorem ok {a : α} (h : p a) : Gives p (.ok a : Except ε α) := by
  rintro _ ⟨⟩
  exact h

/-- A fault gives nothing. -/
theorem error (e : ε) : Gives p (.error e : Except ε α) := fun _ h => nomatch h

/-- Another computation goes on from a result that has a property. -/
theorem bind {f : α → Except ε β} (hx : Gives p x) (hf : ∀ a, p a → Gives q (f a)) :
    Gives q (x >>= f) := by
  intro b hb
  obtain ⟨a, ha, hfa⟩ := bind_eq_ok_iff.1 hb
  exact hf a (hx a ha) b hfa

/-- Another computation goes on from any result. -/
theorem after {f : α → Except ε β} (hf : ∀ a, Gives q (f a)) : Gives q (x >>= f) := by
  intro b hb
  obtain ⟨a, -, hfa⟩ := bind_eq_ok_iff.1 hb
  exact hf a b hfa

/-- A function of the result gives what it makes of what is given. -/
theorem map {f : α → β} (hx : Gives p x) (hf : ∀ a, p a → q (f a)) : Gives q (x.map f) := by
  intro b hb
  obtain ⟨a, ha, rfl⟩ := map_eq_ok_iff.1 hb
  exact hf a (hx a ha)

/-- Another fault does not change what is given. -/
theorem mapError {f : ε → ε'} (hx : Gives p x) : Gives p (x.mapError f) :=
  fun a ha => hx a (mapError_eq_ok_iff.1 ha)

/-- All results of computations one after the other. -/
theorem mapM {f : β → Except ε α} (hf : ∀ b, Gives p (f b)) (bs : List β) :
    Gives (fun as => ∀ a ∈ as, p a) (bs.mapM f) := by
  induction bs with
  | nil => exact ok fun _ h => nomatch h
  | cons b bs ih =>
      rw [List.mapM_cons]
      exact (hf b).bind fun a ha => ih.bind fun as has => ok (List.forall_mem_cons.2 ⟨ha, has⟩)

end Gives

/-! ## Two computations -/

/-- That two computations have related results, or the same fault. -/
inductive Related (r : α → β → Prop) : Except ε α → Except ε β → Prop where
  /-- Both succeed. -/
  | ok {a : α} {b : β} (h : r a b) : Related r (.ok a) (.ok b)
  /-- Both fail. -/
  | error (e : ε) : Related r (.error e) (.error e)

namespace Related

variable {γ δ : Type} {r : α → β → Prop} {q : γ → δ → Prop}

/-- A computation is related to itself where its results are. -/
theorem refl {p : α → α → Prop} (h : ∀ a, p a a) (x : Except ε α) : Related p x x := by
  cases x with
  | error e => exact .error e
  | ok a => exact .ok (h a)

/-- Two computations whose related results go on in a related way. -/
theorem bind {x : Except ε α} {y : Except ε β} {f : α → Except ε γ} {g : β → Except ε δ}
    (h : Related r x y) (hfg : ∀ a b, r a b → Related q (f a) (g b)) :
    Related q (x >>= f) (y >>= g) := by
  cases h with
  | ok hab => exact hfg _ _ hab
  | error e => exact .error e

/-- Two computations whose related results are changed in a related way. -/
theorem map {x : Except ε α} {y : Except ε β} {f : α → γ} {g : β → δ} (h : Related r x y)
    (hfg : ∀ a b, r a b → q (f a) (g b)) : Related q (x.map f) (y.map g) := by
  cases h with
  | ok hab => exact .ok (hfg _ _ hab)
  | error e => exact .error e

/-- Two computations whose related results are the same. -/
theorem eq {p : α → α → Prop} {x y : Except ε α} (h : Related p x y)
    (hp : ∀ a b, p a b → a = b) : x = y := by
  cases h with
  | ok hab => rw [hp _ _ hab]
  | error e => rfl

end Related

/-! ## Computations with a state -/

variable {σ : Type}

/-- One computation after another, run from a state: the second goes on in the state that the first
leaves, and a fault of the first ends both. -/
theorem run_bind (x : ExceptT ε (StateM σ) α) (f : α → ExceptT ε (StateM σ) β) (s : σ) :
    ((x >>= f).run).run s = match (x.run).run s with
      | (.ok a, next) => ((f a).run).run next
      | (.error e, next) => (.error e, next) := by
  rw [ExceptT.run_bind, StateT.run_bind]
  cases hrun : (x.run).run s with
  | mk r next => cases r <;> rfl

/-- One computation after another gives a result exactly if the first does and the second does for
it. -/
theorem run_bind_ok_iff {x : ExceptT ε (StateM σ) α} {f : α → ExceptT ε (StateM σ) β} {s : σ}
    {b : β} :
    (((x >>= f).run).run s).1 = .ok b ↔
      ∃ a next, (x.run).run s = (.ok a, next) ∧ (((f a).run).run next).1 = .ok b := by
  rw [run_bind]
  cases hrun : (x.run).run s with
  | mk r next =>
      cases r with
      | error e =>
          constructor
          · intro h; cases h
          · rintro ⟨_, _, h, _⟩; cases h
      | ok a =>
          constructor
          · intro h; exact ⟨a, next, rfl, h⟩
          · rintro ⟨_, _, h, hf⟩; cases h; exact hf

/-- The fault of one computation after another is that of the first, or else that of the second,
where this is the same for all that the first may give. -/
theorem faultOf?_run_bind {x : ExceptT ε (StateM σ) α} {f : α → ExceptT ε (StateM σ) β} {s : σ}
    {later : Option ε}
    (h : ∀ a next, (x.run).run s = (.ok a, next) → faultOf? (((f a).run).run next).1 = later) :
    faultOf? (((x >>= f).run).run s).1 = (faultOf? ((x.run).run s).1).or later := by
  rw [run_bind]
  cases hrun : (x.run).run s with
  | mk r next =>
      cases r with
      | error e => rfl
      | ok a => exact h a next hrun

/-- A computation whose result is changed has the fault of the computation. -/
theorem faultOf?_run_bind_pure {x : ExceptT ε (StateM σ) α} {g : α → β} {s : σ} :
    faultOf? (((x >>= fun a => pure (g a)).run).run s).1 = faultOf? ((x.run).run s).1 :=
  (faultOf?_run_bind fun _ _ _ => rfl).trans Option.or_none

end SolutionAlgebra
