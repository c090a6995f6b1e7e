namespace RpcRouting

-- A computation that may ask for random numbers. Each question gives a bound, and the answer
-- decides how the computation goes on. Two computations are equal when they ask the same questions
-- in the same order and end alike, whatever the answers.
inductive Draw (α : Type) where
  | done (value : α)
  | ask (bound : Nat) (next : Nat → Draw α)

namespace Draw

variable {α β γ σ : Type}

def bind : Draw α → (α → Draw β) → Draw β
  | .done a, f => f a
  | .ask bound next, f => .ask bound fun answer => (next answer).bind f

instance : Monad Draw where
  pure := .done
  bind := bind

-- One question: a number below `bound`.
def number (bound : Nat) : Draw Nat := .ask bound .done

theorem bind_done (m : Draw α) : m.bind .done = m := by
  induction m with
  | done a => rfl
  | ask bound next ih => exact congrArg (Draw.ask bound) (funext ih)

theorem bind_assoc (m : Draw α) (f : α → Draw β) (g : β → Draw γ) :
    (m.bind f).bind g = m.bind fun a => (f a).bind g := by
  induction m with
  | done a => rfl
  | ask bound next ih => exact congrArg (Draw.ask bound) (funext ih)

instance : LawfulMonad Draw := LawfulMonad.mk' Draw
  (fun m => bind_done m)
  (fun _ _ => rfl)
  (fun m f g => bind_assoc m f g)

-- The end of a computation: its value, the questions asked with their answers, and what is left of
-- the source of the answers.
structure Result (α σ : Type) where
  value : α
  draws : List (Nat × Nat)
  source : σ

-- Answers every question from a source.
def run (answer : Nat → σ → Nat × σ) : Draw α → σ → Result α σ
  | .done a, source => ⟨a, [], source⟩
  | .ask bound next, source =>
    let (n, rest) := answer bound source
    let result := run answer (next n) rest
    ⟨result.value, (bound, n) :: result.draws, result.source⟩

-- The second computation goes on with what the first has left of the source.
theorem run_bind (answer : Nat → σ → Nat × σ) (m : Draw α) (f : α → Draw β) (source : σ) :
    (m >>= f).run answer source =
      let first := m.run answer source
      let second := (f first.value).run answer first.source
      ⟨second.value, first.draws ++ second.draws, second.source⟩ := by
  induction m generalizing source with
  | done a => rfl
  | ask bound next ih =>
    change (Draw.ask bound fun n => next n >>= f).run answer source = _
    simp only [run, ih, List.cons_append]

end Draw

end RpcRouting
