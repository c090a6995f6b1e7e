import RpcRouting.Random.Draw

namespace RpcRouting.Draw

variable {α β σ : Type}

-- A source that keeps its promise: below a bound that is not zero, its answers are below the bound.
def Honest (answer : Nat → σ → Nat × σ) : Prop :=
  ∀ bound source, bound ≠ 0 → (answer bound source).1 < bound

-- What a computation comes to, whatever the answers of honest sources.
def Ensures (holds : α → Prop) : Draw α → Prop
  | .done a => holds a
  | .ask bound next => ∀ n, (bound ≠ 0 → n < bound) → (next n).Ensures holds

variable {holds weaker : α → Prop} {then_ : β → Prop}

theorem Ensures.mono {m : Draw α} (h : m.Ensures holds) (hw : ∀ a, holds a → weaker a) :
    m.Ensures weaker := by
  induction m with
  | done a => exact hw a h
  | ask bound next ih => exact fun n hn => ih n (h n hn)

theorem Ensures.bind {m : Draw α} {f : α → Draw β} (h : m.Ensures holds)
    (hf : ∀ a, holds a → (f a).Ensures then_) : (m >>= f).Ensures then_ := by
  induction m with
  | done a => exact hf a h
  | ask bound next ih => exact fun n hn => ih n (h n hn)

theorem ensures_true (m : Draw α) : m.Ensures fun _ => True := by
  induction m with
  | done a => exact trivial
  | ask bound next ih => exact fun n _ => ih n

theorem Ensures.run {m : Draw α} (h : m.Ensures holds) {answer : Nat → σ → Nat × σ}
    (ha : Honest answer) (source : σ) : holds (m.run answer source).value := by
  induction m generalizing source with
  | done a => exact h
  | ask bound next ih => exact ih _ (h _ (ha bound source)) _

-- Two computations that ask the same questions and, whatever the answers, end with values that
-- belong together.
inductive Alike (same : α → β → Prop) : Draw α → Draw β → Prop where
  | done {a : α} {b : β} (h : same a b) : Alike same (.done a) (.done b)
  | ask (bound : Nat) {next : Nat → Draw α} {next' : Nat → Draw β}
    (h : ∀ n, Alike same (next n) (next' n)) : Alike same (.ask bound next) (.ask bound next')

variable {γ : Type} {same looser : α → β → Prop} {m : Draw α} {m' : Draw β}

theorem Alike.mono (h : Alike same m m') (hl : ∀ a b, same a b → looser a b) :
    Alike looser m m' := by
  induction h with
  | done h => exact .done (hl _ _ h)
  | ask bound _ ih => exact .ask bound ih

-- What begins in the same way is alike if it goes on alike.
theorem alike_bind (first : Draw γ) {f : γ → Draw α} {g : γ → Draw β}
    (h : ∀ c, Alike same (f c) (g c)) : Alike same (first >>= f) (first >>= g) := by
  induction first with
  | done c => exact h c
  | ask bound next ih => exact .ask bound ih

theorem Alike.bind_eq {f : α → Draw γ} {g : β → Draw γ} (h : Alike same m m')
    (hf : ∀ a b, same a b → f a = g b) : m >>= f = m' >>= g := by
  induction h with
  | done h => exact hf _ _ h
  | ask bound _ ih => exact congrArg (Draw.ask bound) (funext ih)

theorem Alike.run (h : Alike same m m') (answer : Nat → σ → Nat × σ) (source : σ) :
    (m'.run answer source).draws = (m.run answer source).draws ∧
      (m'.run answer source).source = (m.run answer source).source ∧
      same (m.run answer source).value (m'.run answer source).value := by
  induction h generalizing source with
  | done h => exact ⟨rfl, rfl, h⟩
  | ask bound _ ih =>
    obtain ⟨hdraws, hsource, hvalue⟩ := ih (answer bound source).1 (answer bound source).2
    exact ⟨congrArg _ hdraws, hsource, hvalue⟩

end RpcRouting.Draw
