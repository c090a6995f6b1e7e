import RpcRouting.Regex.Automaton
import RpcRouting.Regex.Marked
import RpcRouting.Regex.Parser

namespace RpcRouting.Regex

-- The text that is compiled for a pattern: the pattern as a group between the two ends of the
-- text.
def anchored (source : String) : List Char := "^(?:".toList ++ source.toList ++ ")$".toList

def compile? (text : List Char) : Option Expr :=
  (Syntax.parse? text).bind fun e => if e.weight ≤ maxWeight then some e else none

-- A regular expression in its written form, with what it was compiled to. The expression is a
-- function of the written form, so patterns are equal when they are written alike.
structure Pattern where
  source : String
  expr : Expr
  compiled : compile? (anchored source) = some expr

namespace Pattern

def compile? (source : String) : Option Pattern :=
  match h : Regex.compile? (anchored source) with
  | none => none
  | some expr => some ⟨source, expr, h⟩

theorem source_of_compile? {source : String} {pattern : Pattern}
    (h : compile? source = some pattern) : pattern.source = source := by
  unfold compile? at h
  split at h
  · cases h
  · cases h
    rfl

-- Of a pattern that was compiled, the text between the two ends of the text can be parsed.
theorem parse?_source (pattern : Pattern) :
    Syntax.parse? (anchored pattern.source) = some pattern.expr ∧
      pattern.expr.weight ≤ maxWeight := by
  obtain ⟨e, he, hweight⟩ := Option.bind_eq_some_iff.mp pattern.compiled
  split at hweight
  · rename_i hle
    cases hweight
    exact ⟨he, hle⟩
  · cases hweight

theorem ext_source {a b : Pattern} (h : a.source = b.source) : a = b := by
  cases a with
  | mk source expr compiled =>
    cases b with
    | mk source' expr' compiled' =>
      subst h
      have he : expr = expr' := Option.some.inj (compiled.symm.trans compiled')
      subst he
      rfl

instance : DecidableEq Pattern := fun a b =>
  if h : a.source = b.source then isTrue (ext_source h)
  else isFalse fun hab => h (congrArg source hab)

instance : Repr Pattern where
  reprPrec pattern _ := repr pattern.source

def isFullMatch (pattern : Pattern) (text : String) : Bool := pattern.expr.occurs text.toList

end Pattern

end RpcRouting.Regex
