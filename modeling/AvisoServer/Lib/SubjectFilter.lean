import Mathlib.Data.List.Basic

/-!
# Subject filters

A subject is a list of tokens. In a filter `*` stands for one token and a final `>` for one or
more tokens.
-/

namespace SubjectFilter

def matchesTokens : List String → List String → Bool
  | [], [] => true
  | p :: ps, t :: ts =>
    if p = ">" ∧ ps = [] then true else (p = "*" || p = t) && matchesTokens ps ts
  | _, _ => false

/-- A list of tokens with a final `>` selects its proper extensions. -/
theorem matchesTokens_prefix (xs : List String) (y : String) (ys : List String)
    (hxs : ">" ∉ xs) : matchesTokens (xs ++ [">"]) (xs ++ y :: ys) = true := by
  induction xs with
  | nil => simp [matchesTokens]
  | cons x xs ih =>
    have hx : x ≠ ">" := fun h => hxs (h ▸ List.mem_cons_self)
    simp only [List.cons_append, matchesTokens]
    rw [if_neg (fun h => hx h.1), ih fun h => hxs (List.mem_cons_of_mem x h)]
    simp

end SubjectFilter
