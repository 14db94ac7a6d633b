/-!
# Chains of labelled steps

* `Steps`: states one after another, each step with a label;
* `Steps.append`, `Steps.concat`: chains put together.
-/

namespace EdgeMeter

variable {ε α : Type}

/-- **A chain of steps** from one state to another, with the labels of the steps in order. -/
inductive Steps (step : ε → α → α → Prop) : List ε → α → α → Prop where
  | nil (a : α) : Steps step [] a a
  | cons {e : ε} {es : List ε} {a b c : α} (first : step e a b) (rest : Steps step es b c) :
    Steps step (e :: es) a c

namespace Steps

variable {step : ε → α → α → Prop} {e : ε} {es es' : List ε} {a b c : α}

theorem single (h : step e a b) : Steps step [e] a b := .cons h (.nil b)

theorem append (h : Steps step es a b) (h' : Steps step es' b c) : Steps step (es ++ es') a c := by
  induction h with
  | nil a => exact h'
  | cons first _ ih => exact .cons first (ih h')

theorem concat (h : Steps step es a b) (last : step e b c) : Steps step (es ++ [e]) a c :=
  h.append (.single last)

end Steps

end EdgeMeter
