/-!
# Parentheses

Printers put a part in parentheses unless the place it stands in allows it bare.
-/
namespace ProofScript.Text

/-- The text as it is when `bare`, and in parentheses otherwise. -/
def parensUnless (bare : Bool) (text : String) : String :=
  if bare then text else "(" ++ text ++ ")"

end ProofScript.Text
