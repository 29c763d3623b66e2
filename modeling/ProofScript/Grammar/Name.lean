import ProofScript.Text.Capital

/-!
# Kinds of names

The spelling of a name decides what it is. A name that begins with a capital is a constant, in
terms and in types alike; besides, each of the two languages has a few constants of its own.
-/
namespace ProofScript

/-- The constants of the language of types. -/
def typeConstants : List String := ["Nat", "Bool", "Type", "List"]

/-- The constants of the language of terms that take no arguments. -/
def termConstants : List String := ["Z", "True", "False", "Nil"]

/-- Whether `name` may be used as an identifier: it does not begin with an ASCII digit. -/
def isIdentifier (name : String) : Bool :=
  match name.toList with
  | [] => false
  | first :: _ => !first.isDigit

def beginsWithCapital (name : String) : Bool :=
  match name.toList with
  | [] => false
  | first :: _ => Text.isCapital first

def isTypeConstant (name : String) : Bool :=
  typeConstants.contains name || beginsWithCapital name

def isTermConstant (name : String) : Bool :=
  termConstants.contains name || beginsWithCapital name

end ProofScript
