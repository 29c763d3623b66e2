import ProofScript.Diagnostic
import ProofScript.Grammar.Signatures

/-!
# Reading text

Terms, types and signatures from their text. The text is first cut into tokens, and a stray
character anywhere in it comes before any violation of the grammar.
-/
namespace ProofScript

/-- Reads the tokens of `text`. -/
def readText {α : Type} (read : List Token → Except GrammarError α) (text : String) :
    Except Diagnostic α := do
  let tokens ← (lex text).mapError .stray
  (read tokens).mapError .parse

def Term.parse (text : String) : Except Diagnostic Term :=
  readText (Grammar.complete Grammar.term) text

def Ty.parse (text : String) : Except Diagnostic Ty :=
  readText (Grammar.complete Grammar.type) text

def Signature.parse (text : String) : Except Diagnostic Signature :=
  readText Grammar.signature text

end ProofScript
