import ProofScript.Main
import ProofScript.Proofs.Evaluation.Limit
import ProofScript.Proofs.Environment
import ProofScript.Proofs.Evaluation.Instance
import ProofScript.Proofs.Reading
import ProofScript.Proofs.Naming.Generated
import ProofScript.Proofs.Naming.Scope
import ProofScript.Proofs.Verification.Refl
import ProofScript.Proofs.Naming.Capture
import ProofScript.Proofs.Naming.Links
import ProofScript.Proofs.Naming.Alike
import ProofScript.Proofs.Evaluation.Ideal
import ProofScript.Proofs.Catalog.Laws
import ProofScript.Proofs.Evaluation.Renamed
import ProofScript.Proofs.Catalog.Cited
import ProofScript.Proofs.Verification.Citation
import ProofScript.Proofs.Evaluation.Monotone
import ProofScript.Proofs.Evaluation.Respelled
import ProofScript.Proofs.Grammar.Parameters
import ProofScript.Proofs.Verification.Spelling
import ProofScript.Proofs.Typing.Denotation
import ProofScript.Proofs.Typing.Adequacy
import ProofScript.Proofs.Typing.Soundness
import ProofScript.Proofs.Grammar.TermDerivation
import ProofScript.Proofs.Grammar.TypeDerivation
import ProofScript.Proofs.Grammar.SignatureDerivation
import ProofScript.Proofs.Grammar.WellFormed
import ProofScript.Proofs.Grammar.Printing
import ProofScript.Proofs.Grammar.PrintedSignature
import ProofScript.Proofs.Grammar.Reprinted
import ProofScript.Proofs.Naming.Variant
import ProofScript.Proofs.Verification.Variant
import ProofScript.Proofs.Text.Excerpt
import ProofScript.Proofs.Script.Lines
import ProofScript.Proofs.Script.Reading
import ProofScript.Proofs.Script.Concatenation
import ProofScript.Proofs.Grammar.OneLine
import ProofScript.Proofs.Verification.Blame
import ProofScript.Proofs.Script.Rendering
import ProofScript.Proofs.Failure.Location
import ProofScript.Proofs.Naming.Idempotent
import ProofScript.Proofs.Grammar.CanonicalForm
import ProofScript.Proofs.Grammar.ParsedSignatures
import ProofScript.Proofs.Script.Places
import ProofScript.Proofs.Evaluation.FirstFailure
import ProofScript.Proofs.Evaluation.Overflow
import ProofScript.Proofs.Evaluation.FirstOrder
import ProofScript.Proofs.Evaluation.FreeNames
import ProofScript.Proofs.Token.FirstStray
import ProofScript.Proofs.Token.Spacing
import ProofScript.Proofs.Source.Counting
import ProofScript.Proofs.Source.Cached
import ProofScript.Proofs.Naming.Extension
import ProofScript.Proofs.Naming.InPlace
