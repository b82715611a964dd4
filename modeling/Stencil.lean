import Stencil.Main
import Stencil.Proofs.Resolution
import Stencil.Proofs.LexicalScope
import Stencil.Proofs.Inlining
import Stencil.Proofs.Grammar.Recognition
import Stencil.Proofs.Places.Encoding
import Stencil.Proofs.Printing.Document
import Stencil.Proofs.Snapshot
import Stencil.Proofs.TemplateFaults
import Stencil.Proofs.Blame
import Stencil.Proofs.Places.Rendering
import Stencil.Proofs.Places.Extension
import Stencil.Proofs.Lookahead
import Stencil.Proofs.TrailingText
import Stencil.Proofs.Idempotence
import Stencil.Proofs.Stability
import Stencil.Proofs.Unrolling
import Stencil.Proofs.Siblings.Document
import Stencil.Proofs.Circles
import Stencil.Proofs.Escaping
import Stencil.Proofs.Concatenation
import Stencil.Proofs.Numerals
import Stencil.Proofs.Evaluation
import Stencil.Proofs.Reentry
import Stencil.Proofs.Lexing
import Stencil.Proofs.Arithmetic
import Stencil.Proofs.Membership
import Stencil.Proofs.ActiveChains
