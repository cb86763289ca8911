import Astrolabe.Text.Printable
import Astrolabe.Text.Compatibility
import Astrolabe.Entry
import Astrolabe.Unit.Alternatives
import Astrolabe.Unit.Display
import Astrolabe.Unit.Canonical
import Astrolabe.Catalog.Document
import Astrolabe.Catalog.Packaged
import Astrolabe.Resolution
import Astrolabe.Inversion.Packaged
import Astrolabe.Catalog.Text
import Astrolabe.Service.Routes
import Astrolabe.Proofs.Solver.Outcome
import Astrolabe.Proofs.Exact.Packaged
import Astrolabe.Proofs.Resolution.Boundary
import Astrolabe.Proofs.Resolution.Grammar
import Astrolabe.Proofs.Resolution.Precedence
import Astrolabe.Proofs.Number.Doubles
import Astrolabe.Proofs.Number.Accuracy
import Astrolabe.Proofs.Number.Irrational
import Astrolabe.Proofs.Relation.Collected
import Astrolabe.Proofs.Relation.Evaluated
import Astrolabe.Proofs.Relation.Plain
import Astrolabe.Proofs.Relation.Agree
import Astrolabe.Proofs.Number.Logarithms
import Astrolabe.Proofs.Relation.Checked
import Astrolabe.Proofs.Relation.Bounded
import Astrolabe.Proofs.Relation.Shapes
import Astrolabe.Proofs.Relation.Consistent
import Astrolabe.Proofs.Resolution.Unflagged
import Astrolabe.Proofs.Expression.Evaluation
import Astrolabe.Proofs.Entry
import Astrolabe.Proofs.Entry.Quotient
import Astrolabe.Proofs.Resolution.Finite
import Astrolabe.Proofs.Resolution.Shared
import Astrolabe.Proofs.Resolution.Selected
import Astrolabe.Proofs.Catalog
import Astrolabe.Proofs.Catalog.Names
import Astrolabe.Proofs.Catalog.Faults
import Astrolabe.Proofs.Resolution.Canonical
import Astrolabe.Proofs.Resolution.Warnings
import Astrolabe.Proofs.Expression.Parsed
import Astrolabe.Proofs.Solver.Reads
import Astrolabe.Proofs.Selection.Order
import Astrolabe.Proofs.Unit.Conversion
import Astrolabe.Proofs.Unit.Spelling
import Astrolabe.Proofs.Unit.FirstFit
import Astrolabe.Proofs.Resolution.Degrees
import Astrolabe.Proofs.Entry.LetterCase
import Astrolabe.Proofs.Resolution.Envelope
import Astrolabe.Proofs.Resolution.Offered
import Astrolabe.Proofs.Unit.Shown
import Astrolabe.Proofs.Relation.Meaning
import Astrolabe.Proofs.Entry.Slashed
import Astrolabe.Proofs.Inversion.Guard
