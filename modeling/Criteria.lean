import Criteria.Logging
import Criteria.Proofs.Repository.Agreement
import Criteria.Proofs.Repository.Counting
import Criteria.Proofs.Repository.Foreign
import Criteria.Proofs.Repository.Matching
import Criteria.Proofs.Repository.Parameters
import Criteria.Proofs.Repository.Scoping
import Criteria.Proofs.Settings.Lookup
import Criteria.Repository
import Criteria.Settings.Binding
import Criteria.Settings.Files
import Criteria.Settings.Properties
import Criteria.Spec.Attributes
import Criteria.Proofs.Builder.History
import Criteria.Proofs.Spec.Paging
import Criteria.Proofs.Query.Holding
import Criteria.Proofs.Repository.Paging
import Criteria.Proofs.Repository.Limiting
import Criteria.Proofs.Statement.Stored
import Criteria.Proofs.Query.Options
import Criteria.Proofs.Repository.Freshness
import Criteria.Proofs.Calendar.Rounding
import Criteria.Proofs.Calendar.Civil
import Criteria.Proofs.Calendar.StoredText
import Criteria.Proofs.Statement.Moments
import Criteria.Proofs.Repository.Negation
import Criteria.Proofs.Spec.Moments
import Criteria.Proofs.Spec.Monotone
import Criteria.Proofs.Repository.Rounding
import Criteria.Proofs.Repository.Widening
import Criteria.Proofs.Repository.Grouping
import Criteria.Proofs.Spec.NormalForm
import Criteria.Proofs.Repository.Likeness
import Criteria.Proofs.Builder.Naming
import Criteria.Proofs.Spec.Inheritance
import Criteria.Proofs.Repository.Totals
import Criteria.Proofs.Settings.Leftovers
import Criteria.Proofs.Settings.References
import Criteria.Proofs.Settings.Sections
import Criteria.Proofs.Query.Collections
import Criteria.Proofs.Settings.Agreement
import Criteria.Proofs.Repository.Example
import Criteria.Proofs.Repository.Containment
import Criteria.Proofs.Spec.Derived
import Criteria.Proofs.Logging.Reconfiguring
