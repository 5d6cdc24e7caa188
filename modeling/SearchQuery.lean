import SearchQuery.Fields.Catalog
import SearchQuery.Main
import SearchQuery.Proofs.Aliases.Nesting
import SearchQuery.Proofs.Cleanup.Links
import SearchQuery.Proofs.Cleanup.Policy
import SearchQuery.Proofs.Cleanup.Repetition
import SearchQuery.Proofs.Command.Repetition
import SearchQuery.Proofs.Fields.Flags
import SearchQuery.Proofs.Fields.Longest
import SearchQuery.Proofs.Fields.Origin
import SearchQuery.Proofs.Fields.Spelling
import SearchQuery.Proofs.Fragments.Meaning
import SearchQuery.Proofs.Inversion.Complement
import SearchQuery.Proofs.Inversion.Protection
import SearchQuery.Proofs.Operations.Accounting
import SearchQuery.Proofs.Pipeline.Anchors
import SearchQuery.Proofs.Pipeline.Failure
import SearchQuery.Proofs.Query.Completion
import SearchQuery.Proofs.Query.Escaping
import SearchQuery.Proofs.Query.FixedPoint
import SearchQuery.Proofs.Removal.Subtrees
import SearchQuery.Proofs.Store.Copies
import SearchQuery.Proofs.Store.Scopes
import SearchQuery.Proofs.Token.Spans
import SearchQuery.Proofs.Validation.Collectors
import SearchQuery.Proofs.Validation.Succession
import SearchQuery.Proofs.Validation.Wildcards
