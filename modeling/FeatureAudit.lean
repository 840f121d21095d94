import FeatureAudit.Disk.Tree
import FeatureAudit.Main
import FeatureAudit.Proofs.Search
import FeatureAudit.Proofs.Detection
import FeatureAudit.Proofs.Evidence
import FeatureAudit.Proofs.Fetching
import FeatureAudit.Proofs.Pieces
import FeatureAudit.Proofs.Tags
import FeatureAudit.Proofs.Attributes
import FeatureAudit.Proofs.CleanPage
import FeatureAudit.Proofs.Extraction
import FeatureAudit.Proofs.Lookups
import FeatureAudit.Proofs.Catalogs
import FeatureAudit.Proofs.Restriction
import FeatureAudit.Proofs.Accounting
import FeatureAudit.Proofs.Arrival
import FeatureAudit.Proofs.Layouts
import FeatureAudit.Proofs.Lexemes
import FeatureAudit.Proofs.Values
import FeatureAudit.Proofs.Nesting
import FeatureAudit.Proofs.Snapshots
import FeatureAudit.Proofs.Storage
import FeatureAudit.Proofs.Normalizing
import FeatureAudit.Proofs.Datasets
import FeatureAudit.Proofs.Sharing
import FeatureAudit.Proofs.Failing
import FeatureAudit.Proofs.Markers
import FeatureAudit.Proofs.Passes
import FeatureAudit.Proofs.Descriptions
import FeatureAudit.Proofs.Growth
import FeatureAudit.Proofs.Pool
import FeatureAudit.Proofs.Recognition
import FeatureAudit.Proofs.Rounding
import FeatureAudit.Proofs.Decimals
import FeatureAudit.Proofs.Numerals
import FeatureAudit.Proofs.Batches
import FeatureAudit.Proofs.Ranges
import FeatureAudit.Proofs.Elements
import FeatureAudit.Proofs.Sections
import FeatureAudit.Proofs.Requests
import FeatureAudit.Proofs.TagNames
import FeatureAudit.Proofs.Entries
import FeatureAudit.Proofs.ShortForms
import FeatureAudit.Proofs.OtherTags
import FeatureAudit.Proofs.Quotations
import FeatureAudit.Proofs.Stripping
import FeatureAudit.Proofs.PageJson
import FeatureAudit.Proofs.Provenance
import FeatureAudit.Proofs.BlankReferences
import FeatureAudit.Proofs.EmptyDescriptions
import FeatureAudit.Proofs.Budget
import FeatureAudit.Proofs.Paths
import FeatureAudit.Proofs.Limits
import FeatureAudit.Proofs.Listings
