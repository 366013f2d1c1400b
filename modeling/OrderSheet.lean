import OrderSheet.Detect
import OrderSheet.Draft.Opening
import OrderSheet.Extract.Diagnosis
import OrderSheet.Logging
import OrderSheet.Proofs.Extract.Rendering
import OrderSheet.Proofs.Yaml.Trees
import OrderSheet.Store.Basic
import OrderSheet.Proofs.Store.Fields
import OrderSheet.Proofs.Extract.Diagnosis
import OrderSheet.Proofs.Extract.Origin
import OrderSheet.Proofs.Store.Files
import OrderSheet.Proofs.Store.Revisions
import OrderSheet.Proofs.Store.Loading
import OrderSheet.Proofs.Store.Directory
import OrderSheet.Proofs.Draft.Keywords
import OrderSheet.Proofs.Draft.Gate
import OrderSheet.Proofs.Draft.Freezing
import OrderSheet.Proofs.Review.Totals
import OrderSheet.Proofs.Store.Decoding
import OrderSheet.Proofs.Number.Grammar
import OrderSheet.Proofs.Extract.Surroundings
import OrderSheet.Proofs.Draft.Originals
import OrderSheet.Proofs.Extract.Header
import OrderSheet.Proofs.Extract.Absence
import OrderSheet.Proofs.Layout.Omission
import OrderSheet.Proofs.Detect.Choice
import OrderSheet.Proofs.Review.Balance
import OrderSheet.Proofs.Layout.Amounts
import OrderSheet.Proofs.Detect.Repetition
import OrderSheet.Proofs.Template.Assignment
import OrderSheet.Proofs.Review.Reports
import OrderSheet.Proofs.Logging.Levels
import OrderSheet.Proofs.Extract.Lookups
