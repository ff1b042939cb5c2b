import CatalogSeed.Main
import CatalogSeed.Session
import CatalogSeed.Proofs.Template
import CatalogSeed.Proofs.Template.Canonical
import CatalogSeed.Proofs.Template.Joining
import CatalogSeed.Proofs.Template.Runs
import CatalogSeed.Proofs.Variables
import CatalogSeed.Proofs.Pipeline
import CatalogSeed.Proofs.Batch
import CatalogSeed.Proofs.MemberOrder
import CatalogSeed.Proofs.Shape
import CatalogSeed.Proofs.Lenience
import CatalogSeed.Proofs.Publishing
import CatalogSeed.Proofs.Secrets
import CatalogSeed.Proofs.Relevance
import CatalogSeed.Proofs.Packages
import CatalogSeed.Proofs.ConfigIndex
import CatalogSeed.Proofs.Descriptions
import CatalogSeed.Proofs.FullForm
import CatalogSeed.Proofs.Document.Deepening
import CatalogSeed.Proofs.Document.Texts
import CatalogSeed.Proofs.Standalone
import CatalogSeed.Proofs.Files.Changes
import CatalogSeed.Proofs.Files.Storing
import CatalogSeed.Proofs.Run
import CatalogSeed.Proofs.Settings.Options
