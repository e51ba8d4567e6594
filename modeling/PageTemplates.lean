import PageTemplates.Files.Store
import PageTemplates.Main
import PageTemplates.Proofs.Catalog.Arrangements
import PageTemplates.Proofs.Catalog.Endings
import PageTemplates.Proofs.Catalog.Interchange
import PageTemplates.Proofs.Catalog.OrdinaryNames
import PageTemplates.Proofs.Catalog.Storage
import PageTemplates.Proofs.CommandLine.Raw
import PageTemplates.Proofs.Files.PreOrder
import PageTemplates.Proofs.Page.Operations
import PageTemplates.Proofs.Service.Body
import PageTemplates.Proofs.Service.Containment
import PageTemplates.Proofs.Service.Content
import PageTemplates.Proofs.Service.Degradation
import PageTemplates.Proofs.Service.History
import PageTemplates.Proofs.Service.Inclusion
import PageTemplates.Proofs.Service.Isolation
import PageTemplates.Proofs.Service.Lending
import PageTemplates.Proofs.Service.Listing
import PageTemplates.Proofs.Service.Parsing
import PageTemplates.Proofs.Service.Precedence
import PageTemplates.Proofs.Service.Reparsing
