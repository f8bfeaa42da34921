import VirtualTables.Capability.Feature
import VirtualTables.Main
import VirtualTables.Proofs.Address.Deciding
import VirtualTables.Proofs.Address.Locator
import VirtualTables.Proofs.Address.RoundTrip
import VirtualTables.Proofs.Backend.Bypassing
import VirtualTables.Proofs.Backend.Credentials
import VirtualTables.Proofs.Backend.Flattening
import VirtualTables.Proofs.Backend.Passwords
import VirtualTables.Proofs.Backend.Redirection
import VirtualTables.Proofs.Backend.Registration
import VirtualTables.Proofs.Backend.Sending
import VirtualTables.Proofs.Catalog.Answers
import VirtualTables.Proofs.Catalog.Filters
import VirtualTables.Proofs.Cell.Json
import VirtualTables.Proofs.Command.Printing
import VirtualTables.Proofs.Listing.Comments
import VirtualTables.Proofs.Listing.Nesting
import VirtualTables.Proofs.Listing.RoundTrip
import VirtualTables.Proofs.Listing.SelfClosing
import VirtualTables.Proofs.Listing.Truncation
import VirtualTables.Proofs.RowStream.Breaking
import VirtualTables.Proofs.RowStream.Calls
import VirtualTables.Proofs.RowStream.Filling
import VirtualTables.Proofs.RowStream.Limit
import VirtualTables.Proofs.RowStream.Naming
import VirtualTables.Proofs.RowStream.Offering
import VirtualTables.Proofs.RowStream.Reencoding
import VirtualTables.Proofs.RowStream.Truncation
import VirtualTables.Proofs.Settings.Layers
import VirtualTables.RowStream.Writer
