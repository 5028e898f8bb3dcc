import DocletPreflight.Classes.Filter
import DocletPreflight.Classes.Listing
import DocletPreflight.Command.Arguments
import DocletPreflight.Command.Run
import DocletPreflight.Configuration.Build
import DocletPreflight.Encoding.Name
import DocletPreflight.Log
import DocletPreflight.Main
import DocletPreflight.Options
import DocletPreflight.Proofs.Classes.Filtering
import DocletPreflight.Proofs.Command.Arguments
import DocletPreflight.Proofs.Command.Endings
import DocletPreflight.Proofs.Command.ExitStatus
import DocletPreflight.Proofs.Command.FilterRun
import DocletPreflight.Proofs.Command.GlobalOptions
import DocletPreflight.Proofs.Command.Observation
import DocletPreflight.Proofs.Command.Summary
import DocletPreflight.Proofs.Configuration.Fatal
import DocletPreflight.Proofs.Configuration.Faults
import DocletPreflight.Proofs.Configuration.Inline
import DocletPreflight.Proofs.Configuration.Report
import DocletPreflight.Proofs.Configuration.SeenAlike
import DocletPreflight.Proofs.Configuration.Tags
import DocletPreflight.Proofs.Configuration.Unvalued
import DocletPreflight.Proofs.Listing.Acceptance
import DocletPreflight.Proofs.Listing.Cycles
import DocletPreflight.Proofs.Listing.Graph
import DocletPreflight.Proofs.Listing.Order
import DocletPreflight.Proofs.Listing.Reading
import DocletPreflight.Proofs.Listing.Spelling
import DocletPreflight.Proofs.Loading.Accounting
import DocletPreflight.Proofs.Loading.Leftovers
import DocletPreflight.Proofs.Loading.Precedence
import DocletPreflight.Proofs.Loading.Resolution
import DocletPreflight.Proofs.Log.Delivery
import DocletPreflight.Proofs.Options.Grouping
import DocletPreflight.Proofs.Options.Positions
import DocletPreflight.Proofs.Registry.Extensionality
import DocletPreflight.Proofs.Registry.Reachable
import DocletPreflight.Proofs.Registry.Refusal
import DocletPreflight.Proofs.Registry.Sealed
import DocletPreflight.Proofs.Registry.Seeding
import DocletPreflight.Proofs.Taglet.Definitions
import DocletPreflight.Proofs.Taglet.Scopes
import DocletPreflight.Proofs.Text.Decoding
import DocletPreflight.Proofs.Yaml.Loading
import DocletPreflight.Taglet.Loading
import DocletPreflight.Taglet.Registry
import DocletPreflight.Yaml.Load
