import ImageAtlas.Main
import ImageAtlas.Profile.Writing
import ImageAtlas.Proofs.Region.Coordinates
import ImageAtlas.Proofs.Space.Aliases
import ImageAtlas.Proofs.Discovery.References
import ImageAtlas.Proofs.CommandLine.Endings
import ImageAtlas.Proofs.Trace.Saving
import ImageAtlas.Proofs.Region.TextTable
import ImageAtlas.Proofs.Space.SuccessiveSearches
import ImageAtlas.Proofs.Space.ImpliedLength
import ImageAtlas.Proofs.Discovery.Account
import ImageAtlas.Proofs.Codec.Agreement
import ImageAtlas.Proofs.Region.Copies
import ImageAtlas.Proofs.Trace.Newest
import ImageAtlas.Proofs.Trace.Nesting
import ImageAtlas.Proofs.CommandLine.Address
import ImageAtlas.Proofs.Element.Counting
import ImageAtlas.Proofs.Discovery.Notices
