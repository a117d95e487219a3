import GeoStream.Main
import GeoStream.Proofs.Json.Parsing
import GeoStream.Proofs.Pipeline.Releasing
import GeoStream.Proofs.Reader.Emitting
import GeoStream.Proofs.Reader.RoundTrip
import GeoStream.Proofs.Geometry.Transforming
import GeoStream.Proofs.Reader.Reprojecting
import GeoStream.Proofs.Reader.Accounting
import GeoStream.Proofs.Reader.Declaring
import GeoStream.Proofs.Record.Collecting
import GeoStream.Proofs.Schema.Declared
import GeoStream.Proofs.Reader.Checking
import GeoStream.Proofs.Writer.Calling
import GeoStream.Proofs.Json.Comparing
import GeoStream.Proofs.Schema.Reordering
import GeoStream.Proofs.Record.Reordering
import GeoStream.Proofs.Reader.Reordering
import GeoStream.Proofs.Record.Printing
import GeoStream.Proofs.Cli.Copying
import GeoStream.Proofs.Record.Rebuilding
import GeoStream.Proofs.Schema.Listing
import GeoStream.Proofs.Record.Assembling
