import Conclave.Http.Service
import Conclave.Logs.Setup
import Conclave.Node.Configured
import Conclave.Node.Leader
import Conclave.Proofs.Bytes
import Conclave.Proofs.Http.Refusal
import Conclave.Proofs.Json.Spelling
import Conclave.Rehearsal.World
import Conclave.Proofs.Json.Lexing
import Conclave.Proofs.Json.RoundTrip
import Conclave.Proofs.Base64
import Conclave.Proofs.Wire.Identity
import Conclave.Proofs.Http.Carriage
import Conclave.Proofs.Node.Calling
import Conclave.Proofs.Node.Errands
import Conclave.Proofs.Node.Sightings
import Conclave.Proofs.Node.History
import Conclave.Proofs.Node.Signals
import Conclave.Proofs.Node.Following
import Conclave.Proofs.Http.Shortcut
import Conclave.Proofs.Http.Admission
import Conclave.Proofs.Node.Routing
import Conclave.Proofs.Node.Interleaving
import Conclave.Proofs.Node.Beside
import Conclave.Proofs.Node.Handles
import Conclave.Proofs.Node.Underway
import Conclave.Proofs.Node.Announcements
import Conclave.Proofs.Node.Turns
import Conclave.Proofs.Node.Retention
import Conclave.Proofs.Http.Release
import Conclave.Proofs.Node.Redelivery
import Conclave.Proofs.Node.Shutdown
import Conclave.Proofs.Http.Exchange
import Conclave.Proofs.Settings.Watching
import Conclave.Proofs.Node.Building
import Conclave.Proofs.Ip.Written
import Conclave.Proofs.Settings.Admitted
import Conclave.Proofs.Http.Location
import Conclave.Proofs.Ip.Spelling
import Conclave.Proofs.Ip.Mask
import Conclave.Proofs.Ip.Decision
import Conclave.Proofs.Ip.Belonging
import Conclave.Proofs.Ip.Canonical
import Conclave.Proofs.Wire.Spooling
import Conclave.Proofs.Node.Timeline
import Conclave.Proofs.Node.Deciding
import Conclave.Proofs.Node.Liveness
import Conclave.Proofs.Wire.Documents
import Conclave.Proofs.Endpoint
import Conclave.Proofs.Node.Recognition
import Conclave.Proofs.Audience
import Conclave.Proofs.Settings.Fulfilled
import Conclave.Proofs.Settings.Portless
import Conclave.Proofs.Settings.Listing
import Conclave.Proofs.Settings.Overriding
import Conclave.Proofs.Settings.Variables
import Conclave.Proofs.Node.Aloof
import Conclave.Proofs.Node.Registrations
import Conclave.Proofs.Node.Switchboard
import Conclave.Proofs.Node.Selection
