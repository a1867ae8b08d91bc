import GnssAdapter.Config.Load
import GnssAdapter.Fleet
import GnssAdapter.Transport.Scripted
import GnssAdapter.Statistics.Setting
import GnssAdapter.Wire.Message
import GnssAdapter.Codec.Readable
import GnssAdapter.Proofs.Constellation
import GnssAdapter.Proofs.Gating
import GnssAdapter.Proofs.Handle
import GnssAdapter.Proofs.Serving
import GnssAdapter.Proofs.Starting
import GnssAdapter.Proofs.Sentences
import GnssAdapter.Proofs.Assembly
import GnssAdapter.Proofs.Epochs
import GnssAdapter.Proofs.Mastery
import GnssAdapter.Proofs.Findings
import GnssAdapter.Proofs.Deletion
import GnssAdapter.Proofs.Reopening
import GnssAdapter.Proofs.Sequence
import GnssAdapter.Proofs.Discontinuity
import GnssAdapter.Proofs.Orbits
import GnssAdapter.Proofs.Certificates
import GnssAdapter.Proofs.Additivity
import GnssAdapter.Proofs.Erasure
import GnssAdapter.Proofs.UsedSatellites
import GnssAdapter.Proofs.Tracking
import GnssAdapter.Proofs.Visibility
import GnssAdapter.Proofs.Addresses
import GnssAdapter.Proofs.GpsTime
import GnssAdapter.Proofs.Statistics
