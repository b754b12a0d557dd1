import CpuIdent.Hypervisor
import CpuIdent.Main
import CpuIdent.Register.Command
import CpuIdent.Register.Device
import CpuIdent.Proofs.Arm.Tally
import CpuIdent.Proofs.Arm.Upgrade
import CpuIdent.Proofs.Cache.DescriptorSet
import CpuIdent.Proofs.Cache.Enumeration
import CpuIdent.Proofs.Codename.Brand
import CpuIdent.Proofs.Codename.Pattern
import CpuIdent.Proofs.Feature.Edits
import CpuIdent.Proofs.Identification.Caches
import CpuIdent.Proofs.Identification.Hyperthreading
import CpuIdent.Proofs.Identification.Independence
import CpuIdent.Proofs.Identification.Names
import CpuIdent.Proofs.Identification.VendorBytes
import CpuIdent.Proofs.Register.Divisions
import CpuIdent.Proofs.Register.Image
import CpuIdent.Proofs.Register.Range
import CpuIdent.Proofs.Register.Temperature
import CpuIdent.Proofs.Signature.BrandString
import CpuIdent.Proofs.Signature.Edits
import CpuIdent.Proofs.Snapshot.Documented
import CpuIdent.Proofs.Snapshot.EndMarker
import CpuIdent.Proofs.Snapshot.LegacyKey
import CpuIdent.Proofs.Snapshot.Relaid
import CpuIdent.Proofs.Snapshot.RoundTrip
