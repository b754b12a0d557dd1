import CpuIdent.Identity
import CpuIdent.Json.Basic

/-!
# Identities as JSON

The fields of an identity in the order in which they are declared. What only some CPUs have is left out where it is missing.
-/

namespace CpuIdent
namespace Report

/-- A cache. -/
def cache (c : CacheInfo) : Json := .record [
  ("size_kb", .int c.sizeKb),
  ("associativity", .int c.associativity),
  ("line_size", .int c.lineSize)]

/-- The caches of a core. -/
def caches (c : CacheLevels) : Json := .record [
  ("l1_data", cache c.l1Data),
  ("l1_instruction", cache c.l1Instruction),
  ("l2", cache c.l2),
  ("l3", cache c.l3),
  ("l4", cache c.l4)]

/-- The names of features. -/
def features {F : Type} [Feature F] (s : FeatureSet F) : Json := .array (s.names.map .text)

/-- The fields of a main identification register. -/
def midr (m : Midr) : Json := .record [
  ("implementer", .nat m.implementer),
  ("variant", .nat m.variant),
  ("architecture", .nat m.architecture),
  ("part_num", .nat m.part),
  ("revision", .nat m.revision)]

/-- What a CPU says about enclaves. -/
def enclave (e : EnclaveInfo) : Json := .record [
  ("present", .bool e.present),
  ("sgx1", .bool e.sgx1),
  ("sgx2", .bool e.sgx2),
  ("max_enclave_32bit", .nat e.maxSize32),
  ("max_enclave_64bit", .nat e.maxSize64),
  ("misc_select", .nat e.miscSelect)]

/-- A member that is left out if it is missing. -/
def whenPresent {α : Type} (key : String) (write : α → Json) : Option α → List (String × Json)
  | some a => [(key, write a)]
  | none => []

/-- An identity. -/
def identity (id : Identity) : Json := .record <| [
  ("architecture", .text id.architecture.name),
  ("vendor", .text id.vendor.name),
  ("vendor_str", .text id.vendorText),
  ("brand_str", .text id.brandText),
  ("family", .int id.family),
  ("model", .int id.model),
  ("stepping", .int id.stepping),
  ("ext_family", .int id.extFamily),
  ("ext_model", .int id.extModel),
  ("codename", .text id.codename),
  ("technology", .text id.technology),
  ("x86_features", features id.x86Features),
  ("arm_features", features id.armFeatures),
  ("feature_level", .text id.level.name),
  ("caches", caches id.caches),
  ("num_cores", .int id.cores),
  ("num_logical_cpus", .int id.logicalCpus),
  ("total_logical_cpus", .int id.totalLogicalCpus),
  ("sse_size", .int id.sseSize),
  ("purpose", .text id.purpose.name)]
  ++ whenPresent "arm" midr id.midr
  ++ whenPresent "sgx" enclave id.enclave
  ++ [("match_score", .int id.matchScore)]

end Report
end CpuIdent
