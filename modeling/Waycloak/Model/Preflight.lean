import Waycloak.Model.Allocations
import Waycloak.Model.Attachments

/-!
# The overlay a preflight accepts, and who uses it

`waycloakctl` writes the reviewed overlay CIDR into a plan if `Preflight` finds the cluster
compatible. The controller parses it, masks it and gives it to the provisioner; the gateway's
status hands it to the allocator and to every binding.

The other checks of `Preflight` and of `Provisioner.validate` are inputs.
-/

set_option autoImplicit false

namespace Waycloak.Model

/-- SOURCE: waycloakctl/preflight.go:268 -/
def prefixesOverlap (a b : Prefix) : Bool := a.contains b.addr || b.contains a.addr

/-- `Compatible`: every check of the report passes, the overlay's among them. Each node has a list of
Pod CIDRs, and one that does not parse is skipped.
SOURCE: waycloakctl/preflight.go:53-77 -/
def preflightCompatible (parsers : NetworkParsers) (overlayCIDR : String)
    (nodes : List (List String)) (others : Bool) : Bool :=
  match parsers.parsePrefix overlayCIDR with
  | none => false
  | some overlay => others && nodes.all fun podCIDRs => podCIDRs.all fun value =>
      match parsers.parsePrefix value with
      | none => true
      | some pod => !prefixesOverlap overlay pod

/-- `Provisioner.validate`; `others` is what it answers to an overlay that passes.
SOURCE: gatewayruntime/provisioner.go:206-221 -/
def provisionerValidate (overlay : Prefix) (others : Except String Unit) : Except String Unit :=
  if overlay.isValid = false ∨ overlay.addr.is4 = false ∨ overlay.bits < 16 ∨ 29 < overlay.bits then
    .error "exact gateway runtime release, images, and reviewed network parameters are required"
  else others

/-- `Addr.Next`; there is none after the last address. -/
def Addr.next : Addr → Addr
  | .zero => .zero
  | .v4 bits => if bits = BitVec.allOnes 32 then .zero else .v4 (bits + 1)
  | .v6 bits zone => if bits = BitVec.allOnes 128 then .zero else .v6 (bits + 1) zone

/-- SOURCE: gatewayruntime/provisioner.go:461 -/
def Prefix.gatewayAddress (overlay : Prefix) : Addr := overlay.masked.addr.next

/-- A configuration with the overlay, its gateway and an allocated address in it.
SOURCE: nodeagent/service.go:683-723 -/
def Config.within (c : Config) (overlay allocated : Prefix) : Config :=
  { c with
    address := prefixFrom allocated.addr overlay.bits
    overlayCIDR := overlay
    gatewayAddress := overlay.gatewayAddress }

end Waycloak.Model
