import Waycloak.Model.Routes

/-!
# What a namespace learns about the gateways of others

Before a gateway consents, a source namespace must not learn whether it exists. Two clusters are
compared that differ in one gateway of another namespace: it is absent in one, and exists without
permitting the source namespace in the other. `GatewayAuthorizer.ResolveGateway` gives the same
answer in both, and the status of a route or a lease is computed from this answer, unless the
gateway has a selector and the labels of the source Namespace cannot be read: a gateway that does
not exist has no selector, so the failing read is made only if it exists
(`selector_read_reveals_gateway`).
-/

set_option autoImplicit false

namespace Waycloak.Analysis

open Waycloak.Model

variable {selectors : Selectors} {source : NamespaceName} {gateway : EgressGateway}

/-- The part of a cluster a reference is authorized with: the gateways, the labels of the
Namespaces, and which reads of them fail. -/
structure ConsentCluster where
  gateways : NamespaceName × ObjectName → Option EgressGateway
  labels : NamespaceName → Labels
  gatewayReadFailure : NamespaceName × ObjectName → Option String
  namespaceReadFailure : NamespaceName → Option String

namespace ConsentCluster

variable (c : ConsentCluster)

def readGateway (key : NamespaceName × ObjectName) : Except ReadError EgressGateway :=
  match c.gatewayReadFailure key with
  | some err => .error (.other err)
  | none =>
    match c.gateways key with
    | none => .error .notFound
    | some gateway => .ok gateway

def readLabels (name : NamespaceName) : Except String Labels :=
  match c.namespaceReadFailure name with
  | some err => .error err
  | none => .ok (c.labels name)

/-- The answer of the authorizer in the cluster. -/
def resolve (selectors : Selectors) (source : NamespaceName)
    (ref : NamespacedObjectReference) : Except String RouteGatewayResolution :=
  resolveGateway selectors source ref (c.readGateway (ref.namespaceName, ref.name))
    (c.readLabels source)

/-- What a route of the cluster is reconciled from. -/
def routeAnswers (now : Time) : RouteAnswers :=
  { gateway := c.readGateway, labels := c.readLabels, writeFailure := none, now }

/-- The cluster with one more gateway. -/
def withGateway (gateway : EgressGateway) : ConsentCluster :=
  { c with gateways := Function.update c.gateways gateway.key (some gateway) }

end ConsentCluster

/-- A lease reads less of a gateway than a route. -/
def leaseResolution (answer : Except String RouteGatewayResolution) :
    Except String GatewayResolution :=
  answer.map fun resolution =>
    { permitted := resolution.permitted, gateway := resolution.gateway.map (·.toVPNGateway) }

/-- The status the lease controller computes for a live lease, in a cluster. -/
def leaseStatus (r : PortForwardLeaseReconciler) (runtime : Option Runtime) (api : ApiView)
    (selectors : Selectors) (c : ConsentCluster) (lease : PortForwardLease) :
    PortForwardLeaseStatus :=
  let view :=
    { api with
      resolveGateway :=
        leaseResolution (c.resolve selectors lease.namespaceName lease.spec.gatewayRef) }
  (r.runtimeStatus runtime view lease (evaluate lease view)).status

/-- The authorizer, the routes and the leases of the source namespace cannot tell the clusters
apart. -/
structure Indistinguishable (selectors : Selectors) (source : NamespaceName)
    (ref : NamespacedObjectReference) (c c' : ConsentCluster) : Prop where
  resolved : c.resolve selectors source ref = c'.resolve selectors source ref
  routes : ∀ (now : Time) (route : VPNEgressRoute) (parent : GatewayParentReference),
    route.namespaceName = source → route.parentRefs.head? = some parent →
    parent.key = (ref.namespaceName, ref.name) →
    desiredStatus selectors (c.routeAnswers now) route =
      desiredStatus selectors (c'.routeAnswers now) route
  leases : ∀ (r : PortForwardLeaseReconciler) (runtime : Option Runtime) (api : ApiView)
    (lease : PortForwardLease), lease.namespaceName = source → lease.spec.gatewayRef = ref →
    leaseStatus r runtime api selectors c lease = leaseStatus r runtime api selectors c' lease

theorem indistinguishable_of_resolve {ref : NamespacedObjectReference} {c c' : ConsentCluster}
    (h : c.resolve selectors source ref = c'.resolve selectors source ref) :
    Indistinguishable selectors source ref c c' where
  resolved := h
  routes := by
    rintro now route parent rfl hhead hkey
    cases hparents : route.parentRefs with
    | nil => simp [hparents] at hhead
    | cons first =>
      have hfirst : first = parent := by simpa [hparents] using hhead
      subst hfirst
      obtain ⟨hnamespace, hname⟩ := Prod.mk.inj hkey
      have href : (⟨first.namespaceName, first.name⟩ : NamespacedObjectReference) = ref := by
        rw [hnamespace, hname]
      have hanswer : resolveGateway selectors route.namespaceName
            ⟨first.namespaceName, first.name⟩ (c.readGateway first.key)
            (c.readLabels route.namespaceName) =
          resolveGateway selectors route.namespaceName ⟨first.namespaceName, first.name⟩
            (c'.readGateway first.key) (c'.readLabels route.namespaceName) := by
        rw [href, hkey]
        exact h
      simp only [desiredStatus, hparents, ConsentCluster.routeAnswers, hanswer]
  leases := by
    rintro r runtime api lease rfl rfl
    unfold leaseStatus
    rw [h]

/-! ## Consent -/

/-- The gateway has a selector that compiles, so that its consent depends on labels. -/
def readsLabels (selectors : Selectors) (gateway : EgressGateway) : Bool :=
  decide (gateway.allowedRoutes.origin = .selector) &&
    (gateway.allowedRoutes.selector.bind selectors).isSome

theorem admits_of_not_readsLabels (h : readsLabels selectors gateway = false)
    (labels labels' : Except String Labels) :
    gateway.admits selectors labels = gateway.admits selectors labels' := by
  unfold EgressGateway.admits
  unfold readsLabels at h
  cases horigin : gateway.allowedRoutes.origin with
  | unset | same | all | other => rfl
  | selector =>
    cases hselector : gateway.allowedRoutes.selector with
    | none => rfl
    | some selector =>
      cases hcompiled : selectors selector with
      | none => simp [hcompiled]
      | some => simp [horigin, hselector, hcompiled] at h

theorem admits_of_readsLabels (h : readsLabels selectors gateway = true) (err : String) :
    gateway.admits selectors (.error err) =
      .error ("observe source namespace policy labels: " ++ err) := by
  simp only [readsLabels, Bool.and_eq_true, decide_eq_true_eq] at h
  obtain ⟨horigin, hcompiles⟩ := h
  unfold EgressGateway.admits
  rw [horigin]
  cases hselector : gateway.allowedRoutes.selector with
  | none => simp [hselector] at hcompiles
  | some selector =>
    cases hcompiled : selectors selector with
    | none => simp [hselector, hcompiled] at hcompiles
    | some => simp [hcompiled]

theorem admits_of_not_permits {labels : Labels}
    (h : gateway.permits selectors source labels = false) :
    gateway.admits selectors (.ok labels) = .ok false := by
  simp only [EgressGateway.permits, Bool.or_eq_false_iff] at h
  obtain ⟨-, hadmits⟩ := h
  cases hanswer : gateway.admits selectors (.ok labels) with
  | ok =>
    rw [hanswer] at hadmits
    simp only at hadmits
    rw [hadmits]
  | error err =>
    exfalso
    unfold EgressGateway.admits at hanswer
    split at hanswer <;> try cases hanswer
    split at hanswer <;> try cases hanswer
    split at hanswer <;> cases hanswer

/-! ## The two clusters -/

section Clusters

variable {ref : NamespacedObjectReference} {c : ConsentCluster}

theorem resolve_absent (hremote : source ≠ ref.namespaceName)
    (habsent : c.gateways (ref.namespaceName, ref.name) = none) (hsource : source ≠ "")
    (href : ref.namespaceName ≠ "" ∧ ref.name ≠ "")
    (hread : c.gatewayReadFailure (ref.namespaceName, ref.name) = none) :
    c.resolve selectors source ref = .ok { permitted := false, gateway := none } := by
  simp [ConsentCluster.resolve, ConsentCluster.readGateway, resolveGateway, hread, habsent, hsource,
    href, hremote]

theorem resolve_withGateway (hremote : source ≠ ref.namespaceName) (hsource : source ≠ "")
    (href : ref.namespaceName ≠ "" ∧ ref.name ≠ "")
    (hkey : gateway.key = (ref.namespaceName, ref.name))
    (hread : c.gatewayReadFailure (ref.namespaceName, ref.name) = none) :
    (c.withGateway gateway).resolve selectors source ref =
      match gateway.admits selectors (c.readLabels source) with
      | .error err => .error err
      | .ok true => .ok { permitted := true, gateway := some gateway }
      | .ok false => .ok { permitted := false, gateway := none } := by
  have hfound :
      (c.withGateway gateway).readGateway (ref.namespaceName, ref.name) = .ok gateway := by
    simp [ConsentCluster.readGateway, ConsentCluster.withGateway, hread, hkey]
  have hlabels : (c.withGateway gateway).readLabels source = c.readLabels source := rfl
  cases hadmits : gateway.admits selectors (c.readLabels source) with
  | error err =>
    simp [ConsentCluster.resolve, hfound, hlabels, resolveGateway, hsource, href, hremote, hadmits]
  | ok admitted =>
    cases admitted <;>
      simp [ConsentCluster.resolve, hfound, hlabels, resolveGateway, hsource, href, hremote, hadmits]

/-- INTERNAL: a reference with an empty name, or a gateway that cannot be read, gives the same
error in both clusters. -/
theorem resolve_unread
    (h : source = "" ∨ ref.namespaceName = "" ∨ ref.name = "" ∨
      c.gatewayReadFailure (ref.namespaceName, ref.name) ≠ none) :
    c.resolve selectors source ref = (c.withGateway gateway).resolve selectors source ref := by
  have hlabels : (c.withGateway gateway).readLabels source = c.readLabels source := rfl
  unfold ConsentCluster.resolve
  rw [hlabels]
  by_cases hnames : source = "" ∨ ref.namespaceName = "" ∨ ref.name = ""
  · unfold resolveGateway
    rw [if_pos hnames, if_pos hnames]
  cases hread : c.gatewayReadFailure (ref.namespaceName, ref.name) with
  | none => exact absurd h (by tauto)
  | some err =>
    have hbefore : c.readGateway (ref.namespaceName, ref.name) = .error (.other err) := by
      simp [ConsentCluster.readGateway, hread]
    have hafter : (c.withGateway gateway).readGateway (ref.namespaceName, ref.name) =
        .error (.other err) := by
      simp [ConsentCluster.readGateway, ConsentCluster.withGateway, hread]
    rw [hbefore, hafter]

end Clusters

/-- **When a gateway without consent stays hidden.** Two clusters differ in one gateway of another
namespace, absent in the first and not permitting the source in the second. The authorizer, the
routes and the leases of the source cannot tell them apart, except if the gateway can be read and
has a selector, and the labels of the source Namespace cannot be read.
SOURCE: reference/gateway.go:40-93,
controller/vpnegressroute_controller.go:66-103, portforward/controller.go:99-133 -/
theorem absent_or_denied (selectors : Selectors) (source : NamespaceName)
    (ref : NamespacedObjectReference) (c : ConsentCluster) (gateway : EgressGateway)
    (hremote : source ≠ ref.namespaceName)
    (habsent : c.gateways (ref.namespaceName, ref.name) = none)
    (hkey : gateway.key = (ref.namespaceName, ref.name))
    (hdenied : gateway.permits selectors source (c.labels source) = false) :
    Indistinguishable selectors source ref c (c.withGateway gateway) ↔
      (source = "" ∨ ref.namespaceName = "" ∨ ref.name = "" ∨
        c.gatewayReadFailure (ref.namespaceName, ref.name) ≠ none ∨
        c.namespaceReadFailure source = none ∨ readsLabels selectors gateway = false) := by
  by_cases hunread : source = "" ∨ ref.namespaceName = "" ∨ ref.name = "" ∨
      c.gatewayReadFailure (ref.namespaceName, ref.name) ≠ none
  · refine iff_of_true (indistinguishable_of_resolve (resolve_unread hunread)) ?_
    tauto
  simp only [not_or, not_not] at hunread
  obtain ⟨hsource, hnamespace, hname, hread⟩ := hunread
  have hbefore := @resolve_absent selectors source ref c hremote habsent hsource
    ⟨hnamespace, hname⟩ hread
  have hafter := @resolve_withGateway selectors source gateway ref c hremote hsource
    ⟨hnamespace, hname⟩ hkey hread
  have hadmits := admits_of_not_permits hdenied
  constructor
  · intro hsame
    -- the answers agree, so the second one is not the error of the labels
    by_contra hbad
    simp only [not_or, not_not] at hbad
    obtain ⟨-, -, -, -, hlabels, hselector⟩ := hbad
    obtain ⟨err, herr⟩ := Option.ne_none_iff_exists'.mp hlabels
    have hfailed : c.readLabels source = .error err := by simp [ConsentCluster.readLabels, herr]
    have hresolved := hsame.resolved
    rw [hbefore, hafter, hfailed, admits_of_readsLabels (by simpa using hselector)] at hresolved
    cases hresolved
  · intro hgood
    apply indistinguishable_of_resolve
    have hsame : gateway.admits selectors (c.readLabels source) = .ok false := by
      by_cases hlabels : c.namespaceReadFailure source = none
      · rw [← hadmits]
        simp [ConsentCluster.readLabels, hlabels]
      · have hselector : readsLabels selectors gateway = false := by tauto
        rw [admits_of_not_readsLabels hselector _ (.ok (c.labels source)), hadmits]
    rw [hbefore, hafter, hsame]

/-! ## A gateway with a selector -/

/-- A selector of one label. -/
def oneLabel : Selectors := fun selector =>
  some fun labels => selector.matchLabels.all fun entry => labels.contains entry

/-- A gateway of the namespace `vpn` that admits the namespaces of one team. -/
def teamGateway : EgressGateway :=
  { namespaceName := "vpn", name := "exit", uid := "gateway-uid", generation := 1
    observedGeneration := 1, supportedFeatures := [], conditions := []
    deletionTimestamp := none
    allowedRoutes := ⟨.selector, some ⟨[("team", "a")], []⟩⟩
    clusterTraffic := ⟨.bypassCluster, []⟩, addresses := [] }

/-- A cluster without gateways, where the Namespace `apps` can be read or not. -/
def appsCluster (namespaceFailure : Option String) : ConsentCluster :=
  { gateways := fun _ => none, labels := fun _ => [("team", "b")]
    gatewayReadFailure := fun _ => none, namespaceReadFailure := fun _ => namespaceFailure }

/-- With readable labels the gateway of the other team is hidden. -/
theorem absent_or_denied_apps :
    Indistinguishable oneLabel "apps" ⟨"vpn", "exit"⟩ (appsCluster none)
      ((appsCluster none).withGateway teamGateway) :=
  (absent_or_denied oneLabel "apps" ⟨"vpn", "exit"⟩ (appsCluster none) teamGateway (by decide) rfl
    rfl (by decide)).mpr (by simp [appsCluster])

/-- A route of the namespace `apps` to the gateway. -/
def appsRoute : VPNEgressRoute :=
  { namespaceName := "apps", name := "route", uid := "route-uid", generation := 1
    deletionTimestamp := none
    parentRefs := [{ group := "networking.waycloak.io", kind := "VPNGateway"
                     namespaceName := "vpn", name := "exit" }]
    requiredFeatures := [], status := .empty }

/-- If the labels of the source Namespace cannot be read, the status of a route says whether the
gateway that denies it exists. -/
theorem selector_read_reveals_gateway :
    teamGateway.permits oneLabel "apps" ((appsCluster none).labels "apps") = false ∧
    (desiredStatus oneLabel ((appsCluster (some "timeout")).routeAnswers 0) appsRoute).map
        (fun status => (findStatusCondition status.conditions .resolvedRefs).map (·.status)) =
      some (some .false) ∧
    (desiredStatus oneLabel
        (((appsCluster (some "timeout")).withGateway teamGateway).routeAnswers 0) appsRoute).map
        (fun status => (findStatusCondition status.conditions .resolvedRefs).map (·.status)) =
      some (some .unknown) := by
  refine ⟨by decide, by decide +kernel, by decide +kernel⟩

end Waycloak.Analysis
