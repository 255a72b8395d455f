import Waycloak.Model.Resolver

/-!
# Egress routes and the consent of their gateways

`VPNEgressRouteReconciler` writes a route's status from one observation of its parent
gateway. Whether the route may see that gateway at all is decided by `GatewayAuthorizer`,
from the gateway's `allowedRoutes` and the labels of the route's Namespace.

`metav1.LabelSelectorAsSelector` is a parameter of the model.
-/

set_option autoImplicit false

namespace Waycloak.Model

/-! ## Gateways as routes and bindings read them -/

/-- A Namespace's labels. -/
abbrev Labels := List (String × String)

structure LabelSelectorRequirement where
  key : String
  operator : String
  values : List String
  deriving DecidableEq

/-- `metav1.LabelSelector`. -/
structure LabelSelector where
  matchLabels : Labels
  matchExpressions : List LabelSelectorRequirement
  deriving DecidableEq

/-- `metav1.LabelSelectorAsSelector`: the matching it compiles to, unless the selector is invalid. -/
abbrev Selectors := LabelSelector → Option (Labels → Bool)

/-- SOURCE: api/v1beta1/vpngateway_types.go:27-33 -/
inductive RouteNamespaceFrom where
  | unset | same | selector | all
  | other (text : String)
  deriving DecidableEq

/-- `AllowedRoutes.Namespaces`.
SOURCE: api/v1beta1/vpngateway_types.go:36-49 -/
structure RouteNamespaces where
  origin : RouteNamespaceFrom
  selector : Option LabelSelector
  deriving DecidableEq

/-- SOURCE: api/v1beta1/vpngateway_types.go:11-18 -/
inductive GatewayAddressType where
  | overlayCIDR | overlayAddress | underlayEndpoint | overlayHealthPort | vni | mtu
  | other (text : String)
  deriving DecidableEq

structure GatewayAddress where
  type : GatewayAddressType
  value : String
  deriving DecidableEq

/-- A `VPNGateway` with the fields routes and workload bindings read. -/
structure EgressGateway extends VPNGateway where
  deletionTimestamp : Option Time
  allowedRoutes : RouteNamespaces
  clusterTraffic : ClusterTraffic
  addresses : List GatewayAddress
  deriving DecidableEq

variable (gateway : EgressGateway) (selectors : Selectors)

def EgressGateway.key : NamespaceName × ObjectName :=
  (gateway.namespaceName, gateway.name)

/-! ## VPNEgressRoute -/

/-- SOURCE: api/v1beta1/vpnegressroute_types.go:8-19 -/
structure GatewayParentReference where
  group : String
  kind : String
  namespaceName : NamespaceName
  name : ObjectName
  deriving DecidableEq

def GatewayParentReference.key (parent : GatewayParentReference) : NamespaceName × ObjectName :=
  (parent.namespaceName, parent.name)

structure RouteParentStatus where
  parentRef : GatewayParentReference
  controllerName : String
  conditions : List Condition
  deriving DecidableEq

/-- SOURCE: api/v1beta1/vpnegressroute_types.go:47-57 -/
structure VPNEgressRouteStatus where
  observedGeneration : Int
  conditions : List Condition
  parents : List RouteParentStatus
  deriving DecidableEq

/-- The status of a route nothing has written yet. -/
def VPNEgressRouteStatus.empty : VPNEgressRouteStatus :=
  { observedGeneration := 0, conditions := [], parents := [] }

structure VPNEgressRoute where
  namespaceName : NamespaceName
  name : ObjectName
  uid : ObjectUID
  generation : Int
  deletionTimestamp : Option Time
  parentRefs : List GatewayParentReference
  requiredFeatures : List FeatureName
  status : VPNEgressRouteStatus
  deriving DecidableEq

variable (route : VPNEgressRoute)

def VPNEgressRoute.key : NamespaceName × ObjectName :=
  (route.namespaceName, route.name)

/-! ## The gateway's consent -/

/-- Whether a gateway read from another namespace admits routes of a Namespace with these labels.
The labels are read only for a selector that compiles.
SOURCE: reference/gateway.go:70-92 -/
def EgressGateway.admits (labels : Except String Labels) : Except String Bool :=
  match gateway.allowedRoutes.origin with
  | .unset | .same => .ok false
  | .all => .ok true
  | .selector =>
    match gateway.allowedRoutes.selector with
    | none => .ok false
    | some selector =>
      match selectors selector with
      | none => .ok false
      | some matching =>
        match labels with
        | .error err => .error ("observe source namespace policy labels: " ++ err)
        | .ok labels => .ok (matching labels)
  | .other _ => .ok false

/-- The gateway object permits routes of a namespace with these labels.
SOURCE: reference/gateway.go:51-92 -/
def EgressGateway.permits (sourceNamespace : NamespaceName) (labels : Labels) : Bool :=
  sourceNamespace == gateway.namespaceName ||
    match gateway.admits selectors (.ok labels) with
    | .ok admitted => admitted
    | .error _ => false

/-- `reference.GatewayResolution`.
SOURCE: reference/gateway.go:21-27 -/
structure RouteGatewayResolution where
  permitted : Bool
  gateway : Option EgressGateway
  deriving DecidableEq

def ReadError.text : ReadError → String
  | .notFound => "not found"
  | .other text => text

/-- `GatewayAuthorizer.ResolveGateway`: a missing gateway of another namespace and one that does
not consent give the same answer.
SOURCE: reference/gateway.go:40-93 -/
def resolveGateway (sourceNamespace : NamespaceName)
    (ref : NamespacedObjectReference) (gateway : Except ReadError EgressGateway)
    (labels : Except String Labels) : Except String RouteGatewayResolution :=
  if sourceNamespace = "" ∨ ref.namespaceName = "" ∨ ref.name = "" then
    .error "source namespace and gateway reference are required"
  else if sourceNamespace = ref.namespaceName then
    match gateway with
    | .error .notFound => .ok { permitted := true, gateway := none }
    | .error (.other err) => .error ("observe local gateway reference: " ++ err)
    | .ok gateway => .ok { permitted := true, gateway := some gateway }
  else
    match gateway with
    | .error .notFound => .ok { permitted := false, gateway := none }
    | .error (.other err) => .error ("observe remote gateway consent: " ++ err)
    | .ok gateway =>
      match gateway.admits selectors labels with
      | .error err => .error err
      | .ok true => .ok { permitted := true, gateway := some gateway }
      | .ok false => .ok { permitted := false, gateway := none }

/-! ## The status of a route -/

/-- SOURCE: controller/vpnegressroute_controller.go:178-183 -/
structure RouteConditionSet where
  accepted : State
  resolved : State
  programmed : State
  ready : State

/-- `RouteControllerName`. -/
def routeControllerName : String := "networking.waycloak.io/route-controller"

/-- SOURCE: controller/vpnegressroute_controller.go:168-170 -/
def currentCondition (type : ConditionType) : Option Condition :=
  current gateway.conditions type gateway.observedGeneration gateway.generation

/-- The gateway's current condition, when it is not `Unknown`. -/
def observedCondition (type : ConditionType) : Option Condition :=
  match currentCondition gateway type with
  | none => none
  | some condition => if condition.status = .unknown then none else some condition

def supportsRequired (gateway : EgressGateway) : Bool :=
  route.requiredFeatures.all fun feature => gateway.supportedFeatures.contains feature

/-- SOURCE: controller/vpnegressroute_controller.go:105-166 -/
def evaluateGateway (gateway : EgressGateway) (statuses : RouteConditionSet) : RouteConditionSet :=
  let statuses := { statuses with resolved := .true .resolvedRefs "Parent reference is resolved" }
  if gateway.deletionTimestamp.isSome then
    { statuses with
      accepted := .false .deleting "Parent gateway is deleting"
      programmed := .false .pending "Route programming is withdrawn"
      ready := .false .deleting "Parent gateway is deleting" }
  else if gateway.observedGeneration ≠ gateway.generation then
    { statuses with
      accepted := .unknown "Parent acceptance observation is unavailable"
      programmed := .unknown "Parent programming observation is unavailable"
      ready := .unknown "Parent readiness observation is unavailable" }
  else match observedCondition gateway .accepted with
    | none =>
      { statuses with
        accepted := .unknown "Parent acceptance observation is unavailable"
        programmed := .unknown "Parent programming observation is unavailable"
        ready := .unknown "Parent readiness observation is unavailable" }
    | some accepted =>
      if accepted.status ≠ .true then
        { statuses with accepted := .false .unsupportedClass "Parent gateway is not accepted" }
      else if supportsRequired route gateway = false then
        { statuses with
          accepted := .false .unsupportedFeature "A required route feature is unavailable" }
      else match observedCondition gateway .programmed with
        | none =>
          { statuses with
            programmed := .unknown "Parent programming observation is unavailable"
            ready := .unknown "Parent readiness observation is unavailable" }
        | some programmed =>
          if programmed.status ≠ .true then
            let reason := if programmed.reason ≠ .applyFailed ∧ programmed.reason ≠ .staleGeneration
              then .pending else programmed.reason
            { statuses with programmed := .false reason "Parent gateway is not programmed" }
          else
            let statuses :=
              { statuses with programmed := .true .programmed "Parent gateway is programmed" }
            match observedCondition gateway .ready with
            | none =>
              { statuses with ready := .unknown "Parent readiness observation is unavailable" }
            | some ready =>
              if ready.status ≠ .true then
                { statuses with ready := .false .notReady "Parent gateway is not ready" }
              else { statuses with ready := .true .ready "Protected route is ready" }

/-- The conditions a route starts from, before its parent has been resolved.
SOURCE: controller/vpnegressroute_controller.go:68-73 -/
def unresolvedRoute : RouteConditionSet :=
  { accepted := .true .accepted "Route intent is accepted"
    resolved := .false .refNotFound "Parent reference is unresolved"
    programmed := .false .pending "Route programming is pending"
    ready := .false .notReady "Protected route is not ready" }

/-- The four conditions from the answer of the authorizer.
SOURCE: controller/vpnegressroute_controller.go:82-95 -/
def evaluateResolution : Except String RouteGatewayResolution → RouteConditionSet
  | .error _ =>
    { unresolvedRoute with
      resolved := .unknown "Reference authorization is unavailable"
      programmed := .unknown "Route programming observation is unavailable"
      ready := .unknown "Protected route observation is unavailable" }
  | .ok resolution =>
    if resolution.permitted = false then
      { unresolvedRoute with
        resolved := .false .refNotPermitted "Parent reference is not permitted" }
    else match resolution.gateway with
      | none =>
        { unresolvedRoute with resolved := .false .refNotFound "Parent reference was not found" }
      | some gateway => evaluateGateway route gateway unresolvedRoute

/-- SOURCE: controller/vpnegressroute_controller.go:190-198 -/
def RouteConditionSet.conditions (s : RouteConditionSet) (previous : List Condition)
    (generation : Int) (now : Time) : List Condition :=
  build previous generation now [.accepted, .resolvedRefs, .programmed, .ready] fun type =>
    match type with
    | .accepted => some s.accepted
    | .resolvedRefs => some s.resolved
    | .programmed => some s.programmed
    | .ready => some s.ready
    | _ => none

/-- What the API answers while a route is reconciled: its parent gateway under a key, the labels of
its Namespace, and whether the status write fails. -/
structure RouteAnswers where
  gateway : NamespaceName × ObjectName → Except ReadError EgressGateway
  labels : NamespaceName → Except String Labels
  writeFailure : Option String
  now : Time

/-- `desiredStatus`; it reads the first parent reference, which the API requires to exist.
SOURCE: controller/vpnegressroute_controller.go:66-103 -/
def desiredStatus (answers : RouteAnswers) (route : VPNEgressRoute) : Option VPNEgressRouteStatus :=
  match route.parentRefs with
  | [] => none
  | parent :: _ =>
    let resolution := resolveGateway selectors route.namespaceName
      ⟨parent.namespaceName, parent.name⟩ (answers.gateway parent.key)
      (answers.labels route.namespaceName)
    let conditions := (evaluateResolution route resolution).conditions route.status.conditions
      route.generation answers.now
    some
      { observedGeneration := route.generation
        conditions
        parents := [{ parentRef := parent, controllerName := routeControllerName, conditions }] }

/-- The status `VPNEgressRouteReconciler.Reconcile` stores for a route it has read, if any.
SOURCE: controller/vpnegressroute_controller.go:39-64 -/
def VPNEgressRouteReconciler.reconcile (answers : RouteAnswers)
    (route : VPNEgressRoute) : Option VPNEgressRouteStatus :=
  if route.deletionTimestamp.isSome then none
  else match desiredStatus selectors answers route with
    | none => none
    | some desired =>
      if route.status = desired then none
      else if answers.writeFailure.isSome then none
      else some desired

end Waycloak.Model
