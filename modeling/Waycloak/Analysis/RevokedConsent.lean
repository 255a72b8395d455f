import Waycloak.Model.PodBindings

/-!
# Withdrawing the bindings of a gateway that revoked its consent

A gateway's `allowedRoutes` is evaluated by the route controller and reaches the bindings
only through the status it writes on the route. `PodBindingReconciler` reads that status
first and goes no further with a route that is not eligible, so it withdraws a binding only
for a Pod whose route and gateway it resolves; and it creates a binding without looking at
`allowedRoutes` again.
-/

set_option autoImplicit false

namespace Waycloak.Analysis

open Waycloak.Model Waycloak.Computation

variable {api : PodBindingAPI} {b : VPNWorkloadBinding} {parsers : NetworkParsers}
  {selectors : Selectors} {target : PodTarget} {route : VPNEgressRoute} {pod : Pod}
  {answers : PodAnswers} {libraries : ClusterLibraries} {c : Cluster}
variable {status : VPNEgressRouteStatus} {shortHash : String → String} {after : Cluster}

/-! ## What a status says about a refused parent -/

/-- `ResolvedRefs=False` with reason `RefNotPermitted`. -/
def Refused (status : VPNEgressRouteStatus) : Prop :=
  ∃ condition, findStatusCondition status.conditions .resolvedRefs = some condition ∧
    condition.status = .false ∧ condition.reason = .refNotPermitted

/-- A status the route controller wrote at some time, or none at all. -/
def Written (selectors : Selectors) (status : VPNEgressRouteStatus) : Prop :=
  status = .empty ∨ ∃ answers route, desiredStatus selectors answers route = some status

theorem evaluateGateway_resolved (route : VPNEgressRoute) (gateway : EgressGateway)
    (statuses : RouteConditionSet) :
    (evaluateGateway route gateway statuses).resolved =
      .true .resolvedRefs "Parent reference is resolved" := by
  unfold evaluateGateway
  repeat' split
  all_goals rfl

theorem evaluateResolution_refused {resolution : Except String RouteGatewayResolution}
    (h : (evaluateResolution route resolution).resolved.reason = .refNotPermitted) :
    (evaluateResolution route resolution).ready.status ≠ .true := by
  unfold evaluateResolution at h ⊢
  split
  · simp [State.unknown]
  next resolution =>
  dsimp only at h
  split
  · simp [unresolvedRoute, State.false]
  next hpermitted =>
  rw [if_neg hpermitted] at h
  cases hgateway : resolution.gateway with
  | none => simp [unresolvedRoute, State.false]
  | some =>
    rw [hgateway] at h
    dsimp only at h
    rw [evaluateGateway_resolved] at h
    cases h

theorem conditions_resolved (set : RouteConditionSet) (previous : List Condition) (generation : Int)
    (now : Time) :
    ∃ time, findStatusCondition (set.conditions previous generation now) .resolvedRefs =
      some ⟨.resolvedRefs, set.resolved.status, set.resolved.reason, set.resolved.message,
        generation, time⟩ := by
  exact ⟨_, rfl⟩

theorem conditions_ready (set : RouteConditionSet) (previous : List Condition) (generation : Int)
    (now : Time) :
    ∃ time, findStatusCondition (set.conditions previous generation now) .ready =
      some ⟨.ready, set.ready.status, set.ready.reason, set.ready.message, generation, time⟩ := by
  exact ⟨_, rfl⟩

theorem desiredStatus_conditions {answers : RouteAnswers}
    (h : desiredStatus selectors answers route = some status) :
    ∃ resolution, status.conditions = (evaluateResolution route resolution).conditions
      route.status.conditions route.generation answers.now := by
  unfold desiredStatus at h
  cases hparents : route.parentRefs with
  | nil => simp [hparents] at h
  | cons =>
    rw [hparents] at h
    cases h
    exact ⟨_, rfl⟩

/-- INTERNAL: **a route whose written status refuses its parent is not eligible**, whatever its
specification has become since. -/
theorem refused_not_eligible (hwritten : Written selectors route.status)
    (hrefused : Refused route.status) : routeEligible route = false := by
  obtain ⟨condition, hfind, -, hreason⟩ := hrefused
  have hready : currentTrue route.status.conditions .ready route.status.observedGeneration
      route.generation = false := by
    rcases hwritten with hempty | ⟨answers, old, hstatus⟩
    · rw [hempty] at hfind
      cases hfind
    obtain ⟨resolution, hconditions⟩ := desiredStatus_conditions hstatus
    obtain ⟨time, hresolved⟩ := conditions_resolved (evaluateResolution old resolution)
      old.status.conditions old.generation answers.now
    obtain ⟨time', hshown⟩ := conditions_ready (evaluateResolution old resolution)
      old.status.conditions old.generation answers.now
    rw [hconditions, hresolved] at hfind
    cases hfind
    have hnot := evaluateResolution_refused hreason
    rw [hconditions]
    unfold currentTrue current
    rw [hshown]
    split
    · next hcurrent =>
      split at hcurrent
      · cases hcurrent
      dsimp only at hcurrent
      split at hcurrent
      · cases hcurrent
      · cases hcurrent
        simpa using hnot
    · rfl
  unfold routeEligible
  split
  · rfl
  · split
    · simp [hready]
    · rfl

/-! ## What a Pod's reconcile has resolved -/

/-- What the reads before the binding have passed. -/
structure Resolved (api : PodBindingAPI) (pod : Pod) (target : PodTarget) : Prop where
  read : api.route (pod.namespaceName, pod.routeLabel) = .ok target.route
  eligible : routeEligible target.route = true
  parent : ∃ parent, target.route.parentRefs.head? = some parent ∧
    api.gateway parent.key = .ok target.gateway

theorem resolveTarget_resolved (h : resolveTarget parsers api pod = .ok target) :
    Resolved api pod target := by
  revert h
  fun_cases resolveTarget parsers api pod with
  | case10 route hroute heligible parent _ hparents gateway hgateway =>
    rintro ⟨⟩
    exact ⟨hroute, by simpa using heligible, parent, by simp [hparents], hgateway⟩
  | _ => nofun

theorem resolveTarget_error {outcome : PodBindingOutcome}
    (h : resolveTarget parsers api pod = .error outcome) : outcome.write = none := by
  unfold resolveTarget at h
  repeat' split at h
  all_goals cases h
  all_goals rfl

/-! ## What every run keeps -/

/-- What the two controllers maintain: a route's status is one the route controller wrote, and a
binding lies under the name derived from its Pod's UID. -/
structure Maintained (libraries : ClusterLibraries) (c : Cluster) : Prop where
  written : ∀ route ∈ c.routes, Written libraries.selectors route.status
  named : ∀ b ∈ c.bindings, b.name = bindingName libraries.shortHash b.spec.podRef.uid

theorem keepRouteStatus_written {routes : KeyedStore VPNEgressRoute.key}
    (h : ∀ route ∈ routes, Written selectors route.status) (next : VPNEgressRoute) :
    Written selectors (keepRouteStatus routes next).status := by
  unfold keepRouteStatus
  split
  · next route hfind =>
    dsimp only
    split
    · exact h route (KeyedStore.find_eq_some.mp hfind).1
    · exact Or.inl rfl
  · exact Or.inl rfl

theorem reconcileRoute_written {answers : RouteAnswers}
    (h : VPNEgressRouteReconciler.reconcile selectors answers route = some status) :
    Written selectors status := by
  revert h
  fun_cases VPNEgressRouteReconciler.reconcile selectors answers route with
  | case5 _ _ hdesired =>
    rintro ⟨⟩
    exact Or.inr ⟨answers, route, hdesired⟩
  | _ => nofun

/-- A Pod reconcile that writes creates the binding of a Pod it resolved, or writes to the binding
it read under the Pod's name. -/
inductive PodWrite (parsers : NetworkParsers) (shortHash : String → String) (api : PodBindingAPI)
    (pod : Pod) : Option BindingWrite → Prop
  | quiet : PodWrite parsers shortHash api pod none
  | delete {target : PodTarget} {existing : VPNWorkloadBinding}
      (htarget : resolveTarget parsers api pod = .ok target)
      (hread : api.binding (pod.namespaceName, bindingName shortHash pod.uid) = .ok existing) :
      PodWrite parsers shortHash api pod (some (.delete existing))
  | patch {target : PodTarget} {existing : VPNWorkloadBinding} {network : WorkloadNetworkIntent}
      (htarget : resolveTarget parsers api pod = .ok target)
      (hread : api.binding (pod.namespaceName, bindingName shortHash pod.uid) = .ok existing) :
      PodWrite parsers shortHash api pod (some (.patchNetwork existing network))
  | create {target : PodTarget} {reservation : AddressReservation}
      (htarget : resolveTarget parsers api pod = .ok target)
      (hread : api.binding (pod.namespaceName, bindingName shortHash pod.uid) = .error .notFound)
      (hreserve : api.reserve target.gateway pod.uid target.pool = .ok reservation) :
      PodWrite parsers shortHash api pod
        (some (.create (desiredBinding shortHash pod target reservation)))

theorem reconcileExisting_write (parsers : NetworkParsers) (shortHash : String → String)
    {existing : VPNWorkloadBinding} (htarget : resolveTarget parsers api pod = .ok target)
    (hread : api.binding (pod.namespaceName, bindingName shortHash pod.uid) = .ok existing) :
    PodWrite parsers shortHash api pod (reconcileExisting api pod target existing).write := by
  fun_cases reconcileExisting api pod target existing with
  | case3 | case8 => exact .delete htarget hread
  | case6 => exact .patch htarget hread
  | _ => exact .quiet

theorem createBinding_write (htarget : resolveTarget parsers api pod = .ok target)
    (hread : api.binding (pod.namespaceName, bindingName shortHash pod.uid) = .error .notFound) :
    PodWrite parsers shortHash api pod (createBinding shortHash api pod target).write := by
  unfold createBinding
  split
  · exact .quiet
  · exact .quiet
  · next reservation hreserve =>
    split
    · exact .quiet
    · exact .quiet
    · exact .create htarget hread hreserve

theorem reconcile_write (parsers : NetworkParsers) (shortHash : String → String)
    (hpod : api.pod = .ok pod) :
    PodWrite parsers shortHash api pod
      (PodBindingReconciler.reconcile parsers shortHash api).write := by
  unfold PodBindingReconciler.reconcile
  rw [hpod]
  dsimp only
  split
  · exact .quiet
  split
  · next outcome houtcome =>
    rw [resolveTarget_error houtcome]
    exact .quiet
  next target htarget =>
  split
  · next existing hread => exact reconcileExisting_write parsers shortHash htarget hread
  · exact .quiet
  · next hread => exact createBinding_write htarget hread

theorem reconcile_unread {err : ReadError} (hpod : api.pod = .error err) :
    (PodBindingReconciler.reconcile parsers shortHash api).write = none := by
  unfold PodBindingReconciler.reconcile
  rw [hpod]
  cases err <;> rfl

@[simp] theorem markDeleting_spec (now : Time) (b : VPNWorkloadBinding) :
    (b.markDeleting now).spec = b.spec := by
  unfold VPNWorkloadBinding.markDeleting
  split <;> rfl

/-- INTERNAL: a stored binding after a write is the one created, or keeps the identity and
references of a binding stored before. -/
theorem mem_applyBindingWrite {bindings : KeyedStore VPNWorkloadBinding.key}
    {write : Option BindingWrite} (hb : b ∈ applyBindingWrite answers bindings write) :
    (∃ b₀ ∈ bindings, b.key = b₀.key ∧ b.spec.podRef = b₀.spec.podRef) ∨
      ∃ created, write = some (.create created) ∧ b = { created with uid := answers.uid } := by
  unfold applyBindingWrite at hb
  split at hb
  · exact Or.inl ⟨b, hb, rfl, rfl⟩
  · split at hb
    · exact Or.inl ⟨b, (KeyedStore.mem_delete.mp hb).1, rfl, rfl⟩
    obtain ⟨b₀, hb₀, rfl⟩ := KeyedStore.mem_update.mp hb
    refine Or.inl ⟨b₀, hb₀, ?_⟩
    split
    · exact ⟨markDeleting_key _ _, by rw [markDeleting_spec]⟩
    · exact ⟨rfl, rfl⟩
  · obtain ⟨b₀, hb₀, rfl⟩ := KeyedStore.mem_update.mp hb
    refine Or.inl ⟨b₀, hb₀, ?_⟩
    split <;> exact ⟨rfl, rfl⟩
  · next created =>
    cases hcreate : bindings.create { created with uid := answers.uid } with
    | none =>
      rw [hcreate] at hb
      exact Or.inl ⟨b, hb, rfl, rfl⟩
    | some =>
      rw [hcreate] at hb
      rcases (KeyedStore.mem_create hcreate).mp hb with hb | hb
      · exact Or.inl ⟨b, hb, rfl, rfl⟩
      · exact Or.inr ⟨created, rfl, hb⟩

/-- INTERNAL: **one step of the cluster.** -/
theorem next_maintained (h : Maintained libraries c) (event : ClusterEvent) :
    Maintained libraries (c.next libraries event).1 := by
  cases event with
  | environment next =>
    refine ⟨?_, h.named⟩
    intro route hroute
    have hroute : route ∈ next.routes.filterMap _ (keepRouteStatus_key c.routes) := hroute
    obtain ⟨route₀, -, hkept⟩ := KeyedStore.mem_filterMap.mp hroute
    cases hkept
    exact keepRouteStatus_written h.written route₀
  | changeBindings change =>
    refine ⟨h.written, ?_⟩
    intro b hb
    have hb : b ∈ c.bindings.filterMap _ (withMetadata_key change) := hb
    obtain ⟨b₀, hb₀, hchange⟩ := KeyedStore.mem_filterMap.mp hb
    obtain ⟨metadata, -, rfl⟩ := Option.map_eq_some_iff.mp hchange
    exact h.named b₀ hb₀
  | reconcileRoute key =>
    unfold Cluster.next
    dsimp only
    split
    · exact h
    split
    · exact h
    next route _ status hstatus =>
    refine ⟨?_, h.named⟩
    intro route' hroute'
    have hroute' : route' ∈ c.routes.update key _ (routeStatus_key status) := hroute'
    obtain ⟨route₀, hroute₀, rfl⟩ := KeyedStore.mem_update.mp hroute'
    split
    · exact reconcileRoute_written hstatus
    · exact h.written route₀ hroute₀
  | reconcilePod key answers =>
    refine ⟨h.written, ?_⟩
    intro b hb
    rcases mem_applyBindingWrite hb with ⟨b₀, hb₀, hkey, hpod⟩ | ⟨created, hwrite, rfl⟩
    · have hname : b.name = b₀.name := congrArg Prod.snd hkey
      rw [hname, hpod]
      exact h.named b₀ hb₀
    cases hread : (c.podAPI answers key).pod with
    | error err =>
      rw [reconcile_unread hread] at hwrite
      cases hwrite
    | ok pod =>
      have hshape := reconcile_write libraries.parsers libraries.shortHash hread
      rw [hwrite] at hshape
      cases hshape
      rfl

/-- INTERNAL: **every run of the cluster.** -/
theorem clusterRun_maintained {events : List ClusterEvent}
    {r : Record Cluster ClusterEvent (Option PodBindingOutcome)}
    (hr : r ∈ clusterRun libraries events) :
    r = record (Cluster.next libraries) r.before r.input ∧ Maintained libraries r.before := by
  have hinitial : Maintained libraries .empty :=
    ⟨fun route hroute => absurd hroute (KeyedStore.not_mem_empty route),
      fun b hb => absurd hb (KeyedStore.not_mem_empty b)⟩
  have hrun := (exec_linked (Cluster.next libraries) .empty events).invariant
    (P := Maintained libraries) (fun r _ hrec hbefore => by
      rw [hrec]
      exact next_maintained hbefore r.input) hinitial r hr
  exact ⟨hrun.1, hrun.2.1⟩

/-! ## Withdrawing and creating bindings -/

/-- A binding of the Pod that is not being deleted. -/
def LiveBinding (pod : Pod) (b : VPNWorkloadBinding) : Prop :=
  b.namespaceName = pod.namespaceName ∧ b.spec.podRef.uid = pod.uid ∧ b.deletionTimestamp = none

/-- The route controller has written on the Pod's route that the gateway of the binding does not
permit the reference. -/
def ConsentRevoked (c : Cluster) (pod : Pod) (b : VPNWorkloadBinding) : Prop :=
  ∃ route, c.routes.find (pod.namespaceName, pod.routeLabel) = some route ∧ Refused route.status ∧
    ∃ parent ∈ route.status.parents,
      parent.parentRef.key = (b.spec.gatewayRef.namespaceName, b.spec.gatewayRef.name)

/-- The Pod's route now names another gateway than the binding: another name, or another object
under the same name. -/
def MovedToAnotherGateway (c : Cluster) (pod : Pod) (b : VPNWorkloadBinding) : Prop :=
  ∃ route parent, c.routes.find (pod.namespaceName, pod.routeLabel) = some route ∧
    route.parentRefs.head? = some parent ∧
    (parent.key ≠ (b.spec.gatewayRef.namespaceName, b.spec.gatewayRef.name) ∨
      ∃ gateway, c.gateways.find parent.key = some gateway ∧ gateway.uid ≠ b.spec.gatewayRef.uid)

/-- No binding of the Pod to a gateway it lost is left without a deletion. -/
def WithdrawsLostBindings (pod : Pod) (before after : Cluster) : Prop :=
  ∀ b ∈ before.bindings, LiveBinding pod b →
    ConsentRevoked before pod b ∨ MovedToAnotherGateway before pod b →
    ∀ b' ∈ after.bindings, LiveBinding pod b' → b'.spec.gatewayRef ≠ b.spec.gatewayRef

/-- A binding that was not there before is to a gateway that permits its namespace. -/
def CreatesPermittedBindings (libraries : ClusterLibraries) (before after : Cluster) : Prop :=
  ∀ b ∈ after.bindings, before.bindings.find b.key = none →
    ∃ gateway,
      before.gateways.find (b.spec.gatewayRef.namespaceName, b.spec.gatewayRef.name) = some gateway ∧
      gateway.permits libraries.selectors b.namespaceName (before.labels b.namespaceName) = true

/-- The route and gateway the reconcile of a Pod resolves in this cluster. -/
def podTarget (libraries : ClusterLibraries) (c : Cluster) (answers : PodAnswers) (pod : Pod) :
    Except PodBindingOutcome PodTarget :=
  resolveTarget libraries.parsers (c.podAPI answers pod.key) pod

/-- The cases in which the reconcile of a Pod needs nothing from the consent it does not evaluate:
no live binding of the Pod has lost its gateway by a refusal, one that lost it by a move is of a Pod
that resolves to the new gateway, and the gateway of a Pod about to be bound permits its
namespace. -/
structure ConsentSettled (libraries : ClusterLibraries) (c : Cluster) (answers : PodAnswers)
    (pod : Pod) : Prop where
  notRevoked : ∀ b ∈ c.bindings, LiveBinding pod b → ¬ ConsentRevoked c pod b
  movedResolves : ∀ b ∈ c.bindings, LiveBinding pod b → MovedToAnotherGateway c pod b →
    ∃ target, podTarget libraries c answers pod = .ok target
  unboundPermitted : ∀ target reservation,
    c.bindings.find (pod.namespaceName, bindingName libraries.shortHash pod.uid) = none →
    podTarget libraries c answers pod = .ok target →
    answers.reserve target.gateway pod.uid target.pool = .ok reservation →
    target.gateway.permits libraries.selectors pod.namespaceName
      (c.labels pod.namespaceName) = true

/-- Requests that all succeed read what the cluster holds. -/
structure Succeeding (c : Cluster) (answers : PodAnswers)
    (key : NamespaceName × ObjectName) : Prop where
  route : ∀ k, (c.podAPI answers key).route k = readResult none (c.routes.find k)
  gateway : ∀ k, (c.podAPI answers key).gateway k = readResult none (c.gateways.find k)
  binding : ∀ k, (c.podAPI answers key).binding k = readResult none (c.bindings.find k)
  pod : (c.podAPI answers key).pod = readResult none (c.pods.find key)
  delete : (c.podAPI answers key).deleteFailure = none
  create : (c.podAPI answers key).createFailure = none

theorem succeed_reads (h : answers.succeed = true) (c : Cluster)
    (key : NamespaceName × ObjectName) : Succeeding c answers key := by
  simp only [PodAnswers.succeed, Bool.and_eq_true, Option.isNone_iff_eq_none] at h
  obtain ⟨⟨⟨⟨⟨⟨hpod, hroute⟩, hgateway⟩, hbinding⟩, hdelete⟩, -⟩, hcreate⟩ := h
  constructor <;> simp [Cluster.podAPI, *]

theorem readResult_ok {α : Type} {found : Option α} {a : α} (h : readResult none found = .ok a) :
    found = some a := by
  cases found with
  | none => cases h
  | some b =>
    cases h
    rfl

theorem target_found (hsucceed : answers.succeed = true)
    (h : podTarget libraries c answers pod = .ok target) :
    c.routes.find (pod.namespaceName, pod.routeLabel) = some target.route ∧
      routeEligible target.route = true ∧
      ∃ parent, target.route.parentRefs.head? = some parent ∧
        c.gateways.find parent.key = some target.gateway ∧ target.gateway.key = parent.key := by
  have hreads := succeed_reads hsucceed c pod.key
  obtain ⟨hroute, heligible, parent, hparent, hgateway⟩ := resolveTarget_resolved h
  rw [hreads.route] at hroute
  rw [hreads.gateway] at hgateway
  have hfound := readResult_ok hgateway
  exact ⟨readResult_ok hroute, heligible, parent, hparent, hfound,
    (KeyedStore.find_eq_some.mp hfound).2⟩

theorem live_found (h : Maintained libraries c) (hb : b ∈ c.bindings) (hlive : LiveBinding pod b) :
    c.bindings.find (pod.namespaceName, bindingName libraries.shortHash pod.uid) = some b := by
  refine KeyedStore.find_eq_some.mpr ⟨hb, ?_⟩
  rw [VPNWorkloadBinding.key, hlive.1, h.named b hb, hlive.2.1]

theorem revoked_unresolved (h : Maintained libraries c) (hsucceed : answers.succeed = true)
    (hrevoked : ConsentRevoked c pod b) (target : PodTarget) :
    podTarget libraries c answers pod ≠ .ok target := by
  intro htarget
  obtain ⟨route, hroute, hrefused, -⟩ := hrevoked
  obtain ⟨hfound, heligible, -⟩ := target_found hsucceed htarget
  rw [hroute] at hfound
  cases hfound
  have hwritten := h.written target.route (KeyedStore.find_eq_some.mp hroute).1
  rw [refused_not_eligible hwritten hrefused] at heligible
  cases heligible

theorem moved_mismatch (hsucceed : answers.succeed = true)
    (htarget : podTarget libraries c answers pod = .ok target)
    (hmoved : MovedToAnotherGateway c pod b) :
    bindingMatches b pod target.route target.gateway = false := by
  obtain ⟨route, parent, hroute, hparent, hother⟩ := hmoved
  obtain ⟨hfound, -, parent', hparent', hgateway, hkey⟩ := target_found hsucceed htarget
  rw [hroute] at hfound
  cases hfound
  rw [hparent] at hparent'
  cases hparent'
  have href : b.spec.gatewayRef ≠
      ⟨target.gateway.namespaceName, target.gateway.name, target.gateway.uid⟩ := by
    intro href
    rcases hother with hname | ⟨gateway, hgateway', huid⟩
    · apply hname
      rw [← hkey, href]
      rfl
    rw [hgateway] at hgateway'
    cases hgateway'
    apply huid
    rw [href]
  simp [bindingMatches, href]

section Reconcile

/-- The write of a Pod's reconcile. -/
def podWrite (libraries : ClusterLibraries) (c : Cluster) (answers : PodAnswers) (pod : Pod) :
    Option BindingWrite :=
  (PodBindingReconciler.reconcile libraries.parsers libraries.shortHash
    (c.podAPI answers pod.key)).write

theorem deleted_not_live {b' : VPNWorkloadBinding}
    (hb' : b' ∈ applyBindingWrite answers c.bindings (some (.delete b))) (hkey : b'.key = b.key) :
    b'.deletionTimestamp ≠ none := by
  unfold applyBindingWrite at hb'
  dsimp only at hb'
  split at hb'
  · exact absurd hkey (KeyedStore.mem_delete.mp hb').2
  obtain ⟨b₀, -, rfl⟩ := KeyedStore.mem_update.mp hb'
  split
  · unfold VPNWorkloadBinding.markDeleting
    split
    · next hsome => simpa [Option.isSome_iff_ne_none] using hsome
    · simp
  · next hother =>
    rw [if_neg hother] at hkey
    exact absurd hkey hother

variable (hsucceed : answers.succeed = true) (hpod : c.pods.find pod.key = some pod)

include hsucceed hpod

theorem created_resolved {created : VPNWorkloadBinding}
    (hwrite : podWrite libraries c answers pod = some (.create created)) :
    ∃ target reservation,
      c.bindings.find (pod.namespaceName, bindingName libraries.shortHash pod.uid) = none ∧
      podTarget libraries c answers pod = .ok target ∧
      answers.reserve target.gateway pod.uid target.pool = .ok reservation ∧
      created = desiredBinding libraries.shortHash pod target reservation := by
  have hreads := succeed_reads hsucceed c pod.key
  have hread : (c.podAPI answers pod.key).pod = .ok pod := by rw [hreads.pod, hpod]; rfl
  have hshape := reconcile_write libraries.parsers libraries.shortHash hread
  unfold podWrite at hwrite
  rw [hwrite] at hshape
  cases hshape with
  | create htarget hbinding hreserve =>
    refine ⟨_, _, ?_, htarget, hreserve, rfl⟩
    rw [hreads.binding] at hbinding
    cases hfind : c.bindings.find
        (pod.namespaceName, bindingName libraries.shortHash pod.uid) with
    | none => rfl
    | some =>
      rw [hfind] at hbinding
      cases hbinding

variable (henrolled : pod.enrolled = true)

include henrolled

theorem reconcile_target :
    podWrite libraries c answers pod =
      match podTarget libraries c answers pod with
      | .error _ => none
      | .ok target =>
        match c.bindings.find (pod.namespaceName, bindingName libraries.shortHash pod.uid) with
        | some existing => (reconcileExisting (c.podAPI answers pod.key) pod target existing).write
        | none => (createBinding libraries.shortHash (c.podAPI answers pod.key) pod target).write := by
  have hreads := succeed_reads hsucceed c pod.key
  have hread : (c.podAPI answers pod.key).pod = .ok pod := by rw [hreads.pod, hpod]; rfl
  unfold podWrite PodBindingReconciler.reconcile podTarget
  rw [hread]
  dsimp only
  rw [hreads.binding, if_neg (by simp [henrolled])]
  cases htarget : resolveTarget libraries.parsers (c.podAPI answers pod.key) pod with
  | error => exact resolveTarget_error htarget
  | ok => cases c.bindings.find (pod.namespaceName, bindingName libraries.shortHash pod.uid) <;> rfl

theorem unresolved_quiet (hnone : ∀ target, podTarget libraries c answers pod ≠ .ok target) :
    podWrite libraries c answers pod = none := by
  rw [reconcile_target hsucceed hpod henrolled]
  split
  · rfl
  · next target htarget => exact absurd htarget (hnone target)

theorem moved_deleted (h : Maintained libraries c) (hb : b ∈ c.bindings) (hlive : LiveBinding pod b)
    (hmoved : MovedToAnotherGateway c pod b)
    (htarget : podTarget libraries c answers pod = .ok target) :
    podWrite libraries c answers pod = some (.delete b) := by
  rw [reconcile_target hsucceed hpod henrolled, htarget, live_found h hb hlive]
  dsimp only
  unfold reconcileExisting
  rw [if_neg (by simp [hlive.2.1]), if_pos (moved_mismatch hsucceed htarget hmoved),
    if_pos (by simp [hlive.2.2]), (succeed_reads hsucceed c pod.key).delete]

theorem unbound_created {reservation : AddressReservation}
    (hnone : c.bindings.find (pod.namespaceName, bindingName libraries.shortHash pod.uid) = none)
    (htarget : podTarget libraries c answers pod = .ok target)
    (hreserve : answers.reserve target.gateway pod.uid target.pool = .ok reservation) :
    podWrite libraries c answers pod =
      some (.create (desiredBinding libraries.shortHash pod target reservation)) := by
  have hreserve' : (c.podAPI answers pod.key).reserve target.gateway pod.uid target.pool =
      .ok reservation := hreserve
  rw [reconcile_target hsucceed hpod henrolled, htarget, hnone]
  dsimp only
  unfold createBinding
  rw [hreserve', (succeed_reads hsucceed c pod.key).create]

theorem withdraws_iff (h : Maintained libraries c) (hafter : after.bindings =
      applyBindingWrite answers c.bindings (podWrite libraries c answers pod)) :
    WithdrawsLostBindings pod c after ↔
      ∀ b ∈ c.bindings, LiveBinding pod b → ¬ ConsentRevoked c pod b ∧
        (MovedToAnotherGateway c pod b → ∃ target, podTarget libraries c answers pod = .ok target) := by
  constructor
  · intro hwithdraws b hb hlive
    -- a Pod that resolves to nothing keeps the very binding that had to go
    have hresolves : ConsentRevoked c pod b ∨ MovedToAnotherGateway c pod b →
        ∃ target, podTarget libraries c answers pod = .ok target := by
      intro hlost
      by_contra hnone
      have hquiet := unresolved_quiet hsucceed hpod henrolled (not_exists.mp hnone)
      have hkept : b ∈ after.bindings := by rw [hafter, hquiet]; exact hb
      exact hwithdraws b hb hlive hlost b hkept hlive rfl
    refine ⟨?_, fun hmoved => hresolves (Or.inr hmoved)⟩
    intro hrevoked
    obtain ⟨target, htarget⟩ := hresolves (Or.inl hrevoked)
    exact revoked_unresolved h hsucceed hrevoked target htarget
  · intro hcond b hb hlive hlost b' hb' hlive'
    obtain ⟨hnot, hresolves⟩ := hcond b hb hlive
    have hmoved := hlost.resolve_left hnot
    obtain ⟨target, htarget⟩ := hresolves hmoved
    have hwrite := moved_deleted hsucceed hpod henrolled h hb hlive hmoved htarget
    rw [hafter, hwrite] at hb'
    have hkey : b'.key = b.key := by
      rcases mem_applyBindingWrite hb' with ⟨b₀, hb₀, hkey, hpodRef⟩ | ⟨created, hcreate, -⟩
      · have hlive₀ : b₀.key = b.key := by
          have hns : b'.namespaceName = b₀.namespaceName := congrArg Prod.fst hkey
          rw [VPNWorkloadBinding.key, VPNWorkloadBinding.key, ← hns, h.named b₀ hb₀, ← hpodRef,
            h.named b hb, hlive'.1, hlive'.2.1, hlive.1, hlive.2.1]
        rw [hkey, hlive₀]
      · cases hcreate
    exact absurd hlive'.2.2 (deleted_not_live hb' hkey)

theorem creates_iff (hafter : after.bindings =
      applyBindingWrite answers c.bindings (podWrite libraries c answers pod)) :
    CreatesPermittedBindings libraries c after ↔
      ∀ target reservation,
        c.bindings.find (pod.namespaceName, bindingName libraries.shortHash pod.uid) = none →
        podTarget libraries c answers pod = .ok target →
        answers.reserve target.gateway pod.uid target.pool = .ok reservation →
        target.gateway.permits libraries.selectors pod.namespaceName
          (c.labels pod.namespaceName) = true := by
  constructor
  · intro hcreates target reservation hnone htarget hreserve
    obtain ⟨-, -, parent, -, hgateway, hkey⟩ := target_found hsucceed htarget
    have hwrite := unbound_created hsucceed hpod henrolled hnone htarget hreserve
    let created := desiredBinding libraries.shortHash pod target reservation
    have hmem : ({ created with uid := answers.uid } : VPNWorkloadBinding) ∈ after.bindings := by
      rw [hafter, hwrite]
      unfold applyBindingWrite
      cases hcreate : c.bindings.create { created with uid := answers.uid } with
      | none =>
        obtain ⟨b, hb, hbkey⟩ := KeyedStore.create_eq_none.mp hcreate
        exact absurd hbkey (KeyedStore.find_eq_none.mp hnone b hb)
      | some =>
        dsimp only
        rw [hcreate]
        exact (KeyedStore.mem_create hcreate).mpr (Or.inr rfl)
    obtain ⟨gateway, hfound, hpermits⟩ := hcreates _ hmem hnone
    have hsame : c.gateways.find target.gateway.key = some target.gateway := by rw [hkey, hgateway]
    have hgatewayEq : gateway = target.gateway := Option.some.inj (hfound.symm.trans hsame)
    rw [← hgatewayEq]
    exact hpermits
  · intro hcond b hb hfresh
    rw [hafter] at hb
    rcases mem_applyBindingWrite hb with ⟨b₀, hb₀, hkey, -⟩ | ⟨created, hwrite, rfl⟩
    · rw [hkey] at hfresh
      exact absurd rfl (KeyedStore.find_eq_none.mp hfresh b₀ hb₀)
    obtain ⟨target, reservation, hnone, htarget, hreserve, rfl⟩ :=
      created_resolved hsucceed hpod hwrite
    obtain ⟨-, -, parent, -, hgateway, hkey⟩ := target_found hsucceed htarget
    refine ⟨target.gateway, ?_, hcond target reservation hnone htarget hreserve⟩
    rw [← hgateway, ← hkey]
    rfl

end Reconcile

/-- **What a Pod's reconcile withdraws and creates.** In every run of the cluster, whatever the
history of gateways, Namespace labels and routes, a reconcile of an enrolled Pod whose requests all
succeed withdraws the bindings the Pod lost and creates only permitted ones exactly when the
consent it does not evaluate is settled: a refusal the route controller has written is never
followed by a withdrawal, a move only once the new gateway resolves, and a new binding is permitted
only if the gateway happens to permit it. -/
theorem revocation_withdraws_iff (libraries : ClusterLibraries) (events : List ClusterEvent)
    (r : Record Cluster ClusterEvent (Option PodBindingOutcome))
    (hr : r ∈ clusterRun libraries events) (answers : PodAnswers) (pod : Pod)
    (hinput : r.input = .reconcilePod pod.key answers) (hsucceed : answers.succeed = true)
    (hpod : r.before.pods.find pod.key = some pod) (henrolled : pod.enrolled = true) :
    (WithdrawsLostBindings pod r.before r.after ∧
      CreatesPermittedBindings libraries r.before r.after) ↔
      ConsentSettled libraries r.before answers pod := by
  obtain ⟨hrec, hmaintained⟩ := clusterRun_maintained hr
  have hafter : r.after.bindings =
      applyBindingWrite answers r.before.bindings (podWrite libraries r.before answers pod) := by
    rw [hrec, hinput]
    rfl
  rw [withdraws_iff hsucceed hpod henrolled hmaintained hafter,
    creates_iff hsucceed hpod henrolled hafter]
  constructor
  · rintro ⟨hlost, hcreated⟩
    exact ⟨fun b hb hlive => (hlost b hb hlive).1, fun b hb hlive => (hlost b hb hlive).2, hcreated⟩
  · intro hsettled
    exact ⟨fun b hb hlive => ⟨hsettled.notRevoked b hb hlive, hsettled.movedResolves b hb hlive⟩,
      hsettled.unboundPermitted⟩

/-! ## A Pod in `apps`, its route, and two gateways in `vpn` -/

/-- Parsers that read every text as the same pool, address, endpoint and number. -/
def fixedParsers : NetworkParsers :=
  { parsePrefix := fun _ => some ⟨.v4 0x0a4d0000#32, 24⟩
    parseAddr := fun _ => some (.v4 0x0a4d0001#32)
    parseAddrPort := fun _ => some ⟨.v4 0xc0a80001#32, 4789⟩
    parseInt32 := fun _ => some 1400 }

def consentLibraries : ClusterLibraries :=
  { selectors := fun _ => none, parsers := fixedParsers, shortHash := id }

/-- A condition that is true at a generation. -/
def trueAt (generation : Int) (type : ConditionType) (reason : Reason) (message : String) :
    Condition :=
  ⟨type, .true, reason, message, generation, 0⟩

/-- A ready gateway in `vpn`. -/
def consentGateway (name : ObjectName) (generation : Int) (origin : RouteNamespaceFrom) :
    EgressGateway :=
  { namespaceName := "vpn", name, uid := name ++ "-uid", generation
    observedGeneration := generation, supportedFeatures := []
    conditions := [trueAt generation .accepted .accepted "", trueAt generation .programmed .programmed "",
      trueAt generation .ready .ready ""]
    deletionTimestamp := none
    allowedRoutes := { origin, selector := none }
    clusterTraffic := { mode := .tunnelAll, bypassCIDRs := [] }
    addresses := requiredAddressTypes.map fun type => ⟨type, "set"⟩ }

def consentParent (name : ObjectName) : GatewayParentReference :=
  ⟨"networking.waycloak.io", "VPNGateway", "vpn", name⟩

/-- The Pod's route to one of the gateways. -/
def consentRoute (gateway : ObjectName) (generation : Int) (status : VPNEgressRouteStatus) :
    VPNEgressRoute :=
  { namespaceName := "apps", name := "private", uid := "route-uid", generation
    deletionTimestamp := none, parentRefs := [consentParent gateway], requiredFeatures := [], status }

def consentPod : Pod :=
  { namespaceName := "apps", name := "web", uid := "pod-uid", routeLabel := "private"
    nodeName := "node-a", deletionTimestamp := none, phase := .running, podIP := "" }

/-- The cluster of the environment, with the first gateway, the second one ready for everyone, and
the route. -/
def consentCluster (first : EgressGateway) (hname : first.name = "first") (route : VPNEgressRoute) :
    Cluster :=
  { labels := fun _ => []
    pods := ⟨[consentPod], by simp⟩
    routes := ⟨[route], by simp⟩
    gateways := ⟨[first, consentGateway "second" 1 .all], by
      simp [EgressGateway.key, hname, consentGateway]⟩
    bindings := .empty _ }

/-- Requests that succeed, and an address that is free. -/
def servedPod : PodAnswers :=
  { podFailure := none, routeFailure := none, gatewayFailure := none, bindingFailure := none
    ensure := fun _ _ => .ok ()
    reserve := fun _ _ _ => .ok { identity := "identity", address := ⟨.v4 0x0a4d0002#32, 32⟩ }
    deleteFailure := none, patchFailure := none, createFailure := none
    uid := "binding-uid", now := 1 }

def routeServed : ClusterEvent :=
  .reconcileRoute ("apps", "private")
    { gatewayFailure := none, labelsFailure := none, writeFailure := none, now := 0 }

/-- The Pod is bound to the first gateway, and then something changes. -/
def boundThen (change : List ClusterEvent) : List ClusterEvent :=
  [.environment (consentCluster (consentGateway "first" 1 .all) rfl (consentRoute "first" 1 .empty)),
    routeServed, .reconcilePod consentPod.key servedPod] ++ change ++
    [routeServed, .reconcilePod consentPod.key servedPod]

/-- The binding of the Pod to the first gateway. -/
def boundToFirst : VPNWorkloadBinding :=
  { namespaceName := "apps", name := "pod-pod-uid", uid := "binding-uid", generation := 1
    deletionTimestamp := none, finalizers := [dataplaneCleanupFinalizer]
    spec :=
      { podRef := ⟨"web", "pod-uid"⟩, routeRef := ⟨"private", "route-uid"⟩
        gatewayRef := ⟨"vpn", "first", "first-uid"⟩, nodeName := "node-a"
        allocation := { identity := "identity", address := "10.77.0.2/32" }
        network :=
          { gatewayGeneration := 1, overlayCIDR := "10.77.0.0/24", gatewayAddress := "10.77.0.1"
            gatewayEndpoint := "192.168.0.1:4789", gatewayHealthPort := 1400, vni := 1400
            mtu := 1400, clusterTraffic := { mode := .tunnelAll, bypassCIDRs := [] } } }
    status := .empty }

/-- The status written for a route that is ready. -/
def readyStatus (gateway : ObjectName) (generation : Int) : VPNEgressRouteStatus :=
  let conditions := [trueAt generation .accepted .accepted "Route intent is accepted",
    trueAt generation .resolvedRefs .resolvedRefs "Parent reference is resolved",
    trueAt generation .programmed .programmed "Parent gateway is programmed",
    trueAt generation .ready .ready "Protected route is ready"]
  { observedGeneration := generation, conditions
    parents := [⟨consentParent gateway, routeControllerName, conditions⟩] }

/-- The status written once the first gateway has stopped consenting. -/
def refusedStatus : VPNEgressRouteStatus :=
  let conditions : List Condition := [trueAt 1 .accepted .accepted "Route intent is accepted",
    ⟨.resolvedRefs, .false, .refNotPermitted, "Parent reference is not permitted", 1, 0⟩,
    ⟨.programmed, .false, .pending, "Route programming is pending", 1, 0⟩,
    ⟨.ready, .false, .notReady, "Protected route is not ready", 1, 0⟩]
  { observedGeneration := 1, conditions
    parents := [⟨consentParent "first", routeControllerName, conditions⟩] }

/-- The route is given the second gateway as its parent. -/
def movedEvents : List ClusterEvent :=
  boundThen [.environment
    (consentCluster (consentGateway "first" 1 .all) rfl (consentRoute "second" 2 .empty))]

/-- The first gateway stops admitting other namespaces. -/
def revokedEvents : List ClusterEvent :=
  boundThen [.environment
    (consentCluster (consentGateway "first" 2 .same) rfl (consentRoute "first" 1 .empty))]

/-- The binding of a Pod whose route moved to a gateway that resolves is withdrawn. -/
theorem revocation_withdraws_moved : ∃ r ∈ clusterRun consentLibraries movedEvents,
      (boundToFirst ∈ r.before.bindings ∧ LiveBinding consentPod boundToFirst ∧
        MovedToAnotherGateway r.before consentPod boundToFirst) ∧
      WithdrawsLostBindings consentPod r.before r.after ∧
      CreatesPermittedBindings consentLibraries r.before r.after := by
  let r := (clusterRun consentLibraries movedEvents).get ⟨5, by decide⟩
  have hr : r ∈ clusterRun consentLibraries movedEvents := List.get_mem _ _
  have hroute : r.before.routes.find ("apps", "private") =
      some (consentRoute "second" 2 (readyStatus "second" 2)) := by decide +kernel
  have hbound : r.before.bindings.entries = [boundToFirst] := by decide +kernel
  have hresolves : (podTarget consentLibraries r.before servedPod consentPod).toOption.isSome =
      true := by decide +kernel
  refine ⟨r, hr, ⟨by rw [← KeyedStore.mem_entries, hbound]; simp, ⟨rfl, rfl, rfl⟩, _, _, hroute,
    rfl, Or.inl (by decide)⟩, ?_⟩
  refine (revocation_withdraws_iff consentLibraries movedEvents r hr servedPod consentPod rfl rfl
    (by decide +kernel) rfl).mpr ⟨?_, ?_, ?_⟩
  · rintro b - - ⟨route, hfound, ⟨condition, hcondition, hfalse, -⟩, -⟩
    have hsame := Option.some.inj (hfound.symm.trans hroute)
    rw [hsame] at hcondition
    cases hcondition
    cases hfalse
  · intro b hb hlive hmoved
    cases htarget : podTarget consentLibraries r.before servedPod consentPod with
    | ok target => exact ⟨target, rfl⟩
    | error =>
      rw [htarget] at hresolves
      cases hresolves
  · intro target reservation hnone
    have hfound : r.before.bindings.find
        (consentPod.namespaceName, bindingName consentLibraries.shortHash consentPod.uid) =
        some boundToFirst := by decide +kernel
    rw [hfound] at hnone
    cases hnone

/-- The route controller has written that the gateway no longer permits the route, and the Pod's
reconcile leaves the binding to that gateway as it is. -/
theorem refused_route_keeps_binding : ∃ r ∈ clusterRun consentLibraries revokedEvents,
      r.input = .reconcilePod consentPod.key servedPod ∧ servedPod.succeed = true ∧
      r.before.pods.find consentPod.key = some consentPod ∧ consentPod.enrolled = true ∧
      ConsentRevoked r.before consentPod boundToFirst ∧
      ¬ WithdrawsLostBindings consentPod r.before r.after := by
  let r := (clusterRun consentLibraries revokedEvents).get ⟨5, by decide⟩
  have hroute : r.before.routes.find ("apps", "private") =
      some (consentRoute "first" 1 refusedStatus) := by decide +kernel
  have hbefore : r.before.bindings.entries = [boundToFirst] := by decide +kernel
  have hafter : r.after.bindings.entries = [boundToFirst] := by decide +kernel
  have hrevoked : ConsentRevoked r.before consentPod boundToFirst :=
    ⟨_, hroute, ⟨_, rfl, rfl, rfl⟩, _, List.mem_singleton_self _, rfl⟩
  refine ⟨r, List.get_mem _ _, rfl, rfl, by decide +kernel, rfl, hrevoked, ?_⟩
  intro hwithdraws
  refine hwithdraws boundToFirst ?_ ⟨rfl, rfl, rfl⟩ (Or.inl hrevoked) boundToFirst ?_
    ⟨rfl, rfl, rfl⟩ rfl
  · rw [← KeyedStore.mem_entries, hbefore]
    simp
  · rw [← KeyedStore.mem_entries, hafter]
    simp

end Waycloak.Analysis
