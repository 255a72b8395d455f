import Mathlib.Algebra.Group.Nat.Defs
import Waycloak.Model.Runtime
import Mathlib.Data.List.AList

/-!
# The gateway runtime manager

`GatewayRuntimeManager` owns provider acquisition and the complete rule and
delivery set of one gateway. Its only mutable data is `states`, the map from lease
UID to `RuntimeState`; one lock serialises its calls, so a call is a function of
the states and of what its backends answer during the call.

Everything the environment decides is in `Backends`: the answers of the provider,
of the rule backend and of the delivery backend (each a function of its argument,
chosen afresh for every call), and the readings of the clock. `m.now()` is read
several times in one call, for each visited lease in the rule set and in the
capacity count, and every reading is a field of its own.

What a call does to the outside is the list of its `Effect`s, in order. Telemetry
is left out.
-/

set_option autoImplicit false

namespace Waycloak.Model

/-! ## The provider's vocabulary -/

/-- SOURCE: provider/portforward.go:12-17 -/
inductive PortForwardProtocol where
  | tcp | udp
  | other (text : String)
  deriving DecidableEq

def PortForwardProtocol.text : PortForwardProtocol → String
  | .tcp => "TCP"
  | .udp => "UDP"
  | .other text => text

/-- The capability fields the runtime reads. `maxLeases` is an `int32`.
SOURCE: provider/portforward.go:19-27 -/
structure PortForwardCapabilities where
  protocols : List PortForwardProtocol
  maxLeases : Int
  sharedPort : Bool
  deriving DecidableEq

/-- SOURCE: provider/portforward.go:31-36 -/
structure PortForwardLeaseRequest where
  identity : String
  internalPort : UInt16
  suggestedExternalPort : UInt16
  protocols : List PortForwardProtocol
  deriving DecidableEq

/-- SOURCE: provider/portforward.go:38-44 -/
structure PortForwardLeaseObservation where
  publicAddress : Addr
  publicPort : UInt16
  renewAfter : Time
  expiresAt : Time
  deriving DecidableEq

/-- SOURCE: portforward/manager.go:20-27 -/
structure GatewayRule where
  leaseUID : ObjectUID
  handoffGeneration : Int
  ingressPort : UInt16
  overlayAddress : String
  targetPort : UInt16
  protocols : List TransportProtocol
  deriving DecidableEq

/-! ## What a call meets -/

/-- The provider's answers during one call. -/
structure PortForwardCapability where
  observeCapabilities : Except String PortForwardCapabilities
  ensureLease : PortForwardLeaseRequest → Except String PortForwardLeaseObservation
  releaseLease : PortForwardLeaseRequest → Option String

/-- The rule backend's answers during one call; `replace` answers with an error or
accepts the set. -/
structure RuleBackend where
  replace : List GatewayRule → Option String
  ready : GatewayRule → Bool × Option String
  withdrawn : ObjectUID → Int → Bool × Option String

/-- The delivery backend's answers during one call. -/
structure DeliveryBackend where
  reconcile : Intent → ProviderObservation → Bool × Bool × Option String
  withdraw : WithdrawalIntent → Bool × Option String

/-- The readings of `m.now()` in one call. `capacity` and `rules` are the readings
taken when the state of that lease is visited. -/
structure Clock where
  observe : Time
  capacity : ObjectUID → Time
  refresh : Time
  rules : ObjectUID → Time
  report : Time

/-- Everything outside the manager that one call meets. A missing backend is `none`. -/
structure Backends where
  portForward : Option PortForwardCapability
  rules : Option RuleBackend
  delivery : Option DeliveryBackend
  clock : Clock

/-- What a call does to the outside. -/
inductive Effect where
  | ensureLease (request : PortForwardLeaseRequest)
  | releaseLease (request : PortForwardLeaseRequest) (err : Option String)
  | replace (rules : List GatewayRule) (err : Option String)
  | ready (rule : GatewayRule) (answer : Bool × Option String)
  | withdrawn (leaseUID : ObjectUID) (generation : Int) (answer : Bool × Option String)
  | deliver (intent : Intent) (mapping : ProviderObservation) (answer : Bool × Bool × Option String)
  | withdrawDelivery (intent : WithdrawalIntent) (answer : Bool × Option String)
  deriving DecidableEq

/-! ## State -/

/-- SOURCE: portforward/manager.go:54-61 -/
structure RuntimeState where
  intent : Intent
  mapping : ProviderObservation
  renewAfter : Time
  draining : Bool
  drained : Bool
  blocked : Bool
  deriving DecidableEq

/-- The manager's mutable data: every state is held under the lease UID of its intent.
SOURCE: portforward/manager.go:43-52 -/
structure GatewayRuntimeManager where
  states : AList fun _ : ObjectUID => RuntimeState
  keyed : ∀ uid state, states.lookup uid = some state → state.intent.leaseUID = uid

/-- A manager that has not served a call. -/
def GatewayRuntimeManager.start : GatewayRuntimeManager := ⟨∅, by simp⟩

/-- The result of one call: the manager after it, its effects, and what it returns. -/
structure CallResult where
  manager : GatewayRuntimeManager
  effects : List Effect
  observation : Observation
  err : Option RuntimeError

/-- SOURCE: portforward/manager.go:316-321 -/
def effectiveTargetPort (state : RuntimeState) : UInt16 :=
  if state.intent.applicationPortMode = .providerAssigned then state.mapping.publicPort
  else state.intent.targetPort

/-- SOURCE: portforward/manager.go:310-314 -/
def effectiveIntent (state : RuntimeState) : Intent :=
  { state.intent with targetPort := effectiveTargetPort state }

/-- SOURCE: portforward/manager.go:305-308 -/
def ruleFor (state : RuntimeState) : GatewayRule :=
  { leaseUID := state.intent.leaseUID
    handoffGeneration := state.intent.handoffGeneration
    ingressPort := state.mapping.publicPort
    overlayAddress := state.intent.overlayAddress.string
    targetPort := effectiveTargetPort state
    protocols := state.intent.protocols }

/-- A state contributes its rule at `now`.
SOURCE: portforward/manager.go:297 -/
def serving (state : RuntimeState) (now : Time) : Bool :=
  !state.draining && !state.drained && !state.blocked && decide (now < state.mapping.expiresAt)

namespace GatewayRuntimeManager

/-- `m.states[uid]`. -/
def state? (m : GatewayRuntimeManager) (uid : ObjectUID) : Option RuntimeState := m.states.lookup uid

/-- `m.states[state.intent.LeaseUID] = state`. -/
def store (m : GatewayRuntimeManager) (state : RuntimeState) : GatewayRuntimeManager where
  states := m.states.insert state.intent.leaseUID state
  keyed := by
    intro uid held h
    by_cases hu : uid = state.intent.leaseUID
    · subst hu
      rw [AList.lookup_insert] at h
      rw [Option.some.inj h]
    · rw [AList.lookup_insert_ne hu] at h
      exact m.keyed uid held h

/-- `delete(m.states, uid)`. -/
def remove (m : GatewayRuntimeManager) (uid : ObjectUID) : GatewayRuntimeManager where
  states := m.states.erase uid
  keyed := by
    intro other held h
    by_cases hu : other = uid
    · subst hu
      rw [AList.lookup_erase] at h
      cases h
    · rw [AList.lookup_erase_ne hu] at h
      exact m.keyed other held h

/-- The complete rule set; `now uid` is the clock reading at the visit of that lease.
SOURCE: portforward/manager.go:294-303 -/
def ruleSet (m : GatewayRuntimeManager) (now : ObjectUID → Time) : List GatewayRule :=
  ((m.states.entries.filter fun e => serving e.2 (now e.1)).map fun e => ruleFor e.2).insertionSort
    fun a b => a.leaseUID ≤ b.leaseUID

end GatewayRuntimeManager

/-- SOURCE: portforward/manager.go:323-325 -/
def runtimeObservation (intent : Intent) (mapping : ProviderObservation) (now : Time) : Observation :=
  { Observation.empty with
    apiVersion := runtimeAPIVersion, leaseUID := intent.leaseUID, gatewayUID := intent.gatewayUID,
    handoffGeneration := intent.handoffGeneration, podUID := intent.podUID, observedAt := now,
    provider := some mapping }

/-- SOURCE: portforward/manager.go:327-329 -/
def withdrawalObservation (intent : WithdrawalIntent) (withdrawn : Bool) (now : Time) : Observation :=
  { Observation.empty with
    apiVersion := runtimeAPIVersion, leaseUID := intent.leaseUID, gatewayUID := intent.gatewayUID,
    handoffGeneration := intent.handoffGeneration, podUID := intent.podUID, observedAt := now,
    withdrawn := withdrawn }

/-! ## Provider request and capabilities -/

/-- SOURCE: portforward/manager.go:332-342 -/
def providerProtocols : List TransportProtocol → Except RuntimeError (List PortForwardProtocol)
  | [] => .ok []
  | .tcp :: rest => (providerProtocols rest).map (.tcp :: ·)
  | .udp :: rest => (providerProtocols rest).map (.udp :: ·)
  | .other _ :: _ => .error .unsupportedTransport

/-- The four intent fields a provider request is made of.
SOURCE: portforward/manager.go:331-344 -/
def providerRequest (leaseUID : ObjectUID) (internalPort previousPublicPort : UInt16)
    (protocols : List TransportProtocol) : Except RuntimeError PortForwardLeaseRequest :=
  (providerProtocols protocols).map fun protocols =>
    { identity := leaseUID, internalPort, suggestedExternalPort := previousPublicPort, protocols }

/-- `providerRequest(intent)`. -/
def intentRequest (intent : Intent) : Except RuntimeError PortForwardLeaseRequest :=
  providerRequest intent.leaseUID intent.providerInternalPort intent.previousPublicPort
    intent.protocols

/-- An `int32` counter after `n` increments from zero. -/
def int32Count (n : ℕ) : Int := Int.bmod n (2 ^ 32)

variable (m : GatewayRuntimeManager) (b : Backends)

/-- The number of states whose mapping is unexpired when it is visited. -/
def activeCount (now : ObjectUID → Time) : ℕ :=
  m.states.entries.countP fun e => decide (now e.1 < e.2.mapping.expiresAt)

/-- SOURCE: portforward/manager.go:188-220 -/
def validateProviderCapabilities (now : ObjectUID → Time)
    (intent : Intent) (capabilities : PortForwardCapabilities) (known : Bool) :
    Option RuntimeError :=
  if capabilities.maxLeases < 1 then some .noCapacity
  else if 1 < intent.protocols.length ∧ capabilities.sharedPort = false then some .noSharedPort
  else match intentRequest intent with
    | .error err => some err
    | .ok request =>
      match request.protocols.find? fun protocol => !capabilities.protocols.contains protocol with
      | some protocol => some (.unsupportedMapping protocol.text)
      | none =>
        -- the capacity is only checked for a lease without a state
        if known = false ∧ capabilities.maxLeases ≤ int32Count (activeCount m now) then
          some .capacityExhausted
        else none

/-! ## Reconcile -/

/-- The generation and identity checks against the state already held.
SOURCE: portforward/manager.go:76-89 -/
def admission (previous : Option RuntimeState) (intent : Intent) : Option RuntimeError :=
  match previous with
  | none => none
  | some previous =>
    if intent.handoffGeneration < previous.intent.handoffGeneration then some .generationRegressed
    else if intent.handoffGeneration = previous.intent.handoffGeneration ∧
        sameRuntimeTarget previous.intent intent = false then some .targetChanged
    else if intent.handoffGeneration = previous.intent.handoffGeneration ∧
        previous.draining = true ∧ previous.drained = false then some .resumedBeforeWithdrawal
    else if previous.intent.handoffGeneration < intent.handoffGeneration ∧
        previous.drained = false then some .successorBeforeWithdrawal
    else none

/-- What the observed capabilities say about a lease. -/
inductive CapabilityVerdict where
  | proceed
  | unobserved (err : RuntimeError)
  | rejected (err : RuntimeError)
  deriving DecidableEq

/-- SOURCE: portforward/manager.go:90-105 -/
def capabilityVerdict (clock : Clock)
    (capability : PortForwardCapability) (previous : Option RuntimeState) (intent : Intent) :
    CapabilityVerdict :=
  match capability.observeCapabilities with
  | .error cause =>
    match previous with
    | none => .unobserved (.observeCapabilities cause)
    | some previous =>
      if previous.blocked = true ∨ ¬ clock.observe < previous.mapping.expiresAt then
        .unobserved (.observeCapabilities cause)
      else .proceed
  | .ok capabilities =>
    match validateProviderCapabilities m clock.capacity intent capabilities previous.isSome with
    | some err => .rejected err
    | none => .proceed

/-- SOURCE: portforward/manager.go:113 -/
def providerRefreshDue (previous : Option RuntimeState) (now : Time) : Bool :=
  match previous with
  | none => true
  | some previous =>
    previous.renewAfter == 0 || decide (previous.renewAfter ≤ now) ||
      !decide (now < previous.mapping.expiresAt)

/-- The provider's grant, when its renewal schedule is valid.
SOURCE: portforward/manager.go:127-133 -/
def grantedMapping (answer : Except String PortForwardLeaseObservation) (now : Time) :
    Except String (ProviderObservation × Time) :=
  match answer with
  | .error cause => .error cause
  | .ok lease =>
    if lease.renewAfter ≤ now ∨ lease.expiresAt ≤ lease.renewAfter then
      .error "provider returned an invalid renewal schedule"
    else .ok (⟨lease.publicAddress, lease.publicPort, lease.expiresAt⟩, lease.renewAfter)

/-- The mapping a reconcile works with: the held one while no refresh is due, else the
provider's grant, else the held one while it is unexpired.
SOURCE: portforward/manager.go:110-144 -/
def mappingFor (capability : PortForwardCapability) (previous : Option RuntimeState)
    (request : PortForwardLeaseRequest) (now : Time) : Except String (ProviderObservation × Time) :=
  match previous with
  | none => grantedMapping (capability.ensureLease request) now
  | some previous =>
    if providerRefreshDue (some previous) now then
      match grantedMapping (capability.ensureLease request) now with
      | .ok granted => .ok granted
      | .error cause =>
        if now < previous.mapping.expiresAt then .ok (previous.mapping, previous.renewAfter)
        else .error cause
    else .ok (previous.mapping, previous.renewAfter)

/-- A request that is turned away leaves the manager as it was. -/
def refuse (err : RuntimeError) : CallResult :=
  { manager := m, effects := [], observation := Observation.empty, err := some err }

variable (rules : RuleBackend) (state : RuntimeState)

/-- A rejected lease with a state is blocked and its rules are withdrawn.
SOURCE: portforward/manager.go:97-105 -/
def blockLease (previous : RuntimeState) (err : RuntimeError) : CallResult :=
  let m' := m.store { previous with blocked := true }
  let set := m'.ruleSet b.clock.rules
  { manager := m'
    effects := [.replace set (rules.replace set)]
    observation := Observation.empty
    err := match rules.replace set with
      | some cause => some (.regressionWithdrawal err cause)
      | none => some err }

/-- A lease without a usable mapping loses its state; the answer of `Replace` is ignored.
SOURCE: portforward/manager.go:139-141 -/
def dropLease (intent : Intent) (acquired : List Effect) (cause : String) : CallResult :=
  let m' := m.remove intent.leaseUID
  let set := m'.ruleSet b.clock.rules
  { manager := m'
    effects := acquired ++ [.replace set (rules.replace set)]
    observation := Observation.empty
    err := some (.ensureMapping cause) }

/-- The state an accepted reconcile installs: `draining`, `drained` and `blocked` are clear.
SOURCE: portforward/manager.go:148 -/
def installedState (intent : Intent) (mapping : ProviderObservation) (renewAfter : Time) :
    RuntimeState :=
  { intent, mapping, renewAfter, draining := false, drained := false, blocked := false }

/-- After an accepted rule set: read the rule back, then deliver.
SOURCE: portforward/manager.go:160-185 -/
def deliverLease (delivery : DeliveryBackend)
    (state : RuntimeState) : List Effect × Observation × Option RuntimeError :=
  let rule := ruleFor state
  let ready := rules.ready rule
  let observation := runtimeObservation state.intent state.mapping b.clock.report
  if ready.2.isSome ∨ ready.1 = false then
    ([.ready rule ready], observation, ready.2.map .unavailable)
  else
    let answer := delivery.reconcile (effectiveIntent state) state.mapping
    ([.ready rule ready, .deliver (effectiveIntent state) state.mapping answer],
      { observation with gatewayRulesReady := true, delivered := answer.1, acknowledged := answer.2.1 },
      answer.2.2.map .unavailable)

/-- Install the state, replace the rule set, and roll the state back when that fails.
SOURCE: portforward/manager.go:148-185 -/
def installLease (delivery : DeliveryBackend) (previous : Option RuntimeState) (intent : Intent)
    (acquired : List Effect) (mapping : ProviderObservation) (renewAfter : Time) : CallResult :=
  let state := installedState intent mapping renewAfter
  let m' := m.store state
  let set := m'.ruleSet b.clock.rules
  match rules.replace set with
  | some cause =>
    { manager := match previous with
        | some previous => m'.store previous
        | none => m'.remove intent.leaseUID
      effects := acquired ++ [.replace set (some cause)]
      observation := runtimeObservation intent mapping b.clock.report
      err := some (.replaceRules cause) }
  | none =>
    let outcome := deliverLease b rules delivery state
    { manager := m'
      effects := acquired ++ .replace set none :: outcome.1
      observation := outcome.2.1
      err := outcome.2.2 }

/-- The part of a reconcile after admission and the capability verdict.
SOURCE: portforward/manager.go:106-185 -/
def acquireLease (capability : PortForwardCapability)
    (rules : RuleBackend) (delivery : DeliveryBackend) (previous : Option RuntimeState)
    (intent : Intent) : CallResult :=
  match intentRequest intent with
  | .error err => refuse m err
  | .ok request =>
    let acquired : List Effect :=
      if providerRefreshDue previous b.clock.refresh then [.ensureLease request] else []
    match mappingFor capability previous request b.clock.refresh with
    | .error cause => dropLease m b rules intent acquired cause
    | .ok (mapping, renewAfter) =>
      installLease m b rules delivery previous intent acquired mapping renewAfter

/-- `GatewayRuntimeManager.Reconcile`.
SOURCE: portforward/manager.go:63-186 -/
def GatewayRuntimeManager.reconcile (gatewayUID : ObjectUID) (intent : Intent) : CallResult :=
  match validateRuntimeIntent gatewayUID intent with
  | some err => refuse m err
  | none =>
    match b.portForward, b.rules, b.delivery with
    | some capability, some rules, some delivery =>
      let previous := m.state? intent.leaseUID
      match admission previous intent with
      | some err => refuse m err
      | none =>
        match capabilityVerdict m b.clock capability previous intent with
        | .unobserved err => refuse m err
        | .rejected err =>
          match previous with
          | some previous => blockLease m b rules previous err
          | none => refuse m err
        | .proceed => acquireLease m b capability rules delivery previous intent
    | _, _, _ => refuse m .backendsRequired

/-! ## Withdraw -/

/-- A lease that is neither draining nor drained starts to drain.
SOURCE: portforward/manager.go:236-239 -/
def startDraining : RuntimeState :=
  if state.draining = false ∧ state.drained = false then { state with draining := true } else state

/-- The roll-back of a failed withdrawal clears `draining`, also when an earlier withdrawal had
set it.
SOURCE: portforward/manager.go:242-245 -/
def rollBackDraining : RuntimeState := { state with draining := false }

/-- The state of a withdrawn lease: drained, with the drain mark gone.
SOURCE: portforward/manager.go:262-266 -/
def drainedState : RuntimeState :=
  { state with draining := false, drained := true }

/-- The manager with the held state, if there is one, replaced by its image under `f`. -/
def GatewayRuntimeManager.update (uid : ObjectUID)
    (f : RuntimeState → RuntimeState) : GatewayRuntimeManager :=
  match m.state? uid with
  | some state => m.store (f state)
  | none => m

/-- The request that releases the provider mapping: of the held state's intent, or of the
withdrawal when there is none.
SOURCE: portforward/manager.go:268-272 -/
def releaseRequest (held : Option RuntimeState) (intent : WithdrawalIntent) :
    Except RuntimeError PortForwardLeaseRequest :=
  match held with
  | some state => intentRequest state.intent
  | none =>
    providerRequest intent.leaseUID intent.providerInternalPort intent.previousPublicPort
      intent.protocols

/-- The end of a withdrawal whose rules and delivery are gone: mark the state drained, then
release the provider if asked to.
SOURCE: portforward/manager.go:262-285 -/
def completeWithdrawal (intent : WithdrawalIntent) (effects : List Effect) : CallResult :=
  let held := m.state? intent.leaseUID
  let m' := m.update intent.leaseUID drainedState
  let failed (effects : List Effect) (err : RuntimeError) : CallResult :=
    { manager := m', effects := effects
      observation := withdrawalObservation intent false b.clock.report, err := some err }
  let done (m : GatewayRuntimeManager) (effects : List Effect) : CallResult :=
    { manager := m, effects := effects
      observation := withdrawalObservation intent true b.clock.report, err := none }
  if intent.releaseProvider = false then done m' effects
  else match releaseRequest held intent with
    | .error err => failed effects err
    | .ok request =>
      match b.portForward with
      | none => failed effects .capabilityUnavailable
      | some capability =>
        match capability.releaseLease request with
        | some cause => failed (effects ++ [.releaseLease request (some cause)]) (.unavailable cause)
        | none => done (m'.remove intent.leaseUID) (effects ++ [.releaseLease request none])

/-- `GatewayRuntimeManager.Withdraw`.
SOURCE: portforward/manager.go:222-286 -/
def GatewayRuntimeManager.withdraw (m : GatewayRuntimeManager) (b : Backends)
    (gatewayUID : ObjectUID) (intent : WithdrawalIntent) : CallResult :=
  match validateWithdrawal gatewayUID intent with
  | some err => refuse m err
  | none =>
    match b.rules, b.delivery with
    | some rules, some delivery =>
      if (m.state? intent.leaseUID).any fun state =>
          state.intent.handoffGeneration != intent.handoffGeneration then
        refuse m .withdrawalGeneration
      else
        let pending := withdrawalObservation intent false b.clock.report
        let m' := m.update intent.leaseUID startDraining
        let set := m'.ruleSet b.clock.rules
        match rules.replace set with
        | some cause =>
          { manager := m'.update intent.leaseUID rollBackDraining
            effects := [.replace set (some cause)]
            observation := pending
            err := some (.unavailable cause) }
        | none =>
          let gone := rules.withdrawn intent.leaseUID intent.handoffGeneration
          let observed : List Effect :=
            [.replace set none, .withdrawn intent.leaseUID intent.handoffGeneration gone]
          if gone.2.isSome ∨ gone.1 = false then
            { manager := m', effects := observed, observation := pending
              err := gone.2.map .unavailable }
          else
            let answer := delivery.withdraw intent
            let effects := observed ++ [.withdrawDelivery intent answer]
            if answer.2.isSome ∨ answer.1 = false then
              { manager := m', effects := effects, observation := pending
                err := answer.2.map .unavailable }
            else completeWithdrawal m' b intent effects
    | _, _ => refuse m .withdrawalBackendsRequired

/-! ## Serving calls -/

/-- One request to the manager, with everything the call meets. -/
inductive Call where
  | reconcile (gatewayUID : ObjectUID) (intent : Intent) (b : Backends)
  | withdraw (gatewayUID : ObjectUID) (intent : WithdrawalIntent) (b : Backends)

/-- What a call returns and did to the outside. -/
structure Reply where
  effects : List Effect
  observation : Observation
  err : Option RuntimeError
  deriving DecidableEq

namespace Call

def leaseUID : Call → ObjectUID
  | .reconcile _ intent _ => intent.leaseUID
  | .withdraw _ intent _ => intent.leaseUID

def backends : Call → Backends
  | .reconcile _ _ b => b
  | .withdraw _ _ b => b

def result (m : GatewayRuntimeManager) : Call → CallResult
  | .reconcile gatewayUID intent b => m.reconcile b gatewayUID intent
  | .withdraw gatewayUID intent b => m.withdraw b gatewayUID intent

end Call

/-- The manager as a step function: a run of it is any sequence of `Reconcile` and
`Withdraw` calls, each with its own answers. -/
def GatewayRuntimeManager.serve (c : Call) : GatewayRuntimeManager × Reply :=
  let r := c.result m
  (r.manager, ⟨r.effects, r.observation, r.err⟩)

namespace Reply

/-- `rules` was passed to `Rules.Replace`. -/
def Passed (r : Reply) (rules : List GatewayRule) : Prop := ∃ err, Effect.replace rules err ∈ r.effects

/-- `rules` was passed to `Rules.Replace`, which accepted it. -/
def Accepted (r : Reply) (rules : List GatewayRule) : Prop := Effect.replace rules none ∈ r.effects

instance (r : Reply) (rules : List GatewayRule) : Decidable (r.Accepted rules) :=
  inferInstanceAs (Decidable (_ ∈ r.effects))

/-- A delivery of the lease at the generation was attempted. -/
def Delivered (r : Reply) (leaseUID : ObjectUID) (generation : Int) : Prop :=
  ∃ intent mapping answer, Effect.deliver intent mapping answer ∈ r.effects ∧
    intent.leaseUID = leaseUID ∧ intent.handoffGeneration = generation

end Reply

end Waycloak.Model
