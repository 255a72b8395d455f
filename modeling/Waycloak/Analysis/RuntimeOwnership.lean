import Waycloak.Model.Provisioner

/-!
# Whose objects a gateway's runtime writes

A reconcile is meant to leave alone what another owner has put under one of its names, and two
gateways of a namespace are meant to have different names.

Only the removal of the port-forward Service looks at the owner. `reconcileObject` gives whatever it
finds the owner reference and the content it wants, so what a reconcile spares is decided by what
stands under its names before. A step never leaves an object of another
owner that was not there before (`NoNewForeign`), so nothing that was taken is given back.

A name of more than 46 characters is shortened to its first 33, a dash and twelve digits of its
hash. The result is again a name of 46 characters, and a gateway can have that name itself
(`runtimeName_eq_iff`).
-/

set_option autoImplicit false

namespace Waycloak.Analysis

open Waycloak.Model

variable {before : Except String Unit × RuntimeStore} {name : ObjectName}
  {next : RuntimeStore → Except String Unit × RuntimeStore}

/-! ## Objects of other owners -/

section Ownership

variable {gateway : ProvisionedGateway} {store store' store'' : RuntimeStore} {kind : RuntimeKind}
  {value : Option (RuntimeObject kind)} {desired : RuntimeObject kind} {answers : ObjectAnswers}

/-- The object is not controlled by the gateway of this name and UID. -/
def ForeignObject (gateway : ProvisionedGateway) (object : RuntimeObject kind) : Prop :=
  ownedByGateway object.ownerReferences gateway = false

instance (object : RuntimeObject kind) : Decidable (ForeignObject gateway object) :=
  inferInstanceAs (Decidable (_ = _))

/-- Every object of another owner is as it was. -/
def Untouched (gateway : ProvisionedGateway) (store store' : RuntimeStore) : Prop :=
  ∀ kind name object, store kind name = some object → ForeignObject gateway object →
    store' kind name = some object

/-- Every object of another owner was there before. -/
def NoNewForeign (gateway : ProvisionedGateway) (store store' : RuntimeStore) : Prop :=
  ∀ kind name object, store' kind name = some object → ForeignObject gateway object →
    store kind name = some object

/-- What stands under a name, if anything, is the gateway's. -/
def Own (gateway : ProvisionedGateway) (store : RuntimeStore) (kind : RuntimeKind)
    (name : ObjectName) : Prop :=
  ∀ object, store kind name = some object → ¬ ForeignObject gateway object

theorem Untouched.refl : Untouched gateway store store := fun _ _ _ hobject _ => hobject

theorem Untouched.trans (first : Untouched gateway store store')
    (second : Untouched gateway store' store'') : Untouched gateway store store'' :=
  fun kind name object hobject hforeign =>
    second kind name object (first kind name object hobject hforeign) hforeign

theorem NoNewForeign.refl : NoNewForeign gateway store store := fun _ _ _ hobject _ => hobject

theorem NoNewForeign.trans (first : NoNewForeign gateway store store')
    (second : NoNewForeign gateway store' store'') : NoNewForeign gateway store store'' :=
  fun kind name object hobject hforeign =>
    first kind name object (second kind name object hobject hforeign) hforeign

theorem Own.later (hnone : NoNewForeign gateway store store') (h : Own gateway store kind name) :
    Own gateway store' kind name :=
  fun object hobject hforeign => h object (hnone kind name object hobject hforeign) hforeign

theorem Own.earlier (huntouched : Untouched gateway store store')
    (h : Own gateway store' kind name) : Own gateway store kind name :=
  fun object hobject hforeign => h object (huntouched kind name object hobject hforeign) hforeign

theorem storePut_self : store.put kind name value kind name = value := by
  unfold RuntimeStore.put
  rw [Function.update_self, Function.update_self]

theorem storePut_other {name name' : ObjectName} {kind' : RuntimeKind}
    (h : ¬ (kind' = kind ∧ name' = name)) :
    store.put kind name value kind' name' = store kind' name' := by
  unfold RuntimeStore.put
  by_cases hkind : kind' = kind
  · subst hkind
    have hname : name' ≠ name := fun hname => h ⟨rfl, hname⟩
    rw [Function.update_self, Function.update_of_ne hname]
  · rw [Function.update_of_ne hkind]

theorem storePut_untouched (h : Own gateway store kind name) :
    Untouched gateway store (store.put kind name value) := by
  intro kind' name' object hobject hforeign
  by_cases hsame : kind' = kind ∧ name' = name
  · obtain ⟨rfl, rfl⟩ := hsame
    exact absurd hforeign (h object hobject)
  · rwa [storePut_other hsame]

theorem storePut_noNewForeign (h : ∀ object, value = some object → ¬ ForeignObject gateway object) :
    NoNewForeign gateway store (store.put kind name value) := by
  intro kind' name' object hobject hforeign
  by_cases hsame : kind' = kind ∧ name' = name
  · obtain ⟨rfl, rfl⟩ := hsame
    rw [storePut_self] at hobject
    exact absurd hforeign (h object hobject)
  · rwa [storePut_other hsame] at hobject

/-! ## One object -/

theorem not_foreign_owner {object : RuntimeObject kind}
    (h : object.ownerReferences = [gateway.owner]) : ¬ ForeignObject gateway object := by
  unfold ForeignObject ownedByGateway
  simp [h, ProvisionedGateway.owner]

/-- What a reconcile of one object may do to the namespace. -/
structure WritesOwn (gateway : ProvisionedGateway) (kind : RuntimeKind) (name : ObjectName)
    (store store' : RuntimeStore) : Prop where
  noNewForeign : NoNewForeign gateway store store'
  untouched : Own gateway store kind name → Untouched gateway store store'

theorem WritesOwn.refl : WritesOwn gateway kind name store store where
  noNewForeign := .refl
  untouched _ := .refl

theorem WritesOwn.put (h : ∀ object, value = some object → ¬ ForeignObject gateway object) :
    WritesOwn gateway kind name store (store.put kind name value) where
  noNewForeign := storePut_noNewForeign h
  untouched := storePut_untouched

/-- INTERNAL: **a reconcile of one object writes nothing but an object of the gateway.**
SOURCE: gatewayruntime/provisioner.go:402-440 -/
theorem reconcileObject_writes (answers : ObjectAnswers) (name : ObjectName)
    (howner : desired.ownerReferences = [gateway.owner]) (store : RuntimeStore) :
    WritesOwn gateway kind name store (reconcileObject answers name desired store).2 := by
  fun_cases reconcileObject answers name desired store with
  | case3 | case6 =>
    apply WritesOwn.put
    rintro object ⟨⟩
    exact not_foreign_owner howner
  | _ => exact .refl

/-- None of the calls for an object fails. -/
def CallsAnswered (answers : ObjectAnswers) : Prop :=
  answers.get = none ∧ answers.create = none ∧ answers.patch = none ∧ answers.delete = none

instance (answers : ObjectAnswers) : Decidable (CallsAnswered answers) :=
  inferInstanceAs (Decidable (_ ∧ _))

theorem reconcileObject_answered (hanswered : CallsAnswered answers) (name : ObjectName)
    (desired : RuntimeObject kind) (store : RuntimeStore) :
    (reconcileObject answers name desired store).1 = .ok () := by
  obtain ⟨hget, hcreate, hpatch, -⟩ := hanswered
  unfold reconcileObject
  rw [hget, hcreate, hpatch]
  cases store kind name with
  | none => rfl
  | some =>
    dsimp only
    split <;> rfl

/-- INTERNAL: **a reconcile that succeeds leaves an own object under the name, whatever it
found.** -/
theorem reconcileObject_takes (hanswered : CallsAnswered answers) (name : ObjectName)
    (howner : desired.ownerReferences = [gateway.owner]) (store : RuntimeStore) :
    Own gateway (reconcileObject answers name desired store).2 kind name := by
  obtain ⟨hget, hcreate, hpatch, -⟩ := hanswered
  unfold reconcileObject
  rw [hget, hcreate, hpatch]
  intro object hobject
  cases hstored : store kind name with
  | none =>
    simp only [hstored, storePut_self, Option.some.injEq] at hobject
    subst hobject
    exact not_foreign_owner howner
  | some =>
    simp only [hstored] at hobject
    split at hobject
    · next hsame =>
      -- Nothing was to be changed, the owner reference included.
      dsimp only at hobject
      rw [hstored] at hobject
      cases hobject
      apply not_foreign_owner
      rw [hsame]
      exact howner
    · dsimp only at hobject
      rw [storePut_self] at hobject
      cases hobject
      exact not_foreign_owner howner

/-! ## The port-forward Service -/

section PortForward

variable {provisioner : Provisioner}

/-- INTERNAL: the port-forward Service is written or removed only if it is the gateway's, or it is
requested.
SOURCE: gatewayruntime/provisioner.go:315-334 -/
theorem reconcilePortForwardService_writes (answers : ObjectAnswers) (store : RuntimeStore) :
    WritesOwn gateway .service
      (gatewayRuntimeServiceName provisioner.hashes gateway.namespaceName gateway.name) store
      (provisioner.reconcilePortForwardService answers gateway store).2 := by
  fun_cases Provisioner.reconcilePortForwardService provisioner answers gateway store with
  | case1 => exact reconcileObject_writes answers _ rfl store
  | case6 =>
    apply WritesOwn.put
    rintro object ⟨⟩
  | _ => exact .refl

theorem reconcilePortForwardService_spares (hdisabled : gateway.portForward = false)
    (answers : ObjectAnswers) (store : RuntimeStore) :
    Untouched gateway store (provisioner.reconcilePortForwardService answers gateway store).2 := by
  have hwrites := @reconcilePortForwardService_writes gateway provisioner answers store
  by_cases hown : Own gateway store .service
      (gatewayRuntimeServiceName provisioner.hashes gateway.namespaceName gateway.name)
  · exact hwrites.untouched hown
  · -- A Service of another owner ends the reconcile.
    unfold Own at hown
    push Not at hown
    obtain ⟨object, hobject, hforeign⟩ := hown
    unfold ForeignObject at hforeign
    unfold Provisioner.reconcilePortForwardService
    simp only [hdisabled, hobject, hforeign, Bool.false_eq_true, if_false]
    split <;> exact .refl

theorem own_of_reconcilePortForwardService_ok
    (hok : (provisioner.reconcilePortForwardService answers gateway store).1 = .ok ()) :
    gateway.portForward = true ∨ Own gateway store .service
      (gatewayRuntimeServiceName provisioner.hashes gateway.namespaceName gateway.name) := by
  cases hrequested : gateway.portForward with
  | true => exact Or.inl rfl
  | false =>
    right
    intro object hobject hforeign
    unfold ForeignObject at hforeign
    unfold Provisioner.reconcilePortForwardService at hok
    simp only [hrequested, hobject, hforeign, Bool.false_eq_true, if_false, if_true] at hok
    split at hok <;> cases hok

theorem reconcilePortForwardService_answered (hanswered : CallsAnswered answers)
    (h : gateway.portForward = true ∨ Own gateway store .service
      (gatewayRuntimeServiceName provisioner.hashes gateway.namespaceName gateway.name)) :
    (provisioner.reconcilePortForwardService answers gateway store).1 = .ok () := by
  unfold Provisioner.reconcilePortForwardService
  cases hrequested : gateway.portForward with
  | true =>
    simp only [if_true]
    exact reconcileObject_answered hanswered _ _ _
  | false =>
    have hown := h.resolve_left (by simp [hrequested])
    obtain ⟨hget, -, -, hdelete⟩ := hanswered
    simp only [hget, hdelete, Bool.false_eq_true, if_false]
    cases hstored : store .service
        (gatewayRuntimeServiceName provisioner.hashes gateway.namespaceName gateway.name) with
    | none => rfl
    | some current =>
      have howned : ownedByGateway current.ownerReferences gateway = true := by
        have hnot := hown current hstored
        unfold ForeignObject at hnot
        simpa using hnot
      simp [howned]

end PortForward

/-! ## A reconcile -/

theorem andThen_ok (hok : before.1 = .ok ()) : andThen before next = next before.2 := by
  unfold andThen
  rw [hok]

theorem andThen_untouched (hbefore : Untouched gateway store before.2)
    (hnext : before.1 = .ok () → Untouched gateway before.2 (next before.2).2) :
    Untouched gateway store (andThen before next).2 := by
  unfold andThen
  split
  · exact hbefore
  · next hok => exact hbefore.trans (hnext hok)

theorem andThen_noNewForeign (hbefore : NoNewForeign gateway store before.2)
    (hnext : NoNewForeign gateway before.2 (next before.2).2) :
    NoNewForeign gateway store (andThen before next).2 := by
  unfold andThen
  split
  · exact hbefore
  · exact hbefore.trans hnext

end Ownership

section Reconcile

variable (provisioner : Provisioner) (answers : ProvisionAnswers) (gateway : ProvisionedGateway)
  (store : RuntimeStore)

/-- What stands under the names that a reconcile comes to write is the gateway's. -/
def OwnNames : Prop :=
  let name := runtimeName provisioner.hashes gateway.name
  let portForwardName :=
    gatewayRuntimeServiceName provisioner.hashes gateway.namespaceName gateway.name
  Own gateway store .service name ∧
    (gateway.portForward = true → Own gateway store .service portForwardName) ∧
    (gateway.portForward = true ∨ Own gateway store .service portForwardName →
      Own gateway store .configMap (dnsConfigName provisioner.hashes gateway.name) ∧
        Own gateway store .statefulSet name)

/-- The namespace after the first, the first two and the first three of the steps. -/
def afterService : Except String Unit × RuntimeStore :=
  reconcileObject answers.service (runtimeName provisioner.hashes gateway.name)
    (provisioner.desiredService gateway) store

def afterServices : Except String Unit × RuntimeStore :=
  andThen (afterService provisioner answers gateway store)
    (provisioner.reconcilePortForwardService answers.portForwardService gateway)

def afterConfig : Except String Unit × RuntimeStore :=
  andThen (afterServices provisioner answers gateway store)
    (reconcileObject answers.dnsConfig (dnsConfigName provisioner.hashes gateway.name)
      (provisioner.desiredCoreDNSConfig gateway))

theorem reconcile_eq (hinputs : answers.inputs = .ok ()) :
    provisioner.reconcile answers gateway store =
      andThen (afterConfig provisioner answers gateway store)
        (reconcileObject answers.statefulSet (runtimeName provisioner.hashes gateway.name)
          (provisioner.desiredStatefulSet gateway)) := by
  unfold Provisioner.reconcile
  rw [hinputs]
  rfl

theorem afterService_writes :
    WritesOwn gateway .service (runtimeName provisioner.hashes gateway.name) store
      (afterService provisioner answers gateway store).2 :=
  reconcileObject_writes _ _ rfl _

theorem afterServices_noNewForeign :
    NoNewForeign gateway store (afterServices provisioner answers gateway store).2 :=
  andThen_noNewForeign (afterService_writes provisioner answers gateway store).noNewForeign
    (reconcilePortForwardService_writes _ _).noNewForeign

theorem afterConfig_noNewForeign :
    NoNewForeign gateway store (afterConfig provisioner answers gateway store).2 :=
  andThen_noNewForeign (afterServices_noNewForeign provisioner answers gateway store)
    (reconcileObject_writes _ _ rfl _).noNewForeign

/-- INTERNAL: **a reconcile spares what is not the gateway's if nothing of that kind stands under
its names.** The calls may fail.
SOURCE: gatewayruntime/provisioner.go:126-178 -/
theorem reconcile_untouched (hown : OwnNames provisioner gateway store) :
    Untouched gateway store (provisioner.reconcile answers gateway store).2 := by
  obtain ⟨hservice, hportForward, hrest⟩ := hown
  cases hinputs : answers.inputs with
  | error err =>
    unfold Provisioner.reconcile
    rw [hinputs]
    exact .refl
  | ok =>
    have hfirst := (afterService_writes provisioner answers gateway store).untouched hservice
    have hfirstNone := (afterService_writes provisioner answers gateway store).noNewForeign
    have hsecond :
        Untouched gateway store (afterServices provisioner answers gateway store).2 := by
      apply andThen_untouched hfirst
      intro _
      cases hrequested : gateway.portForward with
      | true =>
        exact (reconcilePortForwardService_writes _ _).untouched
          ((hportForward hrequested).later hfirstNone)
      | false => exact reconcilePortForwardService_spares hrequested _ _
    -- The other two steps are taken only if the Services were written.
    have hreached : (afterServices provisioner answers gateway store).1 = .ok () →
        Own gateway store .configMap (dnsConfigName provisioner.hashes gateway.name) ∧
          Own gateway store .statefulSet (runtimeName provisioner.hashes gateway.name) := by
      intro hok
      have hpassed : (provisioner.reconcilePortForwardService answers.portForwardService gateway
          (afterService provisioner answers gateway store).2).1 = .ok () := by
        unfold afterServices andThen at hok
        split at hok
        · cases hok
        · exact hok
      apply hrest
      exact (own_of_reconcilePortForwardService_ok hpassed).imp_right fun hlater =>
        hlater.earlier hfirst
    have hsecondNone := afterServices_noNewForeign provisioner answers gateway store
    have hthird : Untouched gateway store (afterConfig provisioner answers gateway store).2 := by
      apply andThen_untouched hsecond
      intro hok
      exact (reconcileObject_writes _ _ rfl _).untouched ((hreached hok).1.later hsecondNone)
    rw [reconcile_eq provisioner answers gateway store hinputs]
    apply andThen_untouched hthird
    intro hok
    have hservices : (afterServices provisioner answers gateway store).1 = .ok () := by
      unfold afterConfig andThen at hok
      split at hok
      · cases hok
      · next hservices => exact hservices
    exact (reconcileObject_writes _ _ rfl _).untouched
      ((hreached hservices).2.later (afterConfig_noNewForeign provisioner answers gateway store))

/-- No call of the reconcile fails. -/
structure AllAnswered : Prop where
  inputs : answers.inputs = .ok ()
  service : CallsAnswered answers.service
  portForwardService : CallsAnswered answers.portForwardService
  dnsConfig : CallsAnswered answers.dnsConfig
  statefulSet : CallsAnswered answers.statefulSet

/-- INTERNAL: **if no call fails that is the only case.** Whatever a reconcile writes is the
gateway's in the end, so it was the gateway's before or was taken. -/
theorem ownNames_of_untouched (hanswered : AllAnswered answers)
    (huntouched : Untouched gateway store (provisioner.reconcile answers gateway store).2) :
    OwnNames provisioner gateway store := by
  rw [reconcile_eq provisioner answers gateway store hanswered.inputs] at huntouched
  have hlast : ∀ {before : Except String Unit × RuntimeStore},
      NoNewForeign gateway before.2 (andThen before
        (reconcileObject answers.statefulSet (runtimeName provisioner.hashes gateway.name)
          (provisioner.desiredStatefulSet gateway))).2 := fun {before} =>
    andThen_noNewForeign .refl (reconcileObject_writes _ _ rfl _).noNewForeign
  have hconfig : NoNewForeign gateway (afterServices provisioner answers gateway store).2
      (afterConfig provisioner answers gateway store).2 :=
    andThen_noNewForeign .refl (reconcileObject_writes _ _ rfl _).noNewForeign
  have hservices : NoNewForeign gateway (afterService provisioner answers gateway store).2
      (afterServices provisioner answers gateway store).2 :=
    andThen_noNewForeign .refl (reconcilePortForwardService_writes _ _).noNewForeign
  have hserviceOk : (afterService provisioner answers gateway store).1 = .ok () :=
    reconcileObject_answered hanswered.service _ _ _
  have hservice : Own gateway store .service (runtimeName provisioner.hashes gateway.name) := by
    have htaken : Own gateway (afterService provisioner answers gateway store).2 .service
        (runtimeName provisioner.hashes gateway.name) :=
      reconcileObject_takes hanswered.service _ rfl _
    exact (((htaken.later hservices).later hconfig).later hlast).earlier huntouched
  refine ⟨hservice, ?_, ?_⟩
  · intro hrequested
    have htaken : Own gateway (afterServices provisioner answers gateway store).2 .service
        (gatewayRuntimeServiceName provisioner.hashes gateway.namespaceName gateway.name) := by
      unfold afterServices
      rw [andThen_ok hserviceOk]
      unfold Provisioner.reconcilePortForwardService
      rw [if_pos hrequested]
      exact reconcileObject_takes hanswered.portForwardService _ rfl _
    exact ((htaken.later hconfig).later hlast).earlier huntouched
  · intro hportForward
    have hservicesOk : (afterServices provisioner answers gateway store).1 = .ok () := by
      unfold afterServices
      rw [andThen_ok hserviceOk]
      apply reconcilePortForwardService_answered hanswered.portForwardService
      exact hportForward.imp_right fun hown =>
        hown.later (afterService_writes provisioner answers gateway store).noNewForeign
    have hconfigOk : (afterConfig provisioner answers gateway store).1 = .ok () := by
      unfold afterConfig
      rw [andThen_ok hservicesOk]
      exact reconcileObject_answered hanswered.dnsConfig _ _ _
    have hdns : Own gateway (afterConfig provisioner answers gateway store).2 .configMap
        (dnsConfigName provisioner.hashes gateway.name) := by
      unfold afterConfig
      rw [andThen_ok hservicesOk]
      exact reconcileObject_takes hanswered.dnsConfig _ rfl _
    have hset : Own gateway (andThen (afterConfig provisioner answers gateway store)
        (reconcileObject answers.statefulSet (runtimeName provisioner.hashes gateway.name)
          (provisioner.desiredStatefulSet gateway))).2 .statefulSet
        (runtimeName provisioner.hashes gateway.name) := by
      rw [andThen_ok hconfigOk]
      exact reconcileObject_takes hanswered.statefulSet _ rfl _
    exact ⟨(hdns.later hlast).earlier huntouched, hset.earlier huntouched⟩

end Reconcile

/-! ## Names -/

section Names

variable {hashes : RuntimeHashes} {namespaceName name name' : String}

/-- A long name, cut. -/
def cutName (hashes : RuntimeHashes) (name : String) : List Char :=
  name.toList.take 33 ++ '-' :: (hashes.shortHash name).toList.take 12

/-- What follows the common start of a runtime name. -/
def shortened (hashes : RuntimeHashes) (name : String) : List Char :=
  if name.length ≤ 46 then name.toList else cutName hashes name

/-- INTERNAL: a name is shortened to 33 characters, a dash and twelve digits.
SOURCE: gatewayruntime/provisioner.go:462-468 -/
theorem runtimeName_toList :
    (runtimeName hashes name).toList = "waycloak-gateway-".toList ++ shortened hashes name := by
  have hstart : "waycloak-gateway-".toList.length = 17 := by decide +kernel
  have hlength : ("waycloak-gateway-" ++ name).length = 17 + name.length := by
    rw [String.length_append, ← String.length_toList, hstart]
  unfold runtimeName shortened cutName takeChars
  simp only [hlength]
  by_cases hshort : name.length ≤ 46
  · rw [if_pos (by omega), if_pos hshort, String.toList_append]
  rw [if_neg (by omega), if_neg hshort]
  have htake : ("waycloak-gateway-".toList ++ name.toList).take 50 =
      "waycloak-gateway-".toList ++ name.toList.take 33 := by
    rw [List.take_append, hstart, List.take_of_length_le (by rw [hstart]; omega)]
  simp only [String.toList_append, String.toList_ofList, htake, List.append_assoc]
  rfl

theorem gatewayRuntimeServiceName_toList :
    (gatewayRuntimeServiceName hashes namespaceName name).toList = "waycloak-gateway-".toList ++
      (hashes.serviceDigest (namespaceName ++ "/" ++ name)).toList := by
  unfold gatewayRuntimeServiceName
  rw [String.toList_append]

theorem cutName_length (hlong : 46 < name.length) : (cutName hashes name).length = 46 := by
  have hname : name.toList.length = name.length := String.length_toList
  have hhash : (hashes.shortHash name).toList.length = 32 := by
    rw [String.length_toList, hashes.shortHash_length]
  unfold cutName
  rw [List.length_append, List.length_cons, List.length_take, List.length_take]
  omega

/-- Two names are cut to the same one, or one of them is what the other is cut to. -/
def CutClash (hashes : RuntimeHashes) (name name' : String) : Prop :=
  (46 < name.length ∧ 46 < name'.length ∧ name.toList.take 33 = name'.toList.take 33 ∧
      (hashes.shortHash name).toList.take 12 = (hashes.shortHash name').toList.take 12) ∨
    (name.length ≤ 46 ∧ 46 < name'.length ∧ name.toList = cutName hashes name') ∨
    (46 < name.length ∧ name'.length ≤ 46 ∧ cutName hashes name = name'.toList)

theorem cutName_eq_iff (hlong : 46 < name.length) (hlong' : 46 < name'.length) :
    cutName hashes name = cutName hashes name' ↔
      name.toList.take 33 = name'.toList.take 33 ∧
        (hashes.shortHash name).toList.take 12 = (hashes.shortHash name').toList.take 12 := by
  have hlength : (name.toList.take 33).length = (name'.toList.take 33).length := by
    rw [List.length_take, List.length_take, String.length_toList, String.length_toList]
    omega
  unfold cutName
  constructor
  · intro hsame
    obtain ⟨hstart, hrest⟩ := List.append_inj hsame hlength
    exact ⟨hstart, (List.cons.inj hrest).2⟩
  · rintro ⟨hstart, hhash⟩
    rw [hstart, hhash]

/-- INTERNAL: **when two names give the same runtime name.** -/
theorem runtimeName_eq_iff (hne : name ≠ name') :
    runtimeName hashes name = runtimeName hashes name' ↔ CutClash hashes name name' := by
  rw [← String.toList_inj, runtimeName_toList, runtimeName_toList, List.append_cancel_left_eq]
  unfold shortened CutClash
  by_cases hshort : name.length ≤ 46
  · by_cases hshort' : name'.length ≤ 46
    · have hdiffer : name.toList ≠ name'.toList := fun h => hne (String.toList_inj.mp h)
      simp [hshort, hshort', hdiffer]
    · have hlong' := not_le.mp hshort'
      simp [hshort, hshort', hlong', not_lt.mpr hshort]
  · have hlong := not_le.mp hshort
    by_cases hshort' : name'.length ≤ 46
    · simp [hshort, hshort', hlong, not_lt.mpr hshort']
    · have hlong' := not_le.mp hshort'
      rw [if_neg hshort, if_neg hshort', cutName_eq_iff hlong hlong']
      simp [hshort, hshort', hlong, hlong']

theorem runtimeName_eq_service_iff :
    runtimeName hashes name = gatewayRuntimeServiceName hashes namespaceName name' ↔
      name = hashes.serviceDigest (namespaceName ++ "/" ++ name') := by
  have hdigest : (hashes.serviceDigest (namespaceName ++ "/" ++ name')).toList.length = 16 := by
    rw [String.length_toList, hashes.serviceDigest_length]
  rw [← String.toList_inj, runtimeName_toList, gatewayRuntimeServiceName_toList,
    List.append_cancel_left_eq, ← String.toList_inj]
  unfold shortened
  by_cases hshort : name.length ≤ 46
  · rw [if_pos hshort]
  rw [if_neg hshort]
  refine iff_of_false ?_ ?_
  · intro hcut
    have hlength := @cutName_length hashes name (not_le.mp hshort)
    rw [hcut, hdigest] at hlength
    omega
  · intro hname
    have hlength : name.toList.length = name.length := String.length_toList
    rw [hname, hdigest] at hlength
    omega

/-- The names of the Services of a gateway. -/
def serviceNames (hashes : RuntimeHashes) (namespaceName name : String) : List String :=
  [runtimeName hashes name, gatewayRuntimeServiceName hashes namespaceName name]

/-- Two gateways of a namespace have no object name in common. -/
def NamesApart (hashes : RuntimeHashes) (namespaceName name name' : String) : Prop :=
  (∀ service ∈ serviceNames hashes namespaceName name,
      service ∉ serviceNames hashes namespaceName name') ∧
    dnsConfigName hashes name ≠ dnsConfigName hashes name' ∧
    runtimeName hashes name ≠ runtimeName hashes name'

/-- The names clash after they were cut, or with a digest. -/
def NameClash (hashes : RuntimeHashes) (namespaceName name name' : String) : Prop :=
  CutClash hashes name name' ∨ name = hashes.serviceDigest (namespaceName ++ "/" ++ name') ∨
    name' = hashes.serviceDigest (namespaceName ++ "/" ++ name) ∨
    hashes.serviceDigest (namespaceName ++ "/" ++ name) =
      hashes.serviceDigest (namespaceName ++ "/" ++ name')

/-- INTERNAL: **when two gateways of a namespace share an object name.** -/
theorem namesApart_iff (hne : name ≠ name') :
    NamesApart hashes namespaceName name name' ↔ ¬ NameClash hashes namespaceName name name' := by
  have hruntime := @runtimeName_eq_iff hashes name name' hne
  have hfirst := @runtimeName_eq_service_iff hashes namespaceName name name'
  have hsecond : gatewayRuntimeServiceName hashes namespaceName name = runtimeName hashes name' ↔
      name' = hashes.serviceDigest (namespaceName ++ "/" ++ name) :=
    eq_comm.trans runtimeName_eq_service_iff
  have hdigest : gatewayRuntimeServiceName hashes namespaceName name =
      gatewayRuntimeServiceName hashes namespaceName name' ↔
        hashes.serviceDigest (namespaceName ++ "/" ++ name) =
          hashes.serviceDigest (namespaceName ++ "/" ++ name') := by
    rw [← String.toList_inj, gatewayRuntimeServiceName_toList, gatewayRuntimeServiceName_toList,
      List.append_cancel_left_eq, String.toList_inj]
  have hdns : dnsConfigName hashes name = dnsConfigName hashes name' ↔
      runtimeName hashes name = runtimeName hashes name' := by
    unfold dnsConfigName
    rw [← String.toList_inj, String.toList_append, String.toList_append,
      List.append_cancel_right_eq, String.toList_inj]
  unfold NamesApart NameClash serviceNames
  simp only [List.mem_cons, List.not_mem_nil, or_false, forall_eq_or_imp, forall_eq, not_or,
    ne_eq, hdns, hruntime, hfirst, hsecond, hdigest]
  constructor
  · rintro ⟨⟨⟨hcut, hname⟩, hname', hdigests⟩, -, -⟩
    exact ⟨hcut, hname, hname', hdigests⟩
  · rintro ⟨hcut, hname, hname', hdigests⟩
    exact ⟨⟨⟨hcut, hname⟩, hname', hdigests⟩, hcut, hcut⟩

end Names

/-- **A gateway's runtime takes over no object of another owner iff none stands under its names, and
two gateways share a name iff their names clash.** -/
theorem runtime_objects_exclusive_iff (provisioner : Provisioner) (answers : ProvisionAnswers)
    (gateway : ProvisionedGateway) (store : RuntimeStore) (hashes : RuntimeHashes)
    (namespaceName name name' : String) :
    (OwnNames provisioner gateway store →
      Untouched gateway store (provisioner.reconcile answers gateway store).2) ∧
    (AllAnswered answers →
      (Untouched gateway store (provisioner.reconcile answers gateway store).2 ↔
        OwnNames provisioner gateway store)) ∧
    (name ≠ name' →
      (NamesApart hashes namespaceName name name' ↔
        ¬ NameClash hashes namespaceName name name')) := by
  refine ⟨?_, ?_, ?_⟩
  · intro hown
    exact reconcile_untouched provisioner answers gateway store hown
  · intro hanswered
    exact ⟨ownNames_of_untouched provisioner answers gateway store hanswered,
      reconcile_untouched provisioner answers gateway store⟩
  · intro hne
    exact namesApart_iff hne

/-! ### A recreated gateway and a long name -/

def longName : String := String.ofList (List.replicate 47 'a')

/-- The SHA-256 sums of the long name, of the name that it is cut to and of the gateway `vpn/exit`, as
far as the names use them. -/
def exitHashes : RuntimeHashes where
  shortHash value :=
    if value = longName then "11eaed932c6c6fddfc2efc394e609fac"
    else if value = takeChars 33 longName ++ "-11eaed932c6c" then "3004ee5cda257cd69f2802196e0d4e05"
    else "00000000000000000000000000000000"
  serviceDigest value := if value = "vpn/exit" then "4523f8e7a2b54f9a" else "0000000000000000"
  shortHash_length value := by
    split
    · decide +kernel
    split <;> decide +kernel
  serviceDigest_length value := by split <;> decide +kernel

def exitProvisioner : Provisioner := ⟨exitHashes, 8080, 9443, "corefile", "template"⟩

def recreatedGateway : ProvisionedGateway := ⟨"vpn", "exit", "gateway-2", false⟩

def answeredCalls : ObjectAnswers := ⟨none, none, none, none, "created"⟩

def answeredReconcile : ProvisionAnswers :=
  ⟨.ok (), answeredCalls, answeredCalls, answeredCalls, answeredCalls⟩

/-- The Service of the gateway with a UID. -/
def exitService (uid : ObjectUID) : RuntimeObject .service :=
  exitProvisioner.desiredService { recreatedGateway with uid }

/-- A namespace in which only the Service of the gateway with a UID is left. -/
def serviceLeft (uid : ObjectUID) : RuntimeStore :=
  RuntimeStore.put (fun _ _ => none) .service "waycloak-gateway-exit" (some (exitService uid))

theorem runtimeName_exit : runtimeName exitHashes "exit" = "waycloak-gateway-exit" := by
  decide +kernel

theorem runtime_objects_exclusive_exit :
    OwnNames exitProvisioner recreatedGateway (serviceLeft "gateway-2") ∧
      Untouched recreatedGateway (serviceLeft "gateway-2")
        (exitProvisioner.reconcile answeredReconcile recreatedGateway
          (serviceLeft "gateway-2")).2 := by
  have hown : OwnNames exitProvisioner recreatedGateway (serviceLeft "gateway-2") := by
    have hservice : Own recreatedGateway (serviceLeft "gateway-2") .service
        (runtimeName exitProvisioner.hashes recreatedGateway.name) := by
      intro object hobject
      have hname : runtimeName exitProvisioner.hashes recreatedGateway.name =
          "waycloak-gateway-exit" := runtimeName_exit
      rw [hname, serviceLeft, storePut_self] at hobject
      cases hobject
      exact not_foreign_owner rfl
    refine ⟨hservice, ?_, ?_⟩
    · intro hrequested
      cases hrequested
    · intro _
      exact ⟨by rintro object ⟨⟩, by rintro object ⟨⟩⟩
  exact ⟨hown, (runtime_objects_exclusive_iff exitProvisioner answeredReconcile recreatedGateway
    (serviceLeft "gateway-2") exitHashes "vpn" "exit" longName).1 hown⟩

/-- A recreated gateway takes the Service of the deleted one, and a gateway can have the
name that a long name is cut to. -/
theorem old_service_taken :
    ForeignObject recreatedGateway (exitService "gateway-1") ∧
      ((exitProvisioner.reconcile answeredReconcile recreatedGateway
        (serviceLeft "gateway-1")).2 .service "waycloak-gateway-exit").map (·.ownerReferences) =
          some [recreatedGateway.owner] ∧
      String.ofList (cutName exitHashes longName) ≠ longName ∧
      exitHashes.shortHash (String.ofList (cutName exitHashes longName)) ≠
        exitHashes.shortHash longName ∧
      runtimeName exitHashes (String.ofList (cutName exitHashes longName)) =
        runtimeName exitHashes longName := by
  decide +kernel

end Waycloak.Analysis
