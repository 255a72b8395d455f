import Mathlib.Data.List.Dedup
import Waycloak.Analysis.GatewayWithdrawal

/-!
# The rule markers and the rules

Before it rebuilds anything, `ReplaceRules` compares the markers of the installed rules with those
it would install. The markers say which rules there are and for which health value, but not for
which configuration: `gatewayRulesCurrent` does not read its configuration.

The invariant `Tied` ties markers to contents: the core table is the one of the last batch, and the
marked rules of an engine chain are those of the last batch or none. So the fast path is right for
the configuration of the last batch (`current_tied`), and for any other that builds the same rules
(`fast_path_exact`); after a change of the overlay interface it is not (`renamed_overlay_kept`).
-/

set_option autoImplicit false

namespace Waycloak.Analysis

open Waycloak.Model Waycloak.Interface Waycloak.Computation Waycloak.Computation.Nftables

variable {check : MarkerCheck} {config : GatewayConfig} {expected : List String} {healthy : Bool}
  {order : ByteOrder} {s s' : Ruleset}
variable {rules : List Rule} {lead : String} {a b : GatewayConfig}

/-! ## Events -/

/-- What the engine does to its own tables: it never writes a marked rule, and it removes marked
rules only together with their chain or table. -/
inductive EngineEdit where
  | addTable
  | delTable
  | addChain (name : String) (chain : Chain)
  | delChain (name : String)
  | insertRule (chain : String) (position : Nat) (rule : Rule)
  | removeRule (chain : String) (position : Nat)
  | setPolicy (chain : String) (policy : Option Verdict)
  | otherTable (name : String) (table : Option Table)

/-- The rules of a chain with one more rule of the engine, or one less. -/
def insertUnmarked (rules : List Rule) (position : Nat) (rule : Rule) : List Rule :=
  if Rule.marked engineRuleMarkerPrefix rule then rules
  else rules.take position ++ rule :: rules.drop position

def removeUnmarked (rules : List Rule) (position : Nat) : List Rule :=
  match rules.drop position with
  | [] => rules
  | rule :: rest =>
    if Rule.marked engineRuleMarkerPrefix rule then rules else rules.take position ++ rest

/-- The filter table with another chain under the name. -/
def editChain (s : Ruleset) (name : String) (f : Option Chain → Option Chain) : Ruleset :=
  Function.update s engineFilterTableName
    ((s engineFilterTableName).map fun chains => Function.update chains name (f (chains name)))

def EngineEdit.apply (s : Ruleset) : EngineEdit → Ruleset
  | .addTable =>
    Function.update s engineFilterTableName (some ((s engineFilterTableName).getD fun _ => none))
  | .delTable => Function.update s engineFilterTableName none
  | .addChain name chain =>
    editChain s name fun _ => some { chain with rules := unmarked chain.rules }
  | .delChain name => editChain s name fun _ => none
  | .insertRule name position rule =>
    editChain s name (Option.map fun c => { c with rules := insertUnmarked c.rules position rule })
  | .removeRule name position =>
    editChain s name (Option.map fun c => { c with rules := removeUnmarked c.rules position })
  | .setPolicy name policy => editChain s name (Option.map fun c => { c with policy })
  | .otherTable name table =>
    if name = coreTableName ∨ name = engineFilterTableName then s else Function.update s name table

/-- A call of `ReplaceRules`, or an edit of the engine. -/
inductive FilterEvent where
  | replace (config : GatewayConfig) (healthy : Bool) (fails : NetlinkCall → Bool)
  | engine (edit : EngineEdit)

/-- The rule set, and what the last batch that was flushed was built from. -/
structure FilterState where
  rules : Ruleset
  written : Option (GatewayConfig × Bool)

def FilterState.next (order : ByteOrder) (s : FilterState) :
    FilterEvent → FilterState × Option String
  | .replace config healthy fails =>
    match gatewayRulesCurrent fails s.rules healthy,
        replaceRules order fails config healthy s.rules with
    | .ok false, .ok rules => ({ rules, written := some (config, healthy) }, none)
    | _, .ok _ => (s, none)
    | _, .error err => (s, some err)
  | .engine edit => ({ s with rules := edit.apply s.rules }, none)

/-! ## The invariant -/

/-- The marked rules of a chain of the engine. -/
def engineMarked (s : Ruleset) (name : String) : Option (List Rule) :=
  (s.chain engineFilterTableName name).map fun chain => markedRules chain.rules

/-- The rules Waycloak has installed: the core table and the marked rules of the engine's chains. -/
def owned (s : Ruleset) : Option Table × (String → Option (List Rule)) :=
  (s coreTableName, engineMarked s)

/-- The markers are tied to the contents of the last batch. -/
def Tied (order : ByteOrder) (s : FilterState) : Prop :=
  match s.written with
  | none => s.rules coreTableName = none
  | some (config, healthy) => s.rules coreTableName = some (coreTable order config healthy) ∧
      ∀ name ∈ engineChains, ∀ marked, engineMarked s.rules name = some marked →
        marked = engineRules order config healthy name ∨ marked = []

theorem markedRules_append (a b : List Rule) :
    markedRules (a ++ b) = markedRules a ++ markedRules b := by
  simp [markedRules]

theorem markedRules_unmarked (rules : List Rule) : markedRules (unmarked rules) = [] := by
  simp [markedRules, unmarked, List.filter_filter]

theorem markedRules_insertUnmarked (rules : List Rule) (position : Nat) (rule : Rule) :
    markedRules (insertUnmarked rules position rule) = markedRules rules := by
  unfold insertUnmarked
  split
  · rfl
  next hmarked =>
  have hsplit := congrArg markedRules (List.take_append_drop position rules)
  rw [markedRules_append] at hsplit
  rw [markedRules_append, ← hsplit]
  simp [markedRules, hmarked]

theorem markedRules_removeUnmarked (rules : List Rule) (position : Nat) :
    markedRules (removeUnmarked rules position) = markedRules rules := by
  unfold removeUnmarked
  split
  · rfl
  next rule rest hdrop =>
  split
  · rfl
  next hmarked =>
  have hsplit := congrArg markedRules (List.take_append_drop position rules)
  rw [markedRules_append, hdrop] at hsplit
  rw [markedRules_append, ← hsplit]
  simp [markedRules, hmarked]

theorem marked_append (lead rest : String) (exprs : List Expr) :
    Rule.marked lead ⟨lead ++ rest, exprs⟩ = true := by
  simp only [Rule.marked, String.toList_append, List.isPrefixOf_iff_prefix]
  exact List.prefix_append _ _

theorem forwardRules_marked (order : ByteOrder) (config : GatewayConfig) (lead : String) :
    ∀ rule ∈ forwardRules order config lead, Rule.marked lead rule = true := by
  unfold forwardRules
  simp [marked_append]

theorem markedRules_engineRules (order : ByteOrder) (config : GatewayConfig) (healthy : Bool)
    (name : String) :
    markedRules (engineRules order config healthy name) =
      engineRules order config healthy name := by
  apply List.filter_eq_self.mpr
  unfold engineRules
  split
  · simp [marked_append]
  split
  · simp
  split
  · simp [marked_append]
  split
  · exact forwardRules_marked order config engineRuleMarkerPrefix
  · simp

theorem engineMarked_rebuilt (h : Rebuilt order config healthy s s') {name : String}
    (hname : name ∈ engineChains) :
    engineMarked s' name = (s.chain engineFilterTableName name).map fun _ =>
      engineRules order config healthy name := by
  unfold engineMarked
  rw [h.engine name]
  cases s.chain engineFilterTableName name with
  | none => rfl
  | some => simp [hname, markedRules_append, markedRules_unmarked, markedRules_engineRules]

theorem tied_rebuilt (h : Rebuilt order config healthy s s') :
    Tied order { rules := s', written := some (config, healthy) } := by
  refine ⟨h.core, ?_⟩
  intro name hname marked hmarked
  rw [engineMarked_rebuilt h hname] at hmarked
  obtain ⟨chain, -, rfl⟩ := Option.map_eq_some_iff.mp hmarked
  exact Or.inl rfl

theorem engineMarked_editChain (s : Ruleset) (name other : String) {f : Option Chain → Option Chain}
    (hf : ∀ c, (f c).map (fun chain => markedRules chain.rules) =
        c.map (fun chain => markedRules chain.rules) ∨
      ∀ chain, f c = some chain → markedRules chain.rules = []) :
    engineMarked (editChain s name f) other = engineMarked s other ∨
      ∀ marked, engineMarked (editChain s name f) other = some marked → marked = [] := by
  unfold engineMarked editChain Ruleset.chain
  rw [Function.update_self]
  cases hfilter : s engineFilterTableName with
  | none => exact Or.inl rfl
  | some chains =>
    by_cases heq : other = name
    · subst heq
      simp only [Option.map_some, Option.bind_some, Function.update_self]
      rcases hf (chains other) with hsame | hnone
      · exact Or.inl hsame
      · refine Or.inr fun marked hmarked => ?_
        obtain ⟨chain, hchain, rfl⟩ := Option.map_eq_some_iff.mp hmarked
        exact hnone chain hchain
    · have hother : Function.update chains name (f (chains name)) other = chains other :=
        Function.update_of_ne heq _ _
      simp [hother]

/-- INTERNAL: **an edit of the engine keeps the core table, and of each chain the marked rules or
none of them.** -/
theorem engineEdit_owned (s : Ruleset) (edit : EngineEdit) (name : String) :
    edit.apply s coreTableName = s coreTableName ∧
      (engineMarked (edit.apply s) name = engineMarked s name ∨
        ∀ marked, engineMarked (edit.apply s) name = some marked → marked = []) := by
  have hcore : coreTableName ≠ engineFilterTableName := by decide
  have hchain : ∀ (n : String) (f : Option Chain → Option Chain),
      editChain s n f coreTableName = s coreTableName := by
    intro n f
    exact Function.update_of_ne hcore _ _
  cases edit with
  | addTable =>
    refine ⟨Function.update_of_ne hcore _ _, Or.inl ?_⟩
    simp only [EngineEdit.apply, engineMarked, Ruleset.chain, Function.update_self]
    cases s engineFilterTableName <;> rfl
  | delTable =>
    refine ⟨Function.update_of_ne hcore _ _, Or.inr ?_⟩
    simp [EngineEdit.apply, engineMarked, Ruleset.chain]
  | addChain n =>
    simp only [EngineEdit.apply]
    refine ⟨hchain _ _, engineMarked_editChain s n name fun c => Or.inr ?_⟩
    intro found hfound
    cases hfound
    exact markedRules_unmarked _
  | delChain n =>
    simp only [EngineEdit.apply]
    refine ⟨hchain _ _, engineMarked_editChain s n name fun c => Or.inr ?_⟩
    intro found hfound
    cases hfound
  | insertRule n =>
    simp only [EngineEdit.apply]
    refine ⟨hchain _ _, engineMarked_editChain s n name fun c => Or.inl ?_⟩
    cases c <;> simp [markedRules_insertUnmarked]
  | removeRule n =>
    simp only [EngineEdit.apply]
    refine ⟨hchain _ _, engineMarked_editChain s n name fun c => Or.inl ?_⟩
    cases c <;> simp [markedRules_removeUnmarked]
  | setPolicy n =>
    simp only [EngineEdit.apply]
    refine ⟨hchain _ _, engineMarked_editChain s n name fun c => Or.inl ?_⟩
    cases c <;> rfl
  | otherTable =>
    simp only [EngineEdit.apply]
    split
    · exact ⟨rfl, Or.inl rfl⟩
    next hown =>
    obtain ⟨hnotCore, hnotFilter⟩ := not_or.mp hown
    refine ⟨Function.update_of_ne (Ne.symm hnotCore) _ _, Or.inl ?_⟩
    unfold engineMarked Ruleset.chain
    rw [Function.update_of_ne (Ne.symm hnotFilter)]

/-- INTERNAL: **every event keeps the markers tied.** -/
theorem tied_next {s : FilterState} (h : Tied order s) (event : FilterEvent) :
    Tied order (s.next order event).1 := by
  cases event with
  | replace =>
    unfold FilterState.next
    dsimp only
    split
    · next rules hcurrent hreplace =>
      unfold replaceRules at hreplace
      split at hreplace
      · cases hreplace
      · rw [hcurrent] at hreplace
        exact tied_rebuilt (rebuild_ok hreplace).2
    · exact h
    · exact h
  | engine edit =>
    unfold Tied at h ⊢
    unfold FilterState.next
    dsimp only
    cases hwritten : s.written with
    | none =>
      simp only [hwritten] at h ⊢
      rw [(engineEdit_owned s.rules edit "").1]
      exact h
    | some written =>
      obtain ⟨config, healthy⟩ := written
      simp only [hwritten] at h ⊢
      refine ⟨(engineEdit_owned s.rules edit "").1.trans h.1, ?_⟩
      intro name hname marked hmarked
      rcases (engineEdit_owned s.rules edit name).2 with hsame | hnone
      · exact h.2 name hname marked (hsame ▸ hmarked)
      · exact Or.inr (hnone marked hmarked)

/-! ## What the markers say -/

theorem exactRuleMarkers_nil_iff (h : exactRuleMarkers rules lead expected = true) :
    rules.filter (Rule.marked lead) = [] ↔ expected = [] := by
  unfold exactRuleMarkers at h
  dsimp only at h
  rw [Bool.and_eq_true, beq_iff_eq] at h
  constructor
  · intro hnone
    rw [hnone] at h
    exact List.length_eq_zero_iff.mp h.1.symm
  intro hnone
  rw [hnone, List.length_nil, List.length_eq_zero_iff] at h
  rw [← List.map_eq_nil_iff (f := Rule.userData)]
  exact List.eq_nil_of_subset_nil (h.1 ▸ List.subset_dedup _)

theorem coreForwardRules_marked (order : ByteOrder) (config : GatewayConfig) (healthy : Bool) :
    (coreForwardRules order config healthy).filter (Rule.marked "waycloak:") =
      coreForwardRules order config healthy := by
  apply List.filter_eq_self.mpr
  cases healthy with
  | false => simp [coreForwardRules]
  | true => exact forwardRules_marked order config "waycloak:"

theorem coreForward_healthy {written : Bool} (hexpected : expected = [] ↔ healthy = false)
    (h : exactRuleMarkers (coreForwardRules order config written) "waycloak:" expected = true) :
    written = healthy := by
  have hiff := exactRuleMarkers_nil_iff h
  rw [coreForwardRules_marked, hexpected] at hiff
  cases written <;> cases healthy <;> simp_all [coreForwardRules, forwardRules]

theorem engineMarked_of_passes (hpasses : Passes check s)
    (htable : check.table = engineFilterTableName) (hlead : check.lead = engineRuleMarkerPrefix)
    (hexpected : check.expected = [] ↔ engineRules order config healthy check.chain = [])
    (htied : ∀ marked, engineMarked s check.chain = some marked →
      marked = engineRules order config healthy check.chain ∨ marked = []) :
    engineMarked s check.chain = (s.chain engineFilterTableName check.chain).map fun _ =>
      engineRules order config healthy check.chain := by
  unfold Passes at hpasses
  rw [htable, hlead] at hpasses
  unfold engineMarked at htied ⊢
  cases hchain : s.chain engineFilterTableName check.chain with
  | none => rfl
  | some chain =>
    rw [hchain] at hpasses htied
    rw [Option.map_some, Option.map_some, Option.some_inj]
    rcases htied (markedRules chain.rules) rfl with hsame | hnone
    · exact hsame
    · have hempty := (exactRuleMarkers_nil_iff hpasses).mp hnone
      rw [hnone, hexpected.mp hempty]

theorem passes_required (hpasses : Passes check s) (hrequired : check.required = true) :
    (s.chain check.table check.chain).isSome = true := by
  unfold Passes at hpasses
  cases hchain : s.chain check.table check.chain with
  | none =>
    rw [hchain, hrequired] at hpasses
    cases hpasses
  | some => rfl

/-- The chains of the engine that a call writes to are there. -/
def ChainsPresent (healthy : Bool) (s : Ruleset) : Prop :=
  (s.chain engineFilterTableName engineOutputChainName).isSome = true ∧
    (healthy = true → (s.chain engineFilterTableName engineInputChainName).isSome = true ∧
      (s.chain engineFilterTableName engineForwardChainName).isSome = true)

theorem chainsPresent_iff :
    ChainsPresent healthy s ↔ s engineFilterTableName ≠ none ∧ Available healthy s := by
  unfold ChainsPresent Ruleset.chain Available
  cases s engineFilterTableName with
  | none => simp
  | some => simp

/-- INTERNAL: **rules the fast path lets stand are those of the last batch**, and all the chains the
slow path needs are there.
SOURCE: gatewaydataplane/backend_linux.go:276-375 -/
theorem current_tied {fails : NetlinkCall → Bool} {s : FilterState} (htied : Tied order s)
    (hcurrent : gatewayRulesCurrent fails s.rules healthy = .ok true) :
    ∃ config, s.written = some (config, healthy) ∧ Available healthy s.rules ∧
      s.rules coreTableName = some (coreTable order config healthy) ∧
      ∀ name ∈ engineChains, engineMarked s.rules name =
        (s.rules.chain engineFilterTableName name).map fun _ =>
          engineRules order config healthy name := by
  obtain ⟨⟨forward, hforward, -⟩, hchecks⟩ := gatewayRulesCurrent_true hcurrent
  simp only [markerChecks, List.forall_mem_cons] at hchecks
  obtain ⟨hcoreForward, -, hinput, hforwardChain, houtput, -⟩ := hchecks
  unfold Tied at htied
  cases hwritten : s.written with
  | none =>
    simp only [hwritten] at htied
    rw [Ruleset.chain, htied] at hforward
    cases hforward
  | some written =>
    obtain ⟨config, last⟩ := written
    simp only [hwritten] at htied
    obtain ⟨hcore, hengine⟩ := htied
    have hlast : last = healthy := by
      simp only [Passes, Ruleset.chain, hcore] at hcoreForward
      refine coreForward_healthy ?_ hcoreForward
      cases healthy <;> simp
    subst hlast
    refine ⟨config, rfl, ?_, hcore, ?_⟩
    · exact (chainsPresent_iff.mp ⟨passes_required houtput rfl, fun hhealthy =>
        ⟨passes_required hinput hhealthy, passes_required hforwardChain hhealthy⟩⟩).2
    intro name hname
    have htied := hengine name hname
    simp only [engineChains, List.mem_cons, List.not_mem_nil, or_false] at hname
    rcases hname with rfl | rfl | rfl
    · refine engineMarked_of_passes hinput rfl rfl ?_ htied
      cases last <;> simp [engineRules, engineInputChainName, engineOutputChainName]
    · refine engineMarked_of_passes hforwardChain rfl rfl ?_ htied
      cases last <;> simp [engineRules, forwardRules, engineForwardChainName,
        engineInputChainName, engineOutputChainName]
    · refine engineMarked_of_passes houtput rfl rfl ?_ htied
      simp [engineRules]

/-! ## The fast path and the slow path -/

/-- Two configurations build the same rules: they agree in the fields the rules read. -/
structure SameRules (a b : GatewayConfig) : Prop where
  overlayInterface : a.overlayInterface = b.overlayInterface
  tunnelInterface : a.tunnelInterface = b.tunnelInterface
  underlayInterface : a.underlayInterface = b.underlayInterface
  healthPort : a.healthPort = b.healthPort
  clusterDNSUpstream : a.clusterDNSUpstream = b.clusterDNSUpstream

theorem coreTable_congr (h : SameRules a b) (order : ByteOrder) (healthy : Bool) :
    coreTable order a healthy = coreTable order b healthy := by
  unfold coreTable coreForwardRules corePostroutingRules forwardRules masqueradeRule
  rw [h.overlayInterface, h.tunnelInterface]

theorem engineRules_congr (h : SameRules a b) (order : ByteOrder) (healthy : Bool) (name : String) :
    engineRules order a healthy name = engineRules order b healthy name := by
  unfold engineRules forwardRules outputDNS
  rw [h.overlayInterface, h.tunnelInterface, h.underlayInterface, h.healthPort,
    h.clusterDNSUpstream]

/-- **The fast path agrees with the slow path** for every configuration that builds the rules of the
last batch: from a rule set without a core table, after any calls of `ReplaceRules` with any
configurations, health values and netlink failures and any edits of the engine, rules the fast path
lets stand are the ones the slow path would install.
SOURCE: gatewaydataplane/backend_linux.go:236-443 -/
theorem fast_path_exact (order : ByteOrder) (start : Ruleset) (hstart : start coreTableName = none)
    (events : List FilterEvent) (s : FilterState)
    (hs : s = final (FilterState.next order) { rules := start, written := none } events)
    (fails : NetlinkCall → Bool) (config : GatewayConfig) (healthy : Bool)
    (hlast : ∀ last wasHealthy, s.written = some (last, wasHealthy) → SameRules last config)
    (hcurrent : gatewayRulesCurrent fails s.rules healthy = .ok true) :
    ∃ s', rebuild order (fun _ => false) config healthy s.rules = .ok s' ∧
      owned s' = owned s.rules := by
  have htied : Tied order s := by
    rw [hs, ← endState_exec]
    refine (exec_linked _ _ events).invariant_endState ?_ hstart
    intro r _ hr hbefore
    rw [hr]
    exact tied_next hbefore r.input
  obtain ⟨last, hwritten, havailable, hcore, hengine⟩ := current_tied htied hcurrent
  obtain ⟨s', hrebuild⟩ := @rebuild_available order config _ _ havailable
  have hrebuilt := (rebuild_ok hrebuild).2
  have hsame := hlast last healthy hwritten
  refine ⟨s', hrebuild, ?_⟩
  unfold owned
  rw [hrebuilt.core, hcore, coreTable_congr hsame]
  congr 1
  funext name
  by_cases hname : name ∈ engineChains
  · rw [engineMarked_rebuilt hrebuilt hname, hengine name hname, engineRules_congr hsame]
  · unfold engineMarked
    rw [hrebuilt.engine name]
    simp [hname]

/-! ## After the slow path -/

theorem exactRuleMarkers_of_markers
    (hmarkers : (rules.filter (Rule.marked lead)).map (·.userData) = expected)
    (hnodup : expected.Nodup) : exactRuleMarkers rules lead expected = true := by
  unfold exactRuleMarkers
  dsimp only
  rw [hmarkers, List.dedup_eq_self.mpr hnodup, beq_self_eq_true, Bool.true_and, List.all_eq_true]
  intro marker hmarker
  rw [List.count_eq_one_of_mem hnodup hmarker]
  rfl

theorem checkMarkers_of_passes {checks : List MarkerCheck} (h : ∀ check ∈ checks, Passes check s) :
    checkMarkers (fun _ => false) s checks = .ok true := by
  induction checks with
  | nil => rfl
  | cons first rest ih =>
    obtain ⟨hfirst, hrest⟩ := List.forall_mem_cons.mp h
    unfold checkMarkers
    unfold Passes at hfirst
    cases hchain : s.chain first.table first.chain with
    | none | some =>
      rw [hchain] at hfirst
      simp only [hfirst]
      exact ih hrest

theorem passes_engine (h : Rebuilt order config healthy s s')
    (htable : check.table = engineFilterTableName) (hlead : check.lead = engineRuleMarkerPrefix)
    (hname : check.chain ∈ engineChains)
    (hexpected : (engineRules order config healthy check.chain).map (·.userData) = check.expected)
    (hnodup : check.expected.Nodup)
    (hrequired : check.required = true →
      (s.chain engineFilterTableName check.chain).isSome = true) : Passes check s' := by
  unfold Passes
  rw [htable, hlead, h.engine]
  cases hchain : s.chain engineFilterTableName check.chain with
  | none =>
    rw [hchain] at hrequired
    simpa using hrequired
  | some chain =>
    rw [Option.map_some, if_pos hname]
    refine exactRuleMarkers_of_markers ?_ hnodup
    have hmarked : markedRules (unmarked chain.rules ++
        engineRules order config healthy check.chain) =
          engineRules order config healthy check.chain := by
      rw [markedRules_append, markedRules_unmarked, markedRules_engineRules, List.nil_append]
    exact (congrArg (List.map Rule.userData) hmarked).trans hexpected

/-- INTERNAL: **rules the slow path has installed are current**: the next call with the same health
value lets them stand. -/
theorem current_rebuilt (h : Rebuilt order config healthy s s')
    (hchains : ChainsPresent healthy s) :
    gatewayRulesCurrent (fun _ => false) s' healthy = .ok true := by
  have hforwardChain : s'.chain coreTableName "forward" =
      some { coreForwardChain with rules := coreForwardRules order config healthy } := by
    rw [Ruleset.chain, h.core]
    rfl
  have hpostrouting : s'.chain coreTableName "postrouting" =
      some { corePostroutingChain with rules := corePostroutingRules config healthy } := by
    rw [Ruleset.chain, h.core]
    rfl
  have hchecks : ∀ check ∈ markerChecks healthy, Passes check s' := by
    simp only [markerChecks, List.forall_mem_cons]
    refine ⟨?_, ?_, ?_, ?_, ?_, by simp⟩
    · simp only [Passes, hforwardChain]
      refine exactRuleMarkers_of_markers ?_ (by cases healthy <;> decide)
      rw [coreForwardRules_marked]
      cases healthy <;> rfl
    · simp only [Passes, hpostrouting]
      refine exactRuleMarkers_of_markers ?_ (by cases healthy <;> decide)
      have hmarked : Rule.marked "waycloak:" (masqueradeRule config) = true :=
        marked_append "waycloak:" "overlay-masquerade" _
      cases healthy with
      | false => rfl
      | true =>
        rw [corePostroutingRules, if_pos rfl, List.filter_cons_of_pos hmarked]
        rfl
    · refine passes_engine h rfl rfl (by simp [engineChains]) ?_ (by cases healthy <;> decide)
        fun hhealthy => (hchains.2 hhealthy).1
      cases healthy <;> rfl
    · refine passes_engine h rfl rfl (by simp [engineChains]) ?_ (by cases healthy <;> decide)
        fun hhealthy => (hchains.2 hhealthy).2
      cases healthy <;> rfl
    · refine passes_engine h rfl rfl (by simp [engineChains]) ?_ (by decide) fun _ => hchains.1
      rfl
  unfold gatewayRulesCurrent
  simp only [hforwardChain, hpostrouting]
  exact checkMarkers_of_passes hchecks

/-- **`ReplaceRules` settles after one call**, on any rule set with the engine's table: the same call
lets stand what the first one left.
SOURCE: gatewaydataplane/backend_linux.go:236-274 -/
theorem replaceRules_settles (order : ByteOrder) (config : GatewayConfig) (healthy : Bool)
    (s s' : Ruleset) (hfilter : s engineFilterTableName ≠ none)
    (h : replaceRules order (fun _ => false) config healthy s = .ok s') :
    replaceRules order (fun _ => false) config healthy s' = .ok s' := by
  unfold replaceRules at h ⊢
  split at h
  · cases h
  next hvalid =>
  rw [if_neg hvalid]
  split at h
  · cases h
  · next hcurrent =>
    cases h
    rw [hcurrent]
  · obtain ⟨havailable, hrebuilt⟩ := rebuild_ok h
    rw [current_rebuilt hrebuilt (chainsPresent_iff.mpr ⟨hfilter, havailable⟩)]

theorem engineFilter_replaced :
    gatewayRulesCurrent (fun _ => false) (engineFilter true) true = .ok false ∧
      ∃ s', rebuild .little (fun _ => false) gatewayConfig true (engineFilter true) = .ok s' ∧
        replaceRules .little (fun _ => false) gatewayConfig true (engineFilter true) = .ok s' := by
  have havailable : Available true (engineFilter true) := ⟨rfl, fun _ => ⟨rfl, rfl⟩⟩
  obtain ⟨s', hrebuild⟩ := @rebuild_available .little gatewayConfig _ _ havailable
  have hstale : gatewayRulesCurrent (fun _ => false) (engineFilter true) true = .ok false := by
    decide +kernel
  refine ⟨hstale, s', hrebuild, ?_⟩
  unfold replaceRules
  rw [if_neg (by decide +kernel), hstale]
  exact hrebuild

theorem replaceRules_settles_engine :
    ∃ s', replaceRules .little (fun _ => false) gatewayConfig true (engineFilter true) = .ok s' ∧
      replaceRules .little (fun _ => false) gatewayConfig true s' = .ok s' := by
  obtain ⟨-, s', -, hreplaced⟩ := engineFilter_replaced
  exact ⟨s', hreplaced, replaceRules_settles _ _ _ _ s' (by simp [engineFilter]) hreplaced⟩

/-! ## A change of the configuration -/

/-- A gateway after one call for healthy rules. -/
def servedOnce : FilterState :=
  (FilterState.next .little { rules := engineFilter true, written := none }
    (.replace gatewayConfig true fun _ => false)).1

theorem servedOnce_current : servedOnce.written = some (gatewayConfig, true) ∧
    gatewayRulesCurrent (fun _ => false) servedOnce.rules true = .ok true := by
  obtain ⟨hstale, s', hrebuild, hreplace⟩ := engineFilter_replaced
  have hserved : servedOnce = { rules := s', written := some (gatewayConfig, true) } := by
    unfold servedOnce FilterState.next
    simp only [hstale, hreplace]
  rw [hserved]
  exact ⟨rfl, current_rebuilt (rebuild_ok hrebuild).2 ⟨rfl, fun _ => ⟨rfl, rfl⟩⟩⟩

/-- Another MTU builds the same rules: the fast path is right. -/
theorem fast_path_exact_mtu :
    ∃ s', rebuild .little (fun _ => false) { gatewayConfig with mtu := 1300 } true
        servedOnce.rules = .ok s' ∧ owned s' = owned servedOnce.rules := by
  refine fast_path_exact .little (engineFilter true) rfl
    [.replace gatewayConfig true fun _ => false] servedOnce rfl (fun _ => false) _ true ?_
    servedOnce_current.2
  intro last wasHealthy hlast
  rw [servedOnce_current.1] at hlast
  cases hlast
  exact ⟨rfl, rfl, rfl, rfl, rfl⟩

/-- **Another overlay interface does not**: the fast path lets the rules of the old interface stand,
where the slow path would install others. -/
theorem renamed_overlay_kept :
    gatewayRulesCurrent (fun _ => false) servedOnce.rules true = .ok true ∧
      ∃ s', rebuild .little (fun _ => false) { gatewayConfig with overlayInterface := "wcrenamed" }
          true servedOnce.rules = .ok s' ∧
        s'.chain coreTableName "forward" ≠ servedOnce.rules.chain coreTableName "forward" := by
  have hfresh : Tied .little { rules := engineFilter true, written := none } := rfl
  have htied : Tied .little servedOnce := tied_next hfresh _
  obtain ⟨last, hlast, havailable, hcore, -⟩ := current_tied htied servedOnce_current.2
  rw [servedOnce_current.1] at hlast
  cases hlast
  obtain ⟨s', hrebuild⟩ := @rebuild_available .little
    { gatewayConfig with overlayInterface := "wcrenamed" } _ _ havailable
  refine ⟨servedOnce_current.2, s', hrebuild, ?_⟩
  rw [Ruleset.chain, Ruleset.chain, hcore, (rebuild_ok hrebuild).2.core]
  decide +kernel

end Waycloak.Analysis
