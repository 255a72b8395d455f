import Waycloak.Model.GatewayFilter

/-!
# What one `ReplaceRules` of the gateway agent does

`rebuild_ok` opens the slow path: the core table is the one of the configuration, and every chain of
the engine keeps its own rules and has the marked rules of the configuration (`Rebuilt`).
`gatewayRulesCurrent_true` opens the fast path: what the markers of the five chains say.
-/

set_option autoImplicit false

namespace Waycloak.Interface

open Waycloak.Model Waycloak.Computation.Nftables

variable {order : ByteOrder} {fails : NetlinkCall → Bool} {config : GatewayConfig} {healthy : Bool}
  {s s' : Ruleset}

/-- The core table of a configuration.
SOURCE: gatewaydataplane/backend_linux.go:257-266 -/
def coreTable (order : ByteOrder) (config : GatewayConfig) (healthy : Bool) : Table := fun name =>
  if name = "forward" then
    some { coreForwardChain with rules := coreForwardRules order config healthy }
  else if name = "postrouting" then
    some { corePostroutingChain with rules := corePostroutingRules config healthy }
  else none

/-- The rules of a chain of the engine that are the engine's own. -/
def unmarked (rules : List Rule) : List Rule :=
  rules.filter fun rule => !Rule.marked engineRuleMarkerPrefix rule

/-- The rules of a chain of the engine that carry the agent's marker. -/
def markedRules (rules : List Rule) : List Rule := rules.filter (Rule.marked engineRuleMarkerPrefix)

/-- The three chains the agent adds rules to. -/
def engineChains : List String :=
  [engineInputChainName, engineForwardChainName, engineOutputChainName]

/-! ## The core table -/

theorem coreBatch_table {op : Op} {present : Bool}
    (hop : op ∈ coreBatch order config healthy present) : op.table = coreTableName := by
  simp only [coreBatch, List.mem_append, List.mem_map] at hop
  rcases hop with ((hop | hop) | ⟨rule, -, rfl⟩) | ⟨rule, -, rfl⟩
  · split at hop
    · rw [List.mem_singleton.mp hop]
      rfl
    · cases hop
  · simp only [List.mem_cons, List.not_mem_nil, or_false] at hop
    rcases hop with rfl | rfl | rfl <;> rfl
  · rfl
  · rfl

theorem flush_coreBatch :
    flush s (coreBatch order config healthy (s coreTableName).isSome) coreTableName =
      some (coreTable order config healthy) := by
  rw [flush_own fun op => coreBatch_table]
  unfold coreBatch
  rw [List.append_assoc, List.append_assoc, foldl_edit_replaced]
  simp only [List.cons_append, List.nil_append, List.foldl_cons, List.foldl_append,
    Op.edit_addTable, Op.edit_addChain, Option.getD_none, foldl_edit_addRules]
  congr 1
  funext name
  unfold coreTable
  by_cases hforward : name = "forward"
  · subst hforward
    simp [coreForwardChain]
  by_cases hpostrouting : name = "postrouting"
  · subst hpostrouting
    simp [corePostroutingChain]
  · simp [hforward, hpostrouting]

/-! ## The engine's chains -/

/-- The messages about the engine's chains.
SOURCE: gatewaydataplane/backend_linux.go:416-441 -/
def engineBatch (order : ByteOrder) (config : GatewayConfig) (healthy : Bool) (s : Ruleset) :
    List Op :=
  engineChains.flatMap (clearMarked s) ++
    [engineOutputChainName, engineInputChainName, engineForwardChainName].flatMap fun chain =>
      (engineRules order config healthy chain).map (.addRule engineFilterTableName chain)

theorem engineBatch_aboutRules {op : Op} (hop : op ∈ engineBatch order config healthy s) :
    op.aboutRules engineFilterTableName = true := by
  rcases List.mem_append.mp hop with hop | hop
  · obtain ⟨chain, -, hop⟩ := List.mem_flatMap.mp hop
    unfold clearMarked at hop
    split at hop
    · cases hop
    · obtain ⟨rule, -, rfl⟩ := List.mem_map.mp hop
      rfl
  · obtain ⟨chain, -, hop⟩ := List.mem_flatMap.mp hop
    obtain ⟨rule, -, rfl⟩ := List.mem_map.mp hop
    rfl

theorem foldl_clearMarked_other {name chain : String} (rules : List Rule) (hne : chain ≠ name) :
    (clearMarked s chain).foldl (Op.editRules name) rules = rules := by
  unfold clearMarked
  split
  · rfl
  · rw [foldl_editRules_del, if_neg hne]

theorem foldl_clearMarked {name : String} {found : Chain}
    (hfound : s.chain engineFilterTableName name = some found) :
    (clearMarked s name).foldl (Op.editRules name) found.rules = unmarked found.rules := by
  unfold clearMarked
  simp only [hfound]
  rw [foldl_editRules_del, if_pos rfl]
  exact foldl_erase_filter _ _

/-- What the slow path leaves of a rule set. -/
structure Rebuilt (order : ByteOrder) (config : GatewayConfig) (healthy : Bool) (s s' : Ruleset) :
    Prop where
  core : s' coreTableName = some (coreTable order config healthy)
  engine : ∀ name, s'.chain engineFilterTableName name =
    (s.chain engineFilterTableName name).map fun c =>
      if name ∈ engineChains then
        { c with rules := unmarked c.rules ++ engineRules order config healthy name }
      else c

theorem aboutRules_table {op : Op} {table : String} (h : op.aboutRules table = true) :
    op.table = table := by
  cases op <;> simp_all [Op.aboutRules, Op.table]

theorem chain_flush_engineBatch {t : Ruleset} (name : String)
    (hsame : t.chain engineFilterTableName name = s.chain engineFilterTableName name) :
    (flush t (engineBatch order config healthy s)).chain engineFilterTableName name =
      (s.chain engineFilterTableName name).map fun c =>
        if name ∈ engineChains then
          { c with rules := unmarked c.rules ++ engineRules order config healthy name }
        else c := by
  rw [chain_flush_of_aboutRules fun op => engineBatch_aboutRules, hsame]
  cases hfound : s.chain engineFilterTableName name with
  | none => rfl
  | some =>
    rw [Option.map_some, Option.map_some, Option.some_inj]
    unfold engineBatch
    rw [List.foldl_append,
      foldl_editRules_flatMap (fun chain rules => foldl_clearMarked_other rules) (by decide),
      foldl_editRules_flatMap (by
        intro chain rules hne
        rw [foldl_editRules_add, if_neg hne]) (by decide)]
    have hmem : name ∈ [engineOutputChainName, engineInputChainName, engineForwardChainName] ↔
        name ∈ engineChains := by
      simp only [engineChains, List.mem_cons, List.not_mem_nil, or_false]
      tauto
    by_cases hchain : name ∈ engineChains
    · rw [if_pos (hmem.mpr hchain), if_pos hchain, if_pos hchain, foldl_editRules_add,
        if_pos rfl, foldl_clearMarked hfound]
    · rw [if_neg (hmem.not.mpr hchain), if_neg hchain, if_neg hchain]

/-- The filter table and the chains the slow path needs. -/
def Available (healthy : Bool) (s : Ruleset) : Prop :=
  match s engineFilterTableName with
  | none => healthy = false
  | some filter => (filter engineOutputChainName).isSome = true ∧
      (healthy = true → (filter engineInputChainName).isSome = true ∧
        (filter engineForwardChainName).isSome = true)

/-- INTERNAL: what the engine's part of the slow path can answer.
SOURCE: gatewaydataplane/backend_linux.go:377-443 -/
theorem replaceEngineFilterRules_ok {batch : List Op}
    (h : replaceEngineFilterRules order fails s config healthy = .ok batch) :
    Available healthy s ∧ ((s engineFilterTableName = none ∧ batch = []) ∨
      batch = engineBatch order config healthy s) := by
  unfold replaceEngineFilterRules at h
  split at h
  · cases h
  unfold Available
  split at h
  · next hnone =>
    split at h
    · cases h
    next hhealthy =>
    cases h
    rw [hnone]
    exact ⟨by simpa using hhealthy, Or.inl ⟨rfl, rfl⟩⟩
  · next filter hfilter =>
    split at h
    · cases h
    next havailable =>
    dsimp only at h
    split at h
    · cases h
    cases h
    rw [hfilter]
    refine ⟨?_, Or.inr rfl⟩
    show (filter engineOutputChainName).isSome = true ∧ (healthy = true →
      (filter engineInputChainName).isSome = true ∧ (filter engineForwardChainName).isSome = true)
    revert havailable
    cases filter engineOutputChainName <;> cases filter engineInputChainName <;>
      cases filter engineForwardChainName <;> cases healthy <;> simp

/-- INTERNAL: **the slow path rebuilds the rule set.**
SOURCE: gatewaydataplane/backend_linux.go:248-274 -/
theorem rebuild_ok (h : rebuild order fails config healthy s = .ok s') :
    Available healthy s ∧ Rebuilt order config healthy s s' := by
  unfold rebuild at h
  split at h
  · cases h
  split at h
  · cases h
  next batch hbatch =>
  split at h
  · cases h
  cases h
  obtain ⟨havailable, hbatch⟩ := replaceEngineFilterRules_ok hbatch
  have hfilter : flush s (coreBatch order config healthy (s coreTableName).isSome)
      engineFilterTableName = s engineFilterTableName := by
    apply flush_other
    intro op hop
    rw [coreBatch_table hop]
    decide
  refine ⟨havailable, ?_⟩
  rw [flush_append]
  rcases hbatch with ⟨hnone, rfl⟩ | rfl
  · refine ⟨flush_coreBatch, fun name => ?_⟩
    simp [Ruleset.chain, hfilter, hnone]
  · constructor
    · rw [flush_other, flush_coreBatch]
      intro op hop
      rw [aboutRules_table (engineBatch_aboutRules hop)]
      decide
    · intro name
      apply chain_flush_engineBatch
      simp [Ruleset.chain, hfilter]

theorem rebuild_available (havailable : Available healthy s) :
    ∃ s', rebuild order (fun _ => false) config healthy s = .ok s' := by
  unfold rebuild replaceEngineFilterRules
  unfold Available at havailable
  cases hfilter : s engineFilterTableName with
  | none =>
    rw [hfilter] at havailable
    simp [havailable]
  | some =>
    rw [hfilter] at havailable
    simp only [Bool.or_self, Bool.false_eq_true, if_false, Bool.and_false]
    rw [if_neg, if_neg]
    · exact ⟨_, rfl⟩
    · simp
    · obtain ⟨houtput, hothers⟩ := havailable
      cases healthy with
      | false => simp [Option.isSome_iff_ne_none.mp houtput]
      | true =>
        obtain ⟨hinput, hforward⟩ := hothers rfl
        simp [Option.isSome_iff_ne_none.mp houtput, Option.isSome_iff_ne_none.mp hinput,
          Option.isSome_iff_ne_none.mp hforward]

/-! ## The fast path -/

/-- A check passes: its chain has exactly the expected markers, or need not be there. -/
def Passes (check : MarkerCheck) (s : Ruleset) : Prop :=
  match s.chain check.table check.chain with
  | none => check.required = false
  | some chain => exactRuleMarkers chain.rules check.lead check.expected = true

theorem checkMarkers_true {checks : List MarkerCheck} (h : checkMarkers fails s checks = .ok true) :
    ∀ check ∈ checks, Passes check s := by
  induction checks with
  | nil => simp
  | cons first rest ih =>
    unfold checkMarkers at h
    have hfirst : Passes first s ∧ checkMarkers fails s rest = .ok true := by
      unfold Passes
      cases hchain : s.chain first.table first.chain with
      | none =>
        simp only [hchain] at h ⊢
        split at h
        · cases h
        · next hrequired => exact ⟨by simpa using hrequired, h⟩
      | some =>
        simp only [hchain] at h ⊢
        split at h
        · cases h
        split at h
        · next hexact => exact ⟨hexact, h⟩
        · cases h
    intro check hcheck
    rcases List.mem_cons.mp hcheck with rfl | hcheck
    · exact hfirst.1
    · exact ih hfirst.2 check hcheck

/-- INTERNAL: **what the fast path has seen when it lets the rules stand.**
SOURCE: gatewaydataplane/backend_linux.go:276-351 -/
theorem gatewayRulesCurrent_true (h : gatewayRulesCurrent fails s healthy = .ok true) :
    (∃ forward, s.chain coreTableName "forward" = some forward ∧ forward.policy = some .drop) ∧
      ∀ check ∈ markerChecks healthy, Passes check s := by
  unfold gatewayRulesCurrent at h
  split at h
  · cases h
  split at h
  · next forward postrouting hforward hpostrouting =>
    split at h
    · cases h
    · next hpolicy => exact ⟨⟨forward, hforward, by simpa using hpolicy⟩, checkMarkers_true h⟩
  · cases h

end Waycloak.Interface
