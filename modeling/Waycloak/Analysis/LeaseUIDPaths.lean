import Mathlib.Data.List.TakeWhile
import Waycloak.Model.LeasePaths

/-!
# Lease UIDs on the wire

A path that is built from a UID is escaped twice on its way and its segment unescaped once, so
a server reads the UID as `url.PathEscape` writes it. `lease_uid_survives_iff` says which UIDs
come back: those `url.PathEscape` leaves alone. Distinct requests still have distinct paths.
-/

set_option autoImplicit false

namespace Waycloak.Analysis

open Waycloak.Model Waycloak.Computation.Percent

/-- A UID the API schema admits: 1 to 128 characters, none of them a space.
SOURCE: api/v1beta1/common_types.go:125-129 -/
def AdmittedUID (uid : Bytes) : Prop :=
  ∃ chars : List Char, uid = chars.flatMap String.utf8EncodeChar ∧ 1 ≤ chars.length ∧
    chars.length ≤ 128 ∧ ∀ c ∈ chars, c ∉ [' ', '\t', '\n', '\r', '\x0b', '\x0c']

variable {root uid other : Bytes} {operation operation' : LeaseOperation}

theorem plainInSegment_lt {c : UInt8} (h : plainInSegment c = true) : c.toNat < 128 := by
  have hall : ∀ n < 256, plainInSegment (UInt8.ofNat n) = true → n < 128 := by decide +kernel
  exact hall _ c.toNat_lt (by rwa [UInt8.ofNat_toNat])

theorem length_of_plain {chars : List Char}
    (h : ∀ c ∈ chars.flatMap String.utf8EncodeChar, plainInSegment c = true) :
    (chars.flatMap String.utf8EncodeChar).length = chars.length := by
  have hone : ∀ c ∈ chars, (String.utf8EncodeChar c).length = 1 := by
    intro c hc
    have hfirst : ∀ b ∈ String.utf8EncodeChar c, b.toNat < 128 :=
      fun b hb => plainInSegment_lt (h b (List.mem_flatMap.mpr ⟨c, hc, hb⟩))
    unfold String.utf8EncodeChar at hfirst ⊢
    dsimp only at hfirst ⊢
    split_ifs at hfirst ⊢
    · rfl
    all_goals
      have := hfirst _ List.mem_cons_self
      simp at this
      omega
  rw [List.length_flatMap, List.map_congr_left hone, List.map_const', List.sum_replicate_nat,
    Nat.mul_one]

/-! ## What a server receives -/

theorem unescape_path (text : Bytes) : unescape (escape plainInPath text) = some text :=
  unescape_escape (by decide) text

/-- INTERNAL: **a path is parsed back** from the text `net/url` writes for it.
SOURCE: portforward/transport.go:132-134 -/
theorem received_path {path : Bytes} (hpath : path ≠ ascii "*") :
    requestLine path = some (escape plainInPath path) ∧ received path = some ⟨path, [], []⟩ := by
  have hescaped : URL.escapedPath ⟨path, [], []⟩ = escape plainInPath path := by
    simp [URL.escapedPath, hpath]
  have hquery : ∀ c ∈ escape plainInPath path, (c != 63) = true := by
    intro c hc
    rw [bne_iff_ne]
    rintro rfl
    obtain ⟨-, hplain⟩ | hcode := mem_escape hc
    · exact absurd hplain (by decide)
    · exact absurd hcode (by decide)
  have hparse : URL.parse (escape plainInPath path) = some ⟨path, [], []⟩ := by
    simp [URL.parse, List.takeWhile_eq_self_iff.mpr hquery, unescape_path]
  simp [requestLine, received, hescaped, hparse]

theorem slash_escape {plain : UInt8 → Bool} {text : Bytes} (h : 47 ∈ escape plain text) :
    47 ∈ text ∧ plain 47 = true := by
  obtain h | hcode := mem_escape h
  · exact h
  · exact absurd hcode (by decide)

theorem segment_clean (uid : Bytes) : 47 ∉ escape plainInSegment uid :=
  fun h => absurd (slash_escape h).2 (by decide)

/-- A path root: it starts with a slash, and nothing in it is escaped. -/
def IsRoot (root : Bytes) : Prop := root.head? = some 47 ∧ ∀ c ∈ root, plainInPath c = true

theorem leasePath_ne (hroot : IsRoot root) : leasePath root uid operation ≠ ascii "*" := by
  intro h
  have hfirst : (ascii "*").head? = some 47 := by simp [← h, leasePath, List.head?_append, hroot.1]
  exact absurd hfirst (by decide)

theorem segmentUID_escaped (huid : uid ≠ []) :
    segmentUID (escape plainInPath (escape plainInSegment uid)) =
      if (escape plainInSegment uid).length ≤ 128 then some (escape plainInSegment uid) else none := by
  have hne : ∀ {plain text}, text ≠ [] → escape plain text ≠ [] := fun {plain text} htext hnil =>
    htext (List.length_eq_zero_iff.mp (by simpa [hnil] using length_escape_le plain text))
  simp [segmentUID, unescape_path, hne (hne huid), Option.filter, segment_clean, hne huid]

/-- INTERNAL: **a server reads the UID as it was escaped once.**
SOURCE: portforward/transport.go:313-342, qbittorrentadapter/handler.go:383-403 -/
theorem parseLeasePath_leasePath (hroot : IsRoot root) :
    parseLeasePath root ⟨leasePath root uid operation, [], []⟩ =
      (segmentUID (escape plainInPath (escape plainInSegment uid))).map (·, operation) := by
  set segment := escape plainInPath (escape plainInSegment uid)
  have hclean : ∀ c ∈ segment, (c == 47) = false := fun c hc =>
    beq_eq_false_iff_ne.mpr fun h => segment_clean uid (slash_escape (h ▸ hc)).1
  have htail : escape plainInPath operation.tail = operation.tail := by
    cases operation <;> decide
  have hescaped : URL.escapedPath ⟨leasePath root uid operation, [], []⟩ =
      root ++ (segment ++ operation.tail) := by
    rw [URL.escapedPath, if_neg (by simp), if_neg (leasePath_ne hroot), leasePath, escape_append,
      escape_append, escape_eq_self.mpr hroot.2, htail]
  have hleads : ∀ rest, root.isPrefixOf (root ++ rest) = true := by simp
  simp only [parseLeasePath, hescaped, hleads, List.drop_left, Bool.true_eq_false, if_false]
  cases operation with
  | reconcile => simp only [LeaseOperation.tail, List.append_nil, List.splitOnP_eq_singleton hclean]
  | withdraw =>
    have hsplit : (ascii "withdraw").splitOnP (· == 47) = [ascii "withdraw"] := by decide
    rw [show LeaseOperation.withdraw.tail = 47 :: ascii "withdraw" by decide,
      List.splitOnP_append_cons_of_forall_mem hclean 47 rfl, hsplit]
    exact if_pos rfl

/-! ## The UIDs that survive -/

/-- INTERNAL: **a UID comes back exactly if nothing in it is escaped.** -/
theorem survives_iff (hroot : IsRoot root) (h : AdmittedUID uid) :
    (received (leasePath root uid operation)).bind (parseLeasePath root) = some (uid, operation) ↔
      ∀ c ∈ uid, plainInSegment c = true := by
  obtain ⟨chars, huid, hfirst, hlast, -⟩ := h
  have hne : uid ≠ [] := by
    obtain ⟨c, hc⟩ := List.exists_mem_of_length_pos hfirst
    have hsize := (String.length_utf8EncodeChar c).trans_ge c.utf8Size_pos
    rintro rfl
    rw [List.flatMap_eq_nil_iff.mp huid.symm c hc] at hsize
    cases hsize
  rw [(received_path (leasePath_ne hroot)).2, Option.bind_some, parseLeasePath_leasePath hroot,
    segmentUID_escaped hne, ← escape_eq_self]
  constructor
  · intro hread
    split at hread
    · exact congrArg Prod.fst (Option.some.inj hread)
    · cases hread
  · intro hself
    have hlength : uid.length = chars.length :=
      huid ▸ length_of_plain (huid ▸ escape_eq_self.mp hself)
    rw [hself, if_pos (hlength.trans_le hlast)]
    rfl

theorem requestLine_inj (hroot : IsRoot root) (h : requestLine (leasePath root uid operation) =
      requestLine (leasePath root other operation')) : other = uid ∧ operation' = operation := by
  rw [(received_path (leasePath_ne hroot)).1, (received_path (leasePath_ne hroot)).1] at h
  have hrest := List.append_cancel_left (escape_inj (by decide) (Option.some.inj h))
  have hdiffer : ∀ {uid other : Bytes}, escape plainInSegment uid ++ [] ≠
      escape plainInSegment other ++ ascii "/withdraw" := fun {uid other} hsame =>
    segment_clean uid (by
      rw [← List.append_nil (escape _ _), hsame]
      exact List.mem_append_right _ (by decide))
  have hinj : ∀ {tail : Bytes}, escape plainInSegment uid ++ tail =
      escape plainInSegment other ++ tail → other = uid :=
    fun hsame => escape_inj (by decide) (List.append_cancel_right hsame).symm
  cases operation <;> cases operation'
  · exact ⟨hinj hrest, rfl⟩
  · exact absurd hrest hdiffer
  · exact absurd hrest.symm hdiffer
  · exact ⟨hinj hrest, rfl⟩

theorem roots : IsRoot runtimeRoot ∧ IsRoot adapterRoot := by
  unfold IsRoot
  decide +kernel

/-- **Exactly the UIDs that need no escaping survive the wire**, on both protocols, and no two
requests share a path.
SOURCE: portforward/transport.go:124-134, 313-342, portforward/adapter_transport.go:170-180, 222-228,
qbittorrentadapter/handler.go:383-403 -/
theorem lease_uid_survives_iff (uid : Bytes) (operation : LeaseOperation) (h : AdmittedUID uid) :
    ((received (runtimePath uid operation)).bind parseRuntimePath = some (uid, operation) ↔
      ∀ c ∈ uid, plainInSegment c = true) ∧
    ((received (adapterPath uid operation)).bind parsePath = some (uid, operation) ↔
      ∀ c ∈ uid, plainInSegment c = true) ∧
    ∀ other operation',
      requestLine (runtimePath uid operation) = requestLine (runtimePath other operation') ∨
        requestLine (adapterPath uid operation) = requestLine (adapterPath other operation') →
      other = uid ∧ operation' = operation := by
  refine ⟨?_, survives_iff roots.2 h, ?_⟩
  · rw [← survives_iff roots.1 h, runtimePath, (received_path (leasePath_ne roots.1)).2]
    rfl
  · rintro other operation' (hsame | hsame)
    · exact requestLine_inj roots.1 hsame
    · exact requestLine_inj roots.2 hsame

theorem lease_uid_survives_iff_uuid :
    AdmittedUID (ascii "3f1c-9a") ∧ (received (runtimePath (ascii "3f1c-9a") .withdraw)).bind
      parseRuntimePath = some (ascii "3f1c-9a", .withdraw) := by
  have huid : AdmittedUID (ascii "3f1c-9a") :=
    ⟨"3f1c-9a".toList, by decide +kernel, by decide, by decide, by simp⟩
  exact ⟨huid, (lease_uid_survives_iff _ _ huid).1.mpr (by decide +kernel)⟩

/-- An admitted UID with a percent sign comes back as another one. -/
theorem percent_uid_changes :
    AdmittedUID (ascii "a%b") ∧
    (received (runtimePath (ascii "a%b") .reconcile)).bind parseRuntimePath =
      some (ascii "a%25b", .reconcile) ∧
    (received (adapterPath (ascii "a%b") .reconcile)).bind parsePath =
      some (ascii "a%25b", .reconcile) :=
  ⟨⟨"a%b".toList, by decide +kernel, by decide, by decide, by simp⟩, by decide +kernel,
    by decide +kernel⟩

end Waycloak.Analysis
