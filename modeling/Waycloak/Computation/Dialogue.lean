import Mathlib.Data.List.Forall2

/-!
# Programs that ask their environment

A dialogue is a finite program that asks its environment one request after another and goes on
with the answers; `ans r` is the type of the answers to `r`. Nothing is assumed about the
environment: two equal requests may be answered differently, so whatever can change between two
requests may have changed.

`Runs p t a`: the exchanges of a complete run of `p` are `t`, in order, and its result is `a`.
`Allowed ok h p`: every request that `p` can make satisfies `ok` of the exchanges before it, those
of `h` included. `Allowed` is proved along the program (`allowed_bind`, `allowed_each`) and read off a
run by `Allowed.of_runs`; in the same way `Yields` says what holds at the end, and `Asks` which
requests there are at all.
-/

set_option autoImplicit false

namespace Waycloak.Computation

variable {ρ α β ι : Type} {ans : ρ → Type} {a : α} {l : List ι} {r : ρ} {b : β} {bs : List β}

/-- A program with result `α` that asks requests. -/
inductive Dialogue {ρ : Type} (ans : ρ → Type) (α : Type) : Type
  | done (a : α) : Dialogue ans α
  | ask (r : ρ) (k : ans r → Dialogue ans α) : Dialogue ans α

/-- A request and its answer. -/
abbrev Exchange {ρ : Type} (ans : ρ → Type) : Type := (r : ρ) × ans r

namespace Dialogue

def bind (p : Dialogue ans α) (f : α → Dialogue ans β) : Dialogue ans β :=
  match p with
  | done a => f a
  | ask r k => ask r fun x => (k x).bind f

instance : Monad (Dialogue ans) where
  pure := done
  bind := bind

/-- One request. -/
def request (r : ρ) : Dialogue ans (ans r) := ask r done

/-- One dialogue for each element of a list. -/
def each (f : ι → Dialogue ans β) : List ι → Dialogue ans (List β)
  | [] => pure []
  | i :: l => do
    let b ← f i
    let bs ← each f l
    pure (b :: bs)

/-- **The complete runs of a dialogue.** -/
inductive Runs : Dialogue ans α → List (Exchange ans) → α → Prop
  | done (a : α) : Runs (done a) [] a
  | ask {r : ρ} {k : ans r → Dialogue ans α} {x : ans r} {t : List (Exchange ans)} {a : α}
      (h : Runs (k x) t a) : Runs (ask r k) (⟨r, x⟩ :: t) a

variable {t : List (Exchange ans)} {p : Dialogue ans α} {k : ans r → Dialogue ans α}
  {f : ι → Dialogue ans β} {g : ans r → Dialogue ans β}

@[simp] theorem runs_pure {a b : α} : Runs (pure a : Dialogue ans α) t b ↔ t = [] ∧ b = a := by
  constructor
  · intro h
    cases h
    exact ⟨rfl, rfl⟩
  · rintro ⟨rfl, rfl⟩
    exact .done b

theorem runs_ask : Runs (.ask r k) t a ↔ ∃ x rest, t = ⟨r, x⟩ :: rest ∧ Runs (k x) rest a := by
  constructor
  · intro h
    cases h with
    | ask h => exact ⟨_, _, rfl, h⟩
  · rintro ⟨x, rest, rfl, h⟩
    exact .ask h

@[simp] theorem runs_request {x : ans r} : Runs (request r) t x ↔ t = [⟨r, x⟩] := by
  constructor
  · intro h
    obtain ⟨y, rest, rfl, hrest⟩ := runs_ask.mp h
    cases hrest
    rfl
  · rintro rfl
    exact .ask (.done x)

theorem runs_request_bind :
    Runs (request r >>= g) t b ↔ ∃ x rest, t = ⟨r, x⟩ :: rest ∧ Runs (g x) rest b :=
  runs_ask

theorem runs_bind {f : α → Dialogue ans β} :
    Runs (p >>= f) t b ↔ ∃ a first rest, t = first ++ rest ∧ Runs p first a ∧ Runs (f a) rest b := by
  constructor
  · intro h
    induction p generalizing t with
    | done a => exact ⟨a, [], t, rfl, .done a, h⟩
    | ask r k ih =>
      obtain ⟨x, rest, rfl, hrest⟩ := runs_ask.mp h
      obtain ⟨a, first, last, rfl, hk, hf⟩ := ih x hrest
      exact ⟨a, ⟨r, x⟩ :: first, last, rfl, .ask hk, hf⟩
  · rintro ⟨a, first, rest, rfl, hp, hf⟩
    induction hp with
    | done a => exact hf
    | ask h ih => exact .ask (ih hf)

theorem runs_each :
    Runs (each f l) t bs ↔ ∃ pieces : List (List (Exchange ans) × β),
      List.Forall₂ (fun i piece => Runs (f i) piece.1 piece.2) l pieces ∧
        t = (pieces.map Prod.fst).flatten ∧ bs = pieces.map Prod.snd := by
  induction l generalizing t bs with
  | nil =>
    constructor
    · intro h
      obtain ⟨rfl, rfl⟩ := runs_pure.mp h
      exact ⟨[], .nil, rfl, rfl⟩
    · rintro ⟨pieces, hall, rfl, rfl⟩
      cases hall
      exact runs_pure.mpr ⟨rfl, rfl⟩
  | cons i l ih =>
    constructor
    · intro h
      obtain ⟨b, first, rest, rfl, hb, h⟩ := runs_bind.mp h
      obtain ⟨bs', first', rest', rfl, hbs, h⟩ := runs_bind.mp h
      obtain ⟨rfl, rfl⟩ := runs_pure.mp h
      obtain ⟨pieces, hall, rfl, rfl⟩ := ih.mp hbs
      exact ⟨(first, b) :: pieces, .cons hb hall, by simp, rfl⟩
    · rintro ⟨pieces, hall, rfl, rfl⟩
      cases hall with
      | @cons _ piece _ pieces hpiece hall =>
        refine runs_bind.mpr ⟨piece.2, piece.1, (pieces.map Prod.fst).flatten, rfl, hpiece, ?_⟩
        refine runs_bind.mpr ⟨pieces.map Prod.snd, _, [], (List.append_nil _).symm,
          ih.mpr ⟨pieces, hall, rfl, rfl⟩, ?_⟩
        exact runs_pure.mpr ⟨rfl, rfl⟩

theorem mem_runs_each (h : Runs (each f l) t bs) {e : Exchange ans} (he : e ∈ t) :
    ∃ i ∈ l, ∃ piece b, Runs (f i) piece b ∧ e ∈ piece ∧ b ∈ bs := by
  obtain ⟨pieces, hall, rfl, rfl⟩ := runs_each.mp h
  clear h
  induction hall with
  | nil => cases he
  | @cons i result l results hrun hall ih =>
    rw [List.map_cons, List.flatten_cons] at he
    rcases List.mem_append.mp he with he | he
    · exact ⟨i, by simp, _, _, hrun, he, by simp⟩
    · obtain ⟨j, hj, piece, b, hpiece, he, hb⟩ := ih he
      exact ⟨j, List.mem_cons_of_mem _ hj, piece, b, hpiece, he, List.mem_cons_of_mem _ hb⟩

theorem result_runs_each (h : Runs (each f l) t bs) (hb : b ∈ bs) :
    ∃ i ∈ l, ∃ piece, Runs (f i) piece b ∧ ∀ e ∈ piece, e ∈ t := by
  obtain ⟨pieces, hall, rfl, rfl⟩ := runs_each.mp h
  clear h
  induction hall with
  | nil => cases hb
  | @cons i result l results hrun hall ih =>
    rcases List.mem_cons.mp hb with rfl | hb
    · exact ⟨i, by simp, _, hrun, fun e he => by simp [he]⟩
    obtain ⟨j, hj, piece, hpiece, hsub⟩ := ih hb
    refine ⟨j, List.mem_cons_of_mem _ hj, piece, hpiece, fun e he => ?_⟩
    rw [List.map_cons, List.flatten_cons]
    exact List.mem_append_right _ (hsub e he)

theorem runs_each_of_mem (h : Runs (each f l) t bs) {i : ι} (hi : i ∈ l) :
    ∃ piece b, Runs (f i) piece b ∧ b ∈ bs ∧ ∀ e ∈ piece, e ∈ t := by
  obtain ⟨pieces, hall, rfl, rfl⟩ := runs_each.mp h
  clear h
  induction hall with
  | nil => cases hi
  | @cons j result l results hrun hall ih =>
    rcases List.mem_cons.mp hi with rfl | hi
    · exact ⟨_, _, hrun, by simp, fun e he => by simp [he]⟩
    obtain ⟨piece, b, hpiece, hb, hsub⟩ := ih hi
    refine ⟨piece, b, hpiece, List.mem_cons_of_mem _ hb, fun e he => ?_⟩
    rw [List.map_cons, List.flatten_cons]
    exact List.mem_append_right _ (hsub e he)

/-! ## What a request may rely on -/

/-- Every request of the dialogue satisfies `ok` of the exchanges before it. -/
def Allowed (ok : List (Exchange ans) → ρ → Prop) : List (Exchange ans) → Dialogue ans α → Prop
  | _, done _ => True
  | h, ask r k => ok h r ∧ ∀ x, Allowed ok (h ++ [⟨r, x⟩]) (k x)

variable {ok : List (Exchange ans) → ρ → Prop} {h : List (Exchange ans)}

@[simp] theorem allowed_pure : Allowed ok h (pure a : Dialogue ans α) := trivial

@[simp] theorem allowed_request : Allowed ok h (request r) ↔ ok h r := by
  simp [request, Allowed]

/-- INTERNAL: **the rule for sequences.** The second part may rely on what the first part exchanged
and on its result. -/
theorem allowed_bind {f : α → Dialogue ans β} (hp : Allowed ok h p)
    (hf : ∀ t a, Runs p t a → Allowed ok (h ++ t) (f a)) : Allowed ok h (p >>= f) := by
  induction p generalizing h with
  | done a =>
    have hdone := hf [] a (.done a)
    rw [List.append_nil] at hdone
    exact hdone
  | ask r k ih =>
    refine ⟨hp.1, fun x => ih x (hp.2 x) ?_⟩
    intro t a hrun
    simpa using hf (⟨r, x⟩ :: t) a (.ask hrun)

theorem allowed_request_bind (hr : ok h r) (hf : ∀ x, Allowed ok (h ++ [⟨r, x⟩]) (g x)) :
    Allowed ok h (request r >>= g) :=
  ⟨hr, hf⟩

/-- INTERNAL: **the rule for loops.** Each round may rely on the exchanges so far being those of
rounds. -/
theorem allowed_each
    (hf : ∀ i ∈ l, ∀ t, (∀ e ∈ t, ∃ j ∈ l, ∃ piece b, Runs (f j) piece b ∧ e ∈ piece) →
      Allowed ok (h ++ t) (f i)) : Allowed ok h (each f l) := by
  induction l generalizing h with
  | nil => trivial
  | cons i l ih =>
    refine allowed_bind (by simpa using hf i (by simp) []) fun t b hrun => ?_
    refine allowed_bind (ih fun j hj t' ht' => ?_) fun _ _ _ => allowed_pure
    have hround := hf j (List.mem_cons_of_mem _ hj) (t ++ t') fun e he => ?_
    · simpa using hround
    rcases List.mem_append.mp he with he | he
    · exact ⟨i, by simp, t, b, hrun, he⟩
    · obtain ⟨k, hk, hpiece⟩ := ht' e he
      exact ⟨k, List.mem_cons_of_mem _ hk, hpiece⟩

theorem Allowed.of_runs (hp : Allowed ok h p) (hrun : Runs p t a)
    {before after : List (Exchange ans)} {x : ans r} (ht : t = before ++ ⟨r, x⟩ :: after) :
    ok (h ++ before) r := by
  induction hrun generalizing h before with
  | done a => simp at ht
  | @ask r' k y t a hrun ih =>
    cases before with
    | nil =>
      cases ht
      simpa using hp.1
    | cons =>
      obtain ⟨rfl, hrest⟩ := List.cons.inj ht
      simpa using ih (hp.2 y) hrest

/-! ## What a result says -/

/-- Whenever the dialogue ends, `Q` holds of all exchanges so far and its result. -/
def Yields (Q : List (Exchange ans) → α → Prop) : List (Exchange ans) → Dialogue ans α → Prop
  | h, done a => Q h a
  | h, ask r k => ∀ x, Yields Q (h ++ [⟨r, x⟩]) (k x)

section Yields

variable {Q : List (Exchange ans) → α → Prop} {R : List (Exchange ans) → β → Prop}

@[simp] theorem yields_pure : Yields Q h (pure a : Dialogue ans α) ↔ Q h a := Iff.rfl

theorem yields_request_bind (hf : ∀ x, Yields R (h ++ [⟨r, x⟩]) (g x)) :
    Yields R h (request r >>= g) := hf

theorem yields_bind {f : α → Dialogue ans β} (hf : ∀ t a, Runs p t a → Yields R (h ++ t) (f a)) :
    Yields R h (p >>= f) := by
  induction p generalizing h with
  | done a =>
    have hdone := hf [] a (.done a)
    rw [List.append_nil] at hdone
    exact hdone
  | ask r k ih =>
    intro x
    refine ih x fun t a hrun => ?_
    simpa using hf (⟨r, x⟩ :: t) a (.ask hrun)

theorem Yields.of_runs (hp : Yields Q h p) (hrun : Runs p t a) : Q (h ++ t) a := by
  induction hrun generalizing h with
  | done a =>
    rw [List.append_nil]
    exact hp
  | ask hrun ih => simpa using ih (hp _)

end Yields

/-! ## Which requests a dialogue makes -/

/-- Every request the dialogue can make satisfies `q`. -/
def Asks (q : ρ → Prop) : Dialogue ans α → Prop
  | done _ => True
  | ask r k => q r ∧ ∀ x, Asks q (k x)

variable {q : ρ → Prop}

@[simp] theorem asks_pure : Asks q (pure a : Dialogue ans α) := trivial

@[simp] theorem asks_request : Asks q (request r : Dialogue ans (ans r)) ↔ q r := by
  simp [request, Asks]

theorem asks_bind {f : α → Dialogue ans β} (hp : Asks q p) (hf : ∀ a, Asks q (f a)) :
    Asks q (p >>= f) := by
  induction p with
  | done a => exact hf a
  | ask r k ih => exact ⟨hp.1, fun x => ih x (hp.2 x)⟩

theorem asks_each (hf : ∀ i ∈ l, Asks q (f i)) : Asks q (each f l) := by
  induction l with
  | nil => trivial
  | cons i l ih =>
    refine asks_bind (hf i (by simp)) fun b => ?_
    exact asks_bind (ih fun j hj => hf j (List.mem_cons_of_mem _ hj)) fun bs => asks_pure

theorem Asks.mono {q' : ρ → Prop} (hp : Asks q p) (hq : ∀ r, q r → q' r) : Asks q' p := by
  induction p with
  | done a => trivial
  | ask r k ih => exact ⟨hq r hp.1, fun x => ih x (hp.2 x)⟩

theorem Asks.of_runs (hp : Asks q p) (hrun : Runs p t a) : ∀ e ∈ t, q e.1 := by
  induction hrun with
  | done a => simp
  | ask hrun ih =>
    intro e he
    rcases List.mem_cons.mp he with rfl | he
    · exact hp.1
    · exact ih (hp.2 _) e he

theorem Asks.allowed (hp : Asks q p) (hok : ∀ t r, (∀ e ∈ t, q e.1) → q r → ok (h ++ t) r) :
    Allowed ok h p := by
  induction p generalizing h with
  | done a => trivial
  | ask r k ih =>
    refine ⟨by simpa using hok [] r (by simp) hp.1, fun x => ih x (hp.2 x) fun t r' ht hr' => ?_⟩
    have hnext := hok (⟨r, x⟩ :: t) r' (List.forall_mem_cons.mpr ⟨hp.1, ht⟩) hr'
    simpa using hnext

/-! ## A given environment -/

/-- The run against an environment that answers by what has been exchanged so far. -/
def play (respond : List (Exchange ans) → (r : ρ) → ans r) :
    List (Exchange ans) → Dialogue ans α → List (Exchange ans) × α
  | _, done a => ([], a)
  | h, ask r k =>
    let rest := play respond (h ++ [⟨r, respond h r⟩]) (k (respond h r))
    (⟨r, respond h r⟩ :: rest.1, rest.2)

theorem runs_play (respond : List (Exchange ans) → (r : ρ) → ans r) (h : List (Exchange ans))
    (p : Dialogue ans α) : Runs p (play respond h p).1 (play respond h p).2 := by
  induction p generalizing h with
  | done a => exact .done a
  | ask r k ih => exact .ask (ih _ _)

section Performs

variable {κ : Type} {act : Exchange ans → Option κ}

/-- Some run of the dialogue ends in `a` and its exchanges perform the actions. -/
def Performs (act : Exchange ans → Option κ) (p : Dialogue ans α) (actions : List κ) (a : α) : Prop :=
  ∃ t, Runs p t a ∧ t.filterMap act = actions

theorem performs_pure : Performs act (pure a : Dialogue ans α) [] a :=
  ⟨[], .done a, rfl⟩

theorem performs_request (r : ρ) (x : ans r) :
    Performs act (request r : Dialogue ans (ans r)) (act ⟨r, x⟩).toList x := by
  refine ⟨[⟨r, x⟩], runs_request.mpr rfl, ?_⟩
  cases h : act ⟨r, x⟩ <;> simp [h]

theorem performs_bind {f : α → Dialogue ans β} {actions actions' : List κ}
    (hp : Performs act p actions a) (hf : Performs act (f a) actions' b) :
    Performs act (p >>= f) (actions ++ actions') b := by
  obtain ⟨t, ht, rfl⟩ := hp
  obtain ⟨t', ht', rfl⟩ := hf
  exact ⟨t ++ t', runs_bind.mpr ⟨a, t, t', rfl, ht, ht'⟩, List.filterMap_append⟩

theorem performs_bind_pure {g : α → β} {actions : List κ} (hp : Performs act p actions a) :
    Performs act (p >>= fun a => pure (g a)) actions (g a) := by
  have hbind : Performs act (p >>= fun a => pure (g a)) (actions ++ []) (g a) :=
    performs_bind hp performs_pure
  rwa [List.append_nil] at hbind

theorem performs_each {actions : ι → List κ} {result : ι → β}
    (hf : ∀ i ∈ l, Performs act (f i) (actions i) (result i)) :
    Performs act (each f l) (l.flatMap actions) (l.map result) := by
  induction l with
  | nil => exact performs_pure
  | cons i l ih =>
    have hrest := ih fun j hj => hf j (List.mem_cons_of_mem _ hj)
    exact performs_bind (hf i (by simp)) (performs_bind_pure hrest)

end Performs

end Dialogue

end Waycloak.Computation
