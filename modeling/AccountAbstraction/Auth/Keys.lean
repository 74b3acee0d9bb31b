import AccountAbstraction.Js.Base64
import AccountAbstraction.Js.BigInt
import AccountAbstraction.Js.JsonParse

/-!
# The key set of Privy

`server/privy-auth.mjs`: the JWKS that `loadJwks` reads (lines 49-69) and the key
that `keyFor` finds in it (lines 76-87), for one call on its own. The import of
a key and the check of a signature by `node:crypto` are parameters.

* `readKeys_ne_nil`: a load that succeeds leaves at least one key.
* `keyFor_eq_ok`: the key of a `kid` is the one in the key set after at most one
  load for staleness and at most one for the `kid`.
-/

namespace AccountAbstraction.Auth

open Js

/-- `JWKS_MIN_REFETCH_MS` (line 23). -/
def jwksMinRefetchMs : ℤ := 30000

/-- `JWKS_TTL_MS` (line 24). -/
def jwksTtlMs : ℤ := 10 * 60000

/-! ## Errors -/

/-- What `verify` rejects with: an `AuthError` with its message (status 401, lines
    11-16), or another error. -/
inductive VerifyError
  | auth (message : String)
  | other (err : JsError)

/-- `` `${before}${v}${after}` `` as the message of an `AuthError`. -/
def authErrorWith (before : String) (v : Option Json) (after : String) : VerifyError :=
  match (match v with | none => some "undefined" | some v => v.text?) with
  | some text => .auth (before ++ text ++ after)
  | none => .other { name := "TypeError", message := "Cannot convert object to primitive value" }

/-- A read that may throw. -/
def orThrow {α : Type} (x : Except JsError α) : Except VerifyError α := x.mapError .other

theorem orThrow_eq_ok {α : Type} {x : Except JsError α} {a : α} :
    orThrow x = .ok a ↔ x = .ok a := by
  cases x <;> simp [orThrow, Except.mapError]

/-! ## The key set -/

/-- `node:crypto`, by what the verifier uses of it: `createPublicKey` of a JWK
    (`none` where it throws) and `verify` with SHA-256 and signatures of the form
    `r || s`. -/
structure Crypto (κ : Type) where
  createPublicKey : Json → Option κ
  verifySignature : κ → Bytes → Bytes → Except JsError Bool

/-- The options of `createPrivyVerifier` (lines 38-40). -/
structure PrivyVerifier (κ : Type) where
  appId : String
  url : String
  crypto : Crypto κ

/-- The keys of a `Map` agree. An object or array is only the same as itself, which
    no other JSON text contains. -/
def sameKey : Json → Json → Bool
  | .null, .null => true
  | .bool a, .bool b => a == b
  | .num a, .num b => a == b
  | .str a, .str b => a == b
  | _, _ => false

theorem sameKey_truthy {a b : Json} (h : sameKey a b = true) : a.truthy = b.truthy := by
  unfold sameKey at h
  split at h
  · rfl
  all_goals first | rw [eq_of_beq h] | cases h

variable {κ : Type}

/-- The map of line 58. The loop that fills it skips a key without a `kid`. -/
structure KeySet (κ : Type) where
  entries : List (Json × κ)
  named : ∀ e ∈ entries, e.1.truthy = true

def KeySet.empty : KeySet κ := ⟨[], by simp⟩

def KeySet.get (keys : KeySet κ) (kid : Json) : Option κ :=
  (keys.entries.find? fun e => sameKey e.1 kid).map Prod.snd

def KeySet.set (keys : KeySet κ) (kid : Json) (hkid : kid.truthy = true) (key : κ) : KeySet κ :=
  if (keys.get kid).isSome then
    ⟨keys.entries.map fun e => if sameKey e.1 kid then (e.1, key) else e, by
      intro e he
      obtain ⟨e', he', rfl⟩ := List.mem_map.mp he
      split_ifs <;> exact keys.named e' he'⟩
  else
    ⟨keys.entries ++ [(kid, key)], by
      intro e he
      rcases List.mem_append.mp he with he | he
      · exact keys.named e he
      · rw [List.mem_singleton.mp he]
        exact hkid⟩

/-- A `kid` that has a key is truthy. -/
theorem KeySet.truthy_of_get {keys : KeySet κ} {kid : Json} {key : κ}
    (h : keys.get kid = some key) : kid.truthy = true := by
  obtain ⟨e, he, -⟩ := Option.map_eq_some_iff.mp h
  have hsame : sameKey e.1 kid = true := by simpa using List.find?_some he
  rw [← sameKey_truthy hsame]
  exact keys.named e (List.mem_of_find?_eq_some he)

/-- One round of the loop (lines 59-66). -/
def addKey (v : PrivyVerifier κ) (next : KeySet κ) (jwk : Json) :
    Except VerifyError (KeySet κ) :=
  (orThrow (jwk.prop "kid")).map fun kid =>
    match kid with
    | none => next
    | some kid =>
      if hkid : kid.truthy = true then
        match v.crypto.createPublicKey jwk with
        | some key => next.set kid hkid key
        | none => next
      else next

/-- How a request for the JWKS ends: with a network error, or with an answer and its
    body (`none` where it is not JSON). -/
inductive JwksFetch
  | unreachable (message : String)
  | answer (ok : Bool) (status : ℕ) (body : Option Json)

/-- The keys of an answer, or what the load rejects with (lines 49-67). -/
def readKeys (v : PrivyVerifier κ) : JwksFetch → Except VerifyError (KeySet κ)
  | .unreachable message => .error (.auth s!"cannot reach the Privy JWKS at {v.url}: {message}")
  | .answer ok status body =>
    if !ok then .error (.auth s!"Privy JWKS returned {status}")
    else
      match optProp body "keys" with
      | some (.arr jwks) =>
        (jwks.foldlM (addKey v) .empty).bind fun next =>
          if next.entries = [] then .error (.auth "Privy JWKS has no usable keys") else .ok next
      | _ => .error (.auth "Privy JWKS has no keys")

/-- The keys and the time of their fetch (lines 42-43). -/
structure Jwks (κ : Type) where
  keys : KeySet κ := .empty
  fetchedAt : ℤ := 0

/-- A load that ends with an answer at a clock (lines 46-74). -/
def loadJwks (v : PrivyVerifier κ) (load : JwksFetch × ℤ) : Except VerifyError (Jwks κ) :=
  (readKeys v load.1).map fun keys => ⟨keys, load.2⟩

theorem readKeys_ne_nil {v : PrivyVerifier κ} {fetch : JwksFetch} {keys : KeySet κ}
    (h : readKeys v fetch = .ok keys) : keys.entries ≠ [] := by
  rw [readKeys.eq_def] at h
  split at h
  · cases h
  · split_ifs at h
    split at h
    · obtain ⟨next, -, hnext⟩ := bind_eq_ok.mp h
      split_ifs at hnext with hnil
      cases hnext
      exact hnil
    · cases h

/-! ## The key of a `kid` -/

/-- What one call of `keyFor` reads: the clock of line 77, the end of a load for
    staleness, the clock of line 80 and the end of a load for the `kid`. -/
structure KeyReadings where
  staleAt : ℤ
  staleLoad : JwksFetch × ℤ
  refetchAt : ℤ
  refetchLoad : JwksFetch × ℤ

/-- `keys.size` is 0 or the keys are too old (lines 77-78). -/
def Jwks.outdated (s : Jwks κ) (now : ℤ) : Bool := s.keys.entries.isEmpty || now - s.fetchedAt > jwksTtlMs

theorem Jwks.outdated_iff {s : Jwks κ} {now : ℤ} :
    s.outdated now = true ↔ s.keys.entries = [] ∨ jwksTtlMs < now - s.fetchedAt := by
  simp [Jwks.outdated]

/-- The error of line 85. -/
def unknownKey (kid : Json) : VerifyError :=
  authErrorWith "privy token signed with an unknown key (kid=" (some kid) ")"

/-- `keyFor` (lines 76-87): its result and the key set after it. -/
def keyFor (v : PrivyVerifier κ) (s : Jwks κ) (r : KeyReadings) (kid : Json) :
    Except VerifyError κ × Jwks κ :=
  match (if s.outdated r.staleAt then loadJwks v r.staleLoad else .ok s) with
  | .error e => (.error e, s)
  | .ok s₁ =>
    match s₁.keys.get kid with
    | some key => (.ok key, s₁)
    | none =>
      if r.refetchAt - s₁.fetchedAt > jwksMinRefetchMs then
        match loadJwks v r.refetchLoad with
        | .error e => (.error e, s₁)
        | .ok s₂ =>
          match s₂.keys.get kid with
          | some key => (.ok key, s₂)
          | none => (.error (unknownKey kid), s₂)
      else (.error (unknownKey kid), s₁)

/-- The key set is up to date after a load if it was outdated. -/
def UpToDate (v : PrivyVerifier κ) (s : Jwks κ) (r : KeyReadings) (s' : Jwks κ) : Prop :=
  if s.outdated r.staleAt then loadJwks v r.staleLoad = .ok s' else s' = s

/-- The key set in which `kid` is looked up: the one that is up to date, or the one
    loaded after it when that has no such `kid` and is old enough. -/
def Refetched (v : PrivyVerifier κ) (s : Jwks κ) (r : KeyReadings) (kid : Json) (s' : Jwks κ) :
    Prop :=
  ∃ s₁, UpToDate v s r s₁ ∧
    if s₁.keys.get kid = none ∧ r.refetchAt - s₁.fetchedAt > jwksMinRefetchMs then
      loadJwks v r.refetchLoad = .ok s'
    else s' = s₁

theorem upToDate_iff {v : PrivyVerifier κ} {s : Jwks κ} {r : KeyReadings} {s' : Jwks κ} :
    UpToDate v s r s' ↔
      (if s.outdated r.staleAt then loadJwks v r.staleLoad else .ok s) = .ok s' := by
  unfold UpToDate
  split_ifs
  · rfl
  · simp [eq_comm]

theorem keyFor_eq_ok {v : PrivyVerifier κ} {s : Jwks κ} {r : KeyReadings} {kid : Json} {key : κ} :
    (keyFor v s r kid).1 = .ok key ↔
      ∃ s', Refetched v s r kid s' ∧ s'.keys.get kid = some key := by
  unfold Refetched keyFor
  simp only [upToDate_iff]
  cases (if s.outdated r.staleAt then loadJwks v r.staleLoad else .ok s) with
  | error e => simp
  | ok s₁ =>
    simp only [Except.ok.injEq, exists_eq_left']
    cases hkey : s₁.keys.get kid with
    | some found => simp [hkey]
    | none =>
      by_cases hold : r.refetchAt - s₁.fetchedAt > jwksMinRefetchMs
      · cases loadJwks v r.refetchLoad with
        | error e => simp [hold]
        | ok s₂ => cases hfound : s₂.keys.get kid <;> simp [hold, hfound]
      · simp [hold, hkey]

end AccountAbstraction.Auth
