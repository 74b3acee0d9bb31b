import AccountAbstraction.Bundler.Invariant
import AccountAbstraction.Bundler.Lookup
import AccountAbstraction.Client.UserOp

/-!
# UserOperations read back

An op is written in two places, by `serializeUserOp` of the bundler and by that of the browser,
with integers as quantities in the one and in whole bytes in the other. `normalizeUserOp`
(`bundler/src/index.js:169-182`) reads both.

* `normalizeUserOp_wireJson`: an op is read from its fields and any text of its integers.
* `roundTrips_iff`: `getUserOperationByHash` gives the op of every call that resolved back exactly
  when no two calls with different ops resolved to one hash.
* `userOp_round_trip`: both together, over the runs of the bundler.
-/

namespace AccountAbstraction.Bundler

open Js LnetBundler

/-! ## Ops that can be written -/

/-- The sender is in checksum case. -/
def UserOp.Checksummed (E : Ethers) (op : UserOp) : Prop := E.getAddress op.sender.val = some op.sender

/-- The integers are those of 256 bits and the byte fields have whole bytes, as the ABI encoder
    demands. -/
structure UserOp.Encodable (op : UserOp) : Prop where
  nonce : 0 ≤ op.nonce ∧ op.nonce < 2 ^ 256
  preVerificationGas : 0 ≤ op.preVerificationGas ∧ op.preVerificationGas < 2 ^ 256
  bytes : ∀ data ∈ [op.initCode, op.callData, op.paymasterAndData, op.signature],
    ∃ bs, getBytes data.val = some bs

/-- The op in the types of the browser. -/
def UserOp.packed (op : UserOp) : Client.PackedUserOperation where
  sender := op.sender.val
  nonce := op.nonce.toNat
  initCode := op.initCode.val
  callData := op.callData.val
  accountGasLimits := op.accountGasLimits.val
  preVerificationGas := op.preVerificationGas.toNat
  gasFees := op.gasFees.val
  paymasterAndData := op.paymasterAndData.val
  signature := op.signature.val

/-! ## Both serializers -/

/-- The object of an op, with a text for each of its two integers. -/
def UserOp.wireJson (op : UserOp) (nonce preVerificationGas : String) : Json := .obj
  [("sender", .str op.sender.val), ("nonce", .str nonce), ("initCode", .str op.initCode.val),
   ("callData", .str op.callData.val), ("accountGasLimits", .str op.accountGasLimits.val),
   ("preVerificationGas", .str preVerificationGas), ("gasFees", .str op.gasFees.val),
   ("paymasterAndData", .str op.paymasterAndData.val), ("signature", .str op.signature.val)]

theorem normalizeBigInt_str {text : String} {n : ℤ} (h : bigIntOfText text = some n) (default : Option Json)
    (field : String) : normalizeBigInt (nullish (some (.str text)) default) field = .ok n := by
  have hread : bigInt (some (.str text)) = some n := h
  simp [nullish, normalizeBigInt, hread]

theorem normalizeAddress_checksummed {E : Ethers} {op : UserOp} (h : op.Checksummed E) (field : String) :
    normalizeAddress E (some (.str op.sender.val)) field = .ok op.sender := by
  have hread : E.address? (some (.str op.sender.val)) = some op.sender := h
  rw [normalizeAddress, hread]

theorem normalizeUserOp_wireJson {E : Ethers} {op : UserOp} (hsender : op.Checksummed E)
    {nonce preVerificationGas : String} (hnonce : bigIntOfText nonce = some op.nonce)
    (hgas : bigIntOfText preVerificationGas = some op.preVerificationGas) :
    normalizeUserOp E (some (op.wireJson nonce preVerificationGas)) = .ok op := by
  show normalizeUserOp.read E (op.wireJson nonce preVerificationGas) = .ok op
  simp [normalizeUserOp.read, UserOp.wireJson, Json.field, List.lookup_cons, bind, Except.bind, pure,
    Except.pure, normalizeAddress_checksummed hsender, normalizeBigInt_str hnonce,
    normalizeBigInt_str hgas]

/-- `toHex` writes a non-negative integer as a quantity. -/
theorem toHex_of_nonneg {n : ℤ} (h : 0 ≤ n) : toHex n = .ok (toQuantity n.toNat) := by
  rw [toHex, toQuantity?, if_pos h]

theorem serializeUserOp_eq {op : UserOp} (hop : op.Encodable) : serializeUserOp op =
    .ok (op.wireJson (toQuantity op.nonce.toNat) (toQuantity op.preVerificationGas.toNat)) := by
  rw [serializeUserOp, toHex_of_nonneg hop.nonce.1, toHex_of_nonneg hop.preVerificationGas.1]
  rfl

/-- Reading what the bundler writes. -/
theorem normalizeUserOp_serializeUserOp {E : Ethers} {op : UserOp} (hsender : op.Checksummed E)
    (hop : op.Encodable) :
    ∃ json, serializeUserOp op = .ok json ∧ normalizeUserOp E (some json) = .ok op := by
  refine ⟨_, serializeUserOp_eq hop, normalizeUserOp_wireJson hsender ?_ ?_⟩
  · rw [bigIntOfText_toQuantity, Int.toNat_of_nonneg hop.nonce.1]
  · rw [bigIntOfText_toQuantity, Int.toNat_of_nonneg hop.preVerificationGas.1]

/-- Reading what the browser writes. -/
theorem normalizeUserOp_packed {E : Ethers} {op : UserOp} (hsender : op.Checksummed E)
    (hop : op.Encodable) : normalizeUserOp E (some (Client.serializeUserOp op.packed)) = .ok op := by
  show normalizeUserOp E
    (some (op.wireJson (toBeHex op.nonce.toNat) (toBeHex op.preVerificationGas.toNat))) = .ok op
  refine normalizeUserOp_wireJson hsender ?_ ?_
  · rw [bigIntOfText_toBeHex, Int.toNat_of_nonneg hop.nonce.1]
  · rw [bigIntOfText_toBeHex, Int.toNat_of_nonneg hop.preVerificationGas.1]

/-! ## Hashes -/

variable {E : Ethers} {getUserOpHash : UserOp → Option Bytes32}

/-- The op that a call of `sendUserOperation` waits for the hash of. -/
def System.hashingOp (s : System) (i : ℕ) : Option UserOp :=
  match s.sends[i]? with
  | some (.hashing _ op) => some op
  | _ => none

/-- The EntryPoint answers with the hash of the op that it was asked for. -/
def Hashes (getUserOpHash : UserOp → Option Bytes32) (s : System) : Event → Prop
  | .hashReply i (.ok hash) => ∀ op ∈ s.hashingOp i, getUserOpHash op = some hash
  | _ => True

instance decidableHashes (getUserOpHash : UserOp → Option Bytes32) (s : System) (e : Event) :
    Decidable (Hashes getUserOpHash s e) :=
  match e with
  | .hashReply i (.ok hash) =>
    inferInstanceAs (Decidable (∀ op ∈ s.hashingOp i, getUserOpHash op = some hash))
  | .hashReply _ (.error _) => inferInstanceAs (Decidable True)
  | .sendUserOperation _ => inferInstanceAs (Decidable True)
  | .simulateReply _ _ => inferInstanceAs (Decidable True)
  | .bundleNow => inferInstanceAs (Decidable True)
  | .broadcast _ _ => inferInstanceAs (Decidable True)
  | .mine _ _ => inferInstanceAs (Decidable True)
  | .submitReply _ _ => inferInstanceAs (Decidable True)
  | .waitReply _ _ => inferInstanceAs (Decidable True)

/-- The op is in checksum case, and the hash is its own. -/
def HashedAs (E : Ethers) (getUserOpHash : UserOp → Option Bytes32) (op : UserOp) (hash : Bytes32) : Prop :=
  op.Checksummed E ∧ getUserOpHash op = some hash

/-- What a call of `sendUserOperation` knows of its op. -/
def SendCall.Holds (E : Ethers) (getUserOpHash : UserOp → Option Bytes32) : SendCall → Prop
  | .hashing _ op => op.Checksummed E
  | .simulating _ op hash => HashedAs E getUserOpHash op hash
  | _ => True

/-- What calls and items say of their ops is true. -/
structure Hashed (E : Ethers) (getUserOpHash : UserOp → Option Bytes32) (s : System) : Prop where
  sends : ∀ call ∈ s.sends, call.Holds E getUserOpHash
  items : ∀ i op hash, s.bundler.opOf i = some op → s.bundler.hashOf i = some hash →
    HashedAs E getUserOpHash op hash

theorem hashed_init : Hashed E getUserOpHash System.init where
  sends _ h := by cases h
  items _ _ _ h := by cases h

/-- A normalized sender is in checksum case. -/
theorem checksummed_of_normalizeUserOp (hE : E.Documented) {input : Option Json} {op : UserOp}
    (h : normalizeUserOp E input = .ok op) : op.Checksummed E := by
  cases input with
  | none => cases h
  | some json =>
    have hsender := (normalizeUserOp_ok h).sender
    unfold normalizeAddress at hsender
    split at hsender
    · rename_i address haddress
      cases hsender
      unfold Ethers.address? at haddress
      split at haddress
      · exact hE.getAddress_idem _ _ haddress
      · cases haddress
    · cases hsender

theorem holds_openSend {env : Env} (hE : env.ethers.Documented) (params : Json) :
    (openSend env params).Holds env.ethers getUserOpHash := by
  unfold openSend
  split
  · rename_i entryPoint op haccept
    simp only [acceptParams, bind_eq_ok] at haccept
    obtain ⟨_, -, _, -, hrest⟩ := haccept
    split_ifs at hrest
    · cases hrest
    · obtain ⟨op', hop, hrest⟩ := bind_eq_ok.mp hrest
      split_ifs at hrest
      · cases hrest
      · cases hrest
        exact checksummed_of_normalizeUserOp hE hop
  · trivial

theorem Hashed.setSend {s : System} (hs : Hashed E getUserOpHash s) (i : ℕ) {call : SendCall}
    (hcall : call.Holds E getUserOpHash) : Hashed E getUserOpHash (s.setSend i call) where
  sends other h := by
    rcases List.mem_or_eq_of_mem_set h with h | rfl
    · exact hs.sends other h
    · exact hcall
  items := hs.items

/-- A change that leaves the calls of `sendUserOperation` and the ops of the items alone. -/
theorem Hashed.frame {s s' : System} (hs : Hashed E getUserOpHash s) (hsends : s'.sends = s.sends)
    (hop : ∀ i, s'.bundler.opOf i = s.bundler.opOf i) (hhash : ∀ i, s'.bundler.hashOf i = s.bundler.hashOf i) :
    Hashed E getUserOpHash s' where
  sends := by
    rw [hsends]
    exact hs.sends
  items i op hash hopi hhashi := by
    rw [hop] at hopi
    rw [hhash] at hhashi
    exact hs.items i op hash hopi hhashi

theorem Hashed.enqueue {s : System} (hs : Hashed E getUserOpHash s) {op : UserOp} {hash : Bytes32}
    (entryPoint : AddressText) (h : HashedAs E getUserOpHash op hash) :
    Hashed E getUserOpHash { s with bundler := s.bundler.enqueue (newItem hash op entryPoint) } where
  sends := hs.sends
  items i op' hash' hop hhash := by
    rw [opOf_enqueue] at hop
    rw [hashOf_enqueue] at hhash
    split_ifs at hop hhash with hi
    · cases hop
      cases hhash
      exact h
    · exact hs.items i op' hash' hop hhash

theorem hashed_step {env : Env} (hE : env.ethers.Documented) {s s' : System} {e : Event}
    (hs : Hashed env.ethers getUserOpHash s) (hok : Hashes getUserOpHash s e) (h : Effect env s e s') :
    Hashed env.ethers getUserOpHash s' := by
  cases h with
  | called params =>
    refine ⟨?_, hs.items⟩
    intro call hcall
    rcases List.mem_append.mp hcall with hcall | hcall
    · exact hs.sends call hcall
    · rw [List.mem_singleton.mp hcall]
      exact holds_openSend hE params
  | unhashed i entryPoint op err _ => exact hs.setSend i trivial
  | known i entryPoint op hash _ _ => exact hs.setSend i trivial
  | checked i entryPoint op hash hcall _ =>
    have hsender : op.Checksummed env.ethers := hs.sends _ (List.mem_of_getElem? hcall)
    refine hs.setSend i ⟨hsender, hok op ?_⟩
    rw [System.hashingOp, hcall]
    rfl
  | refused i entryPoint op hash reply err _ _ => exact hs.setSend i trivial
  | inserted i entryPoint op hash reply hcall _ =>
    have hop : HashedAs env.ethers getUserOpHash op hash := hs.sends _ (List.mem_of_getElem? hcall)
    have hresolved : Hashed env.ethers getUserOpHash (s.setSend i (.resolved hash)) := hs.setSend i trivial
    exact hresolved.enqueue entryPoint hop
  | returned j call tx receipt b _ _ _ _ hcomplete =>
    obtain ⟨_, _, hsettles, _⟩ := complete_ok hcomplete
    exact hs.frame rfl hsettles.opOf_eq hsettles.hashOf_eq
  | threw _ j call b err _ _ _ hsettles _ => exact hs.frame rfl hsettles.opOf_eq hsettles.hashOf_eq
  | _ => exact hs.frame rfl (fun _ => rfl) fun _ => rfl

/-! ## Accepted ops -/

/-- The bundler with the ops of the calls that have resolved, each with what it resolved to. -/
structure Accepting where
  system : System
  accepted : List (UserOp × Bytes32)

def Accepting.init : Accepting := { system := .init, accepted := [] }

/-- A step of the bundler, with the calls that resolve in it. -/
def acceptStep (env : Env) (t : Accepting) (e : Event) : Option Accepting :=
  (step env t.system e).map fun s => { system := s, accepted := t.accepted ++ resolvedOps t.system s }

/-- What is known of the accepted ops: each has its own hash, which is in the history, and the op of
    every item is one of them. -/
structure Filed (E : Ethers) (getUserOpHash : UserOp → Option Bytes32) (t : Accepting) : Prop where
  hashed : Hashed E getUserOpHash t.system
  accepted : ∀ op hash, (op, hash) ∈ t.accepted → HashedAs E getUserOpHash op hash ∧
    ∃ i, t.system.bundler.hashOf i = some hash
  items : ∀ i op hash, t.system.bundler.opOf i = some op → t.system.bundler.hashOf i = some hash →
    (op, hash) ∈ t.accepted

theorem filed_init : Filed E getUserOpHash .init where
  hashed := hashed_init
  accepted _ _ h := by cases h
  items _ _ _ h := by cases h

/-- The hash of an item stays. -/
theorem hashOf_step {env : Env} {s s' : System} {e : Event} (h : Effect env s e s') {i : ℕ} {hash : Bytes32}
    (hi : s.bundler.hashOf i = some hash) : s'.bundler.hashOf i = some hash := by
  cases h with
  | inserted _ _ _ _ _ _ _ => exact hashOf_enqueue_of_some _ hi
  | returned j call tx receipt b _ _ _ _ hcomplete =>
    obtain ⟨_, _, hsettles, _⟩ := complete_ok hcomplete
    exact (hsettles.hashOf_eq i).trans hi
  | threw _ j call b err _ _ _ hsettles _ => exact (hsettles.hashOf_eq i).trans hi
  | _ => exact hi

/-- An item was there before, or is that of the call that resolves. -/
theorem item_step {env : Env} {s s' : System} {e : Event} (h : Effect env s e s') {i : ℕ} {op : UserOp}
    {hash : Bytes32} (hop : s'.bundler.opOf i = some op) (hi : s'.bundler.hashOf i = some hash) :
    (s.bundler.opOf i = some op ∧ s.bundler.hashOf i = some hash) ∨ acceptedOp env s e = some (op, hash) := by
  cases h with
  | inserted k entryPoint op' hash' reply hcall hvalid =>
    rw [opOf_enqueue] at hop
    rw [hashOf_enqueue] at hi
    split_ifs at hop hi
    · cases hop
      cases hi
      right
      simp [acceptedOp, hcall, hvalid, Except.isOk, Except.toBool, newItem]
    · exact .inl ⟨hop, hi⟩
  | returned j call tx receipt b _ _ _ _ hcomplete =>
    obtain ⟨_, _, hsettles, _⟩ := complete_ok hcomplete
    exact .inl ⟨(hsettles.opOf_eq i).symm.trans hop, (hsettles.hashOf_eq i).symm.trans hi⟩
  | threw _ j call b err _ _ _ hsettles _ =>
    exact .inl ⟨(hsettles.opOf_eq i).symm.trans hop, (hsettles.hashOf_eq i).symm.trans hi⟩
  | _ => exact .inl ⟨hop, hi⟩

/-- The op of a call that resolves has its own hash, which is known or filed in the step. -/
theorem acceptedOp_step {env : Env} {s s' : System} {e : Event} (hb : Consistent s.bundler)
    (hs : Hashed env.ethers getUserOpHash s) (hok : Hashes getUserOpHash s e) (h : Effect env s e s')
    {op : UserOp} {hash : Bytes32} (haccepted : acceptedOp env s e = some (op, hash)) :
    HashedAs env.ethers getUserOpHash op hash ∧ ∃ i, s'.bundler.hashOf i = some hash := by
  cases h with
  | known i entryPoint op' hash' hcall hknown =>
    simp only [acceptedOp, hcall, hknown, if_true, Option.some.injEq, Prod.mk.injEq] at haccepted
    obtain ⟨rfl, rfl⟩ := haccepted
    have hsender : op'.Checksummed env.ethers := hs.sends _ (List.mem_of_getElem? hcall)
    refine ⟨⟨hsender, hok op' ?_⟩, ?_⟩
    · rw [System.hashingOp, hcall]
      rfl
    · rw [isKnown, Bool.or_eq_true, OrderedMap.has_iff, OrderedMap.has_iff] at hknown
      rcases hknown with ⟨k, hk⟩ | ⟨k, hk⟩
      · exact ⟨k, hb.history_hash hash' k hk⟩
      · exact ⟨k, hb.mempool_hash hash' k hk⟩
  | checked i entryPoint op' hash' hcall hnew => simp [acceptedOp, hcall, hnew] at haccepted
  | refused i entryPoint op' hash' reply err hcall hinvalid =>
    simp [acceptedOp, hcall, hinvalid, Except.isOk, Except.toBool] at haccepted
  | inserted i entryPoint op' hash' reply hcall hvalid =>
    simp [acceptedOp, hcall, hvalid, Except.isOk, Except.toBool] at haccepted
    obtain ⟨rfl, rfl⟩ := haccepted
    have hop : HashedAs env.ethers getUserOpHash op' hash' := hs.sends _ (List.mem_of_getElem? hcall)
    exact ⟨hop, s.bundler.items.length, by rw [hashOf_enqueue, if_pos rfl]; rfl⟩
  | threw e j call b err hcall hphase he =>
    cases e with
    | submitReply _ _ => cases haccepted
    | waitReply _ _ => cases haccepted
    | _ => cases he
  | _ => cases haccepted

theorem filed_step {env : Env} (hE : env.ethers.Documented) {t : Accepting} {s' : System} {e : Event}
    (hb : Consistent t.system.bundler) (ht : Filed env.ethers getUserOpHash t)
    (hok : Hashes getUserOpHash t.system e) (h : Effect env t.system e s') :
    Filed env.ethers getUserOpHash { system := s', accepted := t.accepted ++ resolvedOps t.system s' } where
  hashed := hashed_step hE ht.hashed hok h
  accepted op hash hmem := by
    rcases List.mem_append.mp hmem with hold | hnew
    · obtain ⟨hhash, i, hi⟩ := ht.accepted op hash hold
      exact ⟨hhash, i, hashOf_step h hi⟩
    · exact acceptedOp_step hb ht.hashed hok h ((mem_resolvedOps_iff h).mp hnew)
  items i op hash hop hi := by
    rcases item_step h hop hi with ⟨hop, hi⟩ | hnew
    · exact List.mem_append_left _ (ht.items i op hash hop hi)
    · exact List.mem_append_right _ ((mem_resolvedOps_iff h).mpr hnew)

theorem filed_of_reach {env : Env} (hE : env.ethers.Documented) {ok : Accepting → Event → Prop}
    (hok : ∀ t e, ok t e → Hashes getUserOpHash t.system e) {t : Accepting}
    (h : Reach (acceptStep env) ok .init t) :
    Consistent t.system.bundler ∧ Filed env.ethers getUserOpHash t := by
  refine h.invariant (I := fun t => Consistent t.system.bundler ∧ Filed env.ethers getUserOpHash t)
    ⟨consistent_init, filed_init⟩ ?_
  rintro t e t' ⟨hb, ht⟩ hte hstep
  obtain ⟨s', hs', rfl⟩ := Option.map_eq_some_iff.mp hstep
  exact ⟨consistent_step hb (step_effect hs'), filed_step hE hb ht (hok t e hte) (step_effect hs')⟩

/-! ## One op for a hash -/

/-- All ops that were accepted under a hash are the same. -/
def OneOp (accepted : List (UserOp × Bytes32)) : Prop :=
  ∀ op op' hash, (op, hash) ∈ accepted → (op', hash) ∈ accepted → op = op'

/-- A call resolves only if all items under its hash have its op. -/
def AcceptsSameOp (env : Env) (s : System) (e : Event) : Prop :=
  ∀ accepted ∈ acceptedOp env s e, ∀ k < s.bundler.items.length,
    s.bundler.hashOf k = some accepted.2 → s.bundler.opOf k = some accepted.1

instance decidableAcceptsSameOp (env : Env) (s : System) (e : Event) : Decidable (AcceptsSameOp env s e) :=
  inferInstanceAs (Decidable (∀ accepted ∈ acceptedOp env s e, ∀ k < s.bundler.items.length,
    s.bundler.hashOf k = some accepted.2 → s.bundler.opOf k = some accepted.1))

/-- A step keeps one op for a hash exactly when a call that resolves in it has the op of the items
    under its hash. -/
theorem oneOp_step_iff {env : Env} {E : Ethers} {t : Accepting} {s' : System} {e : Event}
    (ht : Filed E getUserOpHash t) (hone : OneOp t.accepted) (h : Effect env t.system e s') :
    OneOp (t.accepted ++ resolvedOps t.system s') ↔ AcceptsSameOp env t.system e := by
  constructor
  · rintro hone' ⟨op, hash⟩ haccepted k - hk
    obtain ⟨op', hop'⟩ := exists_opOf hk
    have hold := List.mem_append_left (resolvedOps t.system s') (ht.items k op' hash hop' hk)
    have hnew := List.mem_append_right t.accepted ((mem_resolvedOps_iff h).mpr haccepted)
    rw [hop', hone' op' op hash hold hnew]
  · intro hsame
    -- an op that was accepted before is that of an item
    have hmixed : ∀ op op' hash, (op, hash) ∈ t.accepted → acceptedOp env t.system e = some (op', hash) →
        op = op' := by
      intro op op' hash hold hnew
      obtain ⟨-, i, hi⟩ := ht.accepted op hash hold
      have hopi := hsame _ hnew i (lt_length_of_hashOf hi) hi
      exact hone op op' hash hold (ht.items i op' hash hopi hi)
    intro op op' hash hmem hmem'
    rw [List.mem_append, mem_resolvedOps_iff h] at hmem hmem'
    rcases hmem with hmem | hmem <;> rcases hmem' with hmem' | hmem'
    · exact hone op op' hash hmem hmem'
    · exact hmixed op op' hash hmem hmem'
    · exact (hmixed op' op hash hmem' hmem).symm
    · rw [hmem] at hmem'
      cases hmem'
      rfl

theorem oneOp_of_reach {env : Env} (hE : env.ethers.Documented) {ok : Accepting → Event → Prop}
    (hok : ∀ t e, ok t e → Hashes getUserOpHash t.system e ∧ AcceptsSameOp env t.system e) {t : Accepting}
    (h : Reach (acceptStep env) ok .init t) : OneOp t.accepted := by
  refine h.invariant_of (I := fun t => OneOp t.accepted) (J := fun t => Filed env.ethers getUserOpHash t)
    (fun t ht => (filed_of_reach hE (fun t e h => (hok t e h).1) ht).2) ?_ ?_
  · intro op op' hash hmem _
    cases hmem
  · intro t e t' ht hone hte hstep
    obtain ⟨s', hs', rfl⟩ := Option.map_eq_some_iff.mp hstep
    exact (oneOp_step_iff ht hone (step_effect hs')).mpr (hok t e hte).2

/-! ## The lookup -/

/-- The op of every call that resolved is what `normalizeUserOp` reads from the lookup of the hash
    that the call resolved to, and has that hash again. -/
def RoundTrips (E : Ethers) (getUserOpHash : UserOp → Option Bytes32) (t : Accepting) : Prop :=
  ∀ op hash, (op, hash) ∈ t.accepted →
    ∃ reply, t.system.bundler.getUserOperationByHash (.arr [.str hash.val]) = .ok (some reply) ∧
      normalizeUserOp E (some reply.userOperation) = .ok op ∧ getUserOpHash op = some hash

/-- The lookup of a hash in the form in which the bundler returned it. -/
theorem getUserOperationByHash_of_item {b : LnetBundler} {hash : Bytes32} {item : Item} {json : Json}
    (hitem : b.historyItem? hash = some item) (hjson : serializeUserOp item.op = .ok json) :
    ∃ reply, b.getUserOperationByHash (.arr [.str hash.val]) = .ok (some reply) ∧
      reply.userOperation = json := by
  simp only [LnetBundler.getUserOperationByHash, elementAt, List.getElem?_cons_zero, bind, Except.bind,
    normalizeBytes32_val, hitem, hjson]
  exact ⟨_, rfl, rfl⟩

/-- The lookup gives every accepted op back exactly when no two different ones were accepted under
    one hash. -/
theorem roundTrips_iff {t : Accepting} (hencodable : ∀ op hash, getUserOpHash op = some hash → op.Encodable)
    (hb : Consistent t.system.bundler) (ht : Filed E getUserOpHash t) :
    RoundTrips E getUserOpHash t ↔ OneOp t.accepted := by
  constructor
  · intro hround op op' hash hmem hmem'
    obtain ⟨reply, hreply, hread, -⟩ := hround op hash hmem
    obtain ⟨reply', hreply', hread', -⟩ := hround op' hash hmem'
    rw [hreply] at hreply'
    cases hreply'
    rw [hread] at hread'
    exact Except.ok.inj hread'
  · intro hone op hash hmem
    obtain ⟨⟨hsender, hhash⟩, i, hi⟩ := ht.accepted op hash hmem
    obtain ⟨k, hk⟩ := hb.history_known hash i hi
    have hhashk := hb.history_hash hash k hk
    obtain ⟨op', hop'⟩ := exists_opOf hhashk
    obtain rfl := hone op op' hash hmem (ht.items k op' hash hop' hhashk)
    obtain ⟨item, hitem, rfl⟩ := Option.map_eq_some_iff.mp hop'
    obtain ⟨json, hjson, hread⟩ := normalizeUserOp_serializeUserOp hsender (hencodable _ _ hhash)
    have hhistory : t.system.bundler.historyItem? hash = some item := by
      rw [LnetBundler.historyItem?, hk, Option.bind_some, hitem]
    obtain ⟨reply, hreply, rfl⟩ := getUserOperationByHash_of_item hhistory hjson
    exact ⟨reply, hreply, hread, hhash⟩

/-! ## The result -/

/-- The EntryPoint hashes the op, and no call resolves to a hash under which another op is filed. -/
def OneSpelling (env : Env) (getUserOpHash : UserOp → Option Bytes32) (t : Accepting) (e : Event) : Prop :=
  Hashes getUserOpHash t.system e ∧ AcceptsSameOp env t.system e

instance decidableOneSpelling (env : Env) (getUserOpHash : UserOp → Option Bytes32) (t : Accepting) (e : Event) :
    Decidable (OneSpelling env getUserOpHash t e) :=
  inferInstanceAs (Decidable (Hashes getUserOpHash t.system e ∧ AcceptsSameOp env t.system e))

/-- An op comes back from what either serializer writes. As long as no call resolves to a hash under
    which another op is filed, whether at once or behind the simulation, the lookup gives the op of
    every resolved call back, and the first step in which one does ends this. -/
theorem userOp_round_trip {env : Env} (hE : env.ethers.Documented)
    (hencodable : ∀ op hash, getUserOpHash op = some hash → op.Encodable) :
    (∀ op : UserOp, op.Checksummed env.ethers → op.Encodable →
      (∃ json, serializeUserOp op = .ok json ∧ normalizeUserOp env.ethers (some json) = .ok op) ∧
      normalizeUserOp env.ethers (some (Client.serializeUserOp op.packed)) = .ok op) ∧
    (∀ t, Reach (acceptStep env) (OneSpelling env getUserOpHash) .init t →
      RoundTrips env.ethers getUserOpHash t) ∧
    (∀ t e t', Reach (acceptStep env) (OneSpelling env getUserOpHash) .init t →
      Hashes getUserOpHash t.system e → acceptStep env t e = some t' →
      (RoundTrips env.ethers getUserOpHash t' ↔ AcceptsSameOp env t.system e)) := by
  refine ⟨?_, ?_, ?_⟩
  · intro op hsender hop
    exact ⟨normalizeUserOp_serializeUserOp hsender hop, normalizeUserOp_packed hsender hop⟩
  · intro t ht
    obtain ⟨hb, hfiled⟩ := filed_of_reach hE (fun _ _ h => h.1) ht
    exact (roundTrips_iff hencodable hb hfiled).mpr (oneOp_of_reach hE (fun _ _ h => h) ht)
  · intro t e t' ht he hstep
    obtain ⟨s', hs', rfl⟩ := Option.map_eq_some_iff.mp hstep
    have heffect := step_effect hs'
    obtain ⟨hb, hfiled⟩ := filed_of_reach hE (fun _ _ h => h.1) ht
    rw [roundTrips_iff hencodable (consistent_step hb heffect) (filed_step hE hb hfiled he heffect)]
    exact oneOp_step_iff hfiled (oneOp_of_reach hE (fun _ _ h => h) ht) heffect

/-! ## Two spellings -/

/-- The sample op with some `callData`. -/
def spelledOp (callData : HexString) : UserOp := { sampleOp with callData }

/-- A request with this op. -/
def spelledParams (callData : HexString) : Json :=
  .arr [.obj [("sender", .str "0x1111111111111111111111111111111111111111"),
    ("callData", .str callData.val)], .str "0x2222222222222222222222222222222222222222"]

/-- The byte `ab` in upper case. -/
def upperHex : HexString := ⟨"0xAB", by decide⟩

/-- The byte `ab` in lower case. -/
def lowerHex : HexString := ⟨"0xab", by decide⟩

/-- `getUserOpHash` on the ops of one chain with this byte as their `callData`. -/
def spelledHash (op : UserOp) : Option Bytes32 :=
  if getBytes op.callData.val = some [0xab] ∧ op = spelledOp op.callData then some sampleHash else none

theorem spelledHash_encodable {op : UserOp} {hash : Bytes32} (h : spelledHash op = some hash) :
    op.Encodable := by
  unfold spelledHash at h
  split_ifs at h with hop
  obtain ⟨hdata, hop⟩ := hop
  have hempty : getBytes emptyHex.val = some [] := by decide
  have hzero : (0 : ℤ) ≤ 0 ∧ (0 : ℤ) < 2 ^ 256 := by norm_num
  rw [hop]
  refine ⟨hzero, hzero, ?_⟩
  intro data hmem
  simp only [List.mem_cons, List.not_mem_nil, or_false] at hmem
  rcases hmem with rfl | rfl | rfl | rfl
  · exact ⟨[], hempty⟩
  · exact ⟨[0xab], hdata⟩
  · exact ⟨[], hempty⟩
  · exact ⟨[], hempty⟩

/-- Two calls with the same op in upper case, the second one while the bundle of the first is in
    flight. -/
def spelledOnce : List Event :=
  [.sendUserOperation (spelledParams upperHex), .hashReply 0 (.ok sampleHash),
   .simulateReply 0 noSimulation, .bundleNow, .broadcast 0 sampleTx, .submitReply 0 (.ok ()),
   .sendUserOperation (spelledParams upperHex), .hashReply 1 (.ok sampleHash)]

/-- An op in upper case comes back so from the browser's text, and from the bundler for both calls. -/
theorem userOp_round_trip_sample :
    normalizeUserOp sampleEthers (some (Client.serializeUserOp (spelledOp upperHex).packed)) =
        .ok (spelledOp upperHex) ∧
      ∃ t : Accepting, t.accepted = [(spelledOp upperHex, sampleHash), (spelledOp upperHex, sampleHash)] ∧
        RoundTrips sampleEthers spelledHash t := by
  obtain ⟨t, hreach, ht⟩ := Reach.exists_of_guardedRun (acceptStep (sampleEnv .try'))
    (OneSpelling (sampleEnv .try') spelledHash) .init spelledOnce
    (fun t => t.accepted == [(spelledOp upperHex, sampleHash), (spelledOp upperHex, sampleHash)])
    (by decide +kernel)
  have hE : (sampleEnv .try').ethers.Documented := sampleEthers_documented
  have hround := userOp_round_trip hE fun _ _ h => spelledHash_encodable h
  have hsender : (spelledOp upperHex).Checksummed sampleEthers := by
    unfold UserOp.Checksummed
    decide +kernel
  have hhash : spelledHash (spelledOp upperHex) = some sampleHash := by decide +kernel
  exact ⟨(hround.1 _ hsender (spelledHash_encodable hhash)).2, t, beq_iff_eq.mp ht, hround.2.1 t hreach⟩

/-- The op is filed in upper case, and submitted again in lower case. -/
def spelledTwice : List Event :=
  [.sendUserOperation (spelledParams upperHex), .hashReply 0 (.ok sampleHash),
   .simulateReply 0 noSimulation, .sendUserOperation (spelledParams lowerHex),
   .hashReply 1 (.ok sampleHash)]

/-- The second call resolves, and its op does not come back. -/
theorem spelling_lost : (∀ op hash, spelledHash op = some hash → op.Encodable) ∧
    ∃ t, Reach (acceptStep (sampleEnv .try')) (fun t e => Hashes spelledHash t.system e) .init t ∧
      ¬ RoundTrips sampleEthers spelledHash t := by
  refine ⟨fun _ _ h => spelledHash_encodable h, ?_⟩
  obtain ⟨t, hreach, ht⟩ := Reach.exists_of_guardedRun (acceptStep (sampleEnv .try'))
    (fun t e => Hashes spelledHash t.system e) .init spelledTwice
    (fun t => t.accepted == [(spelledOp upperHex, sampleHash), (spelledOp lowerHex, sampleHash)])
    (by decide +kernel)
  have haccepted := beq_iff_eq.mp ht
  obtain ⟨hb, hfiled⟩ : Consistent t.system.bundler ∧ Filed sampleEthers spelledHash t :=
    filed_of_reach sampleEthers_documented (fun _ _ h => h) hreach
  refine ⟨t, hreach, ?_⟩
  intro hround
  have hone := (roundTrips_iff (fun _ _ h => spelledHash_encodable h) hb hfiled).mp hround
    (spelledOp upperHex) (spelledOp lowerHex) sampleHash
  rw [haccepted] at hone
  exact absurd (hone (by simp) (by simp)) (by decide)

end AccountAbstraction.Bundler
