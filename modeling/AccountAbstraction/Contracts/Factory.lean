import AccountAbstraction.Contracts.Account
import AccountAbstraction.Run

/-!
# The account factory

`src/LnetAccountFactory.sol`: the counterfactual address of an account, computed by
`Create2.computeAddress` of OpenZeppelin, and its deployment by the `CREATE2` instruction,
whose init code is the creation code of `ERC1967Proxy` with the arguments of its
constructor behind it. The chain keeps the contracts by their address.

* `getAddress_eq`: both ways to the address give the same.
* `counterfactual_run`: in every run, `createAccount` returns the counterfactual address,
  deploys once, and leaves the account with the owner it was asked for.
-/

namespace AccountAbstraction.Contracts

open Js Abi

/-! ## Deployment -/

/-- What stands at an address with code. -/
inductive Contract
  | account (account : LnetAccount)
  | other
deriving DecidableEq

/-- The contracts by their address, and the addresses of those deployed so far. -/
structure Chain where
  contracts : Address → Option Contract
  deployments : List Address

/-- The address in a hash, its last 20 bytes. -/
def addressOf (hash : Word) : Address := Fin.ofNat _ (bytesValue hash.val)

/-- `bytes32(n)`. -/
def bytes32 (n : Uint 256) : Word := ⟨encodeUint n, length_encodeUint n⟩

/-- The text that `CREATE2` hashes for an address. -/
def create2Text (deployer : Address) (salt initCodeHash : Word) : Bytes :=
  0xff :: (bigEndian 20 deployer.val ++ (salt.val ++ initCodeHash.val))

/-- `Create2.computeAddress` of OpenZeppelin: three words in memory, hashed from the last of the
    12 bytes before the deployer's address, which becomes `0xff`. -/
def computeAddress (evm : Evm) (salt bytecodeHash : Word) (deployer : Address) : Address :=
  let memory := encodeUint deployer ++ (salt.val ++ bytecodeHash.val)
  addressOf (evm.keccak256 (0xff :: memory.drop 12))

/-- The factory with the implementation that its constructor has deployed. -/
structure LnetAccountFactory where
  address : Address
  accountImplementation : Logic
  /-- `type(ERC1967Proxy).creationCode` -/
  creationCode : Bytes

namespace LnetAccountFactory

/-- The init code of a proxy: the creation code, which reads the arguments of the constructor
    behind itself and runs it. Only the factory's own implementation is followed; initializing
    it makes no calls. -/
def runInitCode (factory : LnetAccountFactory) (chain : Chain) (address sender : Address)
    (initCode : Bytes) : Option LnetAccount :=
  if initCode.take factory.creationCode.length = factory.creationCode then
    match decode [.address, .bytes] (initCode.drop factory.creationCode.length) with
    | some [.address implementation, .bytes data] =>
      if implementation = factory.accountImplementation.address.val ∧
          (chain.contracts factory.accountImplementation.address).isSome then do
        let plan ← LnetAccount.construct factory.accountImplementation address sender data
        if plan.calls = [] then some plan.account.deployed else none
      else none
    | _ => none
  else none

/-- The instruction `CREATE2`, which fails where there is code already. -/
def create2 (factory : LnetAccountFactory) (chain : Chain) (deployer : Address) (salt : Word)
    (initCode : Bytes) : Option (Address × Chain) :=
  let keccak256 := factory.accountImplementation.keccak256
  let address := addressOf (keccak256 (create2Text deployer salt (keccak256 initCode)))
  if (chain.contracts address).isSome then none
  else do
    let account ← factory.runInitCode chain address deployer initCode
    return (address, {
      contracts := Function.update chain.contracts address (some (.account account))
      deployments := chain.deployments ++ [address] })

/-- `getAddress` (lines 42-52). -/
def getAddress (factory : LnetAccountFactory) (owner : Address) (salt : Uint 256) : Address :=
  computeAddress factory.accountImplementation.toEvm (bytes32 salt)
    (factory.accountImplementation.keccak256 (factory.creationCode ++
      encode [.address factory.accountImplementation.address.val,
        .bytes (LnetAccount.encodeInitialize owner)]))
    factory.address

/-- `new ERC1967Proxy{salt: bytes32(salt)}(...)`, for which the compiler encodes the arguments
    behind the creation code. -/
def newProxy (factory : LnetAccountFactory) (chain : Chain) (salt : Uint 256)
    (implementation : Address) (data : Bytes) : Option (Address × Chain) :=
  factory.create2 chain factory.address (bytes32 salt)
    (factory.creationCode ++ encode [.address implementation.val, .bytes data])

/-- `createAccount` (lines 28-39). -/
def createAccount (factory : LnetAccountFactory) (chain : Chain) (owner : Address)
    (salt : Uint 256) : Option (Address × Chain) :=
  let addr := factory.getAddress owner salt
  if (chain.contracts addr).isSome then some (addr, chain)
  else factory.newProxy chain salt factory.accountImplementation.address
    (LnetAccount.encodeInitialize owner)

/-! ## The address -/

/-- The init code for an owner. -/
def initCode (factory : LnetAccountFactory) (owner : Address) : Bytes :=
  factory.creationCode ++ encode [.address factory.accountImplementation.address.val,
    .bytes (LnetAccount.encodeInitialize owner)]

/-- The text that is hashed for the address of a pair. -/
def addressText (factory : LnetAccountFactory) (p : Address × Uint 256) : Bytes :=
  create2Text factory.address (bytes32 p.2)
    (factory.accountImplementation.keccak256 (factory.initCode p.1))

/-- The address that a text is hashed to. -/
def textAddress (factory : LnetAccountFactory) (text : Bytes) : Address :=
  addressOf (factory.accountImplementation.keccak256 text)

variable {factory : LnetAccountFactory}

/-- The computed address is that of the instruction. -/
theorem getAddress_eq (factory : LnetAccountFactory) (owner : Address) (salt : Uint 256) :
    factory.getAddress owner salt = factory.textAddress (factory.addressText (owner, salt)) := by
  have hdeployer : (encodeUint factory.address).drop 12 = bigEndian 20 factory.address.val :=
    drop_bigEndian 12 20 _
  have hmemory : ∀ rest : Bytes, (encodeUint factory.address ++ rest).drop 12 =
      bigEndian 20 factory.address.val ++ rest := by
    intro rest
    rw [List.drop_append_of_le_length (by simp), hdeployer]
  unfold getAddress computeAddress
  simp only [hmemory]
  rfl

/-- The arguments of the proxy's constructor are read back from its init code. -/
theorem decode_initCode (factory : LnetAccountFactory) (owner : Address) :
    decode [.address, .bytes] ((factory.initCode owner).drop factory.creationCode.length) =
      some [.address factory.accountImplementation.address.val,
        .bytes (LnetAccount.encodeInitialize owner)] := by
  have hfits : ∀ v ∈ [AbiValue.address factory.accountImplementation.address.val,
      AbiValue.bytes (LnetAccount.encodeInitialize owner)], v.Fits := by
    intro v hv
    rcases List.mem_pair.mp hv with rfl | rfl
    · exact factory.accountImplementation.address.isLt
    · trivial
  have hdecode := decode_encode hfits [] (by
    simp [encode, length_heads, AbiValue.tail, LnetAccount.encodeInitialize, length_pad32])
  rw [List.append_nil] at hdecode
  rw [initCode, List.drop_left]
  exact hdecode

/-- The init code determines the owner. -/
theorem initCode_injective : Function.Injective factory.initCode := by
  intro owner owner' h
  have hdecode := factory.decode_initCode owner
  rw [h, decode_initCode] at hdecode
  simp only [Option.some.injEq, List.cons.injEq, AbiValue.bytes.injEq, and_true, true_and] at hdecode
  have hdispatch := LnetAccount.plainDispatch_encodeInitialize owner'
  rw [hdecode, LnetAccount.plainDispatch_encodeInitialize] at hdispatch
  simp only [Option.some.injEq, AccountCall.initializeProxy.injEq] at hdispatch
  exact hdispatch

/-- The texts that are hashed for a pair. -/
def texts (factory : LnetAccountFactory) (p : Address × Uint 256) : Set Bytes :=
  {factory.initCode p.1, factory.addressText p}

/-- The parts of the text under an address. -/
theorem create2Text_injective {deployer : Address} {salt salt' hash hash' : Word}
    (h : create2Text deployer salt hash = create2Text deployer salt' hash') :
    salt = salt' ∧ hash = hash' := by
  have hwords := List.append_cancel_left (List.cons.inj h).2
  obtain ⟨hsalt, hhash⟩ := List.append_inj hwords (by rw [salt.property, salt'.property])
  exact ⟨Subtype.ext hsalt, Subtype.ext hhash⟩

/-- Without collisions, pairs are told apart by their addresses. -/
theorem textAddress_injOn {known : Set Bytes} (hcollision : Set.InjOn factory.textAddress known)
    {p q : Address × Uint 256} (hp : factory.texts p ⊆ known) (hq : factory.texts q ⊆ known)
    (h : factory.textAddress (factory.addressText p) = factory.textAddress (factory.addressText q)) :
    p = q := by
  simp only [texts, Set.insert_subset_iff, Set.singleton_subset_iff] at hp hq
  obtain ⟨hsalt, hhash⟩ := create2Text_injective (hcollision hp.2 hq.2 h)
  have hcode := hcollision hp.1 hq.1 (congrArg addressOf hhash)
  exact Prod.ext (initCode_injective hcode) (encodeUint_injective (by decide) (congrArg Subtype.val hsalt))

/-! ## One call -/

/-- The proxy's constructor initializes the account for the owner. -/
theorem runInitCode_initCode {chain : Chain} {owner : Address}
    (hdispatch : factory.accountImplementation.dispatch (LnetAccount.encodeInitialize owner) =
      some (.initializeProxy owner))
    (himplementation : (chain.contracts factory.accountImplementation.address).isSome)
    (address sender : Address) :
    ∃ account, factory.runInitCode chain address sender (factory.initCode owner) = some account ∧
      account.address = address ∧ account.IsInitialized factory.accountImplementation owner := by
  obtain ⟨account, hconstruct, haddress, hinit⟩ :=
    LnetAccount.construct_initialize hdispatch address sender
  refine ⟨account.deployed, ?_, haddress, hinit⟩
  have htake : (factory.initCode owner).take factory.creationCode.length = factory.creationCode := by
    rw [initCode, List.take_left]
  rw [runInitCode, if_pos htake, decode_initCode]
  simp only [himplementation, and_self, if_true, hconstruct]
  rfl

/-- Where an account is already, nothing happens. -/
theorem createAccount_again {chain : Chain} {owner : Address} {salt : Uint 256}
    (h : (chain.contracts (factory.getAddress owner salt)).isSome) :
    factory.createAccount chain owner salt = some (factory.getAddress owner salt, chain) := by
  unfold createAccount
  simp only
  rw [if_pos h]

/-- Where nothing is yet, the account is deployed, for its owner. -/
theorem createAccount_first {chain : Chain} {owner : Address} {salt : Uint 256}
    (hdispatch : factory.accountImplementation.dispatch (LnetAccount.encodeInitialize owner) =
      some (.initializeProxy owner))
    (himplementation : (chain.contracts factory.accountImplementation.address).isSome)
    (h : chain.contracts (factory.getAddress owner salt) = none) :
    ∃ account : LnetAccount, account.IsInitialized factory.accountImplementation owner ∧
      factory.createAccount chain owner salt = some (factory.getAddress owner salt, {
        contracts :=
          Function.update chain.contracts (factory.getAddress owner salt) (some (.account account))
        deployments := chain.deployments ++ [factory.getAddress owner salt] }) := by
  obtain ⟨account, hrun, -, hinit⟩ := runInitCode_initCode hdispatch himplementation
    (factory.getAddress owner salt) factory.address
  refine ⟨account, hinit, ?_⟩
  have haddress : addressOf (factory.accountImplementation.keccak256 (create2Text factory.address
      (bytes32 salt) (factory.accountImplementation.keccak256 (factory.initCode owner)))) =
      factory.getAddress owner salt := (factory.getAddress_eq owner salt).symm
  have hcreate : factory.createAccount chain owner salt =
      factory.create2 chain factory.address (bytes32 salt) (factory.initCode owner) := by
    unfold createAccount
    simp only [h, Option.isSome_none, Bool.false_eq_true, if_false]
    rfl
  rw [hcreate, create2]
  simp only [haddress, h, Option.isSome_none, Bool.false_eq_true, if_false, hrun]
  rfl

end LnetAccountFactory

/-! ## Runs -/

/-- A chain with the pairs that `createAccount` was called for so far. -/
structure History where
  chain : Chain
  calls : List (Address × Uint 256)

inductive ChainEvent
  /-- Anybody's call of `createAccount`. -/
  | createAccount (caller owner : Address) (salt : Uint 256)
  /-- What contracts do among themselves. -/
  | operate (contracts : Address → Option Contract)
  /-- Another contract is deployed, to the address that some text is hashed to. -/
  | deploy (text : Bytes)

namespace History

/-- The chain before the first call, with the contracts there are then. -/
def start (contracts : Address → Option Contract) : History := ⟨⟨contracts, []⟩, []⟩

def step (factory : LnetAccountFactory) (h : History) : ChainEvent → Option History
  | .createAccount _ owner salt =>
    match factory.createAccount h.chain owner salt with
    | none => some h
    | some (_, chain) => some ⟨chain, h.calls ++ [(owner, salt)]⟩
  | .operate contracts => some { h with chain := { h.chain with contracts := contracts } }
  | .deploy text =>
    let address := factory.textAddress text
    if (h.chain.contracts address).isSome then none
    else some { h with chain := {
      contracts := Function.update h.chain.contracts address (some .other)
      deployments := h.chain.deployments ++ [address] } }

/-- The runs in question: calls for pairs among `pairs`, operations that neither remove code nor
    deploy it, and deployments that are not the factory's, from texts among `known`. -/
def Ordinary (factory : LnetAccountFactory) (pairs : Set (Address × Uint 256)) (known : Set Bytes)
    (h : History) : ChainEvent → Prop
  | .createAccount _ owner salt => (owner, salt) ∈ pairs
  | .operate contracts => ∀ a, (contracts a).isSome = (h.chain.contracts a).isSome
  | .deploy text => text ∈ known ∧ ∀ salt hash, text ≠ create2Text factory.address salt hash

/-- The invariant: the accounts that are there, each deployed once, are those called for. -/
structure Counterfactual (factory : LnetAccountFactory) (pairs : Set (Address × Uint 256))
    (h : History) : Prop where
  implementation : (h.chain.contracts factory.accountImplementation.address).isSome
  code : ∀ p ∈ pairs, (h.chain.contracts (factory.getAddress p.1 p.2)).isSome = decide (p ∈ h.calls)
  deployments : ∀ p ∈ pairs,
    h.chain.deployments.count (factory.getAddress p.1 p.2) = if p ∈ h.calls then 1 else 0

end History

section Runs

variable {factory : LnetAccountFactory} {pairs : Set (Address × Uint 256)} {known : Set Bytes}

/-- Distinct pairs have distinct addresses. -/
theorem getAddress_injOn (hcollision : Set.InjOn factory.textAddress known)
    (hknown : ∀ p ∈ pairs, factory.texts p ⊆ known) :
    Set.InjOn (fun p : Address × Uint 256 => factory.getAddress p.1 p.2) pairs := by
  intro p hp q hq h
  simp only [LnetAccountFactory.getAddress_eq] at h
  exact LnetAccountFactory.textAddress_injOn hcollision (hknown p hp) (hknown q hq) h

/-- Code at a new address: the addresses with code before keep it. -/
theorem isSome_update {contracts : Address → Option Contract} {address a : Address}
    {contract : Contract} : (Function.update contracts address (some contract) a).isSome =
      (decide (a = address) || (contracts a).isSome) := by
  by_cases h : a = address
  · subst h
    simp
  · simp [h]

/-- A call of `createAccount`. -/
theorem createAccount_counterfactual {h h' : History} {caller owner : Address} {salt : Uint 256}
    (hdispatch : factory.accountImplementation.dispatch (LnetAccount.encodeInitialize owner) =
      some (.initializeProxy owner))
    (hinj : Set.InjOn (fun p : Address × Uint 256 => factory.getAddress p.1 p.2) pairs)
    (hp : (owner, salt) ∈ pairs) (hinv : h.Counterfactual factory pairs)
    (hstep : History.step factory h (.createAccount caller owner salt) = some h') :
    h'.Counterfactual factory pairs := by
  have hcode := hinv.code _ hp
  unfold History.step at hstep
  by_cases hcalled : (owner, salt) ∈ h.calls
  · -- the account is there, and the pair among the calls
    have hsome : (h.chain.contracts (factory.getAddress owner salt)).isSome := by
      simpa [hcalled] using hcode
    simp only [LnetAccountFactory.createAccount_again hsome] at hstep
    cases hstep
    have hcalls : ∀ q, q ∈ h.calls ++ [(owner, salt)] ↔ q ∈ h.calls := by
      intro q
      rw [List.mem_append, List.mem_singleton]
      exact ⟨fun hq => hq.elim id fun heq => heq ▸ hcalled, .inl⟩
    exact {
      implementation := hinv.implementation
      code := fun q hq => by simp only [hcalls, hinv.code q hq]
      deployments := fun q hq => by simp only [hcalls, hinv.deployments q hq] }
  · have hnone : h.chain.contracts (factory.getAddress owner salt) = none := by
      simpa [hcalled] using hcode
    obtain ⟨account, -, hcreate⟩ :=
      LnetAccountFactory.createAccount_first hdispatch hinv.implementation hnone
    simp only [hcreate] at hstep
    cases hstep
    -- another pair of the run has another address
    have hother : ∀ q ∈ pairs, (factory.getAddress q.1 q.2 = factory.getAddress owner salt ↔
        q = (owner, salt)) := by
      intro q hq
      exact ⟨fun heq => hinj hq hp heq, fun heq => by rw [heq]⟩
    refine ⟨?_, fun q hq => ?_, fun q hq => ?_⟩
    · simp only [isSome_update, hinv.implementation, Bool.or_true]
    · simp only [isSome_update, hinv.code q hq, hother q hq, List.mem_append, List.mem_singleton]
      by_cases hq' : q = (owner, salt) <;> simp [hq']
    · have hcount := hinv.deployments q hq
      simp only [List.count_append, hcount, List.count_singleton, List.mem_append, List.mem_singleton]
      by_cases hq' : q = (owner, salt)
      · subst hq'
        simp [hcalled]
      · have hne : factory.getAddress owner salt ≠ factory.getAddress q.1 q.2 :=
          fun heq => hq' ((hother q hq).mp heq.symm)
        simp [hq', hne]

/-- One step of such a run. -/
theorem step_counterfactual {h h' : History} {e : ChainEvent}
    (hdispatch : ∀ owner, factory.accountImplementation.dispatch (LnetAccount.encodeInitialize owner) =
      some (.initializeProxy owner))
    (hcollision : Set.InjOn factory.textAddress known)
    (hknown : ∀ p ∈ pairs, factory.texts p ⊆ known) (hinv : h.Counterfactual factory pairs)
    (hok : h.Ordinary factory pairs known e) (hstep : History.step factory h e = some h') :
    h'.Counterfactual factory pairs := by
  have hinj := getAddress_injOn hcollision hknown
  cases e with
  | createAccount caller owner salt =>
    exact createAccount_counterfactual (hdispatch owner) hinj hok hinv hstep
  | operate contracts =>
    cases hstep
    exact {
      implementation := by rw [hok, hinv.implementation]
      code := fun q hq => by rw [hok, hinv.code q hq]
      deployments := hinv.deployments }
  | deploy text =>
    obtain ⟨htext, hforeign⟩ := hok
    unfold History.step at hstep
    simp only at hstep
    split_ifs at hstep
    cases hstep
    -- the text is not that of a pair, so neither is the address
    have hne : ∀ q ∈ pairs, factory.getAddress q.1 q.2 ≠ factory.textAddress text := by
      intro q hq heq
      have hq' := hknown q hq
      simp only [LnetAccountFactory.texts, Set.insert_subset_iff, Set.singleton_subset_iff] at hq'
      rw [LnetAccountFactory.getAddress_eq] at heq
      exact hforeign _ _ (hcollision hq'.2 htext heq).symm
    refine ⟨?_, fun q hq => ?_, fun q hq => ?_⟩
    · simp only [isSome_update, hinv.implementation, Bool.or_true]
    · simp only [isSome_update, hinv.code q hq, hne q hq, decide_false, Bool.false_or]
    · rw [List.count_append, List.count_singleton, hinv.deployments q hq]
      simp [(hne q hq).symm]

/-- Let keccak-256 have no collisions, also in the 20 bytes that make an address, among the texts
    `known`, to which those of the pairs in question and of other deployments belong; let the
    compiler's dispatcher read the call of `initialize`; and let no account be there at first.
    Then after every run, a call of `createAccount` for a pair returns its counterfactual address.
    The first one deploys the account there, and its owner is the one asked for; any later one
    changes nothing. No account is deployed more than once, nor by anything else, and distinct
    pairs have distinct accounts. -/
theorem counterfactual_run {contracts : Address → Option Contract} {h : History}
    (hdispatch : ∀ owner, factory.accountImplementation.dispatch (LnetAccount.encodeInitialize owner) =
      some (.initializeProxy owner))
    (hcollision : Set.InjOn factory.textAddress known)
    (hknown : ∀ p ∈ pairs, factory.texts p ⊆ known)
    (himplementation : (contracts factory.accountImplementation.address).isSome)
    (hfresh : ∀ p ∈ pairs, contracts (factory.getAddress p.1 p.2) = none)
    (hreach : Reach (History.step factory) (History.Ordinary factory pairs known)
      (History.start contracts) h) :
    (∀ p ∈ pairs, ∃ chain,
      factory.createAccount h.chain p.1 p.2 = some (factory.getAddress p.1 p.2, chain) ∧
      (p ∉ h.calls → h.chain.contracts (factory.getAddress p.1 p.2) = none ∧
        ∃ account : LnetAccount, account.owner = p.1 ∧ chain.contracts =
          Function.update h.chain.contracts (factory.getAddress p.1 p.2) (some (.account account))) ∧
      (p ∈ h.calls → chain = h.chain)) ∧
    (∀ p ∈ pairs, h.chain.deployments.count (factory.getAddress p.1 p.2) =
      if p ∈ h.calls then 1 else 0) ∧
    ∀ p ∈ pairs, ∀ q ∈ pairs, p ≠ q → factory.getAddress p.1 p.2 ≠ factory.getAddress q.1 q.2 := by
  have hstart : (History.start contracts).Counterfactual factory pairs :=
    ⟨himplementation, fun p hp => by simp [History.start, hfresh p hp], fun p _ => by simp [History.start]⟩
  have hinv : h.Counterfactual factory pairs := hreach.invariant hstart
    fun _ _ _ hinv hok hstep => step_counterfactual hdispatch hcollision hknown hinv hok hstep
  refine ⟨fun p hp => ?_, hinv.deployments, fun p hp q hq hne heq =>
    hne (getAddress_injOn hcollision hknown hp hq heq)⟩
  have hcode := hinv.code p hp
  by_cases hcalled : p ∈ h.calls
  · have hsome : (h.chain.contracts (factory.getAddress p.1 p.2)).isSome := by
      simpa [hcalled] using hcode
    exact ⟨h.chain, LnetAccountFactory.createAccount_again hsome, fun hn => absurd hcalled hn,
      fun _ => rfl⟩
  · have hnone : h.chain.contracts (factory.getAddress p.1 p.2) = none := by
      simpa [hcalled] using hcode
    obtain ⟨account, hinit, hcreate⟩ :=
      LnetAccountFactory.createAccount_first (hdispatch p.1) hinv.implementation hnone
    exact ⟨_, hcreate, fun _ => ⟨hnone, account, hinit.owner, rfl⟩, fun hc => absurd hc hcalled⟩

end Runs

/-! ## A sample run -/

/-- The hash of the sample's init code. -/
def sampleInitCodeHash : Word :=
  bytes32 0x4dad30f53115fdcd0d6f79894193e5e5ef363c1fadec89a3868714ea1c2b8f27

def sampleFactoryAddress : Address := 0x8888888888888888888888888888888888888888

def sampleInitCode : Bytes :=
  bigEndian 4 0x60806040 ++ encode [.address 0x4444444444444444444444444444444444444444,
    .bytes (LnetAccount.encodeInitialize 0x6666666666666666666666666666666666666666)]

def sampleText (salt : Uint 256) : Bytes :=
  create2Text sampleFactoryAddress (bytes32 salt) sampleInitCodeHash

/-- A factory, with keccak-256 on the texts of two salts. -/
def sampleFactory : LnetAccountFactory where
  address := sampleFactoryAddress
  accountImplementation := {
    keccak256 := fun b =>
      if b = sampleInitCode then sampleInitCodeHash
      else if b = sampleText 0 then
        bytes32 0x4ea0d25db73340e72e7d1cb98869fdb6c32510f1b09226ed34fc5ed5aad08ad4
      else if b = sampleText 1 then
        bytes32 0xcc47108666188a6c93d6cca289e572ac7934b190a76984ac2c59cf384defea4c
      else bytes32 0
    recover := fun _ _ => none
    address := 0x4444444444444444444444444444444444444444
    entryPoint := 0x5555555555555555555555555555555555555555
    dispatch := LnetAccount.plainDispatch
    proxiable := fun _ => false }
  creationCode := bigEndian 4 0x60806040

def samplePairs : List (Address × Uint 256) :=
  [(0x6666666666666666666666666666666666666666, 0), (0x6666666666666666666666666666666666666666, 1)]

def sampleKnown : List Bytes := [sampleInitCode, sampleText 0, sampleText 1]

/-- Two strangers ask for the same account. -/
def sampleCalls : List ChainEvent :=
  [.createAccount 9 0x6666666666666666666666666666666666666666 0,
    .createAccount 8 0x6666666666666666666666666666666666666666 0]

/-- The chain of the sample at first, with the implementation only. -/
def sampleContracts (a : Address) : Option Contract :=
  if a = 0x4444444444444444444444444444444444444444 then some .other else none

/-- A call of `createAccount` for one of the sample's pairs. -/
def samplePairCall : ChainEvent → Bool
  | .createAccount _ owner salt => (owner, salt) ∈ samplePairs
  | _ => false

theorem counterfactual_run_sample : ∃ h : History,
    h.calls = [samplePairs[0], samplePairs[0]] ∧
    h.chain.deployments.count (sampleFactory.getAddress samplePairs[0].1 samplePairs[0].2) = 1 := by
  have hcollision : Set.InjOn sampleFactory.textAddress {b | b ∈ sampleKnown} := by
    have hnodup : (sampleKnown.map sampleFactory.textAddress).Nodup := by decide +kernel
    exact fun a ha b hb h => List.inj_on_of_nodup_map hnodup ha hb h
  have hknown : ∀ p ∈ {p | p ∈ samplePairs}, sampleFactory.texts p ⊆ {b | b ∈ sampleKnown} := by
    have htexts : (samplePairs.all fun p => sampleFactory.initCode p.1 ∈ sampleKnown ∧
        sampleFactory.addressText p ∈ sampleKnown) = true := by decide +kernel
    intro p hp b hb
    have hp := of_decide_eq_true (List.all_eq_true.mp htexts p hp)
    rcases hb with rfl | rfl
    · exact hp.1
    · exact hp.2
  have hfresh : ∀ p ∈ {p | p ∈ samplePairs},
      sampleContracts (sampleFactory.getAddress p.1 p.2) = none := by
    have hempty : (samplePairs.all fun p =>
        sampleContracts (sampleFactory.getAddress p.1 p.2) = none) = true := by decide +kernel
    exact fun p hp => of_decide_eq_true (List.all_eq_true.mp hempty p hp)
  obtain ⟨h, hreach, hcalls⟩ := Reach.exists_of_guardedRun (History.step sampleFactory)
    (fun _ e => samplePairCall e = true) (History.start sampleContracts) sampleCalls
    (fun h => h.calls = [samplePairs[0], samplePairs[0]]) (by decide +kernel)
  have hordinary : ∀ (h : History) (e : ChainEvent), samplePairCall e = true →
      h.Ordinary sampleFactory {p | p ∈ samplePairs} {b | b ∈ sampleKnown} e := by
    intro h e he
    cases e with
    | createAccount caller owner salt =>
      have hmem : (owner, salt) ∈ samplePairs := of_decide_eq_true he
      exact hmem
    | operate contracts => cases he
    | deploy text => cases he
  have hcalls := of_decide_eq_true hcalls
  obtain ⟨-, hcount, -⟩ := counterfactual_run LnetAccount.plainDispatch_encodeInitialize hcollision
    hknown rfl hfresh (hreach.mono hordinary)
  refine ⟨h, hcalls, ?_⟩
  have hone := hcount samplePairs[0] (by decide)
  rwa [hcalls, if_pos (by decide)] at hone

end AccountAbstraction.Contracts
