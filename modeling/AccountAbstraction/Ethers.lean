import AccountAbstraction.Abi.Encode

/-!
# The `ethers` package

What the program uses of `ethers` and that depends on keccak-256 or on its ABI
decoder is a parameter of the model, `Ethers`. `Ethers.Documented` lists the
documented behaviour that proofs rely on. The plain hex helpers are in
`AccountAbstraction.Js.Hex`.
-/

namespace AccountAbstraction

open Js Abi

/-- A value the ABI decoder returns to JavaScript: an address in checksum case, a
    `bigint`, or a lower-case hex string. -/
inductive Decoded
  | address (text : AddressText)
  | bigint (n : ℕ)
  | hex (text : String)
deriving DecidableEq

/-- The parts of `ethers` that the model does not define; `none` is a throw. -/
structure Ethers where
  /-- `getAddress(s)`. -/
  getAddress : String → Option AddressText
  /-- The bytes of `id(s)`, the keccak-256 hash of the text `s`. -/
  id : String → {b : Bytes // b.length = 32}
  /-- `AbiCoder.decode(types, data)`, with the access to every result. -/
  decode : List AbiType → Bytes → Option (List Decoded)

namespace Ethers

variable (E : Ethers)

/-- The selector of a function: the first four bytes of the hash of its signature. -/
def selector (sig : String) : Bytes := (E.id sig).val.take 4

theorem length_selector (sig : String) : (E.selector sig).length = 4 := by
  rw [selector, List.length_take, (E.id sig).property]
  rfl

/-- Data that starts with a selector has four bytes. -/
theorem four_le_of_take {bs : Bytes} {sig : String} (h : bs.take 4 = E.selector sig) : 4 ≤ bs.length := by
  have hlength := congrArg List.length h
  rw [length_selector, List.length_take] at hlength
  omega

/-- `iface.getFunction(name).selector`, for the function with signature `sig`. -/
def selectorText (sig : String) : String := hexlify (E.selector sig)

/-- `iface.decodeFunctionData(name, data)` for the function with signature `sig` and
    parameter types `types`: the selector must match, then the arguments are decoded. -/
def decodeFunctionData (sig : String) (types : List AbiType) (data : String) :
    Option (List Decoded) :=
  (getBytes data).bind fun bs =>
    if bs.take 4 = E.selector sig then E.decode types (bs.drop 4) else none

/-- `ethers.isAddress(v)` and `ethers.getAddress(v)` for a value of any type. -/
def address? : Option Json → Option AddressText
  | some (.str s) => E.getAddress s
  | _ => none

end Ethers

/-- The bytes of an address. -/
def addressBytes (a : AddressText) : Bytes := (getBytes a.val).getD []

/-- A decoder result is the JavaScript form of an ABI value. -/
def Decoded.Denotes (E : Ethers) : Decoded → AbiValue → Prop
  | .address a, .address n => E.getAddress a.val = some a ∧ bytesValue (addressBytes a) = n
  | .bigint n, .uint m => n = m
  | .hex s, .bytes b => s = hexlify b
  | _, _ => False

theorem Decoded.denotes_address {E : Ethers} {a : AddressText} {v : AbiValue} :
    (Decoded.address a).Denotes E v ↔
      v = .address (bytesValue (addressBytes a)) ∧ E.getAddress a.val = some a := by
  cases v with
  | address n => simp [Denotes, and_comm, eq_comm]
  | uint n => simp [Denotes]
  | bytes b => simp [Denotes]

theorem Decoded.denotes_bigint {E : Ethers} {n : ℕ} {v : AbiValue} :
    (Decoded.bigint n).Denotes E v ↔ v = .uint n := by
  cases v with
  | address m => simp [Denotes]
  | uint m => simp [Denotes, eq_comm]
  | bytes b => simp [Denotes]

theorem Decoded.denotes_hex {E : Ethers} {s : String} {v : AbiValue} :
    (Decoded.hex s).Denotes E v ↔ ∃ b, v = .bytes b ∧ s = hexlify b := by
  cases v with
  | address n => simp [Denotes]
  | uint n => simp [Denotes]
  | bytes b => simp [Denotes]

/-- The documented behaviour that the program relies on. -/
structure Ethers.Documented (E : Ethers) : Prop where
  /-- An address keeps its digits, up to their case. -/
  getAddress_lower : ∀ s a, isHexTextOf 20 s = true → E.getAddress s = some a →
    lower a.val = lower s
  /-- The checksum form of an address is unique and is accepted. -/
  getAddress_unique : ∀ s t a b, E.getAddress s = some a → E.getAddress t = some b →
    lower a.val = lower b.val → a = b
  getAddress_idem : ∀ s a, E.getAddress s = some a → E.getAddress a.val = some a
  /-- The decoder follows the Solidity ABI where it does not throw. -/
  decode_sound : ∀ types data rs, E.decode types data = some rs →
    ∃ vs, Abi.decode types data = some vs ∧ List.Forall₂ (Decoded.Denotes E) rs vs

/-- An address in lower case is the hex string of its bytes. -/
theorem lower_addressText (a : AddressText) : lower a.val = hexlify (addressBytes a) := by
  obtain ⟨bs, hbs, -⟩ := exists_getBytes a.property
  rw [lower_of_getBytes hbs, addressBytes, hbs, Option.getD_some]

/-- The checksum form of twenty bytes has these bytes. -/
theorem Ethers.Documented.addressBytes_eq {E : Ethers} (hE : E.Documented) {bs : Bytes}
    {a : AddressText} (hlength : bs.length = 20) (h : E.getAddress (hexlify bs) = some a) :
    addressBytes a = bs := by
  apply hexlify_injective
  rw [← lower_addressText, hE.getAddress_lower _ _ (hlength ▸ isHexTextOf_hexlify bs) h, lower_hexlify]

/-- What `decodeFunctionData` returns is what the contract decodes from the same bytes. -/
theorem Ethers.Documented.decodeFunctionData_sound {E : Ethers} (hE : E.Documented) {sig data : String}
    {types : List AbiType} {rs : List Decoded} (h : E.decodeFunctionData sig types data = some rs) :
    ∃ bs vs, getBytes data = some bs ∧ Abi.decodeCall (E.selector sig) types bs = some vs ∧
      List.Forall₂ (Decoded.Denotes E) rs vs := by
  obtain ⟨bs, hbs, h⟩ := Option.bind_eq_some_iff.mp h
  split_ifs at h with hselector
  obtain ⟨vs, hvs, hdenotes⟩ := hE.decode_sound _ _ _ h
  exact ⟨bs, vs, hbs, by rw [Abi.decodeCall, if_pos hselector, hvs], hdenotes⟩

/-! ## A sample instance -/

/-- An address whose digits are all decimal is its own checksum form. -/
def plainAddress? (s : String) : Option AddressText :=
  if h : isHexTextOf 20 s = true then
    if s.toList.all fun c => c.toLower == c && (c == 'x' || c.toUpper == c) then some ⟨s, h⟩
    else none
  else none

/-- The hashes of three signatures. -/
def knownId (s : String) : {b : Bytes // b.length = 32} :=
  if s = "execute(address,uint256,bytes)" then
    ⟨bigEndian 32 0xb61d27f68746b0955d4867ce6e77d35c62208909547ca5c62d2a533c00d5b837, by
      simp [bigEndian]⟩
  else if s = "createAccount(address,uint256)" then
    ⟨bigEndian 32 0x5fbfb9cff42046a79b815561a10e3dc09a84bcce3e35a775474508681f9af552, by
      simp [bigEndian]⟩
  else if s = "set(uint256)" then
    ⟨bigEndian 32 0x60fe47b16ed402aae66ca03d2bfc51478ee897c26a1158669c7058d5f24898f4, by
      simp [bigEndian]⟩
  else ⟨bigEndian 32 0, by simp [bigEndian]⟩

/-- The JavaScript form of an ABI value with a plain address. -/
def plainDecoded? : AbiValue → Option Decoded
  | .address n =>
    (plainAddress? (hexlify (bigEndian 20 n))).bind fun a =>
      if bytesValue (addressBytes a) = n then some (.address a) else none
  | .uint n => some (.bigint n)
  | .bytes b => some (.hex (hexlify b))

/-- `ethers` on addresses without letters and on three signatures. -/
def sampleEthers : Ethers where
  getAddress := plainAddress?
  id := knownId
  decode types data := (Abi.decode types data).bind fun vs => vs.mapM plainDecoded?

theorem plainAddress?_eq_some {s : String} {a : AddressText} (h : plainAddress? s = some a) :
    a.val = s ∧ lower s = s := by
  unfold plainAddress? at h
  split_ifs at h with hhex hplain
  cases h
  refine ⟨rfl, ?_⟩
  apply String.toList_injective
  rw [toList_lower]
  conv_rhs => rw [← List.map_id s.toList]
  apply List.map_congr_left
  intro c hc
  have := List.all_eq_true.mp hplain c hc
  simp only [Bool.and_eq_true, beq_iff_eq] at this
  exact this.1

theorem plainDecoded?_denotes {v : AbiValue} {r : Decoded} (h : plainDecoded? v = some r) :
    r.Denotes sampleEthers v := by
  cases v with
  | address n =>
    obtain ⟨a, ha, hr⟩ := Option.bind_eq_some_iff.mp h
    split_ifs at hr with hn
    cases hr
    refine ⟨?_, hn⟩
    show plainAddress? a.val = some a
    rw [(plainAddress?_eq_some ha).1, ha]
  | uint n => cases h; rfl
  | bytes b => cases h; rfl

theorem sampleEthers_documented : sampleEthers.Documented where
  getAddress_lower s a _ h := by rw [(plainAddress?_eq_some h).1]
  getAddress_unique s t a b hs ht hlower := by
    obtain ⟨hs, hs'⟩ := plainAddress?_eq_some hs
    obtain ⟨ht, ht'⟩ := plainAddress?_eq_some ht
    apply Subtype.ext
    rw [hs, ht, hs', ht'] at hlower
    rw [hs, ht, hlower]
  getAddress_idem s a h := by
    obtain ⟨hs, -⟩ := plainAddress?_eq_some h
    rw [hs]
    exact h
  decode_sound types data rs h := by
    obtain ⟨vs, hvs, hmap⟩ := Option.bind_eq_some_iff.mp h
    refine ⟨vs, hvs, ?_⟩
    clear hvs h
    induction vs generalizing rs with
    | nil => cases hmap; exact .nil
    | cons v vs ih =>
      rw [List.mapM_cons] at hmap
      obtain ⟨r, hr, hrest⟩ := Option.bind_eq_some_iff.mp hmap
      obtain ⟨rs', hrs', heq⟩ := Option.bind_eq_some_iff.mp hrest
      cases heq
      exact .cons (plainDecoded?_denotes hr) (ih rs' hrs')

end AccountAbstraction
