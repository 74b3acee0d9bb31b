import AccountAbstraction.Abi.Signature
import AccountAbstraction.Proxy.FailsClosed

/-!
# The allow-list of inner calls

`ALLOWED_INNER_CALLS` (`examples/privy-google-aa/server/api.mjs:82-113`) is a list of function
signatures. `list` cuts it at commas, which also stand between the arguments of a signature.

* `allowedInnerCalls_iff`: the policy allows the functions that are listed as long as none of
  them has a comma in its signature.
-/

namespace AccountAbstraction.Proxy

open Js Abi

/-! ## The configuration -/

/-- `list(value)` (lines 108-113). -/
def list (value : String) : List String :=
  (((value.toList.splitOn ',').map trim).filter (· ≠ [])).map String.ofList

/-- `a || b` on texts. -/
def textOr (a b : String) : String := if a ≠ "" then a else b

/-- The environment variables of the write policy (lines 73-82), each the empty text where it
    is not set, or the default. -/
structure PolicySettings where
  entryPointAddress : String := ""
  viteEntryPointAddress : String := ""
  factoryAddress : String := ""
  viteFactoryAddress : String := ""
  allowedCallTargets : String := ""
  viteStorageAddress : String := ""
  allowedInnerCalls : String := "set(uint256)"

/-- The arguments of `createUserOpPolicy` (lines 93-96, 156-167). -/
def PolicySettings.config (settings : PolicySettings) : PolicyConfig where
  entryPoint := textOr settings.entryPointAddress settings.viteEntryPointAddress
  factory := some (textOr settings.factoryAddress settings.viteFactoryAddress)
  allowedTargets := list (textOr settings.allowedCallTargets settings.viteStorageAddress)
  allowedInnerSignatures := list settings.allowedInnerCalls

/-! ## What the setting should do -/

/-- A signature with the white space around it in the setting. -/
structure Listed where
  before : List Char
  signature : Signature
  after : List Char
  spaces : ∀ c ∈ before ++ after, isSpace c = true

def Listed.text (entry : Listed) : List Char := entry.before ++ entry.signature.text ++ entry.after

/-- The signatures joined by commas. -/
def settingOf (entries : List Listed) : String :=
  String.ofList ([','].intercalate (entries.map Listed.text))

/-- The selector of a function. -/
def selectorOf (E : Ethers) (sig : Signature) : Bytes := E.selector (String.ofList sig.text)

/-- Calldata of an `execute` without value on an allowed target, within the length cap. -/
structure CallsAllowed (E : Ethers) (policy : UserOpPolicy) (data : HexString) (inner : Bytes) : Prop where
  withinCap : WithinCap policy data.val
  decoded : ∃ dest target, E.decodeFunctionData executeSig [.address, .uint256, .bytes] data.val =
      some [.address dest, .bigint 0, .hex (hexlify inner)] ∧
    E.getAddress dest.val = some target ∧ (policy.anyTarget = true ∨ target ∈ policy.targets)

/-- The allowed selectors are those of the functions, and an inner call is accepted when its
    selector is one of them. -/
structure AllowsExactly (E : Ethers) (policy : UserOpPolicy) (functions : List Signature) : Prop where
  enforced : policy.anySelector = false
  selectors : ∀ selector, policy.innerSelectors.has selector = true ↔
    ∃ f ∈ functions, selector = hexlify (selectorOf E f)
  calls : ∀ data inner, CallsAllowed E policy data inner →
    ((∃ r, policy.checkCallData E (some (.str data.val)) = .ok r) ↔
      ∃ f ∈ functions, inner.take 4 = selectorOf E f)

/-- No piece of the setting has the selector of a listed function by chance. -/
def NoCollision (E : Ethers) (entries : List Listed) : Prop :=
  ∀ piece ∈ list (settingOf entries), ∀ entry ∈ entries,
    E.selector piece = selectorOf E entry.signature → piece = String.ofList entry.signature.text

/-! ## The pieces of the setting -/

/-- Joined parts are cut into the pieces of each. -/
theorem splitOn_joined {parts : List (List Char)} (hne : parts ≠ []) :
    ([','].intercalate parts).splitOn ',' = parts.flatMap (·.splitOn ',') := by
  induction parts with
  | nil => exact absurd rfl hne
  | cons part parts ih =>
    cases parts with
    | nil => simp
    | cons next parts =>
      rw [List.intercalate_cons_cons, List.append_assoc, List.singleton_append,
        List.splitOn_append_cons_self, ih (List.cons_ne_nil _ _), ← List.flatMap_cons]

theorem mem_list_settingOf {entries : List Listed} (hne : entries ≠ []) {piece : String} :
    piece ∈ list (settingOf entries) ↔
      ∃ entry ∈ entries, ∃ part ∈ entry.text.splitOn ',', trim part ≠ [] ∧ String.ofList (trim part) = piece := by
  have hmap : entries.map Listed.text ≠ [] := by simpa using hne
  rw [list, settingOf, String.toList_ofList, splitOn_joined hmap]
  simp only [List.mem_map, List.mem_filter, List.mem_flatMap, decide_eq_true_eq]
  constructor
  · rintro ⟨_, ⟨⟨part, ⟨_, ⟨entry, hentry, rfl⟩, hpart⟩, rfl⟩, hnil⟩, rfl⟩
    exact ⟨entry, hentry, part, hpart, hnil, rfl⟩
  · rintro ⟨entry, hentry, part, hpart, hnil, rfl⟩
    exact ⟨_, ⟨⟨part, ⟨_, ⟨entry, hentry, rfl⟩, hpart⟩, rfl⟩, hnil⟩, rfl⟩

theorem opening_mem_text (sig : Signature) : '(' ∈ sig.text := by simp [Signature.text]

/-- A signature without a comma is read as it is written. -/
theorem trim_splitOn_of_single {entry : Listed} (h : entry.signature.single = true) :
    (entry.text.splitOn ',').map trim = [entry.signature.text] := by
  have hcomma : ',' ∉ entry.signature.text := by simp [Signature.comma_iff, h]
  have hspace : ∀ c ∈ entry.before ++ entry.after, c ≠ ',' := by
    rintro c hc rfl
    cases entry.spaces _ hc
  have hnot : ',' ∉ entry.text := by
    simp only [Listed.text, List.mem_append, not_or]
    exact ⟨⟨fun hc => hspace _ (List.mem_append_left _ hc) rfl, hcomma⟩,
      fun hc => hspace _ (List.mem_append_right _ hc) rfl⟩
  rw [List.splitOn_eq_singleton hnot, List.map_singleton, Listed.text, List.append_assoc,
    trim_of_spaces fun c hc => entry.spaces c (List.mem_append_left _ hc),
    trim_append_spaces (fun c hc => entry.signature.noSpace hc)
      fun c hc => entry.spaces c (List.mem_append_right _ hc)]

/-- A signature with a comma leaves a piece that opens a parenthesis and does not close it. -/
theorem exists_open_piece {entry : Listed} (h : entry.signature.single = false) :
    ∃ part ∈ entry.text.splitOn ',', 0 < depth '(' ')' (trim part) := by
  obtain ⟨start, rest, htext, hstart⟩ := List.eq_append_cons_of_mem ((Signature.comma_iff _).mpr h)
  have hdepth := entry.signature.enclosed.2 start rest htext
  have hnoSpace : ∀ c ∈ start, isSpace c = false := by
    intro c hc
    exact entry.signature.noSpace (htext ▸ List.mem_append_left _ hc)
  refine ⟨entry.before ++ start, ?_, ?_⟩
  · have hnot : ',' ∉ entry.before ++ start := by
      rw [List.mem_append]
      rintro (hc | hc)
      · cases entry.spaces _ (List.mem_append_left _ hc)
      · exact hstart hc
    rw [Listed.text, htext, ← List.append_assoc, List.append_assoc, List.cons_append,
      List.splitOn_append_cons_self_of_not_mem hnot]
    exact List.mem_cons_self
  · rw [trim_of_spaces fun c hc => entry.spaces c (List.mem_append_left _ hc), trim_of_no_space hnoSpace]
    omega

/-! ## The selectors of a policy -/

variable {E : Ethers} {policy : UserOpPolicy}

/-- A call of `execute` is accepted when its inner call is empty or has a selector, and the
    policy has that. -/
theorem checkCallData_accepts_iff {data : HexString} {inner : Bytes} (h : CallsAllowed E policy data inner) :
    (∃ r, policy.checkCallData E (some (.str data.val)) = .ok r) ↔
      (inner = [] ∨ 4 ≤ inner.length) ∧
        (policy.anySelector = true ∨ policy.innerSelectors.has (hexlify (inner.take 4)) = true) := by
  obtain ⟨dest, target, hdecode, htarget, hallowed⟩ := h.decoded
  obtain ⟨bs, hbs, hrest⟩ := Option.bind_eq_some_iff.mp hdecode
  have hselector : bs.take 4 = E.selector executeSig := by
    by_contra hne
    rw [if_neg hne] at hrest
    cases hrest
  obtain ⟨selector, hslice, hlower⟩ := slice_selector hbs hselector
  have hpass : ¬(!policy.anyTarget && !policy.targets.contains target) = true := by
    rcases hallowed with h | h <;> simp [h]
  have hhas : ∀ selector, (policy.anySelector = true ∨ policy.innerSelectors.has selector = true) ↔
      ¬(!policy.anySelector && !policy.innerSelectors.has selector) = true := by
    intro selector
    cases policy.anySelector <;> simp
  rw [UserOpPolicy.checkCallData, isHexString_str, hhas]
  simp only [bind_eq_ok, unless_refused]
  constructor
  · rintro ⟨_, -, -, _, -, -, ⟨dest', value, text⟩, hexecute, -, _, -, -, selector, hinner, hallowed, -⟩
    rw [decodeExecute_eq_ok, hdecode] at hexecute
    cases hexecute
    obtain ⟨hlength, rfl⟩ := innerSelector_hexlify.mp hinner
    exact ⟨hlength, hallowed⟩
  · rintro ⟨hlength, hallowed⟩
    exact ⟨_, (), checkLength_eq_ok.mpr h.withinCap, _, hslice, not_not.mpr hlower, _,
      decodeExecute_eq_ok.mpr hdecode, not_not.mpr rfl, target, checksum_eq_ok.mpr htarget, hpass, _,
      innerSelector_hexlify.mpr ⟨hlength, rfl⟩, hallowed, rfl⟩

/-! ## The setting is read as written -/

/-- A policy that enforces the selectors of some functions accepts the calls of these. -/
theorem allowsExactly_of_selectors {functions : List Signature} (hany : policy.anySelector = false)
    (h : ∀ selector, policy.innerSelectors.has selector = true ↔
      ∃ f ∈ functions, selector = hexlify (selectorOf E f)) :
    AllowsExactly E policy functions where
  enforced := hany
  selectors := h
  calls data inner hcalls := by
    rw [checkCallData_accepts_iff hcalls, h, hany]
    simp only [Bool.false_eq_true, false_or, hexlify_injective.eq_iff, and_iff_right_iff_imp]
    rintro ⟨f, -, hf⟩
    exact Or.inr (E.four_le_of_take hf)

theorem ofList_text_ne_star (f : Signature) : String.ofList f.text ≠ "*" := by
  intro h
  have hmem := opening_mem_text f
  rw [← String.toList_ofList (l := f.text), h] at hmem
  cases hmem with
  | tail _ hmem => cases hmem

theorem mem_list_of_single {entries : List Listed} (hne : entries ≠ [])
    (hsingle : ∀ entry ∈ entries, entry.signature.single = true) {piece : String} :
    piece ∈ list (settingOf entries) ↔ ∃ entry ∈ entries, String.ofList entry.signature.text = piece := by
  rw [mem_list_settingOf hne]
  refine exists_congr fun entry => and_congr_right fun hentry => ?_
  have hpieces := trim_splitOn_of_single (hsingle entry hentry)
  have hmem : ∀ text, (∃ part ∈ entry.text.splitOn ',', trim part = text) ↔ text = entry.signature.text := by
    intro text
    rw [← List.mem_map, hpieces, List.mem_singleton]
  constructor
  · rintro ⟨part, hpart, -, rfl⟩
    rw [(hmem _).mp ⟨part, hpart, rfl⟩]
  · rintro rfl
    obtain ⟨part, hpart, htrim⟩ := (hmem _).mpr rfl
    refine ⟨part, hpart, ?_, by rw [htrim]⟩
    rw [htrim]
    exact List.ne_nil_of_mem (opening_mem_text _)

section Setting

variable {settings : PolicySettings} {entries : List Listed} (hne : entries ≠ [])
  (hsetting : settings.allowedInnerCalls = settingOf entries)
  (hpolicy : createUserOpPolicy E settings.config = .ok policy)

include hsetting hpolicy

theorem has_of_setting {selector : String} :
    policy.innerSelectors.has selector = true ↔
      ∃ piece ∈ list (settingOf entries), piece ≠ "*" ∧ selector = hexlify (E.selector piece) := by
  rw [has_innerSelectors hpolicy, PolicySettings.config, hsetting]

include hne

/-- Signatures without commas are allowed as they are listed. -/
theorem allowsExactly_of_single (hsingle : ∀ entry ∈ entries, entry.signature.single = true) :
    AllowsExactly E policy (entries.map Listed.signature) := by
  have hmem : ∀ piece, piece ∈ list (settingOf entries) ↔
      ∃ entry ∈ entries, String.ofList entry.signature.text = piece :=
    fun _ => mem_list_of_single hne hsingle
  refine allowsExactly_of_selectors ?_ fun selector => ?_
  · rw [anySelector_eq hpolicy, PolicySettings.config, hsetting, ← Bool.not_eq_true, List.contains_iff_mem,
      hmem]
    rintro ⟨entry, -, hstar⟩
    exact ofList_text_ne_star _ hstar
  · rw [has_of_setting hsetting hpolicy]
    simp only [hmem, List.mem_map, exists_exists_and_eq_and]
    exact exists_congr fun entry => and_congr_right fun _ => and_iff_right (ofList_text_ne_star _)

/-- A signature with a comma leaves a piece that is no signature, and whose selector is allowed. -/
theorem single_of_allowsExactly (hcollision : NoCollision E entries)
    (hallows : AllowsExactly E policy (entries.map Listed.signature)) {entry : Listed}
    (hentry : entry ∈ entries) : entry.signature.single = true := by
  by_contra hcomma
  obtain ⟨part, hpart, hopen⟩ := exists_open_piece (Bool.not_eq_true _ ▸ hcomma)
  have hnil : trim part ≠ [] := by
    intro hnil
    rw [hnil] at hopen
    exact lt_irrefl _ hopen
  have hpiece : String.ofList (trim part) ∈ list (settingOf entries) :=
    (mem_list_settingOf hne).mpr ⟨entry, hentry, part, hpart, hnil, rfl⟩
  have hstar : String.ofList (trim part) ≠ "*" := by
    intro hstar
    have htext : trim part = ['*'] := by rw [← String.toList_ofList (l := trim part), hstar]; rfl
    rw [htext] at hopen
    exact absurd hopen (by decide)
  have hhas := (has_of_setting hsetting hpolicy).mpr ⟨_, hpiece, hstar, rfl⟩
  obtain ⟨f, hf, hselector⟩ := (hallows.selectors _).mp hhas
  obtain ⟨other, hother, rfl⟩ := List.mem_map.mp hf
  -- the piece would be a listed signature, which closes its parentheses
  have heq := hcollision _ hpiece other hother (hexlify_injective hselector)
  rw [String.ofList_injective heq, other.signature.enclosed.1] at hopen
  exact lt_irrefl _ hopen

end Setting

/-- Without commas in the signatures, the allowed inner calls are the listed functions. With one,
    they are not, unless a piece of the setting has the selector of a listed function by chance. -/
theorem allowedInnerCalls_iff {settings : PolicySettings} {entries : List Listed} (hne : entries ≠ [])
    (hsetting : settings.allowedInnerCalls = settingOf entries)
    (hpolicy : createUserOpPolicy E settings.config = .ok policy) :
    ((∀ entry ∈ entries, entry.signature.single = true) →
      AllowsExactly E policy (entries.map Listed.signature)) ∧
    (NoCollision E entries → (AllowsExactly E policy (entries.map Listed.signature) ↔
      ∀ entry ∈ entries, entry.signature.single = true)) := by
  have hread := allowsExactly_of_single hne hsetting hpolicy
  refine ⟨hread, fun hcollision => ⟨fun hallows entry hentry => ?_, hread⟩⟩
  exact single_of_allowsExactly hne hsetting hpolicy hcollision hallows hentry

/-! ## Samples -/

/-- The settings of a proxy that allows any target. -/
def sampleSettings (allowedInnerCalls : String) : PolicySettings where
  entryPointAddress := sampleAddress.val
  allowedInnerCalls := allowedInnerCalls

theorem exists_samplePolicy (h : E.getAddress sampleAddress.val = some sampleAddress) (setting : String) :
    ∃ policy, createUserOpPolicy E (sampleSettings setting).config = .ok policy := by
  simp only [createUserOpPolicy, bind_eq_ok, normalize_eq_ok]
  exact ⟨_, sampleAddress, h, none, rfl, [], rfl, rfl⟩

def word256 : Word := ⟨['u', 'i', 'n', 't', '2', '5', '6'], by decide⟩

/-- `set(uint256)`. -/
def setSignature : Signature := ⟨⟨['s', 'e', 't'], by decide⟩, [.elementary word256]⟩

theorem spaces_set : ∀ c ∈ [' '] ++ [' '], isSpace c = true := List.all_eq_true.mp rfl

def setListed : Listed := ⟨[' '], setSignature, [' '], spaces_set⟩

/-- `reset()`. -/
def resetSignature : Signature := ⟨⟨['r', 'e', 's', 'e', 't'], by decide⟩, []⟩

/-- `transfer(address,uint256)`. -/
def transferSignature : Signature :=
  ⟨⟨['t', 'r', 'a', 'n', 's', 'f', 'e', 'r'], by decide⟩,
   [.elementary ⟨['a', 'd', 'd', 'r', 'e', 's', 's'], by decide⟩, .elementary word256]⟩

/-- The hashes of `transfer(address,uint256)` and its pieces. -/
def transferId (s : String) : {b : Bytes // b.length = 32} :=
  if s = "transfer(address,uint256)" then
    ⟨bigEndian 32 0xa9059cbb2ab09eb219583f4a59a5d0623ade346d962bcd4e46b11da047c9049b, length_bigEndian _ _⟩
  else if s = "transfer(address" then
    ⟨bigEndian 32 0x09a57a392e83e62f0670cfac2dd482b5463d1496c8b81eaab52ba4a133fcbb0c, length_bigEndian _ _⟩
  else if s = "uint256)" then
    ⟨bigEndian 32 0x00a5bb4cccf503af9db15227e795547f597eabc90a719f3200d3020fbe7d9f18, length_bigEndian _ _⟩
  else knownId s

def transferEthers : Ethers := { sampleEthers with id := transferId }

/-- Two functions without commas, with white space around the first signature, are allowed as they are
    listed; with a comma in the second one, they are not. -/
theorem allowedInnerCalls_sample :
    (∃ policy, createUserOpPolicy transferEthers (sampleSettings " set(uint256) ,reset()").config = .ok policy ∧
      AllowsExactly transferEthers policy [setSignature, resetSignature]) ∧
    ∃ policy, createUserOpPolicy transferEthers
        (sampleSettings " set(uint256) ,transfer(address,uint256)").config = .ok policy ∧
      ¬AllowsExactly transferEthers policy [setSignature, transferSignature] := by
  have haddress : transferEthers.getAddress sampleAddress.val = some sampleAddress := by decide +kernel
  constructor
  · obtain ⟨policy, hpolicy⟩ := exists_samplePolicy haddress " set(uint256) ,reset()"
    have hsingle : ∀ entry ∈ [setListed, ⟨[], resetSignature, [], by simp⟩], entry.signature.single = true := by
      decide +kernel
    exact ⟨policy, hpolicy, (allowedInnerCalls_iff (List.cons_ne_nil setListed _) (by decide +kernel) hpolicy).1
      hsingle⟩
  · obtain ⟨policy, hpolicy⟩ := exists_samplePolicy haddress " set(uint256) ,transfer(address,uint256)"
    let listed : List Listed := [setListed, ⟨[], transferSignature, [], by simp⟩]
    have hsetting : (sampleSettings " set(uint256) ,transfer(address,uint256)").allowedInnerCalls =
        settingOf listed := by decide +kernel
    have hcollision : NoCollision transferEthers listed := by
      unfold NoCollision
      decide +kernel
    refine ⟨policy, hpolicy, fun hallows => ?_⟩
    have hsingle := ((allowedInnerCalls_iff (List.cons_ne_nil _ _) hsetting hpolicy).2 hcollision).mp hallows
    exact absurd (hsingle _ (List.mem_cons_of_mem _ (List.mem_singleton_self _))) (by decide)

/-- The setting allows two selectors, and neither is that of the function. -/
theorem transfer_split : ∃ policy,
    createUserOpPolicy transferEthers (sampleSettings "transfer(address,uint256)").config = .ok policy ∧
      policy.innerSelectors.has "0xa9059cbb" = false ∧ policy.innerSelectors.has "0x09a57a39" = true ∧
      ¬AllowsExactly transferEthers policy [transferSignature] := by
  obtain ⟨policy, hpolicy⟩ :=
    exists_samplePolicy (E := transferEthers) (by decide +kernel) "transfer(address,uint256)"
  have hlist : (sampleSettings "transfer(address,uint256)").config.allowedInnerSignatures =
      ["transfer(address", "uint256)"] := by decide +kernel
  have hselectors : ∀ selector, policy.innerSelectors.has selector = true ↔
      ∃ sig ∈ ["transfer(address", "uint256)"], sig ≠ "*" ∧ selector = hexlify (transferEthers.selector sig) := by
    intro selector
    rw [← hlist]
    exact has_innerSelectors hpolicy
  have hselector : hexlify (selectorOf transferEthers transferSignature) = "0xa9059cbb" := by decide +kernel
  have hfirst : hexlify (transferEthers.selector "transfer(address") = "0x09a57a39" := by decide +kernel
  have hsecond : hexlify (transferEthers.selector "uint256)") = "0x00a5bb4c" := by decide +kernel
  have hhas : policy.innerSelectors.has "0xa9059cbb" = false := by
    rw [← Bool.not_eq_true, hselectors]
    simp [hfirst, hsecond]
  refine ⟨policy, hpolicy, hhas, ?_, fun h => ?_⟩
  · rw [hselectors]
    simp [hfirst]
  · have hallowed := (h.selectors _).mpr ⟨transferSignature, List.mem_singleton_self _, rfl⟩
    rw [hselector, hhas] at hallowed
    cases hallowed

end AccountAbstraction.Proxy
