import AccountAbstraction.Js.Text

/-!
# Decoding UTF-8 piece by piece

A decoder that is started anew for every piece of a text reads the text back exactly when no
piece starts inside a character. The characters of a text are as many as its bytes that start
one; a piece that starts inside a character costs one more.

* `split_utf8`: a cut between two characters cuts the text.
* `leads_le_length`: what is decoded has at least as many characters as bytes that start one.
* `flatMap_decode_iff`: the pieces that are decoded to the whole.
* `always_aligned_iff`: the texts that may be cut anywhere.
* `length_units_decodeFrom`: a text has at most as many code units as it has bytes.
-/

namespace AccountAbstraction.Js

/-! ## Where characters start -/

/-- A byte that stands behind the first one of a character. -/
def isContinuation (b : Byte) : Bool := 0x80 ≤ b.val && b.val < 0xC0

/-- The first byte is one in the middle of a character. -/
def startsInside (bs : Bytes) : Bool := bs.head?.any isContinuation

/-- The number of bytes that start a character. -/
def leads (bs : Bytes) : ℕ := bs.countP fun b => !isContinuation b

@[simp] theorem leads_append (bs bs' : Bytes) : leads (bs ++ bs') = leads bs + leads bs' :=
  List.countP_append

theorem leads_cons (b : Byte) (bs : Bytes) :
    leads (b :: bs) = leads bs + if isContinuation b then 0 else 1 := by
  rw [leads, List.countP_cons, ← leads]
  cases isContinuation b <;> rfl

theorem isContinuation_continuation (n : ℕ) : isContinuation (continuation n) = true := by
  simp only [isContinuation, val_continuation, Bool.and_eq_true, decide_eq_true_eq]
  omega

/-- A character has one byte that starts it and continuation bytes behind it. -/
theorem utf8Char_eq (c : Char) : ∃ first rest, utf8Char c = first :: rest ∧
    isContinuation first = false ∧ ∀ b ∈ rest, isContinuation b = true := by
  have hbounds := toNat_bounds c
  have hfirst : ∀ n, n < 256 → (n < 0x80 ∨ 0xC0 ≤ n) → isContinuation (Fin.ofNat 256 n) = false := by
    intro n hn hrange
    simp only [isContinuation, val_ofNat hn, Bool.and_eq_false_iff, decide_eq_false_iff_not]
    omega
  have hrest : ∀ ns : List ℕ, ∀ b ∈ ns.map continuation, isContinuation b = true := by
    intro ns b hb
    obtain ⟨n, -, rfl⟩ := List.mem_map.mp hb
    exact isContinuation_continuation n
  unfold utf8Char
  simp only
  split_ifs with h1 h2 h3
  · exact ⟨_, _, rfl, hfirst _ (by omega) (by omega), hrest []⟩
  · exact ⟨_, _, rfl, hfirst _ (by omega) (by omega), hrest [c.toNat]⟩
  · exact ⟨_, _, rfl, hfirst _ (by omega) (by omega), hrest [c.toNat / 64, c.toNat]⟩
  · exact ⟨_, _, rfl, hfirst _ (by omega) (by omega), hrest [c.toNat / 4096, c.toNat / 64, c.toNat]⟩

theorem utf8Char_of_ascii {c : Char} (h : c.toNat < 0x80) : utf8Char c = [Fin.ofNat 256 c.toNat] := by
  simp [utf8Char, h]

/-- A character beyond ASCII has a continuation byte. -/
theorem utf8Char_of_not_ascii {c : Char} (h : 0x80 ≤ c.toNat) :
    ∃ first second rest, utf8Char c = first :: second :: rest ∧ isContinuation second = true := by
  unfold utf8Char
  simp only
  split_ifs with h1
  · omega
  · exact ⟨_, _, _, rfl, isContinuation_continuation _⟩
  · exact ⟨_, _, _, rfl, isContinuation_continuation _⟩
  · exact ⟨_, _, _, rfl, isContinuation_continuation _⟩

theorem leads_utf8Char (c : Char) : leads (utf8Char c) = 1 := by
  obtain ⟨first, rest, heq, hfirst, hrest⟩ := utf8Char_eq c
  have hzero : leads rest = 0 := by
    rw [leads, List.countP_eq_zero]
    intro b hb
    simp [hrest b hb]
  rw [heq, leads_cons, hzero, hfirst]
  rfl

/-- A text has as many characters as bytes that start one. -/
theorem leads_flatMap (cs : List Char) : leads (cs.flatMap utf8Char) = cs.length := by
  induction cs with
  | nil => rfl
  | cons c cs ih => rw [List.flatMap_cons, leads_append, ih, leads_utf8Char, List.length_cons, Nat.add_comm]

/-- A cut where the second part does not start inside a character cuts the text. -/
theorem split_utf8 {cs : List Char} {before after : Bytes} (h : cs.flatMap utf8Char = before ++ after)
    (hafter : startsInside after = false) :
    ∃ cs₁ cs₂, cs = cs₁ ++ cs₂ ∧ before = cs₁.flatMap utf8Char ∧ after = cs₂.flatMap utf8Char := by
  induction cs generalizing before with
  | nil =>
    obtain ⟨rfl, rfl⟩ := List.append_eq_nil_iff.mp h.symm
    exact ⟨[], [], rfl, rfl, rfl⟩
  | cons c cs ih =>
    obtain ⟨first, rest, heq, -, hrest⟩ := utf8Char_eq c
    cases before with
    | nil => exact ⟨[], c :: cs, rfl, rfl, h.symm⟩
    | cons b before =>
      rw [List.flatMap_cons, heq, List.cons_append, List.cons_append, List.cons.injEq] at h
      obtain ⟨rfl, h⟩ := h
      rcases List.append_eq_append_iff.mp h with ⟨more, hbefore, hmore⟩ | ⟨more, hmore, hafter'⟩
      · obtain ⟨cs₁, cs₂, rfl, rfl, rfl⟩ := ih hmore
        refine ⟨c :: cs₁, cs₂, rfl, ?_, rfl⟩
        rw [hbefore, List.flatMap_cons, heq, List.cons_append]
      · -- What remains of the character would be the start of the second part.
        cases more with
        | nil =>
          refine ⟨[c], cs, rfl, ?_, hafter'⟩
          rw [List.flatMap_cons, List.flatMap_nil, List.append_nil, heq, hmore, List.append_nil]
        | cons b more =>
          have hb : isContinuation b = true := hrest b (by rw [hmore]; simp)
          rw [hafter', List.cons_append, startsInside, List.head?_cons, Option.any_some, hb] at hafter
          cases hafter

/-! ## What a piece is decoded to -/

/-- The next byte of an unfinished character is a continuation byte. -/
def Unfinished.InRange (u : Unfinished) : Prop := 0x80 ≤ u.lower ∧ u.upper < 0xC0

/-- A byte where a character starts completes a character, starts one or is invalid; a
    continuation byte is invalid there. -/
theorem startWith_cases (b : Byte) :
    (∃ c, startWith b = ([c], none) ∧ (utf16Units c).length ≤ 1) ∨
      ∃ u, startWith b = ([], some u) ∧ u.InRange ∧ isContinuation b = false := by
  have hascii : ∀ n < 0x80, (utf16Units (Char.ofNat n)).length ≤ 1 := by decide
  simp only [startWith, firstByte, isContinuation]
  split_ifs with h1 h2 h3 h4 h5 h6 h7 h8 h9
  · exact Or.inl ⟨_, rfl, hascii _ h1⟩
  · exact Or.inl ⟨_, rfl, by decide⟩
  all_goals first
    | exact Or.inl ⟨_, rfl, by decide⟩
    | refine Or.inr ⟨_, rfl, ⟨by simp, by simp⟩, ?_⟩
      simp only [Bool.and_eq_false_iff, decide_eq_false_iff_not]
      omega

theorem nextByte_cases {u : Unfinished} (hu : u.InRange) (b : Byte) :
    (∃ c, nextByte u b = .char c ∧ isContinuation b = true) ∨
      (∃ u', nextByte u b = .wait u' ∧ u'.InRange ∧ isContinuation b = true) ∨
        nextByte u b = .invalid := by
  obtain ⟨hlower, hupper⟩ := hu
  unfold nextByte
  split_ifs with hrange
  · have hb : isContinuation b = true := by
      simp only [isContinuation, Bool.and_eq_true, decide_eq_true_eq]
      omega
    obtain ⟨more, lower, upper, bits⟩ := u
    cases more with
    | zero => exact Or.inl ⟨_, rfl, hb⟩
    | succ more => exact Or.inr (Or.inl ⟨_, rfl, ⟨by simp, by simp⟩, hb⟩)
  · exact Or.inr (Or.inr rfl)

/-- A byte that cannot continue a character is read again after a replacement character. -/
theorem decodeFrom_invalid {u : Unfinished} {b : Byte} (h : nextByte u b = .invalid) (bs : Bytes) :
    decodeFrom (some u) (b :: bs) = replacement :: decodeFrom none (b :: bs) := by
  simp [decodeFrom, feed, h]

/-- What is decoded has a character for an unfinished one and for every byte that starts one. A
    continuation byte at the start of it costs one more. -/
theorem leads_le_length (bs : Bytes) :
    (leads bs + if startsInside bs then 1 else 0) ≤ (decodeFrom none bs).length ∧
      ∀ u : Unfinished, u.InRange → 1 + leads bs ≤ (decodeFrom (some u) bs).length := by
  induction bs with
  | nil => exact ⟨Nat.zero_le _, fun _ _ => le_refl 1⟩
  | cons b bs ih =>
    obtain ⟨ihnone, ihsome⟩ := ih
    have hlead : (leads (b :: bs) + if startsInside (b :: bs) then 1 else 0) = leads bs + 1 := by
      rw [leads_cons, startsInside, List.head?_cons, Option.any_some]
      cases isContinuation b <;> simp
    have hnone : leads bs + 1 ≤ (decodeFrom none (b :: bs)).length := by
      rcases startWith_cases b with ⟨c, hstart, -⟩ | ⟨u, hstart, hu, -⟩
      · simp only [decodeFrom, feed, hstart, List.length_append, List.length_singleton]
        omega
      · have := ihsome u hu
        simp only [decodeFrom, feed, hstart, List.nil_append]
        omega
    refine ⟨by rw [hlead]; exact hnone, ?_⟩
    intro u hu
    rcases nextByte_cases hu b with ⟨c, hnext, hb⟩ | ⟨u', hnext, hu', hb⟩ | hnext
    · rw [leads_cons, hb]
      simp only [decodeFrom, feed, hnext, List.length_append, List.length_singleton, if_true]
      omega
    · have := ihsome u' hu'
      rw [leads_cons, hb]
      simp only [decodeFrom, feed, hnext, List.nil_append, if_true]
      omega
    · rw [decodeFrom_invalid hnext, List.length_cons, leads_cons]
      split_ifs <;> omega

/-- What is decoded has at most as many code units as there are bytes; an unfinished character
    may have one more. -/
theorem length_units_decodeFrom (bs : Bytes) :
    ((decodeFrom none bs).flatMap utf16Units).length ≤ bs.length ∧
      ∀ u : Unfinished, u.InRange → ((decodeFrom (some u) bs).flatMap utf16Units).length ≤ 1 + bs.length := by
  induction bs with
  | nil => exact ⟨le_refl 0, fun _ _ => le_refl 1⟩
  | cons b bs ih =>
    obtain ⟨ihnone, ihsome⟩ := ih
    have hnone : ((decodeFrom none (b :: bs)).flatMap utf16Units).length ≤ (b :: bs).length := by
      rcases startWith_cases b with ⟨c, hstart, hc⟩ | ⟨u, hstart, hu, -⟩
      · simp only [decodeFrom, feed, hstart, List.flatMap_append, List.length_append, List.flatMap_singleton,
          List.length_cons]
        omega
      · have := ihsome u hu
        simp only [decodeFrom, feed, hstart, List.nil_append, List.length_cons]
        omega
    refine ⟨hnone, ?_⟩
    intro u hu
    rcases nextByte_cases hu b with ⟨c, hnext, -⟩ | ⟨u', hnext, hu', -⟩ | hnext
    · have := length_utf16Units c
      simp only [decodeFrom, feed, hnext, List.flatMap_append, List.length_append, List.flatMap_singleton,
        List.length_cons]
      omega
    · have := ihsome u' hu'
      simp only [decodeFrom, feed, hnext, List.nil_append, List.length_cons]
      omega
    · rw [decodeFrom_invalid hnext, List.flatMap_cons, List.length_append,
        show (utf16Units replacement).length = 1 from rfl]
      omega

/-! ## Pieces of a text -/

/-- Pieces that do not start inside a character are decoded to the whole. -/
theorem flatMap_decode_of_aligned {cs : List Char} {pieces : List Bytes}
    (h : pieces.flatten = cs.flatMap utf8Char) (haligned : ∀ piece ∈ pieces, startsInside piece = false) :
    pieces.flatMap (decodeFrom none) = cs := by
  induction pieces generalizing cs with
  | nil =>
    rw [List.flatMap_nil]
    have := leads_flatMap cs
    rw [← h] at this
    exact (List.length_eq_zero_iff.mp this.symm).symm
  | cons piece pieces ih =>
    have hrest : startsInside pieces.flatten = false := by
      clear h ih
      induction pieces with
      | nil => rfl
      | cons next pieces ih =>
        cases next with
        | nil => exact ih fun piece hpiece => haligned piece (by simp at hpiece ⊢; tauto)
        | cons b bs => exact haligned (b :: bs) (by simp)
    obtain ⟨cs₁, cs₂, rfl, hpiece, hpieces⟩ := split_utf8 h.symm hrest
    rw [List.flatMap_cons, ih hpieces fun p hp => haligned p (List.mem_cons_of_mem _ hp), hpiece,
      decodeFrom_flatMap]

/-- Pieces are decoded to at least as many characters as they have bytes that start one, and to
    more where one starts inside a character. -/
theorem leads_flatten_le (pieces : List Bytes) :
    (leads pieces.flatten + if pieces.any startsInside then 1 else 0) ≤
      (pieces.flatMap (decodeFrom none)).length := by
  induction pieces with
  | nil => exact le_refl 0
  | cons piece pieces ih =>
    have hcost : ∀ a b : Bool, (if a || b then 1 else 0) ≤ (if a then 1 else 0) + if b then 1 else 0 := by
      decide
    have := hcost (startsInside piece) (pieces.any startsInside)
    have := (leads_le_length piece).1
    rw [List.flatten_cons, leads_append, List.flatMap_cons, List.length_append, List.any_cons]
    omega

/-- The pieces of a text are decoded to it exactly when none starts inside a character. -/
theorem flatMap_decode_iff {cs : List Char} {pieces : List Bytes} (h : pieces.flatten = cs.flatMap utf8Char) :
    pieces.flatMap (decodeFrom none) = cs ↔ ∀ piece ∈ pieces, startsInside piece = false := by
  constructor
  · intro hdecode
    have hle := leads_flatten_le pieces
    rw [hdecode, h, leads_flatMap] at hle
    have hany : pieces.any startsInside = false := by
      by_contra hany
      rw [Bool.not_eq_false] at hany
      rw [hany] at hle
      simp at hle
    simpa using hany
  · exact flatMap_decode_of_aligned h

/-- No cut of a text falls inside a character exactly when the text is ASCII. -/
theorem always_aligned_iff {cs : List Char} :
    (∀ pieces : List Bytes, pieces.flatten = cs.flatMap utf8Char →
      ∀ piece ∈ pieces, startsInside piece = false) ↔ ∀ c ∈ cs, c.toNat < 0x80 := by
  constructor
  · intro haligned c hc
    by_contra hascii
    obtain ⟨pre, post, rfl⟩ := List.mem_iff_append.mp hc
    obtain ⟨first, second, rest, heq, hsecond⟩ := utf8Char_of_not_ascii (not_lt.mp hascii)
    have hcut := haligned [pre.flatMap utf8Char ++ [first], second :: rest ++ post.flatMap utf8Char]
      (by simp [heq]) (second :: rest ++ post.flatMap utf8Char) (by simp)
    rw [List.cons_append, startsInside, List.head?_cons, Option.any_some, hsecond] at hcut
    cases hcut
  · intro hascii pieces h piece hpiece
    cases piece with
    | nil => rfl
    | cons b bs =>
      have hb : b ∈ cs.flatMap utf8Char := by
        rw [← h]
        exact List.mem_flatten.mpr ⟨_, hpiece, List.mem_cons_self⟩
      obtain ⟨c, hc, hbc⟩ := List.mem_flatMap.mp hb
      have hlt := hascii c hc
      rw [utf8Char_of_ascii hlt, List.mem_singleton] at hbc
      rw [startsInside, List.head?_cons, Option.any_some, hbc]
      simp only [isContinuation, val_ofNat (show c.toNat < 256 by omega), Bool.and_eq_false_iff,
        decide_eq_false_iff_not]
      omega

end AccountAbstraction.Js
