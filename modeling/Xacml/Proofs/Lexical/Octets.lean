import Mathlib.Tactic.IntervalCases
import Xacml.Binary.Base64
import Xacml.Binary.Hex
import Xacml.Proofs.Lexical.Text

/-!
# Reading octets back

Octets are written in hexadecimal or with the 64 symbols of the standard alphabet.  Both forms are
read back as the octets that they were written for:

* `Hex.decode_encode` for hexadecimal digits,
* `Base64.decode_encode` for the 64 symbols, whose last group is padded.
-/

namespace Xacml

/-- The octets of a text. -/
def octetsOfText (text : List Char) : List UInt8 :=
  text.flatMap String.utf8EncodeChar

@[simp] theorem octetsOfText_append (text more : List Char) :
    octetsOfText (text ++ more) = octetsOfText text ++ octetsOfText more :=
  List.flatMap_append

/-! ## Hexadecimal digits -/

namespace Hex

/-- The octet of the digit of a value below sixteen. -/
theorem digit_reads {value : UInt8} (h : value < 16) :
    ∃ octet, String.utf8EncodeChar (digit value) = [octet] ∧ digitValue? octet = some value ∧
      0x20 < (digit value).toNat ∧ (digit value).toNat < 0x7F := by
  have hvalue : value = UInt8.ofNat value.toNat := (UInt8.ofNat_toNat).symm
  have hlt : value.toNat < 16 := h
  rw [hvalue]
  generalize value.toNat = n at hlt
  interval_cases n <;> exact ⟨_, rfl, by decide, by decide, by decide⟩

theorem halves (octet : UInt8) :
    octet / 16 < 16 ∧ octet % 16 < 16 ∧ octet / 16 * 16 + octet % 16 = octet := by
  refine ⟨?_, ?_, ?_⟩
  · rw [UInt8.lt_iff_toNat_lt, UInt8.toNat_div]
    have := octet.toNat_lt
    show octet.toNat / 16 < 16
    omega
  · rw [UInt8.lt_iff_toNat_lt, UInt8.toNat_mod]
    show octet.toNat % 16 < 16
    omega
  · apply UInt8.toNat_inj.1
    have := octet.toNat_lt
    rw [UInt8.toNat_add, UInt8.toNat_mul, UInt8.toNat_div, UInt8.toNat_mod]
    show (octet.toNat / 16 * 16 % 256 + octet.toNat % 16) % 256 = octet.toNat
    omega

/-- Two digits are read as the octet that they were written for. -/
theorem decodeFrom_encode (position : Nat) (octets : List UInt8) :
    decodeFrom position (octetsOfText (encode octets)) = .ok octets := by
  induction octets generalizing position with
  | nil => rfl
  | cons octet rest ih =>
      rcases halves octet with ⟨hhigh, hlow, hvalue⟩
      rcases digit_reads hhigh with ⟨high, hh, hhv, -, -⟩
      rcases digit_reads hlow with ⟨low, hl, hlv, -, -⟩
      have hstep : octetsOfText (encode (octet :: rest)) =
          high :: low :: octetsOfText (encode rest) := by
        simp [encode, encodeOctet, octetsOfText, hh, hl]
      rw [hstep, decodeFrom, hhv, hlv]
      dsimp only
      rw [ih, hvalue]
      rfl

theorem length_octetsOfText_encode (octets : List UInt8) :
    (octetsOfText (encode octets)).length = 2 * octets.length := by
  induction octets with
  | nil => rfl
  | cons octet rest ih =>
      rcases halves octet with ⟨hhigh, hlow, -⟩
      rcases digit_reads hhigh with ⟨high, hh, -⟩
      rcases digit_reads hlow with ⟨low, hl, -⟩
      have hstep : octetsOfText (encode (octet :: rest)) =
          high :: low :: octetsOfText (encode rest) := by
        simp [encode, encodeOctet, octetsOfText, hh, hl]
      rw [hstep, List.length_cons, List.length_cons, ih, List.length_cons]
      omega

theorem decode_encode (octets : List UInt8) : decode (encode octets) = .ok octets := by
  have heven : ¬ (octetsOfText (encode octets)).length % 2 = 1 := by
    rw [length_octetsOfText_encode]
    omega
  exact (if_neg heven).trans (decodeFrom_encode 0 octets)

theorem isBlank_of_mem_encode {octets : List UInt8} :
    ∀ c ∈ encode octets, Text.isBlank c = false := by
  intro c hc
  rcases List.mem_flatMap.1 hc with ⟨octet, -, hc⟩
  rcases halves octet with ⟨hhigh, hlow, -⟩
  rcases List.mem_pair.1 hc with rfl | rfl
  · rcases digit_reads hhigh with ⟨_, -, -, low, high⟩
    exact Text.isBlank_of_visible low high
  · rcases digit_reads hlow with ⟨_, -, -, low, high⟩
    exact Text.isBlank_of_visible low high

end Hex

/-! ## The 64 symbols -/

namespace Base64

/-- Whether an octet is the symbol of six bits; the padding is none. -/
structure IsSymbol (octet : UInt8) (value : Nat) : Prop where
  value : symbolValue? octet = some value
  ne_pad : octet ≠ pad

theorem exists_isSymbol {value : Nat} (h : value < 64) :
    ∃ octet, String.utf8EncodeChar (symbol value) = [octet] ∧ IsSymbol octet value := by
  interval_cases value <;> exact ⟨_, rfl, by decide, by decide⟩

theorem isBlank_symbol {value : Nat} (h : value < 64) : Text.isBlank (symbol value) = false := by
  have hvisible : 0x20 < (symbol value).toNat ∧ (symbol value).toNat < 0x7F := by
    interval_cases value <;> decide
  exact Text.isBlank_of_visible hvisible.1 hvisible.2

/-- Bits above the eighth one are cut off. -/
theorem ofNat_eq {bits : Nat} {octet : UInt8} (h : bits % 256 = octet.toNat) :
    UInt8.ofNat bits = octet := by
  apply UInt8.toNat_inj.1
  rw [UInt8.toNat_ofNat']
  exact h

/-! ### Groups of three octets -/

/-- Three octets are four symbols, which stand for these octets. -/
theorem group_reads (a b c : UInt8) :
    ∃ o₁ o₂ o₃ o₄ v₁ v₂ v₃ v₄,
      (IsSymbol o₁ v₁ ∧ IsSymbol o₂ v₂ ∧ IsSymbol o₃ v₃ ∧ IsSymbol o₄ v₄) ∧
      (∀ rest, octetsOfText (encode (a :: b :: c :: rest)) =
        o₁ :: o₂ :: o₃ :: o₄ :: octetsOfText (encode rest)) ∧
      ∀ rest, octetsOf (v₁ :: v₂ :: v₃ :: v₄ :: rest) = a :: b :: c :: octetsOf rest := by
  have ha := a.toNat_lt
  have hb := b.toNat_lt
  have hc := c.toNat_lt
  let bits := (a.toNat * 256 + b.toNat) * 256 + c.toNat
  rcases exists_isSymbol (show bits / 262144 < 64 by omega) with ⟨o₁, h₁, s₁⟩
  rcases exists_isSymbol (show bits / 4096 % 64 < 64 by omega) with ⟨o₂, h₂, s₂⟩
  rcases exists_isSymbol (show bits / 64 % 64 < 64 by omega) with ⟨o₃, h₃, s₃⟩
  rcases exists_isSymbol (show bits % 64 < 64 by omega) with ⟨o₄, h₄, s₄⟩
  refine ⟨o₁, o₂, o₃, o₄, _, _, _, _, ⟨s₁, s₂, s₃, s₄⟩, fun rest => ?_, fun rest => ?_⟩
  · simp [encode, octetsOfText, h₁, h₂, h₃, h₄, bits]
  · -- The four groups of six bits make up the 24 bits again.
    have hbits : ((bits / 262144 * 64 + bits / 4096 % 64) * 64 + bits / 64 % 64) * 64 + bits % 64 =
        bits := by
      omega
    have hfirst : UInt8.ofNat (bits / 65536) = a := ofNat_eq (by omega)
    have hsecond : UInt8.ofNat (bits / 256) = b := ofNat_eq (by omega)
    have hthird : UInt8.ofNat bits = c := ofNat_eq (by omega)
    rw [octetsOf, hbits, hfirst, hsecond, hthird]

/-- Complete groups are read as the octets that they were written for. -/
theorem values_encode (offset : Nat) :
    ∀ octets : List UInt8, octets.length % 3 = 0 →
      (octetsOfText (encode octets)).length % 4 = 0 ∧
        ∃ symbols, values offset (octetsOfText (encode octets)) = .ok symbols ∧
          octetsOf symbols = octets
  | [], _ => ⟨rfl, [], rfl, rfl⟩
  | [_], h => by cases h
  | [_, _], h => by cases h
  | a :: b :: c :: rest, h => by
      have hrest : rest.length % 3 = 0 := by
        simp only [List.length_cons] at h
        omega
      rcases values_encode (offset + 1 + 1 + 1 + 1) rest hrest with
        ⟨hlength, symbols, hread, hoctets⟩
      rcases group_reads a b c with
        ⟨o₁, o₂, o₃, o₄, v₁, v₂, v₃, v₄, ⟨s₁, s₂, s₃, s₄⟩, htext, hgroup⟩
      rw [htext]
      refine ⟨?_, v₁ :: v₂ :: v₃ :: v₄ :: symbols, ?_, by rw [hgroup, hoctets]⟩
      · simp only [List.length_cons]
        omega
      · simp only [values, s₁.value, s₂.value, s₃.value, s₄.value, hread]
        rfl

/-- The octets before the last group are written on their own. -/
theorem exists_last_group :
    ∀ octets : List UInt8, octets ≠ [] →
      ∃ complete last, octets = complete ++ last ∧ complete.length % 3 = 0 ∧ last ≠ [] ∧
        last.length ≤ 3 ∧ encode octets = encode complete ++ encode last
  | [], h => absurd rfl h
  | [a], _ => ⟨[], [a], rfl, rfl, by simp, by simp, rfl⟩
  | [a, b], _ => ⟨[], [a, b], rfl, rfl, by simp, by simp, rfl⟩
  | [a, b, c], _ => ⟨[], [a, b, c], rfl, rfl, by simp, by simp, rfl⟩
  | a :: b :: c :: d :: rest, _ => by
      rcases exists_last_group (d :: rest) (by simp) with
        ⟨complete, last, heq, hlength, hne, hlast, hencode⟩
      refine ⟨a :: b :: c :: complete, last, by rw [heq]; rfl, ?_, hne, hlast, ?_⟩
      · simp only [List.length_cons]
        omega
      · simp only [encode, hencode, List.cons_append]

/-! ### The last group -/

/-- The last group is read as the octets that it was written for, padded or not. -/
theorem readTail_encode (start : Nat) {last : List UInt8} (hne : last ≠ [])
    (hlength : last.length ≤ 3) :
    (octetsOfText (encode last)).length = 4 ∧
      ∃ tail, readTail start {} 0 (octetsOfText (encode last)) = .ok tail ∧
        2 ≤ tail.values.length ∧ (tail.padding + tail.values.length) % 4 = 0 ∧
        tailOctets start tail = .ok last := by
  have hpad : String.utf8EncodeChar '=' = [pad] := rfl
  match last, hne, hlength with
  | [a], _, _ =>
      have ha := a.toNat_lt
      let bits := a.toNat * 16
      rcases exists_isSymbol (show bits / 64 < 64 by omega) with ⟨o₁, h₁, s₁⟩
      rcases exists_isSymbol (show bits % 64 < 64 by omega) with ⟨o₂, h₂, s₂⟩
      have htext : octetsOfText (encode [a]) = [o₁, o₂, pad, pad] := by
        simp [encode, octetsOfText, h₁, h₂, hpad, bits]
      have hbits : bits / 64 * 64 + bits % 64 = bits := by omega
      have hoctet : UInt8.ofNat (bits / 16) = a := by
        rw [Nat.mul_div_cancel _ (by decide), UInt8.ofNat_toNat]
      rw [htext]
      refine ⟨rfl, ⟨[bits / 64, bits % 64], o₂, 2, 2⟩, ?_, by simp, by simp, ?_⟩
      · simp [readTail, s₁.ne_pad, s₂.ne_pad, s₁.value, s₂.value]
      · simp only [tailOctets, hbits, hoctet]
        rw [if_pos (Nat.mul_mod_left _ _)]
  | [a, b], _, _ =>
      have ha := a.toNat_lt
      have hb := b.toNat_lt
      let bits := (a.toNat * 256 + b.toNat) * 4
      rcases exists_isSymbol (show bits / 4096 < 64 by omega) with ⟨o₁, h₁, s₁⟩
      rcases exists_isSymbol (show bits / 64 % 64 < 64 by omega) with ⟨o₂, h₂, s₂⟩
      rcases exists_isSymbol (show bits % 64 < 64 by omega) with ⟨o₃, h₃, s₃⟩
      have htext : octetsOfText (encode [a, b]) = [o₁, o₂, o₃, pad] := by
        simp [encode, octetsOfText, h₁, h₂, h₃, hpad, bits]
      have hbits : (bits / 4096 * 64 + bits / 64 % 64) * 64 + bits % 64 = bits := by omega
      have hfirst : UInt8.ofNat (bits / 1024) = a := ofNat_eq (by omega)
      have hsecond : UInt8.ofNat (bits / 4) = b := ofNat_eq (by omega)
      rw [htext]
      refine ⟨rfl, ⟨[bits / 4096, bits / 64 % 64, bits % 64], o₃, 3, 1⟩, ?_, by simp, by simp, ?_⟩
      · simp [readTail, s₁.ne_pad, s₂.ne_pad, s₃.ne_pad, s₁.value, s₂.value, s₃.value]
      · simp only [tailOctets, hbits, hfirst, hsecond]
        rw [if_pos (Nat.mul_mod_left _ _)]
  | [a, b, c], _, _ =>
      rcases group_reads a b c with
        ⟨o₁, o₂, o₃, o₄, v₁, v₂, v₃, v₄, ⟨s₁, s₂, s₃, s₄⟩, htext, hgroup⟩
      have htext : octetsOfText (encode [a, b, c]) = [o₁, o₂, o₃, o₄] := htext []
      rw [htext]
      refine ⟨rfl, ⟨[v₁, v₂, v₃, v₄], o₄, 0, 0⟩, ?_, by simp, by simp, ?_⟩
      · simp [readTail, s₁.ne_pad, s₂.ne_pad, s₃.ne_pad, s₄.ne_pad, s₁.value, s₂.value, s₃.value,
          s₄.value]
      · simp only [tailOctets, hgroup]
        rfl

/-! ### Whole texts -/

theorem decode_encode (octets : List UInt8) : decode (encode octets) = .ok octets := by
  by_cases hne : octets = []
  · subst hne
    rfl
  · rcases exists_last_group octets hne with ⟨complete, last, rfl, hthree, hlast, hle, hencode⟩
    rcases values_encode 0 complete hthree with ⟨hfour, symbols, hvalues, hcomplete⟩
    generalize hfront : octetsOfText (encode complete) = front at hfour hvalues
    rcases readTail_encode front.length hlast hle with ⟨hlength, tail, htail, htwo, hpadding, hrest⟩
    generalize hback : octetsOfText (encode last) = back at hlength htail
    have htext : octetsOfText (encode (complete ++ last)) = front ++ back := by
      rw [hencode, octetsOfText_append, hfront, hback]
    have hstray : strayLast? (front ++ back) = none := by
      rw [strayLast?, if_neg]
      rw [List.length_append]
      omega
    -- The last four symbols are kept apart, whether they are padded or not.
    have hstart : completeLength (front ++ back).length = front.length := by
      rw [List.length_append, completeLength]
      split <;> omega
    have hcount : ¬ (!(front ++ back).isEmpty && decide (tail.values.length < 2)) = true := by
      have hnot : decide (tail.values.length < 2) = false := decide_eq_false (by omega)
      rw [hnot, Bool.and_false]
      decide
    have hpadded : ¬ ((tail.padding + tail.values.length) % 4 != 0) = true := by
      simp [hpadding]
    show decodeOctets (octetsOfText (encode (complete ++ last))) = _
    rw [htext, decodeOctets, hstray]
    dsimp only
    rw [hstart, List.take_left, List.drop_left, hvalues]
    simp only [bind, Except.bind, htail, if_neg hcount, if_neg hpadded, hrest]
    rw [hcomplete]
    rfl

theorem isBlank_of_mem_encode :
    ∀ octets : List UInt8, ∀ c ∈ encode octets, Text.isBlank c = false
  | [], _, hc => nomatch hc
  | [a], c, hc => by
      have ha := a.toNat_lt
      simp only [encode, List.mem_cons, List.not_mem_nil, or_false] at hc
      rcases hc with rfl | rfl | rfl | rfl
      · exact isBlank_symbol (by omega)
      · exact isBlank_symbol (by omega)
      · decide
      · decide
  | [a, b], c, hc => by
      have ha := a.toNat_lt
      have hb := b.toNat_lt
      simp only [encode, List.mem_cons, List.not_mem_nil, or_false] at hc
      rcases hc with rfl | rfl | rfl | rfl
      · exact isBlank_symbol (by omega)
      · exact isBlank_symbol (by omega)
      · exact isBlank_symbol (by omega)
      · decide
  | a :: b :: c :: rest, d, hd => by
      have ha := a.toNat_lt
      have hb := b.toNat_lt
      have hc := c.toNat_lt
      simp only [encode, List.mem_cons] at hd
      rcases hd with rfl | rfl | rfl | rfl | hd
      · exact isBlank_symbol (by omega)
      · exact isBlank_symbol (by omega)
      · exact isBlank_symbol (by omega)
      · exact isBlank_symbol (by omega)
      · exact isBlank_of_mem_encode rest d hd

end Base64

end Xacml
